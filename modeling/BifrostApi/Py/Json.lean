import BifrostApi.Py.Dict
import BifrostApi.Py.Number

/-!
# JSON values

What `json.loads` returns: `None`, `bool`, `int`, `float`, `str`, `list` and `dict`. A `dict` is a
`Dict`; `Json.distinctKeys` says that the keys of every `dict` in a value are distinct, as they are in
everything `json.loads` returns (`Document` carries that fact).

| here | there |
| --- | --- |
| `truthy` | `bool(x)` |
| `getOr d k x` | `d.get(k) or x` |
| `items?` | the entries of a `dict`, `none` for the `AttributeError` of anything else |
| `iter?` | `list(x)`, `none` for the `TypeError` of a value that cannot be iterated |
| `toFloat`, `toInt` | `float(x)`, `int(x)` |
| `text` | `str(x)`; that of a `list` or a `dict` is the parameter `container` |
-/

namespace Py

inductive Json
  | null
  | bool (b : Bool)
  | int (n : Int)
  | float (x : Number)
  | str (s : String)
  | arr (xs : List Json)
  | obj (kvs : List (String × Json))
  deriving Repr

namespace Json

def truthy : Json → Bool
  | null => false
  | bool b => b
  | int n => n != 0
  | float x => x != .fin 0
  | str s => s != ""
  | arr xs => !xs.isEmpty
  | obj kvs => !kvs.isEmpty

def items? : Json → Option (Dict String Json)
  | obj kvs => some kvs
  | _ => none

theorem items?_eq_some {j : Json} {kvs : Dict String Json} : j.items? = some kvs ↔ j = obj kvs := by
  cases j <;> simp [items?]

def isDict : Json → Bool
  | obj _ => true
  | _ => false

/-- Iterating a `dict` yields its keys, iterating text its characters. -/
def iter? : Json → Option (List Json)
  | arr xs => some xs
  | obj kvs => some (kvs.map fun kv => str kv.1)
  | str s => some (s.toList.map fun c => str (String.ofList [c]))
  | _ => none

/-- The value at `k` of a `dict`; `none` when it has no such key or is no `dict`. -/
def get? (j : Json) (k : String) : Option Json := j.items?.bind (·.lookup k)

/-- `x or default`, `x` absent or `None` alike. -/
def orDefault (v : Option Json) (default : Json) : Json :=
  match v with
  | some v => if v.truthy then v else default
  | none => default

def getOr (d : Dict String Json) (k : String) (default : Json) : Json := orDefault (d.lookup k) default

/-- `d.get(k, default)`. -/
def getD (d : Dict String Json) (k : String) (default : Json) : Json := (d.lookup k).getD default

/-- `float(x)`. -/
def toFloat : Json → Except Exc Number
  | bool b => .ok (.fin (if b then 1 else 0))
  | int n =>
    if Number.overflowBound ≤ n ∨ (n : ℚ) ≤ -Number.overflowBound then .error .overflowError else .ok (.fin n)
  | float x => .ok x
  | str s => match Number.ofText s with
    | some x => .ok x
    | none => .error .valueError
  | null | arr _ | obj _ => .error .typeError

/-- `int(x)`: a `float` is truncated toward zero. -/
def toInt : Json → Except Exc Int
  | bool b => .ok (if b then 1 else 0)
  | int n => .ok n
  | float .nan => .error .valueError
  | float (.inf _) => .error .overflowError
  | float (.fin q) => .ok (if q < 0 then q.ceil else q.floor)
  | str s => match intOfText s with
    | some n => .ok n
    | none => .error .valueError
  | null | arr _ | obj _ => .error .typeError

/-- `str(x)`. -/
def text (container : Json → String) : Json → String
  | null => "None"
  | bool b => if b then "True" else "False"
  | int n => toString n
  | float x => x.repr
  | str s => s
  | j => container j

/-- `try: x except (TypeError, ValueError): None`; an `OverflowError` goes through. -/
def guarded {α : Type} (x : Except Exc α) : Except Exc (Option α) :=
  match x with
  | .ok a => .ok (some a)
  | .error .typeError | .error .valueError => .ok none
  | .error e => .error e

/-! ## Distinct keys -/

mutual
def distinctKeys : Json → Bool
  | arr xs => distinctKeysList xs
  | obj kvs => decide (Dict.Distinct kvs) && distinctKeysEntries kvs
  | _ => true
def distinctKeysList : List Json → Bool
  | [] => true
  | x :: xs => distinctKeys x && distinctKeysList xs
def distinctKeysEntries : List (String × Json) → Bool
  | [] => true
  | (_, v) :: kvs => distinctKeys v && distinctKeysEntries kvs
end

/-- A value whose dictionaries all have distinct keys, as the parser builds them. -/
structure Document where
  json : Json
  distinct : json.distinctKeys = true

theorem distinctKeysEntries_mem : ∀ {kvs : List (String × Json)} {k : String} {v : Json},
    distinctKeysEntries kvs = true → (k, v) ∈ kvs → v.distinctKeys = true
  | [], _, _, _, h => by simp at h
  | (_, v') :: kvs, k, v, hd, h => by
    simp only [distinctKeysEntries, Bool.and_eq_true] at hd
    rcases List.mem_cons.1 h with heq | hmem
    · cases heq; exact hd.1
    · exact distinctKeysEntries_mem hd.2 hmem

theorem distinct_of_obj {kvs : Dict String Json} (h : (obj kvs).distinctKeys = true) :
    Dict.Distinct kvs := by
  simp only [distinctKeys, Bool.and_eq_true, decide_eq_true_eq] at h
  exact h.1

theorem distinctKeys_of_lookup {kvs : Dict String Json} {k : String} {v : Json}
    (h : (obj kvs).distinctKeys = true) (hv : kvs.lookup k = some v) : v.distinctKeys = true := by
  simp only [distinctKeys, Bool.and_eq_true] at h
  exact distinctKeysEntries_mem h.2 (Dict.mem_of_lookup hv)

theorem distinctKeys_getOr {d : Dict String Json} {k : String} {default : Json}
    (h : (obj d).distinctKeys = true) (hdef : default.distinctKeys = true) :
    (getOr d k default).distinctKeys = true := by
  unfold getOr orDefault
  split
  · rename_i v hv
    split
    · exact distinctKeys_of_lookup h hv
    · exact hdef
  · exact hdef

/-! ## Rendering -/

/- `json.dumps(x, allow_nan=False)` raises on NaN and infinity only. -/
mutual
def allFinite : Json → Bool
  | float .nan | float (.inf _) => false
  | arr xs => allFiniteList xs
  | obj kvs => allFiniteEntries kvs
  | _ => true
def allFiniteList : List Json → Bool
  | [] => true
  | x :: xs => allFinite x && allFiniteList xs
def allFiniteEntries : List (String × Json) → Bool
  | [] => true
  | (_, v) :: kvs => allFinite v && allFiniteEntries kvs
end

end Json

end Py
