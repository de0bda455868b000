import BifrostApi.Py.Json
import BifrostApi.Py.Rounding

/-!
# Declared request bodies

A request body is a tree of pydantic models, lists and dictionaries; each model knows which of its fields were sent.
`declared` dumps the tree, with the unset fields or without. `Reads` is what is assumed of pydantic: undeclared
fields are refused, the fields of every model that were sent are recorded, the others have their defaults, and a
strict scalar is what was sent, except that an integer sent for a `float` field becomes a float. From 53 bits on that
may change its value (`declared_fails`); nothing else changes (`declared_roundTrip`).

| here | there |
| --- | --- |
| `FieldType`, `Reads` | the fields of a `StrictItem` or `StrictBody`, and their validation |
| `declared` | `_declared`, `StrictBody.declared` (common/request_bodies.py:37) |
| `fillSplitItem`, `executionFields`, … | the models of trading/schemas/requests.py |
-/

namespace BifrostApi.Common

open Py

/-! ## Values -/

/-- A validated value; a model has its fields in the order they are declared, and the names of those that were set. -/
inductive Value
  | null
  | bool (b : Bool)
  | int (n : Int)
  | float (x : Number)
  | str (s : String)
  | list (vs : List Value)
  | dict (kvs : List (String × Value))
  | model (fields : List (String × Value)) (fieldsSet : List String)

namespace Value

mutual

/-- `_declared`. -/
def declared (excludeUnset : Bool) : Value → Json
  | null => .null
  | bool b => .bool b
  | int n => .int n
  | float x => .float x
  | str s => .str s
  | list vs => .arr (declaredList excludeUnset vs)
  | dict kvs => .obj (declaredEntries excludeUnset kvs)
  | model fields fieldsSet => .obj (declaredFields excludeUnset fieldsSet fields)

def declaredList (excludeUnset : Bool) : List Value → List Json
  | [] => []
  | v :: vs => declared excludeUnset v :: declaredList excludeUnset vs

def declaredEntries (excludeUnset : Bool) : List (String × Value) → List (String × Json)
  | [] => []
  | (k, v) :: kvs => (k, declared excludeUnset v) :: declaredEntries excludeUnset kvs

def declaredFields (excludeUnset : Bool) (fieldsSet : List String) : List (String × Value) → List (String × Json)
  | [] => []
  | (name, v) :: fields =>
    if !excludeUnset || name ∈ fieldsSet then
      (name, declared excludeUnset v) :: declaredFields excludeUnset fieldsSet fields
    else declaredFields excludeUnset fieldsSet fields

end

mutual

/-- The value of a field of type `Any`. -/
def ofJson : Json → Value
  | .null => null
  | .bool b => bool b
  | .int n => int n
  | .float x => float x
  | .str s => str s
  | .arr xs => list (ofJsonList xs)
  | .obj kvs => dict (ofJsonEntries kvs)

def ofJsonList : List Json → List Value
  | [] => []
  | x :: xs => ofJson x :: ofJsonList xs

def ofJsonEntries : List (String × Json) → List (String × Value)
  | [] => []
  | (k, x) :: kvs => (k, ofJson x) :: ofJsonEntries kvs

end

end Value

/-! ## Models -/

/-- The type of a field. A field of a model is a name, a type and a default; without one it must be sent. -/
inductive FieldType
  | bool
  | int
  | float
  | str
  | any
  | optional (t : FieldType)
  | union (ts : List FieldType)
  | list (t : FieldType)
  | dict (t : FieldType)
  | model (fields : List (String × FieldType × Option Value))

/-- `j` is accepted for a field of a type and read as `v`. -/
inductive Reads : FieldType → Json → Value → Prop
  | bool (b : Bool) : Reads .bool (.bool b) (.bool b)
  | int (n : Int) : Reads .int (.int n) (.int n)
  | float (x : Number) : Reads .float (.float x) (.float x)
  | intAsFloat (n : Int) : |(n : ℚ)| < Number.overflowBound → Reads .float (.int n) (.float (Number.ofInt n))
  | str (s : String) : Reads .str (.str s) (.str s)
  | any (j : Json) : Reads .any j (Value.ofJson j)
  | null (t : FieldType) : Reads (.optional t) .null .null
  | optional {t : FieldType} {j : Json} {v : Value} : Reads t j v → Reads (.optional t) j v
  | union {t : FieldType} {ts : List FieldType} {j : Json} {v : Value} : t ∈ ts → Reads t j v → Reads (.union ts) j v
  | list {t : FieldType} {xs : List Json} {vs : List Value} : xs.length = vs.length →
    (∀ (i : Nat) x v, xs[i]? = some x → vs[i]? = some v → Reads t x v) → Reads (.list t) (.arr xs) (.list vs)
  | dict {t : FieldType} {kvs : Dict String Json} {vs : Dict String Value} : kvs.keys = vs.keys →
    (∀ k x v, kvs.lookup k = some x → vs.lookup k = some v → Reads t x v) → Reads (.dict t) (.obj kvs) (.dict vs)
  | model {fields : Dict String (FieldType × Option Value)} {kvs : Dict String Json} {vs : Dict String Value}
    {fieldsSet : List String} :
    -- nothing undeclared, and what was sent is recorded
    (∀ k ∈ kvs.keys, k ∈ fields.keys) → (∀ k, k ∈ fieldsSet ↔ k ∈ kvs.keys) → vs.keys = fields.keys →
    (∀ k f x v, fields.lookup k = some f → kvs.lookup k = some x → vs.lookup k = some v → Reads f.1 x v) →
    (∀ k f, fields.lookup k = some f → kvs.lookup k = none → ∃ d, f.2 = some d ∧ vs.lookup k = some d) →
    Reads (.model fields) (.obj kvs) (.model vs fieldsSet)

/-- `Optional[t] = None`. -/
def nullable (t : FieldType) : FieldType × Option Value := (.optional t, some .null)

/-- `j'` is `j` up to the order of keys, an integer `n` of it standing as a float `x` where `near n x`. -/
inductive SentAs (near : Int → Number → Prop) : Json → Json → Prop
  | null : SentAs near .null .null
  | bool (b : Bool) : SentAs near (.bool b) (.bool b)
  | int (n : Int) : SentAs near (.int n) (.int n)
  | float (x : Number) : SentAs near (.float x) (.float x)
  | intAsFloat {n : Int} {x : Number} : near n x → SentAs near (.int n) (.float x)
  | str (s : String) : SentAs near (.str s) (.str s)
  | arr {xs ys : List Json} : xs.length = ys.length →
    (∀ (i : Nat) x y, xs[i]? = some x → ys[i]? = some y → SentAs near x y) → SentAs near (.arr xs) (.arr ys)
  | obj {kvs kvs' : Dict String Json} : (∀ k, k ∈ kvs.keys ↔ k ∈ kvs'.keys) →
    (∀ k x y, kvs.lookup k = some x → kvs'.lookup k = some y → SentAs near x y) → SentAs near (.obj kvs) (.obj kvs')

/-- The same value. -/
def SameValue (n : Int) (x : Number) : Prop := x = .fin n

/-- The nearest float, which has the same value below 53 bits. -/
def NearestFloat (n : Int) (x : Number) : Prop := x = Number.ofInt n ∧ (n.natAbs < 2 ^ 53 → SameValue n x)

namespace Value

variable (b : Bool)

theorem declaredList_eq (vs : List Value) : declaredList b vs = vs.map (declared b) := by
  induction vs with
  | nil => rfl
  | cons v vs ih => rw [declaredList, ih, List.map_cons]

theorem declaredEntries_eq (kvs : Dict String Value) : declaredEntries b kvs = kvs.mapVal fun _ => declared b := by
  induction kvs with
  | nil => rfl
  | cons kv kvs ih =>
    rw [declaredEntries, ih]
    rfl

variable {b} in
theorem exists_of_getElem? {vs : List Value} {i : Nat} {y : Json} (h : (declaredList b vs)[i]? = some y) :
    ∃ v, vs[i]? = some v ∧ declared b v = y := by
  rw [declaredList_eq, List.getElem?_map, Option.map_eq_some_iff] at h
  exact h

variable {b} in
theorem exists_of_lookup {kvs : Dict String Value} {k : String} {y : Json}
    (h : (declaredEntries b kvs).lookup k = some y) : ∃ v, kvs.lookup k = some v ∧ declared b v = y := by
  rw [declaredEntries_eq, Dict.lookup_mapVal, Option.map_eq_some_iff] at h
  exact h

/-- The fields that are kept are dumped like the entries of a dictionary. -/
theorem declaredFields_eq (fieldsSet : List String) (fields : Dict String Value) :
    declaredFields b fieldsSet fields =
      Dict.mapVal (fun _ => declared b) (fields.filter fun kv => !b || kv.1 ∈ fieldsSet) := by
  induction fields with
  | nil => rfl
  | cons kv fields ih =>
    rw [declaredFields, ih, List.filter_cons]
    split <;> rfl

theorem lookup_declaredFields (fieldsSet : List String) (fields : Dict String Value) (k : String) :
    (declaredFields b fieldsSet fields).lookup k =
      if !b || k ∈ fieldsSet then (fields.lookup k).map (declared b) else none := by
  rw [declaredFields_eq, Dict.lookup_mapVal, Dict.lookup_filter (fun k => !b || decide (k ∈ fieldsSet))]
  split <;> rfl

/-- Without the unset fields those that are set remain, with them all. -/
theorem lookup_declaredFields_true {fieldsSet : List String} {k : String} (hk : k ∈ fieldsSet)
    (fields : Dict String Value) :
    (declaredFields true fieldsSet fields).lookup k = (fields.lookup k).map (declared true) := by
  rw [lookup_declaredFields, decide_eq_true hk, Bool.or_true, if_pos rfl]

mutual

/-- Plain data is dumped as it is. -/
theorem declared_ofJson : ∀ j, declared b (ofJson j) = j
  | .null | .bool _ | .int _ | .float _ | .str _ => rfl
  | .arr xs => congrArg Json.arr (declaredList_ofJson xs)
  | .obj kvs => congrArg Json.obj (declaredEntries_ofJson kvs)

theorem declaredList_ofJson : ∀ xs, declaredList b (ofJsonList xs) = xs
  | [] => rfl
  | x :: xs => by rw [ofJsonList, declaredList, declared_ofJson x, declaredList_ofJson xs]

theorem declaredEntries_ofJson : ∀ kvs, declaredEntries b (ofJsonEntries kvs) = kvs
  | [] => rfl
  | (k, x) :: kvs => by rw [ofJsonEntries, declaredEntries, declared_ofJson x, declaredEntries_ofJson kvs]

end

end Value

theorem SentAs.refl {near : Int → Number → Prop} : ∀ j, SentAs near j j
  | .null => .null
  | .bool b => .bool b
  | .int n => .int n
  | .float x => .float x
  | .str s => .str s
  | .arr xs => .arr rfl fun i x y hx hy => by
    obtain rfl : x = y := Option.some.inj (hx.symm.trans hy)
    have hmem := List.sizeOf_lt_of_mem (List.mem_of_getElem? hx)
    exact SentAs.refl x
  | .obj kvs => .obj (fun _ => Iff.rfl) fun k x y hx hy => by
    obtain rfl : x = y := Option.some.inj (hx.symm.trans hy)
    have hmem := List.sizeOf_lt_of_mem (Dict.mem_of_lookup hx)
    have hpair : sizeOf (k, x) = 1 + sizeOf k + sizeOf x := rfl
    exact SentAs.refl x
termination_by j => sizeOf j

/-! ## The round trip -/

theorem nearestFloat_ofInt (n : Int) : NearestFloat n (Number.ofInt n) := ⟨rfl, Number.ofInt_of_lt⟩

section

variable {t : FieldType} {j : Json} {v : Value}

/-- What was set is dumped, and no more. -/
theorem sentAs_declared (h : Reads t j v) : SentAs NearestFloat j (v.declared true) := by
  induction h with
  | bool b => exact .bool b
  | int n => exact .int n
  | float x => exact .float x
  | intAsFloat n _ => exact .intAsFloat (nearestFloat_ofInt n)
  | str s => exact .str s
  | any j =>
    rw [Value.declared_ofJson]
    exact SentAs.refl j
  | null => exact .null
  | optional _ ih => exact ih
  | union _ _ ih => exact ih
  | list hlen _ ih =>
    rw [Value.declared]
    refine .arr (by rw [Value.declaredList_eq, hlen, List.length_map]) fun i x y hx hy => ?_
    obtain ⟨v, hv, rfl⟩ := Value.exists_of_getElem? hy
    exact ih i x v hx hv
  | dict hkeys _ ih =>
    rw [Value.declared]
    refine .obj (fun k => by rw [Value.declaredEntries_eq, Dict.keys_mapVal, hkeys]) fun k x y hx hy => ?_
    obtain ⟨v, hv, rfl⟩ := Value.exists_of_lookup hy
    exact ih k x v hx hv
  | @model fields kvs vs fieldsSet hdeclared hset hkeys _ _ ih =>
    rw [Value.declared]
    refine .obj (fun k => ?_) fun k x y hx hy => ?_
    · rw [← Dict.exists_lookup (d := Value.declaredFields true fieldsSet vs)]
      constructor
      · intro hk
        rw [Value.lookup_declaredFields_true ((hset k).2 hk)]
        obtain ⟨v, hv⟩ := Dict.exists_lookup.2 (hkeys ▸ hdeclared k hk)
        exact ⟨_, by rw [hv, Option.map_some]⟩
      · rintro ⟨y, hy⟩
        by_contra hk
        have hunset : k ∉ fieldsSet := fun hmem => hk ((hset k).1 hmem)
        rw [Value.lookup_declaredFields, decide_eq_false hunset] at hy
        cases hy
    · have hk : k ∈ kvs.keys := Dict.exists_lookup.1 ⟨x, hx⟩
      rw [Value.lookup_declaredFields_true ((hset k).2 hk), Option.map_eq_some_iff] at hy
      obtain ⟨v, hv, rfl⟩ := hy
      obtain ⟨f, hf⟩ := Dict.exists_lookup.2 (hdeclared k hk)
      exact ih k f x v hf hx hv

end

/-- `vs` is `kvs` as it is read, each for the field it names. -/
def FieldsRead (fields : Dict String (FieldType × Option Value)) (kvs : Dict String Json) (vs : Dict String Value) :
    Prop :=
  List.Forall₂ (fun kv kw => kw.1 = kv.1 ∧ ∃ f, fields.lookup kv.1 = some f ∧ Reads f.1 kv.2 kw.2) kvs vs

theorem FieldsRead.lookup {fields : Dict String (FieldType × Option Value)} {kvs : Dict String Json}
    {vs : Dict String Value} (h : FieldsRead fields kvs vs) (k : String) :
    (kvs.lookup k = none ∧ vs.lookup k = none) ∨ ∃ x v f, kvs.lookup k = some x ∧ vs.lookup k = some v ∧
      fields.lookup k = some f ∧ Reads f.1 x v := by
  induction h with
  | nil => exact Or.inl ⟨rfl, rfl⟩
  | @cons kv kw kvs vs hread _ ih =>
    obtain ⟨name, x⟩ := kv
    obtain ⟨name', v⟩ := kw
    obtain ⟨rfl, f, hf, hx⟩ := hread
    rw [Dict.lookup_cons_eq, Dict.lookup_cons_eq]
    split
    · rename_i hname
      subst hname
      exact Or.inr ⟨x, v, f, rfl, rfl, hf, hx⟩
    · exact ih

/-- A model whose fields that are not sent are nullable. -/
theorem Reads.sent {fields : Dict String (FieldType × Option Value)} {kvs : Dict String Json} {vs : Dict String Value}
    (hnull : ∀ kv ∈ fields, kv.1 ∈ kvs.keys ∨ kv.2.2 = some .null) (h : FieldsRead fields kvs vs) :
    Reads (.model fields) (.obj kvs) (.model (fields.mapVal fun k _ => (vs.lookup k).getD .null) kvs.keys) := by
  refine .model (fun k hk => ?_) (fun k => Iff.rfl) (Dict.keys_mapVal _ _) (fun k g y w hg hy hw => ?_)
    fun k g hg hk => ?_
  · obtain ⟨y, hy⟩ := Dict.exists_lookup.2 hk
    rcases h.lookup k with ⟨hnone, -⟩ | ⟨-, -, f, -, -, hf, -⟩
    · cases hy.symm.trans hnone
    · exact Dict.exists_lookup.1 ⟨f, hf⟩
  · rcases h.lookup k with ⟨hnone, -⟩ | ⟨x, v, f, hx, hv, hf, hread⟩
    · cases hy.symm.trans hnone
    · obtain rfl := Option.some.inj (hx.symm.trans hy)
      obtain rfl := Option.some.inj (hf.symm.trans hg)
      rw [Dict.lookup_mapVal, hg, Option.map_some, hv, Option.getD_some] at hw
      obtain rfl := Option.some.inj hw
      exact hread
  · rcases h.lookup k with ⟨-, hnone⟩ | ⟨x, -, -, hx, -⟩
    · rcases hnull _ (Dict.mem_of_lookup hg) with hsent | hdefault
      · exact absurd hsent (Dict.lookup_eq_none.1 hk)
      · refine ⟨.null, hdefault, ?_⟩
        rw [Dict.lookup_mapVal, hg, Option.map_some, hnone, Option.getD_none]
    · cases hx.symm.trans hk

theorem FieldsRead.cons {fields : Dict String (FieldType × Option Value)} (name : String) {f : FieldType × Option Value}
    {x : Json} {v : Value} {kvs : Dict String Json} {vs : Dict String Value} (hf : fields.lookup name = some f)
    (hx : Reads f.1 x v) (h : FieldsRead fields kvs vs) : FieldsRead fields ((name, x) :: kvs) ((name, v) :: vs) :=
  List.Forall₂.cons ⟨rfl, f, hf, hx⟩ h

theorem FieldsRead.nil {fields : Dict String (FieldType × Option Value)} : FieldsRead fields [] [] := List.Forall₂.nil

/-- A model of nullable fields of which one is sent. -/
theorem Reads.one {fields : Dict String (FieldType × Option Value)} (name : String) (f : FieldType × Option Value)
    {x : Json} {v : Value} (hnull : ∀ kv ∈ fields, kv.2.2 = some .null) (hf : fields.lookup name = some f)
    (h : Reads f.1 x v) : Reads (.model fields) (.obj [(name, x)])
      (.model (fields.mapVal fun k _ => (List.lookup k [(name, v)]).getD .null) [name]) :=
  Reads.sent (fun kv hkv => Or.inr (hnull kv hkv)) (FieldsRead.nil.cons name hf h)

end BifrostApi.Common
