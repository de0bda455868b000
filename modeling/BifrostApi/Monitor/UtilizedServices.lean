import Mathlib.Data.List.Forall2
import Mathlib.Data.Prod.Lex
import Mathlib.Data.String.Basic
import BifrostApi.Lib.StableSort
import BifrostApi.Py.Json

/-!
# The services an environment uses (`monitor/app.py`)

`utilized.services` names the services and the environment each runs in: as a mapping, or as a list of one-key
mappings and `name:env` strings. `Spelled` says which pairs an element of such a list stands for; however a list
spells its pairs, it gives the rows of the mapping that holds them (`utilized_spelled`). The keys of a mapping are
texts here; of a value only `str(v)` is read.

| here | there |
| --- | --- |
| `orderUtilizedRows` | `_order_utilized_rows` (app.py:44) |
| `row?`, `dictRows`, `elementRows` | the loops of `_utilized_services_from_config` (:66-88) |
| `utilizedServicesFromConfig` | `_utilized_services_from_config` (:54) |
-/

namespace BifrostApi.Monitor.Utilized

open Py StableSort

/-- `_UTILIZED_SERVICE_ORDER` -/
def utilizedServiceOrder : List String :=
  ["server", "main", "api", "docs", "ops", "trading", "strategy", "portfolio", "market", "research"]

structure Row where
  service : String
  env : String
  deriving DecidableEq, Repr

/-- `rank.get(s, 1000)` -/
def rank (s : String) : Nat :=
  if s ∈ utilizedServiceOrder then utilizedServiceOrder.idxOf s else 1000

def sortKey (r : Row) : Nat ×ₗ String := toLex (rank (lower r.service), lower r.service)

def orderUtilizedRows (rows : List Row) : List Row := sortAsc sortKey rows

/-- `s.strip("\"'")` -/
def stripQuotes (s : String) : String :=
  String.ofList ((s.toList.dropWhile fun c => c = '"' || c = '\'').rdropWhile fun c => c = '"' || c = '\'')

/-- The row of a name and an environment, unless one of them is blank. -/
def row? (name env : String) : Option Row :=
  let ks := strip name
  let vs := stripQuotes (strip env)
  if ks ≠ "" ∧ vs ≠ "" then some ⟨ks, vs⟩ else none

/-- `s.partition(":")`, less the colon. -/
def partitionColon (s : String) : String × String :=
  (String.ofList (s.toList.takeWhile (· ≠ ':')), String.ofList ((s.toList.dropWhile (· ≠ ':')).drop 1))

section Config

variable (container : Json → String)

def dictRows (kvs : Dict String Json) : List Row := kvs.filterMap fun kv => row? kv.1 (kv.2.text container)

/-- The rows of an element of a list. -/
def elementRows : Json → List Row
  | .obj kvs => dictRows container kvs
  | .str x =>
    let part := strip x
    if ':' ∈ part.toList then (row? (partitionColon part).1 (partitionColon part).2).toList else []
  | _ => []

def serviceRows : Option Json → List Row
  | some (.obj kvs) => orderUtilizedRows (dictRows container kvs)
  | some (.arr xs) => orderUtilizedRows (xs.flatMap (elementRows container))
  | _ => []

/-- `config` is the merged YAML, empty where there is none. -/
def utilizedServicesFromConfig (config : Dict String Json) : Except Exc (List Row) :=
  match (Json.getOr config "utilized" (.obj [])).items? with
  | none => .error .attributeError
  | some raw => .ok (serviceRows container (raw.lookup "services"))

end Config

/-! ## Stripping a text with a colon -/

theorem dropWhile_append_colon (n e : List Char) :
    (n ++ ':' :: e).dropWhile isSpace = n.dropWhile isSpace ++ ':' :: e := by
  induction n with
  | nil => rfl
  | cons c n ih =>
    by_cases hc : isSpace c = true
    · rw [List.cons_append, List.dropWhile_cons_of_pos hc, List.dropWhile_cons_of_pos hc, ih]
    · rw [List.cons_append, List.dropWhile_cons_of_neg hc, List.dropWhile_cons_of_neg hc, List.cons_append]

theorem stripChars_colon (n e : List Char) :
    stripChars (n ++ ':' :: e) = n.dropWhile isSpace ++ ':' :: e.rdropWhile isSpace := by
  have hlast : ∀ c ∈ (n.dropWhile isSpace ++ [':']).getLast?, isSpace c = false := by
    intro c hc
    rw [List.getLast?_concat] at hc
    obtain rfl := Option.some.inj hc
    decide
  have happend : n.dropWhile isSpace ++ ':' :: e = n.dropWhile isSpace ++ [':'] ++ e := by
    rw [List.append_assoc, List.singleton_append]
  rw [stripChars, dropWhile_append_colon, happend, rdropWhile_append_of_last e hlast, List.append_assoc,
    List.singleton_append]

theorem stripChars_dropWhile (cs : List Char) : stripChars (cs.dropWhile isSpace) = stripChars cs := by
  rw [stripChars, List.dropWhile_idempotent, stripChars]

/-- The order of the two ends does not matter. -/
theorem stripChars_rdropWhile (cs : List Char) : stripChars (cs.rdropWhile isSpace) = stripChars cs := by
  have hsplit : cs.takeWhile isSpace ++ cs.dropWhile isSpace = cs := List.takeWhile_append_dropWhile
  cases hdrop : cs.dropWhile isSpace with
  | nil =>
    have hall : ∀ c ∈ cs, isSpace c = true := List.dropWhile_eq_nil_iff.1 hdrop
    have hnil : cs.rdropWhile isSpace = [] := List.rdropWhile_eq_nil_iff.2 hall
    rw [hnil, stripChars, stripChars, hdrop]
    rfl
  | cons c rest =>
    have hc : isSpace c = false := by
      have hnot := List.head?_dropWhile_not isSpace cs
      rw [hdrop] at hnot
      exact hnot
    have hfront : cs = cs.takeWhile isSpace ++ [c] ++ rest := by
      rw [List.append_assoc, List.singleton_append, ← hdrop, hsplit]
    have hlast : ∀ d ∈ (cs.takeWhile isSpace ++ [c]).getLast?, isSpace d = false := by
      intro d hd
      rw [List.getLast?_concat] at hd
      obtain rfl := Option.some.inj hd
      exact hc
    have hrdrop : cs.rdropWhile isSpace = cs.takeWhile isSpace ++ [c] ++ rest.rdropWhile isSpace := by
      conv_lhs => rw [hfront]
      exact rdropWhile_append_of_last rest hlast
    have hspaces : ∀ (tail : List Char), (cs.takeWhile isSpace ++ [c] ++ tail).dropWhile isSpace = c :: tail := by
      intro tail
      rw [List.append_assoc, List.dropWhile_append_of_pos fun d hd => List.mem_takeWhile_imp hd,
        List.singleton_append, List.dropWhile_cons_of_neg (by rw [hc]; exact Bool.false_ne_true)]
    have hhead : ∀ d ∈ [c].getLast?, isSpace d = false := fun d hd => by
      obtain rfl := Option.some.inj hd
      exact hc
    rw [stripChars, hrdrop, hspaces, stripChars, hdrop]
    have houter := rdropWhile_append_of_last (rest.rdropWhile isSpace) hhead
    have hinner := rdropWhile_append_of_last rest hhead
    rw [List.singleton_append] at houter hinner
    rw [houter, hinner, List.rdropWhile_idempotent]

/-- Both halves of a text with a colon, stripped, are those of the text it was stripped from. -/
theorem row?_partitionColon {name : String} (hname : ':' ∉ name.toList) (env : String) :
    ':' ∈ (strip (name ++ ":" ++ env)).toList ∧
      row? (partitionColon (strip (name ++ ":" ++ env))).1 (partitionColon (strip (name ++ ":" ++ env))).2 =
        row? name env := by
  have htext : (strip (name ++ ":" ++ env)).toList =
      name.toList.dropWhile isSpace ++ ':' :: env.toList.rdropWhile isSpace := by
    rw [strip, String.toList_ofList, String.toList_append, String.toList_append, List.append_assoc]
    exact stripChars_colon name.toList env.toList
  have hfree : ∀ c ∈ name.toList.dropWhile isSpace, decide (c ≠ ':') = true := by
    intro c hc
    have hmem := (List.dropWhile_suffix isSpace).subset hc
    exact decide_eq_true fun heq => hname (heq ▸ hmem)
  have hleft : (partitionColon (strip (name ++ ":" ++ env))).1 = String.ofList (name.toList.dropWhile isSpace) := by
    rw [partitionColon, htext, List.takeWhile_append_of_pos hfree,
      List.takeWhile_cons_of_neg (by decide), List.append_nil]
  have hright : (partitionColon (strip (name ++ ":" ++ env))).2 =
      String.ofList (env.toList.rdropWhile isSpace) := by
    rw [partitionColon, htext, List.dropWhile_append_of_pos hfree, List.dropWhile_cons_of_neg (by decide)]
    rfl
  refine ⟨by rw [htext]; exact List.mem_append_right _ List.mem_cons_self, ?_⟩
  have hname' : strip (String.ofList (name.toList.dropWhile isSpace)) = strip name := by
    rw [strip, String.toList_ofList, stripChars_dropWhile, strip]
  have henv' : strip (String.ofList (env.toList.rdropWhile isSpace)) = strip env := by
    rw [strip, String.toList_ofList, stripChars_rdropWhile, strip]
  rw [hleft, hright, row?, hname', henv', row?]

/-! ## The spellings -/

/-- The pairs an element of a list stands for: none where it is no mapping and no text with a colon. -/
inductive Spelled : Dict String Json → Json → Prop
  | mapping (kvs : Dict String Json) : Spelled kvs (.obj kvs)
  | text {name : String} (hname : ':' ∉ name.toList) (env : String) :
      Spelled [(name, .str env)] (.str (name ++ ":" ++ env))
  | plain {x : String} (hx : ':' ∉ x.toList) : Spelled [] (.str x)
  | other {x : Json} (hdict : x.isDict = false) (hstr : ∀ s, x ≠ .str s) : Spelled [] x

variable {container : Json → String}

theorem elementRows_spelled {kvs : Dict String Json} {x : Json} (h : Spelled kvs x) :
    elementRows container x = dictRows container kvs := by
  cases h with
  | mapping => rfl
  | @text name hname env =>
    obtain ⟨hcolon, hrow⟩ := row?_partitionColon hname env
    rw [elementRows, if_pos hcolon, hrow, dictRows]
    cases hrow' : row? name env with
    | none => simp [hrow', Json.text]
    | some r => simp [hrow', Json.text]
  | @plain x hx =>
    have hnot : ':' ∉ (strip x).toList := fun hmem => hx (mem_of_mem_strip hmem)
    rw [elementRows, if_neg hnot]
    rfl
  | other hdict hstr =>
    cases x with
    | obj kvs => cases hdict
    | str s => exact absurd rfl (hstr s)
    | null => rfl
    | bool b => rfl
    | int n => rfl
    | float q => rfl
    | arr xs => rfl

theorem flatMap_elementRows {kvss : List (Dict String Json)} {xs : List Json} (h : List.Forall₂ Spelled kvss xs) :
    xs.flatMap (elementRows container) = dictRows container kvss.flatten := by
  induction h with
  | nil => rfl
  | cons hx _ ih =>
    rw [List.flatMap_cons, ih, elementRows_spelled hx, List.flatten_cons, dictRows, dictRows, dictRows,
      List.filterMap_append]

/-- A configuration whose services are `services`. -/
structure Names (config : Dict String Json) (services : Json) : Prop where
  section_ : ∃ raw, config.lookup "utilized" = some (.obj raw) ∧ raw.lookup "services" = some services

theorem utilized_of_names {config : Dict String Json} {services : Json} (h : Names config services) :
    utilizedServicesFromConfig container config = .ok (serviceRows container (some services)) := by
  obtain ⟨raw, hconfig, hraw⟩ := h.section_
  have hne : (Json.obj raw).truthy = true := by
    cases raw with
    | nil => cases hraw
    | cons kv raw => rfl
  have hget : Json.getOr config "utilized" (.obj []) = .obj raw := by
    rw [Json.getOr, hconfig, Json.orDefault, if_pos hne]
  rw [utilizedServicesFromConfig, hget]
  change Except.ok (serviceRows container (raw.lookup "services")) = _
  rw [hraw]

/-- **Main.** However a list spells its pairs, the rows are those of the one mapping with all of them: a row for each
pair without a blank half, in the order of the services, rows of one service as they came. -/
theorem utilized_spelled {config config' : Dict String Json} {kvss : List (Dict String Json)} {xs : List Json}
    (hlist : Names config (.arr xs)) (hmapping : Names config' (.obj kvss.flatten))
    (hspelled : List.Forall₂ Spelled kvss xs) :
    ∃ rows, utilizedServicesFromConfig container config = .ok rows ∧
      utilizedServicesFromConfig container config' = .ok rows ∧
      SortedAsc sortKey (kvss.flatten.filterMap fun kv => row? kv.1 (kv.2.text container)) rows := by
  refine ⟨orderUtilizedRows (dictRows container kvss.flatten), ?_, ?_, sortAsc_sorted sortKey _⟩
  · rw [utilized_of_names hlist, serviceRows, flatMap_elementRows hspelled]
  · rw [utilized_of_names hmapping, serviceRows]

/-- A list with every kind of element. -/
def mixedServices : List Json :=
  [.str " Éz: 'dev'", .obj [("äa", .str " prod"), ("", .str "dev")], .str "socket", .null, .str "Ops :dev"]

/-- The mapping of its pairs. -/
def mappedServices : Dict String Json :=
  [(" Éz", .str " 'dev'"), ("äa", .str " prod"), ("", .str "dev"), ("Ops ", .str "dev")]

theorem utilized_spelled_mixed :
    utilizedServicesFromConfig (fun _ => "") [("utilized", .obj [("services", .arr mixedServices)])] =
        .ok [⟨"Ops", "dev"⟩, ⟨"äa", "prod"⟩, ⟨"Éz", "dev"⟩] ∧
      utilizedServicesFromConfig (fun _ => "") [("utilized", .obj [("services", .obj mappedServices)])] =
        .ok [⟨"Ops", "dev"⟩, ⟨"äa", "prod"⟩, ⟨"Éz", "dev"⟩] := by
  obtain ⟨rows, hlist, hmapping, hsorted⟩ := @utilized_spelled (fun _ => "")
    [("utilized", .obj [("services", .arr mixedServices)])] [("utilized", .obj [("services", .obj mappedServices)])]
    [[(" Éz", .str " 'dev'")], [("äa", .str " prod"), ("", .str "dev")], [], [], [("Ops ", .str "dev")]] _
    ⟨_, rfl, rfl⟩ ⟨_, rfl, rfl⟩
    (.cons (.text (by decide) " 'dev'") (.cons (.mapping _) (.cons (.plain (by decide)) (.cons (.other rfl nofun)
      (.cons (.text (by decide) "dev") .nil)))))
  have hrows : rows = [⟨"Ops", "dev"⟩, ⟨"äa", "prod"⟩, ⟨"Éz", "dev"⟩] :=
    hsorted.eq_of_strict (by decide +kernel) (by decide +kernel)
  rw [← hrows]
  exact ⟨hlist, hmapping⟩

end BifrostApi.Monitor.Utilized
