import BifrostApi.Common.RequestBodies
import BifrostApi.Strategy.ReadNames

/-!
# Write outcomes and PATCH bodies (`common/write_errors.py`)

What a writer of core raises has one status, and a PATCH body one reading: only declared fields, none that is retired,
at least one, and core is handed exactly those that were sent, under its own names for them (`accepts_of_validate`).
POST /watchlist has its own reading of what was sent (`posts_of_reads`).

| here | there |
| --- | --- |
| `WriteError`, `writeErrorStatus` | core's `WriteError`, `write_error_status` |
| `writeErrorResponse` | `write_error_response` |
| `writeTarget`, `deletedBody` | `write_target`, `deleted_body` |
| `PatchBody`, `PatchBody.validate`, `PatchBody.patchFields` | `RetiredFields`, `PatchBody` |
| `templatePatch`, `structurePatch`, … | strategy/patch_bodies.py |
| `positionCategoryPatch`, `instrumentClassPatch` | portfolio/routers/config.py |
| `executionAttributionPatch` | trading/routers/executions.py |
| `watchlistItemPatch`, `watchlistBody`, `postFields` | market/routers/watchlist.py, market/schemas/requests.py |
-/

namespace BifrostApi.Common

open Py

/-! ## Outcomes and answers -/

/-- Which subclass of `WriteError` it is. -/
inductive WriteKind
  | notFound
  | conflict
  | invalid
  | failed (unavailable : Bool)
  | other
  deriving DecidableEq

/-- What was refused before it was written, as against what failed. -/
def WriteKind.refused : WriteKind → Bool
  | notFound | conflict | invalid => true
  | failed _ | other => false

structure WriteError where
  kind : WriteKind
  reason : String

def writeErrorStatus (e : WriteError) : Nat :=
  match e.kind with
  | .notFound => 404
  | .conflict => 409
  | .invalid => 400
  | .failed true => 503
  | .failed false | .other => 500

/-- Why a request is a 422: its body sends a retired field, does not fit its fields or names none, or its path or query
is not what the route declares. -/
inductive Refusal
  | retired (reason : String)
  | fields
  | empty (message : String)
  | path
  | query

inductive WriteAnswer
  | ok (body : Dict String Json)
  | error (status : Nat) (detail : String)
  | unprocessable (refusals : List Refusal)
  /-- An exception that no handler takes. -/
  | crashed

def WriteAnswer.status : WriteAnswer → Nat
  | ok _ => 200
  | error status _ => status
  | unprocessable _ => 422
  | crashed => 500

def writeErrorResponse (e : WriteError) : WriteAnswer := .error (writeErrorStatus e) e.reason

/-- The config is there or not. -/
def writeTarget (configured : Bool) (what : String) : Except WriteError Unit :=
  if configured then .ok ()
  else .error ⟨.failed true, "Cannot write " ++ what ++ ": Postgres is not configured."⟩

def deletedBody (result : Dict String Json) : Dict String Json := Dict.set result "ok" (.bool true)

/-! ## Bodies -/

/-- The body of a request as pydantic reads it for a model; `none` when it does not fit. -/
structure Received (t : FieldType) where
  sent : Json
  read : Option Value
  reads : ∀ v, read = some v → Reads t sent v
  refused : read = none → ∀ v, ¬ Reads t sent v

def Received.ofReads {t : FieldType} {sent : Json} {v : Value} (h : Reads t sent v) : Received t where
  sent := sent
  read := some v
  reads := by
    rintro _ ⟨rfl⟩
    exact h
  refused := by
    rintro ⟨⟩

/-- The fields that were set, as `declared` and `model_dump` dump them. -/
def Value.dumped : Value → Dict String Json
  | model fields fieldsSet => declaredFields true fieldsSet fields
  | _ => []

def Value.modelFieldsSet : Value → List String
  | model _ fieldsSet => fieldsSet
  | _ => []

/-- A subclass of `PatchBody`; every field is optional. -/
structure PatchBody where
  fields : Dict String FieldType
  readNames : Dict String String
  retired : Dict String String
  distinct : Dict.Distinct fields
  renames : Strategy.Renaming readNames

namespace PatchBody

def model (c : PatchBody) : FieldType := .model (c.fields.mapVal fun _ => nullable)

/-- `_refuse_retired`. -/
def refuseRetired (c : PatchBody) : Json → Option String
  | .obj data =>
    let sent := (c.retired.keys.filter (Dict.has data)).mergeSort fun a b => decide (a ≤ b)
    if sent.isEmpty then none else some (join " " (sent.map fun k => (c.retired.lookup k).getD ""))
  | _ => none

def validate (c : PatchBody) (body : Received c.model) : Except Refusal Value :=
  match c.refuseRetired body.sent with
  | some reason => .error (.retired reason)
  | none => match body.read with
    | none => .error .fields
    | some v =>
      -- `_names_a_field`
      if v.modelFieldsSet.isEmpty then
        .error (.empty ("Send at least one field to change: " ++ join ", " c.fields.keys ++ "."))
      else .ok v

def patchFields (c : PatchBody) (v : Value) : Dict String Json := Strategy.patchFields c.readNames v.dumped

end PatchBody

theorem noRenaming : Strategy.Renaming [] := ⟨by decide, by decide, by decide⟩

/-- A body without read names and retired fields. -/
def plainPatch (fields : Dict String FieldType) (distinct : Dict.Distinct fields) : PatchBody :=
  ⟨fields, [], [], distinct, noRenaming⟩

/-- `Union[StrictFloat, StrictStr]`. -/
def timestamp : FieldType := .union [.float, .str]

def dims : Dict String FieldType :=
  [("dim_direction", .str), ("dim_structure", .str), ("dim_coverage", .str), ("dim_risk", .str),
    ("dim_volatility", .str), ("dim_time", .str)]

def structurePatch : PatchBody := plainPatch
  [("name", .str), ("version", .int), ("is_active", .bool), ("notes", .str), ("meta", .list (.dict .any))] (by decide)

def opportunityPatch : PatchBody := plainPatch
  [("name", .str), ("strategy_structure_id", .int), ("default_gate_safety_strategy_id", .int), ("scope_type", .str),
    ("is_active", .bool), ("symbols", .list .str), ("entry_conditions", .list (.dict .any))] (by decide)

def allocationPatch : PatchBody := plainPatch
  [("name", .str), ("gate_safety_strategy_id", .int), ("max_positions", .int), ("max_bp_pct", .float),
    ("allocation_limits", .dict .any), ("is_active", .bool), ("strategy_opportunity_ids", .list .int)] (by decide)

def gateSetPatch : PatchBody := plainPatch
  ([("name", .str), ("version", .int)] ++ dims ++ [("is_active", .bool), ("gates", .dict .any),
    ("earnings_dates", .list .str)]) (by decide)

def journalOnly (field : String) : String :=
  "`" ++ field ++ "` was removed in api 0.7.1 (TD-73): a trade's notes live in the Research " ++
    "journal (research-api POST /research/journal/notes, with a ref of type 'trade'). " ++
    "Nothing was written; send the request without it."

def tradePatch : PatchBody where
  fields := [("label", .str), ("opened_at", timestamp), ("created_at", timestamp)]
  readNames := []
  retired := [("notes", journalOnly "notes")]
  distinct := by decide
  renames := noRenaming

def reviewPatch : PatchBody where
  fields := [("tags_added_json", .list .str), ("tags_dropped_json", .list .str), ("reviewed", .bool)]
  readNames := []
  retired := [("note", journalOnly "note")]
  distinct := by decide
  renames := noRenaming

def positionCategoryPatch : PatchBody :=
  plainPatch [("name", .str), ("description", .str), ("sort_order", .int)] (by decide)

def instrumentClassPatch : PatchBody := plainPatch [("instrument_class", .str), ("note", .str)] (by decide)

def executionAttributionPatch : PatchBody := plainPatch
  [("strategy_opportunity_id", .int), ("trade_id", .int), ("fill_splits", .list (.dict .any))] (by decide)

/-- The fields of a watched contract. -/
def watchlistFields : Dict String FieldType :=
  [("symbol", .str), ("sec_type", .str), ("expiry", .str), ("strike", .float), ("option_right", .str),
    ("display_label", .str), ("source", .str), ("category_id", .int), ("optionable", .bool)]

def watchlistItemPatch : PatchBody := plainPatch watchlistFields (by decide)

/-- `WatchlistBody`. -/
def watchlistBody : FieldType :=
  .model (("contract_key", .str, none) :: watchlistFields.mapVal fun _ => nullable)

def notBlank : Json → Bool
  | .str s => !(strip s == "")
  | _ => true

def postFields (body : Value) : Dict String Json :=
  let fields := Dict.pop body.dumped "contract_key"
  let fields := match fields.lookup "optionable" with
    | some .null => Dict.pop fields "optionable"
    | _ => fields
  fields.filter fun kv => notBlank kv.2

/-- `body.contract_key`. -/
def contractKey (body : Value) : String :=
  match body.dumped.lookup "contract_key" with
  | some (.str s) => s
  | _ => ""

/-! ## What is promised -/

/-- The same value but for the rounding of an integer to a float, or none on either side. -/
def Same : Option Json → Option Json → Prop := Option.Rel (SentAs NearestFloat)

/-- The fields sent, each once, under the name core takes. -/
structure Exactly (readNames : Dict String String) (sent fields : Dict String Json) : Prop where
  once : Dict.Distinct fields
  renamed : ∀ read written, (read, written) ∈ readNames →
    fields.lookup read = none ∧ Same ((sent.lookup read).or (sent.lookup written)) (fields.lookup written)
  others : ∀ name, name ∉ Dict.keys readNames → name ∉ readNames.map Prod.snd →
    Same (sent.lookup name) (fields.lookup name)

/-- A body that fits, names a field and none that is retired, with what core is handed for it. -/
structure Accepts (c : PatchBody) (body : Json) (fields : Dict String Json) : Prop where
  fits : ∃ v, Reads c.model body v
  retired : ∀ kvs, body = .obj kvs → ∀ k ∈ Dict.keys c.retired, k ∉ Dict.keys kvs
  exactly : ∃ kvs, body = .obj kvs ∧ kvs ≠ [] ∧ Exactly c.readNames kvs fields

/-- What POST /watchlist takes as sent. -/
def postSent (sent : Dict String Json) (name : String) : Option Json :=
  if name = "contract_key" then none
  else (sent.lookup name).filter fun x => !(name == "optionable" && Strategy.isNull x) && notBlank x

structure Posts (body : Json) (key : String) (fields : Dict String Json) : Prop where
  fits : ∃ v, Reads watchlistBody body v
  once : Dict.Distinct fields
  sent : ∃ kvs, body = .obj kvs ∧ kvs.lookup "contract_key" = some (.str key) ∧
    ∀ name, Same (postSent kvs name) (fields.lookup name)

/-! ## What was sent -/

theorem SentAs.isNull {near : Int → Number → Prop} {x y : Json} (h : SentAs near x y) :
    Strategy.isNull y = Strategy.isNull x := by
  cases h <;> rfl

theorem SentAs.notBlank {near : Int → Number → Prop} {x y : Json} (h : SentAs near x y) : notBlank y = notBlank x := by
  cases h <;> rfl

section

variable {a b a' b' : Option Json}

theorem Same.or (h : Same a b) (h' : Same a' b') : Same (a.or a') (b.or b') := by
  cases h with
  | some hx => exact .some hx
  | none => exact h'

theorem Same.filter {p : Json → Bool} (hp : ∀ x y, SentAs NearestFloat x y → p y = p x) (h : Same a b) :
    Same (a.filter p) (b.filter p) := by
  cases h with
  | @some x y hx =>
    have hxy := hp x y hx
    cases hpx : p x with
    | true =>
      rw [Option.filter_some_pos hpx, Option.filter_some_pos (hxy.trans hpx)]
      exact .some hx
    | false =>
      rw [Option.filter_some_neg hpx, Option.filter_some_neg (hxy.trans hpx)]
      exact .none
  | none => exact .none

theorem Same.of_obj {kvs kvs' : Dict String Json} (h : SentAs NearestFloat (.obj kvs) (.obj kvs')) (name : String) :
    Same (kvs.lookup name) (kvs'.lookup name) := by
  cases h with
  | obj hkeys hvals =>
    cases hx : kvs.lookup name with
    | some x =>
      obtain ⟨y, hy⟩ := Dict.exists_lookup.2 ((hkeys name).1 (Dict.exists_lookup.1 ⟨x, hx⟩))
      rw [hy]
      exact .some (hvals name x y hx hy)
    | none =>
      have hnone : kvs'.lookup name = none :=
        Dict.lookup_eq_none.2 fun hmem => Dict.lookup_eq_none.1 hx ((hkeys name).2 hmem)
      rw [hnone]
      exact .none

end

/-- What reading a body for a model gives. -/
structure Dumped (fields : Dict String (FieldType × Option Value)) (sent : Json) (v : Value) : Prop where
  data : ∃ kvs, sent = .obj kvs ∧ (∀ name, Same (kvs.lookup name) (v.dumped.lookup name)) ∧
    ∀ k, k ∈ v.modelFieldsSet ↔ k ∈ Dict.keys kvs
  distinct : Dict.Distinct fields → Dict.Distinct v.dumped

theorem dumped_of_reads {fields : Dict String (FieldType × Option Value)} {sent : Json} {v : Value}
    (h : Reads (.model fields) sent v) : Dumped fields sent v := by
  have hsent := sentAs_declared h
  cases h with
  | @model _ kvs vs fieldsSet _ hset hkeys _ _ =>
    refine ⟨⟨kvs, rfl, fun name => Same.of_obj ?_ name, hset⟩, fun hd => ?_⟩
    · rw [Value.declared] at hsent
      exact hsent
    · have hvs : Dict.Distinct vs := by
        unfold Dict.Distinct
        rw [hkeys]
        exact hd
      rw [Value.dumped, Value.declaredFields_eq]
      unfold Dict.Distinct
      rw [Dict.keys_mapVal]
      exact hvs.sublist (List.filter_sublist.map Prod.fst)


/-! ## What is handed on -/

theorem default_of_nullable (fields : Dict String FieldType) :
    ∀ kv ∈ fields.mapVal fun _ => nullable, kv.2.2 = some Value.null := by
  intro kv hkv
  obtain ⟨_, -, rfl⟩ := List.mem_map.1 hkv
  rfl

namespace PatchBody

variable {c : PatchBody}

theorem refuseRetired_eq_none {data : Dict String Json} :
    c.refuseRetired (.obj data) = none ↔ ∀ k ∈ Dict.keys c.retired, k ∉ Dict.keys data := by
  have hempty : ((c.retired.keys.filter (Dict.has data)).mergeSort fun a b => decide (a ≤ b)).isEmpty = true ↔
      ∀ k ∈ Dict.keys c.retired, k ∉ Dict.keys data := by
    rw [List.isEmpty_iff, ← List.length_eq_zero_iff, List.length_mergeSort, List.length_eq_zero_iff,
      List.filter_eq_nil_iff]
    refine forall₂_congr fun k _ => ?_
    rw [← Dict.lookup_eq_none, ← Dict.has_eq_false, Bool.not_eq_true]
  rw [← hempty]
  unfold refuseRetired
  dsimp only
  split
  · rename_i h
    exact iff_of_true rfl h
  · rename_i h
    exact iff_of_false (fun hnone => by cases hnone) h

theorem distinct_model (c : PatchBody) : Dict.Distinct (c.fields.mapVal fun _ => nullable) := by
  unfold Dict.Distinct
  rw [Dict.keys_mapVal]
  exact c.distinct

theorem exactly_patchFields {kvs : Dict String Json} {v : Value} (hd : Dict.Distinct v.dumped)
    (hsame : ∀ name, Same (kvs.lookup name) (v.dumped.lookup name)) :
    Exactly c.readNames kvs (c.patchFields v) := by
  have hexact := Strategy.patchFields_exact c.renames hd
  refine ⟨hexact.once, fun read written hmem => ?_, fun name hread hwritten => ?_⟩
  · obtain ⟨hgone, hvalue⟩ := hexact.renamed read written hmem
    refine ⟨hgone, ?_⟩
    rw [patchFields, hvalue]
    exact (hsame read).or (hsame written)
  · rw [patchFields, hexact.others name hread hwritten]
    exact hsame name

theorem refuseRetired_of_retired_nil (hretired : c.retired = []) (sent : Json) : c.refuseRetired sent = none := by
  cases sent with
  | obj data =>
    refine refuseRetired_eq_none.2 fun k hk => ?_
    rw [hretired] at hk
    cases hk
  | _ => rfl

/-- Where no field is retired a body that is read and names a field passes, -/
theorem validate_of_read {body : Received c.model} {v : Value} (hretired : c.retired = []) (hread : body.read = some v)
    (hset : v.modelFieldsSet ≠ []) : c.validate body = .ok v := by
  have hempty : ¬ v.modelFieldsSet.isEmpty = true := fun h => hset (List.isEmpty_iff.1 h)
  rw [validate, refuseRetired_of_retired_nil hretired, hread]
  exact if_neg hempty

/-- A body of which one field is sent. -/
def one (c : PatchBody) (name : String) (v : Value) : Value :=
  .model ((c.fields.mapVal fun _ => nullable).mapVal fun k _ => (List.lookup k [(name, v)]).getD .null) [name]

theorem reads_one (name : String) {t : FieldType} {x : Json} {v : Value} (hf : c.fields.lookup name = some t)
    (h : Reads t x v) : Reads c.model (.obj [(name, x)]) (c.one name v) := by
  have hfield : (c.fields.mapVal fun _ => nullable).lookup name = some (nullable t) := by
    rw [Dict.lookup_mapVal, hf, Option.map_some]
  exact Reads.one name (nullable t) (default_of_nullable c.fields) hfield (.optional h)

/-- A body that passes is handed on as it was sent. -/
theorem accepts_of_validate {body : Received c.model} {v : Value} (h : c.validate body = .ok v) :
    Accepts c body.sent (c.patchFields v) := by
  unfold validate at h
  cases hretired : c.refuseRetired body.sent with
  | some reason =>
    rw [hretired] at h
    cases h
  | none =>
    rw [hretired] at h
    cases hread : body.read with
    | none =>
      rw [hread] at h
      cases h
    | some u =>
      rw [hread] at h
      dsimp only at h
      split at h
      · cases h
      · rename_i hset
        obtain rfl := Except.ok.inj h
        have hdumped := dumped_of_reads (body.reads u hread)
        obtain ⟨kvs, hsent, hsame, hkeys⟩ := hdumped.data
        rw [hsent] at hretired
        refine ⟨⟨u, body.reads u hread⟩, fun kvs' hkvs => ?_, kvs, hsent, fun hnil => hset ?_,
          exactly_patchFields (hdumped.distinct c.distinct_model) hsame⟩
        · rw [hsent] at hkvs
          obtain rfl := Json.obj.inj hkvs
          exact refuseRetired_eq_none.1 hretired
        · rw [List.isEmpty_iff, List.eq_nil_iff_forall_not_mem]
          intro k hk
          rw [hkeys, hnil] at hk
          cases hk

/-- A body that does not pass is none to hand on. -/
theorem not_accepts_of_validate {body : Received c.model} {refusal : Refusal} (h : c.validate body = .error refusal)
    (fields : Dict String Json) : ¬ Accepts c body.sent fields := by
  intro haccepts
  obtain ⟨kvs, hsent, hne, -⟩ := haccepts.exactly
  have hretired : c.refuseRetired body.sent = none := by
    rw [hsent]
    exact refuseRetired_eq_none.2 (haccepts.retired kvs hsent)
  unfold validate at h
  rw [hretired] at h
  cases hread : body.read with
  | none =>
    obtain ⟨v, hv⟩ := haccepts.fits
    exact body.refused hread v hv
  | some v =>
    rw [hread] at h
    dsimp only at h
    split at h
    · rename_i hset
      obtain ⟨⟨kvs', hsent', -, hkeys⟩, -⟩ := dumped_of_reads (body.reads v hread)
      obtain rfl := Json.obj.inj (hsent.symm.trans hsent')
      obtain ⟨⟨k, x⟩, hmem⟩ := List.exists_mem_of_ne_nil kvs hne
      have hk := (hkeys k).2 (Dict.mem_keys_of_mem hmem)
      rw [List.isEmpty_iff.1 hset] at hk
      cases hk
    · cases h

end PatchBody

/-- What `postFields` keeps of the fields that were set. -/
theorem lookup_postFields {v : Value} (hd : Dict.Distinct v.dumped) (name : String) :
    (postFields v).lookup name = if name = "contract_key" then none
      else (v.dumped.lookup name).filter fun x => !(name == "optionable" && Strategy.isNull x) && notBlank x := by
  unfold postFields
  set fields := Dict.pop v.dumped "contract_key" with hfields
  have hdfields : Dict.Distinct fields := Dict.distinct_pop hd _
  have hlookup : ∀ name, fields.lookup name = if name = "contract_key" then none else v.dumped.lookup name :=
    fun name => Dict.lookup_pop v.dumped "contract_key" name
  have hkept : ∀ kept : Dict String Json, Dict.Distinct kept →
      kept.lookup name = (fields.lookup name).filter (fun x => !(name == "optionable" && Strategy.isNull x)) →
      List.lookup name (kept.filter fun kv => notBlank kv.2) = if name = "contract_key" then none
        else (v.dumped.lookup name).filter fun x => !(name == "optionable" && Strategy.isNull x) && notBlank x := by
    intro kept hdkept heq
    rw [Dict.lookup_filter_val hdkept, heq, Option.filter_filter, hlookup]
    split <;> rfl
  have hall : ∀ a : Option Json, a = a.filter fun _ => true := fun a => by cases a <;> rfl
  dsimp only
  split
  · rename_i hnull
    refine hkept _ (Dict.distinct_pop hdfields _) ?_
    rw [Dict.lookup_pop]
    split
    · rename_i hname
      rw [hname, hnull]
      rfl
    · rename_i hname
      rw [beq_eq_false_iff_ne.2 hname]
      exact hall _
  · rename_i hnull
    refine hkept _ hdfields ?_
    by_cases hname : name = "optionable"
    · cases hx : fields.lookup name with
      | none => rfl
      | some x =>
        cases x with
        | null => exact absurd (hname ▸ hx) hnull
        | _ => simp [Option.filter, Strategy.isNull]
    · rw [beq_eq_false_iff_ne.2 hname]
      exact hall _

/-- A body with a key is read field by field. -/
theorem reads_watchlistBody {kvs : Dict String Json} {vs : Dict String Value} (hkey : "contract_key" ∈ Dict.keys kvs)
    (h : FieldsRead (("contract_key", .str, none) :: watchlistFields.mapVal fun _ => nullable) kvs vs) :
    Reads watchlistBody (.obj kvs)
      (.model (Dict.mapVal (fun k _ => (vs.lookup k).getD .null)
        (("contract_key", .str, none) :: watchlistFields.mapVal fun _ => nullable)) kvs.keys) := by
  refine Reads.sent (fun kv hkv => ?_) h
  rcases List.mem_cons.1 hkv with rfl | hkv
  · exact Or.inl hkey
  · exact Or.inr (default_of_nullable watchlistFields kv hkv)

theorem lookup_contractKey {kvs : Dict String Json} {v : Value} (h : Reads watchlistBody (.obj kvs) v) :
    kvs.lookup "contract_key" = some (.str (contractKey v)) := by
  have hfield : List.lookup "contract_key" (("contract_key", .str, none) :: watchlistFields.mapVal fun _ => nullable) =
      some ((.str, none) : FieldType × Option Value) := rfl
  cases h with
  | @model _ _ vs fieldsSet _ hset hkeys hreads hdefault =>
    cases hx : kvs.lookup "contract_key" with
    | none =>
      obtain ⟨d, hd, -⟩ := hdefault "contract_key" _ hfield hx
      cases hd
    | some x =>
      obtain ⟨w, hw⟩ := Dict.exists_lookup.2 (hkeys ▸ Dict.exists_lookup.1 ⟨_, hfield⟩)
      have hread := hreads "contract_key" _ x w hfield hx hw
      cases hread with
      | str text =>
        have hsent : "contract_key" ∈ fieldsSet := (hset _).2 (Dict.exists_lookup.1 ⟨_, hx⟩)
        have hdumped : (Value.model vs fieldsSet).dumped.lookup "contract_key" = some (.str text) := by
          rw [Value.dumped, Value.lookup_declaredFields_true hsent, hw]
          rfl
        unfold contractKey
        rw [hdumped]

/-- `postFields` is what was sent. -/
theorem posts_of_reads {body : Json} {v : Value} (h : Reads watchlistBody body v) :
    Posts body (contractKey v) (postFields v) := by
  have hdumped := dumped_of_reads h
  have hd : Dict.Distinct v.dumped := hdumped.distinct (by decide)
  obtain ⟨kvs, rfl, hsame, hkeys⟩ := hdumped.data
  refine ⟨⟨v, h⟩, ?_, kvs, rfl, ?_, fun name => ?_⟩
  · unfold postFields
    have hpop : Dict.Distinct (Dict.pop v.dumped "contract_key") := Dict.distinct_pop hd _
    dsimp only
    split
    · exact (Dict.distinct_pop hpop _).sublist (List.filter_sublist.map Prod.fst)
    · exact hpop.sublist (List.filter_sublist.map Prod.fst)
  · exact lookup_contractKey h
  · rw [lookup_postFields hd, postSent]
    split
    · exact .none
    · exact (hsame name).filter fun x y hxy => by rw [hxy.isNull, hxy.notBlank]


end BifrostApi.Common
