import BifrostApi.Py.Json

/-!
# Read names in plan and saved-search bodies

A plan is read with `legs_json` and `source_json`, a saved search with `state_json`; bodies take these names
beside the ones core takes, and the read name is to win. `patch_fields` renames what was sent and does so
(`patchFields_exact`). The other two drop nulls: `payload` dumps the read names with `exclude_none`, which also
takes the null fields out of every leg, and `state_sent` falls back to `state` (`readNames_fails`).

A body is what validation leaves of it: for each field whether it was sent, and as null. `PlanLeg` and the
fields of the create body are core's: a leg is its dump with every declared field, the other fields of the body
are their dump, and the values of `legs` and `source` when they are not sent are the parameter `Defaults`.

| here | there |
| --- | --- |
| `payload` | `PlanCreateRequest.payload` (strategy/routers/plans.py:59) |
| `patchFields` | `PatchBody.patch_fields` (common/write_errors.py:135) |
| `planPatchFields`, `planReadNames` | `PlanPatch` (strategy/patch_bodies.py:114) |
| `stateSent` | `SavedSearchBody.state_sent` (strategy/schemas/requests.py:152) |
-/

namespace BifrostApi.Strategy

open Py

/-- A field of a body. -/
inductive Sent (α : Type)
  | unset
  | null
  | value (a : α)

/-! ## POST /plans -/

/-- `leg.model_dump()`: every declared field, null where it has no value. -/
structure PlanLeg where
  fields : Dict String Json

def isNull : Json → Bool
  | .null => true
  | _ => false

def PlanLeg.modelDump (leg : PlanLeg) : Json := .obj leg.fields

/-- `leg.model_dump(exclude_none=True)`. -/
def PlanLeg.dumpExcludeNone (leg : PlanLeg) : Json := .obj (leg.fields.filter fun kv => !isNull kv.2)

/-- A source entry is a plain object, of which `exclude_none` leaves the nulls. -/
abbrev SourceEntry := Dict String Json

structure PlanCreateRequest where
  /-- The dump of core's other fields. -/
  core : Dict String Json
  legs : Sent (List PlanLeg)
  source : Sent (List SourceEntry)
  legsJson : Sent (List PlanLeg)
  sourceJson : Sent (List SourceEntry)
  other : "legs" ∉ Dict.keys core ∧ "source" ∉ Dict.keys core

/-- What core's body has for a field that was not sent. -/
structure Defaults where
  legs : Json
  source : Json

def fieldDump {α : Type} (default : Json) (dump : α → Json) : Sent α → Json
  | .unset => default
  | .null => .null
  | .value a => dump a

def legsDump (legs : List PlanLeg) : Json := .arr (legs.map PlanLeg.modelDump)

def legsDumpExcludeNone (legs : List PlanLeg) : Json := .arr (legs.map PlanLeg.dumpExcludeNone)

def sourceDump (source : List SourceEntry) : Json := .arr (source.map .obj)

/-- The fields that are not null; one that was not sent is null. -/
def dumpExcludeNone {α : Type} (name : String) (dump : α → Json) : Sent α → Dict String Json
  | .value a => [(name, dump a)]
  | .unset | .null => []

namespace PlanCreateRequest

/-- `self.model_dump(exclude={"legs_json", "source_json"})`. -/
def modelDump (defaults : Defaults) (b : PlanCreateRequest) : Dict String Json :=
  b.core ++ [("legs", fieldDump defaults.legs legsDump b.legs),
    ("source", fieldDump defaults.source sourceDump b.source)]

/-- `self.model_dump(include={"legs_json", "source_json"}, exclude_none=True)`. -/
def sent (b : PlanCreateRequest) : Dict String Json :=
  dumpExcludeNone "legs_json" legsDumpExcludeNone b.legsJson ++
    dumpExcludeNone "source_json" sourceDump b.sourceJson

def payload (defaults : Defaults) (b : PlanCreateRequest) : Dict String Json :=
  let data := b.modelDump defaults
  let data := match b.sent.lookup "legs_json" with
    | some legs => Dict.set data "legs" legs
    | none => data
  match b.sent.lookup "source_json" with
  | some source => Dict.set data "source" source
  | none => data

end PlanCreateRequest

/-! ## PATCH /plans -/

/-- `out[write_name] = out.pop(read_name)` for each read name in `out`. -/
def patchFields (readNames : Dict String String) (sent : Dict String Json) : Dict String Json :=
  readNames.foldl (fun out (name : String × String) => match out.lookup name.1 with
    | some v => Dict.set (Dict.pop out name.1) name.2 v
    | none => out) sent

def planPatchFields : List String :=
  ["account_id", "symbol", "structure_label", "strategy_structure_id", "strategy_opportunity_id", "qty",
    "price_effect", "limit_price", "target_kind", "target_value", "stop_kind", "stop_value", "exit_by", "rationale",
    "source_kind", "source_ref", "expires_at", "legs", "source", "legs_json", "source_json"]

/-- `READ_NAMES`: read name and the name core takes. -/
def planReadNames : Dict String String := [("legs_json", "legs"), ("source_json", "source")]

/-- A body that passed: the fields sent, at least one, all declared. -/
structure PlanPatch where
  sent : Dict String Json
  distinct : Dict.Distinct sent
  declared : ∀ name ∈ Dict.keys sent, name ∈ planPatchFields
  nonempty : sent ≠ []

def PlanPatch.patchFields (b : PlanPatch) : Dict String Json := Strategy.patchFields planReadNames b.sent

/-! ## POST /preferences/saved-searches -/

structure SavedSearchBody where
  state : Sent (Dict String Json)
  stateJson : Sent (Dict String Json)

def SavedSearchBody.stateSent (b : SavedSearchBody) : Dict String Json :=
  match b.stateJson with
  | .value state => state
  | .unset | .null => match b.state with
    | .value state => state
    | .unset | .null => []

/-! ## What the read names mean -/

/-- The read name wins where it was sent, null or not. A null under the read name alone says nothing about the
other, and is left as it is. -/
def resolve {α : Type} (written read : Sent α) : Sent α :=
  match written, read with
  | written, .unset => written
  | .unset, .null => .unset
  | _, read => read

/-- The body under the names core takes. -/
def PlanCreateRequest.renamed (b : PlanCreateRequest) : PlanCreateRequest :=
  { b with
    legs := resolve b.legs b.legsJson, legsJson := .unset
    source := resolve b.source b.sourceJson, sourceJson := .unset }

/-- The read names are as good as core's. -/
def PlanCreateRequest.Interchangeable (defaults : Defaults) (b : PlanCreateRequest) : Prop :=
  b.payload defaults = b.renamed.payload defaults

/-- No leg under the read name has a null field, and no null stands under a read name beside a value under the
other. -/
structure PlanCreateRequest.Kept (b : PlanCreateRequest) : Prop where
  legs : ∀ legs, b.legsJson = .value legs → ∀ leg ∈ legs, ∀ kv ∈ leg.fields, isNull kv.2 = false
  legsNull : b.legsJson = .null → ∀ legs, b.legs ≠ .value legs
  sourceNull : b.sourceJson = .null → ∀ source, b.source ≠ .value source

/-- The fields sent, each once, under the name core takes. -/
structure PatchExact (readNames : Dict String String) (sent out : Dict String Json) : Prop where
  once : Dict.Distinct out
  renamed : ∀ read written, (read, written) ∈ readNames →
    out.lookup read = none ∧ out.lookup written = (sent.lookup read).or (sent.lookup written)
  others : ∀ name, name ∉ Dict.keys readNames → name ∉ readNames.map Prod.snd →
    out.lookup name = sent.lookup name

def SavedSearchBody.Interchangeable (b : SavedSearchBody) : Prop :=
  b.stateSent = SavedSearchBody.stateSent ⟨resolve b.state b.stateJson, .unset⟩

/-- No null stands under the read name beside a state that is not empty. -/
def SavedSearchBody.Kept (b : SavedSearchBody) : Prop :=
  b.stateJson = .null → ∀ state, b.state = .value state → state = []

/-! ## POST -/

/-- What the read name puts in place of the field. -/
def entry {α : Type} (default : Json) (dump readDump : α → Json) (written read : Sent α) : Json :=
  match read with
  | .value a => readDump a
  | .unset | .null => fieldDump default dump written

theorem lookup_sent_legs (b : PlanCreateRequest) :
    b.sent.lookup "legs_json" = match b.legsJson with
      | .value legs => some (legsDumpExcludeNone legs)
      | .unset | .null => none := by
  unfold PlanCreateRequest.sent
  cases b.legsJson <;> cases b.sourceJson <;> rfl

theorem lookup_sent_source (b : PlanCreateRequest) :
    b.sent.lookup "source_json" = match b.sourceJson with
      | .value source => some (sourceDump source)
      | .unset | .null => none := by
  unfold PlanCreateRequest.sent
  cases b.legsJson <;> cases b.sourceJson <;> rfl

theorem payload_eq (defaults : Defaults) (b : PlanCreateRequest) :
    b.payload defaults = b.core ++
      [("legs", entry defaults.legs legsDump legsDumpExcludeNone b.legs b.legsJson),
        ("source", entry defaults.source sourceDump sourceDump b.source b.sourceJson)] := by
  unfold PlanCreateRequest.payload PlanCreateRequest.modelDump
  rw [lookup_sent_legs, lookup_sent_source]
  have hlegs := fun v => Dict.set_append b.other.1
    [("legs", fieldDump defaults.legs legsDump b.legs), ("source", fieldDump defaults.source sourceDump b.source)] v
  cases b.legsJson with
  | value legs =>
    dsimp only
    rw [hlegs]
    cases b.sourceJson with
    | value source => exact Dict.set_append b.other.2 _ _
    | unset => rfl
    | null => rfl
  | unset =>
    cases b.sourceJson with
    | value source => exact Dict.set_append b.other.2 _ _
    | unset => rfl
    | null => rfl
  | null =>
    cases b.sourceJson with
    | value source => exact Dict.set_append b.other.2 _ _
    | unset => rfl
    | null => rfl

/-- Dumping under the read name is dumping the resolved field where both dumps agree and no null meets a value. -/
theorem entry_eq_resolved {α : Type} {default : Json} {dump readDump : α → Json} (hdump : ∀ a, dump a ≠ .null)
    (written read : Sent α) :
    entry default dump readDump written read = fieldDump default dump (resolve written read) ↔
      (∀ a, read = .value a → readDump a = dump a) ∧ (read = .null → ∀ a, written ≠ .value a) := by
  cases read with
  | unset => cases written <;> simp [entry, resolve]
  | value a => cases written <;> simp [entry, resolve, fieldDump]
  | null =>
    cases written with
    | unset => simp [entry, resolve]
    | null => simp [entry, resolve]
    | value a => simp [entry, resolve, fieldDump, hdump a]

theorem legsDump_eq_iff (legs : List PlanLeg) :
    legsDumpExcludeNone legs = legsDump legs ↔ ∀ leg ∈ legs, ∀ kv ∈ leg.fields, isNull kv.2 = false := by
  have hleg : ∀ leg : PlanLeg, leg.dumpExcludeNone = leg.modelDump ↔ ∀ kv ∈ leg.fields, isNull kv.2 = false := by
    intro leg
    rw [PlanLeg.dumpExcludeNone, PlanLeg.modelDump, Json.obj.injEq, List.filter_eq_self]
    simp only [Bool.not_eq_true']
  rw [legsDumpExcludeNone, legsDump, Json.arr.injEq, List.map_inj_left]
  simp only [hleg]

theorem post_interchangeable (defaults : Defaults) (b : PlanCreateRequest) :
    b.Interchangeable defaults ↔ b.Kept := by
  have hsplit : b.Interchangeable defaults ↔
      entry defaults.legs legsDump legsDumpExcludeNone b.legs b.legsJson =
          fieldDump defaults.legs legsDump (resolve b.legs b.legsJson) ∧
        entry defaults.source sourceDump sourceDump b.source b.sourceJson =
          fieldDump defaults.source sourceDump (resolve b.source b.sourceJson) := by
    rw [PlanCreateRequest.Interchangeable, payload_eq, payload_eq]
    simp [PlanCreateRequest.renamed, entry]
  rw [hsplit, entry_eq_resolved (fun _ h => by cases h), entry_eq_resolved (fun _ h => by cases h)]
  simp only [legsDump_eq_iff, implies_true, true_and]
  exact ⟨fun ⟨⟨hlegs, hnull⟩, hsource⟩ => ⟨hlegs, hnull, hsource⟩,
    fun h => ⟨⟨h.legs, h.legsNull⟩, h.sourceNull⟩⟩

/-! ## PATCH -/

/-- The names are renamed apart: no two read names, no two names core takes, and none that is both. -/
structure Renaming (readNames : Dict String String) : Prop where
  reads : (Dict.keys readNames).Nodup
  written : (readNames.map Prod.snd).Nodup
  apart : ∀ name ∈ Dict.keys readNames, name ∉ readNames.map Prod.snd

/-- One renaming. -/
def rename (out : Dict String Json) (name : String × String) : Dict String Json :=
  match out.lookup name.1 with
  | some v => Dict.set (Dict.pop out name.1) name.2 v
  | none => out

theorem patchFields_cons (name : String × String) (readNames : Dict String String) (sent : Dict String Json) :
    patchFields (name :: readNames) sent = patchFields readNames (rename sent name) := rfl

theorem distinct_rename {out : Dict String Json} (h : Dict.Distinct out) (name : String × String) :
    Dict.Distinct (rename out name) := by
  unfold rename
  split
  · exact Dict.distinct_set (Dict.distinct_pop h _) _ _
  · exact h

theorem lookup_rename (read written : String) (out : Dict String Json) (name : String) :
    (rename out (read, written)).lookup name =
      if name = written then (out.lookup read).or (out.lookup written)
      else if name = read then none else out.lookup name := by
  unfold rename
  dsimp only
  cases hread : out.lookup read with
  | some v =>
    rw [Dict.lookup_set, Dict.lookup_pop]
    rfl
  | none =>
    dsimp only
    by_cases hw : name = written
    · rw [if_pos hw, hw, Option.none_or]
    · rw [if_neg hw]
      by_cases hr : name = read
      · rw [if_pos hr, hr, hread]
      · rw [if_neg hr]

theorem patchFields_exact : ∀ {readNames : Dict String String} {sent : Dict String Json}, Renaming readNames →
    Dict.Distinct sent → PatchExact readNames sent (patchFields readNames sent)
  | [], sent, _, hd => ⟨hd, fun _ _ h => absurd h List.not_mem_nil, fun _ _ _ => rfl⟩
  | (read, written) :: readNames, sent, hnames, hd => by
    obtain ⟨hread, hreads⟩ := List.nodup_cons.1 hnames.reads
    obtain ⟨hwritten, hwrites⟩ := List.nodup_cons.1 hnames.written
    have hapart : read ∉ written :: readNames.map Prod.snd := hnames.apart read (by simp)
    rw [List.mem_cons, not_or] at hapart
    have hrest : ∀ name ∈ Dict.keys readNames, name ≠ written ∧ name ∉ readNames.map Prod.snd := by
      intro name hname
      have h := hnames.apart name (List.mem_cons_of_mem _ hname)
      rw [List.map_cons, List.mem_cons, not_or] at h
      exact h
    have ih := @patchFields_exact readNames (rename sent (read, written))
      ⟨hreads, hwrites, fun name hname => (hrest name hname).2⟩ (distinct_rename hd _)
    rw [patchFields_cons]
    refine ⟨ih.once, fun r w hmem => ?_, fun name hname hother => ?_⟩
    · rcases List.mem_cons.1 hmem with heq | hmem
      · obtain ⟨rfl, rfl⟩ := Prod.mk.inj heq
        have hw : w ∉ Dict.keys readNames := fun h => (hrest w h).1 rfl
        rw [ih.others r hread hapart.2, ih.others w hw hwritten, lookup_rename, lookup_rename, if_neg hapart.1,
          if_pos rfl, if_pos rfl]
        exact ⟨rfl, rfl⟩
      · have hr : r ∈ Dict.keys readNames := Dict.mem_keys_of_mem hmem
        have hw : w ∈ readNames.map Prod.snd := List.mem_map.2 ⟨(r, w), hmem, rfl⟩
        have hrr : r ≠ read := fun h => hread (h ▸ hr)
        have hwr : w ≠ read := fun h => hapart.2 (h ▸ hw)
        have hww : w ≠ written := fun h => hwritten (h ▸ hw)
        obtain ⟨hgone, hnew⟩ := ih.renamed r w hmem
        rw [lookup_rename, lookup_rename, if_neg (hrest r hr).1, if_neg hrr, if_neg hww, if_neg hwr] at hnew
        exact ⟨hgone, hnew⟩
    · rw [Dict.keys_cons, List.mem_cons, not_or] at hname
      rw [List.map_cons, List.mem_cons, not_or] at hother
      rw [ih.others name hname.2 hother.2, lookup_rename, if_neg hother.1, if_neg hname.1]

theorem planReadNames_renaming : Renaming planReadNames := ⟨by decide, by decide, by decide⟩

/-! ## Saved searches -/

theorem saved_interchangeable (b : SavedSearchBody) : b.Interchangeable ↔ b.Kept := by
  obtain ⟨state, stateJson⟩ := b
  unfold SavedSearchBody.Interchangeable SavedSearchBody.Kept
  cases stateJson with
  | unset => cases state <;> simp [SavedSearchBody.stateSent, resolve]
  | value a => cases state <;> simp [SavedSearchBody.stateSent, resolve]
  | null => cases state <;> simp [SavedSearchBody.stateSent, resolve]

/-- **Main.** POST takes the read names for core's exactly when no leg under `legs_json` has a null field and no
null read name stands beside a value, PATCH always does, and a saved search unless a null `state_json` stands
beside a state that is not empty. -/
theorem readNames_interchangeable (defaults : Defaults) (post : PlanCreateRequest) (patch : PlanPatch)
    (saved : SavedSearchBody) :
    (post.Interchangeable defaults ↔ post.Kept) ∧ PatchExact planReadNames patch.sent patch.patchFields ∧
      (saved.Interchangeable ↔ saved.Kept) :=
  ⟨post_interchangeable defaults post, patchFields_exact planReadNames_renaming patch.distinct,
    saved_interchangeable saved⟩

/-- A body with both names, and a null: `legs_json` wins, and the null is handed on. -/
def bothNames : PlanPatch where
  sent := [("qty", .int 2), ("legs", .arr []), ("exit_by", .null), ("legs_json", .arr [.obj [("side", .str "buy")]])]
  distinct := by decide
  declared := by decide
  nonempty := by simp

example : bothNames.patchFields =
    [("qty", .int 2), ("legs", .arr [.obj [("side", .str "buy")]]), ("exit_by", .null)] := rfl

/-! ## Nulls -/

/-- A leg of a stock, which has neither strike nor expiry. -/
def stockLeg : PlanLeg := ⟨[("side", .str "buy"), ("sec_type", .str "STK"), ("strike", .null), ("expiry", .null)]⟩

def emptyDefaults : Defaults := ⟨.arr [], .arr []⟩

/-- A leg with null fields is stored without them, and a null under a read name loses to the other name. -/
theorem readNames_fails :
    ¬ PlanCreateRequest.Interchangeable emptyDefaults
        ⟨[("symbol", .str "ZZQ")], .unset, .unset, .value [stockLeg], .unset, by decide⟩ ∧
    ¬ PlanCreateRequest.Interchangeable emptyDefaults
        ⟨[("symbol", .str "ZZQ")], .value [stockLeg], .unset, .null, .unset, by decide⟩ ∧
    ¬ SavedSearchBody.Interchangeable ⟨.value [("search", .str "old")], .null⟩ := by
  refine ⟨fun h => ?_, fun h => ?_, fun h => ?_⟩
  · have hkept := ((post_interchangeable _ _).1 h).legs [stockLeg] rfl stockLeg (by simp) ("strike", .null)
      (by simp [stockLeg])
    cases hkept
  · exact ((post_interchangeable _ _).1 h).legsNull rfl [stockLeg] rfl
  · cases (saved_interchangeable _).1 h rfl _ rfl

end BifrostApi.Strategy
