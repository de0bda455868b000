import BifrostApi.Lib.Patch
import BifrostApi.Lib.Run
import BifrostApi.Py.Text

/-!
# `POST /config/ib` under concurrent requests (`monitor/routers/config.py`)

A request is a small machine: it reads the stored settings, writes all three fields, and reads again for
its answer. The steps of several requests interleave in any order; `write_ib_config` stores its three
arguments atomically and succeeds, `get_ib_config` answers what is stored.

"Omitted keeps the stored value" is done by writing back what was read (config.py:73-80): a request that
wrote in between loses its update (`noLostUpdate_fails`). The sibling handler writes the sent fields only
(`only=sent`, :100), "as /config/ib already does".

| here | there |
| --- | --- |
| `optionalAccountField` | `_optional_account_field` (config.py:45) |
| `postConfigIb` | the steps of `post_config_ib` (config.py:65) |
| `writeIbConfig` | `write_ib_config` |
-/

namespace BifrostApi.Monitor

open Py

inductive Field
  | ibHostAccountId | streamHostAccountId | streamSecondaryAccountId
  deriving DecidableEq, Repr

/-- The stored settings; `none` is null. -/
structure IbConfig where
  ibHostAccountId : Option String
  streamHostAccountId : Option String
  streamSecondaryAccountId : Option String
  deriving DecidableEq, Repr

/-- `current.get(field)`. -/
def IbConfig.get (config : IbConfig) : Field → Option String
  | .ibHostAccountId => config.ibHostAccountId
  | .streamHostAccountId => config.streamHostAccountId
  | .streamSecondaryAccountId => config.streamSecondaryAccountId

/-- A request body: what it sent for each field, `none` for a field it left out. -/
structure IbConfigBody where
  fieldsSet : Field → Option (Option String)

/-- `s = str(v).strip(); s or None`, null staying null. -/
def stripOrNull : Option String → Option String
  | none => none
  | some v => if strip v = "" then none else some (strip v)

def optionalAccountField (body : IbConfigBody) (field : Field) (current : IbConfig) : Option String :=
  match body.fieldsSet field with
  | none => stripOrNull (current.get field)
  | some v => stripOrNull v

/-- What `write_ib_config` stores. -/
def writeIbConfig (hostId streamHostId streamSecondaryId : Option String) : IbConfig :=
  ⟨hostId, streamHostId, streamSecondaryId⟩

/-- Where a request stands. -/
inductive Phase
  | start
  /-- It has read `current` (config.py:71). -/
  | read (current : IbConfig)
  /-- `write_ib_config` returned (:79). -/
  | written
  | answered (statusCode : Nat) (merged : Option IbConfig)
  deriving DecidableEq, Repr

/-- The next step of one request: the settings after it, and where it stands. -/
def postConfigIb (controlViaDb : Bool) (body : IbConfigBody) (stored : IbConfig) : Phase → IbConfig × Phase
  | .start => if controlViaDb then (stored, .read stored) else (stored, .answered 503 none)
  | .read current =>
    let hostId := optionalAccountField body .ibHostAccountId current
    let streamHostId := optionalAccountField body .streamHostAccountId current
    let streamSecondaryId := optionalAccountField body .streamSecondaryAccountId current
    (writeIbConfig hostId streamHostId streamSecondaryId, .written)
  | .written => (stored, .answered 200 (some stored))
  | .answered code merged => (stored, .answered code merged)

/-- Requests `ι` and the settings they share. -/
structure State (ι : Type) where
  stored : IbConfig
  phase : ι → Phase

variable {ι : Type}

/-- Request `i` takes its next step; the control DB is there. -/
def step [DecidableEq ι] (bodies : ι → IbConfigBody) (st : State ι) (i : ι) : State ι :=
  let r := postConfigIb true (bodies i) st.stored (st.phase i)
  ⟨r.1, Function.update st.phase i r.2⟩

def initial (stored : IbConfig) : State ι := ⟨stored, fun _ => .start⟩

/-! ## A write is an overwrite -/

/-- What a request owns: the fields it sent, in the form they are stored in. -/
def own (body : IbConfigBody) (field : Field) : Option (Option String) := (body.fieldsSet field).map stripOrNull

theorem stripOrNull_idem (v : Option String) : stripOrNull (stripOrNull v) = stripOrNull v := by
  cases v with
  | none => rfl
  | some s =>
    by_cases h : strip s = ""
    · simp [stripOrNull, h]
    · simp [stripOrNull, h, strip_strip]

theorem own_normal (body : IbConfigBody) (field : Field) (v : Option String) (h : own body field = some v) :
    stripOrNull v = v := by
  obtain ⟨w, -, rfl⟩ := Option.map_eq_some_iff.1 h
  exact stripOrNull_idem w

theorem optionalAccountField_eq (body : IbConfigBody) (field : Field) (current : IbConfig) :
    optionalAccountField body field current = Patch.overwrite stripOrNull (own body) current.get field := by
  unfold optionalAccountField Patch.overwrite own
  cases body.fieldsSet field <;> rfl

theorem write_get (body : IbConfigBody) (stored current : IbConfig) :
    (postConfigIb true body stored (.read current)).1.get =
      Patch.overwrite stripOrNull (own body) current.get := by
  funext field
  rw [← optionalAccountField_eq]
  cases field <;> rfl

/-! ## Runs -/

/-- The request has written. -/
def Phase.Wrote : Phase → Prop
  | .written | .answered _ _ => True
  | .start | .read _ => False

/-- The settings are the initial ones patched by the requests that have written. -/
def Settled (bodies : ι → IbConfigBody) (init : IbConfig) (st : State ι) : Prop :=
  Patch.Patched stripOrNull (fun i => own (bodies i)) init.get {i | (st.phase i).Wrote} st.stored.get

/-- The step does not write back a stale value: what the request read of a field it left out is, up to
`strip`, what is stored there now. -/
def CurrentRead (bodies : ι → IbConfigBody) (st : State ι) (i : ι) : Prop :=
  ∀ current, st.phase i = .read current → ∀ field, (bodies i).fieldsSet field = none →
    stripOrNull (current.get field) = stripOrNull (st.stored.get field)

/-- No field is sent by two of the requests. -/
def DisjointFields (bodies : ι → IbConfigBody) : Prop :=
  ∀ i j field, i ≠ j → ((bodies i).fieldsSet field).isSome → (bodies j).fieldsSet field = none

/-- What the requests may expect once all have answered. -/
structure NoLostUpdate (bodies : ι → IbConfigBody) (init stored : IbConfig) : Prop where
  sent : ∀ i field v, (bodies i).fieldsSet field = some v → stored.get field = stripOrNull v
  omitted : ∀ field, (∀ i, (bodies i).fieldsSet field = none) →
    stripOrNull (stored.get field) = stripOrNull (init.get field)

def AllAnswered (st : State ι) : Prop := ∀ i, ∃ code merged, st.phase i = .answered code merged

theorem settled_initial (bodies : ι → IbConfigBody) (init : IbConfig) :
    Settled bodies init (initial init) := by
  have hnone : {i : ι | ((initial init : State ι).phase i).Wrote} = ∅ :=
    Set.eq_empty_of_forall_notMem fun i hi => hi
  rw [Settled, hnone]
  exact Patch.patched_empty

/-- Only a write moves the settings or the set of requests that have written. -/
theorem wrote_step [DecidableEq ι] (bodies : ι → IbConfigBody) (st : State ι) (i : ι) :
    (∃ current, st.phase i = .read current ∧
      (step bodies st i).stored.get = Patch.overwrite stripOrNull (own (bodies i)) current.get ∧
      {j | ((step bodies st i).phase j).Wrote} = insert i {j | (st.phase j).Wrote}) ∨
    ((∀ current, st.phase i ≠ .read current) ∧ (step bodies st i).stored = st.stored ∧
      {j | ((step bodies st i).phase j).Wrote} = {j | (st.phase j).Wrote}) := by
  have hset : ∀ phase, st.phase i = phase →
      {j | ((step bodies st i).phase j).Wrote} =
        {j | (Function.update st.phase i (postConfigIb true (bodies i) st.stored phase).2 j).Wrote} := by
    rintro phase rfl
    rfl
  cases hphase : st.phase i with
  | read current =>
    refine Or.inl ⟨current, rfl, ?_, ?_⟩
    · have hstored : (step bodies st i).stored = (postConfigIb true (bodies i) st.stored (.read current)).1 :=
        congrArg (fun phase => (postConfigIb true (bodies i) st.stored phase).1) hphase
      rw [hstored, write_get]
    · rw [hset _ hphase]
      ext j
      by_cases hj : j = i
      · subst hj; simp [postConfigIb, Phase.Wrote]
      · simp [hj]
  | start | written | answered code merged =>
    refine Or.inr ⟨fun current => by simp, by simp [step, postConfigIb, hphase], ?_⟩
    rw [hset _ hphase]
    ext j
    by_cases hj : j = i
    · subst hj; simp [postConfigIb, Phase.Wrote, hphase]
    · simp [hj]

theorem disjointOwners {bodies : ι → IbConfigBody} (h : DisjointFields bodies) :
    Patch.DisjointOwners fun i => own (bodies i) := by
  intro i j field hij hi
  have hsent : ((bodies i).fieldsSet field).isSome := by simpa [own] using hi
  simp [own, h i j field hij hsent]

/-- One step keeps the settings a patch of the initial ones exactly when it writes nothing stale. -/
theorem settled_step [DecidableEq ι] {bodies : ι → IbConfigBody} (hdisjoint : DisjointFields bodies)
    {init : IbConfig}
    (st : State ι) (i : ι) (h : Settled bodies init st) :
    Settled bodies init (step bodies st i) ↔ CurrentRead bodies st i := by
  unfold Settled at h ⊢
  rcases wrote_step bodies st i with ⟨current, hphase, hstored, hwrote⟩ | ⟨hphase, hstored, hwrote⟩
  · have hi : i ∉ {j | (st.phase j).Wrote} := by simp [hphase, Phase.Wrote]
    rw [hwrote, hstored, Patch.patched_insert_iff stripOrNull_idem (fun j => own_normal (bodies j))
      (disjointOwners hdisjoint) hi h]
    constructor
    · intro hcurrent current' hphase' field hfield
      rw [hphase] at hphase'
      cases hphase'
      exact hcurrent field (by simp [own, hfield])
    · intro hcurrent field hfield
      exact hcurrent current hphase field (by simpa [own] using hfield)
  · rw [hwrote, hstored]
    exact iff_of_true h fun current hread => absurd hread (hphase current)

theorem noLostUpdate_of_settled {bodies : ι → IbConfigBody} {init : IbConfig} {st : State ι}
    (h : Settled bodies init st) (hall : AllAnswered st) : NoLostUpdate bodies init st.stored := by
  have hwrote : ∀ i, i ∈ {j | (st.phase j).Wrote} := by
    intro i
    obtain ⟨code, merged, hphase⟩ := hall i
    simp [hphase, Phase.Wrote]
  constructor
  · intro i field v hv
    exact h.owned i (hwrote i) field _ (by simp [own, hv])
  · intro field hfield
    exact h.kept field fun i _ => by simp [own, hfield i]

/-- **Main.** Whatever the interleaving, the settings stay the initial ones patched by the requests that
have written exactly when no write step stores a stale value; then, once all have answered, no update
is lost. -/
theorem postConfigIb_noLostUpdate [DecidableEq ι] {bodies : ι → IbConfigBody} (hdisjoint : DisjointFields bodies)
    (init : IbConfig) (steps : List ι) :
    (Run.Always (step bodies) (Settled bodies init) (initial init) steps ↔
      Run.Along (step bodies) (CurrentRead bodies) (initial init) steps) ∧
    (Run.Along (step bodies) (CurrentRead bodies) (initial init) steps →
      AllAnswered (Run.run (step bodies) (initial init) steps) →
      NoLostUpdate bodies init (Run.run (step bodies) (initial init) steps).stored) := by
  have hiff : Run.Always (step bodies) (Settled bodies init) (initial init) steps ↔
      Run.Along (step bodies) (CurrentRead bodies) (initial init) steps :=
    Run.always_iff_along (settled_step hdisjoint) (settled_initial bodies init)
  exact ⟨hiff, fun halong hall => noLostUpdate_of_settled (hiff.2 halong).last hall⟩

/-! ## Two requests -/

/-- One sends the host account, the other the stream host account. -/
def twoBodies : Bool → IbConfigBody
  | false => ⟨fun field => if field = .ibHostAccountId then some (some "U1") else none⟩
  | true => ⟨fun field => if field = .streamHostAccountId then some (some "U2") else none⟩

def noneStored : IbConfig := ⟨none, none, none⟩

theorem twoBodies_disjoint : DisjointFields twoBodies := by
  intro i j field hij hi
  cases i <;> cases j <;> cases field <;> first | rfl | exact absurd rfl hij | exact absurd hi (by decide)

theorem postConfigIb_noLostUpdate_two :
    (Run.Always (step twoBodies) (Settled twoBodies noneStored) (initial noneStored)
        [false, false, false, true, true, true] ↔
      Run.Along (step twoBodies) (CurrentRead twoBodies) (initial noneStored)
        [false, false, false, true, true, true]) ∧
    (Run.Along (step twoBodies) (CurrentRead twoBodies) (initial noneStored)
        [false, false, false, true, true, true] →
      AllAnswered (Run.run (step twoBodies) (initial noneStored) [false, false, false, true, true, true]) →
      NoLostUpdate twoBodies noneStored
        (Run.run (step twoBodies) (initial noneStored) [false, false, false, true, true, true]).stored) :=
  postConfigIb_noLostUpdate twoBodies_disjoint noneStored [false, false, false, true, true, true]

/-- Both read, then both write, then both answer: the host account of the first is gone. -/
theorem noLostUpdate_fails :
    AllAnswered (Run.run (step twoBodies) (initial noneStored) [false, true, false, true, false, true]) ∧
    ¬ NoLostUpdate twoBodies noneStored
      (Run.run (step twoBodies) (initial noneStored) [false, true, false, true, false, true]).stored := by
  constructor
  · rintro (_ | _)
    · exact ⟨200, _, rfl⟩
    · exact ⟨200, _, rfl⟩
  · intro h
    have hsent := h.sent false .ibHostAccountId (some "U1") rfl
    revert hsent
    decide

end BifrostApi.Monitor
