import Mathlib.Data.Rat.Defs
import BifrostApi.Lib.Run

/-!
# The `/status` cache (`monitor/routers/status.py`)

`get_status` keeps its last payload in a module-level cache for `_STATUS_CACHE_TTL` seconds and looks
there before it looks at the request (status.py:230-233), so a request with `include_accounts=1` can be
answered with the light accounts another request stored, and the other way round (`honours_fails`).

A request brings the clock readings and what the reader answers while it is served. Of the payload only
the accounts are modelled; every other reader call either returns or raises (`othersOk`).

| here | there |
| --- | --- |
| `includeFull` | `include_full` (:310) |
| `readAccounts` | the two `try` blocks around `get_accounts_from_tables` (:314-327) |
| `getStatus` | `get_status` (:227) |
-/

namespace BifrostApi.Monitor.Status

variable {Account : Type}

/-- One call of `get_accounts_from_tables`. -/
inductive ReadOutcome (Account : Type)
  | answered (accounts : List Account)
  | typeError
  | raised
  deriving DecidableEq, Repr

/-- `answer or []`; a failed read leaves the list empty. -/
def ReadOutcome.accounts : ReadOutcome Account → List Account
  | .answered accounts => accounts
  | .typeError | .raised => []

@[simp] theorem ReadOutcome.accounts_typeError : (typeError : ReadOutcome Account).accounts = [] := rfl

/-- One `GET /status`: the query, the clock at its start and at its end, and the reader's answers. -/
structure Request (Account : Type) where
  /-- `request.query_params.get("include_accounts")` -/
  includeAccounts : Option String
  now : ℚ
  storedAt : ℚ
  /-- `hasattr(reader, "get_accounts_from_tables")` -/
  hasReader : Bool
  /-- `include_position_exec_times=True` -/
  fullRead : ReadOutcome Account
  /-- `include_position_exec_times=False` -/
  lightRead : ReadOutcome Account
  /-- The call without the keyword. -/
  bareRead : ReadOutcome Account
  othersOk : Bool

/-- `_STATUS_CACHE_TTL`. -/
def statusCacheTtl : ℚ := 15

/-- The request asks for the full accounts. -/
def Request.WantsAccounts (r : Request Account) : Prop := r.includeAccounts = some "1"

instance (r : Request Account) : Decidable r.WantsAccounts := inferInstanceAs (Decidable (_ = _))

/-- `include_full`, under the setting `status_include_accounts`. -/
def includeFull (setting : Bool) (r : Request Account) : Bool := setting || decide r.WantsAccounts

/-- The accounts of a payload. A core without the keyword raises `TypeError`; then the full read is
tried once more without it. -/
def readAccounts (setting : Bool) (r : Request Account) : List Account :=
  if r.hasReader then
    match if includeFull setting r then r.fullRead else r.lightRead with
    | .answered accounts => accounts
    | .typeError => if includeFull setting r then r.bareRead.accounts else []
    | .raised => []
  else []

/-- A payload: its accounts, and the request it was assembled for. -/
structure Payload (Account : Type) where
  accounts : List Account
  assembledFor : Request Account

inductive Response (Account : Type)
  | status (payload : Payload Account)
  /-- `_status_error_payload()` -/
  | error

/-- A request that was answered. -/
structure Served (Account : Type) where
  request : Request Account
  response : Response Account
  fromCache : Bool

/-- `_status_cache` with `_status_cache_ts`, and the requests served so far. -/
structure State (Account : Type) where
  cache : Option (Response Account × ℚ)
  served : List (Served Account)

def initial : State Account := ⟨none, []⟩

/-- The cached response, while it is fresh. -/
def fresh (st : State Account) (now : ℚ) : Option (Response Account) :=
  match st.cache with
  | some (response, ts) => if now - ts < statusCacheTtl then some response else none
  | none => none

def assemble (setting : Bool) (r : Request Account) : Payload Account := ⟨readAccounts setting r, r⟩

def getStatus (setting : Bool) (st : State Account) (r : Request Account) : State Account :=
  match fresh st r.now with
  | some response => { st with served := ⟨r, response, true⟩ :: st.served }
  | none =>
    if r.othersOk then
      let payload := assemble setting r
      ⟨some (.status payload, r.storedAt), ⟨r, .status payload, false⟩ :: st.served⟩
    else { st with served := ⟨r, .error, false⟩ :: st.served }

/-! ## Which read the accounts come from -/

/-- The accounts are those of the full read, the empty list if it failed. -/
structure FullAccounts (setting : Bool) (p : Payload Account) : Prop where
  full : includeFull setting p.assembledFor = true
  accounts : p.accounts = if p.assembledFor.hasReader then p.assembledFor.fullRead.accounts else []

/-- The accounts are those of the light read. -/
structure LightAccounts (setting : Bool) (p : Payload Account) : Prop where
  light : includeFull setting p.assembledFor = false
  accounts : p.accounts = if p.assembledFor.hasReader then p.assembledFor.lightRead.accounts else []

/-- The full read fails with `TypeError` and the call without the keyword answers accounts. -/
def BareAccounts (r : Request Account) : Prop :=
  r.hasReader = true ∧ r.fullRead = .typeError ∧ r.bareRead.accounts ≠ []

theorem readAccounts_full {setting : Bool} {r : Request Account} (hfull : includeFull setting r = true)
    (hread : r.fullRead ≠ .typeError) :
    readAccounts setting r = if r.hasReader then r.fullRead.accounts else [] := by
  unfold readAccounts
  rw [hfull]
  cases hcase : r.fullRead with
  | answered _ | raised => simp [ReadOutcome.accounts]
  | typeError => exact absurd hcase hread

theorem readAccounts_bare {setting : Bool} {r : Request Account} (hfull : includeFull setting r = true)
    (hread : r.fullRead = .typeError) :
    readAccounts setting r = if r.hasReader then r.bareRead.accounts else [] := by
  unfold readAccounts
  rw [hfull, hread]
  rfl

theorem readAccounts_light {setting : Bool} {r : Request Account} (hlight : includeFull setting r = false) :
    readAccounts setting r = if r.hasReader then r.lightRead.accounts else [] := by
  unfold readAccounts
  rw [hlight]
  cases r.lightRead <;> simp [ReadOutcome.accounts]

theorem fullAccounts_assemble (setting : Bool) (r : Request Account) :
    FullAccounts setting (assemble setting r) ↔ includeFull setting r = true ∧ ¬ BareAccounts r := by
  constructor
  · rintro ⟨hfull, haccounts⟩
    change includeFull setting r = true at hfull
    refine ⟨hfull, fun ⟨hreader, herror, hbare⟩ => hbare ?_⟩
    have hbareRead := readAccounts_bare hfull herror
    have hfullRead : readAccounts setting r = if r.hasReader then r.fullRead.accounts else [] := haccounts
    rw [hfullRead, herror, ReadOutcome.accounts_typeError, if_pos hreader, if_pos hreader] at hbareRead
    exact hbareRead.symm
  · rintro ⟨hfull, hbare⟩
    refine ⟨hfull, ?_⟩
    by_cases herror : r.fullRead = .typeError
    · refine (readAccounts_bare hfull herror).trans ?_
      by_cases hreader : r.hasReader = true
      · have hnone : r.bareRead.accounts = [] := by
          by_contra hne
          exact hbare ⟨hreader, herror, hne⟩
        simp [assemble, herror, hnone]
      · simp [assemble, hreader]
    · exact readAccounts_full hfull herror

theorem lightAccounts_assemble (setting : Bool) (r : Request Account) :
    LightAccounts setting (assemble setting r) ↔ includeFull setting r = false :=
  ⟨fun h => h.light, fun hlight => ⟨hlight, readAccounts_light hlight⟩⟩

/-! ## Runs -/

/-- What every answer of a run promises. -/
structure Honours (setting : Bool) (st : State Account) : Prop where
  full : ∀ s ∈ st.served, ∀ p, s.response = .status p → s.request.WantsAccounts → FullAccounts setting p
  light : ∀ s ∈ st.served, ∀ p, s.response = .status p → ¬ s.request.WantsAccounts → setting = false →
    LightAccounts setting p
  error_not_stored : ∀ entry, st.cache = some entry → entry.1 ≠ .error
  error_not_served : ∀ s ∈ st.served, s.fromCache = true → s.response ≠ .error

/-- A request answered from the cache asks for what the request that filled it read; one answered afresh
gets the answer of the read it asks for. -/
structure SameKind (setting : Bool) (st : State Account) (r : Request Account) : Prop where
  cached : ∀ p, fresh st r.now = some (.status p) →
    (r.WantsAccounts → includeFull setting p.assembledFor = true ∧ ¬ BareAccounts p.assembledFor) ∧
    (¬ r.WantsAccounts → setting = false → includeFull setting p.assembledFor = false)
  read : fresh st r.now = none → r.othersOk = true → r.WantsAccounts → ¬ BareAccounts r

/-- The cache holds a payload, as it was assembled. -/
def CacheAssembled (setting : Bool) (st : State Account) : Prop :=
  ∀ entry, st.cache = some entry → ∃ r, entry.1 = .status (assemble setting r)

/-- An answer keeps the promise to its request. -/
def Promise (setting : Bool) (r : Request Account) (p : Payload Account) : Prop :=
  (r.WantsAccounts → FullAccounts setting p) ∧
  (¬ r.WantsAccounts → setting = false → LightAccounts setting p)

theorem fresh_mem {st : State Account} {now : ℚ} {response : Response Account}
    (h : fresh st now = some response) : ∃ ts, st.cache = some (response, ts) := by
  unfold fresh at h
  split at h
  · rename_i response' ts hcache
    split at h
    · cases h; exact ⟨ts, hcache⟩
    · cases h
  · cases h

/-- What one request does. -/
theorem getStatus_cases (setting : Bool) (st : State Account) (r : Request Account) :
    (∃ response, fresh st r.now = some response ∧
      getStatus setting st r = { st with served := ⟨r, response, true⟩ :: st.served }) ∨
    (fresh st r.now = none ∧ r.othersOk = true ∧ getStatus setting st r =
      ⟨some (.status (assemble setting r), r.storedAt), ⟨r, .status (assemble setting r), false⟩ :: st.served⟩) ∨
    (fresh st r.now = none ∧ r.othersOk = false ∧
      getStatus setting st r = { st with served := ⟨r, .error, false⟩ :: st.served }) := by
  unfold getStatus
  cases hfresh : fresh st r.now with
  | some response => exact Or.inl ⟨response, rfl, rfl⟩
  | none =>
    cases hothers : r.othersOk with
    | true => exact Or.inr (Or.inl ⟨rfl, rfl, rfl⟩)
    | false => exact Or.inr (Or.inr ⟨rfl, rfl, rfl⟩)

theorem cacheAssembled_step {setting : Bool} {st : State Account} (h : CacheAssembled setting st)
    (r : Request Account) : CacheAssembled setting (getStatus setting st r) := by
  rcases getStatus_cases setting st r with ⟨response, -, heq⟩ | ⟨-, -, heq⟩ | ⟨-, -, heq⟩
  · rw [heq]; exact h
  · rw [heq]
    intro entry hentry
    cases hentry
    exact ⟨r, rfl⟩
  · rw [heq]; exact h

/-- Serving one more request keeps all promises exactly when it keeps its own. -/
theorem honours_cons {setting : Bool} {st : State Account} (h : Honours setting st)
    (cache : Option (Response Account × ℚ)) (s : Served Account)
    (hstored : ∀ entry, cache = some entry → entry.1 ≠ .error)
    (herror : s.fromCache = true → s.response ≠ .error) :
    Honours setting ⟨cache, s :: st.served⟩ ↔ ∀ p, s.response = .status p → Promise setting s.request p := by
  constructor
  · intro h' p hp
    exact ⟨h'.full s (by simp) p hp, h'.light s (by simp) p hp⟩
  · intro hpromise
    constructor
    · intro s' hs' p hp
      rcases List.mem_cons.1 hs' with rfl | hold
      · exact (hpromise p hp).1
      · exact h.full s' hold p hp
    · intro s' hs' p hp
      rcases List.mem_cons.1 hs' with rfl | hold
      · exact (hpromise p hp).2
      · exact h.light s' hold p hp
    · exact hstored
    · intro s' hs'
      rcases List.mem_cons.1 hs' with rfl | hold
      · exact herror
      · exact h.error_not_served s' hold

/-- One request keeps the promises exactly when the cache entry it meets, or its own read, is of its
kind. -/
theorem honours_step {setting : Bool} {st : State Account} (hcache : CacheAssembled setting st)
    (r : Request Account) (h : Honours setting st) :
    Honours setting (getStatus setting st r) ↔ SameKind setting st r := by
  rcases getStatus_cases setting st r with ⟨response, hfresh, heq⟩ | ⟨hfresh, hothers, heq⟩ | ⟨hfresh, hothers, heq⟩
  · obtain ⟨ts, hentry⟩ := fresh_mem hfresh
    obtain ⟨filler, hfiller⟩ := hcache _ hentry
    obtain rfl : response = .status (assemble setting filler) := hfiller
    rw [heq]
    refine (honours_cons h _ _ h.error_not_stored (by simp)).trans ?_
    simp only [Response.status.injEq, forall_eq', Promise, fullAccounts_assemble, lightAccounts_assemble]
    refine ⟨fun hkind => ⟨fun p hp => ?_, fun hnone => ?_⟩, fun hkind => hkind.cached _ hfresh⟩
    · rw [hfresh] at hp
      cases hp
      exact hkind
    · rw [hfresh] at hnone
      cases hnone
  · rw [heq]
    refine (honours_cons h _ _ (fun entry hentry => by cases hentry; simp) (by simp)).trans ?_
    simp only [Response.status.injEq, forall_eq', Promise, fullAccounts_assemble, lightAccounts_assemble]
    refine ⟨fun hkind => ⟨fun p hp => ?_, fun _ _ hwants => (hkind.1 hwants).2⟩, fun hkind => ⟨?_, ?_⟩⟩
    · rw [hfresh] at hp
      cases hp
    · intro hwants
      exact ⟨by simp [includeFull, hwants], hkind.read hfresh hothers hwants⟩
    · intro hwants hsetting
      simp [includeFull, hwants, hsetting]
  · rw [heq]
    refine (honours_cons h _ _ h.error_not_stored (by simp)).trans ?_
    refine iff_of_true (fun p hp => by cases hp) ⟨fun p hp => ?_, fun _ hok => ?_⟩
    · rw [hfresh] at hp
      cases hp
    · rw [hothers] at hok
      cases hok

/-- **Main.** In every run the answers keep their promises in every state reached exactly when no request
is answered from an entry that a request of the other kind stored, and no full read falls back to the
call without the keyword. -/
theorem getStatus_honours (setting : Bool) (requests : List (Request Account)) :
    Run.Always (getStatus setting) (Honours setting) initial requests ↔
      Run.Along (getStatus setting) (SameKind setting) initial requests := by
  have hcache : CacheAssembled setting (initial : State Account) := fun entry hentry => by cases hentry
  have hhonours : Honours setting (initial : State Account) :=
    ⟨fun s hs => absurd hs List.not_mem_nil, fun s hs => absurd hs List.not_mem_nil,
      fun entry hentry => (by cases hentry), fun s hs => absurd hs List.not_mem_nil⟩
  exact Run.always_iff_along_of (fun st r h _ => cacheAssembled_step h r)
    (fun st r h _ hst => honours_step h r hst) hcache Run.along_true hhonours

/-! ## Two kinds of request on one entry -/

/-- A request at second `now`, with one account on the light read and two on the full one. -/
def requestAt (now : ℚ) (includeAccounts : Option String) : Request Nat where
  includeAccounts := includeAccounts
  now := now
  storedAt := now
  hasReader := true
  fullRead := .answered [1, 2]
  lightRead := .answered [1]
  bareRead := .answered [1, 2]
  othersOk := true

/-- A light request at 0 s, then one with `include_accounts=1` at 1 s, which is answered with the one
account of the light read. -/
theorem honours_fails :
    ¬ Run.Always (getStatus false) (Honours false) initial [requestAt 0 none, requestAt 1 (some "1")] := by
  intro h
  have hserved : (⟨requestAt 1 (some "1"), .status (assemble false (requestAt 0 none)), true⟩ : Served Nat) ∈
      (Run.run (getStatus false) initial [requestAt 0 none, requestAt 1 (some "1")]).served := by
    have hfresh : fresh (getStatus false initial (requestAt 0 none)) (requestAt 1 (some "1")).now =
        some (.status (assemble false (requestAt 0 none))) := by
      have htime : (1 : ℚ) - 0 < statusCacheTtl := by decide +kernel
      exact if_pos htime
    rw [Run.run_cons, Run.run_cons, Run.run_nil, getStatus, hfresh]
    exact List.mem_cons_self
  have hfull := (h.last.full _ hserved _ rfl rfl).full
  revert hfull
  decide

end BifrostApi.Monitor.Status
