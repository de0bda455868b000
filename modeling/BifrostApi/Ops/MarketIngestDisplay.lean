import BifrostApi.Ops.MarketIngestConfig
import BifrostApi.Ops.MarketIngestServices

/-!
# The displayed state of an ingest row (`ops/market_ingest_display.py`)

A chain of conditions over the process state, the freshness of a health hash and flags. Three of them say more than
was seen: `_process_counts_as_running` takes `activating` for running, so the branch that would report it as degraded
is never reached (`processState_ne_degraded`), a platform-gateway row is active by its hash alone, whatever its
Deployment is (`neverOverstates_fails`), and a heartbeat that is no time (NaN, or infinite) is not stale
(the third row there). What a fresh and connected heartbeat is, is said of the hash (`FreshConnected`), and what the
two verdicts of `market_ingest_health_clear` make of it is proved (`looksLive_iff_beat`, `writerRecent_iff`).

Every call on Redis is read by itself: `redis c url key` is what the call `c` finds under `key`, and its clock.

| here | there |
| --- | --- |
| `processCountsAsRunning` | `_process_counts_as_running` (market_ingest_display.py:17) |
| `policyOff` | :39-50 |
| `gatewayUrl`, `gatewayState` | :52-68 |
| `managedUrl` | :70 |
| `processState` | :88-95 |
| `deriveIngestDisplayState` | `derive_ingest_display_state` (:22) |
| `platformGatewayManagedForService` | `platform_gateway_managed_for_service` (:118) |
-/

namespace BifrostApi.Ops

open Py

structure DisplayInput where
  serviceId : String
  processActive : String
  redisUrl : Option String
  ibRedisUrl : Option String
  metaKey : String
  runtimeExternallyManaged : Bool
  platformGatewayManaged : Bool
  opsControlProfile : Option String
  runtimeKind : Option String

structure DisplayState where
  runtimeStatus : String
  displayActive : String
  deriving DecidableEq, Repr

/-- The calls on Redis, in the order of the source. -/
inductive HealthCall
  | engineLive | gatewayLive | gatewayRecent | managedLive | managedRecent
  deriving DecidableEq

structure RedisRead where
  health : Option Hash
  now : ℚ

namespace DisplayInput

variable (x : DisplayInput)

def sid : String := canonicalIngestServiceId x.serviceId

def key : String := strip x.metaKey

/-- A URL that is not empty. -/
def liveUrl : Option String := x.redisUrl.filter (· ≠ "")

/-- `ib_redis_url or redis_url`. -/
def healthUrl : Option String := (x.ibRedisUrl.filter (· ≠ "")).or x.liveUrl

/-- Where a platform-gateway row's hash is read. -/
def gatewayUrl : Option String := if x.platformGatewayManaged ∧ x.key ≠ "" then x.healthUrl else none

/-- Where an externally managed row's hash is read. -/
def managedUrl : Option String := if x.runtimeExternallyManaged ∧ x.key ≠ "" then x.liveUrl else none

end DisplayInput

/-- The process state alone. -/
def processState (processActive : String) : DisplayState :=
  let active := strip (lower (if processActive = "" then "unknown" else processActive))
  if processCountsAsRunning processActive then ⟨"active", active⟩
  else if active ∈ ["inactive", "failed", "deactivating"] then ⟨"inactive", active⟩
  else if active = "activating" then ⟨"degraded", active⟩
  else ⟨"unknown", if active = "" then "unknown" else active⟩

section

variable (truthy : Hash → String → Bool) (engineField : String) (redis : HealthCall → String → String → RedisRead)
  (x : DisplayInput)

def looksLive (c : HealthCall) (url : String) : Bool :=
  ingestRedisHealthLooksLive truthy engineField (redis c url x.key).health (redis c url x.key).now x.key x.sid

def writerRecent (c : HealthCall) (url : String) : Bool :=
  ingestRedisHealthWriterRecent (redis c url x.key).health (redis c url x.key).now x.key

/-- An engine that does not run, and that policy may have scaled to zero. -/
def policyOff : Bool :=
  x.sid = "trading_engine" && !processCountsAsRunning x.processActive &&
    !(x.key ≠ "" && x.liveUrl.any (looksLive truthy engineField redis x .engineLive)) &&
    (x.opsControlProfile = some "stg" || x.runtimeKind = some "kubernetes" || x.runtimeExternallyManaged)

def gatewayState (url : String) : DisplayState :=
  if looksLive truthy engineField redis x .gatewayLive url then ⟨"active", "managed@platform-ib-gateway"⟩
  else if writerRecent redis x .gatewayRecent url then ⟨"degraded", "managed@platform-ib-gateway (starting)"⟩
  else ⟨"inactive", "managed@platform-ib-gateway (offline)"⟩

/-- A running process without a heartbeat is left to its process state. -/
def managedState (url : String) : DisplayState :=
  if looksLive truthy engineField redis x .managedLive url then ⟨"active", "managed@k8s"⟩
  else if writerRecent redis x .managedRecent url then ⟨"degraded", "managed@k8s (starting)"⟩
  else if ¬ processCountsAsRunning x.processActive then ⟨"degraded", "managed@k8s (no heartbeat)"⟩
  else processState x.processActive

def deriveIngestDisplayState : DisplayState :=
  if policyOff truthy engineField redis x then ⟨"policy-off", "policy-off (daemon scale 0)"⟩
  else match x.gatewayUrl with
    | some url => gatewayState truthy engineField redis x url
    | none => match x.managedUrl with
      | some url => managedState truthy engineField redis x url
      | none => processState x.processActive

end

/-- `isPlatformGateway` is the core package's `is_platform_ib_gateway_health`, `health` what `hgetall` answers. -/
def platformGatewayManagedForService (isPlatformGateway : Option Hash → Bool) (ibRedisUrl liveRedisUrl : Option String)
    (metaKey serviceId : String) (health : Option Hash) : Bool :=
  if strip serviceId ∉ ibGatewayServiceIds ∨ strip metaKey = "" then false
  else match (ibRedisUrl.filter (· ≠ "")).or (liveRedisUrl.filter (· ≠ "")) with
    | none => false
    | some _ =>
      let m := readHealthHash health (strip metaKey)
      isPlatformGateway (if m = [] then none else some m)

/-! ## What is promised -/

/-- The state of the process, as its branches compare it. -/
def DisplayInput.process (x : DisplayInput) : String := strip (lower x.processActive)

/-- The time on a hash is a number. -/
def BeatAt (m : Hash) (updated : Number) : Prop :=
  ∃ raw, m.lookup "updated_at" = some raw ∧ Number.ofText raw = some updated

/-- A heartbeat of the last 90 seconds. -/
def FreshBeat (m : Hash) (now : ℚ) : Prop := ∃ t : ℚ, BeatAt m (.fin t) ∧ 0 < t ∧ now - t ≤ 90

/-- A heartbeat that no clock gave. -/
def TimelessBeat (m : Hash) : Prop := BeatAt m .nan ∨ BeatAt m (.inf false)

/-- The flags of the hash that speak for the service, one of them set. -/
def Connected (truthy : Hash → String → Bool) (engineField : String) (m : Hash) (sid : String) : Prop :=
  (sid ∈ ["ib_ingestor", "ib_market", "ib_operator", "ib_account_agent"] ∧ truthy m "connected" = true) ∨
  (sid ∈ ["ib_operator", "ib_account_agent"] ∧ truthy m "host_connected" = true) ∨
  (sid = "ib_operator" ∧ truthy m "operator_connected" = true) ∨
  (sid = "trading_engine" ∧ truthy m engineField = true)

section

variable (truthy : Hash → String → Bool) (engineField : String) (redis : HealthCall → String → String → RedisRead)
  (x : DisplayInput)

/-- What a call found is a fresh heartbeat of the connected service. -/
def FreshConnected (c : HealthCall) (url : String) : Prop :=
  ∃ m, (redis c url x.key).health = some m ∧ Connected truthy engineField m x.sid ∧
    FreshBeat m (redis c url x.key).now

/-- It is connected, and its heartbeat is no time. -/
def TimelessConnected (c : HealthCall) (url : String) : Prop :=
  ∃ m, (redis c url x.key).health = some m ∧ Connected truthy engineField m x.sid ∧ TimelessBeat m

/-- Somebody wrote it lately. -/
def FreshWritten (c : HealthCall) (url : String) : Prop :=
  ∃ m, (redis c url x.key).health = some m ∧ FreshBeat m (redis c url x.key).now

def EndlessWritten (c : HealthCall) (url : String) : Prop :=
  ∃ m, (redis c url x.key).health = some m ∧ BeatAt m (.inf false)

/-- A platform-gateway row's hash, as this call found it, meets `P`. -/
def DisplayInput.Gateway (c : HealthCall) (P : HealthCall → String → Prop) : Prop :=
  ∃ url, x.gatewayUrl = some url ∧ P c url

/-- The hash that was consulted does, a platform-gateway row's or an externally managed one's. -/
def DisplayInput.Consulted (gateway managed : HealthCall) (P : HealthCall → String → Prop) : Prop :=
  x.Gateway gateway P ∨ x.gatewayUrl = none ∧ ∃ url, x.managedUrl = some url ∧ P managed url

/-- The engine does not run, its hash does not say that it does, and it is one that policy scales to zero. -/
structure PolicyOff : Prop where
  engine : x.sid = "trading_engine"
  stopped : x.process ≠ "active" ∧ x.process ≠ "activating"
  silent : ∀ url, x.key ≠ "" → x.liveUrl = some url →
    ¬ FreshConnected truthy engineField redis x .engineLive url ∧
    ¬ TimelessConnected truthy engineField redis x .engineLive url
  scaled : x.opsControlProfile = some "stg" ∨ x.runtimeKind = some "kubernetes" ∨ x.runtimeExternallyManaged = true

structure NeverOverstates : Prop where
  active : (deriveIngestDisplayState truthy engineField redis x).runtimeStatus = "active" →
    x.Consulted .gatewayLive .managedLive (FreshConnected truthy engineField redis x) ∨ x.process = "active"
  activating : x.process = "activating" →
    ¬ x.Consulted .gatewayLive .managedLive (FreshConnected truthy engineField redis x) →
    ¬ x.Consulted .gatewayRecent .managedRecent (FreshWritten redis x) →
    (deriveIngestDisplayState truthy engineField redis x).runtimeStatus = "degraded"
  gateway : x.platformGatewayManaged = true →
    (deriveIngestDisplayState truthy engineField redis x).runtimeStatus = "active" →
    x.Gateway .gatewayLive (FreshConnected truthy engineField redis x) ∧ x.process = "active"

/-- No process is half started without a heartbeat, every platform-gateway row with a live hash has its Deployment
up, one without a hash to read is not up, and a connected hash has a time, unless the process of an externally
managed row is up without it. An engine that is off by policy is none of these. -/
structure FullyStarted : Prop where
  activating : x.process = "activating" →
    x.Consulted .gatewayLive .managedLive (FreshConnected truthy engineField redis x) ∨
    x.Consulted .gatewayRecent .managedRecent (FreshWritten redis x) ∨
    x.Consulted .gatewayRecent .managedRecent (EndlessWritten redis x)
  gatewayLive : x.Gateway .gatewayLive (FreshConnected truthy engineField redis x) →
    ¬ PolicyOff truthy engineField redis x → x.process = "active"
  gatewayRead : x.platformGatewayManaged = true → x.gatewayUrl = none → x.process ≠ "active"
  timed : x.Consulted .gatewayLive .managedLive (TimelessConnected truthy engineField redis x) →
    ¬ PolicyOff truthy engineField redis x → x.gatewayUrl = none ∧ x.process = "active"

end

/-! ## A heartbeat and the two verdicts on it -/

/-- A time that is not the zero of a missing one was written. -/
theorem parseTs_eq_iff {m : Hash} {updated : Number} (h : updated ≠ .fin 0) :
    parseTs (m.lookup "updated_at") = updated ↔ BeatAt m updated := by
  unfold BeatAt
  cases hraw : m.lookup "updated_at" with
  | none => exact iff_of_false (fun hzero => h hzero.symm) (by rintro ⟨raw, hsome, -⟩; cases hsome)
  | some raw =>
    have hbeat : (∃ raw', some raw = some raw' ∧ Number.ofText raw' = some updated) ↔
        Number.ofText raw = some updated := by simp
    rw [hbeat, parseTs]
    by_cases hblank : strip raw = ""
    · rw [if_pos hblank, ofText_blank hblank]
      exact iff_of_false (fun hzero => h hzero.symm) (by simp)
    · rw [if_neg hblank]
      cases Number.ofText raw with
      | none => exact iff_of_false (fun hzero => h hzero.symm) (by simp)
      | some updated' => simp

/-- The test for a heartbeat of the last 90 seconds, passed by an endless one too. -/
theorem recent_iff {m : Hash} {now : ℚ} :
    (Number.lt (.fin 0) (parseTs (m.lookup "updated_at")) &&
      Number.le (Number.sub (.fin now) (parseTs (m.lookup "updated_at"))) healthRecentMaxS) = true ↔
    FreshBeat m now ∨ BeatAt m (.inf false) := by
  have hendless := @parseTs_eq_iff m (.inf false) (by simp)
  have htime : ∀ t : ℚ, 0 < t → (parseTs (m.lookup "updated_at") = .fin t ↔ BeatAt m (.fin t)) := fun t ht =>
    parseTs_eq_iff fun hzero => absurd ht (by rw [Number.fin.inj hzero]; exact Rat.lt_irrefl)
  rw [← hendless]
  constructor
  · intro h
    obtain ⟨hpos, hage⟩ := Bool.and_eq_true_iff.1 h
    cases hupdated : parseTs (m.lookup "updated_at") with
    | nan =>
      rw [hupdated] at hpos
      cases hpos
    | inf neg => cases neg with
      | true =>
        rw [hupdated] at hpos
        cases hpos
      | false => exact Or.inr rfl
    | fin t =>
      rw [hupdated] at hpos hage
      have ht : 0 < t := of_decide_eq_true hpos
      have hle : now - t ≤ 90 := by
        rw [Rat.sub_eq_add_neg]
        exact of_decide_eq_true hage
      exact Or.inl ⟨t, (htime t ht).1 hupdated, ht, hle⟩
  · rintro (⟨t, hbeat, ht, hage⟩ | hupdated)
    · rw [Rat.sub_eq_add_neg] at hage
      rw [(htime t ht).2 hbeat]
      exact Bool.and_eq_true_iff.2 ⟨decide_eq_true ht, decide_eq_true hage⟩
    · rw [hupdated]
      rfl

/-- The negated test, passed by every heartbeat that is no time. -/
theorem notStale_iff {m : Hash} {now : ℚ} :
    (Number.le (parseTs (m.lookup "updated_at")) (.fin 0) ||
      Number.lt healthRecentMaxS (Number.sub (.fin now) (parseTs (m.lookup "updated_at")))) = false ↔
    FreshBeat m now ∨ TimelessBeat m := by
  rw [not_stale_iff, recent_iff, parseTs_eq_iff (by simp), TimelessBeat]
  exact ⟨fun h => h.elim (fun hnan => Or.inr (Or.inl hnan)) (Or.imp_right Or.inr),
    fun h => h.elim (fun hfresh => Or.inr (Or.inl hfresh)) (Or.imp_right Or.inr)⟩

theorem FreshBeat.not_timeless {m : Hash} {now : ℚ} (h : FreshBeat m now) : ¬ TimelessBeat m := by
  obtain ⟨t, ⟨raw, hraw, ht⟩, -, -⟩ := h
  rintro (⟨raw', hraw', htime⟩ | ⟨raw', hraw', htime⟩)
  all_goals
    obtain rfl := Option.some.inj (hraw.symm.trans hraw')
    rw [ht] at htime
    cases htime

theorem hashLooksConnected_iff {truthy : Hash → String → Bool} {engineField : String} {m : Hash} {sid : String} :
    hashLooksConnected truthy engineField m sid = true ↔ Connected truthy engineField m sid := by
  unfold hashLooksConnected Connected
  by_cases hmarket : sid ∈ ["ib_ingestor", "ib_market"]
  · rw [if_pos hmarket]
    rcases List.mem_pair.1 hmarket with rfl | rfl <;> simp
  · by_cases hoperator : sid = "ib_operator"
    · subst hoperator
      simp only [hmarket, if_false, if_true, Bool.or_eq_true]
      simp [or_comm]
    · by_cases hagent : sid = "ib_account_agent"
      · subst hagent
        simp [or_comm]
      · by_cases hengine : sid = "trading_engine"
        · subst hengine
          simp
        · simp only [hmarket, hoperator, hagent, hengine, if_false]
          simp_all

section

variable {truthy : Hash → String → Bool} {engineField : String} {redis : HealthCall → String → String → RedisRead}
  {x : DisplayInput}

theorem key_ne_empty_of_gatewayUrl {url : String} (h : x.gatewayUrl = some url) : strip x.key ≠ "" := by
  rw [DisplayInput.gatewayUrl] at h
  split at h
  · rename_i hread
    rw [DisplayInput.key, strip_strip]
    exact hread.2
  · cases h

theorem key_ne_empty_of_managedUrl {url : String} (h : x.managedUrl = some url) : strip x.key ≠ "" := by
  rw [DisplayInput.managedUrl] at h
  split at h
  · rename_i hread
    rw [DisplayInput.key, strip_strip]
    exact hread.2
  · cases h

/-- The live verdict: a fresh connected heartbeat, or a connected one that is no time. -/
theorem looksLive_iff_beat {c : HealthCall} {url : String} (hkey : strip x.key ≠ "") :
    looksLive truthy engineField redis x c url = true ↔
      FreshConnected truthy engineField redis x c url ∨ TimelessConnected truthy engineField redis x c url := by
  have hsid : strip x.sid = x.sid := (canonicalIngestServiceId_spec x.serviceId).1
  unfold FreshConnected TimelessConnected
  unfold looksLive ingestRedisHealthLooksLive
  rw [if_neg hkey, hsid]
  cases (redis c url x.key).health with
  | none => simp
  | some m =>
    have hexists : ∀ P : Hash → Prop, (∃ m', some m = some m' ∧ P m') ↔ P m := by simp
    rw [hexists, hexists, ← and_or_left, ← notStale_iff, ← hashLooksConnected_iff]
    cases m with
    | nil =>
      refine iff_of_false (by simp) fun h => ?_
      have hstale := h.2
      simp [parseTs, Number.le] at hstale
    | cons kv m =>
      dsimp only
      split
      · rename_i hstale
        exact iff_of_false (by simp) fun h => by simp [h.2] at hstale
      · rename_i hfresh
        rw [Bool.not_eq_true] at hfresh
        exact ⟨fun h => ⟨h, hfresh⟩, fun h => h.1⟩

/-- The recent verdict: a fresh heartbeat, or an endless one. -/
theorem writerRecent_iff {c : HealthCall} {url : String} (hkey : strip x.key ≠ "") :
    writerRecent redis x c url = true ↔ FreshWritten redis x c url ∨ EndlessWritten redis x c url := by
  unfold FreshWritten EndlessWritten
  unfold writerRecent ingestRedisHealthWriterRecent
  rw [if_neg hkey]
  cases (redis c url x.key).health with
  | none => simp
  | some m =>
    have hexists : ∀ P : Hash → Prop, (∃ m', some m = some m' ∧ P m') ↔ P m := by simp
    rw [hexists, hexists, ← recent_iff]
    cases m with
    | nil => simp [parseTs, Number.lt]
    | cons kv m => rfl

theorem FreshConnected.not_timeless {c : HealthCall} {url : String}
    (h : FreshConnected truthy engineField redis x c url) : ¬ TimelessConnected truthy engineField redis x c url := by
  obtain ⟨m, hm, -, hfresh⟩ := h
  rintro ⟨m', hm', -, htimeless⟩
  obtain rfl := Option.some.inj (hm.symm.trans hm')
  exact hfresh.not_timeless htimeless

end

/-! ## The process state -/

theorem running_iff {processActive : String} : processCountsAsRunning processActive = true ↔
    strip (lower processActive) = "active" ∨ strip (lower processActive) = "activating" := by
  rw [processCountsAsRunning, decide_eq_true_eq, List.mem_cons, List.mem_singleton]

/-- The process state alone is active for every process that counts as running. -/
theorem processState_active {processActive : String} :
    (processState processActive).runtimeStatus = "active" ↔ processCountsAsRunning processActive = true := by
  by_cases hrunning : processCountsAsRunning processActive = true
  · simp [processState, hrunning]
  · refine iff_of_false ?_ hrunning
    simp only [processState, if_neg hrunning]
    split_ifs <;> simp

/-- The branch for a process that is activating is never reached. -/
theorem processState_ne_degraded (processActive : String) :
    (processState processActive).runtimeStatus ≠ "degraded" := by
  by_cases hrunning : processCountsAsRunning processActive = true
  · simp [processState, hrunning]
  · simp only [processState, if_neg hrunning]
    by_cases hempty : processActive = ""
    · rw [if_pos hempty]
      decide
    · have hactivating : strip (lower processActive) ≠ "activating" := fun h => hrunning (running_iff.2 (Or.inr h))
      rw [if_neg hempty, if_neg hactivating]
      split_ifs <;> simp

/-- What a Deployment's counts make of the process state. -/
theorem processActiveFromReplicaCounts_active {counts : Option (Nat × Nat)} :
    strip (lower (processActiveFromReplicaCounts counts)) = "active" ↔
      ∃ replicas ready, counts = some (replicas, ready) ∧ 0 < replicas ∧ replicas ≤ ready := by
  cases counts with
  | none =>
    refine iff_of_false (by decide) ?_
    rintro ⟨replicas, ready, h, -⟩
    cases h
  | some counts =>
    obtain ⟨replicas, ready⟩ := counts
    rw [processActiveFromReplicaCounts]
    by_cases hzero : replicas = 0
    · rw [if_pos hzero]
      refine iff_of_false (by decide) ?_
      rintro ⟨replicas', ready', heq, hpos, -⟩
      obtain ⟨rfl, -⟩ := Prod.mk.inj (Option.some.inj heq)
      omega
    · by_cases hready : replicas ≤ ready
      · rw [if_neg hzero, if_pos hready]
        exact iff_of_true (by decide) ⟨replicas, ready, rfl, Nat.pos_of_ne_zero hzero, hready⟩
      · rw [if_neg hzero, if_neg hready]
        refine iff_of_false (by split <;> decide) ?_
        rintro ⟨replicas', ready', heq, -, hle⟩
        obtain ⟨rfl, rfl⟩ := Prod.mk.inj (Option.some.inj heq)
        exact hready hle

/-- A row that the writer check calls the gateway's has a hash to read. -/
theorem gatewayUrl_of_managed {isPlatformGateway : Option Hash → Bool} {health : Option Hash} {x : DisplayInput}
    {serviceId : String} (h : x.platformGatewayManaged = true)
    (hmanaged : platformGatewayManagedForService isPlatformGateway x.ibRedisUrl x.redisUrl x.metaKey serviceId health =
      true) : x.gatewayUrl ≠ none := by
  unfold platformGatewayManagedForService at hmanaged
  split at hmanaged
  · cases hmanaged
  · rename_i hkey
    obtain ⟨-, hkey⟩ := not_or.1 hkey
    split at hmanaged
    · cases hmanaged
    · rename_i url hurl
      rw [DisplayInput.gatewayUrl, if_pos ⟨h, hkey⟩, DisplayInput.healthUrl, DisplayInput.liveUrl, hurl]
      exact fun hnone => by cases hnone

/-! ## The verdict -/

section

variable {truthy : Hash → String → Bool} {engineField : String} {redis : HealthCall → String → String → RedisRead}
  {x : DisplayInput}

/-- A platform-gateway row without a hash to read has no hash to read for the other reason either. -/
theorem managedUrl_none (h : x.platformGatewayManaged = true) (hurl : x.gatewayUrl = none) : x.managedUrl = none := by
  by_cases hkey : x.key = ""
  · rw [DisplayInput.managedUrl, if_neg fun hboth => hboth.2 hkey]
  · rw [DisplayInput.gatewayUrl, if_pos ⟨h, hkey⟩, DisplayInput.healthUrl, Option.or_eq_none_iff] at hurl
    rw [DisplayInput.managedUrl, hurl.2, ite_self]

theorem running_process : processCountsAsRunning x.processActive = true ↔
    x.process = "active" ∨ x.process = "activating" := running_iff

theorem policyOff_iff : policyOff truthy engineField redis x = true ↔ PolicyOff truthy engineField redis x := by
  have hrunning := @running_process x
  have hkey : strip x.key = x.key := strip_strip x.metaKey
  have hsilent : (x.key ≠ "" && x.liveUrl.any (looksLive truthy engineField redis x .engineLive)) = false ↔
      ∀ url, x.key ≠ "" → x.liveUrl = some url →
        ¬ FreshConnected truthy engineField redis x .engineLive url ∧
        ¬ TimelessConnected truthy engineField redis x .engineLive url := by
    by_cases hempty : x.key = ""
    · simp [hempty]
    · cases hurl : x.liveUrl with
      | none => simp
      | some url =>
        have hlive := @looksLive_iff_beat truthy engineField redis x .engineLive url (by rw [hkey]; exact hempty)
        rw [← Bool.not_eq_true]
        simp [hempty, hlive]
  unfold policyOff
  simp only [Bool.and_eq_true, Bool.or_eq_true, Bool.not_eq_true', decide_eq_true_eq]
  rw [hsilent, ← Bool.not_eq_true, hrunning, not_or, or_assoc]
  exact ⟨fun h => ⟨h.1.1.1, h.1.1.2, h.1.2, h.2⟩, fun h => ⟨⟨⟨h.engine, h.stopped⟩, h.silent⟩, h.scaled⟩⟩

theorem neverOverstates_iff : NeverOverstates truthy engineField redis x ↔
    ((deriveIngestDisplayState truthy engineField redis x).runtimeStatus = "active" →
      x.Consulted .gatewayLive .managedLive (FreshConnected truthy engineField redis x) ∨ x.process = "active") ∧
    (x.process = "activating" →
      ¬ x.Consulted .gatewayLive .managedLive (FreshConnected truthy engineField redis x) →
      ¬ x.Consulted .gatewayRecent .managedRecent (FreshWritten redis x) →
      (deriveIngestDisplayState truthy engineField redis x).runtimeStatus = "degraded") ∧
    (x.platformGatewayManaged = true →
      (deriveIngestDisplayState truthy engineField redis x).runtimeStatus = "active" →
      x.Gateway .gatewayLive (FreshConnected truthy engineField redis x) ∧ x.process = "active") :=
  ⟨fun h => ⟨h.active, h.activating, h.gateway⟩, fun h => ⟨h.1, h.2.1, h.2.2⟩⟩

theorem fullyStarted_iff : FullyStarted truthy engineField redis x ↔
    (x.process = "activating" →
      x.Consulted .gatewayLive .managedLive (FreshConnected truthy engineField redis x) ∨
      x.Consulted .gatewayRecent .managedRecent (FreshWritten redis x) ∨
      x.Consulted .gatewayRecent .managedRecent (EndlessWritten redis x)) ∧
    (x.Gateway .gatewayLive (FreshConnected truthy engineField redis x) →
      policyOff truthy engineField redis x = false → x.process = "active") ∧
    (x.platformGatewayManaged = true → x.gatewayUrl = none → x.process ≠ "active") ∧
    (x.Consulted .gatewayLive .managedLive (TimelessConnected truthy engineField redis x) →
      policyOff truthy engineField redis x = false → x.gatewayUrl = none ∧ x.process = "active") := by
  rw [← Bool.not_eq_true, policyOff_iff]
  exact ⟨fun h => ⟨h.activating, h.gatewayLive, h.gatewayRead, h.timed⟩,
    fun h => ⟨h.1, h.2.1, h.2.2.1, h.2.2.2⟩⟩

/-- The hash that a row with a gateway's hash to read consults. -/
theorem consulted_of_gatewayUrl {gateway managed : HealthCall} {P : HealthCall → String → Prop} {url : String}
    (h : x.gatewayUrl = some url) : x.Consulted gateway managed P ↔ P gateway url := by
  simp [DisplayInput.Consulted, DisplayInput.Gateway, h]

theorem consulted_of_managedUrl {gateway managed : HealthCall} {P : HealthCall → String → Prop} {url : String}
    (hgateway : x.gatewayUrl = none) (h : x.managedUrl = some url) :
    x.Consulted gateway managed P ↔ P managed url := by
  simp [DisplayInput.Consulted, DisplayInput.Gateway, hgateway, h]

/-- No hash is consulted for a row without one to read. -/
theorem not_consulted {gateway managed : HealthCall} {P : HealthCall → String → Prop} (hgateway : x.gatewayUrl = none)
    (hmanaged : x.managedUrl = none) : ¬ x.Consulted gateway managed P := by
  simp [DisplayInput.Consulted, DisplayInput.Gateway, hgateway, hmanaged]

theorem gateway_of_gatewayUrl {c : HealthCall} {P : HealthCall → String → Prop} {url : String}
    (h : x.gatewayUrl = some url) : x.Gateway c P ↔ P c url := by
  simp [DisplayInput.Gateway, h]

theorem not_gateway {c : HealthCall} {P : HealthCall → String → Prop} (h : x.gatewayUrl = none) :
    ¬ x.Gateway c P := by
  simp [DisplayInput.Gateway, h]

/-- The engine is off by policy: it does not run, and is not shown as if it did. -/
theorem neverOverstates_policyOff (h : policyOff truthy engineField redis x = true) :
    NeverOverstates truthy engineField redis x ↔ FullyStarted truthy engineField redis x := by
  obtain ⟨hactive, hactivating⟩ := (policyOff_iff.1 h).stopped
  have hstatus : (deriveIngestDisplayState truthy engineField redis x).runtimeStatus = "policy-off" := by
    rw [deriveIngestDisplayState, if_pos h]
  rw [neverOverstates_iff, fullyStarted_iff, hstatus, h]
  simp [hactive, hactivating]

/-- A gateway's row with a hash to read. -/
theorem neverOverstates_gateway {url : String} (h : policyOff truthy engineField redis x = false)
    (hurl : x.gatewayUrl = some url) :
    NeverOverstates truthy engineField redis x ↔ FullyStarted truthy engineField redis x := by
  have hmanaged : x.platformGatewayManaged = true := by
    by_contra hflag
    rw [DisplayInput.gatewayUrl, if_neg fun hboth => hflag hboth.1] at hurl
    cases hurl
  have hkey := key_ne_empty_of_gatewayUrl hurl
  have hlive := @looksLive_iff_beat truthy engineField redis x .gatewayLive url hkey
  have hrecent := @writerRecent_iff redis x .gatewayRecent url hkey
  have hstatus : (deriveIngestDisplayState truthy engineField redis x).runtimeStatus =
      if looksLive truthy engineField redis x .gatewayLive url then "active"
      else if writerRecent redis x .gatewayRecent url then "degraded" else "inactive" := by
    simp only [deriveIngestDisplayState, h, hurl, gatewayState, Bool.false_eq_true, if_false]
    split_ifs <;> rfl
  rw [neverOverstates_iff, fullyStarted_iff, hstatus, h]
  simp only [consulted_of_gatewayUrl hurl, gateway_of_gatewayUrl hurl, hmanaged, hurl]
  by_cases htimeless : TimelessConnected truthy engineField redis x .gatewayLive url
  · -- active, by a heartbeat that is no time
    have hnot : ¬ FreshConnected truthy engineField redis x .gatewayLive url := fun hfresh =>
      hfresh.not_timeless htimeless
    simp [hlive.2 (Or.inr htimeless), htimeless, hnot]
  · by_cases hfresh : FreshConnected truthy engineField redis x .gatewayLive url
    · simp [hlive.2 (Or.inl hfresh), htimeless, hfresh]
    · have hdead := Bool.eq_false_iff.2 (mt hlive.1 (not_or.2 ⟨hfresh, htimeless⟩))
      rw [hdead]
      cases hwriter : writerRecent redis x .gatewayRecent url with
      | true =>
        rcases hrecent.1 hwriter with hwritten | hendless
        · simp [htimeless, hfresh, hwritten]
        · simp [htimeless, hfresh, hendless]
      | false =>
        obtain ⟨hwritten, hendless⟩ := not_or.1 (mt hrecent.2 (Bool.eq_false_iff.1 hwriter))
        simp [htimeless, hfresh, hwritten, hendless]

/-- A row of another workload with a hash to read. -/
theorem neverOverstates_managed {url : String} (h : policyOff truthy engineField redis x = false)
    (hgateway : x.gatewayUrl = none) (hurl : x.managedUrl = some url) :
    NeverOverstates truthy engineField redis x ↔ FullyStarted truthy engineField redis x := by
  have hflag : x.platformGatewayManaged = false := by
    by_contra hflag
    rw [Bool.not_eq_false] at hflag
    rw [managedUrl_none hflag hgateway] at hurl
    cases hurl
  have hkey := key_ne_empty_of_managedUrl hurl
  have hlive := @looksLive_iff_beat truthy engineField redis x .managedLive url hkey
  have hrecent := @writerRecent_iff redis x .managedRecent url hkey
  have hrunning := @running_process x
  have hprocess := @processState_active x.processActive
  have hstatus : (deriveIngestDisplayState truthy engineField redis x).runtimeStatus =
      if looksLive truthy engineField redis x .managedLive url then "active"
      else if writerRecent redis x .managedRecent url then "degraded"
      else if ¬ processCountsAsRunning x.processActive then "degraded"
      else (processState x.processActive).runtimeStatus := by
    simp only [deriveIngestDisplayState, h, hgateway, hurl, managedState, Bool.false_eq_true, if_false]
    split_ifs <;> rfl
  rw [neverOverstates_iff, fullyStarted_iff, hstatus, h]
  simp only [consulted_of_managedUrl hgateway hurl, not_gateway hgateway, hflag, hgateway, Bool.false_eq_true,
    false_imp_iff, and_true, true_and, true_imp_iff]
  by_cases htimeless : TimelessConnected truthy engineField redis x .managedLive url
  · -- active, by a heartbeat that is no time, or by its process
    have hnot : ¬ FreshConnected truthy engineField redis x .managedLive url := fun hfresh =>
      hfresh.not_timeless htimeless
    by_cases hup : x.process = "active" <;> simp [hlive.2 (Or.inr htimeless), htimeless, hnot, hup]
  · by_cases hfresh : FreshConnected truthy engineField redis x .managedLive url
    · simp [hlive.2 (Or.inl hfresh), htimeless, hfresh]
    · have hdead := Bool.eq_false_iff.2 (mt hlive.1 (not_or.2 ⟨hfresh, htimeless⟩))
      rw [hdead]
      cases hwriter : writerRecent redis x .managedRecent url with
      | true =>
        rcases hrecent.1 hwriter with hwritten | hendless
        · simp [htimeless, hfresh, hwritten]
        · simp [htimeless, hfresh, hendless]
      | false =>
        obtain ⟨hwritten, hendless⟩ := not_or.1 (mt hrecent.2 (Bool.eq_false_iff.1 hwriter))
        by_cases hrun : processCountsAsRunning x.processActive = true
        · have hactive := hprocess.2 hrun
          simp only [htimeless, hfresh, hwritten, hendless, hrun, not_true_eq_false, hactive, Bool.false_eq_true,
            or_self, if_false]
          rcases hrunning.1 hrun with hup | hup <;> simp [hup]
        · have hstopped := (not_congr hrunning).1 hrun
          simp only [htimeless, hfresh, hwritten, hendless, hrun]
          simp [not_or.1 hstopped]

/-- A row whose process alone is looked at: one that is half started is never degraded. -/
theorem neverOverstates_process (h : policyOff truthy engineField redis x = false) (hgateway : x.gatewayUrl = none)
    (hmanaged : x.managedUrl = none) :
    NeverOverstates truthy engineField redis x ↔ FullyStarted truthy engineField redis x := by
  have hdegraded := processState_ne_degraded x.processActive
  have hstatus : (deriveIngestDisplayState truthy engineField redis x).runtimeStatus =
      (processState x.processActive).runtimeStatus := by
    simp only [deriveIngestDisplayState, h, hgateway, hmanaged, Bool.false_eq_true, if_false]
  rw [neverOverstates_iff, fullyStarted_iff, hstatus]
  simp only [not_consulted hgateway hmanaged, not_gateway hgateway, hdegraded, hgateway, processState_active,
    false_or, or_false, false_and, not_false_eq_true, true_imp_iff, false_imp_iff, and_true, true_and, imp_false,
    not_true_eq_false]
  constructor
  · rintro ⟨-, hactivating, hmanaged⟩
    exact ⟨hactivating, fun hflag hup => hmanaged hflag (running_process.2 (Or.inl hup))⟩
  · rintro ⟨hactivating, hmanaged⟩
    refine ⟨fun hrun => (running_process.1 hrun).resolve_right hactivating, hactivating, fun hflag hrun => ?_⟩
    exact hmanaged hflag ((running_process.1 hrun).resolve_right hactivating)

/-- **Main.** The displayed state overstates nothing exactly when no process is half started without a heartbeat,
every platform-gateway row that is alive is fully up, and no connected heartbeat is without a time. -/
theorem deriveIngestDisplayState_neverOverstates (truthy : Hash → String → Bool) (engineField : String)
    (redis : HealthCall → String → String → RedisRead) (x : DisplayInput) :
    NeverOverstates truthy engineField redis x ↔ FullyStarted truthy engineField redis x := by
  cases hpolicy : policyOff truthy engineField redis x with
  | true => exact neverOverstates_policyOff hpolicy
  | false => cases hgateway : x.gatewayUrl with
    | some url => exact neverOverstates_gateway hpolicy hgateway
    | none => cases hmanaged : x.managedUrl with
      | some url => exact neverOverstates_managed hpolicy hgateway hmanaged
      | none => exact neverOverstates_process hpolicy hgateway hmanaged

/-- A row as the service list builds it: flagged by the writer check, its process the counts of its Deployment. What
it promises is that its heartbeat has a time, and that its Deployment is ready whenever it is fresh. -/
theorem gatewayRow_neverOverstates {isPlatformGateway : Option Hash → Bool} {health : Option Hash}
    {serviceId : String} {counts : Option (Nat × Nat)} (h : ¬ PolicyOff truthy engineField redis x)
    (hflag : x.platformGatewayManaged = true)
    (hmanaged : platformGatewayManagedForService isPlatformGateway x.ibRedisUrl x.redisUrl x.metaKey serviceId health =
      true)
    (hcounts : x.processActive = processActiveFromReplicaCounts counts) (hstarting : x.process ≠ "activating") :
    NeverOverstates truthy engineField redis x ↔
      ¬ x.Gateway .gatewayLive (TimelessConnected truthy engineField redis x) ∧
      (x.Gateway .gatewayLive (FreshConnected truthy engineField redis x) →
        ∃ replicas ready, counts = some (replicas, ready) ∧ 0 < replicas ∧ replicas ≤ ready) := by
  obtain ⟨url, hurl⟩ := Option.ne_none_iff_exists'.1 (gatewayUrl_of_managed hflag hmanaged)
  have hprocess : x.process = "active" ↔
      ∃ replicas ready, counts = some (replicas, ready) ∧ 0 < replicas ∧ replicas ≤ ready := by
    rw [DisplayInput.process, hcounts]
    exact processActiveFromReplicaCounts_active
  have hon : policyOff truthy engineField redis x = false := Bool.eq_false_iff.2 (mt policyOff_iff.1 h)
  rw [neverOverstates_gateway hon hurl, fullyStarted_iff, hon, hprocess]
  simp only [consulted_of_gatewayUrl hurl, gateway_of_gatewayUrl hurl, hurl, hstarting]
  simp [and_comm]

end

/-! ## A starting process, a gateway that is down, and a heartbeat without a time -/

/-- A row whose workload has one of two replicas ready, and whose hash is not looked at. -/
def startingRow : DisplayInput where
  serviceId := "quotes"
  processActive := processActiveFromReplicaCounts (some (2, 1))
  redisUrl := some "redis://redis-live:6379/0"
  ibRedisUrl := none
  metaKey := "bifrost:health:quotes"
  runtimeExternallyManaged := false
  platformGatewayManaged := false
  opsControlProfile := some "prod"
  runtimeKind := some "kubernetes"

/-- A gateway row whose Deployment is scaled to zero. -/
def stoppedGatewayRow : DisplayInput where
  serviceId := "ib_operator"
  processActive := processActiveFromReplicaCounts (some (0, 0))
  redisUrl := some "redis://redis-live:6379/0"
  ibRedisUrl := some "redis://redis-ib:6379/0"
  metaKey := "bifrost:health:ws_ib_operator"
  runtimeExternallyManaged := true
  platformGatewayManaged := true
  opsControlProfile := some "prod"
  runtimeKind := some "kubernetes"

/-- The engine of another cluster, its process down. -/
def stoppedEngineRow : DisplayInput where
  serviceId := "trading_engine"
  processActive := "inactive"
  redisUrl := some "redis://redis-live:6379/0"
  ibRedisUrl := none
  metaKey := "bifrost:health:daemon_strategy_trading"
  runtimeExternallyManaged := true
  platformGatewayManaged := false
  opsControlProfile := some "prod"
  runtimeKind := none

/-- A flag of a hash that is "1". -/
def oneFlag (m : Hash) (k : String) : Bool := m.lookup k = some "1"

/-- Every hash was written ten seconds ago by a connected writer. -/
def connectedRedis : HealthCall → String → String → RedisRead := fun _ _ _ =>
  ⟨some [("connected", "1"), ("updated_at", "1000")], 1010⟩

/-- Every hash is an active engine's, with a heartbeat that is no number. -/
def nanRedis : HealthCall → String → String → RedisRead := fun _ _ _ =>
  ⟨some [("engine_ops_active", "1"), ("updated_at", "nan")], 1010⟩

/-- All three rows are active: the first half started, the second without a replica, the third without a process and
with a heartbeat that is no time. -/
theorem neverOverstates_fails :
    deriveIngestDisplayState oneFlag "engine_ops_active" connectedRedis startingRow = ⟨"active", "activating"⟩ ∧
    ¬ NeverOverstates oneFlag "engine_ops_active" connectedRedis startingRow ∧
    deriveIngestDisplayState oneFlag "engine_ops_active" connectedRedis stoppedGatewayRow =
      ⟨"active", "managed@platform-ib-gateway"⟩ ∧
    ¬ NeverOverstates oneFlag "engine_ops_active" connectedRedis stoppedGatewayRow ∧
    deriveIngestDisplayState oneFlag "engine_ops_active" nanRedis stoppedEngineRow = ⟨"active", "managed@k8s"⟩ ∧
    ¬ NeverOverstates oneFlag "engine_ops_active" nanRedis stoppedEngineRow := by
  have hstarting : deriveIngestDisplayState oneFlag "engine_ops_active" connectedRedis startingRow =
      ⟨"active", "activating"⟩ := by decide +kernel
  have hstopped : deriveIngestDisplayState oneFlag "engine_ops_active" connectedRedis stoppedGatewayRow =
      ⟨"active", "managed@platform-ib-gateway"⟩ := by decide +kernel
  have hnan : deriveIngestDisplayState oneFlag "engine_ops_active" nanRedis stoppedEngineRow =
      ⟨"active", "managed@k8s"⟩ := by decide +kernel
  refine ⟨hstarting, fun hnever => ?_, hstopped, fun hnever => ?_, hnan, fun hnever => ?_⟩
  · have hnoUrl : startingRow.gatewayUrl = none ∧ startingRow.managedUrl = none := by decide +kernel
    rcases hnever.active (by rw [hstarting]) with hconsulted | hup
    · exact not_consulted hnoUrl.1 hnoUrl.2 hconsulted
    · revert hup
      decide +kernel
  · have hup := (hnever.gateway rfl (by rw [hstopped])).2
    revert hup
    decide +kernel
  · have hgateway : stoppedEngineRow.gatewayUrl = none := rfl
    have hurl : stoppedEngineRow.managedUrl = some "redis://redis-live:6379/0" := by decide +kernel
    have hbeat : Number.ofText "nan" = some .nan := by decide +kernel
    rcases hnever.active (by rw [hnan]) with hconsulted | hup
    · obtain ⟨m, hm, -, hfresh⟩ := (consulted_of_managedUrl hgateway hurl).1 hconsulted
      obtain rfl := Option.some.inj hm
      exact hfresh.not_timeless (Or.inl ⟨"nan", rfl, hbeat⟩)
    · revert hup
      decide +kernel

end BifrostApi.Ops
