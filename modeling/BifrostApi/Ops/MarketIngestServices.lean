import BifrostApi.Ops.ExecutorKubernetes
import BifrostApi.Ops.HealthHash

/-!
# Clearing orphaned control leases (`ops/routers/market_ingest.py`)

`GET /ops/market-ingest/services` drops the control lease of a row whose process looks dead. The verdict
combines the health hash, the age of the control write and the workload's state, and each of these turns
"could not tell" into "dead": a hash that cannot be read is empty, a time that cannot be read is no time,
a workload that cannot be read has zero replicas. So a lease can be dropped because a probe failed
(`leaseSafe_fails`).

The rows are those of the config, the executor is the `KubernetesExecutor` the app builds. The display
fields of an item, derived after the lease decision, are not part of this module.

| here | there |
| --- | --- |
| `processActive` | market_ingest.py:101-111 |
| `serveLease` | the lease block (:112-150) |
| `marketIngestServices` | the loop over `rows` (:95) |
-/

namespace BifrostApi.Ops

open Py

/-- A configured service. -/
structure IngestRow where
  id : String
  systemdUnit : String
  k8sDeployment : String
  redisMetaKey : String
  deriving DecidableEq, Repr

/-- What Redis and Kubernetes answer while one row is served. -/
structure RowAnswers where
  api : WorkloadApi
  controlEnv : Option (Option String)
  controlHost : Option (Option String)
  controlUpdatedAt : Option (Option String)
  health : Option Hash
  /-- `time.time()` when the health hash is judged, and when the control write is. -/
  healthNow : ℚ
  leaseNow : ℚ

/-- The lease fields of a row once it is served, and the keys `clear_control_env` was called with. -/
structure LeaseResult where
  controlEnv : Option String
  controlHost : Option String
  controlUpdatedAt : Option Number
  cleared : List String

/-- `_RECENT_CONTROL_WRITE_GRACE_SEC`. -/
def recentControlWriteGraceSec : Number := .fin 120

def processCountsAsRunning (active : String) : Bool := strip (lower active) ∈ ["active", "activating"]

def processActive (exc : KubernetesExecutor) (row : IngestRow) (api : WorkloadApi) : String :=
  if row.k8sDeployment ≠ "" then
    processActiveFromReplicaCounts (deploymentReplicaCounts exc api row.k8sDeployment)
  else if row.systemdUnit ≠ "" then systemctlIsActive exc api row.systemdUnit
  else "inactive"

def recentControlWrite (updatedAt : Option Number) (now : ℚ) : Bool :=
  match updatedAt with
  | some ts => Number.le (Number.sub (.fin now) ts) recentControlWriteGraceSec
  | none => false

section

variable (truthy : Hash → String → Bool) (engineField : String)

def serveLease (rurl : Option String) (exc : KubernetesExecutor) (row : IngestRow) (ans : RowAnswers) :
    LeaseResult :=
  let active := processActive exc row ans.api
  let metaKey := strip row.redisMetaKey
  let rowSid := strip row.id
  if rurl.getD "" = "" ∨ metaKey = "" then ⟨none, none, none, []⟩
  else
    let controlEnv := readControlEnv ans.controlEnv
    let controlHost := readControlHost ans.controlHost
    let controlUpdatedAt := readControlUpdatedAt ans.controlUpdatedAt
    if controlEnv ≠ none ∧ rowSid ≠ "trading_engine" then
      let isLive := ingestRedisHealthLooksLive truthy engineField ans.health ans.healthNow metaKey rowSid
      if ¬ isLive ∧ ¬ recentControlWrite controlUpdatedAt ans.leaseNow ∧ ¬ processCountsAsRunning active then
        -- an exception of the call is swallowed
        ⟨none, none, none, [metaKey]⟩
      else ⟨controlEnv, controlHost, controlUpdatedAt, []⟩
    else ⟨controlEnv, controlHost, controlUpdatedAt, []⟩

def marketIngestServices (rurl : Option String) (exc : KubernetesExecutor)
    (rows : List (IngestRow × RowAnswers)) : List (IngestRow × LeaseResult) :=
  rows.map fun r => (r.1, serveLease truthy engineField rurl exc r.1 r.2)

end

/-! ## What the probes really saw -/

/-- The counts the API answered: those of the object found, zero for a workload it does not have. -/
def ApiCounts (api : WorkloadApi) : Option (Nat × Nat) :=
  match api.deployment, api.statefulSet with
  | .found replicas ready, _ => some (replicas.getD 0, ready.getD 0)
  | .notFound, .found replicas ready => some (replicas.getD 0, ready.getD 0)
  | .notFound, .notFound => some (0, 0)
  | .notFound, .failed | .failed, _ => none

/-- The cluster is reachable and the row names a workload the executor may ask about. -/
def Askable (exc : KubernetesExecutor) (row : IngestRow) : Bool :=
  exc.k8sReachable && (row.k8sDeployment != "" ||
    (row.systemdUnit != "" && exc.isAllowed row.systemdUnit && (deploymentForUnit row.systemdUnit).isSome))

/-- The workload's counts, where they were actually read. -/
def workloadRead (exc : KubernetesExecutor) (row : IngestRow) (api : WorkloadApi) : Option (Nat × Nat) :=
  if Askable exc row then ApiCounts api else none

/-- Replicas wanted, and at least one ready. -/
def Up (counts : Nat × Nat) : Prop := 0 < counts.1 ∧ 0 < counts.2

instance (counts : Nat × Nat) : Decidable (Up counts) := inferInstanceAs (Decidable (_ ∧ _))

/-- The control write's time, as it was read: a missing, blank or unreadable one is no time. -/
def controlTime (raw : Option String) : Option Number :=
  raw.bind fun raw => (Number.ofText raw).filter (· ≠ .nan)

theorem processActiveFromReplicaCounts_running (counts : Option (Nat × Nat)) :
    processCountsAsRunning (processActiveFromReplicaCounts counts) = true ↔ ∃ c, counts = some c ∧ Up c := by
  cases counts with
  | none =>
    refine iff_of_false (by decide) ?_
    rintro ⟨c, hc, -⟩
    cases hc
  | some c =>
    obtain ⟨replicas, ready⟩ := c
    simp only [Option.some.injEq, exists_eq_left', processActiveFromReplicaCounts, Up]
    by_cases hzero : replicas = 0
    · rw [if_pos hzero]
      exact iff_of_false (by decide) (by omega)
    · by_cases hready : replicas ≤ ready
      · rw [if_neg hzero, if_pos hready]
        exact iff_of_true (by decide) (by omega)
      · by_cases hsome : 0 < ready
        · rw [if_neg hzero, if_neg hready, if_pos hsome]
          exact iff_of_true (by decide) (by omega)
        · rw [if_neg hzero, if_neg hready, if_neg hsome]
          exact iff_of_false (by decide) (by omega)

/-- The zero counts of a failed read never look running. -/
theorem up_workloadReadyReplicas (api : WorkloadApi) :
    Up ((workloadReadyReplicas api).1, (workloadReadyReplicas api).2.1) ↔ ∃ c, ApiCounts api = some c ∧ Up c := by
  unfold workloadReadyReplicas readWorkload ApiCounts
  cases api.deployment with
  | found replicas ready => simp
  | failed => simp [Up]
  | notFound => cases api.statefulSet <;> simp [Up]

theorem systemctlIsActive_running (exc : KubernetesExecutor) (api : WorkloadApi) (unit : String) :
    processCountsAsRunning (systemctlIsActive exc api unit) = true ↔
      (exc.k8sReachable = true ∧ exc.isAllowed unit = true ∧ (deploymentForUnit unit).isSome) ∧
        Up ((workloadReadyReplicas api).1, (workloadReadyReplicas api).2.1) := by
  unfold systemctlIsActive
  by_cases hknown : exc.k8sReachable = false ∨ exc.isAllowed unit = false ∨ deploymentForUnit unit = none
  · rw [if_pos hknown]
    refine iff_of_false (by decide) ?_
    rintro ⟨⟨hreachable, hallowed, hmapped⟩, -⟩
    simp [hreachable, hallowed, Option.isSome_iff_ne_none.1 hmapped] at hknown
  · rw [if_neg hknown]
    obtain ⟨hreachable, hallowed, hmapped⟩ : exc.k8sReachable = true ∧ exc.isAllowed unit = true ∧
        (deploymentForUnit unit).isSome := by
      simpa [not_or, Option.isSome_iff_ne_none] using hknown
    refine (processActiveFromReplicaCounts_running
      (some ((workloadReadyReplicas api).1, (workloadReadyReplicas api).2.1))).trans ?_
    simp [hreachable, hallowed, hmapped]

theorem deploymentReplicaCounts_running (exc : KubernetesExecutor) (api : WorkloadApi) {deployment : String}
    (hname : deployment ≠ "") :
    processCountsAsRunning (processActiveFromReplicaCounts (deploymentReplicaCounts exc api deployment)) = true ↔
      exc.k8sReachable = true ∧ Up ((workloadReadyReplicas api).1, (workloadReadyReplicas api).2.1) := by
  rw [processActiveFromReplicaCounts_running, deploymentReplicaCounts]
  cases hreachable : exc.k8sReachable <;> simp [hname]

/-- A row counts as running exactly when its workload was read and is up. -/
theorem processActive_running (exc : KubernetesExecutor) (row : IngestRow) (api : WorkloadApi) :
    processCountsAsRunning (processActive exc row api) = true ↔
      ∃ counts, workloadRead exc row api = some counts ∧ Up counts := by
  have hread : (∃ counts, workloadRead exc row api = some counts ∧ Up counts) ↔
      Askable exc row = true ∧ Up ((workloadReadyReplicas api).1, (workloadReadyReplicas api).2.1) := by
    rw [up_workloadReadyReplicas, workloadRead]
    cases Askable exc row <;> simp
  rw [hread]
  unfold processActive Askable
  by_cases hdep : row.k8sDeployment = ""
  · rw [if_neg (not_not.2 hdep)]
    by_cases hunit : row.systemdUnit = ""
    · rw [if_neg (not_not.2 hunit)]
      refine iff_of_false (by decide) (fun h => ?_)
      simp [hdep, hunit] at h
    · rw [if_pos hunit, systemctlIsActive_running]
      simp [hdep, hunit, and_assoc]
  · rw [if_pos hdep, deploymentReplicaCounts_running exc api hdep]
    simp [hdep]

theorem ofText_blank {raw : String} (h : strip raw = "") : Number.ofText raw = none := by
  have hchars : stripChars raw.toList = [] := by
    simpa [strip] using congrArg String.toList h
  unfold Number.ofText
  rw [hchars]
  decide

theorem recentControlWrite_some (ts : Number) (now : ℚ) :
    recentControlWrite (some ts) now = true ↔
      ts ≠ .nan ∧ Number.lt recentControlWriteGraceSec (Number.sub (.fin now) ts) = false := by
  unfold recentControlWrite recentControlWriteGraceSec
  cases ts with
  | nan => simp [Number.sub, Number.neg, Number.add, Number.le]
  | inf neg => cases neg <;> simp [Number.sub, Number.neg, Number.add, Number.le, Number.lt]
  | fin q =>
    simp only [Number.sub, Number.neg, Number.add, Number.le, Number.lt, decide_eq_true_eq, decide_eq_false_iff_not,
      Rat.not_lt, ne_eq, reduceCtorEq, not_false_eq_true, true_and]

/-- A control write counts as recent exactly when its time was read and is within the grace. -/
theorem recentControlWrite_iff (field : Option (Option String)) (now : ℚ) :
    recentControlWrite (readControlUpdatedAt field) now = true ↔
      ∃ raw ts, field = some raw ∧ controlTime raw = some ts ∧
        Number.lt recentControlWriteGraceSec (Number.sub (.fin now) ts) = false := by
  cases field with
  | none => simp [readControlUpdatedAt, recentControlWrite]
  | some raw =>
    cases raw with
    | none => simp [readControlUpdatedAt, recentControlWrite, controlTime]
    | some raw =>
      have hread : readControlUpdatedAt (some (some raw)) = Number.ofText raw := by
        by_cases hblank : strip raw = ""
        · simp [readControlUpdatedAt, hblank, ofText_blank hblank]
        · simp [readControlUpdatedAt, hblank]
      rw [hread]
      cases hts : Number.ofText raw with
      | none => simp [recentControlWrite, controlTime, hts]
      | some ts =>
        rw [recentControlWrite_some]
        simp [controlTime, hts, Option.filter_eq_some_iff]

/-! ## When a lease may be dropped -/

section

variable (truthy : Hash → String → Bool) (engineField : String)

/-- The health hash, as it was read, is that of a live writer. -/
def LooksLive (row : IngestRow) (ans : RowAnswers) (m : Hash) : Prop :=
  ingestRedisHealthLooksLive truthy engineField (some m) ans.healthNow (strip row.redisMetaKey)
    (strip row.id) = true

/-- The control write is older than the grace. -/
def Older (ans : RowAnswers) (ts : Number) : Prop :=
  Number.lt recentControlWriteGraceSec (Number.sub (.fin ans.leaseNow) ts) = true

/-- Every probe was read, and none of them saw the process. -/
structure Justified (exc : KubernetesExecutor) (row : IngestRow) (ans : RowAnswers) : Prop where
  health : ∃ m, ans.health = some m ∧ ¬ LooksLive truthy engineField row ans m
  age : ∃ raw, ans.controlUpdatedAt = some raw ∧
    (controlTime raw = none ∨ ∃ ts, controlTime raw = some ts ∧ Older ans ts)
  workload : ∃ counts, workloadRead exc row ans.api = some counts ∧ ¬ Up counts

/-- The row holds a lease the orphan check looks at. -/
structure HasLease (rurl : Option String) (row : IngestRow) (ans : RowAnswers) : Prop where
  redis : rurl.getD "" ≠ ""
  metaKey : strip row.redisMetaKey ≠ ""
  env : readControlEnv ans.controlEnv ≠ none
  id : strip row.id ≠ "trading_engine"

/-- One of the three probes could not be read. -/
def ProbeFailed (exc : KubernetesExecutor) (row : IngestRow) (ans : RowAnswers) : Prop :=
  ans.health = none ∨ ans.controlUpdatedAt = none ∨ workloadRead exc row ans.api = none

/-- One of the three probes was read and speaks for a running process. -/
def SeenAlive (exc : KubernetesExecutor) (row : IngestRow) (ans : RowAnswers) : Prop :=
  (∃ m, ans.health = some m ∧ LooksLive truthy engineField row ans m) ∨
  (∃ raw ts, ans.controlUpdatedAt = some raw ∧ controlTime raw = some ts ∧ ¬ Older ans ts) ∨
  (∃ counts, workloadRead exc row ans.api = some counts ∧ Up counts)

variable {truthy engineField}

theorem looksLive_iff (row : IngestRow) (ans : RowAnswers) :
    ingestRedisHealthLooksLive truthy engineField ans.health ans.healthNow (strip row.redisMetaKey)
        (strip row.id) = true ↔ ∃ m, ans.health = some m ∧ LooksLive truthy engineField row ans m := by
  cases hhealth : ans.health with
  | none =>
    refine iff_of_false ?_ (fun ⟨m, hm, _⟩ => by cases hm)
    unfold ingestRedisHealthLooksLive
    split <;> simp
  | some m => simp [LooksLive]

/-- A lease is dropped exactly when no probe that was read speaks for a running process. -/
theorem cleared_iff (rurl : Option String) (exc : KubernetesExecutor) (row : IngestRow) (ans : RowAnswers) :
    (serveLease truthy engineField rurl exc row ans).cleared ≠ [] ↔
      HasLease rurl row ans ∧ ¬ SeenAlive truthy engineField exc row ans := by
  unfold serveLease
  by_cases hread : rurl.getD "" = "" ∨ strip row.redisMetaKey = ""
  · simp only [if_pos hread]
    refine iff_of_false (by simp) ?_
    rintro ⟨hlease, -⟩
    exact hread.elim hlease.redis hlease.metaKey
  · obtain ⟨hredis, hkey⟩ := not_or.1 hread
    simp only [if_neg hread]
    by_cases hlease : readControlEnv ans.controlEnv ≠ none ∧ strip row.id ≠ "trading_engine"
    · rw [if_pos hlease]
      have halive : SeenAlive truthy engineField exc row ans ↔
          ingestRedisHealthLooksLive truthy engineField ans.health ans.healthNow (strip row.redisMetaKey)
            (strip row.id) = true ∨
          recentControlWrite (readControlUpdatedAt ans.controlUpdatedAt) ans.leaseNow = true ∨
          processCountsAsRunning (processActive exc row ans.api) = true := by
        rw [looksLive_iff, recentControlWrite_iff, processActive_running]
        simp only [SeenAlive, Older, Bool.not_eq_true]
      have hl : HasLease rurl row ans := ⟨hredis, hkey, hlease.1, hlease.2⟩
      rw [halive, not_or, not_or]
      split
      · rename_i hdead
        exact iff_of_true (by simp) ⟨hl, hdead⟩
      · rename_i hdead
        exact iff_of_false (by simp) (fun h => hdead h.2)
    · rw [if_neg hlease]
      refine iff_of_false (by simp) ?_
      rintro ⟨hl, -⟩
      exact hlease ⟨hl.env, hl.id⟩

theorem justified_iff (exc : KubernetesExecutor) (row : IngestRow) (ans : RowAnswers)
    (h : ¬ SeenAlive truthy engineField exc row ans) :
    Justified truthy engineField exc row ans ↔ ¬ ProbeFailed exc row ans := by
  constructor
  · rintro ⟨⟨m, hm, -⟩, ⟨raw, hraw, -⟩, counts, hcounts, -⟩
    simp [ProbeFailed, hm, hraw, hcounts]
  · intro hread
    simp only [ProbeFailed, not_or, ← ne_eq, Option.ne_none_iff_exists'] at hread
    obtain ⟨⟨m, hm⟩, ⟨raw, hraw⟩, counts, hcounts⟩ := hread
    obtain ⟨hlive, hrecent, hup⟩ : _ ∧ _ ∧ _ := by simpa only [SeenAlive, not_or] using h
    refine ⟨⟨m, hm, fun hl => hlive ⟨m, hm, hl⟩⟩, ⟨raw, hraw, ?_⟩, counts, hcounts,
      fun hu => hup ⟨counts, hcounts, hu⟩⟩
    cases hts : controlTime raw with
    | none => exact Or.inl rfl
    | some ts =>
      by_cases hold : Older ans ts
      · exact Or.inr ⟨ts, rfl, hold⟩
      · exact absurd ⟨raw, ts, hraw, hts, hold⟩ hrecent

/-- Every lease that a request drops is dropped for a reason. -/
def LeaseSafe (truthy : Hash → String → Bool) (engineField : String) (rurl : Option String)
    (exc : KubernetesExecutor) (rows : List (IngestRow × RowAnswers)) : Prop :=
  ∀ (i : Nat) (r : IngestRow × RowAnswers) (result : LeaseResult), rows[i]? = some r →
    (marketIngestServices truthy engineField rurl exc rows)[i]? = some (r.1, result) →
    result.cleared ≠ [] → Justified truthy engineField exc r.1 r.2

/-- **Main.** Leases are dropped only on what was actually read exactly when, for every leased row with a
probe that failed, another probe was read and speaks for a running process. -/
theorem marketIngestServices_leaseSafe (truthy : Hash → String → Bool) (engineField : String)
    (rurl : Option String) (exc : KubernetesExecutor) (rows : List (IngestRow × RowAnswers)) :
    LeaseSafe truthy engineField rurl exc rows ↔
      ∀ r ∈ rows, HasLease rurl r.1 r.2 → ProbeFailed exc r.1 r.2 →
        SeenAlive truthy engineField exc r.1 r.2 := by
  have hresult : ∀ (i : Nat) (r : IngestRow × RowAnswers), rows[i]? = some r →
      (marketIngestServices truthy engineField rurl exc rows)[i]? =
      some (r.1, serveLease truthy engineField rurl exc r.1 r.2) := by
    intro i r hr
    simp [marketIngestServices, hr]
  constructor
  · intro hsafe r hr hlease hfailed
    by_contra hdead
    obtain ⟨i, hi⟩ := List.getElem?_of_mem hr
    have hcleared := (cleared_iff rurl exc r.1 r.2).2 ⟨hlease, hdead⟩
    exact (justified_iff exc r.1 r.2 hdead).1 (hsafe i r _ hi (hresult i r hi) hcleared) hfailed
  · intro hcond i r result hi hres hcleared
    rw [hresult i r hi] at hres
    cases hres
    obtain ⟨hlease, hdead⟩ := (cleared_iff rurl exc r.1 r.2).1 hcleared
    have hmem : r ∈ rows := List.mem_of_getElem? hi
    exact (justified_iff exc r.1 r.2 hdead).2 fun hfailed => hdead (hcond r hmem hlease hfailed)

end

/-! ## A gateway row while the API times out -/

def gatewayRow : IngestRow := ⟨"ib_ingestor", "", "ib-gateway", "bifrost:health:ib_ingestor"⟩

/-- The lease is an hour old, the health hash holds it alone, and the deployment read fails. -/
def timeoutAnswers : RowAnswers where
  api := ⟨.failed, .failed⟩
  controlEnv := some (some "prod")
  controlHost := some (some "k8s")
  controlUpdatedAt := some (some "1000")
  health := some [("bifrost_ops_control_env", "prod"), ("bifrost_ops_control_host", "k8s"),
    ("bifrost_ops_control_updated_at", "1000")]
  healthNow := 4600
  leaseNow := 4600

/-- The lease is dropped although the workload was never read. -/
theorem leaseSafe_fails :
    (serveLease (fun _ _ => true) "engine_ops_active" (some "redis://live") ⟨true, []⟩ gatewayRow
      timeoutAnswers).cleared = ["bifrost:health:ib_ingestor"] ∧
    ¬ LeaseSafe (fun _ _ => true) "engine_ops_active" (some "redis://live") ⟨true, []⟩
      [(gatewayRow, timeoutAnswers)] := by
  have hcleared : (serveLease (fun _ _ => true) "engine_ops_active" (some "redis://live") ⟨true, []⟩ gatewayRow
      timeoutAnswers).cleared = ["bifrost:health:ib_ingestor"] := by decide +kernel
  refine ⟨hcleared, fun h => ?_⟩
  have hjustified := h 0 (gatewayRow, timeoutAnswers) _ rfl rfl (by rw [hcleared]; simp)
  obtain ⟨counts, hcounts, -⟩ := hjustified.workload
  revert hcounts
  simp [workloadRead, ApiCounts, timeoutAnswers]

end BifrostApi.Ops
