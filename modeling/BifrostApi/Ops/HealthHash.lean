import BifrostApi.Py.Json

/-!
# Health hashes and control leases in Redis

`ops/market_ingest_health_clear.py` reads the heartbeat a service writes on its health hash,
`ops/market_ingest_control_env.py` the control lease stored on the same hash. A call on Redis that
raises is `none` here; every reader below turns it into the answer it gives for an empty hash or a
missing field.

`redis_hash_field_truthy` and the name of the engine's active field come from the core package; they are
the parameters `truthy` and `engineField`.

Three functions judge one time stamp: live needs `not (updated <= 0 or age > 90)`, recent needs
`updated > 0 and age <= 90`, and the reader gives a time unless `updated <= 0`. The first and the second are each
other's negation except on NaN, of which every comparison is false (`verdictsOrdered_fails`).

| here | there |
| --- | --- |
| `ingestRedisHealthWriterRecent` | `ingest_redis_health_writer_recent` (market_ingest_health_clear.py:106) |
| `readHealthUpdatedAt` | `read_health_updated_at` (:87) |
| `ingestRedisHealthLooksLive` | `ingest_redis_health_looks_live` (market_ingest_health_clear.py:127) |
| `hashLooksConnected` | `_hash_looks_connected` (:155) |
| `readControlEnv`, `readControlHost`, `readControlUpdatedAt` | market_ingest_control_env.py:97, :66, :81 |
-/

namespace BifrostApi.Ops

open Py

abbrev Hash := Dict String String

/-- `_parse_ts` (market_ingest_health_clear.py:42). -/
def parseTs (raw : Option String) : Number :=
  match raw with
  | none => .fin 0
  | some raw => if strip raw = "" then .fin 0 else (Number.ofText raw).getD (.fin 0)

/-- `_HEALTH_RECENT_MAX_S`. -/
def healthRecentMaxS : Number := .fin 90

section

variable (truthy : Hash → String → Bool) (engineField : String)

def hashLooksConnected (m : Hash) (sid : String) : Bool :=
  if sid ∈ ["ib_ingestor", "ib_market"] then truthy m "connected"
  else if sid = "ib_operator" then
    truthy m "host_connected" || truthy m "operator_connected" || truthy m "connected"
  else if sid = "ib_account_agent" then truthy m "host_connected" || truthy m "connected"
  else if sid = "trading_engine" then truthy m engineField
  else false

/-- `health` is what `hgetall` answers. -/
def ingestRedisHealthLooksLive (health : Option Hash) (now : ℚ) (metaKey serviceId : String) : Bool :=
  if strip metaKey = "" then false
  else match health with
    | none | some [] => false
    | some m =>
      let updated := parseTs (m.lookup "updated_at")
      if Number.le updated (.fin 0) || Number.lt healthRecentMaxS (Number.sub (.fin now) updated) then false
      else hashLooksConnected truthy engineField m (strip serviceId)

end

/-- The hash exists and its heartbeat is fresh. -/
def ingestRedisHealthWriterRecent (health : Option Hash) (now : ℚ) (metaKey : String) : Bool :=
  if strip metaKey = "" then false
  else match health with
    | none | some [] => false
    | some m =>
      let updated := parseTs (m.lookup "updated_at")
      Number.lt (.fin 0) updated && Number.le (Number.sub (.fin now) updated) healthRecentMaxS

/-- `read_health_hash` (:71). -/
def readHealthHash (health : Option Hash) (metaKey : String) : Hash :=
  if strip metaKey = "" then [] else health.getD []

def readHealthUpdatedAt (health : Option Hash) (metaKey : String) : Option Number :=
  let updated := parseTs ((readHealthHash health metaKey).lookup "updated_at")
  if Number.le updated (.fin 0) then none else some updated

/-- `normalize_control_profile` (market_ingest_control_env.py:23). -/
def normalizeControlProfile (raw : Option String) : Option String :=
  raw.bind fun raw =>
    let s := lower (strip raw)
    if s ∈ ["dev", "prod", "stg"] then some s else none

/-- `field` is what `hget` answers. -/
def readControlEnv (field : Option (Option String)) : Option String := field.bind normalizeControlProfile

def readControlHost (field : Option (Option String)) : Option String :=
  field.bind fun raw =>
    let s := strip (raw.getD "")
    if s = "" then none else some s

/-- The time of the control write; `none` also where `hget` or `float` raises. -/
def readControlUpdatedAt (field : Option (Option String)) : Option Number :=
  field.bind fun raw => raw.bind fun raw => if strip raw = "" then none else Number.ofText raw

/-! ## The verdicts on one heartbeat -/

/-- Live implies a recent writer, and a recent writer a heartbeat time. -/
structure VerdictsOrdered (truthy : Hash → String → Bool) (engineField : String) (health : Option Hash) (now : ℚ)
    (metaKey serviceId : String) : Prop where
  recent : ingestRedisHealthLooksLive truthy engineField health now metaKey serviceId = true →
    ingestRedisHealthWriterRecent health now metaKey = true
  updatedAt : ingestRedisHealthWriterRecent health now metaKey = true → readHealthUpdatedAt health metaKey ≠ none

/-- The heartbeat of a hash that is read, and connected for the service, is NaN. -/
def NanHeartbeat (truthy : Hash → String → Bool) (engineField : String) (health : Option Hash)
    (metaKey serviceId : String) : Prop :=
  strip metaKey ≠ "" ∧ ∃ m, health = some m ∧ parseTs (m.lookup "updated_at") = .nan ∧
    hashLooksConnected truthy engineField m (strip serviceId) = true

theorem sub_ne_nan {now : ℚ} {updated : Number} (h : updated ≠ .nan) : Number.sub (.fin now) updated ≠ .nan := by
  cases updated with
  | nan => exact absurd rfl h
  | inf neg => exact fun hsub => by cases hsub
  | fin q => exact fun hsub => by cases hsub

/-- Fresh by the test of the live verdict, which is a negation. -/
theorem not_stale_iff (updated : Number) (now : ℚ) :
    (Number.le updated (.fin 0) || Number.lt healthRecentMaxS (Number.sub (.fin now) updated)) = false ↔
      updated = .nan ∨
      (Number.lt (.fin 0) updated && Number.le (Number.sub (.fin now) updated) healthRecentMaxS) = true := by
  by_cases hnan : updated = .nan
  · subst hnan
    exact iff_of_true rfl (Or.inl rfl)
  · have hpos : Number.le updated (.fin 0) = !Number.lt (.fin 0) updated :=
      Number.le_eq_not_lt hnan fun h => by cases h
    have hage : Number.le (Number.sub (.fin now) updated) healthRecentMaxS =
        !Number.lt healthRecentMaxS (Number.sub (.fin now) updated) :=
      Number.le_eq_not_lt (sub_ne_nan hnan) fun h => by cases h
    rw [hpos, hage]
    simp [hnan]

theorem readHealthUpdatedAt_of_recent {health : Option Hash} {now : ℚ} {metaKey : String}
    (h : ingestRedisHealthWriterRecent health now metaKey = true) : readHealthUpdatedAt health metaKey ≠ none := by
  unfold ingestRedisHealthWriterRecent at h
  split at h
  · cases h
  · rename_i hkey
    split at h
    · cases h
    · cases h
    · rename_i m _
      obtain ⟨hpos, -⟩ := Bool.and_eq_true_iff.1 h
      have hupdated : parseTs (m.lookup "updated_at") ≠ .nan := fun hnan => by
        rw [hnan] at hpos
        cases hpos
      have hle : Number.le (parseTs (m.lookup "updated_at")) (.fin 0) = false := by
        rw [Number.le_eq_not_lt hupdated (fun h => by cases h)]
        exact congrArg (!·) hpos
      rw [readHealthUpdatedAt, readHealthHash, if_neg hkey, Option.getD_some, hle]
      exact fun hnone => by cases hnone

section

variable (truthy : Hash → String → Bool) (engineField : String)

/-- **Main.** The verdicts are ordered exactly when no connected hash has a NaN for its heartbeat. -/
theorem verdicts_ordered (health : Option Hash) (now : ℚ) (metaKey serviceId : String) :
    VerdictsOrdered truthy engineField health now metaKey serviceId ↔
      ¬ NanHeartbeat truthy engineField health metaKey serviceId := by
  constructor
  · rintro hordered ⟨hkey, m, rfl, hnan, hconnected⟩
    cases m with
    | nil => cases hnan
    | cons kv m =>
      have hlive : ingestRedisHealthLooksLive truthy engineField (some (kv :: m)) now metaKey serviceId = true := by
        unfold ingestRedisHealthLooksLive
        rw [if_neg hkey]
        dsimp only
        rw [hnan, hconnected]
        rfl
      have hrecent := hordered.recent hlive
      unfold ingestRedisHealthWriterRecent at hrecent
      rw [if_neg hkey] at hrecent
      dsimp only at hrecent
      rw [hnan] at hrecent
      cases hrecent
  · intro hnan
    refine ⟨fun hlive => ?_, readHealthUpdatedAt_of_recent⟩
    unfold ingestRedisHealthLooksLive at hlive
    unfold ingestRedisHealthWriterRecent
    split at hlive
    · cases hlive
    · rename_i hkey
      rw [if_neg hkey]
      split at hlive
      · cases hlive
      · cases hlive
      · rename_i m _
        dsimp only at hlive ⊢
        split at hlive
        · cases hlive
        · rename_i hfresh
          rcases (not_stale_iff _ _).1 (Bool.eq_false_iff.2 hfresh) with hupdated | hrecent
          · exact absurd ⟨hkey, _, rfl, hupdated, hlive⟩ hnan
          · exact hrecent

end

/-- `float("nan")` is neither stale nor recent: the operator row is live, and nobody wrote lately. -/
theorem verdictsOrdered_fails :
    ingestRedisHealthLooksLive (fun m k => m.lookup k = some "1") "engine_ops_active"
      (some [("connected", "1"), ("updated_at", "nan")]) 0 "bifrost:health:ws_ib_operator" "ib_operator" = true ∧
    ingestRedisHealthWriterRecent (some [("connected", "1"), ("updated_at", "nan")]) 0
      "bifrost:health:ws_ib_operator" = false ∧
    ¬ VerdictsOrdered (fun m k => m.lookup k = some "1") "engine_ops_active"
      (some [("connected", "1"), ("updated_at", "nan")]) 0 "bifrost:health:ws_ib_operator" "ib_operator" := by
  have hlive : ingestRedisHealthLooksLive (fun m k => m.lookup k = some "1") "engine_ops_active"
      (some [("connected", "1"), ("updated_at", "nan")]) 0 "bifrost:health:ws_ib_operator" "ib_operator" = true := by
    decide +kernel
  have hrecent : ingestRedisHealthWriterRecent (some [("connected", "1"), ("updated_at", "nan")]) 0
      "bifrost:health:ws_ib_operator" = false := by decide +kernel
  refine ⟨hlive, hrecent, fun hordered => ?_⟩
  rw [hordered.recent hlive] at hrecent
  cases hrecent

end BifrostApi.Ops
