import BifrostApi.Py.Json

/-!
# The configured ingest services (`ops/market_ingest_config.py`)

A configured row is renamed, has fields forced and defaults filled in, or is dropped; the list then falls back to
the default rows, or gets the socket rows in front when it holds only the daemon. `NormalRow` is what a row is after
all of this, `RowOf` what it keeps of the configured one, field by field, and reading a normal row back changes nothing
(`buildRow_of_normal`), which makes the whole function idempotent.

The names of the health keys come from the core package; they are a `HealthKeys`.

| here | there |
| --- | --- |
| `canonicalIngestServiceId` | `canonical_ingest_service_id` (market_ingest_config.py:41) |
| `defaultMarketIngestServices` | `DEFAULT_MARKET_INGEST_SERVICES` (:72) |
| `ensureSocketFeedRows` | `_ensure_socket_feed_rows_for_daemon_only_yaml` (:57) |
| `renameMetaKey`, `metaKeyOf` | :130-147 |
| `buildRow`, `assembleRow` | one pass of the loop (:110-158) |
| `marketIngestServicesFromConfig` | `market_ingest_services_from_config` (:103) |
-/

namespace BifrostApi.Ops

open Py

/-- `core.redis_health_keys`. -/
structure HealthKeys where
  ibOperator : String
  ibIngestor : String
  ibAccountAgent : String
  daemonStrategyTrading : String
  legacyIbOperator : String
  legacyIbIngestor : String
  legacyIbAccountAgent : String
  legacyOpsTradingEngineMeta : String
  legacyHealthDaemonTradingEngine : String

def legacyIbIngesterMetaHealth : String := "ib:ingester:meta:health"

def legacyIbOperatorMetaHealth : String := "ib:operator:meta:health"

def canonicalIngestServiceId (serviceId : String) : String :=
  let sid := strip serviceId
  if sid = "ib_market" then "ib_ingestor" else sid

def ibGatewayServiceIds : List String := ["ib_operator", "ib_ingestor", "ib_account_agent"]

def retiredServiceIds : List String := ["account_sync_daemon"]

def ibGatewayNamespace : String := "data"

def ibGatewayDeployment : String := "ib-gateway"

/-- `s.endswith(".service")`. -/
def endsWithService (s : String) : Bool := ".service".toList.isSuffixOf s.toList

/-- A row of the answer; a field that the source leaves out of the `dict` is `none`. -/
structure ServiceRow where
  id : String
  label : String
  redisMetaKey : String
  systemdUnit : Option String
  /-- `k8s_namespace` and `k8s_deployment`. -/
  workload : Option (String × String)
  deriving DecidableEq, Repr

section

variable (keys : HealthKeys)

def ibGatewayRow (id label metaKey : String) : ServiceRow :=
  ⟨id, label, metaKey, none, some (ibGatewayNamespace, ibGatewayDeployment)⟩

/-- The default rows of the socket feed. -/
def socketFeedRows : List ServiceRow :=
  [ibGatewayRow "ib_operator" "Platform IB Gateway · Operator RPC" keys.ibOperator,
   ibGatewayRow "ib_ingestor" "Platform IB Gateway · Market ingest" keys.ibIngestor,
   ibGatewayRow "ib_account_agent" "Platform IB Gateway · Account agent" keys.ibAccountAgent]

def engineRow : ServiceRow :=
  ⟨"trading_engine", "Strategy Trading Daemon", keys.daemonStrategyTrading, some "bifrost-engine.service", none⟩

def defaultMarketIngestServices : List ServiceRow := socketFeedRows keys ++ [engineRow keys]

def ensureSocketFeedRows (out : List ServiceRow) : List ServiceRow :=
  if out = [] then out
  else if out.all fun r => r.id = "trading_engine" then socketFeedRows keys ++ out
  else out

def renameMetaKey (sid metaKey : String) : String :=
  if sid = "ib_ingestor" ∧ metaKey ∈ [legacyIbIngesterMetaHealth, keys.legacyIbIngestor] then keys.ibIngestor
  else if sid = "ib_operator" ∧ metaKey ∈ [legacyIbOperatorMetaHealth, keys.legacyIbOperator] then keys.ibOperator
  else if sid = "ib_account_agent" ∧ metaKey = keys.legacyIbAccountAgent then keys.ibAccountAgent
  else if sid = "trading_engine" ∧ metaKey = keys.legacyOpsTradingEngineMeta then keys.daemonStrategyTrading
  else if sid = "trading_engine" ∧ metaKey = keys.legacyHealthDaemonTradingEngine then keys.daemonStrategyTrading
  else metaKey

def metaKeyOf (sid metaKey : String) : String :=
  let metaKey := renameMetaKey keys sid metaKey
  if sid = "trading_engine" ∧ metaKey = "" then keys.daemonStrategyTrading else metaKey

/-- `{unit}.service`, unless it is one. -/
def normUnit (unit : String) : Option String :=
  if unit = "" then none else some (if endsWithService unit then unit else unit ++ ".service")

/-- `str(row.get(k) or default).strip()`. -/
def textField (container : Json → String) (row : Dict String Json) (k default : String) : String :=
  strip ((Json.getOr row k (.str default)).text container)

/-- The row of a configured one's stripped fields. -/
def assembleRow (sid label metaKey unit namesp deployment : String) : Option ServiceRow :=
  let gateway := decide (sid ∈ ibGatewayServiceIds)
  let unit := if gateway then "" else unit
  let namesp := if gateway then ibGatewayNamespace else namesp
  let deployment := if gateway then ibGatewayDeployment else deployment
  if sid = "" ∨ (unit = "" ∧ deployment = "") then none
  else if sid ∈ retiredServiceIds then none
  else some {
    id := sid
    label := if label = "" then sid else label
    redisMetaKey := metaKeyOf keys sid metaKey
    systemdUnit := normUnit unit
    workload :=
      if deployment = "" then none
      else some (if namesp = "" then ibGatewayNamespace else namesp, deployment) }

def buildRow (container : Json → String) (raw : Json) : Option ServiceRow :=
  match raw.items? with
  | none => none
  | some row =>
    let sid := canonicalIngestServiceId (textField container row "id" "")
    assembleRow keys sid (textField container row "label" sid) (textField container row "redis_meta_key" "")
      (textField container row "systemd_unit" "") (textField container row "k8s_namespace" "")
      (textField container row "k8s_deployment" "")

def servicesOfRows (container : Json → String) (raw : List Json) : List ServiceRow :=
  let out := raw.filterMap (buildRow keys container)
  if out = [] then defaultMarketIngestServices keys else ensureSocketFeedRows keys out

/-- An `ops` that is no mapping has no `get`. -/
def marketIngestServicesFromConfig (container : Json → String) (config : Dict String Json) :
    Except Exc (List ServiceRow) :=
  match (Json.getOr config "ops" (.obj [])).items? with
  | none => .error .attributeError
  | some ops => match ops.lookup "market_ingest_services" with
    | some (.arr (row :: rows)) => .ok (servicesOfRows keys container (row :: rows))
    | _ => .ok (defaultMarketIngestServices keys)

end

/-! ## What is promised -/

namespace HealthKeys

variable (keys : HealthKeys)

def canonical : List String := [keys.ibOperator, keys.ibIngestor, keys.ibAccountAgent, keys.daemonStrategyTrading]

def legacy : List String :=
  [legacyIbIngesterMetaHealth, legacyIbOperatorMetaHealth, keys.legacyIbOperator, keys.legacyIbIngestor,
   keys.legacyIbAccountAgent, keys.legacyOpsTradingEngineMeta, keys.legacyHealthDaemonTradingEngine]

/-- The names in use are no old names, nor blank. -/
structure Lawful : Prop where
  current : ∀ k ∈ keys.canonical, k ∉ keys.legacy
  clean : ∀ k ∈ keys.canonical, strip k = k ∧ k ≠ ""

/-- The old names of a service's own key. -/
def legacyOf (sid : String) : List String :=
  if sid = "ib_ingestor" then [legacyIbIngesterMetaHealth, keys.legacyIbIngestor]
  else if sid = "ib_operator" then [legacyIbOperatorMetaHealth, keys.legacyIbOperator]
  else if sid = "ib_account_agent" then [keys.legacyIbAccountAgent]
  else if sid = "trading_engine" then [keys.legacyOpsTradingEngineMeta, keys.legacyHealthDaemonTradingEngine]
  else []

def canonicalOf (sid : String) : String :=
  if sid = "ib_ingestor" then keys.ibIngestor
  else if sid = "ib_operator" then keys.ibOperator
  else if sid = "ib_account_agent" then keys.ibAccountAgent
  else keys.daemonStrategyTrading

end HealthKeys

/-- Text without white space at its ends. -/
abbrev Stripped (s : String) : Prop := strip s = s

structure NormalRow (keys : HealthKeys) (r : ServiceRow) : Prop where
  id_nonempty : r.id ≠ ""
  id_canonical : canonicalIngestServiceId r.id = r.id
  id_not_market : r.id ≠ "ib_market"
  not_retired : r.id ∉ retiredServiceIds
  label : Stripped r.label ∧ r.label ≠ ""
  metaKey : Stripped r.redisMetaKey
  metaKey_current : r.redisMetaKey ∉ keys.legacyOf r.id
  engine : r.id = "trading_engine" → r.redisMetaKey ≠ ""
  gateway : r.id ∈ ibGatewayServiceIds →
    r.workload = some (ibGatewayNamespace, ibGatewayDeployment) ∧ r.systemdUnit = none
  unit : ∀ u, r.systemdUnit = some u → Stripped u ∧ endsWithService u = true
  workload : ∀ namesp deployment, r.workload = some (namesp, deployment) →
    (Stripped namesp ∧ namesp ≠ "") ∧ Stripped deployment ∧ deployment ≠ ""
  placed : r.systemdUnit ≠ none ∨ r.workload ≠ none

/-- The row as the `dict` it is. -/
def ServiceRow.toDict (r : ServiceRow) : Dict String Json :=
  [("id", .str r.id), ("label", .str r.label), ("redis_meta_key", .str r.redisMetaKey)]
    ++ (match r.systemdUnit with
        | some u => [("systemd_unit", .str u)]
        | none => [])
    ++ match r.workload with
        | some (namesp, deployment) => [("k8s_namespace", .str namesp), ("k8s_deployment", .str deployment)]
        | none => []

def opsOf (config : Dict String Json) : Dict String Json := (Json.getOr config "ops" (.obj [])).items?.getD []

/-- The rows of the config, whatever they are. -/
def configuredRows (config : Dict String Json) : List Json :=
  match (opsOf config).lookup "market_ingest_services" with
  | some (.arr raw) => raw
  | _ => []

/-- The config with the rows as its `ops.market_ingest_services`. -/
def withServices (config : Dict String Json) (rows : List ServiceRow) : Dict String Json :=
  Dict.set config "ops"
    (.obj (Dict.set (opsOf config) "market_ingest_services" (.arr (rows.map fun r => .obj r.toDict))))

/-- The text under a field of a configured row, without the white space around it; blank where the field is missing,
`null`, zero or empty. -/
def written (container : Json → String) (row : Dict String Json) (k : String) : String :=
  match row.lookup k with
  | some v => if v.truthy then strip (v.text container) else ""
  | none => ""

/-- A mapping with an id that is neither blank nor retired, and a unit, a deployment or a gateway's id. -/
def usable (container : Json → String) (raw : Json) : Bool :=
  match raw.items? with
  | none => false
  | some row =>
    let sid := written container row "id"
    sid ≠ "" && sid ∉ retiredServiceIds && (sid ∈ "ib_market" :: ibGatewayServiceIds ||
      written container row "systemd_unit" ≠ "" || written container row "k8s_deployment" ≠ "")

/-- The answered row is the configured one's: its id under the official name, its label or else its id, its own key
unless that is an old one or the daemon's missing one, and, but for a gateway's row, its unit and its Deployment. -/
structure RowOf (keys : HealthKeys) (container : Json → String) (row : Dict String Json) (r : ServiceRow) : Prop where
  id : r.id = if written container row "id" = "ib_market" then "ib_ingestor" else written container row "id"
  label : r.label = if written container row "label" = "" then r.id else written container row "label"
  key_old : written container row "redis_meta_key" ∈ keys.legacyOf r.id → r.redisMetaKey = keys.canonicalOf r.id
  key_missing : r.id = "trading_engine" → written container row "redis_meta_key" = "" →
    r.redisMetaKey = keys.daemonStrategyTrading
  key_kept : written container row "redis_meta_key" ∉ keys.legacyOf r.id →
    (r.id = "trading_engine" → written container row "redis_meta_key" ≠ "") →
    r.redisMetaKey = written container row "redis_meta_key"
  unit : r.id ∉ ibGatewayServiceIds → r.systemdUnit =
    if written container row "systemd_unit" = "" then none
    else if endsWithService (written container row "systemd_unit") then some (written container row "systemd_unit")
    else some (written container row "systemd_unit" ++ ".service")
  workload : r.id ∉ ibGatewayServiceIds → r.workload =
    if written container row "k8s_deployment" = "" then none
    else some (if written container row "k8s_namespace" = "" then ibGatewayNamespace
      else written container row "k8s_namespace", written container row "k8s_deployment")

structure NormalServices (keys : HealthKeys) (container : Json → String) (config : Dict String Json)
    (out : List ServiceRow) : Prop where
  rows : ∀ r ∈ out, NormalRow keys r
  /-- Not empty, and not only the daemon. -/
  notOnlyDaemon : ∃ r ∈ out, r.id ≠ "trading_engine"
  /-- The usable rows, once each and in order; behind the socket rows when they are all the daemon's. -/
  usable : (configuredRows config).filter (Ops.usable container) ≠ [] → ∃ front built, out = front ++ built ∧
    List.Forall₂ (fun raw r => ∃ row, raw = .obj row ∧ RowOf keys container row r)
      ((configuredRows config).filter (Ops.usable container)) built ∧
    (front = [] ∨ front = socketFeedRows keys ∧ ∀ r ∈ built, r.id = "trading_engine")
  again : marketIngestServicesFromConfig keys container (withServices config out) = .ok out

/-! ## Ids, keys and units -/

theorem stripped_strip (s : String) : Stripped (strip s) := strip_strip s

theorem canonicalIngestServiceId_spec (s : String) : Stripped (canonicalIngestServiceId s) ∧
    canonicalIngestServiceId s ≠ "ib_market" ∧
    canonicalIngestServiceId (canonicalIngestServiceId s) = canonicalIngestServiceId s := by
  unfold canonicalIngestServiceId
  dsimp only
  split
  · exact ⟨by decide +kernel, by decide, by decide +kernel⟩
  · rename_i hne
    exact ⟨stripped_strip s, hne, by rw [strip_strip, if_neg hne]⟩

section

variable {keys : HealthKeys}

theorem renameMetaKey_eq (sid metaKey : String) : renameMetaKey keys sid metaKey =
    if metaKey ∈ keys.legacyOf sid then keys.canonicalOf sid else metaKey := by
  unfold renameMetaKey HealthKeys.legacyOf HealthKeys.canonicalOf
  by_cases hingestor : sid = "ib_ingestor"
  · simp [hingestor]
  · by_cases hoperator : sid = "ib_operator"
    · simp [hoperator]
    · by_cases hagent : sid = "ib_account_agent"
      · simp [hagent]
      · by_cases hengine : sid = "trading_engine"
        · simp only [hengine, List.mem_cons, List.not_mem_nil, or_false, true_and, if_true]
          split_ifs <;> simp_all
        · simp [hingestor, hoperator, hagent, hengine]

theorem canonicalOf_mem (sid : String) : keys.canonicalOf sid ∈ keys.canonical := by
  unfold HealthKeys.canonicalOf HealthKeys.canonical
  split_ifs <;> simp

theorem legacyOf_subset (sid : String) : ∀ k ∈ keys.legacyOf sid, k ∈ keys.legacy := by
  intro k hk
  unfold HealthKeys.legacyOf at hk
  unfold HealthKeys.legacy
  split_ifs at hk <;> simp only [List.mem_cons, List.not_mem_nil, or_false] at hk ⊢ <;> tauto

/-- A key that is neither old nor missing where it must not be is left as it is. -/
theorem metaKeyOf_fixed {sid metaKey : String} (hlegacy : metaKey ∉ keys.legacyOf sid)
    (hengine : sid = "trading_engine" → metaKey ≠ "") : metaKeyOf keys sid metaKey = metaKey := by
  rw [metaKeyOf, renameMetaKey_eq, if_neg hlegacy]
  exact if_neg fun h => hengine h.1 h.2

theorem metaKeyOf_spec (hkeys : keys.Lawful) {sid metaKey : String} (h : Stripped metaKey) :
    Stripped (metaKeyOf keys sid metaKey) ∧ metaKeyOf keys sid metaKey ∉ keys.legacyOf sid ∧
    (sid = "trading_engine" → metaKeyOf keys sid metaKey ≠ "") := by
  have hcanonical : ∀ sid', Stripped (keys.canonicalOf sid') ∧ keys.canonicalOf sid' ∉ keys.legacyOf sid ∧
      (sid = "trading_engine" → keys.canonicalOf sid' ≠ "") := by
    intro sid'
    have hclean := hkeys.clean _ (canonicalOf_mem sid')
    exact ⟨hclean.1, fun hold => hkeys.current _ (canonicalOf_mem sid') (legacyOf_subset sid _ hold),
      fun _ => hclean.2⟩
  rw [metaKeyOf, renameMetaKey_eq]
  by_cases hlegacy : metaKey ∈ keys.legacyOf sid
  · rw [if_pos hlegacy, if_neg fun hempty => (hcanonical sid).2.2 hempty.1 hempty.2]
    exact hcanonical sid
  · rw [if_neg hlegacy]
    split
    · exact hcanonical "trading_engine"
    · rename_i hne
      exact ⟨h, hlegacy, fun hengine hempty => hne ⟨hengine, hempty⟩⟩

theorem stripped_service {unit : String} (h : Stripped unit) (hne : unit ≠ "") : Stripped (unit ++ ".service") := by
  have hchars : stripChars unit.toList = unit.toList := by
    have := congrArg String.toList h
    rwa [strip, String.toList_ofList] at this
  have hnil : unit.toList ≠ [] := fun hnil => hne (String.toList_eq_nil_iff.1 hnil)
  rw [Stripped, strip, String.toList_append, stripChars_eq_self, ← String.toList_append, String.ofList_toList]
  · intro c hc
    apply @head?_stripChars unit.toList
    rw [hchars]
    rwa [List.head?_append_of_ne_nil _ hnil] at hc
  · intro c hc
    rw [List.getLast?_append] at hc
    obtain rfl : 'e' = c := Option.some.inj hc
    decide +kernel

theorem normUnit_spec {unit u : String} (h : Stripped unit) (hu : normUnit unit = some u) :
    Stripped u ∧ endsWithService u = true := by
  unfold normUnit at hu
  split at hu
  · cases hu
  · rename_i hne
    obtain rfl := Option.some.inj hu
    split
    · rename_i hservice
      exact ⟨h, hservice⟩
    · refine ⟨stripped_service h hne, ?_⟩
      rw [endsWithService, String.toList_append, List.isSuffixOf_iff_suffix]
      exact List.suffix_append _ _

theorem normUnit_fixed {u : String} (h : endsWithService u = true) : normUnit u = some u := by
  have hne : u ≠ "" := by
    rintro rfl
    revert h
    decide
  rw [normUnit, if_neg hne, h]
  rfl

end

/-! ## One row -/

section

variable {keys : HealthKeys} {container : Json → String}

theorem gatewayPlace_clean : (Stripped ibGatewayNamespace ∧ ibGatewayNamespace ≠ "") ∧
    Stripped ibGatewayDeployment ∧ ibGatewayDeployment ≠ "" := by
  decide +kernel

theorem assembleRow_other {sid : String} (h : sid ∉ ibGatewayServiceIds)
    (label metaKey unit namesp deployment : String) : assembleRow keys sid label metaKey unit namesp deployment =
      if sid = "" ∨ (unit = "" ∧ deployment = "") then none
      else if sid ∈ retiredServiceIds then none
      else some ⟨sid, if label = "" then sid else label, metaKeyOf keys sid metaKey, normUnit unit,
        if deployment = "" then none else some (if namesp = "" then ibGatewayNamespace else namesp, deployment)⟩ := by
  simp only [assembleRow, h, decide_false, Bool.false_eq_true, if_false]

theorem gateway_id {sid : String} (h : sid ∈ ibGatewayServiceIds) :
    sid ≠ "" ∧ sid ≠ "ib_market" ∧ sid ∉ retiredServiceIds ∧ sid ≠ "trading_engine" ∧
    canonicalIngestServiceId sid = sid := by
  simp only [ibGatewayServiceIds, List.mem_cons, List.not_mem_nil, or_false] at h
  rcases h with rfl | rfl | rfl <;> decide +kernel

/-- Of a gateway's row only the label and the key are the config's. -/
theorem assembleRow_gateway {sid : String} (h : sid ∈ ibGatewayServiceIds)
    (label metaKey unit namesp deployment : String) : assembleRow keys sid label metaKey unit namesp deployment =
      some (ibGatewayRow sid (if label = "" then sid else label) (metaKeyOf keys sid metaKey)) := by
  obtain ⟨hne, -, hretired, -⟩ := gateway_id h
  have hplace : ibGatewayDeployment ≠ "" := gatewayPlace_clean.2.2
  have hnamesp : ibGatewayNamespace ≠ "" := gatewayPlace_clean.1.2
  simp [assembleRow, h, hne, hretired, hplace, hnamesp, normUnit, ibGatewayRow]

theorem normal_gatewayRow {sid label metaKey : String} (h : sid ∈ ibGatewayServiceIds)
    (hlabel : Stripped label ∧ label ≠ "") (hmeta : Stripped metaKey) (hcurrent : metaKey ∉ keys.legacyOf sid) :
    NormalRow keys (ibGatewayRow sid label metaKey) := by
  obtain ⟨hne, hmarket, hretired, hengine, hcanonical⟩ := gateway_id h
  have hplace : ∀ namesp deployment, some (ibGatewayNamespace, ibGatewayDeployment) = some (namesp, deployment) →
      (Stripped namesp ∧ namesp ≠ "") ∧ Stripped deployment ∧ deployment ≠ "" := by
    intro namesp deployment hw
    rw [Option.some.injEq, Prod.mk.injEq] at hw
    rw [← hw.1, ← hw.2]
    exact gatewayPlace_clean
  exact ⟨hne, hcanonical, hmarket, hretired, hlabel, hmeta, hcurrent, fun h => absurd h hengine, fun _ => ⟨rfl, rfl⟩,
    fun _ hu => (by cases hu), hplace, Or.inr fun hnone => (by cases hnone)⟩

/-- Which rows are assembled. -/
theorem assembleRow_isSome {sid label metaKey unit namesp deployment : String} :
    (assembleRow keys sid label metaKey unit namesp deployment).isSome = true ↔
      sid ≠ "" ∧ sid ∉ retiredServiceIds ∧ (sid ∈ ibGatewayServiceIds ∨ unit ≠ "" ∨ deployment ≠ "") := by
  by_cases hgateway : sid ∈ ibGatewayServiceIds
  · obtain ⟨hne, -, hretired, -⟩ := gateway_id hgateway
    rw [assembleRow_gateway hgateway]
    exact iff_of_true rfl ⟨hne, hretired, Or.inl hgateway⟩
  · rw [assembleRow_other hgateway]
    split
    · simp only [Option.isSome_none, Bool.false_eq_true, false_iff]
      tauto
    · split
      · rename_i hretired
        simp only [Option.isSome_none, Bool.false_eq_true, false_iff]
        exact fun h => h.2.1 hretired
      · simp only [Option.isSome_some, true_iff]
        tauto

theorem assembleRow_normal (hkeys : keys.Lawful) {sid label metaKey unit namesp deployment : String} {r : ServiceRow}
    (hsid : Stripped sid ∧ sid ≠ "ib_market" ∧ canonicalIngestServiceId sid = sid) (hlabel : Stripped label)
    (hmeta : Stripped metaKey) (hunit : Stripped unit) (hnamesp : Stripped namesp) (hdeployment : Stripped deployment)
    (h : assembleRow keys sid label metaKey unit namesp deployment = some r) : NormalRow keys r := by
  obtain ⟨hstripped, hlegacy, hengine⟩ := @metaKeyOf_spec keys hkeys sid metaKey hmeta
  obtain ⟨hne, hretired, hplaced⟩ := assembleRow_isSome.1 (Option.isSome_of_eq_some h)
  have hlabel' : Stripped (if label = "" then sid else label) ∧ (if label = "" then sid else label) ≠ "" := by
    split
    · exact ⟨hsid.1, hne⟩
    · rename_i hnonempty
      exact ⟨hlabel, hnonempty⟩
  by_cases hgateway : sid ∈ ibGatewayServiceIds
  · rw [assembleRow_gateway hgateway, Option.some.injEq] at h
    rw [← h]
    exact normal_gatewayRow hgateway hlabel' hstripped hlegacy
  · have hplace : ¬ (sid = "" ∨ unit = "" ∧ deployment = "") := by
      rintro (hempty | ⟨hu, hd⟩)
      · exact hne hempty
      · rcases hplaced with h | h | h
        · exact hgateway h
        · exact h hu
        · exact h hd
    rw [assembleRow_other hgateway, if_neg hplace, if_neg hretired, Option.some.injEq] at h
    subst h
    refine ⟨hne, hsid.2.2, hsid.2.1, hretired, hlabel', hstripped, hlegacy, hengine, fun h => absurd h hgateway,
      fun u => normUnit_spec hunit, fun namesp' deployment' hw => ?_, ?_⟩
    · dsimp only at hw
      split at hw
      · cases hw
      · rename_i hplace
        rw [Option.some.injEq, Prod.mk.injEq] at hw
        rw [← hw.1, ← hw.2]
        refine ⟨?_, hdeployment, hplace⟩
        split
        · exact gatewayPlace_clean.1
        · rename_i hnonempty
          exact ⟨hnamesp, hnonempty⟩
    · rcases hplaced with h | hunit | hdeployment
      · exact absurd h hgateway
      · exact Or.inl (by simp [normUnit, hunit])
      · exact Or.inr (by simp [hdeployment])

theorem buildRow_normal (hkeys : keys.Lawful) {raw : Json} {r : ServiceRow}
    (h : buildRow keys container raw = some r) : NormalRow keys r := by
  unfold buildRow at h
  split at h
  · cases h
  · exact assembleRow_normal hkeys (canonicalIngestServiceId_spec _) (stripped_strip _) (stripped_strip _)
      (stripped_strip _) (stripped_strip _) (stripped_strip _) h

/-! ## What a built row keeps -/

/-- A field without a default, as it is read. -/
theorem textField_blank {row : Dict String Json} {k : String} :
    textField container row k "" = written container row k := by
  have hempty : strip "" = "" := by decide +kernel
  rw [textField, Json.getOr, written]
  cases row.lookup k with
  | none => exact hempty
  | some v =>
    rw [Json.orDefault]
    dsimp only
    by_cases htruthy : v.truthy = true
    · rw [if_pos htruthy, if_pos htruthy]
    · rw [if_neg htruthy, if_neg htruthy]
      exact hempty

/-- The label is the row's id where it is missing or blank. -/
theorem label_of_textField {row : Dict String Json} {sid : String} (hsid : Stripped sid) :
    (if textField container row "label" sid = "" then sid else textField container row "label" sid) =
      if written container row "label" = "" then sid else written container row "label" := by
  have hread : textField container row "label" sid = written container row "label" ∨
      textField container row "label" sid = sid ∧ written container row "label" = "" := by
    rw [textField, Json.getOr, written]
    cases row.lookup "label" with
    | none => exact Or.inr ⟨hsid, rfl⟩
    | some v =>
      rw [Json.orDefault]
      dsimp only
      by_cases htruthy : v.truthy = true
      · rw [if_pos htruthy, if_pos htruthy]
        exact Or.inl rfl
      · rw [if_neg htruthy, if_neg htruthy]
        exact Or.inr ⟨hsid, rfl⟩
  rcases hread with hsame | ⟨hdefault, hblank⟩
  · rw [hsame]
  · rw [hdefault, hblank, ite_self, if_pos rfl]

/-- The official form of the id that was written. -/
theorem canonical_written {row : Dict String Json} :
    canonicalIngestServiceId (textField container row "id" "") =
      if written container row "id" = "ib_market" then "ib_ingestor" else written container row "id" := by
  have hstripped : strip (written container row "id") = written container row "id" := by
    rw [← textField_blank]
    exact stripped_strip _
  rw [textField_blank, canonicalIngestServiceId, hstripped]

/-- A usable row is one that is built. -/
theorem usable_eq (raw : Json) : usable container raw = (buildRow keys container raw).isSome := by
  unfold usable buildRow
  split
  · rfl
  · rename_i row _
    rw [Bool.eq_iff_iff, assembleRow_isSome, canonical_written, textField_blank, textField_blank]
    simp only [Bool.and_eq_true, Bool.or_eq_true, decide_eq_true_eq, and_assoc, or_assoc]
    by_cases hmarket : written container row "id" = "ib_market"
    · rw [hmarket, if_pos rfl]
      exact iff_of_true ⟨by decide, by decide, Or.inl (by decide)⟩ ⟨by decide, by decide, Or.inl (by decide)⟩
    · rw [if_neg hmarket, List.mem_cons, or_iff_right hmarket]

theorem metaKeyOf_old (hkeys : keys.Lawful) {sid metaKey : String} (h : metaKey ∈ keys.legacyOf sid) :
    metaKeyOf keys sid metaKey = keys.canonicalOf sid := by
  have hclean := hkeys.clean _ (@canonicalOf_mem keys sid)
  rw [metaKeyOf, renameMetaKey_eq, if_pos h, if_neg fun hempty => hclean.2 hempty.2]

theorem metaKeyOf_missing {metaKey : String} (h : metaKey = "") :
    metaKeyOf keys "trading_engine" metaKey = keys.daemonStrategyTrading := by
  rw [metaKeyOf, renameMetaKey_eq, h]
  by_cases hlegacy : "" ∈ keys.legacyOf "trading_engine"
  · rw [if_pos hlegacy]
    exact ite_self _
  · rw [if_neg hlegacy, if_pos ⟨rfl, rfl⟩]

/-- What an assembled row has of its fields. -/
theorem assembleRow_fields {sid label metaKey unit namesp deployment : String} {r : ServiceRow}
    (h : assembleRow keys sid label metaKey unit namesp deployment = some r) :
    r.id = sid ∧ r.label = (if label = "" then sid else label) ∧ r.redisMetaKey = metaKeyOf keys sid metaKey ∧
    (sid ∉ ibGatewayServiceIds → r.systemdUnit = normUnit unit ∧ r.workload =
      if deployment = "" then none else some (if namesp = "" then ibGatewayNamespace else namesp, deployment)) := by
  by_cases hgateway : sid ∈ ibGatewayServiceIds
  · rw [assembleRow_gateway hgateway, Option.some.injEq] at h
    rw [← h]
    exact ⟨rfl, rfl, rfl, fun hother => absurd hgateway hother⟩
  · rw [assembleRow_other hgateway] at h
    split at h
    · cases h
    · split at h
      · cases h
      · rw [Option.some.injEq] at h
        rw [← h]
        exact ⟨rfl, rfl, rfl, fun _ => ⟨rfl, rfl⟩⟩

/-- A built row is the configured one's. -/
theorem buildRow_rowOf (hkeys : keys.Lawful) {raw : Json} {r : ServiceRow} (h : buildRow keys container raw = some r) :
    ∃ row, raw = .obj row ∧ RowOf keys container row r := by
  unfold buildRow at h
  split at h
  · cases h
  · rename_i row hitems
    have hstripped := (canonicalIngestServiceId_spec (textField container row "id" "")).1
    obtain ⟨hid, hlabel, hkey, hplace⟩ := assembleRow_fields h
    rw [label_of_textField hstripped, ← hid] at hlabel
    rw [← hid, textField_blank] at hkey
    rw [← hid] at hplace
    simp only [textField_blank] at hplace
    refine ⟨row, Json.items?_eq_some.1 hitems, hid.trans canonical_written, hlabel, ?_, ?_, ?_, ?_, ?_⟩
    · exact fun hold => hkey.trans (metaKeyOf_old hkeys hold)
    · intro hengine hmissing
      rw [hkey, hengine]
      exact metaKeyOf_missing hmissing
    · exact fun hcurrent hengine => hkey.trans (metaKeyOf_fixed hcurrent hengine)
    · intro hother
      rw [(hplace hother).1, normUnit]
      split
      · rfl
      · split <;> rfl
    · exact fun hother => (hplace hother).2

/-! ## Reading a normal row back -/

/-- A field that is not blank, or has no default. -/
theorem textField_of_str {row : Dict String Json} {k default s : String} (h : row.lookup k = some (.str s))
    (hs : s ≠ "" ∨ default = "") : textField container row k default = strip s := by
  rw [textField, Json.getOr, h, Json.orDefault]
  by_cases hempty : s = ""
  · rw [hempty, hs.resolve_left fun hne => hne hempty]
    rfl
  · rw [if_pos (by simpa [Json.truthy] using hempty)]
    rfl

theorem textField_of_none {row : Dict String Json} {k : String} (h : row.lookup k = none) :
    textField container row k "" = "" := by
  have hempty : strip "" = "" := by decide +kernel
  rw [textField, Json.getOr, h]
  exact hempty

/-- An optional field that is stripped where it is there. -/
theorem textField_of_map {row : Dict String Json} {k : String} {field : Option String}
    (h : row.lookup k = field.map Json.str) (hfield : ∀ s, field = some s → Stripped s) :
    textField container row k "" = field.getD "" := by
  cases field with
  | none => exact textField_of_none h
  | some s => exact (textField_of_str h (Or.inr rfl)).trans (hfield s rfl)

theorem lookup_toDict (r : ServiceRow) : r.toDict.lookup "id" = some (.str r.id) ∧
    r.toDict.lookup "label" = some (.str r.label) ∧ r.toDict.lookup "redis_meta_key" = some (.str r.redisMetaKey) ∧
    r.toDict.lookup "systemd_unit" = r.systemdUnit.map Json.str ∧
    r.toDict.lookup "k8s_namespace" = (r.workload.map Prod.fst).map Json.str ∧
    r.toDict.lookup "k8s_deployment" = (r.workload.map Prod.snd).map Json.str := by
  obtain ⟨id, label, metaKey, unit, workload⟩ := r
  cases unit <;> cases workload <;> exact ⟨rfl, rfl, rfl, rfl, rfl, rfl⟩

theorem normUnit_getD {field : Option String} (h : ∀ u, field = some u → endsWithService u = true) :
    normUnit (field.getD "") = field := by
  cases field with
  | none => rfl
  | some u => exact normUnit_fixed (h u rfl)

theorem assembleRow_of_normal {r : ServiceRow} (h : NormalRow keys r) :
    assembleRow keys r.id r.label r.redisMetaKey (r.systemdUnit.getD "") ((r.workload.map Prod.fst).getD "")
      ((r.workload.map Prod.snd).getD "") = some r := by
  have hmeta := metaKeyOf_fixed h.metaKey_current h.engine
  have hunit := normUnit_getD fun u hu => (h.unit u hu).2
  by_cases hgateway : r.id ∈ ibGatewayServiceIds
  · obtain ⟨hworkload, hnone⟩ := h.gateway hgateway
    rw [assembleRow_gateway hgateway, if_neg h.label.2, hmeta, ibGatewayRow, ← hworkload, ← hnone]
  · have hplaced : ¬ (r.id = "" ∨ r.systemdUnit.getD "" = "" ∧ (r.workload.map Prod.snd).getD "" = "") := by
      rintro (hempty | ⟨hu, hd⟩)
      · exact h.id_nonempty hempty
      · rcases h.placed with hsome | hsome
        · rw [hu] at hunit
          exact hsome hunit.symm
        · obtain ⟨⟨namesp, deployment⟩, hw⟩ := Option.ne_none_iff_exists'.1 hsome
          rw [hw] at hd
          exact (h.workload _ _ hw).2.2 hd
    rw [assembleRow_other hgateway, if_neg hplaced, if_neg h.not_retired, if_neg h.label.2, hmeta, hunit]
    obtain ⟨id, label, metaKey, unit, workload⟩ := r
    cases workload with
    | none => rfl
    | some w =>
      obtain ⟨⟨-, hnamesp⟩, -, hdeployment⟩ := h.workload w.1 w.2 rfl
      simp [hnamesp, hdeployment]

theorem stripped_of_canonical {sid : String} (h : canonicalIngestServiceId sid = sid) : Stripped sid := by
  rw [← h]
  exact (canonicalIngestServiceId_spec sid).1

/-- A normal row of the config is answered as it is. -/
theorem buildRow_of_normal {r : ServiceRow} (h : NormalRow keys r) :
    buildRow keys container (.obj r.toDict) = some r := by
  obtain ⟨hid, hlabel, hmeta, hunit, hnamesp, hdeployment⟩ := lookup_toDict r
  have hid' : canonicalIngestServiceId (textField container r.toDict "id" "") = r.id := by
    rw [textField_of_str hid (Or.inr rfl), stripped_of_canonical h.id_canonical, h.id_canonical]
  have hworkload : ∀ s, (r.workload.map Prod.fst = some s → Stripped s) ∧
      (r.workload.map Prod.snd = some s → Stripped s) := by
    intro s
    cases hw : r.workload with
    | none => simp
    | some w =>
      obtain ⟨⟨hn, -⟩, hd, -⟩ := h.workload w.1 w.2 hw
      refine ⟨fun hs => ?_, fun hs => ?_⟩
      · rw [← Option.some.inj hs]
        exact hn
      · rw [← Option.some.inj hs]
        exact hd
  rw [buildRow, Json.items?]
  dsimp only
  rw [hid', textField_of_str hlabel (Or.inl h.label.2), textField_of_str hmeta (Or.inr rfl),
    textField_of_map hunit fun u hu => (h.unit u hu).1, textField_of_map hnamesp fun s => (hworkload s).1,
    textField_of_map hdeployment fun s => (hworkload s).2, h.label.1, h.metaKey]
  exact assembleRow_of_normal h

end

/-! ## The list -/

section

variable {keys : HealthKeys} {container : Json → String}

theorem normal_socketFeedRows (hkeys : keys.Lawful) : ∀ r ∈ socketFeedRows keys, NormalRow keys r := by
  have hkey : ∀ k ∈ keys.canonical, ∀ sid, Stripped k ∧ k ∉ keys.legacyOf sid := fun k hk sid =>
    ⟨(hkeys.clean k hk).1, fun hold => hkeys.current k hk (legacyOf_subset sid k hold)⟩
  have hnormal : ∀ sid label k, sid ∈ ibGatewayServiceIds → Stripped label ∧ label ≠ "" → k ∈ keys.canonical →
      NormalRow keys (ibGatewayRow sid label k) := fun sid label k hsid hlabel hk =>
    normal_gatewayRow hsid hlabel (hkey k hk sid).1 (hkey k hk sid).2
  intro r hr
  simp only [socketFeedRows, List.mem_cons, List.not_mem_nil, or_false] at hr
  rcases hr with rfl | rfl | rfl
  · exact hnormal _ _ _ (by decide) (by decide +kernel) (by simp [HealthKeys.canonical])
  · exact hnormal _ _ _ (by decide) (by decide +kernel) (by simp [HealthKeys.canonical])
  · exact hnormal _ _ _ (by decide) (by decide +kernel) (by simp [HealthKeys.canonical])

theorem normal_engineRow (hkeys : keys.Lawful) : NormalRow keys (engineRow keys) := by
  have hclean := hkeys.clean keys.daemonStrategyTrading (by simp [HealthKeys.canonical])
  have hcurrent := hkeys.current keys.daemonStrategyTrading (by simp [HealthKeys.canonical])
  have hid : "trading_engine" ≠ "" ∧ canonicalIngestServiceId "trading_engine" = "trading_engine" ∧
      "trading_engine" ≠ "ib_market" ∧ "trading_engine" ∉ retiredServiceIds ∧
      "trading_engine" ∉ ibGatewayServiceIds := by decide +kernel
  have hlabel : Stripped "Strategy Trading Daemon" ∧ "Strategy Trading Daemon" ≠ "" := by decide +kernel
  have hunit : Stripped "bifrost-engine.service" ∧ endsWithService "bifrost-engine.service" = true := by
    decide +kernel
  exact {
    id_nonempty := hid.1
    id_canonical := hid.2.1
    id_not_market := hid.2.2.1
    not_retired := hid.2.2.2.1
    label := hlabel
    metaKey := hclean.1
    metaKey_current := fun hold => hcurrent (legacyOf_subset _ _ hold)
    engine := fun _ => hclean.2
    gateway := fun h => absurd h hid.2.2.2.2
    unit := fun u hu => by
      rw [← Option.some.inj hu]
      exact hunit
    workload := fun _ _ hw => by cases hw
    placed := Or.inl fun hnone => by cases hnone }

theorem normal_default (hkeys : keys.Lawful) : ∀ r ∈ defaultMarketIngestServices keys, NormalRow keys r := by
  intro r hr
  rcases List.mem_append.1 hr with hr | hr
  · exact normal_socketFeedRows hkeys r hr
  · rw [List.mem_singleton.1 hr]
    exact normal_engineRow hkeys

/-- A socket row is none of the daemon's. -/
theorem socketFeedRows_notOnlyDaemon (rest : List ServiceRow) :
    ∃ r ∈ socketFeedRows keys ++ rest, r.id ≠ "trading_engine" := by
  have hoperator : "ib_operator" ≠ "trading_engine" := by decide
  exact ⟨_, List.mem_append_left _ (List.mem_cons_self ..), hoperator⟩

theorem ensureSocketFeedRows_fixed {out : List ServiceRow} (h : ∃ r ∈ out, r.id ≠ "trading_engine") :
    ensureSocketFeedRows keys out = out := by
  obtain ⟨r, hr, hne⟩ := h
  rw [ensureSocketFeedRows, if_neg (List.ne_nil_of_mem hr), if_neg]
  intro hall
  exact hne (of_decide_eq_true (List.all_eq_true.1 hall r hr))

theorem filterMap_normal : ∀ {out : List ServiceRow}, (∀ r ∈ out, NormalRow keys r) →
    (out.map fun r => Json.obj r.toDict).filterMap (buildRow keys container) = out
  | [], _ => rfl
  | r :: out, h => by
    rw [List.map_cons, List.filterMap_cons_some (buildRow_of_normal (h r (List.mem_cons_self ..))),
      filterMap_normal fun r' hr' => h r' (List.mem_cons_of_mem r hr')]

/-- The rows that are built, one by one. -/
theorem forall₂_filterMap (hkeys : keys.Lawful) (raw : List Json) :
    List.Forall₂ (fun raw r => ∃ row, raw = .obj row ∧ RowOf keys container row r) (raw.filter (usable container))
      (raw.filterMap (buildRow keys container)) := by
  induction raw with
  | nil => exact List.Forall₂.nil
  | cons row raw ih =>
    have husable := @usable_eq keys container row
    cases hrow : buildRow keys container row with
    | none =>
      rw [hrow] at husable
      rw [List.filter_cons_of_neg (by simp [husable]), List.filterMap_cons_none hrow]
      exact ih
    | some r =>
      rw [hrow] at husable
      rw [List.filter_cons_of_pos (by simp [husable]), List.filterMap_cons_some hrow]
      exact List.Forall₂.cons (buildRow_rowOf hkeys hrow) ih

theorem set_ne_nil {α β : Type} [DecidableEq α] {d : Dict α β} {k : α} {v : β} : Dict.set d k v ≠ [] := by
  intro hnil
  have hlookup := Dict.lookup_set d k k v
  rw [hnil, if_pos rfl] at hlookup
  cases hlookup

theorem opsOf_withServices (config : Dict String Json) (out : List ServiceRow) :
    Json.getOr (withServices config out) "ops" (.obj []) =
      .obj (Dict.set (opsOf config) "market_ingest_services" (.arr (out.map fun r => .obj r.toDict))) := by
  have htruthy : Json.truthy (.obj (Dict.set (opsOf config) "market_ingest_services"
      (.arr (out.map fun r => .obj r.toDict)))) = true := by
    rw [Json.truthy, Bool.not_eq_true', List.isEmpty_eq_false_iff]
    exact set_ne_nil
  rw [Json.getOr, withServices, Dict.lookup_set, if_pos rfl, Json.orDefault, if_pos htruthy]

theorem services_again {config : Dict String Json} {out : List ServiceRow} (hnormal : ∀ r ∈ out, NormalRow keys r)
    (hnot : ∃ r ∈ out, r.id ≠ "trading_engine") :
    marketIngestServicesFromConfig keys container (withServices config out) = .ok out := by
  obtain ⟨r₀, hr₀, hid₀⟩ := hnot
  have hnot : ∃ r ∈ out, r.id ≠ "trading_engine" := ⟨r₀, hr₀, hid₀⟩
  rw [marketIngestServicesFromConfig, opsOf_withServices]
  dsimp only [Json.items?]
  rw [Dict.lookup_set, if_pos rfl]
  have hservices : servicesOfRows keys container (out.map fun r => .obj r.toDict) = out := by
    rw [servicesOfRows, filterMap_normal hnormal, if_neg (List.ne_nil_of_mem hr₀)]
    exact ensureSocketFeedRows_fixed hnot
  cases out with
  | nil => cases hr₀
  | cons r out => exact congrArg Except.ok hservices

/-- The rows of a list that is not empty. -/
theorem servicesOfRows_spec (hkeys : keys.Lawful) (raw : List Json) :
    (∀ r ∈ servicesOfRows keys container raw, NormalRow keys r) ∧
    (∃ r ∈ servicesOfRows keys container raw, r.id ≠ "trading_engine") ∧
    (raw.filter (usable container) ≠ [] → ∃ front built, servicesOfRows keys container raw = front ++ built ∧
      List.Forall₂ (fun raw r => ∃ row, raw = .obj row ∧ RowOf keys container row r)
        (raw.filter (usable container)) built ∧
      (front = [] ∨ front = socketFeedRows keys ∧ ∀ r ∈ built, r.id = "trading_engine")) := by
  have hbuilt : ∀ r ∈ raw.filterMap (buildRow keys container), NormalRow keys r := by
    intro r hr
    obtain ⟨row, -, hrow⟩ := List.mem_filterMap.1 hr
    exact buildRow_normal hkeys hrow
  have hforall := @forall₂_filterMap keys container hkeys raw
  rw [servicesOfRows]
  split
  · rename_i hnil
    refine ⟨normal_default hkeys, socketFeedRows_notOnlyDaemon _, fun husable => ?_⟩
    rw [hnil] at hforall
    exact absurd (List.forall₂_nil_right_iff.1 hforall) husable
  · rename_i hne
    rw [ensureSocketFeedRows, if_neg hne]
    split
    · rename_i hdaemon
      refine ⟨fun r hr => ?_, socketFeedRows_notOnlyDaemon _, fun _ => ⟨_, _, rfl, hforall, Or.inr ⟨rfl, ?_⟩⟩⟩
      · rcases List.mem_append.1 hr with hr | hr
        · exact normal_socketFeedRows hkeys r hr
        · exact hbuilt r hr
      · exact fun r hr => of_decide_eq_true (List.all_eq_true.1 hdaemon r hr)
    · rename_i hdaemon
      refine ⟨hbuilt, ?_, fun _ => ⟨[], _, rfl, hforall, Or.inl rfl⟩⟩
      by_contra hnone
      refine hdaemon (List.all_eq_true.2 fun r hr => decide_eq_true ?_)
      by_contra hid
      exact hnone ⟨r, hr, hid⟩

/-- **Main.** Of a config whose `ops` is a mapping or absent, the services are in normal form, and reading them
back from the config changes nothing. -/
theorem marketIngestServicesFromConfig_normal (hkeys : keys.Lawful) (config : Dict String Json)
    (hops : ∀ ops, config.lookup "ops" = some ops → ops.isDict = true) :
    ∃ out, marketIngestServicesFromConfig keys container config = .ok out ∧
      NormalServices keys container config out := by
  obtain ⟨ops, hitems⟩ : ∃ ops, (Json.getOr config "ops" (.obj [])).items? = some ops := by
    rw [Json.getOr]
    cases hlookup : config.lookup "ops" with
    | none => exact ⟨[], rfl⟩
    | some j =>
      have hdict := hops j hlookup
      cases j with
      | obj kvs =>
        rw [Json.orDefault]
        split
        · exact ⟨kvs, rfl⟩
        · exact ⟨[], rfl⟩
      | _ => cases hdict
  have hopsOf : opsOf config = ops := by rw [opsOf, hitems, Option.getD_some]
  rw [marketIngestServicesFromConfig, hitems]
  dsimp only
  split
  · rename_i row rows hlist
    have hconfigured : configuredRows config = row :: rows := by rw [configuredRows, hopsOf, hlist]
    obtain ⟨hnormal, hnot, husable⟩ := @servicesOfRows_spec keys container hkeys (row :: rows)
    refine ⟨_, rfl, hnormal, hnot, ?_, services_again hnormal hnot⟩
    rw [hconfigured]
    exact husable
  · rename_i hlist
    have hnormal := normal_default hkeys
    have hnot := @socketFeedRows_notOnlyDaemon keys [engineRow keys]
    refine ⟨_, rfl, hnormal, hnot, fun husable => absurd ?_ husable, services_again hnormal hnot⟩
    rw [configuredRows, hopsOf]
    split
    · rename_i raw hraw
      cases raw with
      | nil => rfl
      | cons row rows => exact absurd hraw (hlist row rows)
    · rfl

end

/-! ## A config -/

def sampleKeys : HealthKeys where
  ibOperator := "bifrost:health:ws_ib_operator"
  ibIngestor := "bifrost:health:ws_ib_ingestor"
  ibAccountAgent := "bifrost:health:ws_ib_account_agent"
  daemonStrategyTrading := "bifrost:health:daemon_strategy_trading"
  legacyIbOperator := "bifrost:ib_operator"
  legacyIbIngestor := "bifrost:ib_ingestor"
  legacyIbAccountAgent := "bifrost:ib_account_agent"
  legacyOpsTradingEngineMeta := "bifrost:ops:trading_engine"
  legacyHealthDaemonTradingEngine := "bifrost:health:daemon_trading_engine"

/-- A renamed id with an old key, a row that is no mapping, a retired one, one with a label, a namespace and a unit of
its own, and the daemon without a key. -/
def ingestSampleConfig : Dict String Json :=
  [("ops", .obj [("market_ingest_services", .arr [
    .obj [("id", .str " ib_market "), ("redis_meta_key", .str "ib:ingester:meta:health")], .str "ib_operator",
    .obj [("id", .str "account_sync_daemon"), ("systemd_unit", .str "bifrost-account-sync")],
    .obj [("id", .str "quotes"), ("label", .str " Quotes "), ("redis_meta_key", .str "bifrost:health:quotes"),
      ("k8s_namespace", .str "feeds"), ("k8s_deployment", .str "quotes"), ("systemd_unit", .str "quotes.service")],
    .obj [("id", .str "trading_engine"), ("systemd_unit", .str "bifrost-engine")]])])]

theorem sampleKeys_lawful : sampleKeys.Lawful :=
  ⟨by decide +kernel, by decide +kernel⟩

example : (marketIngestServicesFromConfig sampleKeys (fun _ => "") ingestSampleConfig).toOption =
    some [⟨"ib_ingestor", "ib_ingestor", "bifrost:health:ws_ib_ingestor", none, some ("data", "ib-gateway")⟩,
      ⟨"quotes", "Quotes", "bifrost:health:quotes", some "quotes.service", some ("feeds", "quotes")⟩,
      ⟨"trading_engine", "trading_engine", "bifrost:health:daemon_strategy_trading", some "bifrost-engine.service",
        none⟩] := by decide +kernel

theorem marketIngestServicesFromConfig_normal_sample :
    ∃ out, marketIngestServicesFromConfig sampleKeys (fun _ => "") ingestSampleConfig = .ok out ∧
      NormalServices sampleKeys (fun _ => "") ingestSampleConfig out :=
  marketIngestServicesFromConfig_normal sampleKeys_lawful ingestSampleConfig fun ops h => by
    obtain rfl := Option.some.inj h
    rfl

end BifrostApi.Ops
