import BifrostApi.Lib.Loop
import BifrostApi.Py.Json

/-!
# What the readiness routes read from Research (`research/analytics_reader.py`, `research/routers/data_readiness.py`)

The SEPA marts are Research's; these routes ask it over HTTP and have no other source. A Research failure is a 503 that
names the read, a name without a row is `found: false`, and a bad tier, signal or count is a 400 before anything is
asked: Research would refuse it with a 4xx, which comes back as a 503.

`Request.path` is the path as it is put into the URL: a symbol is not quoted there.

| here | there |
| --- | --- |
| `proxyGet`, `researchGet` | `_proxy_get` (analytics_reader.py:90), `_research_get` (:115) |
| `readCriteriaStats`, `readDistribution`, … | the `fetch_…` functions (:148-215) with what their routes check before |
| `conds`, `criteriaStats` | `_conds` (data_readiness.py:92), `_criteria_stats_analytics` (:45) |
| `distribution` | `_fundamental_distribution_analytics` (:182) and its twin |
| `conditions` | `_fundamental_conditions_analytics` (:246) and its twin |
| `tierArgs`, `readTierFilter` | `_tier_args` (:682), `_tier_filter_response` (:695) |
-/

namespace BifrostApi.Research.Readiness

open Py

/-! ## Research -/

structure Request where
  path : String
  params : Dict String String

inductive Reply
  /-- A transport failure, a timeout, or a body that is no JSON; the exception's text. -/
  | failed (text : String)
  /-- Any status but 2xx, and the body if it is JSON. -/
  | status (code : Nat) (body : Option Json)
  | ok (data : Json)

abbrev Server := Request → Reply

inductive ProxyError
  | status (code : Nat) (body : Option Json)
  | other (text : String)

/-- A request, and whether a 404 to it means that there is no row. -/
structure Read where
  path : String
  params : Dict String String
  missingIsNone : Bool

/-- Parameters without a value are not sent. -/
def Read.request (r : Read) : Request := ⟨r.path, r.params.filter fun kv => kv.2 ≠ ""⟩

section Get

variable (research : Server) (container : Json → String)

def proxyGet (r : Read) : Except ProxyError (Dict String Json) :=
  match research r.request with
  | .failed text => .error (.other text)
  | .status code body => .error (.status code body)
  | .ok data => match data.items? with
    | some d => .ok d
    | none => .error (.other ("Research API " ++ r.path ++ " returned non-object JSON"))

/-- `" — " + body["detail"]`, if there is one. -/
def detailOf (body : Option Json) : String :=
  match body.bind fun body => body.get? "detail" with
  | some detail => if detail.truthy then " — " ++ detail.text container else ""
  | none => ""

/-- An error is the text of a `ResearchUnavailable`. -/
def researchGet (r : Read) : Except String (Option (Dict String Json)) :=
  match proxyGet research r with
  | .ok d => .ok (some d)
  | .error (.status code body) =>
    if r.missingIsNone ∧ code = 404 then .ok none
    else .error ("Research API " ++ r.path ++ ": " ++ ("HTTP " ++ toString code ++ detailOf container body))
  | .error (.other text) => .error ("Research API " ++ r.path ++ ": " ++ text)

end Get

/-- What a route answers. -/
inductive Answer
  | body (content : Json)
  /-- 400 -/
  | refused (detail : String)
  /-- 503 -/
  | unavailable (detail : String)
  | raised (e : Exc)

def answerOf (x : Except Exc Json) : Answer :=
  match x with
  | .ok content => .body content
  | .error e => .raised e

/-- `JSONResponse(content=body)`: NaN and infinity are not rendered. -/
def rendered : Answer → Answer
  | .body content => if content.allFinite then .body content else .raised .valueError
  | a => a

/-! ## Criteria statistics -/

def fundConditionColumns : List String :=
  ["eps_q2q_ge_25pct", "rev_q2q_ge_25pct", "eps_acc_2q", "rev_acc_2q", "eps_3y_ge_15pct", "rev_3y_ge_15pct",
   "eps_acc_fy", "rev_acc_fy"]

def techConditionColumns : List String :=
  ["avg_volume_50_gt_threshold", "close_ge_low52_x_1_3", "close_ge_high52_x_0_75", "sma50_gt_sma150",
   "sma50_gt_sma200", "sma150_gt_sma200", "sma200_rising_1m", "price_gt_sma50", "price_gt_sma150", "price_gt_sma200",
   "crs_ge_70"]

def fundKeyMap : Dict String String :=
  [("eps_q2q", "eps_q2q_ge_25pct"), ("rev_q2q", "rev_q2q_ge_25pct"), ("eps_acc", "eps_acc_2q"),
   ("rev_acc", "rev_acc_2q"), ("eps_3y", "eps_3y_ge_15pct"), ("rev_3y", "rev_3y_ge_15pct"),
   ("eps_acc_fy", "eps_acc_fy"), ("rev_acc_fy", "rev_acc_fy")]

def techKeyMap : Dict String String :=
  [("volume", "avg_volume_50_gt_threshold"), ("low52", "close_ge_low52_x_1_3"), ("high52", "close_ge_high52_x_0_75"),
   ("sma50_150", "sma50_gt_sma150"), ("sma50_200", "sma50_gt_sma200"), ("sma150_200", "sma150_gt_sma200"),
   ("sma200_rising", "sma200_rising_1m"), ("price_sma50", "price_gt_sma50"), ("price_sma150", "price_gt_sma150"),
   ("price_sma200", "price_gt_sma200"), ("crs", "crs_ge_70")]

/-- `int(stats.get(k) or 0)` -/
def countOf (stats : Dict String Json) (k : String) : Except Exc Int := (Json.getOr stats k (.int 0)).toInt

/-- `int(stats.get("evaluated") or stats.get("total") or 0)` -/
def totalOf (stats : Dict String Json) : Except Exc Int :=
  (Json.getOr stats "evaluated" (Json.getOr stats "total" (.int 0))).toInt

/-- The counts of a condition. -/
structure Condition where
  id : String
  pass : Int
  fail : Int
  noData : Int
  total : Int

def conds (stats : Dict String Json) (keyMap : Dict String String) (ids : List String) :
    Except Exc (List Condition) := do
  let total ← totalOf stats
  (keyMap.filter fun kv => kv.2 ∈ ids).mapM fun kv => do
    let p ← countOf stats (kv.1 ++ "_pass")
    let f ← countOf stats (kv.1 ++ "_fail")
    .ok ⟨kv.2, p, f, max 0 (total - p - f), total⟩

def fundCondition (c : Condition) : Json :=
  .obj [("id", .str c.id), ("label", .str c.id), ("pass", .int c.pass), ("fail", .int c.fail),
    ("no_data", .int c.noData), ("total", .int c.total)]

def techCondition (c : Condition) : Json :=
  .obj [("id", .str c.id), ("label", .str c.id), ("pass", .int c.pass), ("fail", .int c.fail)]

/-- The dictionary under `k`, or none of its keys. -/
def part (raw : Dict String Json) (k : String) : Dict String Json := ((Json.getD raw k .null).items?).getD []

/-- `pass_count_distribution` and `eval_date`, where Research sends them. -/
def withDistribution (d : Dict String Json) (distribution evalDate : Option Json) : Dict String Json :=
  let d := match distribution with
    | some (.arr xs) => Dict.set d "pass_count_distribution" (.arr xs)
    | _ => d
  match evalDate with
  | some date => if date.truthy then Dict.set d "eval_date" date else d
  | none => d

def fundamental (raw : Dict String Json) (evaluated : Int) : Except Exc (Dict String Json) := do
  let stats := part raw "fundamental"
  let allPass ← countOf stats "all_pass"
  let noData ← countOf stats "no_data"
  let pass6 ← countOf stats "pass_6_plus"
  let pass4 ← countOf stats "pass_4_plus"
  let conditions ← conds stats fundKeyMap fundConditionColumns
  .ok (withDistribution
    [("cached_count", .int evaluated), ("fund_pass_count", .int allPass), ("no_data_count", .int noData),
     ("pass_6_plus", .int pass6), ("pass_4_plus", .int pass4), ("conditions", .arr (conditions.map fundCondition)),
     ("pass_count_distribution", .arr [])]
    (raw.lookup "fundamental_distribution") (raw.lookup "fundamental_eval_date"))

def technical (raw : Dict String Json) (fundEval evaluated : Int) : Except Exc (Dict String Json) := do
  let stats := part raw "technical"
  let allPass ← countOf stats "all_pass"
  let pass8 ← countOf stats "pass_8_plus"
  let pass4 ← countOf stats "pass_4_plus"
  let conditions ← conds stats techKeyMap techConditionColumns
  .ok (withDistribution
    [("total_in_snapshot", .int evaluated), ("price_ready_count", .int evaluated), ("fund_cached_count", .int fundEval),
     ("both_ready", .int (min fundEval evaluated)), ("bars_ge_252", .int 0), ("bars_ge_240", .int 0),
     ("bars_ge_200", .int 0), ("bars_lt_200", .int 0), ("no_bars", .int 0), ("failure_reasons", .arr []),
     ("tech_cached_count", .int evaluated), ("tech_pass_count", .int allPass), ("tech_insufficient_count", .int 0),
     ("pass_8_plus", .int pass8), ("pass_4_plus", .int pass4), ("conditions", .arr (conditions.map techCondition)),
     ("pass_count_distribution", .arr [])]
    (raw.lookup "technical_distribution") (raw.lookup "technical_eval_date"))

/-- `computedAt` is the time of the answer; statistics that are already in the frontend's shape are passed on. -/
def criteriaStats (computedAt : String) (data : Dict String Json) : Except Exc Json :=
  let raw := data.filter fun kv => kv.1 ≠ "ok"
  let stats := part raw "fundamental"
  match stats.lookup "conditions" with
  | some (.arr _) => .ok (.obj (Dict.update [("ok", .bool true), ("computed_at", .str computedAt)] raw))
  | _ => do
    let fundEval ← totalOf stats
    let techEval ← totalOf (part raw "technical")
    let fund ← fundamental raw fundEval
    let tech ← technical raw fundEval techEval
    let universeCount ← (Json.getOr stats "total" (Json.getOr (part raw "technical") "total" (.int fundEval))).toInt
    .ok (.obj [("ok", .bool true), ("universe_count", .int universeCount), ("computed_at", .str computedAt),
      ("fundamental", .obj fund), ("technical", .obj tech)])

/-! ## Distributions and conditions -/

/-- The two marts. -/
inductive Domain
  | fundamental
  | technical
  deriving DecidableEq

def Domain.columns : Domain → List String
  | .fundamental => fundConditionColumns
  | .technical => techConditionColumns

def Domain.name : Domain → String
  | .fundamental => "fundamental"
  | .technical => "technical"

/-- `type(x).__name__` of what cannot be iterated. -/
def typeName : Json → String
  | .bool _ => "bool"
  | .int _ => "int"
  | .float _ => "float"
  | _ => "NoneType"

/-- `list(data.get("symbols") or [])` raises inside the handler. -/
def distribution (conditionsPassed : Int) (data : Dict String Json) : Answer :=
  let symbols := Json.getOr data "symbols" (.arr [])
  match symbols.iter? with
  | none => .unavailable ("'" ++ typeName symbols ++ "' object is not iterable")
  | some symbols => .body (.obj [("ok", .bool true), ("conditions_passed", .int conditionsPassed),
      ("count", .int symbols.length), ("symbols", .arr symbols), ("as_of", Json.getD data "as_of" .null)])

/-- An evaluated condition; the fundamental ones are in one group. -/
def evaluated (domain : Domain) (row : Dict String Json) (col : String) : Json :=
  .obj ([("id", .str col)] ++ (if domain = .fundamental then [("group", .str "sepa_core")] else []) ++
    [("pass", .bool (Json.getD row col .null).truthy), ("actual", .null), ("threshold", .null), ("reason", .null)])

def notFound (sym : String) : Json := .obj [("ok", .bool true), ("symbol", .str sym), ("found", .bool false)]

/-- `row` is what Research holds of the symbol, if it holds anything. -/
def conditions (container : Json → String) (domain : Domain) (sym : String) (data : Option (Dict String Json)) :
    Except Exc Json :=
  let row := ((data.bind fun d => (Json.getD d "row" .null).items?).getD [])
  if row = [] then .ok (notFound sym)
  else do
    let evalDate := Json.getD row "eval_date" .null
    let passCount ← countOf row "pass_count"
    .ok (.obj ([("ok", .bool true), ("symbol", .str sym), ("found", .bool true),
        ("as_of_date", if evalDate.truthy then .str (evalDate.text container) else .null),
        ("pass_count", .int passCount)] ++
      match domain with
      | .fundamental => [("fundamental_pass", .bool (decide (6 ≤ passCount))),
          ("insufficient_data", .bool (Json.getD row "insufficient_data" .null).truthy),
          ("conditions", .arr (domain.columns.map (evaluated domain row))), ("groups", .null)]
      | .technical => [("technical_pass", .bool (decide (passCount = 11))), ("insufficient_data", .bool false),
          ("conditions", .arr (domain.columns.map (evaluated domain row))), ("metrics", .obj []), ("tiers", .null)]))

/-! ## Tiers -/

def tierColumns : Dict String (List String) :=
  [("momentum",
    ["rsi_above_50", "rsi_healthy_range", "macd_bullish", "macd_strong", "roc_10_positive", "roc_21_positive",
     "rs_gt_spy", "volume_expanding", "volume_surge", "price_gt_sma10"]),
   ("structure",
    ["bb_squeeze", "bb_tight_squeeze", "adx_trending", "adx_strong_trend", "aroon_bullish", "aroon_up_strong",
     "vol_contracting", "vol_tight_contraction"]),
   ("sentiment",
    ["si_declining", "low_short_float", "high_days_to_cover", "short_float_declining", "low_short_volume",
     "sv_ratio_declining"])]

/-- What a tier filter asks for, within bounds. -/
structure TierArgs where
  condIds : List String
  unknown : List String
  minScore : Int
  mode : String
  limit : Int

def tierArgs (columns : List String) (picked : String) (minScore : Int) (mode : String) (limit : Int) : TierArgs :=
  let rawIds := ((split ',' picked).map strip).filter fun s => s ≠ ""
  { condIds := rawIds.filter fun c => c ∈ columns
    unknown := rawIds.filter fun c => c ∉ columns
    minScore := max 0 (min minScore columns.length)
    mode := if mode = "any" then "any" else "all"
    limit := max 1 (min limit 5000) }

def emptyFilter (tier : String) (limit : Int) : Json :=
  .obj [("ok", .bool true), ("tier", .str tier), ("include", .arr []), ("count", .int 0), ("symbols", .arr []),
    ("limit", .int limit)]

def unknownTier : String := "tier must be one of: ['momentum', 'structure', 'sentiment']"

/-! ## Routes -/

/-- A request to one of the routes; `momentum-filter` is `tier-filter` of its tier. -/
inductive Route
  | criteriaStats
  | distribution (domain : Domain) (conditionsPassed : Int)
  | conditions (domain : Domain) (symbol : String)
  | tierStats (tier : String)
  | tierFilter (tier picked : String) (minScore : Int) (mode : String) (limit : Int)
  | momentumGrades (grades : String) (limit : Int)

/-- What is read, and what is answered with it. -/
structure Asking where
  read : Read
  respond : Option (Dict String Json) → Answer

/-- The object Research answered, as it is. -/
def passOn (data : Option (Dict String Json)) : Answer := .body (.obj (data.getD []))

section

variable (container : Json → String) (computedAt : String)

def readCriteriaStats : Asking :=
  ⟨⟨"/analytics/sepa/criteria-stats", [], false⟩, fun data => answerOf (criteriaStats computedAt (data.getD []))⟩

def readDistribution (domain : Domain) (conditionsPassed : Int) : Except Answer Asking :=
  if conditionsPassed < 0 ∨ domain.columns.length < conditionsPassed then
    .error (.refused ("conditions_passed must be 0–" ++ toString domain.columns.length))
  else .ok ⟨⟨"/analytics/sepa/" ++ domain.name ++ "-distribution", [("conditions_passed", toString conditionsPassed)],
    false⟩, fun data => distribution conditionsPassed (data.getD [])⟩

def readConditions (domain : Domain) (symbol : String) : Except Answer Asking :=
  let sym := upper (strip symbol)
  if sym = "" then .error (.refused "symbol is required")
  else .ok ⟨⟨"/analytics/sepa/" ++ domain.name ++ "-eval/" ++ upper sym, [], true⟩,
    fun data => answerOf (conditions container domain sym data)⟩

def readTierStats (tier : String) : Except Answer Asking :=
  match tierColumns.lookup tier with
  | none => .error (.refused unknownTier)
  | some _ => .ok ⟨⟨"/analytics/sepa/tier-stats", [("tier", tier)], false⟩, passOn⟩

def readTierFilter (tier picked : String) (minScore : Int) (mode : String) (limit : Int) : Except Answer Asking :=
  match tierColumns.lookup tier with
  | none => .error (.refused unknownTier)
  | some columns =>
    let args := tierArgs columns picked minScore mode limit
    if args.unknown ≠ [] then .error (.refused ("unknown " ++ tier ++ " signal ids: " ++ join ", " args.unknown))
    else if args.condIds = [] ∧ args.minScore = 0 then .error (.body (emptyFilter tier args.limit))
    else .ok ⟨⟨"/analytics/sepa/tier-filter",
      [("tier", tier), ("include", join "," args.condIds), ("min_score", toString args.minScore), ("match", args.mode),
       ("limit", toString args.limit)], false⟩, passOn⟩

def readMomentumGrades (grades : String) (limit : Int) : Asking :=
  ⟨⟨"/research/momentum/grades", [("grades", grades), ("limit", toString limit)], false⟩, passOn⟩

/-- What a route asks Research, or its answer without asking. -/
def asking : Route → Except Answer Asking
  | .criteriaStats => .ok (readCriteriaStats computedAt)
  | .distribution domain conditionsPassed => readDistribution domain conditionsPassed
  | .conditions domain symbol => readConditions container domain symbol
  | .tierStats tier => readTierStats tier
  | .tierFilter tier picked minScore mode limit => readTierFilter tier picked minScore mode limit
  | .momentumGrades grades limit => .ok (readMomentumGrades grades limit)

def answer (research : Server) (route : Route) : Answer :=
  match asking container computedAt route with
  | .error a => a
  | .ok q => match researchGet research container q.read with
    | .error detail => .unavailable detail
    | .ok data => rendered (q.respond data)

end

/-! ## What is asked -/

/-- The names picked, between commas, without the blank ones. -/
def pickedIds (picked : String) : List String := ((split ',' picked).map strip).filter fun s => s ≠ ""

/-- The read a request asks for: of Research's marts, tiers and signals, with counts and limits within its bounds. The
grades' limit is passed on as it is, for Research to clamp, and a symbol stands in the path as it is. -/
inductive ReadOf : Route → Read → Prop
  | criteriaStats : ReadOf .criteriaStats ⟨"/analytics/sepa/criteria-stats", [], false⟩
  | distribution (domain : Domain) (n : Int) (hn : 0 ≤ n) (hmax : n ≤ domain.columns.length) :
    ReadOf (.distribution domain n)
      ⟨"/analytics/sepa/" ++ domain.name ++ "-distribution", [("conditions_passed", toString n)], false⟩
  | row (domain : Domain) (symbol : String) (hsym : strip symbol ≠ "") :
    ReadOf (.conditions domain symbol)
      ⟨"/analytics/sepa/" ++ domain.name ++ "-eval/" ++ upper (upper (strip symbol)), [], true⟩
  | tierStats (tier : String) (htier : tier ∈ Dict.keys tierColumns) :
    ReadOf (.tierStats tier) ⟨"/analytics/sepa/tier-stats", [("tier", tier)], false⟩
  | tierFilter (tier picked : String) (columns : List String) (minScore limit n k : Int) (mode mode' : String)
    (htier : tierColumns.lookup tier = some columns) (hids : pickedIds picked ⊆ columns)
    (hn : n = max 0 (min minScore columns.length)) (hsome : pickedIds picked ≠ [] ∨ 0 < n)
    (hmode : mode' = if mode = "any" then "any" else "all") (hk : k = max 1 (min limit 5000)) :
    ReadOf (.tierFilter tier picked minScore mode limit) ⟨"/analytics/sepa/tier-filter",
      [("tier", tier), ("include", join "," (pickedIds picked)), ("min_score", toString n), ("match", mode'),
       ("limit", toString k)], false⟩
  | momentumGrades (grades : String) (limit : Int) :
    ReadOf (.momentumGrades grades limit)
      ⟨"/research/momentum/grades", [("grades", grades), ("limit", toString limit)], false⟩

/-- Research did not answer the read: no object, and no 404 that says there is no row. -/
def Failed (r : Read) : Reply → Prop
  | .failed _ => True
  | .status code _ => ¬ (r.missingIsNone = true ∧ code = 404)
  | .ok data => data.items? = none

variable {container : Json → String} {computedAt : String}

/-- No name is unknown exactly when all that are picked are signals of the tier. -/
theorem tierArgs_unknown (columns : List String) (picked mode : String) (minScore limit : Int) :
    (tierArgs columns picked minScore mode limit).unknown = [] ↔ pickedIds picked ⊆ columns := by
  change (pickedIds picked).filter (fun c => c ∉ columns) = [] ↔ _
  rw [List.filter_eq_nil_iff]
  simp only [decide_not, Bool.not_eq_true', decide_eq_false_iff_not, not_not]
  rfl

theorem tierArgs_condIds {columns : List String} {picked : String} (h : pickedIds picked ⊆ columns)
    (mode : String) (minScore limit : Int) :
    (tierArgs columns picked minScore mode limit).condIds = pickedIds picked := by
  change (pickedIds picked).filter (fun c => c ∈ columns) = _
  rw [List.filter_eq_self]
  exact fun c hc => decide_eq_true (h hc)

/-- What a route asks is what its request asks for. -/
theorem readOf_asking {route : Route} {q : Asking} (h : asking container computedAt route = .ok q) :
    ReadOf route q.read := by
  cases route with
  | criteriaStats =>
    rw [← Except.ok.inj h]
    exact .criteriaStats
  | distribution domain n =>
    simp only [asking, readDistribution] at h
    split at h
    · cases h
    · rename_i hn
      rw [← Except.ok.inj h]
      exact .distribution domain n (by omega) (by omega)
  | conditions domain symbol =>
    simp only [asking, readConditions] at h
    split at h
    · cases h
    · rename_i hsym
      rw [← Except.ok.inj h]
      exact .row domain symbol fun hblank => hsym (by rw [hblank]; rfl)
  | tierStats tier =>
    simp only [asking, readTierStats] at h
    split at h
    · cases h
    · rename_i columns htier
      rw [← Except.ok.inj h]
      exact .tierStats tier (Dict.exists_lookup.1 ⟨columns, htier⟩)
  | tierFilter tier picked minScore mode limit =>
    simp only [asking, readTierFilter] at h
    split at h
    · cases h
    · rename_i columns htier
      split at h
      · cases h
      · rename_i hunknown
        have hids := (tierArgs_unknown columns picked mode minScore limit).1 (not_not.1 hunknown)
        rw [tierArgs_condIds hids] at h
        split at h
        · cases h
        · rename_i hsome
          rw [← Except.ok.inj h]
          refine .tierFilter tier picked columns minScore limit _ _ mode _ htier hids rfl ?_ rfl rfl
          have hne : ¬ (pickedIds picked = [] ∧ max 0 (min minScore (columns.length : Int)) = 0) := hsome
          by_cases hnone : pickedIds picked = []
          · have hscore : max 0 (min minScore (columns.length : Int)) ≠ 0 := fun h => hne ⟨hnone, h⟩
            have hpos : 0 < max 0 (min minScore (columns.length : Int)) := by omega
            exact Or.inr hpos
          · exact Or.inl hnone
  | momentumGrades grades limit =>
    rw [← Except.ok.inj h]
    exact .momentumGrades grades limit

/-- And a request that asks for a read makes it. -/
theorem asking_of_readOf {route : Route} {r : Read} (h : ReadOf route r) :
    ∃ q, asking container computedAt route = .ok q := by
  cases h with
  | criteriaStats => exact ⟨_, rfl⟩
  | distribution domain n hn hmax =>
    rw [asking, readDistribution, if_neg (by omega)]
    exact ⟨_, rfl⟩
  | row domain symbol hsym =>
    rw [asking, readConditions, if_neg (upper_ne_empty hsym)]
    exact ⟨_, rfl⟩
  | tierStats tier htier =>
    obtain ⟨columns, hlookup⟩ := Dict.exists_lookup.2 htier
    rw [asking, readTierStats, hlookup]
    exact ⟨_, rfl⟩
  | tierFilter tier picked columns minScore limit n k mode mode' htier hids hn hsome hmode hk =>
    have hread : ¬ ((tierArgs columns picked minScore mode limit).condIds = [] ∧
        (tierArgs columns picked minScore mode limit).minScore = 0) := by
      rw [tierArgs_condIds hids]
      change ¬ (_ ∧ max 0 (min minScore (columns.length : Int)) = 0)
      rw [← hn]
      rintro ⟨hnone, hzero⟩
      exact hsome.elim (fun hne => hne hnone) (by omega)
    rw [asking, readTierFilter, htier]
    dsimp only
    rw [if_neg (not_not_intro ((tierArgs_unknown columns picked mode minScore limit).2 hids)), if_neg hread]
    exact ⟨_, rfl⟩
  | momentumGrades grades limit => exact ⟨_, rfl⟩

/-- A route that asks nothing refuses, or has nothing to filter by. -/
theorem asking_alone {route : Route} {a : Answer} (h : asking container computedAt route = .error a) :
    (∃ detail, a = .refused detail) ∨ ∃ tier limit, a = .body (emptyFilter tier limit) := by
  cases route with
  | criteriaStats => cases h
  | distribution domain n =>
    simp only [asking, readDistribution] at h
    split at h
    · exact Or.inl ⟨_, (Except.error.inj h).symm⟩
    · cases h
  | conditions domain symbol =>
    simp only [asking, readConditions] at h
    split at h
    · exact Or.inl ⟨_, (Except.error.inj h).symm⟩
    · cases h
  | tierStats tier =>
    simp only [asking, readTierStats] at h
    split at h
    · exact Or.inl ⟨_, (Except.error.inj h).symm⟩
    · cases h
  | tierFilter tier picked minScore mode limit =>
    simp only [asking, readTierFilter] at h
    split at h
    · exact Or.inl ⟨_, (Except.error.inj h).symm⟩
    · split at h
      · exact Or.inl ⟨_, (Except.error.inj h).symm⟩
      · split at h
        · exact Or.inr ⟨tier, _, (Except.error.inj h).symm⟩
        · cases h
  | momentumGrades grades limit => cases h

/-! ## What is answered -/

section

variable {research : Server} {r : Read}

theorem researchGet_failed (h : Failed r (research r.request)) :
    ∃ text, researchGet research container r = .error ("Research API " ++ r.path ++ ": " ++ text) := by
  unfold researchGet proxyGet
  cases hreply : research r.request with
  | failed text => exact ⟨text, rfl⟩
  | status code body =>
    rw [hreply] at h
    exact ⟨_, if_neg h⟩
  | ok data =>
    rw [hreply] at h
    have hitems : data.items? = none := h
    simp only [hitems]
    exact ⟨_, rfl⟩

theorem researchGet_missing {body : Option Json} (hmissing : r.missingIsNone = true)
    (h : research r.request = .status 404 body) : researchGet research container r = .ok none := by
  unfold researchGet proxyGet
  rw [h]
  exact if_pos ⟨hmissing, rfl⟩

theorem researchGet_congr {research' : Server} (h : research r.request = research' r.request) :
    researchGet research container r = researchGet research' container r := by
  unfold researchGet proxyGet
  rw [h]

end

/-- Only a symbol's row may be missing. -/
theorem ReadOf.missing {route : Route} {r : Read} (h : ReadOf route r) (hmissing : r.missingIsNone = true) :
    ∃ domain symbol, route = .conditions domain symbol := by
  cases h with
  | row domain symbol hsym => exact ⟨domain, symbol, rfl⟩
  | criteriaStats => cases hmissing
  | distribution => cases hmissing
  | tierStats => cases hmissing
  | tierFilter => cases hmissing
  | momentumGrades => cases hmissing

/-- Where a 404 means that there is no row, the symbol is answered as not found. -/
theorem respond_none {route : Route} {q : Asking} (h : asking container computedAt route = .ok q)
    (hmissing : q.read.missingIsNone = true) : ∃ sym, q.respond none = .body (notFound sym) := by
  obtain ⟨domain, symbol, rfl⟩ := (readOf_asking h).missing hmissing
  simp only [asking, readConditions] at h
  split at h
  · cases h
  · rw [← Except.ok.inj h]
    exact ⟨_, rfl⟩

/-- A route that makes the read its request asks for answers from it and nothing else. -/
structure AnswersFrom (container : Json → String) (computedAt : String) (route : Route) (r : Read) : Prop where
  asked : ReadOf route r
  alone : ∀ research research', research r.request = research' r.request →
    answer container computedAt research route = answer container computedAt research' route
  outage : ∀ research, Failed r (research r.request) → ∃ text,
    answer container computedAt research route = .unavailable ("Research API " ++ r.path ++ ": " ++ text)
  missing : ∀ research body, r.missingIsNone = true → research r.request = .status 404 body → ∃ sym,
    answer container computedAt research route = .body (notFound sym)

/-- A route whose request asks for no read refuses it, or was given nothing to filter by. -/
def AnswersAlone (container : Json → String) (computedAt : String) (route : Route) : Prop :=
  (∀ r, ¬ ReadOf route r) ∧ ∃ a, (∀ research, answer container computedAt research route = a) ∧
    ((∃ detail, a = .refused detail) ∨ ∃ tier limit, a = .body (emptyFilter tier limit))

/-- **Main.** Whatever is asked of a readiness route, it makes the one read the request asks for, or none where it asks
for none. A read that fails is a 503 that names it, never data; a missing row is `found: false`; nothing else is
consulted. -/
theorem readiness_reads (container : Json → String) (computedAt : String) (route : Route) :
    AnswersAlone container computedAt route ∨ ∃ r, AnswersFrom container computedAt route r := by
  cases hasking : asking container computedAt route with
  | error a =>
    refine Or.inl ⟨fun r hr => ?_, a, fun research => ?_, asking_alone hasking⟩
    · obtain ⟨q, hq⟩ := @asking_of_readOf container computedAt route r hr
      cases hq.symm.trans hasking
    · rw [answer, hasking]
  | ok q =>
    refine Or.inr ⟨q.read, readOf_asking hasking, ?_, ?_, ?_⟩
    · intro research research' h
      rw [answer, answer, hasking]
      simp only [researchGet_congr h]
    · intro research h
      obtain ⟨text, hget⟩ := @researchGet_failed container research q.read h
      refine ⟨text, ?_⟩
      rw [answer, hasking]
      simp only [hget]
    · intro research body hmissing h
      obtain ⟨sym, hrespond⟩ := respond_none hasking hmissing
      refine ⟨sym, ?_⟩
      rw [answer, hasking]
      simp only [@researchGet_missing container research q.read body hmissing h, hrespond]
      rfl

end BifrostApi.Research.Readiness
