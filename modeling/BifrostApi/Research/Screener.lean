import BifrostApi.Lib.Stage
import BifrostApi.Research.ContractKey

/-!
# The option screener (`research/routers/screener.py`)

Cash secured puts of one symbol after the other. What the calls of a symbol's scan answer is `Reads`: the
fallback price, the expirations, the chain rows and the outcome of `_read_iv_percentile`; the model
probability `bs.prob_itm` is the parameter `probItm`. A scan that raises is an `error`, and so is the whole
request then. `src` (which no read looks at), `scan_ts` and `ok` are left out.

A `Candidate` is an entry of `contracts` together with the values its entries were rounded from.

| here | there |
| --- | --- |
| `keyedPut` | the key checks (:279-285) |
| `contractSpotOf` | the underlying price (:288-296) |
| `quoteOf`, `spreadPctOf` | bid, ask, mid and spread (:301-325) |
| `probItmOf` | model, delta or 0.5 (:338-347) |
| `measure` | the spread filter to the annualized filter (:327-363) |
| `contractOf` | the entry (:365-398) |
| `windowOf` | everything before the rows are fetched (:216-262) |
| `scanCsp`, `postScreener` | `_scan_csp` (:196), `post_screener` (:435) |
-/

namespace BifrostApi.Research

open Py

structure ScreenerRequest where
  structureType : String := "cash_secured_put"
  symbols : List String
  dteMin : Option Int := none
  dteMax : Option Int := none
  maxProbItm : Option Number := none
  minAnnualizedReturn : Option Number := none
  maxSpreadPct : Option Number := none
  minPremium : Option Number := none

abbrev Row := Dict String Json

/-- An exception by its type's name and its text. -/
structure Raised where
  typeName : String
  text : String

/-- `_fetch_error` (:131). -/
def fetchError (e : Raised) : String :=
  if strip e.text = "" then e.typeName else e.typeName ++ ": " ++ strip e.text

/-- The reading `_read_iv_percentile` answers (:144). -/
structure IvReading where
  iv30 : Option Number
  ivPercentile : Option Number
  asOf : Option String
  sessions : Option Json

/-- What the reads of one symbol's scan answer. -/
structure Reads where
  fallback : Option Json
  expirations : Except Raised (List String)
  rows : Except Raised (List Row)
  ivPercentile : Except Exc (IvReading × Option String)

/-- `bs.prob_itm(spot, strike, t, rate, iv, right)`. -/
abbrev ProbItm := Number → Number → Number → Number → Number → String → Except Exc Number

/-! ## Reading numbers -/

def notNone : Option Json → Option Json
  | some .null => none
  | v => v

/-- `row.get(k)`. -/
def field (row : Row) (k : String) : Option Json := notNone (row.lookup k)

/-- `float(v) if v is not None else None`. -/
def readFloat : Option Json → Except Exc (Option Number)
  | none => .ok none
  | some j => j.toFloat.map some

/-- The same under `except (TypeError, ValueError)`, which lets an `OverflowError` through. -/
def readGuarded : Option Json → Except Exc (Option Number)
  | none => .ok none
  | some j => match j.toFloat with
    | .ok x => .ok (some x)
    | .error .overflowError => .error .overflowError
    | .error _ => .ok none

/-- `int(v) if v is not None else None`. -/
def readInt : Option Json → Except Exc (Option Int)
  | none => .ok none
  | some j => j.toInt.map some

/-- `limit is not None and x > limit`. -/
def above (limit : Option Number) (x : Number) : Bool := limit.any fun m => m.lt x

/-- `limit is not None and x < limit`. -/
def below (limit : Option Number) (x : Number) : Bool := limit.any fun m => x.lt m

/-! ## Scores -/

def riskFreeRate : Number := .fin (9 / 200)

/-- `max(0.0, min(1.0, v))`; NaN clips to 1. -/
def clip : Number → ℚ
  | .nan => 1
  | .inf neg => if neg then 0 else 1
  | .fin q => if q < 0 then 0 else if 1 < q then 1 else q

def compositeScore (annualized : Option Number) (probItm safetyMargin : Number)
    (ivPercentile spreadPct : Option Number) : ℚ :=
  let a := (annualized.map fun x => clip (x.div (.fin (3 / 2)))).getD 0
  let p := clip (.sub (.fin 1) (probItm.div (.fin (3 / 10))))
  let s := clip (safetyMargin.div (.fin (1 / 5)))
  let v := (ivPercentile.map fun x => clip (x.div (.fin 100))).getD (1 / 2)
  let liq := (spreadPct.map fun x => clip (.sub (.fin 1) (x.div (.fin (3 / 10))))).getD (1 / 2)
  (3 / 10 * a + 1 / 4 * p + 1 / 5 * s + 3 / 20 * v + 1 / 10 * liq) * 100

/-- `_rating`. -/
def rating (score : ℚ) : String :=
  if 75 ≤ score then "A" else if 55 ≤ score then "B" else if 35 ≤ score then "C" else "D"

/-- `_risk`. -/
def risk (probItm : Number) : String :=
  if probItm.lt (.fin (3 / 20)) then "low" else if probItm.lt (.fin (3 / 10)) then "medium" else "high"

/-! ## One row -/

/-- What the contract keys of the DTE window stand for. -/
structure Window where
  spot : Number
  keyMeta : Dict String (String × Int)

/-- A put of the window. -/
structure Key where
  strike : Number
  exp : String
  dte : Int

/-- `row.get("contract_key") or ""`; what is not text has no `split`. -/
def keyText (row : Row) : Except Exc String :=
  match row.lookup "contract_key" with
  | none => .ok ""
  | some (.str s) => .ok s
  | some j => if j.truthy then .error .attributeError else .ok ""

def keyedPut (w : Window) (row : Row) : Except Exc (Option Key) :=
  match keyText row with
  | .error e => .error e
  | .ok ck => match parseContractKey ck with
    | some (strike, right) =>
      .ok (if right = "P" then (w.keyMeta.lookup ck).map fun m => ⟨strike, m.1, m.2⟩ else none)
    | none => .ok none

/-- The row's own underlying price, else the symbol's. -/
def contractSpotOf (w : Window) (row : Row) : Except Exc (Option Number) :=
  match readGuarded (field row "underlying_price") with
  | .error e => .error e
  | .ok up => .ok (if (up.getD w.spot).le (.fin 0) then none else some (up.getD w.spot))

/-- The premium and the quotes it may come from; `basis` is `premium_basis`. -/
structure Quote where
  bid : Option Number
  ask : Option Number
  mid : Number
  basis : String

/-- `mid`, else the midpoint of bid and ask, else the session close. -/
def midOf (row : Row) (bid ask : Option Number) : Except Exc (Option (Number × String)) :=
  match readGuarded (field row "mid") with
  | .error e => .error e
  | .ok (some m) => .ok (some (m, "mid"))
  | .ok none => match bid, ask with
    | some b, some a => .ok (some ((b.add a).div (.fin 2), "mid"))
    | _, _ => match readGuarded (field row "day_close") with
      | .error e => .error e
      | .ok close => .ok (close.map fun m => (m, "close"))

/-- A row without a positive premium is skipped; `bid` and `ask` are read without a guard. -/
def quoteOf (row : Row) : Except Exc (Option Quote) :=
  match readFloat (field row "bid") with
  | .error e => .error e
  | .ok bid => match readFloat (field row "ask") with
    | .error e => .error e
    | .ok ask => match midOf row bid ask with
      | .error e => .error e
      | .ok none => .ok none
      | .ok (some (mid, basis)) => .ok (if mid.le (.fin 0) then none else some ⟨bid, ask, mid, basis⟩)

def spreadPctOf (q : Quote) : Option Number :=
  match q.bid, q.ask with
  | some b, some a => some ((a.sub b).div q.mid)
  | _, _ => none

/-- `_prob_itm_put` (:56). -/
def probItmPut (probItm : ProbItm) (spot strike : Number) (dte : Int) (iv : Number) : Except Exc Number :=
  probItm spot strike (.fin (dte / 365)) riskFreeRate iv "P"

/-- `min(1.0, abs(delta))`; NaN gives 1. -/
def absDelta (d : Number) : Number := if d.abs.lt (.fin 1) then d.abs else .fin 1

def probItmOf (probItm : ProbItm) (spot : Number) (key : Key) (iv : Option Number) (delta : Option Json) :
    Except Exc Number :=
  match iv.filter fun v => (Number.fin 0).lt v with
  | some v => probItmPut probItm spot key.strike key.dte v
  | none => match readGuarded delta with
    | .error e => .error e
    | .ok (some d) => .ok (absDelta d)
    | .ok none => .ok (.fin (1 / 2))

/-- A row that passed the filters, its values not rounded. -/
structure Priced where
  key : Key
  spot : Number
  quote : Quote
  iv : Option Number
  probItm : Number

namespace Priced

def spreadPct (p : Priced) : Option Number := spreadPctOf p.quote

/-- `max(0.0, …)`; NaN gives 0. -/
def safetyMargin (p : Priced) : Number :=
  let x := (p.spot.sub p.key.strike).div p.spot
  if (Number.fin 0).lt x then x else .fin 0

def premium (p : Priced) : Number := p.quote.mid.mul (.fin 100)

def margin (p : Priced) : Number := p.key.strike.mul (.fin 100)

def annualized (p : Priced) : Option Number :=
  if (Number.fin 0).lt p.margin ∧ 0 < p.key.dte then
    some ((p.premium.div p.margin).mul ((Number.fin 365).div (.fin p.key.dte)))
  else none

end Priced

/-- The filters past the probability. -/
def cutLate (body : ScreenerRequest) (p : Priced) : Bool :=
  below body.minPremium p.premium || p.annualized.any (below body.minAnnualizedReturn)

/-- From the spread filter to the annualized filter. -/
def measure (probItm : ProbItm) (body : ScreenerRequest) (row : Row) (key : Key) (spot : Number) (q : Quote) :
    Except Exc (Option Priced) :=
  if (spreadPctOf q).any (above body.maxSpreadPct) then .ok none
  else match readGuarded (field row "iv") with
    | .error e => .error e
    | .ok iv => match probItmOf probItm spot key iv (field row "delta") with
      | .error e => .error e
      | .ok prob =>
        let p : Priced := ⟨key, spot, q, iv, prob⟩
        .ok (if above body.maxProbItm prob || cutLate body p then none else some p)

/-- An entry of `contracts`, as it is shown. -/
structure Contract where
  symbol : String
  spot : Number
  expiration : String
  strike : Number
  right : String
  dte : Int
  score : ℚ
  rating : String
  risk : String
  iv : Option Number
  premium : Number
  probItm : Number
  safetyMargin : Number
  annualized : Option Number
  aprPct : Option Number
  margin : Number
  bid : Option Number
  ask : Option Number
  mid : Number
  premiumBasis : String
  spreadPct : Option Number
  openInterest : Option Int
  delta : Option Number
  ivPercentile : Option Number
  longStrike : Option Number
  snapshotTs : Option Json

structure Candidate where
  priced : Priced
  contract : Contract

def Candidate.score (c : Candidate) : ℚ := c.contract.score

/-- `open_interest` and `delta` are read without a guard. -/
def contractOf (sym : String) (ivPct : Option Number) (row : Row) (p : Priced) : Except Exc (Option Candidate) :=
  match readInt (field row "open_interest") with
  | .error e => .error e
  | .ok openInterest => match readFloat (field row "delta") with
    | .error e => .error e
    | .ok delta =>
      let sc := compositeScore p.annualized p.probItm p.safetyMargin ivPct p.spreadPct
      .ok (some ⟨p, {
        symbol := sym
        spot := p.spot.round 2
        expiration := p.key.exp
        strike := p.key.strike
        right := "P"
        dte := p.key.dte
        score := Number.roundRat 1 sc
        rating := rating sc
        risk := risk p.probItm
        iv := p.iv.map (Number.round 6)
        premium := p.premium.round 2
        probItm := p.probItm.round 4
        safetyMargin := p.safetyMargin.round 4
        annualized := p.annualized.map (Number.round 4)
        aprPct := p.annualized.map fun a => (a.mul (.fin 100)).round 1
        margin := p.margin.round 2
        bid := p.quote.bid.map (Number.round 4)
        ask := p.quote.ask.map (Number.round 4)
        mid := p.quote.mid.round 4
        premiumBasis := p.quote.basis
        spreadPct := p.spreadPct.map (Number.round 4)
        openInterest := openInterest
        delta := delta.map (Number.round 4)
        ivPercentile := ivPct
        longStrike := none
        snapshotTs := field row "snapshot_ts" }⟩)

/-- One pass of the loop up to the filters, then the whole of it. -/
def priceRow (probItm : ProbItm) (body : ScreenerRequest) (w : Window) (row : Row) : Except Exc (Option Priced) :=
  Stage.next (keyedPut w row) fun key =>
    Stage.next (contractSpotOf w row) fun spot =>
      Stage.next (quoteOf row) fun q => measure probItm body row key spot q

def scanRow (probItm : ProbItm) (body : ScreenerRequest) (w : Window) (sym : String) (ivPct : Option Number)
    (row : Row) : Except Exc (Option Candidate) :=
  Stage.next (priceRow probItm body w row) (contractOf sym ivPct row)

section

variable {probItm : ProbItm} {body : ScreenerRequest} {w : Window} {row : Row}

/-- What is known of a row past the filters. -/
structure Measured (probItm : ProbItm) (body : ScreenerRequest) (w : Window) (row : Row) (p : Priced) : Prop where
  key : keyedPut w row = .ok (some p.key)
  spot : contractSpotOf w row = .ok (some p.spot)
  quote : quoteOf row = .ok (some p.quote)
  iv : readGuarded (field row "iv") = .ok p.iv
  probItm : probItmOf probItm p.spot p.key p.iv (field row "delta") = .ok p.probItm
  spreadPct : p.spreadPct.any (above body.maxSpreadPct) = false
  maxProbItm : above body.maxProbItm p.probItm = false
  minPremium : below body.minPremium p.premium = false
  minAnnualizedReturn : p.annualized.any (below body.minAnnualizedReturn) = false

theorem priceRow_measured {p : Priced} (h : priceRow probItm body w row = .ok (some p)) :
    Measured probItm body w row p := by
  obtain ⟨key, hkey, h⟩ := Stage.next_eq_some.1 h
  obtain ⟨spot, hspot, h⟩ := Stage.next_eq_some.1 h
  obtain ⟨q, hquote, h⟩ := Stage.next_eq_some.1 h
  unfold measure at h
  split at h
  · cases h
  · rename_i hspread
    split at h
    · cases h
    · rename_i iv hiv
      split at h
      · cases h
      · rename_i prob hprob
        simp only [Except.ok.injEq, Option.ite_none_left_eq_some, Option.some.injEq] at h
        obtain ⟨hcut, rfl⟩ := h
        simp only [Bool.or_eq_true, cutLate, not_or, Bool.not_eq_true] at hcut
        obtain ⟨hmax, hmin, hreturn⟩ := hcut
        exact ⟨hkey, hspot, hquote, hiv, hprob, by simpa [Priced.spreadPct] using hspread, hmax, hmin, hreturn⟩

theorem Measured.priceRow {p : Priced} (h : Measured probItm body w row p) :
    priceRow probItm body w row = .ok (some p) := by
  refine Stage.next_eq_some.2 ⟨p.key, h.key, Stage.next_eq_some.2 ⟨p.spot, h.spot, Stage.next_eq_some.2
    ⟨p.quote, h.quote, ?_⟩⟩⟩
  have hspread : ¬ (spreadPctOf p.quote).any (above body.maxSpreadPct) = true := by
    rw [← Priced.spreadPct, h.spreadPct]
    exact Bool.false_ne_true
  simp only [measure, if_neg hspread, h.iv, h.probItm, h.maxProbItm, cutLate, h.minPremium,
    h.minAnnualizedReturn, Bool.or_false, Bool.false_eq_true, if_false]

/-- A row passes the filters with exactly the values that were measured of it. -/
theorem priceRow_eq_some {p : Priced} : priceRow probItm body w row = .ok (some p) ↔ Measured probItm body w row p :=
  ⟨priceRow_measured, Measured.priceRow⟩

/-- What a contract has from its row. -/
theorem contractOf_eq_some {sym : String} {ivPct : Option Number} {p : Priced} {c : Candidate}
    (h : contractOf sym ivPct row p = .ok (some c)) :
    c.priced = p ∧ c.contract.spreadPct = p.spreadPct.map (Number.round 4) ∧
    (c.contract.delta = none ↔ field row "delta" = none) := by
  unfold contractOf at h
  split at h
  · cases h
  · split at h
    · cases h
    · rename_i delta hdelta
      simp only [Except.ok.injEq, Option.some.injEq] at h
      subst h
      refine ⟨rfl, rfl, ?_⟩
      rw [Option.map_eq_none_iff]
      cases hfield : field row "delta" with
      | none =>
        rw [hfield] at hdelta
        cases hdelta
        simp
      | some j =>
        rw [hfield, readFloat] at hdelta
        cases hj : j.toFloat with
        | error e => rw [hj] at hdelta; cases hdelta
        | ok x => rw [hj] at hdelta; cases hdelta; simp

theorem answers_contractOf {sym : String} {ivPct : Option Number} {p : Priced} :
    Stage.Answers (contractOf sym ivPct row p) ↔
      Stage.Answers (readInt (field row "open_interest")) ∧ Stage.Answers (readFloat (field row "delta")) := by
  unfold contractOf
  cases readInt (field row "open_interest") with
  | error e => simp
  | ok openInterest => cases readFloat (field row "delta") <;> simp

/-- A row that prices and does not raise is a contract. -/
theorem contractOf_some {sym : String} {ivPct : Option Number} {p : Priced}
    (h : Stage.Answers (contractOf sym ivPct row p)) : ∃ c, contractOf sym ivPct row p = .ok (some c) := by
  obtain ⟨⟨_, hoi⟩, ⟨_, hdelta⟩⟩ := answers_contractOf.1 h
  exact ⟨_, by rw [contractOf, hoi, hdelta]⟩

end

/-! ## One symbol -/

/-- `_get_spot` (:117). -/
def getSpot (fallback : Option Json) : Except Exc (Option Number) :=
  match readGuarded (notNone fallback) with
  | .error e => .error e
  | .ok v => .ok (v.filter fun x => (Number.fin 0).lt x)

/-- A guarded read is a successful one, or reads nothing. -/
theorem toFloat_of_readGuarded {v : Option Json} {x : Number} :
    readGuarded v = .ok (some x) ↔ ∃ j, v = some j ∧ j.toFloat = .ok x := by
  cases v with
  | none => simp [readGuarded]
  | some j =>
    cases hj : j.toFloat with
    | ok y => simp [readGuarded, hj]
    | error e => cases e <;> simp [readGuarded, hj]

theorem getSpot_eq_some {fallback : Option Json} {x : Number} : getSpot fallback = .ok (some x) ↔
    ∃ j, fallback = some j ∧ j.toFloat = .ok x ∧ (Number.fin 0).lt x = true := by
  have hread : (∃ j, fallback = some j ∧ j.toFloat = .ok x) ↔ readGuarded (notNone fallback) = .ok (some x) := by
    rw [toFloat_of_readGuarded]
    unfold notNone
    split
    · simp [Json.toFloat]
    · rfl
  have hfilter : getSpot fallback = .ok (some x) ↔
      readGuarded (notNone fallback) = .ok (some x) ∧ (Number.fin 0).lt x = true := by
    unfold getSpot
    cases readGuarded (notNone fallback) with
    | error e => simp
    | ok v => simp [Option.filter_eq_some_iff]
  rw [hfilter, ← hread]
  exact ⟨fun ⟨⟨j, hj, hx⟩, hpos⟩ => ⟨j, hj, hx, hpos⟩, fun ⟨j, hj, hx, hpos⟩ => ⟨⟨j, hj, hx⟩, hpos⟩⟩

def inWindow (body : ScreenerRequest) (dte : Int) : Bool := body.dteMin.all (· ≤ dte) && body.dteMax.all (dte ≤ ·)

/-- The expirations in the DTE window, each with its days to expiry. Digits of which `isdigit` holds and
which are not decimal are refused by `strptime`. -/
def validExps (body : ScreenerRequest) (today : Int) (raw : List String) : List (String × Int) :=
  let allExps := (raw.map normExpiry).filter fun e => e.length = 8 ∧ e.toList.all fun c => (decimalDigit? c).isSome
  allExps.filterMap fun exp => match strptimeYmd exp with
    | some day => if inWindow body (day - today) then some (exp, day - today) else none
    | none => none

/-- `key_meta`. -/
def keyMetaOf (sym : String) (valid : List (String × Int)) (strikes : List ℚ) : Dict String (String × Int) :=
  Dict.update [] (valid.flatMap fun ed => strikes.map fun st => (contractKeyFromParts sym ed.1 (.fin st) "P", ed))

def dteText (limit : Option Int) : String := (limit.map toString).getD "None"

def dteDesc (body : ScreenerRequest) : String :=
  if body.dteMin.isSome || body.dteMax.isSome then "DTE " ++ dteText body.dteMin ++ "–" ++ dteText body.dteMax
  else "any DTE"

/-- A warning when the scan stops before it fetches rows. -/
def windowOf (body : ScreenerRequest) (sym : String) (today : Int) (reads : Reads) :
    Except Exc (Except String Window) :=
  match getSpot reads.fallback with
  | .error e => .error e
  | .ok spot => match reads.expirations with
    | .error e =>
      .ok (.error ("Expirations fetch failed (Market Data Plugin /options/expirations/yyyymmdd): " ++ fetchError e))
    | .ok raw =>
      if raw = [] then .ok (.error "No option contracts on file — run Market Data Plugin sync first")
      else if validExps body today raw = [] then .ok (.error ("No expirations found (" ++ dteDesc body ++ ")"))
      else match spot with
        | none => .ok (.error "No underlying price available; run stock_day sync first")
        | some spot => match strikesAroundSpot spot 10 with
          | .error e => .error e
          | .ok strikes =>
            if strikes = [] then .ok (.error "Cannot compute strike ladder (spot unavailable)")
            else .ok (.ok ⟨spot, keyMetaOf sym (validExps body today raw) strikes⟩)

/-- An expiration with its days to expiry, within the window asked for. -/
structure InDteWindow (body : ScreenerRequest) (today : Int) (exp : String) (dte : Int) : Prop where
  digits : exp.length = 8 ∧ ∀ c ∈ exp.toList, (decimalDigit? c).isSome
  day : strptimeYmd exp = some (today + dte)
  dteMin : ∀ m, body.dteMin = some m → m ≤ dte
  dteMax : ∀ m, body.dteMax = some m → dte ≤ m

/-- The spot and the contract keys of a scan, from what its reads answer: a positive price, and the puts of the
strikes around it at every expiration in the window. -/
structure WindowIs (body : ScreenerRequest) (sym : String) (today : Int) (reads : Reads) (w : Window) : Prop where
  spot : ∃ j, reads.fallback = some j ∧ j.toFloat = .ok w.spot ∧ (Number.fin 0).lt w.spot = true
  keys : ∃ raw strikes, reads.expirations = .ok raw ∧ strikesAroundSpot w.spot 10 = .ok strikes ∧ strikes ≠ [] ∧
    (∃ e ∈ raw, ∃ dte, InDteWindow body today (normExpiry e) dte) ∧
    ∀ ck exp dte, w.keyMeta.lookup ck = some (exp, dte) ↔ (∃ e ∈ raw, normExpiry e = exp) ∧
      InDteWindow body today exp dte ∧ ∃ st ∈ strikes, ck = contractKeyFromParts sym exp (.fin st) "P"

section

variable {body : ScreenerRequest} {sym : String} {today : Int} {reads : Reads} {w : Window}

theorem mem_validExps {raw : List String} {exp : String} {dte : Int} :
    (exp, dte) ∈ validExps body today raw ↔ (∃ e ∈ raw, normExpiry e = exp) ∧ InDteWindow body today exp dte := by
  simp only [validExps, List.mem_filterMap, List.mem_filter, List.mem_map, decide_eq_true_eq, List.all_eq_true]
  constructor
  · rintro ⟨exp', ⟨hmem, hdigits⟩, h⟩
    split at h
    · rename_i day hday
      obtain ⟨hin, heq⟩ := Option.ite_none_right_eq_some.1 h
      obtain ⟨rfl, rfl⟩ := Prod.mk.inj (Option.some.inj heq)
      simp only [inWindow, Bool.and_eq_true, Option.all_eq_true, decide_eq_true_eq] at hin
      exact ⟨hmem, hdigits, by rw [hday]; congr 1; omega, hin.1, hin.2⟩
    · cases h
  · rintro ⟨hmem, hdigits, hday, hmin, hmax⟩
    refine ⟨exp, ⟨hmem, hdigits⟩, ?_⟩
    have hin : inWindow body dte = true := by
      simp only [inWindow, Bool.and_eq_true, Option.all_eq_true, decide_eq_true_eq]
      exact ⟨hmin, hmax⟩
    have hdte : today + dte - today = dte := by omega
    simp only [hday, hdte, hin, if_true]

theorem validExps_eq_nil {raw : List String} : validExps body today raw = [] ↔
    ¬ ∃ e ∈ raw, ∃ dte, InDteWindow body today (normExpiry e) dte := by
  rw [List.eq_nil_iff_forall_not_mem]
  constructor
  · rintro h ⟨e, he, dte, hin⟩
    exact h (normExpiry e, dte) (mem_validExps.2 ⟨⟨e, he, rfl⟩, hin⟩)
  · rintro h ⟨exp, dte⟩ hm
    obtain ⟨⟨e, he, rfl⟩, hin⟩ := mem_validExps.1 hm
    exact h ⟨e, he, dte, hin⟩

theorem normExpiry_digits {exp : String} (h : exp.length = 8 ∧ ∀ c ∈ exp.toList, (decimalDigit? c).isSome) :
    normExpiry exp = exp := by
  have hstrip : strip exp = exp := by
    rw [strip, stripChars_eq_self, String.ofList_toList]
    · exact fun c hc => not_space_of_decimal (h.2 c (List.mem_of_mem_head? hc))
    · exact fun c hc => not_space_of_decimal (h.2 c (List.mem_of_getLast? hc))
  have hlen : ¬ (10 ≤ exp.toList.length ∧ exp.toList[4]? = some '-') := by
    rw [String.length_toList, h.1]
    exact fun hlong => absurd hlong.1 (by decide)
  rw [normExpiry, hstrip]
  exact if_neg hlen

/-- A contract key says which expiration it is for. -/
theorem exp_of_contractKey {exp exp' : String} {st st' : Number}
    (h : exp.length = 8 ∧ ∀ c ∈ exp.toList, (decimalDigit? c).isSome)
    (h' : exp'.length = 8 ∧ ∀ c ∈ exp'.toList, (decimalDigit? c).isSome)
    (heq : contractKeyFromParts sym exp st "P" = contractKeyFromParts sym exp' st' "P") : exp = exp' := by
  simp only [contractKeyFromParts, normExpiry_digits h, normExpiry_digits h', join, String.ext_iff,
    String.toList_append, List.append_assoc, List.append_cancel_left_eq] at heq
  rw [String.ext_iff]
  exact (List.append_inj heq (by rw [String.length_toList, String.length_toList, h.1, h'.1])).1

theorem lookup_keyMetaOf {raw : List String} {strikes : List ℚ} {ck exp : String} {dte : Int} :
    (keyMetaOf sym (validExps body today raw) strikes).lookup ck = some (exp, dte) ↔
      (∃ e ∈ raw, normExpiry e = exp) ∧ InDteWindow body today exp dte ∧
        ∃ st ∈ strikes, ck = contractKeyFromParts sym exp (.fin st) "P" := by
  have hmem : ∀ {exp : String} {dte : Int}, (ck, exp, dte) ∈ ((validExps body today raw).flatMap fun ed =>
      strikes.map fun st => (contractKeyFromParts sym ed.1 (.fin st) "P", ed)) ↔ (∃ e ∈ raw, normExpiry e = exp) ∧
        InDteWindow body today exp dte ∧ ∃ st ∈ strikes, ck = contractKeyFromParts sym exp (.fin st) "P" := by
    intro exp dte
    rw [← and_assoc, ← mem_validExps]
    simp only [List.mem_flatMap, List.mem_map, Prod.mk.injEq]
    constructor
    · rintro ⟨ed, hed, st, hst, rfl, rfl⟩
      exact ⟨hed, st, hst, rfl⟩
    · rintro ⟨hvalid, st, hst, rfl⟩
      exact ⟨(exp, dte), hvalid, st, hst, rfl, rfl⟩
  rw [keyMetaOf, ← hmem]
  constructor
  · intro h
    rcases Dict.mem_update (Dict.mem_of_lookup h) with hnew | hold
    · exact hnew
    · cases hold
  · intro h
    refine Dict.lookup_update_of_const [] h ?_
    rintro ⟨exp', dte'⟩ h'
    obtain ⟨-, hin, st, -, hck⟩ := hmem.1 h
    obtain ⟨-, hin', st', -, hck'⟩ := hmem.1 h'
    obtain rfl : exp' = exp := exp_of_contractKey hin'.digits hin.digits (hck'.symm.trans hck)
    have hday : today + dte' = today + dte := Option.some.inj (hin'.day.symm.trans hin.day)
    rw [Int.add_left_cancel hday]

/-- What the scan has before it fetches rows is what its reads make of it. -/
theorem windowOf_window (h : windowOf body sym today reads = .ok (.ok w)) : WindowIs body sym today reads w := by
  unfold windowOf at h
  split at h
  · cases h
  · rename_i spot hspot
    split at h
    · cases h
    · rename_i raw hraw
      split at h
      · cases h
      · split at h
        · cases h
        · rename_i hvalid
          split at h
          · cases h
          · split at h
            · cases h
            · rename_i spot strikes hstrikes
              split at h
              · cases h
              · rename_i hne
                cases h
                refine ⟨getSpot_eq_some.1 hspot, raw, strikes, hraw, hstrikes, hne, ?_,
                  fun ck exp dte => lookup_keyMetaOf⟩
                exact not_not.1 fun hnot => hvalid (validExps_eq_nil.2 hnot)

/-- The same spot and the same contract keys. -/
structure SameWindow (w w' : Window) : Prop where
  spot : w.spot = w'.spot
  keyMeta : ∀ ck, w.keyMeta.lookup ck = w'.keyMeta.lookup ck

theorem WindowIs.windowOf (h : WindowIs body sym today reads w) :
    ∃ w', windowOf body sym today reads = .ok (.ok w') ∧ SameWindow w' w := by
  obtain ⟨raw, strikes, hraw, hstrikes, hne, hvalid, hmeta⟩ := h.keys
  have hspot : getSpot reads.fallback = .ok (some w.spot) := getSpot_eq_some.2 h.spot
  have hraw' : raw ≠ [] := by
    rintro rfl
    obtain ⟨e, he, -⟩ := hvalid
    cases he
  have hvalid' : validExps body today raw ≠ [] := fun hnil => validExps_eq_nil.1 hnil hvalid
  refine ⟨⟨w.spot, keyMetaOf sym (validExps body today raw) strikes⟩, ?_, rfl, fun ck => ?_⟩
  · simp only [Research.windowOf, hspot, hraw, if_neg hraw', if_neg hvalid', hstrikes, if_neg hne]
  · refine Option.ext fun m => ?_
    rw [lookup_keyMetaOf, hmeta]

theorem SameWindow.keyedPut {w' : Window} (h : SameWindow w w') (row : Row) : keyedPut w row = keyedPut w' row := by
  simp only [Research.keyedPut, h.keyMeta]

theorem SameWindow.contractSpotOf {w' : Window} (h : SameWindow w w') (row : Row) :
    contractSpotOf w row = contractSpotOf w' row := by
  simp only [Research.contractSpotOf, h.spot]

theorem SameWindow.measured {probItm : ProbItm} {w' : Window} (h : SameWindow w w') {row : Row} {p : Priced} :
    Measured probItm body w row p ↔ Measured probItm body w' row p := by
  rw [← priceRow_eq_some, ← priceRow_eq_some, priceRow, priceRow, h.keyedPut]
  simp only [h.contractSpotOf]

end

structure Group where
  symbol : String
  spot : Number
  bestScore : ℚ
  avgIv : Option Number
  contractCount : Nat
  reading : IvReading
  contracts : List Candidate

/-- `contracts.sort(key=…, reverse=True)`, which keeps the order of equal scores. -/
def sortByScore (cs : List Candidate) : List Candidate := cs.mergeSort fun a b => b.score ≤ a.score

def avgIvOf (cs : List Candidate) : Option Number :=
  let ivs := cs.filterMap fun c => c.priced.iv
  if ivs = [] then none else some (((ivs.foldl Number.add (.fin 0)).div (.fin ivs.length)).round 4)

def groupOf (sym : String) (reading : IvReading) (cs : List Candidate) : Option Group :=
  match sortByScore cs with
  | [] => none
  | c :: rest => some ⟨sym, c.contract.spot, c.score, avgIvOf cs, (c :: rest).length, reading, c :: rest⟩

/-- Contracts without a spread. -/
def unquoted (g : Group) : Nat := g.contracts.countP fun c => c.contract.spreadPct.isNone

def spreadNote (unquoted total : Nat) : String :=
  "max_spread_pct not applied to " ++ toString unquoted ++ " of " ++ toString total ++ " contracts: "
    ++ "no bid/ask on file (the chain store keeps no NBBO), so no spread to test"

def notesOf (body : ScreenerRequest) (g : Group) (ivNote : Option String) : List String :=
  (if body.maxSpreadPct.isSome ∧ unquoted g ≠ 0 then [spreadNote (unquoted g) g.contracts.length] else [])
    ++ (ivNote.filter (· ≠ "")).toList

/-- `"; ".join(notes) or None`. -/
def warningOf (body : ScreenerRequest) (g : Group) (ivNote : Option String) : Option String :=
  let text := join "; " (notesOf body g ivNote)
  if text = "" then none else some text

abbrev Scan := Option Group × Option String

def scanCsp (probItm : ProbItm) (today : Int) (body : ScreenerRequest) (sym : String) (reads : Reads) :
    Except Exc Scan :=
  match windowOf body sym today reads with
  | .error e => .error e
  | .ok (.error warning) => .ok (none, some warning)
  | .ok (.ok w) => match reads.rows with
    | .error e =>
      .ok (none, some ("Snapshot fetch failed (Market Data Plugin /options/chain/latest): " ++ fetchError e))
    | .ok rows =>
      if rows = [] then .ok (none, some "No snapshot data — run Market Data Plugin sync first")
      else match reads.ivPercentile with
        | .error e => .error e
        | .ok (reading, ivNote) => match Stage.collect (scanRow probItm body w sym reading.ivPercentile) rows with
          | .error e => .error e
          | .ok cs => match groupOf sym reading cs with
            | none => .ok (none, some "No contracts passed filters")
            | some g => .ok (some g, warningOf body g ivNote)

theorem mem_sortByScore {c : Candidate} {cs : List Candidate} : c ∈ sortByScore cs ↔ c ∈ cs := List.mem_mergeSort

theorem groupOf_eq_some {sym : String} {reading : IvReading} {cs : List Candidate} {g : Group}
    (h : groupOf sym reading cs = some g) : g.symbol = sym ∧ g.contracts = sortByScore cs := by
  unfold groupOf at h
  split at h
  · cases h
  · rename_i c rest hsort
    cases h
    exact ⟨rfl, hsort.symm⟩

theorem groupOf_eq_none {sym : String} {reading : IvReading} {cs : List Candidate} :
    groupOf sym reading cs = none ↔ cs = [] := by
  unfold groupOf
  split
  · rename_i hsort
    exact iff_of_true rfl (List.perm_nil.1 (hsort ▸ (List.mergeSort_perm cs _).symm))
  · rename_i c rest hsort
    refine iff_of_false (by simp) fun h => ?_
    subst h
    simp [sortByScore] at hsort

/-- A scan that answers a group read rows, and collected their contracts. -/
theorem scanCsp_eq_some {probItm : ProbItm} {today : Int} {body : ScreenerRequest} {sym : String} {reads : Reads}
    {g : Group} {warning : Option String} (h : scanCsp probItm today body sym reads = .ok (some g, warning)) :
    ∃ w rows reading ivNote cs, windowOf body sym today reads = .ok (.ok w) ∧ reads.rows = .ok rows ∧
      Stage.collect (scanRow probItm body w sym reading.ivPercentile) rows = .ok cs ∧
      groupOf sym reading cs = some g ∧ warning = warningOf body g ivNote := by
  unfold scanCsp at h
  split at h
  · cases h
  · cases h
  · rename_i w hw
    split at h
    · cases h
    · rename_i rows hrows
      split at h
      · cases h
      · split at h
        · cases h
        · rename_i reading ivNote _
          split at h
          · cases h
          · rename_i cs hcs
            split at h
            · cases h
            · rename_i g' hg
              cases h
              exact ⟨w, rows, reading, ivNote, cs, hw, hrows, hcs, hg, rfl⟩

/-! ## The request -/

structure ScreenerAnswer where
  structureType : String
  groups : List Group
  totalContracts : Nat
  symbolsScanned : List String
  symbolsFailed : List String
  warnings : Dict String String

inductive Response
  | failure (statusCode : Nat) (detail : String)
  | answer (a : ScreenerAnswer)

/-- The accumulators of the loop over the symbols. -/
structure Progress where
  groups : List Group := []
  symbolsFailed : List String := []
  warnings : Dict String String := []
  totalContracts : Nat := 0

def warn (warnings : Dict String String) (sym : String) (warning : Option String) : Dict String String :=
  match warning with
  | some text => if text = "" then warnings else Dict.set warnings sym text
  | none => warnings

def Progress.add (acc : Progress) (sym : String) : Scan → Progress
  | (none, warning) =>
    { acc with warnings := warn acc.warnings sym warning, symbolsFailed := acc.symbolsFailed ++ [sym] }
  | (some g, warning) =>
    { acc with
      warnings := warn acc.warnings sym warning
      groups := acc.groups ++ [g]
      totalContracts := acc.totalContracts + g.contractCount }

/-- The loop; the first scan that raises ends it. -/
def scanAll (probItm : ProbItm) (today : Int) (body : ScreenerRequest) (reads : String → Reads) :
    List String → Progress → Except Exc Progress
  | [], acc => .ok acc
  | sym :: syms, acc => match scanCsp probItm today body sym (reads sym) with
    | .error e => .error e
    | .ok scan => scanAll probItm today body reads syms (acc.add sym scan)

def symbolsClean (body : ScreenerRequest) : List String :=
  (body.symbols.filter fun s => strip s ≠ "").map fun s => upper (strip s)

def structureTypeOf (body : ScreenerRequest) : String :=
  lower (strip (if body.structureType = "" then "cash_secured_put" else body.structureType))

def postScreener (probItm : ProbItm) (today : Int) (db : Bool) (body : ScreenerRequest) (reads : String → Reads) :
    Except Exc Response :=
  if ¬ db then .ok (.failure 503 "PostgreSQL not configured")
  else if structureTypeOf body ≠ "cash_secured_put" then
    .ok (.failure 400 ("structure_type '" ++ structureTypeOf body ++ "' not yet implemented "
      ++ "(V1 supports cash_secured_put only)."))
  else if symbolsClean body = [] then .ok (.failure 400 "symbols list is empty")
  else match scanAll probItm today body reads (symbolsClean body) {} with
    | .error e => .error e
    | .ok acc => .ok (.answer ⟨structureTypeOf body, acc.groups.mergeSort fun a b => b.bestScore ≤ a.bestScore,
        acc.totalContracts, symbolsClean body, acc.symbolsFailed, acc.warnings⟩)

end BifrostApi.Research
