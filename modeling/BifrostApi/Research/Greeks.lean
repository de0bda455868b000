import BifrostApi.Lib.Stage
import BifrostApi.Py.Date
import BifrostApi.Research.MarketDataClient

/-!
# Greeks of one trade date (`research/routers/greeks.py`)

`_fetch_greeks_rows` asks the plugin for the first `limit` option rows of a symbol over the last 365 days,
and then keeps those of one trade date and right: rows of other dates use up the limit
(`fetchGreeksRows_complete_fails`), although the route documents `limit` as the most rows to return.

Pricing is `bifrost_core`'s and a parameter (`Pricing`); `str()` of a list or an object is the parameter
`container`. A row that cannot be read with `float` is skipped, but an integer too large for a `float`
raises, and so does a stock close that is no number.

| here | there |
| --- | --- |
| `right`, `computeGreeks` | `_right` (greeks.py:36), `compute_greeks` (:53) |
| `barClose`, `stockPrice` | the loop over `symbol_bars` (:105-111) |
| `termsOf`, `readTerms` | the loop body up to `t_days` (:117-151) |
| `priceRow` | the loop body (:117-173) |
| `fetchGreeksRows` | `_fetch_greeks_rows` (:65) |
-/

namespace BifrostApi.Research.Greeks

open Py Stage

abbrev Row := Dict String Json

structure GreekValues where
  delta : Number
  gamma : Number
  theta : Number
  vega : Number
  deriving DecidableEq, Repr

/-- `bifrost_core.pricing.black_scholes`: market price (or sigma), spot, strike, years, rate and right. -/
structure Pricing where
  impliedVol : (marketPrice s k t r : Number) → (right : String) → Except Exc (Option Number)
  greeks : (s k t r sigma : Number) → (right : String) → Except Exc GreekValues

/-- A right other than C is a put. -/
def right (r : String) : String := if upper r = "C" then "C" else "P"

def computeGreeks (pricing : Pricing) (s k t r sigma : Number) (r' : String) : Except Exc GreekValues :=
  (pricing.greeks s k t r sigma (right r')).map fun g =>
    ⟨g.delta.round 6, g.gamma.round 6, g.theta.round 6, g.vega.round 6⟩

/-- A row of the answer. -/
structure GreeksRow where
  expiry : String
  strike : Number
  right : String
  marketPrice : Number
  stockPrice : Number
  tYears : Number
  tDays : Int
  iv : Option Number
  greeks : Option GreekValues
  deriving DecidableEq, Repr

section Read

variable (container : Json → String)

/-- `str(row.get(key, ""))[:10]`. -/
def dayText (key : String) (row : Row) : String :=
  String.ofList (((Json.getD row key (.str "")).text container).toList.take 10)

/-- The row is of the trade date. -/
def onDate (tradeDate : String) (row : Row) : Bool := dayText container "bar_date" row = tradeDate

/-- The row is of the right asked for; an empty right asks for none. -/
def hasRight (right : Option String) (row : Row) : Bool :=
  match right with
  | some r => r = "" || upper (strip ((Json.getD row "option_right" (.str "")).text container)) = upper r
  | none => true

/-- The close of a bar of the trade date if it is positive; a close that is no number raises. -/
def barClose (tradeDate : String) (bar : Row) : Except Exc (Option Number) :=
  if dayText container "bar_time" bar = tradeDate then
    match Json.getD bar "close" .null with
    | .null => .ok none
    | close => match close.toFloat with
      | .error e => .error e
      | .ok x => .ok (if (Number.fin 0).lt x then some x else none)
  else .ok none

/-- The first positive close of the trade date. -/
def stockPrice (tradeDate : String) : List Json → Except Exc (Option Number)
  | [] => .ok none
  | bar :: bars => match bar.items? with
    | none => .error .attributeError
    | some bar => match barClose container tradeDate bar with
      | .error e => .error e
      | .ok (some x) => .ok (some x)
      | .ok none => stockPrice tradeDate bars

/-- `YYYYMMDD`, or what `YYYY-MM-DD` starts with. -/
def expiryDate (s : String) : Option Date :=
  let cs := s.toList
  if cs.length = 8 ∧ cs.all isDigit then Date.parseCompact s
  else if 10 ≤ cs.length then Date.parseIso (String.ofList (cs.take 10))
  else none

/-- What pricing needs of a row. -/
structure Terms where
  expDate : Date
  strike : Number
  marketPrice : Number
  tDays : Int

/-- `t_days / 365.0`. -/
def Terms.years (t : Terms) : Number := (Number.fin t.tDays).div (.fin 365)

/-- Positive prices and an expiry after the trade date; the `continue`s after the numbers are read. -/
def termsOf (tradeDate expiry : String) (strike marketPrice : Number) : Option Terms :=
  if strike.le (.fin 0) || marketPrice.le (.fin 0) then none
  else match expiryDate expiry, Date.parseIso tradeDate with
    | some exp, some td =>
      let days := exp.ordinal - td.ordinal
      if days ≤ 0 then none else some ⟨exp, strike, marketPrice, days⟩
    | _, _ => none

/-- `str(row.get("expiry") or "").strip()`. -/
def expiryText (row : Row) : String := strip ((Json.getOr row "expiry" (.str "")).text container)

/-- The terms of a row that can be priced; `none` where the loop goes on to the next row. -/
def readTerms (tradeDate : String) (row : Row) : Except Exc (Option Terms) :=
  let expiry := expiryText container row
  let strike := Json.getD row "strike" .null
  let marketPrice := Json.getD row "close" .null
  if expiry = "" ∨ strike.truthy = false ∨ marketPrice.truthy = false then .ok none
  else
    next (Json.guarded strike.toFloat) fun k =>
    next (Json.guarded marketPrice.toFloat) fun p => .ok (termsOf tradeDate expiry k p)

variable (pricing : Pricing) (r : Number)

/-- The greeks where there is an implied volatility. -/
def greeksOf (optRight : String) (s : Number) (t : Terms) : Option Number → Except Exc (Option GreekValues)
  | some sigma => (computeGreeks pricing s t.strike t.years r sigma optRight).map some
  | none => .ok none

/-- Implied volatility and greeks of one row. -/
def price (optRight : String) (s : Number) (t : Terms) : Except Exc GreeksRow :=
  match pricing.impliedVol t.marketPrice s t.strike t.years r (right optRight) with
  | .error e => .error e
  | .ok iv => (greeksOf pricing r optRight s t iv).map fun greeks =>
    ⟨t.expDate.dashed, t.strike, optRight, t.marketPrice.round 4, s.round 4, t.years.round 6, t.tDays,
      iv.map (Number.round 6), greeks⟩

/-- `str(row.get("option_right") or "").strip().upper()`. -/
def rightText (row : Row) : String := upper (strip ((Json.getOr row "option_right" (.str "")).text container))

def priceRow (tradeDate : String) (s : Number) (row : Row) : Except Exc (Option GreeksRow) :=
  next (readTerms container tradeDate row) fun t => (price pricing r (rightText container row) s t).map some

/-- A list of objects; anything else in it has no `get`. -/
def rowsOf (xs : List Json) : Except Exc (List Row) :=
  xs.mapM fun x => match x.items? with
    | some row => .ok row
    | none => .error .attributeError

/-- The plugin's limit: `limit`, and 5000 at most. -/
def pluginLimit (limit : Nat) : Nat := min limit 5000

def fetchGreeksRows (plugin : Plugin) (symbol tradeDate : String) (expiry right : Option String) (limit : Nat) :
    Except Exc (List GreeksRow) :=
  let sym := upper symbol
  let resp := fetchOptionDaily plugin sym expiry 365 (pluginLimit limit)
  if (Json.getD resp "ok" .null).truthy = false then .ok []
  else match (Json.getOr resp "rows" (.arr [])).iter? with
    | none => .error .typeError
    | some xs => match rowsOf xs with
      | .error e => .error e
      | .ok rows =>
        let targets := ((rows.filter (onDate container tradeDate)).filter (hasRight container right)).take limit
        if targets = [] then .ok []
        else match (fetchStockBarsDaily plugin [sym] 400).items? with
          | none => .error .attributeError
          | some bars => match (Json.getD bars sym (.arr [])).iter? with
            | none => .error .typeError
            | some bars => match stockPrice container tradeDate bars with
              | .error e => .error e
              | .ok none => .ok []
              | .ok (some s) => collect (priceRow container pricing r tradeDate s) targets

end Read

/-! ## Usable rows -/

section Spec

variable (container : Json → String)

/-- A row of the trade date and right asked for. -/
def onTarget (tradeDate : String) (right : Option String) (row : Row) : Bool :=
  onDate container tradeDate row && hasRight container right row

/-- A positive strike and close, and an expiry after the trade date. -/
structure Usable (tradeDate : String) (row : Row) : Prop where
  strike : ∃ x, (Json.getD row "strike" .null).toFloat = .ok x ∧ (Number.fin 0).lt x = true
  close : ∃ x, (Json.getD row "close" .null).toFloat = .ok x ∧ (Number.fin 0).lt x = true
  expiry : ∃ (exp td : Date), expiryDate (expiryText container row) = some exp ∧
    Date.parseIso tradeDate = some td ∧ td.ordinal < exp.ordinal

/-- Neither price is NaN. -/
def Terms.positive (t : Terms) : Bool := t.strike ≠ .nan && t.marketPrice ≠ .nan

/-- The loop body on a row, as a test: it gets to the terms, and they are positive. -/
def usable (tradeDate : String) (row : Row) : Bool :=
  match readTerms container tradeDate row with
  | .ok (some t) => t.positive
  | _ => false

theorem positive_iff {x : Number} : (Number.fin 0).lt x = true ↔ x.le (.fin 0) = false ∧ x ≠ .nan := by
  match x with
  | .nan => simp [Number.lt]
  | .inf neg => cases neg <;> simp [Number.lt, Number.le]
  | .fin q =>
    simp only [Number.lt, Number.le, decide_eq_true_eq, decide_eq_false_iff_not, Rat.not_le, ne_eq, reduceCtorEq,
      not_false_eq_true, and_true]

theorem truthy_of_positive {j : Json} {x : Number} (hx : j.toFloat = .ok x) (hpos : (Number.fin 0).lt x = true) :
    j.truthy = true := by
  match j with
  | .null | .arr _ | .obj _ => cases hx
  | .bool b =>
    cases b with
    | true => rfl
    | false =>
      cases hx
      cases hpos
  | .int n =>
    simp only [Json.toFloat] at hx
    split at hx
    · cases hx
    · cases hx
      refine bne_iff_ne.2 fun hzero => ?_
      simp [hzero, Number.lt] at hpos
  | .float y =>
    cases hx
    refine bne_iff_ne.2 fun hzero => ?_
    simp [hzero, Number.lt] at hpos
  | .str s =>
    refine bne_iff_ne.2 fun hempty => ?_
    have hnone : Number.ofText "" = none := by decide
    simp [Json.toFloat, hempty, hnone] at hx

theorem guarded_eq_some {α : Type} {x : Except Exc α} {a : α} : Json.guarded x = .ok (some a) ↔ x = .ok a := by
  match x with
  | .ok a' => simp [Json.guarded]
  | .error .typeError | .error .valueError | .error .overflowError | .error .attributeError
  | .error .keyError => simp [Json.guarded]

theorem termsOf_eq_some {tradeDate expiry : String} {k p : Number} {t : Terms} :
    termsOf tradeDate expiry k p = some t ↔
      t.strike = k ∧ t.marketPrice = p ∧ k.le (.fin 0) = false ∧ p.le (.fin 0) = false ∧
      expiryDate expiry = some t.expDate ∧
      ∃ td, Date.parseIso tradeDate = some td ∧ t.tDays = t.expDate.ordinal - td.ordinal ∧ 0 < t.tDays := by
  unfold termsOf
  split
  · rename_i hneg
    refine iff_of_false (fun h => by cases h) ?_
    rintro ⟨-, -, hk, hp, -⟩
    rw [hk, hp] at hneg
    cases hneg
  · rename_i hpos
    simp only [Bool.or_eq_true, not_or, Bool.not_eq_true] at hpos
    rw [hpos.1, hpos.2]
    cases hexp : expiryDate expiry with
    | none => simp
    | some exp =>
      cases htd : Date.parseIso tradeDate with
      | none => simp
      | some td =>
        dsimp only
        split
        · rename_i hdays
          refine iff_of_false (fun h => by cases h) ?_
          rintro ⟨-, -, -, -, hexp', td', htd', hdays', hlt⟩
          obtain rfl := Option.some.inj hexp'
          obtain rfl := Option.some.inj htd'
          omega
        · rename_i hdays
          constructor
          · rintro h
            obtain rfl := Option.some.inj h
            exact ⟨rfl, rfl, rfl, rfl, rfl, td, rfl, rfl, Int.not_le.1 hdays⟩
          · rintro ⟨rfl, rfl, -, -, hexp', td', htd', hdays', -⟩
            obtain rfl := Option.some.inj hexp'
            obtain rfl := Option.some.inj htd'
            rw [← hdays']

/-- When the loop gets to the terms of a row. -/
theorem readTerms_eq_some {tradeDate : String} {row : Row} {t : Terms} :
    readTerms container tradeDate row = .ok (some t) ↔
      (Json.getD row "strike" .null).truthy = true ∧ (Json.getD row "close" .null).truthy = true ∧
      (Json.getD row "strike" .null).toFloat = .ok t.strike ∧
      (Json.getD row "close" .null).toFloat = .ok t.marketPrice ∧
      termsOf tradeDate (expiryText container row) t.strike t.marketPrice = some t := by
  have hempty : expiryDate "" = none := by decide
  unfold readTerms
  dsimp only
  split
  · rename_i hblank
    refine iff_of_false (fun h => by cases h) ?_
    rintro ⟨hstrike, hclose, -, -, hterms⟩
    obtain ⟨-, -, -, -, hexp, -⟩ := termsOf_eq_some.1 hterms
    rcases hblank with hexpiry | hfalsy | hfalsy
    · rw [hexpiry, hempty] at hexp
      cases hexp
    · rw [hstrike] at hfalsy
      cases hfalsy
    · rw [hclose] at hfalsy
      cases hfalsy
  · rename_i hread
    simp only [not_or, Bool.not_eq_false] at hread
    simp only [next_eq_some, guarded_eq_some, hread.2.1, hread.2.2, true_and, Except.ok.injEq]
    constructor
    · rintro ⟨k, hk, p, hp, hterms⟩
      obtain ⟨rfl, rfl, -⟩ := termsOf_eq_some.1 hterms
      exact ⟨hk, hp, hterms⟩
    · rintro ⟨hk, hp, hterms⟩
      exact ⟨_, hk, _, hp, hterms⟩

theorem usable_iff {tradeDate : String} {row : Row} :
    usable container tradeDate row = true ↔ Usable container tradeDate row := by
  constructor
  · intro h
    unfold usable at h
    split at h
    · rename_i t hread
      simp only [Terms.positive, Bool.and_eq_true, decide_eq_true_eq] at h
      obtain ⟨-, -, hk, hp, hterms⟩ := (readTerms_eq_some container).1 hread
      obtain ⟨-, -, hkpos, hppos, hexp, td, htd, hdays, hpos⟩ := termsOf_eq_some.1 hterms
      exact ⟨⟨_, hk, positive_iff.2 ⟨hkpos, h.1⟩⟩, ⟨_, hp, positive_iff.2 ⟨hppos, h.2⟩⟩,
        _, td, hexp, htd, by omega⟩
    · cases h
  · rintro ⟨⟨k, hk, hkpos⟩, ⟨p, hp, hppos⟩, exp, td, hexp, htd, hlt⟩
    have hread : readTerms container tradeDate row = .ok (some ⟨exp, k, p, exp.ordinal - td.ordinal⟩) :=
      (readTerms_eq_some container).2 ⟨truthy_of_positive hk hkpos, truthy_of_positive hp hppos, hk, hp,
        termsOf_eq_some.2 ⟨rfl, rfl, (positive_iff.1 hkpos).1, (positive_iff.1 hppos).1, hexp, td, htd, rfl,
          Int.sub_pos_of_lt hlt⟩⟩
    rw [usable, hread]
    simp [Terms.positive, (positive_iff.1 hkpos).2, (positive_iff.1 hppos).2]

instance (tradeDate : String) (row : Row) : Decidable (Usable container tradeDate row) :=
  decidable_of_iff _ (usable_iff container)

/-- A usable row of the trade date and right. -/
def wanted (tradeDate : String) (right : Option String) (row : Row) : Bool :=
  onTarget container tradeDate right row && decide (Usable container tradeDate row)

/-- The close of a bar, if it is of the trade date and positive. -/
def positiveClose (tradeDate : String) (bar : Row) : Option Number :=
  if dayText container "bar_time" bar = tradeDate then
    match (Json.getD bar "close" .null).toFloat with
    | .ok x => if (Number.fin 0).lt x then some x else none
    | .error _ => none
  else none

/-- The first positive close among the bars of the trade date. -/
def stockClose (tradeDate : String) (bars : List Row) : Option Number :=
  bars.findSome? (positiveClose container tradeDate)

/-- Before the first positive close of the trade date every close of it is null or a number. -/
def ClosesRead (tradeDate : String) (bars : List Row) : Prop :=
  ∀ before bar after, bars = before ++ bar :: after → stockClose container tradeDate before = none →
    dayText container "bar_time" bar = tradeDate →
    Json.getD bar "close" .null = .null ∨ Answers (Json.getD bar "close" .null).toFloat

/-! ## The stock close -/

theorem barClose_of_day {tradeDate : String} {bar : Row} (hday : dayText container "bar_time" bar = tradeDate)
    (hnull : Json.getD bar "close" .null ≠ .null) :
    barClose container tradeDate bar = match (Json.getD bar "close" .null).toFloat with
      | .error e => .error e
      | .ok x => .ok (if (Number.fin 0).lt x then some x else none) := by
  unfold barClose
  rw [if_pos hday]
  split
  · rename_i hclose
    exact absurd hclose hnull
  · rfl

/-- A bar gives its positive close, or it is of the trade date and its close is neither null nor a number. -/
theorem barClose_cases (tradeDate : String) (bar : Row) :
    barClose container tradeDate bar = .ok (positiveClose container tradeDate bar) ∧
      (dayText container "bar_time" bar = tradeDate →
        Json.getD bar "close" .null = .null ∨ Answers (Json.getD bar "close" .null).toFloat) ∨
    (∃ e, barClose container tradeDate bar = .error e) ∧ positiveClose container tradeDate bar = none ∧
      dayText container "bar_time" bar = tradeDate ∧
      ¬ (Json.getD bar "close" .null = .null ∨ Answers (Json.getD bar "close" .null).toFloat) := by
  by_cases hday : dayText container "bar_time" bar = tradeDate
  · by_cases hnull : Json.getD bar "close" .null = .null
    · left
      unfold barClose positiveClose
      rw [if_pos hday, if_pos hday, hnull]
      exact ⟨rfl, fun _ => Or.inl rfl⟩
    · rw [barClose_of_day container hday hnull, positiveClose, if_pos hday]
      cases hclose : (Json.getD bar "close" .null).toFloat with
      | ok x => exact Or.inl ⟨rfl, fun _ => Or.inr ⟨x, rfl⟩⟩
      | error e =>
        refine Or.inr ⟨⟨e, rfl⟩, rfl, hday, ?_⟩
        rintro (hnull' | ⟨x, hx⟩)
        · exact hnull hnull'
        · cases hx
  · left
    unfold barClose positiveClose
    rw [if_neg hday, if_neg hday]
    exact ⟨rfl, fun h => absurd h hday⟩

theorem stockClose_of_some {tradeDate : String} {bar : Row} {x : Number}
    (h : positiveClose container tradeDate bar = some x) (bars : List Row) :
    stockClose container tradeDate (bar :: bars) = some x := by
  rw [stockClose, List.findSome?_cons, h]

theorem stockClose_of_none {tradeDate : String} {bar : Row} (h : positiveClose container tradeDate bar = none)
    (bars : List Row) :
    stockClose container tradeDate (bar :: bars) = stockClose container tradeDate bars := by
  rw [stockClose, List.findSome?_cons, h]
  rfl

/-- A bar that is read and gives no close leaves what the bars after it are read as. -/
theorem closesRead_cons {tradeDate : String} {bar : Row} (h : positiveClose container tradeDate bar = none)
    (hread : dayText container "bar_time" bar = tradeDate →
      Json.getD bar "close" .null = .null ∨ Answers (Json.getD bar "close" .null).toFloat) (bars : List Row) :
    ClosesRead container tradeDate (bar :: bars) ↔ ClosesRead container tradeDate bars := by
  constructor
  · intro hall before bar' after hsplit hnone
    refine hall (bar :: before) bar' after (by rw [hsplit]; rfl) ?_
    rw [stockClose_of_none container h]
    exact hnone
  · intro hall before bar' after hsplit hnone
    cases before with
    | nil =>
      obtain ⟨rfl, -⟩ := List.cons.inj hsplit
      exact hread
    | cons b before =>
      obtain ⟨rfl, htail⟩ := List.cons.inj hsplit
      rw [stockClose_of_none container h] at hnone
      exact hall before bar' after htail hnone

/-- The loop finds the close exactly when no close before it raises. -/
theorem stockPrice_of_close {tradeDate : String} {s : Number} : ∀ {bars : List Row},
    stockClose container tradeDate bars = some s →
    (ClosesRead container tradeDate bars ∧ stockPrice container tradeDate (bars.map .obj) = .ok (some s)) ∨
    (¬ ClosesRead container tradeDate bars ∧ ∃ e, stockPrice container tradeDate (bars.map .obj) = .error e)
  | [], h => by cases h
  | bar :: bars, h => by
    have hitems : (Json.obj bar).items? = some bar := rfl
    rw [List.map_cons, stockPrice, hitems]
    dsimp only
    rcases barClose_cases container tradeDate bar with ⟨hok, hread⟩ | ⟨⟨e, herror⟩, -, hday, hunread⟩
    · rw [hok]
      cases hclose : positiveClose container tradeDate bar with
      | some x =>
        obtain rfl := Option.some.inj ((stockClose_of_some container hclose bars).symm.trans h)
        refine Or.inl ⟨fun before bar' after hsplit hnone => ?_, rfl⟩
        cases before with
        | nil =>
          obtain ⟨rfl, -⟩ := List.cons.inj hsplit
          exact hread
        | cons b before =>
          obtain ⟨rfl, -⟩ := List.cons.inj hsplit
          rw [stockClose_of_some container hclose] at hnone
          cases hnone
      | none =>
        rw [stockClose_of_none container hclose] at h
        rw [closesRead_cons container hclose hread]
        exact stockPrice_of_close h
    · rw [herror]
      exact Or.inr ⟨fun hall => hunread (hall [] bar bars rfl rfl hday), e, rfl⟩

/-! ## One row -/

variable (pricing : Pricing) (r : Number)

/-- The pricing library answers for these terms. -/
def PricingAnswers (optRight : String) (s : Number) (t : Terms) : Prop :=
  ∃ iv, pricing.impliedVol t.marketPrice s t.strike t.years r (right optRight) = .ok iv ∧
    ∀ sigma, iv = some sigma → Answers (pricing.greeks s t.strike t.years r sigma (right optRight))

/-- The numbers of a row are read, and what can be priced is priced: nothing raises. -/
structure Priceable (tradeDate : String) (s : Number) (row : Row) : Prop where
  numbers : expiryText container row ≠ "" → (Json.getD row "strike" .null).truthy = true →
    (Json.getD row "close" .null).truthy = true →
    (Json.getD row "strike" .null).toFloat ≠ .error .overflowError ∧
    (Answers (Json.getD row "strike" .null).toFloat →
      (Json.getD row "close" .null).toFloat ≠ .error .overflowError)
  pricing : ∀ t, readTerms container tradeDate row = .ok (some t) →
    PricingAnswers pricing r (rightText container row) s t

/-- `float` raises nothing but these. -/
theorem toFloat_error {j : Json} {e : Exc} (h : j.toFloat = .error e) :
    e = .typeError ∨ e = .valueError ∨ e = .overflowError := by
  match j with
  | .null | .arr _ | .obj _ =>
    cases h
    exact Or.inl rfl
  | .bool _ | .float _ => cases h
  | .int n =>
    simp only [Json.toFloat] at h
    split at h
    · cases h
      exact Or.inr (Or.inr rfl)
    · cases h
  | .str s =>
    simp only [Json.toFloat] at h
    split at h
    · cases h
    · cases h
      exact Or.inr (Or.inl rfl)

theorem answers_guarded {j : Json} : Answers (Json.guarded j.toFloat) ↔ j.toFloat ≠ .error .overflowError := by
  cases h : j.toFloat with
  | ok x => simp [Json.guarded]
  | error e => rcases toFloat_error h with rfl | rfl | rfl <;> simp [Json.guarded]

theorem answers_readTerms {tradeDate : String} {row : Row} :
    Answers (readTerms container tradeDate row) ↔
      (expiryText container row ≠ "" → (Json.getD row "strike" .null).truthy = true →
        (Json.getD row "close" .null).truthy = true →
        (Json.getD row "strike" .null).toFloat ≠ .error .overflowError ∧
        (Answers (Json.getD row "strike" .null).toFloat →
          (Json.getD row "close" .null).toFloat ≠ .error .overflowError)) := by
  unfold readTerms
  dsimp only
  split
  · rename_i hskip
    refine iff_of_true ⟨none, rfl⟩ fun hexpiry hstrike hclose => ?_
    rcases hskip with hblank | hfalsy | hfalsy
    · exact absurd hblank hexpiry
    · rw [hstrike] at hfalsy
      cases hfalsy
    · rw [hclose] at hfalsy
      cases hfalsy
  · rename_i hread
    simp only [not_or, Bool.not_eq_false] at hread
    simp only [answers_next, answers_guarded, guarded_eq_some, answers_ok, hread.1, hread.2.1, hread.2.2, ne_eq,
      not_false_eq_true, forall_const, implies_true, and_true]
    refine and_congr_right fun _ => ⟨fun h hk => ?_, fun h k hk => h ⟨k, hk⟩⟩
    obtain ⟨k, hk⟩ := hk
    exact h k hk

theorem answers_price {optRight : String} {s : Number} {t : Terms} :
    Answers (price pricing r optRight s t) ↔ PricingAnswers pricing r optRight s t := by
  unfold price PricingAnswers
  cases pricing.impliedVol t.marketPrice s t.strike t.years r (right optRight) with
  | error e => simp
  | ok iv =>
    cases iv with
    | none => simp [greeksOf, Except.map]
    | some sigma => simp [answers_map, greeksOf, computeGreeks]

theorem answers_priceRow {tradeDate : String} {s : Number} {row : Row} :
    Answers (priceRow container pricing r tradeDate s row) ↔ Priceable container pricing r tradeDate s row := by
  rw [priceRow, answers_next, answers_readTerms]
  simp only [answers_map, answers_price]
  exact ⟨fun h => ⟨h.1, h.2⟩, fun h => ⟨h.numbers, h.pricing⟩⟩

/-- An answered row shows the terms of its stored row. -/
theorem priceRow_eq_some {tradeDate : String} {s : Number} {row : Row} {g : GreeksRow} :
    priceRow container pricing r tradeDate s row = .ok (some g) →
    ∃ t, readTerms container tradeDate row = .ok (some t) ∧ g.strike = t.strike ∧
      g.marketPrice = t.marketPrice.round 4 ∧ g.expiry = t.expDate.dashed := by
  intro h
  obtain ⟨t, hread, hprice⟩ := next_eq_some.1 h
  refine ⟨t, hread, ?_⟩
  unfold price at hprice
  split at hprice
  · cases hprice
  · rename_i iv _
    cases hgreeks : greeksOf pricing r (rightText container row) s t iv with
    | error e =>
      rw [hgreeks] at hprice
      cases hprice
    | ok greeks =>
      rw [hgreeks] at hprice
      obtain rfl := Option.some.inj (Except.ok.inj hprice)
      exact ⟨rfl, rfl, rfl⟩

/-- Neither shown price is NaN. -/
def GreeksRow.positive (g : GreeksRow) : Bool := g.strike ≠ .nan && g.marketPrice ≠ .nan

theorem positive_of_priceRow {tradeDate : String} {s : Number} (row : Row) (g : GreeksRow)
    (h : priceRow container pricing r tradeDate s row = .ok (some g)) :
    g.positive = usable container tradeDate row := by
  obtain ⟨t, hread, hstrike, hprice, -⟩ := priceRow_eq_some container pricing r h
  have hround : t.marketPrice.round 4 ≠ .nan ↔ t.marketPrice ≠ .nan := by
    cases t.marketPrice <;> simp [Number.round]
  rw [usable, hread, GreeksRow.positive, hstrike, hprice]
  simp only [Terms.positive, hround]

theorem priceRow_of_usable {tradeDate : String} {s : Number} (row : Row)
    (h : usable container tradeDate row = true) : priceRow container pricing r tradeDate s row ≠ .ok none := by
  unfold usable at h
  split at h
  · rename_i t hread
    rw [priceRow, hread]
    dsimp only [next]
    cases price pricing r (rightText container row) s t with
    | ok g => simp [Except.map]
    | error e => simp [Except.map]
  · cases h

/-! ## What the route answers -/

/-- The plugin has these rows for the symbol, in its order, and answers the first `limit` of them; it has
these bars. -/
structure Serves (plugin : Plugin) (symbol : String) (expiry : Option String) (stored bars : List Row) : Prop where
  ok : ∀ limit, (Json.getD (fetchOptionDaily plugin symbol expiry 365 limit) "ok" .null).truthy = true
  rows : ∀ limit, (fetchOptionDaily plugin symbol expiry 365 limit).lookup "rows" =
    some (.arr ((stored.take limit).map .obj))
  bars : ∃ table, fetchStockBarsDaily plugin [symbol] 400 = .obj table ∧
    table.lookup symbol = some (.arr (bars.map .obj))

/-- The rows of the trade date and right among those the plugin answers. -/
def reached (tradeDate : String) (right : Option String) (limit : Nat) (stored : List Row) : List Row :=
  (stored.take (pluginLimit limit)).filter (onTarget container tradeDate right)

theorem rowsOf_map : ∀ rows : List Row, rowsOf (rows.map .obj) = .ok rows
  | [] => rfl
  | row :: rows => by
    have ih := rowsOf_map rows
    unfold rowsOf at ih ⊢
    rw [List.map_cons, List.mapM_cons, ih]
    rfl

variable {container pricing r}

theorem fetchGreeksRows_eq {plugin : Plugin} {symbol tradeDate : String} {expiry right : Option String}
    {stored bars : List Row} (hserves : Serves plugin (upper symbol) expiry stored bars) (limit : Nat) :
    fetchGreeksRows container pricing r plugin symbol tradeDate expiry right limit =
      if reached container tradeDate right limit stored = [] then .ok []
      else match stockPrice container tradeDate (bars.map .obj) with
        | .error e => .error e
        | .ok none => .ok []
        | .ok (some s) =>
          collect (priceRow container pricing r tradeDate s) (reached container tradeDate right limit stored) := by
  obtain ⟨table, htable, hbars⟩ := hserves.bars
  have hrows : (Json.getOr (fetchOptionDaily plugin (upper symbol) expiry 365 (pluginLimit limit)) "rows"
      (.arr [])).iter? = some ((stored.take (pluginLimit limit)).map .obj) := by
    rw [Json.getOr, hserves.rows]
    cases (stored.take (pluginLimit limit)).map Json.obj <;> rfl
  have htargets : (((stored.take (pluginLimit limit)).filter (onDate container tradeDate)).filter
      (hasRight container right)).take limit = reached container tradeDate right limit stored := by
    have hfilter : ((stored.take (pluginLimit limit)).filter (onDate container tradeDate)).filter
        (hasRight container right) = reached container tradeDate right limit stored := by
      rw [List.filter_filter, reached]
      exact List.filter_congr fun row _ => Bool.and_comm _ _
    rw [hfilter]
    apply List.take_of_length_le
    calc (reached container tradeDate right limit stored).length
        ≤ (stored.take (pluginLimit limit)).length := List.length_filter_le _ _
      _ ≤ pluginLimit limit := by rw [List.length_take]; exact Nat.min_le_left _ _
      _ ≤ limit := Nat.min_le_left _ _
  have hbarList : (Json.getD table (upper symbol) (.arr [])).iter? = some (bars.map .obj) := by
    rw [Json.getD, hbars]
    rfl
  unfold fetchGreeksRows
  simp only [hserves.ok, Bool.true_eq_false, if_false, hrows, rowsOf_map, htargets, htable, Json.items?, hbarList]

variable (container pricing r)

/-- The answer: every row of it is of a stored row of the date and right that expires after the date, and
unless there are more than `limit` usable rows every one of them is answered. -/
structure Complete (tradeDate : String) (right : Option String) (limit : Nat) (stored : List Row) (s : Number)
    (rows : List GreeksRow) : Prop where
  sound : ∀ g ∈ rows, ∃ row ∈ stored, onTarget container tradeDate right row = true ∧
    priceRow container pricing r tradeDate s row = .ok (some g) ∧
    ∃ (exp td : Date), g.expiry = exp.dashed ∧ Date.parseIso tradeDate = some td ∧ td.ordinal < exp.ordinal
  complete : (stored.filter (wanted container tradeDate right)).length ≤ limit →
    ∃ answers : List GreeksRow, answers.Sublist rows ∧
      List.Forall₂ (fun row g => priceRow container pricing r tradeDate s row = .ok (some g))
        (stored.filter (wanted container tradeDate right)) answers

/-- What has to hold of the stored rows and bars: nothing that is reached raises, and the limit cuts no
usable row while they are no more than `limit`. -/
structure WithinLimit (tradeDate : String) (right : Option String) (limit : Nat) (stored bars : List Row)
    (s : Number) : Prop where
  closes : reached container tradeDate right limit stored ≠ [] → ClosesRead container tradeDate bars
  rows : ∀ row ∈ reached container tradeDate right limit stored, Priceable container pricing r tradeDate s row
  limit : (stored.filter (wanted container tradeDate right)).length ≤ limit →
    ∀ row ∈ stored.drop (pluginLimit limit), wanted container tradeDate right row = false

variable {container pricing r}

theorem wanted_eq (tradeDate : String) (right : Option String) (row : Row) :
    wanted container tradeDate right row =
      (usable container tradeDate row && onTarget container tradeDate right row) := by
  have husable : decide (Usable container tradeDate row) = usable container tradeDate row := by
    rw [Bool.eq_iff_iff, decide_eq_true_eq, usable_iff]
  rw [wanted, Bool.and_comm, husable]

/-- The usable rows among those reached are the usable ones among those the plugin answers. -/
theorem filter_reached (tradeDate : String) (right : Option String) (limit : Nat) (stored : List Row) :
    (reached container tradeDate right limit stored).filter (usable container tradeDate) =
      (stored.take (pluginLimit limit)).filter (wanted container tradeDate right) := by
  rw [reached, List.filter_filter]
  exact List.filter_congr fun row _ => (wanted_eq tradeDate right row).symm

theorem expiry_of_priceRow {tradeDate : String} {s : Number} {row : Row} {g : GreeksRow}
    (h : priceRow container pricing r tradeDate s row = .ok (some g)) :
    ∃ (exp td : Date), g.expiry = exp.dashed ∧ Date.parseIso tradeDate = some td ∧ td.ordinal < exp.ordinal := by
  obtain ⟨t, hread, -, -, hexpiry⟩ := priceRow_eq_some container pricing r h
  obtain ⟨-, -, -, -, hterms⟩ := (readTerms_eq_some container).1 hread
  obtain ⟨-, -, -, -, -, td, htd, hdays, hpos⟩ := termsOf_eq_some.1 hterms
  exact ⟨t.expDate, td, hexpiry, htd, by omega⟩

theorem filter_wanted_split (tradeDate : String) (right : Option String) (limit : Nat) (stored : List Row) :
    stored.filter (wanted container tradeDate right) =
      (stored.take (pluginLimit limit)).filter (wanted container tradeDate right) ++
        (stored.drop (pluginLimit limit)).filter (wanted container tradeDate right) := by
  rw [← List.filter_append, List.take_append_drop]

theorem forall_usable_of_answers {tradeDate : String} {s : Number} :
    ∀ {stored : List Row} {answers : List GreeksRow},
    List.Forall₂ (fun row g => priceRow container pricing r tradeDate s row = .ok (some g)) stored answers →
    (∀ row ∈ stored, usable container tradeDate row = true) → ∀ g ∈ answers, g.positive = true
  | [], _, h, _ => by
    cases h
    exact fun g hg => by cases hg
  | row :: stored, _, .cons hrow htail, husable => by
    rw [List.forall_mem_cons] at husable ⊢
    refine ⟨?_, forall_usable_of_answers htail husable.2⟩
    rw [positive_of_priceRow container pricing r row _ hrow]
    exact husable.1

/-- What is collected from the rows reached, when nothing raises. The answers of all usable rows are as many
as the usable rows reached, so none of them can be further down. -/
theorem complete_collect {tradeDate : String} {right : Option String} {limit : Nat} {stored : List Row}
    {s : Number} {rows : List GreeksRow}
    (hrows : collect (priceRow container pricing r tradeDate s) (reached container tradeDate right limit stored) =
      .ok rows) :
    Complete container pricing r tradeDate right limit stored s rows ↔
      ((stored.filter (wanted container tradeDate right)).length ≤ limit →
        ∀ row ∈ stored.drop (pluginLimit limit), wanted container tradeDate right row = false) := by
  have hforall := forall₂_collect (positive_of_priceRow container pricing r)
    (priceRow_of_usable container pricing r) hrows
  rw [filter_reached] at hforall
  have hsplit := @filter_wanted_split container tradeDate right limit stored
  constructor
  · intro hcomplete hfew
    obtain ⟨answers, hsub, hanswers⟩ := hcomplete.complete hfew
    have husable : ∀ row ∈ stored.filter (wanted container tradeDate right),
        usable container tradeDate row = true := by
      intro row hrow
      have hwanted := (List.mem_filter.1 hrow).2
      rw [wanted_eq, Bool.and_eq_true] at hwanted
      exact hwanted.1
    have hpositive : answers.filter GreeksRow.positive = answers :=
      List.filter_eq_self.2 (forall_usable_of_answers hanswers husable)
    have hlength := (hsub.filter GreeksRow.positive).length_le
    rw [hpositive, ← hanswers.length_eq, ← hforall.length_eq, hsplit, List.length_append] at hlength
    have hnil : (stored.drop (pluginLimit limit)).filter (wanted container tradeDate right) = [] :=
      List.eq_nil_of_length_eq_zero (by omega)
    intro row hrow
    exact Bool.eq_false_iff.2 (List.filter_eq_nil_iff.1 hnil row hrow)
  · intro hlimit
    constructor
    · intro g hg
      obtain ⟨row, hrow, hprice⟩ := (mem_collect hrows).1 hg
      obtain ⟨htake, htarget⟩ := List.mem_filter.1 hrow
      exact ⟨row, List.mem_of_mem_take htake, htarget, hprice, expiry_of_priceRow hprice⟩
    · intro hfew
      have hnil : (stored.drop (pluginLimit limit)).filter (wanted container tradeDate right) = [] := by
        apply List.filter_eq_nil_iff.2
        intro row hrow
        rw [hlimit hfew row hrow]
        exact Bool.false_ne_true
      rw [hsplit, hnil, List.append_nil]
      exact ⟨rows.filter GreeksRow.positive, List.filter_sublist, hforall⟩

/-- **Main.** With a positive close on the trade date the request is answered, soundly and with every usable
row unless there are more than `limit`, exactly when nothing it reads raises and the first `limit` rows the
plugin has, of whatever date or right, hold every usable row. -/
theorem fetchGreeksRows_complete {plugin : Plugin} {symbol tradeDate : String} {expiry right : Option String}
    {stored bars : List Row} {s : Number} (hserves : Serves plugin (upper symbol) expiry stored bars) (limit : Nat)
    (hclose : stockClose container tradeDate bars = some s) :
    (∃ rows, fetchGreeksRows container pricing r plugin symbol tradeDate expiry right limit = .ok rows ∧
      Complete container pricing r tradeDate right limit stored s rows) ↔
    WithinLimit container pricing r tradeDate right limit stored bars s := by
  rw [fetchGreeksRows_eq hserves]
  by_cases hreached : reached container tradeDate right limit stored = []
  · have hcollect : collect (priceRow container pricing r tradeDate s)
        (reached container tradeDate right limit stored) = .ok [] := by
      rw [hreached]
      rfl
    rw [if_pos hreached]
    constructor
    · rintro ⟨rows, hrows, hcomplete⟩
      obtain rfl := Except.ok.inj hrows
      refine ⟨fun hne => absurd hreached hne, fun row hrow => ?_, (complete_collect hcollect).1 hcomplete⟩
      rw [hreached] at hrow
      cases hrow
    · intro hwithin
      exact ⟨[], rfl, (complete_collect hcollect).2 hwithin.limit⟩
  · rw [if_neg hreached]
    rcases stockPrice_of_close container hclose with ⟨hread, hprice⟩ | ⟨hunread, e, hprice⟩
    · rw [hprice]
      dsimp only
      constructor
      · rintro ⟨rows, hrows, hcomplete⟩
        refine ⟨fun _ => hread, fun row hrow => ?_, (complete_collect hrows).1 hcomplete⟩
        exact (answers_priceRow container pricing r).1 (answers_collect.1 ⟨rows, hrows⟩ row hrow)
      · intro hwithin
        have hanswers : Answers (collect (priceRow container pricing r tradeDate s)
            (reached container tradeDate right limit stored)) :=
          answers_collect.2 fun row hrow => (answers_priceRow container pricing r).2 (hwithin.rows row hrow)
        obtain ⟨rows, hrows⟩ := hanswers
        exact ⟨rows, hrows, (complete_collect hrows).2 hwithin.limit⟩
    · rw [hprice]
      dsimp only
      refine iff_of_false ?_ fun hwithin => hunread (hwithin.closes hreached)
      rintro ⟨rows, hrows, -⟩
      cases hrows

end Spec

/-! ## Rows of the trade date, and a row of another date before them -/

/-- A plugin with these rows and bars. -/
def samplePlugin (stored bars : List Row) : Plugin := fun path params =>
  if path = "/options/daily" then
    let limit := Nat.ofDigitChars 10 ((params.lookup "limit").getD "").toList 0
    [("ok", .bool true), ("rows", .arr ((stored.take limit).map .obj))]
  else [("ok", .bool true), ("data", .obj [((params.lookup "symbols").getD "", .arr (bars.map .obj))])]

theorem samplePlugin_serves (stored bars : List Row) (symbol : String) :
    Serves (samplePlugin stored bars) symbol none stored bars := by
  constructor
  · intro limit
    rfl
  · intro limit
    have hlimit : Nat.ofDigitChars 10 (toString limit).toList 0 = limit := by
      rw [show toString limit = limit.repr from rfl, Nat.toList_repr]
      exact Nat.ofDigitChars_ten_toDigits
    have hrows : (fetchOptionDaily (samplePlugin stored bars) symbol none 365 limit).lookup "rows" =
        some (.arr ((stored.take (Nat.ofDigitChars 10 (toString limit).toList 0)).map .obj)) := rfl
    rw [hrows, hlimit]
  · refine ⟨[(symbol, .arr (bars.map .obj))], ?_, ?_⟩
    · rfl
    · rw [Dict.lookup_cons_eq, if_pos rfl]

/-- Every price is below what exercising is worth, so there is no implied volatility. -/
def samplePricing : Pricing :=
  ⟨fun _ _ _ _ _ _ => .ok none, fun _ _ _ _ _ _ => .ok ⟨.fin 0, .fin 0, .fin 0, .fin 0⟩⟩

def sampleRow (day : String) : Row :=
  [("bar_date", .str day), ("option_right", .str "C"), ("expiry", .str "20250117"), ("strike", .int 50),
    ("close", .int 1)]

def sampleBar : Row := [("bar_time", .str "2025-01-02T00:00:00"), ("close", .int 100)]

/-- The answer for the row of the trade date. -/
def sampleAnswer : GreeksRow :=
  ⟨"2025-01-17", .fin 50, "C", .fin 1, .fin 100, .fin (41096 / 1000000), 15, none, none⟩

def noContainer (_ : Json) : String := ""

/-- A call of the day before, and two calls and a put of the trade date. -/
def sampleStored : List Row :=
  [sampleRow "2025-01-01", sampleRow "2025-01-02", Dict.set (sampleRow "2025-01-02") "option_right" (.str "P"),
    Dict.set (sampleRow "2025-01-02") "strike" (.int 60)]

theorem priced_sampleStored : ∀ row ∈ sampleStored, ∃ g,
    priceRow noContainer samplePricing (.fin 0) "2025-01-02" (.fin 100) row = .ok (some g) := by
  intro row hrow
  simp only [sampleStored, List.mem_cons, List.not_mem_nil, or_false] at hrow
  rcases hrow with rfl | rfl | rfl | rfl
  · exact ⟨sampleAnswer, by decide +kernel⟩
  · exact ⟨sampleAnswer, by decide +kernel⟩
  · exact ⟨{ sampleAnswer with right := "P" }, by decide +kernel⟩
  · exact ⟨{ sampleAnswer with strike := .fin 60 }, by decide +kernel⟩

theorem fetchGreeksRows_complete_sample :
    ∃ rows, fetchGreeksRows noContainer samplePricing (.fin 0) (samplePlugin sampleStored [sampleBar])
        "nvda" "2025-01-02" none (some "C") 4 = .ok rows ∧
      Complete noContainer samplePricing (.fin 0) "2025-01-02" (some "C") 4 sampleStored (.fin 100) rows ∧
      (sampleStored.filter (wanted noContainer "2025-01-02" (some "C"))).length = 2 := by
  have hclose : stockClose noContainer "2025-01-02" [sampleBar] = some (.fin 100) := by decide +kernel
  have hwithin : WithinLimit noContainer samplePricing (.fin 0) "2025-01-02" (some "C") 4 sampleStored [sampleBar]
      (.fin 100) := by
    refine ⟨fun _ => ?_, fun row hrow => ?_, ?_⟩
    · rcases stockPrice_of_close noContainer hclose with ⟨hread, -⟩ | ⟨-, e, herror⟩
      · exact hread
      · have hfound : stockPrice noContainer "2025-01-02" ([sampleBar].map .obj) = .ok (some (.fin 100)) := by
          decide +kernel
        rw [hfound] at herror
        cases herror
    · obtain ⟨g, hg⟩ := priced_sampleStored row (List.mem_of_mem_take (List.mem_filter.1 hrow).1)
      exact (answers_priceRow noContainer samplePricing (.fin 0)).1 ⟨_, hg⟩
    · intro _ row hrow
      cases hrow
  obtain ⟨rows, hrows, hcomplete⟩ := (fetchGreeksRows_complete (samplePlugin_serves _ _ _) 4 hclose).2 hwithin
  exact ⟨rows, hrows, hcomplete, by decide +kernel⟩

/-- With limit 1 a row of the day before takes the place of the only usable row. -/
theorem fetchGreeksRows_complete_fails :
    Serves (samplePlugin [sampleRow "2025-01-01", sampleRow "2025-01-02"] [sampleBar]) (upper "nvda") none
      [sampleRow "2025-01-01", sampleRow "2025-01-02"] [sampleBar] ∧
    stockClose noContainer "2025-01-02" [sampleBar] = some (.fin 100) ∧
    ¬ ∃ rows, fetchGreeksRows noContainer samplePricing (.fin 0)
          (samplePlugin [sampleRow "2025-01-01", sampleRow "2025-01-02"] [sampleBar])
          "nvda" "2025-01-02" none (some "C") 1 = .ok rows ∧
        Complete noContainer samplePricing (.fin 0) "2025-01-02" (some "C") 1
          [sampleRow "2025-01-01", sampleRow "2025-01-02"] (.fin 100) rows := by
  refine ⟨samplePlugin_serves _ _ _, by decide +kernel, ?_⟩
  rintro ⟨rows, hrows, hcomplete⟩
  have hempty : fetchGreeksRows noContainer samplePricing (.fin 0)
      (samplePlugin [sampleRow "2025-01-01", sampleRow "2025-01-02"] [sampleBar])
      "nvda" "2025-01-02" none (some "C") 1 = .ok [] := by decide +kernel
  obtain rfl := Except.ok.inj (hempty.symm.trans hrows)
  have husable : ([sampleRow "2025-01-01", sampleRow "2025-01-02"].filter
      (wanted noContainer "2025-01-02" (some "C"))).length = 1 := by decide +kernel
  obtain ⟨answers, hsub, hanswers⟩ := hcomplete.complete (Nat.le_of_eq husable)
  have hlength := hanswers.length_eq
  rw [List.sublist_nil.1 hsub, husable] at hlength
  cases hlength

end BifrostApi.Research.Greeks
