import BifrostApi.Research.Screener

/-!
# One malformed row (`research/routers/screener.py`, `_scan_csp`)

The rows of every symbol are scanned in one request. `mid`, `iv`, `delta`, `day_close` and
`underlying_price` are read under a guard; `bid` and `ask` (:301-302), `open_interest` (:393) and `delta` when
the entry is built (:394) are not, and the guards let the `OverflowError` of an integer too large for a
`float` through. Such a row unwinds the scan of every symbol (`isolated_fails`).

`ScanReadable` says which rows do: a field counts only where the row is not skipped before it is read.
-/

namespace BifrostApi.Research

open Py Stage

/-! ## What is promised -/

def withRows (reads : Reads) (rows : List Row) : Reads := { reads with rows := .ok rows }

/-- The reads of a request in which `sym` has the given rows. -/
def rowsOfSymbol (reads : String → Reads) (sym : String) (rows : List Row) (s : String) : Reads :=
  if s = sym then withRows (reads s) rows else reads s

def contractsOf : Scan → List Candidate
  | (some g, _) => g.contracts
  | (none, _) => []

/-- A symbol other than `sym`. -/
def isOther (sym s : String) : Bool := decide (s ≠ sym)

/-- Two answers say the same of every symbol but `sym`. -/
structure SameForOthers (sym : String) (a b : ScreenerAnswer) : Prop where
  groups : (a.groups.filter fun g => isOther sym g.symbol).Perm (b.groups.filter fun g => isOther sym g.symbol)
  symbolsFailed : a.symbolsFailed.filter (isOther sym) = b.symbolsFailed.filter (isOther sym)
  warnings : (a.warnings.filter fun kv => isOther sym kv.1) = b.warnings.filter fun kv => isOther sym kv.1

/-- A further row in the chain of `sym` costs nobody anything. -/
structure Isolated (probItm : ProbItm) (today : Int) (body : ScreenerRequest) (reads : String → Reads)
    (sym : String) (rows₁ : List Row) (row : Row) (rows₂ : List Row) : Prop where
  answers : Answers (scanCsp probItm today body sym (withRows (reads sym) (rows₁ ++ row :: rows₂)))
  /-- The contracts of the other rows are the same, field by field. -/
  contracts : ∀ before after,
    scanCsp probItm today body sym (withRows (reads sym) (rows₁ ++ rows₂)) = .ok before →
    scanCsp probItm today body sym (withRows (reads sym) (rows₁ ++ row :: rows₂)) = .ok after →
    ∃ new : Option Candidate, (contractsOf after).Perm (new.toList ++ contractsOf before)
  others : ∀ db before,
    postScreener probItm today db body (rowsOfSymbol reads sym (rows₁ ++ rows₂)) = .ok (.answer before) →
    ∃ after, postScreener probItm today db body (rowsOfSymbol reads sym (rows₁ ++ row :: rows₂)) =
      .ok (.answer after) ∧ SameForOthers sym before after

/-! ## What can be read -/

/-- Absent, null or something `float` takes. -/
def FloatReadable (v : Option Json) : Prop := ∀ j, v = some j → Answers j.toFloat

def IntReadable (v : Option Json) : Prop := ∀ j, v = some j → Answers j.toInt

/-- Not an integer too large for a `float`. -/
def NoOverflow (v : Option Json) : Prop := ∀ j, v = some j → j.toFloat ≠ .error .overflowError

theorem answers_readFloat {v : Option Json} : Answers (readFloat v) ↔ FloatReadable v := by
  cases v with
  | none => simp [readFloat, FloatReadable]
  | some j => cases hj : j.toFloat <;> simp [readFloat, FloatReadable, hj, Except.map]

theorem answers_readInt {v : Option Json} : Answers (readInt v) ↔ IntReadable v := by
  cases v with
  | none => simp [readInt, IntReadable]
  | some j => cases hj : j.toInt <;> simp [readInt, IntReadable, hj, Except.map]

theorem answers_readGuarded {v : Option Json} : Answers (readGuarded v) ↔ NoOverflow v := by
  cases v with
  | none => simp [readGuarded, NoOverflow]
  | some j =>
    cases hj : j.toFloat with
    | ok x => simp [readGuarded, NoOverflow, hj]
    | error e => cases e <;> simp [readGuarded, NoOverflow, hj]

/-- The bid and the ask always, the rest as far as the premium is looked for. -/
structure QuoteReadable (row : Row) : Prop where
  bid : FloatReadable (field row "bid")
  ask : FloatReadable (field row "ask")
  mid : NoOverflow (field row "mid")
  dayClose : readGuarded (field row "mid") = .ok none → field row "bid" = none ∨ field row "ask" = none →
    NoOverflow (field row "day_close")

/-- The volatility; then the model answers, or the delta is looked at. -/
structure ProbReadable (probItm : ProbItm) (row : Row) (key : Key) (spot : Number) : Prop where
  iv : NoOverflow (field row "iv")
  model : ∀ v, readGuarded (field row "iv") = .ok (some v) → (Number.fin 0).lt v = true →
    Answers (probItmPut probItm spot key.strike key.dte v)
  delta : (∀ v, readGuarded (field row "iv") = .ok (some v) → (Number.fin 0).lt v = false) →
    NoOverflow (field row "delta")

/-- Every field can be read that is reached. -/
structure RowReadable (probItm : ProbItm) (body : ScreenerRequest) (w : Window) (row : Row) : Prop where
  key : ∀ j, row.lookup "contract_key" = some j → j.truthy = true → ∃ s, j = .str s
  underlyingPrice : ∀ key, keyedPut w row = .ok (some key) → NoOverflow (field row "underlying_price")
  quote : ∀ key spot, keyedPut w row = .ok (some key) → contractSpotOf w row = .ok (some spot) → QuoteReadable row
  prob : ∀ key spot q, keyedPut w row = .ok (some key) → contractSpotOf w row = .ok (some spot) →
    quoteOf row = .ok (some q) → (spreadPctOf q).any (above body.maxSpreadPct) = false →
    ProbReadable probItm row key spot
  entry : ∀ p, Measured probItm body w row p →
    IntReadable (field row "open_interest") ∧ FloatReadable (field row "delta")

/-- The price is an infinity, and an expiration in the window asks for the strikes around it. -/
structure InfiniteSpot (body : ScreenerRequest) (today : Int) (reads : Reads) : Prop where
  price : ∃ j, reads.fallback = some j ∧ j.toFloat = .ok (.inf false)
  expiration : ∃ raw, reads.expirations = .ok raw ∧ ∃ e ∈ raw, ∃ dte, InDteWindow body today (normExpiry e) dte

/-- The price can be read, and is no infinity where the strikes around it are looked for. Past the window, the
IV percentile was read and every row can be. -/
structure ScanReadable (probItm : ProbItm) (today : Int) (body : ScreenerRequest) (sym : String) (reads : Reads)
    (rows : List Row) : Prop where
  fallback : NoOverflow reads.fallback
  spot : ¬ InfiniteSpot body today reads
  ivPercentile : ∀ w, WindowIs body sym today reads w → Answers reads.ivPercentile
  rows : ∀ w, WindowIs body sym today reads w → ∀ row ∈ rows, RowReadable probItm body w row

/-! ## One row -/

section

variable {probItm : ProbItm} {body : ScreenerRequest} {w : Window} {row : Row}

theorem answers_keyText : Answers (keyText row) ↔
    ∀ j, row.lookup "contract_key" = some j → j.truthy = true → ∃ s, j = .str s := by
  unfold keyText
  split
  · rename_i hnone
    simp [hnone]
  · rename_i s hs
    simp [hs]
  · rename_i j hstr hj
    cases htruthy : j.truthy with
    | false => simp [hj, htruthy]
    | true =>
      simp only [if_true, answers_error, false_iff]
      intro h
      obtain ⟨s, rfl⟩ := h j hj htruthy
      exact hstr s rfl

theorem answers_keyedPut : Answers (keyedPut w row) ↔ Answers (keyText row) := by
  unfold keyedPut
  cases keyText row with
  | error e => simp
  | ok ck =>
    dsimp only
    cases parseContractKey ck <;> simp

theorem answers_contractSpotOf :
    Answers (contractSpotOf w row) ↔ NoOverflow (field row "underlying_price") := by
  rw [← answers_readGuarded]
  unfold contractSpotOf
  cases readGuarded (field row "underlying_price") <;> simp

theorem readFloat_eq_none {v : Option Json} : readFloat v = .ok none ↔ v = none := by
  cases v with
  | none => simp [readFloat]
  | some j => cases hj : j.toFloat <;> simp [readFloat, hj, Except.map]

theorem answers_midOf {bid ask : Option Number} (hbid : readFloat (field row "bid") = .ok bid)
    (hask : readFloat (field row "ask") = .ok ask) :
    Answers (midOf row bid ask) ↔ NoOverflow (field row "mid") ∧
      (readGuarded (field row "mid") = .ok none → field row "bid" = none ∨ field row "ask" = none →
        NoOverflow (field row "day_close")) := by
  have hbid' : field row "bid" = none ↔ bid = none := by
    rw [← readFloat_eq_none, hbid, Except.ok.injEq]
  have hask' : field row "ask" = none ↔ ask = none := by
    rw [← readFloat_eq_none, hask, Except.ok.injEq]
  rw [hbid', hask', ← answers_readGuarded, ← answers_readGuarded]
  unfold midOf
  cases readGuarded (field row "mid") with
  | error e => simp
  | ok m =>
    cases m with
    | some m => simp
    | none =>
      cases bid with
      | none => cases readGuarded (field row "day_close") <;> simp
      | some b => cases ask with
        | none => cases readGuarded (field row "day_close") <;> simp
        | some a => simp

theorem answers_quoteOf : Answers (quoteOf row) ↔ QuoteReadable row := by
  have hiff : QuoteReadable row ↔ FloatReadable (field row "bid") ∧ FloatReadable (field row "ask") ∧
      NoOverflow (field row "mid") ∧ (readGuarded (field row "mid") = .ok none →
        field row "bid" = none ∨ field row "ask" = none → NoOverflow (field row "day_close")) :=
    ⟨fun h => ⟨h.bid, h.ask, h.mid, h.dayClose⟩, fun h => ⟨h.1, h.2.1, h.2.2.1, h.2.2.2⟩⟩
  rw [hiff, ← answers_readFloat, ← answers_readFloat]
  unfold quoteOf
  cases hbid : readFloat (field row "bid") with
  | error e => simp
  | ok bid =>
    cases hask : readFloat (field row "ask") with
    | error e => simp
    | ok ask =>
      rw [← answers_midOf hbid hask]
      dsimp only
      cases midOf row bid ask with
      | error e => simp
      | ok m => cases m <;> simp

theorem answers_probItmOf {key : Key} {spot : Number} {iv : Option Number}
    (hiv : readGuarded (field row "iv") = .ok iv) :
    Answers (probItmOf probItm spot key iv (field row "delta")) ↔ ProbReadable probItm row key spot := by
  have hno : NoOverflow (field row "iv") := answers_readGuarded.1 ⟨iv, hiv⟩
  unfold probItmOf
  split
  · rename_i v hv
    obtain ⟨rfl, hpos⟩ := Option.filter_eq_some_iff.1 hv
    refine ⟨fun h => ⟨hno, fun v' hv' _ => ?_, fun hneg => ?_⟩, fun h => h.model v hiv hpos⟩
    · cases hiv.symm.trans hv'
      exact h
    · rw [hneg v hiv] at hpos
      cases hpos
  · rename_i hnone
    have hneg : ∀ v, readGuarded (field row "iv") = .ok (some v) → (Number.fin 0).lt v = false := by
      intro v hv
      cases hiv.symm.trans hv
      simpa using hnone
    have hdelta : NoOverflow (field row "delta") ↔ ProbReadable probItm row key spot := by
      refine ⟨fun h => ⟨hno, fun v hv hpos => ?_, fun _ => h⟩, fun h => h.delta hneg⟩
      rw [hneg v hv] at hpos
      cases hpos
    rw [← hdelta, ← answers_readGuarded]
    cases readGuarded (field row "delta") with
    | error e => simp
    | ok d => cases d <;> simp

theorem answers_measure {key : Key} {spot : Number} {q : Quote} : Answers (measure probItm body row key spot q) ↔
    ((spreadPctOf q).any (above body.maxSpreadPct) = false → ProbReadable probItm row key spot) := by
  unfold measure
  cases hspread : (spreadPctOf q).any (above body.maxSpreadPct) with
  | true => simp
  | false =>
    simp only [Bool.false_eq_true, if_false, true_imp_iff]
    cases hiv : readGuarded (field row "iv") with
    | error e =>
      refine iff_of_false (by simp) fun h => ?_
      obtain ⟨iv, hok⟩ := answers_readGuarded.2 h.iv
      cases hiv.symm.trans hok
    | ok iv =>
      rw [← answers_probItmOf hiv]
      dsimp only
      cases probItmOf probItm spot key iv (field row "delta") <;> simp

/-- Of the window only the spot and the keys are looked at. -/
theorem RowReadable.congr {w' : Window} (h : RowReadable probItm body w row) (hsame : SameWindow w w') :
    RowReadable probItm body w' row where
  key := h.key
  underlyingPrice key hk := h.underlyingPrice key (hsame.keyedPut row ▸ hk)
  quote key spot hk hs := h.quote key spot (hsame.keyedPut row ▸ hk) (hsame.contractSpotOf row ▸ hs)
  prob key spot q hk hs := h.prob key spot q (hsame.keyedPut row ▸ hk) (hsame.contractSpotOf row ▸ hs)
  entry p hp := h.entry p (hsame.measured.2 hp)

/-- The scan of a row does not raise exactly when every field it reaches can be read. -/
theorem answers_scanRow {sym : String} {ivPct : Option Number} :
    Answers (scanRow probItm body w sym ivPct row) ↔ RowReadable probItm body w row := by
  simp only [scanRow, answers_next, answers_contractOf, answers_readInt, answers_readFloat, priceRow_eq_some]
  simp only [priceRow, answers_next, answers_keyedPut, answers_keyText, answers_contractSpotOf, answers_quoteOf,
    answers_measure]
  constructor
  · rintro ⟨⟨hkey, h⟩, hentry⟩
    exact ⟨hkey, fun key hk => (h key hk).1, fun key spot hk hs => ((h key hk).2 spot hs).1,
      fun key spot q hk hs hq => ((h key hk).2 spot hs).2 q hq, hentry⟩
  · intro h
    exact ⟨⟨h.key, fun key hk => ⟨h.underlyingPrice key hk, fun spot hs =>
      ⟨h.quote key spot hk hs, fun q hq => h.prob key spot q hk hs hq⟩⟩⟩, h.entry⟩

end

/-! ## One symbol -/

section

variable {probItm : ProbItm} {today : Int} {body : ScreenerRequest} {sym : String} {reads : Reads} {rows : List Row}

theorem answers_getSpot : Answers (getSpot reads.fallback) ↔ NoOverflow reads.fallback := by
  have hnull : NoOverflow (notNone reads.fallback) ↔ NoOverflow reads.fallback := by
    unfold notNone
    split
    · rename_i hnull
      simp [NoOverflow, hnull, Json.toFloat]
    · rfl
  rw [← hnull, ← answers_readGuarded]
  unfold getSpot
  cases readGuarded (notNone reads.fallback) <;> simp

/-- Only an infinite price has no strikes around it to look for. -/
theorem answers_strikesAroundSpot {spot : Number} {count : Nat} :
    Answers (strikesAroundSpot spot count) ↔ spot ≠ .inf false := by
  match spot with
  | .nan => simp [strikesAroundSpot]
  | .inf true => simp [strikesAroundSpot]
  | .inf false => simp [strikesAroundSpot]
  | .fin q =>
    refine iff_of_true ?_ (by simp)
    unfold strikesAroundSpot
    dsimp only
    split <;> simp

theorem infiniteSpot_iff {spot : Option Number} (hspot : getSpot reads.fallback = .ok spot) :
    InfiniteSpot body today reads ↔
      spot = some (.inf false) ∧ ∃ raw, reads.expirations = .ok raw ∧ validExps body today raw ≠ [] := by
  have hprice : spot = some (.inf false) ↔ ∃ j, reads.fallback = some j ∧ j.toFloat = .ok (.inf false) := by
    rw [← Except.ok.injEq, ← hspot, getSpot_eq_some]
    exact ⟨fun ⟨j, hj, hx, _⟩ => ⟨j, hj, hx⟩, fun ⟨j, hj, hx⟩ => ⟨j, hj, hx, rfl⟩⟩
  rw [hprice]
  simp only [ne_eq, validExps_eq_nil, not_not]
  exact ⟨fun h => ⟨h.price, h.expiration⟩, fun h => ⟨h.1, h.2⟩⟩

/-- What comes before the rows raises for a price that is too large or infinite, and for nothing else. -/
theorem answers_windowOf :
    Answers (windowOf body sym today reads) ↔ NoOverflow reads.fallback ∧ ¬ InfiniteSpot body today reads := by
  rw [← answers_getSpot]
  unfold windowOf
  cases hspot : getSpot reads.fallback with
  | error e => simp
  | ok spot =>
    rw [infiniteSpot_iff hspot]
    dsimp only
    cases reads.expirations with
    | error e => simp
    | ok raw =>
      by_cases hvalid : validExps body today raw = []
      · refine iff_of_true ?_ ⟨by simp, ?_⟩
        · by_cases hnil : raw = []
          · simp [hnil]
          · simp [hnil, hvalid]
        · rintro ⟨-, raw', hraw', hne⟩
          cases hraw'
          exact hne hvalid
      · have hsome : raw ≠ [] := by
          rintro rfl
          exact hvalid rfl
        cases spot with
        | none => simp [hsome, hvalid]
        | some spot =>
          have hstrikes := @answers_strikesAroundSpot spot 10
          simp only [if_neg hsome, if_neg hvalid]
          cases hs : strikesAroundSpot spot 10 with
          | error e =>
            rw [hs] at hstrikes
            have hinf : spot = .inf false := by simpa using hstrikes
            simp [hvalid, hinf]
          | ok strikes =>
            rw [hs] at hstrikes
            have hfin : spot ≠ .inf false := by simpa using hstrikes
            dsimp only
            split <;> simp [hfin]

theorem answers_scanCsp (hrows : rows ≠ []) : Answers (scanCsp probItm today body sym (withRows reads rows)) ↔
    ScanReadable probItm today body sym reads rows := by
  have hwindow : windowOf body sym today (withRows reads rows) = windowOf body sym today reads := rfl
  have hanswers := @answers_windowOf today body sym reads
  unfold scanCsp
  rw [hwindow]
  cases hw : windowOf body sym today reads with
  | error e =>
    refine iff_of_false (by simp) fun h => ?_
    obtain ⟨r, hr⟩ := hanswers.2 ⟨h.fallback, h.spot⟩
    cases hw.symm.trans hr
  | ok r =>
    obtain ⟨hfallback, hspot⟩ := hanswers.1 ⟨r, hw⟩
    cases r with
    | error warning =>
      have hnone : ∀ w, ¬ WindowIs body sym today reads w := by
        intro w h
        obtain ⟨w', hw', -⟩ := h.windowOf
        cases hw.symm.trans hw'
      exact iff_of_true (by simp) ⟨hfallback, hspot, fun w h => absurd h (hnone w), fun w h => absurd h (hnone w)⟩
    | ok w =>
      have hiff : ScanReadable probItm today body sym reads rows ↔
          Answers reads.ivPercentile ∧ ∀ row ∈ rows, RowReadable probItm body w row := by
        constructor
        · exact fun h => ⟨h.ivPercentile w (windowOf_window hw), h.rows w (windowOf_window hw)⟩
        · rintro ⟨hiv, hreadable⟩
          refine ⟨hfallback, hspot, fun _ _ => hiv, fun w' h row hrow => ?_⟩
          obtain ⟨w'', hw'', hsame⟩ := h.windowOf
          cases hw.symm.trans hw''
          exact (hreadable row hrow).congr hsame
      rw [hiff]
      simp only [withRows, if_neg hrows]
      cases reads.ivPercentile with
      | error e => simp
      | ok r =>
        have hcollect : Answers (collect (scanRow probItm body w sym r.1.ivPercentile) rows) ↔
            ∀ row ∈ rows, RowReadable probItm body w row := by
          simp only [answers_collect, answers_scanRow]
        rw [← hcollect]
        dsimp only
        cases collect (scanRow probItm body w sym r.1.ivPercentile) rows with
        | error e => simp
        | ok cs =>
          dsimp only
          cases groupOf sym r.1 cs <;> simp

/-- Past the window the contracts are those of the rows, the best first. -/
theorem contractsOf_scanCsp {w : Window} {reading : IvReading} {ivNote : Option String} {scan : Scan}
    (hw : windowOf body sym today reads = .ok (.ok w)) (hiv : reads.ivPercentile = .ok (reading, ivNote))
    (h : scanCsp probItm today body sym (withRows reads rows) = .ok scan) :
    ∃ cs, collect (scanRow probItm body w sym reading.ivPercentile) rows = .ok cs ∧
      contractsOf scan = sortByScore cs := by
  have hwindow : windowOf body sym today (withRows reads rows) = .ok (.ok w) := hw
  unfold scanCsp at h
  rw [hwindow] at h
  by_cases hrows : rows = []
  · subst hrows
    cases h
    exact ⟨[], rfl, by simp [contractsOf, sortByScore]⟩
  · simp only [withRows, if_neg hrows, hiv] at h
    split at h
    · cases h
    · rename_i cs hcs
      refine ⟨cs, hcs, ?_⟩
      split at h
      · rename_i hnone
        cases h
        simp [contractsOf, groupOf_eq_none.1 hnone, sortByScore]
      · rename_i g hg
        cases h
        exact (groupOf_eq_some hg).2

theorem contracts_insert {rows₁ rows₂ : List Row} {row : Row} {before after : Scan}
    (hbefore : scanCsp probItm today body sym (withRows reads (rows₁ ++ rows₂)) = .ok before)
    (hafter : scanCsp probItm today body sym (withRows reads (rows₁ ++ row :: rows₂)) = .ok after) :
    ∃ new : Option Candidate, (contractsOf after).Perm (new.toList ++ contractsOf before) := by
  have hreadable := (answers_scanCsp (by simp)).1 ⟨after, hafter⟩
  obtain ⟨r, hw⟩ := answers_windowOf.2 ⟨hreadable.fallback, hreadable.spot⟩
  cases r with
  | error warning =>
    unfold scanCsp at hbefore hafter
    have hwindow : ∀ rows, windowOf body sym today (withRows reads rows) = .ok (.error warning) := fun _ => hw
    rw [hwindow] at hbefore hafter
    cases hbefore
    cases hafter
    exact ⟨none, List.Perm.refl _⟩
  | ok w =>
    obtain ⟨⟨reading, ivNote⟩, hiv⟩ := hreadable.ivPercentile w (windowOf_window hw)
    obtain ⟨old, hold, hbefore'⟩ := contractsOf_scanCsp hw hiv hbefore
    obtain ⟨cs, hcs, hafter'⟩ := contractsOf_scanCsp hw hiv hafter
    obtain ⟨new, hperm⟩ := collect_insert hold hcs
    refine ⟨new, ?_⟩
    rw [hbefore', hafter']
    exact (List.mergeSort_perm cs _).trans (hperm.trans ((List.mergeSort_perm old _).symm.append_left _))

end

/-! ## The request -/

section

variable {probItm : ProbItm} {today : Int} {body : ScreenerRequest} {sym : String}

theorem isOther_self : isOther sym sym = false := by simp [isOther]

theorem isOther_of_ne {s : String} (h : s ≠ sym) : isOther sym s = true := by simpa [isOther] using h

/-- What the loop has for the other symbols. -/
def others (sym : String) (acc : Progress) : List Group × List String × Dict String String :=
  (acc.groups.filter fun g => isOther sym g.symbol, acc.symbolsFailed.filter (isOther sym),
    acc.warnings.filter fun kv => isOther sym kv.1)

theorem filter_warn_self (warnings : Dict String String) (warning : Option String) :
    ((warn warnings sym warning).filter fun kv => isOther sym kv.1) =
      warnings.filter fun kv => isOther sym kv.1 := by
  unfold warn
  split
  · split
    · rfl
    · exact Dict.filter_set_of_not isOther_self _ _
  · rfl

theorem filter_warn_of_ne {s : String} (h : s ≠ sym) (warnings : Dict String String) (warning : Option String) :
    ((warn warnings s warning).filter fun kv => isOther sym kv.1) =
      warn (warnings.filter fun kv => isOther sym kv.1) s warning := by
  unfold warn
  split
  · split
    · rfl
    · exact Dict.filter_set_of (isOther_of_ne h) _ _
  · rfl

/-- The symbol's own scan changes nothing for the others. -/
theorem others_add_self {scan : Scan} (hsym : ∀ g, scan.1 = some g → g.symbol = sym) (acc : Progress) :
    others sym (acc.add sym scan) = others sym acc := by
  match scan with
  | (none, warning) => simp [others, Progress.add, filter_warn_self, isOther_self]
  | (some g, warning) => simp [others, Progress.add, filter_warn_self, isOther_self, hsym g rfl]

theorem others_add_of_ne {s : String} (h : s ≠ sym) {acc acc' : Progress} (heq : others sym acc = others sym acc')
    (scan : Scan) : others sym (acc.add s scan) = others sym (acc'.add s scan) := by
  simp only [others, Prod.mk.injEq] at heq
  obtain ⟨hgroups, hfailed, hwarnings⟩ := heq
  match scan with
  | (none, warning) => simp [others, Progress.add, filter_warn_of_ne h, hgroups, hfailed, hwarnings]
  | (some g, warning) => simp [others, Progress.add, filter_warn_of_ne h, hgroups, hfailed, hwarnings]

theorem scanCsp_symbol {reads : Reads} {scan : Scan} (h : scanCsp probItm today body sym reads = .ok scan)
    {g : Group} (hg : scan.1 = some g) : g.symbol = sym := by
  obtain ⟨g', warning⟩ := scan
  cases hg
  obtain ⟨_, _, _, _, _, _, _, _, hgroup, _⟩ := scanCsp_eq_some h
  exact (groupOf_eq_some hgroup).1

/-- The loop over two sets of reads that agree but for one symbol, whose scan does not raise. -/
theorem scanAll_others {reads reads' : String → Reads} (hreads : ∀ s, s ≠ sym → reads' s = reads s)
    (hanswers : Answers (scanCsp probItm today body sym (reads' sym))) :
    ∀ {syms : List String} {acc acc' done : Progress}, others sym acc = others sym acc' →
    scanAll probItm today body reads syms acc = .ok done →
    ∃ done', scanAll probItm today body reads' syms acc' = .ok done' ∧ others sym done = others sym done'
  | [], acc, acc', done, heq, h => by
    cases h
    exact ⟨acc', rfl, heq⟩
  | s :: syms, acc, acc', done, heq, h => by
    rw [scanAll] at h
    split at h
    · cases h
    · rename_i scan hscan
      by_cases hs : s = sym
      · obtain ⟨scan', hscan'⟩ := hanswers
        rw [hs] at hscan h
        have hstep : others sym (acc.add sym scan) = others sym (acc'.add sym scan') := by
          rw [others_add_self fun g => scanCsp_symbol hscan, others_add_self fun g => scanCsp_symbol hscan', heq]
        obtain ⟨done', hdone', hothers⟩ := scanAll_others hreads ⟨scan', hscan'⟩ hstep h
        exact ⟨done', by rw [scanAll, hs, hscan']; exact hdone', hothers⟩
      · have hstep := others_add_of_ne hs heq scan
        obtain ⟨done', hdone', hothers⟩ := scanAll_others hreads hanswers hstep h
        exact ⟨done', by rw [scanAll, hreads s hs, hscan]; exact hdone', hothers⟩

theorem postScreener_others {reads reads' : String → Reads} (hreads : ∀ s, s ≠ sym → reads' s = reads s)
    (hanswers : Answers (scanCsp probItm today body sym (reads' sym))) {db : Bool} {before : ScreenerAnswer}
    (h : postScreener probItm today db body reads = .ok (.answer before)) :
    ∃ after, postScreener probItm today db body reads' = .ok (.answer after) ∧ SameForOthers sym before after := by
  unfold postScreener at h ⊢
  split at h
  · cases h
  · rename_i hdb
    split at h
    · cases h
    · rename_i htype
      split at h
      · cases h
      · rename_i hsymbols
        rw [if_neg hdb, if_neg htype, if_neg hsymbols]
        split at h
        · cases h
        · rename_i acc hacc
          obtain ⟨acc', hacc', hothers⟩ := scanAll_others hreads hanswers rfl hacc
          simp only [others, Prod.mk.injEq] at hothers
          obtain ⟨hgroups, hfailed, hwarnings⟩ := hothers
          obtain rfl := Response.answer.inj (Except.ok.inj h)
          rw [hacc']
          refine ⟨_, rfl, ?_, hfailed, hwarnings⟩
          refine ((List.mergeSort_perm _ _).filter _).trans ?_
          rw [hgroups]
          exact ((List.mergeSort_perm _ _).filter _).symm

/-- **Main.** A further row costs no symbol its answer and no other row its contract exactly when the extended
chain can be read. -/
theorem scanCsp_isolated (reads : String → Reads) (rows₁ : List Row) (row : Row) (rows₂ : List Row) :
    Isolated probItm today body reads sym rows₁ row rows₂ ↔
      ScanReadable probItm today body sym (reads sym) (rows₁ ++ row :: rows₂) := by
  have hanswers := @answers_scanCsp probItm today body sym (reads sym) (rows₁ ++ row :: rows₂) (by simp)
  constructor
  · exact fun h => hanswers.1 h.answers
  · intro h
    have hscan := hanswers.2 h
    refine ⟨hscan, fun before after hbefore hafter => contracts_insert hbefore hafter, fun db before hbefore => ?_⟩
    refine postScreener_others (fun s hs => ?_) ?_ hbefore
    · simp [rowsOfSymbol, hs]
    · simpa [rowsOfSymbol] using hscan

end

/-! ## A bid that is text -/

def chainRow (sym : String) (bid : Json) : Row :=
  [("contract_key", .str (sym ++ "|OPT|20261016|95.0|P")), ("iv", .float (.fin (2 / 5))), ("bid", bid),
   ("day_close", .float (.fin (6 / 5)))]

/-- Every symbol has one row, whose bid is null. -/
def chainReads (sym : String) : Reads :=
  ⟨some (.float (.fin 100)), .ok ["20261016"], .ok [chainRow sym .null], .ok (⟨none, none, none, none⟩, none)⟩

/-- The model probability on the day of expiry of a put out of the money. -/
def zeroProbItm : ProbItm := fun _ _ _ _ _ _ => .ok (.fin 0)

def twoSymbols : ScreenerRequest := { symbols := ["XYZ", "ABC"] }

/-- The exception that leaves a call. -/
def raised {α : Type} : Except Exc α → Option Exc
  | .error e => some e
  | .ok _ => none

/-- The row raises `ValueError`, and with it a request for two symbols that was answered without it. -/
theorem isolated_fails :
    raised (postScreener zeroProbItm 739905 true twoSymbols
      (rowsOfSymbol chainReads "XYZ" [chainRow "XYZ" .null])) = none ∧
    raised (postScreener zeroProbItm 739905 true twoSymbols
      (rowsOfSymbol chainReads "XYZ" [chainRow "XYZ" .null, chainRow "XYZ" (.str "n/a")])) = some .valueError ∧
    ¬ Isolated zeroProbItm 739905 twoSymbols chainReads "XYZ" [chainRow "XYZ" .null]
      (chainRow "XYZ" (.str "n/a")) [] := by
  refine ⟨by decide +kernel, by decide +kernel, fun h => ?_⟩
  obtain ⟨scan, hscan⟩ := h.answers
  have hraised : raised (scanCsp zeroProbItm 739905 twoSymbols "XYZ" (withRows (chainReads "XYZ")
      ([chainRow "XYZ" .null] ++ chainRow "XYZ" (.str "n/a") :: []))) = some .valueError := by decide +kernel
  rw [hscan] at hraised
  cases hraised

end BifrostApi.Research
