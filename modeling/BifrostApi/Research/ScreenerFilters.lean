import BifrostApi.Research.Screener

/-!
# The filters of the option screener (`research/routers/screener.py`, `_scan_csp`)

A sent filter holds of every contract of the answer on a measured value, or the warning says that it was not
applied. The spread filter keeps to this (:416-423). The annualized filter lets a contract pass that has no
annualized return (:362), the probability filter one whose probability is the constant 0.5 (:347), and the
warning speaks of neither (`filtersHold_fails`).

Numbers are rational here (`Exact`); the values compared are those before rounding.
-/

namespace BifrostApi.Research

open Py

/-! ## What is promised -/

/-- The warning gives the number of contracts the spread filter was not applied to. -/
def SpreadWarned (warning : Option String) (g : Group) : Prop :=
  ∃ rest, warning = some (spreadNote (unquoted g) g.contracts.length ++ rest)

/-- The probability comes from the model or from a delta. -/
def ProbMeasured (c : Candidate) : Prop :=
  (∃ v, c.priced.iv = some v ∧ (Number.fin 0).lt v = true) ∨ c.contract.delta ≠ none

/-- The contract satisfies every filter that was sent. -/
structure FiltersHold (body : ScreenerRequest) (warning : Option String) (g : Group) (c : Candidate) : Prop where
  dteMin : ∀ m, body.dteMin = some m → m ≤ c.priced.key.dte
  dteMax : ∀ m, body.dteMax = some m → c.priced.key.dte ≤ m
  maxProbItm : ∀ m, body.maxProbItm = some m → c.priced.probItm.le m = true ∧ ProbMeasured c
  minPremium : ∀ m, body.minPremium = some m → m.le c.priced.premium = true
  minAnnualizedReturn : ∀ m, body.minAnnualizedReturn = some m →
    ∃ a, c.priced.annualized = some a ∧ m.le a = true
  maxSpreadPct : ∀ m, body.maxSpreadPct = some m →
    (∃ s, c.priced.spreadPct = some s ∧ s.le m = true) ∨
    ((c.priced.quote.bid = none ∨ c.priced.quote.ask = none) ∧ c.contract.spreadPct = none ∧ SpreadWarned warning g)

/-- The fields of a row that are read as numbers. -/
def numericFields : List String := ["bid", "ask", "mid", "day_close", "iv", "delta", "underlying_price"]

/-- The numbers of the request, the spot and the rows are rational, and so is a model probability of such. -/
structure Exact (probItm : ProbItm) (body : ScreenerRequest) (reads : Reads) : Prop where
  limits : ∀ limit ∈ [body.maxProbItm, body.minAnnualizedReturn, body.maxSpreadPct, body.minPremium],
    ∀ m, limit = some m → m.Finite
  fallback : ∀ j x, reads.fallback = some j → j.toFloat = .ok x → x.Finite
  fields : ∀ rows, reads.rows = .ok rows → ∀ row ∈ rows, ∀ k ∈ numericFields, ∀ j x,
    field row k = some j → j.toFloat = .ok x → x.Finite
  strikes : ∀ rows, reads.rows = .ok rows → ∀ row ∈ rows, ∀ ck strike right,
    keyText row = .ok ck → parseContractKey ck = some (strike, right) → strike.Finite
  probItm : ∀ spot strike t rate iv right x, spot.Finite → strike.Finite → t.Finite → rate.Finite → iv.Finite →
    probItm spot strike t rate iv right = .ok x → x.Finite

/-- A row of the answer that the filters of the scan let through. -/
structure Passes (probItm : ProbItm) (today : Int) (body : ScreenerRequest) (sym : String) (reads : Reads)
    (row : Row) (key : Key) : Prop where
  answered : ∃ rows, reads.rows = .ok rows ∧ row ∈ rows
  passes : ∃ w p, WindowIs body sym today reads w ∧ Measured probItm body w row p ∧ p.key = key

/-- What the filters that were sent look at can be measured: a return needs days and a positive strike, a
probability a positive volatility or a delta. -/
structure Measurable (body : ScreenerRequest) (row : Row) (key : Key) : Prop where
  annualized : body.minAnnualizedReturn.isSome → 0 < key.dte ∧ (Number.fin 0).lt key.strike = true
  probItm : body.maxProbItm.isSome →
    (∃ v, readGuarded (field row "iv") = .ok (some v) ∧ (Number.fin 0).lt v = true) ∨ field row "delta" ≠ none

/-! ## The DTE window -/

theorem keyedPut_ok {w : Window} {row : Row} {key : Key} (h : keyedPut w row = .ok (some key)) :
    ∃ ck right, keyText row = .ok ck ∧ parseContractKey ck = some (key.strike, right) ∧
      w.keyMeta.lookup ck = some (key.exp, key.dte) := by
  unfold keyedPut at h
  split at h
  · cases h
  · rename_i ck hck
    split at h
    · rename_i strike right hparse
      simp only [Except.ok.injEq, Option.ite_none_right_eq_some, Option.map_eq_some_iff] at h
      obtain ⟨-, m, hm, rfl⟩ := h
      exact ⟨ck, right, hck, hparse, hm⟩
    · cases h

theorem dteWindow_of_keyedPut {body : ScreenerRequest} {sym : String} {today : Int} {reads : Reads} {w : Window}
    {row : Row} {key : Key} (hw : WindowIs body sym today reads w) (h : keyedPut w row = .ok (some key)) :
    InDteWindow body today key.exp key.dte := by
  obtain ⟨raw, strikes, -, -, -, -, hmeta⟩ := hw.keys
  obtain ⟨ck, right, -, -, hlookup⟩ := keyedPut_ok h
  exact ((hmeta ck key.exp key.dte).1 hlookup).2.1

/-! ## The values compared are rational -/

section

variable {probItm : ProbItm} {body : ScreenerRequest} {sym : String} {today : Int} {reads : Reads} {rows : List Row}
  {w : Window} {row : Row} {p : Priced}

theorem toFloat_of_readFloat {v : Option Json} {x : Number} (h : readFloat v = .ok (some x)) :
    ∃ j, v = some j ∧ j.toFloat = .ok x := by
  unfold readFloat at h
  split at h
  · cases h
  · rename_i j
    refine ⟨j, rfl, ?_⟩
    cases hj : j.toFloat with
    | error e => rw [hj] at h; cases h
    | ok y => rw [hj] at h; cases h; rfl

/-- What the guarded and the unguarded reads of a row's numeric fields give. -/
structure ReadsFinite (row : Row) : Prop where
  guarded : ∀ k ∈ numericFields, ∀ x, readGuarded (field row k) = .ok (some x) → x.Finite
  unguarded : ∀ k ∈ numericFields, ∀ x, readFloat (field row k) = .ok (some x) → x.Finite

theorem Exact.readsFinite (hexact : Exact probItm body reads) (hrows : reads.rows = .ok rows) (hrow : row ∈ rows) :
    ReadsFinite row where
  guarded k hk x h := by
    obtain ⟨j, hj, hx⟩ := toFloat_of_readGuarded.1 h
    exact hexact.fields rows hrows row hrow k hk j x hj hx
  unguarded k hk x h := by
    obtain ⟨j, hj, hx⟩ := toFloat_of_readFloat h
    exact hexact.fields rows hrows row hrow k hk j x hj hx

theorem midOf_finite (hreads : ReadsFinite row) {bid ask : Option Number} (hbid : ∀ b, bid = some b → b.Finite)
    (hask : ∀ a, ask = some a → a.Finite) {mid : Number} {basis : String}
    (h : midOf row bid ask = .ok (some (mid, basis))) : mid.Finite := by
  unfold midOf at h
  split at h
  · cases h
  · rename_i hm
    cases h
    exact hreads.guarded "mid" (by decide) mid hm
  · split at h
    · cases h
      exact ((hbid _ rfl).add (hask _ rfl)).div (Number.finite_fin 2)
    · split at h
      · cases h
      · rename_i close hclose
        simp only [Except.ok.injEq, Option.map_eq_some_iff, Prod.mk.injEq] at h
        obtain ⟨m, hm, hmid, -⟩ := h
        exact hmid ▸ hreads.guarded "day_close" (by decide) m (hm ▸ hclose)

theorem quoteOf_finite (hreads : ReadsFinite row) {q : Quote} (h : quoteOf row = .ok (some q)) :
    q.mid.Finite ∧ (∀ b, q.bid = some b → b.Finite) ∧ ∀ a, q.ask = some a → a.Finite := by
  unfold quoteOf at h
  split at h
  · cases h
  · rename_i bid hbid
    split at h
    · cases h
    · rename_i ask hask
      have hbid' : ∀ b, bid = some b → b.Finite := fun b hb =>
        hreads.unguarded "bid" (by decide) b (hb ▸ hbid)
      have hask' : ∀ a, ask = some a → a.Finite := fun a ha =>
        hreads.unguarded "ask" (by decide) a (ha ▸ hask)
      split at h
      · cases h
      · cases h
      · rename_i mid basis hmid
        simp only [Except.ok.injEq, Option.ite_none_left_eq_some, Option.some.injEq] at h
        obtain ⟨-, rfl⟩ := h
        exact ⟨midOf_finite hreads hbid' hask' hmid, hbid', hask'⟩

theorem spreadPctOf_eq_none {q : Quote} : spreadPctOf q = none ↔ q.bid = none ∨ q.ask = none := by
  unfold spreadPctOf
  cases q.bid <;> cases q.ask <;> simp

theorem spreadPctOf_finite {q : Quote} (hmid : q.mid.Finite) (hbid : ∀ b, q.bid = some b → b.Finite)
    (hask : ∀ a, q.ask = some a → a.Finite) {s : Number} (h : spreadPctOf q = some s) : s.Finite := by
  unfold spreadPctOf at h
  split at h
  · rename_i b a hb ha
    cases h
    exact ((hask a ha).sub (hbid b hb)).div hmid
  · cases h

theorem contractSpotOf_finite (hreads : ReadsFinite row) (hspot : w.spot.Finite) {x : Number}
    (h : contractSpotOf w row = .ok (some x)) : x.Finite := by
  unfold contractSpotOf at h
  split at h
  · cases h
  · rename_i up hup
    simp only [Except.ok.injEq, Option.ite_none_left_eq_some, Option.some.injEq] at h
    obtain ⟨-, rfl⟩ := h
    cases up with
    | none => exact hspot
    | some x => exact hreads.guarded "underlying_price" (by decide) x hup

theorem absDelta_finite {d : Number} (hd : d.Finite) : (absDelta d).Finite := by
  obtain ⟨q, rfl⟩ := hd
  unfold absDelta
  split
  · exact Number.finite_fin _
  · exact Number.finite_fin 1

theorem probItmOf_finite (hexact : Exact probItm body reads) (hreads : ReadsFinite row) {spot x : Number}
    {key : Key} {iv : Option Number} (hspot : spot.Finite) (hstrike : key.strike.Finite)
    (hiv : readGuarded (field row "iv") = .ok iv)
    (h : probItmOf probItm spot key iv (field row "delta") = .ok x) : x.Finite := by
  unfold probItmOf at h
  split at h
  · rename_i v hv
    have hv' : v.Finite := hreads.guarded "iv" (by decide) v ((Option.filter_eq_some_iff.1 hv).1 ▸ hiv)
    exact hexact.probItm _ _ _ _ _ _ x hspot hstrike (Number.finite_fin _) (Number.finite_fin _) hv' h
  · split at h
    · cases h
    · rename_i d hd
      cases h
      exact absDelta_finite (hreads.guarded "delta" (by decide) d hd)
    · cases h
      exact Number.finite_fin _

theorem Priced.annualized_finite (hmid : p.quote.mid.Finite) (hstrike : p.key.strike.Finite) {a : Number}
    (h : p.annualized = some a) : a.Finite := by
  unfold Priced.annualized at h
  obtain ⟨-, heq⟩ := Option.ite_none_right_eq_some.1 h
  obtain rfl := Option.some.inj heq
  have hpremium : p.premium.Finite := hmid.mul (Number.finite_fin 100)
  have hmargin : p.margin.Finite := hstrike.mul (Number.finite_fin 100)
  exact (hpremium.div hmargin).mul ((Number.finite_fin 365).div (Number.finite_fin _))

/-- What the filters compare. -/
structure ValuesFinite (p : Priced) : Prop where
  probItm : p.probItm.Finite
  premium : p.premium.Finite
  annualized : ∀ a, p.annualized = some a → a.Finite
  spreadPct : ∀ s, p.spreadPct = some s → s.Finite

theorem Measured.finite (hexact : Exact probItm body reads) (hw : WindowIs body sym today reads w)
    (hrows : reads.rows = .ok rows) (hrow : row ∈ rows) (h : Measured probItm body w row p) : ValuesFinite p := by
  have hreads : ReadsFinite row := hexact.readsFinite hrows hrow
  obtain ⟨j, hj, hx, -⟩ := hw.spot
  have hwspot : w.spot.Finite := hexact.fallback j w.spot hj hx
  obtain ⟨ck, right, hck, hparse, -⟩ := keyedPut_ok h.key
  have hstrike : p.key.strike.Finite := hexact.strikes rows hrows row hrow ck p.key.strike right hck hparse
  obtain ⟨hmid, hbid, hask⟩ := quoteOf_finite hreads h.quote
  have hpspot : p.spot.Finite := contractSpotOf_finite hreads hwspot h.spot
  exact ⟨probItmOf_finite hexact hreads hpspot hstrike h.iv h.probItm, hmid.mul (Number.finite_fin 100),
    fun a ha => p.annualized_finite hmid hstrike ha, fun s hs => spreadPctOf_finite hmid hbid hask hs⟩

end

/-! ## The answer -/

section

variable {probItm : ProbItm} {body : ScreenerRequest} {sym : String} {today : Int} {reads : Reads} {g : Group}
  {warning : Option String}

theorem le_of_above {limit : Option Number} {x m : Number} (hm : m.Finite) (hx : x.Finite) (hlimit : limit = some m)
    (h : above limit x = false) : x.le m = true := by
  subst hlimit
  exact Number.le_of_not_lt hm hx h

theorem le_of_below {limit : Option Number} {x m : Number} (hm : m.Finite) (hx : x.Finite) (hlimit : limit = some m)
    (h : below limit x = false) : m.le x = true := by
  subst hlimit
  exact Number.le_of_not_lt hx hm h

theorem Priced.annualized_isSome {p : Priced} :
    p.annualized ≠ none ↔ 0 < p.key.dte ∧ (Number.fin 0).lt p.key.strike = true := by
  have hmargin : (Number.fin 0).lt p.margin = (Number.fin 0).lt p.key.strike := Number.zero_lt_mul (by decide)
  unfold Priced.annualized
  rw [hmargin]
  by_cases h : (Number.fin 0).lt p.key.strike = true ∧ 0 < p.key.dte
  · rw [if_pos h]
    exact iff_of_true (by simp) h.symm
  · rw [if_neg h]
    exact iff_of_false (by simp) fun h' => h h'.symm

theorem join_cons (sep p : String) (ps : List String) : ∃ rest, join sep (p :: ps) = p ++ rest := by
  cases ps with
  | nil => exact ⟨"", by simp [join]⟩
  | cons q ps => exact ⟨sep ++ join sep (q :: ps), by simp [join, String.append_assoc]⟩

theorem spreadNote_ne_empty (unquoted total : Nat) : spreadNote unquoted total ≠ "" := by
  unfold spreadNote
  simp only [String.append_assoc]
  exact append_ne_empty (by decide)

/-- With the spread filter sent and a contract without a spread, the warning counts it. -/
theorem spreadWarned (ivNote : Option String) (hsent : body.maxSpreadPct.isSome) {c : Candidate}
    (hc : c ∈ g.contracts) (hspread : c.contract.spreadPct = none) : SpreadWarned (warningOf body g ivNote) g := by
  have hcount : unquoted g ≠ 0 := by
    unfold unquoted
    rw [Ne, List.countP_eq_zero]
    exact fun h => h c hc (by simp [hspread])
  have hnotes : notesOf body g ivNote =
      spreadNote (unquoted g) g.contracts.length :: (ivNote.filter (· ≠ "")).toList := by
    simp [notesOf, hsent, hcount]
  obtain ⟨rest, hjoin⟩ :=
    join_cons "; " (spreadNote (unquoted g) g.contracts.length) (ivNote.filter (· ≠ "")).toList
  refine ⟨rest, ?_⟩
  have hne : spreadNote (unquoted g) g.contracts.length ++ rest ≠ "" := append_ne_empty (spreadNote_ne_empty _ _)
  rw [warningOf, hnotes, hjoin, if_neg hne]

/-- The contracts of the answer are the rows the filters let through. -/
theorem mem_contracts (h : scanCsp probItm today body sym reads = .ok (some g, warning)) :
    ∃ w rows ivPct, windowOf body sym today reads = .ok (.ok w) ∧ reads.rows = .ok rows ∧
      (∀ c ∈ g.contracts, ∃ row ∈ rows, ∃ p, Measured probItm body w row p ∧
        contractOf sym ivPct row p = .ok (some c)) ∧
      ∀ row ∈ rows, ∀ p, Measured probItm body w row p →
        ∃ c ∈ g.contracts, contractOf sym ivPct row p = .ok (some c) := by
  obtain ⟨w, rows, reading, ivNote, cs, hw, hrows, hcs, hg, -⟩ := scanCsp_eq_some h
  refine ⟨w, rows, reading.ivPercentile, hw, hrows, fun c hc => ?_, fun row hrow p hp => ?_⟩
  · rw [(groupOf_eq_some hg).2, mem_sortByScore] at hc
    obtain ⟨row, hrow, hscan⟩ := (Stage.mem_collect hcs).1 hc
    obtain ⟨p, hp, hcontract⟩ := Stage.next_eq_some.1 hscan
    exact ⟨row, hrow, p, priceRow_measured hp, hcontract⟩
  · have hanswers : Stage.Answers (scanRow probItm body w sym reading.ivPercentile row) :=
      Stage.answers_collect.1 ⟨cs, hcs⟩ row hrow
    have hprice := hp.priceRow
    obtain ⟨c, hc⟩ := contractOf_some ((Stage.answers_next.1 hanswers).2 p hprice)
    refine ⟨c, ?_, hc⟩
    rw [(groupOf_eq_some hg).2, mem_sortByScore, Stage.mem_collect hcs]
    exact ⟨row, hrow, Stage.next_eq_some.2 ⟨p, hprice, hc⟩⟩

/-- A measurable row that passes gives a contract that keeps the filters. -/
theorem filtersHold_of_measurable (hexact : Exact probItm body reads) {w : Window} {rows : List Row} {row : Row}
    {p : Priced} {c : Candidate} {ivPct ivNote} (hw : WindowIs body sym today reads w)
    (hrows : reads.rows = .ok rows) (hrow : row ∈ rows) (hp : Measured probItm body w row p)
    (hc : contractOf sym ivPct row p = .ok (some c)) (hmem : c ∈ g.contracts)
    (hmeasurable : Measurable body row p.key) : FiltersHold body (warningOf body g ivNote) g c := by
  obtain ⟨rfl, hspread, hdelta⟩ := contractOf_eq_some hc
  have hfinite := hp.finite hexact hw hrows hrow
  have hin := dteWindow_of_keyedPut hw hp.key
  have hlimit := hexact.limits
  refine ⟨hin.dteMin, hin.dteMax, fun m hm => ⟨?_, ?_⟩, fun m hm => ?_, fun m hm => ?_, fun m hm => ?_⟩
  · exact le_of_above (hlimit _ (by simp) m hm) hfinite.probItm hm hp.maxProbItm
  · rcases hmeasurable.probItm (by simp [hm]) with ⟨v, hv, hpos⟩ | hdelta'
    · exact Or.inl ⟨v, Except.ok.inj (hp.iv.symm.trans hv), hpos⟩
    · exact Or.inr fun h => hdelta' (hdelta.1 h)
  · exact le_of_below (hlimit _ (by simp) m hm) hfinite.premium hm hp.minPremium
  · have hsome : c.priced.annualized ≠ none := Priced.annualized_isSome.2 (hmeasurable.annualized (by simp [hm]))
    obtain ⟨a, ha⟩ := Option.ne_none_iff_exists'.1 hsome
    have hcut := hp.minAnnualizedReturn
    rw [ha] at hcut
    exact ⟨a, ha, le_of_below (hlimit _ (by simp) m hm) (hfinite.annualized a ha) hm hcut⟩
  · cases hs : c.priced.spreadPct with
    | none =>
      have hnone : c.contract.spreadPct = none := by rw [hspread, hs]; rfl
      exact Or.inr ⟨spreadPctOf_eq_none.1 hs, hnone, spreadWarned ivNote (by simp [hm]) hmem hnone⟩
    | some s =>
      have hcut := hp.spreadPct
      rw [hs] at hcut
      exact Or.inl ⟨s, rfl, le_of_above (hlimit _ (by simp) m hm) (hfinite.spreadPct s hs) hm hcut⟩

/-- **Main.** Every contract of the answer keeps every filter that was sent, on a measured value or with the
warning, exactly when what the filters look at can be measured of every row that passes them. -/
theorem scanCsp_filtersHold (hexact : Exact probItm body reads)
    (h : scanCsp probItm today body sym reads = .ok (some g, warning)) :
    (∀ c ∈ g.contracts, FiltersHold body warning g c) ↔
      ∀ row key, Passes probItm today body sym reads row key → Measurable body row key := by
  obtain ⟨w, rows, ivPct, hw, hrows, hcontract, hrow⟩ := mem_contracts h
  obtain ⟨-, -, -, ivNote, -, -, -, -, -, hwarning⟩ := scanCsp_eq_some h
  subst hwarning
  have hwindow := windowOf_window hw
  constructor
  · rintro hold row key ⟨⟨rows', hrows', hmem⟩, w', p, hw', hp, rfl⟩
    cases hrows.symm.trans hrows'
    obtain ⟨w'', hw'', hsame⟩ := hw'.windowOf
    cases hw.symm.trans hw''
    have hmeasured := hsame.measured.2 hp
    obtain ⟨c, hc, hcp⟩ := hrow row hmem p hmeasured
    obtain ⟨rfl, -, hdelta⟩ := contractOf_eq_some hcp
    have hc' := hold c hc
    refine ⟨fun hsent => ?_, fun hsent => ?_⟩
    · obtain ⟨m, hm⟩ := Option.isSome_iff_exists.1 hsent
      obtain ⟨a, ha, -⟩ := hc'.minAnnualizedReturn m hm
      exact Priced.annualized_isSome.1 (by simp [ha])
    · obtain ⟨m, hm⟩ := Option.isSome_iff_exists.1 hsent
      rcases (hc'.maxProbItm m hm).2 with ⟨v, hv, hpos⟩ | hdelta'
      · exact Or.inl ⟨v, hv ▸ hmeasured.iv, hpos⟩
      · exact Or.inr fun h => hdelta' (hdelta.2 h)
  · intro hmeasurable c hc
    obtain ⟨row, hmem, p, hmeasured, hcp⟩ := hcontract c hc
    exact filtersHold_of_measurable hexact hwindow hrows hmem hmeasured hcp hc
      (hmeasurable row p.key ⟨⟨rows, hrows, hmem⟩, w, p, hwindow, hmeasured, rfl⟩)

end

/-! ## A put that expires today -/

/-- The model probability on the day of expiry: 1 or 0 by moneyness. -/
def expiryProbItm : ProbItm := fun spot strike _ _ _ _ => .ok (.fin (if spot.lt strike then 1 else 0))

def expiryDay : Int := 739905

/-- No quotes, only a session close. -/
def expiringRow : Row :=
  [("contract_key", .str "XYZ|OPT|20261016|95.0|P"), ("iv", .float (.fin (2 / 5))),
   ("day_close", .float (.fin (6 / 5))), ("underlying_price", .float (.fin 100))]

def expiringReads : Reads :=
  ⟨some (.float (.fin 100)), .ok ["20261016"], .ok [expiringRow], .ok (⟨none, none, none, none⟩, none)⟩

def withSpread : ScreenerRequest := { symbols := ["XYZ"], maxSpreadPct := some (.fin (1 / 20)) }

def withReturn : ScreenerRequest := { symbols := ["XYZ"], minAnnualizedReturn := some (.fin (1 / 10)) }

/-- The scan answers a group, and `check` holds of it and of the warning. -/
def answers (check : Group → Option String → Bool) : Except Exc Scan → Bool
  | .ok (some g, warning) => check g warning
  | .ok (none, _) | .error _ => false

theorem answers_iff {check : Group → Option String → Bool} {scan : Except Exc Scan} :
    answers check scan = true ↔ ∃ g warning, scan = .ok (some g, warning) ∧ check g warning = true := by
  match scan with
  | .ok (some g, warning) => simp [answers]
  | .ok (none, _) => simp [answers]
  | .error _ => simp [answers]

theorem expiringReads_exact : Exact expiryProbItm withSpread expiringReads where
  limits limit hlimit m hm := by
    simp only [withSpread, List.mem_cons, List.not_mem_nil, or_false] at hlimit
    rcases hlimit with rfl | rfl | rfl | rfl <;> cases hm
    exact Number.finite_fin _
  fallback j x hj hx := by
    cases hj
    cases hx
    exact Number.finite_fin _
  fields rows hrows row hrow k hk j x hj hx := by
    cases hrows
    obtain rfl := List.mem_singleton.1 hrow
    simp only [numericFields, List.mem_cons, List.not_mem_nil, or_false] at hk
    rcases hk with rfl | rfl | rfl | rfl | rfl | rfl | rfl <;> cases hj <;> cases hx <;> exact Number.finite_fin _
  strikes rows hrows row hrow ck strike right hck hparse := by
    cases hrows
    obtain rfl := List.mem_singleton.1 hrow
    cases hck
    have hkey : parseContractKey "XYZ|OPT|20261016|95.0|P" = some (.fin 95, "P") := by decide +kernel
    cases hkey.symm.trans hparse
    exact Number.finite_fin _
  probItm _ _ _ _ _ _ x _ _ _ _ _ h := by
    cases h
    exact Number.finite_fin _

theorem scanCsp_filtersHold_unquoted : ∃ g warning,
    scanCsp expiryProbItm expiryDay withSpread "XYZ" expiringReads = .ok (some g, warning) ∧
    ((∀ c ∈ g.contracts, FiltersHold withSpread warning g c) ↔
      ∀ row key, Passes expiryProbItm expiryDay withSpread "XYZ" expiringReads row key →
        Measurable withSpread row key) := by
  have hscan : answers (fun _ _ => true)
      (scanCsp expiryProbItm expiryDay withSpread "XYZ" expiringReads) = true := by decide +kernel
  obtain ⟨g, warning, h, -⟩ := answers_iff.1 hscan
  exact ⟨g, warning, h, scanCsp_filtersHold expiringReads_exact h⟩

/-- With a least annualized return sent, a contract without one is answered, and no warning with it. -/
theorem filtersHold_fails : ∃ g,
    scanCsp expiryProbItm expiryDay withReturn "XYZ" expiringReads = .ok (some g, none) ∧
    ¬ ∀ c ∈ g.contracts, FiltersHold withReturn none g c := by
  have hscan : answers (fun g warning => g.contracts.any (fun c => c.priced.annualized.isNone) && warning.isNone)
      (scanCsp expiryProbItm expiryDay withReturn "XYZ" expiringReads) = true := by decide +kernel
  obtain ⟨g, warning, h, hcheck⟩ := answers_iff.1 hscan
  simp only [Bool.and_eq_true, List.any_eq_true, Option.isNone_iff_eq_none] at hcheck
  obtain ⟨⟨c, hc, hnone⟩, rfl⟩ := hcheck
  refine ⟨g, h, fun hold => ?_⟩
  obtain ⟨a, ha, -⟩ := (hold c hc).minAnnualizedReturn _ rfl
  rw [hnone] at ha
  cases ha

end BifrostApi.Research
