import BifrostApi.Research.PcrTrend

/-!
# The chain by expiry, and the merge

The three loops over the chain rows under one `try`. Without an error the entries are those of the kept rows in the
order of their expiry, and the date is the latest of both series and the snapshots; with one, entries or the
snapshot days are missing.
-/

namespace BifrostApi.Research.StockOptionPcr

open Py Latest Loop StableSort

/-! ## The largest counts -/

theorem foldl_max_ge {f : ChainRow → Int} (rows : List ChainRow) (m : Int) :
    m ≤ rows.foldl (fun m r => max m (f r)) m ∧ ∀ r ∈ rows, f r ≤ rows.foldl (fun m r => max m (f r)) m := by
  induction rows generalizing m with
  | nil => exact ⟨le_refl m, fun r hr => absurd hr List.not_mem_nil⟩
  | cons row rows ih =>
    obtain ⟨hstart, hrows⟩ := ih (max m (f row))
    refine ⟨(le_max_left _ _).trans hstart, List.forall_mem_cons.2 ⟨(le_max_right _ _).trans hstart, hrows⟩⟩

theorem one_le_largest (f : ChainRow → Int) (chain : List ChainRow) : 1 ≤ largest f chain := (foldl_max_ge chain 1).1

theorem le_largest {f : ChainRow → Int} {chain : List ChainRow} {r : ChainRow} (hr : r ∈ chain) :
    f r ≤ largest f chain := (foldl_max_ge chain 1).2 r hr

/-! ## Bars -/

def pct (x max : Int) : Number := .fin (Number.roundRat 1 (x / max * 100))

theorem barPct_of_quotient {x m : Int} (hm : 1 ≤ m) (h : FloatQuotient x m) : barPct x m = .ok (pct x m) := by
  rw [barPct, if_neg (by omega), intDiv, if_neg (not_le.2 h)]
  rfl

theorem barPct_error {x m : Int} (hm : 1 ≤ m) (h : ¬ FloatQuotient x m) : barPct x m = .error .overflowError := by
  rw [barPct, if_neg (by omega), intDiv, if_pos (not_lt.1 h)]
  rfl

theorem floatQuotient_of_count {x m : Int} (hm : 1 ≤ m) (h : FloatCount x) : FloatQuotient x m := by
  have hm' : (1 : ℚ) ≤ m := Int.cast_le.2 hm
  refine lt_of_le_of_lt ?_ h
  rw [abs_div, abs_of_pos (lt_of_lt_of_le one_pos hm')]
  exact div_le_self (abs_nonneg _) hm'

theorem isPct_pct {x m : Int} (hm : 1 ≤ m) (hx : 0 ≤ x) (hxm : x ≤ m) : IsPct (pct x m) := by
  have hm' : (0 : ℚ) < m := lt_of_lt_of_le one_pos (Int.cast_le.2 hm : ((1 : Int) : ℚ) ≤ m)
  have hx' : (0 : ℚ) ≤ x := Int.cast_nonneg hx
  have hxm' : (x : ℚ) ≤ m := Int.cast_le.2 hxm
  have hquot : (x / m : ℚ) ≤ 1 := (div_le_one hm').2 hxm'
  have hlow : (0 : ℚ) ≤ x / m * 100 := mul_nonneg (div_nonneg hx' hm'.le) (by norm_num)
  have hhigh : (x / m * 100 : ℚ) ≤ 100 := by linarith
  have hzero : Number.roundRat 1 0 = 0 := by decide +kernel
  have hfull : Number.roundRat 1 100 = 100 := by decide +kernel
  exact ⟨_, rfl, hzero.symm.trans_le (Number.roundRat_mono hlow), (Number.roundRat_mono hhigh).trans_eq hfull⟩

/-! ## Reading the chain -/

section

variable {container : Json → String} {today : Date} {chain : List ChainRow}

theorem mem_dated {x : Date × ChainRow} :
    x ∈ dated container chain ↔ x.2 ∈ chain ∧ expiryDate? container x.2.expiry = some x.1 := by
  obtain ⟨d, r⟩ := x
  rw [dated, List.mem_filterMap]
  constructor
  · rintro ⟨r', hr', h⟩
    obtain ⟨d', hd', heq⟩ := Option.map_eq_some_iff.1 h
    obtain ⟨rfl, rfl⟩ := Prod.mk.inj heq
    exact ⟨hr', hd'⟩
  · rintro ⟨hr, hd⟩
    exact ⟨r, hr, by rw [hd]; rfl⟩

/-- What is read of a row. -/
def parsedRow (container : Json → String) (today : Date) (x : Date × ChainRow) : ParsedRow where
  expiry := expiryText container x.2.expiry
  expiryDate := x.1
  expirationLabel := expirationLabel x.1
  dte := x.1.ordinal - today.ordinal
  putVol := x.2.putVolCount
  callVol := x.2.callVolCount
  totalVol := x.2.totalVol
  pcVol := ratioOf (x.2.putVolCount, x.2.callVolCount)
  putOi := x.2.putOiCount
  callOi := x.2.callOiCount
  totalOi := x.2.totalOi
  pcOi := ratioOf (x.2.putOiCount, x.2.callOiCount)

/-- A turn of the second loop that does not raise. -/
def readRow (container : Json → String) (today : Date) (acc : Option Date × List ParsedRow) (r : ChainRow) :
    Option Date × List ParsedRow :=
  match expiryDate? container r.expiry with
  | none => acc
  | some d => (match snapDate? container r.snapDay with
    | some sd => some (later acc.1 sd)
    | none => acc.1, acc.2 ++ [parsedRow container today (d, r)])

theorem chainStep_of_float {r : ChainRow} (h : ∀ d, expiryDate? container r.expiry = some d → r.FloatCounts)
    (acc : Option Date × List ParsedRow) : chainStep container today acc r = .ok (readRow container today acc r) := by
  rw [chainStep, readRow]
  cases hd : expiryDate? container r.expiry with
  | none => rfl
  | some d =>
    obtain ⟨hoi, hvol⟩ := h d hd
    simp only [pcRatio_eq, if_pos hoi, if_pos hvol]
    rfl

theorem chainStep_error {r : ChainRow} {d : Date} (hd : expiryDate? container r.expiry = some d)
    (h : ¬ r.FloatCounts) (acc : Option Date × List ParsedRow) : ∃ e, chainStep container today acc r = .error e := by
  rw [chainStep, hd]
  simp only [pcRatio_eq]
  by_cases hvol : FloatCount r.putVolCount ∧ FloatCount r.callVolCount
  · by_cases hoi : FloatCount r.putOiCount ∧ FloatCount r.callOiCount
    · exact absurd ⟨hoi, hvol⟩ h
    · rw [if_pos hvol, if_neg hoi]
      exact ⟨_, rfl⟩
  · rw [if_neg hvol]
    exact ⟨_, rfl⟩

theorem foldl_readRow (rows : List ChainRow) (snapshot : Option Date) (parsed : List ParsedRow) :
    rows.foldl (readRow container today) (snapshot, parsed) =
      (latest snapshot (snapDays container rows),
        parsed ++ (dated container rows).map (parsedRow container today)) := by
  induction rows generalizing snapshot parsed with
  | nil => exact congrArg (Prod.mk snapshot) (List.append_nil parsed).symm
  | cons r rows ih =>
    rw [List.foldl_cons, readRow]
    cases hd : expiryDate? container r.expiry with
    | none =>
      have hdated : dated container (r :: rows) = dated container rows := by rw [dated, List.filterMap_cons, hd]; rfl
      simp only [ih, snapDays, hdated]
    | some d =>
      have hdated : dated container (r :: rows) = (d, r) :: dated container rows := by
        rw [dated, List.filterMap_cons, hd]
        rfl
      simp only [ih, snapDays, hdated, List.filterMap_cons, List.map_cons, List.append_assoc, List.singleton_append]
      cases snapDate? container r.snapDay <;> rfl

theorem readChain_of_float (h : ∀ x ∈ dated container chain, x.2.FloatCounts) :
    chain.foldlM (chainStep container today) (none, []) =
      .ok (latest none (snapDays container chain), (dated container chain).map (parsedRow container today)) := by
  rw [foldlM_of_forall fun r hr acc => chainStep_of_float (fun d hd => h (d, r) (mem_dated.2 ⟨hr, hd⟩)) acc,
    foldl_readRow, List.nil_append]

theorem readChain_error (today : Date) {x : Date × ChainRow} (hx : x ∈ dated container chain) (h : ¬ x.2.FloatCounts) :
    ∃ e, chain.foldlM (chainStep container today) (none, []) = .error e :=
  foldlM_of_error (mem_dated.1 hx).1 (chainStep_error (mem_dated.1 hx).2 h) _

/-! ## The entries -/

def entryOf (chain : List ChainRow) (row : ParsedRow) : ChainEntry where
  row := row
  barPutVolPct := pct row.putVol (largest ChainRow.putVolCount chain)
  barCallVolPct := pct row.callVol (largest ChainRow.callVolCount chain)
  barTotalVolPct := pct row.totalVol (largest ChainRow.totalVol chain)
  barPutOiPct := pct row.putOi (largest ChainRow.putOiCount chain)
  barCallOiPct := pct row.callOi (largest ChainRow.callOiCount chain)
  barTotalOiPct := pct row.totalOi (largest ChainRow.totalOi chain)

section

variable {x : Date × ChainRow}

theorem chainEntry_of_quotients (hx : x.2.FloatCounts)
    (hoi : FloatQuotient x.2.totalOi (largest ChainRow.totalOi chain))
    (hvol : FloatQuotient x.2.totalVol (largest ChainRow.totalVol chain)) :
    chainEntry chain (parsedRow container today x) = .ok (entryOf chain (parsedRow container today x)) := by
  have hpct : ∀ {n f}, FloatCount n → barPct n (largest f chain) = .ok (pct n (largest f chain)) := fun h =>
    barPct_of_quotient (one_le_largest _ _) (floatQuotient_of_count (one_le_largest _ _) h)
  simp only [chainEntry, parsedRow, hpct hx.oi.1, hpct hx.oi.2, hpct hx.vol.1, hpct hx.vol.2,
    barPct_of_quotient (one_le_largest _ _) hoi, barPct_of_quotient (one_le_largest _ _) hvol]
  rfl

theorem chainEntry_error (today : Date) (hx : x.2.FloatCounts)
    (h : ¬ (FloatQuotient x.2.totalOi (largest ChainRow.totalOi chain) ∧
      FloatQuotient x.2.totalVol (largest ChainRow.totalVol chain))) :
    ∃ e, chainEntry chain (parsedRow container today x) = .error e := by
  have hpct : ∀ {n f}, FloatCount n → barPct n (largest f chain) = .ok (pct n (largest f chain)) := fun h =>
    barPct_of_quotient (one_le_largest _ _) (floatQuotient_of_count (one_le_largest _ _) h)
  simp only [chainEntry, parsedRow, hpct hx.oi.1, hpct hx.oi.2, hpct hx.vol.1, hpct hx.vol.2]
  by_cases hvol : FloatQuotient x.2.totalVol (largest ChainRow.totalVol chain)
  · have hoi : ¬ FloatQuotient x.2.totalOi (largest ChainRow.totalOi chain) := fun hoi => h ⟨hoi, hvol⟩
    rw [barPct_of_quotient (one_le_largest _ _) hvol, barPct_error (one_le_largest _ _) hoi]
    exact ⟨_, rfl⟩
  · rw [barPct_error (one_le_largest _ _) hvol]
    exact ⟨_, rfl⟩

end

/-- The rows that are kept, by expiry. -/
def sortedRows (container : Json → String) (today : Date) (chain : List ChainRow) : List (Date × ChainRow) :=
  sortAsc Prod.fst (keptRows container today chain)

theorem sort_parsed : sortAsc ParsedRow.expiryDate
      (((dated container chain).map (parsedRow container today)).filter ParsedRow.kept) =
    (sortedRows container today chain).map (parsedRow container today) := by
  have hkept : (ParsedRow.kept ∘ parsedRow container today) = fun x => decide (Kept today x) := by
    funext x
    rw [Bool.eq_iff_iff]
    simp only [Function.comp_apply, ParsedRow.kept, Bool.or_eq_true, decide_eq_true_iff, or_assoc]
    rfl
  rw [List.filter_map, hkept, sortedRows, sortAsc, sortAsc, ← keptRows]
  exact (List.map_mergeSort (f := parsedRow container today) fun _ _ _ _ => rfl).symm

theorem mem_sortedRows {x : Date × ChainRow} :
    x ∈ sortedRows container today chain ↔ x ∈ keptRows container today chain := mem_sortAsc

theorem dated_of_kept {x : Date × ChainRow} (h : x ∈ keptRows container today chain) : x ∈ dated container chain :=
  (List.mem_filter.1 h).1

theorem describes_entryOf (chain : List ChainRow) (x : Date × ChainRow) :
    Describes container today x (entryOf chain (parsedRow container today x)) :=
  ⟨rfl, rfl, rfl, rfl, ⟨rfl, rfl⟩, ⟨rfl, rfl⟩, rfl, rfl, rfl, rfl⟩

theorem bars_entryOf {x : Date × ChainRow} (hx : x.2 ∈ chain) (h : x.2.NonNeg) :
    ∀ b ∈ (entryOf chain (parsedRow container today x)).bars, IsPct b := by
  obtain ⟨⟨hputOi, hcallOi⟩, hputVol, hcallVol⟩ := h
  have hpct : ∀ f : ChainRow → Int, 0 ≤ f x.2 → IsPct (pct (f x.2) (largest f chain)) := fun f hf =>
    isPct_pct (one_le_largest f chain) hf (le_largest hx)
  intro b hb
  simp only [ChainEntry.bars, List.mem_cons, List.not_mem_nil, or_false] at hb
  rcases hb with rfl | rfl | rfl | rfl | rfl | rfl
  · exact hpct ChainRow.putVolCount hputVol
  · exact hpct ChainRow.callVolCount hcallVol
  · exact hpct ChainRow.totalVol (add_nonneg hputVol hcallVol)
  · exact hpct ChainRow.putOiCount hputOi
  · exact hpct ChainRow.callOiCount hcallOi
  · exact hpct ChainRow.totalOi (add_nonneg hputOi hcallOi)

/-- Every kept row has its entry. -/
theorem chainFaithful_entries : ChainFaithful container today chain
    (((sortedRows container today chain).map (parsedRow container today)).map (entryOf chain)) := by
  refine ⟨⟨_, sortAsc_sorted _ _, ?_⟩, ?_⟩
  · rw [← sortedRows, List.map_map, List.forall₂_map_right_iff]
    exact List.forall₂_same.2 fun x _ => describes_entryOf chain x
  · intro hnonneg e he b hb
    rw [List.map_map] at he
    obtain ⟨x, hx, rfl⟩ := List.mem_map.1 he
    have hmem : x.2 ∈ chain := (mem_dated.1 (dated_of_kept (mem_sortedRows.1 hx))).1
    exact bars_entryOf hmem (hnonneg x.2 hmem) b hb

/-- As many entries as rows that are kept. -/
theorem length_of_chainFaithful {entries : List ChainEntry} (h : ChainFaithful container today chain entries) :
    entries.length = (keptRows container today chain).length := by
  obtain ⟨kept, hsorted, hall⟩ := h.rows
  rw [← hall.length_eq, hsorted.perm.length_eq]

theorem chainFaithful_nil : ChainFaithful container today chain [] ↔ keptRows container today chain = [] := by
  constructor
  · intro h
    exact List.eq_nil_of_length_eq_zero (length_of_chainFaithful h).symm
  · intro h
    refine ⟨⟨[], ?_, .nil⟩, fun _ e he => absurd he List.not_mem_nil⟩
    rw [h]
    exact ⟨List.Perm.refl _, .nil, fun _ => rfl⟩

end

/-! ## The chain part -/

theorem moveAsOf_fst (trend : Trend) (basis : Json) (snapshotAsOf : Option Date) :
    (moveAsOf trend basis snapshotAsOf).1 = snapshotAsOf.elim trend.asOf fun sd => some (later trend.asOf sd) := by
  cases snapshotAsOf with
  | none => rfl
  | some sd =>
    rw [moveAsOf, Option.elim_some]
    cases trend.asOf with
    | none => rfl
    | some d =>
      rw [Option.all_some, later]
      by_cases h : d < sd
      · simp [h]
      · simp [h]

section

variable {container : Json → String} {today : Date} {trend : Trend} {q : Responses}

/-- Nothing raises: every kept row has its entry, and the snapshot days count. -/
theorem chainPart_of_readable (trend : Trend) (h : ChainReadable container today q.rows) :
    (chainPart container today trend q.chain).rows =
        ((sortedRows container today q.rows).map (parsedRow container today)).map (entryOf q.rows) ∧
      (chainPart container today trend q.chain).asOf =
        (latest none (snapDays container q.rows)).elim trend.asOf fun sd => some (later trend.asOf sd) := by
  obtain ⟨oi, vol, _ | ⟨chain, basis⟩⟩ := q
  · have hnil : sortedRows container today [] = [] := List.perm_nil.1 (sortAsc_sorted _ _).perm
    exact ⟨by rw [Responses.rows, Option.elim_none, hnil]; rfl, rfl⟩
  · have hcounts : ∀ x ∈ dated container chain, x.2.FloatCounts := h.counts
    have hentries : ∀ row ∈ (sortedRows container today chain).map (parsedRow container today),
        chainEntry chain row = .ok (entryOf chain row) := by
      intro row hrow
      obtain ⟨x, hx, rfl⟩ := List.mem_map.1 hrow
      have hkept := mem_sortedRows.1 hx
      exact chainEntry_of_quotients (hcounts x (dated_of_kept hkept)) (h.totals x hkept).1 (h.totals x hkept).2
    rw [chainPart, readChain_of_float hcounts]
    dsimp only
    rw [sort_parsed, appendEach_of_forall hentries]
    exact ⟨rfl, moveAsOf_fst ..⟩

/-- A count that no `float` holds: no entry, and the date of the trend. -/
theorem chainPart_of_count (today : Date) (trend : Trend) {x : Date × ChainRow} (hx : x ∈ dated container q.rows)
    (h : ¬ x.2.FloatCounts) :
    (chainPart container today trend q.chain).rows = [] ∧
      (chainPart container today trend q.chain).asOf = trend.asOf := by
  obtain ⟨oi, vol, _ | ⟨chain, basis⟩⟩ := q
  · exact ⟨rfl, rfl⟩
  · have hx' : x ∈ dated container chain := hx
    obtain ⟨e, he⟩ := readChain_error today hx' h
    rw [chainPart, he]
    exact ⟨rfl, rfl⟩

/-- A total whose share no `float` holds: some kept row has no entry. -/
theorem chainPart_of_total (trend : Trend) (hcounts : ∀ x ∈ dated container q.rows, x.2.FloatCounts)
    {x : Date × ChainRow} (hx : x ∈ keptRows container today q.rows)
    (h : ¬ (FloatQuotient x.2.totalOi (largest ChainRow.totalOi q.rows) ∧
      FloatQuotient x.2.totalVol (largest ChainRow.totalVol q.rows))) :
    (chainPart container today trend q.chain).rows.length < (keptRows container today q.rows).length := by
  obtain ⟨oi, vol, _ | ⟨chain, basis⟩⟩ := q
  · exact absurd hx List.not_mem_nil
  · have hcounts' : ∀ x ∈ dated container chain, x.2.FloatCounts := hcounts
    have hx' : x ∈ keptRows container today chain := hx
    obtain ⟨e, he⟩ := chainEntry_error today (hcounts' x (dated_of_kept hx')) h
    have hmem := List.mem_map_of_mem (f := parsedRow container today) (mem_sortedRows.2 hx')
    have hlt := (appendEach_of_error hmem he).1
    rw [List.length_map, sortedRows, (sortAsc_sorted _ _).perm.length_eq] at hlt
    rw [chainPart, readChain_of_float hcounts']
    dsimp only
    rwa [sort_parsed]

/-- The chain never takes a date away. -/
theorem chainPart_asOf_none (h : (chainPart container today trend q.chain).asOf = none) : trend.asOf = none := by
  have hmove : ∀ basis snapshotAsOf, (moveAsOf trend basis snapshotAsOf).1 = none → trend.asOf = none := by
    intro basis snapshotAsOf hnone
    rw [moveAsOf_fst] at hnone
    cases snapshotAsOf with
    | none => exact hnone
    | some sd => cases hnone
  obtain ⟨oi, vol, _ | ⟨chain, basis⟩⟩ := q
  · exact h
  · rw [chainPart] at h
    split at h
    · exact h
    · dsimp only at h
      split at h
      · exact h
      · exact hmove _ _ h

/-- Where the trend has no date, its last point has none either. -/
theorem orLastPoint_eq (h : (chainPart container today trend q.chain).asOf = none → trendAsOf q.oi q.vol = none) :
    orLastPoint (chainPart container today trend q.chain).asOf ((allDays q.oi q.vol).map (pointOf q.oi q.vol)) =
      (chainPart container today trend q.chain).asOf := by
  cases hpart : (chainPart container today trend q.chain).asOf with
  | some d => rfl
  | none =>
    have hempty : tradeDays q.oi ++ tradeDays q.vol = [] := by
      have hlatest := isLatest_trendAsOf q.oi q.vol
      rwa [h hpart] at hlatest
    rw [List.append_eq_nil_iff] at hempty
    have hnone : ∀ td ∈ allDays q.oi q.vol, dayOf? td = none := by
      intro td htd
      rcases mem_allDays.1 htd with hmem | hmem
      · exact List.filterMap_eq_nil_iff.1 hempty.1 td hmem
      · exact List.filterMap_eq_nil_iff.1 hempty.2 td hmem
    unfold orLastPoint
    rw [List.getLast?_map]
    cases hlast : (allDays q.oi q.vol).getLast? with
    | none => rfl
    | some td =>
      have hday : dayOf? (pointOf q.oi q.vol td).tradeDate = none := hnone td (List.mem_of_getLast? hlast)
      simp only [Option.map_some, hday, ite_self]

end

/-! ## The answer -/

section

variable {container : Json → String} {plugin : Plugin} {today : Date} {symbol : Option String} {lookbackDays : Int}

/-- The trend of a response pair, every count read. -/
def trendOf (q : Responses) : Trend :=
  ⟨(allDays q.oi q.vol).map (pointOf q.oi q.vol), trendAsOf q.oi q.vol, .str "plugin_api"⟩

def answerOf (container : Json → String) (plugin : Plugin) (today : Date) (symbol : Option String)
    (lookbackDays : Int) : OptionPcr :=
  let q := plugin.responses symbol lookbackDays
  assemble today (symbolOf symbol) (clampLookback lookbackDays) (trendOf q)
    (chainPart container today (trendOf q) q.chain)

theorem fetchSymbolOptionPcr_of_readable (hsym : symbolOf symbol ≠ "")
    (h : TrendReadable (plugin.responses symbol lookbackDays)) :
    fetchSymbolOptionPcr container plugin today symbol lookbackDays =
      .ok (.ok (answerOf container plugin today symbol lookbackDays)) := by
  have htrend := fetchPcrTrend_of_readable h
  rw [Plugin.responses] at htrend
  rw [fetchSymbolOptionPcr]
  simp only [if_neg hsym]
  rw [htrend]
  rfl

/-- What is answered was read in full. -/
theorem readable_of_answer (hsym : symbolOf symbol ≠ "") {p : OptionPcr}
    (h : fetchSymbolOptionPcr container plugin today symbol lookbackDays = .ok (.ok p)) :
    TrendReadable (plugin.responses symbol lookbackDays) := by
  unfold fetchSymbolOptionPcr at h
  simp only [if_neg hsym] at h
  cases htrend : fetchPcrTrend (plugin.pcrAggregate (symbolOf symbol) .oi (clampLookback lookbackDays))
      (plugin.pcrAggregate (symbolOf symbol) .volume (clampLookback lookbackDays)) with
  | error e =>
    rw [htrend] at h
    cases h
  | ok t =>
    have hq : fetchPcrTrend (plugin.responses symbol lookbackDays).oi (plugin.responses symbol lookbackDays).vol =
      .ok t := htrend
    exact readable_of_fetchPcrTrend hq

end

/-! ## The two parts -/

section

variable {container : Json → String} {today : Date}

/-- The part of `Faithful` that the chain decides. -/
structure ChainPartFaithful (container : Json → String) (today : Date) (q : Responses) (part : ChainPart) : Prop where
  asOf : IsLatest (tradeDays q.oi ++ tradeDays q.vol ++ snapDays container q.rows) part.asOf
  rows : ChainFaithful container today q.rows part.rows

/-- The chain and the date are right if and only if the chain was read in full or adds nothing. -/
theorem chainPartFaithful_iff (q : Responses) :
    ChainPartFaithful container today q (chainPart container today (trendOf q) q.chain) ↔
      ChainReadable container today q.rows ∨ ChainIdle container today q := by
  have hlatest : IsLatest (tradeDays q.oi ++ tradeDays q.vol) (trendOf q).asOf := isLatest_trendAsOf q.oi q.vol
  by_cases hcounts : ∀ x ∈ dated container q.rows, x.2.FloatCounts
  · by_cases htotals : ∀ x ∈ keptRows container today q.rows,
        FloatQuotient x.2.totalOi (largest ChainRow.totalOi q.rows) ∧
          FloatQuotient x.2.totalVol (largest ChainRow.totalVol q.rows)
    · have hread : ChainReadable container today q.rows := ⟨hcounts, htotals⟩
      obtain ⟨hrows, hasOf⟩ := chainPart_of_readable (trendOf q) hread
      refine iff_of_true ⟨?_, ?_⟩ (Or.inl hread)
      · rw [hasOf]
        exact hlatest.append (isLatest_latest _)
      · rw [hrows]
        exact chainFaithful_entries
    · -- some kept row has no entry, so neither side holds
      simp only [not_forall] at htotals
      obtain ⟨x, hx, hbad⟩ := htotals
      have hlt := chainPart_of_total (trendOf q) hcounts hx hbad
      refine iff_of_false (fun h => ?_) ?_
      · rw [length_of_chainFaithful h.rows] at hlt
        exact lt_irrefl _ hlt
      · rintro (hread | hidle)
        · exact hbad (hread.totals x hx)
        · exact absurd (hidle.rows ▸ hx) List.not_mem_nil
  · -- no entry and the date of the trend, which is right if the chain adds nothing
    simp only [not_forall] at hcounts
    obtain ⟨x, hx, hbad⟩ := hcounts
    obtain ⟨hrows, hasOf⟩ := chainPart_of_count today (trendOf q) hx hbad
    have hnot : ¬ ChainReadable container today q.rows := fun h => hbad (h.counts x hx)
    constructor
    · intro h
      refine Or.inr ⟨chainFaithful_nil.1 (hrows ▸ h.rows), hlatest.append_iff.1 (hasOf ▸ h.asOf)⟩
    · intro h
      obtain ⟨hkept, hsnap⟩ := h.resolve_left hnot
      exact ⟨hasOf ▸ hlatest.append_iff.2 hsnap, hrows ▸ chainFaithful_nil.2 hkept⟩

theorem faithful_answerOf {plugin : Plugin} {symbol : Option String} {lookbackDays : Int} :
    Faithful container today (plugin.responses symbol lookbackDays)
        (answerOf container plugin today symbol lookbackDays) ↔
      SameDays (plugin.responses symbol lookbackDays) ∧
        (ChainReadable container today (plugin.responses symbol lookbackDays).rows ∨
          ChainIdle container today (plugin.responses symbol lookbackDays)) := by
  set q := plugin.responses symbol lookbackDays with hq
  have htrend : (answerOf container plugin today symbol lookbackDays).trend =
    (allDays q.oi q.vol).map (pointOf q.oi q.vol) := rfl
  have hdate : (answerOf container plugin today symbol lookbackDays).asOfDate =
      (chainPart container today (trendOf q) q.chain).asOf.map Date.isoformat := by
    rw [answerOf, assemble]
    exact congrArg (Option.map Date.isoformat) (orLastPoint_eq chainPart_asOf_none)
  have hrows : (answerOf container plugin today symbol lookbackDays).chainByExpiry =
    (chainPart container today (trendOf q) q.chain).rows := rfl
  rw [← trendFaithful_iff, ← chainPartFaithful_iff]
  constructor
  · rintro ⟨hpoints, ⟨asOf, hasOf, hprinted⟩, hchain⟩
    rw [hdate] at hprinted
    refine ⟨htrend ▸ hpoints, ⟨?_, hrows ▸ hchain⟩⟩
    rwa [Option.map_injective Date.isoformat_injective hprinted]
  · rintro ⟨hpoints, hasOf, hchain⟩
    exact ⟨htrend ▸ hpoints, ⟨_, hasOf, hdate⟩, hrows ▸ hchain⟩

end

/-! ## The merge -/

/-- **Main.** The answer is what the responses say if and only if open interest and volume have the same days (or
there is no volume), the counts of the last rows can be read as floats, and so can those of the chain, unless it adds
nothing. -/
theorem mergeFaithful (container : Json → String) (plugin : Plugin) (today : Date) {symbol : Option String}
    (lookbackDays : Int) (hsym : symbolOf symbol ≠ "") :
    (∃ p, fetchSymbolOptionPcr container plugin today symbol lookbackDays = .ok (.ok p) ∧
        Faithful container today (plugin.responses symbol lookbackDays) p) ↔
      SameDays (plugin.responses symbol lookbackDays) ∧ TrendReadable (plugin.responses symbol lookbackDays) ∧
        (ChainReadable container today (plugin.responses symbol lookbackDays).rows ∨
          ChainIdle container today (plugin.responses symbol lookbackDays)) := by
  constructor
  · rintro ⟨p, hp, hfaithful⟩
    have hread := readable_of_answer hsym hp
    rw [fetchSymbolOptionPcr_of_readable hsym hread, Except.ok.injEq, Answer.ok.injEq] at hp
    subst hp
    obtain ⟨hdays, hchain⟩ := faithful_answerOf.1 hfaithful
    exact ⟨hdays, hread, hchain⟩
  · rintro ⟨hdays, hread, hchain⟩
    exact ⟨_, fetchSymbolOptionPcr_of_readable hsym hread, faithful_answerOf.2 ⟨hdays, hchain⟩⟩

/-- A plugin that has one day of volume, no open interest and no chain. -/
def volumeOnly : Plugin where
  pcrAggregate _ kind _ := match kind with
    | .oi => some []
    | .volume => some [⟨some "2026-07-01", some 3, some 4⟩]
  chainByExpiry _ _ := none

def sampleDay : Date := ⟨2026, 7, 2, by decide⟩

theorem symbolOf_spy : symbolOf (some " spy ") = "SPY" := by decide +kernel

def sharedChain : List ChainRow :=
  [⟨.str "2026-08-21", some 3, some 4, some 1, none, .str "2026-07-01"⟩,
    ⟨.str "2026-07-17", some 5, some 6, some 2, some 2, .str "2026-07-01"⟩]

/-- A plugin that has open interest and volume of one day, and a chain. -/
def sharedDay : Plugin where
  pcrAggregate _ kind _ := match kind with
    | .oi => some [⟨some "2026-07-01", some 30, some 40⟩]
    | .volume => some [⟨some "2026-07-01", some 3, some 4⟩]
  chainByExpiry _ _ := some ⟨sharedChain, .str "eod"⟩

theorem sharedDay_readable : SameDays (sharedDay.responses (some " spy ") 365) ∧
    TrendReadable (sharedDay.responses (some " spy ") 365) ∧
    ChainReadable (fun _ => "") sampleDay (sharedDay.responses (some " spy ") 365).rows := by
  have hchain : ∀ x ∈ dated (fun _ => "") sharedChain, x.2.FloatCounts ∧
      FloatQuotient x.2.totalOi (largest ChainRow.totalOi sharedChain) ∧
      FloatQuotient x.2.totalVol (largest ChainRow.totalVol sharedChain) := by
    intro x hx
    rcases List.mem_pair.1 (mem_dated.1 hx).1 with hrow | hrow <;>
    · rw [hrow]
      exact ⟨⟨by decide +kernel, by decide +kernel⟩, by unfold FloatQuotient; decide +kernel,
        by unfold FloatQuotient; decide +kernel⟩
  refine ⟨by unfold SameDays; decide, fun resp hresp td htd c hc => ?_, fun x hx => (hchain x hx).1,
    fun x hx => (hchain x (dated_of_kept hx)).2⟩
  rcases List.mem_pair.1 hresp with rfl | rfl
  · obtain rfl : td = "2026-07-01" := List.mem_singleton.1 htd
    obtain rfl : (30, 40) = c := Option.some.inj hc
    exact ⟨by decide +kernel, by decide +kernel⟩
  · obtain rfl : td = "2026-07-01" := List.mem_singleton.1 htd
    obtain rfl : (3, 4) = c := Option.some.inj hc
    exact ⟨by decide +kernel, by decide +kernel⟩

theorem mergeFaithful_spy :
    symbolOf (some " spy ") ≠ "" ∧
      ((∃ p, fetchSymbolOptionPcr (fun _ => "") volumeOnly sampleDay (some " spy ") 365 = .ok (.ok p) ∧
          Faithful (fun _ => "") sampleDay (volumeOnly.responses (some " spy ") 365) p) ↔
        SameDays (volumeOnly.responses (some " spy ") 365) ∧ TrendReadable (volumeOnly.responses (some " spy ") 365) ∧
          (ChainReadable (fun _ => "") sampleDay (volumeOnly.responses (some " spy ") 365).rows ∨
            ChainIdle (fun _ => "") sampleDay (volumeOnly.responses (some " spy ") 365))) ∧
      ∃ p, fetchSymbolOptionPcr (fun _ => "") sharedDay sampleDay (some " spy ") 365 = .ok (.ok p) ∧
        Faithful (fun _ => "") sampleDay (sharedDay.responses (some " spy ") 365) p := by
  have hsym : symbolOf (some " spy ") ≠ "" := by
    rw [symbolOf_spy]
    decide
  obtain ⟨hdays, htrend, hchain⟩ := sharedDay_readable
  exact ⟨hsym, mergeFaithful _ _ _ _ hsym, (mergeFaithful _ _ _ _ hsym).2 ⟨hdays, htrend, Or.inl hchain⟩⟩

/-- On the one day of volume the point has an open interest of 0, not null. -/
theorem mergeFaithful_fails :
    ¬ ∀ (container : Json → String) (plugin : Plugin) (today : Date) (symbol : Option String) (lookbackDays : Int),
      symbolOf symbol ≠ "" → ∃ p, fetchSymbolOptionPcr container plugin today symbol lookbackDays = .ok (.ok p) ∧
        Faithful container today (plugin.responses symbol lookbackDays) p := by
  intro hall
  have hsym : symbolOf (some " spy ") ≠ "" := by
    rw [symbolOf_spy]
    decide
  obtain ⟨p, hp, hfaithful⟩ := hall (fun _ => "") volumeOnly sampleDay (some " spy ") 365 hsym
  have hread := readable_of_answer hsym hp
  rw [fetchSymbolOptionPcr_of_readable hsym hread, Except.ok.injEq, Answer.ok.injEq] at hp
  subst hp
  have hdays := (faithful_answerOf.1 hfaithful).1.1
  have hvol : "2026-07-01" ∈ days (volumeOnly.responses (some " spy ") 365).vol := List.mem_singleton.2 rfl
  exact absurd (hdays _ hvol) List.not_mem_nil

end BifrostApi.Research.StockOptionPcr
