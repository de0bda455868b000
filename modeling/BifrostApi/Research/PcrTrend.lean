import BifrostApi.Research.StockOptionPcr

/-!
# The trend of the put/call ratios

A series is a dict filled in the order of its rows, so the last row of a day stays. The trend has a point for each
day of either dict, and a day that the other one has too is measured by both (`trendFaithful_iff`).
-/

namespace BifrostApi.Research.StockOptionPcr

open Py Latest Loop StableSort

/-! ## Counts as floats -/

theorem toFloat_int (n : Int) :
    (Json.int n).toFloat = if FloatCount n then .ok (.fin n) else .error .overflowError := by
  have hiff : (Number.overflowBound ≤ n ∨ (n : ℚ) ≤ -Number.overflowBound) ↔ ¬ FloatCount n := by
    rw [FloatCount, not_lt, le_abs', or_comm]
  by_cases h : FloatCount n
  · rw [Json.toFloat, if_pos h, if_neg fun hover => hiff.1 hover h]
  · rw [Json.toFloat, if_neg h, if_pos (hiff.2 h)]

theorem pcRatio_eq (put call : Int) :
    pcRatio put call = if FloatCount put ∧ FloatCount call then .ok (ratioOf (put, call))
      else .error .overflowError := by
  rw [pcRatio, toFloat_int, toFloat_int]
  by_cases hput : FloatCount put
  · by_cases hcall : FloatCount call
    · rw [if_pos hput, if_pos hcall, if_pos ⟨hput, hcall⟩]
      rfl
    · rw [if_pos hput, if_neg hcall, if_neg fun h : FloatCount put ∧ FloatCount call => hcall h.2]
      rfl
  · rw [if_neg hput, if_neg fun h : FloatCount put ∧ FloatCount call => hput h.1]
    rfl

theorem floatCount_zero : FloatCount 0 := by
  rw [FloatCount, Int.cast_zero, abs_zero]
  decide +kernel

/-! ## One series -/

/-- The writes of a response, in its order. -/
def writes (pts : List PcrPoint) : ByDay :=
  pts.filterMap fun pt => (pt.tradeDate.filter (· ≠ "")).map fun td => (td, pt.counts)

theorem foldl_readPoint (pts : List PcrPoint) (byDay : ByDay) (asOf : Option Date) :
    pts.foldl readPoint (byDay, asOf) = (byDay.update (writes pts), latest asOf (tradeDays (some pts))) := by
  induction pts generalizing byDay asOf with
  | nil => rfl
  | cons pt pts ih =>
    rw [List.foldl_cons, readPoint]
    obtain ⟨_ | td, put, call⟩ := pt
    · exact ih byDay asOf
    · by_cases htd : td = ""
      · subst htd
        exact ih byDay asOf
      · have hkeep : (some td).filter (fun td => decide (td ≠ "")) = some td := by simp [htd]
        have hdays : tradeDays (some (⟨some td, put, call⟩ :: pts)) =
            ((dayOf? td).elim [] fun d => [d]) ++ tradeDays (some pts) := by
          simp only [tradeDays, days, Option.getD_some, List.filterMap_cons, hkeep]
          cases dayOf? td <;> rfl
        have hwrites : writes (⟨some td, put, call⟩ :: pts) =
            (td, PcrPoint.counts ⟨some td, put, call⟩) :: writes pts := by
          simp only [writes, List.filterMap_cons, hkeep]
          rfl
        simp only [if_neg htd]
        rw [ih, hwrites, hdays]
        cases dayOf? td <;> rfl

/-- A series by its days. -/
def byDay (resp : PcrResponse) : ByDay := Dict.update [] (writes (resp.getD []))

theorem readSeries_eq (asOf : Option Date) (resp : PcrResponse) :
    readSeries asOf resp = (byDay resp, latest asOf (tradeDays resp)) := by
  rw [readSeries, foldl_readPoint]
  cases resp <;> rfl

theorem keys_writes (resp : PcrResponse) : Dict.keys (writes (resp.getD [])) = days resp := by
  rw [Dict.keys, writes, days, List.map_filterMap]
  congr 1
  funext pt
  cases pt.tradeDate.filter (· ≠ "") <;> rfl

theorem mem_keys_byDay {resp : PcrResponse} {td : String} : td ∈ Dict.keys (byDay resp) ↔ td ∈ days resp := by
  rw [byDay, Dict.mem_keys_update, keys_writes]
  simp

theorem isEmpty_byDay (resp : PcrResponse) : (byDay resp).isEmpty = true ↔ days resp = [] := by
  rw [List.isEmpty_iff, ← List.map_eq_nil_iff (f := Prod.fst), List.eq_nil_iff_forall_not_mem,
    List.eq_nil_iff_forall_not_mem]
  exact forall_congr' fun td => not_congr mem_keys_byDay

theorem ne_empty_of_mem_days {resp : PcrResponse} {td : String} (h : td ∈ days resp) : td ≠ "" := by
  obtain ⟨pt, -, hpt⟩ := List.mem_filterMap.1 h
  simpa using (Option.filter_eq_some_iff.1 hpt).2

theorem filter_writes {td : String} (htd : td ≠ "") (pts : List PcrPoint) :
    (writes pts).filter (fun kv => kv.1 = td) =
      (pts.filter fun pt => pt.tradeDate = some td).map fun pt => (td, pt.counts) := by
  induction pts with
  | nil => rfl
  | cons pt pts ih =>
    obtain ⟨_ | td', put, call⟩ := pt
    · simpa [writes] using ih
    · by_cases h : td' = td
      · subst h
        simpa [writes, htd, List.filter_cons] using ih
      · by_cases hempty : td' = ""
        · simpa [writes, hempty, Ne.symm htd] using ih
        · simpa [writes, hempty, h, List.filter_cons] using ih

/-- The last row of a day is the one that is kept. -/
theorem lookup_byDay {td : String} (htd : td ≠ "") (resp : PcrResponse) :
    (byDay resp).lookup td = lastCounts resp td := by
  rw [byDay, Dict.lookup_update_last, filter_writes htd, List.getLast?_map, Option.map_map, lastCounts]
  cases ((resp.getD []).filter fun pt => decide (pt.tradeDate = some td)).getLast? <;> rfl

theorem lastCounts_eq_none {resp : PcrResponse} {td : String} (htd : td ≠ "") :
    lastCounts resp td = none ↔ td ∉ days resp := by
  rw [← mem_keys_byDay, ← lookup_byDay htd, Dict.lookup_eq_none]

/-! ## The trend -/

/-- The counts of a day that may be missing, 0 where they are. -/
theorem pcRatio_getD (o : Option Counts) :
    pcRatio (o.getD (0, 0)).1 (o.getD (0, 0)).2 =
      if ∀ c ∈ o, FloatCount c.1 ∧ FloatCount c.2 then .ok (ratioOf (o.getD (0, 0))) else .error .overflowError := by
  rw [pcRatio_eq]
  cases o with
  | none =>
    rw [if_pos (by exact ⟨floatCount_zero, floatCount_zero⟩), if_pos fun c hc => by cases hc]
  | some c =>
    by_cases h : FloatCount c.1 ∧ FloatCount c.2
    · rw [if_pos (by exact h), if_pos fun c' hc' => by cases hc'; exact h]
    · rw [if_neg (by exact h), if_neg fun hall => h (hall c rfl)]

/-- The point of a day, a missing row read as 0. -/
def pointOf (oi vol : PcrResponse) (td : String) : TrendPoint :=
  let oiCounts := (lastCounts oi td).getD (0, 0)
  let volCounts := (lastCounts vol td).getD (0, 0)
  { tradeDate := td
    putOi := some oiCounts.1
    callOi := some oiCounts.2
    oiRatio := ratioOf oiCounts
    putVol := if days vol = [] then none else some volCounts.1
    callVol := if days vol = [] then none else some volCounts.2
    volRatio := if days vol = [] then none else ratioOf volCounts }

def DayReadable (oi vol : PcrResponse) (td : String) : Prop :=
  (∀ c ∈ lastCounts oi td, FloatCount c.1 ∧ FloatCount c.2) ∧ ∀ c ∈ lastCounts vol td, FloatCount c.1 ∧ FloatCount c.2

theorem trendPoint_of_readable {oi vol : PcrResponse} {td : String} (htd : td ≠ "") (h : DayReadable oi vol td) :
    trendPoint (byDay oi) (byDay vol) td = .ok (pointOf oi vol td) := by
  rw [trendPoint, lookup_byDay htd, lookup_byDay htd, pointOf]
  simp only [pcRatio_getD, if_pos h.1, if_pos h.2, isEmpty_byDay]
  by_cases hvol : days vol = []
  · simp only [hvol, if_true]
    rfl
  · simp only [hvol, if_false]
    rfl

theorem readable_of_trendPoint {oi vol : PcrResponse} {td : String} (htd : td ≠ "") {p : TrendPoint}
    (h : trendPoint (byDay oi) (byDay vol) td = .ok p) : DayReadable oi vol td := by
  rw [trendPoint, lookup_byDay htd, lookup_byDay htd] at h
  simp only [pcRatio_getD, isEmpty_byDay] at h
  by_cases hoi : ∀ c ∈ lastCounts oi td, FloatCount c.1 ∧ FloatCount c.2
  · refine ⟨hoi, ?_⟩
    by_cases hvol : days vol = []
    · have hnone : lastCounts vol td = none := (lastCounts_eq_none htd).2 (hvol ▸ List.not_mem_nil)
      rw [hnone]
      exact fun c hc => by cases hc
    · by_contra hbad
      simp only [if_pos hoi, if_neg hvol, if_neg hbad] at h
      cases h
  · simp only [if_neg hoi] at h
    cases h

/-- The days of both series in ascending order. -/
def allDays (oi vol : PcrResponse) : List String := sortAsc id (Dict.keys (byDay oi) ++ Dict.keys (byDay vol)).dedup

theorem mem_allDays {oi vol : PcrResponse} {td : String} : td ∈ allDays oi vol ↔ td ∈ days oi ∨ td ∈ days vol := by
  rw [allDays, mem_sortAsc, List.mem_dedup, List.mem_append, mem_keys_byDay, mem_keys_byDay]

theorem allDays_ne_empty {oi vol : PcrResponse} {td : String} (h : td ∈ allDays oi vol) : td ≠ "" :=
  (mem_allDays.1 h).elim ne_empty_of_mem_days ne_empty_of_mem_days

def trendAsOf (oi vol : PcrResponse) : Option Date := latest none (tradeDays oi ++ tradeDays vol)

theorem isLatest_trendAsOf (oi vol : PcrResponse) : IsLatest (tradeDays oi ++ tradeDays vol) (trendAsOf oi vol) :=
  isLatest_latest _

theorem fetchPcrTrend_eq (oi vol : PcrResponse) :
    fetchPcrTrend oi vol = ((allDays oi vol).mapM (trendPoint (byDay oi) (byDay vol))).map fun points =>
      ⟨points, trendAsOf oi vol, .str "plugin_api"⟩ := by
  rw [fetchPcrTrend, readSeries_eq]
  dsimp only
  have hasOf : latest (latest none (tradeDays oi)) (tradeDays vol) = trendAsOf oi vol := List.foldl_append.symm
  rw [readSeries_eq, ← allDays, hasOf]
  cases (allDays oi vol).mapM (trendPoint (byDay oi) (byDay vol)) <;> rfl

theorem trendReadable_iff {q : Responses} : TrendReadable q ↔ ∀ td ∈ allDays q.oi q.vol, DayReadable q.oi q.vol td := by
  constructor
  · intro h td htd
    have hread : ∀ resp ∈ [q.oi, q.vol], ∀ c ∈ lastCounts resp td, FloatCount c.1 ∧ FloatCount c.2 := by
      intro resp hresp c hc
      by_cases hday : td ∈ days resp
      · exact h resp hresp td hday c hc
      · rw [(lastCounts_eq_none (allDays_ne_empty htd)).2 hday] at hc
        cases hc
    exact ⟨hread q.oi (List.mem_cons_self ..), hread q.vol (List.mem_cons_of_mem _ (List.mem_cons_self ..))⟩
  · intro h resp hresp td htd
    rcases List.mem_cons.1 hresp with rfl | hresp
    · exact (h td (mem_allDays.2 (Or.inl htd))).1
    · obtain rfl := List.mem_singleton.1 hresp
      exact (h td (mem_allDays.2 (Or.inr htd))).2

/-- The trend is read if and only if every count of a last row is. -/
theorem fetchPcrTrend_of_readable {q : Responses} (h : TrendReadable q) :
    fetchPcrTrend q.oi q.vol =
      .ok ⟨(allDays q.oi q.vol).map (pointOf q.oi q.vol), trendAsOf q.oi q.vol, .str "plugin_api"⟩ := by
  rw [trendReadable_iff] at h
  rw [fetchPcrTrend_eq, mapM_of_forall fun td htd => trendPoint_of_readable (allDays_ne_empty htd) (h td htd)]
  rfl

theorem readable_of_fetchPcrTrend {q : Responses} {t : Trend} (h : fetchPcrTrend q.oi q.vol = .ok t) :
    TrendReadable q := by
  rw [trendReadable_iff]
  rw [fetchPcrTrend_eq] at h
  cases hpts : (allDays q.oi q.vol).mapM (trendPoint (byDay q.oi) (byDay q.vol)) with
  | error e =>
    rw [hpts] at h
    cases h
  | ok pts =>
    intro td htd
    obtain ⟨p, hp⟩ := forall_of_mapM hpts td htd
    exact readable_of_trendPoint (allDays_ne_empty htd) hp

/-- A point is what its last rows say if and only if no series that has a row misses its day. -/
theorem pointFaithful_iff {oi vol : PcrResponse} {td : String} (htd : td ≠ "") :
    PointFaithful oi vol (pointOf oi vol td) ↔ td ∈ days oi ∧ (days vol = [] ∨ td ∈ days vol) := by
  have hsome : ∀ {resp : PcrResponse}, td ∈ days resp → ∃ c, lastCounts resp td = some c := fun hmem =>
    Option.ne_none_iff_exists'.1 fun hnone => (lastCounts_eq_none htd).1 hnone hmem
  constructor
  · intro h
    constructor
    · by_contra hoi
      have := h.putOi
      rw [show (pointOf oi vol td).tradeDate = td from rfl, (lastCounts_eq_none htd).2 hoi] at this
      cases this
    · by_contra hvol
      rw [not_or] at hvol
      have := h.putVol
      rw [show (pointOf oi vol td).tradeDate = td from rfl, (lastCounts_eq_none htd).2 hvol.2, pointOf] at this
      simp only [if_neg hvol.1] at this
      cases this
  · rintro ⟨hoi, hvol⟩
    obtain ⟨c, hc⟩ := hsome hoi
    have hnone : days vol = [] → lastCounts vol td = none := fun hempty =>
      (lastCounts_eq_none htd).2 (hempty ▸ List.not_mem_nil)
    by_cases hempty : days vol = []
    · constructor <;> simp [pointOf, hc, hnone hempty, hempty]
    · obtain ⟨v, hv⟩ := hsome (hvol.resolve_left hempty)
      constructor <;> simp [pointOf, hc, hv, hempty]

theorem trendFaithful_iff (q : Responses) :
    TrendFaithful q.oi q.vol ((allDays q.oi q.vol).map (pointOf q.oi q.vol)) ↔ SameDays q := by
  have hpoints : (∀ p ∈ (allDays q.oi q.vol).map (pointOf q.oi q.vol), PointFaithful q.oi q.vol p) ↔ SameDays q := by
    have hday : (∀ p ∈ (allDays q.oi q.vol).map (pointOf q.oi q.vol), PointFaithful q.oi q.vol p) ↔
        ∀ td, td ∈ days q.oi ∨ td ∈ days q.vol → td ∈ days q.oi ∧ (days q.vol = [] ∨ td ∈ days q.vol) := by
      rw [List.forall_mem_map]
      constructor
      · intro h td htd
        have hmem := mem_allDays.2 htd
        exact (pointFaithful_iff (allDays_ne_empty hmem)).1 (h td hmem)
      · intro h td htd
        exact (pointFaithful_iff (allDays_ne_empty htd)).2 (h td (mem_allDays.1 htd))
    rw [hday]
    constructor
    · intro h
      refine ⟨fun td htd => (h td (Or.inr htd)).1, ?_⟩
      by_cases hempty : days q.vol = []
      · exact Or.inl hempty
      · exact Or.inr fun td htd => ((h td (Or.inl htd)).2).resolve_left hempty
    · rintro ⟨hoi, hvol⟩ td htd
      have hmem : td ∈ days q.oi := htd.elim id (hoi td)
      exact ⟨hmem, hvol.imp_right fun h => h td hmem⟩
  constructor
  · exact fun h => hpoints.1 h.points
  · intro h
    refine ⟨?_, fun td => ?_, hpoints.2 h⟩
    · rw [List.pairwise_map]
      exact sortAsc_strict Function.injective_id (List.nodup_dedup _)
    · rw [← mem_allDays]
      constructor
      · rintro ⟨p, hp, rfl⟩
        obtain ⟨td, htd, rfl⟩ := List.mem_map.1 hp
        exact htd
      · exact fun htd => ⟨_, List.mem_map_of_mem htd, rfl⟩

end BifrostApi.Research.StockOptionPcr
