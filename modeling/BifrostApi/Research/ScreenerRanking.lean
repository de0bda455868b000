import BifrostApi.Lib.StableSort
import BifrostApi.Py.Rounding
import BifrostApi.Research.Screener

/-!
# Scores, ranking and the symbols of a request (`research/routers/screener.py`)

The score is a weighted sum of five clipped terms, so each of its properties is one of
`clip`. The sort of a group works on the displayed score and `rating` on the unrounded one; rounding is monotone,
which keeps the two in step.

A symbol that is asked for twice is read twice: `postScreenerEach` gives every scan of a request reads of its
own, and `postScreener` is the request whose scans of one symbol read the same.

| here | there |
| --- | --- |
| `scanEach`, `postScreenerEach` | `post_screener` (:435) |
| `ScoreSpec` | `_composite_score` (:61) |
| `RankedGroup` | a group of `_scan_csp` (:403-414) |
| `RankedAnswer` | the answer of `post_screener` (:481-492) |
-/

namespace BifrostApi.Research

open Py

/-! ## What is promised -/

/-- The score as a function of its inputs. An input left as it is may be missing or not finite. -/
structure ScoreSpec : Prop where
  range : ∀ a p s v l, 0 ≤ compositeScore a p s v l ∧ compositeScore a p s v l ≤ 100
  annualized : ∀ (x y : ℚ) p s v l, x ≤ y →
    compositeScore (some (.fin x)) p s v l ≤ compositeScore (some (.fin y)) p s v l
  probItm : ∀ a (x y : ℚ) s v l, x ≤ y → compositeScore a (.fin y) s v l ≤ compositeScore a (.fin x) s v l
  safetyMargin : ∀ a p (x y : ℚ) v l, x ≤ y → compositeScore a p (.fin x) v l ≤ compositeScore a p (.fin y) v l
  ivPercentile : ∀ a p s (x y : ℚ) l, x ≤ y →
    compositeScore a p s (some (.fin x)) l ≤ compositeScore a p s (some (.fin y)) l
  spreadPct : ∀ a p s v (x y : ℚ), x ≤ y →
    compositeScore a p s v (some (.fin y)) ≤ compositeScore a p s v (some (.fin x))
  /-- Two percentiles score the worst and the best of all; without one the score is between theirs. -/
  ivUnmeasured : ∀ a p s l, ∃ worst best : ℚ,
    (∀ x : ℚ, compositeScore a p s (some (.fin worst)) l ≤ compositeScore a p s (some (.fin x)) l ∧
      compositeScore a p s (some (.fin x)) l ≤ compositeScore a p s (some (.fin best)) l) ∧
    compositeScore a p s (some (.fin worst)) l ≤ compositeScore a p s none l ∧
    compositeScore a p s none l ≤ compositeScore a p s (some (.fin best)) l
  spreadUnmeasured : ∀ a p s v, ∃ worst best : ℚ,
    (∀ x : ℚ, compositeScore a p s v (some (.fin worst)) ≤ compositeScore a p s v (some (.fin x)) ∧
      compositeScore a p s v (some (.fin x)) ≤ compositeScore a p s v (some (.fin best))) ∧
    compositeScore a p s v (some (.fin worst)) ≤ compositeScore a p s v none ∧
    compositeScore a p s v none ≤ compositeScore a p s v (some (.fin best))

/-- The place of a rating, the best first. -/
def ratingRank (r : String) : Nat := ["A", "B", "C", "D"].idxOf r

/-- Score, rating and order of a group's contracts agree. -/
structure RankedGroup (g : Group) : Prop where
  sorted : g.contracts.Pairwise fun a b => b.contract.score ≤ a.contract.score
  ratings : ∀ a ∈ g.contracts, ∀ b ∈ g.contracts, b.contract.score < a.contract.score →
    ratingRank a.contract.rating ≤ ratingRank b.contract.rating
  bestScore : (∃ c ∈ g.contracts, c.contract.score = g.bestScore) ∧
    ∀ c ∈ g.contracts, c.contract.score ≤ g.bestScore
  contractCount : g.contractCount = g.contracts.length

/-- A non-empty text is on file for the symbol. -/
def Warned (warnings : Dict String String) (sym : String) : Prop := ∃ text, warnings.lookup sym = some text ∧ text ≠ ""

structure RankedAnswer (body : ScreenerRequest) (a : ScreenerAnswer) : Prop where
  ranked : ∀ g ∈ a.groups, RankedGroup g
  sorted : a.groups.Pairwise fun g h => h.bestScore ≤ g.bestScore
  totalContracts : a.totalContracts = (a.groups.map fun g => g.contracts.length).sum
  /-- Every occurrence of a symbol is in one of the two. -/
  symbols : (a.groups.map Group.symbol ++ a.symbolsFailed).Perm (symbolsClean body)
  warnings : ∀ s ∈ a.symbolsFailed, Warned a.warnings s

/-! ## The request, scan by scan -/

/-- The loop, each scan with reads of its own. -/
def scanEach (probItm : ProbItm) (today : Int) (body : ScreenerRequest) :
    List (String × Reads) → Progress → Except Exc Progress
  | [], acc => .ok acc
  | (sym, reads) :: scans, acc => match scanCsp probItm today body sym reads with
    | .error e => .error e
    | .ok scan => scanEach probItm today body scans (acc.add sym scan)

/-- The request whose `i`-th scan reads `reads i`. -/
def postScreenerEach (probItm : ProbItm) (today : Int) (db : Bool) (body : ScreenerRequest) (reads : Nat → Reads) :
    Except Exc Response :=
  if ¬ db then .ok (.failure 503 "PostgreSQL not configured")
  else if structureTypeOf body ≠ "cash_secured_put" then
    .ok (.failure 400 ("structure_type '" ++ structureTypeOf body ++ "' not yet implemented "
      ++ "(V1 supports cash_secured_put only)."))
  else if symbolsClean body = [] then .ok (.failure 400 "symbols list is empty")
  else match scanEach probItm today body ((symbolsClean body).zipIdx.map fun s => (s.1, reads s.2)) {} with
    | .error e => .error e
    | .ok acc => .ok (.answer ⟨structureTypeOf body, acc.groups.mergeSort fun a b => b.bestScore ≤ a.bestScore,
        acc.totalContracts, symbolsClean body, acc.symbolsFailed, acc.warnings⟩)

theorem scanAll_eq_scanEach {probItm : ProbItm} {today : Int} {body : ScreenerRequest} {reads : String → Reads} :
    ∀ {syms : List String} {acc : Progress}, scanAll probItm today body reads syms acc =
      scanEach probItm today body (syms.map fun s => (s, reads s)) acc
  | [], _ => rfl
  | sym :: syms, acc => by
    rw [scanAll, List.map_cons, scanEach]
    cases scanCsp probItm today body sym (reads sym) with
    | error e => rfl
    | ok scan => exact scanAll_eq_scanEach

/-- The request whose scans of one symbol read the same. -/
theorem postScreener_eq_each (probItm : ProbItm) (today : Int) (db : Bool) (body : ScreenerRequest)
    (reads : String → Reads) : postScreener probItm today db body reads =
      postScreenerEach probItm today db body fun i => reads ((symbolsClean body).getD i "") := by
  have hscans : (symbolsClean body).map (fun s => (s, reads s)) =
      (symbolsClean body).zipIdx.map fun s => (s.1, reads ((symbolsClean body).getD s.2 "")) := by
    apply List.ext_getElem
    · simp
    · intro i hi hi'
      rw [List.length_map] at hi
      simp [List.getElem?_eq_getElem hi]
  have hloop : scanAll probItm today body reads (symbolsClean body) {} =
      scanEach probItm today body ((symbolsClean body).zipIdx.map fun s =>
        (s.1, reads ((symbolsClean body).getD s.2 ""))) {} := by
    rw [scanAll_eq_scanEach, hscans]
  unfold postScreener
  rw [hloop]
  rfl

/-! ## The score -/

theorem clip_nonneg (x : Number) : 0 ≤ clip x := by
  unfold clip
  split
  · exact zero_le_one
  · split <;> simp
  · split
    · exact le_refl 0
    · split <;> linarith

theorem clip_le_one (x : Number) : clip x ≤ 1 := by
  unfold clip
  split
  · exact le_refl 1
  · split <;> simp
  · split
    · exact zero_le_one
    · split <;> linarith

theorem clip_mono {x y : ℚ} (h : x ≤ y) : clip (.fin x) ≤ clip (.fin y) := by
  simp only [clip]
  split_ifs <;> linarith

/-- A higher fraction of the scale clips to no less. -/
theorem clip_div_mono {x y c : ℚ} (hc : 0 < c) (h : x ≤ y) :
    clip ((Number.fin x).div (.fin c)) ≤ clip ((Number.fin y).div (.fin c)) :=
  clip_mono (div_le_div_of_nonneg_right h hc.le)

theorem clip_sub_div_anti {x y c : ℚ} (hc : 0 < c) (h : x ≤ y) :
    clip (.sub (.fin 1) ((Number.fin y).div (.fin c))) ≤ clip (.sub (.fin 1) ((Number.fin x).div (.fin c))) := by
  have hdiv : x / c ≤ y / c := div_le_div_of_nonneg_right h hc.le
  apply clip_mono
  linarith

/-- A missing or clipped term is between 0 and 1. -/
theorem term_range {d : ℚ} (hd : 0 ≤ d ∧ d ≤ 1) (f : Number → Number) (x : Option Number) :
    0 ≤ (x.map fun v => clip (f v)).getD d ∧ (x.map fun v => clip (f v)).getD d ≤ 1 := by
  cases x with
  | none => exact hd
  | some v => exact ⟨clip_nonneg _, clip_le_one _⟩

theorem compositeScore_range (a : Option Number) (p s : Number) (v l : Option Number) :
    0 ≤ compositeScore a p s v l ∧ compositeScore a p s v l ≤ 100 := by
  obtain ⟨ha, ha'⟩ := term_range (d := 0) (by norm_num) (fun x => x.div (.fin (3 / 2))) a
  obtain ⟨hv, hv'⟩ := term_range (d := 1 / 2) (by norm_num) (fun x => x.div (.fin 100)) v
  obtain ⟨hl, hl'⟩ := term_range (d := 1 / 2) (by norm_num) (fun x => .sub (.fin 1) (x.div (.fin (3 / 10)))) l
  have hp := clip_nonneg (.sub (.fin 1) (p.div (.fin (3 / 10))))
  have hp' := clip_le_one (.sub (.fin 1) (p.div (.fin (3 / 10))))
  have hs := clip_nonneg (s.div (.fin (1 / 5)))
  have hs' := clip_le_one (s.div (.fin (1 / 5)))
  unfold compositeScore
  exact ⟨by linarith, by linarith⟩

theorem ivPercentile_mono (a : Option Number) (p s : Number) (l : Option Number) {x y : ℚ} (h : x ≤ y) :
    compositeScore a p s (some (.fin x)) l ≤ compositeScore a p s (some (.fin y)) l := by
  have hclip := clip_div_mono (c := 100) (by norm_num) h
  simp only [compositeScore, Option.map_some, Option.getD_some]
  linarith

theorem spreadPct_anti (a : Option Number) (p s : Number) (v : Option Number) {x y : ℚ} (h : x ≤ y) :
    compositeScore a p s v (some (.fin y)) ≤ compositeScore a p s v (some (.fin x)) := by
  have hclip := clip_sub_div_anti (c := 3 / 10) (by norm_num) h
  simp only [compositeScore, Option.map_some, Option.getD_some]
  linarith

/-- Percentile 0 scores nothing for it and percentile 100 everything. -/
theorem ivPercentile_between (a : Option Number) (p s : Number) (l v : Option Number) :
    compositeScore a p s (some (.fin 0)) l ≤ compositeScore a p s v l ∧
    compositeScore a p s v l ≤ compositeScore a p s (some (.fin 100)) l := by
  obtain ⟨hv, hv'⟩ := term_range (d := 1 / 2) (by norm_num) (fun x => x.div (.fin 100)) v
  have hworst : clip ((Number.fin 0).div (.fin 100)) = 0 := by decide +kernel
  have hbest : clip ((Number.fin 100).div (.fin 100)) = 1 := by decide +kernel
  simp only [compositeScore, Option.map_some, Option.getD_some, hworst, hbest]
  exact ⟨by linarith, by linarith⟩

/-- A spread of 30% scores nothing for it and no spread everything. -/
theorem spreadPct_between (a : Option Number) (p s : Number) (v l : Option Number) :
    compositeScore a p s v (some (.fin (3 / 10))) ≤ compositeScore a p s v l ∧
    compositeScore a p s v l ≤ compositeScore a p s v (some (.fin 0)) := by
  obtain ⟨hl, hl'⟩ := term_range (d := 1 / 2) (by norm_num) (fun x => .sub (.fin 1) (x.div (.fin (3 / 10)))) l
  have hworst : clip (.sub (.fin 1) ((Number.fin (3 / 10)).div (.fin (3 / 10)))) = 0 := by decide +kernel
  have hbest : clip (.sub (.fin 1) ((Number.fin 0).div (.fin (3 / 10)))) = 1 := by decide +kernel
  simp only [compositeScore, Option.map_some, Option.getD_some, hworst, hbest]
  exact ⟨by linarith, by linarith⟩

theorem scoreSpec : ScoreSpec where
  range := compositeScore_range
  annualized x y p s v l h := by
    have hclip := clip_div_mono (c := 3 / 2) (by norm_num) h
    simp only [compositeScore, Option.map_some, Option.getD_some]
    linarith
  probItm a x y s v l h := by
    have hclip := clip_sub_div_anti (c := 3 / 10) (by norm_num) h
    simp only [compositeScore]
    linarith
  safetyMargin a p x y v l h := by
    have hclip := clip_div_mono (c := 1 / 5) (by norm_num) h
    simp only [compositeScore]
    linarith
  ivPercentile a p s x y l h := ivPercentile_mono a p s l h
  spreadPct a p s v x y h := spreadPct_anti a p s v h
  ivUnmeasured a p s l := ⟨0, 100, fun x => ivPercentile_between a p s l _, ivPercentile_between a p s l none⟩
  spreadUnmeasured a p s v := ⟨3 / 10, 0, fun x => spreadPct_between a p s v _, spreadPct_between a p s v none⟩

/-! ## A group -/

theorem ratingRank_anti {x y : ℚ} (h : x ≤ y) : ratingRank (rating y) ≤ ratingRank (rating x) := by
  have hA : ratingRank "A" = 0 := by decide
  have hB : ratingRank "B" = 1 := by decide
  have hC : ratingRank "C" = 2 := by decide
  have hD : ratingRank "D" = 3 := by decide
  unfold rating
  split_ifs <;> simp only [hA, hB, hC, hD] <;> first | omega | linarith

/-- Score and rating of a contract come from one unrounded score. -/
theorem contractOf_score {sym : String} {ivPct : Option Number} {row : Row} {p : Priced} {c : Candidate}
    (h : contractOf sym ivPct row p = .ok (some c)) :
    ∃ sc, c.contract.score = Number.roundRat 1 sc ∧ c.contract.rating = rating sc := by
  unfold contractOf at h
  split at h
  · cases h
  · split at h
    · cases h
    · simp only [Except.ok.injEq, Option.some.injEq] at h
      subst h
      exact ⟨_, rfl, rfl⟩

theorem rankedGroup_of_groupOf {sym : String} {reading : IvReading} {cs : List Candidate} {g : Group}
    (hcs : ∀ c ∈ cs, ∃ sc, c.contract.score = Number.roundRat 1 sc ∧ c.contract.rating = rating sc)
    (h : groupOf sym reading cs = some g) : RankedGroup g := by
  have hcontracts : g.contracts = sortByScore cs := (groupOf_eq_some h).2
  have hsorted : (sortByScore cs).Pairwise fun a b => b.contract.score ≤ a.contract.score :=
    (StableSort.sortDesc_sorted Candidate.score cs).sorted
  unfold groupOf at h
  split at h
  · cases h
  · rename_i c rest hsort
    cases h
    rw [hsort] at hsorted
    refine ⟨hsorted, fun a ha b hb hlt => ?_, ⟨⟨c, List.mem_cons_self .., rfl⟩, fun d hd => ?_⟩, rfl⟩
    · -- the displayed score is the rounded one, so the order of the unrounded ones is the same
      obtain ⟨x, hx, hxr⟩ := hcs a (mem_sortByScore.1 (hsort ▸ ha))
      obtain ⟨y, hy, hyr⟩ := hcs b (mem_sortByScore.1 (hsort ▸ hb))
      rw [hxr, hyr]
      apply ratingRank_anti
      by_contra hle
      rw [hx, hy] at hlt
      exact absurd (Number.roundRat_mono (not_le.1 hle).le) (not_le.2 hlt)
    · rcases List.mem_cons.1 hd with rfl | hd
      · exact le_refl _
      · exact (List.pairwise_cons.1 hsorted).1 d hd

theorem scanCsp_ranked {probItm : ProbItm} {today : Int} {body : ScreenerRequest} {sym : String} {reads : Reads}
    {g : Group} {warning : Option String} (h : scanCsp probItm today body sym reads = .ok (some g, warning)) :
    RankedGroup g := by
  obtain ⟨w, rows, reading, ivNote, cs, -, -, hcs, hg, -⟩ := scanCsp_eq_some h
  refine rankedGroup_of_groupOf (fun c hc => ?_) hg
  obtain ⟨row, -, hrow⟩ := (Stage.mem_collect hcs).1 hc
  obtain ⟨p, -, hp⟩ := Stage.next_eq_some.1 hrow
  exact contractOf_score hp

/-! ## The symbols -/

theorem windowOf_warning {body : ScreenerRequest} {sym : String} {today : Int} {reads : Reads} {warning : String}
    (h : windowOf body sym today reads = .ok (.error warning)) : warning ≠ "" := by
  unfold windowOf at h
  split at h
  · cases h
  · split at h
    · cases h
      exact append_ne_empty (by decide)
    · split_ifs at h with hraw hexps
      · cases h
        decide
      · cases h
        exact append_ne_empty (append_ne_empty (by decide))
      · split at h
        · cases h
          decide
        · split at h
          · cases h
          · split_ifs at h with hstrikes
            · cases h
              decide
            · cases h

/-- Every early return of the scan says why. -/
theorem scanCsp_warning {probItm : ProbItm} {today : Int} {body : ScreenerRequest} {sym : String} {reads : Reads}
    {warning : Option String} (h : scanCsp probItm today body sym reads = .ok (none, warning)) :
    ∃ text, warning = some text ∧ text ≠ "" := by
  unfold scanCsp at h
  split at h
  · cases h
  · rename_i text hw
    cases h
    exact ⟨text, rfl, windowOf_warning hw⟩
  · split at h
    · cases h
      exact ⟨_, rfl, append_ne_empty (by decide)⟩
    · split_ifs at h with hrows
      · cases h
        exact ⟨_, rfl, by decide⟩
      · split at h
        · cases h
        · split at h
          · cases h
          · split at h
            · cases h
              exact ⟨_, rfl, by decide⟩
            · cases h

theorem warned_warn_self {warnings : Dict String String} {sym text : String} (h : text ≠ "") :
    Warned (warn warnings sym (some text)) sym := by
  refine ⟨text, ?_, h⟩
  rw [warn, if_neg h, Dict.lookup_set, if_pos rfl]

/-- A further warning takes none away. -/
theorem Warned.warn {warnings : Dict String String} {s : String} (h : Warned warnings s) (sym : String)
    (warning : Option String) : Warned (warn warnings sym warning) s := by
  obtain ⟨text, htext, hne⟩ := h
  unfold Research.warn
  split
  · rename_i t
    split_ifs with ht
    · exact ⟨text, htext, hne⟩
    · rw [Warned, Dict.lookup_set]
      split_ifs
      · exact ⟨t, rfl, ht⟩
      · exact ⟨text, htext, hne⟩
  · exact ⟨text, htext, hne⟩

/-- The loop has scanned `done`. -/
structure Scanned (acc : Progress) (done : List String) : Prop where
  ranked : ∀ g ∈ acc.groups, RankedGroup g
  totalContracts : acc.totalContracts = (acc.groups.map fun g => g.contracts.length).sum
  symbols : (acc.groups.map Group.symbol ++ acc.symbolsFailed).Perm done
  warnings : ∀ s ∈ acc.symbolsFailed, Warned acc.warnings s

/-- One scan puts its symbol on one side. -/
theorem scanned_add {probItm : ProbItm} {today : Int} {body : ScreenerRequest} {sym : String} {reads : Reads}
    {scan : Scan} {acc : Progress} {done : List String} (hacc : Scanned acc done)
    (h : scanCsp probItm today body sym reads = .ok scan) : Scanned (acc.add sym scan) (done ++ [sym]) := by
  obtain ⟨group, warning⟩ := scan
  cases group with
  | none =>
    obtain ⟨text, rfl, htext⟩ := scanCsp_warning h
    refine ⟨hacc.ranked, hacc.totalContracts, ?_, fun s hs => ?_⟩
    · show (acc.groups.map Group.symbol ++ (acc.symbolsFailed ++ [sym])).Perm (done ++ [sym])
      rw [← List.append_assoc]
      exact hacc.symbols.append_right [sym]
    · rcases List.mem_append.1 hs with hs | hs
      · exact (hacc.warnings s hs).warn sym (some text)
      · rw [List.mem_singleton.1 hs]
        exact warned_warn_self htext
  | some g =>
    have hranked := scanCsp_ranked h
    obtain ⟨_, _, _, _, _, _, _, _, hgroup, _⟩ := scanCsp_eq_some h
    have hsymbol : g.symbol = sym := (groupOf_eq_some hgroup).1
    refine ⟨fun g' hg' => ?_, ?_, ?_, fun s hs => (hacc.warnings s hs).warn sym warning⟩
    · rcases List.mem_append.1 hg' with hg' | hg'
      · exact hacc.ranked g' hg'
      · rw [List.mem_singleton.1 hg']
        exact hranked
    · show acc.totalContracts + g.contractCount = _
      rw [hacc.totalContracts, hranked.contractCount]
      simp [Progress.add]
    · show ((acc.groups ++ [g]).map Group.symbol ++ acc.symbolsFailed).Perm (done ++ [sym])
      rw [List.map_append, List.map_singleton, hsymbol, List.append_assoc]
      refine (List.Perm.append_left _ List.perm_append_comm).trans ?_
      rw [← List.append_assoc]
      exact hacc.symbols.append_right [sym]

theorem scanned_scanEach {probItm : ProbItm} {today : Int} {body : ScreenerRequest} :
    ∀ {scans : List (String × Reads)} {acc last : Progress} {done : List String}, Scanned acc done →
    scanEach probItm today body scans acc = .ok last → Scanned last (done ++ scans.map Prod.fst)
  | [], acc, last, done, hacc, h => by
    cases h
    simpa using hacc
  | (sym, reads) :: scans, acc, last, done, hacc, h => by
    rw [scanEach] at h
    split at h
    · cases h
    · rename_i scan hscan
      have hnext := scanned_scanEach (scanned_add hacc hscan) h
      rwa [List.append_assoc] at hnext

theorem postScreenerEach_ranked {probItm : ProbItm} {today : Int} {db : Bool} {body : ScreenerRequest}
    {reads : Nat → Reads} {a : ScreenerAnswer}
    (h : postScreenerEach probItm today db body reads = .ok (.answer a)) : RankedAnswer body a := by
  unfold postScreenerEach at h
  split at h
  · cases h
  · split at h
    · cases h
    · split at h
      · cases h
      · split at h
        · cases h
        · rename_i acc hacc
          obtain rfl := Response.answer.inj (Except.ok.inj h)
          have hstart : Scanned {} [] := ⟨by simp, rfl, List.Perm.refl _, by simp⟩
          have hdone := scanned_scanEach hstart hacc
          have hperm := List.mergeSort_perm acc.groups fun a b => b.bestScore ≤ a.bestScore
          have hsymbols : ([] : List String) ++
              ((symbolsClean body).zipIdx.map fun s => (s.1, reads s.2)).map Prod.fst = symbolsClean body := by
            rw [List.nil_append, List.map_map]
            exact List.zipIdx_map_fst 0 (symbolsClean body)
          rw [hsymbols] at hdone
          refine ⟨fun g hg => hdone.ranked g (hperm.mem_iff.1 hg),
            (StableSort.sortDesc_sorted Group.bestScore acc.groups).sorted, ?_, ?_, hdone.warnings⟩
          · rw [hdone.totalContracts]
            exact ((hperm.map _).sum_nat).symm
          · exact ((hperm.map Group.symbol).append_right _).trans hdone.symbols

/-- **Main.** The score, the groups of a scan and the answer of a request are in order, however often a symbol is
asked for and whatever each of its scans reads. -/
theorem screener_ranked (probItm : ProbItm) (today : Int) (body : ScreenerRequest) :
    ScoreSpec ∧
    (∀ sym reads g warning, scanCsp probItm today body sym reads = .ok (some g, warning) → RankedGroup g) ∧
    ∀ db (reads : Nat → Reads) a,
      postScreenerEach probItm today db body reads = .ok (.answer a) → RankedAnswer body a :=
  ⟨scoreSpec, fun _ _ _ _ => scanCsp_ranked, fun _ _ _ => postScreenerEach_ranked⟩

/-! ## A symbol asked for twice -/

def askedTwice : ScreenerRequest := { symbols := ["XYZ", " xyz "] }

/-- The first scan finds no rows, the second one put. -/
def secondReads (i : Nat) : Reads :=
  ⟨some (.float (.fin 100)), .ok ["20261016"],
    .ok (if i = 0 then [] else [[("contract_key", .str "XYZ|OPT|20261016|95.0|P"), ("mid", .float (.fin (6 / 5)))]]),
    .ok (⟨none, none, none, none⟩, none)⟩

def answerOf : Except Exc Response → Option ScreenerAnswer
  | .ok (.answer a) => some a
  | _ => none

/-- `"XYZ"` is in the groups and among the failed, and the answer is in order. -/
theorem screener_ranked_askedTwice :
    ((answerOf (postScreenerEach (fun _ _ _ _ _ _ => .ok (.fin 0)) 739905 true askedTwice secondReads)).any fun a =>
      a.groups.map Group.symbol = ["XYZ"] && a.symbolsFailed = ["XYZ"]) = true ∧
    ∀ a, postScreenerEach (fun _ _ _ _ _ _ => .ok (.fin 0)) 739905 true askedTwice secondReads = .ok (.answer a) →
      RankedAnswer askedTwice a :=
  ⟨by decide +kernel, (screener_ranked _ 739905 askedTwice).2.2 true secondReads⟩

end BifrostApi.Research
