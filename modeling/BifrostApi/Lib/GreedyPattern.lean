import Mathlib.Data.List.TakeWhile

/-!
# Patterns of literals and greedy groups

A pattern is a list of pieces: one literal, or a group of one or more elements none of which is `sep`, as long as
it can be (a backtracking matcher tries the longest run first). `accept` decides on what is left at the end.
`matchPieces` returns what the groups took.

A template is a list of segments, each behind a `sep`; `Fits` says which inputs it describes. The pattern of a
template finds what fits (`matchPieces_of_fits`) and nothing else (`fits_of_matchPieces`).
-/

namespace GreedyPattern

variable {α : Type}

inductive Piece (α : Type)
  | lit (c : α)
  | group
  deriving DecidableEq, Repr

inductive Segment (α : Type)
  | text (cs : List α)
  | hole

def Segment.pieces : Segment α → List (Piece α)
  | .text cs => cs.map .lit
  | .hole => [.group]

def pattern (sep : α) (segs : List (Segment α)) : List (Piece α) := segs.flatMap fun s => .lit sep :: s.pieces

/-- The input has the template's texts, and `ids` in its holes: each of one or more elements other than `sep`. -/
inductive Fits (sep : α) : List (Segment α) → List α → List (List α) → Prop
  | nil : Fits sep [] [] []
  | text {segs cs ids} (t : List α) : Fits sep segs cs ids → Fits sep (.text t :: segs) (sep :: t ++ cs) ids
  | hole {segs cs ids} (id : List α) : id ≠ [] → sep ∉ id → Fits sep segs cs ids →
      Fits sep (.hole :: segs) (sep :: id ++ cs) (id :: ids)

theorem Fits.head? {sep : α} {segs : List (Segment α)} {cs : List α} {ids : List (List α)} (h : Fits sep segs cs ids)
    {rest : List α} (hrest : ∀ c ∈ rest.head?, c = sep) : ∀ c ∈ (cs ++ rest).head?, c = sep := by
  cases h with
  | nil => exact hrest
  | text t h => exact fun c hc => (Option.some.inj hc).symm
  | hole id hne hid h => exact fun c hc => (Option.some.inj hc).symm

def Segment.isHole : Segment α → Bool
  | .text _ => false
  | .hole => true

section

variable {sep : α} {segs : List (Segment α)} {cs : List α} {ids : List (List α)}

theorem Fits.length_ids (h : Fits sep segs cs ids) : ids.length = segs.countP Segment.isHole := by
  induction h with
  | nil => rfl
  | text t h ih => rw [ih, List.countP_cons_of_neg Bool.false_ne_true]
  | hole id hne hid h ih => rw [List.length_cons, ih, List.countP_cons_of_pos rfl]

theorem Fits.ne_nil (h : Fits sep segs cs ids) : ∀ id ∈ ids, id ≠ [] := by
  induction h with
  | nil => exact fun id hid => (List.not_mem_nil hid).elim
  | text t h ih => exact ih
  | hole id hne hid h ih => exact List.forall_mem_cons.2 ⟨hne, ih⟩

theorem Fits.forall_mem {P : α → Prop} (h : Fits sep segs cs ids) (hsep : P sep)
    (htext : ∀ t, Segment.text t ∈ segs → ∀ c ∈ t, P c) (hids : ∀ id ∈ ids, ∀ c ∈ id, P c) : ∀ c ∈ cs, P c := by
  induction h with
  | nil => exact fun c hc => (List.not_mem_nil hc).elim
  | text t h ih =>
    intro c hc
    rcases List.mem_append.1 hc with hc | hc
    · rcases List.mem_cons.1 hc with rfl | hc
      · exact hsep
      · exact htext t List.mem_cons_self c hc
    · exact ih (fun t ht => htext t (List.mem_cons_of_mem _ ht)) hids c hc
  | hole id hne hid h ih =>
    intro c hc
    rcases List.mem_append.1 hc with hc | hc
    · rcases List.mem_cons.1 hc with rfl | hc
      · exact hsep
      · exact hids id List.mem_cons_self c hc
    · exact ih (fun t ht => htext t (List.mem_cons_of_mem _ ht))
        (fun id hid => hids id (List.mem_cons_of_mem _ hid)) c hc

theorem Fits.mem_of_text (h : Fits sep segs cs ids) {t : List α} (ht : Segment.text t ∈ segs) {c : α} (hc : c ∈ t) :
    c ∈ cs := by
  induction h with
  | nil => exact (List.not_mem_nil ht).elim
  | text t' h ih =>
    rcases List.mem_cons.1 ht with heq | ht
    · obtain rfl := Segment.text.inj heq
      exact List.mem_append_left _ (List.mem_cons_of_mem _ hc)
    · exact List.mem_append_right _ (ih ht)
  | hole id hne hid h ih =>
    rcases List.mem_cons.1 ht with heq | ht
    · cases heq
    · exact List.mem_append_right _ (ih ht)

end

variable [DecidableEq α]

/-- An input that fits has a segment for each of the template's. -/
theorem Fits.count_sep {sep : α} {segs : List (Segment α)} {cs : List α} {ids : List (List α)}
    (h : Fits sep segs cs ids) (htext : ∀ t, Segment.text t ∈ segs → sep ∉ t) : cs.count sep = segs.length := by
  induction h with
  | nil => rfl
  | text t h ih =>
    rw [List.cons_append, List.count_cons_self, List.count_append,
      List.count_eq_zero_of_not_mem (htext t List.mem_cons_self), Nat.zero_add,
      ih fun t ht => htext t (List.mem_cons_of_mem _ ht), List.length_cons]
  | hole id hne hid h ih =>
    rw [List.cons_append, List.count_cons_self, List.count_append, List.count_eq_zero_of_not_mem hid, Nat.zero_add,
      ih fun t ht => htext t (List.mem_cons_of_mem _ ht), List.length_cons]

/-- `[n, …, 1]`, the lengths in the order they are tried. -/
def longestFirst : Nat → List Nat
  | 0 => []
  | n + 1 => (n + 1) :: longestFirst n

def matchPieces (sep : α) (accept : List α → Bool) : List (Piece α) → List α → Option (List (List α))
  | [], cs => if accept cs then some [] else none
  | .lit _ :: _, [] => none
  | .lit c :: ps, d :: cs => if d = c then matchPieces sep accept ps cs else none
  | .group :: ps, cs =>
    (longestFirst (cs.takeWhile (· ≠ sep)).length).findSome? fun n =>
      (matchPieces sep accept ps (cs.drop n)).map (cs.take n :: ·)

/-! ## Pieces -/

theorem mem_longestFirst {n k : Nat} : k ∈ longestFirst n ↔ 0 < k ∧ k ≤ n := by
  induction n with
  | zero => simp [longestFirst]; omega
  | succ n ih => rw [longestFirst, List.mem_cons, ih]; omega

variable {sep : α} {accept : List α → Bool}

theorem matchPieces_lits (text : List α) (ps : List (Piece α)) (rest : List α) :
    matchPieces sep accept (text.map .lit ++ ps) (text ++ rest) = matchPieces sep accept ps rest := by
  induction text with
  | nil => rfl
  | cons c text ih => rw [List.map_cons, List.cons_append, List.cons_append, matchPieces, if_pos rfl, ih]

theorem exists_of_matchPieces_lits {ps : List (Piece α)} {ids : List (List α)} : ∀ {text cs : List α},
    matchPieces sep accept (text.map .lit ++ ps) cs = some ids →
      ∃ rest, cs = text ++ rest ∧ matchPieces sep accept ps rest = some ids
  | [], cs, h => ⟨cs, rfl, h⟩
  | c :: text, [], h => by
    rw [List.map_cons, List.cons_append, matchPieces] at h
    cases h
  | c :: text, d :: cs, h => by
    rw [List.map_cons, List.cons_append, matchPieces] at h
    split at h
    next heq =>
      obtain ⟨rest, rfl, hrest⟩ := exists_of_matchPieces_lits h
      exact ⟨rest, by rw [heq, List.cons_append], hrest⟩
    next => cases h

theorem ne_of_notMem {g : List α} (hg : sep ∉ g) : ∀ a ∈ g, decide (a ≠ sep) = true := by
  intro a ha
  have hne : a ≠ sep := fun h => hg (h ▸ ha)
  exact decide_eq_true hne

/-- A prefix without `sep` is no longer than the run the group may take. -/
theorem length_le_run {g rest : List α} (hg : sep ∉ g) :
    g.length ≤ ((g ++ rest).takeWhile (· ≠ sep)).length := by
  rw [List.takeWhile_append_of_pos (ne_of_notMem hg), List.length_append]
  omega

theorem exists_of_matchPieces_group {ps : List (Piece α)} {cs : List α} {ids : List (List α)}
    (h : matchPieces sep accept (.group :: ps) cs = some ids) :
    ∃ g rest ids', cs = g ++ rest ∧ g ≠ [] ∧ sep ∉ g ∧ matchPieces sep accept ps rest = some ids' ∧
      ids = g :: ids' := by
  rw [matchPieces] at h
  obtain ⟨n, hn, hids⟩ := List.exists_of_findSome?_eq_some h
  obtain ⟨ids', hrest, rfl⟩ := Option.map_eq_some_iff.1 hids
  obtain ⟨hpos, hle⟩ := mem_longestFirst.1 hn
  have hrun : cs.take n <+: cs.takeWhile (· ≠ sep) :=
    List.prefix_of_prefix_length_le (List.take_prefix n cs) (List.takeWhile_prefix _)
      (by rw [List.length_take]; omega)
  have hlen : (cs.takeWhile (· ≠ sep)).length ≤ cs.length := (List.takeWhile_prefix _).length_le
  refine ⟨cs.take n, cs.drop n, ids', (List.take_append_drop n cs).symm, ?_, ?_, hrest, rfl⟩
  · intro hnil
    have := congrArg List.length hnil
    rw [List.length_take, List.length_nil] at this
    omega
  · intro hmem
    have hsep := List.mem_takeWhile_imp (p := fun x => decide (x ≠ sep)) (hrun.subset hmem)
    exact of_decide_eq_true hsep rfl

/-- Some group is found when one is there. -/
theorem matchPieces_group_isSome {ps : List (Piece α)} {g rest : List α} (hne : g ≠ []) (hg : sep ∉ g)
    (h : (matchPieces sep accept ps rest).isSome) :
    (matchPieces sep accept (.group :: ps) (g ++ rest)).isSome := by
  rw [matchPieces, List.findSome?_isSome_iff]
  refine ⟨g.length, mem_longestFirst.2 ⟨List.length_pos_iff.2 hne, length_le_run hg⟩, ?_⟩
  rw [List.drop_left, Option.isSome_map]
  exact h

/-- A group that ends at a `sep` or at the end of the input is found whole. -/
theorem matchPieces_group {ps : List (Piece α)} {g rest : List α} {ids : List (List α)} (hne : g ≠ [])
    (hg : sep ∉ g) (hrest : ∀ c ∈ rest.head?, c = sep) (h : matchPieces sep accept ps rest = some ids) :
    matchPieces sep accept (.group :: ps) (g ++ rest) = some (g :: ids) := by
  have hstop : rest.takeWhile (· ≠ sep) = [] := by
    cases rest with
    | nil => rfl
    | cons c rest =>
      have hc : c = sep := hrest c rfl
      rw [List.takeWhile_cons_of_neg (by simpa using hc)]
  have hlen : ∃ n, g.length = n + 1 := ⟨g.length - 1, by have := List.length_pos_iff.2 hne; omega⟩
  obtain ⟨n, hn⟩ := hlen
  rw [matchPieces, List.takeWhile_append_of_pos (ne_of_notMem hg), hstop, List.append_nil, hn, longestFirst,
    List.findSome?_cons, ← hn, List.drop_left, List.take_left, h, Option.map_some]

/-! ## Templates and their patterns -/

/-- **Main.** What is matched fits, up to what `accept` takes at the end. -/
theorem fits_of_matchPieces : ∀ {segs : List (Segment α)} {cs : List α} {ids : List (List α)},
    matchPieces sep accept (pattern sep segs) cs = some ids →
      ∃ p rest, cs = p ++ rest ∧ Fits sep segs p ids ∧ accept rest = true
  | [], cs, ids, h => by
    rw [pattern, List.flatMap_nil, matchPieces] at h
    split at h
    next haccept =>
      obtain rfl := Option.some.inj h
      exact ⟨[], cs, rfl, .nil, haccept⟩
    next => cases h
  | .text t :: segs, cs, ids, h => by
    have hlits : pattern sep (.text t :: segs) = (sep :: t).map .lit ++ pattern sep segs := rfl
    rw [hlits] at h
    obtain ⟨cs', rfl, h'⟩ := exists_of_matchPieces_lits h
    obtain ⟨p, rest, rfl, hfits, haccept⟩ := fits_of_matchPieces h'
    exact ⟨sep :: t ++ p, rest, (List.append_assoc _ _ _).symm, .text t hfits, haccept⟩
  | .hole :: segs, cs, ids, h => by
    have hlits : pattern sep (.hole :: segs) = [sep].map .lit ++ .group :: pattern sep segs := rfl
    rw [hlits] at h
    obtain ⟨cs', rfl, h'⟩ := exists_of_matchPieces_lits h
    obtain ⟨id, rest, ids', rfl, hne, hid, hrest, rfl⟩ := exists_of_matchPieces_group h'
    obtain ⟨p, rest', rfl, hfits, haccept⟩ := fits_of_matchPieces hrest
    refine ⟨sep :: id ++ p, rest', ?_, .hole id hne hid hfits, haccept⟩
    rw [List.singleton_append, List.cons_append, List.cons_append, List.append_assoc]

/-- **Main.** What fits is matched, each hole with its own text, when the rest starts a new segment or is empty. -/
theorem matchPieces_of_fits {segs : List (Segment α)} {p : List α} {ids : List (List α)} (h : Fits sep segs p ids)
    {rest : List α} (hrest : ∀ c ∈ rest.head?, c = sep) (haccept : accept rest = true) :
    matchPieces sep accept (pattern sep segs) (p ++ rest) = some ids := by
  induction h with
  | nil => rw [pattern, List.flatMap_nil, List.nil_append, matchPieces, if_pos haccept]
  | @text segs cs ids t hfits ih =>
    have hlits : pattern sep (.text t :: segs) = (sep :: t).map .lit ++ pattern sep segs := rfl
    rw [hlits, List.append_assoc, matchPieces_lits, ih]
  | @hole segs cs ids id hne hid hfits ih =>
    have hlits : pattern sep (.hole :: segs) = [sep].map .lit ++ .group :: pattern sep segs := rfl
    have happend : sep :: id ++ cs ++ rest = [sep] ++ (id ++ (cs ++ rest)) := by
      rw [List.cons_append, List.cons_append, List.append_assoc, List.singleton_append]
    rw [hlits, happend, matchPieces_lits, matchPieces_group hne hid (hfits.head? hrest) ih]

/-- What fits is matched somehow, whatever `accept` takes behind it. -/
theorem matchPieces_isSome_of_fits {segs : List (Segment α)} {p : List α} {ids : List (List α)}
    (h : Fits sep segs p ids) {rest : List α} (haccept : accept rest = true) :
    (matchPieces sep accept (pattern sep segs) (p ++ rest)).isSome := by
  induction h with
  | nil =>
    rw [pattern, List.flatMap_nil, List.nil_append, matchPieces, if_pos haccept]
    rfl
  | @text segs cs ids t hfits ih =>
    have hlits : pattern sep (.text t :: segs) = (sep :: t).map .lit ++ pattern sep segs := rfl
    rw [hlits, List.append_assoc, matchPieces_lits]
    exact ih
  | @hole segs cs ids id hne hid hfits ih =>
    have hlits : pattern sep (.hole :: segs) = [sep].map .lit ++ .group :: pattern sep segs := rfl
    have happend : sep :: id ++ cs ++ rest = [sep] ++ (id ++ (cs ++ rest)) := by
      rw [List.cons_append, List.cons_append, List.append_assoc, List.singleton_append]
    rw [hlits, happend, matchPieces_lits]
    exact matchPieces_group_isSome hne hid ih

end GreedyPattern
