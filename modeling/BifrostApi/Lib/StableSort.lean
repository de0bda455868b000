import Mathlib.Data.List.Forall2
import Mathlib.Data.List.Nodup
import Mathlib.Data.List.Perm.Subperm
import Mathlib.Order.Lattice

/-!
# Sorting by a key

`sortDesc key xs` is `sorted(xs, key=key, reverse=True)`: the largest key first, elements of one key in the order
they came in. `SortedDesc` says that of any two lists. `sortAsc key xs` is `sorted(xs, key=key)`, the same in the
dual order.
-/

namespace StableSort

variable {α κ : Type} [LinearOrder κ]

def sortDesc (key : α → κ) (xs : List α) : List α := xs.mergeSort fun a b => key b ≤ key a

/-- `ys` has the elements of `xs`, the largest key first and each key's elements in order. -/
structure SortedDesc (key : α → κ) (xs ys : List α) : Prop where
  perm : ys.Perm xs
  sorted : ys.Pairwise fun a b => key b ≤ key a
  stable : ∀ k, ys.filter (key · = k) = xs.filter (key · = k)

theorem sortDesc_sorted (key : α → κ) (xs : List α) : SortedDesc key xs (sortDesc key xs) := by
  have htrans : ∀ a b c : α, decide (key b ≤ key a) = true → decide (key c ≤ key b) = true →
      decide (key c ≤ key a) = true := by
    intro a b c hab hbc
    rw [decide_eq_true_eq] at hab hbc ⊢
    exact le_trans hbc hab
  have htotal : ∀ a b : α, (decide (key b ≤ key a) || decide (key a ≤ key b)) = true := by
    intro a b
    rw [Bool.or_eq_true, decide_eq_true_eq, decide_eq_true_eq]
    exact le_total (key b) (key a)
  have hperm : (sortDesc key xs).Perm xs := List.mergeSort_perm _ _
  refine ⟨hperm, ?_, fun k => ?_⟩
  · exact (List.pairwise_mergeSort htrans htotal xs).imp fun h => of_decide_eq_true h
  · have hsame : (xs.filter (key · = k)).Pairwise fun a b => decide (key b ≤ key a) = true := by
      apply List.pairwise_of_forall_mem_list
      intro a ha b hb
      have hka : key a = k := of_decide_eq_true (List.mem_filter.1 ha).2
      have hkb : key b = k := of_decide_eq_true (List.mem_filter.1 hb).2
      rw [decide_eq_true_eq, hka, hkb]
    have hsub : (xs.filter (key · = k)).Sublist (sortDesc key xs) :=
      List.sublist_mergeSort htrans htotal hsame List.filter_sublist
    have hfilter := hsub.filter (key · = k)
    rw [List.filter_filter] at hfilter
    simp only [Bool.and_self] at hfilter
    exact (hfilter.eq_of_length (hperm.filter _).length_eq.symm).symm

/-- An element is nowhere after one with a smaller key. -/
theorem SortedDesc.le_of_split {key : α → κ} {xs before after : List α} {a b : α}
    (h : SortedDesc key xs (before ++ a :: after)) (hb : b ∈ after) : key b ≤ key a := by
  have hsuffix := (List.pairwise_append.1 h.sorted).2.1
  exact (List.pairwise_cons.1 hsuffix).1 b hb

/-- Elements of different keys have one order only. -/
theorem SortedDesc.eq_of_strict {key : α → κ} {xs ys zs : List α} (h : SortedDesc key xs ys) (hperm : zs.Perm xs)
    (hzs : zs.Pairwise fun a b => key b < key a) : ys = zs := by
  have hkeys : ∀ a ∈ zs, ∀ b ∈ zs, key a = key b → a = b := by
    have hnodup : (zs.map key).Nodup := List.pairwise_map.2 (hzs.imp fun hlt => ne_of_gt hlt)
    exact fun a ha b hb => List.inj_on_of_nodup_map hnodup ha hb
  refine List.Perm.eq_of_pairwise (fun a b ha hb hab hba => ?_) h.sorted (hzs.imp le_of_lt) (h.perm.trans hperm.symm)
  exact hkeys a (hperm.mem_iff.2 (h.perm.mem_iff.1 ha)) b hb (le_antisymm hba hab)

theorem sortDesc_eq_of_strict {key : α → κ} {xs ys : List α} (hperm : ys.Perm xs)
    (h : ys.Pairwise fun a b => key b < key a) : sortDesc key xs = ys :=
  (sortDesc_sorted key xs).eq_of_strict hperm h

/-! ## Two sorted lists -/

theorem filter_class_self (key : α → κ) (x : α) (xs : List α) :
    (x :: xs).filter (key · = key x) = x :: xs.filter (key · = key x) :=
  List.filter_cons_of_pos (decide_eq_true rfl)

theorem filter_class_other {key : α → κ} {x : α} {k : κ} (h : key x ≠ k) (xs : List α) :
    (x :: xs).filter (key · = k) = xs.filter (key · = k) :=
  List.filter_cons_of_neg (by simpa using h)

/-- No element of a sorted list has a larger key than the first. -/
theorem le_head_of_mem {key : α → κ} {x a : α} {xs : List α} (h : (x :: xs).Pairwise fun a b => key b ≤ key a)
    (ha : a ∈ x :: xs) : key a ≤ key x := by
  rcases List.mem_cons.1 ha with rfl | ha
  · exact le_refl _
  · exact (List.pairwise_cons.1 h).1 a ha

/-- Two sorted lists correspond as soon as, for each key, their elements of that key do. -/
theorem forall₂_of_classes {β : Type} {R : α → β → Prop} {key : α → κ} {key' : β → κ} : ∀ {xs : List α} {ys : List β},
    (xs.Pairwise fun a b => key b ≤ key a) → (ys.Pairwise fun a b => key' b ≤ key' a) →
    (∀ k, List.Forall₂ R (xs.filter (key · = k)) (ys.filter (key' · = k))) → List.Forall₂ R xs ys
  | [], [], _, _, _ => .nil
  | [], y :: ys, _, _, h => by
    have hclass := h (key' y)
    rw [List.filter_nil, filter_class_self] at hclass
    cases hclass
  | x :: xs, [], _, _, h => by
    have hclass := h (key x)
    rw [List.filter_nil, filter_class_self] at hclass
    cases hclass
  | x :: xs, y :: ys, hxs, hys, h => by
    -- each list has an element of the other's largest key
    have hle : key x ≤ key' y := by
      have hclass := h (key x)
      rw [filter_class_self] at hclass
      obtain ⟨b, _, -, -, hb⟩ := List.forall₂_cons_left_iff.1 hclass
      have hmem := List.mem_filter.1 (hb ▸ List.mem_cons_self : b ∈ (y :: ys).filter (key' · = key x))
      exact of_decide_eq_true hmem.2 ▸ le_head_of_mem hys hmem.1
    have hge : key' y ≤ key x := by
      have hclass := h (key' y)
      rw [filter_class_self key'] at hclass
      obtain ⟨a, _, -, -, ha⟩ := List.forall₂_cons_right_iff.1 hclass
      have hmem := List.mem_filter.1 (ha ▸ List.mem_cons_self : a ∈ (x :: xs).filter (key · = key' y))
      exact of_decide_eq_true hmem.2 ▸ le_head_of_mem hxs hmem.1
    have hkeys : key x = key' y := le_antisymm hle hge
    have hfirst := h (key x)
    rw [filter_class_self, hkeys, filter_class_self key'] at hfirst
    obtain ⟨hxy, hrest⟩ := List.forall₂_cons.1 hfirst
    refine List.Forall₂.cons hxy
      (forall₂_of_classes (List.pairwise_cons.1 hxs).2 (List.pairwise_cons.1 hys).2 fun k => ?_)
    by_cases hk : key' y = k
    · exact hk ▸ hrest
    · have hclass := h k
      rw [filter_class_other (hkeys.trans_ne hk), filter_class_other hk] at hclass
      exact hclass

theorem forall₂_sortDesc {β : Type} {R : α → β → Prop} {key : α → κ} {key' : β → κ} {xs : List α} {ys : List β}
    (h : ∀ k, List.Forall₂ R (xs.filter (key · = k)) (ys.filter (key' · = k))) :
    List.Forall₂ R (sortDesc key xs) (sortDesc key' ys) := by
  have hxs := sortDesc_sorted key xs
  have hys := sortDesc_sorted key' ys
  refine forall₂_of_classes hxs.sorted hys.sorted fun k => ?_
  rw [hxs.stable, hys.stable]
  exact h k

/-! ## The elements in front -/

/-- In a list that has the elements with `p` in front, they are as many as there are with `p`. -/
theorem getElem_iff_lt_countP {p : α → Bool} {xs : List α}
    (h : xs.Pairwise fun a b => p b = true → p a = true) {i : Nat} (hi : i < xs.length) :
    p xs[i] = true ↔ i < xs.countP p := by
  induction xs generalizing i with
  | nil => exact absurd hi (Nat.not_lt_zero i)
  | cons x xs ih =>
    obtain ⟨hfirst, hrest⟩ := List.pairwise_cons.1 h
    by_cases hx : p x = true
    · rw [List.countP_cons_of_pos hx]
      cases i with
      | zero => simp [hx]
      | succ i =>
        rw [List.getElem_cons_succ, ih hrest (Nat.lt_of_succ_lt_succ hi)]
        exact Nat.succ_lt_succ_iff.symm
    · have hnone : xs.countP p = 0 := List.countP_eq_zero.2 fun y hy hpy => hx (hfirst y hy hpy)
      rw [List.countP_cons_of_neg hx, hnone]
      refine iff_of_false (fun hp => hx ?_) (Nat.not_lt_zero i)
      cases i with
      | zero => exact hp
      | succ i => exact hfirst _ (List.getElem_mem _) hp

/-! ## Smallest first -/

def sortAsc (key : α → κ) (xs : List α) : List α := xs.mergeSort fun a b => key a ≤ key b

/-- `ys` has the elements of `xs`, the smallest key first and each key's elements in order. -/
structure SortedAsc (key : α → κ) (xs ys : List α) : Prop where
  perm : ys.Perm xs
  sorted : ys.Pairwise fun a b => key a ≤ key b
  stable : ∀ k, ys.filter (key · = k) = xs.filter (key · = k)

theorem sortAsc_sorted (key : α → κ) (xs : List α) : SortedAsc key xs (sortAsc key xs) := by
  obtain ⟨hperm, hsorted, hstable⟩ := sortDesc_sorted (fun a => OrderDual.toDual (key a)) xs
  exact ⟨hperm, hsorted, hstable⟩

theorem SortedAsc.eq_of_strict {key : α → κ} {xs ys zs : List α} (h : SortedAsc key xs ys) (hperm : zs.Perm xs)
    (hzs : zs.Pairwise fun a b => key a < key b) : ys = zs :=
  @SortedDesc.eq_of_strict _ _ _ (fun a => OrderDual.toDual (key a)) _ _ _ ⟨h.perm, h.sorted, h.stable⟩ hperm hzs

theorem mem_sortAsc {key : α → κ} {xs : List α} {a : α} : a ∈ sortAsc key xs ↔ a ∈ xs :=
  (sortAsc_sorted key xs).perm.mem_iff

/-- Distinct elements are in strict order of any key that tells them apart. -/
theorem sortAsc_strict {key : α → κ} (hkey : Function.Injective key) {xs : List α} (hxs : xs.Nodup) :
    (sortAsc key xs).Pairwise fun a b => key a < key b := by
  have hsorted := sortAsc_sorted key xs
  have hnodup : (sortAsc key xs).Nodup := hsorted.perm.nodup_iff.2 hxs
  exact hsorted.sorted.imp₂ (fun a b hle hne => lt_of_le_of_ne hle fun h => hne (hkey h)) hnodup

/-- A search through the sorted list finds, of the elements that qualify, one with the smallest key. -/
theorem findSome?_sortAsc {β : Type} {key : α → κ} {xs : List α} {f : α → Option β} {b : β}
    (h : (sortAsc key xs).findSome? f = some b) :
    ∃ a ∈ xs, f a = some b ∧ ∀ x ∈ xs, (f x).isSome → key a ≤ key x := by
  obtain ⟨before, a, after, hsplit, ha, hbefore⟩ := List.findSome?_eq_some_iff.1 h
  have hsorted := (sortAsc_sorted key xs).sorted
  rw [hsplit] at hsorted
  have hmem : ∀ {x}, x ∈ xs ↔ x ∈ before ++ a :: after := fun {x} => by rw [← hsplit, mem_sortAsc]
  refine ⟨a, hmem.2 (List.mem_append_right _ List.mem_cons_self), ha, fun x hx hsome => ?_⟩
  rcases List.mem_append.1 (hmem.1 hx) with hx | hx
  · rw [hbefore x hx] at hsome
    cases hsome
  · rcases List.mem_cons.1 hx with rfl | hx
    · exact le_refl _
    · exact (List.pairwise_cons.1 (List.pairwise_append.1 hsorted).2.1).1 x hx

end StableSort
