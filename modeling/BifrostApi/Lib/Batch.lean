import Mathlib.Data.List.Perm.Lattice
import Mathlib.Data.List.Dedup

/-!
# Batches of a list

A client that asks for many names cuts the list into consecutive batches and asks for one batch after
the other. `answered rows batch` is what a server says to one batch: the rows of each distinct name in
it. `flatMap_answered` is the exact condition under which the batches together give what the whole list
would: no name with rows stands in two of them.
-/

namespace Batch

variable {α β : Type}

/-- `xs[i : i + n] for i in range(0, len(xs), n)`. -/
def batches (n : Nat) (xs : List α) : List (List α) :=
  (List.range ((xs.length + n - 1) / n)).map fun i => (xs.drop (i * n)).take n

@[simp] theorem batches_nil (n : Nat) : batches n ([] : List α) = [] := by
  have hnone : (0 + n - 1) / n = 0 := by
    rcases Nat.eq_zero_or_pos n with rfl | hn
    · rfl
    · exact Nat.div_eq_of_lt (by omega)
  rw [batches, List.length_nil, hnone]
  rfl

/-- One batch that holds everything. -/
theorem batches_length {xs : List α} (h : xs ≠ []) : batches xs.length xs = [xs] := by
  have hpos : 0 < xs.length := List.length_pos_iff.2 h
  have hone : (xs.length + xs.length - 1) / xs.length = 1 := by
    apply Nat.div_eq_of_lt_le <;> omega
  rw [batches, hone]
  simp

/-- Asking for everything in one batch; an empty list is no batch at all. -/
theorem flatMap_batches_length {f : List α → List β} (hf : f [] = []) (xs : List α) :
    (batches xs.length xs).flatMap f = f xs := by
  cases xs with
  | nil => simp [hf]
  | cons x xs => rw [batches_length (List.cons_ne_nil x xs), List.flatMap_singleton]

theorem mem_of_mem_batches {n : Nat} {xs b : List α} {x : α} (hb : b ∈ batches n xs) (hx : x ∈ b) : x ∈ xs := by
  obtain ⟨i, -, rfl⟩ := List.mem_map.1 hb
  exact List.mem_of_mem_drop (List.mem_of_mem_take hx)

theorem ne_nil_of_mem_batches {n : Nat} {xs b : List α} (hb : b ∈ batches n xs) : b ≠ [] := by
  obtain ⟨i, hi, rfl⟩ := List.mem_map.1 hb
  have hlt : i < (xs.length + n - 1) / n := List.mem_range.1 hi
  rcases Nat.eq_zero_or_pos n with rfl | hn
  · simp at hlt
  · have hmul : (i + 1) * n ≤ xs.length + n - 1 := (Nat.le_div_iff_mul_le hn).1 hlt
    have hstart : i * n < xs.length := by
      rw [Nat.add_mul, Nat.one_mul] at hmul
      omega
    apply List.ne_nil_of_length_pos
    rw [List.length_take, List.length_drop]
    omega

/-- An element stands in batch `i / n`, `i` its position. -/
theorem mem_batch {n : Nat} (hn : 0 < n) {xs : List α} {b : Nat} {x : α} :
    x ∈ (xs.drop (b * n)).take n ↔ ∃ i, i / n = b ∧ xs[i]? = some x := by
  rw [List.mem_iff_getElem?]
  constructor
  · rintro ⟨j, hj⟩
    rw [List.getElem?_take] at hj
    split at hj
    · rename_i hlt
      rw [List.getElem?_drop] at hj
      refine ⟨b * n + j, ?_, hj⟩
      rw [Nat.mul_comm, Nat.mul_add_div hn, Nat.div_eq_of_lt hlt, Nat.add_zero]
    · cases hj
  · rintro ⟨i, rfl, hi⟩
    refine ⟨i % n, ?_⟩
    rw [List.getElem?_take, if_pos (Nat.mod_lt i hn), List.getElem?_drop, Nat.mul_comm, Nat.div_add_mod]
    exact hi

theorem position_lt {n : Nat} (hn : 0 < n) {xs : List α} {i : Nat} {x : α} (h : xs[i]? = some x) :
    i / n < (xs.length + n - 1) / n := by
  obtain ⟨hi, -⟩ := List.getElem?_eq_some_iff.1 h
  have hstep : i / n + 1 ≤ (xs.length + n - 1) / n := by
    rw [← Nat.add_div_right i hn]
    apply Nat.div_le_div_right
    omega
  exact hstep

/-- The batches hold the elements of the list. -/
theorem mem_batches {n : Nat} (hn : 0 < n) {xs : List α} {x : α} : (∃ b ∈ batches n xs, x ∈ b) ↔ x ∈ xs := by
  constructor
  · rintro ⟨b, hb, hx⟩
    exact mem_of_mem_batches hb hx
  · intro hx
    obtain ⟨i, hi⟩ := List.mem_iff_getElem?.1 hx
    have hrange : i / n ∈ List.range ((xs.length + n - 1) / n) := List.mem_range.2 (position_lt hn hi)
    exact ⟨_, List.mem_map_of_mem hrange, (mem_batch hn).2 ⟨i, rfl, hi⟩⟩

/-- Elements that satisfy `P` stand in at most one batch: their positions agree up to `n`. -/
theorem pairwise_batches {n : Nat} (hn : 0 < n) {xs : List α} {P : α → Prop} :
    ((batches n xs).Pairwise fun b b' => ∀ x ∈ b, x ∈ b' → P x) ↔
      ∀ i j x, xs[i]? = some x → xs[j]? = some x → i / n ≠ j / n → P x := by
  rw [batches, List.pairwise_map, List.pairwise_iff_getElem]
  simp only [List.length_range, List.getElem_range]
  constructor
  · intro h i j x hi hj hne
    have hbi := (mem_batch hn).2 ⟨i, rfl, hi⟩
    have hbj := (mem_batch hn).2 ⟨j, rfl, hj⟩
    rcases Nat.lt_or_gt_of_ne hne with hlt | hgt
    · exact h _ _ (position_lt hn hi) (position_lt hn hj) hlt x hbi hbj
    · exact h _ _ (position_lt hn hj) (position_lt hn hi) hgt x hbj hbi
  · intro h a b _ _ hlt x ha hb
    obtain ⟨i, rfl, hi⟩ := (mem_batch hn).1 ha
    obtain ⟨j, rfl, hj⟩ := (mem_batch hn).1 hb
    exact h i j x hi hj (Nat.ne_of_lt hlt)

/-! ## Answers by batch and answers to the whole -/

variable [DecidableEq α]

/-- The rows of each distinct name of a batch. -/
def answered (rows : α → List β) (batch : List α) : List β := batch.dedup.flatMap rows

/-- What is said about one name. -/
theorem answered_single (rows : α → List β) (x : α) (xs : List α) :
    answered (fun y => if y = x then rows y else []) xs = if x ∈ xs then rows x else [] := by
  have hnodup : ∀ {ys : List α}, ys.Nodup →
      ys.flatMap (fun y => if y = x then rows y else []) = if x ∈ ys then rows x else [] := by
    intro ys
    induction ys with
    | nil => simp
    | cons y ys ih =>
      intro hys
      obtain ⟨hy, hys⟩ := List.nodup_cons.1 hys
      rw [List.flatMap_cons, ih hys]
      by_cases hyx : y = x
      · subst hyx
        simp [hy]
      · simp [hyx, Ne.symm hyx]
  rw [answered, hnodup (List.nodup_dedup xs)]
  simp only [List.mem_dedup]

/-- A second batch adds the names that are new, and says again those that are not. -/
theorem answered_append (rows : α → List β) (b m : List α) :
    (answered rows b ++ answered rows m).Perm
      (answered rows (b ++ m) ++ (b.dedup.filter (· ∈ m)).flatMap rows) := by
  have hsplit : (b.dedup.filter (· ∉ m) ++ b.dedup.filter (· ∈ m)).Perm b.dedup := by
    have hperm := List.filter_append_perm (fun x => decide (x ∈ m)) b.dedup
    refine List.perm_append_comm.trans ?_
    simpa using hperm
  have hnew : (b.dedup.filter (· ∉ m) ++ m.dedup).Perm (b ++ m).dedup := by
    refine (List.perm_ext_iff_of_nodup ?_ (List.nodup_dedup _)).2 fun x => ?_
    · refine List.Nodup.append ((List.nodup_dedup b).filter _) (List.nodup_dedup m) ?_
      intro x hx hm
      simp only [List.mem_filter, List.mem_dedup, decide_eq_true_eq] at hx hm
      exact hx.2 hm
    · simp only [List.mem_append, List.mem_filter, List.mem_dedup, decide_eq_true_eq]
      by_cases hm : x ∈ m <;> simp [hm]
  have hnames : (b.dedup ++ m.dedup).Perm ((b ++ m).dedup ++ b.dedup.filter (· ∈ m)) := by
    calc List.Perm (b.dedup ++ m.dedup)
          ((b.dedup.filter (· ∉ m) ++ b.dedup.filter (· ∈ m)) ++ m.dedup) := hsplit.symm.append_right _
      List.Perm _ (b.dedup.filter (· ∉ m) ++ (m.dedup ++ b.dedup.filter (· ∈ m))) := by
          rw [List.append_assoc]
          exact List.perm_append_comm.append_left _
      List.Perm _ ((b ++ m).dedup ++ b.dedup.filter (· ∈ m)) := by
          rw [← List.append_assoc]
          exact hnew.append_right _
  unfold answered
  rw [← List.flatMap_append, ← List.flatMap_append]
  exact hnames.flatMap_right rows

/-- No name with rows stands in two of the batches. -/
def Apart (rows : α → List β) (bs : List (List α)) : Prop :=
  bs.Pairwise fun b b' => ∀ x ∈ b, x ∈ b' → rows x = []

/-- The batches answer everything the whole would, and something twice unless they are apart. -/
theorem flatMap_answered_extra (rows : α → List β) : ∀ bs : List (List α), ∃ extra : List β,
    (bs.flatMap (answered rows)).Perm (answered rows bs.flatten ++ extra) ∧ (extra = [] ↔ Apart rows bs)
  | [] => ⟨[], by simp [answered], iff_of_true rfl List.Pairwise.nil⟩
  | b :: bs => by
    obtain ⟨extra, hperm, hextra⟩ := flatMap_answered_extra rows bs
    refine ⟨(b.dedup.filter (· ∈ bs.flatten)).flatMap rows ++ extra, ?_, ?_⟩
    · rw [List.flatMap_cons, List.flatten_cons, ← List.append_assoc]
      refine (hperm.append_left _).trans ?_
      rw [← List.append_assoc]
      exact (answered_append rows b bs.flatten).append_right extra
    · rw [List.append_eq_nil_iff, hextra, List.flatMap_eq_nil_iff]
      unfold Apart
      rw [List.pairwise_cons]
      refine and_congr_left fun _ => ⟨fun h b' hb' x hx hx' => h x ?_, fun h x hx => ?_⟩
      · simp only [List.mem_filter, List.mem_dedup, decide_eq_true_eq]
        exact ⟨hx, List.mem_flatten.2 ⟨b', hb', hx'⟩⟩
      · simp only [List.mem_filter, List.mem_dedup, decide_eq_true_eq] at hx
        obtain ⟨b', hb', hx'⟩ := List.mem_flatten.1 hx.2
        exact h b' hb' x hx.1 hx'

/-- The batches answer what the whole list would exactly when they are apart. -/
theorem flatMap_answered (rows : α → List β) (bs : List (List α)) :
    (bs.flatMap (answered rows)).Perm (answered rows bs.flatten) ↔ Apart rows bs := by
  obtain ⟨extra, hperm, hextra⟩ := flatMap_answered_extra rows bs
  rw [← hextra]
  constructor
  · intro hwhole
    have hlength := (hwhole.symm.trans hperm).length_eq
    rw [List.length_append] at hlength
    exact List.eq_nil_of_length_eq_zero (by omega)
  · rintro rfl
    simpa using hperm

/-- The answer depends on which names a list has, not on how often or in which order. -/
theorem answered_perm (rows : α → List β) {xs ys : List α} (h : ∀ x, x ∈ xs ↔ x ∈ ys) :
    (answered rows xs).Perm (answered rows ys) := by
  apply List.Perm.flatMap_right
  exact (List.perm_ext_iff_of_nodup (List.nodup_dedup xs) (List.nodup_dedup ys)).2 fun x => by
    rw [List.mem_dedup, List.mem_dedup, h]

/-- **Main.** Cutting a list into batches of `n` changes no answer exactly when no name with rows stands
at two positions that fall into different batches. -/
theorem flatMap_answered_batches {n : Nat} (hn : 0 < n) (rows : α → List β) (xs : List α) :
    ((batches n xs).flatMap (answered rows)).Perm (answered rows xs) ↔
      ∀ i j x, xs[i]? = some x → xs[j]? = some x → i / n ≠ j / n → rows x = [] := by
  have hwhole : (answered rows (batches n xs).flatten).Perm (answered rows xs) :=
    answered_perm rows fun x => by rw [List.mem_flatten]; exact mem_batches hn
  rw [← pairwise_batches hn, ← Apart, ← flatMap_answered]
  exact ⟨fun h => h.trans hwhole.symm, fun h => h.trans hwhole⟩

end Batch
