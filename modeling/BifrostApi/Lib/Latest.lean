import Mathlib.Order.Lattice

/-!
# The latest of several values

`latest acc xs` is the loop `for x in xs: if acc is None or x > acc: acc = x`. `IsLatest xs` says what it finds:
the greatest of the values, `none` of none. Two such loops one after the other, or the later of their results, find
the latest of both lists.
-/

namespace Latest

variable {α : Type} [LinearOrder α]

/-- `x if acc is None or x > acc else acc`. -/
def later : Option α → α → α
  | none, x => x
  | some y, x => if y < x then x else y

def latest (acc : Option α) (xs : List α) : Option α := xs.foldl (fun acc x => some (later acc x)) acc

def IsLatest (xs : List α) : Option α → Prop
  | none => xs = []
  | some x => x ∈ xs ∧ ∀ y ∈ xs, y ≤ x

theorem IsLatest.later {xs : List α} {a : Option α} (h : IsLatest xs a) (x : α) :
    IsLatest (xs ++ [x]) (some (later a x)) := by
  cases a with
  | none =>
    obtain rfl : xs = [] := h
    exact ⟨List.mem_singleton.2 rfl, fun y hy => (List.mem_singleton.1 hy).le⟩
  | some z =>
    obtain ⟨hz, hmax⟩ := h
    simp only [Latest.later]
    split
    · rename_i hlt
      refine ⟨List.mem_append_right _ (List.mem_singleton.2 rfl), fun y hy => ?_⟩
      rcases List.mem_append.1 hy with hy | hy
      · exact (hmax y hy).trans hlt.le
      · exact (List.mem_singleton.1 hy).le
    · rename_i hge
      refine ⟨List.mem_append_left _ hz, fun y hy => ?_⟩
      rcases List.mem_append.1 hy with hy | hy
      · exact hmax y hy
      · exact (List.mem_singleton.1 hy).le.trans (not_lt.1 hge)

theorem IsLatest.latest {xs : List α} {a : Option α} (h : IsLatest xs a) (ys : List α) :
    IsLatest (xs ++ ys) (latest a ys) := by
  induction ys generalizing xs a with
  | nil => rwa [List.append_nil]
  | cons y ys ih =>
    rw [List.append_cons]
    exact ih (h.later y)

/-- The loop from the start. -/
theorem isLatest_latest (xs : List α) : IsLatest xs (latest none xs) := by
  have hnil : IsLatest ([] : List α) none := rfl
  exact hnil.latest xs

/-- The later of two results is the latest of both lists. -/
theorem IsLatest.append {xs ys : List α} {a b : Option α} (ha : IsLatest xs a) (hb : IsLatest ys b) :
    IsLatest (xs ++ ys) (b.elim a fun y => some (Latest.later a y)) := by
  cases b with
  | none =>
    obtain rfl : ys = [] := hb
    rwa [List.append_nil]
  | some y =>
    have hlast := ha.later y
    refine ⟨List.mem_append.2 ?_, fun z hz => ?_⟩
    · rcases List.mem_append.1 hlast.1 with hmem | hmem
      · exact Or.inl hmem
      · rw [List.mem_singleton.1 hmem]
        exact Or.inr hb.1
    · rcases List.mem_append.1 hz with hz | hz
      · exact hlast.2 z (List.mem_append_left _ hz)
      · exact (hb.2 z hz).trans (hlast.2 y (List.mem_append_right _ (List.mem_singleton.2 rfl)))

/-- More values leave the latest as it is when none of them is later than all of the first. -/
theorem IsLatest.append_iff {xs ys : List α} {a : Option α} (h : IsLatest xs a) :
    IsLatest (xs ++ ys) a ↔ ∀ y ∈ ys, ∃ x ∈ xs, y ≤ x := by
  constructor
  · intro hall y hy
    cases a with
    | none => exact absurd (hall ▸ List.mem_append_right xs hy) List.not_mem_nil
    | some x => exact ⟨x, h.1, hall.2 y (List.mem_append_right _ hy)⟩
  · intro hold
    cases a with
    | none =>
      obtain rfl : xs = [] := h
      refine List.eq_nil_iff_forall_not_mem.2 fun y hy => ?_
      obtain ⟨x, hx, -⟩ := hold y hy
      exact List.not_mem_nil hx
    | some x =>
      refine ⟨List.mem_append_left _ h.1, fun y hy => ?_⟩
      rcases List.mem_append.1 hy with hy | hy
      · exact h.2 y hy
      · obtain ⟨z, hz, hle⟩ := hold y hy
        exact hle.trans (h.2 z hz)

end Latest
