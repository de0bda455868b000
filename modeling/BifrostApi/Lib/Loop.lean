import Mathlib.Data.List.Forall2

/-!
# Loops that may raise

`appendEach f xs` is `for x in xs: out.append(f(x))` under a handler outside the loop: what was appended, and the
error that ended the loop. When `f` raises on no element a loop is its pure version (`appendEach_of_forall`,
`mapM_of_forall`, `foldlM_of_forall`); one element on which it always raises ends it early.
-/

namespace Loop

variable {ε α β γ σ : Type}

def appendEach (f : α → Except ε β) : List α → List β × Option ε
  | [] => ([], none)
  | x :: xs => match f x with
    | .error e => ([], some e)
    | .ok b => let rest := appendEach f xs; (b :: rest.1, rest.2)

theorem appendEach_of_forall {f : α → Except ε β} {g : α → β} {xs : List α} (h : ∀ x ∈ xs, f x = .ok (g x)) :
    appendEach f xs = (xs.map g, none) := by
  induction xs with
  | nil => rfl
  | cons x xs ih =>
    rw [List.forall_mem_cons] at h
    rw [appendEach, h.1, ih h.2]
    rfl

/-- The loop ended early and left fewer elements. -/
theorem appendEach_of_error {f : α → Except ε β} {xs : List α} {x : α} {e : ε} (hx : x ∈ xs) (h : f x = .error e) :
    (appendEach f xs).1.length < xs.length ∧ ∃ e', (appendEach f xs).2 = some e' := by
  induction xs with
  | nil => exact absurd hx List.not_mem_nil
  | cons y ys ih =>
    cases hy : f y with
    | error e' =>
      rw [appendEach, hy]
      exact ⟨Nat.succ_pos _, e', rfl⟩
    | ok b =>
      have hys : x ∈ ys := by
        rcases List.mem_cons.1 hx with rfl | hys
        · rw [h] at hy
          cases hy
        · exact hys
      obtain ⟨hlt, hsome⟩ := ih hys
      rw [appendEach, hy]
      exact ⟨Nat.succ_lt_succ hlt, hsome⟩

theorem mapM_of_forall {f : α → Except ε β} {g : α → β} {xs : List α} (h : ∀ x ∈ xs, f x = .ok (g x)) :
    xs.mapM f = .ok (xs.map g) := by
  induction xs with
  | nil => rfl
  | cons x xs ih =>
    rw [List.forall_mem_cons] at h
    rw [List.mapM_cons, h.1, ih h.2]
    rfl

theorem forall_of_mapM {f : α → Except ε β} {xs : List α} {ys : List β} (h : xs.mapM f = .ok ys) :
    ∀ x ∈ xs, ∃ y, f x = .ok y := by
  induction xs generalizing ys with
  | nil => exact fun x hx => absurd hx List.not_mem_nil
  | cons x xs ih =>
    rw [List.mapM_cons] at h
    rw [List.forall_mem_cons]
    cases hx : f x with
    | error e =>
      rw [hx] at h
      cases h
    | ok y =>
      cases hxs : xs.mapM f with
      | error e =>
        rw [hx, hxs] at h
        cases h
      | ok zs => exact ⟨⟨y, rfl⟩, ih hxs⟩

/-- Loops that do the same on corresponding elements do the same. -/
theorem mapM_congr {R : α → β → Prop} {f : α → Except ε γ} {g : β → Except ε γ} {xs : List α} {ys : List β}
    (h : List.Forall₂ R xs ys) (hfg : ∀ x y, R x y → f x = g y) : xs.mapM f = ys.mapM g := by
  induction h with
  | nil => rfl
  | cons hxy _ ih => rw [List.mapM_cons, List.mapM_cons, hfg _ _ hxy, ih]

theorem foldlM_of_forall {f : σ → α → Except ε σ} {g : σ → α → σ} {xs : List α}
    (h : ∀ x ∈ xs, ∀ s, f s x = .ok (g s x)) (s : σ) : xs.foldlM f s = .ok (xs.foldl g s) := by
  induction xs generalizing s with
  | nil => rfl
  | cons x xs ih =>
    rw [List.forall_mem_cons] at h
    rw [List.foldlM_cons, h.1]
    exact ih h.2 (g s x)

/-- An element on which every turn raises ends the loop. -/
theorem foldlM_of_error {f : σ → α → Except ε σ} {xs : List α} {x : α} (hx : x ∈ xs)
    (h : ∀ s, ∃ e, f s x = .error e) (s : σ) : ∃ e, xs.foldlM f s = .error e := by
  induction xs generalizing s with
  | nil => exact absurd hx List.not_mem_nil
  | cons y ys ih =>
    rw [List.foldlM_cons]
    cases hy : f s y with
    | error e => exact ⟨e, rfl⟩
    | ok s' =>
      have hys : x ∈ ys := by
        rcases List.mem_cons.1 hx with rfl | hys
        · obtain ⟨e, he⟩ := h s
          rw [he] at hy
          cases hy
        · exact hys
      exact ih hys s'

end Loop
