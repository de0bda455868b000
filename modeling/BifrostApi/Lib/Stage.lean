import Mathlib.Data.List.Basic

/-!
# Stages that may skip or raise

A stage works on one item and raises (`error`), skips the item (`ok none`) or hands on a value. `next`
chains two stages, as `bind` does two that skip nothing, `collect` runs a stage over a list and stops at the
first exception. `Answers` says that nothing was raised.
-/

namespace Stage

variable {ε α β : Type}

/-- Nothing was raised. -/
def Answers (x : Except ε α) : Prop := ∃ a, x = .ok a

@[simp] theorem answers_ok (a : α) : Answers (.ok a : Except ε α) ↔ True := iff_of_true ⟨a, rfl⟩ trivial

@[simp] theorem answers_error (e : ε) : Answers (.error e : Except ε α) ↔ False :=
  iff_of_false (fun ⟨_, h⟩ => by cases h) id

theorem answers_map {f : α → β} {x : Except ε α} : Answers (x.map f) ↔ Answers x := by
  cases x with
  | ok a => simp [Except.map]
  | error e => simp [Except.map]

theorem bind_eq_ok {x : Except ε α} {f : α → Except ε β} {b : β} :
    (x >>= f) = .ok b ↔ ∃ a, x = .ok a ∧ f a = .ok b := by
  cases x with
  | ok a => simp [bind, Except.bind]
  | error e => simp [bind, Except.bind]

theorem bind_eq_error {x : Except ε α} {f : α → Except ε β} {e : ε} :
    (x >>= f) = .error e ↔ x = .error e ∨ ∃ a, x = .ok a ∧ f a = .error e := by
  cases x with
  | ok a => simp [bind, Except.bind]
  | error e' => simp [bind, Except.bind]

/-- The second stage works on what the first hands on. -/
def next (x : Except ε (Option α)) (f : α → Except ε (Option β)) : Except ε (Option β) :=
  match x with
  | .error e => .error e
  | .ok none => .ok none
  | .ok (some a) => f a

theorem next_eq_some {x : Except ε (Option α)} {f : α → Except ε (Option β)} {b : β} :
    next x f = .ok (some b) ↔ ∃ a, x = .ok (some a) ∧ f a = .ok (some b) := by
  match x with
  | .error e => simp [next]
  | .ok none => simp [next]
  | .ok (some a) => simp [next]

theorem answers_next {x : Except ε (Option α)} {f : α → Except ε (Option β)} :
    Answers (next x f) ↔ Answers x ∧ ∀ a, x = .ok (some a) → Answers (f a) := by
  match x with
  | .error e => simp [next]
  | .ok none => simp [next]
  | .ok (some a) => simp [next]

/-- What the stage hands on, item by item. -/
def collect (f : α → Except ε (Option β)) : List α → Except ε (List β)
  | [] => .ok []
  | a :: as => match f a with
    | .error e => .error e
    | .ok b => match collect f as with
      | .error e => .error e
      | .ok bs => .ok (b.toList ++ bs)

variable {f : α → Except ε (Option β)}

theorem collect_cons {a : α} {as : List α} {bs : List β} :
    collect f (a :: as) = .ok bs ↔ ∃ b bs', f a = .ok b ∧ collect f as = .ok bs' ∧ bs = b.toList ++ bs' := by
  rw [collect]
  cases f a with
  | error e => simp
  | ok b => cases collect f as with
    | error e => simp
    | ok bs' => simp [eq_comm]

/-- A list is collected exactly when no item of it raises. -/
theorem answers_collect : ∀ {as : List α}, Answers (collect f as) ↔ ∀ a ∈ as, Answers (f a)
  | [] => by simp [collect]
  | a :: as => by
    have ih := @answers_collect as
    rw [List.forall_mem_cons, ← ih]
    constructor
    · rintro ⟨bs, h⟩
      obtain ⟨b, bs', ha, has, -⟩ := collect_cons.1 h
      exact ⟨⟨b, ha⟩, ⟨bs', has⟩⟩
    · rintro ⟨⟨b, ha⟩, ⟨bs', has⟩⟩
      exact ⟨_, collect_cons.2 ⟨b, bs', ha, has, rfl⟩⟩

theorem mem_collect {b : β} : ∀ {as : List α} {bs : List β}, collect f as = .ok bs →
    (b ∈ bs ↔ ∃ a ∈ as, f a = .ok (some b))
  | [], bs, h => by
    cases h
    simp
  | a :: as, bs, h => by
    obtain ⟨b', bs', ha, has, rfl⟩ := collect_cons.1 h
    have ih := @mem_collect b as bs' has
    rw [List.mem_append, ih]
    simp [ha]

/-- Of the collected values those with `p` are what the items with `q` gave, item by item. -/
theorem forall₂_collect {p : β → Bool} {q : α → Bool} (hpq : ∀ a b, f a = .ok (some b) → p b = q a)
    (hq : ∀ a, q a = true → f a ≠ .ok none) : ∀ {as : List α} {bs : List β}, collect f as = .ok bs →
    List.Forall₂ (fun a b => f a = .ok (some b)) (as.filter q) (bs.filter p)
  | [], bs, h => by
    cases h
    exact List.Forall₂.nil
  | a :: as, bs, h => by
    obtain ⟨b, bs', ha, has, rfl⟩ := collect_cons.1 h
    have ih := forall₂_collect hpq hq has
    cases b with
    | none =>
      have hskip : ¬ q a = true := fun hqa => hq a hqa ha
      rw [List.filter_cons_of_neg hskip]
      exact ih
    | some b =>
      have hpb : p b = q a := hpq a b ha
      cases hqa : q a with
      | true =>
        rw [List.filter_cons_of_pos hqa, Option.toList_some, List.singleton_append,
          List.filter_cons_of_pos (hpb.trans hqa)]
        exact List.Forall₂.cons ha ih
      | false =>
        have hneg : ¬ p b = true := by simp [hpb, hqa]
        rw [List.filter_cons_of_neg (by simp [hqa]), Option.toList_some, List.singleton_append,
          List.filter_cons_of_neg hneg]
        exact ih

/-- Inserting an item that does not raise adds at most one value and leaves the others as they are. -/
theorem collect_insert {a : α} {as₂ : List α} : ∀ {as₁ : List α} {old new : List β},
    collect f (as₁ ++ as₂) = .ok old → collect f (as₁ ++ a :: as₂) = .ok new →
    ∃ b : Option β, new.Perm (b.toList ++ old)
  | [], old, new, hold, hnew => by
    obtain ⟨b, bs', -, has, rfl⟩ := collect_cons.1 hnew
    rw [List.nil_append] at hold
    cases hold.symm.trans has
    exact ⟨b, List.Perm.refl _⟩
  | a' :: as₁, old, new, hold, hnew => by
    obtain ⟨b₁, bs₁, ha₁, has₁, rfl⟩ := collect_cons.1 hold
    obtain ⟨b₂, bs₂, ha₂, has₂, rfl⟩ := collect_cons.1 hnew
    cases ha₁.symm.trans ha₂
    obtain ⟨b, hperm⟩ := collect_insert has₁ has₂
    refine ⟨b, (hperm.append_left _).trans ?_⟩
    rw [← List.append_assoc, ← List.append_assoc]
    exact List.perm_append_comm.append_right _

end Stage
