import Mathlib.Data.List.Basic

/-!
# A gate in front of a machine

A machine answers events one after another (`serve`). A gate stands in front of it and either hands an event on, and
may change the answer, or answers it alone. `Faithful` is what it promises for a whole run: the machine behind the
gate went through the admitted events in their order and through nothing else, and every event has its answer. It
follows from what one event does (`Keeps`), by `Faithful.cons`.
-/

namespace Gate

variable {σ τ ε ρ ρ' : Type}

/-- The state after the events, and their answers. -/
def serve (m : σ → ε → σ × ρ) : σ → List ε → σ × List ρ
  | s, [] => (s, [])
  | s, e :: es => ((serve m (m s e).1 es).1, (m s e).2 :: (serve m (m s e).1 es).2)

/-- What a gate does with an event, and with the answer from behind it. -/
structure Policy (ε ρ ρ' : Type) where
  admits : ε → Prop
  passes : ε → ρ → ρ' → Prop
  refuses : ε → ρ' → Prop

/-- The answers to the events, beside the answers from behind the gate to the admitted ones. -/
inductive Answers (policy : Policy ε ρ ρ') : List ε → List ρ → List ρ' → Prop
  | nil : Answers policy [] [] []
  | passed {e : ε} {r : ρ} {r' : ρ'} {es : List ε} {rs : List ρ} {rs' : List ρ'} (hadmits : policy.admits e)
      (hpasses : policy.passes e r r') (hrest : Answers policy es rs rs') :
      Answers policy (e :: es) (r :: rs) (r' :: rs')
  | refused {e : ε} {r' : ρ'} {es : List ε} {rs : List ρ} {rs' : List ρ'} (hadmits : ¬ policy.admits e)
      (hrefuses : policy.refuses e r') (hrest : Answers policy es rs rs') : Answers policy (e :: es) rs (r' :: rs')

open Classical in
/-- The events the gate lets through. -/
noncomputable def Policy.admitted (policy : Policy ε ρ ρ') (es : List ε) : List ε :=
  es.filter fun e => decide (policy.admits e)

section Machine

variable (policy : Policy ε ρ ρ') (inner : σ → ε → σ × ρ) (outer : τ → ε → τ × ρ') (view : τ → σ)

/-- One event: `view` is the state of the machine behind the gate. -/
structure Keeps (t : τ) (e : ε) : Prop where
  passed : policy.admits e →
    view (outer t e).1 = (inner (view t) e).1 ∧ policy.passes e (inner (view t) e).2 (outer t e).2
  refused : ¬ policy.admits e → view (outer t e).1 = view t ∧ policy.refuses e (outer t e).2

/-- A whole run. -/
structure Faithful (t : τ) (es : List ε) : Prop where
  state : view (serve outer t es).1 = (serve inner (view t) (policy.admitted es)).1
  answers : Answers policy es (serve inner (view t) (policy.admitted es)).2 (serve outer t es).2

end Machine

variable {policy : Policy ε ρ ρ'} {inner : σ → ε → σ × ρ} {outer : τ → ε → τ × ρ'} {view : τ → σ}

theorem admitted_of_admits {e : ε} (h : policy.admits e) (es : List ε) :
    policy.admitted (e :: es) = e :: policy.admitted es :=
  List.filter_cons_of_pos (by simpa using h)

theorem admitted_of_not_admits {e : ε} (h : ¬ policy.admits e) (es : List ε) :
    policy.admitted (e :: es) = policy.admitted es :=
  List.filter_cons_of_neg (by simpa using h)

theorem Faithful.nil (t : τ) : Faithful policy inner outer view t [] := ⟨rfl, .nil⟩

/-- One more event in front of a run. -/
theorem Faithful.cons {t : τ} {e : ε} {es : List ε} (hstep : Keeps policy inner outer view t e)
    (hrest : Faithful policy inner outer view (outer t e).1 es) : Faithful policy inner outer view t (e :: es) := by
  obtain ⟨hstate, hanswers⟩ := hrest
  by_cases hadmits : policy.admits e
  · obtain ⟨hview, hpasses⟩ := hstep.passed hadmits
    rw [hview] at hstate hanswers
    constructor
    · rw [admitted_of_admits hadmits]
      exact hstate
    · rw [admitted_of_admits hadmits]
      exact .passed hadmits hpasses hanswers
  · obtain ⟨hview, hrefuses⟩ := hstep.refused hadmits
    rw [hview] at hstate hanswers
    constructor
    · rw [admitted_of_not_admits hadmits]
      exact hstate
    · rw [admitted_of_not_admits hadmits]
      exact .refused hadmits hrefuses hanswers

/-- A gate that keeps its promise for every event in the states of an invariant keeps it for every run. -/
theorem faithful_of_invariant {I : τ → Prop} (hinv : ∀ t e, I t → I (outer t e).1)
    (hstep : ∀ t e, I t → Keeps policy inner outer view t e) :
    ∀ {es : List ε} {t : τ}, I t → Faithful policy inner outer view t es
  | [], t, _ => .nil t
  | e :: _, t, ht => .cons (hstep t e ht) (faithful_of_invariant hinv hstep (hinv t e ht))

end Gate
