import Mathlib.Logic.Basic

/-!
# Programs that change a state and may raise

A `Prog` keeps what it did to the state when it raises. `Triple P p Q R` says that `p` from a state in `P` either
returns a value in `Q` or raises in `R`; there is a rule for each way programs are put together.
-/

namespace Hoare

variable {σ ε α β : Type}

def Prog (σ ε α : Type) := σ → Except ε α × σ

instance : Monad (Prog σ ε) where
  pure a s := (.ok a, s)
  bind p f s := match p s with
    | (.ok a, s') => f a s'
    | (.error e, s') => (.error e, s')

/-- `raise e`. -/
def raise (e : ε) : Prog σ ε α := fun s => (.error e, s)

/-- Change the state. -/
def change (f : σ → σ) : Prog σ ε Unit := fun s => (.ok (), f s)

/-- `try: p finally: cleanup`. -/
def tryFinally (p : Prog σ ε α) (cleanup : Prog σ ε Unit) : Prog σ ε α := fun s =>
  match p s with
  | (r, s') => match cleanup s' with
    | (.ok _, s'') => (r, s'')
    | (.error e, s'') => (.error e, s'')

def Ends (Q : α → σ → Prop) (R : ε → σ → Prop) : Except ε α × σ → Prop
  | (.ok a, s) => Q a s
  | (.error e, s) => R e s

def Triple (P : σ → Prop) (p : Prog σ ε α) (Q : α → σ → Prop) (R : ε → σ → Prop) : Prop := ∀ s, P s → Ends Q R (p s)

variable {P P' : σ → Prop} {Q Q' : α → σ → Prop} {R R' : ε → σ → Prop} {p : Prog σ ε α}

theorem Triple.mono (h : Triple P p Q R) (hP : ∀ s, P' s → P s) (hQ : ∀ a s, Q a s → Q' a s)
    (hR : ∀ e s, R e s → R' e s) : Triple P' p Q' R' := by
  intro s hs
  have hend := h s (hP s hs)
  generalize p s = r at hend ⊢
  obtain ⟨_ | _, s'⟩ := r
  · exact hR _ _ hend
  · exact hQ _ _ hend

theorem Triple.pure {a : α} (h : ∀ s, P s → Q a s) : Triple P (Pure.pure a : Prog σ ε α) Q R := h

theorem Triple.raise {e : ε} (h : ∀ s, P s → R e s) : Triple P (Hoare.raise e : Prog σ ε α) Q R := h

theorem Triple.change {f : σ → σ} {Q : Unit → σ → Prop} (h : ∀ s, P s → Q () (f s)) :
    Triple P (Hoare.change f : Prog σ ε Unit) Q R := h

theorem Triple.bind {p : Prog σ ε β} {f : β → Prog σ ε α} {M : β → σ → Prop} (hp : Triple P p M R)
    (hf : ∀ b, Triple (M b) (f b) Q R) : Triple P (p >>= f) Q R := by
  intro s hs
  have hstep := hp s hs
  change Ends Q R (match p s with
    | (.ok b, s') => f b s'
    | (.error e, s') => (.error e, s'))
  generalize p s = r at hstep ⊢
  obtain ⟨_ | b, s'⟩ := r
  · exact hstep
  · exact hf b s' hstep

/-- The cleanup finds what `p` left; what it raises takes the place of the result. -/
theorem Triple.tryFinally {cleanup : Prog σ ε Unit} {Q₁ : α → σ → Prop} {R₁ : ε → σ → Prop} (hp : Triple P p Q₁ R₁)
    (hok : ∀ a, Triple (Q₁ a) cleanup (fun _ => Q a) R) (herror : ∀ e, Triple (R₁ e) cleanup (fun _ => R e) R) :
    Triple P (Hoare.tryFinally p cleanup) Q R := by
  intro s hs
  have hstep := hp s hs
  unfold Hoare.tryFinally
  generalize p s = r at hstep ⊢
  obtain ⟨e | a, s'⟩ := r
  · have hclean := herror e s' hstep
    dsimp only
    generalize cleanup s' = c at hclean ⊢
    obtain ⟨_ | _, s''⟩ := c <;> exact hclean
  · have hclean := hok a s' hstep
    dsimp only
    generalize cleanup s' = c at hclean ⊢
    obtain ⟨_ | _, s''⟩ := c <;> exact hclean

end Hoare
