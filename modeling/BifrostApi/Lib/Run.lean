import Mathlib.Data.List.Basic

/-!
# Runs of a step function

A system is a step function on states and events; a run is a list of events. `Along C` says that every
step of the run meets the condition `C` in the state where it is taken, `Always P` that every state the
run goes through satisfies `P`. `always_iff_along_of` is the induction rule the rest of the development
uses.
-/

namespace Run

variable {σ ε : Type} {step : σ → ε → σ}

/-- The state after a run. -/
def run (step : σ → ε → σ) (s : σ) (es : List ε) : σ := es.foldl step s

/-- Every step of the run meets `C`. -/
def Along (step : σ → ε → σ) (C : σ → ε → Prop) : σ → List ε → Prop
  | _, [] => True
  | s, e :: es => C s e ∧ Along step C (step s e) es

/-- Every state the run goes through, the first and the last included, satisfies `P`. -/
def Always (step : σ → ε → σ) (P : σ → Prop) : σ → List ε → Prop
  | s, [] => P s
  | s, e :: es => P s ∧ Always step P (step s e) es

@[simp] theorem run_nil (s : σ) : run step s [] = s := rfl

@[simp] theorem run_cons (s : σ) (e : ε) (es : List ε) : run step s (e :: es) = run step (step s e) es := rfl

theorem Always.first {P : σ → Prop} {s : σ} : ∀ {es : List ε}, Always step P s es → P s
  | [], h => h
  | _ :: _, h => h.1

theorem Always.last {P : σ → Prop} : ∀ {es : List ε} {s : σ}, Always step P s es → P (run step s es)
  | [], _, h => h
  | _ :: _, _, h => by
    have hrest := Always.last h.2
    exact hrest

theorem Always.mono {P Q : σ → Prop} (h : ∀ s, P s → Q s) :
    ∀ {es : List ε} {s : σ}, Always step P s es → Always step Q s es
  | [], s, hs => h s hs
  | _ :: _, s, hs => ⟨h s hs.1, Always.mono h hs.2⟩

/-- When `C` is exactly what a step needs to preserve `P`, a run keeps `P` if and only if it meets `C`.
The run may assume `A` of its steps, and an invariant `I` that such steps preserve. -/
theorem always_iff_along_of {I P : σ → Prop} {A C : σ → ε → Prop}
    (hinv : ∀ s e, I s → A s e → I (step s e))
    (hstep : ∀ s e, I s → A s e → P s → (P (step s e) ↔ C s e)) :
    ∀ {es : List ε} {s : σ}, I s → Along step A s es → P s →
    (Always step P s es ↔ Along step C s es)
  | [], _, _, _, hs => iff_of_true hs trivial
  | e :: es, s, hi, ha, hs => by
    have hi' := hinv s e hi ha.1
    constructor
    · rintro ⟨-, hrest⟩
      have hnext : P (step s e) := hrest.first
      exact ⟨(hstep s e hi ha.1 hs).1 hnext, (always_iff_along_of hinv hstep hi' ha.2 hnext).1 hrest⟩
    · rintro ⟨hc, hrest⟩
      have hnext : P (step s e) := (hstep s e hi ha.1 hs).2 hc
      exact ⟨hs, (always_iff_along_of hinv hstep hi' ha.2 hnext).2 hrest⟩

theorem along_true : ∀ {es : List ε} {s : σ}, Along step (fun _ _ => True) s es
  | [], _ => trivial
  | _ :: _, _ => ⟨trivial, along_true⟩

/-- A run from a state of an invariant meets what every step from such a state meets. -/
theorem along_of_invariant {I : σ → Prop} {C : σ → ε → Prop} (hinv : ∀ s e, I s → I (step s e))
    (hstep : ∀ s e, I s → C s e) : ∀ {es : List ε} {s : σ}, I s → Along step C s es
  | [], _, _ => trivial
  | e :: _, s, hs => ⟨hstep s e hs, along_of_invariant hinv hstep (hinv s e hs)⟩

/-- What every step preserves holds after a run. -/
theorem run_of_invariant {I : σ → Prop} (hinv : ∀ s e, I s → I (step s e)) :
    ∀ {es : List ε} {s : σ}, I s → I (run step s es)
  | [], _, hs => hs
  | e :: es, s, hs => by
    have hrest : I (run step (step s e) es) := run_of_invariant hinv (hinv s e hs)
    exact hrest

/-- A run whose steps all meet what they need to preserve `I` keeps it. -/
theorem always_of_along {I : σ → Prop} {C : σ → ε → Prop} (hinv : ∀ s e, I s → C s e → I (step s e)) :
    ∀ {es : List ε} {s : σ}, I s → Along step C s es → Always step I s es
  | [], _, hs, _ => hs
  | e :: _, s, hs, hc => ⟨hs, always_of_along hinv (hinv s e hs hc.1) hc.2⟩

theorem along_of_forall_mem {C : σ → ε → Prop} : ∀ {es : List ε} {s : σ}, (∀ s, ∀ e ∈ es, C s e) → Along step C s es
  | [], _, _ => trivial
  | e :: _, s, h =>
    ⟨h s e (List.mem_cons_self ..), along_of_forall_mem fun s' e' he' => h s' e' (List.mem_cons_of_mem e he')⟩

theorem always_iff_along {P : σ → Prop} {C : σ → ε → Prop}
    (hstep : ∀ s e, P s → (P (step s e) ↔ C s e)) {es : List ε} {s : σ} (hs : P s) :
    Always step P s es ↔ Along step C s es :=
  @always_iff_along_of σ ε step (fun _ => True) P (fun _ _ => True) C (fun _ _ _ _ => trivial)
    (fun s e _ _ => hstep s e) es s trivial along_true hs

end Run
