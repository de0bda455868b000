import Mathlib.Data.List.Forall2
import Mathlib.Data.List.Sublists

/-!
# What a sequence of reads saw

A client that reads a shared value several times sees it at several moments, with anything in between. The history of
the value is the list of its states, newest first; `Saw past facts` says that the reads were answered from states of
the history in the order they were made, the newest read first.
-/

namespace History

variable {σ : Type}

/-- The `i`-th fact holds of a state of the history, a later fact of an earlier state. -/
def Saw (past : List σ) (facts : List (σ → Prop)) : Prop :=
  ∃ seen, seen.Sublist past ∧ List.Forall₂ (fun fact s => fact s) facts seen

theorem Saw.tail {past : List σ} {fact : σ → Prop} {facts : List (σ → Prop)} (h : Saw past (fact :: facts)) :
    Saw past facts := by
  obtain ⟨seen, hsub, hfacts⟩ := h
  cases hfacts with
  | @cons _ s _ rest _ hrest => exact ⟨rest, (List.sublist_cons_self s rest).trans hsub, hrest⟩

end History
