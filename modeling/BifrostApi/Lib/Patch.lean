import Mathlib.Data.Set.Insert

/-!
# Partial updates of a store of fields

Writers each own some fields of a store `F → V` and mean to change those only. `Patched` says that a
store is its initial value patched by the writers that are done, up to a normal form `norm` on the
fields nobody owns. A writer that cannot write single fields writes the whole store: its own fields, and
the others as it read them. `patched_insert_iff` is exactly when that is a patch.
-/

namespace Patch

variable {ι F V : Type}

/-- The whole store, written from a snapshot. -/
def overwrite (norm : V → V) (own : F → Option V) (snapshot : F → V) : F → V :=
  fun f => (own f).getD (norm (snapshot f))

/-- `s` is `init` with the fields of the writers in `done` replaced. -/
structure Patched (norm : V → V) (own : ι → F → Option V) (init : F → V) (done : Set ι) (s : F → V) : Prop where
  owned : ∀ i ∈ done, ∀ f v, own i f = some v → s f = v
  kept : ∀ f, (∀ i ∈ done, own i f = none) → norm (s f) = norm (init f)

/-- No field has two owners. -/
def DisjointOwners (own : ι → F → Option V) : Prop :=
  ∀ i j f, i ≠ j → (own i f).isSome → own j f = none

variable {norm : V → V} {own : ι → F → Option V} {init s snapshot : F → V} {done : Set ι} {i : ι}

theorem patched_empty : Patched norm own init ∅ init where
  owned _ hi := absurd hi (Set.notMem_empty _)
  kept _ _ := rfl

/-- What a patched store holds is normal wherever a writer is done with it. -/
theorem Patched.norm_owned (hown : ∀ j f v, own j f = some v → norm v = v)
    (h : Patched norm own init done s) {j : ι} (hj : j ∈ done) {f : F} (hf : own j f ≠ none) :
    norm (s f) = s f := by
  obtain ⟨v, hv⟩ := Option.ne_none_iff_exists'.1 hf
  rw [h.owned j hj f v hv, hown j f v hv]

/-- A writer that has not written yet patches the store by overwriting it exactly when the snapshot it
holds is current, up to `norm`, on the fields it does not own. -/
theorem patched_insert_iff (hidem : ∀ v, norm (norm v) = norm v)
    (hown : ∀ j f v, own j f = some v → norm v = v) (hdisjoint : DisjointOwners own) (hi : i ∉ done)
    (h : Patched norm own init done s) :
    Patched norm own init (insert i done) (overwrite norm (own i) snapshot) ↔
      ∀ f, own i f = none → norm (snapshot f) = norm (s f) := by
  constructor
  · intro h' f hf
    have hwritten : overwrite norm (own i) snapshot f = norm (snapshot f) := by simp [overwrite, hf]
    by_cases howner : ∀ j ∈ done, own j f = none
    · have hall : ∀ j ∈ insert i done, own j f = none := by
        rintro j (rfl | hj)
        · exact hf
        · exact howner j hj
      rw [h.kept f howner, ← h'.kept f hall, hwritten, hidem]
    · push Not at howner
      obtain ⟨j, hj, hjf⟩ := howner
      obtain ⟨v, hv⟩ := Option.ne_none_iff_exists'.1 hjf
      rw [h.norm_owned hown hj hjf, h.owned j hj f v hv, ← hwritten]
      exact h'.owned j (Set.mem_insert_of_mem _ hj) f v hv
  · intro hcurrent
    constructor
    · rintro j (rfl | hj) f v hv
      · simp [overwrite, hv]
      · -- the writer does not own what another one does
        have hne : j ≠ i := fun e => hi (e ▸ hj)
        have hif : own i f = none := hdisjoint j i f hne (by rw [hv]; rfl)
        simp only [overwrite, hif, Option.getD_none]
        rw [hcurrent f hif, h.norm_owned hown hj (by rw [hv]; simp), h.owned j hj f v hv]
    · intro f hf
      have hif : own i f = none := hf i (Set.mem_insert _ _)
      simp only [overwrite, hif, Option.getD_none]
      rw [hidem, hcurrent f hif]
      exact h.kept f fun j hj => hf j (Set.mem_insert_of_mem _ hj)

end Patch
