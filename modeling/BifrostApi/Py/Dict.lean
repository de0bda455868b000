import Mathlib.Data.List.Nodup

/-!
# Insertion-ordered dictionaries

A `dict` is its list of entries in insertion order. Lookup is `List.lookup`; `Dict.set` replaces
in place or appends, `Dict.update` is `d.update(e)`. The keys of a real dictionary are distinct
(`Dict.Distinct`); the lookup lemmas say which of them need it.
-/

namespace Py

/-- A dictionary as its entries, oldest first. -/
abbrev Dict (α β : Type) := List (α × β)

namespace Dict

variable {α β γ : Type}

def keys (d : Dict α β) : List α := d.map Prod.fst

def Distinct (d : Dict α β) : Prop := (keys d).Nodup

instance [DecidableEq α] (d : Dict α β) : Decidable (Distinct d) :=
  inferInstanceAs (Decidable (keys d).Nodup)

@[simp] theorem keys_nil : keys ([] : Dict α β) = [] := rfl

@[simp] theorem keys_cons (kv : α × β) (d : Dict α β) : keys (kv :: d) = kv.1 :: keys d := rfl

theorem mem_keys_of_mem {d : Dict α β} {k : α} {v : β} (h : (k, v) ∈ d) : k ∈ keys d :=
  List.mem_map_of_mem h

theorem distinct_cons {kv : α × β} {d : Dict α β} :
    Distinct (kv :: d) ↔ kv.1 ∉ keys d ∧ Distinct d := by
  simp [Distinct]

/-- Map over the values, each with its key. -/
def mapVal (f : α → β → γ) (d : Dict α β) : Dict α γ := d.map fun kv => (kv.1, f kv.1 kv.2)

@[simp] theorem keys_mapVal (f : α → β → γ) (d : Dict α β) : keys (mapVal f d) = keys d := by
  simp [keys, mapVal]

variable [DecidableEq α]

/-- `d[k] = v`: replace in place, else append. -/
def set : Dict α β → α → β → Dict α β
  | [], k, v => [(k, v)]
  | (k', v') :: d, k, v => if k' = k then (k, v) :: d else (k', v') :: set d k v

/-- `k in d`. -/
def has (d : Dict α β) (k : α) : Bool := (d.lookup k).isSome

/-- `d.update(e)`. -/
def update (d e : Dict α β) : Dict α β := e.foldl (fun d kv => set d kv.1 kv.2) d

/-- `if k not in d: d[k] = v`, for every entry of `e`. -/
def fill (d e : Dict α β) : Dict α β :=
  e.foldl (fun d kv => if has d kv.1 then d else set d kv.1 kv.2) d

/-- `d.pop(k)`, the dictionary after it. -/
def pop (d : Dict α β) (k : α) : Dict α β := d.filter fun kv => kv.1 ≠ k

/-! ## Lookup -/

theorem lookup_cons_eq (k k' : α) (v : β) (d : Dict α β) :
    List.lookup k ((k', v) :: d) = if k = k' then some v else d.lookup k := by
  rw [List.lookup_cons]
  by_cases h : k = k'
  · simp [h]
  · rw [if_neg h, beq_eq_false_iff_ne.2 h]

theorem lookup_eq_none {d : Dict α β} {k : α} : d.lookup k = none ↔ k ∉ keys d := by
  induction d with
  | nil => simp
  | cons kv d ih =>
    obtain ⟨k', v⟩ := kv
    rw [lookup_cons_eq]
    by_cases h : k = k'
    · simp [h]
    · simp [h, ih]

theorem mem_of_lookup {d : Dict α β} {k : α} {v : β} (h : d.lookup k = some v) : (k, v) ∈ d := by
  induction d with
  | nil => simp at h
  | cons kv d ih =>
    obtain ⟨k', v'⟩ := kv
    rw [lookup_cons_eq] at h
    by_cases hk : k = k'
    · simp [hk] at h; simp [hk, h]
    · simp [hk] at h; exact List.mem_cons_of_mem _ (ih h)

theorem lookup_of_mem {d : Dict α β} (hd : Distinct d) {k : α} {v : β} (h : (k, v) ∈ d) :
    d.lookup k = some v := by
  induction d with
  | nil => simp at h
  | cons kv d ih =>
    obtain ⟨k', v'⟩ := kv
    obtain ⟨hk', hd'⟩ := distinct_cons.1 hd
    rw [lookup_cons_eq]
    rcases List.mem_cons.1 h with heq | hmem
    · cases heq; simp
    · have hne : k ≠ k' := fun e => hk' (e ▸ mem_keys_of_mem hmem)
      simp [hne, ih hd' hmem]

theorem has_eq_false {d : Dict α β} {k : α} : has d k = false ↔ d.lookup k = none := by
  rw [has, Option.isSome_eq_false_iff, Option.isNone_iff_eq_none]

@[simp] theorem lookup_set (d : Dict α β) (k k' : α) (v : β) :
    (set d k v).lookup k' = if k' = k then some v else d.lookup k' := by
  induction d with
  | nil => rw [set, lookup_cons_eq]
  | cons kv d ih =>
    obtain ⟨k₁, v₁⟩ := kv
    by_cases h : k₁ = k
    · subst h
      simp only [set, if_true, lookup_cons_eq]
      split <;> rfl
    · simp only [set, if_neg h, lookup_cons_eq, ih]
      by_cases h' : k' = k₁
      · have : k' ≠ k := fun e => h (h' ▸ e)
        simp [h', h]
      · simp [h']

/-- The last write to a key wins; with distinct keys on the right that is its own entry. -/
theorem lookup_update {e : Dict α β} (he : Distinct e) (d : Dict α β) (k : α) :
    (update d e).lookup k = (e.lookup k).or (d.lookup k) := by
  induction e generalizing d with
  | nil => rfl
  | cons kv e ih =>
    obtain ⟨k', v⟩ := kv
    obtain ⟨hk', he'⟩ := distinct_cons.1 he
    have hstep : update d ((k', v) :: e) = update (set d k' v) e := rfl
    rw [hstep, ih he', lookup_set, lookup_cons_eq]
    by_cases h : k = k'
    · subst h; simp [lookup_eq_none.2 hk']
    · simp [h]

/-- Whatever the order of the writes, a key only ever written one value reads that value. -/
theorem lookup_update_of_const {e : Dict α β} (d : Dict α β) {k : α} {v : β} (hmem : (k, v) ∈ e)
    (hconst : ∀ v', (k, v') ∈ e → v' = v) : (update d e).lookup k = some v := by
  have keep : ∀ (e : Dict α β) (d : Dict α β), (∀ v', (k, v') ∈ e → v' = v) →
      d.lookup k = some v → (update d e).lookup k = some v := by
    intro e
    induction e with
    | nil => intro d _ hd; exact hd
    | cons kv e ih =>
      obtain ⟨k', v'⟩ := kv
      intro d hc hd
      refine ih (set d k' v') (fun w hw => hc w (List.mem_cons_of_mem _ hw)) ?_
      rw [lookup_set]
      by_cases h : k = k'
      · subst h; simp [hc v' (by simp)]
      · simp [h, hd]
  induction e generalizing d with
  | nil => simp at hmem
  | cons kv e ih =>
    obtain ⟨k', v'⟩ := kv
    have htail : ∀ w, (k, w) ∈ e → w = v := fun w hw => hconst w (List.mem_cons_of_mem _ hw)
    rcases List.mem_cons.1 hmem with heq | hmem'
    · cases heq
      exact keep e (set d k v) htail (by simp)
    · exact ih (set d k' v') hmem' htail

/-- The last write to a key wins. -/
theorem lookup_update_last (d e : Dict α β) (k : α) :
    (update d e).lookup k = ((e.filter fun kv => kv.1 = k).getLast?.map Prod.snd).or (d.lookup k) := by
  induction e generalizing d with
  | nil => rfl
  | cons kv e ih =>
    have hstep : update d (kv :: e) = update (set d kv.1 kv.2) e := rfl
    rw [hstep, ih, lookup_set]
    by_cases h : kv.1 = k
    · rw [List.filter_cons_of_pos (by simpa using h), List.getLast?_cons, if_pos h.symm]
      cases (e.filter fun kv => kv.1 = k).getLast? <;> rfl
    · rw [List.filter_cons_of_neg (by simpa using h), if_neg (Ne.symm h)]

/-- Entries already there keep their value; of several new ones the first wins. -/
theorem lookup_fill (d e : Dict α β) (k : α) : (fill d e).lookup k = (d.lookup k).or (e.lookup k) := by
  induction e generalizing d with
  | nil => simp [fill]
  | cons kv e ih =>
    obtain ⟨k', v⟩ := kv
    have hstep : fill d ((k', v) :: e) = fill (if has d k' then d else set d k' v) e := rfl
    rw [hstep, ih, lookup_cons_eq]
    by_cases hk : has d k' = true
    · by_cases h : k = k'
      · subst h
        obtain ⟨w, hw⟩ := Option.isSome_iff_exists.1 hk
        simp [hk, hw]
      · simp [hk, h]
    · by_cases h : k = k'
      · subst h
        have hnone : d.lookup k = none := has_eq_false.1 (by simpa using hk)
        simp [hk, hnone]
      · simp [hk, h]

theorem lookup_mapVal (f : α → β → γ) (d : Dict α β) (k : α) :
    (mapVal f d).lookup k = (d.lookup k).map (f k) := by
  induction d with
  | nil => rfl
  | cons kv d ih =>
    obtain ⟨k', v⟩ := kv
    have hstep : mapVal f ((k', v) :: d) = (k', f k' v) :: mapVal f d := rfl
    rw [hstep, lookup_cons_eq, lookup_cons_eq, ih]
    by_cases h : k = k'
    · subst h; simp
    · simp [h]

/-- A key is there if and only if it reads a value. -/
theorem exists_lookup {d : Dict α β} {k : α} : (∃ v, d.lookup k = some v) ↔ k ∈ keys d := by
  rw [← Option.ne_none_iff_exists', ← not_iff_not, not_not, lookup_eq_none]

theorem lookup_filter (p : α → Bool) (d : Dict α β) (k : α) :
    List.lookup k (d.filter fun kv => p kv.1) = if p k = true then d.lookup k else none := by
  induction d with
  | nil => simp
  | cons kv d ih =>
    obtain ⟨k', v⟩ := kv
    by_cases hp : p k' = true
    · have hkeep : ((k', v) :: d).filter (fun kv => p kv.1) = (k', v) :: d.filter fun kv => p kv.1 :=
        List.filter_cons_of_pos hp
      rw [hkeep, lookup_cons_eq, lookup_cons_eq, ih]
      by_cases h : k = k'
      · simp [h, hp]
      · simp [h]
    · have hdrop : ((k', v) :: d).filter (fun kv => p kv.1) = d.filter fun kv => p kv.1 := List.filter_cons_of_neg hp
      rw [hdrop, ih, lookup_cons_eq]
      by_cases h : k = k'
      · simp [h, hp]
      · simp [h]

/-- Of distinct keys the entries whose values pass remain. -/
theorem lookup_filter_val {d : Dict α β} (hd : Distinct d) (p : β → Bool) (k : α) :
    List.lookup k (d.filter fun kv => p kv.2) = (d.lookup k).filter p := by
  induction d with
  | nil => rfl
  | cons kv d ih =>
    obtain ⟨k', v⟩ := kv
    obtain ⟨hk', hd'⟩ := distinct_cons.1 hd
    have hhead : List.lookup k' d = none := lookup_eq_none.2 hk'
    cases hp : p v with
    | true =>
      have hkeep : ((k', v) :: d).filter (fun kv => p kv.2) = (k', v) :: d.filter fun kv => p kv.2 :=
        List.filter_cons_of_pos hp
      rw [hkeep, lookup_cons_eq, lookup_cons_eq, ih hd']
      by_cases h : k = k'
      · simp [h, hp, Option.filter]
      · simp [h]
    | false =>
      have hdrop : ((k', v) :: d).filter (fun kv => p kv.2) = d.filter fun kv => p kv.2 :=
        List.filter_cons_of_neg (by simp [hp])
      rw [hdrop, ih hd', lookup_cons_eq]
      by_cases h : k = k'
      · simp [h, hp, hhead, Option.filter]
      · simp [h]

/-! ## Changing one entry -/

theorem lookup_pop (d : Dict α β) (k k' : α) : (pop d k).lookup k' = if k' = k then none else d.lookup k' := by
  induction d with
  | nil => simp [pop]
  | cons kv d ih =>
    obtain ⟨k₁, v₁⟩ := kv
    unfold pop at ih ⊢
    by_cases h : k₁ = k
    · subst h
      rw [List.filter_cons_of_neg (by simp), ih, lookup_cons_eq]
      split <;> rfl
    · rw [List.filter_cons_of_pos (by simpa using h), lookup_cons_eq, lookup_cons_eq, ih]
      by_cases h' : k' = k₁
      · have hne : k' ≠ k := fun e => h (h' ▸ e)
        simp [h', h]
      · simp [h']

theorem distinct_pop {d : Dict α β} (hd : Distinct d) (k : α) : Distinct (pop d k) :=
  hd.sublist (List.filter_sublist.map Prod.fst)

theorem mem_keys_set {d : Dict α β} {k k' : α} {v : β} : k' ∈ keys (set d k v) ↔ k' = k ∨ k' ∈ keys d := by
  induction d with
  | nil => simp [set]
  | cons kv d ih =>
    obtain ⟨k₁, v₁⟩ := kv
    by_cases h : k₁ = k
    · simp [set, h]
    · simp only [set, if_neg h, keys_cons, List.mem_cons, ih]
      exact or_left_comm

theorem distinct_set {d : Dict α β} (hd : Distinct d) (k : α) (v : β) : Distinct (set d k v) := by
  induction d with
  | nil => simp [set, Distinct]
  | cons kv d ih =>
    obtain ⟨k₁, v₁⟩ := kv
    obtain ⟨hk₁, hd'⟩ := distinct_cons.1 hd
    by_cases h : k₁ = k
    · subst h
      simp only [set, if_true]
      exact distinct_cons.2 ⟨hk₁, hd'⟩
    · simp only [set, if_neg h]
      refine distinct_cons.2 ⟨fun hmem => ?_, ih hd'⟩
      rcases mem_keys_set.1 hmem with heq | hmem
      · exact h heq
      · exact hk₁ hmem

/-- A write to a key that the first part has not is a write to the second. -/
theorem set_append {d : Dict α β} {k : α} (hk : k ∉ keys d) (e : Dict α β) (v : β) :
    set (d ++ e) k v = d ++ set e k v := by
  induction d with
  | nil => rfl
  | cons kv d ih =>
    rw [keys_cons, List.mem_cons, not_or] at hk
    rw [List.cons_append, List.cons_append, set, if_neg (Ne.symm hk.1), ih hk.2]

theorem mem_keys_update {d e : Dict α β} {k : α} : k ∈ keys (update d e) ↔ k ∈ keys e ∨ k ∈ keys d := by
  induction e generalizing d with
  | nil => simp [update]
  | cons kv e ih =>
    have hstep : update d (kv :: e) = update (set d kv.1 kv.2) e := rfl
    rw [hstep, ih, mem_keys_set, keys_cons, List.mem_cons]
    exact or_left_comm.trans or_assoc.symm

/-! ## Some of the keys -/

/-- A write to a key that is left out changes nothing. -/
theorem filter_set_of_not {p : α → Bool} {k : α} (hp : p k = false) (d : Dict α β) (v : β) :
    (set d k v).filter (fun kv => p kv.1) = d.filter fun kv => p kv.1 := by
  induction d with
  | nil => simp [set, hp]
  | cons kv d ih =>
    by_cases h : kv.1 = k
    · simp [set, h, hp]
    · simp [set, h, List.filter_cons, ih]

theorem filter_set_of {p : α → Bool} {k : α} (hp : p k = true) (d : Dict α β) (v : β) :
    (set d k v).filter (fun kv => p kv.1) = set (d.filter fun kv => p kv.1) k v := by
  induction d with
  | nil => simp [set, hp]
  | cons kv d ih =>
    by_cases h : kv.1 = k
    · simp [set, h, hp]
    · by_cases hk : p kv.1 = true
      · simp [set, h, hk, ih]
      · simp [set, h, hk, ih]

theorem mem_set {d : Dict α β} {k k' : α} {v v' : β} (h : (k', v') ∈ set d k v) :
    (k' = k ∧ v' = v) ∨ (k', v') ∈ d := by
  induction d with
  | nil => simpa [set] using h
  | cons kv d ih =>
    obtain ⟨k₁, v₁⟩ := kv
    simp only [set] at h
    split at h
    · rcases List.mem_cons.1 h with heq | hmem
      · cases heq; exact Or.inl ⟨rfl, rfl⟩
      · exact Or.inr (List.mem_cons_of_mem _ hmem)
    · rcases List.mem_cons.1 h with heq | hmem
      · cases heq; exact Or.inr (by simp)
      · rcases ih hmem with hnew | hold
        · exact Or.inl hnew
        · exact Or.inr (List.mem_cons_of_mem _ hold)

theorem mem_update {d e : Dict α β} {k : α} {v : β} (h : (k, v) ∈ update d e) :
    (k, v) ∈ e ∨ (k, v) ∈ d := by
  induction e generalizing d with
  | nil => exact Or.inr h
  | cons kv e ih =>
    have hrest : (k, v) ∈ e ∨ (k, v) ∈ set d kv.1 kv.2 := ih h
    rcases hrest with he | hd
    · exact Or.inl (List.mem_cons_of_mem _ he)
    · rcases mem_set hd with ⟨rfl, rfl⟩ | hold
      · exact Or.inl (by simp)
      · exact Or.inr hold

theorem mem_fill {d e : Dict α β} {k : α} {v : β} (h : (k, v) ∈ fill d e) :
    (k, v) ∈ d ∨ (k, v) ∈ e := by
  induction e generalizing d with
  | nil => exact Or.inl h
  | cons kv e ih =>
    have hrest : (k, v) ∈ (if has d kv.1 then d else set d kv.1 kv.2) ∨ (k, v) ∈ e := ih h
    rcases hrest with hd | he
    · split at hd
      · exact Or.inl hd
      · rcases mem_set hd with ⟨rfl, rfl⟩ | hold
        · exact Or.inr (by simp)
        · exact Or.inl hold
    · exact Or.inr (List.mem_cons_of_mem _ he)

end Dict

end Py
