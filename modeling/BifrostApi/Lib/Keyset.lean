import Mathlib.Data.List.Forall2
import Mathlib.Data.List.Sort
import Mathlib.Order.Lattice

/-!
# Keyset pages

Rows come in the order of a key no two of them share. A page holds the first rows strictly behind a cursor, the key of
the last row of the page before (`Page`); `page` is one that a sorted store answers. `Walk` follows the cursors from
page to page while the store changes between them: every row was in the store when its page was read, no row comes
twice, and a row that stays in the store comes once.
-/

namespace Keyset

variable {α κ : Type} [LinearOrder κ]

/-- Every key is behind no cursor. -/
def Behind (cursor : Option κ) (k : κ) : Prop := ∀ c ∈ cursor, c < k

instance (cursor : Option κ) (k : κ) : Decidable (Behind cursor k) := by
  unfold Behind
  infer_instance

/-- The page a store has behind a cursor, of at most `limit` rows; `next` is the cursor of the page after it. -/
structure Page (key : α → κ) (limit : Option Nat) (store : List α) (cursor : Option κ) (items : List α)
    (next : Option κ) : Prop where
  mem : ∀ a ∈ items, a ∈ store ∧ Behind cursor (key a)
  sorted : items.Pairwise fun a b => key a < key b
  /-- A row that is left out is behind the page. -/
  first : ∀ a ∈ store, Behind cursor (key a) → a ∈ items ∨ ∀ b ∈ items, key b < key a
  limited : ∀ n ∈ limit, items.length ≤ n
  last : ∀ k ∈ next, items.getLast?.map key = some k
  /-- There is a page after it exactly when it left a row out. -/
  complete : next = none ↔ ∀ a ∈ store, Behind cursor (key a) → a ∈ items

section Reference

variable (key : α → κ)

/-- The rows behind the cursor, in order. -/
def rowsBehind (store : List α) (cursor : Option κ) : List α :=
  (store.filter fun a => decide (Behind cursor (key a))).mergeSort fun a b => key a ≤ key b

/-- A page and the cursor of the next one. -/
def page (limit : Option Nat) (store : List α) (cursor : Option κ) : List α × Option κ :=
  let rows := rowsBehind key store cursor
  match limit with
  | none => (rows, none)
  | some n => (rows.take n, if rows.length ≤ n then none else (rows.take n).getLast?.map key)

variable {key}

theorem mem_rowsBehind {store : List α} {cursor : Option κ} {a : α} :
    a ∈ rowsBehind key store cursor ↔ a ∈ store ∧ Behind cursor (key a) := by
  rw [rowsBehind, List.mem_mergeSort, List.mem_filter, decide_eq_true_eq]

theorem sorted_rowsBehind {store : List α} (hkeys : (store.map key).Nodup) (cursor : Option κ) :
    (rowsBehind key store cursor).Pairwise fun a b => key a < key b := by
  have hle : (rowsBehind key store cursor).Pairwise fun a b => decide (key a ≤ key b) = true := by
    refine List.pairwise_mergeSort ?_ ?_ _
    · intro a b c hab hbc
      rw [decide_eq_true_eq] at hab hbc ⊢
      exact le_trans hab hbc
    · intro a b
      rw [Bool.or_eq_true, decide_eq_true_eq, decide_eq_true_eq]
      exact le_total (key a) (key b)
  have hperm : (rowsBehind key store cursor).Perm (store.filter fun a => decide (Behind cursor (key a))) :=
    List.mergeSort_perm _ _
  have hnodup : ((rowsBehind key store cursor).map key).Nodup :=
    (hperm.map key).nodup_iff.2 (hkeys.sublist (List.filter_sublist.map key))
  have hne : (rowsBehind key store cursor).Pairwise fun a b => key a ≠ key b := List.pairwise_map.1 hnodup
  exact (hle.and hne).imp fun h => lt_of_le_of_ne (of_decide_eq_true h.1) h.2

/-- What the store answers is a page, for every limit of at least one row. -/
theorem page_page {limit : Option Nat} (hlimit : limit ≠ some 0) {store : List α} (hkeys : (store.map key).Nodup)
    (cursor : Option κ) :
    Page key limit store cursor (page key limit store cursor).1 (page key limit store cursor).2 := by
  have hsorted := sorted_rowsBehind hkeys cursor
  have hmem := @mem_rowsBehind α κ _ key store cursor
  cases limit with
  | none =>
    constructor
    · exact fun a ha => hmem.1 ha
    · exact hsorted
    · exact fun a ha hbehind => Or.inl (hmem.2 ⟨ha, hbehind⟩)
    · exact fun n hn => by cases hn
    · exact fun k hk => by cases hk
    · exact iff_of_true rfl fun a ha hbehind => hmem.2 ⟨ha, hbehind⟩
  | some n =>
    have htake : (rowsBehind key store cursor).take n ++ (rowsBehind key store cursor).drop n =
        rowsBehind key store cursor := List.take_append_drop n _
    have hsplit := hsorted
    rw [← htake, List.pairwise_append] at hsplit
    constructor
    · exact fun a ha => hmem.1 (List.mem_of_mem_take ha)
    · exact hsplit.1
    · intro a ha hbehind
      have hrow := hmem.2 ⟨ha, hbehind⟩
      rw [← htake, List.mem_append] at hrow
      exact hrow.imp_right fun hdrop b hb => hsplit.2.2 b hb a hdrop
    · intro m hm
      obtain rfl := Option.some.inj hm
      exact List.length_take_le _ _
    · intro k hk
      change k ∈ ite _ _ _ at hk
      split at hk
      · cases hk
      · exact hk
    · change ite _ _ _ = none ↔ _
      by_cases hle : (rowsBehind key store cursor).length ≤ n
      · rw [if_pos hle]
        refine iff_of_true rfl fun a ha hbehind => ?_
        change a ∈ (rowsBehind key store cursor).take n
        rw [List.take_of_length_le hle]
        exact hmem.2 ⟨ha, hbehind⟩
      · rw [if_neg hle]
        have hpos : 0 < n := Nat.pos_of_ne_zero fun h => hlimit (by rw [h])
        obtain ⟨a, ha⟩ : ∃ a, a ∈ (rowsBehind key store cursor).drop n :=
          List.exists_mem_of_ne_nil _ (by rw [ne_eq, List.drop_eq_nil_iff]; exact hle)
        have hne : (rowsBehind key store cursor).take n ≠ [] := by
          rw [ne_eq, List.take_eq_nil_iff]
          rintro (h | h)
          · omega
          · rw [h] at hle
            exact hle (Nat.zero_le n)
        refine iff_of_false ?_ fun hall => ?_
        · rw [Option.map_eq_none_iff, List.getLast?_eq_none_iff]
          exact hne
        · have hstore := hmem.1 (List.mem_of_mem_drop ha)
          have hitems : a ∈ (rowsBehind key store cursor).take n := hall a hstore.1 hstore.2
          exact lt_irrefl _ (hsplit.2.2 a hitems a ha)

end Reference

variable {key : α → κ} {limit : Option Nat}

/-! ## Following the cursors -/

/-- The pages read one after another, each from the store as it is then; `done` when the last of them had no next
page. -/
inductive Walk (key : α → κ) (limit : Option Nat) : Option κ → List (List α) → List (List α) → Bool → Prop
  | stop (cursor : Option κ) : Walk key limit cursor [] [] false
  | last {cursor : Option κ} {store items : List α} (hpage : Page key limit store cursor items none) :
      Walk key limit cursor [store] [items] true
  | more {cursor : Option κ} {store items : List α} {k : κ} {stores pages : List (List α)} {done : Bool}
      (hpage : Page key limit store cursor items (some k)) (hrest : Walk key limit (some k) stores pages done) :
      Walk key limit cursor (store :: stores) (items :: pages) done

theorem Page.lt_next {store items : List α} {cursor : Option κ} {k : κ}
    (h : Page key limit store cursor items (some k)) : ∀ a ∈ items, key a ≤ k := by
  obtain ⟨last, hlast, rfl⟩ := Option.map_eq_some_iff.1 (h.last k rfl)
  obtain ⟨before, rfl⟩ := List.getLast?_eq_some_iff.1 hlast
  intro a ha
  rcases List.mem_append.1 ha with ha | ha
  · exact le_of_lt ((List.pairwise_append.1 h.sorted).2.2 a ha last (List.mem_singleton_self last))
  · rw [List.mem_singleton.1 ha]

theorem Page.behind_next {store items : List α} {cursor : Option κ} {k : κ}
    (h : Page key limit store cursor items (some k)) : Behind cursor k := by
  obtain ⟨last, hlast, rfl⟩ := Option.map_eq_some_iff.1 (h.last k rfl)
  exact (h.mem last (List.mem_of_getLast? hlast)).2

theorem Walk.behind {cursor : Option κ} {stores pages : List (List α)} {done : Bool}
    (h : Walk key limit cursor stores pages done) : ∀ a ∈ pages.flatten, Behind cursor (key a) := by
  induction h with
  | stop cursor => exact fun a ha => absurd ha List.not_mem_nil
  | last hpage =>
    rw [List.flatten_singleton]
    exact fun a ha => (hpage.mem a ha).2
  | more hpage _ ih =>
    intro a ha
    rw [List.flatten_cons] at ha
    rcases List.mem_append.1 ha with ha | ha
    · exact (hpage.mem a ha).2
    · exact fun c hc => lt_trans (hpage.behind_next c hc) (ih a ha _ rfl)

/-- The rows of a walk come in order, so none of them twice. -/
theorem Walk.sorted {cursor : Option κ} {stores pages : List (List α)} {done : Bool}
    (h : Walk key limit cursor stores pages done) : pages.flatten.Pairwise fun a b => key a < key b := by
  induction h with
  | stop cursor => exact .nil
  | last hpage =>
    rw [List.flatten_singleton]
    exact hpage.sorted
  | more hpage hrest ih =>
    rw [List.flatten_cons]
    refine List.pairwise_append.2 ⟨hpage.sorted, ih, fun a ha b hb => ?_⟩
    exact lt_of_le_of_lt (hpage.lt_next a ha) (hrest.behind b hb _ rfl)

/-- Every row of a page was in the store when the page was read. -/
theorem Walk.mem {cursor : Option κ} {stores pages : List (List α)} {done : Bool}
    (h : Walk key limit cursor stores pages done) : List.Forall₂ (fun page store => page ⊆ store) pages stores := by
  induction h with
  | stop cursor => exact .nil
  | last hpage => exact .cons (fun a ha => (hpage.mem a ha).1) .nil
  | more hpage _ ih => exact .cons (fun a ha => (hpage.mem a ha).1) ih

/-- A row that is in every store, behind the cursor, is one of a finished walk's. -/
theorem Walk.complete {cursor : Option κ} {stores pages : List (List α)} {done : Bool}
    (h : Walk key limit cursor stores pages done) (hdone : done = true) {a : α} (ha : ∀ store ∈ stores, a ∈ store)
    (hbehind : Behind cursor (key a)) : a ∈ pages.flatten := by
  induction h with
  | stop cursor => cases hdone
  | last hpage =>
    rw [List.flatten_singleton]
    exact hpage.complete.1 rfl a (ha _ (List.mem_singleton_self _)) hbehind
  | @more cursor store items k stores pages done hpage _ ih =>
    rw [List.flatten_cons]
    rcases hpage.first a (ha _ List.mem_cons_self) hbehind with hitem | hlater
    · exact List.mem_append_left _ hitem
    · refine List.mem_append_right _ (ih hdone (fun store hstore => ha store (List.mem_cons_of_mem _ hstore)) ?_)
      intro c hc
      obtain rfl := Option.some.inj hc
      obtain ⟨last, hlast, rfl⟩ := Option.map_eq_some_iff.1 (hpage.last k rfl)
      exact hlater last (List.mem_of_getLast? hlast)

end Keyset
