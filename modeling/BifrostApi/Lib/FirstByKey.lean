import Mathlib.Data.List.Forall2
import Mathlib.Data.List.Induction
import Mathlib.Data.List.Nodup
import BifrostApi.Lib.Stage

/-!
# The first element of each key

`firstByKey key xs` keeps, in order, the first element of every key; an element without a key (`none`)
is always kept. It is what a loop with a `seen` set computes. The lemmas say which element stands for a
key (`find?_firstByKey`), that keys are distinct (`nodup_firstByKey`), what is kept without a key
(`filter_firstByKey`), and the order (`firstByKey_sublist`, `pairwise_idxOf_firstByKey`).

`showFirst` is the loop as it stands in code that reads keys which may raise, shows what it keeps and stops
after `limit` of them (`showFirst_eq_ok`).
-/

namespace FirstByKey

variable {α κ : Type} [DecidableEq κ]

/-- The loop, with the keys seen so far. -/
def firstByKeyFrom (key : α → Option κ) (seen : List κ) : List α → List α
  | [] => []
  | x :: xs => match key x with
    | none => x :: firstByKeyFrom key seen xs
    | some k => if k ∈ seen then firstByKeyFrom key seen xs else x :: firstByKeyFrom key (k :: seen) xs

def firstByKey (key : α → Option κ) (xs : List α) : List α := firstByKeyFrom key [] xs

variable {key : α → Option κ}

theorem firstByKeyFrom_none {x : α} (h : key x = none) (seen : List κ) (xs : List α) :
    firstByKeyFrom key seen (x :: xs) = x :: firstByKeyFrom key seen xs := by
  rw [firstByKeyFrom, h]

theorem firstByKeyFrom_seen {x : α} {k : κ} (h : key x = some k) {seen : List κ} (hk : k ∈ seen) (xs : List α) :
    firstByKeyFrom key seen (x :: xs) = firstByKeyFrom key seen xs := by
  simp only [firstByKeyFrom, h, if_pos hk]

theorem firstByKeyFrom_new {x : α} {k : κ} (h : key x = some k) {seen : List κ} (hk : k ∉ seen) (xs : List α) :
    firstByKeyFrom key seen (x :: xs) = x :: firstByKeyFrom key (k :: seen) xs := by
  simp only [firstByKeyFrom, h, if_neg hk]

/-- An element that is not skipped is kept, and its key, if it has one, is seen from there on. -/
theorem firstByKeyFrom_kept {x : α} {seen : List κ} (h : ¬ ∃ k ∈ key x, k ∈ seen) (xs : List α) :
    firstByKeyFrom key seen (x :: xs) = x :: firstByKeyFrom key ((key x).toList ++ seen) xs := by
  cases hk : key x with
  | none => rw [firstByKeyFrom_none hk, Option.toList_none, List.nil_append]
  | some k =>
    have hks : k ∉ seen := fun hmem => h ⟨k, hk, hmem⟩
    rw [firstByKeyFrom_new hk hks, Option.toList_some, List.singleton_append]

theorem firstByKeyFrom_sublist : ∀ (xs : List α) (seen : List κ), (firstByKeyFrom key seen xs).Sublist xs
  | [], _ => List.Sublist.slnil
  | x :: xs, seen => by
    cases h : key x with
    | none =>
      rw [firstByKeyFrom_none h]
      exact (firstByKeyFrom_sublist xs seen).cons_cons x
    | some k =>
      by_cases hk : k ∈ seen
      · rw [firstByKeyFrom_seen h hk]
        exact (firstByKeyFrom_sublist xs seen).cons x
      · rw [firstByKeyFrom_new h hk]
        exact (firstByKeyFrom_sublist xs (k :: seen)).cons_cons x

theorem firstByKey_sublist (xs : List α) : (firstByKey key xs).Sublist xs := firstByKeyFrom_sublist xs []

/-- The first element of an unseen key is the one that is kept. -/
theorem find?_firstByKeyFrom {k : κ} : ∀ {xs : List α} {seen : List κ}, k ∉ seen →
    (firstByKeyFrom key seen xs).find? (fun x => key x = some k) = xs.find? fun x => key x = some k
  | [], _, _ => rfl
  | x :: xs, seen, hk => by
    have hskip : key x ≠ some k → (x :: xs).find? (fun x => decide (key x = some k)) =
        xs.find? fun x => decide (key x = some k) :=
      fun hne => List.find?_cons_of_neg (by simpa using hne)
    cases h : key x with
    | none =>
      rw [firstByKeyFrom_none h, List.find?_cons_of_neg (by simp [h]), List.find?_cons_of_neg (by simp [h])]
      exact find?_firstByKeyFrom hk
    | some k' =>
      by_cases hk' : k' ∈ seen
      · have hne : key x ≠ some k := fun heq => hk (by rw [h] at heq; exact Option.some.inj heq ▸ hk')
        rw [firstByKeyFrom_seen h hk', hskip hne]
        exact find?_firstByKeyFrom hk
      · rw [firstByKeyFrom_new h hk']
        by_cases heq : k' = k
        · subst heq
          rw [List.find?_cons_of_pos (by simp [h]), List.find?_cons_of_pos (by simp [h])]
        · have hne : key x ≠ some k := fun h' => heq (Option.some.inj (h.symm.trans h'))
          rw [hskip hne, List.find?_cons_of_neg (by simpa using hne)]
          have hunseen : k ∉ k' :: seen := fun hmem => by
            rcases List.mem_cons.1 hmem with hkk | hmem
            · exact heq hkk.symm
            · exact hk hmem
          exact find?_firstByKeyFrom hunseen

theorem find?_firstByKey (xs : List α) (k : κ) :
    (firstByKey key xs).find? (fun x => key x = some k) = xs.find? fun x => key x = some k :=
  find?_firstByKeyFrom List.not_mem_nil

/-- A key that was seen is not kept again. -/
theorem not_seen_of_mem : ∀ {xs : List α} {seen : List κ} {x : α} {k : κ},
    x ∈ firstByKeyFrom key seen xs → key x = some k → k ∉ seen
  | [], _, _, _, hx, _ => absurd hx List.not_mem_nil
  | y :: ys, seen, x, k, hx, hkey => by
    cases h : key y with
    | none =>
      rw [firstByKeyFrom_none h] at hx
      rcases List.mem_cons.1 hx with rfl | hx
      · rw [h] at hkey
        cases hkey
      · exact not_seen_of_mem hx hkey
    | some k' =>
      by_cases hk' : k' ∈ seen
      · rw [firstByKeyFrom_seen h hk'] at hx
        exact not_seen_of_mem hx hkey
      · rw [firstByKeyFrom_new h hk'] at hx
        rcases List.mem_cons.1 hx with rfl | hx
        · obtain rfl := Option.some.inj (h.symm.trans hkey)
          exact hk'
        · exact fun hmem => not_seen_of_mem hx hkey (List.mem_cons_of_mem k' hmem)

/-- No two kept elements share a key. -/
theorem nodup_firstByKeyFrom : ∀ (xs : List α) (seen : List κ),
    ((firstByKeyFrom key seen xs).filterMap key).Nodup
  | [], _ => List.nodup_nil
  | x :: xs, seen => by
    cases h : key x with
    | none =>
      rw [firstByKeyFrom_none h, List.filterMap_cons_none h]
      exact nodup_firstByKeyFrom xs seen
    | some k =>
      by_cases hk : k ∈ seen
      · rw [firstByKeyFrom_seen h hk]
        exact nodup_firstByKeyFrom xs seen
      · rw [firstByKeyFrom_new h hk, List.filterMap_cons_some h]
        refine List.nodup_cons.2 ⟨fun hmem => ?_, nodup_firstByKeyFrom xs (k :: seen)⟩
        obtain ⟨y, hy, hkey⟩ := List.mem_filterMap.1 hmem
        exact not_seen_of_mem hy hkey (by simp)

theorem nodup_firstByKey (xs : List α) : ((firstByKey key xs).filterMap key).Nodup := nodup_firstByKeyFrom xs []

/-- Every element without a key is kept. -/
theorem filter_firstByKeyFrom : ∀ (xs : List α) (seen : List κ),
    (firstByKeyFrom key seen xs).filter (fun x => (key x).isNone) = xs.filter fun x => (key x).isNone
  | [], _ => rfl
  | x :: xs, seen => by
    cases h : key x with
    | none =>
      rw [firstByKeyFrom_none h, List.filter_cons_of_pos (by simp [h]), List.filter_cons_of_pos (by simp [h]),
        filter_firstByKeyFrom xs seen]
    | some k =>
      rw [List.filter_cons_of_neg (by simp [h])]
      by_cases hk : k ∈ seen
      · rw [firstByKeyFrom_seen h hk]
        exact filter_firstByKeyFrom xs seen
      · rw [firstByKeyFrom_new h hk, List.filter_cons_of_neg (by simp [h])]
        exact filter_firstByKeyFrom xs (k :: seen)

theorem filter_firstByKey (xs : List α) :
    (firstByKey key xs).filter (fun x => (key x).isNone) = xs.filter fun x => (key x).isNone :=
  filter_firstByKeyFrom xs []

/-- Every key that occurs is kept once. -/
theorem exists_mem_firstByKey {xs : List α} {x : α} {k : κ} (hx : x ∈ xs) (hk : key x = some k) :
    ∃ y ∈ firstByKey key xs, key y = some k := by
  have hsome : (xs.find? fun x => decide (key x = some k)).isSome = true :=
    List.find?_isSome.2 ⟨x, hx, by simpa using hk⟩
  rw [← find?_firstByKey] at hsome
  obtain ⟨y, hy⟩ := Option.isSome_iff_exists.1 hsome
  exact ⟨y, List.mem_of_find?_eq_some hy, by simpa using List.find?_some hy⟩

/-- The kept element of a key is the first one with it. -/
theorem find?_of_mem_firstByKey {xs : List α} {x : α} {k : κ} (hx : x ∈ firstByKey key xs) (hk : key x = some k) :
    xs.find? (fun y => key y = some k) = some x := by
  rw [← find?_firstByKey]
  have hnodup := @nodup_firstByKey α κ _ key xs
  obtain ⟨before, after, hsplit⟩ := List.append_of_mem hx
  rw [hsplit, List.filterMap_append, List.filterMap_cons_some hk] at hnodup
  have hbefore : ∀ y ∈ before, ¬ decide (key y = some k) = true := by
    intro y hy hkey
    have hmem : k ∈ before.filterMap key := List.mem_filterMap.2 ⟨y, hy, by simpa using hkey⟩
    exact (List.nodup_append.1 hnodup).2.2 k hmem k (by simp) rfl
  rw [hsplit, List.find?_append, List.find?_eq_none.2 hbefore, Option.none_or,
    List.find?_cons_of_pos (by simpa using hk)]

theorem pairwise_idxOf_firstByKeyFrom : ∀ (xs : List α) (seen : List κ),
    ((firstByKeyFrom key seen xs).filterMap key).Pairwise
      fun k k' => (xs.filterMap key).idxOf k < (xs.filterMap key).idxOf k'
  | [], _ => List.Pairwise.nil
  | x :: xs, seen => by
    have hshift : ∀ {k : κ} {ks : List κ}, k ∉ ks →
        ks.Pairwise (fun a b => (xs.filterMap key).idxOf a < (xs.filterMap key).idxOf b) →
        ks.Pairwise fun a b => (k :: xs.filterMap key).idxOf a < (k :: xs.filterMap key).idxOf b := by
      intro k ks hk hks
      refine hks.imp_of_mem @fun a b ha hb hlt => ?_
      have hka : k ≠ a := fun h => hk (h ▸ ha)
      have hkb : k ≠ b := fun h => hk (h ▸ hb)
      rw [List.idxOf_cons_ne _ hka, List.idxOf_cons_ne _ hkb]
      exact Nat.succ_lt_succ hlt
    have hunseen : ∀ {k : κ} {seen : List κ}, k ∈ seen → k ∉ (firstByKeyFrom key seen xs).filterMap key := by
      intro k seen hk hmem
      obtain ⟨y, hy, hkey⟩ := List.mem_filterMap.1 hmem
      exact not_seen_of_mem hy hkey hk
    cases h : key x with
    | none =>
      rw [firstByKeyFrom_none h, List.filterMap_cons_none h, List.filterMap_cons_none h]
      exact pairwise_idxOf_firstByKeyFrom xs seen
    | some k =>
      rw [List.filterMap_cons_some h]
      by_cases hk : k ∈ seen
      · rw [firstByKeyFrom_seen h hk]
        exact hshift (hunseen hk) (pairwise_idxOf_firstByKeyFrom xs seen)
      · rw [firstByKeyFrom_new h hk, List.filterMap_cons_some h]
        have hnot : k ∉ (firstByKeyFrom key (k :: seen) xs).filterMap key := hunseen (by simp)
        refine List.pairwise_cons.2 ⟨fun k' hk' => ?_, hshift hnot (pairwise_idxOf_firstByKeyFrom xs (k :: seen))⟩
        have hne : k ≠ k' := fun h => hnot (h ▸ hk')
        rw [List.idxOf_cons_self, List.idxOf_cons_ne _ hne]
        exact Nat.succ_pos _

/-- The kept keys stand in the order of their first appearance. -/
theorem pairwise_idxOf_firstByKey (xs : List α) :
    ((firstByKey key xs).filterMap key).Pairwise
      fun k k' => (xs.filterMap key).idxOf k < (xs.filterMap key).idxOf k' :=
  pairwise_idxOf_firstByKeyFrom xs []

/-- Positions among the elements that satisfy `p` compare like positions in the whole list. -/
theorem idxOf_lt_of_filter {p : κ → Bool} {a b : κ} (ha : p a = true) (hb : p b = true) : ∀ {xs : List κ},
    (xs.filter p).idxOf a < (xs.filter p).idxOf b → xs.idxOf a < xs.idxOf b
  | [], h => h
  | x :: xs, h => by
    by_cases hxa : x = a
    · subst hxa
      have hxb : x ≠ b := fun heq => by
        subst heq
        exact absurd h (Nat.lt_irrefl _)
      rw [List.idxOf_cons_self, List.idxOf_cons_ne _ hxb]
      exact Nat.succ_pos _
    · by_cases hxb : x = b
      · subst hxb
        rw [List.filter_cons_of_pos hb, List.idxOf_cons_self] at h
        exact absurd h (Nat.not_lt_zero _)
      · rw [List.idxOf_cons_ne _ hxa, List.idxOf_cons_ne _ hxb]
        apply Nat.succ_lt_succ
        apply idxOf_lt_of_filter ha hb
        by_cases hx : p x = true
        · rw [List.filter_cons_of_pos hx, List.idxOf_cons_ne _ hxa, List.idxOf_cons_ne _ hxb] at h
          exact Nat.lt_of_succ_lt_succ h
        · rw [List.filter_cons_of_neg hx] at h
          exact h

/-- One more element at the end is kept if it has no key or a new one. -/
theorem firstByKeyFrom_concat {x : α} : ∀ (xs : List α) (seen : List κ),
    firstByKeyFrom key seen (xs ++ [x]) = firstByKeyFrom key seen xs ++
      (if ∃ k ∈ key x, k ∈ seen ∨ k ∈ xs.filterMap key then [] else [x])
  | [], seen => by
    cases h : key x with
    | none => simp [firstByKeyFrom, h]
    | some k => by_cases hk : k ∈ seen <;> simp [firstByKeyFrom, h, hk]
  | y :: ys, seen => by
    rw [List.cons_append]
    cases h : key y with
    | none =>
      rw [firstByKeyFrom_none h, firstByKeyFrom_none h, firstByKeyFrom_concat ys seen, List.filterMap_cons_none h,
        List.cons_append]
    | some k =>
      rw [List.filterMap_cons_some h]
      by_cases hk : k ∈ seen
      · rw [firstByKeyFrom_seen h hk, firstByKeyFrom_seen h hk, firstByKeyFrom_concat ys seen]
        have hiff : (∃ k' ∈ key x, k' ∈ seen ∨ k' ∈ ys.filterMap key) ↔
            ∃ k' ∈ key x, k' ∈ seen ∨ k' ∈ k :: ys.filterMap key := by
          refine exists_congr fun k' => and_congr_right fun _ => ?_
          rw [List.mem_cons]
          constructor
          · rintro (hs | hys)
            · exact Or.inl hs
            · exact Or.inr (Or.inr hys)
          · rintro (hs | rfl | hys)
            · exact Or.inl hs
            · exact Or.inl hk
            · exact Or.inr hys
        simp only [hiff]
      · rw [firstByKeyFrom_new h hk, firstByKeyFrom_new h hk, firstByKeyFrom_concat ys (k :: seen),
          List.cons_append]
        have hiff : (∃ k' ∈ key x, k' ∈ k :: seen ∨ k' ∈ ys.filterMap key) ↔
            ∃ k' ∈ key x, k' ∈ seen ∨ k' ∈ k :: ys.filterMap key := by
          refine exists_congr fun k' => and_congr_right fun _ => ?_
          rw [List.mem_cons, List.mem_cons, or_assoc, or_left_comm]
        simp only [hiff]

theorem firstByKey_concat (xs : List α) (x : α) :
    firstByKey key (xs ++ [x]) = firstByKey key xs ++ (if ∃ k ∈ key x, k ∈ xs.filterMap key then [] else [x]) := by
  rw [firstByKey, firstByKeyFrom_concat]
  simp only [List.not_mem_nil, false_or]
  rfl

theorem firstByKey_initial (xs ys : List α) : (firstByKey key xs).IsPrefix (firstByKey key (xs ++ ys)) := by
  induction ys using List.reverseRecOn with
  | nil => simp
  | append_singleton ys y ih =>
    rw [← List.append_assoc, firstByKey_concat]
    exact ih.trans (List.prefix_append _ _)

theorem mem_firstByKey_self {xs : List κ} {k : κ} : k ∈ firstByKey some xs ↔ k ∈ xs := by
  constructor
  · exact fun h => (firstByKey_sublist xs).subset h
  · intro h
    obtain ⟨x, hx, hk⟩ := exists_mem_firstByKey h (rfl : some k = some k)
    exact Option.some.inj hk ▸ hx

/-- `for x in xs: if p(x) and x not in out: out.append(x)` -/
theorem foldl_append_new (p : κ → Bool) (xs : List κ) :
    xs.foldl (fun out x => if p x = true ∧ x ∉ out then out ++ [x] else out) [] = firstByKey some (xs.filter p) := by
  induction xs using List.reverseRecOn with
  | nil => rfl
  | append_singleton xs x ih =>
    rw [List.foldl_append, ih, List.foldl_cons, List.foldl_nil, List.filter_append]
    by_cases hp : p x = true
    · have hmem : (∃ k ∈ some x, k ∈ (xs.filter p).filterMap some) ↔ x ∈ firstByKey some (xs.filter p) := by
        rw [mem_firstByKey_self, List.filterMap_some]
        simp
      rw [List.filter_cons_of_pos hp, List.filter_nil, firstByKey_concat]
      simp only [hmem]
      by_cases hx : x ∈ firstByKey some (xs.filter p)
      · rw [if_neg fun h => h.2 hx, if_pos hx, List.append_nil]
      · rw [if_pos ⟨hp, hx⟩, if_neg hx]
    · rw [List.filter_cons_of_neg hp, List.filter_nil, List.append_nil, if_neg fun h => hp h.1]

/-- An element without a key is kept right after what was kept before it. -/
theorem mem_take_firstByKey {before after : List α} {x : α} {n : Nat} (hx : key x = none)
    (hn : (firstByKey key before).length < n) : x ∈ (firstByKey key (before ++ x :: after)).take n := by
  have hkeep : ¬ ∃ k ∈ key x, k ∈ before.filterMap key := by
    rintro ⟨k, hk, -⟩
    rw [hx] at hk
    cases hk
  have hconcat := @firstByKey_concat α κ _ key before x
  rw [if_neg hkeep] at hconcat
  obtain ⟨rest, hrest⟩ := @firstByKey_initial α κ _ key (before ++ [x]) after
  rw [hconcat, List.append_assoc, List.singleton_append] at hrest
  rw [List.append_assoc, List.singleton_append] at hrest
  rw [← hrest, List.take_append]
  refine List.mem_append_right _ ?_
  obtain ⟨m, hm⟩ : ∃ m, n - (firstByKey key before).length = m + 1 := ⟨_, (Nat.succ_pred_eq_of_pos (by omega)).symm⟩
  rw [hm, List.take_succ_cons]
  exact List.mem_cons_self

/-! ## Repeats among the first `n` -/

theorem forall_split_concat {P : List α → α → Prop} {xs : List α} {x : α} :
    (∀ before y after, xs ++ [x] = before ++ y :: after → P before y) ↔
      (∀ before y after, xs = before ++ y :: after → P before y) ∧ P xs x := by
  constructor
  · intro h
    refine ⟨fun before y after hsplit => ?_, h xs x [] rfl⟩
    exact h before y (after ++ [x]) (by rw [hsplit, List.append_assoc, List.cons_append])
  · rintro ⟨hxs, hx⟩ before y after hsplit
    rcases List.eq_nil_or_concat after with rfl | ⟨after', z, rfl⟩
    · obtain ⟨rfl, hlast⟩ := List.append_inj' hsplit rfl
      obtain ⟨rfl, -⟩ := List.cons.inj hlast
      exact hx
    · have hlonger : xs ++ [x] = (before ++ y :: after') ++ [z] := by
        rw [hsplit, List.concat_eq_append, List.append_assoc, List.cons_append]
      exact hxs before y after' (List.append_inj' hlonger rfl).1

/-- The values of the kept elements that have no key are those of all elements that have none. -/
theorem mem_map_firstByKey {γ : Type} {full : α → γ} (hfull : ∀ x y, full x = full y → key x = key y) {xs : List α}
    {x : α} (hx : key x = none) : full x ∈ (firstByKey key xs).map full ↔ ∃ y ∈ xs, full y = full x := by
  rw [List.mem_map]
  constructor
  · rintro ⟨y, hy, heq⟩
    exact ⟨y, (firstByKey_sublist xs).subset hy, heq⟩
  · rintro ⟨y, hy, heq⟩
    have hnone : (key y).isNone = true := by rw [hfull y x heq, hx]; rfl
    have hkept : y ∈ (firstByKey key xs).filter fun z => (key z).isNone := by
      rw [filter_firstByKey]
      exact List.mem_filter.2 ⟨hy, hnone⟩
    exact ⟨y, (List.mem_filter.1 hkept).1, heq⟩

/-- One more element of a new key repeats no value. -/
theorem nodup_take_concat {γ : Type} {full : α → γ} (hfull : ∀ x y, full x = full y → key x = key y) (n : Nat)
    {xs : List α} {x : α} {k : κ} (hx : key x = some k) (hk : k ∉ xs.filterMap key) :
    (((firstByKey key xs ++ [x]).take n).map full).Nodup ↔ (((firstByKey key xs).take n).map full).Nodup := by
  rw [List.take_append, List.map_append, List.nodup_append]
  refine ⟨fun h => h.1, fun h => ⟨h, ?_, ?_⟩⟩
  · exact (List.nodup_singleton _).sublist ((List.take_sublist _ _).map full)
  · intro a ha b hb hab
    obtain ⟨y, hy, rfl⟩ := List.mem_map.1 ha
    obtain ⟨z, hz, rfl⟩ := List.mem_map.1 hb
    obtain rfl := List.mem_singleton.1 (List.mem_of_mem_take hz)
    have hyx : y ∈ xs := (firstByKey_sublist xs).subset (List.mem_of_mem_take hy)
    exact hk (List.mem_filterMap.2 ⟨y, hyx, (hfull y z hab).trans hx⟩)

/-- Among the first `n` kept elements a value repeats only where an element without a key repeats the value of
an earlier one. -/
theorem nodup_take_firstByKey {γ : Type} {full : α → γ} (hfull : ∀ x y, full x = full y → key x = key y) (n : Nat)
    (xs : List α) :
    (((firstByKey key xs).take n).map full).Nodup ↔
      ∀ before x after, xs = before ++ x :: after →
        key x = none → (∃ y ∈ before, full y = full x) → n ≤ (firstByKey key before).length := by
  induction xs using List.reverseRecOn with
  | nil =>
    refine iff_of_true (by simp [firstByKey, firstByKeyFrom]) fun before x after hsplit => ?_
    simp at hsplit
  | append_singleton xs x ih =>
    rw [forall_split_concat, ← ih, firstByKey_concat]
    cases hx : key x with
    | some k =>
      have hskip : (some k = none → (∃ y ∈ xs, full y = full x) → n ≤ (firstByKey key xs).length) ↔ True :=
        iff_of_true (fun h => by cases h) trivial
      rw [hskip, and_true]
      by_cases hk : k ∈ xs.filterMap key
      · rw [if_pos ⟨k, rfl, hk⟩, List.append_nil]
      · have hnew : ¬ ∃ k' ∈ some k, k' ∈ xs.filterMap key := by
          rintro ⟨k', hk', hmem⟩
          obtain rfl := Option.some.inj hk'
          exact hk hmem
        rw [if_neg hnew, nodup_take_concat hfull n hx hk]
    | none =>
      have hkeep : ¬ ∃ k' ∈ (none : Option κ), k' ∈ xs.filterMap key := by
        rintro ⟨k', hk', -⟩
        cases hk'
      rw [if_neg hkeep]
      by_cases hfull' : n ≤ (firstByKey key xs).length
      · rw [List.take_append_of_le_length hfull']
        exact ⟨fun h => ⟨h, fun _ _ => hfull'⟩, fun h => h.1⟩
      · have hall : (firstByKey key xs).take n = firstByKey key xs := List.take_of_length_le (by omega)
        have hmore : (firstByKey key xs ++ [x]).take n = firstByKey key xs ++ [x] := by
          apply List.take_of_length_le
          rw [List.length_append, List.length_singleton]
          omega
        rw [hall, hmore, List.map_append, List.map_singleton, List.nodup_append_comm, List.singleton_append,
          List.nodup_cons, and_comm]
        refine and_congr_right fun _ => ?_
        rw [mem_map_firstByKey hfull hx]
        exact ⟨fun h _ hrepeat => absurd hrepeat h, fun h hrepeat => hfull' (h rfl hrepeat)⟩

/-! ## The loop -/

section Loop

variable {ε β γ : Type}

/-- `read` an element, skip it if its key was seen, `render` it otherwise; `limit` elements are enough. -/
def showFirst (read : α → Except ε γ) (key : γ → Option κ) (render : α → γ → Except ε β) (limit : Nat) :
    (seen : List κ) → (shown : Nat) → List α → Except ε (List β)
  | _, _, [] => .ok []
  | seen, shown, x :: xs => match read x with
    | .error e => .error e
    | .ok c =>
      if ∃ k ∈ key c, k ∈ seen then showFirst read key render limit seen shown xs
      else match render x c with
        | .error e => .error e
        | .ok b =>
          if limit ≤ shown + 1 then .ok [b]
          else (showFirst read key render limit ((key c).toList ++ seen) (shown + 1) xs).map (b :: ·)

variable {read : α → Except ε γ} {key : γ → Option κ} {render : α → γ → Except ε β} {limit : Nat}

/-- The key of an element; one that cannot be read has none. -/
def keyOf (read : α → Except ε γ) (key : γ → Option κ) (x : α) : Option κ :=
  match read x with
  | .ok c => key c
  | .error _ => none

/-- What the loop gives shows the first `limit` elements of distinct keys. -/
theorem showFirst_eq_ok : ∀ {xs : List α} {seen : List κ} {shown : Nat} {bs : List β}, shown < limit →
    showFirst read key render limit seen shown xs = .ok bs →
    List.Forall₂ (fun x b => ∃ c, read x = .ok c ∧ render x c = .ok b)
      ((firstByKeyFrom (keyOf read key) seen xs).take (limit - shown)) bs
  | [], seen, shown, bs, _, h => by
    obtain rfl := Except.ok.inj h
    rw [firstByKeyFrom, List.take_nil]
    exact List.Forall₂.nil
  | x :: xs, seen, shown, bs, hshown, h => by
    rw [showFirst] at h
    cases hread : read x with
    | error e =>
      rw [hread] at h
      cases h
    | ok c =>
      rw [hread] at h
      dsimp only at h
      have hkey : keyOf read key x = key c := by rw [keyOf, hread]
      split at h
      · rename_i hseen
        obtain ⟨k, hk, hks⟩ := hseen
        rw [firstByKeyFrom_seen (hkey.trans hk) hks]
        exact showFirst_eq_ok hshown h
      · rename_i hnew
        cases hrender : render x c with
        | error e =>
          rw [hrender] at h
          cases h
        | ok b =>
          rw [hrender] at h
          dsimp only at h
          rw [← hkey] at hnew
          rw [firstByKeyFrom_kept hnew, hkey]
          split at h
          · have hone : limit - shown = 1 := by omega
            obtain rfl := Except.ok.inj h
            rw [hone, List.take_succ_cons, List.take_zero]
            exact List.Forall₂.cons ⟨c, hread, hrender⟩ List.Forall₂.nil
          · cases hrest : showFirst read key render limit ((key c).toList ++ seen) (shown + 1) xs with
            | error e =>
              rw [hrest] at h
              cases h
            | ok bs' =>
              rw [hrest] at h
              obtain rfl := Except.ok.inj h
              have hleft : limit - shown = (limit - (shown + 1)) + 1 := by omega
              rw [hleft, List.take_succ_cons]
              exact List.Forall₂.cons ⟨c, hread, hrender⟩ (showFirst_eq_ok (by omega) hrest)

/-- The loop raises only where an element does. -/
theorem answers_showFirst : ∀ {xs : List α} {seen : List κ} {shown : Nat},
    (∀ x ∈ xs, ∃ c, read x = .ok c ∧ Stage.Answers (render x c)) →
    Stage.Answers (showFirst read key render limit seen shown xs)
  | [], _, _, _ => ⟨[], rfl⟩
  | x :: xs, seen, shown, h => by
    obtain ⟨⟨c, hread, b, hrender⟩, hxs⟩ := List.forall_mem_cons.1 h
    rw [showFirst, hread]
    dsimp only
    rw [hrender]
    split
    · exact answers_showFirst hxs
    · dsimp only
      split
      · exact ⟨[b], rfl⟩
      · obtain ⟨bs, hbs⟩ := @answers_showFirst xs ((key c).toList ++ seen) (shown + 1) hxs
        rw [hbs]
        exact ⟨b :: bs, rfl⟩

end Loop

end FirstByKey
