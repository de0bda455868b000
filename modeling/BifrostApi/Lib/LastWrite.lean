import Mathlib.Logic.Function.Basic
import Mathlib.Data.List.Induction

/-!
# Where a field's value comes from

Writers of a keyed table of rows each say some of a row's fields. `origin_run` says of every field of every row which
write its value comes from: the last one that said it, whatever the writes in between said of other fields and other
rows. No such write is lost to one that did not know of it.
-/

namespace LastWrite

variable {K F V : Type}

abbrev Table (K F V : Type) := K → Option (F → V)

inductive Write (K F V : Type)
  /-- The fields said change; a row that is not there is made. -/
  | put (key : K) (said : F → Option V)
  /-- The fields said change, where there is a row. -/
  | change (key : K) (said : F → Option V)
  | remove (key : K)
  /-- In every row a field of some values takes another. -/
  | sweep (becomes : F → V → Option V)

/-- The fields said over a row. -/
def overlay (said : F → Option V) (row : F → V) : F → V := fun f => (said f).getD (row f)

def swept (becomes : F → V → Option V) (row : F → V) : F → V := fun f => (becomes f (row f)).getD (row f)

/-- The row was put and not removed since, or was there and never removed. -/
def Stands (t : Table K F V) (key : K) (ws : List (Write K F V)) : Prop :=
  (∃ before said after, ws = before ++ .put key said :: after ∧ .remove key ∉ after) ∨
  ((t key).isSome = true ∧ .remove key ∉ ws)

namespace Write

/-- The write says nothing of the field of the row, and leaves the row. -/
def Spares (key : K) (f : F) : Write K F V → Prop
  | put key' said | change key' said => key' = key → said f = none
  | remove key' => key' ≠ key
  | sweep becomes => ∀ v, becomes f v = none

/-- The write says `v` of the field of the row. -/
def Says (key : K) (f : F) (v : V) : Write K F V → Prop
  | put key' said | change key' said => key' = key ∧ said f = some v
  | remove _ | sweep _ => False

end Write

section

variable [DecidableEq K] (fresh : K → F → V)

/-- `fresh` is what a new row has where nothing is said. -/
def Table.write (t : Table K F V) : Write K F V → Table K F V
  | .put key said => Function.update t key (some (overlay said ((t key).getD (fresh key))))
  | .change key said => Function.update t key ((t key).map (overlay said))
  | .remove key => Function.update t key none
  | .sweep becomes => fun key => (t key).map (swept becomes)

def run (t : Table K F V) (ws : List (Write K F V)) : Table K F V := ws.foldl (Table.write fresh) t

/-- Where the value of a field of a row comes from. -/
inductive Origin (t : Table K F V) (key : K) (f : F) : List (Write K F V) → V → Prop
  /-- It was there from the start. -/
  | kept {ws : List (Write K F V)} {row : F → V} : t key = some row → (∀ w ∈ ws, w.Spares key f) →
    Origin t key f ws (row f)
  /-- The row was made without it. -/
  | made {before after : List (Write K F V)} {said : F → Option V} : run fresh t before key = none → said f = none →
    (∀ w ∈ after, w.Spares key f) → Origin t key f (before ++ .put key said :: after) (fresh key f)
  /-- It was said, and the row was there then. -/
  | said {before after : List (Write K F V)} {w : Write K F V} {v : V} : w.Says key f v →
    (run fresh t (before ++ [w]) key).isSome = true → (∀ w ∈ after, w.Spares key f) →
    Origin t key f (before ++ w :: after) v
  /-- A sweep found it or put it there. -/
  | swept {before after : List (Write K F V)} {becomes : F → V → Option V} {v : V} : Origin t key f before v →
    (∀ w ∈ after, w.Spares key f) → Origin t key f (before ++ .sweep becomes :: after) ((becomes f v).getD v)

end

/-! ## One more write -/

section

variable {t : Table K F V} {key : K} {ws : List (Write K F V)}

theorem concat_eq_split {α : Type} {xs before after : List α} {x y : α} (h : xs ++ [x] = before ++ y :: after) :
    (xs = before ∧ x = y ∧ after = []) ∨ ∃ after', after = after' ++ [x] ∧ xs = before ++ y :: after' := by
  rcases List.eq_nil_or_concat after with rfl | ⟨after', z, rfl⟩
  · obtain ⟨hxs, hlast⟩ := List.append_inj' h rfl
    exact Or.inl ⟨hxs, (List.cons.inj hlast).1, rfl⟩
  · rw [List.concat_eq_append, ← List.cons_append, ← List.append_assoc] at h
    obtain ⟨hxs, hlast⟩ := List.append_inj' h rfl
    obtain rfl := (List.cons.inj hlast).1
    exact Or.inr ⟨after', List.concat_eq_append, hxs⟩

theorem stands_concat_iff {w : Write K F V} (hput : ∀ said, w ≠ .put key said) (hremove : w ≠ .remove key) :
    Stands t key (ws ++ [w]) ↔ Stands t key ws := by
  have hlast : ∀ {after : List (Write K F V)}, .remove key ∉ after → Write.remove key ∉ after ++ [w] := by
    intro after h hmem
    rcases List.mem_append.1 hmem with hmem | hmem
    · exact h hmem
    · exact hremove (List.mem_singleton.1 hmem).symm
  constructor
  · rintro (⟨before, said, after, heq, hafter⟩ | ⟨hrow, hws⟩)
    · rcases concat_eq_split heq with ⟨-, hw, -⟩ | ⟨after', rfl, hws⟩
      · exact absurd hw (hput said)
      · exact Or.inl ⟨before, said, after', hws, fun hmem => hafter (List.mem_append_left _ hmem)⟩
    · exact Or.inr ⟨hrow, fun hmem => hws (List.mem_append_left _ hmem)⟩
  · rintro (⟨before, said, after, rfl, hafter⟩ | ⟨hrow, hws⟩)
    · refine Or.inl ⟨before, said, after ++ [w], ?_, hlast hafter⟩
      rw [List.append_assoc, List.cons_append]
    · exact Or.inr ⟨hrow, hlast hws⟩

theorem not_stands_remove : ¬ Stands t key (ws ++ [.remove key]) := by
  rintro (⟨before, said, after, heq, hafter⟩ | ⟨-, hws⟩)
  · rcases concat_eq_split heq with ⟨-, hw, -⟩ | ⟨after', rfl, -⟩
    · cases hw
    · exact hafter (List.mem_append_right _ (List.mem_singleton.2 rfl))
  · exact hws (List.mem_append_right _ (List.mem_singleton.2 rfl))

end

section

variable [DecidableEq K] {fresh : K → F → V} {t : Table K F V} {key : K} {f : F} {ws : List (Write K F V)}

theorem run_concat (w : Write K F V) : run fresh t (ws ++ [w]) = (run fresh t ws).write fresh w := by
  unfold run
  rw [List.foldl_append]
  rfl

/-- A write that spares the field leaves where its value comes from. -/
theorem Origin.concat {w : Write K F V} (hw : w.Spares key f) {v : V} (h : Origin fresh t key f ws v) :
    Origin fresh t key f (ws ++ [w]) v := by
  have hafter : ∀ {after : List (Write K F V)}, (∀ w ∈ after, w.Spares key f) →
      ∀ w' ∈ after ++ [w], w'.Spares key f := by
    intro after h w' hmem
    rcases List.mem_append.1 hmem with hmem | hmem
    · exact h w' hmem
    · exact List.mem_singleton.1 hmem ▸ hw
  cases h with
  | kept hrow hspare => exact .kept hrow (hafter hspare)
  | made hnone hsaid hspare =>
    rw [List.append_assoc]
    exact .made hnone hsaid (hafter hspare)
  | said hvalue hthere hspare =>
    rw [List.append_assoc]
    exact .said hvalue hthere (hafter hspare)
  | swept hbefore hspare =>
    rw [List.append_assoc]
    exact .swept hbefore (hafter hspare)

/-- What a write that finds the row makes of a field. -/
theorem Origin.overlay {w : Write K F V} {said : F → Option V} (hvalue : ∀ v, said f = some v → w.Says key f v)
    (hspares : said f = none → w.Spares key f) (hthere : (run fresh t (ws ++ [w]) key).isSome = true)
    {row : F → V} (h : Origin fresh t key f ws (row f)) : Origin fresh t key f (ws ++ [w]) (overlay said row f) := by
  unfold LastWrite.overlay
  cases hsaid : said f with
  | none => exact h.concat (hspares hsaid)
  | some v => exact .said (hvalue v hsaid) hthere fun _ hmem => absurd hmem List.not_mem_nil

/-- **Main.** Every field of every row has its value from the last write that said it, or from before. -/
theorem origin_run {row : F → V} (h : run fresh t ws key = some row) (f : F) : Origin fresh t key f ws (row f) := by
  induction ws using List.reverseRecOn generalizing row with
  | nil => exact .kept h fun _ hmem => absurd hmem List.not_mem_nil
  | append_singleton ws w ih =>
    have hthere : (run fresh t (ws ++ [w]) key).isSome = true := Option.isSome_of_eq_some h
    rw [run_concat] at h
    cases w with
    | put key' said =>
      by_cases hkey : key' = key
      · subst hkey
        rw [Table.write, Function.update_self] at h
        obtain rfl := Option.some.inj h
        cases hrow : run fresh t ws key' with
        | some row =>
          rw [Option.getD_some]
          exact (ih hrow).overlay (w := .put key' said) (fun v hv => ⟨rfl, hv⟩) (fun hnone _ => hnone) hthere
        | none =>
          rw [Option.getD_none]
          unfold LastWrite.overlay
          cases hsaid : said f with
          | none => exact .made hrow hsaid fun _ hmem => absurd hmem List.not_mem_nil
          | some v =>
            exact .said (w := .put key' said) ⟨rfl, hsaid⟩ hthere fun _ hmem => absurd hmem List.not_mem_nil
      · rw [Table.write, Function.update_of_ne (Ne.symm hkey)] at h
        exact (ih h).concat (w := .put key' said) fun heq => absurd heq hkey
    | change key' said =>
      by_cases hkey : key' = key
      · subst hkey
        rw [Table.write, Function.update_self] at h
        obtain ⟨row, hrow, rfl⟩ := Option.map_eq_some_iff.1 h
        exact (ih hrow).overlay (w := .change key' said) (fun v hv => ⟨rfl, hv⟩) (fun hnone _ => hnone) hthere
      · rw [Table.write, Function.update_of_ne (Ne.symm hkey)] at h
        exact (ih h).concat (w := .change key' said) fun heq => absurd heq hkey
    | remove key' =>
      by_cases hkey : key' = key
      · subst hkey
        rw [Table.write, Function.update_self] at h
        cases h
      · rw [Table.write, Function.update_of_ne (Ne.symm hkey)] at h
        exact (ih h).concat (w := .remove key') hkey
    | sweep becomes =>
      obtain ⟨row, hrow, rfl⟩ := Option.map_eq_some_iff.1 h
      exact .swept (ih hrow) fun _ hmem => absurd hmem List.not_mem_nil

/-- Which rows are there. -/
theorem stands_run : (run fresh t ws key).isSome = true ↔ Stands t key ws := by
  induction ws using List.reverseRecOn with
  | nil =>
    refine ⟨fun h => Or.inr ⟨h, List.not_mem_nil⟩, ?_⟩
    rintro (⟨before, said, after, heq, -⟩ | ⟨h, -⟩)
    · cases before <;> cases heq
    · exact h
  | append_singleton ws w ih =>
    rw [run_concat]
    cases w with
    | put key' said =>
      by_cases hkey : key' = key
      · subst hkey
        rw [Table.write, Function.update_self]
        exact ⟨fun _ => Or.inl ⟨ws, said, [], rfl, List.not_mem_nil⟩, fun _ => rfl⟩
      · rw [Table.write, Function.update_of_ne (Ne.symm hkey), ih, stands_concat_iff]
        · exact fun said' heq => hkey (Write.put.inj heq).1
        · exact fun heq => by cases heq
    | change key' said =>
      rw [stands_concat_iff (fun _ heq => by cases heq) (fun heq => by cases heq), ← ih, Table.write]
      by_cases hkey : key' = key
      · subst hkey
        rw [Function.update_self, Option.isSome_map]
      · rw [Function.update_of_ne (Ne.symm hkey)]
    | remove key' =>
      by_cases hkey : key' = key
      · subst hkey
        rw [Table.write, Function.update_self]
        exact ⟨fun h => (by cases h), fun h => absurd h not_stands_remove⟩
      · rw [Table.write, Function.update_of_ne (Ne.symm hkey), ih, stands_concat_iff (fun _ heq => by cases heq)]
        exact fun heq => hkey (Write.remove.inj heq)
    | sweep becomes =>
      rw [stands_concat_iff (fun _ heq => by cases heq) (fun heq => by cases heq), ← ih, Table.write, Option.isSome_map]

end

end LastWrite
