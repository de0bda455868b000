import BifrostApi.Lib.Run
import Mathlib.Data.List.Infix
import Mathlib.Data.List.Nodup
import Mathlib.Logic.Function.Basic

/-!
# A broadcast hub

A publisher thread hands messages to the bounded queues of the subscribers of an event loop. It looks at the
registered queues once per batch and posts one callback per message and queue; the loop runs the callbacks in the
order in which they were posted, and each puts its message into its queue. Subscribers come, take and go in between.

`invariant_step` holds of every interleaving: a subscriber takes messages in the order of their publication, none
twice. `complete_step` says when it gets all of them: nothing that was for it is skipped, and its queue is never full
when a message arrives.
-/

namespace Broadcast

open Function

variable {Q M : Type}

/-- `put` into a queue of at most `capacity` messages makes room at its old end. -/
structure DropsOldest (capacity : Nat) (put : List M → M → List M) : Prop where
  room : ∀ (ms : List M) (m : M), ms.length < capacity → put ms m = ms ++ [m]
  full : ∀ (ms : List M) (m : M), ms.length = capacity → put ms m = ms.tail ++ [m]

def dropOldest (capacity : Nat) (ms : List M) (m : M) : List M :=
  if ms.length < capacity then ms ++ [m] else ms.tail ++ [m]

theorem dropOldest_dropsOldest (capacity : Nat) : DropsOldest capacity (dropOldest (M := M) capacity) where
  room := fun _ _ h => if_pos h
  full := fun _ _ h => if_neg h.not_lt

/-- The publisher, the loop and the queues. -/
structure Hub (Q M : Type) where
  registered : List Q
  /-- Callbacks of the publisher's batch that it has not posted yet. -/
  posting : List (Q × M)
  /-- Posted callbacks that the loop has not run yet. -/
  pending : List (Q × M)
  inbox : Q → List M
  taken : Q → List M

/-- A hub and what has happened in it; the steps do not read the latter. -/
structure Traced (Q M : Type) extends Hub Q M where
  known : List Q
  published : List M
  /-- What had been published when the queue was registered. -/
  before : Q → List M
  /-- What was published while it was registered. -/
  sent : Q → List M
  /-- What was put into it. -/
  arrived : Q → List M

inductive Event (Q M : Type)
  | subscribe (q : Q)
  | unsubscribe (q : Q)
  | publish (ms : List M)
  | post
  /-- The publisher passes over a callback. -/
  | skip
  /-- The publisher gives up the rest of its batch. -/
  | abandon
  | deliver
  | take (q : Q)
  /-- The process ends; what it holds in memory is gone. -/
  | crash

/-- The messages of the callbacks for `q`. -/
def messagesFor [DecidableEq Q] (q : Q) (ps : List (Q × M)) : List M :=
  ps.filterMap fun p => if p.1 = q then some p.2 else none

def batch (queues : List Q) (ms : List M) : List (Q × M) := ms.flatMap fun m => queues.map fun q => (q, m)

variable [DecidableEq Q]

/-- An event that is not possible leaves the hub: a queue is registered once, and a batch is published when the one
before has been posted. -/
def step (put : List M → M → List M) (t : Traced Q M) : Event Q M → Traced Q M
  | .subscribe q =>
    if q ∈ t.known then t
    else { t with
      registered := t.registered ++ [q], known := t.known ++ [q], before := update t.before q t.published }
  | .unsubscribe q => { t with registered := t.registered.erase q }
  | .publish ms =>
    if t.posting = [] then { t with
      posting := batch t.registered ms
      published := t.published ++ ms
      sent := fun q => if q ∈ t.registered then t.sent q ++ ms else t.sent q }
    else t
  | .post => match t.posting with
    | [] => t
    | p :: ps => { t with posting := ps, pending := t.pending ++ [p] }
  | .skip => { t with posting := t.posting.tail }
  | .abandon => { t with posting := [] }
  | .deliver => match t.pending with
    | [] => t
    | (q, m) :: ps => { t with
      pending := ps
      inbox := update t.inbox q (put (t.inbox q) m)
      arrived := update t.arrived q (t.arrived q ++ [m]) }
  | .take q => match t.inbox q with
    | [] => t
    | m :: ms => { t with inbox := update t.inbox q ms, taken := update t.taken q (t.taken q ++ [m]) }
  | .crash => { t with registered := [], posting := [], pending := [], inbox := fun _ => [] }

def empty : Traced Q M where
  registered := []
  posting := []
  pending := []
  inbox _ := []
  taken _ := []
  known := []
  published := []
  before _ := []
  sent _ := []
  arrived _ := []

/-! ## Callbacks for one queue -/

section MessagesFor

variable {q : Q} {ps ps' : List (Q × M)}

@[simp] theorem messagesFor_nil : messagesFor q ([] : List (Q × M)) = [] := rfl

@[simp] theorem messagesFor_append : messagesFor q (ps ++ ps') = messagesFor q ps ++ messagesFor q ps' :=
  List.filterMap_append

theorem messagesFor_cons_self (m : M) : messagesFor q ((q, m) :: ps) = m :: messagesFor q ps := by
  simp [messagesFor]

theorem messagesFor_cons_of_ne {q' : Q} (h : q' ≠ q) (m : M) : messagesFor q ((q', m) :: ps) = messagesFor q ps := by
  simp [messagesFor, h]

theorem messagesFor_tail_sublist : (messagesFor q ps.tail).Sublist (messagesFor q ps) :=
  (List.tail_sublist ps).filterMap _

theorem messagesFor_map (m : M) {queues : List Q} (h : queues.Nodup) :
    messagesFor q (queues.map fun q' => (q', m)) = if q ∈ queues then [m] else [] := by
  induction queues with
  | nil => rfl
  | cons q' queues ih =>
    obtain ⟨hnot, hrest⟩ := List.nodup_cons.1 h
    rw [List.map_cons]
    by_cases hq : q' = q
    · subst hq
      rw [messagesFor_cons_self, ih hrest, if_neg hnot, if_pos (List.mem_cons_self ..)]
    · rw [messagesFor_cons_of_ne hq, ih hrest]
      simp [Ne.symm hq]

/-- Of a batch, each registered queue gets every message once. -/
theorem messagesFor_batch {queues : List Q} (h : queues.Nodup) (ms : List M) :
    messagesFor q (batch queues ms) = if q ∈ queues then ms else [] := by
  induction ms with
  | nil => simp [batch]
  | cons m ms ih =>
    have hbatch : batch queues (m :: ms) = queues.map (fun q' => (q', m)) ++ batch queues ms := List.flatMap_cons
    rw [hbatch, messagesFor_append, ih, messagesFor_map m h]
    split <;> rfl

end MessagesFor

/-! ## Every interleaving -/

/-- What holds of a queue in every state. -/
structure Sound (capacity : Nat) (t : Traced Q M) (q : Q) : Prop where
  /-- What is on its way, or arrived, was published while the queue was registered. -/
  inFlight : (t.arrived q ++ messagesFor q t.pending ++ messagesFor q t.posting).Sublist (t.sent q)
  received : (t.taken q ++ t.inbox q).Sublist (t.arrived q)
  /-- A queue holds the newest of what arrived. -/
  newest : t.inbox q <:+ t.arrived q
  bounded : (t.inbox q).length ≤ capacity
  segment : t.before q ++ t.sent q <+: t.published
  current : q ∈ t.registered → t.before q ++ t.sent q = t.published
  fresh : q ∉ t.known → t.sent q = []

structure Invariant (capacity : Nat) (t : Traced Q M) : Prop where
  nodup : t.registered.Nodup
  known : ∀ q ∈ t.registered, q ∈ t.known
  sound : ∀ q, Sound capacity t q

section Steps

variable {capacity : Nat} {put : List M → M → List M} {t : Traced Q M} {q : Q}

theorem length_put (h : DropsOldest capacity put) (hc : 0 < capacity) {ms : List M} (hms : ms.length ≤ capacity)
    (m : M) : (put ms m).length ≤ capacity := by
  rcases hms.lt_or_eq with hlt | heq
  · rw [h.room ms m hlt, List.length_append]
    exact hlt
  · rw [h.full ms m heq, List.length_append, List.length_tail, heq]
    exact (Nat.sub_add_cancel hc).le

theorem put_suffix (h : DropsOldest capacity put) {ms arrived : List M} (hms : ms.length ≤ capacity)
    (hsuffix : ms <:+ arrived) (m : M) : put ms m <:+ arrived ++ [m] := by
  rcases hms.lt_or_eq with hlt | heq
  · rw [h.room ms m hlt]
    exact List.suffix_append_self_iff.2 hsuffix
  · rw [h.full ms m heq]
    exact List.suffix_append_self_iff.2 ((List.tail_suffix ms).trans hsuffix)

theorem put_sublist (h : DropsOldest capacity put) {ms taken arrived : List M} (hms : ms.length ≤ capacity)
    (hreceived : (taken ++ ms).Sublist arrived) (m : M) : (taken ++ put ms m).Sublist (arrived ++ [m]) := by
  rcases hms.lt_or_eq with hlt | heq
  · rw [h.room ms m hlt, ← List.append_assoc]
    exact hreceived.append (List.Sublist.refl _)
  · rw [h.full ms m heq, ← List.append_assoc]
    have htail : (taken ++ ms.tail).Sublist (taken ++ ms) := (List.tail_sublist ms).append_left taken
    exact (htail.trans hreceived).append (List.Sublist.refl _)

theorem Sound.sent_of_not_registered (h : Sound capacity t q) (hq : q ∉ t.known) :
    t.arrived q = [] ∧ messagesFor q t.pending = [] ∧ messagesFor q t.posting = [] := by
  have hnone := h.inFlight
  rw [h.fresh hq, List.sublist_nil, List.append_eq_nil_iff, List.append_eq_nil_iff] at hnone
  exact ⟨hnone.1.1, hnone.1.2, hnone.2⟩

/-- Fewer callbacks in flight, and the rest as it was. -/
theorem Sound.of_posting (h : Sound capacity t q) {posting : List (Q × M)}
    (hless : (messagesFor q posting).Sublist (messagesFor q t.posting)) :
    Sound capacity { t with posting := posting } q where
  inFlight := (hless.append_left _).trans h.inFlight
  received := h.received
  newest := h.newest
  bounded := h.bounded
  segment := h.segment
  current := h.current
  fresh := h.fresh

theorem sound_subscribe (h : Sound capacity t q) {q' : Q} (hnew : q' ∉ t.known) :
    Sound capacity { t with
      registered := t.registered ++ [q'], known := t.known ++ [q'], before := update t.before q' t.published } q := by
  by_cases hq : q = q'
  · subst hq
    have hsent : t.sent q = [] := h.fresh hnew
    refine ⟨h.inFlight, h.received, h.newest, h.bounded, ?_, ?_, fun _ => hsent⟩
    · simp [hsent]
    · intro _
      simp [hsent]
  · refine ⟨h.inFlight, h.received, h.newest, h.bounded, ?_, ?_, ?_⟩
    · simpa only [update_of_ne hq] using h.segment
    · simp only [update_of_ne hq]
      intro hmem
      have hold : q ∈ t.registered := by simpa [hq] using hmem
      exact h.current hold
    · intro hnot
      have hold : q ∉ t.known := fun hmem => hnot (List.mem_append_left _ hmem)
      exact h.fresh hold

theorem sound_publish (hi : Invariant capacity t) (hidle : t.posting = []) (ms : List M) (q : Q) :
    Sound capacity { t with
      posting := batch t.registered ms
      published := t.published ++ ms
      sent := fun q => if q ∈ t.registered then t.sent q ++ ms else t.sent q } q := by
  have h := hi.sound q
  have hflight : (t.arrived q ++ messagesFor q t.pending).Sublist (t.sent q) := by simpa [hidle] using h.inFlight
  by_cases hq : q ∈ t.registered
  · refine ⟨?_, h.received, h.newest, h.bounded, ?_, ?_, fun hnot => absurd (hi.known q hq) hnot⟩
    · simp only [messagesFor_batch hi.nodup, if_pos hq]
      exact hflight.append (List.Sublist.refl ms)
    · simp only [if_pos hq, ← List.append_assoc, h.current hq]
      exact List.prefix_refl _
    · intro _
      simp only [if_pos hq, ← List.append_assoc, h.current hq]
  · refine ⟨?_, h.received, h.newest, h.bounded, ?_, fun hmem => absurd hmem hq, ?_⟩
    · simpa only [messagesFor_batch hi.nodup, if_neg hq, List.append_nil] using hflight
    · simp only [if_neg hq]
      exact h.segment.trans (List.prefix_append _ _)
    · simp only [if_neg hq]
      exact h.fresh

theorem sound_deliver (hput : DropsOldest capacity put) (hc : 0 < capacity) (h : Sound capacity t q) {q' : Q} {m : M}
    {ps : List (Q × M)} (hpending : t.pending = (q', m) :: ps) :
    Sound capacity { t with
      pending := ps
      inbox := update t.inbox q' (put (t.inbox q') m)
      arrived := update t.arrived q' (t.arrived q' ++ [m]) } q := by
  have hflight := h.inFlight
  rw [hpending] at hflight
  by_cases hq : q' = q
  · subst hq
    refine ⟨?_, ?_, ?_, ?_, h.segment, h.current, h.fresh⟩
    · simpa [messagesFor_cons_self] using hflight
    · simpa using put_sublist hput h.bounded h.received m
    · simpa using put_suffix hput h.bounded h.newest m
    · simpa using length_put hput hc h.bounded m
  · have hne : q ≠ q' := Ne.symm hq
    rw [messagesFor_cons_of_ne hq] at hflight
    refine ⟨?_, ?_, ?_, ?_, h.segment, h.current, h.fresh⟩
    · simpa [update_of_ne hne] using hflight
    · simpa [update_of_ne hne] using h.received
    · simpa [update_of_ne hne] using h.newest
    · simpa [update_of_ne hne] using h.bounded

theorem sound_take (h : Sound capacity t q) {q' : Q} {m : M} {ms : List M} (hinbox : t.inbox q' = m :: ms) :
    Sound capacity { t with inbox := update t.inbox q' ms, taken := update t.taken q' (t.taken q' ++ [m]) } q := by
  by_cases hq : q = q'
  · subst hq
    refine ⟨h.inFlight, ?_, ?_, ?_, h.segment, h.current, h.fresh⟩
    · simpa [hinbox] using h.received
    · have hsuffix := h.newest
      rw [hinbox] at hsuffix
      simpa using (List.suffix_cons m ms).trans hsuffix
    · have hbound := h.bounded
      rw [hinbox, List.length_cons] at hbound
      simpa using Nat.le_of_succ_le hbound
  · refine ⟨h.inFlight, ?_, ?_, ?_, h.segment, h.current, h.fresh⟩
    · simpa [update_of_ne hq] using h.received
    · simpa [update_of_ne hq] using h.newest
    · simpa [update_of_ne hq] using h.bounded

theorem sound_crash (h : Sound capacity t q) :
    Sound capacity { t with registered := [], posting := [], pending := [], inbox := fun _ => [] } q where
  inFlight := by
    have harrived : (t.arrived q).Sublist (t.arrived q ++ messagesFor q t.pending ++ messagesFor q t.posting) := by
      rw [List.append_assoc]
      exact List.sublist_append_left _ _
    simpa using harrived.trans h.inFlight
  received := by simpa using (List.sublist_append_left _ _).trans h.received
  newest := List.nil_suffix
  bounded := Nat.zero_le _
  segment := h.segment
  current := fun hmem => absurd hmem List.not_mem_nil
  fresh := h.fresh

/-- A callback that is posted moves from one list to the other. -/
theorem messagesFor_post {p : Q × M} {ps : List (Q × M)} (hposting : t.posting = p :: ps) :
    messagesFor q (t.pending ++ [p]) ++ messagesFor q ps = messagesFor q t.pending ++ messagesFor q t.posting := by
  rw [hposting, messagesFor_append, List.append_assoc, ← messagesFor_append, List.singleton_append]

theorem sound_step (hput : DropsOldest capacity put) (hc : 0 < capacity) (hi : Invariant capacity t)
    (e : Event Q M) (q : Q) : Sound capacity (step put t e) q := by
  have h := hi.sound q
  cases e with
  | subscribe q' =>
    simp only [step]
    split
    · exact h
    · rename_i hnew
      exact sound_subscribe h hnew
  | unsubscribe q' =>
    refine ⟨h.inFlight, h.received, h.newest, h.bounded, h.segment, fun hmem => ?_, h.fresh⟩
    exact h.current (List.mem_of_mem_erase hmem)
  | publish ms =>
    simp only [step]
    split
    · rename_i hidle
      exact sound_publish hi hidle ms q
    · exact h
  | post =>
    simp only [step]
    split
    · exact h
    · rename_i p ps hposting
      refine ⟨?_, h.received, h.newest, h.bounded, h.segment, h.current, h.fresh⟩
      rw [List.append_assoc, messagesFor_post hposting, ← List.append_assoc]
      exact h.inFlight
  | skip => exact h.of_posting messagesFor_tail_sublist
  | abandon => exact h.of_posting (List.nil_sublist _)
  | deliver =>
    simp only [step]
    split
    · exact h
    · rename_i q' m ps hpending
      exact sound_deliver hput hc h hpending
  | take q' =>
    simp only [step]
    split
    · exact h
    · rename_i m ms hinbox
      exact sound_take h hinbox
  | crash => exact sound_crash h

theorem members_step (put : List M → M → List M) (hnodup : t.registered.Nodup)
    (hknown : ∀ q ∈ t.registered, q ∈ t.known) (e : Event Q M) :
    (step put t e).registered.Nodup ∧ ∀ q ∈ (step put t e).registered, q ∈ (step put t e).known := by
  cases e with
  | subscribe q =>
    simp only [step]
    split
    · exact ⟨hnodup, hknown⟩
    · rename_i hnew
      constructor
      · refine List.nodup_append.2 ⟨hnodup, List.nodup_singleton q, fun a ha b hb => ?_⟩
        rw [List.mem_singleton.1 hb]
        exact fun heq => hnew (hknown q (heq ▸ ha))
      · intro q' hq'
        rcases List.mem_append.1 hq' with hold | hlast
        · exact List.mem_append_left _ (hknown q' hold)
        · exact List.mem_append_right _ hlast
  | unsubscribe q => exact ⟨hnodup.erase q, fun q' hq' => hknown q' (List.mem_of_mem_erase hq')⟩
  | publish _ | post | deliver | take _ =>
    simp only [step]
    split <;> exact ⟨hnodup, hknown⟩
  | skip | abandon => exact ⟨hnodup, hknown⟩
  | crash => exact ⟨List.nodup_nil, fun _ hq => absurd hq List.not_mem_nil⟩

theorem invariant_step (hput : DropsOldest capacity put) (hc : 0 < capacity) (hi : Invariant capacity t)
    (e : Event Q M) : Invariant capacity (step put t e) := by
  obtain ⟨hnodup, hknown⟩ := members_step put hi.nodup hi.known e
  exact ⟨hnodup, hknown, sound_step hput hc hi e⟩

/-- Only a `publish` adds to what is published and to what is to be posted. -/
theorem step_of_not_publish (put : List M → M → List M) (t : Traced Q M) {e : Event Q M} (he : ∀ ms, e ≠ .publish ms) :
    (step put t e).published = t.published ∧ (t.posting = [] → (step put t e).posting = []) := by
  cases e with
  | publish ms => exact absurd rfl (he ms)
  | subscribe _ | deliver | take _ =>
    simp only [step]
    split <;> exact ⟨rfl, id⟩
  | post =>
    simp only [step]
    split
    · exact ⟨rfl, id⟩
    · rename_i p ps hposting
      exact ⟨rfl, fun hnil => absurd (hposting.symm.trans hnil) (List.cons_ne_nil p ps)⟩
  | skip =>
    refine ⟨rfl, fun hnil => ?_⟩
    simp [step, hnil]
  | unsubscribe _ => exact ⟨rfl, id⟩
  | abandon | crash => exact ⟨rfl, fun _ => rfl⟩

theorem invariant_empty : Invariant capacity (empty : Traced Q M) where
  nodup := List.nodup_nil
  known := fun _ hq => absurd hq List.not_mem_nil
  sound := fun _ =>
    { inFlight := List.Sublist.refl _
      received := List.Sublist.refl _
      newest := List.suffix_rfl
      bounded := Nat.zero_le _
      segment := List.prefix_rfl
      current := fun hmem => absurd hmem List.not_mem_nil
      fresh := fun _ => rfl }

/-- What a subscriber has taken or still holds, in this order, is part of what was published while it was there. -/
theorem Sound.taken_sublist (h : Sound capacity t q) : (t.taken q ++ t.inbox q).Sublist t.published := by
  have harrived : (t.arrived q).Sublist (t.sent q) := by
    refine List.Sublist.trans ?_ h.inFlight
    rw [List.append_assoc]
    exact List.sublist_append_left _ _
  have hsent : (t.sent q).Sublist t.published := (List.sublist_append_right _ _).trans h.segment.sublist
  exact (h.received.trans harrived).trans hsent

end Steps

/-! ## Nothing lost -/

/-- Everything published for the queue is in it, has been taken, or is on its way. -/
structure Complete (t : Traced Q M) (q : Q) : Prop where
  inFlight : t.arrived q ++ messagesFor q t.pending ++ messagesFor q t.posting = t.sent q
  received : t.taken q ++ t.inbox q = t.arrived q

/-- The event takes a message away from the queue. -/
def Loses (capacity : Nat) (t : Traced Q M) (q : Q) : Event Q M → Prop
  | .skip => ∃ m ps, t.posting = (q, m) :: ps
  | .abandon => messagesFor q t.posting ≠ []
  | .deliver => (∃ m ps, t.pending = (q, m) :: ps) ∧ (t.inbox q).length = capacity
  | .crash => t.inbox q ++ messagesFor q t.pending ++ messagesFor q t.posting ≠ []
  | _ => False

section Losses

variable {capacity : Nat} {put : List M → M → List M} {t : Traced Q M} {q : Q}

theorem complete_posting (h : Complete t q) {posting : List (Q × M)} :
    Complete { t with posting := posting } q ↔ messagesFor q posting = messagesFor q t.posting := by
  constructor
  · intro h'
    exact List.append_cancel_left (h'.inFlight.trans h.inFlight.symm)
  · intro heq
    refine ⟨?_, h.received⟩
    simp only [heq]
    exact h.inFlight

theorem complete_skip (h : Complete t q) :
    Complete (step put t .skip) q ↔ ¬ Loses capacity t q .skip := by
  refine (complete_posting h).trans ?_
  cases hposting : t.posting with
  | nil => simp [Loses, hposting]
  | cons p ps =>
    obtain ⟨q', m⟩ := p
    by_cases hq : q' = q
    · subst hq
      simp [Loses, hposting, messagesFor_cons_self]
    · simp [Loses, hposting, messagesFor_cons_of_ne hq, hq]

theorem complete_publish (hi : Invariant capacity t) (h : Complete t q) (ms : List M) :
    Complete (step put t (.publish ms)) q := by
  simp only [step]
  split
  · rename_i hidle
    have hflight := h.inFlight
    rw [hidle, messagesFor_nil, List.append_nil] at hflight
    refine ⟨?_, h.received⟩
    simp only [messagesFor_batch hi.nodup]
    split
    · rw [hflight]
    · rw [List.append_nil, hflight]
  · exact h

theorem complete_post (h : Complete t q) : Complete (step put t .post) q := by
  simp only [step]
  split
  · exact h
  · rename_i p ps hposting
    refine ⟨?_, h.received⟩
    rw [List.append_assoc, messagesFor_post hposting, ← List.append_assoc]
    exact h.inFlight

theorem complete_deliver (hput : DropsOldest capacity put) (hc : 0 < capacity) (hi : Invariant capacity t)
    (h : Complete t q) : Complete (step put t .deliver) q ↔ ¬ Loses capacity t q .deliver := by
  simp only [step]
  split
  · rename_i hpending
    simp [Loses, hpending, h]
  · rename_i q' m ps hpending
    have hflight := h.inFlight
    rw [hpending] at hflight
    by_cases hq : q' = q
    · subst hq
      rw [messagesFor_cons_self] at hflight
      have hbound := (hi.sound q').bounded
      constructor
      · rintro hcomplete ⟨-, hfull⟩
        -- a full queue is one message short afterwards
        have hreceived := congrArg List.length hcomplete.received
        simp only [update_self, hput.full _ m hfull, ← h.received, List.length_append, List.length_tail,
          List.length_singleton] at hreceived
        omega
      · intro hkept
        have hroom : (t.inbox q').length < capacity :=
          lt_of_le_of_ne hbound fun hfull => hkept ⟨⟨m, ps, hpending⟩, hfull⟩
        refine ⟨?_, ?_⟩
        · simpa using hflight
        · simp only [update_self, hput.room _ m hroom, ← List.append_assoc, h.received]
    · have hne : q ≠ q' := Ne.symm hq
      rw [messagesFor_cons_of_ne hq] at hflight
      have hother : ¬ Loses capacity t q .deliver := by
        rintro ⟨⟨m', ps', heq⟩, -⟩
        rw [hpending] at heq
        exact hq (congrArg Prod.fst (List.cons.inj heq).1)
      refine iff_of_true ⟨?_, ?_⟩ hother
      · simpa [update_of_ne hne] using hflight
      · simpa [update_of_ne hne] using h.received

theorem complete_take (h : Complete t q) (q' : Q) : Complete (step put t (.take q')) q := by
  simp only [step]
  split
  · exact h
  · rename_i m ms hinbox
    by_cases hq : q = q'
    · subst hq
      refine ⟨h.inFlight, ?_⟩
      have hreceived := h.received
      rw [hinbox] at hreceived
      simpa using hreceived
    · exact ⟨h.inFlight, by simpa [update_of_ne hq] using h.received⟩

theorem complete_crash (h : Complete t q) :
    Complete (step put t .crash) q ↔ ¬ Loses capacity t q .crash := by
  have hsent : t.taken q ++ (t.inbox q ++ messagesFor q t.pending ++ messagesFor q t.posting) = t.sent q := by
    rw [← h.inFlight, ← h.received]
    simp only [List.append_assoc]
  simp only [Loses, ne_eq, not_not]
  constructor
  · intro h'
    have hflight' := h'.inFlight
    have hreceived' := h'.received
    simp only [step, messagesFor_nil, List.append_nil] at hflight' hreceived'
    have htaken : t.taken q = t.sent q := hreceived'.trans hflight'
    rw [← htaken] at hsent
    exact List.append_right_eq_self.1 hsent
  · intro hnone
    rw [hnone, List.append_nil] at hsent
    obtain ⟨hqueued, -⟩ := List.append_eq_nil_iff.1 hnone
    obtain ⟨hinbox, -⟩ := List.append_eq_nil_iff.1 hqueued
    have hreceived := h.received
    rw [hinbox, List.append_nil] at hreceived
    exact ⟨by simpa [step, ← hreceived] using hsent, by simpa [step] using hreceived⟩

/-- A complete queue stays complete exactly when the event loses nothing of it. -/
theorem complete_step (hput : DropsOldest capacity put) (hc : 0 < capacity) (hi : Invariant capacity t)
    (h : Complete t q) (e : Event Q M) : Complete (step put t e) q ↔ ¬ Loses capacity t q e := by
  cases e with
  | subscribe q' =>
    refine iff_of_true ?_ not_false
    simp only [step]
    split
    · exact h
    · exact ⟨h.inFlight, h.received⟩
  | unsubscribe _ => exact iff_of_true ⟨h.inFlight, h.received⟩ not_false
  | publish ms => exact iff_of_true (complete_publish hi h ms) not_false
  | post => exact iff_of_true (complete_post h) not_false
  | skip => exact complete_skip h
  | abandon =>
    refine (complete_posting h).trans ?_
    simp [Loses, eq_comm]
  | deliver => exact complete_deliver hput hc hi h
  | take q' => exact iff_of_true (complete_take h q') not_false
  | crash => exact complete_crash h

end Losses

end Broadcast
