import Mathlib.Data.List.Pairwise
import Mathlib.Data.Nat.Basic
import Mathlib.Order.Lattice
import BifrostApi.Lib.Run

/-!
# The message-centre reader (`monitor/routers/messages.py`)

One iteration of `_message_center_reader_loop` reads a batch of the stream, materialises its events,
moves `last_id` past the batch and hands the messages to the SSE queues. Any call on Redis may raise; the
loop swallows it and goes on. Parsing and materialising an event are functions of the event (`parse`,
`materialize`), the event loop is open.

`last_id` moves before it is persisted (messages.py:60-61): when `set_consumer_last_id` raises, the
messages of the batch are dropped and the batch is never read again (`nothingLost_fails`).

| here | there |
| --- | --- |
| `collect` | the loop over `entries` (messages.py:50-58) |
| `fanOut` | the two loops over `messages` and `queues` (:67-70) |
| `readerIteration` | one round of `while True` (:44-74) |
-/

namespace BifrostApi.Monitor.Messages

variable {StreamId Fields Event Body Queue : Type}

/-- What one iteration meets: what its Redis calls do, and the registered queues before the read, at the
fan-out and at the end. -/
structure Iteration (StreamId Fields Queue : Type) where
  /-- `read_stream_events`; `none` when it raises. -/
  read : Option (List (StreamId × Fields))
  /-- Whether `materialize_stream_event` returns, for each event. -/
  materializeOk : StreamId → Bool
  /-- Whether `set_consumer_last_id` returns. -/
  persistOk : Bool
  queuesBefore : List Queue
  queues : List Queue
  queuesAfter : List Queue

/-- The reader's `last_id`, and what each queue was handed, with the stream id it came from. -/
structure LoopState (StreamId Body Queue : Type) where
  lastId : StreamId
  handed : Queue → List (StreamId × Body)

/-- The messages of a batch, in order; `none` when materialising raises. -/
def collect (parse : Fields → Option Event) (materialize : Event → Option Body) (materializeOk : StreamId → Bool) :
    List (StreamId × Fields) → Option (List (StreamId × Body))
  | [] => some []
  | (streamId, fields) :: entries =>
    match parse fields with
    | none => collect parse materialize materializeOk entries
    | some event =>
      if materializeOk streamId then
        match materialize event with
        | some body => (collect parse materialize materializeOk entries).map ((streamId, body) :: ·)
        | none => collect parse materialize materializeOk entries
      else none

/-- `newest_id` after the loop over `entries`. -/
def newestId (lastId : StreamId) (entries : List (StreamId × Fields)) : StreamId :=
  entries.foldl (fun _ entry => entry.1) lastId

variable [DecidableEq Queue]

/-- One message to every queue (:68-70). -/
def hand (message : StreamId × Body) (queues : List Queue) (handed : Queue → List (StreamId × Body)) :
    Queue → List (StreamId × Body) :=
  queues.foldl (fun handed q => Function.update handed q (handed q ++ [message])) handed

def fanOut (messages : List (StreamId × Body)) (queues : List Queue)
    (handed : Queue → List (StreamId × Body)) : Queue → List (StreamId × Body) :=
  messages.foldl (fun handed message => hand message queues handed) handed

def readerIteration [DecidableEq StreamId] (parse : Fields → Option Event) (materialize : Event → Option Body)
    (st : LoopState StreamId Body Queue) (it : Iteration StreamId Fields Queue) : LoopState StreamId Body Queue :=
  match it.read with
  | none | some [] => st
  | some (entry :: entries) =>
    match collect parse materialize it.materializeOk (entry :: entries) with
    | none => st
    | some messages =>
      let newest := newestId st.lastId (entry :: entries)
      -- `last_id = newest_id` comes before the call that persists it
      if newest ≠ st.lastId ∧ it.persistOk = false then ⟨newest, st.handed⟩
      else ⟨newest, fanOut messages it.queues st.handed⟩

/-! ## What a batch yields -/

/-- The message an event produces, if it produces one. -/
def produced (parse : Fields → Option Event) (materialize : Event → Option Body) (fields : Fields) : Option Body :=
  (parse fields).bind materialize

/-- The message of a stream entry, under its id. -/
def messageOf (parse : Fields → Option Event) (materialize : Event → Option Body) (entry : StreamId × Fields) :
    Option (StreamId × Body) := (produced parse materialize entry.2).map (entry.1, ·)

section Batch

variable {parse : Fields → Option Event} {materialize : Event → Option Body} {ok : StreamId → Bool}

omit [DecidableEq Queue] in
/-- A batch that is collected whole yields the messages its events produce. -/
theorem collect_eq : ∀ {entries : List (StreamId × Fields)} {messages : List (StreamId × Body)},
    collect parse materialize ok entries = some messages →
    messages = entries.filterMap (messageOf parse materialize)
  | [], _, h => by cases h; rfl
  | (streamId, fields) :: entries, messages, h => by
    unfold collect at h
    cases hparse : parse fields with
    | none =>
      rw [hparse] at h
      rw [List.filterMap_cons_none (by simp [messageOf, produced, hparse])]
      exact collect_eq h
    | some event =>
      simp only [hparse] at h
      split at h
      · cases hbody : materialize event with
        | none =>
          rw [hbody] at h
          rw [List.filterMap_cons_none (by simp [messageOf, produced, hparse, hbody])]
          exact collect_eq h
        | some body =>
          rw [hbody] at h
          obtain ⟨rest, hrest, rfl⟩ := Option.map_eq_some_iff.1 h
          have hhead : messageOf parse materialize (streamId, fields) = some (streamId, body) := by
            simp [messageOf, produced, hparse, hbody]
          rw [List.filterMap_cons_some hhead, ← collect_eq hrest]
      · cases h

omit [DecidableEq Queue] in
theorem mem_collect {entries : List (StreamId × Fields)} {messages : List (StreamId × Body)}
    (h : collect parse materialize ok entries = some messages) {streamId : StreamId} {body : Body} :
    (streamId, body) ∈ messages ↔
      ∃ fields, (streamId, fields) ∈ entries ∧ produced parse materialize fields = some body := by
  rw [collect_eq h, List.mem_filterMap]
  constructor
  · rintro ⟨⟨streamId', fields⟩, hmem, hbody⟩
    obtain ⟨body', hbody', heq⟩ := Option.map_eq_some_iff.1 hbody
    cases heq
    exact ⟨fields, hmem, hbody'⟩
  · rintro ⟨fields, hmem, hbody⟩
    exact ⟨(streamId, fields), hmem, by simp [messageOf, hbody]⟩

omit [DecidableEq Queue] in
theorem collect_ids {entries : List (StreamId × Fields)} {messages : List (StreamId × Body)}
    (h : collect parse materialize ok entries = some messages) :
    (messages.map Prod.fst).Sublist (entries.map Prod.fst) := by
  rw [collect_eq h]
  clear h
  induction entries with
  | nil => exact List.Sublist.refl _
  | cons entry entries ih =>
    cases hbody : produced parse materialize entry.2 with
    | none =>
      rw [List.filterMap_cons_none (by simp [messageOf, hbody])]
      exact ih.cons _
    | some body =>
      have hhead : messageOf parse materialize entry = some (entry.1, body) := by simp [messageOf, hbody]
      rw [List.filterMap_cons_some hhead]
      exact ih.cons_cons _

end Batch

/-! ## The fan-out -/

theorem hand_apply (message : StreamId × Body) (queues : List Queue) (handed : Queue → List (StreamId × Body))
    (q : Queue) : hand message queues handed q = handed q ++ List.replicate (queues.count q) message := by
  unfold hand
  induction queues generalizing handed with
  | nil => simp
  | cons q' queues ih =>
    rw [List.foldl_cons, ih]
    by_cases h : q = q'
    · subst h
      simp [List.replicate_succ]
    · simp [h, List.count_cons_of_ne (Ne.symm h)]

/-- Each queue is handed the messages in order, each as often as the queue is registered. -/
theorem fanOut_apply (messages : List (StreamId × Body)) (queues : List Queue)
    (handed : Queue → List (StreamId × Body)) (q : Queue) :
    fanOut messages queues handed q = handed q ++ messages.flatMap (List.replicate (queues.count q)) := by
  unfold fanOut
  induction messages generalizing handed with
  | nil => simp
  | cons message messages ih => rw [List.foldl_cons, ih, hand_apply, List.flatMap_cons, List.append_assoc]

theorem mem_fanOut {messages : List (StreamId × Body)} {queues : List Queue}
    {handed : Queue → List (StreamId × Body)} {q : Queue} {message : StreamId × Body} :
    message ∈ fanOut messages queues handed q ↔ message ∈ handed q ∨ (q ∈ queues ∧ message ∈ messages) := by
  rw [fanOut_apply, List.mem_append, List.mem_flatMap]
  simp only [List.mem_replicate, ne_eq, List.count_eq_zero, not_not]
  constructor
  · rintro (h | ⟨m, hm, hq, rfl⟩)
    · exact Or.inl h
    · exact Or.inr ⟨hq, hm⟩
  · rintro (h | ⟨hq, hm⟩)
    · exact Or.inl h
    · exact Or.inr ⟨message, hm, hq, rfl⟩

/-! ## One iteration -/

section Iterations

variable [LinearOrder StreamId] {parse : Fields → Option Event} {materialize : Event → Option Body}
  {st : LoopState StreamId Body Queue} {it : Iteration StreamId Fields Queue}

/-- `read_stream_events` returns events strictly after `last_id`, in stream order. -/
def ReadsAfter (lastId : StreamId) (it : Iteration StreamId Fields Queue) : Prop :=
  ∀ entries, it.read = some entries → (lastId :: entries.map Prod.fst).Pairwise (· < ·)

/-- The batch of an iteration that got past its materialisation, and its messages. -/
def Collected (parse : Fields → Option Event) (materialize : Event → Option Body)
    (it : Iteration StreamId Fields Queue) (entries : List (StreamId × Fields))
    (messages : List (StreamId × Body)) : Prop :=
  it.read = some entries ∧ entries ≠ [] ∧ collect parse materialize it.materializeOk entries = some messages

omit [DecidableEq Queue] in
theorem le_newestId : ∀ {entries : List (StreamId × Fields)} {lastId : StreamId},
    (lastId :: entries.map Prod.fst).Pairwise (· < ·) →
    ∀ x ∈ lastId :: entries.map Prod.fst, x ≤ newestId lastId entries
  | [], lastId, _, x, hx => by
    rw [List.mem_singleton.1 hx]
    exact le_rfl
  | entry :: entries, lastId, h, x, hx => by
    have hrest := le_newestId (List.pairwise_cons.1 h).2
    rcases List.mem_cons.1 hx with rfl | hx'
    · have hfirst : x < entry.1 := (List.pairwise_cons.1 h).1 _ (by simp)
      exact hfirst.le.trans (hrest entry.1 (by simp))
    · exact hrest x hx'

omit [DecidableEq Queue] in
theorem lastId_lt_newestId {entries : List (StreamId × Fields)} {lastId : StreamId} (hne : entries ≠ [])
    (h : (lastId :: entries.map Prod.fst).Pairwise (· < ·)) : lastId < newestId lastId entries := by
  obtain ⟨entry, rest, rfl⟩ := List.exists_cons_of_ne_nil hne
  have hfirst : lastId < entry.1 := (List.pairwise_cons.1 h).1 _ (by simp)
  exact hfirst.trans_le (le_newestId h entry.1 (by simp))

/-- What an iteration can do: nothing, or move past its batch and hand out its messages, unless
persisting the new id raised. -/
theorem readerIteration_cases (parse : Fields → Option Event) (materialize : Event → Option Body)
    (hread : ReadsAfter st.lastId it) :
    (readerIteration parse materialize st it = st ∧
      ∀ entries messages, ¬ Collected parse materialize it entries messages) ∨
    ∃ entries messages, Collected parse materialize it entries messages ∧
      readerIteration parse materialize st it = ⟨newestId st.lastId entries,
        if it.persistOk then fanOut messages it.queues st.handed else st.handed⟩ := by
  unfold readerIteration
  split
  · rename_i hnone
    refine Or.inl ⟨rfl, fun entries messages h => ?_⟩
    obtain ⟨hread', -, -⟩ := h
    rw [hnone] at hread'
    cases hread'
  · rename_i hempty
    refine Or.inl ⟨rfl, fun entries messages h => ?_⟩
    obtain ⟨hread', hne, -⟩ := h
    rw [hempty] at hread'
    cases hread'
    exact hne rfl
  · rename_i entry entries hentries
    cases hcollect : collect parse materialize it.materializeOk (entry :: entries) with
    | none =>
      refine Or.inl ⟨rfl, fun entries' messages h => ?_⟩
      obtain ⟨hread', -, hcollect'⟩ := h
      rw [hentries] at hread'
      cases hread'
      rw [hcollect] at hcollect'
      cases hcollect'
    | some messages =>
      have hnew : newestId st.lastId (entry :: entries) ≠ st.lastId :=
        (lastId_lt_newestId (by simp) (hread _ hentries)).ne'
      refine Or.inr ⟨entry :: entries, messages, ⟨hentries, by simp, hcollect⟩, ?_⟩
      cases hpersist : it.persistOk <;> simp [hnew]

/-! ## Runs -/

/-- A queue registered from before the read until the end of the iteration. -/
def registeredThroughout (it : Iteration StreamId Fields Queue) : List Queue :=
  it.queuesBefore.filter fun q => q ∈ it.queues ∧ q ∈ it.queuesAfter

/-- An event `last_id` has moved past, and the queues registered throughout that iteration. -/
structure Passed (StreamId Fields Queue : Type) where
  streamId : StreamId
  fields : Fields
  registered : List Queue
  deriving DecidableEq

/-- The reader and the events `last_id` has passed since the loop started. -/
structure Traced (StreamId Fields Body Queue : Type) extends LoopState StreamId Body Queue where
  passed : List (Passed StreamId Fields Queue)

def step (parse : Fields → Option Event) (materialize : Event → Option Body)
    (tr : Traced StreamId Fields Body Queue) (it : Iteration StreamId Fields Queue) :
    Traced StreamId Fields Body Queue :=
  let st := readerIteration parse materialize tr.toLoopState it
  { toLoopState := st
    passed := tr.passed ++ if st.lastId = tr.lastId then [] else
      (it.read.getD []).map fun entry => ⟨entry.1, entry.2, registeredThroughout it⟩ }

def initial (lastId : StreamId) : Traced StreamId Fields Body Queue := ⟨⟨lastId, fun _ => []⟩, []⟩

/-- What the fan-out promises at the end of an iteration. -/
structure Delivered (parse : Fields → Option Event) (materialize : Event → Option Body)
    (tr : Traced StreamId Fields Body Queue) : Prop where
  nothing_lost : ∀ p ∈ tr.passed, ∀ body, produced parse materialize p.fields = some body →
    ∀ q ∈ p.registered, (p.streamId, body) ∈ tr.handed q
  in_order : ∀ q, (tr.handed q).Pairwise fun m m' => m.1 ≤ m'.1

/-- `set_consumer_last_id` does not raise in an iteration with a message for a queue that stays. -/
def PersistKept (parse : Fields → Option Event) (materialize : Event → Option Body)
    (it : Iteration StreamId Fields Queue) : Prop :=
  ∀ entries messages, Collected parse materialize it entries messages → messages ≠ [] →
    registeredThroughout it ≠ [] → it.persistOk = true

/-- Nothing is handed out before `last_id` has passed it, and what is handed out is in order. -/
structure Behind (tr : Traced StreamId Fields Body Queue) : Prop where
  le_lastId : ∀ q, ∀ m ∈ tr.handed q, m.1 ≤ tr.lastId
  in_order : ∀ q, (tr.handed q).Pairwise fun m m' => m.1 ≤ m'.1

variable {tr : Traced StreamId Fields Body Queue}

/-- What one traced step does. -/
theorem step_cases (parse : Fields → Option Event) (materialize : Event → Option Body)
    (hread : ReadsAfter tr.lastId it) :
    (step parse materialize tr it = tr ∧ ∀ entries messages, ¬ Collected parse materialize it entries messages) ∨
    ∃ entries messages, Collected parse materialize it entries messages ∧
      (tr.lastId :: entries.map Prod.fst).Pairwise (· < ·) ∧
      (step parse materialize tr it).lastId = newestId tr.lastId entries ∧
      (step parse materialize tr it).handed =
        (if it.persistOk then fanOut messages it.queues tr.handed else tr.handed) ∧
      (step parse materialize tr it).passed =
        tr.passed ++ entries.map fun entry => ⟨entry.1, entry.2, registeredThroughout it⟩ := by
  rcases readerIteration_cases parse materialize hread with
    ⟨hsame, hnone⟩ | ⟨entries, messages, hc, heq⟩
  · refine Or.inl ⟨?_, hnone⟩
    unfold step
    rw [hsame]
    simp
  · have hsorted := hread entries hc.1
    have hnew := (lastId_lt_newestId hc.2.1 hsorted).ne'
    refine Or.inr ⟨entries, messages, hc, hsorted, ?_, ?_, ?_⟩
    · simp only [step, heq]
    · simp only [step, heq]
    · simp only [step, heq, if_neg hnew, hc.1, Option.getD_some]

omit [DecidableEq Queue] in
/-- The messages of a batch come after everything handed out so far. -/
theorem message_after {entries : List (StreamId × Fields)} {messages : List (StreamId × Body)}
    (hc : Collected parse materialize it entries messages)
    (hsorted : (tr.lastId :: entries.map Prod.fst).Pairwise (· < ·)) :
    ∀ m ∈ messages, tr.lastId < m.1 ∧ m.1 ≤ newestId tr.lastId entries := by
  intro m hm
  have hmem : m.1 ∈ entries.map Prod.fst := (collect_ids hc.2.2).subset (List.mem_map_of_mem hm)
  exact ⟨(List.pairwise_cons.1 hsorted).1 _ hmem, le_newestId hsorted _ (List.mem_cons_of_mem _ hmem)⟩

omit [DecidableEq Queue] in
/-- The messages of a batch are in order, however often each is handed out. -/
theorem messages_in_order {entries : List (StreamId × Fields)} {messages : List (StreamId × Body)}
    (hc : Collected parse materialize it entries messages)
    (hsorted : (tr.lastId :: entries.map Prod.fst).Pairwise (· < ·)) (n : Nat) :
    (messages.flatMap (List.replicate n)).Pairwise fun m m' => m.1 ≤ m'.1 := by
  have hids : (messages.map Prod.fst).Pairwise (· < ·) :=
    (List.pairwise_cons.1 hsorted).2.sublist (collect_ids hc.2.2)
  refine List.pairwise_flatMap.2 ⟨fun m _ => ?_, ?_⟩
  · exact List.pairwise_replicate.2 (Or.inr le_rfl)
  · refine (List.pairwise_map.1 hids).imp fun hlt x hx y hy => ?_
    rw [(List.mem_replicate.1 hx).2, (List.mem_replicate.1 hy).2]
    exact hlt.le

theorem behind_step (h : Behind tr) (hread : ReadsAfter tr.lastId it) : Behind (step parse materialize tr it) := by
  rcases step_cases parse materialize hread with
    ⟨hsame, -⟩ | ⟨entries, messages, hc, hsorted, hlast, hhanded, -⟩
  · rw [hsame]
    exact h
  · have hafter := message_after hc hsorted
    have hmoved : tr.lastId ≤ newestId tr.lastId entries := le_newestId hsorted _ (by simp)
    constructor
    · intro q m hm
      rw [hlast]
      rw [hhanded] at hm
      split at hm
      · rcases mem_fanOut.1 hm with hold | ⟨-, hnew⟩
        · exact (h.le_lastId q m hold).trans hmoved
        · exact (hafter m hnew).2
      · exact (h.le_lastId q m hm).trans hmoved
    · intro q
      rw [hhanded]
      split
      · rw [fanOut_apply, List.pairwise_append]
        refine ⟨h.in_order q, messages_in_order hc hsorted _, ?_⟩
        · intro m hm m' hm'
          obtain ⟨m'', hm'', hrep⟩ := List.mem_flatMap.1 hm'
          obtain ⟨-, rfl⟩ := List.mem_replicate.1 hrep
          exact (h.le_lastId q m hm).trans (hafter m' hm'').1.le
      · exact h.in_order q

/-- An iteration delivers exactly when it persists what it has messages for. -/
theorem delivered_step (hbehind : Behind tr) (hread : ReadsAfter tr.lastId it)
    (h : Delivered parse materialize tr) :
    Delivered parse materialize (step parse materialize tr it) ↔ PersistKept parse materialize it := by
  rcases step_cases parse materialize hread with
    ⟨hsame, hnone⟩ | ⟨entries, messages, hc, hsorted, -, hhanded, hpassed⟩
  · rw [hsame]
    exact iff_of_true h fun entries messages hc => absurd hc (hnone entries messages)
  · have hpassed_mem : ∀ entry ∈ entries, (⟨entry.1, entry.2, registeredThroughout it⟩ : Passed _ _ _) ∈
        (step parse materialize tr it).passed := by
      intro entry hentry
      rw [hpassed]
      exact List.mem_append_right _ (List.mem_map_of_mem hentry)
    constructor
    · intro hdelivered entries' messages' hc' hmessages hqueues
      -- the batch and its messages are those of the step
      obtain ⟨rfl⟩ : entries' = entries := Option.some.inj (hc'.1.symm.trans hc.1)
      obtain ⟨rfl⟩ : messages' = messages := Option.some.inj (hc'.2.2.symm.trans hc.2.2)
      by_contra hpersist
      obtain ⟨⟨streamId, body⟩, hm⟩ := List.exists_mem_of_ne_nil _ hmessages
      obtain ⟨q, hq⟩ := List.exists_mem_of_ne_nil _ hqueues
      obtain ⟨fields, hentry, hbody⟩ := (mem_collect hc.2.2).1 hm
      have hlost := hdelivered.nothing_lost _ (hpassed_mem _ hentry) body hbody q hq
      rw [hhanded, if_neg hpersist] at hlost
      exact absurd (hbehind.le_lastId q _ hlost) (message_after hc hsorted _ hm).1.not_ge
    · intro hkept
      refine ⟨fun p hp body hbody q hq => ?_, (behind_step hbehind hread).in_order⟩
      rw [hpassed] at hp
      rw [hhanded]
      rcases List.mem_append.1 hp with hold | hnew
      · have hin := h.nothing_lost p hold body hbody q hq
        split
        · exact mem_fanOut.2 (Or.inl hin)
        · exact hin
      · obtain ⟨entry, hentry, rfl⟩ := List.mem_map.1 hnew
        have hm : (entry.1, body) ∈ messages := (mem_collect hc.2.2).2 ⟨entry.2, hentry, hbody⟩
        rw [if_pos (hkept entries messages hc (List.ne_nil_of_mem hm) (List.ne_nil_of_mem hq))]
        have hregistered : q ∈ it.queues := (of_decide_eq_true (List.mem_filter.1 hq).2).1
        exact mem_fanOut.2 (Or.inr ⟨hregistered, hm⟩)

/-- **Main.** In every run, whatever calls fail, the fan-out loses nothing and keeps the order in every
state reached exactly when no iteration with a message to deliver fails to persist the new id. -/
theorem readerLoop_delivered (parse : Fields → Option Event) (materialize : Event → Option Body)
    (lastId : StreamId) (its : List (Iteration StreamId Fields Queue))
    (hread : Run.Along (step parse materialize) (fun tr it => ReadsAfter tr.lastId it) (initial lastId) its) :
    Run.Always (step parse materialize) (Delivered parse materialize) (initial lastId) its ↔
      Run.Along (step parse materialize) (fun _ it => PersistKept parse materialize it) (initial lastId) its := by
  have hbehind : Behind (initial lastId : Traced StreamId Fields Body Queue) :=
    ⟨fun q m hm => absurd hm List.not_mem_nil, fun q => List.Pairwise.nil⟩
  have hdelivered : Delivered parse materialize (initial lastId : Traced StreamId Fields Body Queue) :=
    ⟨fun p hp => absurd hp List.not_mem_nil, fun q => List.Pairwise.nil⟩
  exact Run.always_iff_along_of (fun tr it => behind_step)
    (fun tr it hbehind hread h => delivered_step hbehind hread h) hbehind hread hdelivered

end Iterations

/-! ## An id that is not persisted -/

def start : Traced Nat Nat Nat Nat := initial 0

/-- One event, one queue, and `set_consumer_last_id` raising. -/
def lostIteration : Iteration Nat Nat Nat where
  read := some [(1, 0)]
  materializeOk _ := true
  persistOk := false
  queuesBefore := [7]
  queues := [7]
  queuesAfter := [7]

theorem lostIteration_reads : Run.Along (step some some) (fun tr it => ReadsAfter tr.lastId it)
    start [lostIteration] := by
  refine ⟨fun entries h => ?_, trivial⟩
  cases h
  decide

theorem readerLoop_delivered_lost :
    Run.Always (step some some) (Delivered some some) start [lostIteration] ↔
      Run.Along (step some some) (fun _ it => PersistKept some some it) start [lostIteration] :=
  readerLoop_delivered some some 0 [lostIteration] lostIteration_reads

/-- The queue never sees the message, and `last_id` is past it. -/
theorem nothingLost_fails :
    (step some some start lostIteration).lastId = 1 ∧
    (step some some start lostIteration).handed 7 = [] ∧
    ¬ Delivered some some (step some some start lostIteration) := by
  refine ⟨rfl, rfl, fun h => ?_⟩
  have hlost := h.nothing_lost ⟨1, 0, [7]⟩ (by decide) 0 rfl 7 (by decide)
  revert hlost
  decide

end BifrostApi.Monitor.Messages
