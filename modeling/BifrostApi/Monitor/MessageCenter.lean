import BifrostApi.Lib.Broadcast
import BifrostApi.Monitor.Messages

/-!
# The message centre, thread by thread (`monitor/routers/messages.py`)

`Messages` looks at the reader's loop alone, one iteration at a time. Here the reader thread, the event loop's
callbacks, the SSE generators and Redis take their steps in any order, and the process may end and start again. The
hub of queues and callbacks is `Broadcast`; `put_nowait_drop_oldest` (bifrost_core) is the parameter `put`.

Nothing reaches a queue before `set_consumer_last_id` has returned for its batch, so that a message is handed out once
even over restarts (`deliveredOnce`). `delivered_iff` names the steps that cost a subscriber a message.

| here | there |
| --- | --- |
| `Reader` | where `_message_center_reader_loop` stands |
| `afterRead` | messages.py:46-63 |
| `.snapshot` | :65-66 |
| `.post`, `.skip` | :68-70, `loop` open or not |
| `.abandon` | `call_soon_threadsafe` raises (:73) |
| `.ensureStarted` | `_ensure_message_center_reader_started` |
| `.register`, `.take`, `.close` | `stream_system_messages` |
-/

namespace BifrostApi.Monitor.MessageCenter

open Broadcast Messages

variable {StreamId Fields Parsed Body Queue : Type}

/-- `fanningOut` is before the lock at :65; from there on the hub has the callbacks still to be posted. -/
inductive Reader (StreamId Body : Type)
  | off
  | starting
  | reading (lastId : StreamId)
  | fanningOut (lastId : StreamId) (messages : List (StreamId × Body))

/-- What `set_consumer_last_id` does; a call that raises may have been carried out. -/
inductive Persist
  | returned
  | raised (applied : Bool)

/-- What one pass of the loop meets. -/
structure Pass (StreamId : Type) where
  /-- The entries after `last_id` that are returned; the stream is trimmed and the count is bounded. `none` is an
  exception. -/
  read : Option (StreamId → Bool)
  materializeOk : StreamId → Bool
  persist : Persist

structure Center (StreamId Fields Body Queue : Type) where
  /-- Every entry that was ever added to the stream. -/
  stream : List (StreamId × Fields)
  persisted : StreamId
  reader : Reader StreamId Body
  hub : Traced Queue (StreamId × Body)

inductive Step (StreamId Fields Queue : Type)
  | append (entry : StreamId × Fields)
  | ensureStarted
  | connect (ok : Bool)
  | read (pass : Pass StreamId)
  | snapshot
  | post
  | skip
  | abandon
  | deliver
  | register (q : Queue)
  | take (q : Queue)
  | close (q : Queue)
  | restart

/-- After `if not messages: continue`. -/
def next (lastId : StreamId) (messages : List (StreamId × Body)) : Reader StreamId Body :=
  match messages with
  | [] => .reading lastId
  | _ :: _ => .fanningOut lastId messages

def initial (persisted : StreamId) : Center StreamId Fields Body Queue := ⟨[], persisted, .off, empty⟩

section

variable [LinearOrder StreamId] (parse : Fields → Option Parsed) (materialize : Parsed → Option Body)

def afterRead (c : Center StreamId Fields Body Queue) (lastId : StreamId) (pass : Pass StreamId) :
    Center StreamId Fields Body Queue :=
  match pass.read with
  | none => c
  | some returned =>
    let entries := c.stream.filter fun entry => lastId < entry.1 ∧ returned entry.1
    if entries = [] then c
    else match collect parse materialize pass.materializeOk entries with
      | none => c
      | some messages =>
        let newest := newestId lastId entries
        if newest = lastId then { c with reader := next lastId messages }
        else match pass.persist with
          | .returned => { c with persisted := newest, reader := next newest messages }
          -- `last_id` has moved, the messages are gone
          | .raised applied =>
            { c with persisted := if applied then newest else c.persisted, reader := .reading newest }

variable [DecidableEq Queue] (put : List (StreamId × Body) → StreamId × Body → List (StreamId × Body))

def step (c : Center StreamId Fields Body Queue) : Step StreamId Fields Queue → Center StreamId Fields Body Queue
  -- the ids of a stream increase
  | .append entry => if ∀ e ∈ c.stream, e.1 < entry.1 then { c with stream := c.stream ++ [entry] } else c
  | .ensureStarted => match c.reader with
    | .off => { c with reader := .starting }
    | _ => c
  | .connect ok => match c.reader with
    | .starting => { c with reader := if ok then .reading c.persisted else .off }
    | _ => c
  | .read pass => match c.reader, c.hub.posting with
    | .reading lastId, [] => afterRead parse materialize c lastId pass
    | _, _ => c
  | .snapshot => match c.reader with
    | .fanningOut lastId messages =>
      { c with reader := .reading lastId, hub := Broadcast.step put c.hub (.publish messages) }
    | _ => c
  | .post => { c with hub := Broadcast.step put c.hub .post }
  | .skip => { c with hub := Broadcast.step put c.hub .skip }
  | .abandon => { c with hub := Broadcast.step put c.hub .abandon }
  | .deliver => { c with hub := Broadcast.step put c.hub .deliver }
  | .register q => { c with hub := Broadcast.step put c.hub (.subscribe q) }
  | .take q => { c with hub := Broadcast.step put c.hub (.take q) }
  | .close q => { c with hub := Broadcast.step put c.hub (.unsubscribe q) }
  | .restart => { c with reader := .off, hub := Broadcast.step put c.hub .crash }

end

/-! ## What is promised -/

section Promises

variable [LinearOrder StreamId] (parse : Fields → Option Parsed) (materialize : Parsed → Option Body)

/-- The messages of the stream, in its order. -/
def Center.messages (c : Center StreamId Fields Body Queue) : List (StreamId × Body) :=
  c.stream.filterMap (messageOf parse materialize)

/-- Messages the reader holds, from :61 to :65. -/
def Center.held (c : Center StreamId Fields Body Queue) : List (StreamId × Body) :=
  match c.reader with
  | .fanningOut _ messages => messages
  | _ => []

/-- Where the reader stands in the stream, or would start. -/
def Center.position (c : Center StreamId Fields Body Queue) : StreamId :=
  match c.reader with
  | .reading lastId | .fanningOut lastId _ => lastId
  | .off | .starting => c.persisted

def upTo (id : StreamId) (messages : List (StreamId × Body)) : List (StreamId × Body) :=
  messages.filter fun m => m.1 ≤ id

structure DeliveredOnce (capacity : Nat) (c : Center StreamId Fields Body Queue) : Prop where
  /-- A client gets messages of the stream in the stream's order, and at most `capacity` wait for it. -/
  client : ∀ q, (c.hub.taken q ++ c.hub.inbox q).Sublist (c.messages parse materialize) ∧
    (c.hub.inbox q).length ≤ capacity
  /-- Over all lives of the process a message is handed out at most once, after its id has been persisted. -/
  once : c.hub.published.Sublist (upTo c.persisted (c.messages parse materialize))
  ids : ((c.messages parse materialize).map Prod.fst).Pairwise (· < ·)

end Promises

/-! ## The stream and its messages -/

section Stream

variable [LinearOrder StreamId] {parse : Fields → Option Parsed} {materialize : Parsed → Option Body}

/-- The messages after `a`, up to `b`. -/
def between (a b : StreamId) (messages : List (StreamId × Body)) : List (StreamId × Body) :=
  messages.filter fun m => a < m.1 ∧ m.1 ≤ b

omit [LinearOrder StreamId] in
theorem messageOf_fst {entry : StreamId × Fields} {m : StreamId × Body}
    (h : messageOf parse materialize entry = some m) : m.1 = entry.1 := by
  obtain ⟨body, -, rfl⟩ := Option.map_eq_some_iff.1 h
  rfl

theorem messages_ids {entries : List (StreamId × Fields)} (h : (entries.map Prod.fst).Pairwise (· < ·)) :
    ((entries.filterMap (messageOf parse materialize)).map Prod.fst).Pairwise (· < ·) := by
  rw [List.pairwise_map] at h ⊢
  refine h.filterMap _ fun e e' hlt m hm m' hm' => ?_
  rw [messageOf_fst hm, messageOf_fst hm']
  exact hlt

/-- Of an increasing list, what is up to `b` is what is up to `a` and then the rest. -/
theorem upTo_split {messages : List (StreamId × Body)} (h : (messages.map Prod.fst).Pairwise (· < ·))
    {a b : StreamId} (hab : a ≤ b) : upTo b messages = upTo a messages ++ between a b messages := by
  induction messages with
  | nil => rfl
  | cons m messages ih =>
    obtain ⟨hfirst, hrest⟩ := List.pairwise_cons.1 h
    have ih' := ih hrest
    unfold upTo between at ih' ⊢
    by_cases hma : m.1 ≤ a
    · simp [hma, hma.trans hab, hma.not_gt, ih']
    · -- everything after `m` is past `a` as well
      have hnone : messages.filter (fun m => m.1 ≤ a) = [] := by
        refine List.filter_eq_nil_iff.2 fun m' hm' hle => hma ?_
        exact (hfirst _ (List.mem_map_of_mem hm')).le.trans (of_decide_eq_true hle)
      rw [hnone, List.nil_append] at ih'
      simp [List.filter_cons, hma, hnone, ih', lt_of_not_ge hma]

theorem between_split {messages : List (StreamId × Body)} (h : (messages.map Prod.fst).Pairwise (· < ·))
    {start a b : StreamId} (hstart : start ≤ a) (hab : a ≤ b) :
    between start b messages = between start a messages ++ between a b messages := by
  have hrange : ∀ d, between start d messages = (upTo d messages).filter fun m => start < m.1 := by
    intro d
    simp [between, upTo, List.filter_filter]
  have hlater : (between a b messages).filter (fun m => start < m.1) = between a b messages := by
    refine List.filter_eq_self.2 fun m hm => decide_eq_true ?_
    exact hstart.trans_lt (of_decide_eq_true (List.mem_filter.1 hm).2).1
  rw [hrange b, upTo_split h hab, List.filter_append, ← hrange a, hlater]

theorem upTo_append_sublist (id : StreamId) (messages more : List (StreamId × Body)) :
    (upTo id messages).Sublist (upTo id (messages ++ more)) := by
  unfold upTo
  rw [List.filter_append]
  exact List.sublist_append_left _ _

end Stream

/-! ## One pass -/

section Reading

variable [LinearOrder StreamId] {parse : Fields → Option Parsed} {materialize : Parsed → Option Body}
  {c : Center StreamId Fields Body Queue} {lastId : StreamId} {pass : Pass StreamId}

/-- The entries a pass is given. -/
def returnedEntries (c : Center StreamId Fields Body Queue) (lastId : StreamId) (returned : StreamId → Bool) :
    List (StreamId × Fields) := c.stream.filter fun entry => lastId < entry.1 ∧ returned entry.1

/-- The pass gets past its materialisation: the id it moves to, and its messages. -/
structure Collects (parse : Fields → Option Parsed) (materialize : Parsed → Option Body)
    (c : Center StreamId Fields Body Queue) (lastId : StreamId) (pass : Pass StreamId) (newest : StreamId)
    (messages : List (StreamId × Body)) : Prop where
  read : ∃ returned, pass.read = some returned ∧ returnedEntries c lastId returned ≠ [] ∧
    newest = newestId lastId (returnedEntries c lastId returned) ∧
    collect parse materialize pass.materializeOk (returnedEntries c lastId returned) = some messages
  moved : lastId < newest
  messages : messages.Sublist (between lastId newest (c.messages parse materialize))

theorem Collects.unique {newest newest' : StreamId} {messages messages' : List (StreamId × Body)}
    (h : Collects parse materialize c lastId pass newest messages)
    (h' : Collects parse materialize c lastId pass newest' messages') : newest = newest' ∧ messages = messages' := by
  obtain ⟨returned, hread, -, hnewest, hcollect⟩ := h.read
  obtain ⟨returned', hread', -, hnewest', hcollect'⟩ := h'.read
  obtain rfl : returned = returned' := Option.some.inj (hread.symm.trans hread')
  exact ⟨hnewest.trans hnewest'.symm, Option.some.inj (hcollect.symm.trans hcollect')⟩

theorem ids_returned (hsorted : (c.stream.map Prod.fst).Pairwise (· < ·)) (lastId : StreamId)
    (returned : StreamId → Bool) :
    (lastId :: (returnedEntries c lastId returned).map Prod.fst).Pairwise (· < ·) := by
  refine List.pairwise_cons.2 ⟨?_, hsorted.sublist (List.filter_sublist.map _)⟩
  intro id hid
  obtain ⟨entry, hentry, rfl⟩ := List.mem_map.1 hid
  exact (of_decide_eq_true (List.mem_filter.1 hentry).2).1

/-- A pass that is collected hands on messages between `last_id` and the id it moves to. -/
theorem collects_of_read (hsorted : (c.stream.map Prod.fst).Pairwise (· < ·)) {returned : StreamId → Bool}
    {messages : List (StreamId × Body)} (hread : pass.read = some returned)
    (hne : returnedEntries c lastId returned ≠ [])
    (hcollect : collect parse materialize pass.materializeOk (returnedEntries c lastId returned) = some messages) :
    Collects parse materialize c lastId pass (newestId lastId (returnedEntries c lastId returned)) messages := by
  have hids := ids_returned hsorted lastId returned
  refine ⟨⟨returned, hread, hne, rfl, hcollect⟩, lastId_lt_newestId hne hids, ?_⟩
  have hmessages := collect_eq hcollect
  have hkept : messages.Sublist (c.messages parse materialize) := by
    rw [hmessages]
    exact List.filter_sublist.filterMap _
  have hrange : ∀ m ∈ messages, lastId < m.1 ∧ m.1 ≤ newestId lastId (returnedEntries c lastId returned) := by
    intro m hm
    rw [hmessages] at hm
    obtain ⟨entry, hentry, hbody⟩ := List.mem_filterMap.1 hm
    have hmem : entry.1 ∈ (returnedEntries c lastId returned).map Prod.fst := List.mem_map_of_mem hentry
    rw [messageOf_fst hbody]
    exact ⟨(List.pairwise_cons.1 hids).1 _ hmem, le_newestId hids _ (List.mem_cons_of_mem _ hmem)⟩
  have hself : messages.filter (fun m => lastId < m.1 ∧ m.1 ≤ newestId lastId (returnedEntries c lastId returned)) =
      messages := List.filter_eq_self.2 fun m hm => decide_eq_true (hrange m hm)
  rw [← hself]
  exact hkept.filter _

/-- What a pass can do: nothing; persist the new id and keep its messages; or move on without them. -/
theorem afterRead_cases (parse : Fields → Option Parsed) (materialize : Parsed → Option Body)
    (hsorted : (c.stream.map Prod.fst).Pairwise (· < ·)) :
    (afterRead parse materialize c lastId pass = c ∧
      ∀ newest messages, ¬ Collects parse materialize c lastId pass newest messages) ∨
    ∃ newest messages, Collects parse materialize c lastId pass newest messages ∧
      ((pass.persist = .returned ∧ afterRead parse materialize c lastId pass =
        { c with persisted := newest, reader := next newest messages }) ∨
      ∃ applied, pass.persist = .raised applied ∧ afterRead parse materialize c lastId pass =
        { c with persisted := if applied then newest else c.persisted, reader := .reading newest }) := by
  unfold afterRead
  cases hread : pass.read with
  | none =>
    refine Or.inl ⟨rfl, fun newest messages h => ?_⟩
    obtain ⟨returned, hsome, -⟩ := h.read
    rw [hread] at hsome
    cases hsome
  | some returned =>
    by_cases hne : returnedEntries c lastId returned = []
    · refine Or.inl ⟨if_pos hne, fun newest messages h => ?_⟩
      obtain ⟨returned', hsome, hne', -⟩ := h.read
      rw [hread] at hsome
      cases hsome
      exact hne' hne
    · cases hcollect : collect parse materialize pass.materializeOk (returnedEntries c lastId returned) with
      | none =>
        refine Or.inl ⟨?_, fun newest messages h => ?_⟩
        · unfold returnedEntries at hne hcollect
          simp only [if_neg hne, hcollect]
        · obtain ⟨returned', hsome, -, -, hcollect'⟩ := h.read
          rw [hread] at hsome
          cases hsome
          rw [hcollect] at hcollect'
          cases hcollect'
      | some messages =>
        have hc := collects_of_read hsorted hread hne hcollect
        have hmoved := hc.moved.ne'
        refine Or.inr ⟨_, messages, hc, ?_⟩
        unfold returnedEntries at hne hcollect hmoved ⊢
        simp only [if_neg hne, hcollect, if_neg hmoved]
        cases pass.persist with
        | returned => exact Or.inl ⟨rfl, rfl⟩
        | raised applied => exact Or.inr ⟨applied, rfl, rfl⟩

end Reading

/-! ## Every interleaving -/

section Runs

variable [LinearOrder StreamId] [DecidableEq Queue] {parse : Fields → Option Parsed}
  {materialize : Parsed → Option Body} {put : List (StreamId × Body) → StreamId × Body → List (StreamId × Body)}
  {capacity : Nat} {c : Center StreamId Fields Body Queue}

structure Ordered (parse : Fields → Option Parsed) (materialize : Parsed → Option Body) (capacity : Nat)
    (c : Center StreamId Fields Body Queue) : Prop where
  stream : (c.stream.map Prod.fst).Pairwise (· < ·)
  /-- What is handed out, or about to be, has been persisted. -/
  handedOut : (c.hub.published ++ c.held).Sublist (upTo c.persisted (c.messages parse materialize))
  behind : c.persisted ≤ c.position
  idle : c.held ≠ [] → c.hub.posting = []
  hub : Invariant capacity c.hub

omit [LinearOrder StreamId] [DecidableEq Queue] in
theorem held_next (c : Center StreamId Fields Body Queue) (persisted lastId : StreamId)
    (messages : List (StreamId × Body)) :
    ({ c with persisted := persisted, reader := next lastId messages } : Center _ _ _ _).held = messages ∧
    ({ c with persisted := persisted, reader := next lastId messages } : Center _ _ _ _).position = lastId := by
  cases messages <;> exact ⟨rfl, rfl⟩

theorem ordered_append (h : Ordered parse materialize capacity c) (entry : StreamId × Fields) :
    Ordered parse materialize capacity (step parse materialize put c (.append entry)) := by
  simp only [step]
  split
  · rename_i hlast
    refine ⟨?_, ?_, h.behind, h.idle, h.hub⟩
    · rw [List.map_append, List.pairwise_append]
      refine ⟨h.stream, List.pairwise_singleton _ _, ?_⟩
      intro id hid id' hid'
      obtain ⟨e, he, rfl⟩ := List.mem_map.1 hid
      rw [List.mem_singleton.1 hid']
      exact hlast e he
    · refine h.handedOut.trans ?_
      unfold Center.messages
      rw [List.filterMap_append]
      exact upTo_append_sublist _ _ _
  · exact h

theorem ordered_read (h : Ordered parse materialize capacity c) {lastId : StreamId}
    (hreader : c.reader = .reading lastId) (hposting : c.hub.posting = []) (pass : Pass StreamId) :
    Ordered parse materialize capacity (afterRead parse materialize c lastId pass) := by
  have hbehind : c.persisted ≤ lastId := by simpa [Center.position, hreader] using h.behind
  have hpublished : c.hub.published.Sublist (upTo c.persisted (c.messages parse materialize)) := by
    simpa [Center.held, hreader] using h.handedOut
  have hids : ((c.messages parse materialize).map Prod.fst).Pairwise (· < ·) := messages_ids h.stream
  rcases afterRead_cases parse materialize h.stream with
    ⟨hsame, -⟩ | ⟨newest, messages, hc, ⟨-, heq⟩ | ⟨applied, -, heq⟩⟩
  · rw [hsame]
    exact h
  · obtain ⟨hheld, hposition⟩ := held_next c newest newest messages
    rw [heq]
    refine ⟨h.stream, ?_, hposition.ge, fun _ => hposting, h.hub⟩
    rw [hheld]
    have hnew : messages.Sublist (between c.persisted newest (c.messages parse materialize)) := by
      refine hc.messages.trans (List.monotone_filter_right _ fun m hm => ?_)
      have hm' := of_decide_eq_true hm
      exact decide_eq_true ⟨hbehind.trans_lt hm'.1, hm'.2⟩
    have hall : (c.hub.published ++ messages).Sublist (upTo newest (c.messages parse materialize)) := by
      rw [upTo_split hids (hbehind.trans hc.moved.le)]
      exact hpublished.append hnew
    exact hall
  · rw [heq]
    have hmoved : c.persisted ≤ newest := hbehind.trans hc.moved.le
    refine ⟨h.stream, ?_, ?_, fun hheld => absurd rfl hheld, h.hub⟩
    · have hupTo : (upTo c.persisted (c.messages parse materialize)).Sublist
          (upTo (if applied then newest else c.persisted) (c.messages parse materialize)) := by
        refine List.monotone_filter_right _ fun m hm => decide_eq_true ?_
        have hm' : m.1 ≤ c.persisted := of_decide_eq_true hm
        split
        · exact hm'.trans hmoved
        · exact hm'
      simpa [Center.held, Center.messages] using hpublished.trans hupTo
    · change (if applied then newest else c.persisted) ≤ newest
      split
      · exact le_rfl
      · exact hmoved

theorem ordered_hub (hput : DropsOldest capacity put) (hcap : 0 < capacity)
    (h : Ordered parse materialize capacity c) {e : Broadcast.Event Queue (StreamId × Body)}
    (he : ∀ ms, e ≠ .publish ms) :
    Ordered parse materialize capacity { c with hub := Broadcast.step put c.hub e } := by
  obtain ⟨hpublished, hposting⟩ := step_of_not_publish put c.hub he
  refine ⟨h.stream, ?_, h.behind, fun hheld => hposting (h.idle hheld), invariant_step hput hcap h.hub e⟩
  rw [hpublished]
  exact h.handedOut

theorem ordered_step (hput : DropsOldest capacity put) (hcap : 0 < capacity)
    (h : Ordered parse materialize capacity c) (e : Step StreamId Fields Queue) :
    Ordered parse materialize capacity (step parse materialize put c e) := by
  cases e with
  | append entry => exact ordered_append h entry
  | ensureStarted =>
    simp only [step]
    split
    · rename_i hoff
      refine ⟨h.stream, ?_, le_rfl, fun hheld => absurd rfl hheld, h.hub⟩
      have hhanded := h.handedOut
      simp only [Center.held, hoff] at hhanded
      exact hhanded
    · exact h
  | connect ok =>
    simp only [step]
    split
    · rename_i hstarting
      have hhanded := h.handedOut
      simp only [Center.held, hstarting] at hhanded
      cases ok <;> exact ⟨h.stream, hhanded, le_rfl, fun hheld => absurd rfl hheld, h.hub⟩
    · exact h
  | read pass =>
    simp only [step]
    split
    · rename_i lastId hreader hposting
      exact ordered_read h hreader hposting pass
    · exact h
  | snapshot =>
    simp only [step]
    split
    · rename_i lastId messages hreader
      have hhanded := h.handedOut
      have hbehind := h.behind
      have hidle := h.idle
      simp only [Center.held, Center.position, hreader] at hhanded hbehind hidle
      refine ⟨h.stream, ?_, hbehind, fun hheld => absurd rfl hheld,
        invariant_step hput hcap h.hub (.publish messages)⟩
      -- a hub that is not idle has nothing to be handed out
      by_cases hposting : c.hub.posting = []
      · simpa [Broadcast.step, hposting, Center.held, Center.messages] using hhanded
      · have hnone : messages = [] := by_contra fun hne => hposting (hidle hne)
        simpa [Broadcast.step, hposting, hnone, Center.held, Center.messages] using hhanded
    · exact h
  | post => exact ordered_hub hput hcap h (by simp)
  | skip => exact ordered_hub hput hcap h (by simp)
  | abandon => exact ordered_hub hput hcap h (by simp)
  | deliver => exact ordered_hub hput hcap h (by simp)
  | register q => exact ordered_hub hput hcap h (by simp)
  | take q => exact ordered_hub hput hcap h (by simp)
  | close q => exact ordered_hub hput hcap h (by simp)
  | restart =>
    have hpublished : c.hub.published.Sublist (upTo c.persisted (c.messages parse materialize)) :=
      (List.sublist_append_left _ _).trans h.handedOut
    refine ⟨h.stream, ?_, le_rfl, fun hheld => absurd rfl hheld, invariant_step hput hcap h.hub .crash⟩
    simpa [step, Broadcast.step, Center.held, Center.messages] using hpublished

theorem ordered_initial (persisted : StreamId) :
    Ordered parse materialize capacity (initial persisted : Center StreamId Fields Body Queue) where
  stream := List.Pairwise.nil
  handedOut := List.Sublist.refl _
  behind := le_rfl
  idle := fun _ => rfl
  hub := invariant_empty

theorem ordered_run (parse : Fields → Option Parsed) (materialize : Parsed → Option Body)
    (hput : DropsOldest capacity put) (hcap : 0 < capacity)
    (persisted : StreamId) (es : List (Step StreamId Fields Queue)) :
    Ordered parse materialize capacity (Run.run (step parse materialize put) (initial persisted) es) :=
  Run.run_of_invariant (I := Ordered parse materialize capacity) (fun _ e h => ordered_step hput hcap h e)
    (ordered_initial persisted)

/-- **Main.** However the threads, the clients and Redis interleave, whatever fails and however often the process
starts again: every client gets a part of the stream's messages in the stream's order, and no message is handed out
twice. -/
theorem deliveredOnce (parse : Fields → Option Parsed) (materialize : Parsed → Option Body)
    (hput : DropsOldest 100 put) (persisted : StreamId) (es : List (Step StreamId Fields Queue)) :
    DeliveredOnce parse materialize 100 (Run.run (step parse materialize put) (initial persisted) es) := by
  have h := ordered_run parse materialize hput (by decide) persisted es
  have hpublished := (List.sublist_append_left _ _).trans h.handedOut
  refine ⟨fun q => ⟨?_, (h.hub.sound q).bounded⟩, hpublished, messages_ids h.stream⟩
  exact ((h.hub.sound q).taken_sublist.trans hpublished).trans List.filter_sublist

end Runs

/-! ## What a client may miss -/

section Losses

variable [LinearOrder StreamId] [DecidableEq Queue] (parse : Fields → Option Parsed)
  (materialize : Parsed → Option Body)

/-- The messages a collected pass keeps for the queues. -/
def kept (pass : Pass StreamId) (messages : List (StreamId × Body)) : List (StreamId × Body) :=
  match pass.persist with
  | .returned => messages
  | .raised _ => []

/-- The step makes the reader pass over a message of the stream, or ends it while it holds one. -/
def ReaderLoses (c : Center StreamId Fields Body Queue) : Step StreamId Fields Queue → Prop
  | .read pass => ∃ lastId newest messages, c.reader = .reading lastId ∧ c.hub.posting = [] ∧
      Collects parse materialize c lastId pass newest messages ∧
      kept pass messages ≠ between lastId newest (c.messages parse materialize)
  | .restart => c.held ≠ []
  | _ => False

/-- The step takes a message away from the queue. -/
def QueueLoses (capacity : Nat) (q : Queue) (c : Center StreamId Fields Body Queue) :
    Step StreamId Fields Queue → Prop
  | .skip => Loses capacity c.hub q .skip
  | .abandon => Loses capacity c.hub q .abandon
  | .deliver => Loses capacity c.hub q .deliver
  | .restart => Loses capacity c.hub q .crash
  | _ => False

/-- What the reader held when the client came, at `joined`, and what the stream has from there to where it
stands now. -/
def due (joined c : Center StreamId Fields Body Queue) : List (StreamId × Body) :=
  joined.held ++ between joined.position c.position (c.messages parse materialize)

/-- Everything due was published while the queue was registered, or is still held, and everything published for the
queue is in it, has been taken, or is on its way. -/
structure Delivered (joined : Center StreamId Fields Body Queue) (q : Queue) (c : Center StreamId Fields Body Queue) :
    Prop where
  reader : c.hub.sent q ++ c.held = due parse materialize joined c
  queue : Complete c.hub q

/-- The client is there, and does not leave. -/
def Stays (q : Queue) (c : Center StreamId Fields Body Queue) (e : Step StreamId Fields Queue) : Prop :=
  q ∈ c.hub.registered ∧ e ≠ .close q

end Losses

section Exact

variable [LinearOrder StreamId] [DecidableEq Queue] {parse : Fields → Option Parsed}
  {materialize : Parsed → Option Body} {put : List (StreamId × Body) → StreamId × Body → List (StreamId × Body)}
  {capacity : Nat} {joined c : Center StreamId Fields Body Queue} {q : Queue}

omit [DecidableEq Queue] in
/-- What a client has taken, holds and waits for, and what the reader holds are all that is due to it. -/
theorem Delivered.all [DecidableEq Queue] (h : Delivered parse materialize joined q c) :
    c.hub.taken q ++ c.hub.inbox q ++ messagesFor q c.hub.pending ++ messagesFor q c.hub.posting ++ c.held =
      due parse materialize joined c := by
  rw [h.queue.received, h.queue.inFlight]
  exact h.reader

omit [LinearOrder StreamId] in
/-- The last id of a list of entries is one of theirs. -/
theorem newestId_mem {entries : List (StreamId × Fields)} (h : entries ≠ []) (lastId : StreamId) :
    ∃ entry ∈ entries, entry.1 = newestId lastId entries := by
  obtain ⟨init, last, rfl⟩ := (List.eq_nil_or_concat entries).resolve_left h
  refine ⟨last, by simp, ?_⟩
  simp [newestId]

/-- While the client is there: the reader has not moved back, and stands where the client found it or at an entry. -/
structure Following (parse : Fields → Option Parsed) (materialize : Parsed → Option Body)
    (joined : Center StreamId Fields Body Queue) (q : Queue) (c : Center StreamId Fields Body Queue) : Prop where
  ordered : Ordered parse materialize 100 c
  ahead : q ∈ c.hub.registered → joined.position ≤ c.position
  reached : q ∈ c.hub.registered → c.position = joined.position ∨ ∃ entry ∈ c.stream, entry.1 = c.position

/-- The reader's position moves with a pass, and is lost when the process ends. -/
theorem position_step (hi : Ordered parse materialize 100 c) (e : Step StreamId Fields Queue) (he : e ≠ .restart) :
    (step parse materialize put c e).position = c.position ∨
      c.position ≤ (step parse materialize put c e).position ∧
      ∃ entry ∈ c.stream, entry.1 = (step parse materialize put c e).position := by
  cases e with
  | restart => exact absurd rfl he
  | read pass =>
    simp only [step]
    split
    · rename_i lastId hreader _
      rcases afterRead_cases parse materialize hi.stream with ⟨hsame, -⟩ | ⟨newest, messages, hc, hout⟩
      · rw [hsame]
        exact Or.inl rfl
      · have hposition : (afterRead parse materialize c lastId pass).position = newest := by
          rcases hout with ⟨-, heq⟩ | ⟨applied, -, heq⟩
          · rw [heq]
            exact (held_next c newest newest messages).2
          · rw [heq]
            rfl
        obtain ⟨returned, -, hne, hnewest, -⟩ := hc.read
        obtain ⟨entry, hentry, hid⟩ := newestId_mem hne lastId
        have hold : c.position = lastId := by simp [Center.position, hreader]
        rw [hposition, hold]
        exact Or.inr ⟨hc.moved.le, entry, (List.mem_filter.1 hentry).1, hid.trans hnewest.symm⟩
    · exact Or.inl rfl
  | connect ok =>
    refine Or.inl ?_
    simp only [step]
    split
    · rename_i hstarting
      cases ok <;> simp [Center.position, hstarting]
    · rfl
  | ensureStarted =>
    refine Or.inl ?_
    simp only [step]
    split
    · rename_i hoff
      simp [Center.position, hoff]
    · rfl
  | snapshot =>
    refine Or.inl ?_
    simp only [step]
    split
    · rename_i lastId messages hreader
      simp [Center.position, hreader]
    · rfl
  | append entry =>
    simp only [step]
    split <;> exact Or.inl rfl
  | post | skip | abandon | deliver | register _ | take _ | close _ => exact Or.inl rfl

theorem stream_step (put : List (StreamId × Body) → StreamId × Body → List (StreamId × Body))
    (hi : Ordered parse materialize 100 c) (e : Step StreamId Fields Queue) :
    c.stream ⊆ (step parse materialize put c e).stream := by
  cases e with
  | append entry =>
    simp only [step]
    split
    · exact List.subset_append_left _ _
    · exact List.Subset.refl _
  | read pass =>
    simp only [step]
    split
    · rename_i lastId _ _
      rcases afterRead_cases parse materialize hi.stream with
        ⟨heq, -⟩ | ⟨newest, messages, -, ⟨-, heq⟩ | ⟨applied, -, heq⟩⟩
      all_goals
        rw [heq]
        exact List.Subset.refl _
    · exact List.Subset.refl _
  | ensureStarted | connect _ | snapshot =>
    simp only [step]
    split <;> exact List.Subset.refl _
  | post | skip | abandon | deliver | register _ | take _ | close _ | restart => exact List.Subset.refl _

/-- The end of the process unregisters every queue. -/
theorem restart_registered (q : Queue) : q ∉ (step parse materialize put c .restart).hub.registered := by
  simp [step, Broadcast.step]

theorem following_step (hput : DropsOldest 100 put) (hi : Following parse materialize joined q c)
    {e : Step StreamId Fields Queue} (hstays : Stays q c e) :
    Following parse materialize joined q (step parse materialize put c e) := by
  refine ⟨ordered_step hput (by decide) hi.ordered e, fun hq => ?_, fun hq => ?_⟩
  · have he : e ≠ .restart := fun he => restart_registered q (he ▸ hq)
    rcases position_step hi.ordered e he with hsame | ⟨hmoved, -⟩
    · rw [hsame]
      exact hi.ahead hstays.1
    · exact (hi.ahead hstays.1).trans hmoved
  · have he : e ≠ .restart := fun he => restart_registered q (he ▸ hq)
    have hmore := stream_step put hi.ordered e
    rcases position_step hi.ordered e he with hsame | ⟨-, entry, hentry, hid⟩
    · rw [hsame]
      rcases hi.reached hstays.1 with hjoined | ⟨entry, hentry, hid⟩
      · exact Or.inl hjoined
      · exact Or.inr ⟨entry, hmore hentry, hid⟩
    · exact Or.inr ⟨entry, hmore hentry, hid⟩

/-- What is added to the stream is past the reader. -/
theorem due_append (hi : Following parse materialize joined q c) (hq : q ∈ c.hub.registered)
    (entry : StreamId × Fields) :
    due parse materialize joined (step parse materialize put c (.append entry)) = due parse materialize joined c := by
  simp only [step]
  split
  · rename_i hlast
    have hpast : ¬ (joined.position < entry.1 ∧ entry.1 ≤ c.position) := by
      rintro ⟨hafter, hbefore⟩
      rcases hi.reached hq with hjoined | ⟨reached, hreached, hid⟩
      · exact (hafter.trans_le (hbefore.trans hjoined.le)).false
      · exact (hlast reached hreached).not_ge (hid ▸ hbefore)
    have hnone : between joined.position c.position ([entry].filterMap (messageOf parse materialize)) = [] := by
      cases hm : messageOf parse materialize entry with
      | none => simp [hm, between]
      | some m => simpa [hm, between, messageOf_fst hm] using hpast
    have hmore : between joined.position c.position ((c.stream ++ [entry]).filterMap (messageOf parse materialize)) =
        between joined.position c.position (c.messages parse materialize) := by
      rw [List.filterMap_append]
      have happend : between joined.position c.position (c.stream.filterMap (messageOf parse materialize) ++
          [entry].filterMap (messageOf parse materialize)) =
          between joined.position c.position (c.stream.filterMap (messageOf parse materialize)) ++
          between joined.position c.position ([entry].filterMap (messageOf parse materialize)) :=
        List.filter_append _ _
      rw [happend, hnone, List.append_nil]
      rfl
    exact congrArg (joined.held ++ ·) hmore
  · rfl

theorem reader_read (hi : Following parse materialize joined q c) (hq : q ∈ c.hub.registered)
    (h : c.hub.sent q ++ c.held = due parse materialize joined c) (pass : Pass StreamId) :
    (step parse materialize put c (.read pass)).hub.sent q ++ (step parse materialize put c (.read pass)).held =
        due parse materialize joined (step parse materialize put c (.read pass)) ↔
      ¬ ReaderLoses parse materialize c (.read pass) := by
  simp only [step, ReaderLoses]
  split
  · rename_i lastId hreader hposting
    have hahead : joined.position ≤ lastId := by simpa [Center.position, hreader] using hi.ahead hq
    have hcurrent : c.hub.sent q = joined.held ++ between joined.position lastId (c.messages parse materialize) := by
      simpa [due, Center.held, Center.position, hreader] using h
    have hids : ((c.messages parse materialize).map Prod.fst).Pairwise (· < ·) := messages_ids hi.ordered.stream
    rcases afterRead_cases parse materialize hi.ordered.stream with ⟨hsame, hnone⟩ | ⟨newest, messages, hc, hout⟩
    · rw [hsame]
      refine iff_of_true h ?_
      rintro ⟨lastId', newest, messages, hreader', -, hc, -⟩
      obtain rfl : lastId = lastId' := Reader.reading.inj (hreader.symm.trans hreader')
      exact hnone newest messages hc
    · have hsplit := between_split hids hahead hc.moved.le
      have hreached : c.hub.sent q ++ kept pass messages =
          joined.held ++ between joined.position newest (c.messages parse materialize) ↔
          kept pass messages = between lastId newest (c.messages parse materialize) := by
        rw [hsplit, hcurrent, ← List.append_assoc]
        exact List.append_right_inj _
      have hnext : (afterRead parse materialize c lastId pass).hub.sent q ++
            (afterRead parse materialize c lastId pass).held =
            due parse materialize joined (afterRead parse materialize c lastId pass) ↔
          kept pass messages = between lastId newest (c.messages parse materialize) := by
        rw [← hreached]
        rcases hout with ⟨hpersist, heq⟩ | ⟨applied, hpersist, heq⟩
        · obtain ⟨hheld, hposition⟩ := held_next c newest newest messages
          rw [heq, due, hheld, hposition, kept, hpersist]
          rfl
        · rw [heq, due, kept, hpersist]
          rfl
      rw [hnext]
      constructor
      · rintro hkept ⟨lastId', newest', messages', hreader', -, hc', hlost⟩
        obtain rfl : lastId = lastId' := Reader.reading.inj (hreader.symm.trans hreader')
        obtain ⟨rfl, rfl⟩ := hc.unique hc'
        exact hlost hkept
      · intro hnot
        by_contra hlost
        exact hnot ⟨lastId, newest, messages, hreader, hposting, hc, hlost⟩
  · rename_i hnot
    refine iff_of_true h ?_
    rintro ⟨lastId, newest, messages, hreader, hposting, -⟩
    exact hnot lastId hreader hposting

/-- At the snapshot the client is sent what the reader holds. -/
theorem reader_snapshot (hi : Following parse materialize joined q c) (hq : q ∈ c.hub.registered)
    (h : c.hub.sent q ++ c.held = due parse materialize joined c) :
    (step parse materialize put c .snapshot).hub.sent q ++ (step parse materialize put c .snapshot).held =
      due parse materialize joined (step parse materialize put c .snapshot) := by
  simp only [step]
  split
  · rename_i lastId messages hreader
    have hidle := hi.ordered.idle
    simp only [due, Center.held, Center.position, hreader] at h hidle
    by_cases hposting : c.hub.posting = []
    · simpa [Broadcast.step, hposting, hq, due, Center.held, Center.position, Center.messages] using h
    · have hnone : messages = [] := by_contra fun hne => hposting (hidle hne)
      simpa [Broadcast.step, hposting, hnone, due, Center.held, Center.position, Center.messages] using h
  · exact h

/-- The process ends: what the client was sent is what was due to it, but for what the reader held. -/
theorem reader_restart (hi : Following parse materialize joined q c) (hq : q ∈ c.hub.registered)
    (h : c.hub.sent q ++ c.held = due parse materialize joined c) :
    (step parse materialize put c .restart).hub.sent q ++ (step parse materialize put c .restart).held =
        due parse materialize joined (step parse materialize put c .restart) ↔
      ¬ ReaderLoses parse materialize c .restart := by
  have hbefore : c.hub.before q ++ c.hub.sent q = c.hub.published := (hi.ordered.hub.sound q).current hq
  -- what was sent or is held is persisted, so nothing due lies past the persisted id
  have hpersisted : between joined.position c.position (c.messages parse materialize) =
      between joined.position c.persisted (c.messages parse materialize) := by
    refine List.filter_congr fun m hm => ?_
    rw [decide_eq_decide]
    refine and_congr_right fun hafter => ⟨fun hle => ?_, fun hle => hle.trans hi.ordered.behind⟩
    have hdue : m ∈ c.hub.sent q ++ c.held := by
      rw [h, due]
      exact List.mem_append_right _ (List.mem_filter.2 ⟨hm, decide_eq_true ⟨hafter, hle⟩⟩)
    have hout : m ∈ c.hub.published ++ c.held := by
      rw [← hbefore, List.append_assoc]
      exact List.mem_append_right _ hdue
    exact of_decide_eq_true (List.mem_filter.1 (hi.ordered.handedOut.subset hout)).2
  have hafter : (step parse materialize put c .restart).hub.sent q ++ (step parse materialize put c .restart).held =
        due parse materialize joined (step parse materialize put c .restart) ↔
      c.hub.sent q = due parse materialize joined c := by
    have hdue : due parse materialize joined c =
        joined.held ++ between joined.position c.persisted (c.messages parse materialize) :=
      congrArg (joined.held ++ ·) hpersisted
    rw [hdue]
    simp [step, Broadcast.step, due, Center.held, Center.position, Center.messages]
  rw [hafter, ← h]
  simp only [ReaderLoses, ne_eq, not_not]
  exact List.self_eq_append_right

omit [LinearOrder StreamId] in
/-- A step of the hub that publishes nothing leaves what the client was sent. -/
theorem sent_of_not_publish (put : List (StreamId × Body) → StreamId × Body → List (StreamId × Body))
    (c : Center StreamId Fields Body Queue) {e : Broadcast.Event Queue (StreamId × Body)}
    (he : ∀ ms, e ≠ .publish ms) : (Broadcast.step put c.hub e).sent = c.hub.sent := by
  cases e with
  | publish ms => exact absurd rfl (he ms)
  | subscribe _ | post | deliver | take _ =>
    simp only [Broadcast.step]
    split <;> rfl
  | unsubscribe _ | skip | abandon | crash => rfl

theorem reader_step (put : List (StreamId × Body) → StreamId × Body → List (StreamId × Body))
    (hi : Following parse materialize joined q c) (hq : q ∈ c.hub.registered)
    (h : c.hub.sent q ++ c.held = due parse materialize joined c) (e : Step StreamId Fields Queue) :
    (step parse materialize put c e).hub.sent q ++ (step parse materialize put c e).held =
      due parse materialize joined (step parse materialize put c e) ↔ ¬ ReaderLoses parse materialize c e := by
  have hhub : ∀ e : Broadcast.Event Queue (StreamId × Body), (∀ ms, e ≠ .publish ms) →
      (Broadcast.step put c.hub e).sent q ++ c.held = due parse materialize joined c := by
    intro e he
    rw [sent_of_not_publish put c he]
    exact h
  cases e with
  | append entry =>
    refine iff_of_true ?_ not_false
    rw [due_append hi hq entry]
    simp only [step]
    split <;> exact h
  | read pass => exact reader_read hi hq h pass
  | restart => exact reader_restart hi hq h
  | snapshot => exact iff_of_true (reader_snapshot hi hq h) not_false
  | ensureStarted =>
    refine iff_of_true ?_ not_false
    simp only [step]
    split
    · rename_i hoff
      simpa [due, Center.held, Center.position, Center.messages, hoff] using h
    · exact h
  | connect ok =>
    refine iff_of_true ?_ not_false
    simp only [step]
    split
    · rename_i hstarting
      cases ok <;> simpa [due, Center.held, Center.position, Center.messages, hstarting] using h
    · exact h
  | post => exact iff_of_true (hhub .post (by simp)) not_false
  | skip => exact iff_of_true (hhub .skip (by simp)) not_false
  | abandon => exact iff_of_true (hhub .abandon (by simp)) not_false
  | deliver => exact iff_of_true (hhub .deliver (by simp)) not_false
  | register q' => exact iff_of_true (hhub (.subscribe q') (by simp)) not_false
  | take q' => exact iff_of_true (hhub (.take q') (by simp)) not_false
  | close q' => exact iff_of_true (hhub (.unsubscribe q') (by simp)) not_false

theorem queue_step (hput : DropsOldest capacity put) (hcap : 0 < capacity) (hi : Ordered parse materialize capacity c)
    (h : Complete c.hub q) (e : Step StreamId Fields Queue) :
    Complete (step parse materialize put c e).hub q ↔ ¬ QueueLoses capacity q c e := by
  have hhub := complete_step hput hcap hi.hub h
  cases e with
  | read pass =>
    refine iff_of_true ?_ not_false
    simp only [step]
    split
    · rename_i lastId _ _
      rcases afterRead_cases parse materialize hi.stream with
        ⟨heq, -⟩ | ⟨newest, messages, -, ⟨-, heq⟩ | ⟨applied, -, heq⟩⟩
      · rw [heq]
        exact h
      · rw [heq]
        exact h
      · rw [heq]
        exact h
    · exact h
  | snapshot =>
    refine iff_of_true ?_ not_false
    simp only [step]
    split
    · rename_i lastId messages _
      exact (hhub (.publish messages)).2 not_false
    · exact h
  | append _ | ensureStarted | connect _ =>
    refine iff_of_true ?_ not_false
    simp only [step]
    split <;> exact h
  | post => exact hhub .post
  | skip => exact hhub .skip
  | abandon => exact hhub .abandon
  | deliver => exact hhub .deliver
  | register q' => exact hhub (.subscribe q')
  | take q' => exact hhub (.take q')
  | close q' => exact hhub (.unsubscribe q')
  | restart => exact hhub .crash

/-- A client that has just come has got nothing, and nothing is due to it but what the reader holds. -/
theorem delivered_register (hi : Ordered parse materialize 100 c) (hnew : q ∉ c.hub.known) :
    Delivered parse materialize (step parse materialize put c (.register q)) q
      (step parse materialize put c (.register q)) := by
  obtain ⟨harrived, hpending, hposting⟩ := (hi.hub.sound q).sent_of_not_registered hnew
  have hsent : c.hub.sent q = [] := (hi.hub.sound q).fresh hnew
  have hreceived := (hi.hub.sound q).received
  rw [harrived, List.sublist_nil] at hreceived
  have hnone : ∀ messages : List (StreamId × Body), between c.position c.position messages = [] := fun messages =>
    List.filter_eq_nil_iff.2 fun m _ hm => ((of_decide_eq_true hm).1.trans_le (of_decide_eq_true hm).2).false
  refine ⟨?_, ?_, ?_⟩
  · simp only [step, Broadcast.step, if_neg hnew, hsent, due]
    exact (congrArg (c.held ++ ·) (hnone _)).symm ▸ (by simp [Center.held])
  · simp [step, Broadcast.step, hnew, harrived, hpending, hposting, hsent]
  · simpa [step, Broadcast.step, hnew, harrived] using hreceived

theorem stays_step (put : List (StreamId × Body) → StreamId × Body → List (StreamId × Body))
    {e : Step StreamId Fields Queue} (h : Stays q c e) (he : e ≠ .restart) :
    q ∈ (step parse materialize put c e).hub.registered := by
  obtain ⟨hq, hclose⟩ := h
  cases e with
  | restart => exact absurd rfl he
  | close q' =>
    have hne : q ≠ q' := fun heq => hclose (heq ▸ rfl)
    exact (List.mem_erase_of_ne hne).2 hq
  | register q' =>
    simp only [step, Broadcast.step]
    split
    · exact hq
    · exact List.mem_append_left _ hq
  | read pass =>
    simp only [step]
    split
    · unfold afterRead
      split
      · exact hq
      · dsimp only
        split
        · exact hq
        · split
          · exact hq
          · split
            · exact hq
            · split <;> exact hq
    · exact hq
  | snapshot =>
    simp only [step]
    split
    · simp only [Broadcast.step]
      split <;> exact hq
    · exact hq
  | append _ | ensureStarted | connect _ =>
    simp only [step]
    split <;> exact hq
  | post | deliver | take _ =>
    simp only [step, Broadcast.step]
    split <;> exact hq
  | skip | abandon => exact hq

/-- A client stays until it leaves or the process ends. -/
theorem stays_along (put : List (StreamId × Body) → StreamId × Body → List (StreamId × Body))
    {es : List (Step StreamId Fields Queue)} :
    ∀ {c : Center StreamId Fields Body Queue}, q ∈ c.hub.registered → (∀ e ∈ es, e ≠ .close q) →
      (∀ e ∈ es.dropLast, e ≠ .restart) → Run.Along (step parse materialize put) (Stays q) c es := by
  induction es with
  | nil => exact fun _ _ _ => trivial
  | cons e es ih =>
    intro c hq hclose hrestart
    have hstays : Stays q c e := ⟨hq, hclose e (List.mem_cons_self ..)⟩
    refine ⟨hstays, ?_⟩
    cases es with
    | nil => trivial
    | cons e' es =>
      rw [List.dropLast_cons_cons] at hrestart
      exact ih (stays_step put hstays (hrestart e (List.mem_cons_self ..)))
        (fun e' he' => hclose e' (List.mem_cons_of_mem e he')) fun e' he' => hrestart e' (List.mem_cons_of_mem e he')

/-- **Main.** A client that comes at any moment of any run, and stays, gets or is about to get every message due to
it in exactly the continuations without a step that loses one: the reader moves on without a message, or dies with it,
a callback is passed over or given up, the queue is full when a message arrives, or the process ends with messages
waiting. -/
theorem delivered_iff (parse : Fields → Option Parsed) (materialize : Parsed → Option Body)
    (hput : DropsOldest 100 put) (start : StreamId) (earlier : List (Step StreamId Fields Queue)) {q : Queue}
    {c joined : Center StreamId Fields Body Queue}
    (hc : c = Run.run (step parse materialize put) (initial start) earlier)
    (hjoined : joined = step parse materialize put c (.register q)) (hnew : q ∉ c.hub.known)
    (es : List (Step StreamId Fields Queue)) (hstays : Run.Along (step parse materialize put) (Stays q) joined es) :
    Run.Always (step parse materialize put) (Delivered parse materialize joined q) joined es ↔
      Run.Along (step parse materialize put)
        (fun c e => ¬ ReaderLoses parse materialize c e ∧ ¬ QueueLoses 100 q c e) joined es := by
  have hordered : Ordered parse materialize 100 c := hc ▸ ordered_run parse materialize hput (by decide) start earlier
  have hfirst : Delivered parse materialize joined q joined := hjoined ▸ delivered_register hordered hnew
  have hfollowing : Following parse materialize joined q joined := by
    refine ⟨?_, fun _ => le_rfl, fun _ => Or.inl rfl⟩
    rw [hjoined]
    exact ordered_step hput (by decide) hordered (.register q)
  refine Run.always_iff_along_of (I := Following parse materialize joined q) (A := Stays q)
    (fun _ _ hi hstays => following_step hput hi hstays) ?_ hfollowing hstays hfirst
  intro c e hi hstays h
  have hreader := reader_step put hi hstays.1 h.reader e
  have hqueue := queue_step hput (by decide) hi.ordered h.queue e
  rw [← hreader, ← hqueue]
  exact ⟨fun h' => ⟨h'.reader, h'.queue⟩, fun h' => ⟨h'.1, h'.2⟩⟩

end Exact

/-! ## One iteration without interruption -/

section Iteration

variable [LinearOrder StreamId] [DecidableEq Queue] {parse : Fields → Option Parsed}
  {materialize : Parsed → Option Body} {put : List (StreamId × Body) → StreamId × Body → List (StreamId × Body)}
  {c : Center StreamId Fields Body Queue}

omit [LinearOrder StreamId] in
theorem fanOut_nodup {queues : List Queue} (h : queues.Nodup) (messages : List (StreamId × Body))
    (handed : Queue → List (StreamId × Body)) (q : Queue) :
    fanOut messages queues handed q = handed q ++ messagesFor q (batch queues messages) := by
  rw [fanOut_apply, messagesFor_batch h]
  by_cases hq : q ∈ queues
  · rw [if_pos hq, List.count_eq_one_of_mem h hq]
    exact congrArg _ (List.flatMap_singleton' messages)
  · rw [if_neg hq, List.count_eq_zero_of_not_mem hq]
    simp

def iterationOf (c : Center StreamId Fields Body Queue) (lastId : StreamId) (pass : Pass StreamId) :
    Iteration StreamId Fields Queue where
  read := pass.read.map (returnedEntries c lastId)
  materializeOk := pass.materializeOk
  persistOk := match pass.persist with
    | .returned => true
    | .raised _ => false
  queuesBefore := c.hub.registered
  queues := c.hub.registered
  queuesAfter := c.hub.registered

/-- A pass and its snapshot with nothing in between are an iteration of `readerIteration`: the same `last_id`, and
for every queue the same messages. -/
theorem pass_refines (hi : Ordered parse materialize 100 c) {lastId : StreamId} (hreader : c.reader = .reading lastId)
    (hposting : c.hub.posting = []) (pass : Pass StreamId) (handed : Queue → List (StreamId × Body)) :
    let after := step parse materialize put (step parse materialize put c (.read pass)) .snapshot
    let st := readerIteration parse materialize ⟨lastId, handed⟩ (iterationOf c lastId pass)
    after.reader = .reading st.lastId ∧ ∀ q, st.handed q = handed q ++ messagesFor q after.hub.posting := by
  intro after st
  have hids := fun returned => ids_returned hi.stream lastId returned
  have hstep : step parse materialize put c (.read pass) = afterRead parse materialize c lastId pass := by
    simp only [step, hreader, hposting]
  have hsame : afterRead parse materialize c lastId pass = c → st = ⟨lastId, handed⟩ →
      after.reader = .reading st.lastId ∧ ∀ q, st.handed q = handed q ++ messagesFor q after.hub.posting := by
    intro hc hst
    have hafter : after = c := by
      simp only [after, hstep, hc]
      simp only [step, hreader]
    rw [hafter, hst, hreader, hposting]
    simp
  cases hread : pass.read with
  | none => exact hsame (by simp [afterRead, hread]) (by simp [st, readerIteration, iterationOf, hread])
  | some returned =>
    cases hentries : returnedEntries c lastId returned with
    | nil =>
      refine hsame ?_ (by simp [st, readerIteration, iterationOf, hread, hentries])
      unfold returnedEntries at hentries
      simp only [afterRead, hread, hentries, if_true]
    | cons entry entries =>
      have hnew : newestId lastId (entry :: entries) ≠ lastId :=
        (lastId_lt_newestId (List.cons_ne_nil entry entries) (hentries ▸ hids returned)).ne'
      have hraw := hentries
      unfold returnedEntries at hraw
      cases hcollect : collect parse materialize pass.materializeOk (entry :: entries) with
      | none =>
        refine hsame ?_ (by simp [st, readerIteration, iterationOf, hread, hentries, hcollect])
        simp only [afterRead, hread, hraw, hcollect, List.cons_ne_nil, if_false]
      | some messages =>
        cases hpersist : pass.persist with
        | raised applied =>
          have hst : st = ⟨newestId lastId (entry :: entries), handed⟩ := by
            simp [st, readerIteration, iterationOf, hread, hentries, hcollect, hpersist, hnew]
          have hafter : afterRead parse materialize c lastId pass = { c with
              persisted := if applied then newestId lastId (entry :: entries) else c.persisted
              reader := .reading (newestId lastId (entry :: entries)) } := by
            simp only [afterRead, hread, hraw, hcollect, hpersist, hnew, List.cons_ne_nil, if_false]
          simp only [after, hstep, hst, hafter]
          simp [step, hposting]
        | returned =>
          have hst : st = ⟨newestId lastId (entry :: entries), fanOut messages c.hub.registered handed⟩ := by
            simp [st, readerIteration, iterationOf, hread, hentries, hcollect, hpersist]
          have hafter : step parse materialize put c (.read pass) = { c with
              persisted := newestId lastId (entry :: entries)
              reader := next (newestId lastId (entry :: entries)) messages } := by
            simp only [hstep, afterRead, hread, hraw, hcollect, hpersist, hnew, List.cons_ne_nil, if_false]
          simp only [after, hafter, hst, fanOut_nodup hi.hub.nodup]
          cases messages with
          | nil => simp [step, next, hposting, batch]
          | cons m messages => simp [step, next, Broadcast.step, hposting]

end Iteration

/-! ## Two clients, and a third one after a restart -/

def readAll : Step Nat Nat Nat := .read ⟨some fun _ => true, fun _ => true, .returned⟩

/-- The reader holds its first message. -/
def firstMessage : List (Step Nat Nat Nat) := [.ensureStarted, .connect true, .append (1, 5), readAll]

/-- Three messages, for 7 and 8; 8 leaves with one in its queue. -/
def threeMessages : List (Step Nat Nat Nat) :=
  [.register 8, .snapshot, .post, .post, .deliver, .deliver, .take 7, .append (2, 6), .append (3, 7), readAll,
    .snapshot, .post, .post, .post, .post, .deliver, .deliver, .deliver, .deliver, .take 7, .take 8, .take 8,
    .take 7, .close 8]

/-- As many more at once, nobody taking any. -/
def burst (count : Nat) : List (Step Nat Nat Nat) :=
  (List.range count).map (fun i => .append (i + 4, i)) ++ [readAll, .snapshot] ++ List.replicate count .post ++
    List.replicate count .deliver

/-- In a burst nobody leaves. -/
theorem burst_stays (count : Nat) : ∀ e ∈ burst count, e ≠ .restart ∧ e ≠ .close 7 := by
  intro e he
  simp only [burst, List.mem_append, List.mem_map, List.mem_cons, List.mem_replicate, List.not_mem_nil,
    or_false] at he
  rcases he with ((⟨i, -, rfl⟩ | rfl | rfl) | ⟨-, rfl⟩) | ⟨-, rfl⟩ <;> simp [readAll]

/-- The process starts again, and a third client comes. -/
def restarted : List (Step Nat Nat Nat) :=
  [.restart, .ensureStarted, .register 9, .connect true, .append (200, 1), readAll, .snapshot, .post, .deliver, .take 9]

/-- Of 101 messages the first is dropped; what 7 has not taken when the process ends is lost to it. -/
example : (Run.run (step some some (dropOldest 100)) (initial 0 : Center Nat Nat Nat Nat)
      (firstMessage ++ [.register 7] ++ threeMessages ++ burst 101 ++ [.take 7] ++ restarted)).hub.taken 7 =
    [(1, 5), (2, 6), (3, 7), (5, 1)] := by decide +kernel

theorem deliveredOnce_threeClients :
    DeliveredOnce (some : Nat → Option Nat) some 100
      (Run.run (step some some (dropOldest 100)) (initial 0 : Center Nat Nat Nat Nat)
        (firstMessage ++ [.register 7] ++ threeMessages ++ burst 101 ++ [.take 7] ++ restarted)) :=
  deliveredOnce some some (dropOldest_dropsOldest 100) 0 _

/-- 7 comes while the reader holds the first message. -/
def joinedFirst : Center Nat Nat Nat Nat :=
  step some some (dropOldest 100) (Run.run (step some some (dropOldest 100)) (initial 0) firstMessage) (.register 7)

/-- No step before the burst loses a message, and the burst does. -/
theorem delivered_iff_twoClients :
    (Run.Always (step some some (dropOldest 100)) (Delivered (some : Nat → Option Nat) some joinedFirst 7) joinedFirst
        threeMessages ↔
      Run.Along (step some some (dropOldest 100))
        (fun c e => ¬ ReaderLoses (some : Nat → Option Nat) some c e ∧ ¬ QueueLoses 100 7 c e) joinedFirst
        threeMessages) ∧
    (Run.Always (step some some (dropOldest 100)) (Delivered (some : Nat → Option Nat) some joinedFirst 7) joinedFirst
        (threeMessages ++ burst 101 ++ [.restart]) ↔
      Run.Along (step some some (dropOldest 100))
        (fun c e => ¬ ReaderLoses (some : Nat → Option Nat) some c e ∧ ¬ QueueLoses 100 7 c e) joinedFirst
        (threeMessages ++ burst 101 ++ [.restart])) := by
  have hthere : 7 ∈ joinedFirst.hub.registered := by decide
  have hnew : 7 ∉ (Run.run (step some some (dropOldest 100)) (initial 0 : Center Nat Nat Nat Nat)
      firstMessage).hub.known := by decide
  have hthree : ∀ e ∈ threeMessages, e ≠ .restart ∧ e ≠ .close 7 := by simp [threeMessages, readAll]
  have hall : ∀ e ∈ threeMessages ++ burst 101, e ≠ .restart ∧ e ≠ .close 7 := fun e he =>
    (List.mem_append.1 he).elim (hthree e) (burst_stays 101 e)
  refine ⟨delivered_iff some some (dropOldest_dropsOldest 100) 0 firstMessage rfl rfl hnew _
      (stays_along _ hthere (fun e he => (hthree e he).2) fun e he => (hthree e (List.dropLast_subset _ he)).1),
    delivered_iff some some (dropOldest_dropsOldest 100) 0 firstMessage rfl rfl hnew _
      (stays_along _ hthere (fun e he => ?_) fun e he => ?_)⟩
  · rcases List.mem_append.1 he with he | hlast
    · exact (hall e he).2
    · rw [List.mem_singleton.1 hlast]
      simp
  · rw [List.dropLast_concat] at he
    exact (hall e he).1

end BifrostApi.Monitor.MessageCenter
