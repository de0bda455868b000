import BifrostApi.Lib.Hoare
import Mathlib.Data.List.Basic

/-!
# Transactions on a pooled connection

A connection opens a transaction with its first statement. The writes of an open transaction are pending: they reach
the committed store all at once, when the commit takes effect, and are gone when the connection is rolled back or
closed. `withConn` borrows a connection and puts it back whatever happens in between; the pool keeps it only without
a transaction (`Pool.keep_idle`), so that the next borrower finds none (`withConn_spec`). Where nothing fails a
borrowed connection takes every statement and the commit (`withConn_returns`).
-/

namespace Transaction

open Hoare

variable {σ ω ε α : Type}

/-- A connection; an open transaction has its writes, oldest first. -/
inductive Conn (ω : Type)
  | idle
  | active (pending : List ω)
  | failed
  | closed

/-- How an operation fails: before anything is sent, on the server, or with the connection. A commit that is lost may
have been carried out. -/
inductive Mode
  | notSent
  | refused
  | lost (applied : Bool)
  deriving DecidableEq

structure Fault (ε : Type) where
  error : ε
  mode : Mode

/-- The committed store, the connection that is borrowed, those in the pool, and how many statements were issued. -/
structure Db (σ ω : Type) where
  committed : σ
  conn : Conn ω
  pooled : List (Conn ω)
  issued : Nat

/-- No connection in the pool has a transaction that is open or failed. -/
def Db.Clean (d : Db σ ω) : Prop := ∀ c ∈ d.pooled, c = .idle

/-- What the pool keeps of a connection that is put back: it rolls back or closes one that is not idle. -/
structure Pool (ω : Type) where
  keep : Conn ω → Option (Conn ω)
  keep_idle : ∀ c c', keep c = some c' → c' = .idle

/-- Roll back what is open or failed, drop what is closed. -/
def rollbackPool : Pool ω where
  keep
    | .closed => none
    | _ => some .idle
  keep_idle c c' h := by cases c <;> cases h <;> rfl

/-- The writes of a connection that takes statements. -/
def Conn.pending : Conn ω → Option (List ω)
  | idle => some []
  | active ws => some ws
  | failed | closed => none

def Conn.after (c : Conn ω) : Mode → Conn ω
  | .notSent => c
  | .refused => .failed
  | .lost _ => .closed

/-! ## Operations -/

section

variable (unusable : ε)

def send (fault : Option (Fault ε)) (w : ω) : Prog (Db σ ω) ε Unit := fun d =>
  let d := { d with issued := d.issued + 1 }
  match d.conn.pending, fault with
  | none, _ => (.error unusable, d)
  | some ws, none => (.ok (), { d with conn := .active (ws ++ [w]) })
  | some _, some f => (.error f.error, { d with conn := d.conn.after f.mode })

def commit (apply : σ → ω → σ) (fault : Option (Fault ε)) : Prog (Db σ ω) ε Unit := fun d =>
  match d.conn.pending, fault with
  | some ws, none => (.ok (), { d with committed := ws.foldl apply d.committed, conn := .idle })
  | none, none => match d.conn with
    -- the server answers the commit of a failed transaction with a rollback
    | .failed => (.ok (), { d with conn := .idle })
    | _ => (.error unusable, d)
  | pending, some f => (.error f.error, match f.mode with
    | .notSent => d
    | .refused => { d with conn := if pending.isSome then .idle else d.conn }
    | .lost applied =>
      { d with
        committed := if applied then (pending.getD []).foldl apply d.committed else d.committed
        conn := .closed })

end

/-- A step that is no statement and may fail. -/
def check (fault : Option (Fault ε)) : Prog σ ε Unit :=
  match fault with
  | none => pure ()
  | some f => raise f.error

/-- `pool.getconn()`: a connection of the pool or a new one. -/
def borrow : Prog (Db σ ω) ε Unit := change fun d =>
  match d.pooled with
  | [] => { d with conn := .idle }
  | c :: cs => { d with conn := c, pooled := cs }

/-- `pool.putconn(conn)`; when it fails the pool does not have the connection. -/
def release (pool : Pool ω) (fault : Option (Fault ε)) : Prog (Db σ ω) ε Unit := fun d =>
  match fault with
  | none => (.ok (), { d with conn := .closed, pooled := (pool.keep d.conn).toList ++ d.pooled })
  | some f => (.error f.error, { d with conn := .closed })

def withConn (pool : Pool ω) (getFault putFault : Option (Fault ε)) (use : Prog (Db σ ω) ε α) : Prog (Db σ ω) ε α := do
  check getFault
  borrow
  tryFinally use (release pool putFault)

/-! ## What they keep -/

/-- The store is `c`, the open transaction has the writes `ws`. -/
structure Holds (c : σ) (ws : List ω) (d : Db σ ω) : Prop where
  committed : d.committed = c
  pending : d.conn.pending = some ws
  clean : d.Clean

theorem check_spec {P : σ → Prop} {fault : Option (Fault ε)} {R : ε → σ → Prop} (h : ∀ e s, P s → R e s) :
    Triple P (check fault) (fun _ => P) R := by
  cases fault with
  | none => exact fun _ hs => hs
  | some f => exact fun s hs => h f.error s hs

section

variable {unusable : ε} {fault : Option (Fault ε)} {c : σ} {ws : List ω}

/-- A statement adds its write to the transaction, or fails and leaves the store. -/
theorem send_spec (w : ω) :
    Triple (Holds c ws) (send unusable fault w) (fun _ => Holds c (ws ++ [w]))
      (fun _ d => d.committed = c ∧ d.Clean) := by
  rintro d ⟨hc, hpending, hclean⟩
  unfold send
  simp only [hpending]
  cases fault with
  | none => exact ⟨hc, rfl, hclean⟩
  | some f => exact ⟨hc, hclean⟩

/-- A commit that returns has applied every write; one that fails has applied all of them or none. -/
theorem commit_spec (apply : σ → ω → σ) :
    Triple (Holds c ws) (commit unusable apply fault) (fun _ d => d.committed = ws.foldl apply c ∧ d.Clean)
      (fun _ d => (d.committed = c ∨ d.committed = ws.foldl apply c) ∧ d.Clean) := by
  rintro d ⟨hc, hpending, hclean⟩
  unfold commit
  simp only [hpending]
  cases fault with
  | none => exact ⟨hc ▸ rfl, hclean⟩
  | some f =>
    obtain ⟨e, _ | _ | applied⟩ := f
    · exact ⟨Or.inl hc, hclean⟩
    · exact ⟨Or.inl hc, hclean⟩
    · cases applied
      · exact ⟨Or.inl hc, hclean⟩
      · exact ⟨Or.inr (hc ▸ rfl), hclean⟩

end

theorem clean_borrow {d : Db σ ω} {c : Conn ω} {cs : List (Conn ω)} (h : d.Clean) (hp : d.pooled = c :: cs) :
    c = .idle ∧ ∀ c' ∈ cs, c' = .idle := by
  unfold Db.Clean at h
  rw [hp, List.forall_mem_cons] at h
  exact h

/-- What `use` promises of the store on an idle connection holds around the borrowing of one, and the pool stays
clean. -/
theorem withConn_spec (pool : Pool ω) (getFault putFault : Option (Fault ε)) {use : Prog (Db σ ω) ε α}
    {P R : σ → Nat → Prop} {Q : α → σ → Nat → Prop}
    (huse : Triple (fun d => P d.committed d.issued ∧ d.conn = .idle ∧ d.Clean) use
      (fun a d => Q a d.committed d.issued ∧ d.Clean) (fun _ d => R d.committed d.issued ∧ d.Clean))
    (hPR : ∀ c n, P c n → R c n) (hQR : ∀ a c n, Q a c n → R c n) :
    Triple (fun d => P d.committed d.issued ∧ d.Clean) (withConn pool getFault putFault use)
      (fun a d => Q a d.committed d.issued ∧ d.Clean) (fun _ d => R d.committed d.issued ∧ d.Clean) := by
  have hkept : ∀ d : Db σ ω, d.Clean → ∀ c ∈ (pool.keep d.conn).toList ++ d.pooled, c = .idle := by
    intro d hclean c hc
    rcases List.mem_append.1 hc with hc | hc
    · exact pool.keep_idle _ _ (Option.mem_toList.1 hc)
    · exact hclean c hc
  have hrelease : ∀ S : σ → Nat → Prop, (∀ c n, S c n → R c n) →
      Triple (fun d : Db σ ω => S d.committed d.issued ∧ d.Clean) (release pool putFault)
        (fun _ d => S d.committed d.issued ∧ d.Clean) (fun _ d => R d.committed d.issued ∧ d.Clean) := by
    rintro S hSR d ⟨hS, hclean⟩
    cases putFault with
    | none => exact ⟨hS, hkept d hclean⟩
    | some f => exact ⟨hSR _ _ hS, hclean⟩
  have hborrow : Triple (fun d : Db σ ω => P d.committed d.issued ∧ d.Clean) (borrow : Prog (Db σ ω) ε Unit)
      (fun _ d => P d.committed d.issued ∧ d.conn = .idle ∧ d.Clean)
      (fun _ d => R d.committed d.issued ∧ d.Clean) := by
    refine Triple.change fun d hd => ?_
    obtain ⟨hP, hclean⟩ := hd
    cases hpooled : d.pooled with
    | nil => exact ⟨hP, rfl, fun c hc => absurd hc List.not_mem_nil⟩
    | cons c cs =>
      obtain ⟨hc, hcs⟩ := clean_borrow hclean hpooled
      exact ⟨hP, hc, hcs⟩
  refine (check_spec fun e d hd => ⟨hPR _ _ hd.1, hd.2⟩).bind fun _ => ?_
  refine hborrow.bind fun _ => ?_
  exact huse.tryFinally (fun a => hrelease (Q a) (hQR a)) fun e => hrelease R fun _ _ h => h

/-! ## Nothing fails -/

/-- The connection takes statements. -/
def Db.Takes (d : Db σ ω) : Prop := d.conn.pending ≠ none

theorem check_returns {P : σ → Prop} :
    Triple P (check (none : Option (Fault ε))) (fun _ => P) (fun _ _ => False) := fun _ hs => hs

theorem send_returns {unusable : ε} (w : ω) :
    Triple (Db.Takes : Db σ ω → Prop) (send unusable none w) (fun _ => Db.Takes) (fun _ _ => False) := by
  intro d hd
  obtain ⟨ws, hws⟩ := Option.ne_none_iff_exists'.1 hd
  unfold send
  simp only [hws]
  exact fun hnone => by cases hnone

theorem commit_returns {unusable : ε} (apply : σ → ω → σ) :
    Triple (Db.Takes : Db σ ω → Prop) (commit unusable apply none) (fun _ _ => True) (fun _ _ => False) := by
  intro d hd
  obtain ⟨ws, hws⟩ := Option.ne_none_iff_exists'.1 hd
  unfold commit
  simp only [hws]
  trivial

/-- A connection of a clean pool can be borrowed, used and put back. -/
theorem withConn_returns (pool : Pool ω) {use : Prog (Db σ ω) ε α}
    (huse : Triple Db.Takes use (fun _ _ => True) (fun _ _ => False)) :
    Triple Db.Clean (withConn pool none none use) (fun _ _ => True) (fun _ _ => False) := by
  have hborrow : Triple (Db.Clean : Db σ ω → Prop) (borrow : Prog (Db σ ω) ε Unit) (fun _ => Db.Takes)
      (fun _ _ => False) := by
    refine Triple.change fun d hd => ?_
    cases hpooled : d.pooled with
    | nil => exact fun hnone => by cases hnone
    | cons c cs =>
      intro hnone
      have hidle : c.pending = none := hnone
      rw [(clean_borrow hd hpooled).1] at hidle
      cases hidle
  have hrelease : Triple (fun _ : Db σ ω => True) (release pool none : Prog (Db σ ω) ε Unit) (fun _ _ => True)
      (fun _ _ => False) :=
    fun _ _ => trivial
  exact check_returns.bind fun _ => hborrow.bind fun _ =>
    huse.tryFinally (fun _ => hrelease) fun _ _ hnone => hnone.elim

end Transaction
