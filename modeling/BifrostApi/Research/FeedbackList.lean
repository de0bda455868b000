import BifrostApi.Lib.StableSort
import BifrostApi.Research.FeedbackContract
import Mathlib.Data.Prod.Lex

/-!
# The triage list and the button's numbers (`research/feedback_store.py`)

`list_reports` leaves the order of rows that its `ORDER BY` does not tell apart to the database: `orderBy` is any
arrangement that respects it. `listed` relates the list to `summary`, which counts with a statement of its own: but in
the scope of the closed reports, the first `blocking` rows are those that block trading, the first `open` rows those
that are open.

| here | there |
| --- | --- |
| `triageKey`, `OrderBy` | `ORDER BY` of `list_reports` |
| `listReports`, `summary` | `list_reports`, `summary` |
| `getReports`, `getSummary` | `get_reports`, `get_summary` |
-/

namespace BifrostApi.Research.Feedback

open Hoare Transaction StableSort

def Report.isOpen (r : Report) : Bool := r.status ∈ openStatuses

def Report.isBlocking (r : Report) : Bool := r.isOpen && r.blocksTrading

/-- Open before closed, blocking before the rest, the newest first; `instant` is the time a text stands for. -/
def triageKey (instant : String → Int) (r : Report) : Bool ×ₗ Bool ×ₗ Int :=
  toLex (r.isOpen, toLex (r.blocksTrading, instant r.createdAt))

structure OrderBy (instant : String → Int) (orderBy : List Report → List Report) : Prop where
  perm : ∀ rs, (orderBy rs).Perm rs
  sorted : ∀ rs, (orderBy rs).Pairwise fun a b => triageKey instant b ≤ triageKey instant a

/-- `WHERE`; any other scope has none. -/
def inScope (scope : String) (r : Report) : Bool :=
  if scope = "open" then r.isOpen else if scope = "closed" then !r.isOpen else true

def clampLimit (limit : Int) : Nat := (max 1 (min limit 500)).toNat

def listReports (orderBy : List Report → List Report) (scope : String) (limit : Int) (s : Store) :
    List PublicReport :=
  ((orderBy (s.reports.filter (inScope scope))).take (clampLimit limit)).map fun r => row r (s.imageCount r.reportId)

structure Summary where
  openN : Nat
  unread : Nat
  waiting : Nat
  blocking : Nat
  deriving DecidableEq

def summary (s : Store) : Summary where
  openN := s.reports.countP (·.isOpen)
  unread := s.reports.countP (·.unreadReply)
  waiting := s.reports.countP fun r => r.status = "new"
  blocking := s.reports.countP (·.isBlocking)

/-! ## The routes -/

inductive ListAnswer
  | ok (reports : List PublicReport) (count : Nat)
  | refused (detail : String)
  | down (answer : Answer)

def downOf : Failure → Answer
  | .validation text => .error 400 text
  | .database e => storeDown e

def getReports (pool : Pool Update) (env : TouchEnv) (orderBy : List Report → List Report) (scope : String)
    (limit : Int) (d : TriageDb) : ListAnswer :=
  if scope ∉ ["all", "open", "closed"] then .refused "scope must be all|open|closed"
  else match (withConn pool ((env.failure .pool).or (env.failure .getconn)) (env.failure .putconn)
    (query env (listReports orderBy scope limit)) d).1 with
  | .ok rows => .ok rows rows.length
  | .error e => .down (downOf e)

def getSummary (pool : Pool Update) (env : TouchEnv) (d : TriageDb) : Except Answer Summary :=
  match (withConn pool ((env.failure .pool).or (env.failure .getconn)) (env.failure .putconn)
    (query env summary) d).1 with
  | .ok counts => .ok counts
  | .error e => .error (downOf e)

/-! ## How they agree -/

/-- What a list shows, next to the counts; one of closed reports shows no open one. -/
structure Listed (instant : String → Int) (s : Store) (scope : String) (limit : Int) (shown : List Report) : Prop where
  length : shown.length = min (clampLimit limit) (s.reports.countP (inScope scope))
  /-- Each report at most once, and nothing but reports of the scope. -/
  nodup : (shown.map (·.reportId)).Nodup
  belong : ∀ r ∈ shown, r ∈ s.reports ∧ inScope scope r = true
  openFirst : scope ≠ "closed" → ∀ i (hi : i < shown.length), shown[i].isOpen = true ↔ i < (summary s).openN
  blockingFirst : scope ≠ "closed" → ∀ i (hi : i < shown.length), shown[i].isBlocking = true ↔ i < (summary s).blocking
  closed : scope = "closed" → ∀ r ∈ shown, r.isOpen = false
  /-- What the limit cuts off comes after what is shown. -/
  rest : ∀ r ∈ s.reports, inScope scope r = true → r ∉ shown →
    ∀ r' ∈ shown, triageKey instant r ≤ triageKey instant r'

section Lists

variable {instant : String → Int} {orderBy : List Report → List Report} {s : Store}

theorem isOpen_of_key {a b : Report} (h : triageKey instant b ≤ triageKey instant a) (hb : b.isOpen = true) :
    a.isOpen = true := by
  have hfst : b.isOpen ≤ a.isOpen := (Prod.Lex.le_iff.1 h).elim le_of_lt fun h => h.1.le
  exact Bool.eq_true_of_true_le (hb ▸ hfst)

theorem isBlocking_of_key {a b : Report} (h : triageKey instant b ≤ triageKey instant a) (hb : b.isBlocking = true) :
    a.isBlocking = true := by
  obtain ⟨hopen, hblocks⟩ := (Bool.and_eq_true _ _).mp hb
  have hopen' := isOpen_of_key h hopen
  refine (Bool.and_eq_true _ _).mpr ⟨hopen', ?_⟩
  rcases Prod.Lex.le_iff.1 h with hlt | ⟨-, hle⟩
  · exact absurd hlt (by simp [triageKey, hopen, hopen'])
  · have hsnd : b.blocksTrading ≤ a.blocksTrading := (Prod.Lex.le_iff.1 hle).elim le_of_lt fun h => h.1.le
    exact Bool.eq_true_of_true_le (hblocks ▸ hsnd)

theorem inScope_of_isOpen {scope : String} (hscope : scope ≠ "closed") {r : Report} (h : r.isOpen = true) :
    inScope scope r = true := by
  unfold inScope
  split
  · exact h
  · rfl

/-- In the list, the reports with a property that puts open ones first are as many as the store has. -/
theorem first_iff (ho : OrderBy instant orderBy) {scope : String} {p : Report → Bool} {limit : Nat}
    (hkey : ∀ a b, triageKey instant b ≤ triageKey instant a → p b = true → p a = true)
    (hscope : ∀ r, p r = true → inScope scope r = true) {i : Nat}
    (hi : i < ((orderBy (s.reports.filter (inScope scope))).take limit).length) :
    p ((orderBy (s.reports.filter (inScope scope))).take limit)[i] = true ↔ i < s.reports.countP p := by
  have hcount : (orderBy (s.reports.filter (inScope scope))).countP p = s.reports.countP p := by
    rw [(ho.perm _).countP_eq, List.countP_filter]
    refine List.countP_congr fun r _ => ?_
    rw [Bool.and_eq_true]
    exact ⟨And.left, fun h => ⟨h, hscope r h⟩⟩
  have hfront := (ho.sorted (s.reports.filter (inScope scope))).imp fun h => hkey _ _ h
  have hi' : i < (orderBy (s.reports.filter (inScope scope))).length :=
    hi.trans_le (List.take_sublist _ _).length_le
  rw [List.getElem_take, getElem_iff_lt_countP hfront hi', hcount]

theorem listed_take (ho : OrderBy instant orderBy) (h : Contract s) (scope : String) (limit : Int) :
    Listed instant s scope limit ((orderBy (s.reports.filter (inScope scope))).take (clampLimit limit)) := by
  have hperm := ho.perm (s.reports.filter (inScope scope))
  refine ⟨?_, ?_, ?_, ?_, ?_, ?_, ?_⟩
  · rw [List.length_take, hperm.length_eq, ← List.countP_eq_length_filter]
  · have hids : ((s.reports.filter (inScope scope)).map (·.reportId)).Nodup :=
      h.ids.sublist (List.filter_sublist.map _)
    exact ((hperm.map _).nodup_iff.2 hids).sublist ((List.take_sublist _ _).map _)
  · intro r hr
    exact List.mem_filter.1 (hperm.mem_iff.1 (List.mem_of_mem_take hr))
  · intro hscope i hi
    exact first_iff ho (fun _ _ => isOpen_of_key) (fun _ => inScope_of_isOpen hscope) hi
  · intro hscope i hi
    refine first_iff ho (fun _ _ => isBlocking_of_key) (fun r hr => ?_) hi
    exact inScope_of_isOpen hscope ((Bool.and_eq_true _ _).mp hr).1
  · intro hscope r hr
    have hin := (List.mem_filter.1 (hperm.mem_iff.1 (List.mem_of_mem_take hr))).2
    rw [hscope] at hin
    simpa [inScope] using hin
  · intro r hr hin hnot r' hr'
    have hmem : r ∈ orderBy (s.reports.filter (inScope scope)) := hperm.mem_iff.2 (List.mem_filter.2 ⟨hr, hin⟩)
    have hsorted := ho.sorted (s.reports.filter (inScope scope))
    rw [← List.take_append_drop (clampLimit limit) (orderBy (s.reports.filter (inScope scope)))] at hmem hsorted
    have hrest := (List.mem_append.1 hmem).resolve_left hnot
    exact (List.pairwise_append.1 hsorted).2.2 r' hr' r hrest

/-- **Main.** However the database arranges rows its `ORDER BY` does not tell apart, the list that is answered and the
counts that are answered are of one store: of the rows shown, the first `blocking` block trading, the first `open` are
open, and no other is either; where only the closed are asked for, none is open. -/
theorem listed (pool : Pool Update) {env : TouchEnv} (hok : ∀ p, env.fault p = none) (ho : OrderBy instant orderBy)
    {sys : System} (h : Contract sys.store) {scope : String} (hscope : scope ∈ ["all", "open", "closed"])
    (limit : Int) :
    getSummary pool env sys.db = .ok (summary sys.store) ∧
    ∃ shown, getReports pool env orderBy scope limit sys.db =
        .ok (shown.map fun r => row r (sys.store.imageCount r.reportId)) shown.length ∧
      Listed instant sys.store scope limit shown := by
  constructor
  · unfold getSummary
    rw [withConn_query hok]
    rfl
  · refine ⟨_, ?_, listed_take ho h scope limit⟩
    unfold getReports
    rw [if_neg (not_not.2 hscope), withConn_query hok]
    simp [listReports, System.db]

theorem orderBy_sortDesc (instant : String → Int) : OrderBy instant (sortDesc (triageKey instant)) where
  perm := fun rs => (sortDesc_sorted _ rs).perm
  sorted := fun rs => (sortDesc_sorted _ rs).sorted

/-- The second report after the first, as the database might arrange them; one of the two is closed. -/
theorem listed_twoReports :
    getSummary rollbackPool quiet (Run.run (serve (fun _ => "") rollback) afterBoth repliedTo).db =
      .ok (summary (Run.run (serve (fun _ => "") rollback) afterBoth repliedTo).store) ∧
    ∃ shown, getReports rollbackPool quiet (sortDesc (triageKey fun _ => 0)) "all" 200
        (Run.run (serve (fun _ => "") rollback) afterBoth repliedTo).db =
        .ok (shown.map fun r => row r ((Run.run (serve (fun _ => "") rollback) afterBoth repliedTo).store.imageCount
          r.reportId)) shown.length ∧
      Listed (fun _ => 0) (Run.run (serve (fun _ => "") rollback) afterBoth repliedTo).store "all" 200 shown := by
  have hboth : Contract afterBoth.store := contract_serve (contract_serve contract_empty fresh_oneReport) fresh_another
  have hcontract : Contract (Run.run (serve (fun _ => "") rollback) afterBoth repliedTo).store :=
    (Run.always_of_along (I := fun sys => Contract sys.store) (C := Fresh) (fun _ _ h hf => contract_serve h hf)
      hboth (fresh_repliedTo afterBoth)).last
  exact listed rollbackPool (fun _ => rfl) (orderBy_sortDesc _) hcontract (by decide) 200

end Lists

/-- The first report is open and blocks trading, the second has news for its reporter. -/
example : summary (Run.run (serve (fun _ => "") rollback) afterBoth repliedTo).store = ⟨1, 1, 1, 1⟩ := by decide +kernel

end BifrostApi.Research.Feedback
