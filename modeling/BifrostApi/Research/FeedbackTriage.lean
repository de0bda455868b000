import BifrostApi.Py.Printing
import BifrostApi.Research.FeedbackStore

/-!
# The feedback loop (`research/feedback_store.py`, `research/routers/feedback.py`)

After a report is in (`FeedbackStore`), triage moves its status and answers it, and the reporter reads the answer. Each
of the three is one `UPDATE` in a transaction of its own. `replayed` says that the store is at any time what the
requests that took effect, in their order, make of it.

| here | there |
| --- | --- |
| `parsePublicId` | `parse_public_id` |
| `Touch`, `touchRow` | `_touch` |
| `setStatus`, `setReply`, `markRead` | `set_status`, `set_reply`, `mark_read` |
| `postRead`, `postStatus`, `postReply` | `post_read`, `post_status`, `post_reply` |
-/

namespace BifrostApi.Research.Feedback

open Py Py.Number Hoare Transaction

/-! ## Ids -/

def parsePublicId (raw : String) : Option Nat :=
  let s := upper (strip raw)
  let s := if startsWith s "FB-" then sliceFrom 3 s else s
  match intOfText s with
  | some n => if 0 < n then some n.toNat else none
  | none => none

/-- `bigint`. -/
def maxReportId : Nat := 2 ^ 63

section Ids

variable {n : Nat}

/-- The digits of `publicId`. -/
def idDigits (n : Nat) : List Char :=
  List.replicate (4 - (Nat.toDigits 10 n).length) '0' ++ Nat.toDigits 10 n

theorem toList_publicId (n : Nat) : (publicId n).toList = ['F', 'B', '-'] ++ idDigits n := by
  have happend : (publicId n).toList = "FB-".toList ++ (String.ofList (idDigits n)).toList := String.toList_append
  rw [happend, String.toList_ofList (l := idDigits n)]
  rfl

theorem digits_idDigits (n : Nat) : Digits (idDigits n) := by
  refine digits_append.2 ⟨?_, digits_toDigits n⟩
  intro c hc
  rw [(List.mem_replicate.1 hc).2]
  rfl

theorem natOfDigits_idDigits (n : Nat) : Number.natOfDigits ((idDigits n).map digitVal) = n := by
  unfold idDigits
  rw [List.map_append, natOfDigits_append, natOfDigits_zeros, natOfDigits_toDigits, Nat.zero_mul, Nat.zero_add]

theorem length_idDigits_le (hn : n < maxReportId) : (idDigits n).length ≤ 20 := by
  have hdigits : (Nat.toDigits 10 n).length ≤ 20 :=
    (Nat.length_toDigits_le_iff (by decide) (by decide)).2 (hn.trans (by decide))
  unfold idDigits
  rw [List.length_append, List.length_replicate]
  omega

/-- An id is read back from its printed form, whatever its case and the blanks around it. -/
theorem parsePublicId_of_printed (hpos : 0 < n) (hn : n < maxReportId) {raw : String}
    (hraw : upper (strip raw) = publicId n) : parsePublicId raw = some n := by
  have hstarts : startsWith (publicId n) "FB-" = true := by
    rw [startsWith, toList_publicId]
    rfl
  have hslice : sliceFrom 3 (publicId n) = String.ofList (idDigits n) := by
    rw [sliceFrom, toList_publicId]
    rfl
  have hne : idDigits n ≠ [] := by
    intro hnil
    have hvalue := natOfDigits_idDigits n
    rw [hnil] at hvalue
    exact hpos.ne hvalue
  have hread := intOfText_digits (digits_idDigits n) hne
  rw [if_pos ((length_idDigits_le hn).trans (by decide))] at hread
  unfold parsePublicId
  simp only [hraw, hstarts, if_true, hslice, hread, natOfDigits_idDigits]
  simp [hpos]

theorem parsePublicId_of_printed_seven : parsePublicId " fb-0007" = some 7 :=
  parsePublicId_of_printed (by decide) (by decide) (by decide +kernel)

end Ids

/-! ## Triage -/

def statuses : List String := ["new", "triaged", "progress", "fixed", "answered", "wontfix"]
def openStatuses : List String := ["new", "triaged", "progress"]

/-- The `SET` clauses of `_touch`. -/
inductive Touch
  | status (s : String)
  | reply (text : String)
  | read
  deriving DecidableEq

def Touch.apply (now : String) (r : Report) : Touch → Report
  | .status s => { r with status := s, unreadReply := true, updatedAt := now }
  | .reply text => { r with replyMd := some text, repliedAt := some now, unreadReply := true, updatedAt := now }
  | .read => { r with unreadReply := false, updatedAt := now }

structure Update where
  reportId : Nat
  touch : Touch
  now : String

def Update.applyTo (u : Update) (r : Report) : Report := if r.reportId = u.reportId then u.touch.apply u.now r else r

def Store.update (s : Store) (u : Update) : Store := { s with reports := s.reports.map u.applyTo }

def Store.imageCount (s : Store) (reportId : Nat) : Nat := (s.images.filter (·.reportId = reportId)).length

/-- The row of a report as `_row` shows it. -/
def Store.row? (s : Store) (reportId : Nat) : Option PublicReport :=
  (s.reports.find? (·.reportId = reportId)).map fun r => row r (s.imageCount reportId)

/-- Where a triage request can fail. -/
inductive TouchPoint
  | pool
  | getconn
  | cursor
  | execute
  | fetchone
  | closeCursor
  | commit
  | row
  | putconn

structure TouchEnv where
  now : String
  fault : TouchPoint → Option (Fault DbError)

def TouchEnv.failure (env : TouchEnv) (p : TouchPoint) : Option (Fault Failure) :=
  (env.fault p).map fun f => ⟨.database f.error, f.mode⟩

abbrev TriageDb := Db Store Update

/-- `RETURNING *` of the open transaction. -/
def returning (reportId : Nat) : Prog TriageDb Failure (Option PublicReport) := fun d =>
  (.ok (((d.conn.pending.getD []).foldl Store.update d.committed).row? reportId), d)

def touchRow (env : TouchEnv) (reportId : Nat) (touch : Touch) : Prog TriageDb Failure (Option PublicReport) := do
  check (env.failure .cursor)
  let row ← tryFinally
    (do
      send unusable (env.failure .execute) ⟨reportId, touch, env.now⟩
      check (env.failure .fetchone)
      returning reportId)
    (check (env.failure .closeCursor))
  commit unusable Store.update (env.failure .commit)
  check (env.failure .row)
  pure row

/-- A touch that is refused raises before the first statement. -/
def setTouch (env : TouchEnv) (reportId : Nat) (touch : Except String Touch) :
    Prog TriageDb Failure (Option PublicReport) :=
  match touch with
  | .error text => raise (.validation text)
  | .ok touch => touchRow env reportId touch

def statusTouch (status : String) : Except String Touch :=
  if status ∈ statuses then .ok (.status status)
  else .error "status must be one of ('new', 'triaged', 'progress', 'fixed', 'answered', 'wontfix')"

def replyTouch (replyMd : String) : Except String Touch :=
  if strip replyMd = "" then .error "reply is empty" else .ok (.reply (strip replyMd))

def setStatus (env : TouchEnv) (reportId : Nat) (status : String) : Prog TriageDb Failure (Option PublicReport) :=
  setTouch env reportId (statusTouch status)

def setReply (env : TouchEnv) (reportId : Nat) (replyMd : String) : Prog TriageDb Failure (Option PublicReport) :=
  setTouch env reportId (replyTouch replyMd)

def markRead (env : TouchEnv) (reportId : Nat) : Prog TriageDb Failure (Option PublicReport) :=
  setTouch env reportId (.ok .read)

/-! ### The routes -/

def touchAnswer : Except Failure (Option PublicReport) → Answer
  | .ok (some report) => .ok report
  | .ok none => .error 404 "report not found"
  | .error (.validation text) => .error 400 text
  | .error (.database e) => storeDown e

/-- `run` on the report a path names. -/
def onReport (pool : Pool Update) (env : TouchEnv) (rawId : String)
    (run : Nat → Prog TriageDb Failure (Option PublicReport)) (d : TriageDb) : Answer × TriageDb :=
  match parsePublicId rawId with
  | none => (.error 400 "bad report id", d)
  | some reportId =>
    let r := withConn pool ((env.failure .pool).or (env.failure .getconn)) (env.failure .putconn) (run reportId) d
    (touchAnswer r.1, r.2)

def postRead (pool : Pool Update) (env : TouchEnv) (rawId : String) (d : TriageDb) : Answer × TriageDb :=
  onReport pool env rawId (markRead env) d

section

variable (container : Json → String)

def postStatus (pool : Pool Update) (env : TouchEnv) (rawId : String) (body : Body) (d : TriageDb) :
    Answer × TriageDb :=
  onReport pool env rawId (fun reportId => setStatus env reportId (textOf container body "status")) d

def postReply (pool : Pool Update) (env : TouchEnv) (rawId : String) (body : Body) (d : TriageDb) :
    Answer × TriageDb :=
  onReport pool env rawId (fun reportId => setReply env reportId (textOf container body "reply_md")) d

end

/-! ## One triage request -/

section Requests

variable {env : TouchEnv} {s : Store} {reportId : Nat}

theorem returning_spec (u : Update) :
    Triple (Holds s [u]) (returning reportId) (fun row d => row = (s.update u).row? reportId ∧ Holds s [u] d)
      (fun _ d => d.committed = s ∧ d.Clean) := by
  intro d hd
  refine ⟨?_, hd⟩
  rw [hd.pending, hd.committed]
  rfl

/-- The row that is returned is the one that was committed. -/
theorem touchRow_spec (touch : Touch) :
    Triple (Holds s []) (touchRow env reportId touch)
      (fun row d => (d.committed = s.update ⟨reportId, touch, env.now⟩ ∧
        row = (s.update ⟨reportId, touch, env.now⟩).row? reportId) ∧ d.Clean)
      (fun _ d => (d.committed = s ∨ d.committed = s.update ⟨reportId, touch, env.now⟩) ∧ d.Clean) := by
  set u : Update := ⟨reportId, touch, env.now⟩
  have hnothing : ∀ d : TriageDb, d.committed = s ∧ d.Clean →
      (d.committed = s ∨ d.committed = s.update u) ∧ d.Clean := fun d h => ⟨Or.inl h.1, h.2⟩
  have hheld : ∀ ws, ∀ d : TriageDb, Holds s ws d → d.committed = s ∧ d.Clean :=
    fun ws d h => ⟨h.committed, h.clean⟩
  have hupdate : Triple (Holds s []) (do
        send unusable (env.failure .execute) u
        check (env.failure .fetchone)
        returning reportId)
      (fun row d => row = (s.update u).row? reportId ∧ Holds s [u] d) (fun _ d => d.committed = s ∧ d.Clean) := by
    refine (send_spec u).bind fun _ => ?_
    exact (check_spec fun _ d hd => hheld _ d hd).bind fun _ => returning_spec u
  have hclose : ∀ P : TriageDb → Prop, (∀ d, P d → d.committed = s ∧ d.Clean) → Triple P
      (check (env.failure .closeCursor)) (fun _ => P) (fun _ d => d.committed = s ∧ d.Clean) :=
    fun _ h => check_spec fun _ d hd => h d hd
  have hcursor := hupdate.tryFinally (fun row => hclose _ fun d hd => hheld [u] d hd.2) fun _ => hclose _ fun _ hd => hd
  refine (check_spec fun _ d hd => hnothing d (hheld _ d hd)).bind fun _ => ?_
  refine (hcursor.mono (fun _ h => h) (fun _ _ h => h) fun _ d h => hnothing d h).bind fun row => ?_
  have hcommit : Triple (fun d : TriageDb => row = (s.update u).row? reportId ∧ Holds s [u] d)
      (commit unusable Store.update (env.failure .commit))
      (fun _ d => (d.committed = s.update u ∧ row = (s.update u).row? reportId) ∧ d.Clean)
      (fun _ d => (d.committed = s ∨ d.committed = s.update u) ∧ d.Clean) := by
    have hcommitted : Triple (Holds s [u]) (commit unusable Store.update (env.failure .commit))
        (fun _ d => d.committed = s.update u ∧ d.Clean)
        (fun _ d => (d.committed = s ∨ d.committed = s.update u) ∧ d.Clean) := commit_spec Store.update
    intro d hd
    have hend := hcommitted d hd.2
    generalize commit unusable Store.update (env.failure .commit) d = r at hend ⊢
    obtain ⟨_ | _, d'⟩ := r
    · exact hend
    · exact ⟨⟨hend.1, hd.1⟩, hend.2⟩
  refine hcommit.bind fun _ => ?_
  refine (check_spec fun _ d hd => ⟨Or.inr hd.1.1, hd.2⟩).bind fun _ => ?_
  exact Triple.pure fun d hd => hd

/-- What one triage request does to the store and to the pool. -/
structure Touched (env : TouchEnv) (rawId : String) (touch : Except String Touch) (d d' : TriageDb)
    (answer : Answer) : Prop where
  allOrNothing : d'.committed = d.committed ∨ ∃ reportId t, parsePublicId rawId = some reportId ∧ touch = .ok t ∧
    d'.committed = d.committed.update ⟨reportId, t, env.now⟩
  ok : ∀ report, answer = .ok report → ∃ reportId t, parsePublicId rawId = some reportId ∧ touch = .ok t ∧
    d'.committed = d.committed.update ⟨reportId, t, env.now⟩ ∧ d'.committed.row? reportId = some report
  refused : (parsePublicId rawId = none ∨ ∃ text, touch = .error text) →
    d'.committed = d.committed ∧ d'.issued = d.issued
  clean : d'.Clean

theorem touchAnswer_ok {r : Except Failure (Option PublicReport)} {report : PublicReport}
    (h : touchAnswer r = .ok report) : r = .ok (some report) := by
  obtain (text | e) | (_ | report') := r
  · cases h
  · rw [touchAnswer, storeDown] at h
    split at h <;> cases h
  · cases h
  · exact congrArg (fun r => Except.ok (some r)) (Answer.ok.inj h)

theorem touched {d : TriageDb} (env : TouchEnv) (pool : Pool Update) (rawId : String)
    (touch : Except String Touch) (hclean : d.Clean) :
    Touched env rawId touch d (onReport pool env rawId (fun reportId => setTouch env reportId touch) d).2
      (onReport pool env rawId (fun reportId => setTouch env reportId touch) d).1 := by
  unfold onReport
  cases hid : parsePublicId rawId with
  | none =>
    refine ⟨Or.inl rfl, fun report hok => (by cases hok), fun _ => ⟨rfl, rfl⟩, hclean⟩
  | some reportId =>
    dsimp only
    cases touch with
    | error text =>
      have hraise : Triple (fun d' : TriageDb => (d'.committed = d.committed ∧ d'.issued = d.issued) ∧ d'.conn = .idle ∧
            d'.Clean) (setTouch env reportId (.error text)) (fun _ d' => False ∧ d'.Clean)
          (fun _ d' => (d'.committed = d.committed ∧ d'.issued = d.issued) ∧ d'.Clean) :=
        Triple.raise fun d' hd' => ⟨hd'.1, hd'.2.2⟩
      have hend := withConn_spec pool ((env.failure .pool).or (env.failure .getconn)) (env.failure .putconn)
        (P := fun c n => c = d.committed ∧ n = d.issued) (Q := fun _ _ _ => False)
        (R := fun c n => c = d.committed ∧ n = d.issued)
        hraise (fun _ _ hc => hc) (fun _ _ _ hc => hc.elim) d ⟨⟨rfl, rfl⟩, hclean⟩
      generalize withConn pool _ _ (setTouch env reportId (.error text)) d = r at hend ⊢
      obtain ⟨e | row, d'⟩ := r
      · obtain ⟨⟨hstored, hissued⟩, hclean'⟩ := hend
        refine ⟨Or.inl hstored, fun report hok => ?_, fun _ => ⟨hstored, hissued⟩, hclean'⟩
        cases touchAnswer_ok hok
      · exact hend.1.elim
    | ok t =>
      have hrow : Triple (fun d' : TriageDb => d'.committed = d.committed ∧ d'.conn = .idle ∧ d'.Clean)
          (setTouch env reportId (.ok t))
          (fun row d' => (d'.committed = d.committed.update ⟨reportId, t, env.now⟩ ∧
            row = (d.committed.update ⟨reportId, t, env.now⟩).row? reportId) ∧ d'.Clean)
          (fun _ d' => (d'.committed = d.committed ∨
            d'.committed = d.committed.update ⟨reportId, t, env.now⟩) ∧ d'.Clean) :=
        (touchRow_spec t).mono (fun d' ⟨hc, hidle, hd'⟩ => ⟨hc, by rw [hidle]; rfl, hd'⟩) (fun _ _ h => h)
          fun _ _ h => h
      have hend := withConn_spec pool ((env.failure .pool).or (env.failure .getconn)) (env.failure .putconn)
        (P := fun c _ => c = d.committed)
        (Q := fun row c _ => c = d.committed.update ⟨reportId, t, env.now⟩ ∧
          row = (d.committed.update ⟨reportId, t, env.now⟩).row? reportId)
        (R := fun c _ => c = d.committed ∨ c = d.committed.update ⟨reportId, t, env.now⟩)
        hrow (fun _ _ hc => Or.inl hc) (fun _ _ _ hc => Or.inr hc.1) d ⟨rfl, hclean⟩
      have hvalid : ¬ (parsePublicId rawId = none ∨ ∃ text, (Except.ok t : Except String Touch) = .error text) := by
        rw [hid]
        rintro (hnone | ⟨text, herror⟩)
        · cases hnone
        · cases herror
      generalize withConn pool _ _ (setTouch env reportId (.ok t)) d = r at hend ⊢
      obtain ⟨e | row, d'⟩ := r
      · obtain ⟨hstored, hclean'⟩ := hend
        refine ⟨hstored.imp_right fun h => ⟨reportId, t, hid, rfl, h⟩, fun report hok => ?_, fun h => absurd h hvalid,
          hclean'⟩
        cases touchAnswer_ok hok
      · obtain ⟨⟨hstored, hanswer⟩, hclean'⟩ := hend
        refine ⟨Or.inr ⟨reportId, t, hid, rfl, hstored⟩, fun report hok => ⟨reportId, t, hid, rfl, hstored, ?_⟩,
          fun h => absurd h hvalid, hclean'⟩
        have hrow' := Except.ok.inj (touchAnswer_ok hok)
        rw [hstored, ← hanswer, hrow']

end Requests

/-! ## The system -/

/-- What a request does to the store when it takes effect. -/
inductive Effect
  | filed (report : Report) (images : List Image)
  | touched (u : Update)

def Store.take (s : Store) : Effect → Store
  | .filed report images => s.add report images
  | .touched u => s.update u

/-- A writing request, with what surrounds it. -/
inductive Call
  | report (env : Env) (body : Body)
  | read (env : TouchEnv) (rawId : String)
  | status (env : TouchEnv) (rawId : String) (body : Body)
  | reply (env : TouchEnv) (rawId : String) (body : Body)

/-- The store between two requests, and how many connections the pool keeps; none of them has a transaction. -/
structure System where
  store : Store
  idle : Nat

def System.db {ω : Type} (sys : System) : Db Store ω := ⟨sys.store, .closed, List.replicate sys.idle .idle, 0⟩

def System.after {ω : Type} (d : Db Store ω) : System := ⟨d.committed, d.pooled.length⟩

section

variable (container : Json → String) (pool : (ω : Type) → Pool ω)

def Call.run (sys : System) : Call → Answer × System
  | .report env body =>
    let r := postReport container (pool Write) env body sys.db
    (r.1, .after r.2)
  | .read env rawId =>
    let r := postRead (pool Update) env rawId sys.db
    (r.1, .after r.2)
  | .status env rawId body =>
    let r := postStatus container (pool Update) env rawId body sys.db
    (r.1, .after r.2)
  | .reply env rawId body =>
    let r := postReply container (pool Update) env rawId body sys.db
    (r.1, .after r.2)

def serve (sys : System) (call : Call) : System := (call.run container pool sys).2

def touchEffect (env : TouchEnv) (rawId : String) (touch : Except String Touch) : Option Effect :=
  match parsePublicId rawId, touch with
  | some reportId, .ok t => some (.touched ⟨reportId, t, env.now⟩)
  | _, _ => none

/-- What the request asks for; `none` when it is refused. -/
def Call.asks : Call → Option Effect
  | .report env body => match decodeImages container (body.lookup "images") with
    | .error _ => none
    | .ok images => match refuse (fieldsOf container body) with
      | some _ => none
      | none => some (.filed (newReport env (fieldsOf container body)) images)
  | .read env rawId => touchEffect env rawId (.ok .read)
  | .status env rawId body => touchEffect env rawId (statusTouch (textOf container body "status"))
  | .reply env rawId body => touchEffect env rawId (replyTouch (textOf container body "reply_md"))

/-- `effects` are the requests of the run that took effect, in order; one that is answered `ok` did. -/
inductive TookEffect : System → List Call → List Effect → Prop
  | nil (sys : System) : TookEffect sys [] []
  | skipped {sys : System} {call : Call} {calls : List Call} {effects : List Effect}
      (answer : ∀ report, (call.run container pool sys).1 ≠ .ok report)
      (store : (serve container pool sys call).store = sys.store)
      (rest : TookEffect (serve container pool sys call) calls effects) : TookEffect sys (call :: calls) effects
  | took {sys : System} {call : Call} {calls : List Call} {effects : List Effect} {e : Effect}
      (asks : call.asks container = some e) (store : (serve container pool sys call).store = sys.store.take e)
      (rest : TookEffect (serve container pool sys call) calls effects) : TookEffect sys (call :: calls) (e :: effects)

end

section Runs

variable {container : Json → String} {pool : (ω : Type) → Pool ω} {sys : System}

theorem clean_db {ω : Type} : (sys.db : Db Store ω).Clean := fun _ hc => List.eq_of_mem_replicate hc

theorem asks_of_accepted (env : Env) {body : Body} {images : List Image} (h : Accepted container body images) :
    (Call.report env body).asks container = some (.filed (newReport env (fieldsOf container body)) images) := by
  obtain ⟨himages, hrefuse⟩ := accepted_iff.1 h
  simp only [Call.asks, himages, hrefuse]

theorem touchEffect_eq {env : TouchEnv} {rawId : String} {touch : Except String Touch} {reportId : Nat} {t : Touch}
    (hid : parsePublicId rawId = some reportId) (ht : touch = .ok t) :
    touchEffect env rawId touch = some (.touched ⟨reportId, t, env.now⟩) := by
  unfold touchEffect
  simp only [hid, ht]

/-- A request does nothing, and then it is not answered `ok`, or what it asks for. -/
theorem serve_cases (container : Json → String) (pool : (ω : Type) → Pool ω) (sys : System) (call : Call) :
    ((∀ report, (call.run container pool sys).1 ≠ .ok report) ∧ (serve container pool sys call).store = sys.store) ∨
    ∃ e, call.asks container = some e ∧ (serve container pool sys call).store = sys.store.take e := by
  have htouch : ∀ (env : TouchEnv) (rawId : String) (touch : Except String Touch) (call : Call),
      call.run container pool sys =
        ((onReport (pool Update) env rawId (fun reportId => setTouch env reportId touch) sys.db).1,
          .after (onReport (pool Update) env rawId (fun reportId => setTouch env reportId touch) sys.db).2) →
      call.asks container = touchEffect env rawId touch →
      ((∀ report, (call.run container pool sys).1 ≠ .ok report) ∧
        (serve container pool sys call).store = sys.store) ∨
      ∃ e, call.asks container = some e ∧ (serve container pool sys call).store = sys.store.take e := by
    intro env rawId touch call hrun hasks
    have h := touched env (pool Update) rawId touch (clean_db : (sys.db : TriageDb).Clean)
    unfold serve
    rw [hrun, hasks]
    generalize onReport (pool Update) env rawId (fun reportId => setTouch env reportId touch) sys.db = r at h
    by_cases hok : ∃ report, r.1 = .ok report
    · obtain ⟨report, hreport⟩ := hok
      obtain ⟨reportId, t, hid, ht, hstored, -⟩ := h.ok report hreport
      exact Or.inr ⟨.touched ⟨reportId, t, env.now⟩, touchEffect_eq hid ht, hstored⟩
    · rcases h.allOrNothing with hsame | ⟨reportId, t, hid, ht, hstored⟩
      · exact Or.inl ⟨fun report hreport => hok ⟨report, hreport⟩, hsame⟩
      · exact Or.inr ⟨.touched ⟨reportId, t, env.now⟩, touchEffect_eq hid ht, hstored⟩
  cases call with
  | report env body =>
    have h := atomic container (pool Write) ⟨env, body⟩ (clean_db (ω := Write) : sys.db.Clean)
    have hserve : (serve container pool sys (.report env body)).store =
        (step container (pool Write) sys.db ⟨env, body⟩).committed := rfl
    have htakes : ∀ images, Accepted container body images →
        (step container (pool Write) sys.db ⟨env, body⟩).committed =
          sys.store.add (newReport env (fieldsOf container body)) images →
        ∃ e, (Call.report env body).asks container = some e ∧
          (serve container pool sys (.report env body)).store = sys.store.take e := by
      intro images haccepted hstored
      refine ⟨.filed (newReport env (fieldsOf container body)) images, asks_of_accepted env haccepted, ?_⟩
      rw [hserve, hstored]
      rfl
    by_cases hok : ∃ report, ((Call.report env body).run container pool sys).1 = .ok report
    · obtain ⟨report, hreport⟩ := hok
      obtain ⟨images, haccepted, hstored, -⟩ := h.ok report hreport
      exact Or.inr (htakes images haccepted hstored)
    · rcases h.allOrNothing with hsame | ⟨images, haccepted, hstored⟩
      · exact Or.inl ⟨fun report hreport => hok ⟨report, hreport⟩, hserve.trans hsame⟩
      · exact Or.inr (htakes images haccepted hstored)
  | read env rawId => exact htouch env rawId (.ok .read) _ rfl rfl
  | status env rawId body => exact htouch env rawId (statusTouch (textOf container body "status")) _ rfl rfl
  | reply env rawId body => exact htouch env rawId (replyTouch (textOf container body "reply_md")) _ rfl rfl

theorem tookEffect_exists (container : Json → String) (pool : (ω : Type) → Pool ω) (calls : List Call) :
    ∀ sys : System, ∃ effects, TookEffect container pool sys calls effects := by
  induction calls with
  | nil => exact fun sys => ⟨[], .nil sys⟩
  | cons call calls ih =>
    intro sys
    obtain ⟨effects, hrest⟩ := ih (serve container pool sys call)
    rcases serve_cases container pool sys call with ⟨hanswer, hstore⟩ | ⟨e, hasks, hstore⟩
    · exact ⟨effects, .skipped hanswer hstore hrest⟩
    · exact ⟨e :: effects, .took hasks hstore hrest⟩

theorem TookEffect.store_eq {calls : List Call} {effects : List Effect}
    (h : TookEffect container pool sys calls effects) :
    (Run.run (serve container pool) sys calls).store = effects.foldl Store.take sys.store := by
  induction h with
  | nil => rfl
  | skipped _ hstore _ ih => rw [Run.run_cons, ih, hstore]
  | took _ hstore _ ih => rw [Run.run_cons, ih, hstore, List.foldl_cons]

theorem TookEffect.asked {calls : List Call} {effects : List Effect}
    (h : TookEffect container pool sys calls effects) : effects.Sublist (calls.filterMap (Call.asks container)) := by
  induction h with
  | nil => exact List.Sublist.refl _
  | @skipped _ call calls _ _ _ _ ih =>
    refine ih.trans ?_
    rw [← List.singleton_append, List.filterMap_append]
    exact List.sublist_append_right _ _
  | took hasks _ _ ih =>
    rw [List.filterMap_cons_some hasks]
    exact ih.cons_cons _

end Runs

/-! ## What becomes of a report -/

def touchesOf (reportId : Nat) (effects : List Effect) : List Update :=
  effects.filterMap fun
    | .touched u => if u.reportId = reportId then some u else none
    | .filed _ _ => none

def filedIds (effects : List Effect) : List Nat :=
  effects.filterMap fun
    | .filed report _ => some report.reportId
    | .touched _ => none

def Report.followed (r : Report) (us : List Update) : Report := us.foldl (fun r u => u.touch.apply u.now r) r

def Touch.status? : Touch → Option String
  | .status s => some s
  | _ => none

def Touch.reply? : Touch → Option String
  | .reply text => some text
  | _ => none

/-- What a report is after the updates `us`. -/
structure Followed (r r' : Report) (us : List Update) : Prop where
  /-- Triage has its own columns; what was sent stays. -/
  sent : { r' with
    status := r.status, replyMd := r.replyMd, repliedAt := r.repliedAt, unreadReply := r.unreadReply,
    updatedAt := r.updatedAt } = r
  /-- The dot is there when the last thing that happened is news. -/
  unread : r'.unreadReply = match us.getLast? with
    | none => r.unreadReply
    | some u => decide (u.touch ≠ .read)
  status : r'.status = ((us.filterMap fun u => u.touch.status?).getLast?).getD r.status
  reply : r'.replyMd = ((us.filterMap fun u => u.touch.reply?).getLast?).or r.replyMd
  updated : r'.updatedAt = ((us.map (·.now)).getLast?).getD r.updatedAt

section Replay

variable {r : Report} {s : Store}

@[simp] theorem reportId_apply (now : String) (t : Touch) : (t.apply now r).reportId = r.reportId := by
  cases t <;> rfl

theorem followed_append (us : List Update) (u : Update) :
    r.followed (us ++ [u]) = u.touch.apply u.now (r.followed us) := by
  unfold Report.followed
  rw [List.foldl_append]
  rfl

theorem followed (r : Report) (us : List Update) : Followed r (r.followed us) us := by
  induction us using List.reverseRecOn with
  | nil => exact ⟨rfl, rfl, rfl, rfl, rfl⟩
  | append_singleton us u ih =>
    rw [followed_append]
    cases ht : u.touch with
    | status t =>
      refine ⟨ih.sent, ?_, ?_, ?_, ?_⟩
      · simp [Touch.apply, ht]
      · simp [Touch.apply, Touch.status?, ht]
      · simpa [Touch.apply, Touch.reply?, ht] using ih.reply
      · simp [Touch.apply]
    | reply text =>
      refine ⟨ih.sent, ?_, ?_, ?_, ?_⟩
      · simp [Touch.apply, ht]
      · simpa [Touch.apply, Touch.status?, ht] using ih.status
      · simp [Touch.apply, Touch.reply?, ht]
      · simp [Touch.apply]
    | read =>
      refine ⟨ih.sent, ?_, ?_, ?_, ?_⟩
      · simp [Touch.apply, ht]
      · simpa [Touch.apply, Touch.status?, ht] using ih.status
      · simpa [Touch.apply, Touch.reply?, ht] using ih.reply
      · simp [Touch.apply]

@[simp] theorem reportId_applyTo (u : Update) : (u.applyTo r).reportId = r.reportId := by
  unfold Update.applyTo
  split
  · exact reportId_apply _ _
  · rfl

theorem reportId_of_mem_imageRows {reportId : Nat} {images : List Image} {i : ReportImage}
    (h : i ∈ imageRows reportId 0 images) : i.reportId = reportId := by
  obtain ⟨_, _, rfl⟩ := List.mem_mapIdx.1 h
  rfl

theorem images_add (s : Store) (r : Report) (images : List Image) :
    (s.add r images).images = s.images ++ imageRows r.reportId 0 images := by
  simp [Store.add, imageRows]

theorem mem_replay (effects : List Effect) : ∀ {s : Store} {r : Report}, r ∈ s.reports →
    r.followed (touchesOf r.reportId effects) ∈ (effects.foldl Store.take s).reports := by
  induction effects with
  | nil => exact fun h => h
  | cons e effects ih =>
    intro s r hr
    cases e with
    | filed report images =>
      have hmem : r ∈ (s.add report images).reports := List.mem_append_left _ hr
      exact ih hmem
    | touched u =>
      have hmem : u.applyTo r ∈ (s.update u).reports := List.mem_map_of_mem hr
      have hnext := ih hmem
      rw [reportId_applyTo] at hnext
      by_cases hid : r.reportId = u.reportId
      · have happly : u.applyTo r = u.touch.apply u.now r := if_pos hid
        have hmine : touchesOf r.reportId (.touched u :: effects) = u :: touchesOf r.reportId effects :=
          List.filterMap_cons_some (if_pos hid.symm)
        rw [happly] at hnext
        rw [hmine]
        exact hnext
      · have happly : u.applyTo r = r := if_neg hid
        have hother : touchesOf r.reportId (.touched u :: effects) = touchesOf r.reportId effects :=
          List.filterMap_cons_none (if_neg (Ne.symm hid))
        rw [happly] at hnext
        rw [hother]
        exact hnext

theorem ids_update (s : Store) (u : Update) :
    (s.update u).reports.map (·.reportId) = s.reports.map (·.reportId) := by
  rw [Store.update, List.map_map]
  exact List.map_congr_left fun r _ => reportId_applyTo u

/-- Reports and images are only ever added, and at the end. -/
theorem replay_grows (effects : List Effect) : ∀ s : Store,
    ((effects.foldl Store.take s).reports.map (·.reportId)) = s.reports.map (·.reportId) ++ filedIds effects ∧
    ∃ more, (effects.foldl Store.take s).images = s.images ++ more ∧ ∀ i ∈ more, i.reportId ∈ filedIds effects := by
  induction effects with
  | nil =>
    exact fun s => ⟨(List.append_nil _).symm, [], (List.append_nil _).symm,
      fun i hi => absurd hi List.not_mem_nil⟩
  | cons e effects ih =>
    intro s
    obtain ⟨hids, more, himages, hmore⟩ := ih (s.take e)
    rw [List.foldl_cons]
    cases e with
    | filed report images =>
      have hfiled : filedIds (.filed report images :: effects) = report.reportId :: filedIds effects := rfl
      rw [hfiled]
      refine ⟨?_, imageRows report.reportId 0 images ++ more, ?_, fun i hi => ?_⟩
      · rw [hids, Store.take, Store.add, List.map_append, List.append_assoc]
        rfl
      · rw [himages, Store.take, images_add, List.append_assoc]
      · rcases List.mem_append.1 hi with hrow | hlater
        · rw [reportId_of_mem_imageRows hrow]
          exact List.mem_cons_self
        · exact List.mem_cons_of_mem _ (hmore i hlater)
    | touched u => exact ⟨hids.trans (congrArg (· ++ filedIds effects) (ids_update s u)), more, himages, hmore⟩

end Replay

/-- **Main.** Whatever fails in a run of requests, the store is what the requests that took effect make of it: every
report there was is there, in its place, with what was sent and with the marks of the updates that reached it; its
images stand; what is new comes after. -/
theorem replayed (container : Json → String) (pool : (ω : Type) → Pool ω) (sys : System) (calls : List Call) :
    ∃ effects, TookEffect container pool sys calls effects ∧ effects.Sublist (calls.filterMap (Call.asks container)) ∧
      (Run.run (serve container pool) sys calls).store.reports.map (·.reportId) =
        sys.store.reports.map (·.reportId) ++ filedIds effects ∧
      sys.store.images <+: (Run.run (serve container pool) sys calls).store.images ∧
      ∀ r ∈ sys.store.reports, ∃ r' ∈ (Run.run (serve container pool) sys calls).store.reports,
        Followed r r' (touchesOf r.reportId effects) := by
  obtain ⟨effects, h⟩ := tookEffect_exists container pool calls sys
  refine ⟨effects, h, h.asked, ?_⟩
  rw [h.store_eq]
  obtain ⟨hids, more, himages, -⟩ := replay_grows effects sys.store
  exact ⟨hids, ⟨more, himages.symm⟩, fun r hr => ⟨_, mem_replay effects hr, followed r _⟩⟩

end BifrostApi.Research.Feedback
