import Mathlib.Data.List.Forall2
import BifrostApi.Py.Text

/-!
# Fetching executions (`trading/routers/executions.py`, `post_executions_fetch`)

Two gateway slots are asked for fills; the fills of both are converted and written. A gateway answer is
what `request_async` and reading its envelope come to; the converter
(`execution_rows_from_gateway_fills`) is the parameter `executionRows`, the writer's outcome is part of
the request. `logger` calls are left out.

A secondary slot that raises is reported by `str(e2)` (executions.py:665). Text that is empty, as a
timeout's is, counts as no error (:728, :806): the answer is green and says nothing
(`accounted_fails`).

| here | there |
| --- | --- |
| `secondarySlot` | the `try` block (:643-665) |
| `noExecutions`, `nothingWritten`, `imported` | the three success answers (:667, :714, :754) |
| `postExecutionsFetch` | `post_executions_fetch` (:592) |
-/

namespace BifrostApi.Trading

open Py

/-- What asking one slot comes to: an exception's text, or the envelope's `ok`, `error` and fills. -/
inductive SlotAnswer (Fill : Type)
  | raised (text : String)
  | envelope (ok : Bool) (error : Option String) (executions : List Fill)

/-- A fill that is not written, and what it lacks. -/
structure Refusal where
  execId : Option String
  missing : List String
  deriving DecidableEq, Repr

/-- `stats_out` of `write_account_executions_to_db`. -/
structure WriteStats where
  inserted : Int
  skippedDuplicate : Int
  missingTable : Bool
  insertedIds : List Int
  updatedIds : List Int
  skippedIds : List Int

/-- A request, the app state it meets and what the calls it makes answer. -/
structure FetchRequest (Fill : Type) where
  days : Nat
  controlViaDb : Bool
  monitorEnabled : Bool
  gateway : Bool
  primary : SlotAnswer Fill
  /-- `ibc.get("ib2_host")`; the text of what `get_effective_ib_config` raised. -/
  ib2Host : Except String (Option String)
  secondary : SlotAnswer Fill
  /-- `none` when the writer answers false. -/
  write : Option WriteStats

/-- A success body; a key that is left out is `none`. -/
structure FetchBody where
  message : String
  count : Nat
  days : Nat
  fetchedPrimary : Nat
  fetchedSecondary : Nat
  fetchedTotal : Nat
  tws : Option WriteStats
  skippedIncomplete : Option Nat
  skippedExecIds : Option (List (Option String))
  secondaryError : Option String

inductive Answer
  | failure (statusCode : Nat) (detail : String)
  | success (body : FetchBody)
  /-- The exception of the primary slot leaves the handler. -/
  | raised (text : String)

/-- `_publish_tws_fetch_system_message`. -/
structure SystemMessage where
  ok : Bool
  title : String
  message : String
  reason : Option String
  level : String

/-- What a request does: its answer, the rows it hands to the writer, the messages it publishes. -/
structure FetchRun (Row : Type) where
  answer : Answer
  handed : Option (List Row)
  published : List SystemMessage

/-! ## Texts -/

/-- `str(env.get("error") or default)`. -/
def errorText (error : Option String) (default : String) : String :=
  match error with
  | some text => if text = "" then default else text
  | none => default

/-- `if secondary_error:` -/
def reported (secondaryError : Option String) : Option String :=
  match secondaryError with
  | some text => if text = "" then none else some text
  | none => none

/-- `_fmt_db_id_list` (:131). -/
def fmtDbIdList (ids : List Int) : String :=
  if ids = [] then "none"
  else if ids.length ≤ 48 then "[" ++ join ", " (ids.map toString) ++ "]"
  else "[" ++ join ", " ((ids.take 48).map toString) ++ ", … +" ++ toString (ids.length - 48) ++ " more]"

def skippedNote (refused : List Refusal) : String :=
  let skippedIds := refused.map (·.execId)
  if refused = [] then ""
  else " Not written (incomplete fill: no account / quantity, or an option without expiry / strike / right): "
    ++ toString refused.length ++ ", exec_ids ["
    ++ join ", " ((skippedIds.take 20).map fun id => id.getD "None")
    ++ (if 20 < skippedIds.length then ", ..." else "") ++ "]."

/-! ## The handler -/

/-- The fills of the secondary slot, and `secondary_error`. -/
def secondarySlot {Fill : Type} (req : FetchRequest Fill) : List Fill × Option String :=
  match req.ib2Host with
  | .error text => ([], some text)
  | .ok host =>
    if strip (host.getD "") = "" then ([], none)
    else match req.secondary with
      | .raised text => ([], some text)
      | .envelope true _ executions => (executions, none)
      | .envelope false error _ => ([], some (errorText error "secondary fetch failed"))

/-- The counts every success answer carries. -/
structure Fetched where
  primary : Nat
  secondary : Nat
  total : Nat
  secondaryError : Option String

def noExecutions (days : Nat) (f : Fetched) : FetchBody × SystemMessage :=
  let msg := "IB returned no executions (range: last " ++ toString days
    ++ " day(s); for a multi-day range ensure TWS Trade Log includes those days)."
  let msg := match reported f.secondaryError with
    | some text => msg ++ " Secondary slot error: " ++ text
    | none => msg
  let detailParts := ["days=" ++ toString days, "fetched_primary=" ++ toString f.primary,
    "fetched_secondary=" ++ toString f.secondary, "fetched_total=0"]
    ++ ((reported f.secondaryError).map fun text => "secondary_error=" ++ text).toList
  (⟨msg, 0, days, f.primary, f.secondary, 0, none, none, none, reported f.secondaryError⟩,
   ⟨true, "TWS executions fetch: no rows", msg ++ " " ++ join " " detailParts, none, "warning"⟩)

def nothingWritten (days : Nat) (f : Fetched) (refused : List Refusal) : FetchBody × SystemMessage :=
  let msg := "IB returned " ++ toString f.total ++ " execution(s); none could be written." ++ skippedNote refused
  (⟨msg, f.total, days, f.primary, f.secondary, f.total, none, some refused.length,
    some (refused.map (·.execId)), reported f.secondaryError⟩,
   ⟨true, "TWS executions fetch: nothing written", msg, none, "warning"⟩)

def imported (days : Nat) (f : Fetched) (refused : List Refusal) (stats : WriteStats) : FetchBody × SystemMessage :=
  let msg := "Fetched " ++ toString f.total ++ " execution(s) from IB (primary " ++ toString f.primary
    ++ ", secondary " ++ toString f.secondary ++ "). executions_raw_tws: inserted " ++ toString stats.inserted
    ++ " row(s), ids " ++ fmtDbIdList stats.insertedIds ++ "; updated " ++ toString stats.updatedIds.length
    ++ " row(s), ids " ++ fmtDbIdList stats.updatedIds ++ " (TWS path is insert-or-skip, usually 0); "
    ++ "skipped duplicate exec_id: " ++ toString stats.skippedDuplicate ++ ", existing row ids "
    ++ fmtDbIdList stats.skippedIds ++ "." ++ skippedNote refused
    ++ (if stats.missingTable then " (executions_raw_tws missing or unavailable; stats may be incomplete.)" else "")
    ++ (match reported f.secondaryError with
      | some text => " Secondary slot error (merged primary only): " ++ text
      | none => "")
  (⟨msg, f.total, days, f.primary, f.secondary, f.total, some stats, some refused.length,
    some (refused.map (·.execId)), reported f.secondaryError⟩,
   ⟨true, "TWS executions imported", msg, none, "success"⟩)

/-- The handler past the primary slot's fills. -/
def fetchAndWrite {Fill Row : Type} (executionRows : List Fill → List Row × List Refusal)
    (req : FetchRequest Fill) (primaryExecs : List Fill) : FetchRun Row :=
  let (secondaryExecs, secondaryError) := secondarySlot req
  let allExecs := primaryExecs ++ secondaryExecs
  let f : Fetched := ⟨primaryExecs.length, secondaryExecs.length, allExecs.length, secondaryError⟩
  if allExecs.isEmpty then
    let (body, msg) := noExecutions req.days f
    ⟨.success body, none, [msg]⟩
  else
    let (rows, refused) := executionRows allExecs
    if rows.isEmpty then
      let (body, msg) := nothingWritten req.days f refused
      ⟨.success body, none, [msg]⟩
    else match req.write with
      | none => ⟨.failure 500 "Failed to write account_executions.", some rows,
          [⟨false, "TWS executions write failed", "PostgreSQL write failed after IB returned executions.",
            some "write_account_executions_to_db", "error"⟩]⟩
      | some stats =>
        let (body, msg) := imported req.days f refused stats
        ⟨.success body, some rows, [msg]⟩

def postExecutionsFetch {Fill Row : Type} (executionRows : List Fill → List Row × List Refusal)
    (req : FetchRequest Fill) : FetchRun Row :=
  if ¬ req.controlViaDb then
    ⟨.failure 503 "PostgreSQL is required to write account_executions.", none, []⟩
  else if ¬ req.monitorEnabled then ⟨.failure 503 "Monitor stopped; cannot fetch executions.", none, []⟩
  else if ¬ req.gateway then ⟨.failure 503 "IB Gateway client is not configured.", none, []⟩
  else match req.primary with
    | .raised text => ⟨.raised text, none, []⟩
    | .envelope false error _ =>
      let err := errorText error "IB gateway error"
      ⟨.failure 503 err, none,
        [⟨false, "TWS executions fetch failed", "Primary slot: " ++ err, some err, "error"⟩]⟩
    | .envelope true _ executions => fetchAndWrite executionRows req executions

/-! ## Accounting for the fills -/

variable {Fill Row : Type}

/-- The converter splits its input into written rows and one refusal for each other fill. -/
structure Splits (rowOf : Fill → Row → Prop) (execId : Fill → Option String)
    (executionRows : List Fill → List Row × List Refusal) : Prop where
  split : ∀ fills, ∃ written other, (written ++ other).Perm fills ∧
    List.Forall₂ rowOf written (executionRows fills).1 ∧
    List.Forall₂ (fun fill refusal => refusal.execId = execId fill) other (executionRows fills).2

/-- The fills a slot answered with. -/
def SlotAnswer.fills : SlotAnswer Fill → List Fill
  | .envelope true _ executions => executions
  | .envelope false _ _ | .raised _ => []

/-- The secondary slot was to be asked, and that failed. -/
def SecondaryFailed (req : FetchRequest Fill) : Prop :=
  match req.ib2Host with
  | .error _ => True
  | .ok host => strip (host.getD "") ≠ "" ∧ ∀ error executions, req.secondary ≠ .envelope true error executions

/-- It failed with an exception that has no text. -/
def RaisedEmpty (req : FetchRequest Fill) : Prop :=
  match req.ib2Host with
  | .error text => text = ""
  | .ok host => strip (host.getD "") ≠ "" ∧ req.secondary = .raised ""

/-- The secondary slot's fills: none when it is not configured or failed. -/
def secondaryFills (req : FetchRequest Fill) : List Fill :=
  match req.ib2Host with
  | .error _ => []
  | .ok host => if strip (host.getD "") = "" then [] else req.secondary.fills

/-- What a success answer owes its caller. -/
structure Accounted (rowOf : Fill → Row → Prop) (execId : Fill → Option String) (req : FetchRequest Fill)
    (body : FetchBody) (handed : Option (List Row)) : Prop where
  total : body.fetchedTotal = body.fetchedPrimary + body.fetchedSecondary
  /-- The counts are those of the fills the slots answered with. -/
  counts : body.fetchedPrimary = req.primary.fills.length ∧ body.fetchedSecondary = (secondaryFills req).length
  reported : SecondaryFailed req → ∃ text, body.secondaryError = some text
  /-- Every fill of either slot is written in this call or listed as skipped, once. -/
  fills : ∃ written other, (written ++ other).Perm (req.primary.fills ++ secondaryFills req) ∧
    List.Forall₂ rowOf written (handed.getD []) ∧
    List.Forall₂ (fun fill id => id = execId fill) other (body.skippedExecIds.getD [])

theorem secondarySlot_fills (req : FetchRequest Fill) : (secondarySlot req).1 = secondaryFills req := by
  unfold secondarySlot secondaryFills
  cases req.ib2Host with
  | error text => rfl
  | ok host =>
    by_cases hhost : strip (host.getD "") = ""
    · simp [hhost]
    · cases req.secondary with
      | raised text => simp [hhost, SlotAnswer.fills]
      | envelope ok error executions => cases ok <;> simp [hhost, SlotAnswer.fills]

theorem errorText_ne {error : Option String} {default : String} (h : default ≠ "") :
    errorText error default ≠ "" := by
  unfold errorText
  cases error with
  | none => exact h
  | some text =>
    by_cases ht : text = ""
    · simpa [ht] using h
    · simp [ht]

theorem reported_eq_none {secondaryError : Option String} :
    reported secondaryError = none ↔ secondaryError = none ∨ secondaryError = some "" := by
  cases secondaryError with
  | none => simp [reported]
  | some text => by_cases ht : text = "" <;> simp [reported, ht]

/-- A failed secondary slot goes unreported exactly when it raised without text. -/
theorem reported_secondarySlot (req : FetchRequest Fill) :
    (SecondaryFailed req → ∃ text, reported (secondarySlot req).2 = some text) ↔ ¬ RaisedEmpty req := by
  rw [← Option.ne_none_iff_exists']
  unfold SecondaryFailed RaisedEmpty secondarySlot
  rw [ne_eq, reported_eq_none]
  cases req.ib2Host with
  | error text => simp
  | ok host =>
    by_cases hhost : strip (host.getD "") = ""
    · simp [hhost]
    · cases req.secondary with
      | raised text => simp [hhost]
      | envelope ok error executions =>
        cases ok with
        | true => simp [hhost]
        | false =>
          have herror : errorText error "secondary fetch failed" ≠ "" := errorText_ne (by decide)
          simp [hhost, herror]

/-- What stands in a success body, and what was handed to the writer. -/
structure SuccessOf (executionRows : List Fill → List Row × List Refusal) (req : FetchRequest Fill)
    (body : FetchBody) (handed : Option (List Row)) : Prop where
  primary : body.fetchedPrimary = req.primary.fills.length
  secondary : body.fetchedSecondary = (secondaryFills req).length
  total : body.fetchedTotal = (req.primary.fills ++ secondaryFills req).length
  secondaryError : body.secondaryError = reported (secondarySlot req).2
  rows : (req.primary.fills ++ secondaryFills req = [] ∧ handed = none ∧ body.skippedExecIds = none) ∨
    (handed.getD [] = (executionRows (req.primary.fills ++ secondaryFills req)).1 ∧
      body.skippedExecIds = some ((executionRows (req.primary.fills ++ secondaryFills req)).2.map (·.execId)))

theorem fetchAndWrite_success {executionRows : List Fill → List Row × List Refusal} {req : FetchRequest Fill}
    {body : FetchBody} (h : (fetchAndWrite executionRows req req.primary.fills).answer = .success body) :
    SuccessOf executionRows req body (fetchAndWrite executionRows req req.primary.fills).handed := by
  have hfills := secondarySlot_fills req
  unfold fetchAndWrite at h ⊢
  simp only [hfills] at h ⊢
  split at h
  · rename_i hempty
    have hnil : req.primary.fills ++ secondaryFills req = [] := List.isEmpty_iff.1 hempty
    simp only [Answer.success.injEq] at h
    subst h
    rw [if_pos hempty]
    exact ⟨rfl, rfl, by rw [hnil]; rfl, rfl, Or.inl ⟨hnil, rfl, rfl⟩⟩
  · rename_i hempty
    rw [if_neg hempty]
    split at h
    · rename_i hrows
      simp only [Answer.success.injEq] at h
      subst h
      rw [if_pos hrows]
      exact ⟨rfl, rfl, rfl, rfl, Or.inr ⟨(List.isEmpty_iff.1 hrows).symm, rfl⟩⟩
    · rename_i hrows
      rw [if_neg hrows]
      cases hwrite : req.write with
      | none =>
        rw [hwrite] at h
        cases h
      | some stats =>
        rw [hwrite] at h
        simp only [Answer.success.injEq] at h
        subst h
        exact ⟨rfl, rfl, rfl, rfl, Or.inr ⟨rfl, rfl⟩⟩

/-- Only a request whose primary slot answered gets past the first checks. -/
theorem postExecutionsFetch_eq {executionRows : List Fill → List Row × List Refusal} {req : FetchRequest Fill}
    {body : FetchBody} (h : (postExecutionsFetch executionRows req).answer = .success body) :
    postExecutionsFetch executionRows req = fetchAndWrite executionRows req req.primary.fills := by
  unfold postExecutionsFetch at h ⊢
  split at h
  · cases h
  · rename_i hdb
    split at h
    · cases h
    · rename_i hmonitor
      split at h
      · cases h
      · rename_i hgateway
        rw [if_neg hdb, if_neg hmonitor, if_neg hgateway]
        cases hprimary : req.primary with
        | raised text =>
          rw [hprimary] at h
          cases h
        | envelope ok error executions =>
          cases ok with
          | true => rfl
          | false =>
            rw [hprimary] at h
            cases h

theorem postExecutionsFetch_success {executionRows : List Fill → List Row × List Refusal}
    {req : FetchRequest Fill} {body : FetchBody}
    (h : (postExecutionsFetch executionRows req).answer = .success body) :
    SuccessOf executionRows req body (postExecutionsFetch executionRows req).handed := by
  have heq := postExecutionsFetch_eq h
  rw [heq] at h ⊢
  exact fetchAndWrite_success h

/-- **Main.** On a success answer every fill is accounted for, the counts add up and a secondary failure
is reported, exactly when the secondary slot did not raise an exception with no text. -/
theorem postExecutionsFetch_accounted {rowOf : Fill → Row → Prop} {execId : Fill → Option String}
    {executionRows : List Fill → List Row × List Refusal} (hsplit : Splits rowOf execId executionRows)
    (req : FetchRequest Fill) {body : FetchBody}
    (h : (postExecutionsFetch executionRows req).answer = .success body) :
    Accounted rowOf execId req body (postExecutionsFetch executionRows req).handed ↔ ¬ RaisedEmpty req := by
  have hsuccess := postExecutionsFetch_success h
  rw [← reported_secondarySlot]
  constructor
  · intro haccounted
    rw [← hsuccess.secondaryError]
    exact haccounted.reported
  · intro hreported
    refine ⟨?_, ⟨hsuccess.primary, hsuccess.secondary⟩, ?_, ?_⟩
    · rw [hsuccess.total, hsuccess.primary, hsuccess.secondary, List.length_append]
    · rw [hsuccess.secondaryError]
      exact hreported
    · rcases hsuccess.rows with ⟨hnil, hhanded, hskipped⟩ | ⟨hhanded, hskipped⟩
      · refine ⟨[], [], by simp [hnil], ?_, ?_⟩
        · simp [hhanded]
        · simp [hskipped]
      · obtain ⟨written, other, hperm, hrows, hrefused⟩ :=
          hsplit.split (req.primary.fills ++ secondaryFills req)
        refine ⟨written, other, hperm, by rwa [hhanded], ?_⟩
        rw [hskipped]
        exact List.forall₂_map_right_iff.2 hrefused

/-! ## A timeout on the secondary slot -/

/-- The converter that writes every fill. -/
def writeAll (fills : List Nat) : List Nat × List Refusal := (fills, [])

theorem writeAll_splits : Splits (· = ·) (fun _ => none) writeAll where
  split fills := ⟨fills, [], by simp, List.forall₂_refl fills, List.Forall₂.nil⟩

/-- One fill on the primary slot; the secondary slot raises `TimeoutError()`. -/
def timeoutRequest : FetchRequest Nat where
  days := 1
  controlViaDb := true
  monitorEnabled := true
  gateway := true
  primary := .envelope true none [7]
  ib2Host := .ok (some "ib2")
  secondary := .raised ""
  write := some ⟨1, 0, false, [1], [], []⟩

theorem postExecutionsFetch_accounted_timeout : ∃ body,
    (postExecutionsFetch writeAll timeoutRequest).answer = .success body ∧
    (Accounted (· = ·) (fun _ => none) timeoutRequest body (postExecutionsFetch writeAll timeoutRequest).handed ↔
      ¬ RaisedEmpty timeoutRequest) :=
  ⟨_, rfl, postExecutionsFetch_accounted writeAll_splits timeoutRequest rfl⟩

/-- The answer is green and has no `secondary_error`. -/
theorem accounted_fails : ∃ body,
    (postExecutionsFetch writeAll timeoutRequest).answer = .success body ∧ body.secondaryError = none ∧
    ¬ Accounted (· = ·) (fun _ => none) timeoutRequest body
      (postExecutionsFetch writeAll timeoutRequest).handed := by
  refine ⟨_, rfl, rfl, fun h => ?_⟩
  have hfailed : SecondaryFailed timeoutRequest := ⟨by decide, fun _ _ h => by cases h⟩
  obtain ⟨text, htext⟩ := h.reported hfailed
  cases htext

end BifrostApi.Trading
