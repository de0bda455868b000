import BifrostApi.Lib.History
import BifrostApi.Lib.ReadThrough
import BifrostApi.Monitor.StatusCache

/-!
# Status requests in worker threads (`monitor/routers/status.py`)

`get_status` is a synchronous route: requests run side by side in worker threads and share one cached payload. They look
at it and store theirs under a lock, but make all their calls on the reader between the two, one after another. What the
reader answers may change between any two calls, and any of those that stand in no `try` of their own may raise, or
answer something the route cannot work on. The route is an instance of the read-through cache with a single key
(`status_served`).

| here | there |
| --- | --- |
| `route.live` | `get_status` (status.py:227), lines 230-233 |
| `earlyCalls`, `lateCalls` | the calls of :239-241, :278; those of :328-333 |
| `accountsRead` | :314-327 |
| `.store` | the same, lines 627-630 |
| `route.build` with an error | the same, lines 631-633 |
-/

namespace BifrostApi.Monitor.StatusRuns

open History ReadThrough Status

variable {Account : Type}

/-- The calls on the reader that stand in no `try` of their own. -/
inductive Call
  | statusCurrent | runStatus | daemonHeartbeat | watchlist
  | ibConfig | openOrders | activeStructure | activeGate | activeAllocation
  deriving DecidableEq

def earlyCalls : List Call := [.statusCurrent, .runStatus, .daemonHeartbeat, .watchlist]

def lateCalls : List Call := [.ibConfig, .openOrders, .activeStructure, .activeGate, .activeAllocation]

/-- What the reader answers at a moment. -/
structure Reader (Account : Type) where
  hasReader : Bool
  fullRead : ReadOutcome Account
  lightRead : ReadOutcome Account
  bareRead : ReadOutcome Account
  /-- The call returns, and what the route does with the answers before its next call raises nothing. -/
  ok : Call → Bool

/-- A request with `include_accounts` whose accounts are read at `w`, and again, without the keyword, at `again`. -/
def serving (includeAccounts : Option String) (w again : Reader Account) : Request Account :=
  ⟨includeAccounts, 0, 0, w.hasReader, w.fullRead, w.lightRead, again.bareRead, true⟩

/-- `TypeError` from the full read, which the call without the keyword follows. -/
def again (setting : Bool) (includeAccounts : Option String) (w : Reader Account) : Bool :=
  w.hasReader && includeFull setting (serving includeAccounts w w) && match w.fullRead with
    | .typeError => true
    | .answered _ | .raised => false

/-- A payload is its accounts here. -/
inductive Answer (Account : Type)
  | status (accounts : List Account)
  /-- `_status_error_payload()` -/
  | error

/-- The rest of a request's calls. -/
abbrev Calls (Account : Type) := Reads (Reader Account) (Except (Answer Account) (List Account))

/-- One call after another; the first that fails ends the request. -/
def callEach (rest : Calls Account) : List Call → Calls Account
  | [] => rest
  | c :: calls => .read fun w => if w.ok c then callEach rest calls else .done (.error .error)

section Route

variable (setting : Bool)

def accountsRead (includeAccounts : Option String) (rest : List Account → Calls Account) : Calls Account :=
  .read fun w =>
    if again setting includeAccounts w then
      .read fun w' => rest (readAccounts setting (serving includeAccounts w w'))
    else rest (readAccounts setting (serving includeAccounts w w))

/-- The calls of a request, in the order of the source. -/
def statusCalls (includeAccounts : Option String) : Calls Account :=
  callEach (accountsRead setting includeAccounts fun accounts => callEach (.done (.ok accounts)) lateCalls) earlyCalls

def route : Route (Reader Account) (Option String) (Option String) (List Account) (Answer Account) Unit ℚ where
  prepare _ r := .ok r
  key _ := ()
  build := statusCalls setting
  usable _ := true
  respond := .status
  live storedAt now := decide (now - storedAt < statusCacheTtl)

end Route

/-! ## What an answer is -/

/-- The calls were answered, and could be worked on: the facts for `Saw`, the last call first. -/
def okFacts (calls : List Call) : List (Reader Account → Prop) := (calls.map fun c w => w.ok c = true).reverse

/-- One of the request's calls failed, and those before it had been answered. -/
def Failed (past : List (Reader Account)) : Prop :=
  ∃ before c after, earlyCalls ++ lateCalls = before ++ c :: after ∧
    Saw past ((fun w => w.ok c = false) :: okFacts before)

section Leads

variable {setting : Bool} {r : Option String} {rest : Calls Account} {ws : List (Reader Account)}
  {a : Except (Answer Account) (List Account)}

end Leads

section Served

variable {setting : Bool} {A : Option String → Prop} {past : List (Reader Account)} {r q : Option String}

end Served

/-- A reader of two accounts on the full read. -/
def steadyReader : Reader Nat := ⟨true, .answered [7, 8], .answered [7], .answered [7, 8], fun _ => true⟩

/-- An older core, without the keyword. -/
def olderReader : Reader Nat := { steadyReader with fullRead := .typeError, lightRead := .typeError }

/-- The reader without the open orders. -/
def brokenReader : Reader Nat := { steadyReader with ok := fun c => decide (c ≠ .openOrders) }

/-- The first request reads its accounts from the older core and again after the change, the second fails behind it;
the third finds the first's payload, the fourth no longer. -/
def fourReaders : List (ReadThrough.Event (Reader Nat) (Option String) Unit ℚ) :=
  [.start 0 (some "1"), .start 1 none, .lookup 0 0 true, .lookup 1 0 true] ++ List.replicate 5 (.build 0) ++
    [.change steadyReader] ++ List.replicate 6 (.build 0) ++ List.replicate 5 (.build 1) ++ [.change brokenReader] ++
    List.replicate 5 (.build 1) ++ [.store 0 1 true, .start 2 (some "1"), .lookup 2 15 true, .change steadyReader,
    .start 3 none, .lookup 3 16 true] ++ List.replicate 10 (.build 3) ++ [.store 3 17 true]

/-- The accounts answered, oldest first. -/
def shown (s : State (Reader Nat) (Option String) (Option String) (List Nat) (Answer Nat) Unit ℚ) :
    List (Option (List Nat)) :=
  s.served.reverse.map fun x => match x.response with
    | .status accounts => some accounts
    | .error => none

example : shown (Run.run (step (route false)) (ReadThrough.initial olderReader) fourReaders) =
    [none, some [7, 8], some [7, 8], some [7]] := by decide +kernel

end BifrostApi.Monitor.StatusRuns
