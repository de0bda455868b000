import Mathlib.Data.List.Forall2
import Mathlib.Logic.Function.Basic
import BifrostApi.Lib.Run
import BifrostApi.Ops.MarketIngestDisplay

/-!
# Polls of the services table side by side (`ops/routers/market_ingest.py`)

`GET /ops/market-ingest/services` serves its rows one after another, each with several calls on Redis, every one of
them in a worker thread. Other polls, the services' heartbeats, operators and expiry change the hashes between the
calls. Each row still gets the fields the route computes from what the row's own calls got (`polls_refine`); a poll
takes nothing out of a hash but the lease (`polls_frame`); and a control write survives every poll that reads its time
after it, unless that read fails or the time is out of the grace (`controlWrite_kept`).

| here | there |
| --- | --- |
| `Vars` | the variables of the loop body (market_ingest.py:95-189) |
| `assign`, `next` | one call of it, and the call after that |
| `Pc` | `.executor` :101, `.env` :122, `.host` :123, `.updatedAt` :124, `.health` :128, `.verdict` :131 |
| the same | `.clear` :145, `.live` :153, `.writer` :156, `.stack` :159, `.gateway` :173, `.heartbeat` :187 |
| `hdel` with `controlFields` | `clear_control_env` (market_ingest_control_env.py:111) |
| `serveRow` | the loop body as one function of its answers |

The display state of a row and the replica counts of its item (:191-238) are derived afterwards and left out. The IB
Redis is a server of its own: what it holds comes with the call that reads it.
-/

namespace BifrostApi.Ops.LeasePolls

open Py

/-- The hashes by their keys; a hash without fields is a key that does not exist. -/
abbrev Store := String → Hash

/-- `BIFROST_OPS_CONTROL_ENV_FIELD` -/
def envField : String := "bifrost_ops_control_env"

/-- `BIFROST_OPS_CONTROL_HOST_FIELD` -/
def hostField : String := "bifrost_ops_control_host"

/-- `BIFROST_OPS_CONTROL_UPDATED_AT_FIELD` -/
def updatedAtField : String := "bifrost_ops_control_updated_at"

def controlFields : List String := [envField, hostField, updatedAtField]

namespace Store

def hget (s : Store) (key field : String) : Option String := (s key).lookup field

def hset (s : Store) (key : String) (fields : Hash) : Store := Function.update s key (Dict.update (s key) fields)

def hdel (s : Store) (key : String) (fields : List String) : Store :=
  Function.update s key ((s key).filter fun kv => kv.1 ∉ fields)

/-- `DEL`, and expiry. -/
def del (s : Store) (key : String) : Store := Function.update s key []

end Store

/-! ## One row, call by call -/

/-- What the route takes from the configuration and from core. -/
structure Route where
  truthy : Hash → String → Bool
  engineField : String
  isPlatformGateway : Option Hash → Bool
  rurl : Option String
  ibRurl : Option String
  exc : KubernetesExecutor
  /-- `ops.control_profile` -/
  controlProfile : Option String

/-- The next call of a row. -/
inductive Pc
  | executor | env | host | updatedAt | health | verdict | clear
  | live | writer | stack
  | gateway | heartbeat
  deriving DecidableEq

/-- What becomes of a call on Redis: it answers, or raises before or after the command ran. -/
inductive Reply
  | answered | lost | unanswered
  deriving DecidableEq

/-- What a call meets: the API, the reply, `time.time()`, and the row's hash on the IB Redis, where that answers. -/
structure Answer where
  api : WorkloadApi
  reply : Reply
  now : ℚ
  ib : Option Hash

def Answer.read {β : Type} (a : Answer) (value : β) : Option β := if a.reply = .answered then some value else none

structure Vars where
  active : String
  controlEnv : Option String
  controlHost : Option String
  controlUpdatedAt : Option Number
  isLive : Bool
  recentControlWrite : Bool
  looksLive : Bool
  writerRecent : Bool
  stack : Option String
  runtimeExternallyManaged : Bool
  platformGatewayManaged : Bool

/-- Before the first call of a row. -/
def unset : Vars := ⟨"", none, none, none, false, false, false, false, none, false, false⟩

/-- `Path(…).name` -/
def pathName (s : String) : String := ((split '/' s).filter fun part => part ≠ "" ∧ part ≠ ".").getLast?.getD ""

/-- `stack_profile_from_config_file` (market_ingest_control_env.py:32). -/
def stackProfileFromConfigFile (configFile : Option String) : Option String :=
  let s := strip (configFile.getD "")
  let name := lower (pathName s)
  if s = "" then none
  else if name = "config.stg.yaml" then some "stg"
  else if name = "config.dev.yaml" then some "dev"
  else if name = "config.prod.yaml" then some "prod"
  else none

/-- `read_health_stack_profile` (market_ingest_health_clear.py:60). -/
def readHealthStackProfile (health : Option Hash) (metaKey : String) : Option String :=
  stackProfileFromConfigFile ((readHealthHash health metaKey).lookup "config_file")

/-- A hash that is kept by another stack: the lease is that stack's. -/
def Vars.adopt (v : Vars) (now : ℚ) : Vars :=
  if (v.looksLive ∨ v.stack = some "stg" ∧ v.writerRecent) ∧ v.stack ≠ none then
    { v with runtimeExternallyManaged := true, controlEnv := v.stack,
             controlHost := v.controlHost.or (some "k8s"),
             controlUpdatedAt := v.controlUpdatedAt.or (some (.fin now)) }
  else v

def Vars.nameGateway (v : Vars) (managed : Bool) : Vars :=
  if managed then
    { v with platformGatewayManaged := true, runtimeExternallyManaged := true,
             controlHost := v.controlHost.or (some "platform-ib-gateway") }
  else { v with platformGatewayManaged := false }

/-- Nothing that was read speaks for a running process. -/
def Vars.orphaned (v : Vars) : Bool := !v.isLive && !v.recentControlWrite && !processCountsAsRunning v.active

section Row

variable (route : Route) (row : IngestRow)

/-- `if rurl`, `if lk` -/
def Asked : Prop := ¬ (route.rurl.getD "" = "" ∨ strip row.redisMetaKey = "")

instance : Decidable (Asked route row) := inferInstanceAs (Decidable (¬ _))

/-- `ib_rurl or rurl`, and a key to read there. -/
def GatewayAsked : Prop :=
  row.k8sDeployment = ibGatewayDeployment ∧
    (route.ibRurl.getD "" ≠ "" ∨ route.rurl.getD "" ≠ "") ∧ strip row.redisMetaKey ≠ ""

instance : Decidable (GatewayAsked route row) := inferInstanceAs (Decidable (_ ∧ _))

/-- What a call leaves in the variables. -/
def assign (store : Store) (a : Answer) (v : Vars) : Pc → Vars
  | .executor => { v with active := processActive route.exc row a.api }
  | .env => { v with controlEnv := readControlEnv (a.read (store.hget (strip row.redisMetaKey) envField)) }
  | .host => { v with controlHost := readControlHost (a.read (store.hget (strip row.redisMetaKey) hostField)) }
  | .updatedAt =>
    { v with controlUpdatedAt := readControlUpdatedAt (a.read (store.hget (strip row.redisMetaKey) updatedAtField)) }
  | .health =>
    { v with isLive := ingestRedisHealthLooksLive route.truthy route.engineField
              (a.read (store (strip row.redisMetaKey))) a.now (strip row.redisMetaKey) (strip row.id) }
  | .verdict => { v with recentControlWrite := recentControlWrite v.controlUpdatedAt a.now }
  -- an exception of the call is swallowed
  | .clear => { v with controlEnv := none, controlHost := none, controlUpdatedAt := none }
  | .live =>
    { v with looksLive := ingestRedisHealthLooksLive route.truthy route.engineField
              (a.read (store (strip row.redisMetaKey))) a.now (strip row.redisMetaKey) (strip row.id) }
  | .writer =>
    { v with writerRecent := ingestRedisHealthWriterRecent (a.read (store (strip row.redisMetaKey))) a.now
              (strip row.redisMetaKey) }
  | .stack =>
    let stack := (readHealthStackProfile (a.read (store (strip row.redisMetaKey))) (strip row.redisMetaKey)).or
      (normalizeControlProfile route.controlProfile)
    { v with stack := stack }.adopt a.now
  | .gateway =>
    v.nameGateway (platformGatewayManagedForService route.isPlatformGateway route.ibRurl route.rurl
      (strip row.redisMetaKey) (strip row.id) a.ib)
  | .heartbeat => { v with controlUpdatedAt := readHealthUpdatedAt a.ib (strip row.redisMetaKey) }

/-- After the lease is decided. -/
def afterLease (v : Vars) : Pc := if ¬ processCountsAsRunning v.active then .live else .gateway

/-- The call after a call; `none` where the row is served. -/
def next (v : Vars) : Pc → Option Pc
  | .executor => some (if Asked route row then .env else .gateway)
  | .env => some .host
  | .host => some .updatedAt
  | .updatedAt => some (if v.controlEnv ≠ none ∧ strip row.id ≠ "trading_engine" then .health else afterLease v)
  | .health => some .verdict
  | .verdict => some (if v.orphaned then .clear else afterLease v)
  | .clear => some (afterLease v)
  | .live => some .writer
  | .writer => some .stack
  | .stack => some .gateway
  | .gateway => if GatewayAsked route row ∧ v.controlUpdatedAt = none then some .heartbeat else none
  | .heartbeat => none

end Row

/-! ## Polls -/

structure RowServed where
  row : IngestRow
  vars : Vars

/-- A request: its rows, those not served yet, and how far the first of these is. -/
structure Poll where
  rows : List IngestRow
  todo : List IngestRow
  pc : Pc
  vars : Vars
  out : List RowServed

inductive Event
  /-- A service, an operator or Redis itself changes a hash. -/
  | hset (key : String) (fields : Hash)
  | hdel (key : String) (fields : List String)
  | del (key : String)
  /-- A new request, and the next call of one. -/
  | request (p : Nat) (rows : List IngestRow)
  | call (p : Nat) (a : Answer)

structure State where
  store : Store
  polls : Nat → Option Poll

def initial (store : Store) : State := ⟨store, fun _ => none⟩

section Step

variable (route : Route)

/-- A poll once a call is through. -/
def Poll.advance (poll : Poll) (row : IngestRow) (rest : List IngestRow) (v : Vars) : Poll :=
  match next route row v poll.pc with
  | some pc => { poll with pc := pc, vars := v }
  | none => { poll with todo := rest, pc := .executor, vars := unset, out := poll.out ++ [⟨row, v⟩] }

/-- The store after a call: the lease of the row's key is gone, unless the command was lost. -/
def storeAfter (store : Store) (row : IngestRow) (a : Answer) (pc : Pc) : Store :=
  if pc = .clear ∧ a.reply ≠ .lost then store.hdel (strip row.redisMetaKey) controlFields else store

/-- The next call of a poll. -/
def callNext (store : Store) (poll : Poll) (a : Answer) : Store × Poll :=
  match poll.todo with
  | [] => (store, poll)
  | row :: rest =>
    (storeAfter store row a poll.pc, poll.advance route row rest (assign route row store a poll.vars poll.pc))

/-- What the outside does to the hashes. -/
def outside (store : Store) : Event → Store
  | .hset key fields => store.hset key fields
  | .hdel key fields => store.hdel key fields
  | .del key => store.del key
  | .request _ _ | .call _ _ => store

def step (s : State) : Event → State
  | .request p rows =>
    { s with polls := if s.polls p = none then Function.update s.polls p (some ⟨rows, rows, .executor, unset, []⟩)
               else s.polls }
  | .call p a => match s.polls p with
    | none => s
    | some poll =>
      let (store, poll) := callNext route s.store poll a
      ⟨store, Function.update s.polls p (some poll)⟩
  | e => { s with store := outside s.store e }

end Step

/-! ## The route as one function of the answers -/

/-- What the calls of a row are answered. -/
structure Answers extends RowAnswers where
  live : Option Hash
  liveNow : ℚ
  writer : Option Hash
  writerNow : ℚ
  stack : Option Hash
  stackNow : ℚ
  gateway : Option Hash
  heartbeat : Option Hash

structure RowFields where
  processActive : String
  redisControlEnv : Option String
  redisControlHost : Option String
  redisControlUpdatedAt : Option Number
  runtimeExternallyManaged : Bool
  platformGatewayManaged : Bool
  deriving DecidableEq

section Lease

variable (route : Route) (row : IngestRow) (ans : RowAnswers)

def lease : LeaseResult := serveLease route.truthy route.engineField route.rurl route.exc row ans

/-- The row's lease is one the orphan check looks at. -/
def Leased : Prop := readControlEnv ans.controlEnv ≠ none ∧ strip row.id ≠ "trading_engine"

/-- The verdict on an orphaned lease. -/
def Dead : Prop :=
  ¬ ingestRedisHealthLooksLive route.truthy route.engineField ans.health ans.healthNow (strip row.redisMetaKey)
      (strip row.id) ∧
    ¬ recentControlWrite (readControlUpdatedAt ans.controlUpdatedAt) ans.leaseNow ∧
    ¬ processCountsAsRunning (processActive route.exc row ans.api)

instance : Decidable (Leased row ans) := inferInstanceAs (Decidable (_ ∧ _))

instance : Decidable (Dead route row ans) := inferInstanceAs (Decidable (_ ∧ _))

/-- The calls up to the lease's decision. -/
def leasePath : List Pc :=
  .executor :: if Asked route row then
    [.env, .host, .updatedAt] ++
      if Leased row ans then [.health, .verdict] ++ if Dead route row ans then [.clear] else [] else []
  else []

end Lease

section Sequential

variable (route : Route) (row : IngestRow) (ans : Answers)

/-- The stack that keeps the hash of a row whose process does not run here. -/
def adoptedBy : Option String :=
  if Asked route row ∧ ¬ processCountsAsRunning (processActive route.exc row ans.api) then
    let stack := (readHealthStackProfile ans.stack (strip row.redisMetaKey)).or
      (normalizeControlProfile route.controlProfile)
    if ingestRedisHealthLooksLive route.truthy route.engineField ans.live ans.liveNow (strip row.redisMetaKey)
        (strip row.id) ∨
        stack = some "stg" ∧ ingestRedisHealthWriterRecent ans.writer ans.writerNow (strip row.redisMetaKey) then stack
    else none
  else none

def gatewayManaged : Bool :=
  platformGatewayManagedForService route.isPlatformGateway route.ibRurl route.rurl (strip row.redisMetaKey)
    (strip row.id) ans.gateway

/-- The time of the lease, where another stack keeps the hash that of the poll. -/
def leaseTime : Option Number :=
  (lease route row ans.toRowAnswers).controlUpdatedAt.or ((adoptedBy route row ans).map fun _ => .fin ans.stackNow)

/-- The fields of the row's item. -/
def serveRow : RowFields where
  processActive := processActive route.exc row ans.api
  redisControlEnv := (adoptedBy route row ans).or (lease route row ans.toRowAnswers).controlEnv
  redisControlHost :=
    ((lease route row ans.toRowAnswers).controlHost.or ((adoptedBy route row ans).map fun _ => "k8s")).or
      (if gatewayManaged route row ans then some "platform-ib-gateway" else none)
  redisControlUpdatedAt := (leaseTime route row ans).or
    (if GatewayAsked route row then readHealthUpdatedAt ans.heartbeat (strip row.redisMetaKey) else none)
  runtimeExternallyManaged := (adoptedBy route row ans).isSome || gatewayManaged route row ans
  platformGatewayManaged := gatewayManaged route row ans

/-- Then those on the hash of a process that does not run. -/
def latePath : List Pc :=
  leasePath route row ans.toRowAnswers ++
    if Asked route row ∧ ¬ processCountsAsRunning (processActive route.exc row ans.api) then [.live, .writer, .stack]
    else []

/-- All calls of a row. -/
def rowPath : List Pc :=
  latePath route row ans ++ .gateway ::
    if GatewayAsked route row ∧ leaseTime route row ans = none then [.heartbeat] else []

end Sequential

/-! ## The calls of a run -/

/-- A call of a run: where the poll was, the hashes at that moment, and what it met. -/
structure Made where
  pc : Pc
  store : Store
  answer : Answer

/-- The call the event is of the poll. -/
def made (p : Nat) (s : State) : Event → List Made
  | .call q a => match s.polls q with
    | some poll => if q = p ∧ poll.todo ≠ [] then [⟨poll.pc, s.store, a⟩] else []
    | none => []
  | _ => []

/-- The calls of a poll in a run. -/
def calls (route : Route) (p : Nat) : State → List Event → List Made
  | _, [] => []
  | s, e :: es => made p s e ++ calls route p (step route s e) es

/-- What a call got, put where it belongs. -/
def Answers.add (key : String) (ans : Answers) (m : Made) : Answers :=
  match m.pc with
  | .executor => { ans with api := m.answer.api }
  | .env => { ans with controlEnv := m.answer.read (m.store.hget key envField) }
  | .host => { ans with controlHost := m.answer.read (m.store.hget key hostField) }
  | .updatedAt => { ans with controlUpdatedAt := m.answer.read (m.store.hget key updatedAtField) }
  | .health => { ans with health := m.answer.read (m.store key), healthNow := m.answer.now }
  | .verdict => { ans with leaseNow := m.answer.now }
  | .clear => ans
  | .live => { ans with live := m.answer.read (m.store key), liveNow := m.answer.now }
  | .writer => { ans with writer := m.answer.read (m.store key), writerNow := m.answer.now }
  | .stack => { ans with stack := m.answer.read (m.store key), stackNow := m.answer.now }
  | .gateway => { ans with gateway := m.answer.ib }
  | .heartbeat => { ans with heartbeat := m.answer.ib }

/-- Before any call. -/
def unanswered : Answers where
  api := ⟨.failed, .failed⟩
  controlEnv := none
  controlHost := none
  controlUpdatedAt := none
  health := none
  healthNow := 0
  leaseNow := 0
  live := none
  liveNow := 0
  writer := none
  writerNow := 0
  stack := none
  stackNow := 0
  gateway := none
  heartbeat := none

/-- What the calls of a row got. -/
def answersOf (row : IngestRow) (ms : List Made) : Answers := ms.foldl (Answers.add (strip row.redisMetaKey)) unanswered

def Vars.fields (v : Vars) : RowFields :=
  ⟨v.active, v.controlEnv, v.controlHost, v.controlUpdatedAt, v.runtimeExternallyManaged, v.platformGatewayManaged⟩

/-- A row as the route serves it from what these calls got: all its calls, in order, and no other. -/
structure ServedBy (route : Route) (x : RowServed) (ms : List Made) : Prop where
  calls : ms.map (·.pc) = rowPath route x.row (answersOf x.row ms)
  fields : x.vars.fields = serveRow route x.row (answersOf x.row ms)

/-! ## What a row knows before a call -/

section Lease

variable (route : Route) (row : IngestRow) (ans : RowAnswers)

/-- The variables once the lease is decided. -/
structure Decided (v : Vars) : Prop where
  active : v.active = processActive route.exc row ans.api
  env : v.controlEnv = (lease route row ans).controlEnv
  host : v.controlHost = (lease route row ans).controlHost
  updatedAt : v.controlUpdatedAt = (lease route row ans).controlUpdatedAt
  managed : v.runtimeExternallyManaged = false

/-- The variables with the lease as it was read. -/
def leaseVars : Vars :=
  { unset with
    active := processActive route.exc row ans.api
    controlEnv := readControlEnv ans.controlEnv
    controlHost := readControlHost ans.controlHost
    controlUpdatedAt := readControlUpdatedAt ans.controlUpdatedAt }

def healthLooksLive : Bool :=
  ingestRedisHealthLooksLive route.truthy route.engineField ans.health ans.healthNow (strip row.redisMetaKey)
    (strip row.id)

end Lease

section Known

variable (route : Route) (row : IngestRow) (ans : Answers)

/-- The variables once it is settled whether another stack keeps the hash. -/
structure Adopted (v : Vars) : Prop where
  active : v.active = processActive route.exc row ans.api
  env : v.controlEnv = (adoptedBy route row ans).or (lease route row ans.toRowAnswers).controlEnv
  host : v.controlHost =
    (lease route row ans.toRowAnswers).controlHost.or ((adoptedBy route row ans).map fun _ => "k8s")
  updatedAt : v.controlUpdatedAt = leaseTime route row ans
  managed : v.runtimeExternallyManaged = (adoptedBy route row ans).isSome

/-- What is known before a call: the variables, and the calls made. -/
inductive Before : Pc → Vars → List Pc → Prop
  | executor : Before .executor unset []
  | env (hasked : Asked route row) :
      Before .env { unset with active := processActive route.exc row ans.api } [.executor]
  | host (hasked : Asked route row) :
      Before .host { unset with active := processActive route.exc row ans.api,
                                controlEnv := readControlEnv ans.controlEnv } [.executor, .env]
  | updatedAt (hasked : Asked route row) :
      Before .updatedAt { unset with active := processActive route.exc row ans.api,
                                     controlEnv := readControlEnv ans.controlEnv,
                                     controlHost := readControlHost ans.controlHost } [.executor, .env, .host]
  | health (hasked : Asked route row) (hleased : Leased row ans.toRowAnswers) :
      Before .health (leaseVars route row ans.toRowAnswers) [.executor, .env, .host, .updatedAt]
  | verdict (hasked : Asked route row) (hleased : Leased row ans.toRowAnswers) :
      Before .verdict { leaseVars route row ans.toRowAnswers with isLive := healthLooksLive route row ans.toRowAnswers }
        [.executor, .env, .host, .updatedAt, .health]
  | clear {v : Vars} (hasked : Asked route row) (hleased : Leased row ans.toRowAnswers)
      (hdead : Dead route row ans.toRowAnswers)
      (hactive : v.active = processActive route.exc row ans.api) (hmanaged : v.runtimeExternallyManaged = false) :
      Before .clear v [.executor, .env, .host, .updatedAt, .health, .verdict]
  | live {v : Vars} (hasked : Asked route row)
      (hidle : ¬ processCountsAsRunning (processActive route.exc row ans.api))
      (hdecided : Decided route row ans.toRowAnswers v) :
      Before .live v (leasePath route row ans.toRowAnswers)
  | writer {v : Vars} (hasked : Asked route row)
      (hidle : ¬ processCountsAsRunning (processActive route.exc row ans.api))
      (hdecided : Decided route row ans.toRowAnswers v)
      (hlive : v.looksLive = ingestRedisHealthLooksLive route.truthy route.engineField ans.live ans.liveNow
        (strip row.redisMetaKey) (strip row.id)) :
      Before .writer v (leasePath route row ans.toRowAnswers ++ [.live])
  | stack {v : Vars} (hasked : Asked route row)
      (hidle : ¬ processCountsAsRunning (processActive route.exc row ans.api))
      (hdecided : Decided route row ans.toRowAnswers v)
      (hlive : v.looksLive = ingestRedisHealthLooksLive route.truthy route.engineField ans.live ans.liveNow
        (strip row.redisMetaKey) (strip row.id))
      (hwriter : v.writerRecent = ingestRedisHealthWriterRecent ans.writer ans.writerNow (strip row.redisMetaKey)) :
      Before .stack v (leasePath route row ans.toRowAnswers ++ [.live, .writer])
  | gateway {v : Vars} (hadopted : Adopted route row ans v) : Before .gateway v (latePath route row ans)
  | heartbeat {v : Vars} (hasked : GatewayAsked route row) (htime : leaseTime route row ans = none)
      (hfields : v.fields = { serveRow route row ans with redisControlUpdatedAt := none }) :
      Before .heartbeat v (latePath route row ans ++ [.gateway])

/-- What is known after a call: the row goes on to the next one, or is served. -/
def Reached (v : Vars) (path : List Pc) : Option Pc → Prop
  | some pc => Before route row ans pc v path
  | none => path = rowPath route row ans ∧ v.fields = serveRow route row ans

end Known

section Decide

variable {route : Route} {row : IngestRow} {ans : RowAnswers}

theorem lease_unasked (h : ¬ Asked route row) : lease route row ans = ⟨none, none, none, []⟩ := by
  unfold lease serveLease
  exact if_pos (not_not.1 h)

/-- The lease as it was read. -/
def leaseOf (ans : RowAnswers) : LeaseResult :=
  ⟨readControlEnv ans.controlEnv, readControlHost ans.controlHost, readControlUpdatedAt ans.controlUpdatedAt, []⟩

theorem lease_unleased (hasked : Asked route row) (h : ¬ Leased row ans) : lease route row ans = leaseOf ans := by
  unfold lease serveLease
  exact (if_neg hasked).trans (if_neg h)

theorem lease_alive (hasked : Asked route row) (hleased : Leased row ans) (h : ¬ Dead route row ans) :
    lease route row ans = leaseOf ans := by
  unfold lease serveLease
  exact (if_neg hasked).trans ((if_pos hleased).trans (if_neg h))

theorem lease_dead (hasked : Asked route row) (hleased : Leased row ans) (h : Dead route row ans) :
    lease route row ans = ⟨none, none, none, [strip row.redisMetaKey]⟩ := by
  unfold lease serveLease
  exact (if_neg hasked).trans ((if_pos hleased).trans (if_pos h))

/-- A lease that is kept is decided as it was read. -/
theorem decided_leaseVars (h : lease route row ans = leaseOf ans) (isLive recent : Bool) :
    Decided route row ans { leaseVars route row ans with isLive := isLive, recentControlWrite := recent } := by
  constructor
  · rfl
  · rw [h]
    rfl
  · rw [h]
    rfl
  · rw [h]
    rfl
  · rfl

end Decide

section Adopt

variable {route : Route} {row : IngestRow} {ans : Answers} {v : Vars}

theorem adoptedBy_of_running (h : processCountsAsRunning (processActive route.exc row ans.api) = true) :
    adoptedBy route row ans = none := by
  unfold adoptedBy
  exact if_neg fun hidle => hidle.2 h

theorem adoptedBy_unasked (h : ¬ Asked route row) : adoptedBy route row ans = none := by
  unfold adoptedBy
  exact if_neg fun hasked => h hasked.1

/-- No other stack keeps the hash: the lease stays as decided. -/
theorem Decided.adopted (h : Decided route row ans.toRowAnswers v) (hnone : adoptedBy route row ans = none) :
    Adopted route row ans v := by
  constructor
  · exact h.active
  · rw [hnone, Option.none_or, h.env]
  · rw [hnone, Option.map_none, Option.or_none, h.host]
  · rw [leaseTime, hnone, Option.map_none, Option.or_none, h.updatedAt]
  · rw [hnone, h.managed]
    rfl

/-- A decided lease leads to the hash of a process that does not run, or past it. -/
theorem Decided.reached (hasked : Asked route row) (h : Decided route row ans.toRowAnswers v) :
    Reached route row ans v (leasePath route row ans.toRowAnswers) (some (afterLease v)) := by
  unfold afterLease
  rw [h.active]
  by_cases hrunning : processCountsAsRunning (processActive route.exc row ans.api) = true
  · rw [if_neg (not_not_intro hrunning)]
    have hpath : latePath route row ans = leasePath route row ans.toRowAnswers := by
      unfold latePath
      rw [if_neg fun hidle => hidle.2 hrunning, List.append_nil]
    have hbefore := Before.gateway (h.adopted (adoptedBy_of_running hrunning))
    rw [hpath] at hbefore
    exact hbefore
  · rw [if_pos hrunning]
    exact .live hasked hrunning h

/-- The stack's own profile, or the one of this configuration. -/
theorem adopted_stack {store : Store} {a : Answer} (hasked : Asked route row)
    (hidle : ¬ processCountsAsRunning (processActive route.exc row ans.api)) (h : Decided route row ans.toRowAnswers v)
    (hlive : v.looksLive = ingestRedisHealthLooksLive route.truthy route.engineField ans.live ans.liveNow
      (strip row.redisMetaKey) (strip row.id))
    (hwriter : v.writerRecent = ingestRedisHealthWriterRecent ans.writer ans.writerNow (strip row.redisMetaKey)) :
    Adopted route row (ans.add (strip row.redisMetaKey) ⟨.stack, store, a⟩) (assign route row store a v .stack) := by
  have hadopted : adoptedBy route row (ans.add (strip row.redisMetaKey) ⟨.stack, store, a⟩) =
      if v.looksLive = true ∨ (readHealthStackProfile (a.read (store (strip row.redisMetaKey)))
          (strip row.redisMetaKey)).or (normalizeControlProfile route.controlProfile) = some "stg" ∧
            v.writerRecent = true then
        (readHealthStackProfile (a.read (store (strip row.redisMetaKey))) (strip row.redisMetaKey)).or
          (normalizeControlProfile route.controlProfile)
      else none := by
    rw [hlive, hwriter]
    exact if_pos ⟨hasked, hidle⟩
  have hlease : lease route row (ans.add (strip row.redisMetaKey) ⟨.stack, store, a⟩).toRowAnswers =
      lease route row ans.toRowAnswers := rfl
  have hnow : (ans.add (strip row.redisMetaKey) ⟨.stack, store, a⟩).stackNow = a.now := rfl
  unfold assign
  dsimp only
  generalize (readHealthStackProfile (a.read (store (strip row.redisMetaKey))) (strip row.redisMetaKey)).or
    (normalizeControlProfile route.controlProfile) = stack at hadopted
  unfold Vars.adopt
  split
  next hkept =>
    obtain ⟨hok, hsome⟩ := hkept
    rw [if_pos hok] at hadopted
    obtain ⟨profile, rfl⟩ := Option.ne_none_iff_exists'.1 hsome
    refine ⟨h.active, ?_, ?_, ?_, ?_⟩
    · rw [hadopted]
      rfl
    · rw [hadopted, hlease, ← h.host]
      rfl
    · rw [leaseTime, hadopted, hlease, hnow, ← h.updatedAt]
      rfl
    · rw [hadopted]
      rfl
  next hleft =>
    have hnone : adoptedBy route row (ans.add (strip row.redisMetaKey) ⟨.stack, store, a⟩) = none := by
      rw [hadopted]
      split
      next hok => exact not_not.1 fun hsome => hleft ⟨hok, hsome⟩
      · rfl
    exact Decided.adopted ⟨h.active, h.env, h.host, h.updatedAt, h.managed⟩ hnone

/-- The fields but the time, once the gateway is asked about. -/
theorem fields_gateway {store : Store} {a : Answer} (h : Adopted route row ans v) :
    (assign route row store a v .gateway).fields =
      { serveRow route row (ans.add (strip row.redisMetaKey) ⟨.gateway, store, a⟩) with
        redisControlUpdatedAt := leaseTime route row ans } := by
  have hmanaged : gatewayManaged route row (ans.add (strip row.redisMetaKey) ⟨.gateway, store, a⟩) =
      platformGatewayManagedForService route.isPlatformGateway route.ibRurl route.rurl (strip row.redisMetaKey)
        (strip row.id) a.ib := rfl
  have hlease : lease route row (ans.add (strip row.redisMetaKey) ⟨.gateway, store, a⟩).toRowAnswers =
      lease route row ans.toRowAnswers := rfl
  have hadopted : adoptedBy route row (ans.add (strip row.redisMetaKey) ⟨.gateway, store, a⟩) =
      adoptedBy route row ans := rfl
  unfold assign Vars.nameGateway serveRow
  dsimp only
  rw [hmanaged, hlease, hadopted, ← h.env, ← h.host, ← h.updatedAt, ← h.managed]
  cases platformGatewayManagedForService route.isPlatformGateway route.ibRurl route.rurl (strip row.redisMetaKey)
      (strip row.id) a.ib with
  | true =>
    rw [if_pos rfl, if_pos rfl, Bool.or_true, Vars.fields]
    simp only [h.active]
    rfl
  | false =>
    rw [if_neg Bool.false_ne_true, if_neg Bool.false_ne_true, Bool.or_false, Option.or_none, Vars.fields]
    simp only [h.active]
    rfl

end Adopt

section Paths

variable {route : Route} {row : IngestRow} {ans : RowAnswers}

theorem leasePath_unasked (h : ¬ Asked route row) : leasePath route row ans = [.executor] := by
  rw [leasePath, if_neg h]

theorem leasePath_unleased (hasked : Asked route row) (h : ¬ Leased row ans) :
    leasePath route row ans = [.executor, .env, .host, .updatedAt] := by
  rw [leasePath, if_pos hasked, if_neg h, List.append_nil]

theorem leasePath_alive (hasked : Asked route row) (hleased : Leased row ans) (h : ¬ Dead route row ans) :
    leasePath route row ans = [.executor, .env, .host, .updatedAt, .health, .verdict] := by
  rw [leasePath, if_pos hasked, if_pos hleased, if_neg h]
  rfl

theorem leasePath_dead (hasked : Asked route row) (hleased : Leased row ans) (h : Dead route row ans) :
    leasePath route row ans = [.executor, .env, .host, .updatedAt, .health, .verdict, .clear] := by
  rw [leasePath, if_pos hasked, if_pos hleased, if_pos h]
  rfl

end Paths

section Call

variable {route : Route} {row : IngestRow} {ans : Answers} {v : Vars} {pc : Pc} {path : List Pc}

theorem latePath_idle (hasked : Asked route row)
    (hidle : ¬ processCountsAsRunning (processActive route.exc row ans.api)) :
    latePath route row ans = leasePath route row ans.toRowAnswers ++ [.live, .writer, .stack] := by
  rw [latePath, if_pos ⟨hasked, hidle⟩]

/-- The verdicts on the hash leave the decided lease. -/
theorem Decided.later {ans : RowAnswers} (h : Decided route row ans v) (looksLive writerRecent : Bool) :
    Decided route row ans { v with looksLive := looksLive, writerRecent := writerRecent } :=
  ⟨h.active, h.env, h.host, h.updatedAt, h.managed⟩

/-- A lease decided by the last call made. -/
theorem reached_decided {path' : List Pc} (hasked : Asked route row) (h : Decided route row ans.toRowAnswers v)
    (hpath : leasePath route row ans.toRowAnswers = path') : Reached route row ans v path' (some (afterLease v)) := by
  rw [← hpath]
  exact h.reached hasked

theorem nameGateway_updatedAt (v : Vars) (managed : Bool) :
    (v.nameGateway managed).controlUpdatedAt = v.controlUpdatedAt := by
  cases managed <;> rfl

/-- The last call of a row that reads no heartbeat. -/
theorem reached_gateway {store : Store} {a : Answer} (h : Adopted route row ans v) :
    Reached route row (ans.add (strip row.redisMetaKey) ⟨.gateway, store, a⟩) (assign route row store a v .gateway)
      (latePath route row ans ++ [.gateway]) (next route row (assign route row store a v .gateway) .gateway) := by
  have hfields := @fields_gateway route row ans v store a h
  have htime : (assign route row store a v .gateway).controlUpdatedAt = leaseTime route row ans := by
    rw [← h.updatedAt]
    exact nameGateway_updatedAt v _
  have hlater : leaseTime route row (ans.add (strip row.redisMetaKey) ⟨.gateway, store, a⟩) =
      leaseTime route row ans := rfl
  have hlate : latePath route row (ans.add (strip row.redisMetaKey) ⟨.gateway, store, a⟩) =
      latePath route row ans := rfl
  rw [next, htime]
  split
  next hread =>
    refine Before.heartbeat hread.1 hread.2 ?_
    rw [hfields, hread.2]
  next hread =>
    refine ⟨?_, ?_⟩
    · rw [rowPath, hlater, hlate, if_neg hread]
    · rw [hfields]
      have hkept : (serveRow route row (ans.add (strip row.redisMetaKey) ⟨.gateway, store, a⟩)).redisControlUpdatedAt =
          leaseTime route row ans := by
        cases hsome : leaseTime route row ans with
        | some ts =>
          unfold serveRow
          rw [hlater, hsome]
          rfl
        | none =>
          unfold serveRow
          rw [hlater, hsome, if_neg fun hasked => hread ⟨hasked, hsome⟩]
          rfl
      generalize serveRow route row (ans.add (strip row.redisMetaKey) ⟨.gateway, store, a⟩) = fields at hkept
      rw [← hkept]

/-- The heartbeat of the gateway, where no lease gave a time. -/
theorem reached_heartbeat {store : Store} {a : Answer} (hasked : GatewayAsked route row)
    (htime : leaseTime route row ans = none)
    (hfields : v.fields = { serveRow route row ans with redisControlUpdatedAt := none }) :
    Reached route row (ans.add (strip row.redisMetaKey) ⟨.heartbeat, store, a⟩) (assign route row store a v .heartbeat)
      (latePath route row ans ++ [.gateway] ++ [.heartbeat]) none := by
  generalize hans : ans.add (strip row.redisMetaKey) ⟨.heartbeat, store, a⟩ = ans'
  have hlater : leaseTime route row ans' = leaseTime route row ans := by
    rw [← hans]
    rfl
  have hlate : latePath route row ans' = latePath route row ans := by rw [← hans]; rfl
  have hlease : lease route row ans'.toRowAnswers = lease route row ans.toRowAnswers := by rw [← hans]; rfl
  have hadopted : adoptedBy route row ans' = adoptedBy route row ans := by rw [← hans]; rfl
  have hmanaged : gatewayManaged route row ans' = gatewayManaged route row ans := by rw [← hans]; rfl
  have hactive : processActive route.exc row ans'.api = processActive route.exc row ans.api := by rw [← hans]; rfl
  have hread : ans'.heartbeat = a.ib := by rw [← hans]; rfl
  refine ⟨?_, ?_⟩
  · rw [rowPath, hlate, hlater, htime, if_pos ⟨hasked, rfl⟩, List.append_assoc]
    rfl
  · have hserve : serveRow route row ans' =
        { serveRow route row ans with
          redisControlUpdatedAt := readHealthUpdatedAt a.ib (strip row.redisMetaKey) } := by
      unfold serveRow
      rw [hlater, htime, hlease, hadopted, hmanaged, hactive, hread, if_pos hasked, Option.none_or]
    have hvars : (assign route row store a v .heartbeat).fields =
        { v.fields with redisControlUpdatedAt := readHealthUpdatedAt a.ib (strip row.redisMetaKey) } := by
      simp only [assign, Vars.fields]
    rw [hserve, hvars, hfields]

/-- One call of a row. -/
theorem before_call (h : Before route row ans pc v path) (store : Store) (a : Answer) :
    Reached route row (ans.add (strip row.redisMetaKey) ⟨pc, store, a⟩) (assign route row store a v pc) (path ++ [pc])
      (next route row (assign route row store a v pc) pc) := by
  cases h with
  | executor =>
    rw [next]
    split
    next hasked => exact .env hasked
    next hasked =>
      generalize hans : ans.add (strip row.redisMetaKey) ⟨.executor, store, a⟩ = ans'
      have hactive : processActive route.exc row ans'.api = processActive route.exc row a.api := by rw [← hans]; rfl
      have hdecided : Decided route row ans'.toRowAnswers (assign route row store a unset .executor) := by
        constructor
        · exact hactive.symm
        · rw [lease_unasked hasked]
          rfl
        · rw [lease_unasked hasked]
          rfl
        · rw [lease_unasked hasked]
          rfl
        · rfl
      have hpath : latePath route row ans' = [.executor] := by
        rw [latePath, if_neg fun hidle => hasked hidle.1, leasePath_unasked hasked]
        rfl
      have hbefore := Before.gateway (hdecided.adopted (adoptedBy_unasked hasked))
      rw [hpath] at hbefore
      exact hbefore
  | env hasked => exact .host hasked
  | host hasked => exact .updatedAt hasked
  | updatedAt hasked =>
    rw [next]
    split
    next hleased => exact .health hasked hleased
    next hleased =>
      have hread : ¬ Leased row (ans.add (strip row.redisMetaKey) ⟨.updatedAt, store, a⟩).toRowAnswers := hleased
      exact reached_decided hasked (decided_leaseVars (lease_unleased hasked hread) false false)
        (leasePath_unleased hasked hread)
  | health hasked hleased => exact .verdict hasked hleased
  | verdict hasked hleased =>
    have horphaned : (assign route row store a
        { leaseVars route row ans.toRowAnswers with
          isLive := healthLooksLive route row ans.toRowAnswers } .verdict).orphaned = true ↔
          Dead route row (ans.add (strip row.redisMetaKey) ⟨.verdict, store, a⟩).toRowAnswers := by
      simp only [Vars.orphaned, assign, leaseVars, healthLooksLive, Dead, Answers.add, Bool.and_eq_true,
        Bool.not_eq_true', Bool.not_eq_true, and_assoc]
    rw [next]
    by_cases hdead : Dead route row (ans.add (strip row.redisMetaKey) ⟨.verdict, store, a⟩).toRowAnswers
    · rw [if_pos (horphaned.2 hdead)]
      exact .clear hasked hleased hdead rfl rfl
    · rw [if_neg fun h => hdead (horphaned.1 h)]
      have halive := @lease_alive route row (ans.add (strip row.redisMetaKey) ⟨.verdict, store, a⟩).toRowAnswers hasked
        hleased hdead
      exact reached_decided hasked (decided_leaseVars halive _ _) (leasePath_alive hasked hleased hdead)
  | clear hasked hleased hdead hactive hmanaged =>
    have hlease := lease_dead hasked hleased hdead
    have hsame : ans.add (strip row.redisMetaKey) ⟨.clear, store, a⟩ = ans := rfl
    rw [hsame]
    have hdecided : Decided route row ans.toRowAnswers (assign route row store a v .clear) := by
      constructor
      · exact hactive
      · rw [hlease]
        rfl
      · rw [hlease]
        rfl
      · rw [hlease]
        rfl
      · exact hmanaged
    exact reached_decided hasked hdecided (leasePath_dead hasked hleased hdead)
  | live hasked hidle hdecided =>
    have hlive : (assign route row store a v .live).looksLive =
        ingestRedisHealthLooksLive route.truthy route.engineField
          (ans.add (strip row.redisMetaKey) ⟨.live, store, a⟩).live
          (ans.add (strip row.redisMetaKey) ⟨.live, store, a⟩).liveNow (strip row.redisMetaKey) (strip row.id) := by
      simp only [assign, Answers.add]
    exact .writer hasked hidle (hdecided.later _ v.writerRecent) hlive
  | writer hasked hidle hdecided hlive =>
    rw [List.append_assoc]
    have hwriter : (assign route row store a v .writer).writerRecent =
        ingestRedisHealthWriterRecent (ans.add (strip row.redisMetaKey) ⟨.writer, store, a⟩).writer
          (ans.add (strip row.redisMetaKey) ⟨.writer, store, a⟩).writerNow (strip row.redisMetaKey) := by
      simp only [assign, Answers.add]
    have hstill : (assign route row store a v .writer).looksLive =
        ingestRedisHealthLooksLive route.truthy route.engineField
          (ans.add (strip row.redisMetaKey) ⟨.writer, store, a⟩).live
          (ans.add (strip row.redisMetaKey) ⟨.writer, store, a⟩).liveNow (strip row.redisMetaKey) (strip row.id) := by
      simp only [assign, Answers.add]
      exact hlive
    exact .stack hasked hidle (hdecided.later v.looksLive _) hstill hwriter
  | stack hasked hidle hdecided hlive hwriter =>
    have hpath : latePath route row (ans.add (strip row.redisMetaKey) ⟨.stack, store, a⟩) =
        leasePath route row ans.toRowAnswers ++ [.live, .writer] ++ [.stack] := by
      rw [@latePath_idle route row (ans.add (strip row.redisMetaKey) ⟨.stack, store, a⟩) hasked hidle,
        List.append_assoc]
      rfl
    rw [← hpath]
    exact .gateway (adopted_stack hasked hidle hdecided hlive hwriter)
  | gateway hadopted => exact reached_gateway hadopted
  | heartbeat hasked htime hfields => exact reached_heartbeat hasked htime hfields

/-- Calls of a row, from its first one on. -/
def Under (route : Route) (row : IngestRow) (pc : Pc) (v : Vars) (ms : List Made) : Prop :=
  Before route row (answersOf row ms) pc v (ms.map (·.pc))

theorem under_call {ms : List Made} (h : Under route row pc v ms) (store : Store) (a : Answer) :
    (∀ pc', next route row (assign route row store a v pc) pc = some pc' →
      Under route row pc' (assign route row store a v pc) (ms ++ [⟨pc, store, a⟩])) ∧
    (next route row (assign route row store a v pc) pc = none →
      ServedBy route ⟨row, assign route row store a v pc⟩ (ms ++ [⟨pc, store, a⟩])) := by
  have hadd : answersOf row (ms ++ [⟨pc, store, a⟩]) =
      (answersOf row ms).add (strip row.redisMetaKey) ⟨pc, store, a⟩ := by
    rw [answersOf, List.foldl_append]
    rfl
  have hpath : (ms ++ [(⟨pc, store, a⟩ : Made)]).map (·.pc) = ms.map (·.pc) ++ [pc] := List.map_append
  have hreached := before_call h store a
  rw [← hadd, ← hpath] at hreached
  refine ⟨fun pc' hnext => ?_, fun hnext => ?_⟩
  · rw [hnext] at hreached
    exact hreached
  · rw [hnext] at hreached
    exact ⟨hreached.1, hreached.2⟩

end Call

/-! ## Every poll of a run -/

section Polls

variable {route : Route}

/-- The calls `ms` have brought a poll to where it is: those of each row served, and those of the row it is at. -/
structure Advanced (route : Route) (poll : Poll) (ms : List Made) : Prop where
  rows : poll.out.map (·.row) ++ poll.todo = poll.rows
  calls : ∃ served current, ms = served.flatten ++ current ∧ List.Forall₂ (ServedBy route) poll.out served ∧
    (poll.todo = [] → current = []) ∧
    ∀ row rest, poll.todo = row :: rest → Under route row poll.pc poll.vars current

theorem under_first (route : Route) (row : IngestRow) : Under route row .executor unset [] := .executor

theorem advanced_request (route : Route) (rows : List IngestRow) :
    Advanced route ⟨rows, rows, .executor, unset, []⟩ [] where
  rows := rfl
  calls := ⟨[], [], rfl, .nil, fun _ => rfl, fun row _ _ => under_first route row⟩

theorem Advanced.call {poll : Poll} {ms : List Made} (h : Advanced route poll ms) {row : IngestRow}
    {rest : List IngestRow} (htodo : poll.todo = row :: rest) (store : Store) (a : Answer) :
    Advanced route (poll.advance route row rest (assign route row store a poll.vars poll.pc))
      (ms ++ [⟨poll.pc, store, a⟩]) := by
  obtain ⟨served, current, hms, hserved, -, hunder⟩ := h.calls
  obtain ⟨hgoes, hends⟩ := under_call (hunder row rest htodo) store a
  unfold Poll.advance
  cases hnext : next route row (assign route row store a poll.vars poll.pc) poll.pc with
  | some pc =>
    refine ⟨h.rows, served, current ++ [⟨poll.pc, store, a⟩], ?_, hserved, ?_, ?_⟩
    · rw [hms, List.append_assoc]
    · intro hnone
      cases htodo.symm.trans hnone
    · intro row' rest' htodo'
      obtain ⟨rfl, rfl⟩ := List.cons.inj (htodo.symm.trans htodo')
      exact hgoes pc hnext
  | none =>
    refine ⟨?_, served ++ [current ++ [⟨poll.pc, store, a⟩]], [], ?_, ?_, fun _ => rfl, ?_⟩
    · rw [← h.rows, htodo, List.map_append, List.append_assoc]
      rfl
    · rw [hms, List.flatten_append, List.flatten_singleton, List.append_nil, List.append_assoc]
    · exact List.rel_append hserved (.cons (hends hnext) .nil)
    · exact fun row' _ _ => under_first route row'

theorem calls_append (p : Nat) (es : List Event) (e : Event) : ∀ s : State,
    calls route p s (es ++ [e]) = calls route p s es ++ made p (Run.run (step route) s es) e := by
  induction es with
  | nil => exact fun s => by rw [List.nil_append, calls, calls, calls, List.append_nil]; rfl
  | cons e' es ih =>
    intro s
    rw [List.cons_append, calls, calls, ih, List.append_assoc]
    rfl

/-- A poll that goes on from one moment to the next. -/
theorem advanced_step {s : State} {p : Nat} {ms : List Made}
    (h : ∀ poll, s.polls p = some poll → Advanced route poll ms) (hnone : s.polls p = none → ms = []) (e : Event) :
    ∀ poll, (step route s e).polls p = some poll → Advanced route poll (ms ++ made p s e) := by
  intro poll hpoll
  cases e with
  | hset key fields =>
    simp only [made, List.append_nil]
    exact h poll hpoll
  | hdel key fields =>
    simp only [made, List.append_nil]
    exact h poll hpoll
  | del key =>
    simp only [made, List.append_nil]
    exact h poll hpoll
  | request q rows =>
    simp only [made, List.append_nil]
    simp only [step] at hpoll
    split at hpoll
    next hnew =>
      by_cases hq : p = q
      · subst hq
        rw [Function.update_self] at hpoll
        obtain rfl := Option.some.inj hpoll
        rw [hnone hnew]
        exact advanced_request route rows
      · rw [Function.update_of_ne hq] at hpoll
        exact h poll hpoll
    · exact h poll hpoll
  | call q a =>
    simp only [step] at hpoll
    rw [made]
    cases hq : s.polls q with
    | none =>
      rw [hq] at hpoll
      rw [List.append_nil]
      exact h poll hpoll
    | some poll' =>
      rw [hq] at hpoll
      dsimp only at hpoll ⊢
      by_cases hp : q = p
      · subst hp
        rw [Function.update_self] at hpoll
        obtain rfl := Option.some.inj hpoll
        cases htodo : poll'.todo with
        | nil =>
          have hidle : (callNext route s.store poll' a).2 = poll' := by rw [callNext, htodo]
          rw [hidle, if_neg fun hmade => hmade.2 rfl, List.append_nil]
          exact h poll' hq
        | cons row rest =>
          have hcall : (callNext route s.store poll' a).2 =
              poll'.advance route row rest (assign route row s.store a poll'.vars poll'.pc) := by rw [callNext, htodo]
          rw [hcall, if_pos ⟨rfl, List.cons_ne_nil row rest⟩]
          exact (h poll' hq).call htodo s.store a
      · rw [Function.update_of_ne (Ne.symm hp)] at hpoll
        rw [if_neg fun hmade => hp hmade.1, List.append_nil]
        exact h poll hpoll

/-- A poll is not known before its request, and calls nothing. -/
theorem polls_of_step_none {s : State} {p : Nat} {e : Event} (h : (step route s e).polls p = none) :
    s.polls p = none ∧ made p s e = [] := by
  cases e with
  | hset key fields => exact ⟨h, rfl⟩
  | hdel key fields => exact ⟨h, rfl⟩
  | del key => exact ⟨h, rfl⟩
  | request q rows =>
    simp only [step] at h
    split at h
    next hnew =>
      by_cases hq : p = q
      · rw [hq, Function.update_self] at h
        cases h
      · rw [Function.update_of_ne hq] at h
        exact ⟨h, rfl⟩
    · exact ⟨h, rfl⟩
  | call q a =>
    simp only [step] at h
    simp only [made]
    cases hq : s.polls q with
    | none =>
      rw [hq] at h
      exact ⟨h, rfl⟩
    | some poll =>
      rw [hq] at h
      dsimp only at h ⊢
      by_cases hp : p = q
      · rw [hp, Function.update_self] at h
        cases h
      · rw [Function.update_of_ne hp] at h
        exact ⟨h, if_neg fun hmade => hp hmade.1.symm⟩

/-- Every poll is where the calls of the run have brought it. -/
theorem advanced_run (store : Store) (p : Nat) (es : List Event) :
    (∀ poll, (Run.run (step route) (initial store) es).polls p = some poll →
      Advanced route poll (calls route p (initial store) es)) ∧
    ((Run.run (step route) (initial store) es).polls p = none → calls route p (initial store) es = []) := by
  induction es using List.reverseRecOn with
  | nil => exact ⟨fun poll h => (by cases h), fun _ => rfl⟩
  | append_singleton es e ih =>
    obtain ⟨hknown, hunknown⟩ := ih
    have hrun : Run.run (step route) (initial store) (es ++ [e]) =
        step route (Run.run (step route) (initial store) es) e := List.foldl_append
    rw [hrun, calls_append]
    refine ⟨advanced_step hknown hunknown e, fun hnone => ?_⟩
    obtain ⟨hbefore, hmade⟩ := polls_of_step_none hnone
    rw [hunknown hbefore, hmade]
    rfl

/-! ## What a lease is cleared on -/

theorem dead_of_mem_leasePath {row : IngestRow} {ans : RowAnswers} (h : .clear ∈ leasePath route row ans) :
    Asked route row ∧ Leased row ans ∧ Dead route row ans := by
  by_cases hasked : Asked route row
  · by_cases hleased : Leased row ans
    · by_cases hdead : Dead route row ans
      · exact ⟨hasked, hleased, hdead⟩
      · rw [leasePath_alive hasked hleased hdead] at h
        exact absurd h (by decide)
    · rw [leasePath_unleased hasked hleased] at h
      exact absurd h (by decide)
  · rw [leasePath_unasked hasked] at h
    exact absurd h (by decide)

theorem dead_of_mem_latePath {row : IngestRow} {ans : Answers} (h : .clear ∈ latePath route row ans) :
    Asked route row ∧ Leased row ans.toRowAnswers ∧ Dead route row ans.toRowAnswers := by
  unfold latePath at h
  rcases List.mem_append.1 h with hlease | hlate
  · exact dead_of_mem_leasePath hlease
  · split at hlate
    · exact absurd hlate (by decide)
    · exact absurd hlate List.not_mem_nil

/-- Where a row's calls went past the one that clears, the lease was found dead. -/
theorem dead_of_before {row : IngestRow} {ans : Answers} {pc : Pc} {v : Vars} {path : List Pc}
    (h : Before route row ans pc v path) (hclear : .clear ∈ path) :
    Asked route row ∧ Leased row ans.toRowAnswers ∧ Dead route row ans.toRowAnswers := by
  have hlater : ∀ {pcs : List Pc}, .clear ∈ leasePath route row ans.toRowAnswers ++ pcs → .clear ∉ pcs →
      Asked route row ∧ Leased row ans.toRowAnswers ∧ Dead route row ans.toRowAnswers := fun hmem hnot =>
    dead_of_mem_leasePath ((List.mem_append.1 hmem).resolve_right hnot)
  cases h with
  | executor | env | host | updatedAt | health | verdict | clear => exact absurd hclear (by decide)
  | live => exact dead_of_mem_leasePath hclear
  | writer => exact hlater hclear (by decide)
  | stack => exact hlater hclear (by decide)
  | gateway => exact dead_of_mem_latePath hclear
  | heartbeat => exact dead_of_mem_latePath ((List.mem_append.1 hclear).resolve_right (by decide))

variable (route) in
/-- If these calls cleared the row's lease, it was one, and nothing that they read before spoke for the process. -/
def ClearedDead (row : IngestRow) (ms : List Made) : Prop :=
  .clear ∈ ms.map (·.pc) → HasLease route.rurl row (answersOf row ms).toRowAnswers ∧
    ¬ SeenAlive route.truthy route.engineField route.exc row (answersOf row ms).toRowAnswers

theorem clearedDead_of_dead {row : IngestRow} {ans : RowAnswers}
    (h : Asked route row ∧ Leased row ans ∧ Dead route row ans) :
    HasLease route.rurl row ans ∧ ¬ SeenAlive route.truthy route.engineField route.exc row ans := by
  obtain ⟨hasked, hleased, hdead⟩ := h
  refine (cleared_iff route.rurl route.exc row ans).1 ?_
  have hlease := lease_dead hasked hleased hdead
  rw [lease] at hlease
  rw [hlease]
  exact List.cons_ne_nil _ _

theorem ServedBy.clearedDead {x : RowServed} {ms : List Made} (h : ServedBy route x ms) :
    ClearedDead route x.row ms := by
  intro hclear
  rw [h.calls, rowPath] at hclear
  refine clearedDead_of_dead (dead_of_mem_latePath ((List.mem_append.1 hclear).resolve_right ?_))
  split <;> decide

variable (route) in
/-- A poll as the sequential route serves its rows from what its own calls got. -/
structure Refines (poll : Poll) (ms : List Made) : Prop where
  rows : poll.out.map (·.row) ++ poll.todo = poll.rows
  /-- The calls are those of the rows served, each row's in one piece, and those of the row it is at. -/
  calls : ∃ served current, ms = served.flatten ++ current ∧ List.Forall₂ (ServedBy route) poll.out served ∧
    List.Forall₂ (fun x ms => ClearedDead route x.row ms) poll.out served ∧
    (poll.todo = [] → current = []) ∧ ∀ row rest, poll.todo = row :: rest → ClearedDead route row current

/-- **Main.** Whatever the other polls, the services, operators and expiry do to the hashes between its calls, and
whichever of its calls fail, every poll is what the sequential route makes of what the poll's own calls got in the
run, each from the hashes of its moment. -/
theorem polls_refine (route : Route) (store : Store) (es : List Event) (p : Nat) (poll : Poll)
    (hpoll : (Run.run (step route) (initial store) es).polls p = some poll) :
    Refines route poll (LeasePolls.calls route p (initial store) es) := by
  obtain ⟨hrows, served, current, hms, hserved, hnil, hunder⟩ := (advanced_run store p es).1 poll hpoll
  refine ⟨hrows, served, current, hms, hserved, hserved.imp fun x ms h => h.clearedDead, hnil, ?_⟩
  intro row rest htodo hclear
  exact clearedDead_of_dead (dead_of_before (hunder row rest htodo) hclear)

end Polls

/-- No IB Redis, and no profile of its own. -/
def liveRoute : Route where
  truthy m field := m.lookup field = some "1"
  engineField := "engine_ops_active"
  isPlatformGateway _ := false
  rurl := some "redis://live"
  ibRurl := none
  exc := ⟨true, []⟩
  controlProfile := none

/-- The lease of a gateway without a heartbeat, written at 1000, and a market service that another stack keeps. -/
def leasedStore : Store := fun key =>
  if key = "bifrost:health:ib_ingestor" then [(envField, "prod"), (updatedAtField, "1000")]
  else if key = "bifrost:health:ib_market" then
    [("connected", "1"), ("updated_at", "4595"), ("config_file", "/etc/bifrost/config.stg.yaml")]
  else []

def marketRow : IngestRow := ⟨"ib_market", "", "", "bifrost:health:ib_market"⟩

/-- An hour after the write, the API out of reach. -/
def found : Answer := ⟨⟨.failed, .failed⟩, .answered, 4600, some [("updated_at", "4590")]⟩

/-- Two polls come to the verdict on the same lease; the first clears it, the command of the second is lost, and the
next control write comes after both. -/
def twoPolls : List Event :=
  [.request 0 [gatewayRow, marketRow], .request 1 [gatewayRow]] ++ List.replicate 5 (.call 0 found) ++
    List.replicate 6 (.call 1 found) ++ [.call 0 found, .call 0 found, .call 1 { found with reply := .lost },
      .hset "bifrost:health:ib_ingestor" [(envField, "dev")]] ++ List.replicate 13 (.call 0 found)

theorem polls_refine_twoPolls :
    ∃ poll, (Run.run (step liveRoute) (initial leasedStore) twoPolls).polls 0 = some poll ∧
      poll.out.map (·.vars.fields) =
        [⟨"inactive", none, none, some (.fin 4590), false, false⟩,
          ⟨"inactive", some "stg", some "k8s", some (.fin 4600), true, false⟩] ∧
      Refines liveRoute poll (calls liveRoute 0 (initial leasedStore) twoPolls) := by
  have hsome : ((Run.run (step liveRoute) (initial leasedStore) twoPolls).polls 0).map
      (fun poll => poll.out.map (·.vars.fields)) =
        some [⟨"inactive", none, none, some (.fin 4590), false, false⟩,
          ⟨"inactive", some "stg", some "k8s", some (.fin 4600), true, false⟩] := by decide +kernel
  obtain ⟨poll, hpoll, hfields⟩ := Option.map_eq_some_iff.1 hsome
  exact ⟨poll, hpoll, hfields, polls_refine liveRoute leasedStore twoPolls 0 poll hpoll⟩

/-! ## With the polls and without them -/

namespace Store

theorem hget_hset (s : Store) (key : String) (fields : Hash) (key' field : String) :
    (s.hset key fields).hget key' field =
      if key' = key then ((fields.filter fun kv => kv.1 = field).getLast?.map Prod.snd).or (s.hget key field)
      else s.hget key' field := by
  unfold hset hget
  by_cases hkey : key' = key
  · subst hkey
    rw [Function.update_self, Dict.lookup_update_last, if_pos rfl]
  · rw [Function.update_of_ne hkey, if_neg hkey]

theorem hget_hdel (s : Store) (key : String) (fields : List String) (key' field : String) :
    (s.hdel key fields).hget key' field = if key' = key ∧ field ∈ fields then none else s.hget key' field := by
  unfold hdel hget
  by_cases hkey : key' = key
  · subst hkey
    have hfilter : ((s key').filter fun kv => kv.1 ∉ fields).lookup field =
        if decide (field ∉ fields) = true then (s key').lookup field else none :=
      Dict.lookup_filter (fun k => decide (k ∉ fields)) (s key') field
    rw [Function.update_self, hfilter]
    by_cases hfield : field ∈ fields <;> simp [hfield]
  · rw [Function.update_of_ne hkey, if_neg fun h => hkey h.1]

theorem hget_del (s : Store) (key key' field : String) :
    (s.del key).hget key' field = if key' = key then none else s.hget key' field := by
  unfold del hget
  by_cases hkey : key' = key
  · subst hkey
    rw [Function.update_self, if_pos rfl]
    rfl
  · rw [Function.update_of_ne hkey, if_neg hkey]

end Store

/-- A call takes the lease out, or nothing. -/
theorem hget_storeAfter (store : Store) (row : IngestRow) (a : Answer) (pc : Pc) (key field : String) :
    (storeAfter store row a pc).hget key field = store.hget key field ∨
      (field ∈ controlFields ∧ (storeAfter store row a pc).hget key field = none ∧
        (pc = .clear ∧ a.reply ≠ .lost) ∧ strip row.redisMetaKey = key) := by
  unfold storeAfter
  split
  next hclear =>
    rw [Store.hget_hdel]
    split
    next h => exact Or.inr ⟨h.2, rfl, hclear, h.1.symm⟩
    · exact Or.inl rfl
  · exact Or.inl rfl

section Frame

variable {route : Route}

/-- The call clears the lease of the key, and its command was not lost. -/
def Clears (s : State) (key : String) : Event → Prop
  | .call p a => a.reply ≠ .lost ∧ ∃ poll row rest, s.polls p = some poll ∧ poll.todo = row :: rest ∧
      poll.pc = .clear ∧ strip row.redisMetaKey = key
  | _ => False

/-- The event puts the field into the hash. -/
def Puts (key field : String) : Event → Prop
  | .hset k fields => k = key ∧ field ∈ Dict.keys fields
  | _ => False

variable (route) in
/-- A call of the run has cleared the lease on the key, and nothing has put the field back since. -/
def ClearedIn (store : Store) (key field : String) (es : List Event) : Prop :=
  ∃ before e after, es = before ++ e :: after ∧
    Clears (Run.run (step route) (initial store) before) key e ∧
    ∀ e' ∈ after, ¬ Puts key field e'

theorem ClearedIn.concat {store : Store} {key field : String} {es : List Event}
    (h : ClearedIn route store key field es) {e : Event} (he : ¬ Puts key field e) :
    ClearedIn route store key field (es ++ [e]) := by
  obtain ⟨before, c, after, rfl, hclears, hafter⟩ := h
  refine ⟨before, c, after ++ [e], by simp, hclears, fun e' he' => ?_⟩
  rcases List.mem_append.1 he' with hold | hnew
  · exact hafter e' hold
  · rw [List.mem_singleton.1 hnew]
    exact he

/-- What the outside does to a field does not depend on the store, unless it leaves the field as it is. -/
theorem hget_outside (store store' : Store) (e : Event) (key field : String) :
    (outside store e).hget key field = (outside store' e).hget key field ∨
      (¬ Puts key field e ∧ (outside store e).hget key field = store.hget key field ∧
        (outside store' e).hget key field = store'.hget key field) := by
  cases e with
  | hset k fields =>
    simp only [outside, Store.hget_hset]
    by_cases hkey : key = k
    · subst hkey
      simp only [if_true]
      cases hlast : (fields.filter fun kv => kv.1 = field).getLast? with
      | none =>
        have hnot : field ∉ Dict.keys fields := by
          intro hmem
          obtain ⟨kv, hkv, heq⟩ := List.mem_map.1 hmem
          have hlast' : kv ∈ fields.filter fun kv => kv.1 = field := List.mem_filter.2 ⟨hkv, by simpa using heq⟩
          rw [List.getLast?_eq_none_iff.1 hlast] at hlast'
          cases hlast'
        exact Or.inr ⟨fun hputs => hnot hputs.2, rfl, rfl⟩
      | some kv => exact Or.inl rfl
    · simp only [if_neg hkey]
      exact Or.inr ⟨fun hputs => hkey hputs.1.symm, trivial, trivial⟩
  | hdel k fields =>
    simp only [outside, Store.hget_hdel]
    by_cases hdel : key = k ∧ field ∈ fields
    · rw [if_pos hdel, if_pos hdel]
      exact Or.inl rfl
    · rw [if_neg hdel, if_neg hdel]
      exact Or.inr ⟨id, rfl, rfl⟩
  | del k =>
    simp only [outside, Store.hget_del]
    by_cases hkey : key = k
    · rw [if_pos hkey, if_pos hkey]
      exact Or.inl rfl
    · rw [if_neg hkey, if_neg hkey]
      exact Or.inr ⟨id, rfl, rfl⟩
  | request p rows => exact Or.inr ⟨id, rfl, rfl⟩
  | call p a => exact Or.inr ⟨id, rfl, rfl⟩

/-- A step does to a field what the outside does, or clears the lease it belongs to. -/
theorem hget_step (s : State) (e : Event) (key field : String) :
    (step route s e).store.hget key field = (outside s.store e).hget key field ∨
      (field ∈ controlFields ∧ (step route s e).store.hget key field = none ∧
        Clears s key e) := by
  cases e with
  | hset k fields => exact Or.inl rfl
  | hdel k fields => exact Or.inl rfl
  | del k => exact Or.inl rfl
  | request p rows => exact Or.inl rfl
  | call p a =>
    simp only [step, outside]
    cases hp : s.polls p with
    | none => exact Or.inl rfl
    | some poll =>
      dsimp only
      cases htodo : poll.todo with
      | nil =>
        have hidle : (callNext route s.store poll a).1 = s.store := by rw [callNext, htodo]
        rw [hidle]
        exact Or.inl rfl
      | cons row rest =>
        have hcall : (callNext route s.store poll a).1 = storeAfter s.store row a poll.pc := by rw [callNext, htodo]
        rw [hcall]
        rcases hget_storeAfter s.store row a poll.pc key field with hsame | ⟨hfield, hnone, ⟨hpc, hreply⟩, hkey⟩
        · exact Or.inl hsame
        · exact Or.inr ⟨hfield, hnone, hreply, poll, row, rest, hp, htodo, hpc, hkey⟩

/-- **Main.** In every run a field of a hash is what it is without the polls, or it is a field of a lease and is not
there, a poll has cleared the lease of its key, and nothing has put the field back since. -/
theorem polls_frame (route : Route) (store : Store) (es : List Event) (key field : String) :
    (Run.run (step route) (initial store) es).store.hget key field =
        (es.foldl outside store).hget key field ∨
      (field ∈ controlFields ∧
        (Run.run (step route) (initial store) es).store.hget key field = none ∧
        ClearedIn route store key field es) := by
  induction es using List.reverseRecOn with
  | nil => exact Or.inl rfl
  | append_singleton es e ih =>
    rw [Run.run, List.foldl_append, List.foldl_append]
    change (step route (Run.run _ (initial store) es) e).store.hget key field =
        (outside (es.foldl outside store) e).hget key field ∨ (field ∈ controlFields ∧
          (step route (Run.run _ (initial store) es) e).store.hget key field = none ∧ _)
    rcases hget_step (Run.run (step route) (initial store) es) e key field with
      hstep | ⟨hfield, hnone, hclears⟩
    · rw [hstep]
      rcases hget_outside (Run.run (step route) (initial store) es).store
        (es.foldl outside store) e key field with hsame | ⟨hputs, hleft, hright⟩
      · exact Or.inl hsame
      · rw [hleft, hright]
        exact ih.imp_right fun ⟨hfield, hnone, hcleared⟩ => ⟨hfield, hnone, hcleared.concat hputs⟩
    · exact Or.inr ⟨hfield, hnone, es, e, [], rfl, hclears, fun e' he' => absurd he' List.not_mem_nil⟩

/-! ## A control write and the polls after it -/

/-- The event leaves the lease on the key, and no poll reads its time without an answer or judges it after the grace. -/
def Respects (key : String) (ts : Number) (s : State) : Event → Prop
  | .hset k fields => k = key → ∀ field ∈ Dict.keys fields, field ∉ controlFields
  | .hdel k fields => k = key → ∀ field ∈ fields, field ∉ controlFields
  | .del k => k ≠ key
  | .request _ _ => True
  | .call p a => ∀ poll row rest, s.polls p = some poll → poll.todo = row :: rest → strip row.redisMetaKey = key →
      (poll.pc = .updatedAt → a.reply = .answered) ∧
      (poll.pc = .verdict → Number.lt recentControlWriteGraceSec (Number.sub (.fin a.now) ts) = false)

/-- No poll is between its read of the lease's time and the end of the row. -/
def Unread (key : String) (s : State) : Prop :=
  ∀ p poll row rest, s.polls p = some poll → poll.todo = row :: rest → strip row.redisMetaKey = key →
    poll.pc ∉ [.health, .verdict, .clear]

/-- The poll has read the time of the lease, or not yet. -/
def HasRead (key : String) (ts : Number) (poll : Poll) : Prop :=
  ∀ row rest, poll.todo = row :: rest → strip row.redisMetaKey = key → poll.pc ≠ .clear ∧
    (poll.pc = .health ∨ poll.pc = .verdict → poll.vars.controlUpdatedAt = some ts)

/-- The hash still has the lease `lease`, and every poll on the way knows its time. -/
structure Guarded (key : String) (ts : Number) (lease : String → Option String) (s : State) : Prop where
  lease : ∀ field ∈ controlFields, s.store.hget key field = lease field
  polls : ∀ p poll, s.polls p = some poll → HasRead key ts poll

theorem hget_outside_of_respects {key : String} {ts : Number} {s : State} {e : Event} (h : Respects key ts s e)
    {field : String} (hfield : field ∈ controlFields) :
    (outside s.store e).hget key field = s.store.hget key field := by
  cases e with
  | hset k fields =>
    simp only [outside, Store.hget_hset]
    split
    · rename_i hkey
      have hnone : (fields.filter fun kv => kv.1 = field).getLast? = none := by
        rw [List.getLast?_eq_none_iff, List.filter_eq_nil_iff]
        intro kv hkv heq
        refine h hkey.symm kv.1 (List.mem_map_of_mem hkv) ?_
        rw [of_decide_eq_true heq]
        exact hfield
      rw [hnone, ← hkey]
      rfl
    · rfl
  | hdel k fields =>
    simp only [outside, Store.hget_hdel]
    exact if_neg fun hdel => h hdel.1.symm field hdel.2 hfield
  | del k =>
    simp only [outside, Store.hget_del]
    exact if_neg fun hkey => h hkey.symm
  | request p rows => rfl
  | call p a => rfl

/-- What a poll that respects the lease knows of it before a call, and the call's own part. -/
structure Knows (ts : Number) (poll : Poll) (a : Answer) : Prop where
  clear : poll.pc ≠ .clear
  known : poll.pc = .health ∨ poll.pc = .verdict → poll.vars.controlUpdatedAt = some ts
  answered : poll.pc = .updatedAt → a.reply = .answered
  recent : poll.pc = .verdict → Number.lt recentControlWriteGraceSec (Number.sub (.fin a.now) ts) = false

/-- A time that is one is read as it was written. -/
theorem readControlUpdatedAt_of_controlTime {raw : String} {ts : Number} (hts : controlTime (some raw) = some ts) :
    ts ≠ .nan ∧ readControlUpdatedAt (some (some raw)) = some ts := by
  simp only [controlTime, Option.bind_some, Option.filter_eq_some_iff, decide_eq_true_eq] at hts
  obtain ⟨hread, hne⟩ := hts
  refine ⟨hne, ?_⟩
  have hblank : strip raw ≠ "" := fun hblank => by
    rw [ofText_blank hblank] at hread
    cases hread
  simp only [readControlUpdatedAt, Option.bind_some, if_neg hblank, hread]

theorem afterLease_ne (v : Vars) : afterLease v ∉ [Pc.health, .verdict, .clear] := by
  unfold afterLease
  split <;> decide

theorem Knows.goesOn {raw : String} {ts : Number} {store : Store} {poll : Poll} {row : IngestRow} {a : Answer}
    (h : Knows ts poll a) (hts : controlTime (some raw) = some ts)
    (hstore : store.hget (strip row.redisMetaKey) updatedAtField = some raw) {pc : Pc}
    (hnext : next route row (assign route row store a poll.vars poll.pc) poll.pc = some pc) :
    pc ≠ .clear ∧ (pc = .health ∨ pc = .verdict →
      (assign route row store a poll.vars poll.pc).controlUpdatedAt = some ts) := by
  obtain ⟨hclear, hknown, hanswered, hrecent⟩ := h
  obtain ⟨hnan, hread⟩ := readControlUpdatedAt_of_controlTime hts
  generalize poll.pc = pc₀ at hclear hknown hanswered hrecent hnext ⊢
  have hafter := afterLease_ne (assign route row store a poll.vars pc₀)
  simp only [List.mem_cons, List.not_mem_nil, or_false, not_or] at hafter
  cases pc₀ with
  | executor =>
    simp only [next, Option.some.injEq] at hnext
    subst hnext
    split <;> simp
  | env =>
    cases hnext
    simp
  | host =>
    cases hnext
    simp
  | updatedAt =>
    have hvalue : (assign route row store a poll.vars .updatedAt).controlUpdatedAt = some ts := by
      rw [assign, hstore, Answer.read, if_pos (hanswered rfl), hread]
    refine ⟨?_, fun _ => hvalue⟩
    simp only [next, Option.some.injEq] at hnext
    subst hnext
    split
    · simp
    · exact hafter.2.2
  | health =>
    cases hnext
    refine ⟨by simp, fun _ => ?_⟩
    simp only [assign]
    exact hknown (Or.inl rfl)
  | verdict =>
    have hfresh : (assign route row store a poll.vars .verdict).recentControlWrite = true := by
      rw [assign, hknown (Or.inr rfl), recentControlWrite_some]
      exact ⟨hnan, hrecent rfl⟩
    have horphaned : ¬ (assign route row store a poll.vars .verdict).orphaned = true := by
      rw [Vars.orphaned, hfresh]
      simp
    rw [next, if_neg horphaned, Option.some.injEq] at hnext
    subst hnext
    exact ⟨hafter.2.2, fun h => absurd h (not_or.2 ⟨hafter.1, hafter.2.1⟩)⟩
  | clear => exact absurd rfl hclear
  | live =>
    cases hnext
    simp
  | writer =>
    cases hnext
    simp
  | stack =>
    cases hnext
    simp
  | gateway =>
    rw [next] at hnext
    split at hnext
    · cases hnext
      simp
    · cases hnext
  | heartbeat => cases hnext

theorem hasRead_executor {key : String} {ts : Number} {poll : Poll} (h : poll.pc = .executor) :
    HasRead key ts poll := by
  intro row rest _ _
  rw [h]
  simp

/-- The poll that made a call, and the others as they were. -/
theorem hasRead_update {key : String} {ts : Number} {polls : Nat → Option Poll} {p : Nat} {poll : Poll}
    (h : ∀ q old, polls q = some old → HasRead key ts old) (hpoll : HasRead key ts poll) {q : Nat} {old : Poll}
    (hq : Function.update polls p (some poll) q = some old) : HasRead key ts old := by
  by_cases hp : q = p
  · subst hp
    rw [Function.update_self] at hq
    exact Option.some.inj hq ▸ hpoll
  · rw [Function.update_of_ne hp] at hq
    exact h q old hq

/-- A call of a row of another key, or not the call that clears. -/
theorem hget_storeAfter_of_ne {key : String} {store : Store} {row : IngestRow} {pc : Pc} {a : Answer}
    (h : strip row.redisMetaKey = key → pc ≠ .clear) (field : String) :
    (storeAfter store row a pc).hget key field = store.hget key field := by
  rcases hget_storeAfter store row a pc key field with hsame | ⟨-, -, hclear, hkey⟩
  · exact hsame
  · exact absurd hclear.1 (h hkey)

/-- A call that respects the lease leaves a poll that knows its time, or has not read it. -/
theorem hasRead_advance {key raw : String} {ts : Number} {store : Store} {poll : Poll} {row : IngestRow}
    {rest : List IngestRow} {a : Answer} (hts : controlTime (some raw) = some ts)
    (hstore : store.hget key updatedAtField = some raw) (htodo : poll.todo = row :: rest)
    (h : strip row.redisMetaKey = key → Knows ts poll a) :
    HasRead key ts (poll.advance route row rest (assign route row store a poll.vars poll.pc)) := by
  unfold Poll.advance
  cases hnext : next route row (assign route row store a poll.vars poll.pc) poll.pc with
  | none => exact hasRead_executor rfl
  | some pc =>
    intro row' rest' htodo' hkey
    obtain ⟨rfl, rfl⟩ := List.cons.inj (htodo.symm.trans htodo')
    exact (h hkey).goesOn hts (hkey ▸ hstore) hnext

theorem guarded_step {key raw : String} {ts : Number} {lease : String → Option String}
    (hraw : lease updatedAtField = some raw) (hts : controlTime (some raw) = some ts) (s : State) (e : Event)
    (h : Guarded key ts lease s) (he : Respects key ts s e) :
    Guarded key ts lease (step route s e) := by
  have houtside : ∀ field ∈ controlFields, (outside s.store e).hget key field = lease field := fun field hfield =>
    (hget_outside_of_respects he hfield).trans (h.lease field hfield)
  have htime : s.store.hget key updatedAtField = some raw := (h.lease _ (by simp [controlFields])).trans hraw
  cases e with
  | hset k fields => exact ⟨houtside, h.polls⟩
  | hdel k fields => exact ⟨houtside, h.polls⟩
  | del k => exact ⟨houtside, h.polls⟩
  | request p rows =>
    refine ⟨houtside, fun q poll hq => ?_⟩
    simp only [step] at hq
    split at hq
    · exact hasRead_update h.polls (hasRead_executor rfl) hq
    · exact h.polls q poll hq
  | call p a =>
    simp only [step]
    cases hp : s.polls p with
    | none => exact ⟨houtside, h.polls⟩
    | some poll =>
      dsimp only
      have hknows : ∀ row rest, poll.todo = row :: rest → strip row.redisMetaKey = key → Knows ts poll a := by
        intro row rest htodo hkey
        obtain ⟨hclear, hknown⟩ := h.polls p poll hp row rest htodo hkey
        obtain ⟨hanswered, hrecent⟩ := he poll row rest hp htodo hkey
        exact ⟨hclear, hknown, hanswered, hrecent⟩
      cases htodo : poll.todo with
      | nil =>
        have hidle : callNext route s.store poll a = (s.store, poll) := by rw [callNext, htodo]
        rw [hidle]
        exact ⟨houtside, fun q old hq => hasRead_update h.polls (h.polls p poll hp) hq⟩
      | cons row rest =>
        have hcall : callNext route s.store poll a = (storeAfter s.store row a poll.pc,
            poll.advance route row rest (assign route row s.store a poll.vars poll.pc)) := by rw [callNext, htodo]
        rw [hcall]
        refine ⟨fun field hfield => ?_, fun q old hq => hasRead_update h.polls ?_ hq⟩
        · exact (hget_storeAfter_of_ne (fun hkey => (hknows row rest htodo hkey).clear) field).trans
            (h.lease field hfield)
        · exact hasRead_advance hts htime htodo (hknows row rest htodo)

/-- **Main.** A control write that finds no poll past its read of the lease's time stays through every run in which
the outside leaves it alone, no poll fails to read its time, and no poll judges it after the grace. -/
theorem controlWrite_kept {key raw : String} {ts : Number} {s : State} {es : List Event}
    (hwritten : s.store.hget key updatedAtField = some raw) (hts : controlTime (some raw) = some ts)
    (hunread : Unread key s) (hes : Run.Along (step route) (Respects key ts) s es) :
    Run.Always (step route)
      (fun s' => ∀ field ∈ controlFields, s'.store.hget key field = s.store.hget key field) s es := by
  have hstart : Guarded key ts (s.store.hget key) s := by
    refine ⟨fun _ _ => rfl, fun p poll hp row rest htodo hkey => ?_⟩
    have hpc := hunread p poll row rest hp htodo hkey
    exact ⟨fun hclear => hpc (by simp [hclear]), fun h => absurd (by rcases h with h | h <;> simp [h]) hpc⟩
  exact (Run.always_of_along (fun s e h he => guarded_step hwritten hts s e h he) hstart hes).mono fun s' h => h.lease

end Frame

/-- Every call of a poll of the row, a minute after the write. -/
def pollOfGateway : List Event :=
  .request 0 [gatewayRow] :: List.replicate 10 (.call 0 ⟨⟨.failed, .failed⟩, .answered, 1060, none⟩)

theorem controlWrite_kept_minute :
    Run.Always (step liveRoute)
      (fun s => ∀ field ∈ controlFields, s.store.hget "bifrost:health:ib_ingestor" field =
        (initial leasedStore).store.hget "bifrost:health:ib_ingestor" field) (initial leasedStore) pollOfGateway :=
  controlWrite_kept (show _ = some "1000" from rfl) (show _ = some (.fin 1000) by decide +kernel)
    (fun p poll row rest hp => by cases hp)
    (Run.along_of_forall_mem fun s e he => by
      rcases List.mem_cons.1 he with rfl | he
      · trivial
      · rw [List.eq_of_mem_replicate he]
        exact fun poll row rest _ _ _ => ⟨fun _ => rfl, fun _ => by decide +kernel⟩)

end BifrostApi.Ops.LeasePolls
