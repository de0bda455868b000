import BifrostApi.Py.Text
import BifrostApi.Py.Dict

/-!
# Reading workloads (`ops/services/executor_kubernetes.py`)

A read of the Kubernetes API finds the object, answers 404, or fails. `_workload_ready_replicas` swallows
a failed read into zero replicas (executor_kubernetes.py:130), so the `None, None` that
`deployment_replica_counts` has for it (:166) never comes (`leaseSafe_fails`).

| here | there |
| --- | --- |
| `readWorkload` | `_read_workload` (:117) |
| `workloadReadyReplicas` | `_workload_ready_replicas` (:127) |
| `processActiveFromReplicaCounts` | `process_active_from_replica_counts` (market_ingest_display.py:98) |
-/

namespace BifrostApi.Ops

open Py

/-- One read of the API. -/
inductive ApiRead
  /-- `spec.replicas`, `status.ready_replicas` -/
  | found (replicas readyReplicas : Option Nat)
  /-- `ApiException` with status 404. -/
  | notFound
  /-- Any other exception. -/
  | failed
  deriving DecidableEq, Repr

/-- What the API answers for one workload name. -/
structure WorkloadApi where
  deployment : ApiRead
  statefulSet : ApiRead

structure KubernetesExecutor where
  k8sReachable : Bool
  allowed : List String

/-- The workload's kind and counts; `none` where the read raises. -/
def readWorkload (api : WorkloadApi) : Option (String × Option Nat × Option Nat) :=
  match api.deployment with
  | .found replicas ready => some ("deployment", replicas, ready)
  | .failed => none
  | .notFound => match api.statefulSet with
    | .found replicas ready => some ("statefulset", replicas, ready)
    | .notFound | .failed => none

def workloadReadyReplicas (api : WorkloadApi) : Nat × Nat × String :=
  match readWorkload api with
  | none => (0, 0, "deployment")
  | some (kind, replicas, ready) => (replicas.getD 0, ready.getD 0, kind)

def deploymentReplicaCounts (exc : KubernetesExecutor) (api : WorkloadApi) (deployment : String) :
    Option (Nat × Nat) :=
  if deployment = "" ∨ exc.k8sReachable = false then none
  else
    let (specReplicas, ready, _) := workloadReadyReplicas api
    some (specReplicas, ready)

def processActiveFromReplicaCounts : Option (Nat × Nat) → String
  | none => "unknown"
  | some (replicas, ready) =>
    if replicas = 0 then "inactive"
    else if replicas ≤ ready then "active"
    else if 0 < ready then "activating"
    else "inactive"

/-- `s.removesuffix(".service")`. -/
def removeService (s : String) : String :=
  if ".service".toList.isSuffixOf s.toList then String.ofList (s.toList.take (s.toList.length - 8)) else s

/-- `UNIT_TO_DEPLOYMENT` (workload_map.py:8). -/
def unitToDeployment : Dict String String :=
  [("bifrost-engine", "daemon"), ("bifrost-engine.service", "daemon")]

def deploymentForUnit (unit : String) : Option String :=
  let u := strip unit
  if u = "" then none
  else match unitToDeployment.lookup u with
    | some d => some d
    | none => unitToDeployment.lookup (removeService u)

def KubernetesExecutor.isAllowed (exc : KubernetesExecutor) (unit : String) : Bool :=
  removeService unit ∈ exc.allowed.map removeService

/-- `api` is what the API answers for the unit's workload. -/
def systemctlIsActive (exc : KubernetesExecutor) (api : WorkloadApi) (unit : String) : String :=
  if exc.k8sReachable = false ∨ exc.isAllowed unit = false ∨ deploymentForUnit unit = none then "unknown"
  else
    let (specReplicas, ready, _) := workloadReadyReplicas api
    processActiveFromReplicaCounts (some (specReplicas, ready))

end BifrostApi.Ops
