import SpokeSim.Simulator.Handler
import SpokeSim.Watch.Stream

/-!
# The reconciler

A reconciler turns events into calls to a handler.  It provisions each cluster in its scope once,
and reaps it when it is deleted; the clusters that it has provisioned are *seen*, and its policy
says whether a deleted cluster is forgotten and so may be provisioned again.

* `Reconciler.handle`: one event.
* `Reconciler.run`: the events of a finite stream, up to its first error.
* `Reconciler.serve`: the events of a watch, up to its first fault.
-/

namespace SpokeSim

/-- What becomes of a seen cluster when it is deleted. -/
inductive SeenPolicy where
  /-- It stays seen, and is not provisioned again. -/
  | retain
  /-- It is forgotten, and may be provisioned again. -/
  | forget
deriving DecidableEq, Repr, Inhabited

/-- The name of a policy. -/
def SeenPolicy.name : SeenPolicy → String
  | retain => "Retain"
  | forget => "Forget"

/-- A reconciler: it cares for clusters whose name starts with `scope`. -/
structure Reconciler where
  scope : String := defaultScope
  policy : SeenPolicy := .retain
  /-- The clusters that have been provisioned, each once, the last one first. -/
  seen : List String := []
deriving DecidableEq, Repr, Inhabited

namespace Reconciler

variable {σ : Type} [LogSink σ]

/-- Whether a cluster is in scope. -/
def covers (r : Reconciler) (cluster : String) : Bool := startsWith cluster r.scope

/-- Tell that a cluster is out of scope. -/
def passOver (r : Reconciler) (cluster : String) : StateM σ Unit :=
  log .debug .reconciler ("Cluster " ++ cluster ++ " does not match prefix '" ++ r.scope ++ "'")

/-- A cluster has come: provision it if it is in scope and not seen.  It counts as seen even if that
fails. -/
def add (h : Handler σ) (r : Reconciler) (cluster : String) : StateM σ Reconciler := do
  if cluster ∈ r.seen then
    log .debug .reconciler ("Cluster " ++ cluster ++ " already handled, skipping")
    return r
  else if r.covers cluster then
    match ← h.provision cluster with
    | .ok () => pure ()
    | .error e =>
      log .error .reconciler
        ("failed to create simulator for cluster: " ++ cluster ++ ", err: " ++ e.message)
    return { r with seen := cluster :: r.seen }
  else
    r.passOver cluster
    return r

/-- A cluster has gone: reap it if it is in scope. -/
def delete (h : Handler σ) (r : Reconciler) (cluster : String) : StateM σ Reconciler := do
  if r.covers cluster then
    h.reap cluster
    match r.policy with
    | .retain => return r
    | .forget => return { r with seen := r.seen.filter (· ≠ cluster) }
  else
    r.passOver cluster
    return r

/-- Handle an event. -/
def handle (h : Handler σ) (r : Reconciler) : ClusterEvent → StateM σ Reconciler
  | .added cluster => do
    log .info .reconciler ("event: ADDED on cluster " ++ cluster)
    r.add h cluster
  | .deleted cluster => do
    log .info .reconciler ("event: DELETED on cluster " ++ cluster)
    r.delete h cluster
  | .other => return r

/-- Handle events in their order. -/
def handleAll (h : Handler σ) : Reconciler → List ClusterEvent → StateM σ Reconciler
  | r, [] => return r
  | r, e :: es => do
    let r ← r.handle h e
    handleAll h r es

/-! ## Streams -/

/-- Tell that the watch begins. -/
def announce (r : Reconciler) : StateM σ Unit :=
  log .info .reconciler
    ("Start watching cluster.open-cluster-management.io/v1/ManagedCluster with prefix '"
      ++ r.scope ++ "'")

/-- Tell that the watch has broken off. -/
def breakOff (text : String) : StateM σ SimError := do
  log .error .reconciler ("Cluster watch failed: " ++ text)
  return .watch text

/-- Tell that the watch has ended. -/
def conclude : StateM σ Unit := log .info .reconciler "Cluster watch stream ended"

/-- Handle the events of a stream up to its end or its first error. -/
def consume (h : Handler σ) :
    Reconciler → List (Except String ClusterEvent) → StateM σ (Except SimError Unit × Reconciler)
  | r, [] => do
    conclude
    return (.ok (), r)
  | r, .ok e :: es => do
    let r ← r.handle h e
    consume h r es
  | r, .error text :: _ => do
    let e ← breakOff text
    return (.error e, r)

/-- Watch a finite stream of events. -/
def run (h : Handler σ) (r : Reconciler) (events : List (Except String ClusterEvent)) :
    StateM σ (Except SimError Unit × Reconciler) := do
  r.announce
  r.consume h events

/-- Handle the events of a watch up to its first fault.  A watch does not end of its own; it is
left after so many steps as if it had. -/
def follow (h : Handler World) : Nat → Reconciler → Watch → Sim (Except SimError Unit × Reconciler)
  | 0, r, _ => do
    conclude
    return (.ok (), r)
  | fuel + 1, r, w => do
    match ← w.step with
    | (none, w) => follow h fuel r w
    | (some (.ok news), w) =>
      let r ← r.handle h news.event
      follow h fuel r w
    | (some (.error fault), _) =>
      let e ← breakOff fault.message
      return (.error e, r)

/-- Watch the hub, for so many steps at most. -/
def serve (h : Handler World) (fuel : Nat) (r : Reconciler) :
    Sim (Except SimError Unit × Reconciler) := do
  r.announce
  follow h fuel r .fresh

end Reconciler

end SpokeSim
