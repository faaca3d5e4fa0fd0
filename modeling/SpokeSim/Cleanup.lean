import SpokeSim.Simulator.Handler

/-!
# Cleaning up

Cleaning up reaps every listed cluster in scope.  Only the list can fail; each cluster is reaped
whatever became of the others.
-/

namespace SpokeSim

/-- Ask the hub for all clusters. -/
def listClusters : Sim (Except ApiError (Api.Listing .managedCluster)) :=
  Api.list .managedCluster "" ""

variable {σ : Type} [LogSink σ]

/-- Reap clusters one after the other. -/
def reapEach (h : Handler σ) : List ManagedCluster → StateM σ Unit
  | [] => return ()
  | c :: cs => do
    log .info .cleanup ("deleting resources on cluster " ++ c.name ++ " (available: "
      ++ toString c.isAvailable ++ ")")
    h.reap c.name
    reapEach h cs

/-- Reap every listed cluster whose name starts with `scope`, and count them. -/
def reapAll (clusters : StateM σ (Except ApiError (Api.Listing .managedCluster))) (h : Handler σ)
    (scope : String) : StateM σ (Except SimError Nat) := do
  match ← clusters with
  | .error e => return .error (.api e)
  | .ok listing =>
    let chosen := listing.items.filter fun c => startsWith c.name scope
    reapEach h chosen
    log .info .cleanup ("Removed simulators from " ++ toString chosen.length ++ " cluster(s)")
    return .ok chosen.length

end SpokeSim
