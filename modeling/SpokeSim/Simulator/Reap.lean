import SpokeSim.Api.Call
import SpokeSim.Simulator.Names

/-!
# Reaping

Reaping removes the six objects of a cluster.  Each is asked to be removed whatever became of the
others; the log tells how it went, and the number of removed objects is the result.
-/

namespace SpokeSim

/-- The objects of a cluster, kind and name, in the order in which they are removed. -/
def clusterObjects (cluster : String) : List (Kind × String) :=
  [(.clusterRoleBinding, bindingName cluster),
    (.deployment, collectorName),
    (.serviceAccount, endpointAccountName),
    (.secret, signerCertName),
    (.secret, managedCertName),
    (.configMap, caBundleName)]

/-- The keys under which a hub keeps the objects of a cluster, in the same order. -/
def clusterKeys (cluster : String) : List String :=
  (clusterObjects cluster).map fun (k, name) => k.collection cluster ++ "/" ++ name

/-- Remove one object of a cluster, and tell whether that worked. -/
def removeObject (cluster : String) (k : Kind) (name : String) : Sim Bool := do
  match ← Api.delete k cluster name with
  | .ok () =>
    log .info .reaper ("Deleted " ++ k.name ++ " " ++ name ++ " for cluster " ++ cluster)
    return true
  | .error e =>
    let (code, reason) := e.statusOf
    log .error .reaper ("failed to delete " ++ k.name ++ " " ++ name ++ " for " ++ cluster
      ++ ", err: " ++ toString code ++ ":" ++ reason)
    return false

/-- Remove objects of a cluster one after the other, and count those that went. -/
def removeObjects (cluster : String) : List (Kind × String) → Sim Nat
  | [] => return 0
  | (k, name) :: rest => do
    let removed ← removeObject cluster k name
    let count ← removeObjects cluster rest
    return (if removed then count + 1 else count)

/-- Remove all objects of a cluster, and count those that went. -/
def reap (cluster : String) : Sim Nat := do
  let count ← removeObjects cluster (clusterObjects cluster)
  log .info .reaper ("Removed " ++ toString count ++ "/"
    ++ toString (clusterObjects cluster).length ++ " simulator objects for cluster " ++ cluster)
  return count

end SpokeSim
