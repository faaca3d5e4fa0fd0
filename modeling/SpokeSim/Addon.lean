import SpokeSim.Api.Call
import SpokeSim.Simulator.Names

/-!
# The add-on

The simulator needs the observability add-on, whose objects are its templates.  The add-on is up
when its namespace holds a pod.
-/

namespace SpokeSim

/-- Ask the hub for a pod of the add-on. -/
def listAddonPods : Sim (Except ApiError (Api.Listing .pod)) :=
  Api.list .pod addonNamespace "&limit=1"

/-- Whether the add-on is up, judged by some of its pods. -/
def isAddonUpBy (pods : Sim (Except ApiError (Api.Listing .pod))) : Sim (Except ApiError Bool) := do
  match ← pods with
  | .error e => return .error e
  | .ok pods =>
    log .debug .addon
      ("Found " ++ toString pods.items.length ++ " pod(s) in namespace " ++ addonNamespace)
    return .ok (!pods.items.isEmpty)

/-- Whether the add-on is up. -/
def isAddonUp : Sim (Except ApiError Bool) := isAddonUpBy listAddonPods

end SpokeSim
