import SpokeSim.Addon
import SpokeSim.Cleanup
import SpokeSim.Reconciler

/-!
# Sessions

A session is one hub, one simulator and one reconciler over which operations are performed, one
after the other.  Some of them change the hub behind the simulator's back: faults, which are routes
that can be taken back, and objects that are put or removed directly.
-/

namespace SpokeSim

/-- Something to be done in a session. -/
inductive Operation where
  /-- The reconciler handles an event. -/
  | event (e : ClusterEvent)
  | provision (cluster : String)
  | reap (cluster : String)
  /-- The simulator is called as a handler. -/
  | call (c : HandlerCall)
  | reapAll (scope : String)
  | addon
  /-- Answer some requests by a route from now on. -/
  | fault (r : Route)
  /-- Take all faults back. -/
  | clearFaults
  | put (path : String) (object : Json)
  | remove (path : String)

/-- What an operation gives. -/
inductive Operation.Result where
  | nothing
  | done (r : Except SimError Unit)
  | count (r : Except SimError Nat)
  | answer (r : Except ApiError Bool)

/-- The state of a session. -/
structure Session where
  world : World
  reconciler : Reconciler := {}
  /-- How many of the hub's last routes are faults. -/
  faults : Nat := 0

namespace Session

/-- Act on the world of a session. -/
def act {α : Type} (s : Session) (action : Sim α) (result : α → Operation.Result) :
    Operation.Result × Session :=
  let (a, world) := action s.world
  (result a, { s with world })

/-- Change the hub of a session. -/
def changeHub (s : Session) (change : Hub → Hub) : Operation.Result × Session :=
  (.nothing, { s with world := { s.world with hub := change s.world.hub } })

/-- Perform an operation. -/
def perform (s : Session) : Operation → Operation.Result × Session
  | .event e =>
    let (reconciler, world) := s.reconciler.handle Handler.simulator e s.world
    (.nothing, { s with world, reconciler })
  | .provision cluster => s.act (SpokeSim.provision cluster) .done
  | .reap cluster => s.act (SpokeSim.reap cluster) fun n => .count (.ok n)
  | .call (.provision cluster) => s.act (Handler.simulator.provision cluster) .done
  | .call (.reap cluster) => s.act (Handler.simulator.reap cluster) fun _ => .nothing
  | .reapAll scope => s.act (SpokeSim.reapAll listClusters Handler.simulator scope) .count
  | .addon => s.act isAddonUp .answer
  | .fault r =>
    let (result, s) := s.changeHub fun h => { h with routes := h.routes ++ [r] }
    (result, { s with faults := s.faults + 1 })
  | .clearFaults =>
    let (result, s) :=
      s.changeHub fun h => { h with routes := h.routes.take (h.routes.length - s.faults) }
    (result, { s with faults := 0 })
  | .put path object => s.changeHub fun h => { h with objects := h.objects.insert path object }
  | .remove path => s.changeHub fun h => { h with objects := h.objects.erase path }

end Session

end SpokeSim
