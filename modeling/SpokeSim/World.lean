import SpokeSim.ClusterId
import SpokeSim.Hub.Basic
import SpokeSim.Log

/-!
# The world of the simulator

What the simulator acts on: the hub, a supply of random identifiers, what has been exchanged with
the hub so far, and the log.  A `Sim` is an action on this world.
-/

namespace SpokeSim

/-- The hub and all that has happened. -/
structure World where
  hub : Hub
  /-- The identifiers to be drawn, in their order. -/
  ids : Nat → ClusterId
  /-- How many identifiers have been drawn. -/
  drawn : Nat := 0
  /-- Requests with their answers, oldest first. -/
  exchanges : List (Request × Answer) := []
  /-- The log, oldest line first. -/
  lines : List LogLine := []

/-- Lines go to the world's log. -/
instance : LogSink World := ⟨World.lines, fun lines w => { w with lines }⟩

/-- An action on the world. -/
abbrev Sim := StateM World

namespace Sim

/-- Send a request and receive its answer. -/
def exchange (q : Request) : Sim Answer := fun w =>
  let (a, hub) := w.hub.answer q
  (a, { w with hub, exchanges := w.exchanges ++ [(q, a)] })

/-- Draw an identifier. -/
def freshId : Sim ClusterId := fun w => (w.ids w.drawn, { w with drawn := w.drawn + 1 })

end Sim

end SpokeSim
