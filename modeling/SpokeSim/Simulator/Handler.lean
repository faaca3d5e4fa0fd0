import SpokeSim.Simulator.Provision
import SpokeSim.Simulator.Reap

/-!
# Handlers of clusters

A handler does what is to be done when a cluster comes and when it goes.  `Handler.simulator` acts
on the hub; `Handler.recorder` does nothing, fails for chosen clusters, and serves to look at calls
alone.  `Handler.traced` writes down the calls to any handler.
-/

namespace SpokeSim

/-- What is done for a cluster that comes or goes. -/
structure Handler (σ : Type) where
  provision : String → StateM σ (Except SimError Unit)
  reap : String → StateM σ Unit

/-- A call to a handler. -/
inductive HandlerCall where
  | provision (cluster : String)
  | reap (cluster : String)
deriving DecidableEq, Repr

namespace Handler

/-- The handler that acts on the hub. -/
def simulator : Handler World where
  provision := SpokeSim.provision
  reap cluster := discard (SpokeSim.reap cluster)

/-- The handler that does nothing, and fails to provision the given clusters. -/
def recorder {σ : Type} (failing : List String) : Handler σ where
  provision cluster :=
    return if cluster ∈ failing then .error (.provision .deployment) else .ok ()
  reap _ := return ()

/-- Act on the first part of a state. -/
def onFirst {σ τ α : Type} (act : StateM σ α) : StateM (σ × τ) α := fun s =>
  let (a, s₁) := act s.1
  (a, (s₁, s.2))

/-- Write down a call. -/
def note {σ : Type} (call : HandlerCall) : StateM (σ × List HandlerCall) Unit :=
  modify fun s => (s.1, s.2 ++ [call])

/-- The same handler, with its calls written down in their order. -/
def traced {σ : Type} (h : Handler σ) : Handler (σ × List HandlerCall) where
  provision cluster := do
    note (.provision cluster)
    onFirst (h.provision cluster)
  reap cluster := do
    note (.reap cluster)
    onFirst (h.reap cluster)

end Handler

end SpokeSim
