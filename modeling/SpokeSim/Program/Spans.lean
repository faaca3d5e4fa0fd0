import SpokeSim.Log
import SpokeSim.Simulator.Handler
import SpokeSim.Text.Quoted

/-!
# Spans of the program

The stretches of the program's work that a log filter can select, and a handler whose work stands in
its spans (`Handler.spanned`).
-/

namespace SpokeSim

namespace Span

/-- Connecting to the hub by a kubeconfig, if one is given. -/
def connecting (path : Option String) : Span where
  name := "create_hub_client"
  component := .hubClient
  fields :=
    [("hub_config", match path with
      | some path => "Some(" ++ Text.quoted path ++ ")"
      | none => "None")]

/-- Looking for the add-on. -/
def lookingForAddon : Span := { name := "is_addon_enabled", component := .addon }

/-- Provisioning a cluster. -/
def provisioning (cluster : String) : Span where
  name := "provision"
  component := .provisioner
  fields := [("cluster_name", Text.quoted cluster)]

/-- Reaping a cluster. -/
def reaping (cluster : String) : Span where
  name := "reap"
  component := .reaper
  fields := [("cluster_name", Text.quoted cluster)]

/-- Reaping all clusters in scope. -/
def cleaningUp (scope : String) : Span where
  name := "reap_all"
  component := .cleanup
  fields := [("prefix", Text.quoted scope)]

end Span

/-- The same handler, with its work in spans. -/
def Handler.spanned {σ : Type} [LogSink σ] (h : Handler σ) : Handler σ where
  provision cluster := inSpan (.provisioning cluster) (h.provision cluster)
  reap cluster := inSpan (.reaping cluster) (h.reap cluster)

end SpokeSim
