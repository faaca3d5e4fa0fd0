import SpokeSim.Object.Selector

/-!
# Placement

On which machines a pod may run, seen from the machines and from the pods that run there already.
-/

namespace SpokeSim

open Codec Record

/-- What a pod puts up with in a machine. -/
structure Toleration where
  effect : Option String := none
  key : Option String := none
  operator : Option String := none
  tolerationSeconds : Option Int64 := none
  value : Option String := none

/-- The fields of a toleration. -/
def Toleration.record : Record Toleration :=
  ((optional "effect" text).and <|
   (optional "key" text).and <|
   (optional "operator" text).and <|
   (optional "tolerationSeconds" int64).and <|
   (optional "value" text)).via
    (fun (effect, key, operator, tolerationSeconds, value) =>
      { effect, key, operator, tolerationSeconds, value })
    (fun t => (t.effect, t.key, t.operator, t.tolerationSeconds, t.value))

/-- Conditions on the labels and fields of a machine, all of which must hold. -/
structure NodeSelectorTerm where
  matchExpressions : Option (List SelectorRequirement) := none
  matchFields : Option (List SelectorRequirement) := none

def NodeSelectorTerm.record : Record NodeSelectorTerm :=
  ((optional "matchExpressions" (list SelectorRequirement.record.codec)).and <|
   (optional "matchFields" (list SelectorRequirement.record.codec))).via
    (fun (matchExpressions, matchFields) => { matchExpressions, matchFields })
    (fun t => (t.matchExpressions, t.matchFields))

/-- Conditions on a machine, one of which must hold. -/
structure NodeSelector where
  nodeSelectorTerms : List NodeSelectorTerm := []

/-- The fields of a machine selector. -/
def NodeSelector.record : Record NodeSelector :=
  (defaulted "nodeSelectorTerms" (list NodeSelectorTerm.record.codec) []).via
    (fun nodeSelectorTerms => { nodeSelectorTerms })
    (fun s => s.nodeSelectorTerms)

/-- Machines that are preferred, and how much. -/
structure PreferredNodes where
  preference : NodeSelectorTerm := {}
  weight : Int32 := 0

def PreferredNodes.record : Record PreferredNodes :=
  ((defaulted "preference" NodeSelectorTerm.record.codec {}).and <|
   (defaulted "weight" int32 0)).via
    (fun (preference, weight) => { preference, weight })
    (fun p => (p.preference, p.weight))

/-- Machines that a pod prefers, and machines that it needs. -/
structure NodeAffinity where
  preferred : Option (List PreferredNodes) := none
  needed : Option NodeSelector := none

/-- The fields of an affinity to machines. -/
def NodeAffinity.record : Record NodeAffinity :=
  ((optional "preferredDuringSchedulingIgnoredDuringExecution"
      (list PreferredNodes.record.codec)).and <|
   (optional "requiredDuringSchedulingIgnoredDuringExecution" NodeSelector.record.codec)).via
    (fun (preferred, needed) => { preferred, needed })
    (fun a => (a.preferred, a.needed))

/-- Pods that are near, or are not, in some sense of near. -/
structure PodAffinityTerm where
  labelSelector : Option LabelSelector := none
  matchLabelKeys : Option (List String) := none
  mismatchLabelKeys : Option (List String) := none
  namespaceSelector : Option LabelSelector := none
  namespaces : Option (List String) := none
  topologyKey : String := ""

def PodAffinityTerm.record : Record PodAffinityTerm :=
  ((optional "labelSelector" LabelSelector.record.codec).and <|
   (optional "matchLabelKeys" (list text)).and <|
   (optional "mismatchLabelKeys" (list text)).and <|
   (optional "namespaceSelector" LabelSelector.record.codec).and <|
   (optional "namespaces" (list text)).and <|
   (defaulted "topologyKey" text "")).via
    (fun (labelSelector, matchLabelKeys, mismatchLabelKeys, namespaceSelector, namespaces,
        topologyKey) =>
      { labelSelector, matchLabelKeys, mismatchLabelKeys, namespaceSelector, namespaces,
        topologyKey })
    (fun t =>
      (t.labelSelector, t.matchLabelKeys, t.mismatchLabelKeys, t.namespaceSelector, t.namespaces,
        t.topologyKey))

/-- Pods whose nearness is preferred, and how much. -/
structure PreferredPods where
  podAffinityTerm : PodAffinityTerm := {}
  weight : Int32 := 0

def PreferredPods.record : Record PreferredPods :=
  ((defaulted "podAffinityTerm" PodAffinityTerm.record.codec {}).and <|
   (defaulted "weight" int32 0)).via
    (fun (podAffinityTerm, weight) => { podAffinityTerm, weight })
    (fun p => (p.podAffinityTerm, p.weight))

/-- Pods that a pod would like near, and pods that it needs near; or that it avoids. -/
structure PodAffinity where
  preferred : Option (List PreferredPods) := none
  needed : Option (List PodAffinityTerm) := none

/-- The fields of an affinity to pods. -/
def PodAffinity.record : Record PodAffinity :=
  ((optional "preferredDuringSchedulingIgnoredDuringExecution"
      (list PreferredPods.record.codec)).and <|
   (optional "requiredDuringSchedulingIgnoredDuringExecution"
      (list PodAffinityTerm.record.codec))).via
    (fun (preferred, needed) => { preferred, needed })
    (fun a => (a.preferred, a.needed))

/-- Which machines and pods a pod seeks, and which pods it avoids. -/
structure Affinity where
  nodeAffinity : Option NodeAffinity := none
  podAffinity : Option PodAffinity := none
  podAntiAffinity : Option PodAffinity := none

/-- The fields of an affinity. -/
def Affinity.record : Record Affinity :=
  ((optional "nodeAffinity" NodeAffinity.record.codec).and <|
   (optional "podAffinity" PodAffinity.record.codec).and <|
   (optional "podAntiAffinity" PodAffinity.record.codec)).via
    (fun (nodeAffinity, podAffinity, podAntiAffinity) =>
      { nodeAffinity, podAffinity, podAntiAffinity })
    (fun a => (a.nodeAffinity, a.podAffinity, a.podAntiAffinity))

/-- How pods are to be spread over the machines. -/
structure SpreadConstraint where
  labelSelector : Option LabelSelector := none
  matchLabelKeys : Option (List String) := none
  maxSkew : Int32 := 0
  minDomains : Option Int32 := none
  nodeAffinityPolicy : Option String := none
  nodeTaintsPolicy : Option String := none
  topologyKey : String := ""
  whenUnsatisfiable : String := ""

/-- The fields of a spread constraint. -/
def SpreadConstraint.record : Record SpreadConstraint :=
  ((optional "labelSelector" LabelSelector.record.codec).and <|
   (optional "matchLabelKeys" (list text)).and <|
   (defaulted "maxSkew" int32 0).and <|
   (optional "minDomains" int32).and <|
   (optional "nodeAffinityPolicy" text).and <|
   (optional "nodeTaintsPolicy" text).and <|
   (defaulted "topologyKey" text "").and <|
   (defaulted "whenUnsatisfiable" text "")).via
    (fun (labelSelector, matchLabelKeys, maxSkew, minDomains, nodeAffinityPolicy, nodeTaintsPolicy,
        topologyKey, whenUnsatisfiable) =>
      { labelSelector, matchLabelKeys, maxSkew, minDomains, nodeAffinityPolicy, nodeTaintsPolicy,
        topologyKey, whenUnsatisfiable })
    (fun c =>
      (c.labelSelector, c.matchLabelKeys, c.maxSkew, c.minDomains, c.nodeAffinityPolicy,
        c.nodeTaintsPolicy, c.topologyKey, c.whenUnsatisfiable))

end SpokeSim
