import SpokeSim.Object.Pod

/-!
# Deployments

A deployment keeps a number of pods running, all made from its pod template.
-/

namespace SpokeSim

open Codec Record Time

/-- How fast pods are replaced. -/
structure RollingUpdate where
  maxSurge : Option IntOrText := none
  maxUnavailable : Option IntOrText := none

/-- The fields of a rolling update. -/
def RollingUpdate.record : Record RollingUpdate :=
  ((optional "maxSurge" IntOrText.codec).and <| (optional "maxUnavailable" IntOrText.codec)).via
    (fun (maxSurge, maxUnavailable) => { maxSurge, maxUnavailable })
    (fun r => (r.maxSurge, r.maxUnavailable))

/-- How pods are replaced. -/
structure DeploymentStrategy where
  rollingUpdate : Option RollingUpdate := none
  type : Option String := none

/-- The fields of a strategy. -/
def DeploymentStrategy.record : Record DeploymentStrategy :=
  ((optional "rollingUpdate" RollingUpdate.record.codec).and <| (optional "type" text)).via
    (fun (rollingUpdate, type) => { rollingUpdate, type })
    (fun s => (s.rollingUpdate, s.type))

/-- What the pods of a deployment are made from. -/
structure PodTemplate where
  metadata : Option ObjectMeta := none
  spec : Option PodSpec := none

/-- The fields of a pod template. -/
def PodTemplate.record : Record PodTemplate :=
  ((optional "metadata" ObjectMeta.codec).and <| (optional "spec" PodSpec.record.codec)).via
    (fun (metadata, spec) => { metadata, spec })
    (fun t => (t.metadata, t.spec))

/-- What a deployment is to keep running. -/
structure DeploymentSpec where
  minReadySeconds : Option Int32 := none
  paused : Option Bool := none
  progressDeadlineSeconds : Option Int32 := none
  replicas : Option Int32 := none
  revisionHistoryLimit : Option Int32 := none
  selector : LabelSelector := {}
  strategy : Option DeploymentStrategy := none
  template : PodTemplate := {}

/-- The fields of a deployment's specification. -/
def DeploymentSpec.record : Record DeploymentSpec :=
  ((optional "minReadySeconds" int32).and <|
   (optional "paused" bool).and <|
   (optional "progressDeadlineSeconds" int32).and <|
   (optional "replicas" int32).and <|
   (optional "revisionHistoryLimit" int32).and <|
   (defaulted "selector" LabelSelector.record.codec {}).and <|
   (optional "strategy" DeploymentStrategy.record.codec).and <|
   (defaulted "template" PodTemplate.record.codec {})).via
    (fun (minReadySeconds, paused, progressDeadlineSeconds, replicas, revisionHistoryLimit,
        selector, strategy, template) =>
      { minReadySeconds, paused, progressDeadlineSeconds, replicas, revisionHistoryLimit,
        selector, strategy, template })
    (fun s =>
      (s.minReadySeconds, s.paused, s.progressDeadlineSeconds, s.replicas, s.revisionHistoryLimit,
        s.selector, s.strategy, s.template))

/-- One observation about a deployment. -/
structure DeploymentCondition where
  lastTransitionTime : Option Timestamp := none
  lastUpdateTime : Option Timestamp := none
  message : Option String := none
  reason : Option String := none
  status : String := ""
  type : String := ""

/-- The fields of an observation about a deployment. -/
def DeploymentCondition.record : Record DeploymentCondition :=
  ((optional "lastTransitionTime" Timestamp.codec).and <|
   (optional "lastUpdateTime" Timestamp.codec).and <|
   (optional "message" text).and <|
   (optional "reason" text).and <|
   (defaulted "status" text "").and <|
   (defaulted "type" text "")).via
    (fun (lastTransitionTime, lastUpdateTime, message, reason, status, type) =>
      { lastTransitionTime, lastUpdateTime, message, reason, status, type })
    (fun c => (c.lastTransitionTime, c.lastUpdateTime, c.message, c.reason, c.status, c.type))

/-- How far a deployment has come. -/
structure DeploymentStatus where
  availableReplicas : Option Int32 := none
  collisionCount : Option Int32 := none
  conditions : Option (List DeploymentCondition) := none
  observedGeneration : Option Int64 := none
  readyReplicas : Option Int32 := none
  replicas : Option Int32 := none
  unavailableReplicas : Option Int32 := none
  updatedReplicas : Option Int32 := none

/-- The fields of a deployment's state. -/
def DeploymentStatus.record : Record DeploymentStatus :=
  ((optional "availableReplicas" int32).and <|
   (optional "collisionCount" int32).and <|
   (optional "conditions" (list DeploymentCondition.record.codec)).and <|
   (optional "observedGeneration" int64).and <|
   (optional "readyReplicas" int32).and <|
   (optional "replicas" int32).and <|
   (optional "unavailableReplicas" int32).and <|
   (optional "updatedReplicas" int32)).via
    (fun (availableReplicas, collisionCount, conditions, observedGeneration, readyReplicas,
        replicas, unavailableReplicas, updatedReplicas) =>
      { availableReplicas, collisionCount, conditions, observedGeneration, readyReplicas, replicas,
        unavailableReplicas, updatedReplicas })
    (fun s =>
      (s.availableReplicas, s.collisionCount, s.conditions, s.observedGeneration, s.readyReplicas,
        s.replicas, s.unavailableReplicas, s.updatedReplicas))

/-- A deployment. -/
structure Deployment where
  metadata : ObjectMeta := {}
  spec : Option DeploymentSpec := none
  status : Option DeploymentStatus := none

/-- The fields of a deployment. -/
def Deployment.record : Record Deployment :=
  ((constant "apiVersion" "apps/v1").and <|
   (constant "kind" "Deployment").and <|
   (defaulted "metadata" ObjectMeta.codec {}).and <|
   (optional "spec" DeploymentSpec.record.codec).and <|
   (optional "status" DeploymentStatus.record.codec)).via
    (fun (_, _, metadata, spec, status) => { metadata, spec, status })
    (fun d => ((), (), d.metadata, d.spec, d.status))

end SpokeSim
