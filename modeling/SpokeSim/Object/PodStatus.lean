import SpokeSim.Object.Container

/-!
# The state of a pod

What the hub has observed of a pod and of its containers.
-/

namespace SpokeSim

open Codec Record Time

/-- A container that runs. -/
structure RunningState where
  startedAt : Option Timestamp := none

/-- The fields of a running container's state. -/
def RunningState.record : Record RunningState :=
  (optional "startedAt" Timestamp.codec).via (fun startedAt => { startedAt }) (fun s => s.startedAt)

/-- A container that has come to its end. -/
structure TerminatedState where
  containerID : Option String := none
  exitCode : Int32 := 0
  finishedAt : Option Timestamp := none
  message : Option String := none
  reason : Option String := none
  signal : Option Int32 := none
  startedAt : Option Timestamp := none

/-- The fields of an ended container's state. -/
def TerminatedState.record : Record TerminatedState :=
  ((optional "containerID" text).and <|
   (defaulted "exitCode" int32 0).and <|
   (optional "finishedAt" Timestamp.codec).and <|
   (optional "message" text).and <|
   (optional "reason" text).and <|
   (optional "signal" int32).and <|
   (optional "startedAt" Timestamp.codec)).via
    (fun (containerID, exitCode, finishedAt, message, reason, signal, startedAt) =>
      { containerID, exitCode, finishedAt, message, reason, signal, startedAt })
    (fun s => (s.containerID, s.exitCode, s.finishedAt, s.message, s.reason, s.signal, s.startedAt))

/-- A container that is not yet running. -/
structure WaitingState where
  message : Option String := none
  reason : Option String := none

/-- The fields of a waiting container's state. -/
def WaitingState.record : Record WaitingState :=
  ((optional "message" text).and <| (optional "reason" text)).via
    (fun (message, reason) => { message, reason })
    (fun s => (s.message, s.reason))

/-- The state of a container. -/
structure ContainerState where
  running : Option RunningState := none
  terminated : Option TerminatedState := none
  waiting : Option WaitingState := none

/-- The fields of a container's state. -/
def ContainerState.record : Record ContainerState :=
  ((optional "running" RunningState.record.codec).and <|
   (optional "terminated" TerminatedState.record.codec).and <|
   (optional "waiting" WaitingState.record.codec)).via
    (fun (running, terminated, waiting) => { running, terminated, waiting })
    (fun s => (s.running, s.terminated, s.waiting))

/-- Where a container sees a volume, as it has come out. -/
structure MountStatus where
  mountPath : String := ""
  name : String := ""
  readOnly : Option Bool := none
  recursiveReadOnly : Option String := none

def MountStatus.record : Record MountStatus :=
  ((defaulted "mountPath" text "").and <|
   (defaulted "name" text "").and <|
   (optional "readOnly" bool).and <|
   (optional "recursiveReadOnly" text)).via
    (fun (mountPath, name, readOnly, recursiveReadOnly) =>
      { mountPath, name, readOnly, recursiveReadOnly })
    (fun s => (s.mountPath, s.name, s.readOnly, s.recursiveReadOnly))

/-- How far a container has come. -/
structure ContainerStatus where
  allocatedResources : Option (KeyMap String) := none
  containerID : Option String := none
  image : String := ""
  imageID : String := ""
  lastState : Option ContainerState := none
  name : String := ""
  ready : Bool := false
  resources : Option ResourceRequirements := none
  restartCount : Int32 := 0
  started : Option Bool := none
  state : Option ContainerState := none
  volumeMounts : Option (List MountStatus) := none

/-- The fields of a container's progress. -/
def ContainerStatus.record : Record ContainerStatus :=
  ((optional "allocatedResources" (map text)).and <|
   (optional "containerID" text).and <|
   (defaulted "image" text "").and <|
   (defaulted "imageID" text "").and <|
   (optional "lastState" ContainerState.record.codec).and <|
   (defaulted "name" text "").and <|
   (defaulted "ready" bool false).and <|
   (optional "resources" ResourceRequirements.record.codec).and <|
   (defaulted "restartCount" int32 0).and <|
   (optional "started" bool).and <|
   (optional "state" ContainerState.record.codec).and <|
   (optional "volumeMounts" (list MountStatus.record.codec))).via
    (fun (allocatedResources, containerID, image, imageID, lastState, name, ready, resources,
        restartCount, started, state, volumeMounts) =>
      { allocatedResources, containerID, image, imageID, lastState, name, ready, resources,
        restartCount, started, state, volumeMounts })
    (fun s =>
      (s.allocatedResources, s.containerID, s.image, s.imageID, s.lastState, s.name, s.ready,
        s.resources, s.restartCount, s.started, s.state, s.volumeMounts))

/-- One observation about a pod. -/
structure PodCondition where
  lastProbeTime : Option Timestamp := none
  lastTransitionTime : Option Timestamp := none
  message : Option String := none
  reason : Option String := none
  status : String := ""
  type : String := ""

def PodCondition.record : Record PodCondition :=
  ((optional "lastProbeTime" Timestamp.codec).and <|
   (optional "lastTransitionTime" Timestamp.codec).and <|
   (optional "message" text).and <|
   (optional "reason" text).and <|
   (defaulted "status" text "").and <|
   (defaulted "type" text "")).via
    (fun (lastProbeTime, lastTransitionTime, message, reason, status, type) =>
      { lastProbeTime, lastTransitionTime, message, reason, status, type })
    (fun c => (c.lastProbeTime, c.lastTransitionTime, c.message, c.reason, c.status, c.type))

/-- An address of a pod or of its machine. -/
structure Address where
  ip : String := ""

/-- The fields of an address. -/
def Address.record : Record Address :=
  (defaulted "ip" text "").via (fun ip => { ip }) (fun a => a.ip)

/-- The claim that has been made for a pod. -/
structure ClaimStatus where
  name : String := ""
  resourceClaimName : Option String := none

def ClaimStatus.record : Record ClaimStatus :=
  ((defaulted "name" text "").and <| (optional "resourceClaimName" text)).via
    (fun (name, resourceClaimName) => { name, resourceClaimName })
    (fun s => (s.name, s.resourceClaimName))

/-- How far a pod has come. -/
structure PodStatus where
  conditions : Option (List PodCondition) := none
  containerStatuses : Option (List ContainerStatus) := none
  ephemeralContainerStatuses : Option (List ContainerStatus) := none
  hostIP : Option String := none
  hostIPs : Option (List Address) := none
  initContainerStatuses : Option (List ContainerStatus) := none
  message : Option String := none
  nominatedNodeName : Option String := none
  phase : Option String := none
  podIP : Option String := none
  podIPs : Option (List Address) := none
  qosClass : Option String := none
  reason : Option String := none
  resize : Option String := none
  resourceClaimStatuses : Option (List ClaimStatus) := none
  startTime : Option Timestamp := none

/-- The fields of a pod's state. -/
def PodStatus.record : Record PodStatus :=
  ((optional "conditions" (list PodCondition.record.codec)).and <|
   (optional "containerStatuses" (list ContainerStatus.record.codec)).and <|
   (optional "ephemeralContainerStatuses" (list ContainerStatus.record.codec)).and <|
   (optional "hostIP" text).and <|
   (optional "hostIPs" (list Address.record.codec)).and <|
   (optional "initContainerStatuses" (list ContainerStatus.record.codec)).and <|
   (optional "message" text).and <|
   (optional "nominatedNodeName" text).and <|
   (optional "phase" text).and <|
   (optional "podIP" text).and <|
   (optional "podIPs" (list Address.record.codec)).and <|
   (optional "qosClass" text).and <|
   (optional "reason" text).and <|
   (optional "resize" text).and <|
   (optional "resourceClaimStatuses" (list ClaimStatus.record.codec)).and <|
   (optional "startTime" Timestamp.codec)).via
    (fun (conditions, containerStatuses, ephemeralContainerStatuses, hostIP, hostIPs,
        initContainerStatuses, message, nominatedNodeName, phase, podIP, podIPs, qosClass, reason,
        resize, resourceClaimStatuses, startTime) =>
      { conditions, containerStatuses, ephemeralContainerStatuses, hostIP, hostIPs,
        initContainerStatuses, message, nominatedNodeName, phase, podIP, podIPs, qosClass, reason,
        resize, resourceClaimStatuses, startTime })
    (fun s =>
      (s.conditions, s.containerStatuses, s.ephemeralContainerStatuses, s.hostIP, s.hostIPs,
        s.initContainerStatuses, s.message, s.nominatedNodeName, s.phase, s.podIP, s.podIPs,
        s.qosClass, s.reason, s.resize, s.resourceClaimStatuses, s.startTime))

end SpokeSim
