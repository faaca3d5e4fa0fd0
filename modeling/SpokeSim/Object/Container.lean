import SpokeSim.Object.Probe
import SpokeSim.Object.Security
import SpokeSim.Object.Volume

/-!
# Containers

A container of a pod: its image and command, its environment and ports, what it may use of the
machine, how it is looked after, and where it sees the pod's volumes.
-/

namespace SpokeSim

open Codec Record

/-- A key of a config map or secret as the value of a variable. -/
structure KeySelector where
  key : String := ""
  name : String := ""
  isOptional : Option Bool := none

/-- The fields of a key selector. -/
def KeySelector.record : Record KeySelector :=
  ((defaulted "key" text "").and <|
   (defaulted "name" text "").and <|
   (optional "optional" bool)).via
    (fun (key, name, isOptional) => { key, name, isOptional })
    (fun s => (s.key, s.name, s.isOptional))

/-- Where a variable takes its value from. -/
structure EnvVarSource where
  configMapKeyRef : Option KeySelector := none
  fieldRef : Option FieldSelector := none
  resourceFieldRef : Option ResourceFieldSelector := none
  secretKeyRef : Option KeySelector := none

/-- The fields of a variable's source. -/
def EnvVarSource.record : Record EnvVarSource :=
  ((optional "configMapKeyRef" KeySelector.record.codec).and <|
   (optional "fieldRef" FieldSelector.record.codec).and <|
   (optional "resourceFieldRef" ResourceFieldSelector.record.codec).and <|
   (optional "secretKeyRef" KeySelector.record.codec)).via
    (fun (configMapKeyRef, fieldRef, resourceFieldRef, secretKeyRef) =>
      { configMapKeyRef, fieldRef, resourceFieldRef, secretKeyRef })
    (fun s => (s.configMapKeyRef, s.fieldRef, s.resourceFieldRef, s.secretKeyRef))

/-- A variable of the environment. -/
structure EnvVar where
  name : String := ""
  value : Option String := none
  valueFrom : Option EnvVarSource := none

/-- The fields of a variable. -/
def EnvVar.record : Record EnvVar :=
  ((defaulted "name" text "").and <|
   (optional "value" text).and <|
   (optional "valueFrom" EnvVarSource.record.codec)).via
    (fun (name, value, valueFrom) => { name, value, valueFrom })
    (fun v => (v.name, v.value, v.valueFrom))

/-- A config map or secret all of whose keys are variables. -/
structure EnvReference where
  name : String := ""
  isOptional : Option Bool := none

def EnvReference.record : Record EnvReference :=
  ((defaulted "name" text "").and <| (optional "optional" bool)).via
    (fun (name, isOptional) => { name, isOptional })
    (fun r => (r.name, r.isOptional))

/-- Where the environment takes many variables from, with a beginning for their names. -/
structure EnvFromSource where
  configMapRef : Option EnvReference := none
  namePrefix : Option String := none
  secretRef : Option EnvReference := none

/-- The fields of a source of variables. -/
def EnvFromSource.record : Record EnvFromSource :=
  ((optional "configMapRef" EnvReference.record.codec).and <|
   (optional "prefix" text).and <|
   (optional "secretRef" EnvReference.record.codec)).via
    (fun (configMapRef, namePrefix, secretRef) => { configMapRef, namePrefix, secretRef })
    (fun s => (s.configMapRef, s.namePrefix, s.secretRef))

/-- A port that a container listens on. -/
structure ContainerPort where
  containerPort : Int32 := 0
  hostIP : Option String := none
  hostPort : Option Int32 := none
  name : Option String := none
  protocol : Option String := none

/-- The fields of a port. -/
def ContainerPort.record : Record ContainerPort :=
  ((defaulted "containerPort" int32 0).and <|
   (optional "hostIP" text).and <|
   (optional "hostPort" int32).and <|
   (optional "name" text).and <|
   (optional "protocol" text)).via
    (fun (containerPort, hostIP, hostPort, name, protocol) =>
      { containerPort, hostIP, hostPort, name, protocol })
    (fun p => (p.containerPort, p.hostIP, p.hostPort, p.name, p.protocol))

/-- A claim on a resource of the pod. -/
structure ResourceClaim where
  name : String := ""

/-- The fields of a resource claim. -/
def ResourceClaim.record : Record ResourceClaim :=
  (defaulted "name" text "").via (fun name => { name }) (fun c => c.name)

/-- What a container needs and what it may use at most. -/
structure ResourceRequirements where
  claims : Option (List ResourceClaim) := none
  limits : Option (KeyMap String) := none
  requests : Option (KeyMap String) := none

/-- The fields of resource requirements. -/
def ResourceRequirements.record : Record ResourceRequirements :=
  ((optional "claims" (list ResourceClaim.record.codec)).and <|
   (optional "limits" (map text)).and <|
   (optional "requests" (map text))).via
    (fun (claims, limits, requests) => { claims, limits, requests })
    (fun r => (r.claims, r.limits, r.requests))

/-- What becomes of a container when a resource of it is changed. -/
structure ResizePolicy where
  resourceName : String := ""
  restartPolicy : String := ""

/-- The fields of a resize policy. -/
def ResizePolicy.record : Record ResizePolicy :=
  ((defaulted "resourceName" text "").and <| (defaulted "restartPolicy" text "")).via
    (fun (resourceName, restartPolicy) => { resourceName, restartPolicy })
    (fun p => (p.resourceName, p.restartPolicy))

/-- A container of a pod. -/
structure Container where
  args : Option (List String) := none
  command : Option (List String) := none
  env : Option (List EnvVar) := none
  envFrom : Option (List EnvFromSource) := none
  image : Option String := none
  imagePullPolicy : Option String := none
  lifecycle : Option Hooks := none
  livenessProbe : Option Probe := none
  name : String := ""
  ports : Option (List ContainerPort) := none
  readinessProbe : Option Probe := none
  resizePolicy : Option (List ResizePolicy) := none
  resources : Option ResourceRequirements := none
  restartPolicy : Option String := none
  securityContext : Option SecurityContext := none
  startupProbe : Option Probe := none
  stdin : Option Bool := none
  stdinOnce : Option Bool := none
  terminationMessagePath : Option String := none
  terminationMessagePolicy : Option String := none
  tty : Option Bool := none
  volumeDevices : Option (List VolumeDevice) := none
  volumeMounts : Option (List VolumeMount) := none
  workingDir : Option String := none

/-- The fields of a container. -/
def Container.record : Record Container :=
  ((optional "args" (list text)).and <|
   (optional "command" (list text)).and <|
   (optional "env" (list EnvVar.record.codec)).and <|
   (optional "envFrom" (list EnvFromSource.record.codec)).and <|
   (optional "image" text).and <|
   (optional "imagePullPolicy" text).and <|
   (optional "lifecycle" Hooks.record.codec).and <|
   (optional "livenessProbe" Probe.record.codec).and <|
   (defaulted "name" text "").and <|
   (optional "ports" (list ContainerPort.record.codec)).and <|
   (optional "readinessProbe" Probe.record.codec).and <|
   (optional "resizePolicy" (list ResizePolicy.record.codec)).and <|
   (optional "resources" ResourceRequirements.record.codec).and <|
   (optional "restartPolicy" text).and <|
   (optional "securityContext" SecurityContext.record.codec).and <|
   (optional "startupProbe" Probe.record.codec).and <|
   (optional "stdin" bool).and <|
   (optional "stdinOnce" bool).and <|
   (optional "terminationMessagePath" text).and <|
   (optional "terminationMessagePolicy" text).and <|
   (optional "tty" bool).and <|
   (optional "volumeDevices" (list VolumeDevice.record.codec)).and <|
   (optional "volumeMounts" (list VolumeMount.record.codec)).and <|
   (optional "workingDir" text)).via
    (fun (args, command, env, envFrom, image, imagePullPolicy, lifecycle, livenessProbe, name,
        ports, readinessProbe, resizePolicy, resources, restartPolicy, securityContext,
        startupProbe, stdin, stdinOnce, terminationMessagePath, terminationMessagePolicy, tty,
        volumeDevices, volumeMounts, workingDir) =>
      { args, command, env, envFrom, image, imagePullPolicy, lifecycle, livenessProbe, name, ports,
        readinessProbe, resizePolicy, resources, restartPolicy, securityContext, startupProbe,
        stdin, stdinOnce, terminationMessagePath, terminationMessagePolicy, tty, volumeDevices,
        volumeMounts, workingDir })
    (fun c =>
      (c.args, c.command, c.env, c.envFrom, c.image, c.imagePullPolicy, c.lifecycle,
        c.livenessProbe, c.name, c.ports, c.readinessProbe, c.resizePolicy, c.resources,
        c.restartPolicy, c.securityContext, c.startupProbe, c.stdin, c.stdinOnce,
        c.terminationMessagePath, c.terminationMessagePolicy, c.tty, c.volumeDevices,
        c.volumeMounts, c.workingDir))

/-- A container that joins a pod that runs already, to look into it. -/
structure EphemeralContainer extends Container where
  /-- The container whose processes it looks into. -/
  targetContainerName : Option String := none

/-- Its fields are those of a container and one more, which is written among them. -/
def EphemeralContainer.record : Record EphemeralContainer :=
  ((optional "args" (list text)).and <|
   (optional "command" (list text)).and <|
   (optional "env" (list EnvVar.record.codec)).and <|
   (optional "envFrom" (list EnvFromSource.record.codec)).and <|
   (optional "image" text).and <|
   (optional "imagePullPolicy" text).and <|
   (optional "lifecycle" Hooks.record.codec).and <|
   (optional "livenessProbe" Probe.record.codec).and <|
   (defaulted "name" text "").and <|
   (optional "ports" (list ContainerPort.record.codec)).and <|
   (optional "readinessProbe" Probe.record.codec).and <|
   (optional "resizePolicy" (list ResizePolicy.record.codec)).and <|
   (optional "resources" ResourceRequirements.record.codec).and <|
   (optional "restartPolicy" text).and <|
   (optional "securityContext" SecurityContext.record.codec).and <|
   (optional "startupProbe" Probe.record.codec).and <|
   (optional "stdin" bool).and <|
   (optional "stdinOnce" bool).and <|
   (optional "targetContainerName" text).and <|
   (optional "terminationMessagePath" text).and <|
   (optional "terminationMessagePolicy" text).and <|
   (optional "tty" bool).and <|
   (optional "volumeDevices" (list VolumeDevice.record.codec)).and <|
   (optional "volumeMounts" (list VolumeMount.record.codec)).and <|
   (optional "workingDir" text)).via
    (fun (args, command, env, envFrom, image, imagePullPolicy, lifecycle, livenessProbe, name,
        ports, readinessProbe, resizePolicy, resources, restartPolicy, securityContext,
        startupProbe, stdin, stdinOnce, targetContainerName, terminationMessagePath,
        terminationMessagePolicy, tty, volumeDevices, volumeMounts, workingDir) =>
      { args, command, env, envFrom, image, imagePullPolicy, lifecycle, livenessProbe, name, ports,
        readinessProbe, resizePolicy, resources, restartPolicy, securityContext, startupProbe,
        stdin, stdinOnce, targetContainerName, terminationMessagePath, terminationMessagePolicy,
        tty, volumeDevices, volumeMounts, workingDir })
    (fun c =>
      (c.args, c.command, c.env, c.envFrom, c.image, c.imagePullPolicy, c.lifecycle,
        c.livenessProbe, c.name, c.ports, c.readinessProbe, c.resizePolicy, c.resources,
        c.restartPolicy, c.securityContext, c.startupProbe, c.stdin, c.stdinOnce,
        c.targetContainerName, c.terminationMessagePath, c.terminationMessagePolicy, c.tty,
        c.volumeDevices, c.volumeMounts, c.workingDir))

end SpokeSim
