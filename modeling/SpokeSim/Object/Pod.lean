import SpokeSim.Object.Placement
import SpokeSim.Object.PodStatus

/-!
# Pods

A pod runs containers on one machine; init containers run to their end before the others start.
-/

namespace SpokeSim

open Codec Record

/-- An option of the resolver. -/
structure DnsOption where
  name : Option String := none
  value : Option String := none

/-- The fields of a resolver's option. -/
def DnsOption.record : Record DnsOption :=
  ((optional "name" text).and <| (optional "value" text)).via
    (fun (name, value) => { name, value })
    (fun o => (o.name, o.value))

/-- How a pod resolves names. -/
structure DnsConfig where
  nameservers : Option (List String) := none
  options : Option (List DnsOption) := none
  searches : Option (List String) := none

/-- The fields of a resolver's configuration. -/
def DnsConfig.record : Record DnsConfig :=
  ((optional "nameservers" (list text)).and <|
   (optional "options" (list DnsOption.record.codec)).and <|
   (optional "searches" (list text))).via
    (fun (nameservers, options, searches) => { nameservers, options, searches })
    (fun c => (c.nameservers, c.options, c.searches))

/-- Names of an address. -/
structure HostAlias where
  hostnames : Option (List String) := none
  ip : String := ""

/-- The fields of an address with its names. -/
def HostAlias.record : Record HostAlias :=
  ((optional "hostnames" (list text)).and <| (defaulted "ip" text "")).via
    (fun (hostnames, ip) => { hostnames, ip })
    (fun a => (a.hostnames, a.ip))

/-- The operating system that a pod needs. -/
structure PodSystem where
  name : String := ""

/-- The fields of an operating system. -/
def PodSystem.record : Record PodSystem :=
  (defaulted "name" text "").via (fun name => { name }) (fun s => s.name)

/-- A condition that must hold for a pod to be ready. -/
structure ReadinessGate where
  conditionType : String := ""

def ReadinessGate.record : Record ReadinessGate :=
  (defaulted "conditionType" text "").via
    (fun conditionType => { conditionType })
    (fun g => g.conditionType)

/-- Where a claim of a pod is found, or what it is made from. -/
structure PodClaimSource where
  resourceClaimName : Option String := none
  resourceClaimTemplateName : Option String := none

/-- The fields of a claim's source. -/
def PodClaimSource.record : Record PodClaimSource :=
  ((optional "resourceClaimName" text).and <| (optional "resourceClaimTemplateName" text)).via
    (fun (resourceClaimName, resourceClaimTemplateName) =>
      { resourceClaimName, resourceClaimTemplateName })
    (fun s => (s.resourceClaimName, s.resourceClaimTemplateName))

/-- A claim on a resource that the containers of a pod may refer to. -/
structure PodClaim where
  name : String := ""
  source : Option PodClaimSource := none

/-- The fields of a pod's claim. -/
def PodClaim.record : Record PodClaim :=
  ((defaulted "name" text "").and <| (optional "source" PodClaimSource.record.codec)).via
    (fun (name, source) => { name, source })
    (fun c => (c.name, c.source))

/-- What keeps a pod from being placed. -/
structure SchedulingGate where
  name : String := ""

/-- The fields of what does so. -/
def SchedulingGate.record : Record SchedulingGate :=
  (defaulted "name" text "").via (fun name => { name }) (fun g => g.name)

/-- What a pod runs, and how. -/
structure PodSpec where
  activeDeadlineSeconds : Option Int64 := none
  affinity : Option Affinity := none
  automountServiceAccountToken : Option Bool := none
  containers : List Container := []
  dnsConfig : Option DnsConfig := none
  dnsPolicy : Option String := none
  enableServiceLinks : Option Bool := none
  ephemeralContainers : Option (List EphemeralContainer) := none
  hostAliases : Option (List HostAlias) := none
  hostIPC : Option Bool := none
  hostNetwork : Option Bool := none
  hostPID : Option Bool := none
  hostUsers : Option Bool := none
  hostname : Option String := none
  imagePullSecrets : Option (List LocalReference) := none
  initContainers : Option (List Container) := none
  nodeName : Option String := none
  nodeSelector : Option (KeyMap String) := none
  os : Option PodSystem := none
  overhead : Option (KeyMap String) := none
  preemptionPolicy : Option String := none
  priority : Option Int32 := none
  priorityClassName : Option String := none
  readinessGates : Option (List ReadinessGate) := none
  resourceClaims : Option (List PodClaim) := none
  restartPolicy : Option String := none
  runtimeClassName : Option String := none
  schedulerName : Option String := none
  schedulingGates : Option (List SchedulingGate) := none
  securityContext : Option PodSecurityContext := none
  serviceAccount : Option String := none
  serviceAccountName : Option String := none
  setHostnameAsFQDN : Option Bool := none
  shareProcessNamespace : Option Bool := none
  subdomain : Option String := none
  terminationGracePeriodSeconds : Option Int64 := none
  tolerations : Option (List Toleration) := none
  topologySpreadConstraints : Option (List SpreadConstraint) := none
  volumes : Option (List Volume) := none

/-- The fields of a pod's specification. -/
def PodSpec.record : Record PodSpec :=
  ((optional "activeDeadlineSeconds" int64).and <|
   (optional "affinity" Affinity.record.codec).and <|
   (optional "automountServiceAccountToken" bool).and <|
   (defaulted "containers" (list Container.record.codec) []).and <|
   (optional "dnsConfig" DnsConfig.record.codec).and <|
   (optional "dnsPolicy" text).and <|
   (optional "enableServiceLinks" bool).and <|
   (optional "ephemeralContainers" (list EphemeralContainer.record.codec)).and <|
   (optional "hostAliases" (list HostAlias.record.codec)).and <|
   (optional "hostIPC" bool).and <|
   (optional "hostNetwork" bool).and <|
   (optional "hostPID" bool).and <|
   (optional "hostUsers" bool).and <|
   (optional "hostname" text).and <|
   (optional "imagePullSecrets" (list LocalReference.record.codec)).and <|
   (optional "initContainers" (list Container.record.codec)).and <|
   (optional "nodeName" text).and <|
   (optional "nodeSelector" (map text)).and <|
   (optional "os" PodSystem.record.codec).and <|
   (optional "overhead" (map text)).and <|
   (optional "preemptionPolicy" text).and <|
   (optional "priority" int32).and <|
   (optional "priorityClassName" text).and <|
   (optional "readinessGates" (list ReadinessGate.record.codec)).and <|
   (optional "resourceClaims" (list PodClaim.record.codec)).and <|
   (optional "restartPolicy" text).and <|
   (optional "runtimeClassName" text).and <|
   (optional "schedulerName" text).and <|
   (optional "schedulingGates" (list SchedulingGate.record.codec)).and <|
   (optional "securityContext" PodSecurityContext.record.codec).and <|
   (optional "serviceAccount" text).and <|
   (optional "serviceAccountName" text).and <|
   (optional "setHostnameAsFQDN" bool).and <|
   (optional "shareProcessNamespace" bool).and <|
   (optional "subdomain" text).and <|
   (optional "terminationGracePeriodSeconds" int64).and <|
   (optional "tolerations" (list Toleration.record.codec)).and <|
   (optional "topologySpreadConstraints" (list SpreadConstraint.record.codec)).and <|
   (optional "volumes" (list Volume.record.codec))).via
    (fun (activeDeadlineSeconds, affinity, automountServiceAccountToken, containers, dnsConfig,
        dnsPolicy, enableServiceLinks, ephemeralContainers, hostAliases, hostIPC, hostNetwork,
        hostPID, hostUsers, hostname, imagePullSecrets, initContainers, nodeName, nodeSelector, os,
        overhead, preemptionPolicy, priority, priorityClassName, readinessGates, resourceClaims,
        restartPolicy, runtimeClassName, schedulerName, schedulingGates, securityContext,
        serviceAccount, serviceAccountName, setHostnameAsFQDN, shareProcessNamespace, subdomain,
        terminationGracePeriodSeconds, tolerations, topologySpreadConstraints, volumes) =>
      { activeDeadlineSeconds, affinity, automountServiceAccountToken, containers, dnsConfig,
        dnsPolicy, enableServiceLinks, ephemeralContainers, hostAliases, hostIPC, hostNetwork,
        hostPID, hostUsers, hostname, imagePullSecrets, initContainers, nodeName, nodeSelector, os,
        overhead, preemptionPolicy, priority, priorityClassName, readinessGates, resourceClaims,
        restartPolicy, runtimeClassName, schedulerName, schedulingGates, securityContext,
        serviceAccount, serviceAccountName, setHostnameAsFQDN, shareProcessNamespace, subdomain,
        terminationGracePeriodSeconds, tolerations, topologySpreadConstraints, volumes })
    (fun p =>
      (p.activeDeadlineSeconds, p.affinity, p.automountServiceAccountToken, p.containers,
        p.dnsConfig, p.dnsPolicy, p.enableServiceLinks, p.ephemeralContainers, p.hostAliases,
        p.hostIPC, p.hostNetwork, p.hostPID, p.hostUsers, p.hostname, p.imagePullSecrets,
        p.initContainers, p.nodeName, p.nodeSelector, p.os, p.overhead, p.preemptionPolicy,
        p.priority, p.priorityClassName, p.readinessGates, p.resourceClaims, p.restartPolicy,
        p.runtimeClassName, p.schedulerName, p.schedulingGates, p.securityContext, p.serviceAccount,
        p.serviceAccountName, p.setHostnameAsFQDN, p.shareProcessNamespace, p.subdomain,
        p.terminationGracePeriodSeconds, p.tolerations, p.topologySpreadConstraints, p.volumes))

/-- A pod. -/
structure Pod where
  metadata : ObjectMeta := {}
  spec : Option PodSpec := none
  status : Option PodStatus := none

/-- The fields of a pod. -/
def Pod.record : Record Pod :=
  ((constant "apiVersion" "v1").and <|
   (constant "kind" "Pod").and <|
   (defaulted "metadata" ObjectMeta.codec {}).and <|
   (optional "spec" PodSpec.record.codec).and <|
   (optional "status" PodStatus.record.codec)).via
    (fun (_, _, metadata, spec, status) => { metadata, spec, status })
    (fun p => ((), (), p.metadata, p.spec, p.status))

end SpokeSim
