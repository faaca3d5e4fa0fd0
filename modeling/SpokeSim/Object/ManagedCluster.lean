import SpokeSim.Object.Metadata

/-!
# Managed clusters

A managed cluster is a cluster registered at the hub.  Its fields are strict: an object without
metadata or without a specification is refused, and so is one that repeats a field.  The kind and
version that it names are written but not looked at.  All its parts but the metadata may also be
arrays of their fields.

* `ManagedCluster.name`: the name by which the cluster is handled.
* `ManagedCluster.isAvailable`: whether the hub has found the cluster to be reachable.
-/

namespace SpokeSim

open Codec Record

/-- How the hub reaches a cluster. -/
structure ClientConfig where
  url : String
  caBundle : Option String := none
deriving DecidableEq

/-- The fields of a client configuration. -/
def ClientConfig.record : Record ClientConfig :=
  ((required "url" text).and <| (optionalOnce "caBundle" text)).via
    (fun (url, caBundle) => { url, caBundle })
    (fun c => (c.url, c.caBundle))

/-- What is wanted of a managed cluster. -/
structure ManagedClusterSpec where
  hubAcceptsClient : Bool := false
  leaseDurationSeconds : Option Int32 := none
  managedClusterClientConfigs : Option (List ClientConfig) := none
deriving DecidableEq

/-- The fields of a managed cluster's specification. -/
def ManagedClusterSpec.record : Record ManagedClusterSpec :=
  ((requiredOr "hubAcceptsClient" bool false).and <|
   (optionalOnce "leaseDurationSeconds" int32).and <|
   (optionalOnce "managedClusterClientConfigs" (list ClientConfig.record.positional))).via
    (fun (hubAcceptsClient, leaseDurationSeconds, managedClusterClientConfigs) =>
      { hubAcceptsClient, leaseDurationSeconds, managedClusterClientConfigs })
    (fun s => (s.hubAcceptsClient, s.leaseDurationSeconds, s.managedClusterClientConfigs))

/-- One observation about a cluster. -/
structure Condition where
  type : String
  status : String
  reason : Option String := none
  message : Option String := none
deriving DecidableEq

/-- The fields of an observation. -/
def Condition.record : Record Condition :=
  ((required "type" text).and <|
   (required "status" text).and <|
   (optionalOnce "reason" text).and <|
   (optionalOnce "message" text)).via
    (fun (type, status, reason, message) => { type, status, reason, message })
    (fun c => (c.type, c.status, c.reason, c.message))

/-- The version that a cluster runs. -/
structure ManagedClusterVersion where
  kubernetes : Option String := none
deriving DecidableEq

/-- The fields of a version. -/
def ManagedClusterVersion.record : Record ManagedClusterVersion :=
  (optionalOnce "kubernetes" text).via (fun kubernetes => { kubernetes }) (fun v => v.kubernetes)

/-- What the hub has observed of a managed cluster. -/
structure ManagedClusterStatus where
  conditions : Option (List Condition) := none
  version : Option ManagedClusterVersion := none
deriving DecidableEq

/-- The fields of a managed cluster's state. -/
def ManagedClusterStatus.record : Record ManagedClusterStatus :=
  ((optionalOnce "conditions" (list Condition.record.positional)).and <|
   (optionalOnce "version" ManagedClusterVersion.record.positional)).via
    (fun (conditions, version) => { conditions, version })
    (fun s => (s.conditions, s.version))

/-- A cluster registered at the hub. -/
structure ManagedCluster where
  metadata : ObjectMeta
  spec : ManagedClusterSpec
  status : Option ManagedClusterStatus := none

namespace ManagedCluster

/-- The fields of a managed cluster. -/
def record : Record ManagedCluster :=
  ((stamp "apiVersion" "cluster.open-cluster-management.io/v1").and <|
   (stamp "kind" "ManagedCluster").and <|
   (required "metadata" ObjectMeta.codec).and <|
   (required "spec" ManagedClusterSpec.record.positional).and <|
   (optionalOnce "status" ManagedClusterStatus.record.positional)).via
    (fun (_, _, metadata, spec, status) => { metadata, spec, status })
    (fun c => ((), (), c.metadata, c.spec, c.status))

/-- Managed clusters as documents. -/
def codec : Codec ManagedCluster := record.positional

/-- The name by which the cluster is handled. -/
def name (c : ManagedCluster) : String := c.metadata.displayName

/-- The condition that tells whether a cluster is reachable. -/
def availableCondition : String := "ManagedClusterConditionAvailable"

/-- Whether some observation says that the cluster is reachable. -/
def isAvailable (c : ManagedCluster) : Bool :=
  match c.status.bind (·.conditions) with
  | none => false
  | some conditions => conditions.any fun o => o.type == availableCondition && o.status == "True"

end ManagedCluster

end SpokeSim
