import SpokeSim.Object.Source
import SpokeSim.Object.Storage

/-!
# Volumes

What the containers of a pod may mount: data, storage, or a claim on storage, which may be made for
the life of the pod only.
-/

namespace SpokeSim

open Codec Record

/-- A claim on persistent storage, by its name. -/
structure ClaimSource where
  claimName : String := ""
  readOnly : Option Bool := none

/-- The fields of a claim by name. -/
def ClaimSource.record : Record ClaimSource :=
  ((defaulted "claimName" text "").and <| (optional "readOnly" bool)).via
    (fun (claimName, readOnly) => { claimName, readOnly })
    (fun s => (s.claimName, s.readOnly))

/-- An object that a claim's data come from. -/
structure DataReference where
  apiGroup : Option String := none
  kind : String := ""
  name : String := ""

def DataReference.record : Record DataReference :=
  ((optional "apiGroup" text).and <|
   (defaulted "kind" text "").and <|
   (defaulted "name" text "")).via
    (fun (apiGroup, kind, name) => { apiGroup, kind, name })
    (fun r => (r.apiGroup, r.kind, r.name))

/-- An object of any namespace that a claim's data come from. -/
structure RemoteDataReference where
  apiGroup : Option String := none
  kind : String := ""
  name : String := ""
  space : Option String := none

def RemoteDataReference.record : Record RemoteDataReference :=
  ((optional "apiGroup" text).and <|
   (defaulted "kind" text "").and <|
   (defaulted "name" text "").and <|
   (optional "namespace" text)).via
    (fun (apiGroup, kind, name, space) => { apiGroup, kind, name, space })
    (fun r => (r.apiGroup, r.kind, r.name, r.space))

/-- How much storage a claim needs, and how much it may get at most. -/
structure StorageRequirements where
  limits : Option (KeyMap String) := none
  requests : Option (KeyMap String) := none

/-- The fields of storage requirements. -/
def StorageRequirements.record : Record StorageRequirements :=
  ((optional "limits" (map text)).and <| (optional "requests" (map text))).via
    (fun (limits, requests) => { limits, requests })
    (fun r => (r.limits, r.requests))

/-- What is claimed of persistent storage. -/
structure ClaimSpec where
  accessModes : Option (List String) := none
  dataSource : Option DataReference := none
  dataSourceRef : Option RemoteDataReference := none
  resources : Option StorageRequirements := none
  selector : Option LabelSelector := none
  storageClassName : Option String := none
  volumeAttributesClassName : Option String := none
  volumeMode : Option String := none
  volumeName : Option String := none

/-- The fields of a claim's specification. -/
def ClaimSpec.record : Record ClaimSpec :=
  ((optional "accessModes" (list text)).and <|
   (optional "dataSource" DataReference.record.codec).and <|
   (optional "dataSourceRef" RemoteDataReference.record.codec).and <|
   (optional "resources" StorageRequirements.record.codec).and <|
   (optional "selector" LabelSelector.record.codec).and <|
   (optional "storageClassName" text).and <|
   (optional "volumeAttributesClassName" text).and <|
   (optional "volumeMode" text).and <|
   (optional "volumeName" text)).via
    (fun (accessModes, dataSource, dataSourceRef, resources, selector, storageClassName,
        volumeAttributesClassName, volumeMode, volumeName) =>
      { accessModes, dataSource, dataSourceRef, resources, selector, storageClassName,
        volumeAttributesClassName, volumeMode, volumeName })
    (fun s =>
      (s.accessModes, s.dataSource, s.dataSourceRef, s.resources, s.selector, s.storageClassName,
        s.volumeAttributesClassName, s.volumeMode, s.volumeName))

/-- What the claim of a pod is made from. -/
structure ClaimTemplate where
  metadata : Option ObjectMeta := none
  spec : ClaimSpec := {}

/-- The fields of a claim template. -/
def ClaimTemplate.record : Record ClaimTemplate :=
  ((optional "metadata" ObjectMeta.codec).and <| (defaulted "spec" ClaimSpec.record.codec {})).via
    (fun (metadata, spec) => { metadata, spec })
    (fun t => (t.metadata, t.spec))

/-- Persistent storage that is claimed for the life of the pod. -/
structure EphemeralSource where
  volumeClaimTemplate : Option ClaimTemplate := none

def EphemeralSource.record : Record EphemeralSource :=
  (optional "volumeClaimTemplate" ClaimTemplate.record.codec).via
    (fun volumeClaimTemplate => { volumeClaimTemplate })
    (fun s => s.volumeClaimTemplate)

/-- A volume of a pod. -/
structure Volume where
  awsElasticBlockStore : Option ElasticBlockStoreSource := none
  azureDisk : Option AzureDiskSource := none
  azureFile : Option AzureFileSource := none
  cephfs : Option CephFSSource := none
  cinder : Option CinderSource := none
  configMap : Option ConfigMapSource := none
  csi : Option DriverSource := none
  downwardAPI : Option PodFieldsSource := none
  emptyDir : Option EmptyDirSource := none
  ephemeral : Option EphemeralSource := none
  fc : Option FibreChannelSource := none
  flexVolume : Option FlexVolumeSource := none
  flocker : Option FlockerSource := none
  gcePersistentDisk : Option PersistentDiskSource := none
  gitRepo : Option GitRepoSource := none
  glusterfs : Option GlusterfsSource := none
  hostPath : Option HostPathSource := none
  iscsi : Option ISCSISource := none
  name : String := ""
  nfs : Option NFSSource := none
  persistentVolumeClaim : Option ClaimSource := none
  photonPersistentDisk : Option PhotonDiskSource := none
  portworxVolume : Option PortworxSource := none
  projected : Option ProjectedSource := none
  quobyte : Option QuobyteSource := none
  rbd : Option RBDSource := none
  scaleIO : Option ScaleIOSource := none
  secret : Option SecretSource := none
  storageos : Option StorageOSSource := none
  vsphereVolume : Option VsphereDiskSource := none

/-- The fields of a volume. -/
def Volume.record : Record Volume :=
  ((optional "awsElasticBlockStore" ElasticBlockStoreSource.record.codec).and <|
   (optional "azureDisk" AzureDiskSource.record.codec).and <|
   (optional "azureFile" AzureFileSource.record.codec).and <|
   (optional "cephfs" CephFSSource.record.codec).and <|
   (optional "cinder" CinderSource.record.codec).and <|
   (optional "configMap" ConfigMapSource.record.codec).and <|
   (optional "csi" DriverSource.record.codec).and <|
   (optional "downwardAPI" PodFieldsSource.record.codec).and <|
   (optional "emptyDir" EmptyDirSource.record.codec).and <|
   (optional "ephemeral" EphemeralSource.record.codec).and <|
   (optional "fc" FibreChannelSource.record.codec).and <|
   (optional "flexVolume" FlexVolumeSource.record.codec).and <|
   (optional "flocker" FlockerSource.record.codec).and <|
   (optional "gcePersistentDisk" PersistentDiskSource.record.codec).and <|
   (optional "gitRepo" GitRepoSource.record.codec).and <|
   (optional "glusterfs" GlusterfsSource.record.codec).and <|
   (optional "hostPath" HostPathSource.record.codec).and <|
   (optional "iscsi" ISCSISource.record.codec).and <|
   (defaulted "name" text "").and <|
   (optional "nfs" NFSSource.record.codec).and <|
   (optional "persistentVolumeClaim" ClaimSource.record.codec).and <|
   (optional "photonPersistentDisk" PhotonDiskSource.record.codec).and <|
   (optional "portworxVolume" PortworxSource.record.codec).and <|
   (optional "projected" ProjectedSource.record.codec).and <|
   (optional "quobyte" QuobyteSource.record.codec).and <|
   (optional "rbd" RBDSource.record.codec).and <|
   (optional "scaleIO" ScaleIOSource.record.codec).and <|
   (optional "secret" SecretSource.record.codec).and <|
   (optional "storageos" StorageOSSource.record.codec).and <|
   (optional "vsphereVolume" VsphereDiskSource.record.codec)).via
    (fun (awsElasticBlockStore, azureDisk, azureFile, cephfs, cinder, configMap, csi, downwardAPI,
        emptyDir, ephemeral, fc, flexVolume, flocker, gcePersistentDisk, gitRepo, glusterfs,
        hostPath, iscsi, name, nfs, persistentVolumeClaim, photonPersistentDisk, portworxVolume,
        projected, quobyte, rbd, scaleIO, secret, storageos, vsphereVolume) =>
      { awsElasticBlockStore, azureDisk, azureFile, cephfs, cinder, configMap, csi, downwardAPI,
        emptyDir, ephemeral, fc, flexVolume, flocker, gcePersistentDisk, gitRepo, glusterfs,
        hostPath, iscsi, name, nfs, persistentVolumeClaim, photonPersistentDisk, portworxVolume,
        projected, quobyte, rbd, scaleIO, secret, storageos, vsphereVolume })
    (fun v =>
      (v.awsElasticBlockStore, v.azureDisk, v.azureFile, v.cephfs, v.cinder, v.configMap, v.csi,
        v.downwardAPI, v.emptyDir, v.ephemeral, v.fc, v.flexVolume, v.flocker, v.gcePersistentDisk,
        v.gitRepo, v.glusterfs, v.hostPath, v.iscsi, v.name, v.nfs, v.persistentVolumeClaim,
        v.photonPersistentDisk, v.portworxVolume, v.projected, v.quobyte, v.rbd, v.scaleIO,
        v.secret, v.storageos, v.vsphereVolume))

/-- Where a container sees a volume. -/
structure VolumeMount where
  mountPath : String := ""
  mountPropagation : Option String := none
  name : String := ""
  readOnly : Option Bool := none
  recursiveReadOnly : Option String := none
  subPath : Option String := none
  subPathExpr : Option String := none
deriving DecidableEq

/-- The fields of a volume mount. -/
def VolumeMount.record : Record VolumeMount :=
  ((defaulted "mountPath" text "").and <|
   (optional "mountPropagation" text).and <|
   (defaulted "name" text "").and <|
   (optional "readOnly" bool).and <|
   (optional "recursiveReadOnly" text).and <|
   (optional "subPath" text).and <|
   (optional "subPathExpr" text)).via
    (fun (mountPath, mountPropagation, name, readOnly, recursiveReadOnly, subPath, subPathExpr) =>
      { mountPath, mountPropagation, name, readOnly, recursiveReadOnly, subPath, subPathExpr })
    (fun m =>
      (m.mountPath, m.mountPropagation, m.name, m.readOnly, m.recursiveReadOnly, m.subPath,
        m.subPathExpr))

/-- Where a container sees a volume as a device. -/
structure VolumeDevice where
  devicePath : String := ""
  name : String := ""

/-- The fields of a volume device. -/
def VolumeDevice.record : Record VolumeDevice :=
  ((defaulted "devicePath" text "").and <| (defaulted "name" text "")).via
    (fun (devicePath, name) => { devicePath, name })
    (fun d => (d.devicePath, d.name))

end SpokeSim
