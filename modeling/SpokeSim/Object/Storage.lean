import SpokeSim.Object.Access

/-!
# Storage for volumes

What a volume may be made of: a directory or path of the machine, a disk, or a file system
elsewhere.
-/

namespace SpokeSim

open Codec Record

/-- An empty directory. -/
structure EmptyDirSource where
  medium : Option String := none
  sizeLimit : Option String := none
deriving DecidableEq

/-- The fields of an empty directory. -/
def EmptyDirSource.record : Record EmptyDirSource :=
  ((optional "medium" text).and <| (optional "sizeLimit" text)).via
    (fun (medium, sizeLimit) => { medium, sizeLimit })
    (fun s => (s.medium, s.sizeLimit))

/-- A path of the machine. -/
structure HostPathSource where
  path : String := ""
  type : Option String := none

/-- The fields of a path of the machine. -/
def HostPathSource.record : Record HostPathSource :=
  ((defaulted "path" text "").and <| (optional "type" text)).via
    (fun (path, type) => { path, type })
    (fun s => (s.path, s.type))

/-- A disk of the Elastic Block Store. -/
structure ElasticBlockStoreSource where
  fsType : Option String := none
  partition : Option Int32 := none
  readOnly : Option Bool := none
  volumeID : String := ""

def ElasticBlockStoreSource.record : Record ElasticBlockStoreSource :=
  ((optional "fsType" text).and <|
   (optional "partition" int32).and <|
   (optional "readOnly" bool).and <|
   (defaulted "volumeID" text "")).via
    (fun (fsType, partition, readOnly, volumeID) => { fsType, partition, readOnly, volumeID })
    (fun s => (s.fsType, s.partition, s.readOnly, s.volumeID))

/-- A data disk of Azure. -/
structure AzureDiskSource where
  cachingMode : Option String := none
  diskName : String := ""
  diskURI : String := ""
  fsType : Option String := none
  kind : Option String := none
  readOnly : Option Bool := none

def AzureDiskSource.record : Record AzureDiskSource :=
  ((optional "cachingMode" text).and <|
   (defaulted "diskName" text "").and <|
   (defaulted "diskURI" text "").and <|
   (optional "fsType" text).and <|
   (optional "kind" text).and <|
   (optional "readOnly" bool)).via
    (fun (cachingMode, diskName, diskURI, fsType, kind, readOnly) =>
      { cachingMode, diskName, diskURI, fsType, kind, readOnly })
    (fun s => (s.cachingMode, s.diskName, s.diskURI, s.fsType, s.kind, s.readOnly))

/-- A file share of Azure. -/
structure AzureFileSource where
  readOnly : Option Bool := none
  secretName : String := ""
  shareName : String := ""

def AzureFileSource.record : Record AzureFileSource :=
  ((optional "readOnly" bool).and <|
   (defaulted "secretName" text "").and <|
   (defaulted "shareName" text "")).via
    (fun (readOnly, secretName, shareName) => { readOnly, secretName, shareName })
    (fun s => (s.readOnly, s.secretName, s.shareName))

/-- A Ceph file system. -/
structure CephFSSource where
  monitors : List String := []
  path : Option String := none
  readOnly : Option Bool := none
  secretFile : Option String := none
  secretRef : Option LocalReference := none
  user : Option String := none

def CephFSSource.record : Record CephFSSource :=
  ((defaulted "monitors" (list text) []).and <|
   (optional "path" text).and <|
   (optional "readOnly" bool).and <|
   (optional "secretFile" text).and <|
   (optional "secretRef" LocalReference.record.codec).and <|
   (optional "user" text)).via
    (fun (monitors, path, readOnly, secretFile, secretRef, user) =>
      { monitors, path, readOnly, secretFile, secretRef, user })
    (fun s => (s.monitors, s.path, s.readOnly, s.secretFile, s.secretRef, s.user))

/-- A volume of Cinder. -/
structure CinderSource where
  fsType : Option String := none
  readOnly : Option Bool := none
  secretRef : Option LocalReference := none
  volumeID : String := ""

def CinderSource.record : Record CinderSource :=
  ((optional "fsType" text).and <|
   (optional "readOnly" bool).and <|
   (optional "secretRef" LocalReference.record.codec).and <|
   (defaulted "volumeID" text "")).via
    (fun (fsType, readOnly, secretRef, volumeID) => { fsType, readOnly, secretRef, volumeID })
    (fun s => (s.fsType, s.readOnly, s.secretRef, s.volumeID))

/-- Storage that a driver of the Container Storage Interface provides. -/
structure DriverSource where
  driver : String := ""
  fsType : Option String := none
  nodePublishSecretRef : Option LocalReference := none
  readOnly : Option Bool := none
  volumeAttributes : Option (KeyMap String) := none

def DriverSource.record : Record DriverSource :=
  ((defaulted "driver" text "").and <|
   (optional "fsType" text).and <|
   (optional "nodePublishSecretRef" LocalReference.record.codec).and <|
   (optional "readOnly" bool).and <|
   (optional "volumeAttributes" (map text))).via
    (fun (driver, fsType, nodePublishSecretRef, readOnly, volumeAttributes) =>
      { driver, fsType, nodePublishSecretRef, readOnly, volumeAttributes })
    (fun s => (s.driver, s.fsType, s.nodePublishSecretRef, s.readOnly, s.volumeAttributes))

/-- A Fibre Channel unit. -/
structure FibreChannelSource where
  fsType : Option String := none
  lun : Option Int32 := none
  readOnly : Option Bool := none
  targetWWNs : Option (List String) := none
  wwids : Option (List String) := none

def FibreChannelSource.record : Record FibreChannelSource :=
  ((optional "fsType" text).and <|
   (optional "lun" int32).and <|
   (optional "readOnly" bool).and <|
   (optional "targetWWNs" (list text)).and <|
   (optional "wwids" (list text))).via
    (fun (fsType, lun, readOnly, targetWWNs, wwids) => { fsType, lun, readOnly, targetWWNs, wwids })
    (fun s => (s.fsType, s.lun, s.readOnly, s.targetWWNs, s.wwids))

/-- Storage that a plugin provides. -/
structure FlexVolumeSource where
  driver : String := ""
  fsType : Option String := none
  options : Option (KeyMap String) := none
  readOnly : Option Bool := none
  secretRef : Option LocalReference := none

def FlexVolumeSource.record : Record FlexVolumeSource :=
  ((defaulted "driver" text "").and <|
   (optional "fsType" text).and <|
   (optional "options" (map text)).and <|
   (optional "readOnly" bool).and <|
   (optional "secretRef" LocalReference.record.codec)).via
    (fun (driver, fsType, options, readOnly, secretRef) =>
      { driver, fsType, options, readOnly, secretRef })
    (fun s => (s.driver, s.fsType, s.options, s.readOnly, s.secretRef))

/-- A dataset of Flocker. -/
structure FlockerSource where
  datasetName : Option String := none
  datasetUUID : Option String := none

def FlockerSource.record : Record FlockerSource :=
  ((optional "datasetName" text).and <| (optional "datasetUUID" text)).via
    (fun (datasetName, datasetUUID) => { datasetName, datasetUUID })
    (fun s => (s.datasetName, s.datasetUUID))

/-- A persistent disk of the Compute Engine. -/
structure PersistentDiskSource where
  fsType : Option String := none
  partition : Option Int32 := none
  pdName : String := ""
  readOnly : Option Bool := none

def PersistentDiskSource.record : Record PersistentDiskSource :=
  ((optional "fsType" text).and <|
   (optional "partition" int32).and <|
   (defaulted "pdName" text "").and <|
   (optional "readOnly" bool)).via
    (fun (fsType, partition, pdName, readOnly) => { fsType, partition, pdName, readOnly })
    (fun s => (s.fsType, s.partition, s.pdName, s.readOnly))

/-- A revision of a Git repository. -/
structure GitRepoSource where
  directory : Option String := none
  repository : String := ""
  revision : Option String := none

def GitRepoSource.record : Record GitRepoSource :=
  ((optional "directory" text).and <|
   (defaulted "repository" text "").and <|
   (optional "revision" text)).via
    (fun (directory, repository, revision) => { directory, repository, revision })
    (fun s => (s.directory, s.repository, s.revision))

/-- A volume of Gluster. -/
structure GlusterfsSource where
  endpoints : String := ""
  path : String := ""
  readOnly : Option Bool := none

def GlusterfsSource.record : Record GlusterfsSource :=
  ((defaulted "endpoints" text "").and <|
   (defaulted "path" text "").and <|
   (optional "readOnly" bool)).via
    (fun (endpoints, path, readOnly) => { endpoints, path, readOnly })
    (fun s => (s.endpoints, s.path, s.readOnly))

/-- An ISCSI disk. -/
structure ISCSISource where
  chapAuthDiscovery : Option Bool := none
  chapAuthSession : Option Bool := none
  fsType : Option String := none
  initiatorName : Option String := none
  iqn : String := ""
  iscsiInterface : Option String := none
  lun : Int32 := 0
  portals : Option (List String) := none
  readOnly : Option Bool := none
  secretRef : Option LocalReference := none
  targetPortal : String := ""

def ISCSISource.record : Record ISCSISource :=
  ((optional "chapAuthDiscovery" bool).and <|
   (optional "chapAuthSession" bool).and <|
   (optional "fsType" text).and <|
   (optional "initiatorName" text).and <|
   (defaulted "iqn" text "").and <|
   (optional "iscsiInterface" text).and <|
   (defaulted "lun" int32 0).and <|
   (optional "portals" (list text)).and <|
   (optional "readOnly" bool).and <|
   (optional "secretRef" LocalReference.record.codec).and <|
   (defaulted "targetPortal" text "")).via
    (fun (chapAuthDiscovery, chapAuthSession, fsType, initiatorName, iqn, iscsiInterface, lun,
        portals, readOnly, secretRef, targetPortal) =>
      { chapAuthDiscovery, chapAuthSession, fsType, initiatorName, iqn, iscsiInterface, lun,
        portals, readOnly, secretRef, targetPortal })
    (fun s =>
      (s.chapAuthDiscovery, s.chapAuthSession, s.fsType, s.initiatorName, s.iqn, s.iscsiInterface,
        s.lun, s.portals, s.readOnly, s.secretRef, s.targetPortal))

/-- A directory of a network file system. -/
structure NFSSource where
  path : String := ""
  readOnly : Option Bool := none
  server : String := ""

def NFSSource.record : Record NFSSource :=
  ((defaulted "path" text "").and <|
   (optional "readOnly" bool).and <|
   (defaulted "server" text "")).via
    (fun (path, readOnly, server) => { path, readOnly, server })
    (fun s => (s.path, s.readOnly, s.server))

/-- A persistent disk of a Photon controller. -/
structure PhotonDiskSource where
  fsType : Option String := none
  pdID : String := ""

def PhotonDiskSource.record : Record PhotonDiskSource :=
  ((optional "fsType" text).and <| (defaulted "pdID" text "")).via
    (fun (fsType, pdID) => { fsType, pdID })
    (fun s => (s.fsType, s.pdID))

/-- A volume of Portworx. -/
structure PortworxSource where
  fsType : Option String := none
  readOnly : Option Bool := none
  volumeID : String := ""

def PortworxSource.record : Record PortworxSource :=
  ((optional "fsType" text).and <|
   (optional "readOnly" bool).and <|
   (defaulted "volumeID" text "")).via
    (fun (fsType, readOnly, volumeID) => { fsType, readOnly, volumeID })
    (fun s => (s.fsType, s.readOnly, s.volumeID))

/-- A volume of Quobyte. -/
structure QuobyteSource where
  group : Option String := none
  readOnly : Option Bool := none
  registry : String := ""
  tenant : Option String := none
  user : Option String := none
  volume : String := ""

def QuobyteSource.record : Record QuobyteSource :=
  ((optional "group" text).and <|
   (optional "readOnly" bool).and <|
   (defaulted "registry" text "").and <|
   (optional "tenant" text).and <|
   (optional "user" text).and <|
   (defaulted "volume" text "")).via
    (fun (group, readOnly, registry, tenant, user, volume) =>
      { group, readOnly, registry, tenant, user, volume })
    (fun s => (s.group, s.readOnly, s.registry, s.tenant, s.user, s.volume))

/-- A block device of Rados. -/
structure RBDSource where
  fsType : Option String := none
  image : String := ""
  keyring : Option String := none
  monitors : List String := []
  pool : Option String := none
  readOnly : Option Bool := none
  secretRef : Option LocalReference := none
  user : Option String := none

def RBDSource.record : Record RBDSource :=
  ((optional "fsType" text).and <|
   (defaulted "image" text "").and <|
   (optional "keyring" text).and <|
   (defaulted "monitors" (list text) []).and <|
   (optional "pool" text).and <|
   (optional "readOnly" bool).and <|
   (optional "secretRef" LocalReference.record.codec).and <|
   (optional "user" text)).via
    (fun (fsType, image, keyring, monitors, pool, readOnly, secretRef, user) =>
      { fsType, image, keyring, monitors, pool, readOnly, secretRef, user })
    (fun s => (s.fsType, s.image, s.keyring, s.monitors, s.pool, s.readOnly, s.secretRef, s.user))

/-- A volume of ScaleIO. -/
structure ScaleIOSource where
  fsType : Option String := none
  gateway : String := ""
  protectionDomain : Option String := none
  readOnly : Option Bool := none
  secretRef : LocalReference := {}
  sslEnabled : Option Bool := none
  storageMode : Option String := none
  storagePool : Option String := none
  system : String := ""
  volumeName : Option String := none

def ScaleIOSource.record : Record ScaleIOSource :=
  ((optional "fsType" text).and <|
   (defaulted "gateway" text "").and <|
   (optional "protectionDomain" text).and <|
   (optional "readOnly" bool).and <|
   (defaulted "secretRef" LocalReference.record.codec {}).and <|
   (optional "sslEnabled" bool).and <|
   (optional "storageMode" text).and <|
   (optional "storagePool" text).and <|
   (defaulted "system" text "").and <|
   (optional "volumeName" text)).via
    (fun (fsType, gateway, protectionDomain, readOnly, secretRef, sslEnabled, storageMode,
        storagePool, system, volumeName) =>
      { fsType, gateway, protectionDomain, readOnly, secretRef, sslEnabled, storageMode,
        storagePool, system, volumeName })
    (fun s =>
      (s.fsType, s.gateway, s.protectionDomain, s.readOnly, s.secretRef, s.sslEnabled,
        s.storageMode, s.storagePool, s.system, s.volumeName))

/-- A volume of StorageOS. -/
structure StorageOSSource where
  fsType : Option String := none
  readOnly : Option Bool := none
  secretRef : Option LocalReference := none
  volumeName : Option String := none
  volumeNamespace : Option String := none

def StorageOSSource.record : Record StorageOSSource :=
  ((optional "fsType" text).and <|
   (optional "readOnly" bool).and <|
   (optional "secretRef" LocalReference.record.codec).and <|
   (optional "volumeName" text).and <|
   (optional "volumeNamespace" text)).via
    (fun (fsType, readOnly, secretRef, volumeName, volumeNamespace) =>
      { fsType, readOnly, secretRef, volumeName, volumeNamespace })
    (fun s => (s.fsType, s.readOnly, s.secretRef, s.volumeName, s.volumeNamespace))

/-- A disk of vSphere. -/
structure VsphereDiskSource where
  fsType : Option String := none
  storagePolicyID : Option String := none
  storagePolicyName : Option String := none
  volumePath : String := ""

def VsphereDiskSource.record : Record VsphereDiskSource :=
  ((optional "fsType" text).and <|
   (optional "storagePolicyID" text).and <|
   (optional "storagePolicyName" text).and <|
   (defaulted "volumePath" text "")).via
    (fun (fsType, storagePolicyID, storagePolicyName, volumePath) =>
      { fsType, storagePolicyID, storagePolicyName, volumePath })
    (fun s => (s.fsType, s.storagePolicyID, s.storagePolicyName, s.volumePath))

end SpokeSim
