import SpokeSim.Object.Selector

/-!
# Data for containers

Config maps, secrets and fields of a pod, shown to its containers as files or, for the fields, as
variables; and volumes that put several of these together.
-/

namespace SpokeSim

open Codec Record

/-- A key of a config map or secret, and the path at which a volume shows it. -/
structure KeyToPath where
  key : String := ""
  mode : Option Int32 := none
  path : String := ""

/-- The fields of a key with its path. -/
def KeyToPath.record : Record KeyToPath :=
  ((defaulted "key" text "").and <|
   (optional "mode" int32).and <|
   (defaulted "path" text "")).via
    (fun (key, mode, path) => { key, mode, path })
    (fun k => (k.key, k.mode, k.path))

/-- A config map shown as files. -/
structure ConfigMapSource where
  defaultMode : Option Int32 := none
  items : Option (List KeyToPath) := none
  name : String := ""
  isOptional : Option Bool := none

/-- The fields of a config map shown as files. -/
def ConfigMapSource.record : Record ConfigMapSource :=
  ((optional "defaultMode" int32).and <|
   (optional "items" (list KeyToPath.record.codec)).and <|
   (defaulted "name" text "").and <|
   (optional "optional" bool)).via
    (fun (defaultMode, items, name, isOptional) => { defaultMode, items, name, isOptional })
    (fun s => (s.defaultMode, s.items, s.name, s.isOptional))

/-- A secret shown as files. -/
structure SecretSource where
  defaultMode : Option Int32 := none
  items : Option (List KeyToPath) := none
  isOptional : Option Bool := none
  secretName : Option String := none

/-- The fields of a secret shown as files. -/
def SecretSource.record : Record SecretSource :=
  ((optional "defaultMode" int32).and <|
   (optional "items" (list KeyToPath.record.codec)).and <|
   (optional "optional" bool).and <|
   (optional "secretName" text)).via
    (fun (defaultMode, items, isOptional, secretName) =>
      { defaultMode, items, isOptional, secretName })
    (fun s => (s.defaultMode, s.items, s.isOptional, s.secretName))

/-- A field of the pod. -/
structure FieldSelector where
  apiVersion : Option String := none
  fieldPath : String := ""

/-- The fields of a field selector. -/
def FieldSelector.record : Record FieldSelector :=
  ((optional "apiVersion" text).and <| (defaulted "fieldPath" text "")).via
    (fun (apiVersion, fieldPath) => { apiVersion, fieldPath })
    (fun s => (s.apiVersion, s.fieldPath))

/-- What a container needs of a resource, or may use of it at most, in units of a divisor. -/
structure ResourceFieldSelector where
  containerName : Option String := none
  divisor : Option String := none
  resource : String := ""

/-- The fields of a resource selector. -/
def ResourceFieldSelector.record : Record ResourceFieldSelector :=
  ((optional "containerName" text).and <|
   (optional "divisor" text).and <|
   (defaulted "resource" text "")).via
    (fun (containerName, divisor, resource) => { containerName, divisor, resource })
    (fun s => (s.containerName, s.divisor, s.resource))

/-- A file that shows a field of the pod or of one of its containers. -/
structure PodFieldFile where
  fieldRef : Option FieldSelector := none
  mode : Option Int32 := none
  path : String := ""
  resourceFieldRef : Option ResourceFieldSelector := none

/-- The fields of a file that shows a field. -/
def PodFieldFile.record : Record PodFieldFile :=
  ((optional "fieldRef" FieldSelector.record.codec).and <|
   (optional "mode" int32).and <|
   (defaulted "path" text "").and <|
   (optional "resourceFieldRef" ResourceFieldSelector.record.codec)).via
    (fun (fieldRef, mode, path, resourceFieldRef) => { fieldRef, mode, path, resourceFieldRef })
    (fun f => (f.fieldRef, f.mode, f.path, f.resourceFieldRef))

/-- Fields of the pod shown as files. -/
structure PodFieldsSource where
  defaultMode : Option Int32 := none
  items : Option (List PodFieldFile) := none

/-- The fields of a source of such files. -/
def PodFieldsSource.record : Record PodFieldsSource :=
  ((optional "defaultMode" int32).and <| (optional "items" (list PodFieldFile.record.codec))).via
    (fun (defaultMode, items) => { defaultMode, items })
    (fun s => (s.defaultMode, s.items))

/-- A config map or secret as a part of a volume. -/
structure ProjectedData where
  items : Option (List KeyToPath) := none
  name : String := ""
  isOptional : Option Bool := none

def ProjectedData.record : Record ProjectedData :=
  ((optional "items" (list KeyToPath.record.codec)).and <|
   (defaulted "name" text "").and <|
   (optional "optional" bool)).via
    (fun (items, name, isOptional) => { items, name, isOptional })
    (fun p => (p.items, p.name, p.isOptional))

/-- Certificates that the machine trusts as a part of a volume. -/
structure ProjectedBundle where
  labelSelector : Option LabelSelector := none
  name : Option String := none
  isOptional : Option Bool := none
  path : String := ""
  signerName : Option String := none

/-- The fields of projected certificates. -/
def ProjectedBundle.record : Record ProjectedBundle :=
  ((optional "labelSelector" LabelSelector.record.codec).and <|
   (optional "name" text).and <|
   (optional "optional" bool).and <|
   (defaulted "path" text "").and <|
   (optional "signerName" text)).via
    (fun (labelSelector, name, isOptional, path, signerName) =>
      { labelSelector, name, isOptional, path, signerName })
    (fun b => (b.labelSelector, b.name, b.isOptional, b.path, b.signerName))

/-- Fields of the pod as a part of a volume. -/
structure ProjectedFields where
  items : Option (List PodFieldFile) := none

def ProjectedFields.record : Record ProjectedFields :=
  (optional "items" (list PodFieldFile.record.codec)).via
    (fun items => { items })
    (fun p => p.items)

/-- A token of the pod's service account as a part of a volume. -/
structure ProjectedToken where
  audience : Option String := none
  expirationSeconds : Option Int64 := none
  path : String := ""

/-- The fields of a projected token. -/
def ProjectedToken.record : Record ProjectedToken :=
  ((optional "audience" text).and <|
   (optional "expirationSeconds" int64).and <|
   (defaulted "path" text "")).via
    (fun (audience, expirationSeconds, path) => { audience, expirationSeconds, path })
    (fun t => (t.audience, t.expirationSeconds, t.path))

/-- A part of a volume that is put together from several sources. -/
structure Projection where
  clusterTrustBundle : Option ProjectedBundle := none
  configMap : Option ProjectedData := none
  downwardAPI : Option ProjectedFields := none
  secret : Option ProjectedData := none
  serviceAccountToken : Option ProjectedToken := none

/-- The fields of a part. -/
def Projection.record : Record Projection :=
  ((optional "clusterTrustBundle" ProjectedBundle.record.codec).and <|
   (optional "configMap" ProjectedData.record.codec).and <|
   (optional "downwardAPI" ProjectedFields.record.codec).and <|
   (optional "secret" ProjectedData.record.codec).and <|
   (optional "serviceAccountToken" ProjectedToken.record.codec)).via
    (fun (clusterTrustBundle, configMap, downwardAPI, secret, serviceAccountToken) =>
      { clusterTrustBundle, configMap, downwardAPI, secret, serviceAccountToken })
    (fun p => (p.clusterTrustBundle, p.configMap, p.downwardAPI, p.secret, p.serviceAccountToken))

/-- A volume put together from several sources. -/
structure ProjectedSource where
  defaultMode : Option Int32 := none
  sources : Option (List Projection) := none

def ProjectedSource.record : Record ProjectedSource :=
  ((optional "defaultMode" int32).and <| (optional "sources" (list Projection.record.codec))).via
    (fun (defaultMode, sources) => { defaultMode, sources })
    (fun s => (s.defaultMode, s.sources))

end SpokeSim
