import SpokeSim.Time.Timestamp

/-!
# Object metadata

The part that all objects of the hub share: name, namespace, labels, owners and the bookkeeping of
the server.  `ObjectMeta.displayName` is the name by which an object is talked about: its own name,
or the stem from which the server is to generate one, or nothing.
-/

namespace SpokeSim

open Codec Record Time

/-- The owner of an object. -/
structure OwnerReference where
  apiVersion : String := ""
  blockOwnerDeletion : Option Bool := none
  controller : Option Bool := none
  kind : String := ""
  name : String := ""
  uid : String := ""

/-- The fields of an owner reference. -/
def OwnerReference.record : Record OwnerReference :=
  ((defaulted "apiVersion" text "").and <|
   (optional "blockOwnerDeletion" bool).and <|
   (optional "controller" bool).and <|
   (defaulted "kind" text "").and <|
   (defaulted "name" text "").and <|
   (defaulted "uid" text "")).via
    (fun (apiVersion, blockOwnerDeletion, controller, kind, name, uid) =>
      { apiVersion, blockOwnerDeletion, controller, kind, name, uid })
    (fun o => (o.apiVersion, o.blockOwnerDeletion, o.controller, o.kind, o.name, o.uid))

/-- A document that is kept as it is, whatever it holds. -/
structure KeptDocument where
  document : Json
  /-- An absent document is no document. -/
  present : document.isNull = false

/-- Any document but `null`. -/
def KeptDocument.codec : Codec KeptDocument where
  encode k := k.document
  decode d := do
    let j ← d.value
    if h : j.isNull = false then return ⟨j, h⟩ else throw .malformed

/-- The fields of an object that one manager has set. -/
structure ManagedFields where
  apiVersion : Option String := none
  fieldsType : Option String := none
  fieldsV1 : Option KeptDocument := none
  manager : Option String := none
  operation : Option String := none
  subresource : Option String := none
  time : Option Timestamp := none

/-- The fields of a manager's entry. -/
def ManagedFields.record : Record ManagedFields :=
  ((optional "apiVersion" text).and <|
   (optional "fieldsType" text).and <|
   (optional "fieldsV1" KeptDocument.codec).and <|
   (optional "manager" text).and <|
   (optional "operation" text).and <|
   (optional "subresource" text).and <|
   (optional "time" Timestamp.codec)).via
    (fun (apiVersion, fieldsType, fieldsV1, manager, operation, subresource, time) =>
      { apiVersion, fieldsType, fieldsV1, manager, operation, subresource, time })
    (fun m => (m.apiVersion, m.fieldsType, m.fieldsV1, m.manager, m.operation, m.subresource,
      m.time))

/-- The metadata of an object. -/
structure ObjectMeta where
  annotations : Option (KeyMap String) := none
  creationTimestamp : Option Timestamp := none
  deletionGracePeriodSeconds : Option Int64 := none
  deletionTimestamp : Option Timestamp := none
  finalizers : Option (List String) := none
  generateName : Option String := none
  generation : Option Int64 := none
  labels : Option (KeyMap String) := none
  managedFields : Option (List ManagedFields) := none
  name : Option String := none
  /-- The namespace that holds the object. -/
  space : Option String := none
  ownerReferences : Option (List OwnerReference) := none
  resourceVersion : Option String := none
  selfLink : Option String := none
  uid : Option String := none

namespace ObjectMeta

instance : Inhabited ObjectMeta := ⟨{}⟩

/-- The fields of an object's metadata. -/
def record : Record ObjectMeta :=
  ((optional "annotations" (map text)).and <|
   (optional "creationTimestamp" Timestamp.codec).and <|
   (optional "deletionGracePeriodSeconds" int64).and <|
   (optional "deletionTimestamp" Timestamp.codec).and <|
   (optional "finalizers" (list text)).and <|
   (optional "generateName" text).and <|
   (optional "generation" int64).and <|
   (optional "labels" (map text)).and <|
   (optional "managedFields" (list ManagedFields.record.codec)).and <|
   (optional "name" text).and <|
   (optional "namespace" text).and <|
   (optional "ownerReferences" (list OwnerReference.record.codec)).and <|
   (optional "resourceVersion" text).and <|
   (optional "selfLink" text).and <|
   (optional "uid" text)).via
    (fun (annotations, creationTimestamp, deletionGracePeriodSeconds, deletionTimestamp, finalizers,
        generateName, generation, labels, managedFields, name, space, ownerReferences,
        resourceVersion, selfLink, uid) =>
      { annotations, creationTimestamp, deletionGracePeriodSeconds, deletionTimestamp, finalizers,
        generateName, generation, labels, managedFields, name, space, ownerReferences,
        resourceVersion, selfLink, uid })
    (fun m =>
      (m.annotations, m.creationTimestamp, m.deletionGracePeriodSeconds, m.deletionTimestamp,
        m.finalizers, m.generateName, m.generation, m.labels, m.managedFields, m.name, m.space,
        m.ownerReferences, m.resourceVersion, m.selfLink, m.uid))

/-- Metadata as a document. -/
def codec : Codec ObjectMeta := record.codec

/-- The name of an object, the stem of the name to be generated, or nothing. -/
def displayName (m : ObjectMeta) : String :=
  m.name.getD (m.generateName.getD "")

/-- Move an object to a namespace and drop what ties it to one stored instance. -/
def retarget (m : ObjectMeta) (space : String) : ObjectMeta :=
  { m with
    space := some space
    resourceVersion := none
    uid := none
    creationTimestamp := none
    managedFields := none }

/-- Drop the owners of an object. -/
def disown (m : ObjectMeta) : ObjectMeta := { m with ownerReferences := none }

end ObjectMeta

end SpokeSim
