import SpokeSim.Object.Metadata

/-!
# Identities and their rights

Service accounts, and the cluster-wide bindings that give them the rights of a role.
-/

namespace SpokeSim

open Codec Record

/-- A reference to an object of the same namespace. -/
structure LocalReference where
  name : String := ""

/-- The fields of a local reference. -/
def LocalReference.record : Record LocalReference :=
  (defaulted "name" text "").via (fun name => { name }) (fun r => r.name)

/-- A reference to any object. -/
structure ObjectReference where
  apiVersion : Option String := none
  fieldPath : Option String := none
  kind : Option String := none
  name : Option String := none
  space : Option String := none
  resourceVersion : Option String := none
  uid : Option String := none

/-- The fields of an object reference. -/
def ObjectReference.record : Record ObjectReference :=
  ((optional "apiVersion" text).and <|
   (optional "fieldPath" text).and <|
   (optional "kind" text).and <|
   (optional "name" text).and <|
   (optional "namespace" text).and <|
   (optional "resourceVersion" text).and <|
   (optional "uid" text)).via
    (fun (apiVersion, fieldPath, kind, name, space, resourceVersion, uid) =>
      { apiVersion, fieldPath, kind, name, space, resourceVersion, uid })
    (fun r => (r.apiVersion, r.fieldPath, r.kind, r.name, r.space, r.resourceVersion, r.uid))

/-- The identity of the processes of a pod. -/
structure ServiceAccount where
  automountServiceAccountToken : Option Bool := none
  imagePullSecrets : Option (List LocalReference) := none
  metadata : ObjectMeta := {}
  secrets : Option (List ObjectReference) := none

/-- The fields of a service account. -/
def ServiceAccount.record : Record ServiceAccount :=
  ((constant "apiVersion" "v1").and <|
   (constant "kind" "ServiceAccount").and <|
   (optional "automountServiceAccountToken" bool).and <|
   (optional "imagePullSecrets" (list LocalReference.record.codec)).and <|
   (defaulted "metadata" ObjectMeta.codec {}).and <|
   (optional "secrets" (list ObjectReference.record.codec))).via
    (fun (_, _, automountServiceAccountToken, imagePullSecrets, metadata, secrets) =>
      { automountServiceAccountToken, imagePullSecrets, metadata, secrets })
    (fun a => ((), (), a.automountServiceAccountToken, a.imagePullSecrets, a.metadata, a.secrets))

/-- The role whose rights a binding gives. -/
structure RoleRef where
  apiGroup : String := ""
  kind : String := ""
  name : String := ""
deriving DecidableEq

/-- The fields of a role reference. -/
def RoleRef.record : Record RoleRef :=
  ((defaulted "apiGroup" text "").and <|
   (defaulted "kind" text "").and <|
   (defaulted "name" text "")).via
    (fun (apiGroup, kind, name) => { apiGroup, kind, name })
    (fun r => (r.apiGroup, r.kind, r.name))

/-- One of those who are given rights. -/
structure Subject where
  apiGroup : Option String := none
  kind : String := ""
  name : String := ""
  space : Option String := none
deriving DecidableEq

/-- The fields of a subject. -/
def Subject.record : Record Subject :=
  ((optional "apiGroup" text).and <|
   (defaulted "kind" text "").and <|
   (defaulted "name" text "").and <|
   (optional "namespace" text)).via
    (fun (apiGroup, kind, name, space) => { apiGroup, kind, name, space })
    (fun s => (s.apiGroup, s.kind, s.name, s.space))

/-- A grant of a role's rights over the whole cluster. -/
structure ClusterRoleBinding where
  metadata : ObjectMeta := {}
  roleRef : RoleRef := {}
  subjects : Option (List Subject) := none

/-- The fields of a cluster role binding. -/
def ClusterRoleBinding.record : Record ClusterRoleBinding :=
  ((constant "apiVersion" "rbac.authorization.k8s.io/v1").and <|
   (constant "kind" "ClusterRoleBinding").and <|
   (defaulted "metadata" ObjectMeta.codec {}).and <|
   (defaulted "roleRef" RoleRef.record.codec {}).and <|
   (optional "subjects" (list Subject.record.codec))).via
    (fun (_, _, metadata, roleRef, subjects) => { metadata, roleRef, subjects })
    (fun b => ((), (), b.metadata, b.roleRef, b.subjects))

end SpokeSim
