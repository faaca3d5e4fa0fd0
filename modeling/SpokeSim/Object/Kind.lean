import SpokeSim.Object.Config
import SpokeSim.Object.Deployment
import SpokeSim.Object.ManagedCluster

/-!
# Kinds of objects

The kinds that the simulator reads or writes.  Each has a type, a codec, a collection in which the
hub keeps its objects, and metadata to look at and to change.

All kinds but managed clusters are those of version 1.30 of the Kubernetes API.  Their types have
every field that this version has, in the order in which the fields are written, so that nothing of
an object is lost by reading it but members that the version does not know.
-/

namespace SpokeSim

/-- A kind of object. -/
inductive Kind where
  | configMap
  | secret
  | serviceAccount
  | deployment
  | clusterRoleBinding
  | managedCluster
  | pod
deriving DecidableEq, Repr, Inhabited

namespace Kind

/-- The name of a kind. -/
def name : Kind → String
  | configMap => "ConfigMap"
  | secret => "Secret"
  | serviceAccount => "ServiceAccount"
  | deployment => "Deployment"
  | clusterRoleBinding => "ClusterRoleBinding"
  | managedCluster => "ManagedCluster"
  | pod => "Pod"

/-- The objects of a kind. -/
abbrev Object : Kind → Type
  | configMap => ConfigMap
  | secret => Secret
  | serviceAccount => ServiceAccount
  | deployment => Deployment
  | clusterRoleBinding => ClusterRoleBinding
  | managedCluster => ManagedCluster
  | pod => Pod

/-- How the objects of a kind are written and read. -/
def codec : (k : Kind) → Codec k.Object
  | configMap => ConfigMap.record.codec
  | secret => Secret.record.codec
  | serviceAccount => ServiceAccount.record.codec
  | deployment => Deployment.record.codec
  | clusterRoleBinding => ClusterRoleBinding.record.codec
  | managedCluster => ManagedCluster.codec
  | pod => Pod.record.codec

/-- The metadata of an object. -/
def metadata : (k : Kind) → k.Object → ObjectMeta
  | configMap, o => o.metadata
  | secret, o => o.metadata
  | serviceAccount, o => o.metadata
  | deployment, o => o.metadata
  | clusterRoleBinding, o => o.metadata
  | managedCluster, o => o.metadata
  | pod, o => o.metadata

/-- The object with other metadata. -/
def setMetadata : (k : Kind) → k.Object → ObjectMeta → k.Object
  | configMap, o, m => { o with metadata := m }
  | secret, o, m => { o with metadata := m }
  | serviceAccount, o, m => { o with metadata := m }
  | deployment, o, m => { o with metadata := m }
  | clusterRoleBinding, o, m => { o with metadata := m }
  | managedCluster, o, m => { o with metadata := m }
  | pod, o, m => { o with metadata := m }

/-- The path of the collection that holds the objects of a kind, in a namespace where the kind has
one. -/
def collection (k : Kind) (space : String) : String :=
  match k with
  | configMap => "/api/v1/namespaces/" ++ space ++ "/configmaps"
  | secret => "/api/v1/namespaces/" ++ space ++ "/secrets"
  | serviceAccount => "/api/v1/namespaces/" ++ space ++ "/serviceaccounts"
  | pod => "/api/v1/namespaces/" ++ space ++ "/pods"
  | deployment => "/apis/apps/v1/namespaces/" ++ space ++ "/deployments"
  | clusterRoleBinding => "/apis/rbac.authorization.k8s.io/v1/clusterrolebindings"
  | managedCluster => "/apis/cluster.open-cluster-management.io/v1/managedclusters"

end Kind

end SpokeSim
