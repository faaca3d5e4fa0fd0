import SpokeSim.Api.Error

/-!
# Failures of the simulator

What can go wrong, from a call to the hub up to a whole provisioning, and how it is worded.  The
failure of a provisioning step is worded by the step alone: its cause goes to the log.
-/

namespace SpokeSim

/-- A step of provisioning a cluster. -/
inductive ProvisionStep where
  | caBundle
  | signerCert
  | managedCert
  | serviceAccount
  | deployment
  | roleBinding
deriving DecidableEq, Repr, Inhabited

namespace ProvisionStep

/-- The steps in the order in which they are taken. -/
def all : List ProvisionStep :=
  [caBundle, signerCert, managedCert, serviceAccount, deployment, roleBinding]

/-- The name of a step in the log. -/
def name : ProvisionStep → String
  | caBundle => "CaBundleConfigMap"
  | signerCert => "SignerCertSecret"
  | managedCert => "ManagedCertSecret"
  | serviceAccount => "ServiceAccount"
  | deployment => "Deployment"
  | roleBinding => "ClusterRoleBinding"

/-- The wording of a step's failure; the two secrets share theirs. -/
def failure : ProvisionStep → String
  | caBundle => "failed to create cert configmap"
  | signerCert | managedCert => "failed to create cert secrets"
  | serviceAccount => "failed to create cert serviceAccount"
  | deployment => "failed to create simulator deployment"
  | roleBinding => "failed to create clusterrolebinding"

end ProvisionStep

/-- What can go wrong. -/
inductive SimError where
  /-- A call to the hub failed. -/
  | api (e : ApiError)
  /-- The way to the hub could not be set up. -/
  | kubeconfig (text : String)
  /-- A cluster without a name. -/
  | emptyClusterName
  /-- A template from which nothing can be built. -/
  | invalidTemplate (text : String)
  /-- A step of provisioning failed. -/
  | provision (step : ProvisionStep)
  /-- The stream of cluster events broke off. -/
  | watch (text : String)
deriving DecidableEq, Repr

namespace SimError

/-- The wording of a failure. -/
def message : SimError → String
  | api e => "Kubernetes API error: " ++ e.message
  | kubeconfig text => "Failed to load hub kubeconfig: " ++ text
  | emptyClusterName => "cluster name is empty"
  | invalidTemplate text => "Invalid template: " ++ text
  | provision step => step.failure
  | watch text => "Cluster watch failed: " ++ text

/-- What lies behind a failure, from the outside in. -/
def causes : SimError → List String
  | api e => e.message :: e.causes
  | _ => []

end SimError

end SpokeSim
