import SpokeSim.Api.Call
import SpokeSim.Simulator.Clone
import SpokeSim.Simulator.Error

/-!
# Provisioning

Provisioning gives a cluster its six objects, one step each: four copies of templates, the
collector's deployment turned into a simulator, and a role binding.  A step reads its template anew,
then creates the object; that the object is there already is as good as having created it.

The steps are taken in the order of `ProvisionStep.all` and end with the first that fails, so what
is there after a failure is what the steps before it have made.
-/

namespace SpokeSim

/-- Create an object in a namespace unless it is there already. -/
def createIfAbsent (k : Kind) (space : String) (o : k.Object) : Sim (Except SimError Unit) := do
  let name := (k.metadata o).displayName
  match ← Api.create k space o with
  | .ok _ =>
    log .info .provisioner ("Created " ++ k.name ++ " " ++ name)
    return .ok ()
  | .error e =>
    match e.outcome with
    | .alreadyExists =>
      log .debug .provisioner (k.name ++ " " ++ name ++ " already exists")
      return .ok ()
    | .notFound | .other => return .error (.api e)

/-- Copy a template into a cluster's namespace, without its owners if asked to. -/
def copyTemplate (k : Kind) (name : String) (disown : Bool) (cluster : String) :
    Sim (Except SimError Unit) := do
  match ← Api.get k addonNamespace name with
  | .error e => return .error (.api e)
  | .ok template => createIfAbsent k cluster (k.clone disown cluster template)

/-- Create the deployment that simulates a cluster under a fresh identifier. -/
def createSimulator (cluster : String) : Sim (Except SimError Unit) := do
  match ← Api.get .deployment addonNamespace collectorName with
  | .error e => return .error (.api e)
  | .ok template =>
    let id ← Sim.freshId
    log .debug .provisioner
      ("Simulating cluster " ++ cluster ++ " with clusterID " ++ id.toText)
    match Deployment.simulate template cluster id with
    | .error f => return .error (.invalidTemplate f.message)
    | .ok d => createIfAbsent .deployment cluster d

/-- Create the role binding of a cluster. -/
def createBinding (cluster : String) : Sim (Except SimError Unit) :=
  match roleBinding? cluster with
  | none => return .error .emptyClusterName
  | some b => createIfAbsent .clusterRoleBinding "" b

/-- Take one step for a cluster. -/
def ProvisionStep.run (cluster : String) : ProvisionStep → Sim (Except SimError Unit)
  | caBundle => copyTemplate .configMap caBundleName false cluster
  | signerCert => copyTemplate .secret signerCertName false cluster
  | managedCert => copyTemplate .secret managedCertName true cluster
  | serviceAccount => copyTemplate .serviceAccount endpointAccountName true cluster
  | deployment => createSimulator cluster
  | roleBinding => createBinding cluster

/-- Take steps one after the other, up to the first that fails. -/
def runSteps (cluster : String) : List ProvisionStep → Sim (Except SimError Unit)
  | [] => return .ok ()
  | step :: steps => do
    match ← step.run cluster with
    | .ok () => runSteps cluster steps
    | .error e =>
      log .debug .provisioner ("Provisioning step " ++ step.name ++ " failed: " ++ e.message)
      return .error (.provision step)

/-- Give a cluster its objects. -/
def provision (cluster : String) : Sim (Except SimError Unit) := do
  match ← runSteps cluster ProvisionStep.all with
  | .ok () =>
    log .info .provisioner ("Simulator provisioned for cluster " ++ cluster)
    return .ok ()
  | .error e => return .error e

end SpokeSim
