import SpokeSim.ClusterId
import SpokeSim.Object.Kind
import SpokeSim.Simulator.Names

/-!
# Objects of a simulated cluster

How the objects of a simulated cluster come from the add-on's templates.

* `Kind.clone` moves an object to the cluster's namespace and drops what ties it to the template,
  on demand its owners as well.
* `Deployment.simulate` turns the collector's deployment into one that replays recorded metrics:
  the first container is told so by three flags and loses its demands on the machine, and a seed
  container lays the recorded metrics into a volume that both see.
* `roleBinding?` gives the cluster's service account the right to read metrics.
-/

namespace SpokeSim

/-- Move an object to a namespace, without its owners if asked to. -/
def Kind.clone (k : Kind) (disown : Bool) (space : String) (o : k.Object) : k.Object :=
  let m := k.metadata o
  k.setMetadata o ((if disown then m.disown else m).retarget space)

/-! ## The collector's deployment -/

/-- Flags that make a collector simulate a cluster. -/
def simulatorFlags (cluster : String) (id : ClusterId) : List String :=
  ["--label=\"cluster=" ++ cluster ++ "\"",
    "--label=\"clusterID=" ++ id.toText ++ "\"",
    "--simulated-timeseries-file=" ++ timeseriesFile]

/-- Where containers see the recorded metrics. -/
def metricsMount : VolumeMount := { mountPath := metricsMountPath, name := metricsVolumeName }

/-- The volume of the recorded metrics, empty to begin with. -/
def metricsVolume : Volume := { name := metricsVolumeName, emptyDir := some {} }

/-- The container that lays the recorded metrics down. -/
def seedContainer : Container :=
  { name := seedContainerName
    image := some metricsImage
    imagePullPolicy := some "Always"
    command := some ["sh", "-c", seedCommand]
    volumeMounts := some [metricsMount] }

/-- The collector's container, told to replay recorded metrics. -/
def Container.simulate (c : Container) (cluster : String) (id : ClusterId) : Container :=
  { c with
    command := some (c.command.getD [] ++ simulatorFlags cluster id)
    volumeMounts := some (c.volumeMounts.getD [] ++ [metricsMount])
    resources := none }

/-- Why no deployment can be built from a template. -/
inductive TemplateFault where
  | noPodSpec
  | noContainers
deriving DecidableEq, Repr

/-- The wording of a fault. -/
def TemplateFault.message : TemplateFault → String
  | noPodSpec => "deployment " ++ collectorName ++ " has no pod spec"
  | noContainers => "deployment " ++ collectorName ++ " has no containers"

/-- A pod that replays recorded metrics in its first container. -/
def PodSpec.simulate (p : PodSpec) (cluster : String) (id : ClusterId) :
    Except TemplateFault PodSpec :=
  match p.containers with
  | [] => .error .noContainers
  | c :: cs =>
    .ok { p with
      containers := c.simulate cluster id :: cs
      initContainers := some [seedContainer]
      volumes := some (p.volumes.getD [] ++ [metricsVolume]) }

/-- The deployment that simulates a cluster. -/
def Deployment.simulate (d : Deployment) (cluster : String) (id : ClusterId) :
    Except TemplateFault Deployment :=
  match d.spec with
  | none => .error .noPodSpec
  | some spec =>
    match spec.template.spec with
    | none => .error .noPodSpec
    | some pod => do
      let pod ← pod.simulate cluster id
      return Kind.clone .deployment true cluster
        { d with spec := some { spec with template := { spec.template with spec := some pod } } }

/-! ## Rights -/

/-- The binding that lets a cluster's service account read metrics; none for an empty name. -/
def roleBinding? (cluster : String) : Option ClusterRoleBinding :=
  if cluster = "" then none
  else some
    { metadata :=
        { name := some (bindingName cluster)
          annotations := some (.ofList [("owner", "multicluster-operator")]) }
      subjects := some
        [{ kind := "ServiceAccount", name := endpointAccountName, space := some cluster }]
      roleRef := { apiGroup := rbacGroup, kind := "ClusterRole", name := monitoringRole } }

end SpokeSim
