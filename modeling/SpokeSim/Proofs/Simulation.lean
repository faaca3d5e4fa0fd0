import SpokeSim.Proofs.Copies

/-!
# The deployment that simulates a cluster

A deployment that simulates a cluster is the collector's with some edits, each at its own depth: in
the metadata, in the pod, in the first container of the pod.  `IsSimulated` says at every depth what
the edited parts are, in full, and that all the others are the same.

The main result, `Deployment.simulate_iff`, has both sides: for which templates there is no such
deployment, and that for any other template the one that is built is the one so described.
-/

namespace SpokeSim

variable {cluster : String} {id : ClusterId}

/-! ## The first container -/

namespace Container

/-- A container without the parts that are edited. -/
def untouched (c : Container) : Container :=
  { c with command := none, volumeMounts := none, resources := none }

/-- **A container replays recorded metrics**: its command has three flags more, it sees the volume
with the metrics beside those that it saw, it has no demands on the machine, and it is the same
otherwise. -/
structure IsSimulated (cluster : String) (id : ClusterId) (c c' : Container) : Prop where
  command : c'.command = some (c.command.getD [] ++
    ["--label=\"cluster=" ++ cluster ++ "\"",
      "--label=\"clusterID=" ++ id.toText ++ "\"",
      "--simulated-timeseries-file=/metrics-volume/timeseries.txt"])
  volumeMounts : c'.volumeMounts = some (c.volumeMounts.getD [] ++
    [{ name := "metrics-volume", mountPath := "/metrics-volume" }])
  resources : c'.resources = none
  untouched : c'.untouched = c.untouched

lemma ext_untouched {c c' : Container} (hcommand : c'.command = c.command)
    (hmounts : c'.volumeMounts = c.volumeMounts) (hresources : c'.resources = c.resources)
    (h : c'.untouched = c.untouched) : c' = c := by
  cases c
  cases c'
  simp only [untouched, mk.injEq] at *
  simp only [h, hcommand, hmounts, hresources, and_self]

lemma isSimulated_simulate (c : Container) (cluster : String) (id : ClusterId) :
    c.IsSimulated cluster id (c.simulate cluster id) :=
  ⟨rfl, rfl, rfl, rfl⟩

lemma isSimulated_iff {c c' : Container} :
    c.IsSimulated cluster id c' ↔ c' = c.simulate cluster id := by
  have hsimulate := c.isSimulated_simulate cluster id
  constructor
  · intro h
    exact ext_untouched (h.command.trans hsimulate.command.symm)
      (h.volumeMounts.trans hsimulate.volumeMounts.symm)
      (h.resources.trans hsimulate.resources.symm) (h.untouched.trans hsimulate.untouched.symm)
  · rintro rfl
    exact hsimulate

end Container

/-! ## The pod -/

namespace PodSpec

/-- A pod without the parts that are edited. -/
def untouched (p : PodSpec) : PodSpec :=
  { p with containers := [], initContainers := none, volumes := none }

/-- **A pod replays recorded metrics**: its first container does so, before which a single container
lays the metrics down, in a volume beside those that it had; the other containers are the same, and
so is everything else. -/
structure IsSimulated (cluster : String) (id : ClusterId) (p p' : PodSpec) : Prop where
  containers : ∃ c c' cs, p.containers = c :: cs ∧ p'.containers = c' :: cs ∧
    c.IsSimulated cluster id c'
  initContainers : p'.initContainers = some
    [{ name := "init-metrics"
       image := some "quay.io/haoqing/metrics-data:latest"
       imagePullPolicy := some "Always"
       command := some ["sh", "-c", "cp /tmp/timeseries.txt /metrics-volume"]
       volumeMounts := some [{ name := "metrics-volume", mountPath := "/metrics-volume" }] }]
  volumes : p'.volumes = some (p.volumes.getD [] ++
    [{ name := "metrics-volume", emptyDir := some {} }])
  untouched : p'.untouched = p.untouched

lemma ext_untouched {p p' : PodSpec} (hcontainers : p'.containers = p.containers)
    (hinit : p'.initContainers = p.initContainers) (hvolumes : p'.volumes = p.volumes)
    (h : p'.untouched = p.untouched) : p' = p := by
  cases p
  cases p'
  simp only [untouched, mk.injEq] at *
  simp only [h, hcontainers, hinit, hvolumes, and_self]

lemma simulate_of_nil {p : PodSpec} (h : p.containers = []) :
    p.simulate cluster id = .error .noContainers := by
  rw [simulate, h]

lemma simulate_of_cons {p : PodSpec} {c : Container} {cs : List Container}
    (h : p.containers = c :: cs) :
    ∃ p', p.simulate cluster id = .ok p' ∧ p'.containers = c.simulate cluster id :: cs ∧
      p.IsSimulated cluster id p' := by
  rw [simulate, h]
  exact ⟨_, rfl, rfl, ⟨c, _, cs, h, rfl, c.isSimulated_simulate cluster id⟩, rfl, rfl, rfl⟩

lemma simulate_eq_ok_iff {p p' : PodSpec} :
    p.simulate cluster id = .ok p' ↔ p.IsSimulated cluster id p' := by
  constructor
  · intro h
    cases hcontainers : p.containers with
    | nil =>
      rw [simulate_of_nil hcontainers] at h
      cases h
    | cons c cs =>
      obtain ⟨p'', hp'', -, hsimulated⟩ := simulate_of_cons hcontainers
      rw [hp''] at h
      rwa [← Except.ok.inj h]
  · intro h
    obtain ⟨c, c', cs, hcontainers, hcontainers', hc⟩ := h.containers
    obtain ⟨p'', hp'', hcontainers'', hsimulated⟩ := simulate_of_cons hcontainers
    rw [hp'']
    refine congrArg Except.ok (ext_untouched ?_
      (hsimulated.initContainers.trans h.initContainers.symm)
      (hsimulated.volumes.trans h.volumes.symm) (hsimulated.untouched.trans h.untouched.symm))
    rw [hcontainers'', hcontainers', Container.isSimulated_iff.1 hc]

lemma simulate_eq_error_iff {p : PodSpec} {f : TemplateFault} :
    p.simulate cluster id = .error f ↔ f = .noContainers ∧ p.containers = [] := by
  cases hcontainers : p.containers with
  | nil =>
    rw [simulate_of_nil hcontainers, Except.error.injEq, eq_comm]
    exact (and_iff_left rfl).symm
  | cons c cs =>
    obtain ⟨p', hp', -⟩ : ∃ p', p.simulate cluster id = .ok p' ∧
        p'.containers = c.simulate cluster id :: cs ∧ p.IsSimulated cluster id p' :=
      simulate_of_cons hcontainers
    simp [hp']

end PodSpec

/-! ## The deployment -/

attribute [ext] PodTemplate Deployment

namespace DeploymentSpec

/-- The specification of a deployment without its pod template. -/
def untouched (s : DeploymentSpec) : DeploymentSpec := { s with template := {} }

/-- The specification of a deployment with another pod. -/
def withPod (s : DeploymentSpec) (pod : PodSpec) : DeploymentSpec :=
  { s with template := { s.template with spec := some pod } }

lemma eq_withPod {s s' : DeploymentSpec} {pod : PodSpec} (hpod : s'.template.spec = some pod)
    (hmetadata : s'.template.metadata = s.template.metadata) (h : s'.untouched = s.untouched) :
    s' = s.withPod pod := by
  have htemplate : s'.template = (s.withPod pod).template := PodTemplate.ext hmetadata hpod
  cases s
  cases s'
  simp only [untouched, withPod, mk.injEq] at *
  simp only [h, htemplate, and_self]

end DeploymentSpec

namespace Deployment

/-- The pod of a deployment's template. -/
def pod? (d : Deployment) : Option PodSpec := d.spec.bind fun spec => spec.template.spec

/-- **A deployment simulates a cluster**: its metadata are moved to the cluster's namespace without
owners, its pod replays recorded metrics, and it is the same otherwise: the metadata of its pods,
its specification and its state. -/
structure IsSimulated (cluster : String) (id : ClusterId) (d d' : Deployment) : Prop where
  metadata : d.metadata.IsMoved true cluster d'.metadata
  spec : ∃ spec spec' pod pod', d.spec = some spec ∧ d'.spec = some spec' ∧
    spec.template.spec = some pod ∧ spec'.template.spec = some pod' ∧
    pod.IsSimulated cluster id pod' ∧
    spec'.template.metadata = spec.template.metadata ∧ spec'.untouched = spec.untouched
  status : d'.status = d.status

variable {d d' : Deployment}

lemma simulate_of_pod?_none (h : d.pod? = none) :
    d.simulate cluster id = .error .noPodSpec := by
  rw [pod?] at h
  rw [simulate]
  cases hspec : d.spec with
  | none => rfl
  | some spec =>
    rw [hspec, Option.bind_some] at h
    simp only [h]

lemma simulate_of_pod {spec : DeploymentSpec} {pod : PodSpec} (hspec : d.spec = some spec)
    (hpod : spec.template.spec = some pod) :
    d.simulate cluster id = (pod.simulate cluster id).map fun pod' =>
      { metadata := d.metadata.clone true cluster
        spec := some (spec.withPod pod')
        status := d.status } := by
  rw [simulate, hspec]
  simp only [hpod]
  cases pod.simulate cluster id <;> rfl

lemma exists_of_pod?_some {pod : PodSpec} (h : d.pod? = some pod) :
    ∃ spec, d.spec = some spec ∧ spec.template.spec = some pod :=
  Option.bind_eq_some_iff.1 h

lemma simulate_eq_error_iff {f : TemplateFault} :
    d.simulate cluster id = .error f ↔
      (f = .noPodSpec ∧ d.pod? = none) ∨
        (f = .noContainers ∧ ∃ pod, d.pod? = some pod ∧ pod.containers = []) := by
  cases hpod : d.pod? with
  | none =>
    rw [simulate_of_pod?_none hpod, Except.error.injEq, eq_comm]
    simp
  | some pod =>
    obtain ⟨spec, hspec, htemplate⟩ := exists_of_pod?_some hpod
    have hmap : d.simulate cluster id = .error f ↔ pod.simulate cluster id = .error f := by
      rw [simulate_of_pod hspec htemplate]
      cases pod.simulate cluster id <;> simp [Except.map]
    rw [hmap, PodSpec.simulate_eq_error_iff]
    simp

lemma simulate_eq_ok_iff :
    d.simulate cluster id = .ok d' ↔ d.IsSimulated cluster id d' := by
  constructor
  · intro h
    cases hpod : d.pod? with
    | none =>
      rw [simulate_of_pod?_none hpod] at h
      cases h
    | some pod =>
      obtain ⟨spec, hspec, htemplate⟩ := exists_of_pod?_some hpod
      rw [simulate_of_pod hspec htemplate] at h
      cases hsimulate : pod.simulate cluster id with
      | error f => rw [hsimulate] at h; cases h
      | ok pod' =>
        rw [hsimulate] at h
        rw [← Except.ok.inj h]
        exact ⟨ObjectMeta.isMoved_iff.2 rfl, ⟨spec, _, pod, pod', hspec, rfl, htemplate, rfl,
          PodSpec.simulate_eq_ok_iff.1 hsimulate, rfl, rfl⟩, rfl⟩
  · intro h
    obtain ⟨spec, spec', pod, pod', hspec, hspec', htemplate, htemplate', hpod, hmetadata, hrest⟩ :=
      h.spec
    rw [simulate_of_pod hspec htemplate, PodSpec.simulate_eq_ok_iff.2 hpod]
    refine congrArg Except.ok (Deployment.ext ?_ ?_ h.status.symm)
    · exact (ObjectMeta.isMoved_iff.1 h.metadata).symm
    · rw [hspec', DeploymentSpec.eq_withPod htemplate' hmetadata hrest]

/-- **The deployment that simulates a cluster.**  There is none just if the template has no
specification, its pods have none, or they have no containers, and the fault tells which.  Otherwise
it is the one deployment that has the edits and is the same as the template in all other parts. -/
theorem simulate_iff (d : Deployment) (cluster : String) (id : ClusterId) :
    (d.simulate cluster id = .error .noPodSpec ↔
      d.spec = none ∨ ∃ spec, d.spec = some spec ∧ spec.template.spec = none) ∧
    (d.simulate cluster id = .error .noContainers ↔
      ∃ spec pod, d.spec = some spec ∧ spec.template.spec = some pod ∧ pod.containers = []) ∧
    ∀ d', d.simulate cluster id = .ok d' ↔ d.IsSimulated cluster id d' := by
  refine ⟨?_, ?_, fun d' => simulate_eq_ok_iff⟩
  · rw [simulate_eq_error_iff, pod?]
    cases d.spec <;> simp
  · rw [simulate_eq_error_iff, pod?]
    cases d.spec <;> simp

end Deployment

end SpokeSim
