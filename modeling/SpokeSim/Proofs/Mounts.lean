import SpokeSim.Proofs.Simulation

/-!
# Volumes and mounts of a simulating deployment

A pod can only run if what its containers mount is declared, and if neither two of its volumes share
a name nor two mounts of a container share a path.  The collector's template is edited in three
lists that depend on each other in this way: the volumes, the mounts of the first container, and the
containers that run before it.

**No mount dangles.**  A declared volume stays declared, and what is mounted anew is declared anew
(`Deployment.simulate_mountsFrom`).

**Names may clash.**  The metrics' volume and its mount are added to whatever the template has.  So
names and paths stay apart exactly if the template makes no use of the added ones
(`Deployment.simulate_nodup_iff`).
-/

namespace SpokeSim

variable {cluster : String} {id : ClusterId}

/-! ## What a container mounts -/

namespace Container

variable {c c' : Container} {volumes volumes' : List Volume}

/-- What a container mounts. -/
def mounts (c : Container) : List VolumeMount := c.volumeMounts.getD []

/-- The paths at which a container mounts something. -/
def mountPaths (c : Container) : List String := c.mounts.map VolumeMount.mountPath

/-- Whatever a container mounts is one of some volumes, by its name. -/
def MountsFrom (volumes : List Volume) (c : Container) : Prop :=
  ∀ m ∈ c.mounts, ∃ v ∈ volumes, v.name = m.name

instance : Decidable (c.MountsFrom volumes) :=
  inferInstanceAs (Decidable (∀ m ∈ c.mounts, ∃ v ∈ volumes, v.name = m.name))

/-- A container sees the recorded metrics where they are looked for. -/
def SeesMetrics (c : Container) : Prop :=
  ∃ m ∈ c.mounts, m.name = "metrics-volume" ∧ m.mountPath = "/metrics-volume"

lemma MountsFrom.mono (h : c.MountsFrom volumes) (hsub : volumes ⊆ volumes') :
    c.MountsFrom volumes' := by
  intro m hm
  obtain ⟨v, hv, hname⟩ := h m hm
  exact ⟨v, hsub hv, hname⟩

lemma IsSimulated.mounts (h : c.IsSimulated cluster id c') :
    c'.mounts = c.mounts ++ [metricsMount] := by
  rw [Container.mounts, h.volumeMounts]
  rfl

lemma IsSimulated.mountsFrom (h : c.IsSimulated cluster id c') (hmounts : c.MountsFrom volumes)
    (hmetrics : metricsVolume ∈ volumes) : c'.MountsFrom volumes := by
  intro m hm
  rw [h.mounts, List.mem_append, List.mem_singleton] at hm
  obtain hm | rfl := hm
  · exact hmounts m hm
  · exact ⟨metricsVolume, hmetrics, rfl⟩

lemma IsSimulated.seesMetrics (h : c.IsSimulated cluster id c') : c'.SeesMetrics := by
  rw [SeesMetrics, h.mounts]
  exact ⟨metricsMount, List.mem_append_right _ (List.mem_singleton_self _), rfl, rfl⟩

lemma mountsFrom_seedContainer (hmetrics : metricsVolume ∈ volumes) :
    seedContainer.MountsFrom volumes := by
  intro m hm
  obtain rfl : m = metricsMount := List.mem_singleton.1 hm
  exact ⟨metricsVolume, hmetrics, rfl⟩

lemma seesMetrics_seedContainer : seedContainer.SeesMetrics :=
  ⟨metricsMount, List.mem_singleton_self _, rfl, rfl⟩

end Container

/-! ## The lists of a deployment -/

namespace Deployment

variable {d d' : Deployment}

/-- The containers of a deployment's pods. -/
def containers (d : Deployment) : List Container := d.pod?.elim [] PodSpec.containers

/-- The containers that run before these. -/
def initContainers (d : Deployment) : List Container :=
  d.pod?.elim [] fun pod => pod.initContainers.getD []

/-- The volumes that a deployment's pods declare. -/
def volumes (d : Deployment) : List Volume := d.pod?.elim [] fun pod => pod.volumes.getD []

/-- The names of these volumes. -/
def volumeNames (d : Deployment) : List String := d.volumes.map Volume.name

/-- The paths at which the first container mounts something. -/
def firstMountPaths (d : Deployment) : List String :=
  d.containers.head?.elim [] Container.mountPaths

/-- **What becomes of the lists**: the first container is told to replay the metrics, the seed
container alone runs before it, and the metrics' volume is added. -/
lemma IsSimulated.lists (h : d.IsSimulated cluster id d') :
    (∃ c c' cs, d.containers = c :: cs ∧ d'.containers = c' :: cs ∧
      c.IsSimulated cluster id c') ∧
    d'.initContainers = [seedContainer] ∧ d'.volumes = d.volumes ++ [metricsVolume] := by
  obtain ⟨spec, spec', pod, pod', hspec, hspec', htemplate, htemplate', hpods, -, -⟩ := h.spec
  have hpod : d.pod? = some pod := by rw [pod?, hspec, Option.bind_some, htemplate]
  have hpod' : d'.pod? = some pod' := by rw [pod?, hspec', Option.bind_some, htemplate']
  simp only [containers, initContainers, volumes, hpod, hpod', Option.elim_some]
  refine ⟨hpods.containers, ?_, ?_⟩
  · rw [hpods.initContainers]
    rfl
  · rw [hpods.volumes]
    rfl

/-! ## No mount dangles -/

/-- Two containers that mount the one volume of their pod at one path. -/
def sharing (volume path : String) : Deployment :=
  let mount : VolumeMount := { name := volume, mountPath := path }
  let pod : PodSpec :=
    { containers :=
        [{ name := "collector", volumeMounts := some [mount] },
          { name := "proxy", volumeMounts := some [mount] }]
      volumes := some [{ name := volume }] }
  { spec := some { template := { spec := some pod } } }

/-- **No mount dangles.**  If all that the containers of a template mount is declared, so is all
that is mounted in the deployment that is built from it, by its containers and by those that run
before them.  The recorded metrics have an empty directory, and are seen from the first container
and from each that runs before. -/
theorem simulate_mountsFrom (htemplate : ∀ c ∈ d.containers, c.MountsFrom d.volumes)
    (h : d.simulate cluster id = .ok d') :
    (∀ c ∈ d'.containers ++ d'.initContainers, c.MountsFrom d'.volumes) ∧
    { name := "metrics-volume", emptyDir := some {} } ∈ d'.volumes ∧
    (∃ c cs, d'.containers = c :: cs ∧ c.SeesMetrics) ∧
    ∀ c ∈ d'.initContainers, c.SeesMetrics := by
  obtain ⟨⟨c₀, c₀', cs, hcontainers, hcontainers', hfirst⟩, hinit, hvolumes⟩ :=
    (simulate_eq_ok_iff.1 h).lists
  have hmetrics : metricsVolume ∈ d'.volumes := by simp [hvolumes]
  have hkept : ∀ c ∈ c₀ :: cs, c.MountsFrom d'.volumes := by
    intro c hc
    rw [← hcontainers] at hc
    exact (htemplate c hc).mono (hvolumes ▸ List.subset_append_left _ _)
  refine ⟨?declared, hmetrics, ⟨c₀', cs, hcontainers', hfirst.seesMetrics⟩, ?init⟩
  case declared =>
    intro c hc
    rw [hcontainers', hinit, List.cons_append, List.mem_cons, List.mem_append,
      List.mem_singleton] at hc
    obtain rfl | hc | rfl := hc
    · exact hfirst.mountsFrom (hkept c₀ List.mem_cons_self) hmetrics
    · exact hkept c (List.mem_cons_of_mem _ hc)
    · exact Container.mountsFrom_seedContainer hmetrics
  case init =>
    intro c hc
    rw [hinit, List.mem_singleton] at hc
    rw [hc]
    exact Container.seesMetrics_seedContainer

theorem simulate_mountsFrom_sharing :
    (∀ c ∈ (sharing "ca" "/etc/ca").containers,
      c.MountsFrom (sharing "ca" "/etc/ca").volumes) ∧
    ∃ d', (sharing "ca" "/etc/ca").simulate "spoke-1" ⟨0⟩ = .ok d' ∧
      (∀ c ∈ d'.containers ++ d'.initContainers, c.MountsFrom d'.volumes) ∧
      { name := "metrics-volume", emptyDir := some {} } ∈ d'.volumes ∧
      (∃ c cs, d'.containers = c :: cs ∧ c.SeesMetrics) ∧
      ∀ c ∈ d'.initContainers, c.SeesMetrics := by
  have hdeclared : ∀ c ∈ (sharing "ca" "/etc/ca").containers,
      c.MountsFrom (sharing "ca" "/etc/ca").volumes := by decide
  exact ⟨hdeclared, _, rfl, simulate_mountsFrom hdeclared rfl⟩

/-! ## Names may clash -/

lemma nodup_append_singleton {α : Type} {xs : List α} {x : α} :
    (xs ++ [x]).Nodup ↔ xs.Nodup ∧ x ∉ xs := by
  rw [List.nodup_append_comm, List.singleton_append, List.nodup_cons, and_comm]

/-- **Names and paths stay apart just if the added ones are new.**  The volumes of the deployment
have different names if and only if those of the template have and none of them has the name of the
metrics' volume; and the first container mounts everything at a path of its own if and only if it
does so in the template and leaves the path of the metrics free. -/
theorem simulate_nodup_iff (h : d.simulate cluster id = .ok d') :
    (d'.volumeNames.Nodup ↔ d.volumeNames.Nodup ∧ "metrics-volume" ∉ d.volumeNames) ∧
    (d'.firstMountPaths.Nodup ↔
      d.firstMountPaths.Nodup ∧ "/metrics-volume" ∉ d.firstMountPaths) := by
  obtain ⟨⟨c, c', cs, hcontainers, hcontainers', hfirst⟩, -, hvolumes⟩ :=
    (simulate_eq_ok_iff.1 h).lists
  have hnames : d'.volumeNames = d.volumeNames ++ ["metrics-volume"] := by
    rw [volumeNames, hvolumes, List.map_append]
    rfl
  have hpaths : d'.firstMountPaths = d.firstMountPaths ++ ["/metrics-volume"] := by
    simp only [firstMountPaths, hcontainers, hcontainers', List.head?_cons, Option.elim_some,
      Container.mountPaths, hfirst.mounts, List.map_append]
    rfl
  rw [hnames, hpaths]
  exact ⟨nodup_append_singleton, nodup_append_singleton⟩

theorem simulate_nodup_iff_sharing :
    ∃ d', (sharing "ca" "/etc/ca").simulate "spoke-1" ⟨0⟩ = .ok d' ∧
      d'.volumeNames.Nodup ∧ d'.firstMountPaths.Nodup := by
  obtain ⟨d', hd'⟩ : ∃ d', (sharing "ca" "/etc/ca").simulate "spoke-1" ⟨0⟩ = .ok d' := ⟨_, rfl⟩
  obtain ⟨hnames, hpaths⟩ := simulate_nodup_iff hd'
  exact ⟨d', hd', hnames.2 (by decide), hpaths.2 (by decide)⟩

/-- A template that has a volume of that name already, and mounts it at that path, does not clash,
but the deployment that is built from it does. -/
theorem not_simulate_nodup :
    (sharing "metrics-volume" "/metrics-volume").volumeNames.Nodup ∧
    (sharing "metrics-volume" "/metrics-volume").firstMountPaths.Nodup ∧
    ∃ d', (sharing "metrics-volume" "/metrics-volume").simulate "spoke-1" ⟨0⟩ = .ok d' ∧
      ¬d'.volumeNames.Nodup ∧ ¬d'.firstMountPaths.Nodup :=
  ⟨by decide, by decide, _, rfl, by decide, by decide⟩

end Deployment

end SpokeSim
