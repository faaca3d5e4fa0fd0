import SpokeSim.Proofs.PlainSteps

/-!
# Objects up to identifiers

Two runs draw different identifiers, and so their hubs are only alike up to them.  An identifier
stands in one place, a flag of a simulating deployment, the last but one word of its first
container's command.  `Deployment.withId` puts another one there.

* `SameUpToId`: two look-ups give the same, or give one deployment under two identifiers.  This is
  an equivalence, and things that are the same up to identifiers are there or not there together.
* `Deployment.simulate_withId`: simulators of a cluster are the same up to identifiers.
* `Hub.SameUpToIds`: so are all objects of two hubs.
-/

namespace SpokeSim

/-! ## Another identifier -/

/-- The flag that tells a collector its identifier. -/
def idFlag (id : ClusterId) : String := "--label=\"clusterID=" ++ id.toText ++ "\""

/-- A command with another identifier. -/
def commandWithId (id : ClusterId) (words : List String) : List String :=
  if 2 ≤ words.length then words.set (words.length - 2) (idFlag id) else words

/-- A container whose command has another identifier. -/
def Container.withId (c : Container) (id : ClusterId) : Container :=
  { c with command := c.command.map (commandWithId id) }

/-- A pod with another identifier in its first container. -/
def PodSpec.withId (p : PodSpec) (id : ClusterId) : PodSpec :=
  { p with containers := p.containers.modifyHead (·.withId id) }

/-- A deployment with another identifier. -/
def Deployment.withId (d : Deployment) (id : ClusterId) : Deployment :=
  { d with
    spec := d.spec.map fun spec =>
      { spec with
        template := { spec.template with spec := spec.template.spec.map (·.withId id) } } }

lemma commandWithId_commandWithId (id id' : ClusterId) (words : List String) :
    commandWithId id' (commandWithId id words) = commandWithId id' words := by
  by_cases h : 2 ≤ words.length
  · simp only [commandWithId, if_pos h, List.length_set, List.set_set]
  · simp only [commandWithId, if_neg h]

lemma Container.withId_withId (c : Container) (id id' : ClusterId) :
    (c.withId id).withId id' = c.withId id' := by
  have hcommand : commandWithId id' ∘ commandWithId id = commandWithId id' :=
    funext (commandWithId_commandWithId id id')
  rw [withId, withId, withId, Option.map_map, hcommand]

lemma PodSpec.withId_withId (p : PodSpec) (id id' : ClusterId) :
    (p.withId id).withId id' = p.withId id' := by
  have hcontainer : (fun c : Container => c.withId id') ∘ (fun c : Container => c.withId id)
      = fun c : Container => c.withId id' :=
    funext fun c => Container.withId_withId c id id'
  rw [withId, withId, withId, List.modifyHead_modifyHead, hcontainer]

/-- Of two identifiers one after the other, the later one is left. -/
lemma Deployment.withId_withId (d : Deployment) (id id' : ClusterId) :
    (d.withId id).withId id' = d.withId id' := by
  obtain ⟨metadata, spec, status⟩ := d
  cases spec with
  | none => rfl
  | some spec =>
    simp only [withId, Option.map_some, Option.map_map, Function.comp_def, PodSpec.withId_withId]

/-! ## Simulators -/

lemma commandWithId_flags (words : List String) (cluster : String) (id id' : ClusterId) :
    commandWithId id' (words ++ simulatorFlags cluster id)
      = words ++ simulatorFlags cluster id' := by
  have hlength : (words ++ simulatorFlags cluster id).length = words.length + 3 :=
    List.length_append
  rw [commandWithId, if_pos (by omega), hlength, List.set_append_right _ _ (by omega)]
  have hplace : words.length + 3 - 2 - words.length = 1 := by omega
  rw [hplace]
  rfl

lemma Container.simulate_withId (c : Container) (cluster : String) (id id' : ClusterId) :
    (c.simulate cluster id).withId id' = c.simulate cluster id' := by
  simp only [withId, simulate, Option.map_some, commandWithId_flags]

lemma PodSpec.simulate_withId {p p' : PodSpec} {cluster : String} {id : ClusterId}
    (h : p.simulate cluster id = .ok p') (id' : ClusterId) :
    p.simulate cluster id' = .ok (p'.withId id') := by
  rw [simulate] at h ⊢
  cases hcontainers : p.containers with
  | nil => rw [hcontainers] at h; cases h
  | cons c cs =>
    rw [hcontainers] at h
    rw [← Except.ok.inj h]
    simp only [withId, List.modifyHead_cons, Container.simulate_withId]

/-- A simulator under another identifier is the simulator under that identifier. -/
lemma Deployment.simulate_withId {d d' : Deployment} {cluster : String} {id : ClusterId}
    (h : d.simulate cluster id = .ok d') (id' : ClusterId) :
    d.simulate cluster id' = .ok (d'.withId id') := by
  rw [simulate] at h ⊢
  cases hspec : d.spec with
  | none => simp [hspec] at h
  | some spec =>
    cases hpod : spec.template.spec with
    | none => simp [hspec, hpod] at h
    | some pod =>
      simp only [hspec, hpod] at h ⊢
      cases hsimulate : pod.simulate cluster id with
      | error f => rw [hsimulate] at h; cases h
      | ok pod' =>
        rw [hsimulate] at h
        rw [PodSpec.simulate_withId hsimulate, ← Except.ok.inj h]
        rfl

/-! ## Sameness -/

/-- What two look-ups give is the same up to identifiers: the same, or the documents of one
deployment under two identifiers. -/
def SameUpToId (o o' : Option Json) : Prop :=
  o = o' ∨ ∃ (d : Deployment) (id id' : ClusterId),
    o = some (Kind.deployment.codec.encode (d.withId id)) ∧
      o' = some (Kind.deployment.codec.encode (d.withId id'))

namespace SameUpToId

variable {o o' o'' : Option Json}

protected lemma refl (o : Option Json) : SameUpToId o o := .inl rfl

protected lemma symm (h : SameUpToId o o') : SameUpToId o' o := by
  obtain rfl | ⟨d, id, id', ho, ho'⟩ := h
  · exact .refl o
  · exact .inr ⟨d, id', id, ho', ho⟩

lemma encode_deployment_injective {d d' : Deployment}
    (h : Kind.deployment.codec.encode d = Kind.deployment.codec.encode d') : d = d' := by
  have : Kind.deployment.codec.Faithful := Kind.faithful_codec rfl
  have hdecode := congrArg (fun j => Kind.deployment.codec.decode (.ofJson j)) h
  simp only [Codec.Faithful.decode_encode] at hdecode
  exact Except.ok.inj hdecode

protected lemma trans (h : SameUpToId o o') (h' : SameUpToId o' o'') : SameUpToId o o'' := by
  obtain rfl | ⟨d, id₁, id₂, ho, ho'⟩ := h
  · exact h'
  · obtain rfl | ⟨d', id₃, id₄, hmiddle, ho''⟩ := h'
    · exact .inr ⟨d, id₁, id₂, ho, ho'⟩
    · -- the deployment in the middle is both, so a third identifier makes both the same
      have hsame : d.withId id₂ = d'.withId id₃ :=
        encode_deployment_injective (Option.some.inj (ho'.symm.trans hmiddle))
      have hthird : d'.withId id₄ = d.withId id₄ := by
        rw [← d'.withId_withId id₃, ← hsame, d.withId_withId]
      exact .inr ⟨d, id₁, id₄, ho, by rw [ho'', hthird]⟩

/-- What is the same up to identifiers is there or not there together. -/
lemma isSome_eq (h : SameUpToId o o') : o.isSome = o'.isSome := by
  obtain rfl | ⟨d, id, id', rfl, rfl⟩ := h
  · rfl
  · rw [Option.isSome_some, Option.isSome_some]

/-- Where there is nothing, something else may stand in. -/
lemma or {p p' : Option Json} (h : SameUpToId o o') (h' : SameUpToId p p') :
    SameUpToId (o.or p) (o'.or p') := by
  cases o with
  | some j =>
    obtain ⟨j', rfl⟩ := Option.isSome_iff_exists.1 (h.isSome_eq.symm.trans rfl)
    exact h
  | none =>
    obtain rfl : o' = none := Option.not_isSome_iff_eq_none.1 (by rw [← h.isSome_eq]; simp)
    exact h'

end SameUpToId

/-- The objects of two hubs are the same up to identifiers. -/
def Hub.SameUpToIds (h h' : Hub) : Prop :=
  ∀ key, SameUpToId (h.objects.get? key) (h'.objects.get? key)

lemma Hub.SameUpToIds.refl (h : Hub) : h.SameUpToIds h := fun _ => .refl _

/-! ## Entries of steps -/

/-- Two entries for a hub are the same up to identifiers: they have the same key, if there are
any. -/
def SameEntry (e e' : Option (String × Json)) : Prop :=
  e.map Prod.fst = e'.map Prod.fst ∧ SameUpToId (e.map Prod.snd) (e'.map Prod.snd)

lemma SameEntry.refl (e : Option (String × Json)) : SameEntry e e := ⟨rfl, .refl _⟩

/-- There are two entries under one key, or none. -/
lemma SameEntry.cases {e e' : Option (String × Json)} (h : SameEntry e e') :
    (e = none ∧ e' = none) ∨
      ∃ key j j', e = some (key, j) ∧ e' = some (key, j') ∧ SameUpToId (some j) (some j') := by
  obtain ⟨hkey, hdoc⟩ := h
  cases e with
  | none =>
    rw [Option.map_none, eq_comm, Option.map_eq_none_iff] at hkey
    exact .inl ⟨rfl, hkey⟩
  | some e =>
    rw [Option.map_some, eq_comm, Option.map_eq_some_iff] at hkey
    obtain ⟨e', rfl, hkey⟩ := hkey
    exact .inr ⟨e.1, e.2, e'.2, rfl, congrArg some (Prod.ext hkey rfl), hdoc⟩

namespace ProvisionStep

variable {cluster : String} {id id' : ClusterId} {h h' : Hub} {s : ProvisionStep}

/-- Of the hub, what is made depends on the template alone. -/
lemma made?_congr
    (hsame : s ≠ .roleBinding → h'.objects.get? (templateKey (s.target cluster))
      = h.objects.get? (templateKey (s.target cluster))) :
    (s.source cluster id).made? h' = (s.source cluster id).made? h := by
  cases hsource : s.source cluster id with
  | direct made? => rfl
  | template name make? =>
    have hs : s ≠ .roleBinding := by rintro rfl; cases hsource
    have hkey := hsame hs
    rw [target, objectName_eq hsource] at hkey
    rw [Source.made?, Source.made?, Hub.read?, Hub.read?, hkey]

/-- So does an entry. -/
lemma addition?_congr
    (hsame : s ≠ .roleBinding → h'.objects.get? (templateKey (s.target cluster))
      = h.objects.get? (templateKey (s.target cluster))) :
    s.addition? cluster id h' = s.addition? cluster id h := by
  rw [addition?, addition?, made?_congr hsame]

/-- Only the deployment's entry depends on the identifier. -/
lemma addition?_eq_of_ne (hs : s ≠ .deployment) :
    s.addition? cluster id' h = s.addition? cluster id h := by
  have hsource : s.source cluster id' = s.source cluster id := by
    cases s with
    | deployment => exact absurd rfl hs
    | caBundle | signerCert | managedCert | serviceAccount | roleBinding => rfl
  rw [addition?, addition?, hsource]

lemma addition?_deployment (cluster : String) (id : ClusterId) (h : Hub) :
    deployment.addition? cluster id h =
      (h.read? .deployment (templateKey (.deployment, collectorName))).bind fun d =>
        (d.simulate cluster id).toOption.bind fun d' => (deployment.place? cluster).map fun place =>
          (place ++ "/" ++ d'.metadata.name.getD "", Kind.deployment.codec.encode d') := by
  rw [addition?]
  exact Option.bind_assoc ..

/-- That one is the same up to the identifier. -/
lemma sameEntry_addition? (cluster : String) (id id' : ClusterId) (h : Hub) (s : ProvisionStep) :
    SameEntry (s.addition? cluster id h) (s.addition? cluster id' h) := by
  by_cases hs : s = .deployment
  · subst hs
    rw [addition?_deployment, addition?_deployment]
    cases h.read? .deployment (templateKey (.deployment, collectorName)) with
    | none => exact .refl none
    | some d =>
      rw [Option.bind_some, Option.bind_some]
      cases hsimulate : d.simulate cluster id with
      | error f =>
        cases hsimulate' : d.simulate cluster id' with
        | error f' => exact .refl none
        | ok d' =>
          rw [Deployment.simulate_withId hsimulate' id] at hsimulate
          cases hsimulate
      | ok d' =>
        have hid : d' = d'.withId id :=
          Except.ok.inj (hsimulate.symm.trans (Deployment.simulate_withId hsimulate id))
        rw [Deployment.simulate_withId hsimulate id']
        cases deployment.place? cluster with
        | none => exact .refl none
        | some place =>
          refine ⟨rfl, .inr ⟨d', id, id', ?_, rfl⟩⟩
          rw [← hid]
          rfl
  · rw [addition?_eq_of_ne hs]
    exact .refl _

end ProvisionStep

end SpokeSim
