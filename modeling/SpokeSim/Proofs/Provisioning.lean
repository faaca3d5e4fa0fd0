import SpokeSim.Proofs.Addresses
import SpokeSim.Proofs.Exchange

/-!
# Provisioning is fail-stop

A step of provisioning has a *source* for the object that it stores: a template, read anew, or
nothing but the cluster's name.  The source says which requests the step makes of a hub and when it
succeeds, whatever the hub answers.

**One step.**  `ProvisionStep.run_stores`: a step makes the requests of its source and no others,
and succeeds just if `ProvisionStep.Succeeds`.

**All steps.**  `provision_failsStop`: the steps are taken in their order up to the first that does
not succeed, which is the one that the failure names.
-/

namespace SpokeSim

/-! ## Sources -/

/-- Where the object of a step comes from. -/
inductive Source (k : Kind) where
  /-- From a template of the add-on, as far as an object can be made from it. -/
  | template (name : String) (make? : k.Object → Option k.Object)
  /-- From nothing that the hub has. -/
  | direct (made? : Option k.Object)

/-- The request that reads a template. -/
def reading (k : Kind) (name : String) : Request :=
  { method := .get, target := { path := templateKey (k, name) } }

namespace Source

variable {k : Kind}

/-- The requests that come before an object is stored. -/
def reads : Source k → List Request
  | template name _ => [reading k name]
  | direct _ => []

/-- The object that comes from a source at a hub. -/
def object? (h : Hub) : Source k → Option k.Object
  | template name make? => ((h.answer (reading k name)).1.object? k).bind make?
  | direct made? => made?

/-- All requests of a step that stores an object in a namespace. -/
def requests (space : String) (h : Hub) (source : Source k) : List Request :=
  source.reads ++ ((source.object? h).bind (posting? k space)).toList

/-- A step succeeds if there is an object and the hub accepts it. -/
def Stored (space : String) (h : Hub) (source : Source k) : Prop :=
  ∃ o, source.object? h = some o ∧ (h.after source.reads).Takes k space o

/-- An action stores the object of a source: it makes just the requests of the source, and succeeds
just if the object is stored. -/
structure IsStoredBy (source : Source k) (space : String) (w : World) (draws : Nat)
    (out : Except SimError Unit × World) : Prop where
  leads : w.Leads (source.requests space w.hub) draws out.2
  ok_iff : out.1 = .ok () ↔ source.Stored space w.hub

lemma requests_of_none {space : String} {h : Hub} {source : Source k}
    (ho : source.object? h = none) : source.requests space h = source.reads := by
  rw [requests, ho]; exact List.append_nil _

lemma not_stored_of_none {space : String} {h : Hub} {source : Source k}
    (ho : source.object? h = none) : ¬source.Stored space h := by
  rintro ⟨o, hsome, -⟩
  rw [ho] at hsome; cases hsome

/-- The last part of a step: there is no object, and the step fails. -/
lemma isStoredBy_of_none {source : Source k} {space : String} {w w' : World} {draws : Nat}
    (ho : source.object? w.hub = none) (h : w.Leads source.reads draws w') (e : SimError) :
    source.IsStoredBy space w draws (.error e, w') where
  leads := by rwa [requests_of_none ho]
  ok_iff := iff_of_false (by simp) (not_stored_of_none ho)

/-- The last part of a step: there is an object, and the step creates it. -/
lemma isStoredBy_createIfAbsent {source : Source k} {space : String} {w w' : World} {draws : Nat}
    {o : k.Object} (ho : source.object? w.hub = some o) (h : w.Leads source.reads draws w') :
    source.IsStoredBy space w draws (createIfAbsent k space o w') where
  leads := by
    rw [requests, ho]
    exact h.trans (createIfAbsent_leads k space o w')
  ok_iff := by
    rw [createIfAbsent_eq_ok_iff, h.hub]
    constructor
    · exact fun htakes => ⟨o, ho, htakes⟩
    · rintro ⟨o', ho', htakes⟩
      obtain rfl : o = o' := Option.some.inj (ho.symm.trans ho')
      exact htakes

end Source

/-! ## Steps -/

/-- A deployment has a pod with at least one container. -/
def Deployment.HasContainer (d : Deployment) : Prop :=
  ∃ spec pod, d.spec = some spec ∧ spec.template.spec = some pod ∧ pod.containers ≠ []

/-- Only from such a deployment a simulator is made. -/
lemma Deployment.isSome_simulate_iff (d : Deployment) (cluster : String) (id : ClusterId) :
    (d.simulate cluster id).toOption.isSome = true ↔ d.HasContainer := by
  rw [simulate, HasContainer]
  cases hspec : d.spec with
  | none => simp [Except.toOption]
  | some spec =>
    cases hpod : spec.template.spec with
    | none => simp [hpod, Except.toOption]
    | some pod =>
      cases hcontainers : pod.containers with
      | nil =>
        simp [hpod, hcontainers, PodSpec.simulate, bind, Except.bind, Except.toOption]
      | cons c cs =>
        simp [hpod, hcontainers, PodSpec.simulate, bind, Except.bind, pure, Except.pure,
          Except.toOption]

/-- A template from which an object of its kind can be made. -/
def Kind.Usable : (k : Kind) → k.Object → Prop
  | deployment, d => d.HasContainer
  | _, _ => True

namespace ProvisionStep

/-- The kind of the object that a step stores. -/
def kind : ProvisionStep → Kind
  | caBundle => .configMap
  | signerCert | managedCert => .secret
  | serviceAccount => .serviceAccount
  | deployment => .deployment
  | roleBinding => .clusterRoleBinding

/-- The namespace in which a step stores its object. -/
def space (cluster : String) : ProvisionStep → String
  | roleBinding => ""
  | _ => cluster

/-- Where the object of a step comes from. -/
def source (cluster : String) (id : ClusterId) : (s : ProvisionStep) → Source s.kind
  | caBundle => .template caBundleName (some ∘ Kind.clone .configMap false cluster)
  | signerCert => .template signerCertName (some ∘ Kind.clone .secret false cluster)
  | managedCert => .template managedCertName (some ∘ Kind.clone .secret true cluster)
  | serviceAccount => .template endpointAccountName (some ∘ Kind.clone .serviceAccount true cluster)
  | deployment => .template collectorName fun d => (d.simulate cluster id).toOption
  | roleBinding => .direct (roleBinding? cluster)

/-- The requests of a step. -/
def requests (cluster : String) (id : ClusterId) (h : Hub) (s : ProvisionStep) : List Request :=
  (s.source cluster id).requests (s.space cluster) h

/-- **When a step succeeds.**  One with a template: the template is read, it is usable, and what is
made from it is accepted in the cluster's namespace.  The role binding: the cluster has a name, and
the binding is accepted. -/
def Succeeds (cluster : String) (id : ClusterId) (h : Hub) (s : ProvisionStep) : Prop :=
  match s.source cluster id with
  | .template name make? =>
    ∃ template, (h.answer (reading s.kind name)).1.object? s.kind = some template ∧
      s.kind.Usable template ∧
      ∃ copy, make? template = some copy ∧
        (h.answer (reading s.kind name)).2.Takes s.kind (s.space cluster) copy
  | .direct made? => cluster ≠ "" ∧ ∃ o, made? = some o ∧ h.Takes s.kind (s.space cluster) o

variable {cluster : String} {id : ClusterId}

section

variable {s : ProvisionStep} {name : String} {make? : s.kind.Object → Option s.kind.Object}

lemma mem_templateObjects (hsource : s.source cluster id = .template name make?) :
    (s.kind, name) ∈ templateObjects := by
  cases s <;> cases hsource <;> simp [templateObjects, kind]

/-- An object can be made just from the usable templates. -/
lemma isSome_make?_iff (hsource : s.source cluster id = .template name make?)
    (template : s.kind.Object) : (make? template).isSome = true ↔ s.kind.Usable template := by
  cases s with
  | deployment =>
    cases hsource
    exact Deployment.isSome_simulate_iff ..
  | roleBinding => cases hsource
  | caBundle | signerCert | managedCert | serviceAccount =>
    cases hsource
    exact iff_of_true rfl trivial

end

lemma stored_iff_succeeds (h : Hub) (s : ProvisionStep) :
    (s.source cluster id).Stored (s.space cluster) h ↔ s.Succeeds cluster id h := by
  rw [Source.Stored, Succeeds]
  cases hsource : s.source cluster id with
  | template name make? =>
    simp only [Source.object?, Source.reads, Hub.after_cons, Hub.after_nil, Option.bind_eq_some_iff]
    constructor
    · rintro ⟨copy, ⟨template, hget, hmake⟩, htakes⟩
      have husable := (isSome_make?_iff hsource template).1 (Option.isSome_of_eq_some hmake)
      exact ⟨template, hget, husable, copy, hmake, htakes⟩
    · rintro ⟨template, hget, -, copy, hmake, htakes⟩
      exact ⟨copy, ⟨template, hget, hmake⟩, htakes⟩
  | direct made? =>
    simp only [Source.object?, Source.reads, Hub.after_nil]
    refine ⟨fun hstored => ⟨?_, hstored⟩, And.right⟩
    rintro rfl
    cases s with
    | roleBinding =>
      obtain ⟨o, ho, -⟩ := hstored
      cases hsource
      cases ho
    | _ => cases hsource

end ProvisionStep

/-! ### What a step does -/

section

variable {k : Kind} {name : String}

lemma request?_reading (hk : (k, name) ∈ templateObjects) :
    request? .get (k.collection addonNamespace ++ "/" ++ name) = some (reading k name) := by
  show request? .get (templateKey (k, name)) = _
  exact request?_of_parse (parse_templateKey hk)

lemma get_leads (hk : (k, name) ∈ templateObjects) (w : World) :
    w.Leads [reading k name] 0 (Api.get k addonNamespace name w).2 :=
  Api.call_leads_of_some (request?_reading hk) w

lemma toOption_get (hk : (k, name) ∈ templateObjects) (w : World) :
    (Api.get k addonNamespace name w).1.toOption
      = (w.hub.answer (reading k name)).1.object? k := by
  rw [Api.get, Api.call_of_some (request?_reading hk), Api.toOption_valueOf]

lemma copyTemplate_stores (hk : (k, name) ∈ templateObjects) (disown : Bool) (cluster : String)
    (w : World) :
    (Source.template name (some ∘ k.clone disown cluster)).IsStoredBy cluster w 0
      (copyTemplate k name disown cluster w) := by
  have hget := toOption_get hk w
  rw [copyTemplate, bind_apply]
  cases htemplate : (Api.get k addonNamespace name w).1 with
  | error e =>
    rw [htemplate] at hget
    refine Source.isStoredBy_of_none ?_ (get_leads hk w) _
    rw [Source.object?, ← hget]; rfl
  | ok template =>
    rw [htemplate] at hget
    refine Source.isStoredBy_createIfAbsent ?_ (get_leads hk w)
    rw [Source.object?, ← hget]; rfl

end

lemma createBinding_stores (cluster : String) (w : World) :
    (Source.direct (k := .clusterRoleBinding) (roleBinding? cluster)).IsStoredBy "" w 0
      (createBinding cluster w) := by
  rw [createBinding]
  cases hbinding : roleBinding? cluster with
  | none => exact Source.isStoredBy_of_none rfl (.refl w) _
  | some b => exact Source.isStoredBy_createIfAbsent rfl (.refl w)

/-- An identifier is drawn when the template has been read, and for nothing if there is none in it
to simulate. -/
lemma createSimulator_stores (cluster : String) (w : World) :
    ∃ draws,
      (Source.template (k := .deployment) collectorName fun d =>
        (d.simulate cluster (w.ids w.drawn)).toOption).IsStoredBy cluster w draws
          (createSimulator cluster w) := by
  have hk : (Kind.deployment, collectorName) ∈ templateObjects := List.mem_cons_self
  have hget := toOption_get hk w
  have hreads := get_leads hk w
  rw [createSimulator, bind_apply]
  cases htemplate : (Api.get .deployment addonNamespace collectorName w).1 with
  | error e =>
    rw [htemplate] at hget
    refine ⟨0, Source.isStoredBy_of_none ?_ hreads _⟩
    rw [Source.object?, ← hget]; rfl
  | ok template =>
    rw [htemplate] at hget
    generalize (Api.get .deployment addonNamespace collectorName w).2 = w₁ at hreads ⊢
    have hdrawn : w.Leads [reading .deployment collectorName] 1 (Sim.freshId w₁).2 := by
      simpa using hreads.trans (.freshId w₁)
    have hid : (Sim.freshId w₁).1 = w.ids w.drawn := by
      show w₁.ids w₁.drawn = _
      rw [hreads.ids, hreads.drawn]; rfl
    simp only [bind_apply, hid]
    refine ⟨1, ?_⟩
    cases hsimulate : Deployment.simulate template cluster (w.ids w.drawn) with
    | error f =>
      refine Source.isStoredBy_of_none ?_ (hdrawn.andLog ..) _
      rw [Source.object?, ← hget]
      exact congrArg Except.toOption hsimulate
    | ok d =>
      refine Source.isStoredBy_createIfAbsent ?_ (hdrawn.andLog ..)
      rw [Source.object?, ← hget]
      exact congrArg Except.toOption hsimulate

open ProvisionStep

/-- **A step stores the object of its source**, under the next identifier if it needs one. -/
lemma ProvisionStep.run_stores (cluster : String) {id : ClusterId} (s : ProvisionStep) (w : World)
    (hid : s = .deployment → w.ids w.drawn = id) :
    ∃ draws, (s ≠ .deployment → draws = 0) ∧
      (s.source cluster id).IsStoredBy (s.space cluster) w draws (s.run cluster w) := by
  cases s with
  | caBundle | signerCert | managedCert | serviceAccount =>
    exact ⟨0, fun _ => rfl, copyTemplate_stores (by simp [templateObjects, kind]) ..⟩
  | deployment =>
    obtain ⟨draws, hstores⟩ := createSimulator_stores cluster w
    rw [hid rfl] at hstores
    exact ⟨draws, fun hne => absurd rfl hne, hstores⟩
  | roleBinding => exact ⟨0, fun _ => rfl, createBinding_stores cluster w⟩

/-! ## Steps one after the other -/

namespace ProvisionStep

/-- The requests of steps that are taken one after the other. -/
def requestsOf (cluster : String) (id : ClusterId) : Hub → List ProvisionStep → List Request
  | _, [] => []
  | h, s :: ss =>
    s.requests cluster id h ++ requestsOf cluster id (h.after (s.requests cluster id h)) ss

/-- The hub after some steps. -/
def hubAfter (cluster : String) (id : ClusterId) (h : Hub) (ss : List ProvisionStep) : Hub :=
  h.after (requestsOf cluster id h ss)

/-- Each of some steps that are taken one after the other succeeds. -/
def AllSucceed (cluster : String) (id : ClusterId) (h : Hub) (ss : List ProvisionStep) : Prop :=
  ∀ before s rest, ss = before ++ s :: rest → s.Succeeds cluster id (hubAfter cluster id h before)

variable {cluster : String} {id : ClusterId} {h : Hub} {s : ProvisionStep}
  {ss : List ProvisionStep}

lemma hubAfter_cons :
    hubAfter cluster id h (s :: ss)
      = hubAfter cluster id (h.after (s.requests cluster id h)) ss :=
  Hub.after_append ..

lemma allSucceed_nil : AllSucceed cluster id h [] := by
  intro before s rest hss
  simp at hss

lemma allSucceed_cons_iff :
    AllSucceed cluster id h (s :: ss) ↔
      s.Succeeds cluster id h ∧ AllSucceed cluster id (h.after (s.requests cluster id h)) ss := by
  constructor
  · intro hall
    refine ⟨hall [] s ss rfl, fun before s' rest hss => ?_⟩
    have hlater := hall (s :: before) s' rest (by rw [hss]; rfl)
    rwa [hubAfter_cons] at hlater
  · rintro ⟨hfirst, hrest⟩ before s' rest hss
    cases before with
    | nil =>
      obtain ⟨rfl, rfl⟩ := List.cons.inj hss
      exact hfirst
    | cons s₀ before =>
      obtain ⟨rfl, rfl⟩ := List.cons.inj hss
      rw [hubAfter_cons]
      exact hrest before s' rest rfl

/-- How steps that are taken one after the other end: all of them have been taken and succeed, or
the last of those that have been taken is the first that does not. -/
def Ends (cluster : String) (id : ClusterId) (h : Hub) (taken left : List ProvisionStep)
    (result : Except SimError Unit) : Prop :=
  (left = [] ∧ AllSucceed cluster id h taken ∧ result = .ok ()) ∨
    ∃ done s, taken = done ++ [s] ∧ AllSucceed cluster id h done ∧
      ¬s.Succeeds cluster id (hubAfter cluster id h done) ∧ result = .error (.provision s)

lemma Ends.cons {taken left : List ProvisionStep} {result : Except SimError Unit}
    (hs : s.Succeeds cluster id h)
    (hends : Ends cluster id (h.after (s.requests cluster id h)) taken left result) :
    Ends cluster id h (s :: taken) left result := by
  obtain ⟨hleft, hall, hresult⟩ | ⟨done, s', rfl, hall, hs', hresult⟩ := hends
  · exact .inl ⟨hleft, allSucceed_cons_iff.2 ⟨hs, hall⟩, hresult⟩
  · refine .inr ⟨s :: done, s', rfl, allSucceed_cons_iff.2 ⟨hs, hall⟩, ?_, hresult⟩
    rwa [hubAfter_cons]

end ProvisionStep

/-- What a step that fails leaves to be done: nothing but to tell so. -/
lemma runSteps_cons_error {cluster : String} {s : ProvisionStep} {ss : List ProvisionStep}
    {w : World} {e : SimError} (h : (s.run cluster w).1 = .error e) :
    ∃ message, runSteps cluster (s :: ss) w
      = (.error (.provision s), (log .debug .provisioner message (s.run cluster w).2).2) := by
  rw [runSteps, bind_apply, h]
  exact ⟨_, rfl⟩

lemma runSteps_cons_ok {cluster : String} {s : ProvisionStep} {ss : List ProvisionStep}
    {w : World} (h : (s.run cluster w).1 = .ok ()) :
    runSteps cluster (s :: ss) w = runSteps cluster ss (s.run cluster w).2 := by
  rw [runSteps, bind_apply, h]

/-- Steps are taken up to the first that does not succeed.  The identifier is the next one until it
is drawn by the deployment, which is taken once at most. -/
lemma runSteps_ends (cluster : String) {id : ClusterId} (ss : List ProvisionStep)
    (hnodup : ss.Nodup) (w : World) (hid : .deployment ∈ ss → w.ids w.drawn = id) :
    ∃ taken left draws, ss = taken ++ left ∧
      w.Leads (requestsOf cluster id w.hub taken) draws (runSteps cluster ss w).2 ∧
      Ends cluster id w.hub taken left (runSteps cluster ss w).1 := by
  induction ss generalizing w with
  | nil => exact ⟨[], [], 0, rfl, .refl w, .inl ⟨rfl, allSucceed_nil, rfl⟩⟩
  | cons s ss ih =>
    obtain ⟨hnotMem, hnodup⟩ := List.nodup_cons.1 hnodup
    obtain ⟨draws, hdraws, hstores⟩ :=
      s.run_stores cluster w fun hs => hid (hs ▸ List.mem_cons_self)
    have hsucceeds := hstores.ok_iff.trans (stored_iff_succeeds w.hub s)
    cases hrun : (s.run cluster w).1 with
    | error e =>
      obtain ⟨message, hfails⟩ : ∃ message, runSteps cluster (s :: ss) w
          = (.error (.provision s), (log .debug .provisioner message (s.run cluster w).2).2) :=
        runSteps_cons_error hrun
      rw [hfails]
      refine ⟨[s], ss, draws, rfl, ?_, .inr ⟨[], s, rfl, allSucceed_nil, ?_, rfl⟩⟩
      · rw [requestsOf, requestsOf, List.append_nil]
        exact hstores.leads.andLog ..
      · intro hs
        rw [hsucceeds.2 hs] at hrun; cases hrun
    | ok u =>
      have hs := hsucceeds.1 hrun
      -- a step before the deployment draws no identifier, so the next one is still the same
      have hid' : .deployment ∈ ss → (s.run cluster w).2.ids (s.run cluster w).2.drawn = id := by
        intro hmem
        have hne : s ≠ .deployment := fun hs => hnotMem (hs ▸ hmem)
        rw [hstores.leads.ids, hstores.leads.drawn, hdraws hne]
        exact hid (List.mem_cons_of_mem _ hmem)
      obtain ⟨taken, left, draws', hss, hleads, hends⟩ := ih hnodup (s.run cluster w).2 hid'
      rw [hstores.leads.hub] at hleads hends
      rw [runSteps_cons_ok hrun]
      exact ⟨s :: taken, left, draws + draws', congrArg (s :: ·) hss, hstores.leads.trans hleads,
        hends.cons hs⟩

/-- To provision is to take all steps. -/
lemma provision_leads {cluster : String} {w : World} {qs : List Request} {draws : Nat}
    (h : w.Leads qs draws (runSteps cluster ProvisionStep.all w).2) :
    (provision cluster w).1 = (runSteps cluster ProvisionStep.all w).1 ∧
      w.Leads qs draws (provision cluster w).2 := by
  rw [provision, bind_apply]
  generalize runSteps cluster ProvisionStep.all w = out at h ⊢
  obtain ⟨result, w₁⟩ := out
  cases result with
  | ok _ => exact ⟨rfl, h.andLog ..⟩
  | error e => exact ⟨rfl, h⟩

/-- Provisioning takes the steps up to the first that does not succeed. -/
lemma provision_ends (cluster : String) (w : World) :
    ∃ taken left draws, ProvisionStep.all = taken ++ left ∧
      w.Leads (requestsOf cluster (w.ids w.drawn) w.hub taken) draws (provision cluster w).2 ∧
      Ends cluster (w.ids w.drawn) w.hub taken left (provision cluster w).1 := by
  obtain ⟨taken, left, draws, hall, hleads, hends⟩ :=
    runSteps_ends cluster ProvisionStep.all (by decide) w fun _ => rfl
  obtain ⟨hresult, hleads⟩ := provision_leads hleads
  rw [← hresult] at hends
  exact ⟨taken, left, draws, hall, hleads, hends⟩

lemma ProvisionStep.Ends.eq_ok_iff {cluster : String} {id : ClusterId} {h : Hub}
    {taken left : List ProvisionStep} {result : Except SimError Unit}
    (hends : Ends cluster id h taken left result) :
    result = .ok () ↔ AllSucceed cluster id h (taken ++ left) := by
  obtain ⟨rfl, hall, rfl⟩ | ⟨done, s, rfl, -, hs, rfl⟩ := hends
  · rw [List.append_nil]
    exact iff_of_true rfl hall
  · refine iff_of_false (by simp) fun hall => hs (hall done s left ?_)
    rw [List.append_assoc]; rfl

/-- A refused reading is a failure, whatever its code. -/
lemma not_succeeds_of_isFailure {cluster : String} {id : ClusterId} {h : Hub} {s : ProvisionStep}
    {name : String} {make? : s.kind.Object → Option s.kind.Object}
    (hsource : s.source cluster id = .template name make?)
    (hfail : isFailure (h.answer (reading s.kind name)).1.status = true) :
    ¬s.Succeeds cluster id h := by
  rw [Succeeds, hsource]
  rintro ⟨template, hget, -⟩
  rw [Answer.object?_of_isFailure hfail] at hget
  cases hget

/-- **Provisioning is fail-stop and names the step at which it stops.**  At any hub, the six steps
are taken in their order up to the first that does not succeed; what is exchanged is what these
steps request; and the outcome is a success if all six succeed, and else the failure of the last
step taken, under the wording of that step.  A conflict is no success of a reading. -/
theorem provision_failsStop (cluster : String) (w : World) :
    let steps : List ProvisionStep :=
      [.caBundle, .signerCert, .managedCert, .serviceAccount, .deployment, .roleBinding]
    let wordings := ["failed to create cert configmap", "failed to create cert secrets",
      "failed to create cert secrets", "failed to create cert serviceAccount",
      "failed to create simulator deployment", "failed to create clusterrolebinding"]
    let id := w.ids w.drawn
    let result := (provision cluster w).1
    let w' := (provision cluster w).2
    (∃ taken left, steps = taken ++ left ∧
      w'.exchanges = w.exchanges ++ w.hub.answered (requestsOf cluster id w.hub taken) ∧
      w'.hub = hubAfter cluster id w.hub taken ∧
      Ends cluster id w.hub taken left result ∧
      ∀ e, result = .error e → ∃ s, taken.getLast? = some s ∧ e = .provision s ∧
        (s, e.message) ∈ steps.zip wordings) ∧
    (result = .ok () ↔ AllSucceed cluster id w.hub steps) ∧
    ∀ (s : ProvisionStep) (h : Hub) (name : String) (make? : s.kind.Object → Option s.kind.Object),
      s.source cluster id = .template name make? →
      (h.answer (reading s.kind name)).1.status = 409 → ¬s.Succeeds cluster id h := by
  obtain ⟨taken, left, draws, hall, hleads, hends⟩ := provision_ends cluster w
  refine ⟨⟨taken, left, hall, hleads.exchanges, hleads.hub, hends, fun e he => ?_⟩, ?_, ?_⟩
  · obtain ⟨-, -, hok⟩ | ⟨done, s, htaken, -, -, hfails⟩ := hends
    · rw [hok] at he; cases he
    · rw [hfails] at he
      obtain rfl := Except.error.inj he
      refine ⟨s, by rw [htaken, List.getLast?_concat], rfl, ?_⟩
      cases s <;> decide
  · show _ ↔ AllSucceed cluster (w.ids w.drawn) w.hub ProvisionStep.all
    rw [hall]
    exact hends.eq_ok_iff
  · intro s h name make? hsource hconflict
    exact not_succeeds_of_isFailure hsource (by rw [hconflict]; rfl)

end SpokeSim
