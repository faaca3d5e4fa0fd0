import SpokeSim.Proofs.Identifiers
import SpokeSim.Proofs.Reaping

/-!
# What is done for a cluster

Whatever is done for a cluster is done under keys that belong to it (`Owns`), and the templates
belong to none.  So a hub falls into parts, one for each cluster.

**Provisioning.**  Steps read templates only, and do not touch them.  So what they will add can be
told beforehand: it is a *plan*, a list of entries, made from the templates alone
(`Hub.runSteps_eq_plan`).  Where the templates are the same, plans are the same up to identifiers
(`Hub.SameTemplates.plan`).

**Parts.**  Provisioning and reaping change a hub in the cluster's part only (`Hub.Confined`).  What
they do there is told by the plan (`get?_provision`) and by the removable keys (`get?_reap`).

The templates may be anything, and names may have any length.
-/

namespace SpokeSim

variable {cluster : String} {id id' : ClusterId} {h h' h'' : Hub} {s : ProvisionStep}
  {ss : List ProvisionStep} {w : World}

/-! ## Plans -/

namespace ProvisionStep

lemma target_mem_templateObjects (cluster : String) (hs : s ≠ .roleBinding) :
    s.target cluster ∈ templateObjects := by
  cases s with
  | roleBinding => exact absurd rfl hs
  | caBundle | signerCert | managedCert | serviceAccount | deployment =>
    simp [templateObjects, target, kind, objectName]

/-- What a step adds belongs to the cluster, whatever name its template bears. -/
lemma owns_of_addition? (hn : IsClusterName cluster) {key : String} {j : Json}
    (hentry : s.addition? cluster id h = some (key, j)) : Owns cluster key := by
  simp only [addition?, place?, Option.bind_eq_some_iff, Option.map_eq_some_iff] at hentry
  obtain ⟨o, ho, place, ⟨target, htarget, rfl⟩, hentry⟩ := hentry
  obtain ⟨rfl, -⟩ := Prod.mk.inj hentry
  obtain hparse | hparse := parse_collection_cases hn s
  · rw [hparse] at htarget
    obtain rfl := Option.some.inj htarget
    cases s with
    | roleBinding =>
      have hbinding : roleBinding? cluster = some o := ho
      rw [roleBinding?, if_neg hn.ne_empty] at hbinding
      obtain rfl := Option.some.inj hbinding
      exact .inl rfl
    | caBundle | signerCert | managedCert | serviceAccount | deployment =>
      exact .inr ⟨(_, _), rfl, rfl⟩
  · rw [hparse] at htarget; cases htarget

/-- What steps would add to a hub, up to the first that has nothing to add. -/
def plan (cluster : String) (id : ClusterId) (h : Hub) : List ProvisionStep → List (String × Json)
  | [] => []
  | s :: ss =>
    match s.addition? cluster id h with
    | none => []
    | some e => e :: plan cluster id h ss

/-- How the steps would end. -/
def verdict (cluster : String) (id : ClusterId) (h : Hub) :
    List ProvisionStep → Except SimError Unit
  | [] => .ok ()
  | s :: ss =>
    match s.addition? cluster id h with
    | none => .error (.provision s)
    | some _ => verdict cluster id h ss

lemma plan_cons_none (hentry : s.addition? cluster id h = none) :
    plan cluster id h (s :: ss) = [] ∧ verdict cluster id h (s :: ss) = .error (.provision s) := by
  rw [plan, verdict, hentry]
  exact ⟨rfl, rfl⟩

lemma plan_cons_some {e : String × Json} (hentry : s.addition? cluster id h = some e) :
    plan cluster id h (s :: ss) = e :: plan cluster id h ss ∧
      verdict cluster id h (s :: ss) = verdict cluster id h ss := by
  rw [plan, verdict, hentry]
  exact ⟨rfl, rfl⟩

/-- Each entry of a plan is that of a step. -/
lemma exists_addition?_of_mem_plan {e : String × Json} (he : e ∈ plan cluster id h ss) :
    ∃ s : ProvisionStep, s.addition? cluster id h = some e := by
  induction ss with
  | nil => cases he
  | cons s ss ih =>
    cases hentry : s.addition? cluster id h with
    | none => rw [(plan_cons_none hentry).1] at he; cases he
    | some e' =>
      rw [(plan_cons_some hentry).1, List.mem_cons] at he
      rcases he with rfl | he
      · exact ⟨s, hentry⟩
      · exact ih he

lemma owns_of_mem_plan (hn : IsClusterName cluster) {e : String × Json}
    (he : e ∈ plan cluster id h ss) : Owns cluster e.1 := by
  obtain ⟨s, hentry⟩ := exists_addition?_of_mem_plan he
  exact owns_of_addition? hn hentry

end ProvisionStep

open ProvisionStep

namespace Hub

lemma SameTemplates.addition? (hsame : h.SameTemplates h') :
    s.addition? cluster id h' = s.addition? cluster id h :=
  addition?_congr fun hs => hsame _ (target_mem_templateObjects cluster hs)

/-- **Where the templates are the same, so are the plans**, up to identifiers. -/
lemma SameTemplates.plan (hsame : h.SameTemplates h') (cluster : String) (id id' : ClusterId)
    (ss : List ProvisionStep) :
    verdict cluster id' h' ss = verdict cluster id h ss ∧
      ∀ key, SameUpToId ((ProvisionStep.plan cluster id' h' ss).lookup key)
        ((ProvisionStep.plan cluster id h ss).lookup key) := by
  induction ss with
  | nil => exact ⟨rfl, fun _ => .refl _⟩
  | cons s ss ih =>
    have hentries := sameEntry_addition? cluster id' id h s
    rw [← hsame.addition?] at hentries
    obtain ⟨hnone', hnone⟩ | ⟨key, j', j, hentry', hentry, hdoc⟩ := hentries.cases
    · rw [(plan_cons_none hnone').1, (plan_cons_none hnone).1, (plan_cons_none hnone').2,
        (plan_cons_none hnone).2]
      exact ⟨rfl, fun _ => .refl _⟩
    · rw [(plan_cons_some hentry').1, (plan_cons_some hentry).1, (plan_cons_some hentry').2,
        (plan_cons_some hentry).2]
      refine ⟨ih.1, fun key' => ?_⟩
      rw [KeyMap.lookup_cons_ite, KeyMap.lookup_cons_ite]
      split
      case isTrue => exact hdoc
      case isFalse => exact ih.2 key'

/-- Under one identifier they are the very same. -/
lemma SameTemplates.plan_eq (hsame : h.SameTemplates h') (cluster : String) (id : ClusterId)
    (ss : List ProvisionStep) :
    ProvisionStep.plan cluster id h' ss = ProvisionStep.plan cluster id h ss := by
  induction ss with
  | nil => rfl
  | cons s ss ih => rw [ProvisionStep.plan, ProvisionStep.plan, hsame.addition?, ih]

/-- The hub with some documents, each unless there is something under its key. -/
def addAll (h : Hub) (es : List (String × Json)) : Hub := es.foldl (fun h e => h.addNew e.1 e.2) h

lemma get?_addAll (h : Hub) (es : List (String × Json)) (key : String) :
    (h.addAll es).objects.get? key = (h.objects.get? key).or (es.lookup key) := by
  induction es generalizing h with
  | nil => exact (Option.or_none ..).symm
  | cons e es ih =>
    rw [addAll, List.foldl_cons, ← addAll, ih, get?_addNew, KeyMap.lookup_cons_ite, Option.or_assoc]
    split <;> rfl

lemma isPlain_addAll (es : List (String × Json)) : (h.addAll es).isPlain = h.isPlain := by
  induction es generalizing h with
  | nil => rfl
  | cons e es ih => rw [addAll, List.foldl_cons, ← addAll, ih, isPlain_addNew]

/-! ## Parts of a hub -/

/-- A hub has changed in the part of one cluster only. -/
structure Confined (cluster : String) (h h' : Hub) : Prop where
  plain : h'.isPlain = h.isPlain
  rest : ∀ key, ¬Owns cluster key → h'.objects.get? key = h.objects.get? key

lemma Confined.sameTemplates (hconfined : Confined cluster h h') (hn : IsClusterName cluster)
    (hne : cluster ≠ addonNamespace) : h.SameTemplates h' :=
  fun _ ho => hconfined.rest _ (not_owns_templateKey hn hne ho)

lemma confined_addNew {key : String} (hkey : Owns cluster key) (j : Json) :
    Confined cluster h (h.addNew key j) where
  plain := isPlain_addNew key j
  rest key' hkey' := by
    have hne : key' ≠ key := by rintro rfl; exact hkey' hkey
    rw [get?_addNew, if_neg hne, Option.or_none]

/-- **Steps carry out their plan.** -/
lemma runSteps_eq_plan (id : ClusterId) (hn : IsClusterName cluster)
    (hne : cluster ≠ addonNamespace) (h : Hub) (ss : List ProvisionStep) :
    h.runSteps cluster id ss = (verdict cluster id h ss, h.addAll (plan cluster id h ss)) := by
  -- the plan of a hub is still the plan after the first entry has been added
  suffices hplan : ∀ h' : Hub, h'.SameTemplates h →
      h'.runSteps cluster id ss = (verdict cluster id h ss, h'.addAll (plan cluster id h ss)) from
    hplan h fun _ _ => rfl
  intro h' hsame
  induction ss generalizing h' with
  | nil => rfl
  | cons s ss ih =>
    cases hentry : s.addition? cluster id h with
    | none =>
      rw [(plan_cons_none hentry).1, (plan_cons_none hentry).2]
      exact runSteps_cons_none (hsame.addition?.symm.trans hentry)
    | some e =>
      rw [(plan_cons_some hentry).1, (plan_cons_some hentry).2,
        runSteps_cons_some (hsame.addition?.symm.trans hentry)]
      have hconfined := confined_addNew (h := h') (owns_of_addition? hn hentry) e.2
      exact ih _ fun o ho =>
        (hsame o ho).trans (hconfined.sameTemplates hn hne o ho).symm

end Hub

/-! ## Provisioning and reaping -/

/-- What a provisioning makes under a key where there is nothing. -/
def making (cluster : String) (id : ClusterId) (h : Hub) (key : String) : Option Json :=
  (plan cluster id h ProvisionStep.all).lookup key

section

variable {key : String}

lemma provision_eq_plan (hn : IsClusterName cluster) (hne : cluster ≠ addonNamespace)
    (hplain : w.hub.isPlain = true) :
    (provision cluster w).1 = verdict cluster (w.ids w.drawn) w.hub ProvisionStep.all ∧
      (provision cluster w).2.hub
        = w.hub.addAll (plan cluster (w.ids w.drawn) w.hub ProvisionStep.all) := by
  obtain ⟨hresult, hhub⟩ := provision_plain cluster hplain
  rw [hresult, hhub, Hub.runSteps_eq_plan _ hn hne]
  exact ⟨rfl, rfl⟩

/-- **What there is after a provisioning**: what there was, and what it makes where there was
nothing. -/
lemma get?_provision (hn : IsClusterName cluster) (hne : cluster ≠ addonNamespace)
    (hplain : w.hub.isPlain = true) (key : String) :
    (provision cluster w).2.hub.objects.get? key
      = (w.hub.objects.get? key).or (making cluster (w.ids w.drawn) w.hub key) := by
  rw [(provision_eq_plan hn hne hplain).2, Hub.get?_addAll]
  rfl

lemma confined_provision (hn : IsClusterName cluster) (hne : cluster ≠ addonNamespace)
    (hplain : w.hub.isPlain = true) : Hub.Confined cluster w.hub (provision cluster w).2.hub where
  plain := by rw [(provision_eq_plan hn hne hplain).2, Hub.isPlain_addAll]
  rest key hkey := by
    have hnone : making cluster (w.ids w.drawn) w.hub key = none := by
      rw [making, List.lookup_eq_none_iff]
      intro e he
      rw [bne_iff_ne]
      rintro rfl
      exact hkey (owns_of_mem_plan hn he)
    rw [get?_provision hn hne hplain, hnone, Option.or_none]

/-- **What there is after a reaping**: what there was, except under the removable keys. -/
lemma get?_reap (hn : IsClusterName cluster) (hplain : w.hub.isPlain = true) (key : String) :
    (reap cluster w).2.hub.objects.get? key
      = if key ∈ removableKeys cluster then none else w.hub.objects.get? key := by
  rw [(reap_removes hn hplain).2, Hub.get?_without]

lemma owns_of_mem_removableKeys (hkey : key ∈ removableKeys cluster) : Owns cluster key :=
  owns_of_mem_clusterKeys (List.mem_of_mem_filter hkey)

lemma confined_reap (hn : IsClusterName cluster) (hplain : w.hub.isPlain = true) :
    Hub.Confined cluster w.hub (reap cluster w).2.hub where
  plain := by rw [(reap_removes hn hplain).2]; rfl
  rest key hkey := by
    rw [get?_reap hn hplain, if_neg fun hmem => hkey (owns_of_mem_removableKeys hmem)]

/-- Where the templates are the same, provisionings make the same up to identifiers. -/
lemma Hub.SameTemplates.making (hsame : h.SameTemplates h') (cluster : String) (id id' : ClusterId)
    (key : String) :
    SameUpToId (SpokeSim.making cluster id' h' key) (SpokeSim.making cluster id h key) :=
  (hsame.plan cluster id id' ProvisionStep.all).2 key

lemma Hub.SameTemplates.making_eq (hsame : h.SameTemplates h') (cluster : String) (id : ClusterId)
    (key : String) : SpokeSim.making cluster id h' key = SpokeSim.making cluster id h key := by
  rw [SpokeSim.making, SpokeSim.making, hsame.plan_eq]

lemma sameUpToId_making (cluster : String) (id id' : ClusterId) (h : Hub) (key : String) :
    SameUpToId (making cluster id' h key) (making cluster id h key) :=
  Hub.SameTemplates.making (fun _ _ => rfl) cluster id id' key

/-- To make the same once more makes nothing. -/
lemma or_making_or (o : Option Json) (cluster : String) (id id' : ClusterId) (h : Hub)
    (key : String) :
    (o.or (making cluster id h key)).or (making cluster id' h key)
      = o.or (making cluster id h key) := by
  have hsome := (sameUpToId_making cluster id id' h key).isSome_eq
  cases o with
  | some j => rw [Option.some_or, Option.some_or]
  | none =>
    rw [Option.none_or]
    cases hmaking : making cluster id h key with
    | some j => rw [Option.some_or]
    | none =>
      rw [hmaking, Option.isSome_none, Option.isSome_eq_false_iff, Option.isNone_iff_eq_none]
        at hsome
      exact hsome

end

end SpokeSim
