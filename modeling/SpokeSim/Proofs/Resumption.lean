import Mathlib.Data.List.Infix
import SpokeSim.Proofs.Identifiers

/-!
# Provisioning can be cut off and taken up again

A hub never loses anything by a provisioning (`Hub.KeptIn`).  So when steps that have succeeded are
taken once more, each reads the template that it has read before, whatever has been added since, and
finds its key taken: it succeeds again, and leaves the hub alone (`Hub.runSteps_again`).

Hence a provisioning that is cut off after some steps can be run again from the beginning: the steps
already taken do nothing, and the others go on from the same hub, under another identifier
(`provision_resumes`).  Nothing is asked of the cluster's name or of the templates.
-/

namespace SpokeSim

open ProvisionStep

namespace Hub

variable {cluster : String} {id id' : ClusterId} {h h' h'' : Hub} {s : ProvisionStep}
  {ss : List ProvisionStep}

/-! ## Nothing is lost -/

/-- All that a hub keeps is kept by another one, too. -/
def KeptIn (h h' : Hub) : Prop :=
  ∀ key, h.objects.contains key = true → h'.objects.get? key = h.objects.get? key

protected lemma KeptIn.refl (h : Hub) : h.KeptIn h := fun _ _ => rfl

protected lemma KeptIn.trans (hkept : h.KeptIn h') (hkept' : h'.KeptIn h'') : h.KeptIn h'' := by
  intro key hkey
  have hkey' : h'.objects.contains key = true := by
    rw [KeyMap.contains, hkept key hkey]
    exact hkey
  rw [hkept' key hkey', hkept key hkey]

lemma keptIn_addNew (h : Hub) (key : String) (j : Json) : h.KeptIn (h.addNew key j) := by
  intro key' hkey'
  obtain ⟨j', hj'⟩ := Option.isSome_iff_exists.1 hkey'
  rw [get?_addNew, hj', Option.some_or]

/-- Steps lose nothing, however they end. -/
lemma keptIn_runSteps (cluster : String) (id : ClusterId) (h : Hub) (ss : List ProvisionStep) :
    h.KeptIn (h.runSteps cluster id ss).2 := by
  induction ss generalizing h with
  | nil => exact .refl h
  | cons s ss ih =>
    cases hentry : s.addition? cluster id h with
    | none =>
      rw [runSteps_cons_none hentry]
      exact .refl h
    | some e =>
      rw [runSteps_cons_some hentry]
      exact (keptIn_addNew h e.1 e.2).trans (ih _)

/-! ## Steps taken once more -/

/-- A step that has an entry has read its template. -/
lemma contains_template {e : String × Json} (hentry : s.addition? cluster id h = some e)
    (hs : s ≠ .roleBinding) : h.objects.contains (templateKey (s.target cluster)) = true := by
  rw [addition?, Option.bind_eq_some_iff] at hentry
  obtain ⟨o, ho, -⟩ := hentry
  cases hsource : s.source cluster id with
  | direct made? => cases s <;> first | exact absurd rfl hs | cases hsource
  | template name make? =>
    rw [hsource, Source.made?, Option.bind_eq_some_iff] at ho
    obtain ⟨template, hread, -⟩ := ho
    rw [target, objectName_eq hsource]
    exact contains_of_read? hread

/-- A step has an entry under the same key wherever what it has read is kept. -/
lemma exists_addition?_of_keptIn {key : String} {j : Json}
    (hentry : s.addition? cluster id h = some (key, j)) (hkept : h.KeptIn h') (id' : ClusterId) :
    ∃ j', s.addition? cluster id' h' = some (key, j') := by
  have hsame : s.addition? cluster id' h' = s.addition? cluster id' h :=
    addition?_congr fun hs => hkept _ (contains_template hentry hs)
  obtain ⟨hnone, -⟩ | ⟨key', j₁, j', hentry₁, hentry', -⟩ :=
    (sameEntry_addition? cluster id id' h s).cases
  · rw [hentry] at hnone; cases hnone
  · obtain ⟨rfl, -⟩ := Prod.mk.inj (Option.some.inj (hentry.symm.trans hentry₁))
    exact ⟨j', hsame.trans hentry'⟩

lemma addNew_of_contains {key : String} (hkey : h.objects.contains key = true) (j : Json) :
    h.addNew key j = h := by
  rw [addNew, if_pos hkey]

/-- **Steps that have succeeded do nothing when they are taken once more**, at any hub that keeps
what they have left. -/
lemma runSteps_again (hok : h.runSteps cluster id ss = (.ok (), h')) (hkept : h'.KeptIn h'')
    (id' : ClusterId) : h''.runSteps cluster id' ss = (.ok (), h'') := by
  induction ss generalizing h with
  | nil => rfl
  | cons s ss ih =>
    cases hentry : s.addition? cluster id h with
    | none => rw [runSteps_cons_none hentry] at hok; cases hok
    | some e =>
      obtain ⟨key, j⟩ := e
      rw [runSteps_cons_some hentry] at hok
      have hrest : (h.addNew key j).KeptIn h' := by
        have := keptIn_runSteps cluster id (h.addNew key j) ss
        rwa [hok] at this
      have hadded := hrest.trans hkept
      obtain ⟨j', hentry'⟩ :=
        exists_addition?_of_keptIn hentry ((keptIn_addNew h key j).trans hadded) id'
      have htaken : h''.objects.contains key = true := by
        rw [KeyMap.contains, hadded key (contains_addNew key j)]
        exact contains_addNew key j
      rw [runSteps_cons_some hentry', addNew_of_contains htaken]
      exact ih hok

/-! ## Steps under another identifier -/

lemma SameUpToIds.addNew (hsame : h.SameUpToIds h') {j j' : Json}
    (hdoc : SameUpToId (some j) (some j')) (key : String) :
    (h.addNew key j).SameUpToIds (h'.addNew key j') := by
  intro key'
  rw [get?_addNew, get?_addNew]
  refine (hsame key').or ?_
  split
  case isTrue => exact hdoc
  case isFalse => exact .refl none

/-- The role binding is the only step behind the deployment. -/
lemma eq_roleBinding_of_suffix (hsuffix : .deployment :: ss <:+ ProvisionStep.all) :
    ss = [.roleBinding] := by
  have htails : ∀ l ∈ ProvisionStep.all.tails, l.head? = some .deployment →
      l.tail = [.roleBinding] := by decide
  exact htails _ ((List.mem_tails _ _).2 hsuffix) rfl

/-- It takes nothing from the hub, so it does the same at hubs that are the same up to
identifiers. -/
lemma runSteps_roleBinding (hsame : h'.SameUpToIds h)
    (hok : (h.runSteps cluster id [.roleBinding]).1 = .ok ()) (id' : ClusterId) :
    (h'.runSteps cluster id' [.roleBinding]).1 = .ok () ∧
      (h'.runSteps cluster id' [.roleBinding]).2.SameUpToIds
        (h.runSteps cluster id [.roleBinding]).2 := by
  have hsource : roleBinding.addition? cluster id' h' = roleBinding.addition? cluster id h :=
    (addition?_congr fun hs => absurd rfl hs).trans (addition?_eq_of_ne (by decide))
  cases hentry : roleBinding.addition? cluster id h with
  | none => rw [runSteps_cons_none hentry] at hok; cases hok
  | some e =>
    rw [runSteps_cons_some (hsource.trans hentry), runSteps_cons_some hentry]
    exact ⟨rfl, hsame.addNew (.refl _) e.1⟩

/-- **The last steps of a provisioning under another identifier** end in the same way, and leave the
same up to identifiers. -/
lemma runSteps_otherId (hsuffix : ss <:+ ProvisionStep.all)
    (hok : (h.runSteps cluster id ss).1 = .ok ()) (id' : ClusterId) :
    (h.runSteps cluster id' ss).1 = .ok () ∧
      (h.runSteps cluster id' ss).2.SameUpToIds (h.runSteps cluster id ss).2 := by
  induction ss generalizing h with
  | nil => exact ⟨rfl, .refl h⟩
  | cons s ss ih =>
    cases hentry : s.addition? cluster id h with
    | none => rw [runSteps_cons_none hentry] at hok; cases hok
    | some e =>
      obtain ⟨key, j⟩ := e
      rw [runSteps_cons_some hentry] at hok ⊢
      by_cases hs : s = .deployment
      · subst hs
        obtain rfl := eq_roleBinding_of_suffix hsuffix
        obtain ⟨hnone, -⟩ | ⟨key', j₁, j', hentry₁, hentry', hdoc⟩ :=
          (sameEntry_addition? cluster id id' h .deployment).cases
        · rw [hentry] at hnone; cases hnone
        · obtain ⟨rfl, rfl⟩ := Prod.mk.inj (Option.some.inj (hentry.symm.trans hentry₁))
          rw [runSteps_cons_some hentry']
          exact runSteps_roleBinding ((SameUpToIds.refl h).addNew hdoc.symm key) hok id'
      · rw [runSteps_cons_some ((addition?_eq_of_ne hs).trans hentry)]
        exact ih (List.IsSuffix.trans (List.suffix_cons s ss) hsuffix) hok

end Hub

/-! ## Provisioning -/

/-- **Provisioning can be cut off anywhere and run again.**  At a plain hub, for any cluster and any
templates: no object that has been there is changed or removed, whatever becomes of the
provisioning.  If it succeeds, then it also succeeds after any number of steps of its own, whatever
identifiers are drawn by then, and it leaves the same up to identifiers; after all steps, it leaves
just what it has found. -/
theorem provision_resumes (cluster : String) (w : World) (hplain : w.hub.isPlain = true) :
    (∀ key, w.hub.objects.contains key = true →
      (provision cluster w).2.hub.objects.get? key = w.hub.objects.get? key) ∧
    ((provision cluster w).1 = .ok () →
      (∀ (k : Nat) (w' : World),
        w'.hub = (runSteps cluster (ProvisionStep.all.take k) w).2.hub →
        (provision cluster w').1 = .ok () ∧
          (provision cluster w').2.hub.SameUpToIds (provision cluster w).2.hub) ∧
      ∀ w' : World, w'.hub = (provision cluster w).2.hub →
        (provision cluster w').1 = .ok () ∧ (provision cluster w').2.hub = w'.hub) := by
  obtain ⟨hresult, hhub⟩ := provision_plain cluster hplain
  rw [hresult, hhub]
  refine ⟨Hub.keptIn_runSteps cluster _ w.hub _, fun hok => ⟨fun k w' hw' => ?_, fun w' hw' => ?_⟩⟩
  · have hall : ProvisionStep.all = ProvisionStep.all.take k ++ ProvisionStep.all.drop k :=
      (List.take_append_drop k _).symm
    have hnodup : (ProvisionStep.all.take k).Nodup :=
      List.Sublist.nodup (List.take_sublist k _) (by decide)
    rw [hall] at hok
    obtain ⟨h, htaken⟩ := Hub.exists_runSteps_of_append hok
    rw [(runSteps_plain cluster hnodup hplain).2, htaken] at hw'
    have hplain' : w'.hub.isPlain = true := by
      rw [hw', ← hplain, ← Hub.isPlain_runSteps cluster (w.ids w.drawn) w.hub, htaken]
    obtain ⟨hresult', hhub'⟩ := provision_plain cluster hplain'
    -- the steps taken do nothing more, and the others go on from the same hub
    have hcut : w.hub.runSteps cluster (w.ids w.drawn) ProvisionStep.all
        = h.runSteps cluster (w.ids w.drawn) (ProvisionStep.all.drop k) := by
      rw [← Hub.runSteps_append htaken, ← hall]
    have htakenAgain := Hub.runSteps_again htaken (.refl h) (w'.ids w'.drawn)
    have hagain : w'.hub.runSteps cluster (w'.ids w'.drawn) ProvisionStep.all
        = h.runSteps cluster (w'.ids w'.drawn) (ProvisionStep.all.drop k) := by
      rw [← Hub.runSteps_append htakenAgain, ← hall, hw']
    rw [hresult', hhub', hagain, hcut]
    rw [← hall, hcut] at hok
    exact Hub.runSteps_otherId (List.drop_suffix k _) hok _
  · have hplain' : w'.hub.isPlain = true := by
      rw [hw', Hub.isPlain_runSteps, hplain]
    obtain ⟨hresult', hhub'⟩ := provision_plain cluster hplain'
    have hagain := Hub.runSteps_again (Prod.ext hok rfl) (.refl _) (w'.ids w'.drawn)
    rw [hresult', hhub', hw', hagain]
    exact ⟨rfl, rfl⟩

/-- So it is with a cluster whose templates are ready. -/
theorem provision_resumes_spoke :
    readyWorld.hub.isPlain = true ∧ (provision "spoke1" readyWorld).1 = .ok () ∧
      ∀ (k : Nat) (w' : World),
        w'.hub = (runSteps "spoke1" (ProvisionStep.all.take k) readyWorld).2.hub →
        (provision "spoke1" w').1 = .ok () ∧
          (provision "spoke1" w').2.hub.SameUpToIds (provision "spoke1" readyWorld).2.hub := by
  have hok : (provision "spoke1" readyWorld).1 = .ok () :=
    provision_ok_of_ready (by decide +kernel) (by decide +kernel)
      ((addressable_iff _).2 (by decide +kernel)) readyHub.isPlain readyHub.templatesReady
  exact ⟨readyHub.isPlain, hok, ((provision_resumes "spoke1" readyWorld readyHub.isPlain).2 hok).1⟩

end SpokeSim
