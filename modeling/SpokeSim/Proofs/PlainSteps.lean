import SpokeSim.Proofs.Footprint

/-!
# Steps at a plain hub

At a plain hub nothing can go wrong but what the cluster's name and the templates bring with them.
A step either has an entry to add to the hub, a key with a document, or it fails and leaves the hub
alone (`addition?`).  So steps can be told without requests and answers: `Hub.runSteps` adds their
entries up to the first step that has none, and `runSteps_plain` says that this is what becomes of
the hub.

All this holds for any name of a cluster, and for any templates.
-/

namespace SpokeSim

/-- The object that comes from a source at a plain hub. -/
def Source.made? {k : Kind} (h : Hub) : Source k → Option k.Object
  | template name make? => (h.read? k (templateKey (k, name))).bind make?
  | direct made? => made?

namespace ProvisionStep

variable {cluster : String} {id : ClusterId} {h : Hub} {s : ProvisionStep}

/-- The path to which a step sends its object, if there can be a request. -/
def place? (cluster : String) (s : ProvisionStep) : Option String :=
  (Target.parse (s.kind.collection cluster ++ "?")).toOption.map Target.path

/-- What a step adds to a plain hub, unless the key is taken: a key and a document. -/
def addition? (cluster : String) (id : ClusterId) (h : Hub) (s : ProvisionStep) :
    Option (String × Json) :=
  ((s.source cluster id).made? h).bind fun o => (s.place? cluster).map fun place =>
    (place ++ "/" ++ (s.kind.metadata o).name.getD "", s.kind.codec.encode o)

lemma object?_eq_made? (hplain : h.isPlain = true) (s : ProvisionStep) :
    (s.source cluster id).object? h = (s.source cluster id).made? h := by
  cases hsource : s.source cluster id with
  | template name make? => rw [← hsource, object?_template hplain hsource, hsource, Source.made?]
  | direct made? => rfl

lemma step_of_addition? (hplain : h.isPlain = true) {key : String} {j : Json}
    (hentry : s.addition? cluster id h = some (key, j)) :
    s.Succeeds cluster id h ∧ h.after (s.requests cluster id h) = h.addNew key j := by
  simp only [addition?, place?, Option.bind_eq_some_iff, Option.map_eq_some_iff] at hentry
  obtain ⟨o, ho, place, ⟨target, htarget, rfl⟩, hentry⟩ := hentry
  obtain ⟨rfl, rfl⟩ := Prod.mk.inj hentry
  rw [← object?_eq_made? hplain] at ho
  cases hparse : Target.parse (s.kind.collection cluster ++ "?") with
  | error f => rw [hparse] at htarget; cases htarget
  | ok target' =>
    obtain rfl : target' = target := by rw [hparse] at htarget; exact Option.some.inj htarget
    exact after_requests_of_sendable hplain ho hparse

lemma step_of_no_entry (hplain : h.isPlain = true) (hentry : s.addition? cluster id h = none) :
    ¬s.Succeeds cluster id h ∧ h.after (s.requests cluster id h) = h := by
  cases ho : (s.source cluster id).object? h with
  | none =>
    refine ⟨fun hs => ?_, after_requests_of_none hplain ho⟩
    exact Source.not_stored_of_none ho ((stored_iff_succeeds h s).2 hs)
  | some o =>
    rw [object?_eq_made? hplain] at ho
    cases hparse : Target.parse (s.kind.collection cluster ++ "?") with
    | error f => exact after_requests_of_unsendable hplain hparse
    | ok target =>
      rw [addition?, ho, place?, hparse] at hentry
      cases hentry

lemma hubAfter_append (ss ss' : List ProvisionStep) :
    hubAfter cluster id h (ss ++ ss') = hubAfter cluster id (hubAfter cluster id h ss) ss' := by
  induction ss generalizing h with
  | nil => rfl
  | cons s ss ih => rw [List.cons_append, hubAfter_cons, hubAfter_cons, ih]

end ProvisionStep

open ProvisionStep

/-! ## Steps one after the other -/

namespace Hub

/-- What becomes of steps at a plain hub: how they end, and the hub afterwards. -/
def runSteps (cluster : String) (id : ClusterId) :
    Hub → List ProvisionStep → Except SimError Unit × Hub
  | h, [] => (.ok (), h)
  | h, s :: ss =>
    match s.addition? cluster id h with
    | none => (.error (.provision s), h)
    | some (key, j) => runSteps cluster id (h.addNew key j) ss

variable {cluster : String} {id : ClusterId} {h h' : Hub} {s : ProvisionStep}
  {ss ss' : List ProvisionStep}

lemma runSteps_cons_none (hentry : s.addition? cluster id h = none) :
    h.runSteps cluster id (s :: ss) = (.error (.provision s), h) := by
  rw [runSteps, hentry]

lemma runSteps_cons_some {key : String} {j : Json}
    (hentry : s.addition? cluster id h = some (key, j)) :
    h.runSteps cluster id (s :: ss) = (h.addNew key j).runSteps cluster id ss := by
  rw [runSteps, hentry]

/-- Steps go on where the ones before have ended. -/
lemma runSteps_append (hok : h.runSteps cluster id ss = (.ok (), h')) :
    h.runSteps cluster id (ss ++ ss') = h'.runSteps cluster id ss' := by
  induction ss generalizing h with
  | nil =>
    obtain rfl : h = h' := congrArg Prod.snd hok
    rfl
  | cons s ss ih =>
    cases hentry : s.addition? cluster id h with
    | none => rw [runSteps_cons_none hentry] at hok; cases hok
    | some e =>
      rw [runSteps_cons_some hentry] at hok
      rw [List.cons_append, runSteps_cons_some hentry, ih hok]

/-- If all steps succeed, so do the first ones. -/
lemma exists_runSteps_of_append (hok : (h.runSteps cluster id (ss ++ ss')).1 = .ok ()) :
    ∃ h', h.runSteps cluster id ss = (.ok (), h') := by
  induction ss generalizing h with
  | nil => exact ⟨h, rfl⟩
  | cons s ss ih =>
    rw [List.cons_append] at hok
    cases hentry : s.addition? cluster id h with
    | none => rw [runSteps_cons_none hentry] at hok; cases hok
    | some e =>
      rw [runSteps_cons_some hentry] at hok ⊢
      exact ih hok

/-- What there is already stays; the new document only stands in where there is nothing. -/
lemma get?_addNew (h : Hub) (key : String) (j : Json) (key' : String) :
    (h.addNew key j).objects.get? key'
      = (h.objects.get? key').or (if key' = key then some j else none) := by
  rw [addNew]
  split
  case isTrue htaken =>
    split
    case isTrue heq =>
      obtain ⟨j', hj'⟩ := Option.isSome_iff_exists.1 htaken
      rw [heq, hj', Option.some_or]
    case isFalse => rw [Option.or_none]
  case isFalse hfree =>
    rw [KeyMap.get?_insert]
    split
    case isTrue heq =>
      rw [heq, KeyMap.contains_eq_false_iff.1 (Bool.not_eq_true _ ▸ hfree), Option.none_or]
    case isFalse => rw [Option.or_none]

lemma isPlain_addNew (key : String) (j : Json) : (h.addNew key j).isPlain = h.isPlain := by
  rw [addNew]
  split <;> rfl

/-- Steps that succeed leave the hub that their requests leave. -/
lemma runSteps_of_allSucceed (hplain : h.isPlain = true) (hall : AllSucceed cluster id h ss) :
    h.runSteps cluster id ss = (.ok (), hubAfter cluster id h ss) := by
  induction ss generalizing h with
  | nil => rfl
  | cons s ss ih =>
    obtain ⟨hs, hall⟩ := allSucceed_cons_iff.1 hall
    cases hentry : s.addition? cluster id h with
    | none => exact absurd hs (step_of_no_entry hplain hentry).1
    | some e =>
      obtain ⟨-, hafter⟩ := step_of_addition? hplain hentry
      rw [hafter] at hall
      rw [runSteps_cons_some hentry, hubAfter_cons, hafter]
      exact ih (by rw [isPlain_addNew]; exact hplain) hall

lemma isPlain_runSteps (cluster : String) (id : ClusterId) (h : Hub) (ss : List ProvisionStep) :
    (h.runSteps cluster id ss).2.isPlain = h.isPlain := by
  induction ss generalizing h with
  | nil => rfl
  | cons s ss ih =>
    cases hentry : s.addition? cluster id h with
    | none => rw [runSteps_cons_none hentry]
    | some e => rw [runSteps_cons_some hentry, ih, isPlain_addNew]

end Hub

/-- **What steps come to at a plain hub** is told by their entries.  No step is to be taken twice:
there is one identifier for all. -/
theorem runSteps_plain (cluster : String) {ss : List ProvisionStep} (hnodup : ss.Nodup) {w : World}
    (hplain : w.hub.isPlain = true) :
    (runSteps cluster ss w).1 = (w.hub.runSteps cluster (w.ids w.drawn) ss).1 ∧
      (runSteps cluster ss w).2.hub = (w.hub.runSteps cluster (w.ids w.drawn) ss).2 := by
  obtain ⟨taken, left, draws, rfl, hleads, hends⟩ :=
    runSteps_ends cluster ss hnodup w fun _ => rfl
  have hhub : (runSteps cluster (taken ++ left) w).2.hub
      = hubAfter cluster (w.ids w.drawn) w.hub taken := hleads.hub
  rw [hhub]
  obtain ⟨rfl, hall, hresult⟩ | ⟨done, s, rfl, hall, hs, hresult⟩ := hends
  · rw [hresult, List.append_nil, Hub.runSteps_of_allSucceed hplain hall]
    exact ⟨rfl, rfl⟩
  · have hdone := Hub.runSteps_of_allSucceed hplain hall
    have hplain' : (hubAfter cluster (w.ids w.drawn) w.hub done).isPlain = true := by
      rw [← hplain, ← Hub.isPlain_runSteps cluster (w.ids w.drawn) w.hub done, hdone]
    cases hentry : s.addition? cluster (w.ids w.drawn)
        (hubAfter cluster (w.ids w.drawn) w.hub done) with
    | some e => exact absurd (step_of_addition? hplain' hentry).1 hs
    | none =>
      rw [hresult, List.append_assoc, Hub.runSteps_append hdone, List.singleton_append,
        Hub.runSteps_cons_none hentry, hubAfter_append, hubAfter_cons,
        (step_of_no_entry hplain' hentry).2]
      exact ⟨rfl, rfl⟩

/-- So it is with provisioning, which takes all steps. -/
theorem provision_plain (cluster : String) {w : World} (hplain : w.hub.isPlain = true) :
    (provision cluster w).1 = (w.hub.runSteps cluster (w.ids w.drawn) ProvisionStep.all).1 ∧
      (provision cluster w).2.hub
        = (w.hub.runSteps cluster (w.ids w.drawn) ProvisionStep.all).2 := by
  have hnodup : ProvisionStep.all.Nodup := by decide
  obtain ⟨hresult, hhub⟩ := runSteps_plain cluster hnodup hplain
  rw [← hresult, ← hhub, provision, bind_apply]
  generalize runSteps cluster ProvisionStep.all w = out
  obtain ⟨result, w'⟩ := out
  cases result <;> exact ⟨rfl, rfl⟩

end SpokeSim
