import SpokeSim.Proofs.Independence

/-!
# A restart heals

A reconciler that is restarted has seen nothing, so it provisions every cluster that it is told is
there, and what there is on the hub is all that tells of the past.

**Stages.**  Of a cluster there is what there was at the beginning (`Hub.Untouched`), or that and
what provisioning makes of it (`Hub.Provisioned`), or what a reaping leaves of it (`Hub.Reaped`).
Provisioning leads to the second stage from any of them, and nothing is added by doing so again.

**Histories.**  The stage of each cluster is told by the history (`Staged`): those that are live
are provisioned, others that have been added are reaped, and the rest is untouched.  One event
preserves this, and so does any run.

So if clusters are forgotten, those that are there are provisioned, and a restart changes nothing;
if they stay seen, a restart provisions those that have been missed (`restart_heals`).  Names may
have any length, and templates may be anything.
-/

namespace SpokeSim

variable {n : String} {h₀ h h' : Hub}

/-! ## Stages -/

namespace Hub

/-- Of a cluster there is what there was. -/
def Untouched (h₀ : Hub) (n : String) (h : Hub) : Prop :=
  ∀ key, Owns n key → h.objects.get? key = h₀.objects.get? key

/-- Of a cluster there is what there was, and what provisioning has made. -/
def Provisioned (h₀ : Hub) (n : String) (h : Hub) : Prop :=
  ∀ key, Owns n key → ∃ id, h.objects.get? key = (h₀.objects.get? key).or (making n id h₀ key)

/-- Of a cluster there is what a reaping has left of that. -/
def Reaped (h₀ : Hub) (n : String) (h : Hub) : Prop :=
  ∀ key, Owns n key → ∃ id, h.objects.get? key =
    if key ∈ removableKeys n then none else (h₀.objects.get? key).or (making n id h₀ key)

/-- There is nothing of a cluster that a reaping would remove. -/
def Unreapable (h₀ : Hub) (n : String) : Prop :=
  ∀ key ∈ removableKeys n, h₀.objects.get? key = none

protected lemma Untouched.trans (huntouched : h₀.Untouched n h) (hnext : h.Untouched n h') :
    h₀.Untouched n h' :=
  fun key hkey => (hnext key hkey).trans (huntouched key hkey)

lemma Provisioned.of_untouched (hprovisioned : h₀.Provisioned n h) (hnext : h.Untouched n h') :
    h₀.Provisioned n h' := by
  intro key hkey
  rw [hnext key hkey]
  exact hprovisioned key hkey

lemma Reaped.of_untouched (hreaped : h₀.Reaped n h) (hnext : h.Untouched n h') :
    h₀.Reaped n h' := by
  intro key hkey
  rw [hnext key hkey]
  exact hreaped key hkey

lemma Provisioned.sameUpToId (hprovisioned : h₀.Provisioned n h)
    (hprovisioned' : h₀.Provisioned n h') {key : String} (hkey : Owns n key) :
    SameUpToId (h.objects.get? key) (h'.objects.get? key) := by
  obtain ⟨id, hid⟩ := hprovisioned key hkey
  obtain ⟨id', hid'⟩ := hprovisioned' key hkey
  rw [hid, hid']
  exact (SameUpToId.refl _).or (sameUpToId_making n id' id h₀ key)

lemma Reaped.sameUpToId (hreaped : h₀.Reaped n h) (hreaped' : h₀.Reaped n h') {key : String}
    (hkey : Owns n key) : SameUpToId (h.objects.get? key) (h'.objects.get? key) := by
  obtain ⟨id, hid⟩ := hreaped key hkey
  obtain ⟨id', hid'⟩ := hreaped' key hkey
  rw [hid, hid']
  split
  case isTrue => exact .refl none
  case isFalse => exact (SameUpToId.refl _).or (sameUpToId_making n id' id h₀ key)

/-! ### Provisioning once more -/

lemma Untouched.provisioned (huntouched : h₀.Untouched n h) (hsame : h₀.SameTemplates h)
    (hnext : h.Provisioned n h') : h₀.Provisioned n h' := by
  intro key hkey
  obtain ⟨id, hid⟩ := hnext key hkey
  rw [huntouched key hkey, hsame.making_eq] at hid
  exact ⟨id, hid⟩

/-- Where there is what provisioning makes, nothing more is made. -/
lemma Provisioned.untouched_again (hprovisioned : h₀.Provisioned n h)
    (hsame : h₀.SameTemplates h) (hnext : h.Provisioned n h') : h.Untouched n h' := by
  intro key hkey
  obtain ⟨id, hid⟩ := hprovisioned key hkey
  obtain ⟨id', hid'⟩ := hnext key hkey
  rw [hid', hid, hsame.making_eq, or_making_or]

lemma Reaped.provisioned (hreaped : h₀.Reaped n h) (hnone : h₀.Unreapable n)
    (hsame : h₀.SameTemplates h) (hnext : h.Provisioned n h') : h₀.Provisioned n h' := by
  intro key hkey
  obtain ⟨id, hid⟩ := hreaped key hkey
  obtain ⟨id', hid'⟩ := hnext key hkey
  rw [hid, hsame.making_eq] at hid'
  by_cases hremovable : key ∈ removableKeys n
  · rw [if_pos hremovable] at hid'
    exact ⟨id', by rw [hid', hnone key hremovable]⟩
  · rw [if_neg hremovable, or_making_or] at hid'
    exact ⟨id, hid'⟩

end Hub

variable {w : World}

lemma provisioned_provision (hn : IsClusterName n) (hne : n ≠ addonNamespace)
    (hplain : w.hub.isPlain = true) : w.hub.Provisioned n (provision n w).2.hub :=
  fun key _ => ⟨w.ids w.drawn, get?_provision hn hne hplain key⟩

lemma untouched_reap (hn : IsClusterName n) (hplain : w.hub.isPlain = true)
    (huntouched : h₀.Untouched n w.hub) (hnone : h₀.Unreapable n) :
    h₀.Untouched n (reap n w).2.hub := by
  intro key hkey
  rw [get?_reap hn hplain, huntouched key hkey]
  split
  case isTrue hremovable => exact (hnone key hremovable).symm
  case isFalse => rfl

lemma reaped_reap (hn : IsClusterName n) (hplain : w.hub.isPlain = true)
    (hstage : h₀.Provisioned n w.hub ∨ h₀.Reaped n w.hub) : h₀.Reaped n (reap n w).2.hub := by
  intro key hkey
  obtain hprovisioned | hreaped := hstage
  · obtain ⟨id, hid⟩ := hprovisioned key hkey
    exact ⟨id, by rw [get?_reap hn hplain, hid]⟩
  · obtain ⟨id, hid⟩ := hreaped key hkey
    refine ⟨id, ?_⟩
    rw [get?_reap hn hplain, hid]
    split
    case isTrue => rfl
    case isFalse => rfl

/-! ## Histories -/

variable {scope : String} {policy : SeenPolicy} {past : List ClusterEvent} {e : ClusterEvent}
  {r : Reconciler}

/-- A cluster is at the stage that a history tells. -/
structure Staged (scope : String) (policy : SeenPolicy) (n : String) (past : List ClusterEvent)
    (h₀ h : Hub) : Prop where
  plain : h.isPlain = true
  templates : h₀.SameTemplates h
  untouched : ¬(startsWith n scope = true ∧ .added n ∈ past) → h₀.Untouched n h
  provisioned : startsWith n scope = true ∧ Live policy n past → h₀.Provisioned n h
  reaped : startsWith n scope = true → .added n ∈ past → ¬Live policy n past → h₀.Reaped n h

namespace Staged

/-- What has to be shown of one event. -/
lemma concat (hstaged : Staged scope policy n past h₀ h) (htracks : r.Tracks scope policy past)
    (hplain : h'.isPlain = true) (htemplates : h₀.SameTemplates h')
    (hprovision : r.call? e = some (.provision n) → h₀.Provisioned n h')
    (hreap : r.call? e = some (.reap n) →
      (.added n ∉ past → h₀.Untouched n h') ∧ (.added n ∈ past → h₀.Reaped n h'))
    (hother : r.call? e ≠ some (.provision n) → r.call? e ≠ some (.reap n) → h.Untouched n h') :
    Staged scope policy n (past ++ [e]) h₀ h' where
  plain := hplain
  templates := htemplates
  untouched hnot := by
    have hpast : ¬(startsWith n scope = true ∧ .added n ∈ past) :=
      fun h => hnot ⟨h.1, List.mem_append_left _ h.2⟩
    by_cases hcall : r.call? e = some (.reap n)
    · have hcovers := (Reconciler.call?_eq_reap_iff.1 hcall).2
      rw [Reconciler.covers, htracks.scope_eq] at hcovers
      exact (hreap hcall).1 fun h => hpast ⟨hcovers, h⟩
    · refine (hstaged.untouched hpast).trans (hother (fun hcall' => hnot ?_) hcall)
      obtain ⟨rfl, -, hcovers⟩ := Reconciler.call?_eq_provision_iff.1 hcall'
      rw [Reconciler.covers, htracks.scope_eq] at hcovers
      exact ⟨hcovers, by simp⟩
  provisioned hlive := by
    by_cases hcall : r.call? e = some (.provision n)
    · exact hprovision hcall
    · obtain ⟨hlive, hcall'⟩ := (htracks.live_concat_iff.1 hlive).resolve_left hcall
      exact (hstaged.provisioned hlive).of_untouched (hother hcall hcall')
  reaped hscope hadded hdead := by
    have hnot : ¬(startsWith n scope = true ∧ Live policy n (past ++ [e])) := fun h => hdead h.2
    rw [htracks.live_concat_iff, not_or, not_and, not_not] at hnot
    obtain ⟨hcall, hnot⟩ := hnot
    by_cases hcall' : r.call? e = some (.reap n)
    · obtain ⟨rfl, -⟩ := Reconciler.call?_eq_reap_iff.1 hcall'
      exact (hreap hcall').2 (by simpa using hadded)
    · have hpast : .added n ∈ past := by
        rcases List.mem_append.1 hadded with hpast | hlast
        · exact hpast
        · -- a cluster that is added in scope and not provisioned has been seen
          obtain rfl := List.mem_singleton.1 hlast
          by_contra hpast
          refine hcall (Reconciler.call?_eq_provision_iff.2 ⟨rfl, fun hseen => ?_, ?_⟩)
          · exact hpast (added_mem_of_settled ((htracks.mem_seen_iff n).1 hseen).2)
          · rw [Reconciler.covers, htracks.scope_eq]
            exact hscope
      exact (hstaged.reaped hscope hpast fun h => hcall' (hnot ⟨hscope, h⟩)).of_untouched
        (hother hcall hcall')

/-- From any stage, provisioning leads to the second one. -/
lemma provision (hstaged : Staged scope policy n past h₀ h)
    (hnone : .deleted n ∈ past → h₀.Unreapable n) (hscope : startsWith n scope = true)
    (hnext : h.Provisioned n h') : h₀.Provisioned n h' := by
  by_cases hadded : .added n ∈ past
  · by_cases hlive : Live policy n past
    · have hprovisioned := hstaged.provisioned ⟨hscope, hlive⟩
      exact hprovisioned.of_untouched (hprovisioned.untouched_again hstaged.templates hnext)
    · have hdeleted : .deleted n ∈ past := by
        by_contra hdeleted
        exact hlive (live_of_deleted_notMem hadded hdeleted)
      exact (hstaged.reaped hscope hadded hlive).provisioned (hnone hdeleted) hstaged.templates
        hnext
  · exact (hstaged.untouched fun h => hadded h.2).provisioned hstaged.templates hnext

/-- **One event leads to the next stage.** -/
lemma handle (hn : IsClusterName n) (hne : n ≠ addonNamespace)
    (hstaged : Staged scope policy n past h₀ w.hub) (htracks : r.Tracks scope policy past)
    (hnames : ∀ m, e.names m = true → IsClusterName m ∧ m ≠ addonNamespace)
    (hnone : .deleted n ∈ past ++ [e] → h₀.Unreapable n) :
    Staged scope policy n (past ++ [e]) h₀ (r.handle Handler.simulator e w).2.hub := by
  have hsame : (Reconciler.herald e w).2.hub = w.hub := hub_herald e w
  have hplain : (Reconciler.herald e w).2.hub.isPlain = true := hsame ▸ hstaged.plain
  have htemplates : w.hub.SameTemplates (r.handle Handler.simulator e w).2.hub := by
    obtain hhub | ⟨m, hm, hconfined⟩ := confined_handle (r := r) hnames hstaged.plain
    · rw [hhub]
      exact fun _ _ => rfl
    · exact hconfined.sameTemplates (hnames m hm).1 (hnames m hm).2
  refine hstaged.concat htracks (isPlain_handle hnames hstaged.plain)
    (hstaged.templates.trans htemplates) ?_ ?_ ?_
  · intro hcall
    have hcovers := (Reconciler.call?_eq_provision_iff.1 hcall).2.2
    rw [Reconciler.covers, htracks.scope_eq] at hcovers
    rw [hub_handle_of_provision hcall]
    rw [← hsame] at hstaged
    exact hstaged.provision (fun h => hnone (List.mem_append_left _ h)) hcovers
      (provisioned_provision hn hne hplain)
  · intro hcall
    obtain ⟨rfl, hcovers⟩ := Reconciler.call?_eq_reap_iff.1 hcall
    rw [Reconciler.covers, htracks.scope_eq] at hcovers
    rw [hub_handle_of_reap hcall]
    rw [← hsame] at hstaged
    refine ⟨fun hadded => ?_, fun hadded => reaped_reap hn hplain ?_⟩
    · exact untouched_reap hn hplain (hstaged.untouched fun h => hadded h.2) (hnone (by simp))
    · by_cases hlive : Live policy n past
      · exact .inl (hstaged.provisioned ⟨hcovers, hlive⟩)
      · exact .inr (hstaged.reaped hcovers hadded hlive)
  · intro hcall hcall' key hkey
    cases hsome : r.call? e with
    | none => rw [hub_handle_of_none hsome]
    | some call =>
      obtain ⟨hm, hmne⟩ := hnames _ (names_of_call? hsome)
      have hother : call.cluster ≠ n := by
        rintro rfl
        cases call with
        | provision cluster => exact hcall hsome
        | reap cluster => exact hcall' hsome
      exact (confined_handle_of_some hsome hm hmne hstaged.plain).rest key fun hkey' =>
        hother (hkey'.unique hm.slash_notMem hn.slash_notMem hkey)

end Staged

/-- **Any history leads to the stage that it tells.** -/
lemma staged_handleAll (scope : String) (policy : SeenPolicy) (hn : IsClusterName n)
    (hne : n ≠ addonNamespace) (past : List ClusterEvent)
    (hnames : ∀ m, IsNamedIn past m → IsClusterName m ∧ m ≠ addonNamespace)
    (hplain : w.hub.isPlain = true) (hnone : .deleted n ∈ past → w.hub.Unreapable n) :
    Staged scope policy n past w.hub
      (Reconciler.handleAll Handler.simulator { scope, policy } past w).2.hub := by
  induction past using List.reverseRecOn with
  | nil =>
    refine ⟨hplain, fun _ _ => rfl, fun _ _ _ => rfl, fun h => absurd h.2 not_live_nil, ?_⟩
    exact fun _ hadded => absurd hadded List.not_mem_nil
  | append_singleton past e ih =>
    have hstaged := ih (fun m hm => hnames m (isNamedIn_concat_iff.2 (.inl hm)))
      fun h => hnone (List.mem_append_left _ h)
    rw [handleAll_concat, Reconciler.handleAll_fst]
    exact hstaged.handle hn hne (Reconciler.tracks_foldl scope policy past)
      (fun m hm => hnames m (isNamedIn_concat_iff.2 (.inr hm))) hnone

lemma staged_run (scope : String) (policy : SeenPolicy) (hn : IsClusterName n)
    (hne : n ≠ addonNamespace) {events : List ClusterEvent}
    (hnames : ∀ m, IsNamedIn events m → IsClusterName m ∧ m ≠ addonNamespace)
    (hplain : w.hub.isPlain = true) (hnone : .deleted n ∈ events → w.hub.Unreapable n) :
    Staged scope policy n events w.hub
      (Reconciler.run Handler.simulator { scope, policy } (events.map .ok) w).2.hub := by
  have hannounced : (Reconciler.announce { scope, policy } w).2.hub.isPlain = true := hplain
  rw [hub_run, heard_map_ok]
  exact staged_handleAll scope policy hn hne events hnames hannounced hnone

/-! ## Restarts -/

/-- The events by which a watch begins that lists some clusters. -/
def listedEvents (present : List ManagedCluster) : List ClusterEvent :=
  present.map fun c => (WatchNews.listed c).event

lemma added_mem_listedEvents {present : List ManagedCluster} :
    .added n ∈ listedEvents present ↔ ∃ c ∈ present, c.name = n := by
  simp [listedEvents, WatchNews.event]

lemma deleted_notMem_listedEvents {present : List ManagedCluster} :
    .deleted n ∉ listedEvents present := by
  simp [listedEvents, WatchNews.event]

/-- A restart leads a cluster to the second stage if that is wanted, and else leaves it alone. -/
def Restarts (wanted : Prop) (n : String) (h h' : Hub) : Prop :=
  (wanted → h.Provisioned n h') ∧ (¬wanted → h.Untouched n h')

/-- Wanted are the clusters in scope that are there. -/
lemma restart_stages (scope : String) (policy : SeenPolicy) {present : List ManagedCluster}
    (hpresent : ∀ c ∈ present, IsClusterName c.name ∧ c.name ≠ addonNamespace)
    (hn : IsClusterName n) (hne : n ≠ addonNamespace) (hplain : w.hub.isPlain = true) :
    Restarts (startsWith n scope = true ∧ ∃ c ∈ present, c.name = n) n w.hub
      (Reconciler.run Handler.simulator { scope, policy }
        ((listedEvents present).map .ok) w).2.hub := by
  have hnames : ∀ m, IsNamedIn (listedEvents present) m →
      IsClusterName m ∧ m ≠ addonNamespace := by
    intro m hm
    obtain ⟨c, hc, rfl⟩ :=
      added_mem_listedEvents.1 (hm.resolve_right deleted_notMem_listedEvents)
    exact hpresent c hc
  have hstaged : Staged scope policy n (listedEvents present) w.hub _ :=
    staged_run scope policy hn hne hnames hplain fun h => absurd h deleted_notMem_listedEvents
  constructor
  · rintro ⟨hscope, hthere⟩
    exact hstaged.provisioned ⟨hscope, live_of_deleted_notMem (added_mem_listedEvents.2 hthere)
      deleted_notMem_listedEvents⟩
  · intro hunwanted
    exact hstaged.untouched fun h => hunwanted ⟨h.1, added_mem_listedEvents.1 h.2⟩

/-- If clusters are forgotten, those that are there are provisioned already. -/
lemma Staged.untouched_of_restarts (hforget : Staged scope .forget n past h₀ h)
    (hnext : Restarts (startsWith n scope = true ∧ HeldSince (.added n) (.deleted n) past) n h h') :
    h.Untouched n h' := by
  by_cases hwanted : startsWith n scope = true ∧ HeldSince (.added n) (.deleted n) past
  · exact (hforget.provisioned hwanted).untouched_again hforget.templates (hnext.1 hwanted)
  · exact hnext.2 hwanted

/-- If they stay seen, those that are there get provisioned, and the others are at the same
stage. -/
lemma Staged.sameUpToId_of_restarts {h₁ : Hub} (hretain : Staged scope .retain n past h₀ h₁)
    (hforget : Staged scope .forget n past h₀ h) (hnone : h₀.Unreapable n)
    (hnext : Restarts (startsWith n scope = true ∧ HeldSince (.added n) (.deleted n) past) n h₁ h')
    {key : String} (hkey : Owns n key) :
    SameUpToId (h'.objects.get? key) (h.objects.get? key) := by
  by_cases hwanted : startsWith n scope = true ∧ HeldSince (.added n) (.deleted n) past
  · have hprovisioned := hretain.provision (fun _ => hnone) hwanted.1 (hnext.1 hwanted)
    exact hprovisioned.sameUpToId (hforget.provisioned hwanted) hkey
  · rw [hnext.2 hwanted key hkey]
    by_cases hadded : startsWith n scope = true ∧ .added n ∈ past
    · have hgone : ¬HeldSince (.added n) (.deleted n) past := fun h => hwanted ⟨hadded.1, h⟩
      have hgone' : ¬Live .retain n past := by
        rintro ⟨before, after, hpast, -, hafter⟩
        exact hgone ⟨before, after, hpast, hafter⟩
      exact (hretain.reaped hadded.1 hadded.2 hgone').sameUpToId
        (hforget.reaped hadded.1 hadded.2 hgone) hkey
    · rw [hretain.untouched hadded key hkey, hforget.untouched hadded key hkey]
      exact .refl _

/-- **A restart heals, and makes the two policies agree.**  Take any plain hub, and any history of
clusters of which there is nothing to begin with; then a new reconciler that is told, in any order,
which clusters are there: those that have been added and not been deleted since.  If they have been
forgotten as they were deleted, it changes nothing.  If they have stayed seen, it leaves the objects
that there would be if they had been forgotten, up to identifiers. -/
theorem restart_heals (scope : String) (policy : SeenPolicy) (events : List ClusterEvent)
    (h₀ : Hub) (hplain : h₀.isPlain = true)
    (hnames : ∀ n, IsNamedIn events n → IsClusterName n ∧ n ≠ addonNamespace)
    (habsent : ∀ n, IsNamedIn events n → ∀ key ∈ sixKeys n, h₀.objects.get? key = none)
    (present : List ManagedCluster)
    (hpresent : ∀ n, (∃ c ∈ present, c.name = n) ↔ HeldSince (.added n) (.deleted n) events) :
    let watched (policy : SeenPolicy) (w : World) :=
      (Reconciler.run Handler.simulator { scope, policy } (events.map .ok) w).2.hub
    let restarted (w : World) := (Reconciler.run Handler.simulator { scope, policy }
      ((listedEvents present).map .ok) w).2.hub
    (∀ w w', w.hub = h₀ → w'.hub = watched .forget w →
      (restarted w').objects = w'.hub.objects) ∧
    ∀ w w₁ w', w.hub = h₀ → w₁.hub = h₀ → w'.hub = watched .retain w →
      (restarted w').SameUpToIds (watched .forget w₁) := by
  intro watched restarted
  have hthere : ∀ c ∈ present, IsNamedIn events c.name := by
    intro c hc
    have hheld : Settled .forget c.name events := (hpresent c.name).1 ⟨c, hc, rfl⟩
    exact .inl (added_mem_of_settled hheld)
  have hlisted : ∀ m, IsNamedIn (listedEvents present) m → IsNamedIn events m := by
    intro m hm
    obtain ⟨c, hc, rfl⟩ :=
      added_mem_listedEvents.1 (hm.resolve_right deleted_notMem_listedEvents)
    exact hthere c hc
  have hnone : ∀ n, IsNamedIn events n → h₀.Unreapable n :=
    fun n hn key hkey => habsent n hn key (List.mem_of_mem_filter hkey)
  -- the parts of the clusters
  have hstaged : ∀ n, IsNamedIn events n → ∀ policy w, w.hub = h₀ →
      Staged scope policy n events h₀ (watched policy w) := by
    rintro n hn policy w rfl
    exact staged_run scope policy (hnames n hn).1 (hnames n hn).2 hnames hplain fun _ => hnone n hn
  have hrestarts : ∀ n, IsNamedIn events n → ∀ w : World, w.hub.isPlain = true →
      Restarts (startsWith n scope = true ∧ HeldSince (.added n) (.deleted n) events) n w.hub
        (restarted w) := by
    intro n hn w hw
    rw [← hpresent]
    exact restart_stages scope policy (fun c hc => hnames _ (hthere c hc)) (hnames n hn).1
      (hnames n hn).2 hw
  -- all the rest
  have hrest : ∀ policy w, w.hub = h₀ → (watched policy w).isPlain = true ∧
      ∀ key, (∀ m, IsNamedIn events m → ¬Owns m key) →
        (watched policy w).objects.get? key = h₀.objects.get? key := by
    rintro policy w rfl
    exact rest_run _ hnames hplain
  have hrest' : ∀ w : World, w.hub.isPlain = true →
      ∀ key, (∀ m, IsNamedIn events m → ¬Owns m key) →
        (restarted w).objects.get? key = w.hub.objects.get? key :=
    fun w hw key hkey => (rest_run _ (fun m hm => hnames m (hlisted m hm)) hw).2 key
      fun m hm => hkey m (hlisted m hm)
  refine ⟨fun w w' hw hw' => KeyMap.ext_get? fun key => ?_, fun w w₁ w' hw hw₁ hw' key => ?_⟩
  · have hplain' : w'.hub.isPlain = true := by rw [hw']; exact (hrest .forget w hw).1
    by_cases hkey : ∃ n, IsNamedIn events n ∧ Owns n key
    · obtain ⟨n, hn, howns⟩ := hkey
      have hstage := hstaged n hn .forget w hw
      rw [← hw'] at hstage
      exact hstage.untouched_of_restarts (hrestarts n hn w' hplain') key howns
    · simp only [not_exists, not_and] at hkey
      exact hrest' w' hplain' key hkey
  · have hplain' : w'.hub.isPlain = true := by rw [hw']; exact (hrest .retain w hw).1
    by_cases hkey : ∃ n, IsNamedIn events n ∧ Owns n key
    · obtain ⟨n, hn, howns⟩ := hkey
      have hstage := hstaged n hn .retain w hw
      rw [← hw'] at hstage
      exact hstage.sameUpToId_of_restarts (hstaged n hn .forget w₁ hw₁) (hnone n hn)
        (hrestarts n hn w' hplain') howns
    · simp only [not_exists, not_and] at hkey
      rw [hrest' w' hplain' key hkey, hw', (hrest .retain w hw).2 key hkey,
        (hrest .forget w₁ hw₁).2 key hkey]
      exact .refl _

/-- A cluster that has come back is missed if it stays seen, and a restart provisions it. -/
theorem restart_heals_spoke :
    let events : List ClusterEvent := [.added "spoke-1", .deleted "spoke-1", .added "spoke-1"]
    let cluster : ManagedCluster := bareTemplate (.managedCluster, "spoke-1")
    let watched (policy : SeenPolicy) (w : World) :=
      (Reconciler.run Handler.simulator { scope := "spoke", policy } (events.map .ok) w).2.hub
    let restarted (w : World) :=
      (Reconciler.run Handler.simulator { scope := "spoke", policy := .retain }
        ((listedEvents [cluster]).map .ok) w).2.hub
    ∀ w', w'.hub = watched .retain readyWorld →
      (restarted w').SameUpToIds (watched .forget readyWorld) := by
  intro events cluster watched restarted w' hw'
  have hnamed : ∀ n, IsNamedIn events n → n = "spoke-1" := by simp [events, IsNamedIn]
  have hnames : ∀ n, IsNamedIn events n → IsClusterName n ∧ n ≠ addonNamespace := by
    intro n h
    rw [hnamed n h]
    exact ⟨by decide +kernel, by decide +kernel⟩
  have hpresent : ∀ n, (∃ c ∈ [cluster], c.name = n) ↔
      HeldSince (.added n) (.deleted n) events := by
    intro n
    have hname : cluster.name = "spoke-1" := rfl
    simp only [List.mem_singleton, exists_eq_left, hname]
    constructor
    · rintro rfl
      exact ⟨[.added "spoke-1", .deleted "spoke-1"], [], rfl, List.not_mem_nil⟩
    · intro hheld
      have hsettled : Settled .forget n events := hheld
      exact (hnamed n (.inl (added_mem_of_settled hsettled))).symm
  have hheals := restart_heals "spoke" .retain events readyHub readyHub.isPlain hnames
    (fun n h key hkey => readyHub.get?_of_mem_clusterKeys (hnames n h).1 (hnames n h).2 hkey)
    [cluster] hpresent
  exact hheals.2 readyWorld readyWorld w' rfl rfl hw'

end SpokeSim
