import SpokeSim.Proofs.Independence
import SpokeSim.Proofs.Listing

/-!
# Cleaning up undoes a watch

**Cleaning up.**  It reaps the listed clusters in scope, so all that it does to a plain hub is to
remove what is under their removable keys (`reapAll_plain`).  The list is the same after a watch as
before it, since no cluster owns an entry of the list (`listClusters_run`).

**Watching.**  A watch brings nothing but objects of clusters in scope, whatever fails at whatever
step, and what it removes are such objects (`Hub.ChangedFor`).  One event preserves this
(`Hub.ChangedFor.handle`), and so does any history (`Hub.ChangedFor.handleAll`).

So if the clusters of a history are all listed, and the hub had nothing of them, cleaning up
restores the hub (`cleanup_undoes_watch`).  As with a single cluster, no name may be so long that
objects can be created and not be removed.
-/

namespace SpokeSim

variable {scope : String} {w w' : World} {listing : Api.Listing .managedCluster}
  {r : Reconciler} {e : ClusterEvent} {es : List ClusterEvent} {n : String}

/-! ## Cleaning up -/

/-- The keys under which something is removed when clusters are reaped. -/
def sweptKeys (cs : List ManagedCluster) : List String := cs.flatMap fun c => removableKeys c.name

lemma mem_sweptKeys_iff {cs : List ManagedCluster} {key : String} :
    key ∈ sweptKeys cs ↔ ∃ c ∈ cs, key ∈ removableKeys c.name :=
  List.mem_flatMap

lemma hub_reapEach_cons (c : ManagedCluster) (cs : List ManagedCluster) (w : World) :
    ∃ w₁ : World, w₁.hub = w.hub ∧
      (reapEach Handler.simulator (c :: cs) w).2
        = (reapEach Handler.simulator cs (reap c.name w₁).2).2 := by
  have hreap : Handler.simulator.reap c.name = discard (reap c.name) := rfl
  rw [reapEach, bind_apply, bind_apply, hreap, discard_snd]
  exact ⟨(log _ _ _ w).2, rfl, rfl⟩

lemma hub_reapEach (cs : List ManagedCluster) (hcs : ∀ c ∈ cs, IsClusterName c.name)
    (hplain : w.hub.isPlain = true) :
    (reapEach Handler.simulator cs w).2.hub = w.hub.without (sweptKeys cs) := by
  induction cs generalizing w with
  | nil => rfl
  | cons c cs ih =>
    obtain ⟨w₁, hw₁, hrest⟩ := hub_reapEach_cons c cs w
    have hreap := (reap_removes (hcs c List.mem_cons_self) (hw₁ ▸ hplain)).2
    have hplain' : (reap c.name w₁).2.hub.isPlain = true := by
      rw [hreap, hw₁]
      exact hplain
    rw [hrest, ih (fun c hc => hcs c (List.mem_cons_of_mem _ hc)) hplain', hreap, hw₁]
    simp only [Hub.without, KeyMap.eraseAll, sweptKeys, List.flatMap_cons, List.foldl_append]

/-- **Cleaning up a plain hub** removes what there is under the removable keys of all listed
clusters in scope, and counts these clusters. -/
lemma reapAll_plain (hplain : w.hub.isPlain = true) (hlisting : (listClusters w).1 = .ok listing)
    (scope : String) (hnames : ∀ c ∈ listing.inScope scope, IsClusterName c.name) :
    (reapAll listClusters Handler.simulator scope w).1 = .ok (listing.inScope scope).length ∧
      (reapAll listClusters Handler.simulator scope w).2.hub
        = w.hub.without (sweptKeys (listing.inScope scope)) := by
  have hhub := (listClusters_plain hplain).2
  have hswept : (reapEach Handler.simulator (listing.inScope scope) (listClusters w).2).2.hub
      = w.hub.without (sweptKeys (listing.inScope scope)) := by
    rw [← hhub] at hplain
    rw [hub_reapEach _ hnames hplain, hhub]
  rw [reapAll, bind_apply, hlisting]
  exact ⟨rfl, hswept⟩

/-! ## Watching -/

/-- A hub has changed for some clusters only: it is still plain and its templates are named, and
there is nothing new or missing but under the keys of these clusters. -/
structure Hub.ChangedFor (wanted : String → Prop) (h₀ h : Hub) : Prop where
  plain : h.isPlain = true
  named : h.TemplatesNamed
  elsewhere : ∀ key, (∀ n, wanted n → key ∉ clusterKeys n) →
    h.objects.get? key = h₀.objects.get? key

namespace Hub.ChangedFor

variable {wanted : String → Prop} {h₀ h h' : Hub}

lemma of_confined (hchanged : h₀.ChangedFor wanted h) (hn : IsClusterName n)
    (hne : n ≠ addonNamespace) (hconfined : Hub.Confined n h h')
    (helsewhere : ∀ key, (∀ n, wanted n → key ∉ clusterKeys n) →
      h'.objects.get? key = h₀.objects.get? key) : h₀.ChangedFor wanted h' where
  plain := hconfined.plain.trans hchanged.plain
  named := hchanged.named.congr (hconfined.sameTemplates hn hne)
  elsewhere := helsewhere

lemma provision (hchanged : h₀.ChangedFor wanted w.hub) (hn : IsClusterName n)
    (hne : n ≠ addonNamespace) (hwanted : wanted n ∨ Target.longest < n.utf8ByteSize + 31) :
    h₀.ChangedFor wanted (SpokeSim.provision n w).2.hub := by
  refine hchanged.of_confined hn hne (confined_provision hn hne hchanged.plain) ?_
  intro key hkey
  rw [← hchanged.elsewhere key hkey]
  rcases hwanted with hwanted | hlong
  · exact (grows_provision hn hne hchanged.plain hchanged.named).within key (hkey n hwanted)
  · -- not even the first object can be created
    have hlong' : Target.longest < (Kind.configMap.collection n ++ "?").utf8ByteSize := by
      rw [String.utf8ByteSize_append, utf8ByteSize_configMaps]
      exact hlong
    rw [provision_tooLong hlong' hchanged.plain]

lemma reap (hchanged : h₀.ChangedFor wanted w.hub) (hn : IsClusterName n)
    (hne : n ≠ addonNamespace) (habsent : ∀ key ∈ clusterKeys n, h₀.objects.get? key = none) :
    h₀.ChangedFor wanted (SpokeSim.reap n w).2.hub := by
  refine hchanged.of_confined hn hne (confined_reap hn hchanged.plain) ?_
  intro key hkey
  rw [get?_reap hn hchanged.plain]
  split
  case isTrue hremovable => exact (habsent key (List.mem_of_mem_filter hremovable)).symm
  case isFalse => exact hchanged.elsewhere key hkey

/-- **One event changes a hub for its cluster only**, and only if it is in scope. -/
lemma handle (hchanged : h₀.ChangedFor wanted w.hub)
    (hnames : ∀ n, e.names n = true → IsClusterName n ∧ n ≠ addonNamespace)
    (habsent : ∀ n, e.names n = true → ∀ key ∈ clusterKeys n, h₀.objects.get? key = none)
    (hadded : ∀ n, e = .added n → r.covers n = true →
      wanted n ∨ Target.longest < n.utf8ByteSize + 31) :
    h₀.ChangedFor wanted (r.handle Handler.simulator e w).2.hub := by
  cases hcall : r.call? e with
  | none =>
    rw [hub_handle_of_none hcall]
    exact hchanged
  | some call =>
    obtain ⟨hn, hne⟩ := hnames _ (names_of_call? hcall)
    rw [← hub_herald e w] at hchanged
    cases call with
    | provision cluster =>
      obtain ⟨he, -, hcovers⟩ := Reconciler.call?_eq_provision_iff.1 hcall
      rw [hub_handle_of_provision hcall]
      exact hchanged.provision hn hne (hadded cluster he hcovers)
    | reap cluster =>
      rw [hub_handle_of_reap hcall]
      exact hchanged.reap hn hne (habsent cluster (names_of_call? hcall))

/-- **So does any history.** -/
lemma handleAll (hchanged : h₀.ChangedFor wanted w.hub)
    (hnames : ∀ n, IsNamedIn es n → IsClusterName n ∧ n ≠ addonNamespace)
    (habsent : ∀ n, IsNamedIn es n → ∀ key ∈ clusterKeys n, h₀.objects.get? key = none)
    (hadded : ∀ n, .added n ∈ es → r.covers n = true →
      wanted n ∨ Target.longest < n.utf8ByteSize + 31) :
    h₀.ChangedFor wanted (r.handleAll Handler.simulator es w).2.hub := by
  induction es generalizing r w with
  | nil => exact hchanged
  | cons e es ih =>
    have hstep : h₀.ChangedFor wanted (r.handle Handler.simulator e w).2.hub := by
      refine hchanged.handle (fun n hn => hnames n (isNamedIn_head hn))
        (fun n hn => habsent n (isNamedIn_head hn)) ?_
      rintro n rfl
      exact hadded n List.mem_cons_self
    rw [Reconciler.handleAll, bind_apply, Reconciler.handle_fst]
    refine ih hstep (fun n hn => hnames n (isNamedIn_tail hn))
      (fun n hn => habsent n (isNamedIn_tail hn)) ?_
    intro n hn
    rw [Reconciler.covers, Reconciler.scope_next]
    exact hadded n (List.mem_cons_of_mem _ hn)

end Hub.ChangedFor

/-- A watch leaves the list as it is. -/
lemma listClusters_run (r : Reconciler)
    (hnames : ∀ n, IsNamedIn es n → IsClusterName n ∧ n ≠ addonNamespace)
    (hplain : w.hub.isPlain = true)
    (hhub : w'.hub = (r.run Handler.simulator (es.map .ok) w).2.hub) :
    w'.hub.isPlain = true ∧ (listClusters w').1 = (listClusters w).1 := by
  obtain ⟨hplain', hrest⟩ := rest_run r hnames hplain
  rw [← hhub] at hplain' hrest
  exact ⟨hplain', listClusters_congr hplain hplain'
    fun key hkey => hrest key fun n _ => hkey.not_owns n⟩

/-- **Cleaning up undoes a watch.**  Take any plain hub whose templates bear their names as far as
they can be read, with a list of clusters of which there is nothing else.  After any history of
listed clusters, whatever has become of the provisionings, cleaning up counts the listed clusters in
scope and leaves the objects as they were, if the names of those that have been added in scope are
short enough to address all objects, or too long to create any. -/
theorem cleanup_undoes_watch (scope : String) (policy : SeenPolicy) (events : List ClusterEvent)
    (w w' : World) (listing : Api.Listing .managedCluster) (hplain : w.hub.isPlain = true)
    (hnamed : w.hub.TemplatesNamed) (hlisting : (listClusters w).1 = .ok listing)
    (hnames : ∀ c ∈ listing.items, IsClusterName c.name ∧ c.name ≠ addonNamespace)
    (habsent : ∀ c ∈ listing.items, ∀ key ∈ sixKeys c.name, w.hub.objects.get? key = none)
    (hlisted : ∀ n, IsNamedIn events n → ∃ c ∈ listing.items, c.name = n)
    (hwatched : w'.hub
      = (Reconciler.run Handler.simulator { scope, policy } (events.map .ok) w).2.hub) :
    (reapAll listClusters Handler.simulator scope w').1
        = .ok (listing.items.filter fun c => startsWith c.name scope).length ∧
      ((∀ n, .added n ∈ events → startsWith n scope = true →
          n.utf8ByteSize + 112 < Target.longest ∨ Target.longest < n.utf8ByteSize + 31) →
        (reapAll listClusters Handler.simulator scope w').2.hub.objects = w.hub.objects) := by
  have hevents : ∀ n, IsNamedIn events n → IsClusterName n ∧ n ≠ addonNamespace := by
    intro n hn
    obtain ⟨c, hc, rfl⟩ := hlisted n hn
    exact hnames c hc
  have hnothing : ∀ n, IsNamedIn events n → ∀ key ∈ clusterKeys n,
      w.hub.objects.get? key = none := by
    intro n hn
    obtain ⟨c, hc, rfl⟩ := hlisted n hn
    exact habsent c hc
  obtain ⟨hplain', hlisting'⟩ := listClusters_run _ hevents hplain hwatched
  rw [hlisting] at hlisting'
  obtain ⟨hcount, hhub⟩ := reapAll_plain hplain' hlisting' scope fun c hc =>
    (hnames c (List.mem_of_mem_filter hc)).1
  refine ⟨hcount, fun hsize => KeyMap.ext_get? fun key => ?_⟩
  rw [hhub, Hub.get?_without]
  split
  case isTrue hswept =>
    obtain ⟨c, hc, hkey⟩ := mem_sweptKeys_iff.1 hswept
    exact (habsent c (List.mem_of_mem_filter hc) key (List.mem_of_mem_filter hkey)).symm
  case isFalse hunswept =>
    have hchanged : w.hub.ChangedFor
        (fun n => (∃ c ∈ listing.inScope scope, c.name = n) ∧ Addressable n) w'.hub := by
      rw [hwatched, hub_run, heard_map_ok]
      refine Hub.ChangedFor.handleAll ⟨hplain, hnamed, fun _ _ => rfl⟩ hevents hnothing ?_
      intro n hadded hscope
      obtain ⟨c, hc, rfl⟩ := hlisted n (.inl hadded)
      rw [addressable_iff]
      exact (hsize _ hadded hscope).imp_left fun hshort =>
        ⟨⟨c, List.mem_filter.2 ⟨hc, hscope⟩, rfl⟩, hshort⟩
    refine hchanged.elsewhere key ?_
    rintro _ ⟨⟨c, hc, rfl⟩, haddress⟩ hkey
    refine hunswept (mem_sweptKeys_iff.2 ⟨c, hc, ?_⟩)
    rwa [removableKeys_of_addressable haddress]

/-- A cluster that comes back is provisioned twice, and cleaning up leaves nothing of it. -/
theorem cleanup_undoes_watch_spoke :
    let events : List ClusterEvent := [.added "spoke-1", .deleted "spoke-1", .added "spoke-1"]
    let watched := (Reconciler.run Handler.simulator { scope := "spoke", policy := .forget }
      (events.map .ok) (clusterWorld "spoke-1")).2
    (reapAll listClusters Handler.simulator "spoke" watched).1 = .ok 1 ∧
      (reapAll listClusters Handler.simulator "spoke" watched).2.hub.objects
        = (clusterHub "spoke-1").objects := by
  intro events watched
  have hnamed : ∀ n, IsNamedIn events n → "spoke-1" = n := by simp [events, IsNamedIn]
  have hn : IsClusterName "spoke-1" := by decide +kernel
  have hne : "spoke-1" ≠ addonNamespace := by decide +kernel
  have hchosen : [bareCluster "spoke-1"].filter (fun c => startsWith c.name "spoke")
      = [bareCluster "spoke-1"] :=
    List.filter_cons_of_pos (by decide +kernel)
  have hwatched : watched = _ := rfl
  have hlaw := cleanup_undoes_watch "spoke" .forget events (clusterWorld "spoke-1") watched
    { items := [bareCluster "spoke-1"], resourceVersion := some "1" } (clusterHub.isPlain _)
    (clusterHub.templatesReady _).named (clusterHub.listClusters_eq hn.slash_notMem rfl)
    ?_ ?_ ?_ (congrArg World.hub hwatched)
  · refine ⟨hlaw.1.trans (by rw [hchosen]; rfl), hlaw.2 fun n h _ => ?_⟩
    rw [← hnamed n (.inl h)]
    exact .inl (by decide +kernel)
  · simp only [List.mem_singleton, forall_eq, name_bareCluster]
    exact ⟨hn, hne⟩
  · simp only [List.mem_singleton, forall_eq, name_bareCluster]
    exact fun key hkey => clusterHub.get?_of_mem_clusterKeys hn hne hkey
  · intro n h
    exact ⟨_, List.mem_singleton_self _, hnamed n h⟩

/-- To watch a cluster come is to provision it. -/
lemma hub_run_added (policy : SeenPolicy) (hscope : startsWith n scope = true) (w : World) :
    ∃ w₁ : World, w₁.hub = w.hub ∧
      (Reconciler.run Handler.simulator { scope, policy } ([.added n].map .ok) w).2.hub
        = (provision n w₁).2.hub := by
  have hcall : Reconciler.call? { scope, policy } (.added n) = some (.provision n) := by
    rw [Reconciler.call?]
    exact if_pos ⟨List.not_mem_nil, hscope⟩
  have hhub : (Reconciler.herald (.added n)
      (Reconciler.announce { scope, policy } w).2).2.hub = w.hub := hub_herald ..
  rw [hub_run, heard_map_ok, handleAll_singleton_snd, hub_handle_of_provision hcall]
  generalize (Reconciler.herald (.added n) (Reconciler.announce { scope, policy } w).2).2 = w₁
    at hhub ⊢
  exact ⟨w₁, hhub, rfl⟩

/-- Cleaning up does not undo a watch of clusters with names of any length: of a name of 65500
letters, the config map is created and cannot be removed. -/
theorem not_cleanup_undoes_watch_of_any_length :
    ¬∀ (scope : String) (policy : SeenPolicy) (events : List ClusterEvent) (w w' : World)
      (listing : Api.Listing .managedCluster), w.hub.isPlain = true → w.hub.TemplatesNamed →
      (listClusters w).1 = .ok listing →
      (∀ c ∈ listing.items, IsClusterName c.name ∧ c.name ≠ addonNamespace) →
      (∀ c ∈ listing.items, ∀ key ∈ sixKeys c.name, w.hub.objects.get? key = none) →
      (∀ n, IsNamedIn events n → ∃ c ∈ listing.items, c.name = n) →
      w'.hub = (Reconciler.run Handler.simulator { scope, policy } (events.map .ok) w).2.hub →
      (reapAll listClusters Handler.simulator scope w').1
          = .ok (listing.items.filter fun c => startsWith c.name scope).length ∧
        (reapAll listClusters Handler.simulator scope w').2.hub.objects = w.hub.objects := by
  intro hlaw
  generalize hlong : longName 65500 = long
  have hsize : long.utf8ByteSize = 65500 := by rw [← hlong, utf8ByteSize_longName]
  have hn : IsClusterName long := hlong ▸ isClusterName_longName (by decide)
  have hne : long ≠ addonNamespace := hlong ▸ longName_ne_addonNamespace 65500
  have hnamed : ∀ n, IsNamedIn [.added long] n → long = n := by simp [IsNamedIn]
  have hnames : ∀ n, IsNamedIn [.added long] n → IsClusterName n ∧ n ≠ addonNamespace := by
    intro n h
    rw [← hnamed n h]
    exact ⟨hn, hne⟩
  have habsent : ∀ key ∈ sixKeys long, (clusterHub long).objects.get? key = none :=
    fun key hkey => clusterHub.get?_of_mem_clusterKeys hn hne hkey
  have hlisting := clusterHub.listClusters_eq (w := clusterWorld long) hn.slash_notMem rfl
  obtain ⟨w', hw'⟩ : ∃ w' : World, w'.hub = (Reconciler.run Handler.simulator
      { scope := "", policy := .retain } ([.added long].map .ok) (clusterWorld long)).2.hub :=
    ⟨_, rfl⟩
  have hsame := (hlaw "" .retain [.added long] (clusterWorld long) w' _ (clusterHub.isPlain long)
    (clusterHub.templatesReady long).named hlisting (by simpa using ⟨hn, hne⟩)
    (by simpa using habsent) (by simpa using hnamed) hw').2
  -- the watch has created the config map
  have hscope : startsWith long "" = true := rfl
  obtain ⟨w₁, hw₁, hrun⟩ := hub_run_added .retain hscope (clusterWorld long)
  have hcreated := contains_provision_configMap hn hne (w := w₁)
    (by rw [utf8ByteSize_configMaps, hsize]; decide) (hw₁ ▸ clusterHub.isPlain long)
    (hw₁ ▸ clusterHub.templatesReady long)
  rw [← hrun, ← hw', KeyMap.contains] at hcreated
  -- cleaning up does not remove it, as nothing of the cluster is removable
  obtain ⟨hplain', hlisting'⟩ := listClusters_run _ hnames (clusterHub.isPlain long) hw'
  have hclusters : ∀ c ∈ [bareCluster long], IsClusterName c.name := by simpa using hn
  have hswept := (reapAll_plain hplain' (hlisting'.trans hlisting) "" fun c hc =>
    hclusters c (List.mem_of_mem_filter hc)).2
  have hkey : ProvisionStep.caBundle.key long ∉ sweptKeys (Api.Listing.inScope
      { items := [bareCluster long], resourceVersion := some "1" } "") := by
    rw [mem_sweptKeys_iff]
    rintro ⟨c, hc, hkey⟩
    obtain rfl := List.mem_singleton.1 (List.mem_of_mem_filter hc)
    rw [name_bareCluster, removableKeys_of_tooLong (by rw [hsize]; decide)] at hkey
    cases hkey
  have hgone := habsent _ (ProvisionStep.caBundle.key_mem long)
  rw [← hub_clusterWorld, ← hsame, hswept, Hub.get?_without, if_neg hkey] at hgone
  rw [hgone] at hcreated
  cases hcreated

end SpokeSim
