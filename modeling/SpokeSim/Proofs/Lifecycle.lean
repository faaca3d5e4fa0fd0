import SpokeSim.Proofs.Footprint
import SpokeSim.Proofs.Reaping
import SpokeSim.Proofs.WatchTrace

/-!
# The hub keeps in step with the clusters

A reconciler that drives the simulator keeps the hub in step with the history of events: of each
cluster the hub has all six objects if the cluster is live, and none if it is not (`InStep`).

**The hub at one event.**  It goes through one provisioning, or one reaping, or nothing, by the call
that the reconciler makes (`hub_handle_of_provision`, `hub_handle_of_reap`, `hub_handle_of_none`).
A provisioning completes the objects of its cluster, as all templates are ready
(`provision_ready`); a reaping clears them; neither touches those of another cluster.

**The history at one event.**  A cluster becomes live as it is provisioned and ceases to be as it is
reaped (`Reconciler.Tracks.live_concat_iff`).

So one event preserves `InStep`, and any history does (`hub_inStep`).
-/

namespace SpokeSim

/-! ## Live clusters -/

variable {scope : String} {policy : SeenPolicy} {past : List ClusterEvent} {e : ClusterEvent}
  {n : String}

/-- A cluster whose objects are wanted.  If clusters are forgotten, one that has been added and not
been deleted since; if they stay seen, one that has not been deleted since it was first added. -/
def Live (policy : SeenPolicy) (n : String) (past : List ClusterEvent) : Prop :=
  match policy with
  | .forget => HeldSince (.added n) (.deleted n) past
  | .retain => ∃ before after, past = before ++ .added n :: after ∧ .added n ∉ before ∧
      .deleted n ∉ after

lemma not_live_nil : ¬Live policy n [] := by
  cases policy with
  | retain =>
    rintro ⟨before, after, hnil, -⟩
    simp at hnil
  | forget => exact not_heldSince_nil

/-- A cluster becomes live as it is added unless it is settled, and ceases to be as it is
deleted. -/
lemma live_concat_iff :
    Live policy n (past ++ [e]) ↔
      (e = .added n ∧ ¬Settled policy n past) ∨ (Live policy n past ∧ e ≠ .deleted n) := by
  cases policy with
  | forget =>
    have hother : e = .added n → e ≠ .deleted n := by rintro rfl; simp
    simp only [Live, Settled, heldSince_concat_iff]
    tauto
  | retain => exact splits_concat_iff

/-- A cluster that has been added and never been deleted is live. -/
lemma live_of_deleted_notMem (hadded : .added n ∈ past) (hdeleted : .deleted n ∉ past) :
    Live policy n past := by
  obtain ⟨before, after, rfl, hfirst⟩ := List.eq_append_cons_of_mem hadded
  have hafter : ClusterEvent.deleted n ∉ after :=
    fun h => hdeleted (List.mem_append_right _ (List.mem_cons_of_mem _ h))
  cases policy with
  | forget => exact ⟨before, after, rfl, hafter⟩
  | retain => exact ⟨before, after, rfl, hfirst, hafter⟩

/-- In terms of calls: a cluster in scope becomes live as it is provisioned, and ceases to be as it
is reaped. -/
lemma Reconciler.Tracks.live_concat_iff {r : Reconciler}
    (h : Reconciler.Tracks scope policy past r) :
    startsWith n scope = true ∧ Live policy n (past ++ [e]) ↔
      r.call? e = some (.provision n) ∨
        ((startsWith n scope = true ∧ Live policy n past) ∧ r.call? e ≠ some (.reap n)) := by
  rw [SpokeSim.live_concat_iff, Reconciler.call?_eq_provision_iff, ne_eq, ne_eq,
    Reconciler.call?_eq_reap_iff, h.mem_seen_iff, Reconciler.covers, h.scope_eq]
  tauto

/-! ## The hub at one event -/

/-- All objects of a cluster are there. -/
def Hub.Complete (h : Hub) (n : String) : Prop :=
  ∀ key ∈ clusterKeys n, h.objects.contains key = true

/-- No object of a cluster is there. -/
def Hub.Clear (h : Hub) (n : String) : Prop :=
  ∀ key ∈ clusterKeys n, h.objects.contains key = false

section

variable {cluster : String} {w : World}

lemma Hub.Complete.congr {h h' : Hub} (hcomplete : h.Complete n)
    (hsame : ∀ key ∈ clusterKeys n, h'.objects.get? key = h.objects.get? key) : h'.Complete n := by
  intro key hkey
  rw [KeyMap.contains, hsame key hkey]
  exact hcomplete key hkey

lemma Hub.Clear.congr {h h' : Hub} (hclear : h.Clear n)
    (hsame : ∀ key ∈ clusterKeys n, h'.objects.get? key = h.objects.get? key) : h'.Clear n := by
  intro key hkey
  rw [KeyMap.contains, hsame key hkey]
  exact hclear key hkey

/-- **Where all templates are ready, provisioning completes a cluster** whose objects have
addresses. -/
lemma provision_ready (hn : IsClusterName cluster) (hne : cluster ≠ addonNamespace)
    (haddress : Addressable cluster) (hplain : w.hub.isPlain = true)
    (hready : w.hub.TemplatesReady) : (provision cluster w).2.hub.Complete cluster := by
  obtain ⟨taken, left, draws, hall, hleads, hends⟩ := provision_ends cluster w
  have hsucceed (ss : List ProvisionStep) :
      ProvisionStep.AllSucceed cluster (w.ids w.drawn) w.hub ss ∧
        ∀ s ∈ ss, (ProvisionStep.hubAfter cluster (w.ids w.drawn) w.hub ss).objects.contains
          (s.key cluster) = true :=
    ProvisionStep.allSucceed_of_ready hn hne haddress ss hplain hready
  have hleft : left = [] := by
    obtain ⟨hleft, -⟩ | ⟨done, s, rfl, -, hs, -⟩ := hends
    · exact hleft
    · exact absurd ((hsucceed (done ++ [s])).1 done s [] rfl) hs
  rw [hleft, List.append_nil] at hall
  intro key hkey
  obtain ⟨s, rfl⟩ := ProvisionStep.mem_clusterKeys_iff.1 hkey
  have hs : s ∈ ProvisionStep.all := by cases s <;> decide
  rw [hleads.hub, ← hall]
  exact (hsucceed ProvisionStep.all).2 s hs

/-- Telling of an event leaves the hub alone. -/
lemma hub_herald (e : ClusterEvent) (w : World) : (Reconciler.herald e w).2.hub = w.hub := by
  cases e <;> rfl

lemma hub_handle_of_provision {r : Reconciler}
    (hcall : r.call? e = some (.provision cluster)) (w : World) :
    (r.handle Handler.simulator e w).2.hub
      = (provision cluster (Reconciler.herald e w).2).2.hub := by
  have hprovision : Handler.simulator.provision = provision := rfl
  rw [Reconciler.handle_eq, Reconciler.act_of_some _ hcall, Reconciler.perform, bind_apply,
    hprovision]
  generalize provision cluster (Reconciler.herald e w).2 = out
  obtain ⟨result, w₁⟩ := out
  cases result <;> rfl

lemma hub_handle_of_reap {r : Reconciler} (hcall : r.call? e = some (.reap cluster)) (w : World) :
    (r.handle Handler.simulator e w).2.hub = (reap cluster (Reconciler.herald e w).2).2.hub := by
  have hreap : Handler.simulator.reap cluster = discard (reap cluster) := rfl
  rw [Reconciler.handle_eq, Reconciler.act_of_some _ hcall, Reconciler.perform, hreap, discard_snd]

/-- Where the reconciler makes no call, the hub stays as it is. -/
lemma hub_handle_of_none {r : Reconciler} (hcall : r.call? e = none) (w : World) :
    (r.handle Handler.simulator e w).2.hub = w.hub := by
  rw [Reconciler.handle_eq, Reconciler.act_of_none _ hcall, ← hub_herald e w]
  generalize (Reconciler.herald e w).2 = w₁
  cases e with
  | added cluster => rw [Reconciler.dismiss]; split <;> rfl
  | deleted cluster => rfl
  | other => rfl

end

/-! ## The hub in step -/

/-- The hub is in step with a history, as far as some clusters are concerned: it is plain and its
templates are ready, and each of the clusters is complete if it is in scope and live, and clear if
it is not. -/
structure InStep (scope : String) (policy : SeenPolicy) (named : String → Prop)
    (past : List ClusterEvent) (h : Hub) : Prop where
  plain : h.isPlain = true
  ready : h.TemplatesReady
  complete : ∀ n, named n → startsWith n scope = true ∧ Live policy n past → h.Complete n
  clear : ∀ n, named n → ¬(startsWith n scope = true ∧ Live policy n past) → h.Clear n

/-- Clusters that can be cared for: their names are no addresses of the add-on's own objects, and
those in scope are short enough to be addresses of theirs. -/
def Tractable (scope n : String) : Prop :=
  IsClusterName n ∧ n ≠ addonNamespace ∧ (startsWith n scope = true → Addressable n)

section

variable {named : String → Prop} {r : Reconciler} {w : World}

/-- What has to be shown of one event. -/
lemma InStep.concat {h h' : Hub} (hstep : InStep scope policy named past h)
    (htracks : r.Tracks scope policy past) (hplain : h'.isPlain = true)
    (hready : h'.TemplatesReady)
    (hprovision : ∀ n, named n → r.call? e = some (.provision n) → h'.Complete n)
    (hreap : ∀ n, named n → r.call? e = some (.reap n) → h'.Clear n)
    (hother : ∀ n, named n → r.call? e ≠ some (.provision n) → r.call? e ≠ some (.reap n) →
      ∀ key ∈ clusterKeys n, h'.objects.get? key = h.objects.get? key) :
    InStep scope policy named (past ++ [e]) h' where
  plain := hplain
  ready := hready
  complete n hn hlive := by
    by_cases hcall : r.call? e = some (.provision n)
    · exact hprovision n hn hcall
    · obtain ⟨hlive, hcall'⟩ := (htracks.live_concat_iff.1 hlive).resolve_left hcall
      exact (hstep.complete n hn hlive).congr (hother n hn hcall hcall')
  clear n hn hlive := by
    rw [htracks.live_concat_iff, not_or, not_and, not_not] at hlive
    by_cases hcall : r.call? e = some (.reap n)
    · exact hreap n hn hcall
    · exact (hstep.clear n hn fun hlive' => hcall (hlive.2 hlive')).congr
        (hother n hn hlive.1 hcall)

/-- A provisioning keeps the hub in step with the event that has called for it. -/
lemma InStep.provision {cluster : String} (hnamed : ∀ n, named n → Tractable scope n)
    (htracks : r.Tracks scope policy past) (hstep : InStep scope policy named past w.hub)
    (hcluster : named cluster) (hcall : r.call? e = some (.provision cluster)) :
    InStep scope policy named (past ++ [e]) (SpokeSim.provision cluster w).2.hub := by
  obtain ⟨hn, hne, haddress⟩ := hnamed cluster hcluster
  have hcovers := (Reconciler.call?_eq_provision_iff.1 hcall).2.2
  rw [Reconciler.covers, htracks.scope_eq] at hcovers
  have hgrows := grows_provision hn hne hstep.plain hstep.ready.named
  refine hstep.concat htracks (hgrows.plain hstep.plain)
    (hstep.ready.congr fun _ => hgrows.get?_templateKey hn hne) ?_ ?_ ?_
  · intro n _ hcall'
    obtain rfl : cluster = n := by simpa [hcall] using hcall'
    exact provision_ready hn hne (haddress hcovers) hstep.plain hstep.ready
  · simp [hcall]
  · intro n hn' hcall' _ key hkey
    have hne' : n ≠ cluster := by rintro rfl; exact hcall' hcall
    exact hgrows.within key (notMem_clusterKeys_of_ne (hnamed n hn').1 hn hne' hkey)

/-- So does a reaping. -/
lemma InStep.reap {cluster : String} (hnamed : ∀ n, named n → Tractable scope n)
    (htracks : r.Tracks scope policy past) (hstep : InStep scope policy named past w.hub)
    (hcluster : named cluster) (hcall : r.call? e = some (.reap cluster)) :
    InStep scope policy named (past ++ [e]) (SpokeSim.reap cluster w).2.hub := by
  obtain ⟨hn, hne, haddress⟩ := hnamed cluster hcluster
  have hcovers := (Reconciler.call?_eq_reap_iff.1 hcall).2
  rw [Reconciler.covers, htracks.scope_eq] at hcovers
  have hafter := (reap_plain hn (haddress hcovers) hstep.plain).2
  have hkeys : ∀ key, (SpokeSim.reap cluster w).2.hub.objects.get? key
      = if key ∈ clusterKeys cluster then none else w.hub.objects.get? key := by
    intro key
    rw [hafter]
    exact KeyMap.get?_eraseAll ..
  refine hstep.concat htracks (by rw [hafter]; exact hstep.plain)
    (hstep.ready.congr fun o ho => ?_) ?_ ?_ ?_
  · rw [hkeys, if_neg (templateKey_notMem_clusterKeys hn hne ho)]
  · simp [hcall]
  · intro n _ hcall' key hkey
    obtain rfl : cluster = n := by simpa [hcall] using hcall'
    rw [KeyMap.contains_eq_false_iff, hkeys, if_pos hkey]
  · intro n hn' _ hcall' key hkey
    have hne' : n ≠ cluster := by rintro rfl; exact hcall' hcall
    rw [hkeys, if_neg (notMem_clusterKeys_of_ne (hnamed n hn').1 hn hne' hkey)]

/-- **One event keeps the hub in step.** -/
lemma InStep.handle (hnamed : ∀ n, named n → Tractable scope n)
    (htracks : r.Tracks scope policy past) (hstep : InStep scope policy named past w.hub)
    (he : ∀ n, e = .added n ∨ e = .deleted n → named n) :
    InStep scope policy named (past ++ [e]) (r.handle Handler.simulator e w).2.hub := by
  cases hcall : r.call? e with
  | none =>
    rw [hub_handle_of_none hcall]
    refine hstep.concat htracks hstep.plain hstep.ready ?_ ?_ fun _ _ _ _ _ _ => rfl <;>
      simp [hcall]
  | some call =>
    rw [← hub_herald e w] at hstep
    cases call with
    | provision cluster =>
      rw [hub_handle_of_provision hcall]
      have hadded := (Reconciler.call?_eq_provision_iff.1 hcall).1
      exact hstep.provision hnamed htracks (he cluster (.inl hadded)) hcall
    | reap cluster =>
      rw [hub_handle_of_reap hcall]
      have hdeleted := (Reconciler.call?_eq_reap_iff.1 hcall).1
      exact hstep.reap hnamed htracks (he cluster (.inr hdeleted)) hcall

lemma handleAll_concat {σ : Type} [LogSink σ] (h : Handler σ) (r : Reconciler)
    (es : List ClusterEvent) (e : ClusterEvent) (s : σ) :
    r.handleAll h (es ++ [e]) s
      = (r.handleAll h es s).1.handle h e (r.handleAll h es s).2 := by
  induction es generalizing r s with
  | nil => rfl
  | cons e' es ih =>
    rw [List.cons_append, Reconciler.handleAll, Reconciler.handleAll, bind_apply, bind_apply, ih]

lemma handleAll_singleton_snd {σ : Type} [LogSink σ] (h : Handler σ) (r : Reconciler)
    (e : ClusterEvent) (s : σ) : (r.handleAll h [e] s).2 = (r.handle h e s).2 := rfl

/-- **Any history keeps the hub in step** from a hub that has nothing of the clusters. -/
lemma inStep_handleAll (hnamed : ∀ n, named n → Tractable scope n) (past : List ClusterEvent)
    (hpast : ∀ e ∈ past, ∀ n, e = .added n ∨ e = .deleted n → named n)
    (hplain : w.hub.isPlain = true) (hready : w.hub.TemplatesReady)
    (hclear : ∀ n, named n → w.hub.Clear n) :
    InStep scope policy named past
      (Reconciler.handleAll Handler.simulator { scope, policy } past w).2.hub := by
  induction past using List.reverseRecOn with
  | nil =>
    refine ⟨hplain, hready, fun n _ hlive => absurd hlive.2 not_live_nil, fun n hn _ => ?_⟩
    exact hclear n hn
  | append_singleton past e ih =>
    have hstep := ih fun e' he' => hpast e' (List.mem_append_left _ he')
    have htracks := Reconciler.tracks_foldl scope policy past
    rw [handleAll_concat, Reconciler.handleAll_fst]
    exact hstep.handle hnamed htracks (hpast e (by simp))

end

/-- An event of a history names a cluster. -/
def IsNamedIn (events : List ClusterEvent) (n : String) : Prop :=
  .added n ∈ events ∨ .deleted n ∈ events

/-- **The hub keeps in step with the clusters.**  Take any plain hub whose templates are ready, and
any history of clusters of which the hub has nothing to begin with, those in scope being
addressable.  After each event, there are either all objects of a cluster or none, and all of them
just if the cluster is in scope and live. -/
theorem hub_inStep (scope : String) (policy : SeenPolicy) (events : List ClusterEvent) (w : World)
    (hplain : w.hub.isPlain = true) (hready : w.hub.TemplatesReady)
    (hnames : ∀ n, IsNamedIn events n → IsClusterName n ∧ n ≠ addonNamespace)
    (hsize : ∀ n, IsNamedIn events n → startsWith n scope = true →
      n.utf8ByteSize + 112 < Target.longest)
    (habsent : ∀ n, IsNamedIn events n → ∀ key ∈ sixKeys n, w.hub.objects.get? key = none)
    (i : Nat) (n : String) (hn : IsNamedIn events n) :
    let h := (Reconciler.handleAll Handler.simulator { scope, policy } (events.take i) w).2.hub
    let wanted := startsWith n scope = true ∧ Live policy n (events.take i)
    (wanted ∧ ∀ key ∈ sixKeys n, h.objects.contains key = true) ∨
      (¬wanted ∧ ∀ key ∈ sixKeys n, h.objects.contains key = false) := by
  intro h wanted
  have hstep : InStep scope policy (IsNamedIn events) (events.take i) h := by
    refine inStep_handleAll (fun n hn => ?_) _ (fun e he n hn => ?_) hplain hready
      fun n hn key hkey => KeyMap.contains_eq_false_iff.2 (habsent n hn key hkey)
    · exact ⟨(hnames n hn).1, (hnames n hn).2,
        fun hscope => (addressable_iff n).2 (hsize n hn hscope)⟩
    · have hmem := List.mem_of_mem_take he
      rcases hn with rfl | rfl
      · exact .inl hmem
      · exact .inr hmem
  by_cases hwanted : wanted
  · exact .inl ⟨hwanted, hstep.complete n hn hwanted⟩
  · exact .inr ⟨hwanted, hstep.clear n hn hwanted⟩

/-- Of a cluster that comes and goes, the hub has all objects and then none; of one out of scope it
never has any. -/
theorem hub_inStep_spoke :
    let events : List ClusterEvent := [.added "spoke-1", .added "other-2", .deleted "spoke-1"]
    let hubAt (i : Nat) := (Reconciler.handleAll Handler.simulator
      { scope := "spoke", policy := .forget } (events.take i) readyWorld).2.hub
    (hubAt 2).Complete "spoke-1" ∧ (hubAt 3).Clear "spoke-1" ∧ (hubAt 3).Clear "other-2" := by
  intro events hubAt
  have hnamed : ∀ n, IsNamedIn events n → n = "spoke-1" ∨ n = "other-2" := by
    intro n h
    simp only [IsNamedIn, events, List.mem_cons, List.not_mem_nil, ClusterEvent.added.injEq,
      ClusterEvent.deleted.injEq, reduceCtorEq, or_false, false_or] at h
    tauto
  have hnames : ∀ n, IsNamedIn events n → IsClusterName n ∧ n ≠ addonNamespace := by
    intro n h
    obtain rfl | rfl := hnamed n h <;> exact ⟨by decide +kernel, by decide +kernel⟩
  have hsize : ∀ n, IsNamedIn events n → startsWith n "spoke" = true →
      n.utf8ByteSize + 112 < Target.longest := by
    intro n h _
    obtain rfl | rfl := hnamed n h <;> decide +kernel
  have hlaw := hub_inStep "spoke" .forget events readyWorld readyHub.isPlain
    readyHub.templatesReady hnames hsize
    fun n h key hkey => readyHub.get?_of_mem_clusterKeys (hnames n h).1 (hnames n h).2 hkey
  -- for any `i`, so that no run is worked out
  have hcomplete : ∀ i n, IsNamedIn events n →
      startsWith n "spoke" = true ∧ Live .forget n (events.take i) → (hubAt i).Complete n :=
    fun i n hn hwanted => ((hlaw i n hn).resolve_right fun h => h.1 hwanted).2
  have hclear : ∀ i n, IsNamedIn events n →
      ¬(startsWith n "spoke" = true ∧ Live .forget n (events.take i)) → (hubAt i).Clear n :=
    fun i n hn hunwanted => ((hlaw i n hn).resolve_left fun h => hunwanted h.1).2
  have hspoke : IsNamedIn events "spoke-1" := .inl List.mem_cons_self
  have hother : IsNamedIn events "other-2" := .inl (List.mem_cons_of_mem _ List.mem_cons_self)
  have hlive : HeldSince (.added "spoke-1") (.deleted "spoke-1") (events.take 2) := by
    decide +kernel
  have hgone : ¬HeldSince (.added "spoke-1") (.deleted "spoke-1") (events.take 3) := by
    decide +kernel
  have hscope : startsWith "spoke-1" "spoke" = true := by decide +kernel
  have hpasses : ¬startsWith "other-2" "spoke" = true := by decide +kernel
  exact ⟨hcomplete 2 _ hspoke ⟨hscope, hlive⟩, hclear 3 _ hspoke fun h => hgone h.2,
    hclear 3 _ hother fun h => hpasses h.1⟩

/-- Clusters that are not addressable fall out of step: one with a name of 65504 letters is live
after it has come, and none of its objects can be created. -/
theorem not_hub_inStep_of_any_length :
    ¬∀ (scope : String) (policy : SeenPolicy) (events : List ClusterEvent) (w : World),
      w.hub.isPlain = true → w.hub.TemplatesReady →
      (∀ n, IsNamedIn events n → IsClusterName n ∧ n ≠ addonNamespace) →
      (∀ n, IsNamedIn events n → ∀ key ∈ sixKeys n, w.hub.objects.get? key = none) →
      ∀ (i : Nat) (n : String), IsNamedIn events n →
      let h := (Reconciler.handleAll Handler.simulator { scope, policy } (events.take i) w).2.hub
      let wanted := startsWith n scope = true ∧ Live policy n (events.take i)
      (wanted ∧ ∀ key ∈ sixKeys n, h.objects.contains key = true) ∨
        (¬wanted ∧ ∀ key ∈ sixKeys n, h.objects.contains key = false) := by
  intro hlaw
  generalize hlong : longName 65504 = long at hlaw
  have hsize : long.utf8ByteSize = 65504 := by rw [← hlong, utf8ByteSize_longName]
  have hn : IsClusterName long := hlong ▸ isClusterName_longName (by decide)
  have hne : long ≠ addonNamespace := hlong ▸ longName_ne_addonNamespace 65504
  have hnamed : ∀ n, IsNamedIn [.added long] n → n = long := by simp [IsNamedIn]
  have habsent : ∀ key ∈ clusterKeys long, readyHub.objects.get? key = none :=
    fun _ => readyHub.get?_of_mem_clusterKeys hn hne
  have hscope : startsWith long "" = true := rfl
  have hfalls := hlaw "" .forget [.added long] readyWorld rfl readyHub.templatesReady
    (fun n h => by rw [hnamed n h]; exact ⟨hn, hne⟩)
    (fun n h => by rw [hnamed n h]; exact habsent) 1 long (.inl List.mem_cons_self)
  obtain ⟨-, hcomplete⟩ | ⟨hwanted, -⟩ := hfalls
  · have htooLong : Target.longest < (Kind.configMap.collection long ++ "?").utf8ByteSize := by
      rw [String.utf8ByteSize_append, utf8ByteSize_configMaps, hsize]
      decide
    have hcall : Reconciler.call? { scope := "", policy := .forget } (.added long)
        = some (.provision long) := by
      rw [Reconciler.call?]
      exact if_pos ⟨List.not_mem_nil, hscope⟩
    have hsame : (Reconciler.handle Handler.simulator { scope := "", policy := .forget }
        (.added long) readyWorld).2.hub = readyHub := by
      have hplain : (Reconciler.herald (.added long) readyWorld).2.hub.isPlain = true := by
        rw [hub_herald]; rfl
      rw [hub_handle_of_provision hcall, provision_tooLong htooLong hplain, hub_herald]
      rfl
    have hkey := ProvisionStep.caBundle.key_mem long
    have hcontains := hcomplete _ hkey
    rw [List.take_of_length_le (by simp), handleAll_singleton_snd, hsame, KeyMap.contains,
      habsent _ hkey] at hcontains
    cases hcontains
  · exact absurd ⟨hscope, [], [], rfl, List.not_mem_nil⟩ hwanted

end SpokeSim
