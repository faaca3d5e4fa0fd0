import SpokeSim.Proofs.Lifecycle
import SpokeSim.Proofs.Plans

/-!
# Clusters do not interfere

A run does for each cluster what it would do at the events of that cluster alone.

**Reports.**  `Handler.reporting` is the simulator, with what comes of its calls written down.

**One event.**  At an event of a cluster, a reconciler that knows of the cluster and a hub that has
its objects behave like others that are alike for this cluster (`Hub.Alike.handle`).  At any other
event they stay alike for it, as what happens is confined to parts of other clusters
(`Hub.Alike.handle_other`).

**A run.**  So a run and the run at the cluster's own events have the same reports of it, and end
alike for it (`Hub.Alike.handleAll`).  Two histories with the same events for each cluster are thus
the same for all of them, however they are interleaved (`clusters_independent`).
-/

namespace SpokeSim

variable {n : String} {r r' : Reconciler} {e : ClusterEvent} {es : List ClusterEvent}
  {w w' : World}

/-! ## Reports -/

/-- What has come of a call to the simulator. -/
inductive Report where
  | provisioned (cluster : String) (result : Except SimError Unit)
  | reaped (cluster : String) (count : Nat)

/-- The cluster of a report. -/
def Report.cluster : Report → String
  | provisioned cluster _ | reaped cluster _ => cluster

namespace HandlerCall

/-- The cluster of a call. -/
def cluster : HandlerCall → String
  | provision cluster | reap cluster => cluster

/-- What comes of a call at a world. -/
def report : HandlerCall → World → Report
  | provision cluster, w => .provisioned cluster (SpokeSim.provision cluster w).1
  | reap cluster, w => .reaped cluster (SpokeSim.reap cluster w).1

lemma cluster_report (call : HandlerCall) (w : World) : (call.report w).cluster = call.cluster := by
  cases call <;> rfl

end HandlerCall

/-- The handler of two actions, with the reports of its calls written down in their order. -/
def Handler.reportingOf {σ : Type} (provision : String → StateM σ (Except SimError Unit))
    (reap : String → StateM σ Nat) : Handler (σ × List Report) where
  provision cluster := do
    let result ← onFirst (provision cluster)
    modify fun s => (s.1, s.2 ++ [.provisioned cluster result])
    return result
  reap cluster := do
    let count ← onFirst (reap cluster)
    modify fun s => (s.1, s.2 ++ [.reaped cluster count])

/-- The simulator, with reports. -/
def Handler.reporting : Handler (World × List Report) :=
  reportingOf SpokeSim.provision SpokeSim.reap

lemma notes_reporting :
    Reconciler.Notes Handler.simulator HandlerCall.report Handler.reporting := by
  intro call w reports
  cases call with
  | provision cluster =>
    rw [Reconciler.perform, Reconciler.perform, HandlerCall.report, Handler.reporting,
      Handler.simulator]
    generalize SpokeSim.provision = provision
    generalize SpokeSim.reap = reap
    have hprovision : (Handler.reportingOf provision reap).provision cluster (w, reports) =
        ((provision cluster w).1,
          ((provision cluster w).2, reports ++ [.provisioned cluster (provision cluster w).1])) :=
      rfl
    rw [bind_apply, bind_apply, hprovision]
    cases (provision cluster w).1 <;> rfl
  | reap cluster =>
    rw [Reconciler.perform, Reconciler.perform, HandlerCall.report, Handler.reporting,
      Handler.simulator]
    generalize SpokeSim.provision = provision
    generalize SpokeSim.reap = reap
    rfl

/-! ## One event -/

/-- Whether an event names a cluster. -/
def ClusterEvent.names (n : String) : ClusterEvent → Bool
  | added cluster | deleted cluster => cluster = n
  | other => false

lemma names_unique {m : String} (hm : e.names m = true) (hn : e.names n = true) : m = n := by
  cases e with
  | added cluster | deleted cluster =>
    exact (of_decide_eq_true hm).symm.trans (of_decide_eq_true hn)
  | other => cases hm

lemma names_of_call? {call : HandlerCall} (hcall : r.call? e = some call) :
    e.names call.cluster = true := by
  cases call with
  | provision cluster =>
    rw [(Reconciler.call?_eq_provision_iff.1 hcall).1]
    exact decide_eq_true rfl
  | reap cluster =>
    rw [(Reconciler.call?_eq_reap_iff.1 hcall).1]
    exact decide_eq_true rfl

lemma names_cluster_of_note? {report : Report}
    (hreport : Reconciler.note? HandlerCall.report r e w = some report) :
    e.names report.cluster = true := by
  obtain ⟨call, hcall, rfl⟩ := Option.map_eq_some_iff.1 hreport
  rw [HandlerCall.cluster_report]
  exact names_of_call? hcall

/-- The clusters of a history are those that its events name. -/
lemma isNamedIn_cons_iff : IsNamedIn (e :: es) n ↔ e.names n = true ∨ IsNamedIn es n := by
  cases e with
  | added cluster => simp [IsNamedIn, ClusterEvent.names, eq_comm, or_assoc]
  | deleted cluster => simp [IsNamedIn, ClusterEvent.names, eq_comm, or_left_comm]
  | other => simp [IsNamedIn, ClusterEvent.names]

lemma isNamedIn_head (he : e.names n = true) : IsNamedIn (e :: es) n :=
  isNamedIn_cons_iff.2 (.inl he)

lemma isNamedIn_tail (hn : IsNamedIn es n) : IsNamedIn (e :: es) n := isNamedIn_cons_iff.2 (.inr hn)

lemma isNamedIn_concat_iff : IsNamedIn (es ++ [e]) n ↔ IsNamedIn es n ∨ e.names n = true := by
  have hlast : IsNamedIn [e] n ↔ e.names n = true := by
    rw [isNamedIn_cons_iff]
    simp [IsNamedIn]
  rw [← hlast]
  simp only [IsNamedIn, List.mem_append]
  tauto

lemma isNamedIn_iff_filter : IsNamedIn es n ↔ es.filter (·.names n) ≠ [] := by
  induction es with
  | nil => simp [IsNamedIn]
  | cons e es ih =>
    rw [isNamedIn_cons_iff, ih]
    by_cases he : e.names n = true
    · rw [List.filter_cons_of_pos he]
      simp [he]
    · rw [List.filter_cons_of_neg he]
      simp [he]

/-- Reports are about clusters of the history. -/
lemma isNamedIn_of_mem_notes {report : Report}
    (hreport : report ∈ Reconciler.notesOver Handler.simulator HandlerCall.report r es w) :
    IsNamedIn es report.cluster := by
  induction es generalizing r w with
  | nil => cases hreport
  | cons e es ih =>
    rw [Reconciler.notesOver, List.mem_append, Option.mem_toList] at hreport
    exact isNamedIn_cons_iff.2 (hreport.imp names_cluster_of_note? ih)

/-! ### Reconcilers -/

/-- For a cluster, two reconcilers are alike. -/
structure Reconciler.Alike (n : String) (r r' : Reconciler) : Prop where
  scope_eq : r'.scope = r.scope
  policy_eq : r'.policy = r.policy
  seen_iff : n ∈ r'.seen ↔ n ∈ r.seen

namespace Reconciler.Alike

protected lemma refl (n : String) (r : Reconciler) : r.Alike n r := ⟨rfl, rfl, .rfl⟩

lemma call?_eq (hr : r.Alike n r') (he : e.names n = true) : r'.call? e = r.call? e := by
  cases e with
  | added cluster =>
    obtain rfl : cluster = n := of_decide_eq_true he
    refine if_congr ?_ rfl rfl
    rw [covers, covers, hr.scope_eq, hr.seen_iff]
  | deleted cluster =>
    refine if_congr ?_ rfl rfl
    rw [covers, covers, hr.scope_eq]
  | other => rfl

lemma next (hr : r.Alike n r') (he : e.names n = true) : (r.next e).Alike n (r'.next e) where
  scope_eq := by rw [scope_next, scope_next, hr.scope_eq]
  policy_eq := by rw [policy_next, policy_next, hr.policy_eq]
  seen_iff := by
    rw [mem_seen_next_iff, mem_seen_next_iff, hr.call?_eq he, hr.seen_iff, hr.policy_eq]

lemma next_other (hr : r.Alike n r') (he : e.names n = false) : (r.next e).Alike n r' where
  scope_eq := by rw [scope_next, hr.scope_eq]
  policy_eq := by rw [policy_next, hr.policy_eq]
  seen_iff := by
    have hcall : ∀ call, r.call? e = some call → call.cluster ≠ n := by
      rintro call hcall rfl
      rw [names_of_call? hcall] at he
      cases he
    have hprovision : r.call? e ≠ some (.provision n) := fun h => hcall _ h rfl
    have hreap : r.call? e ≠ some (.reap n) := fun h => hcall _ h rfl
    rw [mem_seen_next_iff, hr.seen_iff]
    tauto

/-- A reconciler knows of a cluster what it has been told of it. -/
lemma foldl (hr : r.Alike n r') (es : List ClusterEvent) :
    (es.foldl Reconciler.next r).Alike n ((es.filter (·.names n)).foldl Reconciler.next r') := by
  induction es generalizing r r' with
  | nil => exact hr
  | cons e es ih =>
    by_cases he : e.names n = true
    · rw [List.filter_cons_of_pos he]
      exact ih (hr.next he)
    · rw [List.filter_cons_of_neg he]
      exact ih (hr.next_other (Bool.eq_false_iff.2 he))

end Reconciler.Alike

/-! ### Hubs -/

/-- What is done at a call is confined to its cluster. -/
lemma confined_handle_of_some {call : HandlerCall} (hcall : r.call? e = some call)
    (hn : IsClusterName call.cluster) (hne : call.cluster ≠ addonNamespace)
    (hplain : w.hub.isPlain = true) :
    Hub.Confined call.cluster w.hub (r.handle Handler.simulator e w).2.hub := by
  rw [← hub_herald e w] at hplain ⊢
  cases call with
  | provision cluster =>
    rw [hub_handle_of_provision hcall]
    show Hub.Confined cluster _ _
    exact confined_provision hn hne hplain
  | reap cluster =>
    rw [hub_handle_of_reap hcall]
    show Hub.Confined cluster _ _
    exact confined_reap hn hplain

/-- So what is done at an event is confined to the cluster that it names. -/
lemma confined_handle (hnames : ∀ m, e.names m = true → IsClusterName m ∧ m ≠ addonNamespace)
    (hplain : w.hub.isPlain = true) :
    (r.handle Handler.simulator e w).2.hub = w.hub ∨
      ∃ m, e.names m = true ∧ Hub.Confined m w.hub (r.handle Handler.simulator e w).2.hub := by
  cases hcall : r.call? e with
  | none => exact .inl (hub_handle_of_none hcall w)
  | some call =>
    have hm := names_of_call? hcall
    exact .inr ⟨_, hm, confined_handle_of_some hcall (hnames _ hm).1 (hnames _ hm).2 hplain⟩

lemma isPlain_handle (hnames : ∀ m, e.names m = true → IsClusterName m ∧ m ≠ addonNamespace)
    (hplain : w.hub.isPlain = true) : (r.handle Handler.simulator e w).2.hub.isPlain = true := by
  obtain hsame | ⟨m, -, hconfined⟩ := confined_handle (r := r) hnames hplain
  · rwa [hsame]
  · exact hconfined.plain.trans hplain

/-- For a cluster, two plain hubs are alike: they have the same templates, and the same in its part
up to identifiers. -/
structure Hub.Alike (n : String) (h h' : Hub) : Prop where
  plain : h.isPlain = true
  plain' : h'.isPlain = true
  templates : h.SameTemplates h'
  part : ∀ key, Owns n key → SameUpToId (h'.objects.get? key) (h.objects.get? key)

namespace Hub.Alike

variable {h h' : Hub}

protected lemma refl (n : String) (hplain : h.isPlain = true) : h.Alike n h :=
  ⟨hplain, hplain, fun _ _ => rfl, fun _ _ => .refl _⟩

/-- Provisioning the cluster has the same result and leaves the hubs alike. -/
lemma provision (halike : w.hub.Alike n w'.hub) (hn : IsClusterName n) (hne : n ≠ addonNamespace) :
    (SpokeSim.provision n w').1 = (SpokeSim.provision n w).1 ∧
      (SpokeSim.provision n w).2.hub.Alike n (SpokeSim.provision n w').2.hub := by
  have hconfined := confined_provision hn hne halike.plain
  have hconfined' := confined_provision hn hne halike.plain'
  refine ⟨?_, hconfined.plain.trans halike.plain, hconfined'.plain.trans halike.plain', ?_, ?_⟩
  · rw [(provision_eq_plan hn hne halike.plain).1, (provision_eq_plan hn hne halike.plain').1]
    exact (halike.templates.plan n _ _ ProvisionStep.all).1
  · intro o ho
    rw [hconfined'.sameTemplates hn hne o ho, hconfined.sameTemplates hn hne o ho]
    exact halike.templates o ho
  · intro key hkey
    rw [get?_provision hn hne halike.plain, get?_provision hn hne halike.plain']
    exact (halike.part key hkey).or (halike.templates.making n _ _ key)

/-- So does reaping it. -/
lemma reap (halike : w.hub.Alike n w'.hub) (hn : IsClusterName n) (hne : n ≠ addonNamespace) :
    (SpokeSim.reap n w').1 = (SpokeSim.reap n w).1 ∧
      (SpokeSim.reap n w).2.hub.Alike n (SpokeSim.reap n w').2.hub := by
  have hconfined := confined_reap hn halike.plain
  have hconfined' := confined_reap hn halike.plain'
  refine ⟨?_, hconfined.plain.trans halike.plain, hconfined'.plain.trans halike.plain', ?_, ?_⟩
  · rw [(reap_removes hn halike.plain).1, (reap_removes hn halike.plain').1]
    refine List.countP_congr fun key hkey => ?_
    have hsame := (halike.part key (owns_of_mem_removableKeys hkey)).isSome_eq
    rw [KeyMap.contains, KeyMap.contains, hsame]
  · intro o ho
    rw [hconfined'.sameTemplates hn hne o ho, hconfined.sameTemplates hn hne o ho]
    exact halike.templates o ho
  · intro key hkey
    rw [get?_reap hn halike.plain, get?_reap hn halike.plain']
    split
    case isTrue => exact .refl none
    case isFalse => exact halike.part key hkey

/-- **At an event of the cluster**, alike reconcilers have the same report, and leave alike hubs
alike. -/
lemma handle (halike : w.hub.Alike n w'.hub) (hr : r.Alike n r') (hn : IsClusterName n)
    (hne : n ≠ addonNamespace) (he : e.names n = true) :
    Reconciler.note? HandlerCall.report r' e w' = Reconciler.note? HandlerCall.report r e w ∧
      (r.handle Handler.simulator e w).2.hub.Alike n (r'.handle Handler.simulator e w').2.hub := by
  rw [Reconciler.note?, Reconciler.note?, hr.call?_eq he]
  cases hcall : r.call? e with
  | none =>
    rw [hub_handle_of_none hcall, hub_handle_of_none ((hr.call?_eq he).trans hcall)]
    exact ⟨rfl, halike⟩
  | some call =>
    have hcluster : call.cluster = n := names_unique (names_of_call? hcall) he
    rw [← hub_herald e w, ← hub_herald e w'] at halike
    cases call with
    | provision cluster =>
      obtain rfl : cluster = n := hcluster
      obtain ⟨hresult, hhub⟩ := halike.provision hn hne
      rw [hub_handle_of_provision hcall, hub_handle_of_provision ((hr.call?_eq he).trans hcall)]
      exact ⟨congrArg (some <| Report.provisioned cluster ·) hresult, hhub⟩
    | reap cluster =>
      obtain rfl : cluster = n := hcluster
      obtain ⟨hcount, hhub⟩ := halike.reap hn hne
      rw [hub_handle_of_reap hcall, hub_handle_of_reap ((hr.call?_eq he).trans hcall)]
      exact ⟨congrArg (some <| Report.reaped cluster ·) hcount, hhub⟩

/-- What is confined to another cluster leaves hubs alike. -/
lemma of_confined {h₁ : Hub} {m : String} (halike : h.Alike n h') (hn : IsClusterName n)
    (hm : IsClusterName m) (hne : m ≠ addonNamespace) (hmn : m ≠ n) (hconfined : Confined m h h₁) :
    h₁.Alike n h' where
  plain := hconfined.plain.trans halike.plain
  plain' := halike.plain'
  templates o ho := by
    rw [hconfined.sameTemplates hm hne o ho]
    exact halike.templates o ho
  part key hkey := by
    rw [hconfined.rest key fun hkey' => hmn (hkey'.unique hm.slash_notMem hn.slash_notMem hkey)]
    exact halike.part key hkey

/-- **At an event of another cluster**, or of none, hubs stay alike. -/
lemma handle_other (halike : w.hub.Alike n w'.hub) (hn : IsClusterName n)
    (hnames : ∀ m, e.names m = true → IsClusterName m ∧ m ≠ addonNamespace)
    (he : e.names n = false) :
    (r.handle Handler.simulator e w).2.hub.Alike n w'.hub := by
  obtain hsame | ⟨m, hm, hconfined⟩ := confined_handle (r := r) hnames halike.plain
  · rwa [hsame]
  · have hmn : m ≠ n := by
      rintro rfl
      rw [hm] at he; cases he
    exact halike.of_confined hn (hnames m hm).1 (hnames m hm).2 hmn hconfined

/-! ## A run -/

/-- **A run does for a cluster what it would do at the cluster's own events.** -/
lemma handleAll (halike : w.hub.Alike n w'.hub) (hr : r.Alike n r') (hn : IsClusterName n)
    (hne : n ≠ addonNamespace) (es : List ClusterEvent)
    (hnames : ∀ m, IsNamedIn es m → IsClusterName m ∧ m ≠ addonNamespace) :
    Reconciler.notesOver Handler.simulator HandlerCall.report r' (es.filter (·.names n)) w'
        = (Reconciler.notesOver Handler.simulator HandlerCall.report r es w).filter
            (·.cluster = n) ∧
      (r.handleAll Handler.simulator es w).2.hub.Alike n
        (r'.handleAll Handler.simulator (es.filter (·.names n)) w').2.hub := by
  induction es generalizing r r' w w' with
  | nil => exact ⟨rfl, halike⟩
  | cons e es ih =>
    have hfirst : ∀ m, e.names m = true → IsClusterName m ∧ m ≠ addonNamespace :=
      fun m hm => hnames m (isNamedIn_head hm)
    have hrest : ∀ m, IsNamedIn es m → IsClusterName m ∧ m ≠ addonNamespace :=
      fun m hm => hnames m (isNamedIn_tail hm)
    by_cases he : e.names n = true
    · obtain ⟨hreport, hstep⟩ := halike.handle hr hn hne he
      obtain ⟨hreports, hend⟩ := ih hstep (hr.next he) hrest
      have hkeeps : (Reconciler.note? HandlerCall.report r e w).toList.filter
            (fun report => report.cluster = n)
          = (Reconciler.note? HandlerCall.report r e w).toList := by
        refine List.filter_eq_self.2 fun report hmem => ?_
        exact decide_eq_true (names_unique (names_cluster_of_note? (Option.mem_toList.1 hmem)) he)
      rw [List.filter_cons_of_pos he, Reconciler.notesOver, Reconciler.notesOver, hreport, hreports,
        List.filter_append, hkeeps]
      rw [Reconciler.handleAll, Reconciler.handleAll, bind_apply, bind_apply, Reconciler.handle_fst,
        Reconciler.handle_fst]
      exact ⟨rfl, hend⟩
    · have hother := Bool.eq_false_iff.2 he
      have hstep : (r.handle Handler.simulator e w).2.hub.Alike n w'.hub :=
        halike.handle_other hn hfirst hother
      obtain ⟨hreports, hend⟩ := ih hstep (hr.next_other hother) hrest
      have hdrops : (Reconciler.note? HandlerCall.report r e w).toList.filter
          (fun report => report.cluster = n) = [] := by
        refine List.filter_eq_nil_iff.2 fun report hmem hcluster => he ?_
        rw [← of_decide_eq_true hcluster]
        exact names_cluster_of_note? (Option.mem_toList.1 hmem)
      rw [List.filter_cons_of_neg he, Reconciler.notesOver, hreports, List.filter_append, hdrops]
      rw [Reconciler.handleAll, bind_apply, Reconciler.handle_fst]
      exact ⟨rfl, hend⟩

end Hub.Alike

/-- Elsewhere a run changes nothing. -/
lemma rest_handleAll (es : List ClusterEvent)
    (hnames : ∀ m, IsNamedIn es m → IsClusterName m ∧ m ≠ addonNamespace)
    (hplain : w.hub.isPlain = true) :
    (r.handleAll Handler.simulator es w).2.hub.isPlain = true ∧
      ∀ key, (∀ m, IsNamedIn es m → ¬Owns m key) →
        (r.handleAll Handler.simulator es w).2.hub.objects.get? key = w.hub.objects.get? key := by
  induction es generalizing r w with
  | nil => exact ⟨hplain, fun _ _ => rfl⟩
  | cons e es ih =>
    have hfirst : ∀ m, e.names m = true → IsClusterName m ∧ m ≠ addonNamespace :=
      fun m hm => hnames m (isNamedIn_head hm)
    rw [Reconciler.handleAll, bind_apply]
    obtain ⟨hplain', hkeys⟩ := ih (fun m hm => hnames m (isNamedIn_tail hm))
      (isPlain_handle (r := r) hfirst hplain)
    refine ⟨hplain', fun key hkey => ?_⟩
    rw [hkeys key fun m hm => hkey m (isNamedIn_tail hm)]
    obtain hsame | ⟨m, hm, hconfined⟩ := confined_handle (r := r) hfirst hplain
    · rw [hsame]
    · exact hconfined.rest key (hkey m (isNamedIn_head hm))

/-! ## Histories -/

lemma heard_map_ok (es : List ClusterEvent) : Reconciler.heard (es.map .ok) = es := by
  induction es with
  | nil => rfl
  | cons e es ih => exact congrArg (e :: ·) ih

/-- The end of a watch changes nothing on the hub. -/
lemma hub_run (r : Reconciler) (events : List (Except String ClusterEvent)) (w : World) :
    (r.run Handler.simulator events w).2.hub
      = (r.handleAll Handler.simulator (Reconciler.heard events) (r.announce w).2).2.hub := by
  rw [Reconciler.run, bind_apply, Reconciler.consume_eq]
  cases Reconciler.firstError? events <;> rfl

lemma rest_run (r : Reconciler)
    (hnames : ∀ m, IsNamedIn es m → IsClusterName m ∧ m ≠ addonNamespace)
    (hplain : w.hub.isPlain = true) :
    (r.run Handler.simulator (es.map .ok) w).2.hub.isPlain = true ∧
      ∀ key, (∀ m, IsNamedIn es m → ¬Owns m key) →
        (r.run Handler.simulator (es.map .ok) w).2.hub.objects.get? key
          = w.hub.objects.get? key := by
  have hannounced : (r.announce w).2.hub.isPlain = true := hplain
  rw [hub_run, heard_map_ok]
  exact rest_handleAll es hnames hannounced

/-- A watch, too, does for a cluster what would be done at the cluster's own events. -/
lemma run_alike (r : Reconciler)
    (hnames : ∀ m, IsNamedIn es m → IsClusterName m ∧ m ≠ addonNamespace) (hn : IsNamedIn es n)
    (hplain : w.hub.isPlain = true) (hhub : w'.hub = w.hub) :
    Reconciler.notesOver Handler.simulator HandlerCall.report r (es.filter (·.names n)) w
        = (Reconciler.notesOver Handler.simulator HandlerCall.report r es (r.announce w').2).filter
            (·.cluster = n) ∧
      (r.run Handler.simulator (es.map .ok) w').2.hub.Alike n
        (r.handleAll Handler.simulator (es.filter (·.names n)) w).2.hub := by
  have hstart : (r.announce w').2.hub.Alike n w.hub := by
    have hsame : (r.announce w').2.hub = w.hub := hhub
    rw [hsame]
    exact .refl n hplain
  rw [hub_run, heard_map_ok]
  exact hstart.handleAll (.refl n r) (hnames n hn).1 (hnames n hn).2 es hnames

lemma run_reporting (r : Reconciler) (es : List ClusterEvent) (w : World) :
    r.run Handler.reporting (es.map .ok) (w, []) =
      ((r.run Handler.simulator (es.map .ok) w).1, ((r.run Handler.simulator (es.map .ok) w).2,
        Reconciler.notesOver Handler.simulator HandlerCall.report r es (r.announce w).2)) := by
  rw [notes_reporting.run, heard_map_ok, List.nil_append]

/-- **Clusters do not interfere.**  Take any plain hub, whatever its templates, and two histories
that have the same events for each cluster, however these are interleaved.  Then the same is called
for each cluster, in the same order and with the same results; the same clusters are seen in the
end; and the hub keeps the same objects, up to identifiers.  To report changes nothing else. -/
theorem clusters_independent (scope : String) (policy : SeenPolicy) (es es' : List ClusterEvent)
    (hnames : ∀ n, IsNamedIn es n → IsClusterName n ∧ n ≠ addonNamespace)
    (hsame : ∀ n, es'.filter (·.names n) = es.filter (·.names n)) (w w' : World)
    (hplain : w.hub.isPlain = true) (hhub : w'.hub = w.hub) :
    let r : Reconciler := { scope, policy }
    let out := r.run Handler.reporting (es.map .ok) (w, [])
    let out' := r.run Handler.reporting (es'.map .ok) (w', [])
    (∀ n, out.2.2.filter (·.cluster = n) = out'.2.2.filter (·.cluster = n)) ∧
    (∀ n, n ∈ out.1.2.seen ↔ n ∈ out'.1.2.seen) ∧
    out.2.1.hub.SameUpToIds out'.2.1.hub ∧
    r.run Handler.simulator (es.map .ok) w = (out.1, out.2.1) := by
  intro r out out'
  have hnamed : ∀ n, IsNamedIn es' n ↔ IsNamedIn es n := by
    intro n
    rw [isNamedIn_iff_filter, isNamedIn_iff_filter, hsame]
  have hnames' : ∀ n, IsNamedIn es' n → IsClusterName n ∧ n ≠ addonNamespace :=
    fun n hn => hnames n ((hnamed n).1 hn)
  -- both runs are compared with the one at the cluster's own events
  have halone : ∀ n, IsNamedIn es n → _ := fun n hn => run_alike r hnames hn hplain rfl
  have halone' : ∀ n, IsNamedIn es n → _ := fun n hn =>
    run_alike r hnames' ((hnamed n).2 hn) hplain hhub
  simp only [out, out', run_reporting]
  refine ⟨fun n => ?_, fun n => ?_, fun key => ?_, rfl⟩
  · by_cases hn : IsNamedIn es n
    · rw [← (halone n hn).1, ← (halone' n hn).1, hsame]
    · rw [List.filter_eq_nil_iff.2, List.filter_eq_nil_iff.2]
      · intro report hreport hcluster
        rw [← of_decide_eq_true hcluster, ← hnamed] at hn
        exact hn (isNamedIn_of_mem_notes hreport)
      · intro report hreport hcluster
        rw [← of_decide_eq_true hcluster] at hn
        exact hn (isNamedIn_of_mem_notes hreport)
  · rw [Reconciler.run_snd, Reconciler.run_snd, heard_map_ok, heard_map_ok]
    have hseen := ((Reconciler.Alike.refl n r).foldl es).seen_iff
    have hseen' := ((Reconciler.Alike.refl n r).foldl es').seen_iff
    rw [hsame] at hseen'
    exact hseen.symm.trans hseen'
  · by_cases hkey : ∃ n, IsNamedIn es n ∧ Owns n key
    · obtain ⟨n, hn, howns⟩ := hkey
      have hpart := (halone n hn).2.part key howns
      have hpart' := (halone' n hn).2.part key howns
      rw [hsame] at hpart'
      exact hpart.symm.trans hpart'
    · simp only [not_exists, not_and] at hkey
      have hkey' : ∀ n, IsNamedIn es' n → ¬Owns n key := fun n hn => hkey n ((hnamed n).1 hn)
      rw [(rest_run r hnames hplain).2 key hkey, (rest_run r hnames' (hhub ▸ hplain)).2 key hkey',
        hhub]
      exact .refl _

/-- So it is with two clusters whose events come one after the other, or in turn. -/
theorem clusters_independent_spokes :
    let r : Reconciler := { scope := "spoke", policy := .forget }
    let out := r.run Handler.reporting
      ([.added "spoke-1", .deleted "spoke-1", .added "spoke-2"].map .ok) (readyWorld, [])
    let out' := r.run Handler.reporting
      ([.added "spoke-1", .added "spoke-2", .deleted "spoke-1"].map .ok) (readyWorld, [])
    (∀ n, out.2.2.filter (·.cluster = n) = out'.2.2.filter (·.cluster = n)) ∧
    (∀ n, n ∈ out.1.2.seen ↔ n ∈ out'.1.2.seen) ∧ out.2.1.hub.SameUpToIds out'.2.1.hub := by
  have hnames : ∀ n, IsNamedIn [.added "spoke-1", .deleted "spoke-1", .added "spoke-2"] n →
      IsClusterName n ∧ n ≠ addonNamespace := by
    intro n h
    obtain rfl | rfl : n = "spoke-1" ∨ n = "spoke-2" := by
      simp [IsNamedIn] at h
      tauto
    all_goals exact ⟨by decide +kernel, by decide +kernel⟩
  have hsame : ∀ n,
      [.added "spoke-1", .added "spoke-2", .deleted "spoke-1"].filter (ClusterEvent.names n)
        = [.added "spoke-1", .deleted "spoke-1", .added "spoke-2"].filter
            (ClusterEvent.names n) := by
    intro n
    by_cases h₁ : "spoke-1" = n
    · subst h₁; decide
    · by_cases h₂ : "spoke-2" = n
      · subst h₂; decide
      · simp [ClusterEvent.names, h₁, h₂]
  obtain ⟨hreports, hseen, hhubs, -⟩ := clusters_independent "spoke" .forget _ _ hnames hsame
    readyWorld readyWorld readyHub.isPlain rfl
  exact ⟨hreports, hseen, hhubs⟩

end SpokeSim
