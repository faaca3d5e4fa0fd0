import SpokeSim.Proofs.Writes
import SpokeSim.Session

/-!
# Where the objects of a hub come from

At a plain hub, whatever the simulator does in a session, an object is what it was, or has been made
for the cluster under whose key it is.

**One action.**  From one world to another each key has one of three fates (`World.Evolves`): it is
kept, with nobody asking for its removal, or it is a key of a cluster for which something is done,
and then there is nothing under it, or what is made for the cluster from the templates as they are.
A provisioning has the first and the third fate (`World.Evolves.of_provision`), a removal the first
two (`World.Evolves.of_without`).

**A session.**  The templates are under no cluster's key, so what has been made once is still what
would be made: fates can be told one after the other (`World.Evolves.trans`).  Nor is the list of
clusters, so that the clusters for which something is done are known from the beginning
(`Operation.names_congr`).  Thus any sequence of operations has fates of the same kind
(`session_provenance`).
-/

namespace SpokeSim

variable {n : String} {w w' w'' : World} {key : String} {h h' : Hub}

/-! ## What is made for a cluster -/

/-- A document is what is made for a cluster under a key: what a step of its provisioning makes from
the templates, under some identifier. -/
def Hub.MadeFor (h : Hub) (n key : String) (j : Json) : Prop :=
  ∃ (s : ProvisionStep) (id : ClusterId) (o : s.kind.Object),
    s.key n = key ∧ (s.source n id).made? h = some o ∧ j = s.kind.codec.encode o

lemma Hub.MadeFor.mem_clusterKeys {j : Json} (hmade : h.MadeFor n key j) : key ∈ clusterKeys n := by
  obtain ⟨s, id, o, rfl, -⟩ := hmade
  exact s.key_mem n

lemma Hub.MadeFor.congr {j : Json} (hmade : h.MadeFor n key j) (hsame : h.SameTemplates h') :
    h'.MadeFor n key j := by
  obtain ⟨s, id, o, hkey, ho, hj⟩ := hmade
  refine ⟨s, id, o, hkey, ?_, hj⟩
  rw [← ho]
  exact ProvisionStep.made?_congr fun hs =>
    hsame _ (ProvisionStep.target_mem_templateObjects n hs)

/-- A step adds what is made for its cluster, if templates bear their names. -/
lemma ProvisionStep.madeFor_of_addition? {s : ProvisionStep} {id : ClusterId} {j : Json}
    (hn : IsClusterName n) (hplain : h.isPlain = true) (hnamed : h.TemplatesNamed)
    (hentry : s.addition? n id h = some (key, j)) : h.MadeFor n key j := by
  simp only [addition?, place?, Option.bind_eq_some_iff, Option.map_eq_some_iff] at hentry
  obtain ⟨o, ho, place, ⟨target, htarget, rfl⟩, hentry⟩ := hentry
  obtain ⟨rfl, rfl⟩ := Prod.mk.inj hentry
  refine ⟨s, id, o, ?_, ho, rfl⟩
  obtain hparse | hparse := parse_collection_cases hn s
  · rw [hparse] at htarget
    obtain rfl := Option.some.inj htarget
    rw [← object?_eq_made? hplain] at ho
    rw [name_object? hplain hnamed ho]
    rfl
  · rw [hparse] at htarget; cases htarget

lemma madeFor_of_making {id : ClusterId} {j : Json} (hn : IsClusterName n)
    (hplain : h.isPlain = true) (hnamed : h.TemplatesNamed)
    (hmaking : making n id h key = some j) : h.MadeFor n key j := by
  obtain ⟨before, after, hplan, -⟩ := List.lookup_eq_some_iff.1 hmaking
  have hmem : (key, j) ∈ ProvisionStep.plan n id h ProvisionStep.all := by simp [hplan]
  obtain ⟨s, hentry⟩ := ProvisionStep.exists_addition?_of_mem_plan hmem
  exact ProvisionStep.madeFor_of_addition? hn hplain hnamed hentry

/-! ## Fates -/

/-- Clusters for which something may be done: their names are names, and not the name of the
add-on's namespace. -/
def Proper (named : String → Prop) : Prop := ∀ n, named n → IsClusterName n ∧ n ≠ addonNamespace

/-- From one world to another a key is kept: there is the same under it, and nobody has asked for
its removal. -/
def World.Keeps (w w' : World) (key : String) : Prop :=
  w'.hub.objects.get? key = w.hub.objects.get? key ∧
    ∀ q ∈ w'.requestsSince w, q.method = .delete → q.target.path ≠ key

/-- From one plain hub to another: each key is kept, or it is one of a cluster in question, and
there is nothing under it or what is made for that cluster. -/
structure World.Evolves (named : String → Prop) (w w' : World) : Prop where
  leads : ∃ qs draws, w.Leads qs draws w'
  plain : w'.hub.isPlain = w.hub.isPlain
  fate : ∀ key, w.Keeps w' key ∨ ∃ n, named n ∧ key ∈ clusterKeys n ∧
    ∀ j, w'.hub.objects.get? key = some j → w'.hub.MadeFor n key j

namespace World.Evolves

variable {named : String → Prop} {qs : List Request} {draws : Nat}

lemma elsewhere (hevolves : w.Evolves named w') (hkey : ∀ n, named n → key ∉ clusterKeys n) :
    w.Keeps w' key := by
  obtain hkeeps | ⟨n, hn, hmem, -⟩ := hevolves.fate key
  · exact hkeeps
  · exact absurd hmem (hkey n hn)

lemma sameTemplates (hevolves : w.Evolves named w') (hproper : Proper named) :
    w.hub.SameTemplates w'.hub :=
  fun _ ho => (hevolves.elsewhere fun n hn =>
    templateKey_notMem_clusterKeys (hproper n hn).1 (hproper n hn).2 ho).1

lemma listClusters_eq (hevolves : w.Evolves named w') (hplain : w.hub.isPlain = true) :
    (listClusters w').1 = (listClusters w).1 :=
  listClusters_congr hplain (hevolves.plain.trans hplain) fun _ hkey =>
    (hevolves.elsewhere fun n _ hmem => hkey.not_owns n (owns_of_mem_clusterKeys hmem)).1

lemma keeps_trans (hevolves : w.Evolves named w') (hevolves' : w'.Evolves named w'')
    (hkeeps : w.Keeps w' key) (hkeeps' : w'.Keeps w'' key) : w.Keeps w'' key := by
  obtain ⟨qs, draws, hleads⟩ := hevolves.leads
  obtain ⟨qs', draws', hleads'⟩ := hevolves'.leads
  refine ⟨hkeeps'.1.trans hkeeps.1, fun q hq => ?_⟩
  rw [(hleads.trans hleads').requestsSince_eq, ← hleads.requestsSince_eq,
    ← hleads'.requestsSince_eq] at hq
  exact (List.mem_append.1 hq).elim (hkeeps.2 q) (hkeeps'.2 q)

/-- **Fates are told one after the other.** -/
protected lemma trans (hproper : Proper named) (hevolves : w.Evolves named w')
    (hevolves' : w'.Evolves named w'') : w.Evolves named w'' where
  leads := by
    obtain ⟨qs, draws, hleads⟩ := hevolves.leads
    obtain ⟨qs', draws', hleads'⟩ := hevolves'.leads
    exact ⟨_, _, hleads.trans hleads'⟩
  plain := hevolves'.plain.trans hevolves.plain
  fate key := by
    obtain hkeeps' | hmade' := hevolves'.fate key
    · obtain hkeeps | ⟨n, hn, hmem, hmade⟩ := hevolves.fate key
      · exact .inl (keeps_trans hevolves hevolves' hkeeps hkeeps')
      · -- what has been made is still what would be made
        refine .inr ⟨n, hn, hmem, fun j hj => ?_⟩
        rw [hkeeps'.1] at hj
        exact (hmade j hj).congr (hevolves'.sameTemplates hproper)
    · exact .inr hmade'

lemma keeps_of_leads (hleads : w.Leads qs draws w')
    (hsame : w'.hub.objects.get? key = w.hub.objects.get? key)
    (hqs : ∀ q ∈ qs, q.method = .delete → q.target.path ≠ key) : w.Keeps w' key := by
  refine ⟨hsame, ?_⟩
  rwa [hleads.requestsSince_eq]

lemma of_reads (hplain : w.hub.isPlain = true) (hleads : w.Leads qs draws w')
    (hqs : ∀ q ∈ qs, q.Reads) : w.Evolves named w' := by
  have hhub : w'.hub = w.hub := hleads.hub.trans (Hub.after_of_reads hplain hqs)
  refine ⟨⟨qs, draws, hleads⟩, by rw [hhub], fun key => .inl ?_⟩
  exact keeps_of_leads hleads (by rw [hhub]) fun q hq hdelete =>
    absurd hdelete (hqs q hq).ne_delete

/-- Nothing happens. -/
protected lemma refl (hplain : w.hub.isPlain = true) : w.Evolves named w :=
  of_reads hplain (.refl w) (by simp)

/-- A provisioning keeps what there is, and adds what is made for its cluster. -/
lemma of_provision (w₁ : World) (hn : IsClusterName n) (hne : n ≠ addonNamespace)
    (hplain : w.hub.isPlain = true) (htemplates : w.hub.TemplatesNamed) (hnamed : named n)
    (hw₁ : w₁.hub = w.hub) (hhub : w'.hub = (provision n w₁).2.hub) (hleads : w.Leads qs draws w')
    (hqs : ∀ q ∈ qs, q.Reads ∨ q.StoresFor n) : w.Evolves named w' := by
  rw [← hw₁] at hplain htemplates
  have hconfined := confined_provision hn hne hplain
  have hkeys := get?_provision hn hne hplain
  rw [← hhub] at hconfined hkeys
  have hkept : ∀ key, w'.hub.objects.get? key = w₁.hub.objects.get? key → w.Keeps w' key := by
    intro key hsame
    rw [hw₁] at hsame
    refine keeps_of_leads hleads hsame fun q hq hdelete => ?_
    rcases hqs q hq with hreads | hstores
    · exact absurd hdelete hreads.ne_delete
    · rw [hstores.method_eq] at hdelete
      cases hdelete
  refine ⟨⟨qs, draws, hleads⟩, by rw [hconfined.plain, hw₁], fun key => ?_⟩
  cases hbefore : w₁.hub.objects.get? key with
  | some j => exact .inl (hkept key (by rw [hkeys, hbefore, Option.some_or]))
  | none =>
    cases hmaking : making n (w₁.ids w₁.drawn) w₁.hub key with
    | none => exact .inl (hkept key (by rw [hkeys, hmaking, Option.or_none]))
    | some j =>
      have hmade := madeFor_of_making hn hplain htemplates hmaking
      refine .inr ⟨n, hnamed, hmade.mem_clusterKeys, fun j' hj' => ?_⟩
      rw [hkeys, hbefore, hmaking, Option.none_or] at hj'
      rw [← Option.some.inj hj']
      exact hmade.congr (hconfined.sameTemplates hn hne)

/-- A removal of what there is under some keys, by requests for these, keeps everything else. -/
lemma of_without (keys : List String) (hkeys : ∀ key ∈ keys, ∃ n, named n ∧ key ∈ clusterKeys n)
    (hhub : w'.hub = w.hub.without keys) (hleads : w.Leads qs draws w')
    (hqs : ∀ q ∈ qs, q.method = .delete → q.target.path ∈ keys) : w.Evolves named w' := by
  refine ⟨⟨qs, draws, hleads⟩, by rw [hhub]; rfl, fun key => ?_⟩
  have hget := Hub.get?_without w.hub keys key
  rw [← hhub] at hget
  by_cases hkey : key ∈ keys
  · obtain ⟨n, hn, hmem⟩ := hkeys key hkey
    rw [if_pos hkey] at hget
    exact .inr ⟨n, hn, hmem, fun j hj => by rw [hget] at hj; cases hj⟩
  · rw [if_neg hkey] at hget
    refine .inl (keeps_of_leads hleads hget fun q hq hdelete heq => hkey ?_)
    rw [← heq]
    exact hqs q hq hdelete

lemma of_reap (w₁ : World) (hn : IsClusterName n) (hplain : w.hub.isPlain = true)
    (hnamed : named n) (hw₁ : w₁.hub = w.hub) (hhub : w'.hub = (reap n w₁).2.hub)
    (hleads : w.Leads qs draws w') (hqs : ∀ q ∈ qs, q ∈ deletions n) : w.Evolves named w' := by
  refine of_without (removableKeys n) ?_ ?_ hleads fun q hq _ =>
    path_mem_removableKeys hn (hqs q hq)
  · exact fun key hkey => ⟨n, hnamed, List.mem_of_mem_filter hkey⟩
  · rw [hhub, (reap_removes hn (hw₁ ▸ hplain)).2, hw₁]

end World.Evolves

/-! ## Actions -/

section

variable {named : String → Prop} {r : Reconciler} {e : ClusterEvent} {scope : String}

/-- What is done at an event has fates for its cluster. -/
lemma evolves_handle (hproper : Proper named) (hnames : ∀ n, e.names n = true → named n)
    (hplain : w.hub.isPlain = true) (htemplates : w.hub.TemplatesNamed) :
    w.Evolves named (r.handle Handler.simulator e w).2 := by
  cases hcall : r.call? e with
  | none =>
    have hsends : Sends Request.Reads (r.handle Handler.simulator e) :=
      Reconciler.sends_handle (by simp [hcall]) (by simp [hcall])
    obtain ⟨qs, draws, hleads, hqs⟩ := hsends w
    exact .of_reads hplain hleads hqs
  | some call =>
    have hcluster := names_of_call? hcall
    cases call with
    | provision n =>
      have hnamed : named n := hnames n hcluster
      obtain ⟨hn, hne⟩ := hproper n hnamed
      have hsends : Sends (fun q => q.Reads ∨ q.StoresFor n) (r.handle Handler.simulator e) := by
        refine Reconciler.sends_handle (fun m hm => ?_) (by simp [hcall])
        obtain rfl : n = m := by simpa [hcall] using hm
        exact sends_provision hn
      obtain ⟨qs, draws, hleads, hqs⟩ := hsends w
      exact .of_provision (Reconciler.herald e w).2 hn hne hplain htemplates hnamed (hub_herald e w)
        (hub_handle_of_provision hcall w) hleads hqs
    | reap n =>
      have hnamed : named n := hnames n hcluster
      have hn := (hproper n hnamed).1
      have hsends : Sends (· ∈ deletions n) (r.handle Handler.simulator e) := by
        refine Reconciler.sends_handle (by simp [hcall]) fun m hm => ?_
        obtain rfl : n = m := by simpa [hcall] using hm
        exact .of_leads (simulator_reap_leads n) fun _ => id
      obtain ⟨qs, draws, hleads, hqs⟩ := hsends w
      exact .of_reap (Reconciler.herald e w).2 hn hplain hnamed (hub_herald e w)
        (hub_handle_of_reap hcall w) hleads hqs

/-- Cleaning up has fates for the listed clusters in scope. -/
lemma evolves_reapAll (hproper : Proper named)
    (hnames : ∀ listing, (listClusters w).1 = .ok listing → ∀ c ∈ listing.inScope scope,
      named c.name) (hplain : w.hub.isPlain = true) :
    w.Evolves named (reapAll listClusters Handler.simulator scope w).2 := by
  have hleads := (reapAll_leads simulator_reap_leads scope w).2
  cases hlisting : (listClusters w).1 with
  | error e =>
    rw [hlisting] at hleads
    refine .of_reads hplain hleads fun q hq => ?_
    rw [List.mem_singleton.1 hq]
    rfl
  | ok listing =>
    have hchosen := hnames listing hlisting
    have hclusters : ∀ c ∈ listing.inScope scope, IsClusterName c.name :=
      fun c hc => (hproper c.name (hchosen c hc)).1
    rw [hlisting] at hleads
    refine .of_without (sweptKeys (listing.inScope scope)) (fun key hkey => ?_)
      (reapAll_plain hplain hlisting scope hclusters).2 hleads fun q hq hdelete => ?_
    · obtain ⟨c, hc, hkey⟩ := mem_sweptKeys_iff.1 hkey
      exact ⟨c.name, hchosen c hc, List.mem_of_mem_filter hkey⟩
    · rw [cleaningRequests, List.mem_cons, List.mem_flatMap] at hq
      rcases hq with rfl | ⟨c, hc, hq⟩
      · cases hdelete
      · exact mem_sweptKeys_iff.2 ⟨c, hc, path_mem_removableKeys (hclusters c hc) hq⟩

end

/-! ## Sessions -/

namespace Operation

/-- Whether an operation is one of the simulator, and not a change to the hub behind its back. -/
def isOwn : Operation → Bool
  | event _ | provision _ | reap _ | call _ | reapAll _ | addon => true
  | fault _ | clearFaults | put _ _ | remove _ => false

/-- The clusters for which an operation may do something at a world.  Cleaning up is for the listed
clusters in scope. -/
def Names (w : World) (n : String) : Operation → Prop
  | event e => e.names n = true
  | provision cluster | reap cluster => cluster = n
  | call c => c.cluster = n
  | reapAll scope => ∃ listing, (listClusters w).1 = .ok listing ∧
      ∃ c ∈ listing.inScope scope, c.name = n
  | addon | fault _ | clearFaults | put _ _ | remove _ => False

lemma names_congr {op : Operation} (hlist : (listClusters w').1 = (listClusters w).1) :
    op.Names w' n ↔ op.Names w n := by
  cases op with
  | reapAll scope => rw [Names, Names, hlist]
  | _ => rfl

end Operation

namespace Session

variable {named : String → Prop} {s : Session} {op : Operation} {ops : List Operation}

/-- A session after some operations. -/
def performAll (s : Session) (ops : List Operation) : Session :=
  ops.foldl (fun s op => (s.perform op).2) s

lemma performAll_append (s : Session) (ops ops' : List Operation) :
    s.performAll (ops ++ ops') = (s.performAll ops).performAll ops' := List.foldl_append

lemma performAll_singleton (s : Session) (op : Operation) :
    s.performAll [op] = (s.perform op).2 := rfl

lemma reconciler_perform_reapAll (s : Session) (scope : String) :
    (s.perform (.reapAll scope)).2.reconciler = s.reconciler := rfl

lemma world_act {α : Type} (action : Sim α) (result : α → Operation.Result) :
    (s.act action result).2.world = (action s.world).2 := rfl

lemma evolves_provision (hproper : Proper named) (hnamed : named n) (hplain : w.hub.isPlain = true)
    (htemplates : w.hub.TemplatesNamed) : w.Evolves named (SpokeSim.provision n w).2 := by
  obtain ⟨hn, hne⟩ := hproper n hnamed
  obtain ⟨qs, draws, hleads, hqs⟩ := sends_provision hn w
  exact .of_provision w hn hne hplain htemplates hnamed rfl rfl hleads hqs

lemma evolves_reap (hproper : Proper named) (hnamed : named n) (hplain : w.hub.isPlain = true) :
    w.Evolves named (SpokeSim.reap n w).2 :=
  .of_reap w (hproper n hnamed).1 hplain hnamed rfl rfl (reap_leads n w) fun _ => id

/-- **One operation has fates for the clusters that it names.** -/
lemma evolves_perform (hproper : Proper named) (hown : op.isOwn = true)
    (hnames : ∀ n, op.Names s.world n → named n) (hplain : s.world.hub.isPlain = true)
    (htemplates : s.world.hub.TemplatesNamed) :
    s.world.Evolves named (s.perform op).2.world := by
  cases op with
  | event e => exact evolves_handle hproper hnames hplain htemplates
  | provision cluster =>
    have hnamed : named cluster := hnames cluster rfl
    rw [perform, world_act]
    exact evolves_provision hproper hnamed hplain htemplates
  | reap cluster =>
    have hnamed : named cluster := hnames cluster rfl
    rw [perform, world_act]
    exact evolves_reap hproper hnamed hplain
  | call c =>
    cases c with
    | provision cluster =>
      have hnamed : named cluster := hnames cluster rfl
      have hprovision : Handler.simulator.provision cluster = SpokeSim.provision cluster := rfl
      rw [perform, world_act, hprovision]
      exact evolves_provision hproper hnamed hplain htemplates
    | reap cluster =>
      have hnamed : named cluster := hnames cluster rfl
      have hreap : Handler.simulator.reap cluster = discard (SpokeSim.reap cluster) := rfl
      rw [perform, world_act, hreap, discard_snd]
      exact evolves_reap hproper hnamed hplain
  | reapAll scope =>
    rw [perform, world_act]
    refine evolves_reapAll hproper (fun listing hlisting c hc => ?_) hplain
    exact hnames c.name ⟨listing, hlisting, c, hc, rfl⟩
  | addon =>
    obtain ⟨qs, draws, hleads, hqs⟩ := sends_isAddonUp s.world
    exact .of_reads hplain hleads hqs
  | fault r | clearFaults | put path object | remove path => cases hown

/-- **Any operations have fates for the clusters that they name.** -/
lemma evolves_performAll (hproper : Proper named) (hown : ops.all Operation.isOwn = true)
    (hnames : ∀ op ∈ ops, ∀ n, op.Names w n → named n) (hplain : w.hub.isPlain = true)
    (htemplates : w.hub.TemplatesNamed) (hevolves : w.Evolves named s.world) :
    w.Evolves named (s.performAll ops).world := by
  -- the fates from the first world on are carried along, as the list of clusters and the templates
  -- at any later world are those of the first one
  induction ops generalizing s with
  | nil => exact hevolves
  | cons op ops ih =>
    rw [List.all_cons, Bool.and_eq_true] at hown
    have hlist := hevolves.listClusters_eq hplain
    have hstep : s.world.Evolves named (s.perform op).2.world := by
      refine evolves_perform hproper hown.1 (fun n hn => ?_) (hevolves.plain.trans hplain)
        (htemplates.congr (hevolves.sameTemplates hproper))
      exact hnames op List.mem_cons_self n ((Operation.names_congr hlist).1 hn)
    exact ih hown.2 (fun op hop => hnames op (List.mem_cons_of_mem _ hop))
      (hevolves.trans hproper hstep)

/-- A cluster is complete after it has come, if the reconciler provisions it. -/
lemma complete_perform_added (hn : IsClusterName n) (hne : n ≠ addonNamespace)
    (haddress : Addressable n) (hplain : s.world.hub.isPlain = true)
    (hready : s.world.hub.TemplatesReady)
    (hcall : s.reconciler.call? (.added n) = some (.provision n)) :
    (s.perform (.event (.added n))).2.world.hub.Complete n := by
  show (s.reconciler.handle Handler.simulator (.added n) s.world).2.hub.Complete n
  rw [← hub_herald (.added n) s.world] at hplain hready
  rw [hub_handle_of_provision hcall]
  exact provision_ready hn hne haddress hplain hready

/-- Operations for other clusters leave it complete. -/
lemma complete_performAll (hn : IsClusterName n) (hproper : Proper named) (hother : ¬named n)
    (hown : ops.all Operation.isOwn = true)
    (hnames : ∀ op ∈ ops, ∀ m, op.Names s.world m → named m)
    (hplain : s.world.hub.isPlain = true) (htemplates : s.world.hub.TemplatesNamed)
    (hcomplete : s.world.hub.Complete n) : (s.performAll ops).world.hub.Complete n := by
  have hevolves : s.world.Evolves named (s.performAll ops).world :=
    evolves_performAll hproper hown hnames hplain htemplates (.refl hplain)
  refine hcomplete.congr fun key hkey => (hevolves.elsewhere fun m hm => ?_).1
  have hne : n ≠ m := by rintro rfl; exact hother hm
  exact notMem_clusterKeys_of_ne hn (hproper m hm).1 hne hkey

/-- So a cluster that comes in a session, and for which nothing is done after that, is complete. -/
lemma complete_performAll_added {before after : List Operation} (hproper : Proper named)
    (hn : named n) (haddress : Addressable n)
    (hown : before.all Operation.isOwn = true ∧ after.all Operation.isOwn = true)
    (hnames : ∀ op ∈ before ++ after, ∀ m, op.Names s.world m → named m)
    (hother : ∀ op ∈ after, ¬op.Names s.world n) (hplain : s.world.hub.isPlain = true)
    (hready : s.world.hub.TemplatesReady)
    (hcall : (s.performAll before).reconciler.call? (.added n) = some (.provision n)) :
    (s.performAll (before ++ [.event (.added n)] ++ after)).world.hub.Complete n := by
  obtain ⟨hname, hne⟩ := hproper n hn
  have hbefore : s.world.Evolves named (s.performAll before).world :=
    evolves_performAll hproper hown.1 (fun op hop => hnames op (List.mem_append_left _ hop)) hplain
      hready.named (.refl hplain)
  have hplain' := hbefore.plain.trans hplain
  have hready' := hready.congr (hbefore.sameTemplates hproper)
  have hadded : s.world.Evolves named
      ((s.performAll before).perform (.event (.added n))).2.world := by
    refine hbefore.trans hproper
      (evolves_perform hproper rfl (fun m hm => ?_) hplain' hready'.named)
    rwa [← show n = m from of_decide_eq_true hm]
  have hproper' : Proper fun m => named m ∧ m ≠ n := fun m hm => hproper m hm.1
  rw [performAll_append, performAll_append, performAll_singleton]
  refine complete_performAll hname hproper' (fun h => h.2 rfl) hown.2 (fun op hop m hm => ?_)
    (hadded.plain.trans hplain) (hready.congr (hadded.sameTemplates hproper)).named
    (complete_perform_added hname hne haddress hplain' hready' hcall)
  -- the operations name the same clusters as at the beginning
  have hbegin : op.Names s.world m := (Operation.names_congr (hadded.listClusters_eq hplain)).1 hm
  refine ⟨hnames op (List.mem_append_right _ hop) m hbegin, ?_⟩
  rintro rfl
  exact hother op hop hbegin

end Session

/-- **Provenance.**  From a plain hub whose templates bear the names under which they are read,
whatever the simulator does in a session for clusters that are not named like the add-on's
namespace: nothing changes but what is under the keys of the clusters for which it is done, so that
there are the same templates and the same listed clusters; and an object under a key of a cluster is
what it was, if nobody has asked for its removal, or what is made for the cluster from the templates
as they are. -/
theorem session_provenance (s : Session) (ops : List Operation)
    (hplain : s.world.hub.isPlain = true) (htemplates : s.world.hub.TemplatesNamed)
    (hown : ops.all Operation.isOwn = true)
    (hnames : ∀ op ∈ ops, ∀ n, op.Names s.world n → IsClusterName n ∧ n ≠ addonNamespace) :
    let w := s.world
    let w' := (s.performAll ops).world
    (∀ key, (∀ op ∈ ops, ∀ n, op.Names w n → key ∉ sixKeys n) →
      w'.hub.objects.get? key = w.hub.objects.get? key) ∧
    w.hub.SameTemplates w'.hub ∧
    (∀ key, IsListKey key → w'.hub.objects.get? key = w.hub.objects.get? key) ∧
    (listClusters w').1 = (listClusters w).1 ∧
    ∀ n, IsClusterName n → ∀ key ∈ sixKeys n, ∀ j, w'.hub.objects.get? key = some j →
      (w.hub.objects.get? key = some j ∧
        ∀ q ∈ w'.requestsSince w, q.method = .delete → q.target.path ≠ key) ∨
      w'.hub.MadeFor n key j := by
  intro w w'
  let named : String → Prop := fun n => ∃ op ∈ ops, op.Names w n
  have hproper : Proper named := fun n ⟨op, hop, hn⟩ => hnames op hop n hn
  have hevolves : w.Evolves named w' :=
    Session.evolves_performAll hproper hown (fun op hop n hn => ⟨op, hop, hn⟩) hplain htemplates
      (.refl hplain)
  refine ⟨fun key hkey => ?_, hevolves.sameTemplates hproper, fun key hkey => ?_,
    hevolves.listClusters_eq hplain, fun n hn key hkey j hj => ?_⟩
  · exact (hevolves.elsewhere fun n ⟨op, hop, hn⟩ => hkey op hop n hn).1
  · exact (hevolves.elsewhere fun n _ hmem => hkey.not_owns n (owns_of_mem_clusterKeys hmem)).1
  · obtain hkeeps | ⟨m, hm, hmem, hmade⟩ := hevolves.fate key
    · exact .inl ⟨hkeeps.1.symm.trans hj, hkeeps.2⟩
    · -- a key is one of a single cluster
      obtain rfl : m = n := Owns.unique (hproper m hm).1.slash_notMem hn.slash_notMem
        (owns_of_mem_clusterKeys hmem) (owns_of_mem_clusterKeys hkey)
      exact .inr (hmade j hj)

/-- Of a hub that is cleaned up before a cluster is added, and another one provisioned and reaped:
the objects of the first are there, and all that is there has been made for its cluster. -/
theorem session_provenance_spokes :
    let s : Session := { world := clusterWorld "spoke-1", reconciler := { scope := "spoke" } }
    let ops : List Operation := [.reapAll "spoke", .event (.added "spoke-1"), .provision "spoke-2",
      .reap "spoke-2"]
    let w' := (s.performAll ops).world
    s.world.hub.SameTemplates w'.hub ∧ (listClusters w').1 = (listClusters s.world).1 ∧
      (∀ key ∈ sixKeys "spoke-1", w'.hub.objects.contains key = true) ∧
      ∀ n ∈ ["spoke-1", "spoke-2"], ∀ key ∈ sixKeys n, ∀ j,
        w'.hub.objects.get? key = some j → w'.hub.MadeFor n key j := by
  intro s ops
  dsimp only
  have hclusters : ∀ n ∈ ["spoke-1", "spoke-2"], IsClusterName n ∧ n ≠ addonNamespace := by
    decide +kernel
  have hspoke : '/' ∉ "spoke-1".toList := (hclusters "spoke-1" (by simp)).1.slash_notMem
  have hplain : s.world.hub.isPlain = true := clusterHub.isPlain "spoke-1"
  have hready : s.world.hub.TemplatesReady := clusterHub.templatesReady "spoke-1"
  have hnames : ∀ op ∈ ops, ∀ n, op.Names s.world n → n ∈ ["spoke-1", "spoke-2"] := by
    intro op hop n hn
    simp only [ops, List.mem_cons, List.not_mem_nil, or_false] at hop
    rcases hop with rfl | rfl | rfl | rfl
    · obtain ⟨listing, h, c, hc, rfl⟩ := hn
      rw [clusterHub.eq_bareCluster hspoke rfl h (List.mem_of_mem_filter hc)]
      exact List.mem_cons_self
    · rw [← show "spoke-1" = n from of_decide_eq_true hn]
      exact List.mem_cons_self
    · rw [← show "spoke-2" = n from hn]
      exact List.mem_cons_of_mem _ List.mem_cons_self
    · rw [← show "spoke-2" = n from hn]
      exact List.mem_cons_of_mem _ List.mem_cons_self
  obtain ⟨-, htemplates, -, hlist, hmade⟩ := session_provenance s ops hplain hready.named rfl
    fun op hop n hn => hclusters n (hnames op hop n hn)
  have hcall : (s.performAll [.reapAll "spoke"]).reconciler.call? (.added "spoke-1")
      = some (.provision "spoke-1") := by
    rw [Session.performAll_singleton, Session.reconciler_perform_reapAll]
    exact if_pos ⟨List.not_mem_nil, by decide +kernel⟩
  refine ⟨htemplates, hlist, ?there, fun n hn key hkey j hj => ?made⟩
  case there =>
    rw [← clusterKeys_eq_sixKeys, show ops = [.reapAll "spoke"] ++ [.event (.added "spoke-1")] ++
      [.provision "spoke-2", .reap "spoke-2"] from rfl]
    refine Session.complete_performAll_added hclusters (by simp) (by decide +kernel) ⟨rfl, rfl⟩
      (fun op hop => hnames op ?_) (fun op hop => ?_) hplain hready hcall
    · simp only [List.mem_append, List.mem_cons, List.not_mem_nil, or_false, ops] at hop ⊢
      exact hop.imp_right .inr
    · have hne : "spoke-2" ≠ "spoke-1" := by decide
      simp only [List.mem_cons, List.not_mem_nil, or_false] at hop
      rcases hop with rfl | rfl <;> exact hne
  case made =>
    obtain ⟨hname, hne⟩ := hclusters n hn
    obtain ⟨hbefore, -⟩ | hmade := hmade n hname key hkey j hj
    · have hnone : s.world.hub.objects.get? key = none :=
        clusterHub.get?_of_mem_clusterKeys hname hne hkey
      rw [hnone] at hbefore
      cases hbefore
    · exact hmade

end SpokeSim
