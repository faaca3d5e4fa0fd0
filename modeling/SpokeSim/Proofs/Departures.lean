import SpokeSim.Proofs.Codec.Acceptance
import SpokeSim.Proofs.Startup

/-!
# Cleaning up as a run of departures

Cleaning up lists the clusters and reaps those in scope; a reconciler reaps a cluster in its scope
as it hears that the cluster is gone.  The two have their own loops and their own tests of the
scope, and do the same.

**Departures.**  When a listed cluster departs, a reconciler asks for the removal of the cluster's
objects if it is in scope, and for nothing otherwise, whatever its policy is and whatever it has
seen (`handle_departure_leads`).  So it is for all listed clusters (`handleAll_departures_leads`).

**The same requests.**  What is asked of a hub settles what it answers and what becomes of it
(`World.Leads.unique`), so it is enough that both ask for the same.

**The list.**  Without a list nothing is removed.  There is none if a single item of it is no
cluster (`listing?_of_listsMisfit`).
-/

namespace SpokeSim

open Codec Record
open Json (Draft)

variable {w w₁ w₂ : World}

/-! ## Departures -/

/-- The same requests from the same world leave the same hub, after the same exchanges. -/
lemma World.Leads.unique {qs : List Request} {draws draws' : Nat} (h₁ : w.Leads qs draws w₁)
    (h₂ : w.Leads qs draws' w₂) : w₁.hub = w₂.hub ∧ w₁.exchanges = w₂.exchanges :=
  ⟨h₁.hub.trans h₂.hub.symm, h₁.exchanges.trans h₂.exchanges.symm⟩

/-- The events of clusters that depart. -/
def departures (cs : List ManagedCluster) : List ClusterEvent :=
  cs.map fun c => (WatchNews.removed c).event

/-- The removals for the clusters in scope, cluster by cluster. -/
def sweep (scope : String) (cs : List ManagedCluster) : List Request :=
  (cs.filter fun c => startsWith c.name scope).flatMap fun c => deletions c.name

namespace Reconciler

/-- **One departure** asks for the removal of the cluster's objects, if it is in scope. -/
lemma handle_departure_leads (r : Reconciler) (c : ManagedCluster) (w : World) :
    w.Leads (sweep r.scope [c]) 0 (r.handle Handler.simulator (WatchNews.removed c).event w).2 := by
  have hherald : w.Leads [] 0 (herald (WatchNews.removed c).event w).2 := .log ..
  rw [handle_eq, sweep]
  by_cases hscope : startsWith c.name r.scope = true
  · have hcall : r.call? (WatchNews.removed c).event = some (.reap c.name) := if_pos hscope
    rw [act_of_some _ hcall, perform, List.filter_cons_of_pos (by exact hscope), List.filter_nil,
      List.flatMap_singleton]
    exact hherald.trans (simulator_reap_leads c.name _)
  · have hcall : r.call? (WatchNews.removed c).event = none := if_neg hscope
    rw [act_of_none _ hcall, List.filter_cons_of_neg (by exact hscope)]
    exact hherald.andLog ..

/-- **So do many**, one after the other. -/
lemma handleAll_departures_leads (r : Reconciler) (cs : List ManagedCluster) (w : World) :
    w.Leads (sweep r.scope cs) 0 (r.handleAll Handler.simulator (departures cs) w).2 := by
  induction cs generalizing r w with
  | nil => exact .refl w
  | cons c cs ih =>
    have hfirst := r.handle_departure_leads c w
    have hrest := ih (r.next (WatchNews.removed c).event)
      (r.handle Handler.simulator (WatchNews.removed c).event w).2
    rw [scope_next] at hrest
    have hsweep : sweep r.scope (c :: cs) = sweep r.scope [c] ++ sweep r.scope cs := by
      rw [sweep, ← List.singleton_append, List.filter_append, List.flatMap_append]
      rfl
    rw [departures, List.map_cons, handleAll, bind_apply, handle_fst, hsweep]
    exact hfirst.trans hrest

end Reconciler

/-! ## Lists that are none -/

/-- The body of an answer is a list in which some item is no managed cluster. -/
def Answer.ListsMisfit (a : Answer) : Prop :=
  ∃ members flaw items flaw' d, a.body.draft = .ok (.obj members flaw) ∧
    ("items", .arr items flaw') ∈ members ∧ d ∈ items ∧
    (ManagedCluster.codec.decode d).isOk = false

lemma listing?_of_listsMisfit {a : Answer} (h : a.ListsMisfit) :
    a.listing? .managedCluster = none := by
  obtain ⟨members, flaw, items, flaw', d, hbody, hitems, hd, hmisfit⟩ := h
  rw [Answer.listing?, hbody]
  split
  · rfl
  · show ((Api.Listing.record .managedCluster).codec.decode (.obj members flaw)).toOption = none
    cases hdecode : (Api.Listing.record .managedCluster).codec.decode (.obj members flaw) with
    | error f => rfl
    | ok listing =>
      have hfits := isOk_of_mem_items hdecode hitems hd
      rw [show Kind.managedCluster.codec = ManagedCluster.codec from rfl, hmisfit] at hfits
      cases hfits

/-! ## Cleaning up -/

/-- How cleaning up ends depends on the list alone. -/
lemma reapAll_fst (h : Handler World) (scope : String) (w : World) :
    (reapAll listClusters h scope w).1 = match (listClusters w).1 with
      | .error e => .error (.api e)
      | .ok listing => .ok (listing.items.countP fun c => startsWith c.name scope) := by
  rw [reapAll, bind_apply]
  cases (listClusters w).1 with
  | error e => rfl
  | ok listing =>
    simp only [List.countP_eq_length_filter]
    rfl

/-- **Cleaning up is a run of departures.**  At any hub, whatever it answers: if the answer to the
request for the list gives none, be it a refusal or a body that is no list, cleaning up fails and
asks for nothing more; one item that is no cluster is enough for that.  Otherwise it counts the
listed clusters in scope, each as often as it is listed, and what is exchanged and what becomes of
the hub is the same as if a reconciler of the same scope handled the departures of all listed
clusters in their order, from the world that the list has left.  How it ends and what it asks for
depends on the answer to the first request only. -/
theorem reapAll_eq_departures (r : Reconciler) (w : World) :
    let answer := (w.hub.answer listRequest).1
    let listed := (listClusters w).2
    let cleaned := reapAll listClusters Handler.simulator r.scope w
    listed.hub = (w.hub.answer listRequest).2 ∧
    listed.exchanges = w.exchanges ++ [(listRequest, answer)] ∧
    (match answer.listing? .managedCluster with
    | none =>
      (∃ e, cleaned.1 = .error (.api e)) ∧ cleaned.2.hub = listed.hub ∧
        cleaned.2.exchanges = listed.exchanges
    | some listing =>
      let watched := (r.handleAll Handler.simulator (departures listing.items) listed).2
      cleaned.1 = .ok (listing.items.countP fun c => startsWith c.name r.scope) ∧
        cleaned.2.hub = watched.hub ∧ cleaned.2.exchanges = watched.exchanges) ∧
    (answer.ListsMisfit → answer.listing? .managedCluster = none) ∧
    ∀ w' : World, (w'.hub.answer listRequest).1 = answer →
      let cleaned' := reapAll listClusters Handler.simulator r.scope w'
      cleaned'.1 = cleaned.1 ∧ cleaned'.2.requestsSince w' = cleaned.2.requestsSince w := by
  intro answer listed cleaned
  obtain ⟨hlist, hlisted⟩ := listClusters_leads w
  have hlisting : (listClusters w).1.toOption = answer.listing? .managedCluster := by
    rw [hlist, toOption_valueOf_listing]
  obtain ⟨-, hcleaned⟩ := reapAll_leads simulator_reap_leads r.scope w
  have hresult := reapAll_fst Handler.simulator r.scope w
  refine ⟨hlisted.hub, hlisted.exchanges, ?same, listing?_of_listsMisfit, fun w' hanswer => ?alone⟩
  case same =>
    rw [← hlisting]
    cases hlist : (listClusters w).1 with
    | error e =>
      rw [hlist] at hcleaned hresult
      obtain ⟨hhub, hexchanges⟩ := hcleaned.unique hlisted
      exact ⟨⟨e, hresult⟩, hhub, hexchanges⟩
    | ok listing =>
      rw [hlist] at hcleaned hresult
      have hwatched := hlisted.trans (r.handleAll_departures_leads listing.items listed)
      exact ⟨hresult, hcleaned.unique hwatched⟩
  case alone =>
    have hsame : (listClusters w').1 = (listClusters w).1 := by
      rw [hlist, (listClusters_leads w').1, hanswer]
    obtain ⟨-, hcleaned'⟩ := reapAll_leads simulator_reap_leads r.scope w'
    refine ⟨?_, ?_⟩
    · rw [hresult, reapAll_fst, hsame]
    · rw [hcleaned'.requestsSince_eq, hcleaned.requestsSince_eq, hsame]

end SpokeSim
