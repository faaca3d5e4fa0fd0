import SpokeSim.Proofs.Footprint
import SpokeSim.Proofs.Requests

/-!
# What reaping leaves behind

On a plain hub, reaping a cluster takes the cluster's own objects away and nothing else, counts
them, and leaves nothing to be done by reaping the same cluster again (`reap_clears`).

**Nothing comes back.**  A removal never adds an object (`Hub.get?_after_of_deletions`), so this
holds as well when any clusters are reaped in between.

**The bound.**  What cannot be asked for stays: it is the objects whose keys are too long, which are
none if the name has no more than 65421 bytes.
-/

namespace SpokeSim

/-! ## Removals in a row -/

namespace Hub

variable {h : Hub} {key : String}

/-- A removal adds nothing. -/
lemma get?_fromObjects_of_deletion {q : Request} (hq : q.method = .delete)
    (hnone : h.objects.get? key = none) : (h.fromObjects q).2.objects.get? key = none := by
  simp only [fromObjects, hq]
  split
  case isTrue => rw [KeyMap.get?_erase, hnone, ite_self]
  case isFalse => exact hnone

/-- A plain hub stays plain. -/
lemma isPlain_after (hplain : h.isPlain = true) (qs : List Request) :
    (h.after qs).isPlain = true := by
  induction qs generalizing h with
  | nil => exact hplain
  | cons q qs ih =>
    rw [after_cons, answer_of_isPlain hplain]
    exact ih ((isPlain_fromObjects h q).trans hplain)

/-- **Removals in a row** add nothing to a plain hub. -/
lemma get?_after_of_deletions (hplain : h.isPlain = true) (hnone : h.objects.get? key = none)
    {qs : List Request} (hqs : ∀ q ∈ qs, q.method = .delete) :
    (h.after qs).objects.get? key = none := by
  induction qs generalizing h with
  | nil => exact hnone
  | cons q qs ih =>
    rw [after_cons, answer_of_isPlain hplain]
    exact ih ((isPlain_fromObjects h q).trans hplain)
      (get?_fromObjects_of_deletion (hqs q List.mem_cons_self) hnone)
      fun q' hq' => hqs q' (List.mem_cons_of_mem _ hq')

end Hub

/-- Reap clusters one after the other. -/
def reapEvery (names : List String) (w : World) : World :=
  names.foldl (fun w name => (reap name w).2) w

lemma reapEvery_leads (names : List String) (w : World) :
    w.Leads (names.flatMap deletions) 0 (reapEvery names w) := by
  induction names generalizing w with
  | nil => exact .refl w
  | cons name names ih =>
    rw [List.flatMap_cons, reapEvery, List.foldl_cons]
    exact (reap_leads name w).trans (ih _)

/-- Where nothing of a cluster can be removed, nothing of it can be removed after any clusters have
been reaped. -/
lemma reap_reapEvery {cluster : String} (hn : IsClusterName cluster) {w : World}
    (hplain : w.hub.isPlain = true)
    (habsent : ∀ key ∈ removableKeys cluster, w.hub.objects.get? key = none)
    (others : List String) :
    (reap cluster (reapEvery others w)).1 = 0 ∧
      (reap cluster (reapEvery others w)).2.hub = (reapEvery others w).hub := by
  have hdeletions : ∀ q ∈ others.flatMap deletions, q.method = .delete := by
    intro q hq
    obtain ⟨name, -, hq⟩ := List.mem_flatMap.1 hq
    exact method_of_mem_deletions hq
  have hhub := (reapEvery_leads others w).hub
  refine reap_idle hn ?_ fun key hkey => ?_
  · rw [hhub]
    exact Hub.isPlain_after hplain _
  · rw [hhub, KeyMap.contains_eq_false_iff]
    exact Hub.get?_after_of_deletions hplain (habsent key hkey) hdeletions

/-! ## Reaping -/

/-- **What reaping leaves behind.**  The cluster's objects are gone, as far as their keys are short
enough, all other objects are as they were, and the count is that of the objects that were there.
To reap the cluster again, whatever has been reaped in between, removes nothing and changes
nothing. -/
theorem reap_clears {cluster : String} (hn : IsClusterName cluster) {w : World}
    (hplain : w.hub.isPlain = true) :
    let removed := (sixKeys cluster).filter fun key => key.utf8ByteSize < Target.longest
    let w₁ := (reap cluster w).2
    (removed = sixKeys cluster ∨ 65421 < cluster.utf8ByteSize) ∧ removed.Nodup ∧
      w₁.hub = { w.hub with objects := w₁.hub.objects } ∧
      (∀ key, w₁.hub.objects.get? key = if key ∈ removed then none else w.hub.objects.get? key) ∧
      (reap cluster w).1 = removed.countP w.hub.objects.contains ∧
      ∀ others : List String,
        let w₂ := reapEvery others w₁
        (reap cluster w₂).1 = 0 ∧ (reap cluster w₂).2.hub = w₂.hub := by
  obtain ⟨hcount, hhub⟩ := reap_removes hn hplain
  have hget : ∀ key, (reap cluster w).2.hub.objects.get? key =
      if key ∈ removableKeys cluster then none else w.hub.objects.get? key := by
    intro key
    rw [hhub, Hub.get?_without]
  refine ⟨?all, (nodup_clusterKeys hn).filter _, ?same, hget, hcount, fun others => ?again⟩
  case all =>
    by_cases haddress : Addressable cluster
    · exact .inl (removableKeys_of_addressable haddress)
    · rw [addressable_iff, Target.longest] at haddress
      exact .inr (by omega)
  case same =>
    rw [hhub]
    rfl
  case again =>
    refine reap_reapEvery hn ?_ (fun key hkey => (hget key).trans (if_pos hkey)) others
    rw [hhub]
    exact hplain

/-- A hub that keeps a config map of the cluster `spoke-1`, and one of another cluster. -/
def twoSpokesHub : Hub where
  stateful := true
  objects := .ofList
    [(objectKey "spoke-1" (.configMap, caBundleName), .obj []),
      (objectKey "spoke-2" (.configMap, caBundleName), .obj [])]

/-- Reaping at a short name. -/
theorem reap_clears_spoke :
    let w : World := { readyWorld with hub := twoSpokesHub }
    let w₁ := (reap "spoke-1" w).2
    (∀ key, w₁.hub.objects.get? key =
      if key ∈ (sixKeys "spoke-1").filter fun key => key.utf8ByteSize < Target.longest then none
      else w.hub.objects.get? key) ∧
    (reap "spoke-1" w).1 = 1 ∧ (reap "spoke-1" (reapEvery ["spoke-2"] w₁)).1 = 0 := by
  have hn : IsClusterName "spoke-1" := by decide +kernel
  obtain ⟨-, -, -, hget, hcount, hagain⟩ :=
    reap_clears hn (w := { readyWorld with hub := twoSpokesHub }) rfl
  exact ⟨hget, hcount.trans (by decide +kernel), (hagain ["spoke-2"]).1⟩

/-- A hub that keeps the secret of the signer for a cluster. -/
def signerHub (cluster : String) : Hub where
  stateful := true
  objects := KeyMap.empty.insert (objectKey cluster (.secret, signerCertName)) (.obj [])

/-- Not all objects of a cluster go, for names of any length: of a name of 65430 letters, the secret
of the signer stays. -/
theorem not_reap_clears_of_any_length :
    ¬∀ (cluster : String) (w : World), IsClusterName cluster → w.hub.isPlain = true →
      (∀ key ∈ sixKeys cluster, (reap cluster w).2.hub.objects.get? key = none) ∧
        (reap cluster w).1 = (sixKeys cluster).countP w.hub.objects.contains := by
  intro hlaw
  generalize hlong : longName 65430 = long at hlaw
  have hsize : long.utf8ByteSize = 65430 := by rw [← hlong, utf8ByteSize_longName]
  have hn : IsClusterName long := hlong ▸ isClusterName_longName (by decide)
  let key := objectKey long (.secret, signerCertName)
  let w : World := { readyWorld with hub := signerHub long }
  have hmem : (Kind.secret, signerCertName) ∈ clusterObjects long := by simp [clusterObjects]
  have hkey : key ∉ removableKeys long := by
    intro hremovable
    have hfits : key.utf8ByteSize < Target.longest :=
      of_decide_eq_true (List.mem_filter.1 hremovable).2
    have hoverhead : overhead (.secret, signerCertName) = 112 := by decide +kernel
    rw [utf8ByteSize_objectKey hmem, hsize, hoverhead, Target.longest] at hfits
    omega
  have hsix : key ∈ clusterKeys long := List.mem_map_of_mem hmem
  have hgone := (hlaw long w hn rfl).1 key hsix
  rw [(reap_removes hn (w := w) rfl).2, Hub.get?_without, if_neg hkey] at hgone
  have hkept : w.hub.objects.get? key = some (Json.obj []) := by
    show (KeyMap.empty.insert key (Json.obj [])).get? key = _
    rw [KeyMap.get?_insert, if_pos rfl]
  rw [hkept] at hgone
  cases hgone

end SpokeSim
