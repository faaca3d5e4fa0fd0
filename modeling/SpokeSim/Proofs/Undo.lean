import SpokeSim.Proofs.Footprint
import SpokeSim.Proofs.Reaping

/-!
# Reaping undoes provisioning

Provisioning leaves nothing on a plain hub but objects under the cluster's keys, whatever becomes of
it, and reaping removes what is there.  So reaping leaves the hub as it was before, and counts what
provisioning has created (`reap_undoes_provision`).

The one thing that stands in the way is the length of names.  The path of an object is longer than
that of its collection, and so there are names for which objects can be created that cannot be
removed.  The law holds for all names below that range, and for all above it, for which not even the
first object can be created.
-/

namespace SpokeSim

/-- The keys under which there is something on one hub and nothing on another. -/
def Hub.keysSince (h h₀ : Hub) : List String :=
  h.objects.keys.filter fun key => !h₀.objects.contains key

section

variable {cluster : String} {w : World}

/-- What a hub has grown under keys where there was nothing is what it now has under these keys. -/
lemma length_keysSince {keys : List String} {h h₀ : Hub} (hgrows : Hub.Grows keys h₀ h)
    (hnodup : keys.Nodup) (habsent : ∀ key ∈ keys, h₀.objects.get? key = none) :
    (h.keysSince h₀).length = keys.countP h.objects.contains := by
  rw [List.countP_eq_length_filter]
  refine List.Perm.length_eq ((List.perm_ext_iff_of_nodup (h.objects.nodup_keys.filter _)
    (hnodup.filter _)).2 fun key => ?_)
  rw [List.mem_filter, List.mem_filter, KeyMap.mem_keys_iff, Bool.not_eq_true',
    KeyMap.contains_eq_false_iff]
  constructor
  · rintro ⟨hkey, hold⟩
    refine ⟨Decidable.byContradiction fun hnotMem => ?_, hkey⟩
    rw [← hgrows.within key hnotMem, ← KeyMap.contains_eq_false_iff, hkey] at hold
    cases hold
  · rintro ⟨hmem, hkey⟩
    exact ⟨hkey, habsent key hmem⟩

/-- **Reaping undoes provisioning, even one that fails.**  At a plain hub whose templates bear their
names as far as they can be read, for a cluster of which there is nothing: provisioning and then
reaping it leaves the objects as they were, and the count is that of the objects which provisioning
has created.  The name is short enough to address all objects, or too long to create any. -/
theorem reap_undoes_provision (hn : IsClusterName cluster) (hne : cluster ≠ addonNamespace)
    (hsize : cluster.utf8ByteSize + 112 < Target.longest ∨
      Target.longest < cluster.utf8ByteSize + 31)
    (hplain : w.hub.isPlain = true) (hnamed : w.hub.TemplatesNamed)
    (habsent : ∀ key ∈ sixKeys cluster, w.hub.objects.get? key = none) :
    let w₁ := (provision cluster w).2
    (reap cluster w₁).2.hub.objects = w.hub.objects ∧
      (reap cluster w₁).1 = (w₁.hub.keysSince w.hub).length := by
  have hgrows := grows_provision hn hne hplain hnamed
  have hcount := length_keysSince hgrows (nodup_clusterKeys hn) habsent
  have hplain₁ := hgrows.plain hplain
  dsimp only
  rw [hcount]
  obtain hshort | hlong := hsize
  · obtain ⟨hresult, hhub⟩ := reap_plain hn ((addressable_iff cluster).2 hshort) hplain₁
    refine ⟨KeyMap.ext_get? fun key => ?_, hresult⟩
    rw [hhub, Hub.without, KeyMap.get?_eraseAll]
    split
    case isTrue hkey => exact (habsent key hkey).symm
    case isFalse hkey => exact hgrows.within key hkey
  · have hlong : Target.longest < (Kind.configMap.collection cluster ++ "?").utf8ByteSize := by
      rw [String.utf8ByteSize_append, utf8ByteSize_configMaps]
      exact hlong
    have hsame := provision_tooLong hlong hplain
    have habsent₁ : ∀ key ∈ clusterKeys cluster,
        (provision cluster w).2.hub.objects.contains key = false := by
      intro key hkey
      rw [hsame, KeyMap.contains_eq_false_iff]
      exact habsent key hkey
    obtain ⟨hresult, hhub⟩ := reap_absent hn hplain₁ habsent₁
    refine ⟨by rw [hhub, hsame], ?_⟩
    rw [hresult, eq_comm, List.countP_eq_zero]
    exact fun key hkey => by simp [habsent₁ key hkey]

end

/-- The law at a short name. -/
theorem reap_undoes_provision_spoke :
    let w₁ := (provision "spoke-1" readyWorld).2
    (reap "spoke-1" w₁).2.hub.objects = readyHub.objects ∧
      (reap "spoke-1" w₁).1 = (w₁.hub.keysSince readyHub).length :=
  reap_undoes_provision (w := readyWorld) (by decide +kernel) (by decide +kernel)
    (.inl (by decide +kernel)) readyHub.isPlain readyHub.templatesReady.named
    fun _ => readyHub.get?_of_mem_clusterKeys (by decide +kernel) (by decide +kernel)

/-- The law does not hold for names of any length: of a name of 65500 letters, the config map is
created and cannot be removed. -/
theorem not_reap_undoes_provision_of_any_length :
    ¬∀ (cluster : String) (w : World), IsClusterName cluster → cluster ≠ addonNamespace →
      w.hub.isPlain = true → w.hub.TemplatesNamed →
      (∀ key ∈ sixKeys cluster, w.hub.objects.get? key = none) →
      let w₁ := (provision cluster w).2
      (reap cluster w₁).2.hub.objects = w.hub.objects ∧
        (reap cluster w₁).1 = (w₁.hub.keysSince w.hub).length := by
  intro hlaw
  have hn : IsClusterName (longName 65500) := isClusterName_longName (by decide)
  have hne := longName_ne_addonNamespace 65500
  have habsent : ∀ key ∈ clusterKeys (longName 65500), readyHub.objects.get? key = none :=
    fun _ => readyHub.get?_of_mem_clusterKeys hn hne
  have hsame :=
    (hlaw (longName 65500) readyWorld hn hne rfl readyHub.templatesReady.named habsent).1
  have hcreated := contains_provision_configMap hn hne (w := readyWorld)
    (by rw [utf8ByteSize_configMaps, utf8ByteSize_longName]; decide) rfl readyHub.templatesReady
  have hlong : ∀ key ∈ clusterKeys (longName 65500), Target.longest ≤ key.utf8ByteSize := by
    intro key hkey
    obtain ⟨o, ho, rfl⟩ := List.mem_map.1 hkey
    have hsize := utf8ByteSize_objectKey ho
    have hle := le_overhead ho
    rw [utf8ByteSize_longName] at hsize
    show Target.longest ≤ (objectKey (longName 65500) o).utf8ByteSize
    rw [Target.longest]
    omega
  rw [(reap_tooLong hlong _).2] at hsame
  have hnone := habsent _ (ProvisionStep.caBundle.key_mem (longName 65500))
  rw [hsame, KeyMap.contains] at hcreated
  exact absurd hcreated (by simp [readyWorld, hnone])

end SpokeSim
