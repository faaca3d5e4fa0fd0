import SpokeSim.Hub.Basic
import SpokeSim.Proofs.Codec.Objects
import SpokeSim.Proofs.Codec.Printing

/-!
# Managed clusters, read and written again

A managed cluster is written with the kind and version of its own, without the members that are
absent, and without anything that it has not got from its document.  So a document need not be what
is written for the cluster that is read from it.  Writing settles it, though, and loses nothing that
is asked of a cluster.

What is written can also be sent, for its text is read as the same cluster.  There is one part that
this has to be asked of: the documents of other authors that the metadata keep.
-/

namespace SpokeSim

open Json (Draft)
open Record (PrintsAt)
open Record.Prints (printsAt)

variable {levels : Nat}

/-! ## Metadata in print -/

instance : Time.Timestamp.codec.Prints levels := .spelled

instance : OwnerReference.record.codec.Prints (levels + 1) := .via

lemma ManagedFields.printable_encode {m : ManagedFields}
    (h : ∀ k ∈ m.fieldsV1, k.document.Printable levels) :
    (ManagedFields.record.codec.encode m).Printable (levels + 1) := by
  have hwritten : ManagedFields.record.PrintsAt levels m :=
    .and (printsAt _) <| .and (printsAt _) <| .and (.optional h) (printsAt _)
  exact hwritten.printable

namespace ObjectMeta

/-- The documents that the metadata keep for the managers of an object. -/
def kept (m : ObjectMeta) : List Json :=
  ((m.managedFields.getD []).filterMap ManagedFields.fieldsV1).map KeptDocument.document

lemma printable_encode {m : ObjectMeta} (h : ∀ j ∈ m.kept, j.Printable levels) :
    (codec.encode m).Printable (levels + 3) := by
  have hmanaged : (Record.optional "managedFields" (.list ManagedFields.record.codec)).PrintsAt
      (levels + 2) m.managedFields := by
    refine .optional fun fs hfs => Codec.printable_list fun f hf => ?_
    refine ManagedFields.printable_encode fun k hk => h k.document ?_
    rw [kept, Option.mem_def.1 hfs]
    exact List.mem_map_of_mem (List.mem_filterMap.2 ⟨f, hf, hk⟩)
  have hwritten : record.PrintsAt (levels + 2) m :=
    .and (printsAt _) <| .and (printsAt _) <| .and (printsAt _) <| .and (printsAt _) <|
      .and (printsAt _) <| .and (printsAt _) <| .and (printsAt _) <| .and (printsAt _) <|
      .and hmanaged (printsAt _)
  exact hwritten.printable

end ObjectMeta

/-! ## Managed clusters in print -/

instance : ClientConfig.record.positional.Prints (levels + 1) := .positional

instance : ManagedClusterSpec.record.positional.Prints (levels + 3) := .positional

instance : Condition.record.positional.Prints (levels + 1) := .positional

instance : ManagedClusterVersion.record.positional.Prints (levels + 1) := .positional

instance : ManagedClusterStatus.record.positional.Prints (levels + 3) := .positional

namespace ManagedCluster

lemma printable_encode {c : ManagedCluster} (h : ∀ j ∈ c.metadata.kept, j.Printable levels) :
    (codec.encode c).Printable (levels + 4) := by
  have hwritten : record.PrintsAt (levels + 3) c :=
    .and (printsAt _) <| .and (printsAt _) <|
      .and (.required (ObjectMeta.printable_encode h)) (printsAt _)
  exact hwritten.printable

/-! ## Rewriting -/

/-- **A managed cluster survives its own format.**  Each is read from the document that is written
for it, and from the text of that document if all that its metadata keep can be printed.  So
whatever a managed cluster is read from, the document that is written for it is accepted in turn, is
written the same once more, and stands for a cluster of the same name, which is reachable and in a
scope just as the first one is. -/
theorem decode_rewritten :
    (∀ c : ManagedCluster, codec.decode (.ofJson (codec.encode c)) = .ok c ∧
      ((∀ j ∈ c.metadata.kept, j.Printable (Json.depthLimit - 4)) →
        codec.decode (.ofText (codec.encode c).compact) = .ok c)) ∧
    ∀ (d : Draft) (c : ManagedCluster), codec.decode d = .ok c →
      ∃ c', codec.decode (.ofJson (codec.encode c)) = .ok c' ∧
        codec.encode c' = codec.encode c ∧ c'.name = c.name ∧ c'.isAvailable = c.isAvailable ∧
        ∀ scope, startsWith c'.name scope = startsWith c.name scope := by
  have hread : ∀ c, codec.decode (.ofJson (codec.encode c)) = .ok c := Codec.Faithful.decode_encode
  refine ⟨fun c => ⟨hread c, fun hkept => ?text⟩, fun d c _ => ?again⟩
  case text =>
    have hprintable : (codec.encode c).Printable Json.depthLimit := printable_encode hkept
    rw [hprintable.ofText_compact, hread]
  case again => exact ⟨c, hread c, rfl, rfl, rfl, fun _ => rfl⟩

/-- A cluster of a foreign kind, with a field that is unknown and some that are empty. -/
def foreignCluster : Json :=
  .obj [("kind", .str "Sheep"),
    ("metadata", .obj [("name", .str "spoke-1"), ("labels", .null)]),
    ("spec", .obj [("taints", .arr []), ("leaseDurationSeconds", .null)]),
    ("status", .null)]

theorem decode_rewritten_foreign :
    ∃ c, codec.decode (.ofJson foreignCluster) = .ok c ∧
      ∃ c', codec.decode (.ofJson (codec.encode c)) = .ok c' ∧ c'.name = "spoke-1" := by
  obtain ⟨c, hc, hname⟩ : ∃ c, codec.decode (.ofJson foreignCluster) = .ok c ∧
      c.name = "spoke-1" := ⟨_, rfl, rfl⟩
  obtain ⟨c', hread, -, hname', -⟩ := decode_rewritten.2 _ c hc
  exact ⟨c, hc, c', hread, hname'.trans hname⟩

end ManagedCluster

end SpokeSim
