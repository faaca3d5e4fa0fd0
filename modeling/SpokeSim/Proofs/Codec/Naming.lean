import SpokeSim.Hub.Basic
import SpokeSim.Proofs.Codec.Objects

/-!
# The name in a written object

A hub stores an object under the name that it finds in the object's document (`Hub.nameOf`), while
the simulator takes it from the object's metadata.  `nameOf_encode` says that the two are the same
name for every kind that the simulator stores.

A member of a written record is found under its name as no other field of the record has that name;
`Record.named` picks the members of a name and so passes over all other fields.
-/

namespace SpokeSim

/-! ## Members of a name -/

/-- The last of the members of a name is the one that is found. -/
lemma member?_eq_getLast? (name : String) (ms : List (String × Json)) :
    (Json.obj ms).member? name = ((ms.filter fun m => m.1 = name).getLast?).map Prod.snd := by
  rw [List.getLast?_eq_head?_reverse, ← List.filter_reverse]
  show ms.reverse.lookup name = _
  generalize ms.reverse = ms
  induction ms with
  | nil => rfl
  | cons m ms ih =>
    rw [KeyMap.lookup_cons_ite, List.filter_cons]
    by_cases h : name = m.1
    · rw [if_pos h, if_pos (by simpa using h.symm)]; rfl
    · rw [if_neg h, if_neg (by simpa using Ne.symm h), ih]

namespace Record

variable {α β : Type} {name : String}

/-- The members of a name that a record writes. -/
def named (name : String) (r : Record α) (a : α) : List (String × Json) :=
  (r.write a).filter fun m => m.1 = name

lemma named_and (r : Record α) (s : Record β) (p : α × β) :
    (r.and s).named name p = r.named name p.1 ++ s.named name p.2 :=
  List.filter_append ..

lemma named_via (r : Record α) (build : α → β) (parts : β → α) (b : β) :
    (r.via build parts).named name b = r.named name (parts b) := rfl

lemma named_of_notMem {r : Record α} [r.Faithful] (h : name ∉ r.names) (a : α) :
    r.named name a = [] := by
  refine List.filter_eq_nil_iff.2 fun m hm => ?_
  have hne : m.1 ≠ name := fun heq => h (heq ▸ Faithful.name_mem a m hm)
  simpa using hne

lemma named_defaulted (c : Codec α) (default a : α) :
    (defaulted name c default).named name a = [(name, c.encode a)] := by
  simp [named, defaulted, lenient]

lemma named_optional (c : Codec α) (a : Option α) :
    (optional name c).named name a = a.toList.map fun a => (name, c.encode a) := by
  cases a <;> simp [named, optional, lenient]

lemma member?_encode (r : Record α) (name : String) (a : α) :
    (r.codec.encode a).member? name = ((r.named name a).getLast?).map Prod.snd :=
  member?_eq_getLast? name (r.write a)

end Record

/-! ## Names of objects -/

open Record

lemma member?_metadata (m : ObjectMeta) :
    (ObjectMeta.codec.encode m).member? "name" = m.name.map .str := by
  rw [ObjectMeta.codec, member?_encode]
  simp (disch := decide) only [ObjectMeta.record, named_via, named_and, named_of_notMem,
    named_optional, List.nil_append, List.append_nil]
  cases m.name <;> rfl

lemma member?_namespace (m : ObjectMeta) :
    (ObjectMeta.codec.encode m).member? "namespace" = m.space.map .str := by
  rw [ObjectMeta.codec, member?_encode]
  simp (disch := decide) only [ObjectMeta.record, named_via, named_and, named_of_notMem,
    named_optional, List.nil_append, List.append_nil]
  cases m.space <;> rfl

namespace Kind

/-- The kinds that the simulator stores. -/
def isStored : Kind → Bool
  | configMap | secret | serviceAccount | deployment | clusterRoleBinding => true
  | managedCluster | pod => false

lemma faithful_codec {k : Kind} (h : k.isStored = true) : k.codec.Faithful := by
  cases k with
  | configMap => exact inferInstanceAs ConfigMap.record.codec.Faithful
  | secret => exact inferInstanceAs Secret.record.codec.Faithful
  | serviceAccount => exact inferInstanceAs ServiceAccount.record.codec.Faithful
  | deployment => exact inferInstanceAs Deployment.record.codec.Faithful
  | clusterRoleBinding => exact inferInstanceAs ClusterRoleBinding.record.codec.Faithful
  | managedCluster | pod => cases h

lemma member?_encode {k : Kind} (h : k.isStored = true) (o : k.Object) :
    (k.codec.encode o).member? "metadata" = some (ObjectMeta.codec.encode (k.metadata o)) := by
  cases k with
  | configMap | secret | serviceAccount | deployment | clusterRoleBinding =>
    rw [codec, Record.member?_encode]
    simp (disch := decide) only [ConfigMap.record, Secret.record, ServiceAccount.record,
      Deployment.record, ClusterRoleBinding.record, named_via, named_and, named_of_notMem,
      named_defaulted, List.nil_append, List.append_nil]
    rfl
  | managedCluster | pod => cases h

/-- **An object is stored under its own name.** -/
theorem nameOf_encode {k : Kind} (h : k.isStored = true) (o : k.Object) :
    Hub.nameOf (k.codec.encode o) = (k.metadata o).name.getD "" := by
  rw [Hub.nameOf, member?_encode h, Option.bind_some, member?_metadata]
  cases (k.metadata o).name <;> rfl

end Kind

end SpokeSim
