import SpokeSim.Proofs.Footprint

/-!
# Copies of objects

A template is copied by moving it into a namespace.  What a move changes, and that it changes
nothing else, is said twice.

**Of objects.**  `ObjectMeta.IsMoved` says what becomes of each part of the metadata, and
`Kind.IsCopy` that the object is the same otherwise.  Both tell exactly what a copy is
(`Kind.isCopy_iff`).

**Of documents.**  `Json.IsMoved` and `Json.IsCopy` say the same of the members that are written: a
part that is dropped leaves no member behind, and a part that is kept is written as it was, or left
out as it was (`Kind.IsCopy.encode`).
-/

namespace SpokeSim

/-! ## Objects -/

namespace ObjectMeta

/-- Metadata without the parts that a move touches. -/
def untouched (m : ObjectMeta) : ObjectMeta :=
  { m with
    space := none
    resourceVersion := none
    uid := none
    creationTimestamp := none
    managedFields := none
    ownerReferences := none }

/-- **Metadata are moved to a namespace**: they name it as their own, what the hub has put into them
is gone, the owners are gone if asked for, and all else is the same. -/
structure IsMoved (disowned : Bool) (space : String) (m m' : ObjectMeta) : Prop where
  space_eq : m'.space = some space
  resourceVersion : m'.resourceVersion = none
  uid : m'.uid = none
  creationTimestamp : m'.creationTimestamp = none
  managedFields : m'.managedFields = none
  ownerReferences : m'.ownerReferences = if disowned then none else m.ownerReferences
  untouched : m'.untouched = m.untouched

/-- Metadata are what a move leaves and what it touches. -/
lemma ext_untouched {m m' : ObjectMeta} (hspace : m'.space = m.space)
    (hversion : m'.resourceVersion = m.resourceVersion) (huid : m'.uid = m.uid)
    (hcreated : m'.creationTimestamp = m.creationTimestamp)
    (hmanaged : m'.managedFields = m.managedFields)
    (howners : m'.ownerReferences = m.ownerReferences) (h : m'.untouched = m.untouched) :
    m' = m := by
  cases m
  cases m'
  simp only [untouched, mk.injEq] at *
  simp only [h, hspace, hversion, huid, hcreated, hmanaged, howners, and_self]

lemma isMoved_iff {disowned : Bool} {space : String} {m m' : ObjectMeta} :
    m.IsMoved disowned space m' ↔ m' = m.clone disowned space := by
  have hclone : m.IsMoved disowned space (m.clone disowned space) := by
    cases disowned <;> exact ⟨rfl, rfl, rfl, rfl, rfl, rfl, rfl⟩
  constructor
  · intro h
    exact ext_untouched (h.space_eq.trans hclone.space_eq.symm)
      (h.resourceVersion.trans hclone.resourceVersion.symm) (h.uid.trans hclone.uid.symm)
      (h.creationTimestamp.trans hclone.creationTimestamp.symm)
      (h.managedFields.trans hclone.managedFields.symm)
      (h.ownerReferences.trans hclone.ownerReferences.symm)
      (h.untouched.trans hclone.untouched.symm)
  · rintro rfl
    exact hclone

end ObjectMeta

namespace Kind

variable {k : Kind} {disowned : Bool} {space : String} {o o' : k.Object}

/-- **An object is a copy of another one** in a namespace: its metadata are moved there, and apart
from metadata it is the same. -/
structure IsCopy (k : Kind) (disowned : Bool) (space : String) (o o' : k.Object) : Prop where
  metadata : (k.metadata o).IsMoved disowned space (k.metadata o')
  rest : k.setMetadata o' {} = k.setMetadata o {}

/-- An object is its metadata and the rest. -/
lemma ext_metadata (hmetadata : k.metadata o' = k.metadata o)
    (hrest : k.setMetadata o' {} = k.setMetadata o {}) : o' = o := by
  cases k <;> cases o <;> cases o' <;> simp_all [Kind.metadata, setMetadata]

lemma isCopy_iff : k.IsCopy disowned space o o' ↔ o' = k.clone disowned space o := by
  have hmetadata : k.metadata (k.clone disowned space o) = (k.metadata o).clone disowned space :=
    k.metadata_clone disowned space o
  have hrest : k.setMetadata (k.clone disowned space o) {} = k.setMetadata o {} := by
    cases k <;> rfl
  constructor
  · intro h
    refine ext_metadata ?_ (h.rest.trans hrest.symm)
    rw [hmetadata]
    exact ObjectMeta.isMoved_iff.1 h.metadata
  · rintro rfl
    exact ⟨ObjectMeta.isMoved_iff.2 hmetadata, hrest⟩

end Kind

/-! ## Documents -/

namespace Json

/-- The document of metadata that are moved to a namespace. -/
structure IsMoved (disowned : Bool) (space : String) (m m' : Json) : Prop where
  space_eq : m'.member? "namespace" = some (.str space)
  dropped : ∀ name ∈ ["resourceVersion", "uid", "creationTimestamp", "managedFields"],
    m'.member? name = none
  ownerReferences :
    m'.member? "ownerReferences" = if disowned then none else m.member? "ownerReferences"
  untouched : ∀ name ∉ ["namespace", "resourceVersion", "uid", "creationTimestamp", "managedFields",
    "ownerReferences"], m'.member? name = m.member? name

/-- The document of an object whose metadata are moved to a namespace. -/
def HasMoved (disowned : Bool) (space : String) (j j' : Json) : Prop :=
  ∃ m m', j.member? "metadata" = some m ∧ j'.member? "metadata" = some m' ∧
    m.IsMoved disowned space m'

/-- The document of a copy in a namespace. -/
structure IsCopy (disowned : Bool) (space : String) (j j' : Json) : Prop where
  metadata : j.HasMoved disowned space j'
  rest : ∀ name, name ≠ "metadata" → j'.member? name = j.member? name

end Json

section

open Record

variable {disowned : Bool} {space : String}

lemma Record.named_optional_of_ne {α : Type} {name field : String} {c : Codec α} [c.Faithful]
    (h : name ≠ field) (a : Option α) : (optional field c).named name a = [] :=
  named_of_notMem (by simpa [Record.optional, lenient] using h) a

/-- **What is written of moved metadata.** -/
lemma ObjectMeta.IsMoved.encode {m m' : ObjectMeta} (h : m.IsMoved disowned space m') :
    (codec.encode m).IsMoved disowned space (codec.encode m') := by
  obtain rfl := isMoved_iff.1 h
  constructor
  case space_eq => rw [member?_namespace, h.space_eq, Option.map_some]
  case dropped =>
    intro name hname
    simp only [List.mem_cons, List.not_mem_nil, or_false] at hname
    obtain rfl | rfl | rfl | rfl := hname <;>
    · rw [codec, Record.member?_encode]
      simp (disch := decide) only [record, named_via, named_and, named_of_notMem, named_optional,
        List.nil_append, List.append_nil, h.resourceVersion, h.uid, h.creationTimestamp,
        h.managedFields]
      rfl
  case ownerReferences =>
    rw [codec, Record.member?_encode, Record.member?_encode]
    simp (disch := decide) only [record, named_via, named_and, named_of_notMem, named_optional,
      List.nil_append, List.append_nil, h.ownerReferences]
    cases disowned <;> rfl
  case untouched =>
    intro name hname
    simp only [List.mem_cons, List.not_mem_nil, or_false, not_or] at hname
    obtain ⟨hspace, hversion, huid, hcreated, hmanaged, howners⟩ := hname
    rw [codec, Record.member?_encode, Record.member?_encode]
    -- the fields that are touched have other names, and the others are the same
    simp (disch := assumption) only [record, named_via, named_and, named_optional_of_ne]
    cases disowned <;> rfl

namespace Kind

variable {k : Kind} {o o' : k.Object}

/-- Apart from metadata, an object is written from the rest of it. -/
lemma member?_encode_setMetadata (h : k.isStored = true) (o : k.Object) (m : ObjectMeta)
    {name : String} (hname : name ≠ "metadata") :
    (k.codec.encode (k.setMetadata o m)).member? name = (k.codec.encode o).member? name := by
  have hnotMem : name ∉ (defaulted "metadata" ObjectMeta.codec {}).names := by
    simpa [defaulted, lenient] using hname
  cases k with
  | configMap | secret | serviceAccount | deployment | clusterRoleBinding =>
    rw [codec, Record.member?_encode, Record.member?_encode]
    simp only [ConfigMap.record, Secret.record, ServiceAccount.record, Deployment.record,
      ClusterRoleBinding.record, named_via, named_and, named_of_notMem hnotMem]
    rfl
  | managedCluster | pod => cases h

lemma hasMoved_encode (h : k.isStored = true)
    (hmoved : (k.metadata o).IsMoved disowned space (k.metadata o')) :
    (k.codec.encode o).HasMoved disowned space (k.codec.encode o') :=
  ⟨_, _, member?_encode h o, member?_encode h o', hmoved.encode⟩

/-- **What is written of a copy.** -/
lemma IsCopy.encode (h : k.isStored = true) (hcopy : k.IsCopy disowned space o o') :
    (k.codec.encode o).IsCopy disowned space (k.codec.encode o') where
  metadata := hasMoved_encode h hcopy.metadata
  rest name hname := by
    rw [← member?_encode_setMetadata h o' {} hname, hcopy.rest,
      member?_encode_setMetadata h o {} hname]

end Kind

end

end SpokeSim
