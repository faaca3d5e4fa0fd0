import SpokeSim.Proofs.Codec.Naming
import SpokeSim.Proofs.Provisioning

/-!
# What a plain hub answers

A hub without routes that keeps objects (`Hub.isPlain`) answers from its objects alone.

**Reading.**  A template is read as what the hub keeps under its key (`Hub.read?`), and the hub
stays as it is.

**Storing.**  An object is accepted in any case, and it is kept under its name unless there is
something already (`Hub.addNew`).  So the hub grows (`Hub.Grows`): whatever it keeps it goes on to
keep.

**Templates.**  They are named if each that can be read bears the name under which it is read, and
ready if each can be read, is named and can be used; both depend on what is kept under their keys
alone (`Hub.read?_template`).
-/

namespace SpokeSim

namespace Hub

variable {h : Hub}

/-! ## Answers -/

lemma answer_of_isPlain (hplain : h.isPlain = true) (q : Request) :
    h.answer q = h.fromObjects q := by
  obtain ⟨hroutes, hstateful⟩ : h.routes = [] ∧ h.stateful = true := by
    simpa [isPlain] using hplain
  have hroute : h.routeFor? q = none := by rw [routeFor?, hroutes]; rfl
  simp only [answer, hroute, hstateful, if_true]

/-- The object of a kind that a hub keeps under a key. -/
def read? (h : Hub) (k : Kind) (key : String) : Option k.Object :=
  (h.objects.get? key).bind k.codec.ofJson?

lemma contains_of_read? {k : Kind} {key : String} {o : k.Object} (hread : h.read? k key = some o) :
    h.objects.contains key = true := by
  obtain ⟨j, hj, -⟩ := Option.bind_eq_some_iff.1 hread
  rw [KeyMap.contains, hj]
  rfl

/-- The hub with a document under a key, unless there is one already. -/
def addNew (h : Hub) (key : String) (j : Json) : Hub :=
  if h.objects.contains key then h else { h with objects := h.objects.insert key j }

lemma fromObjects_get_some {path : String} {j : Json} (hj : h.objects.get? path = some j) :
    h.fromObjects { method := .get, target := { path } } = (⟨200, .document j⟩, h) := by
  simp only [fromObjects, hj]

lemma fromObjects_get_none {path : String} (hnone : h.objects.get? path = none)
    (hlast : lastSegment path ∉ collections) :
    h.fromObjects { method := .get, target := { path } } = (.notFound path, h) := by
  simp only [fromObjects, hnone, if_neg hlast]

/-- The last segment is what stands behind the last slash. -/
lemma lastSegment_append (path : String) {name : String} (h : '/' ∉ name.toList) :
    lastSegment (path ++ "/" ++ name) = name := by
  have hname : ∀ c ∈ name.toList.reverse, (c != '/') = true := by
    intro c hc
    rw [bne_iff_ne]
    rintro rfl
    exact h (List.mem_reverse.1 hc)
  have hslash : "/".toList = ['/'] := rfl
  rw [lastSegment, String.toList_append, String.toList_append, List.reverse_append,
    List.takeWhile_append_of_pos hname, hslash, List.reverse_append]
  simp [String.ofList_toList]

lemma lastSegment_templateKey {o : Kind × String} (ho : o ∈ templateObjects) :
    lastSegment (templateKey o) ∉ collections := by
  have hname : ∀ o ∈ templateObjects, '/' ∉ o.2.toList ∧ o.2 ∉ collections := by decide +kernel
  rw [templateKey, objectKey, lastSegment_append _ (hname o ho).1]
  exact (hname o ho).2

/-- A plain hub reads a template, and stays as it is. -/
lemma answer_reading (hplain : h.isPlain = true) {k : Kind} {name : String}
    (hk : (k, name) ∈ templateObjects) :
    (h.answer (reading k name)).2 = h ∧
      (h.answer (reading k name)).1.object? k = h.read? k (templateKey (k, name)) := by
  rw [answer_of_isPlain hplain, reading, read?]
  cases hget : h.objects.get? (templateKey (k, name)) with
  | none =>
    rw [fromObjects_get_none hget (lastSegment_templateKey hk)]
    exact ⟨rfl, Answer.object?_of_isFailure rfl⟩
  | some j =>
    rw [fromObjects_get_some hget]
    exact ⟨rfl, Answer.object?_of_fits rfl rfl⟩

lemma accepts_conflict (k : Kind) (key : String) : (Answer.conflict key).accepts k = true := rfl

lemma accepts_created {k : Kind} (hk : k.isStored = true) (o : k.Object) :
    (Answer.mk 201 (.document (k.codec.encode o))).accepts k = true := by
  have := Kind.faithful_codec hk
  have hobject : (Answer.mk 201 (.document (k.codec.encode o))).object? k = some o := by
    rw [Answer.object?_of_fits rfl rfl, Codec.Faithful.decode_encode]; rfl
  rw [Answer.accepts, hobject]; rfl

/-- A plain hub accepts every object, and keeps it unless its key is taken. -/
lemma answer_posting (hplain : h.isPlain = true) {k : Kind} (hk : k.isStored = true)
    (o : k.Object) (target : Target) :
    let q : Request := { method := .post, target, body := some (k.codec.encode o) }
    (h.answer q).1.accepts k = true ∧
      (h.answer q).2
        = h.addNew (target.path ++ "/" ++ (k.metadata o).name.getD "") (k.codec.encode o) := by
  simp only [answer_of_isPlain hplain, fromObjects, Option.getD_some, Kind.nameOf_encode hk, addNew]
  split
  · exact ⟨accepts_conflict k _, rfl⟩
  · exact ⟨accepts_created hk o, rfl⟩

/-! ## Growth -/

/-- A hub has grown under some keys: it still keeps what it kept, and has nothing new elsewhere. -/
structure Grows (keys : List String) (h h' : Hub) : Prop where
  plain : h.isPlain = true → h'.isPlain = true
  kept : ∀ key, h.objects.contains key = true → h'.objects.get? key = h.objects.get? key
  within : ∀ key, key ∉ keys → h'.objects.get? key = h.objects.get? key

namespace Grows

variable {keys : List String} {h' h'' : Hub}

protected lemma refl (keys : List String) (h : Hub) : Grows keys h h :=
  ⟨id, fun _ _ => rfl, fun _ _ => rfl⟩

lemma contains (hgrows : Grows keys h h') {key : String} (hkey : h.objects.contains key = true) :
    h'.objects.contains key = true := by
  rw [KeyMap.contains, hgrows.kept key hkey]
  exact hkey

protected lemma trans (hgrows : Grows keys h h') (hgrows' : Grows keys h' h'') :
    Grows keys h h'' where
  plain hplain := hgrows'.plain (hgrows.plain hplain)
  kept key hkey := (hgrows'.kept key (hgrows.contains hkey)).trans (hgrows.kept key hkey)
  within key hkey := (hgrows'.within key hkey).trans (hgrows.within key hkey)

end Grows

lemma grows_addNew {keys : List String} {key : String} (hkey : key ∈ keys) (j : Json) :
    Grows keys h (h.addNew key j) := by
  rw [addNew]
  split
  case isTrue => exact .refl keys h
  case isFalse hfree =>
    refine ⟨id, fun key' hkey' => ?_, fun key' hkey' => ?_⟩ <;> rw [KeyMap.get?_insert, if_neg]
    · rintro rfl; exact hfree hkey'
    · rintro rfl; exact hkey' hkey

lemma contains_addNew (key : String) (j : Json) :
    (h.addNew key j).objects.contains key = true := by
  rw [addNew]
  split
  case isTrue hkey => exact hkey
  case isFalse => rw [KeyMap.contains, KeyMap.get?_insert, if_pos rfl]; rfl

/-! ## Templates -/

/-- Every template that can be read bears the name under which it is read. -/
def TemplatesNamed (h : Hub) : Prop :=
  ∀ o ∈ templateObjects, ∀ template, h.read? o.1 (templateKey o) = some template →
    (o.1.metadata template).name = some o.2

/-- All templates can be read, bear the names under which they are read, and are usable. -/
def TemplatesReady (h : Hub) : Prop :=
  ∀ o ∈ templateObjects, ∃ template, h.read? o.1 (templateKey o) = some template ∧
    (o.1.metadata template).name = some o.2 ∧ o.1.Usable template

lemma TemplatesReady.contains (hready : h.TemplatesReady) {o : Kind × String}
    (ho : o ∈ templateObjects) : h.objects.contains (templateKey o) = true := by
  obtain ⟨template, hread, -⟩ := hready o ho
  exact contains_of_read? hread

lemma TemplatesReady.named (hready : h.TemplatesReady) : h.TemplatesNamed := by
  intro o ho template hread
  obtain ⟨template', hread', hname, -⟩ := hready o ho
  obtain rfl : template' = template := Option.some.inj (hread'.symm.trans hread)
  exact hname

/-- Two hubs keep the same templates. -/
def SameTemplates (h h' : Hub) : Prop :=
  ∀ o ∈ templateObjects, h'.objects.get? (templateKey o) = h.objects.get? (templateKey o)

protected lemma SameTemplates.trans {h' h'' : Hub} (hsame : h.SameTemplates h')
    (hsame' : h'.SameTemplates h'') : h.SameTemplates h'' :=
  fun o ho => (hsame' o ho).trans (hsame o ho)

/-- Templates only depend on what is kept under their keys. -/
lemma read?_template {h' : Hub} (hsame : h.SameTemplates h') {o : Kind × String}
    (ho : o ∈ templateObjects) :
    h'.read? o.1 (templateKey o) = h.read? o.1 (templateKey o) := by
  rw [read?, hsame o ho, read?]

end Hub

end SpokeSim
