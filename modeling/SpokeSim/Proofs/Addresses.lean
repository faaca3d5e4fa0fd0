import Mathlib.Data.List.Nodup
import Mathlib.Data.List.TakeWhile
import Mathlib.Tactic.Common
import SpokeSim.Simulator.Reap

/-!
# Where the objects of a cluster are

Paths are put together from names as they are, so what a path means depends on the names.  For names
as Kubernetes admits them, three things hold.

**They are paths.**  A text of path characters is read as the path that it spells, with or without
a question mark behind it (`Target.parse_path`, `Target.parse_path_open`), as long as it is not
too long: that bound is `Addressable`.

**They are apart.**  A key tells its cluster and its object (`objectKey_injective`): the beginning
tells the group, and in a namespace the name ends at the next slash.  So no key belongs to two
clusters (`Owns.unique`).

**Templates are the add-on's own objects.**  The five templates stand where the add-on's namespace
would have its objects if it were a cluster, so they belong to no other one
(`not_owns_templateKey`).
-/

namespace SpokeSim

/-! ## Texts as targets -/

namespace Target

/-- A text of path characters. -/
def IsPath (text : String) : Prop := text.toList.all isPathChar = true

instance (text : String) : Decidable (IsPath text) := inferInstanceAs (Decidable (_ = true))

lemma IsPath.append {s t : String} (hs : IsPath s) (ht : IsPath t) : IsPath (s ++ t) := by
  rw [IsPath, String.toList_append, List.all_append, hs, ht, Bool.and_true]

lemma ne_of_isPathChar {c : Char} (h : isPathChar c = true) : c ≠ '?' ∧ c ≠ '#' := by
  constructor <;> (rintro rfl; exact absurd h (by decide))

lemma parse_of_toList {text : String} {path rest : List Char} (htext : text.toList = path ++ rest)
    (hpath : ∀ c ∈ path, isPathChar c = true) (hrest : rest = [] ∨ rest = ['?'])
    (hsize : text.utf8ByteSize ≤ longest) : parse text = .ok ⟨String.ofList path, ""⟩ := by
  have hfragment : dropFragment text.toList = path ++ rest := by
    rw [htext, dropFragment, List.takeWhile_eq_self_iff]
    intro c hc
    rcases List.mem_append.1 hc with hc | hc
    · simpa using (ne_of_isPathChar (hpath c hc)).2
    · obtain rfl | rfl := hrest <;> simp at hc
      subst hc; decide
  have hquestion : ∀ c ∈ path, (c != '?') = true := fun c hc => by
    simpa using (ne_of_isPathChar (hpath c hc)).1
  have htake : (path ++ rest).takeWhile (· != '?') = path := by
    rw [List.takeWhile_append_of_pos hquestion]
    obtain rfl | rfl := hrest <;> simp
  have hdrop : ((path ++ rest).dropWhile (· != '?')).drop 1 = [] := by
    rw [List.dropWhile_append_of_pos hquestion]
    obtain rfl | rfl := hrest <;> simp
  rw [parse]
  simp only [hfragment, htake, hdrop]
  rw [if_neg (by omega), if_pos (by simpa using hpath)]
  rfl

/-- A text of path characters is a path. -/
lemma parse_path {path : String} (hpath : IsPath path) (hsize : path.utf8ByteSize ≤ longest) :
    parse path = .ok ⟨path, ""⟩ := by
  rw [parse_of_toList (List.append_nil _).symm (List.all_eq_true.1 hpath) (.inl rfl) hsize,
    String.ofList_toList]

/-- So it is with a question mark behind it. -/
lemma parse_path_open {path : String} (hpath : IsPath path)
    (hsize : path.utf8ByteSize < longest) : parse (path ++ "?") = .ok ⟨path, ""⟩ := by
  have hlength : (path ++ "?").utf8ByteSize ≤ longest := by
    rw [String.utf8ByteSize_append]
    exact hsize
  rw [parse_of_toList String.toList_append (List.all_eq_true.1 hpath) (.inr rfl) hlength,
    String.ofList_toList]

/-- A text that is too long is no target. -/
lemma parse_tooLong {text : String} (h : longest < text.utf8ByteSize) :
    parse text = .error .tooLong := by
  rw [parse]
  exact if_pos h

/-- With a question mark behind it, a text of path characters is that path or is too long. -/
lemma parse_open_cases {path : String} (hpath : IsPath path) :
    parse (path ++ "?") = .ok ⟨path, ""⟩ ∨ parse (path ++ "?") = .error .tooLong := by
  by_cases hsize : path.utf8ByteSize < longest
  · exact .inl (parse_path_open hpath hsize)
  · refine .inr (parse_tooLong ?_)
    have hquestion : (path ++ "?").utf8ByteSize = path.utf8ByteSize + 1 :=
      String.utf8ByteSize_append
    omega

end Target

/-! ## Names of clusters -/

/-- Whether a character may stand in a name: a lower-case letter, a digit, a hyphen or a dot. -/
def isNameChar (c : Char) : Bool :=
  ('a' ≤ c && c ≤ 'z') || ('0' ≤ c && c ≤ '9') || c == '-' || c == '.'

/-- A name as Kubernetes admits it, apart from its length. -/
structure IsClusterName (cluster : String) : Prop where
  ne_empty : cluster ≠ ""
  chars : ∀ c ∈ cluster.toList, isNameChar c = true

instance (cluster : String) : Decidable (IsClusterName cluster) :=
  decidable_of_iff (cluster ≠ "" ∧ cluster.toList.all isNameChar = true)
    ⟨fun h => ⟨h.1, List.all_eq_true.1 h.2⟩, fun h => ⟨h.1, List.all_eq_true.2 h.2⟩⟩

lemma isPathChar_of_isNameChar {c : Char} (h : isNameChar c = true) :
    Target.isPathChar c = true := by
  simp only [isNameChar, Bool.or_eq_true, Bool.and_eq_true, decide_eq_true_eq, beq_iff_eq] at h
  obtain ((⟨ha, hz⟩ | ⟨h0, h9⟩) | rfl) | rfl := h
  · have ha : 97 ≤ c.toNat := ha
    have hz : c.toNat ≤ 122 := hz
    simp [Target.isPathChar]
    omega
  · have h0 : 48 ≤ c.toNat := h0
    have h9 : c.toNat ≤ 57 := h9
    simp [Target.isPathChar]
    omega
  · decide
  · decide

lemma IsClusterName.isPath {cluster : String} (h : IsClusterName cluster) :
    Target.IsPath cluster :=
  List.all_eq_true.2 fun c hc => isPathChar_of_isNameChar (h.chars c hc)

lemma IsClusterName.slash_notMem {cluster : String} (h : IsClusterName cluster) :
    '/' ∉ cluster.toList :=
  fun hc => absurd (h.chars _ hc) (by decide)

/-! ## Keys of objects -/

/-- The key under which a hub keeps an object of a cluster. -/
def objectKey (cluster : String) (o : Kind × String) : String :=
  o.1.collection cluster ++ "/" ++ o.2

/-- The objects of a cluster that are copied from templates: they have the names of the templates,
which are those of the add-on's own objects. -/
def templateObjects : List (Kind × String) :=
  [(.deployment, collectorName),
    (.serviceAccount, endpointAccountName),
    (.secret, signerCertName),
    (.secret, managedCertName),
    (.configMap, caBundleName)]

lemma clusterObjects_eq (cluster : String) :
    clusterObjects cluster = (.clusterRoleBinding, bindingName cluster) :: templateObjects := rfl

lemma clusterKeys_eq (cluster : String) :
    clusterKeys cluster = (clusterObjects cluster).map (objectKey cluster) := rfl

/-- The keys of a cluster's objects, spelled out. -/
def sixKeys (cluster : String) : List String :=
  ["/apis/rbac.authorization.k8s.io/v1/clusterrolebindings" ++ "/" ++
      (cluster ++ "-clusters-metrics-collector-view"),
    "/apis/apps/v1/namespaces/" ++ cluster ++ "/deployments" ++ "/" ++
      "metrics-collector-deployment",
    "/api/v1/namespaces/" ++ cluster ++ "/serviceaccounts" ++ "/" ++
      "endpoint-observability-operator-sa",
    "/api/v1/namespaces/" ++ cluster ++ "/secrets" ++ "/" ++
      "observability-controller-open-cluster-management.io-observability-signer-client-cert",
    "/api/v1/namespaces/" ++ cluster ++ "/secrets" ++ "/" ++
      "observability-managed-cluster-certs",
    "/api/v1/namespaces/" ++ cluster ++ "/configmaps" ++ "/" ++
      "metrics-collector-serving-certs-ca-bundle"]

lemma clusterKeys_eq_sixKeys : clusterKeys = sixKeys := rfl

namespace Kind

/-- The path of a kind's collections as far as it is the same for all namespaces. -/
def start : Kind → String
  | configMap | secret | serviceAccount | pod => "/api/v1/namespaces/"
  | deployment => "/apis/apps/v1/namespaces/"
  | clusterRoleBinding => "/apis/rbac.authorization.k8s.io/v1/clusterrolebindings"
  | managedCluster => "/apis/cluster.open-cluster-management.io/v1/managedclusters"

/-- What stands behind the namespace in the path of a collection; nothing for a kind that has no
namespaces. -/
def plural? : Kind → Option String
  | configMap => some "/configmaps"
  | secret => some "/secrets"
  | serviceAccount => some "/serviceaccounts"
  | pod => some "/pods"
  | deployment => some "/deployments"
  | clusterRoleBinding | managedCluster => none

lemma collection_of_plural {k : Kind} {plural : String} (h : k.plural? = some plural)
    (space : String) : k.collection space = k.start ++ space ++ plural := by
  cases k <;> simp only [plural?, Option.some.injEq, reduceCtorEq] at h <;> subst h <;> rfl

lemma collection_of_plural_none {k : Kind} (h : k.plural? = none) (space : String) :
    k.collection space = k.start := by
  cases k <;> simp only [plural?, reduceCtorEq] at h <;> rfl

lemma isPath_start (k : Kind) : Target.IsPath k.start := by
  cases k <;> decide +kernel

lemma isPath_plural {k : Kind} {plural : String} (h : k.plural? = some plural) :
    Target.IsPath plural := by
  cases k <;> simp only [plural?, Option.some.injEq, reduceCtorEq] at h <;> subst h <;>
    decide +kernel

lemma isPath_collection (k : Kind) {space : String} (h : Target.IsPath space) :
    Target.IsPath (k.collection space) := by
  cases hplural : k.plural? with
  | none =>
    rw [collection_of_plural_none hplural]
    exact k.isPath_start
  | some plural =>
    rw [collection_of_plural hplural]
    exact (k.isPath_start.append h).append (isPath_plural hplural)

/-- The first seven characters of a kind's paths; they are enough to tell where paths begin. -/
def opening : Kind → List Char
  | configMap | secret | serviceAccount | pod => ['/', 'a', 'p', 'i', '/', 'v', '1']
  | deployment => ['/', 'a', 'p', 'i', 's', '/', 'a']
  | clusterRoleBinding => ['/', 'a', 'p', 'i', 's', '/', 'r']
  | managedCluster => ['/', 'a', 'p', 'i', 's', '/', 'c']

lemma exists_toList_start (k : Kind) : ∃ rest, k.start.toList = k.opening ++ rest :=
  ⟨k.start.toList.drop 7, by cases k <;> rfl⟩

lemma length_opening (k : Kind) : k.opening.length = 7 := by cases k <;> rfl

lemma start_eq_of_opening_eq {k k' : Kind} (h : k.opening = k'.opening) : k.start = k'.start := by
  cases k <;> cases k' <;> first | rfl | exact absurd h (by decide)

/-- Paths that begin alike are of kinds whose collections are at the same place. -/
lemma start_eq_of_append_eq {k k' : Kind} {rest rest' : String}
    (h : k.start ++ rest = k'.start ++ rest') : k.start = k'.start := by
  obtain ⟨more, hk⟩ := k.exists_toList_start
  obtain ⟨more', hk'⟩ := k'.exists_toList_start
  have hchars := congrArg String.toList h
  rw [String.toList_append, String.toList_append, hk, hk', List.append_assoc,
    List.append_assoc] at hchars
  exact start_eq_of_opening_eq
    (List.append_inj_left hchars (by rw [length_opening, length_opening]))

end Kind

/-! ### Keys tell their objects -/

lemma append_slash_injective {a b x y : List Char} (ha : '/' ∉ a) (hb : '/' ∉ b)
    (h : a ++ '/' :: x = b ++ '/' :: y) : a = b ∧ x = y := by
  induction a generalizing b with
  | nil =>
    cases b with
    | nil => exact ⟨rfl, (List.cons.inj h).2⟩
    | cons d b => exact absurd ((List.cons.inj h).1 ▸ List.mem_cons_self) hb
  | cons c a ih =>
    cases b with
    | nil => exact absurd ((List.cons.inj h).1 ▸ List.mem_cons_self) ha
    | cons d b =>
      obtain ⟨rfl, hrest⟩ := List.cons.inj h
      obtain ⟨rfl, rfl⟩ := ih (fun hs => ha (.tail _ hs)) (fun hs => hb (.tail _ hs)) hrest
      exact ⟨rfl, rfl⟩

/-- The part of a copy's key behind the namespace. -/
def keyTail (o : Kind × String) : String := o.1.plural?.getD "" ++ "/" ++ o.2

/-- An object in a namespace has the cluster's name in the middle of its key. -/
lemma objectKey_spaced {o : Kind × String} (ho : o.1.plural?.isSome = true) (cluster : String) :
    objectKey cluster o = o.1.start ++ (cluster ++ keyTail o) := by
  obtain ⟨plural, hplural⟩ := Option.isSome_iff_exists.1 ho
  rw [objectKey, Kind.collection_of_plural hplural, keyTail, hplural, Option.getD_some]
  simp only [String.append_assoc]

lemma isSome_plural_template {o : Kind × String} (ho : o ∈ templateObjects) :
    o.1.plural?.isSome = true := by
  have hsome : ∀ o ∈ templateObjects, o.1.plural?.isSome = true := by decide
  exact hsome o ho

lemma objectKey_template {o : Kind × String} (ho : o ∈ templateObjects) (cluster : String) :
    objectKey cluster o = o.1.start ++ (cluster ++ keyTail o) :=
  objectKey_spaced (isSome_plural_template ho) cluster

lemma objectKey_binding (cluster : String) :
    objectKey cluster (.clusterRoleBinding, bindingName cluster)
      = Kind.clusterRoleBinding.start ++ ("/" ++ bindingName cluster) := by
  rw [objectKey, Kind.collection_of_plural_none rfl, String.append_assoc]

lemma start_spaced_ne {k : Kind} (hk : k.plural?.isSome = true) :
    k.start ≠ Kind.clusterRoleBinding.start := by
  cases k with
  | clusterRoleBinding | managedCluster => cases hk
  | configMap | secret | serviceAccount | deployment | pod => simp [Kind.start]

/-- Behind the namespace there is a slash. -/
lemma Kind.exists_plural_eq {k : Kind} {plural : String} (h : k.plural? = some plural) :
    ∃ rest, plural.toList = '/' :: rest := by
  refine ⟨plural.toList.tail, ?_⟩
  cases k <;> cases h <;> rfl

lemma exists_keyTail_eq {o : Kind × String} (ho : o.1.plural?.isSome = true) :
    ∃ rest, (keyTail o).toList = '/' :: rest := by
  obtain ⟨plural, hplural⟩ := Option.isSome_iff_exists.1 ho
  obtain ⟨rest, hrest⟩ := Kind.exists_plural_eq hplural
  rw [keyTail, hplural, Option.getD_some, String.toList_append, String.toList_append, hrest]
  exact ⟨_, rfl⟩

/-- So the name of the cluster ends at the next slash. -/
lemma objectKey_spaced_eq {cluster cluster' : String} (hc : '/' ∉ cluster.toList)
    (hc' : '/' ∉ cluster'.toList) {o o' : Kind × String} (ho : o.1.plural?.isSome = true)
    (ho' : o'.1.plural?.isSome = true) (h : objectKey cluster o = objectKey cluster' o') :
    cluster = cluster' ∧ keyTail o = keyTail o' := by
  rw [objectKey_spaced ho, objectKey_spaced ho'] at h
  rw [Kind.start_eq_of_append_eq h, String.append_right_inj] at h
  obtain ⟨rest, hrest⟩ := exists_keyTail_eq ho
  obtain ⟨rest', hrest'⟩ := exists_keyTail_eq ho'
  have hchars := congrArg String.toList h
  rw [String.toList_append, String.toList_append, hrest, hrest'] at hchars
  obtain ⟨hcluster, hsame⟩ := append_slash_injective hc hc' hchars
  rw [hsame, ← hrest'] at hrest
  exact ⟨String.toList_injective hcluster, String.toList_injective hrest⟩

/-- No object in a namespace stands where a role binding does. -/
lemma objectKey_spaced_ne_binding {o : Kind × String} (ho : o.1.plural?.isSome = true)
    (cluster cluster' : String) :
    objectKey cluster o ≠ objectKey cluster' (.clusterRoleBinding, bindingName cluster') := by
  intro h
  rw [objectKey_spaced ho, objectKey_binding] at h
  exact start_spaced_ne ho (Kind.start_eq_of_append_eq h)

lemma objectKey_binding_injective {cluster cluster' : String}
    (h : objectKey cluster (.clusterRoleBinding, bindingName cluster)
      = objectKey cluster' (.clusterRoleBinding, bindingName cluster')) : cluster = cluster' := by
  rwa [objectKey_binding, objectKey_binding, String.append_right_inj, String.append_right_inj,
    bindingName, bindingName, String.append_left_inj] at h

lemma keyTail_injective {o o' : Kind × String} (ho : o ∈ templateObjects)
    (ho' : o' ∈ templateObjects) (h : keyTail o = keyTail o') : o = o' := by
  have hinj : ∀ o ∈ templateObjects, ∀ o' ∈ templateObjects, keyTail o = keyTail o' → o = o' := by
    decide +kernel
  exact hinj o ho o' ho' h

/-- **A key tells its cluster and its object.** -/
lemma objectKey_injective {cluster cluster' : String} (hc : '/' ∉ cluster.toList)
    (hc' : '/' ∉ cluster'.toList) {o o' : Kind × String} (ho : o ∈ clusterObjects cluster)
    (ho' : o' ∈ clusterObjects cluster') (h : objectKey cluster o = objectKey cluster' o') :
    cluster = cluster' ∧ o = o' := by
  rw [clusterObjects_eq, List.mem_cons] at ho ho'
  rcases ho with rfl | ho <;> rcases ho' with rfl | ho'
  · obtain rfl := objectKey_binding_injective h
    exact ⟨rfl, rfl⟩
  · exact absurd h.symm (objectKey_spaced_ne_binding (isSome_plural_template ho') _ _)
  · exact absurd h (objectKey_spaced_ne_binding (isSome_plural_template ho) _ _)
  · obtain ⟨hcluster, htail⟩ := objectKey_spaced_eq hc hc' (isSome_plural_template ho)
      (isSome_plural_template ho') h
    exact ⟨hcluster, keyTail_injective ho ho' htail⟩

/-! ### Keys of one cluster, of two, and of the templates -/

lemma nodup_clusterObjects (cluster : String) : (clusterObjects cluster).Nodup := by
  rw [clusterObjects_eq, List.nodup_cons]
  refine ⟨fun h => ?_, by decide⟩
  exact absurd rfl (start_spaced_ne (isSome_plural_template h))

lemma nodup_clusterKeys {cluster : String} (h : IsClusterName cluster) :
    (clusterKeys cluster).Nodup := by
  rw [clusterKeys_eq]
  refine List.Nodup.map_on (fun o ho o' ho' hkey => ?_) (nodup_clusterObjects cluster)
  exact (objectKey_injective h.slash_notMem h.slash_notMem ho ho' hkey).2

/-- A key belongs to a cluster: it is in the cluster's namespace, or that of its role binding. -/
def Owns (cluster key : String) : Prop :=
  key = objectKey cluster (.clusterRoleBinding, bindingName cluster) ∨
    ∃ o : Kind × String, o.1.plural?.isSome = true ∧ key = objectKey cluster o

lemma owns_of_mem_clusterKeys {cluster key : String} (hkey : key ∈ clusterKeys cluster) :
    Owns cluster key := by
  obtain ⟨o, ho, rfl⟩ := List.mem_map.1 hkey
  rw [clusterObjects_eq, List.mem_cons] at ho
  rcases ho with rfl | ho
  · exact .inl rfl
  · exact .inr ⟨o, isSome_plural_template ho, rfl⟩

/-- **No key belongs to two clusters.** -/
lemma Owns.unique {cluster cluster' key : String} (hc : '/' ∉ cluster.toList)
    (hc' : '/' ∉ cluster'.toList) (h : Owns cluster key) (h' : Owns cluster' key) :
    cluster = cluster' := by
  obtain hkey | ⟨o, ho, hkey⟩ := h <;> obtain hkey' | ⟨o', ho', hkey'⟩ := h' <;>
    rw [hkey] at hkey'
  · exact objectKey_binding_injective hkey'
  · exact absurd hkey'.symm (objectKey_spaced_ne_binding ho' _ _)
  · exact absurd hkey' (objectKey_spaced_ne_binding ho _ _)
  · exact (objectKey_spaced_eq hc hc' ho ho' hkey').1

lemma notMem_clusterKeys_of_ne {cluster cluster' key : String} (h : IsClusterName cluster)
    (h' : IsClusterName cluster') (hne : cluster ≠ cluster') (hkey : key ∈ clusterKeys cluster) :
    key ∉ clusterKeys cluster' :=
  fun hkey' => hne ((owns_of_mem_clusterKeys hkey).unique h.slash_notMem h'.slash_notMem
    (owns_of_mem_clusterKeys hkey'))

lemma isClusterName_addonNamespace : IsClusterName addonNamespace := by decide +kernel

/-- The key of a template. -/
def templateKey (o : Kind × String) : String := objectKey addonNamespace o

/-- The templates belong to the add-on's namespace. -/
lemma owns_templateKey {o : Kind × String} (ho : o ∈ templateObjects) :
    Owns addonNamespace (templateKey o) :=
  .inr ⟨o, isSome_plural_template ho, rfl⟩

lemma not_owns_templateKey {cluster : String} (h : IsClusterName cluster)
    (hne : cluster ≠ addonNamespace) {o : Kind × String} (ho : o ∈ templateObjects) :
    ¬Owns cluster (templateKey o) :=
  fun howns => hne (howns.unique h.slash_notMem isClusterName_addonNamespace.slash_notMem
    (owns_templateKey ho))

lemma templateKey_notMem_clusterKeys {cluster : String} (h : IsClusterName cluster)
    (hne : cluster ≠ addonNamespace) {o : Kind × String} (ho : o ∈ templateObjects) :
    templateKey o ∉ clusterKeys cluster :=
  fun hkey => not_owns_templateKey h hne ho (owns_of_mem_clusterKeys hkey)

/-! ## Keys as targets -/

lemma isPath_objectKey {cluster : String} (h : IsClusterName cluster) {o : Kind × String}
    (ho : o ∈ clusterObjects cluster) : Target.IsPath (objectKey cluster o) := by
  have htemplates : ∀ o ∈ templateObjects, Target.IsPath o.2 := by decide +kernel
  have hname : Target.IsPath o.2 := by
    rw [clusterObjects_eq, List.mem_cons] at ho
    rcases ho with rfl | ho
    · exact h.isPath.append (by decide)
    · exact htemplates o ho
  exact ((o.1.isPath_collection h.isPath).append (by decide)).append hname

/-- A cluster's name is short enough for the paths of its objects, and a question mark behind
them, to be targets. -/
def Addressable (cluster : String) : Prop :=
  ∀ key ∈ clusterKeys cluster, key.utf8ByteSize < Target.longest

instance (cluster : String) : Decidable (Addressable cluster) :=
  inferInstanceAs (Decidable (∀ key ∈ clusterKeys cluster, key.utf8ByteSize < Target.longest))

/-- What the key of an object has beside the name of its cluster. -/
def overhead (o : Kind × String) : Nat :=
  if o.1 = .clusterRoleBinding then
    Kind.clusterRoleBinding.start.utf8ByteSize + ("/" ++ bindingName "").utf8ByteSize
  else o.1.start.utf8ByteSize + (keyTail o).utf8ByteSize

lemma utf8ByteSize_objectKey {cluster : String} {o : Kind × String}
    (ho : o ∈ clusterObjects cluster) :
    (objectKey cluster o).utf8ByteSize = cluster.utf8ByteSize + overhead o := by
  rw [clusterObjects_eq, List.mem_cons] at ho
  rcases ho with rfl | ho
  · rw [objectKey_binding, overhead, if_pos rfl]
    simp only [bindingName, String.utf8ByteSize_append, String.utf8ByteSize_empty]
    omega
  · have hkind : o.1 ≠ .clusterRoleBinding := by revert o; decide
    rw [objectKey_template ho, overhead, if_neg hkind]
    simp only [String.utf8ByteSize_append]
    omega

lemma overhead_le {cluster : String} {o : Kind × String} (ho : o ∈ clusterObjects cluster) :
    overhead o ≤ overhead (.secret, signerCertName) := by
  rw [clusterObjects_eq, List.mem_cons] at ho
  rcases ho with rfl | ho
  · rw [overhead, if_pos rfl]
    decide +kernel
  · revert o; decide +kernel

lemma le_overhead {cluster : String} {o : Kind × String} (ho : o ∈ clusterObjects cluster) :
    60 ≤ overhead o := by
  rw [clusterObjects_eq, List.mem_cons] at ho
  rcases ho with rfl | ho
  · rw [overhead, if_pos rfl]
    decide +kernel
  · revert o; decide +kernel

/-- The longest key is that of the signer's certificate, and 112 bytes of it are not the cluster's
name. -/
theorem addressable_iff (cluster : String) :
    Addressable cluster ↔ cluster.utf8ByteSize + 112 < Target.longest := by
  have hlongest : overhead (.secret, signerCertName) = 112 := by decide +kernel
  have hsigner : (Kind.secret, signerCertName) ∈ clusterObjects cluster := by
    simp [clusterObjects]
  constructor
  · intro h
    have hkey := h (objectKey cluster (.secret, signerCertName)) (List.mem_map_of_mem hsigner)
    rwa [utf8ByteSize_objectKey hsigner, hlongest] at hkey
  · intro h key hkey
    obtain ⟨o, ho, rfl⟩ := List.mem_map.1 hkey
    have hsize := utf8ByteSize_objectKey ho
    have hle := overhead_le ho
    show (objectKey cluster o).utf8ByteSize < _
    omega

/-- The path of a collection is shorter than those of its objects. -/
lemma parse_collection {cluster : String} (h : IsClusterName cluster) {o : Kind × String}
    (hsize : (objectKey cluster o).utf8ByteSize < Target.longest) :
    Target.parse (o.1.collection cluster ++ "?") = .ok ⟨o.1.collection cluster, ""⟩ := by
  refine Target.parse_path_open (o.1.isPath_collection h.isPath) ?_
  simp only [objectKey, String.utf8ByteSize_append] at hsize
  omega

lemma parse_templateKey {o : Kind × String} (ho : o ∈ templateObjects) :
    Target.parse (templateKey o) = .ok ⟨templateKey o, ""⟩ := by
  have hsize : ∀ o ∈ templateObjects, (templateKey o).utf8ByteSize ≤ Target.longest := by
    decide +kernel
  exact Target.parse_path
    (isPath_objectKey isClusterName_addonNamespace (List.mem_cons_of_mem _ ho)) (hsize o ho)

end SpokeSim
