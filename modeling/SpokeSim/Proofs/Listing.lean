import SpokeSim.Cleanup
import SpokeSim.Proofs.Footprint

/-!
# The list of clusters

A plain hub lists the clusters that it keeps below one path, and stays as it is.

* `IsListKey.not_owns`: nothing there belongs to the part of a cluster, so whatever is done for
  clusters leaves the list as it is.
* `listClusters_congr`: the list depends on what is kept there alone.
* `valueOf_listing`: a list of documents is read as the list of their objects.

At the end there is a hub with one cluster of any name.
-/

namespace SpokeSim

open Codec Record
open Json (Draft)

variable {h h' : Hub} {w w' : World} {key : String}

/-! ## Where clusters are listed -/

lemma startsWith_iff {s start : String} :
    startsWith s start = true ↔ ∃ rest, s = start ++ rest := by
  rw [startsWith, List.isPrefixOf_iff_prefix]
  constructor
  · rintro ⟨rest, hrest⟩
    refine ⟨String.ofList rest, String.toList_injective ?_⟩
    rw [String.toList_append, String.toList_ofList, hrest]
  · rintro ⟨rest, rfl⟩
    rw [String.toList_append]
    exact List.prefix_append ..

/-- A key is that of a managed cluster, or of the list of them. -/
def IsListKey (key : String) : Prop := startsWith key Kind.managedCluster.start = true

lemma isListKey_start : IsListKey Kind.managedCluster.start :=
  startsWith_iff.2 ⟨"", (String.append_empty ..).symm⟩

lemma isListKey_of_isBelow (hkey : Hub.isBelow Kind.managedCluster.start key = true) :
    IsListKey key := by
  rw [Hub.isBelow, Bool.and_eq_true, startsWith_iff] at hkey
  obtain ⟨⟨rest, rfl⟩, -⟩ := hkey
  rw [String.append_assoc]
  exact startsWith_iff.2 ⟨_, rfl⟩

lemma isBelow_append (collection : String) {name : String} (hname : '/' ∉ name.toList) :
    Hub.isBelow collection (collection ++ "/" ++ name) = true := by
  have hrest : (collection ++ "/" ++ name).toList.drop (collection.length + 1) = name.toList := by
    rw [String.toList_append]
    refine List.drop_left' ?_
    rw [String.toList_append, List.length_append, String.length_toList]
    rfl
  rw [Hub.isBelow, hrest, startsWith_iff.2 ⟨name, rfl⟩]
  simpa using hname

/-- **No such key belongs to a cluster.** -/
lemma IsListKey.not_owns (hkey : IsListKey key) (cluster : String) : ¬Owns cluster key := by
  obtain ⟨rest, rfl⟩ := startsWith_iff.1 hkey
  rintro (hbinding | ⟨o, ho, hspaced⟩)
  · rw [objectKey_binding] at hbinding
    exact absurd (Kind.start_eq_of_append_eq hbinding) (by decide +kernel)
  · rw [objectKey_spaced ho] at hspaced
    have hstart := Kind.start_eq_of_append_eq hspaced
    revert ho hstart
    cases o.1 with
    | clusterRoleBinding | managedCluster => exact fun ho => nomatch ho
    | configMap | secret | serviceAccount | deployment | pod => exact fun _ => by decide +kernel

/-! ## Asking for the list -/

/-- The request for the list. -/
def listRequest : Request := { method := .get, target := { path := Kind.managedCluster.start } }

lemma fromObjects_listRequest (h : Hub) :
    h.fromObjects listRequest = (match h.objects.get? Kind.managedCluster.start with
      | some j => ⟨200, .document j⟩
      | none => .listing (h.listed Kind.managedCluster.start), h) := by
  have hcollection : Hub.lastSegment Kind.managedCluster.start ∈ Hub.collections := by
    decide +kernel
  rw [listRequest, Hub.fromObjects]
  cases h.objects.get? Kind.managedCluster.start with
  | some j => rfl
  | none =>
    simp only [if_pos hcollection]
    rfl

lemma request?_listRequest :
    request? .get (Kind.managedCluster.collection "" ++ "?" ++ "") = some listRequest := by
  refine request?_of_parse ?_
  rw [String.append_empty]
  exact Target.parse_path_open Kind.managedCluster.isPath_start (by decide +kernel)

/-- Asking for the list is one request, and the list is what is read from its answer. -/
lemma listClusters_leads (w : World) :
    (listClusters w).1 = Api.valueOf (Api.Listing.record .managedCluster).codec.decode
        (w.hub.answer listRequest).1 ∧
      w.Leads [listRequest] 0 (listClusters w).2 := by
  rw [listClusters, Api.list, Api.call_of_some request?_listRequest]
  exact ⟨rfl, Api.call_leads_of_some request?_listRequest w⟩

/-- A plain hub gives its list, and stays as it is. -/
lemma listClusters_plain (hplain : w.hub.isPlain = true) :
    (listClusters w).1 = Api.valueOf (Api.Listing.record .managedCluster).codec.decode
        (w.hub.fromObjects listRequest).1 ∧
      (listClusters w).2.hub = w.hub := by
  obtain ⟨hlist, hleads⟩ := listClusters_leads w
  rw [hlist, hleads.hub, Hub.answer_of_isPlain hplain]
  refine ⟨rfl, ?_⟩
  show (w.hub.answer listRequest).2 = w.hub
  rw [Hub.answer_of_isPlain hplain, fromObjects_listRequest]

/-- **Hubs that keep the same for the list give the same list.** -/
lemma listClusters_congr (hplain : w.hub.isPlain = true) (hplain' : w'.hub.isPlain = true)
    (hsame : ∀ key, IsListKey key → w'.hub.objects.get? key = w.hub.objects.get? key) :
    (listClusters w').1 = (listClusters w).1 := by
  have hlisted : w'.hub.listed Kind.managedCluster.start
      = w.hub.listed Kind.managedCluster.start :=
    congrArg (List.map Prod.snd) (KeyMap.filter_entries_congr fun key hkey =>
      hsame key (isListKey_of_isBelow hkey))
  rw [(listClusters_plain hplain).1, (listClusters_plain hplain').1, fromObjects_listRequest,
    fromObjects_listRequest, hsame _ isListKey_start, hlisted]

/-- The listed clusters in scope. -/
def Api.Listing.inScope (listing : Api.Listing .managedCluster) (scope : String) :
    List ManagedCluster :=
  listing.items.filter fun c => startsWith c.name scope

/-! ## Reading the list -/

/-- A list of documents is read as the list of their objects. -/
lemma valueOf_listing (k : Kind) {items : List Json} {os : List k.Object}
    (hitems : decodeItems k.codec (items.map Draft.ofJson) = .ok os) :
    Api.valueOf (Api.Listing.record k).codec.decode (.listing items)
      = .ok { items := os, resourceVersion := some "1" } := by
  rw [← Json.Draft.ofItems_eq_map] at hitems
  rw [Api.valueOf_of_fits rfl rfl]
  show (atEnd 4 none ((Api.Listing.record k).read 4 (place 0 (Draft.ofMembers
    [("apiVersion", .str "v1"), ("items", .arr items), ("kind", .str "List"),
      ("metadata", .obj [("resourceVersion", .str "1")])])))).mapError _ = _
  generalize hmembers : place 0 (Draft.ofMembers _) = members
  -- the record reads its two fields, and looks at the other members
  have hmetadata : (requiredOr "metadata" Api.listMetaRecord.codec (none, none, none, none)).read 4
      members = .ok (none, none, some "1", none) := by
    rw [← hmembers]; rfl
  have hlist : (required "items" ((list k.codec).orNull [])).read 4 members = .ok os := by
    rw [← hmembers]
    show metAt 1 ((list k.codec).decode (.arr (Draft.ofItems items) none)) = _
    simp only [list, hitems]
    rfl
  have hothers : readDocuments (members.filter fun m => !(["metadata", "items"].contains m.2.1))
      = .ok () := by
    rw [← hmembers]; rfl
  have hread : (Api.Listing.record k).read 4 members
      = .ok { items := os, resourceVersion := some "1" } := by
    simp only [Api.Listing.record, Record.via, Record.watchful, Record.and, hmetadata, hlist]
    show ((both _ (readDocuments (members.filter fun m =>
      !(["metadata", "items"].contains m.2.1)))).map Prod.fst).map _ = _
    rw [hothers]
    rfl
  rw [hread]
  rfl

/-! ## A hub with one cluster -/

/-- The least managed cluster of a name. -/
def bareCluster (name : String) : ManagedCluster := bareTemplate (.managedCluster, name)

@[simp] lemma name_bareCluster (name : String) : (bareCluster name).name = name := rfl

/-- A plain hub whose templates are ready, with one cluster. -/
def clusterHub (name : String) : Hub :=
  { readyHub with
    objects := readyHub.objects.insert (Kind.managedCluster.start ++ "/" ++ name)
      (ManagedCluster.codec.encode (bareCluster name)) }

namespace clusterHub

variable {name : String}

lemma isPlain (name : String) : (clusterHub name).isPlain = true := rfl

lemma get?_of_not_isListKey (hkey : ¬IsListKey key) :
    (clusterHub name).objects.get? key = readyHub.objects.get? key := by
  have hne : key ≠ Kind.managedCluster.start ++ "/" ++ name := by
    rintro rfl
    exact hkey (startsWith_iff.2 ⟨_, String.append_assoc ..⟩)
  exact (KeyMap.get?_insert ..).trans (if_neg hne)

lemma templatesReady (name : String) : (clusterHub name).TemplatesReady :=
  readyHub.templatesReady.congr fun _ ho =>
    get?_of_not_isListKey fun hkey => hkey.not_owns _ (owns_templateKey ho)

lemma get?_of_isListKey (hkey : IsListKey key) :
    (clusterHub name).objects.get? key
      = if key = Kind.managedCluster.start ++ "/" ++ name then
          some (ManagedCluster.codec.encode (bareCluster name))
        else none := by
  rw [← readyHub.get?_of_not_owns (hkey.not_owns addonNamespace)]
  exact KeyMap.get?_insert ..

lemma listed_eq (hname : '/' ∉ name.toList) :
    (clusterHub name).listed Kind.managedCluster.start
      = [ManagedCluster.codec.encode (bareCluster name)] := by
  have hbelow := isBelow_append Kind.managedCluster.start hname
  have hentries : (clusterHub name).objects.entries.filter
        (fun e => Hub.isBelow Kind.managedCluster.start e.1)
      = [(Kind.managedCluster.start ++ "/" ++ name,
          ManagedCluster.codec.encode (bareCluster name))] := by
    refine KeyMap.entries_ext ((clusterHub name).objects.ascending.filter _)
      (List.pairwise_singleton ..) fun ⟨key, j⟩ => ?_
    rw [List.mem_filter, ← KeyMap.get?_eq_some_iff, List.mem_singleton, Prod.mk.injEq]
    constructor
    · rintro ⟨hget, hkey⟩
      rw [get?_of_isListKey (isListKey_of_isBelow hkey)] at hget
      split at hget
      case isTrue heq => exact ⟨heq, (Option.some.inj hget).symm⟩
      case isFalse => cases hget
    · rintro ⟨rfl, rfl⟩
      refine ⟨?_, hbelow⟩
      rw [get?_of_isListKey (isListKey_of_isBelow hbelow), if_pos rfl]
  rw [Hub.listed, hentries]
  rfl

/-- It lists its cluster. -/
lemma listClusters_eq (hname : '/' ∉ name.toList) (hhub : w.hub = clusterHub name) :
    (listClusters w).1 = .ok { items := [bareCluster name], resourceVersion := some "1" } := by
  have hplain : w.hub.isPlain = true := hhub ▸ isPlain name
  have hstart : (clusterHub name).objects.get? Kind.managedCluster.start = none := by
    have hne : Kind.managedCluster.start ≠ Kind.managedCluster.start ++ "/" ++ name := by
      intro heq
      have hsize := congrArg String.utf8ByteSize heq
      simp only [String.utf8ByteSize_append] at hsize
      have hslash : "/".utf8ByteSize = 1 := rfl
      omega
    rw [get?_of_isListKey isListKey_start, if_neg hne]
  rw [(listClusters_plain hplain).1, fromObjects_listRequest, hhub, hstart, listed_eq hname]
  have hitem : decodeItems ManagedCluster.codec
      ([ManagedCluster.codec.encode (bareCluster name)].map Draft.ofJson)
        = .ok [bareCluster name] :=
    decodeItems_encode (c := ManagedCluster.codec) [bareCluster name]
  exact valueOf_listing .managedCluster hitem

lemma eq_bareCluster (hname : '/' ∉ name.toList) (hhub : w.hub = clusterHub name)
    {listing : Api.Listing .managedCluster} (hlisting : (listClusters w).1 = .ok listing)
    {c : ManagedCluster} (hc : c ∈ listing.items) : c = bareCluster name := by
  obtain rfl := Except.ok.inj ((listClusters_eq hname hhub).symm.trans hlisting)
  exact List.mem_singleton.1 hc

/-- There is nothing of a cluster but that it is listed. -/
lemma get?_of_mem_clusterKeys {cluster : String} (hn : IsClusterName cluster)
    (hne : cluster ≠ addonNamespace) (hkey : key ∈ clusterKeys cluster) :
    (clusterHub name).objects.get? key = none := by
  rw [get?_of_not_isListKey fun hlist => hlist.not_owns _ (owns_of_mem_clusterKeys hkey)]
  exact readyHub.get?_of_mem_clusterKeys hn hne hkey

end clusterHub

/-- A world with that hub in which nothing has happened. -/
def clusterWorld (name : String) : World := { hub := clusterHub name, ids := fun _ => default }

@[simp] lemma hub_clusterWorld (name : String) : (clusterWorld name).hub = clusterHub name := rfl

end SpokeSim
