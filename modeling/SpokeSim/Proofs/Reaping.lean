import SpokeSim.Proofs.KeyMap
import SpokeSim.Proofs.PlainHub

/-!
# What reaping removes from a plain hub

Reaping asks for the removal of each object of a cluster, whatever became of the others.  A plain
hub removes what it keeps and tells so.  A path that is too long cannot be asked for, so this goes
for the cluster's removable keys only: in the end there is nothing under them, all else is as it
was, and the count is that of the removable keys under which there was something (`reap_removes`).

Of a name that is short enough all keys are removable (`reap_plain`).  A name of any length is left
in peace if the hub keeps none of its objects (`reap_absent`).
-/

namespace SpokeSim

/-! ## Removal of one object -/

/-- The request that removes an object. -/
def deletion? (cluster : String) (o : Kind × String) : Option Request :=
  request? .delete (objectKey cluster o ++ "?") (some (.obj []))

/-- To remove an object is to ask for it, and to tell how it went. -/
lemma removeObject_leads (cluster : String) (o : Kind × String) (w : World) :
    (removeObject cluster o.1 o.2 w).1 = (Api.delete o.1 cluster o.2 w).1.isOk ∧
      w.Leads (deletion? cluster o).toList 0 (removeObject cluster o.1 o.2 w).2 := by
  have hleads : w.Leads (deletion? cluster o).toList 0 (Api.delete o.1 cluster o.2 w).2 :=
    Api.call_leads w
  rw [removeObject, bind_apply]
  cases (Api.delete o.1 cluster o.2 w).1 with
  | ok _ => exact ⟨rfl, hleads.andLog ..⟩
  | error e => exact ⟨rfl, hleads.andLog ..⟩

lemma removeObject_of_none {cluster : String} {o : Kind × String}
    (hq : deletion? cluster o = none) (w : World) :
    (removeObject cluster o.1 o.2 w).1 = false ∧
      (removeObject cluster o.1 o.2 w).2.hub = w.hub := by
  obtain ⟨hresult, hleads⟩ := removeObject_leads cluster o w
  obtain ⟨f, hf⟩ := Api.call_of_none (Api.valueOf (Removal.check o.1)) hq w
  rw [hresult, hleads.hub, hq, Api.delete]
  exact ⟨congrArg Except.isOk hf, rfl⟩

lemma removeObject_of_some {cluster : String} {o : Kind × String} {q : Request}
    (hq : deletion? cluster o = some q) (w : World) :
    (removeObject cluster o.1 o.2 w).1
        = (Api.valueOf (Removal.check o.1) (w.hub.answer q).1).isOk ∧
      (removeObject cluster o.1 o.2 w).2.hub = (w.hub.answer q).2 := by
  obtain ⟨hresult, hleads⟩ := removeObject_leads cluster o w
  rw [hresult, hleads.hub, hq, Api.delete]
  exact ⟨congrArg Except.isOk (Api.call_of_some hq w), rfl⟩

/-! ## Removal at a plain hub -/

/-- The hub without what it keeps under some keys. -/
def Hub.without (h : Hub) (keys : List String) : Hub :=
  { h with objects := h.objects.eraseAll keys }

lemma Hub.get?_without (h : Hub) (keys : List String) (key : String) :
    (h.without keys).objects.get? key = if key ∈ keys then none else h.objects.get? key :=
  KeyMap.get?_eraseAll ..

lemma Hub.without_of_absent {h : Hub} {keys : List String}
    (habsent : ∀ key ∈ keys, h.objects.contains key = false) : h.without keys = h := by
  have hobjects : h.objects.eraseAll keys = h.objects := by
    refine KeyMap.ext_get? fun key => ?_
    rw [KeyMap.get?_eraseAll]
    split
    case isTrue hkey => exact (KeyMap.contains_eq_false_iff.1 (habsent key hkey)).symm
    case isFalse => rfl
  rw [without, hobjects]

section

variable {cluster : String} {o : Kind × String} {w : World}

lemma removeObject_plain (hplain : w.hub.isPlain = true)
    (hparse : Target.parse (objectKey cluster o ++ "?") = .ok ⟨objectKey cluster o, ""⟩) :
    (removeObject cluster o.1 o.2 w).1 = w.hub.objects.contains (objectKey cluster o) ∧
      (removeObject cluster o.1 o.2 w).2.hub = w.hub.without [objectKey cluster o] := by
  have hq : deletion? cluster o = some
      { method := .delete, target := { path := objectKey cluster o }, body := some (.obj []) } :=
    request?_of_parse hparse
  obtain ⟨hresult, hhub⟩ := removeObject_of_some hq w
  rw [hresult, hhub, Hub.answer_of_isPlain hplain]
  simp only [Hub.fromObjects]
  cases hkey : w.hub.objects.contains (objectKey cluster o) with
  | true => exact ⟨rfl, rfl⟩
  | false =>
    refine ⟨rfl, ?_⟩
    show w.hub = { w.hub with objects := w.hub.objects.erase (objectKey cluster o) }
    rw [KeyMap.erase_of_contains_eq_false hkey]

end

/-! ## Removal of all objects -/

lemma removeObjects_cons (cluster : String) (o : Kind × String) (os : List (Kind × String))
    (w : World) :
    removeObjects cluster (o :: os) w =
      let rest := removeObjects cluster os (removeObject cluster o.1 o.2 w).2
      ((if (removeObject cluster o.1 o.2 w).1 then rest.1 + 1 else rest.1), rest.2) := rfl

/-- Whether the path of an object, and a question mark behind it, can be a target. -/
def isRemovable (key : String) : Bool := key.utf8ByteSize < Target.longest

/-- Objects with different keys are removed each on its own, as far as they are removable. -/
lemma removeObjects_plain (cluster : String) (os : List (Kind × String))
    (hnodup : (os.map (objectKey cluster)).Nodup)
    (hpath : ∀ o ∈ os, Target.IsPath (objectKey cluster o)) (w : World)
    (hplain : w.hub.isPlain = true) :
    let keys := (os.map (objectKey cluster)).filter isRemovable
    (removeObjects cluster os w).1 = keys.countP w.hub.objects.contains ∧
      (removeObjects cluster os w).2.hub = w.hub.without keys := by
  induction os generalizing w with
  | nil => exact ⟨rfl, rfl⟩
  | cons o os ih =>
    obtain ⟨hnotMem, hnodup⟩ := List.nodup_cons.1 hnodup
    have hpath' : ∀ o' ∈ os, Target.IsPath (objectKey cluster o') :=
      fun o' ho' => hpath o' (List.mem_cons_of_mem _ ho')
    rw [removeObjects_cons, List.map_cons]
    by_cases hfits : isRemovable (objectKey cluster o) = true
    · rw [List.filter_cons_of_pos hfits]
      obtain ⟨hfirst, hhub⟩ := removeObject_plain hplain
        (Target.parse_path_open (hpath o List.mem_cons_self) (of_decide_eq_true hfits))
      obtain ⟨hcount, hafter⟩ := ih hnodup hpath' (removeObject cluster o.1 o.2 w).2
        (by rw [hhub]; exact hplain)
      simp only [hfirst, hcount, hafter, hhub, List.countP_cons]
      refine ⟨?_, rfl⟩
      have hsame : ((os.map (objectKey cluster)).filter isRemovable).countP
            (w.hub.without [objectKey cluster o]).objects.contains
          = ((os.map (objectKey cluster)).filter isRemovable).countP w.hub.objects.contains := by
        refine List.countP_congr fun key hkey => ?_
        have hne : key ≠ objectKey cluster o := by
          rintro rfl
          exact hnotMem (List.mem_of_mem_filter hkey)
        show ((w.hub.objects.eraseAll [objectKey cluster o]).get? key).isSome = true ↔ _
        rw [KeyMap.get?_eraseAll, if_neg (by simpa using hne)]
        rfl
      rw [hsame]
      split <;> simp
    · rw [List.filter_cons_of_neg hfits]
      have hlong : Target.longest < (objectKey cluster o ++ "?").utf8ByteSize := by
        have hlength : ¬(objectKey cluster o).utf8ByteSize < Target.longest :=
          fun h => hfits (decide_eq_true h)
        rw [String.utf8ByteSize_append]
        exact Nat.lt_succ_of_le (Nat.le_of_not_lt hlength)
      obtain ⟨hfirst, hhub⟩ := removeObject_of_none
        (request?_of_fault (Target.parse_tooLong hlong)) w
      obtain ⟨hcount, hafter⟩ := ih hnodup hpath' (removeObject cluster o.1 o.2 w).2
        (by rw [hhub]; exact hplain)
      simp only [hfirst, hcount, hafter, hhub, Bool.false_eq_true, if_false, and_self]

/-- Where no removal works, nothing happens. -/
lemma removeObjects_idle (cluster : String) (os : List (Kind × String)) (h : Hub)
    (hos : ∀ o ∈ os, ∀ w : World, w.hub = h →
      (removeObject cluster o.1 o.2 w).1 = false ∧ (removeObject cluster o.1 o.2 w).2.hub = h)
    (w : World) (hw : w.hub = h) :
    (removeObjects cluster os w).1 = 0 ∧ (removeObjects cluster os w).2.hub = h := by
  induction os generalizing w with
  | nil => exact ⟨rfl, hw⟩
  | cons o os ih =>
    obtain ⟨hfirst, hhub⟩ := hos o List.mem_cons_self w hw
    obtain ⟨hcount, hafter⟩ :=
      ih (fun o' ho' => hos o' (List.mem_cons_of_mem _ ho')) (removeObject cluster o.1 o.2 w).2 hhub
    rw [removeObjects_cons]
    simp only [hfirst, hcount, hafter]
    exact ⟨rfl, trivial⟩

/-- The requests that remove the objects of a cluster. -/
def deletions (cluster : String) : List Request :=
  (clusterObjects cluster).filterMap (deletion? cluster)

lemma removeObjects_leads (cluster : String) (os : List (Kind × String)) (w : World) :
    w.Leads (os.filterMap (deletion? cluster)) 0 (removeObjects cluster os w).2 := by
  induction os generalizing w with
  | nil => exact .refl w
  | cons o os ih =>
    have hrest := (removeObject_leads cluster o w).2.trans (ih (removeObject cluster o.1 o.2 w).2)
    rw [removeObjects_cons, List.filterMap_cons]
    cases hq : deletion? cluster o with
    | none => rwa [hq] at hrest
    | some q => rwa [hq] at hrest

/-- **Reaping asks for the removal of each object**, whatever the hub answers. -/
lemma reap_leads (cluster : String) (w : World) :
    w.Leads (deletions cluster) 0 (reap cluster w).2 := by
  rw [reap, bind_apply]
  exact (removeObjects_leads cluster (clusterObjects cluster) w).andLog ..

/-- Reaping is the removal of all objects of a cluster. -/
lemma reap_eq (cluster : String) (w : World) :
    (reap cluster w).1 = (removeObjects cluster (clusterObjects cluster) w).1 ∧
      (reap cluster w).2.hub = (removeObjects cluster (clusterObjects cluster) w).2.hub := by
  rw [reap, bind_apply]
  generalize removeObjects cluster (clusterObjects cluster) w = out
  exact ⟨rfl, rfl⟩

/-- The keys of a cluster that are short enough for their objects to be removed. -/
def removableKeys (cluster : String) : List String := (clusterKeys cluster).filter isRemovable

lemma removableKeys_of_addressable {cluster : String} (haddress : Addressable cluster) :
    removableKeys cluster = clusterKeys cluster :=
  List.filter_eq_self.2 fun key hkey => decide_eq_true (haddress key hkey)

/-- Of a name that is long enough, no key is. -/
lemma removableKeys_of_tooLong {cluster : String}
    (hlong : Target.longest ≤ cluster.utf8ByteSize + 60) : removableKeys cluster = [] := by
  refine List.filter_eq_nil_iff.2 fun key hkey hremovable => ?_
  obtain ⟨o, ho, rfl⟩ := List.mem_map.1 hkey
  have hsize := utf8ByteSize_objectKey ho
  have hle := le_overhead ho
  have hlt : (objectKey cluster o).utf8ByteSize < Target.longest := of_decide_eq_true hremovable
  omega

/-- **What reaping does.**  It removes what there is under the cluster's removable keys, and counts
it. -/
theorem reap_removes {cluster : String} (hn : IsClusterName cluster) {w : World}
    (hplain : w.hub.isPlain = true) :
    (reap cluster w).1 = (removableKeys cluster).countP w.hub.objects.contains ∧
      (reap cluster w).2.hub = w.hub.without (removableKeys cluster) := by
  obtain ⟨hresult, hhub⟩ := reap_eq cluster w
  rw [hresult, hhub]
  exact removeObjects_plain cluster _ (nodup_clusterKeys hn)
    (fun o ho => isPath_objectKey hn ho) w hplain

/-- If all keys are short enough, it removes what there is under any of them. -/
theorem reap_plain {cluster : String} (hn : IsClusterName cluster) (haddress : Addressable cluster)
    {w : World} (hplain : w.hub.isPlain = true) :
    (reap cluster w).1 = (clusterKeys cluster).countP w.hub.objects.contains ∧
      (reap cluster w).2.hub = w.hub.without (clusterKeys cluster) := by
  have hremoves := reap_removes hn hplain
  rwa [removableKeys_of_addressable haddress] at hremoves

/-- Where there is nothing that can be removed, reaping does nothing. -/
theorem reap_idle {cluster : String} (hn : IsClusterName cluster) {w : World}
    (hplain : w.hub.isPlain = true)
    (habsent : ∀ key ∈ removableKeys cluster, w.hub.objects.contains key = false) :
    (reap cluster w).1 = 0 ∧ (reap cluster w).2.hub = w.hub := by
  obtain ⟨hresult, hhub⟩ := reap_removes hn hplain
  rw [hresult, hhub]
  exact ⟨List.countP_eq_zero.2 fun key hkey => by simp [habsent key hkey],
    Hub.without_of_absent habsent⟩

/-- So it is where the hub keeps none of the cluster's objects. -/
theorem reap_absent {cluster : String} (hn : IsClusterName cluster) {w : World}
    (hplain : w.hub.isPlain = true)
    (habsent : ∀ key ∈ clusterKeys cluster, w.hub.objects.contains key = false) :
    (reap cluster w).1 = 0 ∧ (reap cluster w).2.hub = w.hub :=
  reap_idle hn hplain fun key hkey => habsent key (List.mem_of_mem_filter hkey)

/-- Where the paths of all objects are too long, reaping does nothing, whatever there is. -/
theorem reap_tooLong {cluster : String}
    (hlong : ∀ key ∈ clusterKeys cluster, Target.longest ≤ key.utf8ByteSize) (w : World) :
    (reap cluster w).1 = 0 ∧ (reap cluster w).2.hub = w.hub := by
  obtain ⟨hresult, hhub⟩ := reap_eq cluster w
  rw [hresult, hhub]
  refine removeObjects_idle cluster _ w.hub (fun o ho w' hw' => ?_) w rfl
  have hsize : Target.longest < (objectKey cluster o ++ "?").utf8ByteSize := by
    rw [String.utf8ByteSize_append]
    exact Nat.lt_succ_of_le (hlong _ (List.mem_map_of_mem ho))
  rw [← hw']
  exact removeObject_of_none (request?_of_fault (Target.parse_tooLong hsize)) w'

end SpokeSim
