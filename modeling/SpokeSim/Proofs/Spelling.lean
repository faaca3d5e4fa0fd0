import SpokeSim.Proofs.Reaping

/-!
# Which names can be asked for

Names go into URIs as they are, so whether a request can be made depends on the name of the cluster.

**One text.**  Apart from its length, a text is a URI if its characters may stand where they do
(`Target.isOk_parse`): in the path, behind a question mark in the query, and anywhere in a fragment.

**Six texts.**  The URI of a cluster's object has the name once.  What stands before it may be
anywhere in a path, and what stands behind it may be anywhere, so it is up to the name alone whether
the text is spelled as a URI (`isSome_deletion?`).  The six URIs of a cluster differ in their length
only.
-/

namespace SpokeSim

/-! ## Texts -/

namespace Target

/-- Whether characters may stand where they do: in a path up to a question mark, and from there on
in a query, up to a fragment. -/
def isSpelled (inQuery : Bool) : List Char → Bool
  | [] => true
  | c :: cs =>
    if c = '#' then true
    else if c = '?' && !inQuery then isSpelled true cs
    else (if inQuery then isQueryChar c else isPathChar c) && isSpelled inQuery cs

/-- A character that may stand in a path and in a query. -/
def isNeutral (c : Char) : Bool := isPathChar c && isQueryChar c

/-- A character that may stand behind whatever is spelled. -/
def isClosing (c : Char) : Bool := isNeutral c || c == '?'

lemma isSpelled_query (cs : List Char) :
    isSpelled true cs = (dropFragment cs).all isQueryChar := by
  induction cs with
  | nil => rfl
  | cons c cs ih =>
    by_cases hc : c = '#'
    · simp [isSpelled, dropFragment, hc]
    · rw [isSpelled, if_neg hc, ih]
      simp [dropFragment, hc]

lemma isSpelled_path (cs : List Char) :
    isSpelled false cs = (((dropFragment cs).takeWhile (· != '?')).all isPathChar &&
      (((dropFragment cs).dropWhile (· != '?')).drop 1).all isQueryChar) := by
  induction cs with
  | nil => rfl
  | cons c cs ih =>
    by_cases hfragment : c = '#'
    · simp [isSpelled, dropFragment, hfragment]
    · have hdrop : dropFragment (c :: cs) = c :: dropFragment cs := by
        simp [dropFragment, hfragment]
      rw [isSpelled, if_neg hfragment, hdrop]
      by_cases hquery : c = '?'
      · simp [hquery, isSpelled_query]
      · simp [hquery, ih, Bool.and_assoc]

/-- **What can be read as a URI.** -/
lemma isOk_parse (text : String) :
    (parse text).isOk = (decide (text.utf8ByteSize ≤ longest) && isSpelled false text.toList) := by
  rw [parse, isSpelled_path]
  by_cases hsize : text.utf8ByteSize ≤ longest
  · simp only [if_neg (Nat.not_lt.2 hsize), decide_eq_true hsize, Bool.true_and]
    split
    case isTrue h => exact h.symm
    case isFalse h => exact (Bool.eq_false_iff.2 h).symm
  · rw [if_pos (Nat.lt_of_not_le hsize), decide_eq_false hsize]
    rfl

lemma isSpelled_neutral_append {start : List Char} (h : start.all isNeutral = true)
    (cs : List Char) : isSpelled false (start ++ cs) = isSpelled false cs := by
  induction start with
  | nil => rfl
  | cons c start ih =>
    simp only [List.all_cons, isNeutral, Bool.and_eq_true] at h
    obtain ⟨⟨hpath, -⟩, hrest⟩ := h
    obtain ⟨hquery, hfragment⟩ := ne_of_isPathChar hpath
    simp [isSpelled, hquery, hfragment, hpath, ih hrest]

lemma isSpelled_closing {rest : List Char} (h : rest.all isClosing = true) (inQuery : Bool) :
    isSpelled inQuery rest = true := by
  induction rest generalizing inQuery with
  | nil => rfl
  | cons c rest ih =>
    simp only [List.all_cons, isClosing, isNeutral, Bool.and_eq_true, Bool.or_eq_true,
      beq_iff_eq] at h
    obtain ⟨⟨hpath, hquery⟩ | rfl, hrest⟩ := h
    · obtain ⟨hquestion, hfragment⟩ := ne_of_isPathChar hpath
      cases inQuery <;> simp [isSpelled, hquestion, hfragment, hpath, hquery, ih hrest]
    · have hquestion : isQueryChar '?' = true := by decide
      cases inQuery <;> simp [isSpelled, hquestion, ih hrest]

lemma isSpelled_append_closing {rest : List Char} (h : rest.all isClosing = true) (cs : List Char)
    (inQuery : Bool) : isSpelled inQuery (cs ++ rest) = isSpelled inQuery cs := by
  induction cs generalizing inQuery with
  | nil => exact isSpelled_closing h inQuery
  | cons c cs ih => simp only [List.cons_append, isSpelled, ih]

end Target

/-! ## Objects of a cluster -/

/-- A name has its place in the key of an object, between characters that need none. -/
lemma exists_objectKey_eq {cluster : String} {o : Kind × String} (ho : o ∈ clusterObjects cluster) :
    ∃ start rest : String, start.toList.all Target.isNeutral = true ∧
      rest.toList.all Target.isClosing = true ∧
      objectKey cluster o ++ "?" = start ++ (cluster ++ rest) := by
  have hstart : ∀ o ∈ templateObjects, o.1.start.toList.all Target.isNeutral = true := by
    decide +kernel
  have hrest : ∀ o ∈ templateObjects, (keyTail o ++ "?").toList.all Target.isClosing = true := by
    decide +kernel
  rw [clusterObjects_eq, List.mem_cons] at ho
  rcases ho with rfl | ho
  · refine ⟨Kind.clusterRoleBinding.start ++ "/", bindingName "" ++ "?", by decide +kernel,
      by decide +kernel, ?_⟩
    rw [objectKey_binding]
    simp only [bindingName, String.append_assoc, String.empty_append]
  · refine ⟨o.1.start, keyTail o ++ "?", hstart o ho, hrest o ho, ?_⟩
    simp only [objectKey_template ho, String.append_assoc]

/-- **Which removals can be asked for**: their URIs are short enough, and the name is spelled as a
part of a URI may be. -/
lemma isSome_deletion? {cluster : String} {o : Kind × String} (ho : o ∈ clusterObjects cluster) :
    (deletion? cluster o).isSome =
      (decide (cluster.utf8ByteSize + overhead o < Target.longest) &&
        Target.isSpelled false cluster.toList) := by
  obtain ⟨start, rest, hstart, hrest, huri⟩ := exists_objectKey_eq ho
  have hsize : (objectKey cluster o ++ "?").utf8ByteSize
      = cluster.utf8ByteSize + overhead o + 1 := by
    rw [String.utf8ByteSize_append, utf8ByteSize_objectKey ho]
    rfl
  have hspelled : Target.isSpelled false (objectKey cluster o ++ "?").toList
      = Target.isSpelled false cluster.toList := by
    rw [huri, String.toList_append, String.toList_append, Target.isSpelled_neutral_append hstart,
      Target.isSpelled_append_closing hrest]
  rw [deletion?, isSome_request?, Target.isOk_parse, hsize, hspelled]
  rfl

/-- **The removals of a cluster's objects stand or fall together** if the name is short enough for
the longest of their URIs. -/
lemma isSome_deletion?_of_addressable {cluster : String} (haddress : Addressable cluster)
    {o : Kind × String} (ho : o ∈ clusterObjects cluster) :
    (deletion? cluster o).isSome = Target.isSpelled false cluster.toList := by
  have hkey : (objectKey cluster o).utf8ByteSize < Target.longest :=
    haddress _ (List.mem_map_of_mem ho)
  rw [utf8ByteSize_objectKey ho] at hkey
  rw [isSome_deletion? ho, decide_eq_true hkey, Bool.true_and]

end SpokeSim
