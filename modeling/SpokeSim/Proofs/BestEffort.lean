import SpokeSim.Proofs.Footprint
import SpokeSim.Proofs.Requests
import SpokeSim.Proofs.Spelling

/-!
# Reaping is best effort

Reaping asks for the removal of each object, and what the hub answers has no bearing on what is
asked next.  An `Attempt` is one object with what became of asking for its removal, and all that
reaping does is told from its attempts.

**One attempt.**  `removeObject_eq`: the hub confirms the removal or not, and one line of the log
tells which, with code and reason if not (`Attempt.line`).

**All attempts.**  `reap_bestEffort`: requests, log and count, for any hub and any name.
-/

namespace SpokeSim

/-! ## Answers to a removal -/

/-- The reason of a refusal: the one that its body states, if it states one. -/
def refusalReason (d : Json.Draft) : String :=
  match ErrorResponse.codec.decode d with
  | .ok r => r.reason
  | .error _ => "Failed to parse error data"

namespace Answer

/-- Whether an answer confirms the removal of an object: its status is no failure, and its body is a
document, which is a report if it calls itself one and the object otherwise. -/
def confirms (k : Kind) (a : Answer) : Bool :=
  !isFailure a.status && a.body.draft.toOption.any fun d => d.value.toOption.any fun j =>
    if (j.member? "kind").bind Json.text? = some "Status" then (Removal.record.codec.decode d).isOk
    else (k.codec.decode d).isOk

/-- Code and reason that are told of an answer that does not confirm: those of a refusal, or no code
and what is wrong about the body. -/
def complaint (a : Answer) : Nat × String :=
  match a.body.draft with
  | .error f => (0, "UTF-8 Error: " ++ f.message)
  | .ok d =>
    if isFailure a.status then (refusalCode a.status d, refusalReason d)
    else (0, "Error deserializing response: the body does not fit")

end Answer

section

variable {k : Kind} {a : Answer}

lemma isOk_removal_check (k : Kind) (d : Json.Draft) :
    (Removal.check k d).isOk = d.value.toOption.any fun j =>
      if (j.member? "kind").bind Json.text? = some "Status" then
        (Removal.record.codec.decode d).isOk
      else (k.codec.decode d).isOk := by
  rw [Removal.check]
  cases d.value with
  | error f => rfl
  | ok j =>
    show Except.isOk (if _ then _ else _) = if _ then _ else _
    split
    · cases Removal.record.codec.decode d <;> rfl
    · cases k.codec.decode d <;> rfl

lemma isOk_valueOf_check (k : Kind) (a : Answer) :
    (Api.valueOf (Removal.check k) a).isOk = a.confirms k := by
  rw [Answer.confirms]
  cases hd : a.body.draft with
  | error f => simp [Api.valueOf_of_notText hd, Except.toOption, Except.isOk, Except.toBool]
  | ok d =>
    cases h : isFailure a.status with
    | true => rw [Api.valueOf_of_isFailure hd h]; rfl
    | false =>
      rw [Api.valueOf_of_fits hd h]
      refine Eq.trans ?_ (isOk_removal_check k d)
      cases Removal.check k d <;> rfl

lemma statusOf_valueOf_check {e : ApiError} (h : Api.valueOf (Removal.check k) a = .error e) :
    e.statusOf = a.complaint := by
  rw [Answer.complaint]
  cases hd : a.body.draft with
  | error f =>
    rw [Api.valueOf_of_notText hd] at h
    cases h
    rfl
  | ok d =>
    cases hfail : isFailure a.status with
    | true =>
      rw [Api.valueOf_of_isFailure hd hfail] at h
      cases h
      refine Prod.ext (toNat_code_ofRefusal hfail a.body.shown d) ?_
      show (ErrorResponse.ofRefusal a.status a.body.shown d).reason = refusalReason d
      rw [ErrorResponse.ofRefusal, refusalReason]
      cases ErrorResponse.codec.decode d <;> rfl
    | false =>
      rw [Api.valueOf_of_fits hd hfail] at h
      cases hcheck : Removal.check k d with
      | ok u => rw [hcheck] at h; cases h
      | error f => rw [hcheck] at h; cases h; rfl

end

/-! ## Attempts -/

/-- An object whose removal has been asked for, and what became of that: the request has no URI, or
the hub has answered it. -/
structure Attempt where
  kind : Kind
  name : String
  fate : Except UriFault (Request × Answer)

namespace Attempt

/-- An attempt is made at an object of a cluster: with the request that asks for the object's
removal, unless its URI cannot be read. -/
def IsMadeFor (cluster : String) (t : Attempt) : Prop :=
  let uri := t.kind.collection cluster ++ "/" ++ t.name ++ "?"
  match t.fate with
  | .error f => Target.parse uri = .error f
  | .ok (q, _) => q.method = .delete ∧ Target.parse uri = .ok q.target ∧ q.body = some (.obj [])

/-- Whether the removal is confirmed. -/
def isConfirmed (t : Attempt) : Bool :=
  match t.fate with
  | .error _ => false
  | .ok (_, a) => a.confirms t.kind

/-- Code and reason that are told of an attempt that is not confirmed. -/
def complaint (t : Attempt) : Nat × String :=
  match t.fate with
  | .error f => (0, "Failed to build request: failed to build request: " ++ f.message)
  | .ok (_, a) => a.complaint

/-- The line that is written about an attempt. -/
def line (cluster : String) (t : Attempt) : LogLine :=
  if t.isConfirmed then
    { level := .info
      component := .reaper
      message := "Deleted " ++ t.kind.name ++ " " ++ t.name ++ " for cluster " ++ cluster }
  else
    { level := .error
      component := .reaper
      message := "failed to delete " ++ t.kind.name ++ " " ++ t.name ++ " for " ++ cluster
        ++ ", err: " ++ toString t.complaint.1 ++ ":" ++ t.complaint.2 }

/-- The attempt at an object. -/
def of (cluster : String) (h : Hub) (o : Kind × String) : Attempt where
  kind := o.1
  name := o.2
  fate := (Target.parse (objectKey cluster o ++ "?")).map fun target =>
    let q := { method := .delete, target, body := some (.obj []) }
    (q, (h.answer q).1)

/-- The attempts at objects one after the other. -/
def all (cluster : String) : Hub → List (Kind × String) → List Attempt
  | _, [] => []
  | h, o :: os => of cluster h o :: all cluster (h.after (deletion? cluster o).toList) os

variable {cluster : String} {h : Hub}

lemma isMadeFor_of (cluster : String) (h : Hub) (o : Kind × String) :
    (of cluster h o).IsMadeFor cluster := by
  have huri : o.1.collection cluster ++ "/" ++ o.2 ++ "?" = objectKey cluster o ++ "?" := rfl
  simp only [IsMadeFor, of, huri]
  cases Target.parse (objectKey cluster o ++ "?") with
  | error f => rfl
  | ok target => exact ⟨rfl, rfl, rfl⟩

lemma exists_of_mem_all {os : List (Kind × String)} {t : Attempt} (ht : t ∈ all cluster h os) :
    ∃ h', ∃ o ∈ os, t = of cluster h' o := by
  induction os generalizing h with
  | nil => cases ht
  | cons o os ih =>
    obtain rfl | ht := List.mem_cons.1 ht
    · exact ⟨h, o, List.mem_cons_self, rfl⟩
    · obtain ⟨h', o', ho', rfl⟩ := ih ht
      exact ⟨h', o', List.mem_cons_of_mem _ ho', rfl⟩

lemma map_object_all (h : Hub) (os : List (Kind × String)) :
    (all cluster h os).map (fun t => (t.kind, t.name)) = os := by
  induction os generalizing h with
  | nil => rfl
  | cons o os ih => rw [all, List.map_cons, ih]; rfl

lemma toList_exchange_of (cluster : String) (h : Hub) (o : Kind × String) :
    (of cluster h o).fate.toOption.toList = h.answered (deletion? cluster o).toList := by
  rw [of, deletion?, request?]
  cases Target.parse (objectKey cluster o ++ "?") <;> rfl

lemma filterMap_exchange_all (h : Hub) (os : List (Kind × String)) :
    (all cluster h os).filterMap (fun t => t.fate.toOption)
      = h.answered (os.filterMap (deletion? cluster)) := by
  induction os generalizing h with
  | nil => rfl
  | cons o os ih =>
    have hsplit : (o :: os).filterMap (deletion? cluster)
        = (deletion? cluster o).toList ++ os.filterMap (deletion? cluster) := by
      rw [List.filterMap_cons]
      cases deletion? cluster o <;> rfl
    rw [hsplit, Hub.answered_append, ← toList_exchange_of, ← ih, all, List.filterMap_cons]
    cases (of cluster h o).fate <;> rfl

lemma isOk_fate_of (cluster : String) (h : Hub) (o : Kind × String) :
    (of cluster h o).fate.isOk = (deletion? cluster o).isSome := by
  rw [of, deletion?, isSome_request?]
  cases Target.parse (objectKey cluster o ++ "?") <;> rfl

/-- As long as no URI is too long, all attempts reach the hub or none does. -/
lemma all_or_none (haddress : Addressable cluster) (h : Hub) :
    (∀ t ∈ all cluster h (clusterObjects cluster), t.fate.isOk = true) ∨
      ∀ t ∈ all cluster h (clusterObjects cluster), t.fate.isOk = false := by
  have hsame : ∀ t ∈ all cluster h (clusterObjects cluster),
      t.fate.isOk = Target.isSpelled false cluster.toList := by
    intro t ht
    obtain ⟨h', o, ho, rfl⟩ := exists_of_mem_all ht
    rw [isOk_fate_of, isSome_deletion?_of_addressable haddress ho]
  cases hspelled : Target.isSpelled false cluster.toList with
  | true => exact .inl fun t ht => (hsame t ht).trans hspelled
  | false => exact .inr fun t ht => (hsame t ht).trans hspelled

end Attempt

/-! ## What reaping does -/

/-- The call of an attempt. -/
lemma delete_eq (cluster : String) (o : Kind × String) (w : World) :
    let t := Attempt.of cluster w.hub o
    (Api.delete o.1 cluster o.2 w).1.isOk = t.isConfirmed ∧
      (∀ e, (Api.delete o.1 cluster o.2 w).1 = .error e → e.statusOf = t.complaint) ∧
      (Api.delete o.1 cluster o.2 w).2.lines = w.lines := by
  have huri : o.1.collection cluster ++ "/" ++ o.2 ++ "?" = objectKey cluster o ++ "?" := rfl
  rw [Api.delete, Api.call, huri]
  simp only [Attempt.of]
  cases Target.parse (objectKey cluster o ++ "?") with
  | error f =>
    refine ⟨rfl, fun e he => ?_, rfl⟩
    cases he
    rfl
  | ok target => exact ⟨isOk_valueOf_check .., fun e he => statusOf_valueOf_check he, rfl⟩

/-- **One attempt**: whether the removal is confirmed, and the line that is written. -/
lemma removeObject_eq (cluster : String) (o : Kind × String) (w : World) :
    let t := Attempt.of cluster w.hub o
    (removeObject cluster o.1 o.2 w).1 = t.isConfirmed ∧
      (removeObject cluster o.1 o.2 w).2.lines = w.lines ++ [t.line cluster] := by
  obtain ⟨hresult, hstatus, hlines⟩ := delete_eq cluster o w
  generalize ht : Attempt.of cluster w.hub o = t at hresult hstatus
  have hkind : t.kind = o.1 := by rw [← ht]; rfl
  have hname : t.name = o.2 := by rw [← ht]; rfl
  rw [removeObject, bind_apply]
  generalize Api.delete o.1 cluster o.2 w = out at hresult hstatus hlines
  obtain ⟨result, w₁⟩ := out
  simp only at hresult hstatus hlines
  cases result with
  | ok u =>
    have hconfirmed : t.isConfirmed = true := hresult.symm
    refine ⟨hresult, ?_⟩
    rw [Attempt.line, if_pos hconfirmed, ← hlines, hkind, hname]
    rfl
  | error e =>
    have hconfirmed : t.isConfirmed = false := hresult.symm
    refine ⟨hresult, ?_⟩
    rw [Attempt.line, if_neg (by simp [hconfirmed]), ← hlines, hkind, hname, ← hstatus e rfl]
    rfl

lemma removeObjects_eq (cluster : String) (os : List (Kind × String)) (w : World) :
    let ts := Attempt.all cluster w.hub os
    (removeObjects cluster os w).1 = ts.countP Attempt.isConfirmed ∧
      (removeObjects cluster os w).2.lines = w.lines ++ ts.map (Attempt.line cluster) := by
  induction os generalizing w with
  | nil => exact ⟨rfl, (List.append_nil _).symm⟩
  | cons o os ih =>
    obtain ⟨hfirst, hline⟩ := removeObject_eq cluster o w
    obtain ⟨hcount, hlines⟩ := ih (removeObject cluster o.1 o.2 w).2
    rw [(removeObject_leads cluster o w).2.hub] at hcount hlines
    simp only [removeObjects_cons, Attempt.all, List.map_cons, List.countP_cons]
    rw [hlines, hline, hfirst, hcount, List.append_assoc]
    refine ⟨?_, rfl⟩
    split <;> rfl

/-- The last line of reaping. -/
def reapSummary (cluster : String) (count : Nat) : LogLine where
  level := .info
  component := .reaper
  message := "Removed " ++ toString count ++ "/" ++ "6" ++ " simulator objects for cluster "
    ++ cluster

lemma reap_lines (cluster : String) (w : World) :
    (reap cluster w).2.lines = (removeObjects cluster (clusterObjects cluster) w).2.lines ++
      [reapSummary cluster (reap cluster w).1] := by
  have hsix : toString (clusterObjects cluster).length = "6" := by
    show Nat.repr 6 = "6"
    decide +kernel
  rw [reap, bind_apply, hsix]
  generalize removeObjects cluster (clusterObjects cluster) w = out
  rfl

/-- **Reaping is best effort**, at any hub and for any name.  There is one attempt for each of the
six objects, in their order.  Each asks for the removal of its object, unless the text of its URI
cannot be read; that is the same for all of them, or the name is so long that not all texts are
short enough.  What is asked does not depend on answers, the confirmed removals are counted, and the
log has one line for each attempt and a summary. -/
theorem reap_bestEffort (cluster : String) (w : World) :
    ∃ attempts : List Attempt,
      attempts.map (fun t => (t.kind, t.name)) =
        [(.clusterRoleBinding, cluster ++ "-clusters-metrics-collector-view"),
          (.deployment, "metrics-collector-deployment"),
          (.serviceAccount, "endpoint-observability-operator-sa"),
          (.secret, "observability-controller-open-cluster-management.io-" ++
            "observability-signer-client-cert"),
          (.secret, "observability-managed-cluster-certs"),
          (.configMap, "metrics-collector-serving-certs-ca-bundle")] ∧
      (∀ t ∈ attempts, t.IsMadeFor cluster) ∧
      ((∀ t ∈ attempts, t.fate.isOk = true) ∨ (∀ t ∈ attempts, t.fate.isOk = false) ∨
        65421 < cluster.utf8ByteSize) ∧
      (reap cluster w).2.exchanges
        = w.exchanges ++ attempts.filterMap (fun t => t.fate.toOption) ∧
      (reap cluster w).2.requestsSince w = deletions cluster ∧
      (reap cluster w).1 = attempts.countP Attempt.isConfirmed ∧
      (reap cluster w).2.lines
        = w.lines ++ attempts.map (Attempt.line cluster)
          ++ [reapSummary cluster (reap cluster w).1] := by
  have hleads := reap_leads cluster w
  obtain ⟨hcount, hlines⟩ := removeObjects_eq cluster (clusterObjects cluster) w
  refine ⟨Attempt.all cluster w.hub (clusterObjects cluster), ?objects,
    fun t ht => ?made, ?together, ?exchanges, hleads.requestsSince_eq, ?count,
    ?lines⟩
  case objects =>
    rw [Attempt.map_object_all]
    rfl
  case made =>
    obtain ⟨h, o, -, rfl⟩ := Attempt.exists_of_mem_all ht
    exact Attempt.isMadeFor_of cluster h o
  case together =>
    by_cases haddress : Addressable cluster
    · obtain hall | hnone := Attempt.all_or_none haddress w.hub
      · exact .inl hall
      · exact .inr (.inl hnone)
    · refine .inr (.inr ?_)
      rw [addressable_iff, Target.longest] at haddress
      omega
  case exchanges =>
    rw [hleads.exchanges, Attempt.filterMap_exchange_all]
    rfl
  case count => rw [(reap_eq cluster w).1, hcount]
  case lines => rw [reap_lines, hlines]

/-! ## Bounds -/

/-- Of a name of letters, it is only the length of a URI that can be wrong. -/
lemma isSome_deletion?_longName {n : Nat} {o : Kind × String}
    (ho : o ∈ clusterObjects (longName n)) :
    (deletion? (longName n) o).isSome = decide (n + overhead o < Target.longest) := by
  have hspelled : Target.isSpelled false (longName n).toList = true := by
    refine Target.isSpelled_closing (List.all_eq_true.2 fun c hc => ?_) false
    rw [longName, String.toList_ofList] at hc
    rw [List.eq_of_mem_replicate hc]
    decide
  rw [isSome_deletion? ho, hspelled, utf8ByteSize_longName, Bool.and_true]

/-- A body of which an object can be made, as an unknown field is of no account, and which is no
document: its number is too large. -/
def overflowing : Answer := ⟨200, .text "\x7b\"z\":1e400\x7d"⟩

/-- A hub that answers each removal in this way. -/
def overflowingHub : Hub where
  routes :=
    [{ method := .delete
       path := ""
       script := .always { payload := .text "\x7b\"z\":1e400\x7d" } }]

lemma confirms_overflowing (k : Kind) : overflowing.confirms k = false := by
  cases k <;> decide +kernel

lemma answer_overflowingHub {q : Request} (hq : q.method = .delete) :
    overflowingHub.answer q = (overflowing, overflowingHub) := by
  obtain ⟨method, target, body⟩ := q
  obtain rfl : method = .delete := hq
  rfl

lemma eq_overflowing_of_mem_answered {qs : List Request} (hqs : ∀ q ∈ qs, q.method = .delete)
    {e : Request × Answer} (he : e ∈ overflowingHub.answered qs) : e.2 = overflowing := by
  induction qs with
  | nil => cases he
  | cons q qs ih =>
    rw [Hub.answered, answer_overflowingHub (hqs q List.mem_cons_self)] at he
    obtain rfl | he := List.mem_cons.1 he
    · rfl
    · exact ih (fun q' hq' => hqs q' (List.mem_cons_of_mem _ hq')) he

/-- No removal is confirmed by it. -/
lemma reap_overflowing (cluster : String) {w : World} (hhub : w.hub = overflowingHub) :
    (reap cluster w).1 = 0 := by
  rw [(reap_eq cluster w).1, (removeObjects_eq cluster (clusterObjects cluster) w).1, hhub]
  refine List.countP_eq_zero.2 fun t ht => ?_
  have hanswer : ∀ e, t.fate = .ok e → e.2 = overflowing := by
    intro e he
    have hmem : e ∈ overflowingHub.answered (deletions cluster) := by
      rw [deletions, ← Attempt.filterMap_exchange_all]
      exact List.mem_filterMap.2 ⟨t, ht, by rw [he]; rfl⟩
    exact eq_overflowing_of_mem_answered (fun q => method_of_mem_deletions) hmem
  rw [Attempt.isConfirmed]
  cases hfate : t.fate with
  | error f => exact Bool.false_ne_true
  | ok e =>
    obtain ⟨q, a⟩ := e
    obtain rfl : a = overflowing := hanswer _ hfate
    simp [confirms_overflowing]

/-- Two bounds.  Of a name of 65430 letters, neither all removals are asked for nor none.  And
answers that give the objects do not confirm their removal if the bodies are no documents. -/
theorem not_reap_all_or_none :
    (¬∀ (cluster : String) (w : World), (reap cluster w).2.requestsSince w = [] ∨
      ((reap cluster w).2.requestsSince w).length = 6) ∧
    ¬∀ (cluster : String) (w : World), w.exchanges = [] →
      (∀ e ∈ (reap cluster w).2.exchanges, ∀ o ∈ clusterObjects cluster,
        (e.2.object? o.1).isSome = true) →
      (reap cluster w).1 = (reap cluster w).2.exchanges.length := by
  constructor
  · intro hlaw
    have hcases := hlaw (longName 65430) readyWorld
    rw [(reap_leads (longName 65430) readyWorld).requestsSince_eq] at hcases
    obtain hnone | hall := hcases
    · have hmem : (Kind.configMap, caBundleName) ∈ clusterObjects (longName 65430) := by
        simp [clusterObjects]
      have hsome := isSome_deletion?_longName hmem
      rw [List.filterMap_eq_nil_iff.1 hnone _ hmem] at hsome
      exact absurd hsome (by decide +kernel)
    · have hmem : (Kind.secret, signerCertName) ∈ clusterObjects (longName 65430) := by
        simp [clusterObjects]
      have hsome := List.filterMap_length_eq_length.1 hall _ hmem
      rw [isSome_deletion?_longName hmem] at hsome
      exact absurd hsome (by decide +kernel)
  · intro hlaw
    let w : World := { readyWorld with hub := overflowingHub }
    have hexchanges : (reap "spoke-1" w).2.exchanges
        = overflowingHub.answered (deletions "spoke-1") :=
      (reap_leads "spoke-1" w).exchanges_eq rfl
    have hobjects : ∀ e ∈ (reap "spoke-1" w).2.exchanges, ∀ o ∈ clusterObjects "spoke-1",
        (e.2.object? o.1).isSome = true := by
      intro e he
      rw [hexchanges] at he
      rw [eq_overflowing_of_mem_answered (fun q => method_of_mem_deletions) he]
      decide +kernel
    have hcount := hlaw "spoke-1" w rfl hobjects
    rw [reap_overflowing "spoke-1" rfl, hexchanges, ← List.length_map, Hub.map_fst_answered,
      eq_comm, List.length_eq_zero_iff] at hcount
    have hmem : (Kind.configMap, caBundleName) ∈ clusterObjects "spoke-1" := by
      simp [clusterObjects]
    have hsome := isSome_deletion?_of_addressable (by decide +kernel) hmem
    rw [List.filterMap_eq_nil_iff.1 hcount _ hmem] at hsome
    exact absurd hsome (by decide +kernel)

end SpokeSim
