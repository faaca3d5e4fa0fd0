import Mathlib.Tactic.Common
import SpokeSim.Simulator.Provision

/-!
# What is exchanged with a hub

An action of the simulator changes the world in three ways: it exchanges requests for answers, it
draws identifiers, and it writes to the log.  The hub goes its own way under the requests
(`Hub.after`), so all that is to be said about an action is which requests it makes, and what it
makes of the answers.

* `World.Leads`: from one world to another by so many requests.
* `Answer.object?` and `Answer.accepts`: what a reader and a creator make of an answer.
* `createIfAbsent_leads` and `createIfAbsent_eq_ok_iff`: a creation makes one request at most, and
  succeeds if it is made and its answer accepts it.
-/

namespace SpokeSim

/-! ## Actions on a state -/

lemma bind_apply {σ α β : Type} (act : StateM σ α) (next : α → StateM σ β) (s : σ) :
    (act >>= next) s = next (act s).1 (act s).2 := rfl

lemma pure_apply {σ α : Type} (a : α) (s : σ) : (pure a : StateM σ α) s = (a, s) := rfl

lemma discard_snd {σ α : Type} (act : StateM σ α) (s : σ) : (discard act s).2 = (act s).2 := rfl

/-! ## Requests one after the other -/

namespace Hub

/-- The hub after some requests. -/
def after (h : Hub) (qs : List Request) : Hub := qs.foldl (fun h q => (h.answer q).2) h

/-- Requests with the answers that they get one after the other. -/
def answered : Hub → List Request → List (Request × Answer)
  | _, [] => []
  | h, q :: qs => (q, (h.answer q).1) :: answered (h.answer q).2 qs

@[simp] lemma after_nil (h : Hub) : h.after [] = h := rfl

@[simp] lemma after_cons (h : Hub) (q : Request) (qs : List Request) :
    h.after (q :: qs) = (h.answer q).2.after qs := rfl

lemma after_append (h : Hub) (qs qs' : List Request) :
    h.after (qs ++ qs') = (h.after qs).after qs' :=
  List.foldl_append

lemma answered_append (h : Hub) (qs qs' : List Request) :
    h.answered (qs ++ qs') = h.answered qs ++ (h.after qs).answered qs' := by
  induction qs generalizing h with
  | nil => rfl
  | cons q qs ih => rw [List.cons_append, answered, answered, ih, List.cons_append, after_cons]

end Hub

/-- One world leads to another by requests and by drawing so many identifiers.  The log is left
open. -/
structure World.Leads (w : World) (qs : List Request) (draws : Nat) (w' : World) : Prop where
  hub : w'.hub = w.hub.after qs
  exchanges : w'.exchanges = w.exchanges ++ w.hub.answered qs
  ids : w'.ids = w.ids
  drawn : w'.drawn = w.drawn + draws

namespace World.Leads

variable {w w₁ w₂ : World}

protected lemma refl (w : World) : w.Leads [] 0 w :=
  ⟨rfl, (List.append_nil _).symm, rfl, rfl⟩

protected lemma trans {qs qs' : List Request} {draws draws' : Nat} (h : w.Leads qs draws w₁)
    (h' : w₁.Leads qs' draws' w₂) : w.Leads (qs ++ qs') (draws + draws') w₂ where
  hub := by rw [h'.hub, h.hub, Hub.after_append]
  exchanges := by
    rw [h'.exchanges, h.exchanges, h.hub, Hub.answered_append, List.append_assoc]
  ids := h'.ids.trans h.ids
  drawn := by rw [h'.drawn, h.drawn, Nat.add_assoc]

/-- Writing to the log leads nowhere. -/
lemma log (w : World) (level : Level) (component : Component) (message : String) :
    w.Leads [] 0 (log level component message w).2 :=
  ⟨rfl, (List.append_nil _).symm, rfl, rfl⟩

lemma exchange (w : World) (q : Request) : w.Leads [q] 0 (Sim.exchange q w).2 :=
  ⟨rfl, rfl, rfl, rfl⟩

lemma freshId (w : World) : w.Leads [] 1 (Sim.freshId w).2 :=
  ⟨rfl, (List.append_nil _).symm, rfl, rfl⟩

lemma andLog {qs : List Request} {draws : Nat} (h : w.Leads qs draws w₁) (level : Level)
    (component : Component) (message : String) :
    w.Leads qs draws (SpokeSim.log level component message w₁).2 := by
  simpa using h.trans (log w₁ level component message)

end World.Leads

/-! ## What is made of an answer -/

/-- The code of a refusal with this status: the one that its body states, or else the status. -/
def refusalCode (status : Nat) (d : Json.Draft) : Nat :=
  match ErrorResponse.codec.decode d with
  | .ok r => r.code.toNat
  | .error _ => status

namespace Answer

/-- The object that an answer gives: its status is no failure, and its body is of the kind. -/
def object? (k : Kind) (a : Answer) : Option k.Object :=
  if isFailure a.status then none
  else a.body.draft.toOption.bind fun d => (k.codec.decode d).toOption

/-- Whether an answer to the creation of an object tells that the object is there: it gives the
object, or it is a refusal with code 409. -/
def accepts (k : Kind) (a : Answer) : Bool :=
  if isFailure a.status then a.body.draft.toOption.map (refusalCode a.status) = some 409
  else (a.object? k).isSome

lemma object?_of_isFailure {k : Kind} {a : Answer} (h : isFailure a.status = true) :
    a.object? k = none :=
  if_pos h

lemma object?_of_fits {k : Kind} {a : Answer} {d : Json.Draft} (hd : a.body.draft = .ok d)
    (h : isFailure a.status = false) : a.object? k = (k.codec.decode d).toOption := by
  rw [object?, h, hd]; rfl

end Answer

namespace Api

variable {α : Type} {read : Json.Draft → Except Json.ParseFault α} {a : Answer}

lemma valueOf_of_notText {f : Text.Utf8Fault} (h : a.body.draft = .error f) :
    valueOf read a = .error (.notText f) := by
  rw [valueOf, draftOf, h]; rfl

lemma valueOf_of_isFailure {d : Json.Draft} (hd : a.body.draft = .ok d)
    (h : isFailure a.status = true) :
    valueOf read a = .error (.refused (.ofRefusal a.status a.body.shown d)) := by
  rw [valueOf, draftOf, hd, h]; rfl

lemma valueOf_of_fits {d : Json.Draft} (hd : a.body.draft = .ok d)
    (h : isFailure a.status = false) :
    valueOf read a = (read d).mapError fun _ => .malformed := by
  rw [valueOf, draftOf, hd, h]; rfl

/-- A reader gets what it makes of the body, unless the status is a failure. -/
lemma toOption_valueOf_eq (read : Json.Draft → Except Json.ParseFault α) (a : Answer) :
    (valueOf read a).toOption =
      if isFailure a.status then none
      else a.body.draft.toOption.bind fun d => (read d).toOption := by
  cases hd : a.body.draft with
  | error f => simp [valueOf_of_notText hd, Except.toOption]
  | ok d =>
    cases h : isFailure a.status with
    | true => rw [valueOf_of_isFailure hd h]; rfl
    | false =>
      rw [valueOf_of_fits hd h]
      cases hread : read d <;> simp [Except.mapError, Except.toOption, hread]

/-- A reader gets the object of an answer. -/
lemma toOption_valueOf (k : Kind) (a : Answer) :
    (valueOf k.codec.decode a).toOption = a.object? k :=
  toOption_valueOf_eq k.codec.decode a

end Api

/-- The code of a refusal is a number of its own width. -/
lemma toNat_code_ofRefusal {status : Nat} (h : isFailure status = true) (text : String)
    (d : Json.Draft) :
    (ErrorResponse.ofRefusal status text d).code.toNat = refusalCode status d := by
  have hlt : status < 2 ^ 16 := by
    simp only [isFailure, Bool.and_eq_true, decide_eq_true_eq] at h
    omega
  rw [ErrorResponse.ofRefusal, refusalCode]
  cases ErrorResponse.codec.decode d with
  | ok r => rfl
  | error _ => exact UInt16.toNat_ofNat_of_lt hlt

/-- A refusal is taken for a conflict if its code is 409. -/
lemma outcome_ofRefusal_iff {status : Nat} (h : isFailure status = true) (text : String)
    (d : Json.Draft) :
    (ApiError.refused (.ofRefusal status text d)).outcome = .alreadyExists ↔
      refusalCode status d = 409 := by
  rw [← toNat_code_ofRefusal h text d, ApiError.outcome]
  split
  case isTrue hconflict => simp [hconflict]
  case isFalse hconflict =>
    have hne : (ErrorResponse.ofRefusal status text d).code.toNat ≠ 409 :=
      fun hnat => hconflict (UInt16.toNat_inj.1 hnat)
    split <;> simp [hne]

/-- An answer accepts a creation if it gives the object or is taken for a conflict. -/
lemma Answer.accepts_iff {k : Kind} {a : Answer} :
    a.accepts k = true ↔
      match Api.valueOf k.codec.decode a with
      | .ok _ => True
      | .error e => e.outcome = .alreadyExists := by
  cases hd : a.body.draft with
  | error f =>
    simp [Api.valueOf_of_notText hd, accepts, object?, hd, Except.toOption, ApiError.outcome]
  | ok d =>
    cases h : isFailure a.status with
    | true =>
      rw [Api.valueOf_of_isFailure hd h, accepts, if_pos h, hd]
      simp only [Except.toOption, Option.map_some, Option.some.injEq, decide_eq_true_eq]
      exact (outcome_ofRefusal_iff h a.body.shown d).symm
    | false =>
      rw [Api.valueOf_of_fits hd h, accepts, h, object?_of_fits hd h]
      cases k.codec.decode d <;> simp [Except.mapError, Except.toOption, ApiError.outcome]

/-! ## Calls -/

/-- The request to a URI, if it is one. -/
def request? (method : Method) (uri : String) (body : Option Json := none) : Option Request :=
  (Target.parse uri).toOption.map fun target => { method, target, body }

lemma request?_of_parse {method : Method} {uri : String} {body : Option Json} {target : Target}
    (h : Target.parse uri = .ok target) :
    request? method uri body = some { method, target, body } := by
  rw [request?, h]; rfl

lemma isSome_request? {method : Method} {uri : String} {body : Option Json} :
    (request? method uri body).isSome = (Target.parse uri).isOk := by
  rw [request?]
  cases Target.parse uri <;> rfl

lemma request?_of_fault {method : Method} {uri : String} {body : Option Json} {f : UriFault}
    (h : Target.parse uri = .error f) : request? method uri body = none := by
  rw [request?, h]; rfl

/-- The request that stores a new object. -/
def posting? (k : Kind) (space : String) (o : k.Object) : Option Request :=
  request? .post (k.collection space ++ "?") (some (k.codec.encode o))

/-- A hub accepts an object: the object can be sent, and the hub's answer accepts it. -/
def Hub.Takes (h : Hub) (k : Kind) (space : String) (o : k.Object) : Prop :=
  ∃ q, posting? k space o = some q ∧ (h.answer q).1.accepts k = true

namespace Api

variable {α : Type} {read : Answer → Except ApiError α} {method : Method} {uri : String}
  {body : Option Json}

/-- A call makes its request, if it has one. -/
lemma call_leads (w : World) :
    w.Leads (request? method uri body).toList 0 (call method uri body read w).2 := by
  rw [call, request?]
  cases Target.parse uri with
  | error f => exact .refl w
  | ok target => exact .exchange w _

lemma call_leads_of_some {q : Request} (h : request? method uri body = some q) (w : World) :
    w.Leads [q] 0 (call method uri body read w).2 := by
  have hleads : w.Leads (request? method uri body).toList 0 (call method uri body read w).2 :=
    call_leads w
  rwa [h] at hleads

lemma call_of_none (read : Answer → Except ApiError α) (h : request? method uri body = none)
    (w : World) :
    ∃ f, (call method uri body read w).1 = .error (.unbuildable f) := by
  rw [call]
  cases hparse : Target.parse uri with
  | error f => exact ⟨_, rfl⟩
  | ok target =>
    rw [request?_of_parse hparse] at h
    cases h

lemma call_of_some {q : Request} (h : request? method uri body = some q) (w : World) :
    (call method uri body read w).1 = read (w.hub.answer q).1 := by
  rw [call]
  cases hparse : Target.parse uri with
  | error f =>
    rw [request?_of_fault hparse] at h
    cases h
  | ok target =>
    rw [request?_of_parse hparse] at h
    rw [← Option.some.inj h]; rfl

end Api

lemma createIfAbsent_leads (k : Kind) (space : String) (o : k.Object) (w : World) :
    w.Leads (posting? k space o).toList 0 (createIfAbsent k space o w).2 := by
  have hcall : w.Leads (posting? k space o).toList 0 (Api.create k space o w).2 :=
    Api.call_leads w
  rw [createIfAbsent, bind_apply]
  cases (Api.create k space o w).1 with
  | ok _ => exact hcall.andLog ..
  | error e =>
    simp only
    cases e.outcome with
    | alreadyExists => exact hcall.andLog ..
    | notFound => exact hcall
    | other => exact hcall

/-- A creation succeeds if the object is created or is there already. -/
lemma createIfAbsent_eq_ok_iff_create (k : Kind) (space : String) (o : k.Object) (w : World) :
    (createIfAbsent k space o w).1 = .ok () ↔
      match (Api.create k space o w).1 with
      | .ok _ => True
      | .error e => e.outcome = .alreadyExists := by
  rw [createIfAbsent, bind_apply]
  cases (Api.create k space o w).1 with
  | ok _ => simp [bind_apply, pure_apply]
  | error e =>
    simp only
    cases e.outcome <;> simp [bind_apply, pure_apply]

/-- **A creation succeeds** just if the hub accepts the object. -/
lemma createIfAbsent_eq_ok_iff (k : Kind) (space : String) (o : k.Object) (w : World) :
    (createIfAbsent k space o w).1 = .ok () ↔ w.hub.Takes k space o := by
  rw [createIfAbsent_eq_ok_iff_create, Hub.Takes, Api.create]
  cases hq : posting? k space o with
  | none =>
    obtain ⟨f, hf⟩ := Api.call_of_none (Api.valueOf k.codec.decode) hq w
    simp [hf, ApiError.outcome]
  | some q =>
    rw [Api.call_of_some hq, ← Answer.accepts_iff]
    simp

end SpokeSim
