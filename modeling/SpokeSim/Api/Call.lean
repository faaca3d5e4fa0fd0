import SpokeSim.Api.Error
import SpokeSim.Api.Removal
import SpokeSim.World

/-!
# Calls to the hub

The five things that are asked of the hub: one object, a new object, the removal of an object, a
list of objects, and a stream of events (of which only the request is made here).

An answer with a failure status is a refusal, whatever it says; any other answer must have a body
that fits.  Nothing is sent when a name makes the request's URI impossible.
-/

namespace SpokeSim.Api

/-- The draft of an answer, unless the answer is a refusal or its body is no text. -/
def draftOf (a : Answer) : Except ApiError Json.Draft :=
  match a.body.draft with
  | .error f => .error (.notText f)
  | .ok draft =>
    if isFailure a.status then .error (.refused (.ofRefusal a.status a.body.shown draft))
    else .ok draft

/-- The value of an answer. -/
def valueOf {α : Type} (read : Json.Draft → Except Json.ParseFault α) (a : Answer) :
    Except ApiError α := do
  (read (← draftOf a)).mapError fun _ => .malformed

/-- Send a request to a URI, if it is one. -/
def call {α : Type} (method : Method) (uri : String) (body : Option Json)
    (read : Answer → Except ApiError α) : Sim (Except ApiError α) :=
  match Target.parse uri with
  | .error f => return .error (.unbuildable (.uri f))
  | .ok target => do
    let a ← Sim.exchange { method, target, body }
    return read a

/-- Read an object. -/
def get (k : Kind) (space name : String) : Sim (Except ApiError k.Object) :=
  call .get (k.collection space ++ "/" ++ name) none (valueOf k.codec.decode)

/-- Store a new object. -/
def create (k : Kind) (space : String) (o : k.Object) : Sim (Except ApiError k.Object) :=
  call .post (k.collection space ++ "?") (some (k.codec.encode o)) (valueOf k.codec.decode)

/-- Remove an object. -/
def delete (k : Kind) (space name : String) : Sim (Except ApiError Unit) :=
  call .delete (k.collection space ++ "/" ++ name ++ "?") (some (.obj []))
    (valueOf (Removal.check k))

/-! ## Lists -/

/-- Objects of a kind, and the marks by which their list can be continued and watched. -/
structure Listing (k : Kind) where
  items : List k.Object
  resourceVersion : Option String := none
  continueToken : Option String := none

/-- What is told about a list. -/
def listMetaRecord : Record (Option String × Option Int64 × Option String × Option String) :=
  (Record.optional "continue" .text).and <|
  (Record.optional "remainingItemCount" .int64).and <|
  (Record.optional "resourceVersion" .text).and <|
  (Record.optional "selfLink" .text)

/-- The fields of a list of objects; everything else in it must at least be a document. -/
def Listing.record (k : Kind) : Record (Listing k) :=
  ((Record.requiredOr "metadata" listMetaRecord.codec (none, none, none, none)).and <|
   (Record.required "items" ((Codec.list k.codec).orNull []))).watchful.via
    (fun ((continueToken, _, resourceVersion, _), items) =>
      { items, resourceVersion, continueToken })
    (fun l => ((l.continueToken, none, l.resourceVersion, none), l.items))

/-- List objects; `query` holds parameters, each behind an ampersand. -/
def list (k : Kind) (space query : String) : Sim (Except ApiError (Listing k)) :=
  call .get (k.collection space ++ "?" ++ query) none (valueOf (Listing.record k).codec.decode)

end SpokeSim.Api
