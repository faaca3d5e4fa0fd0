import SpokeSim.Json.Codec
import SpokeSim.Hub.Answer
import SpokeSim.Hub.Request
import SpokeSim.Text.Quoted

/-!
# Failures of calls to the hub

A call fails because the hub refuses it, because its answer does not fit, or because it never
reaches the hub.  Each cause is a constructor of `ApiError`; `ApiError.message` words it and
`ApiError.causes` lists what stands behind it.

A refusal carries an `ErrorResponse`.  Its code is the one that the body states, which need not be
the status of the answer: `ErrorResponse.ofRefusal` makes up a response only where the body states
none.
-/

namespace SpokeSim

open Codec Record

/-! ## Refusals -/

/-- What a refusal states. -/
structure ErrorResponse where
  status : String
  message : String := ""
  reason : String := ""
  code : UInt16
deriving DecidableEq, Repr

namespace ErrorResponse

/-- The fields of a refusal. -/
def record : Record ErrorResponse :=
  ((required "status" text).and <|
   (requiredOr "message" text "").and <|
   (requiredOr "reason" text "").and <|
   (required "code" uint16)).via
    (fun (status, message, reason, code) => { status, message, reason, code })
    (fun r => (r.status, r.message, r.reason, r.code))

/-- Refusals as objects, or as arrays of their four values. -/
def codec : Codec ErrorResponse := record.positional

/-- What a refusal says, in short. -/
def summary (r : ErrorResponse) : String := r.message ++ ": " ++ r.reason

/-- All parts of a refusal. -/
def details (r : ErrorResponse) : String :=
  "ErrorResponse \x7b status: " ++ Text.quoted r.status ++ ", message: " ++ Text.quoted r.message
    ++ ", reason: " ++ Text.quoted r.reason ++ ", code: " ++ toString r.code.toNat ++ " \x7d"

/-- What an answer with this failure status and text states: what its text says, or else the status
with the text in quotes. -/
def ofRefusal (status : Nat) (text : String) (draft : Json.Draft) : ErrorResponse :=
  match codec.decode draft with
  | .ok r => r
  | .error _ =>
    { status := statusLine status
      message := Text.quoted text
      reason := "Failed to parse error data"
      code := UInt16.ofNat status }

end ErrorResponse

/-! ## Causes -/

/-- Why a request could not be put together. -/
inductive RequestFault where
  /-- The target is no URI. -/
  | uri (f : UriFault)
  /-- The parameters of the call are wrong. -/
  | parameters (text : String)
deriving DecidableEq, Repr

/-- The wording of a fault. -/
def RequestFault.message : RequestFault → String
  | uri f => "failed to build request: " ++ f.message
  | parameters text => "failed to validate request: " ++ text

/-- What lies behind a fault, from the outside in. -/
def RequestFault.causes : RequestFault → List String
  | uri f => [f.message]
  | parameters _ => []

/-- Why the hub was not reached: its wording, and what lies behind it from the outside in. -/
structure Outage where
  text : String
  causes : List String := []
deriving DecidableEq, Repr

/-- There is no network through which the hub could be reached. -/
def Outage.noNetwork : Outage where
  text := "client error (Connect)"
  causes := ["tcp connect error", "Network is unreachable (os error 101)"]

/-- Why a call failed. -/
inductive ApiError where
  /-- The hub refused the call. -/
  | refused (r : ErrorResponse)
  /-- The body of an answer is not what it should be. -/
  | malformed
  /-- The request could not be put together. -/
  | unbuildable (f : RequestFault)
  /-- The body of an answer is no text. -/
  | notText (f : Text.Utf8Fault)
  /-- The hub was not reached. -/
  | unreached (o : Outage)
  /-- A stream of events broke off. -/
  | broken (text : String)
  /-- A stream of events has a line without end. -/
  | endlessLine
  /-- The hub wants an encrypted connection and there is none. -/
  | unencrypted
deriving DecidableEq, Repr

namespace ApiError

/-- The wording of a failure. -/
def message : ApiError → String
  | refused r => "ApiError: " ++ r.summary ++ " (" ++ r.details ++ ")"
  | malformed => "Error deserializing response: the body does not fit"
  | unbuildable f => "Failed to build request: " ++ f.message
  | notText f => "UTF-8 Error: " ++ f.message
  | unreached o => "ServiceError: " ++ o.text
  | broken text => "Error reading events stream: " ++ text
  | endlessLine => "Error finding newline character"
  | unencrypted => "TLS required but no TLS stack selected"

/-- What lies behind a failure, from the outside in. -/
def causes : ApiError → List String
  | refused r => [r.summary]
  | malformed => ["the body does not fit"]
  | unbuildable f => f.message :: f.causes
  | notText f => [f.message]
  | unreached o => o.text :: o.causes
  | broken text => [text]
  | endlessLine => []
  | unencrypted => []

/-! ## What a failure means -/

/-- How a failed call is to be taken by one that may be repeated. -/
inductive Outcome where
  | alreadyExists
  | notFound
  | other
deriving DecidableEq, Repr

/-- A refusal with code 409 means that the object is there already, one with 404 that it is not;
nothing else tells. -/
def outcome : ApiError → Outcome
  | refused r =>
    if r.code = 409 then .alreadyExists else if r.code = 404 then .notFound else .other
  | _ => .other

/-- The code and reason of a refusal; 0 and the wording of any other failure. -/
def statusOf : ApiError → Nat × String
  | refused r => (r.code.toNat, r.reason)
  | e => (0, e.message)

end ApiError

end SpokeSim
