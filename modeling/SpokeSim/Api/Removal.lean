import SpokeSim.Object.Kind

/-!
# Reports of a removal

The hub answers a removal with the removed object or with a report.  The report's fields are strict,
and all of them may be missing; the parts of a report may also be written as arrays.
-/

namespace SpokeSim

open Codec Record

/-- One cause of a failed removal. -/
structure RemovalCause where
  reason : String := ""
  message : String := ""
  field : String := ""

/-- The fields of a cause. -/
def RemovalCause.record : Record RemovalCause :=
  ((requiredOr "reason" text "").and <|
   (requiredOr "message" text "").and <|
   (requiredOr "field" text "")).via
    (fun (reason, message, field) => { reason, message, field })
    (fun c => (c.reason, c.message, c.field))

/-- The particulars of a removal. -/
structure RemovalDetails where
  name : String := ""
  group : String := ""
  kind : String := ""
  uid : String := ""
  causes : List RemovalCause := []
  retryAfterSeconds : UInt32 := 0

/-- The fields of the particulars. -/
def RemovalDetails.record : Record RemovalDetails :=
  ((requiredOr "name" text "").and <|
   (requiredOr "group" text "").and <|
   (requiredOr "kind" text "").and <|
   (requiredOr "uid" text "").and <|
   (requiredOr "causes" (list RemovalCause.record.positional) []).and <|
   (requiredOr "retryAfterSeconds" uint32 0)).via
    (fun (name, group, kind, uid, causes, retryAfterSeconds) =>
      { name, group, kind, uid, causes, retryAfterSeconds })
    (fun d => (d.name, d.group, d.kind, d.uid, d.causes, d.retryAfterSeconds))

/-- How a removal went. -/
inductive RemovalState where
  | success
  | failure
deriving DecidableEq

/-- The name of a state. -/
def RemovalState.name : RemovalState → String
  | success => "Success"
  | failure => "Failure"

/-- The state of a name. -/
def RemovalState.ofName? : String → Option RemovalState
  | "Success" => some success
  | "Failure" => some failure
  | _ => none

/-- The two states by name. -/
def RemovalState.codec : Codec RemovalState := .choice name ofName?

/-- The report of a removal. -/
structure Removal where
  status : Option RemovalState := none
  code : UInt16 := 0
  message : String := ""
  reason : String := ""
  details : Option RemovalDetails := none

namespace Removal

/-- The fields of a report. -/
def record : Record Removal :=
  ((optionalOnce "status" RemovalState.codec).and <|
   (requiredOr "code" uint16 0).and <|
   (requiredOr "message" text "").and <|
   (requiredOr "reason" text "").and <|
   (optionalOnce "details" RemovalDetails.record.positional)).via
    (fun (status, code, message, reason, details) => { status, code, message, reason, details })
    (fun r => (r.status, r.code, r.message, r.reason, r.details))

/-- Whether a draft answers the removal of an object: a document that is a report, or the object.
A document that calls itself `Status` is a report and nothing else. -/
def check (k : Kind) (d : Json.Draft) : Except Json.ParseFault Unit := do
  let j ← d.value
  if (j.member? "kind").bind Json.text? = some "Status" then
    let _ ← record.codec.decode d
  else
    let _ ← k.codec.decode d

end Removal

end SpokeSim
