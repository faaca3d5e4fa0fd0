import SpokeSim.Api.Error
import SpokeSim.Object.ManagedCluster

/-!
# Notices

The body of an answer to a watch is a sequence of lines, each a document: a notice of one change.

* `Notice.ofDraft` reads a notice from an object with a `type` and an `object`, or from an array of
  these two.  An object that stands before its type is read as a document first.
* `Notice.ofLine` reads a line.  A line that ends before its notice does is passed over; a line
  that is no notice may still be a refusal.
* `Notice.ofBody` reads a whole body.  A line feed ends a line, a carriage return before it is
  dropped, and what follows the last line feed is a line too unless nothing is there.  Bytes that
  are no text end the reading.
-/

namespace SpokeSim

open Codec Record
open Json (Draft Flaw ParseFault)

/-- A notice of a change. -/
inductive Notice where
  /-- A cluster is new or has changed. -/
  | applied (c : ManagedCluster)
  /-- A cluster has been removed. -/
  | removed (c : ManagedCluster)
  /-- The watch has come to a version without a change. -/
  | bookmark (version : String)
  /-- The hub breaks the watch off. -/
  | refused (r : ErrorResponse)

namespace Notice

/-- What a notice is about, by the name of its type. -/
inductive Topic where
  | added
  | modified
  | deleted
  | bookmark
  | error
deriving DecidableEq, Repr

/-- The topic of a type's name. -/
def Topic.ofName? : String → Option Topic
  | "ADDED" => some added
  | "MODIFIED" => some modified
  | "DELETED" => some deleted
  | "BOOKMARK" => some bookmark
  | "ERROR" => some error
  | _ => none

/-! ## Objects of notices -/

/-- The fields of a bookmark's metadata. -/
def bookmarkMetaRecord : Record (String × KeyMap String) :=
  (required "resourceVersion" text).and <| (requiredOr "annotations" (map text) .empty)

/-- The fields of a bookmark. -/
def bookmarkRecord : Record (String × String × String × KeyMap String) :=
  ((buffered "apiVersion" text).and <|
   (buffered "kind" text).and <|
   (required "metadata" bookmarkMetaRecord.positional)).watchful

/-- The version of a bookmark. -/
def bookmarkVersion (d : Draft) : Except ParseFault String :=
  (bookmarkRecord.codec.decode d).map fun (_, _, version, _) => version

/-- The notice of a topic about an object. -/
def ofParts (t : Topic) (object : Draft) : Except ParseFault Notice :=
  match t with
  | .added | .modified => (ManagedCluster.codec.decode object).map applied
  | .deleted => (ManagedCluster.codec.decode object).map removed
  | .bookmark => (bookmarkVersion object).map bookmark
  | .error => (ErrorResponse.codec.decode object).map refused

/-! ## Drafts -/

/-- What has been read of the members of a notice. -/
inductive Progress where
  | nothing
  | topic (t : Topic)
  /-- The object, whose topic is not known yet. -/
  | object (d : Draft)
  | whole (n : Notice)

/-- Read a member.  Neither the type nor the object may be repeated. -/
def Progress.take (p : Progress) (name : String) (d : Draft) : Except ParseFault Progress :=
  match name, p with
  | "type", nothing => (decodeChoice Topic.ofName? d).map topic
  | "type", object o => do
    let t ← decodeChoice Topic.ofName? d
    match ofParts t o with
    | .ok n => return whole n
    | .error _ => throw .malformed
  | "object", nothing => d.value.map fun _ => object d
  | "object", topic t => (ofParts t d).map whole
  | "type", _ | "object", _ => .error .malformed
  | _, p => .ok p

/-- The notice of the members of an object. -/
def ofMembers (flaw : Option Flaw) : Progress → List (String × Draft) → Except ParseFault Notice
  | p, (name, d) :: ms => do ofMembers flaw (← p.take name d) ms
  | .whole n, [] => (Draft.ending false flaw).map fun _ => n
  | _, [] => do
    Draft.ending false flaw
    throw .malformed

/-- The notice of the items of an array. -/
def ofItems (flaw : Option Flaw) : List Draft → Except ParseFault Notice
  | d :: ds => do
    let t ← decodeChoice Topic.ofName? d
    match ds with
    | d :: ds =>
      let n ← ofParts t d
      Draft.ending (!ds.isEmpty) flaw
      return n
    | [] =>
      Draft.ending false flaw
      throw .malformed
  | [] => do
    Draft.ending false flaw
    throw .malformed

/-- The notice of a draft. -/
def ofDraft : Draft → Except ParseFault Notice
  | .arr items flaw => ofItems flaw items
  | .obj members flaw => ofMembers flaw .nothing members
  | d => .error d.misfit

/-- The notice of a line; none for a line that is blank or cut off. -/
def ofLine (line : String) : Option (Except ApiError Notice) :=
  let draft := Draft.ofText line
  match ofDraft draft with
  | .ok n => some (.ok n)
  | .error .truncated => none
  | .error .malformed =>
    match ErrorResponse.codec.decode draft with
    | .ok r => some (.error (.refused r))
    | .error _ => some (.error .malformed)

/-! ## Lines -/

/-- Cut bytes behind every line feed: the lines, and what follows the last line feed. -/
def cutLines : List UInt8 → List (List UInt8) × List UInt8
  | [] => ([], [])
  | b :: bs =>
    let (lines, rest) := cutLines bs
    if b = 10 then ([] :: lines, rest)
    else
      match lines with
      | [] => ([], b :: rest)
      | line :: lines => ((b :: line) :: lines, rest)

/-- A line without the carriage return at its end. -/
def dropReturn (line : List UInt8) : List UInt8 :=
  if line.getLast? = some 13 then line.dropLast else line

/-- The lines of a body. -/
def linesOf (bs : List UInt8) : List (List UInt8) :=
  let (lines, rest) := cutLines bs
  let lines := if rest = [] ∨ rest = [13] then lines else lines ++ [rest]
  lines.map dropReturn

/-- The notices of lines, up to the first line that is no text. -/
def ofLines : List (List UInt8) → List (Except ApiError Notice)
  | [] => []
  | line :: lines =>
    match Text.decode line with
    | .ok s => (ofLine s).toList ++ ofLines lines
    | .error _ => [.error (.broken "Unable to decode input as UTF8")]

/-- The notices of a body. -/
def ofBody (b : Body) : List (Except ApiError Notice) := ofLines (linesOf b.toBytes)

end Notice

end SpokeSim
