import SpokeSim.Hub.Answer
import SpokeSim.Hub.Request
import SpokeSim.KeyMap

/-!
# The hub

The hub is a function from a request to an answer and the hub afterwards.  It looks for the answer
in three places.

* Among its *routes*, scripts for a method and all paths that begin in one way, the route with the
  longest beginning answers, of equal ones the last.  A script gives one reply for ever, or each
  reply of a list once and then the `exhausted` answer.
* A *stateful* hub then answers from its *objects*: it returns, lists, stores and removes documents
  under their paths.
* Everything else is not found.

A hub without routes that keeps objects is `Hub.isPlain`; what it does is said by the equations
about `Hub.fromObjects`.
-/

namespace SpokeSim

/-! ## Routes -/

/-- A line of a body that is written line by line. -/
inductive Line where
  | text (s : String)
  | document (j : Json)

/-- A line with its end; documents are compact, members in order of their names. -/
def Line.render : Line → String
  | text s => s ++ "\n"
  | document j => j.sorted.compact ++ "\n"

/-- The body of a scripted reply. -/
inductive Payload where
  | lines (ls : List Line)
  | bytes (bs : List UInt8)
  | text (s : String)
  | document (j : Json)
  /-- The body of the request itself. -/
  | echo

/-- A scripted reply. -/
structure Reply where
  status : Nat := 200
  payload : Payload

/-- What a route answers: one reply for ever, or each reply of a list once. -/
inductive Script where
  | always (r : Reply)
  | once (rs : List Reply)

/-- A script for a method and the paths that begin in one way. -/
structure Route where
  method : Method
  path : String
  script : Script

/-- Whether one text begins with another. -/
def startsWith (s start : String) : Bool := start.toList.isPrefixOf s.toList

/-- Whether some characters occur together in others. -/
def occursIn (part : List Char) : List Char → Bool
  | [] => part.isEmpty
  | c :: cs => part.isPrefixOf (c :: cs) || occursIn part cs

/-- Whether a route answers a request. -/
def Route.covers (r : Route) (q : Request) : Bool :=
  r.method = q.method && startsWith q.target.path r.path

/-- The body that a payload stands for. -/
def Payload.body (q : Request) : Payload → Body
  | lines ls => .text (String.join (ls.map Line.render))
  | bytes bs => .bytes bs
  | text s => .text s
  | document j => .document j.sorted
  | echo =>
    match q.body with
    | some j => .document j
    | none => .text ""

/-- The answer of a reply. -/
def Reply.answer (q : Request) (r : Reply) : Answer := ⟨r.status, r.payload.body q⟩

/-! ## Answers of the hub's own -/

/-- The document of a failure. -/
def failureDocument (message reason : String) (code : Nat) : Json :=
  .obj [("apiVersion", .str "v1"), ("code", .int code), ("kind", .str "Status"),
    ("message", .str message), ("reason", .str reason), ("status", .str "Failure")]

namespace Answer

/-- A failure of the hub's own. -/
def failure (message reason : String) (code : Nat) : Answer :=
  ⟨code, .document (failureDocument message reason code)⟩

/-- The answer of a script that has no reply left. -/
def exhausted : Answer := failure "script exhausted" "InternalError" 500

/-- Nothing answers at this path. -/
def notFound (path : String) : Answer :=
  failure ("resource \"" ++ path ++ "\" not found") "NotFound" 404

/-- The key of a new object is taken. -/
def conflict (key : String) : Answer :=
  failure ("object \"" ++ key ++ "\" already exists") "AlreadyExists" 409

/-- An object has been removed. -/
def removed : Answer :=
  ⟨200, .document (.obj [("apiVersion", .str "v1"), ("code", .int 200), ("kind", .str "Status"),
    ("metadata", .obj []), ("status", .str "Success")])⟩

/-- A list of objects. -/
def listing (items : List Json) : Answer :=
  ⟨200, .document (.obj [("apiVersion", .str "v1"), ("items", .arr items), ("kind", .str "List"),
    ("metadata", .obj [("resourceVersion", .str "1")])])⟩

end Answer

/-! ## The hub -/

/-- The answer of a route, and the route afterwards. -/
def Route.answer (q : Request) (r : Route) : Answer × Route :=
  match r.script with
  | .always reply => (reply.answer q, r)
  | .once [] => (.exhausted, r)
  | .once (reply :: rest) => (reply.answer q, { r with script := .once rest })

/-- A hub: its routes, and the objects that it keeps under their paths. -/
structure Hub where
  routes : List Route := []
  objects : KeyMap Json := .empty
  /-- Whether requests reach the objects. -/
  stateful : Bool := false

namespace Hub

instance : Inhabited Hub := ⟨{}⟩

/-- A hub without routes that keeps objects. -/
def isPlain (h : Hub) : Bool := h.routes.isEmpty && h.stateful

/-- The better of two routes, each with its place: the one with the longer beginning, and the later
one of equals. -/
def betterRoute (best : Option (Nat × Route)) (next : Nat × Route) : Option (Nat × Route) :=
  match best with
  | none => some next
  | some b => if b.2.path.length ≤ next.2.path.length then some next else some b

/-- The route that answers a request, with its place among the routes. -/
def routeFor? (h : Hub) (q : Request) : Option (Nat × Route) :=
  ((h.routes.zipIdx.map fun (r, i) => (i, r)).filter fun e => e.2.covers q).foldl betterRoute none

/-! ## Objects -/

/-- The collections whose objects a stateful hub lists. -/
def collections : List String :=
  ["configmaps", "secrets", "serviceaccounts", "deployments", "clusterrolebindings",
    "managedclusters", "pods"]

/-- The last segment of a path. -/
def lastSegment (path : String) : String :=
  String.ofList (path.toList.reverse.takeWhile (· != '/')).reverse

/-- Whether a key lies directly below a collection. -/
def isBelow (collection key : String) : Bool :=
  startsWith key (collection ++ "/") &&
    !(key.toList.drop (collection.length + 1)).contains '/'

/-- The objects directly below a collection, in the order of their keys. -/
def listed (h : Hub) (collection : String) : List Json :=
  (h.objects.entries.filter fun e => isBelow collection e.1).map Prod.snd

/-- The name that a document gives its object; empty if it gives none. -/
def nameOf (j : Json) : String :=
  (((j.member? "metadata").bind (·.member? "name")).bind Json.text?).getD ""

/-- Answer from the objects. -/
def fromObjects (h : Hub) (q : Request) : Answer × Hub :=
  let path := q.target.path
  match q.method with
  | .get =>
    match h.objects.get? path with
    | some j => (⟨200, .document j⟩, h)
    | none =>
      if lastSegment path ∈ collections then
        if occursIn "watch=true".toList q.target.query.toList then (.exhausted, h)
        else (.listing (h.listed path), h)
      else (.notFound path, h)
  | .post =>
    let j := q.body.getD .null
    let key := path ++ "/" ++ nameOf j
    if h.objects.contains key then (.conflict key, h)
    else (⟨201, .document j⟩, { h with objects := h.objects.insert key j })
  | .delete =>
    if h.objects.contains path then (.removed, { h with objects := h.objects.erase path })
    else (.notFound path, h)

/-- The answer to a request, and the hub afterwards. -/
def answer (h : Hub) (q : Request) : Answer × Hub :=
  match h.routeFor? q with
  | some (i, r) =>
    let (a, r) := r.answer q
    (a, { h with routes := h.routes.set i r })
  | none => if h.stateful then h.fromObjects q else (.notFound q.target.path, h)

end Hub

end SpokeSim
