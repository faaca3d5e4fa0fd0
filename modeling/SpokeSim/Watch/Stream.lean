import SpokeSim.Api.Call
import SpokeSim.Watch.Event
import SpokeSim.Watch.Notice

/-!
# Watching the clusters

A watch first lists all clusters, page by page, and then asks for notices of changes from the
version of the list on.  When an answer with notices ends it asks again, from the version it has
come to.  A list that fails, an answer without version, and a version that the hub no longer has
(code 410) make it begin anew.

A watch never ends, so it is given as a machine: `Watch.step` does one thing, which may send a
request and may have an outcome, and `Watch.next` goes on until there is an outcome or its fuel is
used up.
-/

namespace SpokeSim

/-- Why a watch has no news but a fault. -/
inductive WatchFault where
  /-- Listing the clusters failed. -/
  | listFailed (e : ApiError)
  /-- Asking for notices failed. -/
  | startFailed (e : ApiError)
  /-- The hub has broken the watch off. -/
  | refused (r : ErrorResponse)
  /-- A notice could not be read. -/
  | streamFailed (e : ApiError)
  /-- An answer names no version to watch from. -/
  | noVersion

/-- The wording of a fault. -/
def WatchFault.message : WatchFault → String
  | listFailed e => "failed to perform initial object list: " ++ e.message
  | startFailed e => "failed to start watching object: " ++ e.message
  | refused r => "error returned by apiserver during watch: " ++ r.summary
  | streamFailed e => "watch stream failed: " ++ e.message
  | noVersion => "no metadata.resourceVersion in watch result (does resource support watch?)"

/-- Where a watch stands. -/
inductive Watch where
  /-- Nothing has been done. -/
  | fresh
  /-- Some pages have been listed; `waiting` is what is still to be told of the last one, `token`
  the mark of the next one, and `version` the version of the last one. -/
  | paging (token : Option String) (waiting : List ManagedCluster) (version : Option String)
  /-- All changes up to a version are known. -/
  | upTo (version : String)
  /-- Some notices are still to be told. -/
  | reading (version : String) (waiting : List (Except ApiError Notice))

namespace Watch

instance : Inhabited Watch := ⟨fresh⟩

/-- What a step may bring: news, or a fault. -/
abbrev Outcome := Except WatchFault WatchNews

/-- The query for a page. -/
def pageQuery : Option String → String
  | none => "&limit=500"
  | some token => "&limit=500&continue=" ++ formEncode token

/-- The query for the notices from a version on. -/
def noticesQuery (version : String) : String :=
  "&watch=true&timeoutSeconds=290&allowWatchBookmarks=true&resourceVersion=" ++ formEncode version

/-- A text, if there is one and it is not empty. -/
def nonEmpty (s : Option String) : Option String := s.filter (· ≠ "")

/-- Ask for the notices from a version on; the status of the answer means nothing here. -/
def notices (version : String) : Sim (Except ApiError (List (Except ApiError Notice))) :=
  Api.call .get (Kind.managedCluster.collection "" ++ "?" ++ noticesQuery version) none
    fun a => .ok (Notice.ofBody a.body)

/-- What to do about a changed cluster: tell of it and go on from its version, if it has one. -/
def change (news : ManagedCluster → WatchNews) (c : ManagedCluster)
    (rest : List (Except ApiError Notice)) : Outcome × Watch :=
  match nonEmpty c.metadata.resourceVersion with
  | none => (.error .noVersion, fresh)
  | some version => (.ok (news c), reading version rest)

/-- What to do about a notice. -/
def take (version : String) (notice : Except ApiError Notice)
    (rest : List (Except ApiError Notice)) : Option Outcome × Watch :=
  match notice with
  | .ok (.applied c) =>
    let (o, w) := change .applied c rest
    (some o, w)
  | .ok (.removed c) =>
    let (o, w) := change .removed c rest
    (some o, w)
  | .ok (.bookmark version) => (none, reading version rest)
  | .ok (.refused r) =>
    (some (.error (.refused r)), if r.code = 410 then fresh else reading version rest)
  | .error e => (some (.error (.streamFailed e)), reading version rest)

/-- Fetch a page. -/
def fetchPage (token : Option String) : Sim (Option Outcome × Watch) := do
  match ← Api.list .managedCluster "" (pageQuery token) with
  | .error e => return (some (.error (.listFailed e)), fresh)
  | .ok page =>
    match nonEmpty page.continueToken, nonEmpty page.resourceVersion with
    | none, none => return (some (.error .noVersion), fresh)
    | token, version => return (none, paging token page.items version)

/-- Do one thing. -/
def step : Watch → Sim (Option Outcome × Watch)
  | fresh => return (some (.ok .listing), paging none [] none)
  | paging token (c :: waiting) version =>
    return (some (.ok (.listed c)), paging token waiting version)
  | paging none [] (some version) => return (some (.ok .listingDone), upTo version)
  | paging token [] _ => fetchPage token
  | upTo version => do
    match ← notices version with
    | .error e => return (some (.error (.startFailed e)), upTo version)
    | .ok waiting => return (none, reading version waiting)
  | reading version [] => return (none, upTo version)
  | reading version (notice :: rest) => return take version notice rest

/-- Go on until there is an outcome, for so many steps at most. -/
def next : Nat → Watch → Sim (Option Outcome × Watch)
  | 0, w => return (none, w)
  | fuel + 1, w => do
    match ← step w with
    | (some o, w) => return (some o, w)
    | (none, w) => next fuel w

end Watch

end SpokeSim
