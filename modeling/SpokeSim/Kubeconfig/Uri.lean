import SpokeSim.Hub.Request

/-!
# Addresses

The address of a hub or of a proxy is a URI: with a scheme, an authority, a path and a query; or an
authority alone; or a path alone.

* `Uri.parse`: the URI of a text, or what is wrong about it.
* `Uri.text`: a URI as it is shown; an empty path behind an authority with scheme shows as a slash.
-/

namespace SpokeSim

/-- A URI; what it does not have is empty. -/
structure Uri where
  scheme : String := ""
  authority : String := ""
  path : String := ""
  query : Option String := none
deriving DecidableEq, Repr, Inhabited

namespace Uri

/-! ## Schemes -/

/-- Whether a character may stand in a scheme. -/
def isSchemeChar (c : Char) : Bool := c.isAlphanum || c == '+' || c == '-' || c == '.'

/-- A scheme with what follows its colon and slashes. -/
def cutScheme? (cs : List Char) : Option (List Char × List Char) :=
  match cs.span isSchemeChar with
  | (scheme, ':' :: '/' :: '/' :: rest) => some (scheme, rest)
  | _ => none

/-- How many characters a scheme may have. -/
def longestScheme : Nat := 64

/-- A scheme as it is kept: the two of the web in small letters. -/
def schemeText (cs : List Char) : String :=
  let lower := String.ofList (cs.map Char.toLower)
  if lower = "http" ∨ lower = "https" then lower else String.ofList cs

/-! ## Authorities -/

/-- Whether a character ends an authority. -/
def endsAuthority (c : Char) : Bool := c == '/' || c == '?' || c == '#'

/-- Whether a character may stand in an authority. -/
def isAuthorityChar (c : Char) : Bool :=
  c.isAlphanum || "!$&'()*+,-.:;=?@[]_~%".toList.contains c

/-- What has been seen of an authority. -/
structure Seen where
  colons : Nat := 0
  opened : Bool := false
  closed : Bool := false
  percent : Bool := false
  /-- The last character parts a user from a host. -/
  atUser : Bool := false

/-- See one more character of an authority. -/
def Seen.see (s : Seen) (c : Char) : Except UriFault Seen :=
  if ¬isAuthorityChar c then .error .character
  else if c = ':' then
    if s.colons ≥ 8 then .error .authority
    else .ok { s with colons := s.colons + 1, atUser := false }
  else if c = '[' then
    if s.percent || s.opened then .error .authority
    else .ok { s with opened := true, atUser := false }
  else if c = ']' then
    if !s.opened || s.closed then .error .authority
    else .ok { s with closed := true, colons := 0, percent := false, atUser := false }
  else if c = '@' then .ok { s with colons := 0, percent := false, atUser := true }
  else if c = '%' then .ok { s with percent := true, atUser := false }
  else .ok { s with atUser := false }

/-- Whether what has been seen is an authority: its brackets are closed, at most one colon is left
for a port, and neither an empty host nor a percent sign stands at the end. -/
def Seen.isGood (s : Seen) : Bool :=
  s.opened == s.closed && s.colons ≤ 1 && !s.atUser && !s.percent

/-- Look at the characters of an authority one after the other. -/
def seeAll : Seen → List Char → Except UriFault Seen
  | s, [] => .ok s
  | s, c :: cs => do seeAll (← s.see c) cs

/-- Check an authority. -/
def checkAuthority (cs : List Char) : Except UriFault Unit := do
  let s ← seeAll {} cs
  if s.isGood then .ok () else .error .authority

/-! ## URIs -/

/-- A path with its query; a fragment is dropped. -/
def pathAndQuery (cs : List Char) : Except UriFault (String × Option String) :=
  let cs := Target.dropFragment cs
  let (path, rest) := cs.span (· ≠ '?')
  let query := rest.drop 1
  if path.all Target.isPathChar && query.all Target.isQueryChar then
    .ok (String.ofList path, if rest.isEmpty then none else some (String.ofList query))
  else .error .character

/-- Check the length of a scheme. -/
def checkScheme : Option (List Char) → Except UriFault Unit
  | none => .ok ()
  | some scheme => if scheme.length > longestScheme then .error .schemeTooLong else .ok ()

/-- The URI of a text. -/
def parse (s : String) : Except UriFault Uri := do
  if s.utf8ByteSize > Target.longest then throw .tooLong
  match s.toList with
  | [] => .error .empty
  | '/' :: cs =>
    let (path, query) ← pathAndQuery ('/' :: cs)
    return { path, query }
  | ['*'] => return { path := "*" }
  | ['?'] | ['#'] => .error .character
  | cs =>
    let (scheme, rest) := match cutScheme? cs with
      | some (scheme, rest) => (some scheme, rest)
      | none => (none, cs)
    checkScheme scheme
    let (authority, rest) := rest.span (!endsAuthority ·)
    checkAuthority authority
    match scheme with
    | none =>
      if rest.isEmpty then return { authority := String.ofList authority } else .error .format
    | some scheme =>
      if authority.isEmpty then .error .format
      else
        let (path, query) ← pathAndQuery rest
        return { scheme := schemeText scheme, authority := String.ofList authority, path, query }

/-- A URI as it is shown. -/
def text (u : Uri) : String :=
  (if u.scheme = "" then "" else u.scheme ++ "://") ++ u.authority
    ++ (if u.path = "" ∧ u.scheme ≠ "" then "/" else u.path)
    ++ (match u.query with
      | some query => "?" ++ query
      | none => "")

end Uri

end SpokeSim
