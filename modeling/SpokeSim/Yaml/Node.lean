import SpokeSim.Yaml.Token

/-!
# Nodes

A document is a tree of nodes: scalars, sequences and maps, each with a tag if one is written, and
aliases, which stand for other nodes of the document.

* `Document.ofTokens`: the documents of tokens, up to the first one that is none.
* `Document.target?`: the node for which an alias stands.

An anchor gives its node a number, by which aliases know it: the number of names that have been
given before.  A name that is given again keeps the other names' numbers, so that two nodes may get
one number; the later one then has it.
-/

namespace SpokeSim.Yaml

/-- A node of a document. -/
inductive Node where
  /-- The node with a number. -/
  | alias (number : Nat)
  | scalar (tag : Option String) (style : Style) (text : String)
  | seq (tag : Option String) (items : List Node)
  /-- Keys with values, in the order in which they are written. -/
  | map (tag : Option String) (members : List (Node × Node))
deriving Repr, Inhabited

/-- A scalar that is not written at all. -/
def Node.nothing : Node := .scalar none .plain ""

/-- A node with an anchor: its number, and its place among the nodes. -/
structure Anchored where
  number : Nat
  place : Nat
  node : Node

/-- A document. -/
structure Document where
  root : Node
  anchored : List Anchored := []
  /-- How many scalars, aliases, and begins and ends of collections the document has. -/
  size : Nat := 1

namespace Document

/-- The later of two nodes. -/
def later (best : Option Anchored) (next : Anchored) : Option Anchored :=
  match best with
  | none => some next
  | some b => if b.place ≤ next.place then some next else some b

/-- The node with a number. -/
def target? (d : Document) (number : Nat) : Option Node :=
  ((d.anchored.filter (·.number == number)).foldl later none).map (·.node)

/-! ## Reading -/

/-- What is known while nodes are read. -/
structure Reading where
  /-- The tokens that are left. -/
  tokens : List Token
  /-- What the handles of tags stand for. -/
  handles : List (String × String) := []
  /-- The numbers of names. -/
  names : List (String × Nat) := []
  anchored : List Anchored := []
  size : Nat := 0

/-- A step of reading, which may fail. -/
abbrev Reader := StateT Reading Option

namespace Reader

/-- The next token. -/
def peek : Reader Token := do (← get).tokens.head?

/-- Go on behind the next token. -/
def skip : Reader Unit := modify fun r => { r with tokens := r.tokens.drop 1 }

/-- Go on behind the next token if it is this one. -/
def accept (t : Token) : Reader Bool := do
  if (← peek) == t then
    skip
    return true
  else return false

/-- Count one more part of the document. -/
def count : Reader Nat := modifyGet fun r => (r.size, { r with size := r.size + 1 })

/-! ### Properties of nodes -/

/-- The anchor and the tag of a node. -/
structure Props where
  anchor : Option String := none
  tag : Option String := none

/-- The tag of a handle and the rest. -/
def fullTag (handle rest : String) : Reader String := do
  if handle = "" then return rest
  else
    match (← get).handles.lookup handle with
    | some start => return start ++ rest
    | none => failure

/-- The name of an anchor, if one stands here. -/
def anchor? : Reader (Option String) := do
  match ← peek with
  | .anchor name => skip; return some name
  | _ => return none

/-- The handle and the rest of a tag, if one stands here. -/
def tag? : Reader (Option (String × String)) := do
  match ← peek with
  | .tag handle rest => skip; return some (handle, rest)
  | _ => return none

/-- The anchor and the tag that stand here, in either order. -/
def props : Reader Props := do
  let first ← anchor?
  let tag ← tag?
  let anchor ← if first.isNone && tag.isSome then anchor? else pure first
  match tag with
  | some (handle, rest) => return { anchor, tag := some (← fullTag handle rest) }
  | none => return { anchor }

/-- Give a node's anchor its number. -/
def declare (anchor : Option String) : Reader (Option (Nat × Nat)) := do
  let place ← count
  match anchor with
  | none => return none
  | some name =>
    let r ← get
    let number := r.names.length
    set { r with names := (name, number) :: r.names.filter (·.1 != name) }
    return some (number, place)

/-- Keep a node under the number of its anchor. -/
def keep (declared : Option (Nat × Nat)) (node : Node) : Reader Node := do
  if let some (number, place) := declared then
    modify fun r => { r with anchored := r.anchored ++ [⟨number, place, node⟩] }
  return node

/-- A scalar.  The tag that is only an exclamation mark means nothing on one that is written. -/
def scalar (p : Props) (style : Style) (text : String) : Reader Node := do
  keep (← declare p.anchor) (.scalar p.tag style text)

/-- A scalar that is not written. -/
def nothing : Reader Node := scalar {} .plain ""

/-- A collection whose parts are read by `parts`. -/
def collection {α : Type} (p : Props) (build : Option String → List α → Node)
    (parts : Reader (List α)) : Reader Node := do
  let declared ← declare p.anchor
  let node := build p.tag (← parts)
  let _ ← count
  keep declared node

/-- A node of which only the properties are written. -/
def bare (p : Props) : Reader Node :=
  if p.anchor.isSome || p.tag.isSome then scalar p .plain "" else failure

/-- Read a node, unless one of some tokens stands in its place. -/
def orNothing (ends : List Token) (read : Reader Node) : Reader Node := do
  if ends.contains (← peek) then nothing else read

/-- Whether a part of a flow collection may stand here: one that is not the first stands behind a
comma. -/
def parted (first : Bool) : Reader Bool := if first then return true else accept .flowEntry

/-! ### Nodes -/

/-- Where a node stands. -/
inductive Position where
  | flow
  | block
  /-- At a key or a value of a block map, where a sequence need not be indented. -/
  | member
deriving DecidableEq

mutual

/-- A node. -/
def node : Nat → Position → Reader Node
  | 0, _ => failure
  | fuel + 1, position => do
    if let .alias name := ← peek then
      skip
      let _ ← count
      match (← get).names.lookup name with
      | some number => return .alias number
      | none => failure
    else
      let p ← props
      match ← peek with
      | .blockEntry =>
        if position = .member then collection p .seq (looseItems fuel) else bare p
      | .scalar style text =>
        skip
        scalar { p with tag := p.tag.filter (· ≠ "!") } style text
      | .flowSeqStart => skip; collection p .seq (flowItems fuel true)
      | .flowMapStart => skip; collection p .map (flowMembers fuel true)
      | .blockSeqStart =>
        if position = .flow then bare p else do skip; collection p .seq (blockItems fuel)
      | .blockMapStart =>
        if position = .flow then bare p else do skip; collection p .map (blockMembers fuel)
      | _ => bare p

/-- The items of a block sequence. -/
def blockItems : Nat → Reader (List Node)
  | 0 => failure
  | fuel + 1 => do
    if ← accept .blockEnd then return []
    else if ← accept .blockEntry then
      let item ← orNothing [.blockEntry, .blockEnd] (node fuel .block)
      return item :: (← blockItems fuel)
    else failure

/-- The items of a sequence that is not indented. -/
def looseItems : Nat → Reader (List Node)
  | 0 => failure
  | fuel + 1 => do
    if ← accept .blockEntry then
      let item ← orNothing [.blockEntry, .key, .value, .blockEnd] (node fuel .block)
      return item :: (← looseItems fuel)
    else return []

/-- The members of a block map. -/
def blockMembers : Nat → Reader (List (Node × Node))
  | 0 => failure
  | fuel + 1 => do
    if ← accept .blockEnd then return []
    else if ← accept .key then
      let ends := [.key, .value, .blockEnd]
      let key ← orNothing ends (node fuel .member)
      let value ← if ← accept .value then orNothing ends (node fuel .member) else nothing
      return (key, value) :: (← blockMembers fuel)
    else failure

/-- The items of a flow sequence. -/
def flowItems : Nat → Bool → Reader (List Node)
  | 0, _ => failure
  | fuel + 1, first => do
    if ← accept .flowSeqEnd then return []
    else if ← parted first then
      if ← accept .flowSeqEnd then return []
      else
        let item ← if ← accept .key then collection {} .map (flowPair fuel) else node fuel .flow
        return item :: (← flowItems fuel false)
    else failure

/-- A map with a single member in place of an item. -/
def flowPair : Nat → Reader (List (Node × Node))
  | 0 => failure
  | fuel + 1 => do
    let key ←
      if [.value, .flowEntry, .flowSeqEnd].contains (← peek) then
        skip
        nothing
      else node fuel .flow
    let value ←
      if ← accept .value then orNothing [.flowEntry, .flowSeqEnd] (node fuel .flow) else nothing
    return [(key, value)]

/-- The members of a flow map. -/
def flowMembers : Nat → Bool → Reader (List (Node × Node))
  | 0, _ => failure
  | fuel + 1, first => do
    if ← accept .flowMapEnd then return []
    else if ← parted first then
      if ← accept .flowMapEnd then return []
      else if ← accept .key then
        let key ← orNothing [.value, .flowEntry, .flowMapEnd] (node fuel .flow)
        let value ←
          if ← accept .value then orNothing [.flowEntry, .flowMapEnd] (node fuel .flow)
          else nothing
        return (key, value) :: (← flowMembers fuel false)
      else
        let key ← node fuel .flow
        let value ← nothing
        return (key, value) :: (← flowMembers fuel false)
    else failure

end

/-! ### Documents -/

/-- The handles that need no directive. -/
def usualHandles : List (String × String) := [("!", "!"), ("!!", "tag:yaml.org,2002:")]

/-- The directives before a document, of which `handles` have been read; at most one tells a
version, and that is 1.1 or 1.2. -/
def directives : Nat → Bool → List (String × String) → Reader (List (String × String))
  | 0, _, _ => failure
  | fuel + 1, versioned, handles => do
    match ← peek with
    | .version major minor =>
      if versioned || major ≠ 1 || (minor ≠ 1 && minor ≠ 2) then failure
      else
        skip
        directives fuel true handles
    | .handle name start =>
      if (handles.lookup name).isSome then failure
      else
        skip
        directives fuel versioned (handles ++ [(name, start)])
    | _ => return handles

/-- Skip the marks of ended documents. -/
def skipEnds : Nat → Reader Unit
  | 0 => failure
  | fuel + 1 => do
    if ← accept .documentEnd then skipEnds fuel

/-- Whether a token stands between documents. -/
def isBoundary : Token → Bool
  | .version .. | .handle .. | .documentStart | .documentEnd | .streamEnd => true
  | _ => false

/-- Whether a token begins a document whose begin is marked, or ends the stream. -/
def isMarked : Token → Bool
  | .version .. | .handle .. | .documentStart | .streamEnd => true
  | _ => false

/-- The root of the next document, if there is one; only the first document may begin without a
mark. -/
def root? (fuel : Nat) (first : Bool) : Reader (Option Node) := do
  if !first then skipEnds fuel
  if first && !isMarked (← peek) then
    modify fun r => { r with handles := usualHandles }
    let y ← node fuel .block
    let _ ← accept .documentEnd
    return some y
  else if (← peek) == .streamEnd then return none
  else
    let handles ← directives fuel false []
    modify fun r => { r with handles := handles ++ usualHandles }
    if ← accept .documentStart then
      let y ← if isBoundary (← peek) then nothing else node fuel .block
      let _ ← accept .documentEnd
      return some y
    else failure

end Reader

/-- The documents of tokens; `none` stands for one that is none, after which nothing is read. -/
def ofTokensFrom (fuel : Nat) : Nat → Bool → List Token → List (Option Document)
  | 0, _, _ => [none]
  | steps + 1, first, tokens =>
    match (Reader.root? fuel first).run { tokens } with
    | none => [none]
    | some (none, _) => []
    | some (some root, r) =>
      some { root, anchored := r.anchored, size := r.size } ::
        ofTokensFrom fuel steps false r.tokens

/-- The documents of tokens.  Every step down into a node and every step on spends a token, or a
node of which only the properties are written. -/
def ofTokens (tokens : List Token) : List (Option Document) :=
  ofTokensFrom (3 * tokens.length + 3) (tokens.length + 1) true tokens

/-- The documents of a text. -/
def ofText (s : String) : List (Option Document) := ofTokens (Token.ofText s)

end Document

end SpokeSim.Yaml
