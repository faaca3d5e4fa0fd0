import SpokeSim.Text.Utf8
import SpokeSim.Yaml.Scalar

/-!
# Tokens

A YAML text is a sequence of tokens: scalars, marks of collections, anchors and the like.  A block
collection has no marks of its own in the text; the columns of its parts tell where it begins and
ends.

A key needs no mark either: it is known by the colon behind it.  So whatever may be a key is held
back until it is clear whether it is one, which it is not when its line ends or when it gets longer
than `longestKey`.

* `Token.ofText`: the tokens of a text.  They end with `streamEnd` unless something in the text is
  no token.
-/

namespace SpokeSim.Yaml

/-- A token. -/
inductive Token where
  | streamEnd
  /-- The version for which a document is written. -/
  | version (major minor : Nat)
  /-- What a handle in tags stands for. -/
  | handle (name start : String)
  | documentStart
  | documentEnd
  | blockSeqStart
  | blockMapStart
  | blockEnd
  | flowSeqStart
  | flowSeqEnd
  | flowMapStart
  | flowMapEnd
  | blockEntry
  | flowEntry
  | key
  | value
  | alias (name : String)
  | anchor (name : String)
  /-- A tag: its handle, empty if it has none, and the rest. -/
  | tag (handle rest : String)
  | scalar (style : Style) (text : String)
deriving DecidableEq, Repr, Inhabited

/-! ## Names -/

/-- A name of an anchor, with what may stand behind it. -/
def readAnchor (c : Cursor) : Option (String × Cursor) :=
  let (name, d) := c.span isNameChar
  let ends := isBlank d.rest || d.rest.head?.any fun x =>
    x == '?' || x == ':' || x == ',' || x == ']' || x == '}' || x == '%' || x == '@'
      || x.toNat == 0x60
  if name.isEmpty || !ends then none else some (String.ofList name, d)

/-- Whether a character may stand in a tag; some only in tags between brackets and in the beginnings
for which handles stand. -/
def isTagChar (free : Bool) (c : Char) : Bool :=
  isNameChar c || ";/?:@&=+$.%!~*'()".toList.contains c || (free && ",[]".toList.contains c)

/-- How many bytes a character takes whose first byte is this one. -/
def byteCount? (first : Nat) : Option Nat :=
  if first < 0x80 then some 1
  else if first / 0x20 = 0x6 then some 2
  else if first / 0x10 = 0xE then some 3
  else if first / 0x08 = 0x1E then some 4
  else none

/-- A byte that is spelled in a tag behind a percent sign. -/
def spelledByte? : List Char → Option Nat
  | '%' :: a :: b :: _ => do return (← Json.hexValue? a) * 16 + (← Json.hexValue? b)
  | _ => none

/-- Further bytes of a character that is spelled in a tag. -/
def followingBytes : Nat → List Char → Option (List Nat)
  | 0, _ => some []
  | n + 1, cs => do
    let b ← spelledByte? cs
    if b / 0x40 = 0x2 then return b :: (← followingBytes n (cs.drop 3)) else none

/-- The character of bytes, or a mark in place of it. -/
def charOfBytes (bs : List Nat) : List Char :=
  match Text.decode (bs.map UInt8.ofNat) with
  | .ok s => s.toList
  | .error _ => ['\ufffd']

/-- The characters of a tag. -/
def tagText (free : Bool) : Nat → List Char → Cursor → Option (List Char × Cursor)
  | 0, text, c => some (text, c)
  | fuel + 1, text, c =>
    match c.rest with
    | [] => some (text, c)
    | x :: _ =>
      if !isTagChar free x then some (text, c)
      else if x == '%' then do
        let first ← spelledByte? c.rest
        let n ← byteCount? first
        let more ← followingBytes (n - 1) (c.rest.drop 3)
        tagText free fuel (text ++ charOfBytes (first :: more)) (c.drop (3 * n))
      else tagText free fuel (text ++ [x]) (c.drop 1)

/-- The characters of a tag behind some that have been read; there must be one. -/
def readTagText (free : Bool) (read : List Char) (c : Cursor) : Option (String × Cursor) := do
  let (text, d) ← tagText free c.rest.length [] c
  if read.isEmpty && text.isEmpty then none
  else return (String.ofList (read.drop 1 ++ text), d)

/-- What begins like a handle: an exclamation mark, a name, and if possible another mark. -/
def readHandle (c : Cursor) : Option (List Char × Cursor) :=
  match c.rest with
  | '!' :: _ =>
    let (name, d) := (c.drop 1).span isNameChar
    match d.rest with
    | '!' :: _ => some ('!' :: name ++ ['!'], d.drop 1)
    | _ => some ('!' :: name, d)
  | _ => none

/-- Whether something that begins like a handle is one. -/
def isHandle (cs : List Char) : Bool := cs.length ≥ 2 && cs.getLast? == some '!'

/-- A tag in one of its forms: between brackets, behind a handle, or behind an exclamation mark,
which may also stand alone. -/
def readTag (flow : Bool) (c : Cursor) : Option (Token × Cursor) := do
  let (t, d) ←
    match c.rest with
    | '!' :: '<' :: _ => do
      let (text, d) ← readTagText true [] (c.drop 2)
      if d.rest.head? == some '>' then pure (Token.tag "" text, d.drop 1) else none
    | _ => do
      let (handle, d) ← readHandle c
      if isHandle handle then
        let (text, e) ← readTagText false [] d
        pure (.tag (String.ofList handle) text, e)
      else
        let (text, e) ← readTagText false handle d
        pure (if text.isEmpty then .tag "" "!" else .tag "!" text, e)
  if isBlank d.rest || (flow && d.rest.head? == some ',') then return (t, d) else none

/-! ## Directives -/

/-- A number of a version. -/
def readVersionNumber (c : Cursor) : Option (Nat × Cursor) :=
  let (ds, d) := c.span Char.isDigit
  if ds.isEmpty || ds.length > 9 then none else some (Json.digitsValue ds, d)

/-- A version behind gaps. -/
def readVersion (c : Cursor) : Option (Token × Cursor) := do
  let (major, c) ← readVersionNumber c.skipGaps
  if c.rest.head? == some '.' then
    let (minor, c) ← readVersionNumber (c.drop 1)
    return (.version major minor, c)
  else none

/-- A handle and what it stands for, behind gaps. -/
def readHandleDirective (c : Cursor) : Option (Token × Cursor) := do
  let (handle, c) ← readHandle c.skipGaps
  if (isHandle handle || handle == ['!']) && c.rest.head?.any isGap then
    let (start, c) ← readTagText true [] c.skipGaps
    if isBlank c.rest then return (.handle (String.ofList handle) start, c) else none
  else none

/-- A directive, its percent sign already read, with its line. -/
def readDirective (c : Cursor) : Option (Token × Cursor) := do
  let (name, c) := c.span isNameChar
  if name.isEmpty || !isBlank c.rest then none
  else
    let (t, c) ←
      if name == "YAML".toList then readVersion c
      else if name == "TAG".toList then readHandleDirective c
      else none
    return (t, ← c.endLine?)

/-! ## Reading tokens -/

/-- Something that may be a key. -/
structure Candidate where
  /-- The number of the first token of the key. -/
  number : Nat
  index : Nat
  line : Nat
  column : Nat
  /-- Whether it must be a key. -/
  required : Bool

/-- How many characters a key may have. -/
def longestKey : Nat := 1024

/-- What is known while tokens are read. -/
structure Lexer where
  cursor : Cursor
  /-- The column of the innermost block, or -1 outside of all. -/
  indent : Int := -1
  /-- The columns of the blocks around it. -/
  outer : List Int := []
  /-- What may be a key on each level of flow collections, innermost first; the last level is that
  outside of all. -/
  candidates : List (Option Candidate) := [none]
  /-- Whether a key may begin here. -/
  keyAllowed : Bool := true
  /-- The tokens that are held back. -/
  held : List Token := []
  /-- How many tokens are not held back any more. -/
  given : Nat := 0

namespace Lexer

/-- Whether the place is inside a flow collection. -/
def inFlow (l : Lexer) : Bool := l.candidates.length > 1

/-- Add a token. -/
def push (l : Lexer) (t : Token) : Lexer := { l with held := l.held ++ [t] }

/-- Put a token before the one of a number. -/
def insert (l : Lexer) (number : Nat) (t : Token) : Lexer :=
  { l with held := l.held.insertIdx (number - l.given) t }

/-- Go on behind so many characters and add a token. -/
def take (l : Lexer) (n : Nat) (t : Token) : Lexer := { l with cursor := l.cursor.drop n }.push t

/-! ### Blocks -/

/-- End the blocks that stand to the right of a column. -/
def unrollFrom (column : Int) : List Int → Lexer → Lexer
  | [], l => l
  | i :: outer, l =>
    if l.indent > column then unrollFrom column outer { l.push .blockEnd with indent := i, outer }
    else l

/-- End the blocks that stand to the right of a column, unless in a flow collection. -/
def unroll (l : Lexer) (column : Int) : Lexer :=
  if l.inFlow then l else unrollFrom column l.outer l

/-- Begin a block in a column, unless in a flow collection or in a block that stands there. -/
def roll (l : Lexer) (column number : Nat) (t : Token) : Lexer :=
  if l.inFlow || l.indent ≥ column then l
  else { l.insert number t with indent := column, outer := l.indent :: l.outer }

/-! ### Keys -/

/-- The number of the next token. -/
def next (l : Lexer) : Nat := l.given + l.held.length

/-- What may be a key on this level. -/
def candidate? (l : Lexer) : Option Candidate := l.candidates.head?.join

/-- Put something in the place of what may be a key on this level. -/
def setCandidate (l : Lexer) (k : Option Candidate) : Lexer :=
  { l with candidates := k :: l.candidates.drop 1 }

/-- What may be a key on this level is none. -/
def dropCandidate (l : Lexer) : Option Lexer :=
  if l.candidate?.any (·.required) then none else some (l.setCandidate none)

/-- What begins here may be a key. -/
def saveCandidate (l : Lexer) : Option Lexer :=
  if l.keyAllowed then do
    let required := !l.inFlow && l.indent == l.cursor.column
    let l' ← l.dropCandidate
    return l'.setCandidate
      (some ⟨l.next, l.cursor.index, l.cursor.line, l.cursor.column, required⟩)
  else some l

/-- Whether something cannot be a key any more. -/
def isStale (l : Lexer) (k : Candidate) : Bool :=
  k.line < l.cursor.line || k.index + longestKey < l.cursor.index

/-- What cannot be a key any more is none. -/
def dropStale (l : Lexer) : Option Lexer :=
  if l.candidates.any fun k => k.any fun k => l.isStale k && k.required then none
  else some { l with candidates := l.candidates.map fun k => k.filter (!l.isStale ·) }

/-! ### Single tokens -/

/-- Allow or forbid keys from here on. -/
def allowKeys (l : Lexer) (allowed : Bool) : Lexer := { l with keyAllowed := allowed }

/-- Skip blanks, line breaks and comments.  Tabs are no blanks where a key may begin. -/
def skipFrom : Nat → Lexer → Lexer
  | 0, l => l
  | fuel + 1, l =>
    let c := l.cursor
    let c := if c.index = 0 && c.rest.head? == some '\ufeff' then c.drop 1 else c
    let tabs := l.inFlow || !l.keyAllowed
    let c := (c.span fun x => x == ' ' || (tabs && x == '\t')).2.skipComment
    match c.break? with
    | some _ =>
      skipFrom fuel { l with cursor := c.nextLine, keyAllowed := l.keyAllowed || !l.inFlow }
    | none => { l with cursor := c }

/-- The text ends. -/
def endStream (l : Lexer) : Option Lexer := do
  let l ← (l.unroll (-1)).dropCandidate
  return (l.allowKeys false).push .streamEnd

/-- Outside of all blocks and keys. -/
def reset (l : Lexer) : Option Lexer := do
  let l ← (l.unroll (-1)).dropCandidate
  return l.allowKeys false

/-- A directive. -/
def directive (l : Lexer) : Option Lexer := do
  let l ← l.reset
  let (t, c) ← readDirective (l.cursor.drop 1)
  return { l with cursor := c }.push t

/-- The begin or the end of a document. -/
def marker (l : Lexer) (t : Token) : Option Lexer := do
  let l ← l.reset
  return l.take 3 t

/-- A flow collection begins. -/
def openFlow (l : Lexer) (t : Token) : Option Lexer := do
  let l ← l.saveCandidate
  return ({ l with candidates := none :: l.candidates }.allowKeys true).take 1 t

/-- A flow collection ends. -/
def closeFlow (l : Lexer) (t : Token) : Option Lexer := do
  let l ← l.dropCandidate
  let l := if l.inFlow then { l with candidates := l.candidates.drop 1 } else l
  return (l.allowKeys false).take 1 t

/-- A comma. -/
def flowEntry (l : Lexer) : Option Lexer := do
  let l ← l.dropCandidate
  return (l.allowKeys true).take 1 .flowEntry

/-- Begin a block here, where a key may begin. -/
def beginBlock (l : Lexer) (t : Token) : Option Lexer :=
  if l.inFlow then some l
  else if l.keyAllowed then some (l.roll l.cursor.column l.next t)
  else none

/-- A hyphen before an item. -/
def blockEntry (l : Lexer) : Option Lexer := do
  let l ← l.beginBlock .blockSeqStart
  let l ← l.dropCandidate
  return (l.allowKeys true).take 1 .blockEntry

/-- A question mark before a key. -/
def key (l : Lexer) : Option Lexer := do
  let l ← l.beginBlock .blockMapStart
  let l ← l.dropCandidate
  return (l.allowKeys !l.inFlow).take 1 .key

/-- A colon before a value: what may be a key is one. -/
def value (l : Lexer) : Option Lexer :=
  match l.candidate? with
  | some k =>
    let l := (l.insert k.number .key).roll k.column k.number .blockMapStart
    some (((l.setCandidate none).allowKeys false).take 1 .value)
  | none => do
    let l ← l.beginBlock .blockMapStart
    return (l.allowKeys !l.inFlow).take 1 .value

/-- Something that may be a key: a token with the place behind it. -/
def keyLike (l : Lexer) (read : Cursor → Option (Token × Cursor)) : Option Lexer := do
  let l ← l.saveCandidate
  let (t, c) ← read l.cursor
  return { l.allowKeys false with cursor := c }.push t

/-- A plain scalar.  A key may begin behind it on another line. -/
def plain (l : Lexer) : Option Lexer := do
  let l ← l.saveCandidate
  let p ← readPlain l.inFlow (l.indent + 1).toNat l.cursor
  return { l with cursor := p.after, keyAllowed := p.broken }.push
    (.scalar .plain (String.ofList p.text))

/-- A block of lines. -/
def block (l : Lexer) (style : Style) : Option Lexer := do
  let l ← l.dropCandidate
  let (text, c) ← readBlock (style == .folded) l.indent (l.cursor.drop 1)
  return { l.allowKeys true with cursor := c }.push (.scalar style (String.ofList text))

/-- Read a token, with the marks that go before it. -/
def fetch (l : Lexer) : Option Lexer := do
  let l ← (skipFrom (l.cursor.rest.length + 1) l).dropStale
  let l := l.unroll l.cursor.column
  match l.cursor.rest with
  | [] => l.endStream
  | c :: rest =>
    if c == '%' && l.cursor.column == 0 then l.directive
    else if l.cursor.atMark '-' then l.marker .documentStart
    else if l.cursor.atMark '.' then l.marker .documentEnd
    else if c == '[' then l.openFlow .flowSeqStart
    else if c == '{' then l.openFlow .flowMapStart
    else if c == ']' then l.closeFlow .flowSeqEnd
    else if c == '}' then l.closeFlow .flowMapEnd
    else if c == ',' then l.flowEntry
    else if c == '-' && isBlank rest then l.blockEntry
    else if c == '?' && (l.inFlow || isBlank rest) then l.key
    else if c == ':' && (l.inFlow || isBlank rest) then l.value
    else if c == '*' then
      l.keyLike fun d => (readAnchor (d.drop 1)).map fun (s, e) => (.alias s, e)
    else if c == '&' then
      l.keyLike fun d => (readAnchor (d.drop 1)).map fun (s, e) => (.anchor s, e)
    else if c == '!' then l.keyLike (readTag l.inFlow)
    else if c == '|' && !l.inFlow then l.block .literal
    else if c == '>' && !l.inFlow then l.block .folded
    else if c == '\'' || c == '"' then
      l.keyLike fun d => (readQuoted d).map fun (s, e) => (.scalar .quoted (String.ofList s), e)
    else if startsPlain l.inFlow (c :: rest) then l.plain
    else none

/-- Read on.  A token is given out when nothing can come before it any more: it is the first of
those held back, and no key may begin with it. -/
def run : Nat → Lexer → List Token
  | 0, _ => []
  | fuel + 1, l =>
    match l.held with
    | [] =>
      match l.fetch with
      | some l => run fuel l
      | none => []
    | t :: held =>
      match l.dropStale with
      | none => []
      | some l =>
        if l.candidates.any fun k => k.any fun k => k.number == l.given then
          match l.fetch with
          | some l => run fuel l
          | none => []
        else if t == .streamEnd then [t]
        else t :: run fuel { l with held, given := l.given + 1 }

end Lexer

/-- The tokens of a text, up to something that is none.  Every character gives rise to three tokens
at most, each of which is read and given out. -/
def Token.ofText (s : String) : List Token :=
  let cs := s.toList
  if cs.all isAllowed then Lexer.run (8 * cs.length + 8) { cursor := { rest := cs } } else []

end SpokeSim.Yaml
