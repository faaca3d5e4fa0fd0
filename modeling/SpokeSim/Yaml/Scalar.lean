import SpokeSim.Json.Parser
import SpokeSim.Yaml.Cursor

/-!
# Scalars

The texts of a YAML document in their five styles: plain, between apostrophes, between quotation
marks, and as blocks of lines whose breaks are kept or folded.

* `readPlain`, `readQuoted`, `readBlock`: the text of a scalar that begins at a place, with the
  place behind it.
-/

namespace SpokeSim.Yaml

/-- How a scalar is written. -/
inductive Style where
  | plain
  /-- Between apostrophes or quotation marks. -/
  | quoted
  /-- A block of lines. -/
  | literal
  /-- A block of lines that are joined. -/
  | folded
deriving DecidableEq, Repr, Inhabited

/-! ## Plain scalars -/

/-- The characters that open, part and close flow collections. -/
def isFlowMark (c : Char) : Bool := c == ',' || c == '[' || c == ']' || c == '{' || c == '}'

/-- The characters with which a plain scalar does not begin, unless more is known. -/
def isIndicator (c : Char) : Bool :=
  isFlowMark c || c == '-' || c == '?' || c == ':' || c == '#' || c == '&' || c == '*' || c == '!'
    || c == '|' || c == '>' || c == '\'' || c == '"' || c == '%' || c == '@' || c.toNat == 0x60

/-- Whether a plain scalar begins here, inside flow collections or outside. -/
def startsPlain (flow : Bool) : List Char → Bool
  | [] => false
  | c :: rest =>
    !(isBlank (c :: rest) || isIndicator c) || (c == '-' && !rest.head?.any isGap) ||
      (!flow && (c == '?' || c == ':') && !isBlank rest)

/-- A word of a plain scalar, up to a blank, a colon behind which a value stands, or a mark of a
flow collection.  Inside such a collection a colon before a mark is refused. -/
def plainWord (flow : Bool) : List Char → Option (List Char)
  | [] => some []
  | c :: rest =>
    if isBlank (c :: rest) then some []
    else if flow && c == ':' && rest.head?.any (fun d => isFlowMark d || d == '?') then none
    else if (c == ':' && isBlank rest) || (flow && isFlowMark c) then some []
    else (plainWord flow rest).map (c :: ·)

/-- What has been read of a plain scalar. -/
structure Plain where
  text : List Char
  /-- The place behind the scalar and the gap after it. -/
  after : Cursor
  /-- Whether there is a line break in that gap. -/
  broken : Bool := false

/-- Read further words of a plain scalar whose further lines begin at column `least` or behind it.
-/
def plainWords (flow : Bool) (least : Nat) : Nat → List Char → Cursor → Option Plain
  | 0, text, c => some ⟨text, c, false⟩
  | fuel + 1, text, c =>
    if !isBlank c.rest || c.rest.isEmpty then some ⟨text, c, false⟩
    else do
      let (g, d) ← c.gap least c.rest.length {}
      if (!flow && d.column < least) || d.atMarker || d.rest.head? == some '#' then
        return ⟨text, d, g.broken⟩
      else
        match ← plainWord flow d.rest with
        | [] => return ⟨text, d, g.broken⟩
        | word => plainWords flow least fuel (text ++ g.text ++ word) (d.drop word.length)

/-- A plain scalar. -/
def readPlain (flow : Bool) (least : Nat) (c : Cursor) : Option Plain := do
  let word ← plainWord flow c.rest
  plainWords flow least c.rest.length word (c.drop word.length)

/-! ## Scalars in quotes -/

/-- The character of a short escape. -/
def escape? : Char → Option Char
  | '0' => some '\x00'
  | 'a' => some '\x07'
  | 'b' => some '\x08'
  | 't' | '\t' => some '\t'
  | 'n' => some '\n'
  | 'v' => some '\x0b'
  | 'f' => some '\x0c'
  | 'r' => some '\r'
  | 'e' => some '\x1b'
  | ' ' => some ' '
  | '"' => some '"'
  | '/' => some '/'
  | '\\' => some '\\'
  | 'N' => some '\u0085'
  | '_' => some '\u00a0'
  | 'L' => some '\u2028'
  | 'P' => some '\u2029'
  | _ => none

/-- How many hexadecimal digits follow a letter in an escape. -/
def escapeDigits? : Char → Option Nat
  | 'x' => some 2
  | 'u' => some 4
  | 'U' => some 8
  | _ => none

/-- The character of hexadecimal digits, unless it is half of one. -/
def hexChar? (ds : List Char) : Option Char :=
  (ds.mapM Json.hexValue?).bind fun vs =>
    let n := vs.foldl (fun n v => 16 * n + v) 0
    if n.isValidChar then some (Char.ofNat n) else none

/-- A word of a scalar in quotes. -/
structure QuotedWord where
  text : List Char
  after : Cursor
  /-- Whether it ends with a line break that is escaped. -/
  escaped : Bool := false

/-- Read a word of a scalar between such quotes, up to a blank or the closing quote; `done` holds
what has been read of it, last character first. -/
def quotedWord (quote : Char) : Nat → List Char → Cursor → Option QuotedWord
  | 0, done, c => some ⟨done.reverse, c, false⟩
  | fuel + 1, done, c =>
    match c.rest with
    | [] => some ⟨done.reverse, c, false⟩
    | x :: rest =>
      if isGap x || isBreak x then some ⟨done.reverse, c, false⟩
      else if x == quote then
        if quote == '\'' && rest.head? == some '\'' then
          quotedWord quote fuel ('\'' :: done) (c.drop 2)
        else some ⟨done.reverse, c, false⟩
      else if x == '\\' && quote == '"' then
        match rest with
        | [] => none
        | e :: digits =>
          if isBreak e then some ⟨done.reverse, (c.drop 1).nextLine, true⟩
          else
            match escapeDigits? e with
            | none => do quotedWord quote fuel ((← escape? e) :: done) (c.drop 2)
            | some n =>
              if digits.length < n then none
              else do quotedWord quote fuel ((← hexChar? (digits.take n)) :: done) (c.drop (n + 2))
      else quotedWord quote fuel (x :: done) (c.drop 1)

/-- Read a scalar between such quotes up to its end; `text` has been read of it. -/
def quotedWords (quote : Char) : Nat → List Char → Cursor → Option (List Char × Cursor)
  | 0, _, _ => none
  | fuel + 1, text, c =>
    if c.atMarker || c.rest.isEmpty then none
    else do
      let w ← quotedWord quote c.rest.length [] c
      if w.after.rest.head? == some quote then return (text ++ w.text, w.after.drop 1)
      else
        let (g, d) ← w.after.gap 0 c.rest.length { broken := w.escaped }
        quotedWords quote fuel (text ++ w.text ++ g.text) d

/-- A scalar in quotes of the sort that stands here. -/
def readQuoted (c : Cursor) : Option (List Char × Cursor) :=
  match c.rest with
  | quote :: _ => quotedWords quote c.rest.length [] (c.drop 1)
  | [] => none

/-! ## Blocks of lines -/

/-- What becomes of the line breaks at the end of a block of lines. -/
inductive Chomp where
  | strip
  | clip
  | keep
deriving DecidableEq

/-- The chomping that stands here, if one does. -/
def chomp? (c : Cursor) : Option Chomp :=
  match c.rest with
  | '+' :: _ => some .keep
  | '-' :: _ => some .strip
  | _ => none

/-- The indentation that stands here, if one does; it is not zero. -/
def increment (c : Cursor) : Option (Nat × Cursor) :=
  match c.rest with
  | d :: _ =>
    if d == '0' then none
    else if d.isDigit then some (d.toNat - 48, c.drop 1)
    else some (0, c)
  | [] => some (0, c)

/-- The header of a block of lines: its chomping and its indentation in either order, the latter
being zero if it is not given. -/
def blockHeader (c : Cursor) : Option (Chomp × Nat × Cursor) :=
  match chomp? c with
  | some chomp => do
    let (n, c) ← increment (c.drop 1)
    return (chomp, n, c)
  | none => do
    let (n, d) ← increment c
    if n = 0 then return (.clip, 0, d)
    else
      match chomp? d with
      | some chomp => return (chomp, n, d.drop 1)
      | none => return (.clip, n, d)

/-- The line breaks before a line of a block, which is indented by `indent` or, while that is zero,
by as much as is there; the greatest column that has been met is given back with them. -/
def blockBreaks (indent : Nat) : Nat → Nat → List Char → Cursor → Option (List Char × Nat × Cursor)
  | 0, greatest, breaks, c => some (breaks, greatest, c)
  | fuel + 1, greatest, breaks, c =>
    let spaces := (c.rest.takeWhile (· == ' ')).length
    let c := c.drop (if indent = 0 then spaces else min spaces (indent - c.column))
    let greatest := max greatest c.column
    if (indent = 0 || c.column < indent) && c.rest.head? == some '\t' then none
    else
      match c.break? with
      | none => some (breaks, greatest, c)
      | some b => blockBreaks indent fuel greatest (breaks ++ [b]) c.nextLine

/-- What has been read of a block of lines. -/
structure Block where
  text : List Char := []
  /-- The line break behind the last line. -/
  last : Option Char := none
  /-- The line breaks of the blank lines that follow it. -/
  breaks : List Char
  /-- Whether the last line begins with a gap. -/
  deeper : Bool := false

/-- What joins the lines of a block to a line that begins with a gap or does not. -/
def Block.joint (b : Block) (fold : Bool) (deeper : Bool) : List Char :=
  if fold && b.last == some '\n' && !b.deeper && !deeper then
    (if b.breaks.isEmpty then [' '] else []) ++ b.breaks
  else b.last.toList ++ b.breaks

/-- Read the lines of a block that are indented by `indent`. -/
def blockLines (fold : Bool) (indent : Nat) : Nat → Block → Cursor → Option (Block × Cursor)
  | 0, b, c => some (b, c)
  | fuel + 1, b, c =>
    if c.column = indent ∧ !c.rest.isEmpty then do
      let deeper := c.rest.head?.any isGap
      let (line, d) := c.span (!isBreak ·)
      let (breaks, _, e) ← blockBreaks indent (d.rest.length + 1) 0 [] d.nextLine
      let b := { text := b.text ++ b.joint fold deeper ++ line, last := d.break?, breaks, deeper }
      blockLines fold indent fuel b e
    else some (b, c)

/-- A block of lines inside a block at column `parent`, its mark already read. -/
def readBlock (fold : Bool) (parent : Int) (c : Cursor) : Option (List Char × Cursor) := do
  let (chomp, n, c) ← blockHeader c
  let c ← c.endLine?
  let given := if n = 0 then 0 else (max parent 0).toNat + n
  let (breaks, greatest, c) ← blockBreaks given (c.rest.length + 1) 0 [] c
  let indent := if given = 0 then max greatest (max (parent + 1) 1).toNat else given
  let (b, c) ← blockLines fold indent (c.rest.length + 1) { breaks } c
  let text := match chomp with
    | .strip => b.text
    | .clip => b.text ++ b.last.toList
    | .keep => b.text ++ b.last.toList ++ b.breaks
  return (text, c)

end SpokeSim.Yaml
