/-!
# Places in a YAML text

A YAML text is read by a cursor, which knows what is left of the text and where on which line it
stands.  What is on a line matters: blocks are held together by columns, and a key stands on one
line.

* `isBreak`, `isGap`, `isBlank`: the characters between lines and words.
* `Cursor.gap`: read over what stands between two words of a scalar; `Gap.text` is what remains of
  it.
-/

namespace SpokeSim.Yaml

/-! ## Characters -/

/-- Whether a character ends a line. -/
def isBreak (c : Char) : Bool :=
  c == '\n' || c == '\r' || c == '\u0085' || c == '\u2028' || c == '\u2029'

/-- Whether a character parts words on a line. -/
def isGap (c : Char) : Bool := c == ' ' || c == '\t'

/-- Whether some characters begin with a gap, a line break or their end. -/
def isBlank : List Char → Bool
  | [] => true
  | c :: _ => isGap c || isBreak c

/-- Whether some characters begin with a line break or their end. -/
def endsLine : List Char → Bool
  | [] => true
  | c :: _ => isBreak c

/-- Whether a character may stand in names of anchors, tags and directives. -/
def isNameChar (c : Char) : Bool := c.isAlphanum || c == '_' || c == '-'

/-- Whether a character may stand in a text at all. -/
def isAllowed (c : Char) : Bool :=
  let n := c.toNat
  n == 9 || n == 10 || n == 13 || (0x20 ≤ n && n ≤ 0x7E) || n == 0x85 ||
    (0xA0 ≤ n && n ≤ 0xD7FF) || (0xE000 ≤ n && n ≤ 0xFFFD) || 0x10000 ≤ n

/-- The character that a line break stands for: a line feed, but a separator of lines or of
paragraphs for itself. -/
def breakText (c : Char) : Char := if c == '\u2028' || c == '\u2029' then c else '\n'

/-! ## Cursors -/

/-- A place in a text. -/
structure Cursor where
  /-- What is left of the text. -/
  rest : List Char
  /-- How many characters have been read. -/
  index : Nat := 0
  line : Nat := 0
  column : Nat := 0
deriving Inhabited

namespace Cursor

/-- Behind so many characters of the line. -/
def drop (c : Cursor) (n : Nat) : Cursor :=
  { c with rest := c.rest.drop n, index := c.index + n, column := c.column + n }

/-- Behind the line break that stands here, if one does. -/
def nextLine (c : Cursor) : Cursor :=
  match c.rest with
  | '\r' :: '\n' :: rest => ⟨rest, c.index + 2, c.line + 1, 0⟩
  | b :: rest => if isBreak b then ⟨rest, c.index + 1, c.line + 1, 0⟩ else c
  | [] => c

/-- What the line break that stands here stands for, if one does. -/
def break? (c : Cursor) : Option Char :=
  match c.rest with
  | b :: _ => if isBreak b then some (breakText b) else none
  | [] => none

/-- The characters that stand here and have a property, and the place behind them; it must be one of
characters that end no line. -/
def span (c : Cursor) (p : Char → Bool) : List Char × Cursor :=
  let cs := c.rest.takeWhile p
  (cs, c.drop cs.length)

/-- Behind gaps. -/
def skipGaps (c : Cursor) : Cursor := (c.span isGap).2

/-- Behind a comment, if one stands here. -/
def skipComment (c : Cursor) : Cursor :=
  match c.rest with
  | '#' :: _ => (c.span (!isBreak ·)).2
  | _ => c

/-- Behind the rest of a line that holds nothing but a comment. -/
def endLine? (c : Cursor) : Option Cursor :=
  let c := c.skipGaps.skipComment
  if endsLine c.rest then some c.nextLine else none

/-- Whether three characters that mark the begin or the end of a document stand here. -/
def atMark (c : Cursor) (m : Char) : Bool :=
  match c.rest with
  | x :: y :: z :: rest => c.column == 0 && x == m && y == m && z == m && isBlank rest
  | _ => false

/-- Whether a document begins or ends here. -/
def atMarker (c : Cursor) : Bool := c.atMark '-' || c.atMark '.'

end Cursor

/-! ## Gaps -/

/-- What stands between two words of a scalar. -/
structure Gap where
  /-- The gap on the line of the first word. -/
  blanks : List Char := []
  /-- Whether the second word stands on another line. -/
  broken : Bool := false
  /-- The first line break, unless it is escaped. -/
  first : Option Char := none
  /-- The further line breaks. -/
  more : List Char := []

/-- What remains of a gap: a line break is folded into a space, and further ones stand for one
less.  The separators of lines and of paragraphs are not folded. -/
def Gap.text (g : Gap) : List Char :=
  if !g.broken then g.blanks
  else
    match g.first with
    | some '\n' => if g.more.isEmpty then [' '] else g.more
    | some c => c :: g.more
    | none => g.more

/-- Read on over a gap, of which `g` has been read.  On a further line no tab may stand before the
column `least`. -/
def Cursor.gap (least : Nat) : Nat → Gap → Cursor → Option (Gap × Cursor)
  | 0, g, c => some (g, c)
  | fuel + 1, g, c =>
    match c.rest with
    | [] => some (g, c)
    | x :: _ =>
      if isGap x then
        if !g.broken then gap least fuel { g with blanks := g.blanks ++ [x] } (c.drop 1)
        else if x == '\t' && c.column < least then none
        else gap least fuel g (c.drop 1)
      else
        match c.break? with
        | none => some (g, c)
        | some b =>
          if g.broken then gap least fuel { g with more := g.more ++ [b] } c.nextLine
          else gap least fuel { g with broken := true, first := some b } c.nextLine

end SpokeSim.Yaml
