import SpokeSim.Log
import SpokeSim.Text.Alphanumeric
import SpokeSim.Text.Blank
import SpokeSim.Text.Pattern

/-!
# Log filters

A log filter says which lines are shown.  It is written as directives with commas between them, each
of them `target[span]=level` or a part of that; a span is a name, a field in braces, or both, and a
field may ask for a value, `[span{field=value}]`.

* A directive without span is for the lines of the parts of the program whose name begins with its
  target.  Of the directives for a line the one with the longest target decides, of equals the one
  with more fields, of equals the last one.
* A directive with a span is for the lines inside of such spans, and shows them as well.

A line has one field itself, its message.

* `LogFilter.parse?`: the filter of a text; a text with a bad directive is none.
* `LogFilter.shows`: whether a line is shown.
-/

namespace SpokeSim

/-- What is asked of a field. -/
inductive FieldTest where
  /-- That it is there. -/
  | present
  /-- That it shows as a pattern describes. -/
  | describedBy (p : Text.Pattern)
  /-- That it is a number, which no field is. -/
  | number
deriving DecidableEq, Repr

/-- A directive. -/
structure LogDirective where
  target : Option String := none
  /-- The name of a span. -/
  span : Option String := none
  fields : List (String × FieldTest) := []
  /-- How much detail is shown (see `Level.detail`). -/
  detail : Nat := Level.trace.detail
deriving DecidableEq, Repr, Inhabited

/-- Directives in the order in which they are written. -/
abbrev LogFilter := List LogDirective

namespace LogFilter

/-- The filter that shows everything up to a level. -/
def upTo (l : Level) : LogFilter := [{ detail := l.detail }]

/-! ## Details -/

/-- The names of how much detail is shown, with the amount. -/
def detailNames : List (String × Nat) :=
  [("off", 0), ("error", 1), ("warn", 2), ("info", 3), ("debug", 4), ("trace", 5)]

/-- A number up to 5; zeros and a plus sign may stand before it. -/
def detailNumber? (s : String) : Option Nat :=
  let digits := match s.toList with
    | '+' :: ds => ds
    | ds => ds
  if digits.isEmpty || !digits.all Char.isDigit then none
  else
    match digits.dropWhile (· == '0') with
    | [] => some 0
    | [d] => if d.toNat - 48 ≤ 5 then some (d.toNat - 48) else none
    | _ => none

/-- The amount of detail of a number or of a name in letters of either case. -/
def detail? (s : String) : Option Nat :=
  (detailNumber? s).or (detailNames.lookup (String.ofList (s.toList.map Char.toLower)))

/-! ## Fields -/

/-- Whether a value is written like a number. -/
def isNumeric (s : String) : Bool :=
  s.toList.any Char.isDigit && s.toList.all fun c => c.isDigit || "+-.eE".toList.contains c

/-- The field of a text: a name, or a name and a value. -/
def field? (s : String) : Option (String × FieldTest) :=
  if s = "" then none
  else
    match s.splitOn "=" with
    | name :: value :: _ =>
      if isNumeric value then some (name, .number)
      else (Text.Pattern.parse? value).map fun p => (name, .describedBy p)
    | _ => some (s, .present)

/-! ## Directives -/

/-- What a directive is read from: its text, and the characters of the text between the blanks at
its ends.  Places are counted in bytes from the first such character, and yet parts of the text are
cut out from its begin; so a blank at the begin moves all parts. -/
structure Draft where
  text : String

namespace Draft

/-- The characters between blanks. -/
def characters (d : Draft) : List Char :=
  (Text.dropBlanks (Text.dropBlanks d.text.toList).reverse).reverse

/-- The part of the text between two places, if it is one. -/
def part? (d : Draft) (first last : Nat) : Option String :=
  String.fromUTF8? (d.text.toUTF8.extract first last)

/-- The text from a place on. -/
def rest? (d : Draft) (first : Nat) : Option String := d.part? first d.text.utf8ByteSize

end Draft

/-- Where in a directive reading stands; a number is the place at which the part begins that is
being read. -/
inductive Spot where
  | start
  /-- In a target, or in a level that stands alone. -/
  | name (first : Nat)
  | span (first : Nat)
  | field (first : Nat)
  /-- Behind the fields of a span. -/
  | fields
  /-- Behind a span. -/
  | behind
  | level (first : Nat)

/-- Whether a directive may begin with a character. -/
def isStart (c : Char) : Bool := Text.isAlphanumeric c || c == '-' || c == ':' || c == '_'

/-- Go on over the character at a place. -/
def step (t : Draft) (d : LogDirective) (c : Char) (place : Nat) :
    Spot → Option (LogDirective × Spot)
  | .start =>
    if c = '[' then some (d, .span (place + 1))
    else if isStart c then some (d, .name place)
    else none
  | .name first =>
    if c = '=' then
      (t.part? first place).map fun s => ({ d with target := some s }, .level (place + 1))
    else if c = '[' then
      (t.part? first place).map fun s => ({ d with target := some s }, .span (place + 1))
    else some (d, .name first)
  | .span first =>
    if c = ']' then (t.part? first place).map fun s => ({ d with span := some s }, .behind)
    else if c = '\x7b' then
      (t.part? first place).map fun s =>
        ({ d with span := if s = "" then none else some s }, .field (place + 1))
    else some (d, .span first)
  | .field first =>
    if c = '\x7d' then
      ((t.part? first place).bind field?).map fun f =>
        ({ d with fields := d.fields ++ [f] }, .fields)
    else some (d, .field first)
  | .fields => if c = ']' then some (d, .behind) else none
  | .behind => if c = '=' then some (d, .level (place + 1)) else none
  | .level first => some (d, .level first)

/-- Go on over all characters from a place on. -/
def steps (t : Draft) : LogDirective → Spot → Nat → List Char → Option (LogDirective × Spot)
  | d, spot, _, [] => some (d, spot)
  | d, spot, place, c :: cs => do
    let (d, spot) ← step t d c place spot
    steps t d spot (place + c.utf8Size) cs

/-- The directive at the end of its text.  A level that is empty lets everything pass. -/
def finish (t : Draft) (d : LogDirective) : Spot → Option LogDirective
  | .name first => do
    let s ← t.rest? first
    match detail? s with
    | some detail => return { d with detail }
    | none => return { d with target := some s }
  | .level first => do
    let s ← t.rest? first
    if s = "" then return d
    else return { d with detail := ← detail? s }
  | .behind => some d
  | _ => none

/-- The directive of a text. -/
def directive? (s : String) : Option LogDirective := do
  let t : Draft := ⟨s⟩
  let (d, spot) ← steps t {} .start 0 t.characters
  finish t d spot

/-- The filter of a text; one without directives shows errors. -/
def parse? (s : String) : Option LogFilter :=
  let texts := (s.splitOn ",").filter (· ≠ "")
  if texts.isEmpty then some (upTo .error) else texts.mapM directive?

/-- The filter of a text that may be missing or bad; it then shows everything up to `info`. -/
def ofText (s : Option String) : LogFilter := (s.bind parse?).getD (upTo .info)

/-! ## Kinds of directives -/

/-- Whether a directive is for spans. -/
def isForSpans (d : LogDirective) : Bool := d.span.isSome || !d.fields.isEmpty

/-- Whether a directive is for lines; one that only asks for fields is for spans as well. -/
def isForLines (d : LogDirective) : Bool := d.span.isNone && d.fields.all (·.2 = .present)

/-- Keep the last one of directives that are for the same. -/
def keepLast : LogFilter → LogFilter
  | [] => []
  | d :: ds => if ds.any (fun e => { e with detail := d.detail } = d) then keepLast ds
    else d :: keepLast ds

/-- The directives for lines, those last that are for spans as well. -/
def forLines (f : LogFilter) : LogFilter :=
  keepLast ((f.filter (!isForSpans ·)) ++ (f.filter isForSpans).filter isForLines)

/-- The directives for spans. -/
def forSpans (f : LogFilter) : LogFilter := keepLast (f.filter isForSpans)

/-- Whether the target of a directive begins the name of a part of the program. -/
def targets (c : Component) (d : LogDirective) : Bool :=
  d.target.all fun t => t.toList.isPrefixOf c.target.toList

/-! ## Lines -/

/-- The fields of a line. -/
def lineFields : List String := ["message"]

/-- Whether a directive for lines is for a line. -/
def covers (l : LogLine) (d : LogDirective) : Bool :=
  targets l.component d && d.fields.all (lineFields.contains ·.1)

/-- How special a directive is: a longer target counts more than more fields. -/
def weight (d : LogDirective) : Nat × Nat :=
  ((d.target.map fun t => t.utf8ByteSize + 1).getD 0, d.fields.length)

/-- The more special of two directives, the later one of equals. -/
def moreSpecial (best : Option LogDirective) (next : LogDirective) : Option LogDirective :=
  match best with
  | none => some next
  | some b =>
    let (m, n) := weight b
    let (m', n') := weight next
    if m < m' ∨ (m = m' ∧ n ≤ n') then some next else some b

/-- The directive that decides about a line. -/
def deciding? (f : LogFilter) (l : LogLine) : Option LogDirective :=
  ((forLines f).filter (covers l)).foldl moreSpecial none

/-- Whether a line is shown whatever is around it. -/
def showsAlone (f : LogFilter) (l : LogLine) : Bool :=
  match deciding? f l with
  | none => false
  | some d => l.level.detail ≤ d.detail

/-! ## Spans -/

/-- Whether a directive for spans is for a span, its values aside. -/
def regards (s : Span) (d : LogDirective) : Bool :=
  targets s.component d && d.span.all (· = s.name)
    && d.fields.all fun f => s.fields.any (·.1 = f.1)

/-- Whether the fields of a span are as a directive asks. -/
def agrees (s : Span) (d : LogDirective) : Bool :=
  d.fields.all fun (name, test) =>
    match test with
    | .present => true
    | .number => false
    | .describedBy p => (s.fields.lookup name).any p.describes

/-- How much detail is shown inside of a span, if a directive is for it. -/
def detailInside? (f : LogFilter) (s : Span) : Option Nat :=
  match (forSpans f).filter (regards s) with
  | [] => none
  | ds => some (((ds.filter (agrees s)).map (·.detail)).foldl max 0)

/-- How much detail is shown anywhere.  Before the values of spans are known, everything may be. -/
def most (f : LogFilter) : Nat :=
  if (forSpans f).any fun d => d.fields.any (·.2 ≠ .present) then Level.trace.detail
  else (f.map (·.detail)).foldl max 0

/-- Whether a line is shown on account of the spans around it.  Spans are as grave as `info`, and a
filter that shows less than that everywhere passes them over. -/
def showsInside (f : LogFilter) (l : LogLine) : Bool :=
  Level.info.detail ≤ most f
    && l.spans.any fun s => (detailInside? f s).any fun detail => l.level.detail ≤ detail

/-- Whether a line is shown. -/
def shows (f : LogFilter) (l : LogLine) : Bool := showsInside f l || showsAlone f l

end LogFilter

end SpokeSim
