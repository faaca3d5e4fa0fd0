/-!
# Patterns

A pattern describes texts: characters stand for themselves, a point for any character of a line, and
`[a-z]` for one of some characters; patterns stand one after the other or are parted by `|`,
parentheses keep them together, and `*`, `+` and `?` repeat them.

* `Pattern.parse?`: the pattern of a text; what refers to a place or counts is not understood.
* `Pattern.describes`: whether a pattern describes a whole text.

A pattern is matched by its derivatives: what is left of it behind a character.
-/

namespace SpokeSim.Text

/-- A description of texts. -/
inductive Pattern where
  /-- No text. -/
  | never
  /-- The empty text. -/
  | blank
  /-- A character in one of some ranges, or in none of them. -/
  | one (outside : Bool) (ranges : List (Char × Char))
  /-- Two patterns one after the other. -/
  | chain (p q : Pattern)
  | choice (p q : Pattern)
  /-- A pattern any number of times. -/
  | many (p : Pattern)
deriving DecidableEq, Repr, Inhabited

namespace Pattern

/-! ## Matching -/

/-- Whether a pattern describes the empty text. -/
def isNullable : Pattern → Bool
  | never | one .. => false
  | blank | many _ => true
  | chain p q => isNullable p && isNullable q
  | choice p q => isNullable p || isNullable q

/-- Two patterns one after the other, in short form. -/
def andThen : Pattern → Pattern → Pattern
  | never, _ => never
  | blank, q => q
  | p, q => if q = never then never else chain p q

/-- One of two patterns, in short form. -/
def orElse : Pattern → Pattern → Pattern
  | never, q => q
  | p, q => if q = never ∨ q = p then p else choice p q

/-- What is left of a pattern behind a character. -/
def behind (c : Char) : Pattern → Pattern
  | never | blank => never
  | one outside ranges =>
    if (ranges.any fun r => r.1 ≤ c && c ≤ r.2) != outside then blank else never
  | chain p q =>
    let first := andThen (behind c p) q
    if isNullable p then orElse first (behind c q) else first
  | choice p q => orElse (behind c p) (behind c q)
  | many p => andThen (behind c p) (many p)

/-- Whether a pattern describes a whole text. -/
def describes (p : Pattern) (s : String) : Bool :=
  (s.toList.foldl (fun p c => behind c p) p).isNullable

/-! ## Reading -/

/-- A step of reading, which may fail. -/
abbrev Reader := StateT (List Char) Option

/-- The next character. -/
def next : Reader Char := do
  match ← get with
  | c :: cs =>
    set cs
    return c
  | [] => failure

/-- One character. -/
def char (c : Char) : Pattern := one false [(c, c)]

/-- Decimal digits. -/
def digitRanges : List (Char × Char) := [('0', '9')]

/-- What words are made of. -/
def wordRanges : List (Char × Char) := [('0', '9'), ('A', 'Z'), ('_', '_'), ('a', 'z')]

/-- White space. -/
def spaceRanges : List (Char × Char) := [('\t', '\r'), (' ', ' ')]

/-- What a character behind a backslash stands for. -/
def escaped? (c : Char) : Option Pattern :=
  match c with
  | 'd' => some (one false digitRanges)
  | 'D' => some (one true digitRanges)
  | 'w' => some (one false wordRanges)
  | 'W' => some (one true wordRanges)
  | 's' => some (one false spaceRanges)
  | 'S' => some (one true spaceRanges)
  | 'n' => some (char '\n')
  | 'r' => some (char '\r')
  | 't' => some (char '\t')
  | c => if c.isAlphanum || c.toNat ≥ 128 then none else some (char c)

/-- A character inside brackets, or an escaped one. -/
def bracketChar : Reader Char := do
  let c ← next
  if c = '\\' then
    match escaped? (← next) with
    | some (one false [(c, d)]) => if c = d then return c else failure
    | _ => failure
  else return c

/-- The ranges inside brackets; a bracket that closes may stand first. -/
def ranges : Nat → Bool → Reader (List (Char × Char))
  | 0, _ => failure
  | fuel + 1, first => do
    match ← get with
    | ']' :: cs =>
      if first then
        set cs
        return (']', ']') :: (← ranges fuel false)
      else
        set cs
        return []
    | _ =>
      let c ← bracketChar
      match ← get with
      | '-' :: ']' :: _ => return (c, c) :: (← ranges fuel false)
      | '-' :: cs =>
        set cs
        let d ← bracketChar
        if c ≤ d then return (c, d) :: (← ranges fuel false) else failure
      | _ => return (c, c) :: (← ranges fuel false)

/-- Repeat a pattern as often as what stands behind it says. -/
def repeated : Nat → Pattern → Reader Pattern
  | 0, p => return p
  | fuel + 1, p => do
    match ← get with
    | '*' :: cs =>
      set cs
      repeated fuel (many p)
    | '+' :: cs =>
      set cs
      repeated fuel (chain p (many p))
    | '?' :: cs =>
      set cs
      repeated fuel (choice p blank)
    | '\x7b' :: _ => failure
    | _ => return p

mutual

/-- Patterns that are parted by bars. -/
def choices : Nat → Reader Pattern
  | 0 => failure
  | fuel + 1 => do
    let p ← chains fuel
    match ← get with
    | '|' :: cs =>
      set cs
      return choice p (← choices fuel)
    | _ => return p

/-- Patterns that stand one after the other. -/
def chains : Nat → Reader Pattern
  | 0 => failure
  | fuel + 1 => do
    match ← get with
    | [] | '|' :: _ | ')' :: _ => return blank
    | _ =>
      let p ← repeated fuel (← single fuel)
      return andThen p (← chains fuel)

/-- A pattern that can be repeated. -/
def single : Nat → Reader Pattern
  | 0 => failure
  | fuel + 1 => do
    let c ← next
    if c = '(' then
      if let '?' :: ':' :: cs := ← get then set cs
      let p ← choices fuel
      if (← next) = ')' then return p else failure
    else if c = '[' then
      let outside := (← get).head? == some '^'
      if outside then modify (·.drop 1)
      return one outside (← ranges fuel true)
    else if c = '.' then return one true [('\n', '\n')]
    else if c = '\\' then (escaped? (← next) : Option Pattern)
    else if "*+?\x7b^$".toList.contains c then failure
    else return char c

end

/-- The pattern of a text. -/
def parse? (s : String) : Option Pattern := do
  let (p, rest) ← (choices (3 * s.length + 3)).run s.toList
  if rest.isEmpty then return p else none

end Pattern

end SpokeSim.Text
