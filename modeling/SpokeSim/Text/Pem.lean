/-!
# Sections of armoured text

Certificates and keys travel as sections of lines.  A section begins with the line
`-----BEGIN label-----` and ends with the line `-----END label-----`; whatever stands outside of
sections does not count.  `Pem.labels` tells which sections there are.
-/

namespace SpokeSim.Text.Pem

/-- What stands before a label at the begin of a section. -/
def beginMark : List Char := "-----BEGIN ".toList

/-- What stands before a label at the end of a section. -/
def endMark : List Char := "-----END ".toList

/-- What stands behind a label. -/
def dashes : List Char := "-----".toList

/-- Drop what shows nothing at the end of a line. -/
def trimEnd (cs : List Char) : List Char :=
  (cs.reverse.dropWhile fun c => c == ' ' || c == '\r').reverse

/-- The label of a line that begins a section. -/
def opened? (line : List Char) : Option (List Char) :=
  let line := trimEnd line
  if beginMark.isPrefixOf line && dashes.isSuffixOf (line.drop beginMark.length) then
    some ((line.drop beginMark.length).take (line.length - beginMark.length - dashes.length))
  else none

/-- Whether a line ends the section of a label. -/
def closes (label line : List Char) : Bool := (endMark ++ label ++ dashes).isPrefixOf line

/-- The labels of the sections in some lines, behind the begin of one that may be open. -/
def labelsFrom : Option (List Char) → List (List Char) → List String
  | _, [] => []
  | opened, line :: lines =>
    match opened? line, opened with
    | some label, _ => labelsFrom (some label) lines
    | none, some label =>
      if closes label line then String.ofList label :: labelsFrom none lines
      else labelsFrom (some label) lines
    | none, none => labelsFrom none lines

/-- The labels of the sections in a text. -/
def labels (s : String) : List String := labelsFrom none ((s.splitOn "\n").map String.toList)

end SpokeSim.Text.Pem
