/-!
# Names of servers

The name by which a server proves itself is the name of a host or a numerical address.

* `ServerName.isHost`: dotted labels, of which the last one is no number.
* `ServerName.isFour`, `ServerName.isSix`: addresses of 32 and of 128 bits.
-/

namespace SpokeSim.ServerName

/-! ## Hosts -/

/-- Whether a character may stand in a label. -/
def isLabelChar (c : Char) : Bool := c.isAlphanum || c == '-' || c == '_'

/-- Whether characters are a label: at most 63 of them, with no hyphen at either end. -/
def isLabel (cs : List Char) : Bool :=
  0 < cs.length && cs.length ≤ 63 && cs.all isLabelChar
    && cs.head? != some '-' && cs.getLast? != some '-'

/-- Whether characters are a number. -/
def isNumber (cs : List Char) : Bool := !cs.isEmpty && cs.all Char.isDigit

/-- Whether a text is the name of a host; a dot may end it. -/
def isHost (s : String) : Bool :=
  let labels := (s.splitOn ".").map String.toList
  let labels := if labels.length > 1 && labels.getLast? == some [] then labels.dropLast else labels
  s.utf8ByteSize ≤ 253 && labels.all isLabel && !labels.getLast?.any isNumber

/-! ## Numerical addresses -/

/-- Whether characters are a number below 256 without needless zeros. -/
def isOctet (cs : List Char) : Bool :=
  isNumber cs && cs.length ≤ 3 && (cs.length == 1 || cs.head? != some '0')
    && cs.foldl (fun n c => 10 * n + (c.toNat - 48)) 0 < 256

/-- Whether a text is an address of 32 bits. -/
def isFour (s : String) : Bool :=
  let octets := (s.splitOn ".").map String.toList
  octets.length == 4 && octets.all isOctet

/-- Whether a text is a group of an address of 128 bits. -/
def isGroup (s : String) : Bool :=
  0 < s.length && s.length ≤ 4
    && s.toList.all fun c => c.isDigit || ('a' ≤ c && c ≤ 'f') || ('A' ≤ c && c ≤ 'F')

/-- How many groups of 16 bits stand between colons, if nothing else does. -/
def groupCount? (s : String) : Option Nat :=
  let groups := s.splitOn ":"
  if s = "" then some 0 else if groups.all isGroup then some groups.length else none

/-- How many groups of 16 bits end an address; an address of 32 bits may be the last two. -/
def lastCount? (s : String) : Option Nat :=
  match (s.splitOn ":").reverse with
  | last :: groups =>
    if isFour last && groups.all isGroup then some (groups.length + 2) else groupCount? s
  | [] => none

/-- Whether a text is an address of 128 bits; two colons once stand for groups of zeros. -/
def isSix (s : String) : Bool :=
  match s.splitOn "::" with
  | [whole] => lastCount? whole == some 8
  | [front, back] => (groupCount? front).any fun m => (lastCount? back).any fun n => m + n ≤ 7
  | _ => false

end SpokeSim.ServerName

namespace SpokeSim

/-- Whether a server can prove itself by a name. -/
def isServerName (s : String) : Bool :=
  ServerName.isHost s || ServerName.isFour s || ServerName.isSix s

end SpokeSim
