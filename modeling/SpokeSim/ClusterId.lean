import SpokeSim.Json.Parser

/-!
# Cluster identifiers

A simulated cluster reports under a random identifier of 128 bits.  It is written in hexadecimal
with hyphens, and read in any of the usual forms: with hyphens or without, in braces, or as a URN,
in digits of either case.
-/

namespace SpokeSim

/-- An identifier of 128 bits. -/
structure ClusterId where
  value : BitVec 128
deriving DecidableEq, Inhabited

namespace ClusterId

/-- The hexadecimal digits of an identifier, most significant first. -/
def digits (id : ClusterId) : List Char :=
  (List.range 32).map fun i => Json.hexDigit ((id.value >>> (4 * (31 - i))).toNat % 16)

/-- The written form: groups of 8, 4, 4, 4 and 12 digits. -/
def toText (id : ClusterId) : String :=
  let ds := id.digits
  String.ofList (ds.take 8 ++ '-' :: (ds.drop 8).take 4 ++ '-' :: (ds.drop 12).take 4
    ++ '-' :: (ds.drop 16).take 4 ++ '-' :: ds.drop 20)

/-- The identifier of some random bits: version 4, of the standard variant. -/
def ofRandom (bits : Nat) : ClusterId :=
  let high := BitVec.ofNat 48 (bits >>> 80)
  let middle := BitVec.ofNat 12 (bits >>> 64)
  let low := BitVec.ofNat 62 bits
  ⟨high ++ 4#4 ++ middle ++ 2#2 ++ low⟩

/-! ## Reading -/

/-- The identifier of 32 hexadecimal digits. -/
def ofDigits? (ds : List Char) : Option ClusterId :=
  if ds.length = 32 then
    (ds.mapM Json.hexValue?).map fun vs => ⟨.ofNat 128 (vs.foldl (fun n v => 16 * n + v) 0)⟩
  else none

/-- The identifier of digits in five groups with hyphens between them. -/
def ofGroups? (cs : List Char) : Option ClusterId :=
  if cs.length = 36 ∧ [8, 13, 18, 23].all (fun i => cs[i]? = some '-') then
    ofDigits? (cs.take 8 ++ (cs.drop 9).take 4 ++ (cs.drop 14).take 4 ++ (cs.drop 19).take 4
      ++ cs.drop 24)
  else none

/-- The inside of braces around 36 characters. -/
def unbrace? : List Char → Option (List Char)
  | '\x7b' :: cs => if cs.length = 37 ∧ cs.getLast? = some '\x7d' then some cs.dropLast else none
  | _ => none

/-- The beginning of an identifier as a URN. -/
def urnStart : List Char := "urn:uuid:".toList

/-- Read any of the usual forms. -/
def parse? (s : String) : Option ClusterId :=
  let cs := s.toList
  match cs.length with
  | 32 => ofDigits? cs
  | 36 => ofGroups? cs
  | 38 => (unbrace? cs).bind ofGroups?
  | 45 => if urnStart.isPrefixOf cs then ofGroups? (cs.drop urnStart.length) else none
  | _ => none

end ClusterId

end SpokeSim
