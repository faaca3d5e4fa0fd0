import SpokeSim.Json.Codec

/-!
# Selectors and other common parts

Conditions on labels, values under names, and numbers that may also be texts.
-/

namespace SpokeSim

open Codec Record

/-- One condition on labels. -/
structure SelectorRequirement where
  key : String := ""
  operator : String := ""
  values : Option (List String) := none

/-- The fields of a condition on labels. -/
def SelectorRequirement.record : Record SelectorRequirement :=
  ((defaulted "key" text "").and <|
   (defaulted "operator" text "").and <|
   (optional "values" (list text))).via
    (fun (key, operator, values) => { key, operator, values })
    (fun r => (r.key, r.operator, r.values))

/-- Which labels a pod must carry. -/
structure LabelSelector where
  matchExpressions : Option (List SelectorRequirement) := none
  matchLabels : Option (KeyMap String) := none

/-- The fields of a label selector. -/
def LabelSelector.record : Record LabelSelector :=
  ((optional "matchExpressions" (list SelectorRequirement.record.codec)).and <|
   (optional "matchLabels" (map text))).via
    (fun (matchExpressions, matchLabels) => { matchExpressions, matchLabels })
    (fun s => (s.matchExpressions, s.matchLabels))

/-- A number, or a text: a count or a share such as `25%`, a port by number or by name. -/
inductive IntOrText where
  | int (n : Int32)
  | text (s : String)

/-- Numbers as numbers, texts as strings. -/
def IntOrText.codec : Codec IntOrText where
  encode
    | .int n => int32.encode n
    | .text s => .str s
  decode
    | .str s => .ok (.text s)
    | d => (int32.decode d).map .int

/-- A value under a name. -/
structure NamedValue where
  name : String := ""
  value : String := ""

/-- The fields of a named value. -/
def NamedValue.record : Record NamedValue :=
  ((defaulted "name" text "").and <| (defaulted "value" text "")).via
    (fun (name, value) => { name, value })
    (fun v => (v.name, v.value))

end SpokeSim
