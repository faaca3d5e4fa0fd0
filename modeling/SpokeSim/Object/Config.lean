import SpokeSim.Object.Metadata
import SpokeSim.Text.Base64

/-!
# Config maps and secrets

Both hold data under keys; a secret's data is binary, a config map's may be either.
-/

namespace SpokeSim

open Codec Record Text

/-- Configuration data under keys. -/
structure ConfigMap where
  binaryData : Option (KeyMap Base64) := none
  data : Option (KeyMap String) := none
  immutable : Option Bool := none
  metadata : ObjectMeta := {}

/-- The fields of a config map. -/
def ConfigMap.record : Record ConfigMap :=
  ((constant "apiVersion" "v1").and <|
   (constant "kind" "ConfigMap").and <|
   (optional "binaryData" (map Base64.codec)).and <|
   (optional "data" (map text)).and <|
   (optional "immutable" bool).and <|
   (defaulted "metadata" ObjectMeta.codec {})).via
    (fun (_, _, binaryData, data, immutable, metadata) => { binaryData, data, immutable, metadata })
    (fun c => ((), (), c.binaryData, c.data, c.immutable, c.metadata))

/-- Confidential data under keys. -/
structure Secret where
  data : Option (KeyMap Base64) := none
  immutable : Option Bool := none
  metadata : ObjectMeta := {}
  stringData : Option (KeyMap String) := none
  type : Option String := none

/-- The fields of a secret. -/
def Secret.record : Record Secret :=
  ((constant "apiVersion" "v1").and <|
   (constant "kind" "Secret").and <|
   (optional "data" (map Base64.codec)).and <|
   (optional "immutable" bool).and <|
   (defaulted "metadata" ObjectMeta.codec {}).and <|
   (optional "stringData" (map text)).and <|
   (optional "type" text)).via
    (fun (_, _, data, immutable, metadata, stringData, type) =>
      { data, immutable, metadata, stringData, type })
    (fun s => ((), (), s.data, s.immutable, s.metadata, s.stringData, s.type))

end SpokeSim
