import SpokeSim.File
import SpokeSim.Hub.Basic
import SpokeSim.Kubeconfig.Basic
import SpokeSim.Text.Quoted

/-!
# Sources of kubeconfigs

A kubeconfig comes from the text of one file that has been named, or is put together from the
documents of several files.

* `Kubeconfig.ofText`: the kubeconfig of one text.
* `Kubeconfig.ofFiles`: the kubeconfig of several files, each of several documents.
-/

namespace SpokeSim.Kubeconfig

/-! ## Faults -/

/-- Why there is no kubeconfig, or it describes no connection. -/
inductive Fault where
  | merge (f : MergeFault)
  /-- A file cannot be read. -/
  | unreadable (path : String) (f : FileFault)
  /-- No file is named and none is known. -/
  | noPath
  /-- A text is no YAML. -/
  | notYaml
  /-- A document is no kubeconfig. -/
  | wrongShape
  /-- No context is in use. -/
  | noContext
  | unknownContext (name : String)
  | unknownCluster (name : String)
  | noServer
  | badServer (f : UriFault)
  /-- The trusted certificates cannot be read. -/
  | badAuthority
  | badProxy (f : UriFault)
deriving DecidableEq, Repr

/-- The wording of a fault. -/
def Fault.message : Fault → String
  | merge .kind => "kubeconfigs with mismatching kind cannot be merged"
  | merge .version => "kubeconfigs with mismatching api version cannot be merged"
  | unreadable path f =>
    "failed to read kubeconfig from '" ++ Text.quoted path ++ "': " ++ f.message
  | noPath => "failed to find the path of kubeconfig"
  | notYaml => "failed to parse kubeconfig YAML: the text is no YAML"
  | wrongShape => "the structure of the parsed kubeconfig is invalid: a field does not fit"
  | noContext => "failed to determine current context"
  | unknownContext name => "failed to load current context: " ++ name
  | unknownCluster name => "failed to load the cluster of context: " ++ name
  | noServer => "cluster url is missing on selected cluster"
  | badServer f => "failed to parse cluster url: " ++ f.message
  | badAuthority => "failed to load certificate authority"
  | badProxy f => "failed to parse proxy url: " ++ f.message

/-! ## Texts -/

/-- The kubeconfig of a text with at most one document; any scalar counts as a text. -/
def ofText (s : String) : Option Kubeconfig :=
  match Yaml.Document.ofText s with
  | [] => some {}
  | [some d] => ofWritten? d
  | _ => none

/-- The kubeconfig of a document of a file; only a scalar that means a text counts as one. -/
def ofDocument : Option Yaml.Document → Except Fault Kubeconfig
  | none => .error .notYaml
  | some d =>
    match Yaml.Value.ofDocument d with
    | none => .error .notYaml
    | some v =>
      match ofValue? v with
      | some k => .ok k
      | none => .error .wrongShape

/-! ## Files -/

/-- A text without the mark of its byte order. -/
def dropMark (s : String) : String := if s.front = '\ufeff' then (s.drop 1).toString else s

/-- The path of a file that stands relative to the directory of another one. -/
def beside (path other : String) : String :=
  if startsWith other "/" then other
  else
    let directory := path.toList.reverse.dropWhile (· ≠ '/')
    String.ofList directory.reverse ++ other

/-- The kubeconfig with the paths in it taken to be relative to the directory of a file. -/
def locate (path : String) (k : Kubeconfig) : Kubeconfig :=
  let cluster (c : Cluster) : Cluster := { c with authority := c.authority.map (beside path) }
  let user (u : User) : User :=
    { u with
      tokenFile := u.tokenFile.map (beside path)
      certificate := u.certificate.map (beside path)
      key := u.key.map (beside path) }
  { k with
    clusters := k.clusters.map fun n => { n with value := n.value.map cluster }
    users := k.users.map fun n => { n with value := n.value.map user } }

/-- Merge a kubeconfig with further ones. -/
def mergeAll : Kubeconfig → List Kubeconfig → Except Fault Kubeconfig
  | k, [] => .ok k
  | k, k' :: ks => do mergeAll (← (k.merge k').mapError .merge) ks

/-- The kubeconfig of a file. -/
def ofFile (files : Files) (path : String) : Except Fault Kubeconfig := do
  let s ← (files path).mapError (.unreadable path)
  return (← mergeAll {} (← (Yaml.Document.ofText (dropMark s)).mapM ofDocument)).locate path

/-- The kubeconfig of several files, merged behind `k`. -/
def mergeFiles (files : Files) : Kubeconfig → List String → Except Fault Kubeconfig
  | k, [] => .ok k
  | k, path :: paths => do
    let k' ← ofFile files path
    mergeFiles files (← (k.merge k').mapError .merge) paths

/-- Cut a list of paths at its colons. -/
def cutPaths : List Char → List (List Char)
  | [] => [[]]
  | c :: cs =>
    if c = ':' then [] :: cutPaths cs
    else
      match cutPaths cs with
      | [] => [[c]]
      | p :: ps => (c :: p) :: ps

/-- The paths of a list with colons between them; empty ones do not count. -/
def pathsOf (s : String) : List String :=
  ((cutPaths s.toList).filter (!·.isEmpty)).map String.ofList

/-- The kubeconfig of the listed files, or of the usual one if none is listed. -/
def ofFiles (files : Files) (listed usual : Option String) : Except Fault Kubeconfig :=
  match pathsOf (listed.getD "") with
  | [] =>
    match usual with
    | some path => ofFile files path
    | none => .error .noPath
  | paths => mergeFiles files {} paths

/-- The paths of all files that the kubeconfigs of a text mention. -/
def mentionedFiles (path s : String) : List String :=
  let ks := (Yaml.Document.ofText (dropMark s)).filterMap (·.bind ofWritten?)
  let paths (k : Kubeconfig) : List String :=
    k.clusters.filterMap (fun n => n.value.bind (·.authority))
      ++ k.users.flatMap fun n =>
        (n.value.map fun u => [u.tokenFile, u.certificate, u.key].filterMap id).getD []
  (ks ++ ks.map (locate path)).flatMap paths

end SpokeSim.Kubeconfig
