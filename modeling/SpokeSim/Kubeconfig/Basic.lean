import SpokeSim.KeyMap
import SpokeSim.Yaml.View

/-!
# Kubeconfigs

A kubeconfig names clusters, users and contexts, each of which joins a cluster with a user, and says
which context is in use.

A kubeconfig is read from a document under a view (`Yaml.View`), which decides what counts as a
text.  Fields that nobody asks for are passed over; a known field that is repeated spoils the whole.

* `Kubeconfig.read`: the kubeconfig of a document.
* `Kubeconfig.merge`: two kubeconfigs in one; what the first one sets wins.
-/

namespace SpokeSim

open Yaml (View Following)

namespace Kubeconfig

variable {ν α : Type}

/-! ## Fields -/

/-- The fields of a part of a document. -/
abbrev Fields (ν : Type) := List (String × ν)

/-- A field that stands at most once. -/
def single? (name : String) (fields : Fields ν) : Following (Option ν) :=
  match fields.filter fun f => f.1 = name with
  | [] => return none
  | [(_, y)] => return some y
  | _ => failure

/-- A field that may be missing or stand for nothing. -/
def optional (v : View ν) (name : String) (read : ν → Following α) (fields : Fields ν) :
    Following (Option α) := do
  match ← single? name fields with
  | none => return none
  | some y =>
    match ← v.present? y with
    | none => return none
    | some y => return some (← read y)

/-- A field that may be missing, and then has a usual value. -/
def usual (name : String) (otherwise : α) (read : ν → Following α) (fields : Fields ν) :
    Following α := do
  match ← single? name fields with
  | none => return otherwise
  | some y => read y

/-- A field that must stand there. -/
def required (name : String) (read : ν → Following α) (fields : Fields ν) : Following α := do
  match ← single? name fields with
  | none => failure
  | some y => read y

/-- A sequence. -/
def sequence (v : View ν) (read : ν → Following α) (y : ν) : Following (List α) := do
  (← v.items y).mapM read

/-- A map of texts, in which the last of several equal keys counts. -/
def textMap (v : View ν) (y : ν) : Following (KeyMap String) := do
  return .ofList (← (← v.fields y).mapM fun (k, y) => return (k, ← v.text y))

/-- A field with a text. -/
def text (v : View ν) (name : String) (fields : Fields ν) : Following (Option String) :=
  optional v name v.text fields

/-- A field with a truth value. -/
def truth (v : View ν) (name : String) (fields : Fields ν) : Following (Option Bool) :=
  optional v name v.truth fields

/-- A field with a sequence; it may be missing or stand for nothing, and is then empty. -/
def listed (v : View ν) (name : String) (read : ν → Following α) (fields : Fields ν) :
    Following (List α) :=
  return (← optional v name (sequence v read) fields).getD []

/-- An extension: a name with anything under it that could be written as JSON. -/
def extension (v : View ν) (y : ν) : Following Unit := do
  let fields ← v.fields y
  let _ ← required "name" v.text fields
  required "extension" v.json fields

/-- A field with extensions. -/
def extensions (v : View ν) (fields : Fields ν) : Following Unit := do
  let _ ← optional v "extensions" (sequence v (extension v)) fields

/-! ## Clusters -/

/-- How a cluster is reached. -/
structure Cluster where
  server : Option String := none
  /-- The file with the certificates that are trusted. -/
  authority : Option String := none
  /-- The certificates that are trusted, in base 64. -/
  authorityData : Option String := none
  proxy : Option String := none
  /-- The name by which the cluster proves itself. -/
  serverName : Option String := none
deriving DecidableEq, Repr, Inhabited

/-- Read a cluster. -/
def Cluster.read (v : View ν) (y : ν) : Following Cluster := do
  let fields ← v.fields y
  let server ← text v "server" fields
  let _ ← truth v "insecure-skip-tls-verify" fields
  let authority ← text v "certificate-authority" fields
  let authorityData ← text v "certificate-authority-data" fields
  let proxy ← text v "proxy-url" fields
  let _ ← truth v "disable-compression" fields
  let serverName ← text v "tls-server-name" fields
  extensions v fields
  return { server, authority, authorityData, proxy, serverName }

/-! ## Users -/

/-- Someone who vouches for a user. -/
structure Provider where
  name : String
  config : KeyMap String := .empty

/-- Read a provider. -/
def Provider.read (v : View ν) (y : ν) : Following Provider := do
  let fields ← v.fields y
  let name ← required "name" v.text fields
  let config ← usual "config" .empty (textMap v) fields
  return { name, config }

/-- A command that vouches for a user. -/
structure Helper where
  command : Option String := none
  /-- Whether the command is told about the cluster. -/
  informed : Bool := false
deriving DecidableEq, Repr

/-- The words that say when a command may ask its user. -/
def Helper.modes : List String := ["Never", "IfAvailable", "Always"]

/-- Read a helper. -/
def Helper.read (v : View ν) (y : ν) : Following Helper := do
  let fields ← v.fields y
  let _ ← text v "apiVersion" fields
  let command ← text v "command" fields
  let _ ← optional v "args" (sequence v v.text) fields
  let _ ← optional v "env" (sequence v (textMap v)) fields
  let mode ← optional v "interactiveMode" v.word fields
  let informed ← usual "provideClusterInfo" false v.truth fields
  if mode.all modes.contains then return { command, informed } else failure

/-- Who reaches a cluster. -/
structure User where
  username : Option String := none
  password : Option String := none
  token : Option String := none
  /-- The file with the token. -/
  tokenFile : Option String := none
  /-- The file with the certificate that proves who the user is. -/
  certificate : Option String := none
  /-- That certificate, in base 64. -/
  certificateData : Option String := none
  /-- The file with the key of the certificate. -/
  key : Option String := none
  /-- That key, in base 64. -/
  keyData : Option String := none
  provider : Option Provider := none
  helper : Option Helper := none
  /-- The user in whose name work is done. -/
  actsAs : Option String := none
  /-- The groups in whose name work is done. -/
  actsAsGroups : List String := []
deriving Inhabited

/-- Read a user. -/
def User.read (v : View ν) (y : ν) : Following User := do
  let fields ← v.fields y
  let username ← text v "username" fields
  let password ← text v "password" fields
  let token ← text v "token" fields
  let tokenFile ← text v "tokenFile" fields
  let certificate ← text v "client-certificate" fields
  let certificateData ← text v "client-certificate-data" fields
  let key ← text v "client-key" fields
  let keyData ← text v "client-key-data" fields
  let actsAs ← text v "as" fields
  let actsAsGroups ← listed v "as-groups" v.text fields
  let provider ← optional v "auth-provider" (Provider.read v) fields
  let helper ← optional v "exec" (Helper.read v) fields
  return {
    username, password, token, tokenFile, certificate, certificateData, key, keyData, provider
    helper, actsAs, actsAsGroups }

/-! ## Contexts -/

/-- A cluster with a user and a namespace. -/
structure Context where
  cluster : String
  user : Option String := none
  space : Option String := none
deriving DecidableEq, Repr, Inhabited

/-- Read a context. -/
def Context.read (v : View ν) (y : ν) : Following Context := do
  let fields ← v.fields y
  let cluster ← required "cluster" v.text fields
  let user ← text v "user" fields
  let space ← text v "namespace" fields
  extensions v fields
  return { cluster, user, space }

/-! ## Names -/

/-- Something under a name. -/
structure Named (α : Type) where
  name : String
  value : Option α := none
deriving DecidableEq, Repr

/-- Read a named thing; the thing itself stands in `field`. -/
def Named.read (v : View ν) (field : String) (read : ν → Following α) (y : ν) :
    Following (Named α) := do
  let fields ← v.fields y
  let name ← required "name" v.text fields
  let value ← optional v field read fields
  return { name, value }

/-- The first thing of a name, unless the name has none. -/
def find? (ns : List (Named α)) (name : String) : Option α :=
  (ns.find? fun n => n.name == name).bind (·.value)

/-- Put things behind others whose names they do not have. -/
def append (ns more : List (Named α)) : List (Named α) :=
  ns ++ more.filter fun m => !ns.any fun n => n.name == m.name

end Kubeconfig

/-! ## Kubeconfigs -/

/-- A kubeconfig. -/
structure Kubeconfig where
  clusters : List (Kubeconfig.Named Kubeconfig.Cluster) := []
  users : List (Kubeconfig.Named Kubeconfig.User) := []
  contexts : List (Kubeconfig.Named Kubeconfig.Context) := []
  /-- The name of the context in use. -/
  current : Option String := none
  kind : Option String := none
  version : Option String := none
deriving Inhabited

namespace Kubeconfig

/-- Read preferences, of which nothing is kept. -/
def preferences {ν : Type} (v : View ν) (y : ν) : Following Unit := do
  let fields ← v.fields y
  let _ ← truth v "colors" fields
  extensions v fields

/-- Read a kubeconfig. -/
def read {ν : Type} (v : View ν) (y : ν) : Following Kubeconfig := do
  let fields ← v.fields y
  let _ ← optional v "preferences" (preferences v) fields
  let clusters ← listed v "clusters" (Named.read v "cluster" (Cluster.read v)) fields
  let users ← listed v "users" (Named.read v "user" (User.read v)) fields
  let contexts ← listed v "contexts" (Named.read v "context" (Context.read v)) fields
  let current ← text v "current-context" fields
  let kind ← text v "kind" fields
  let version ← text v "apiVersion" fields
  extensions v fields
  return { clusters, users, contexts, current, kind, version }

/-- The kubeconfig of a document in which every scalar is a text. -/
def ofWritten? (d : Yaml.Document) : Option Kubeconfig :=
  (read (.written d) ⟨d.root, Yaml.depthLimit⟩).run' 0

/-- The kubeconfig of a value. -/
def ofValue? (v : Yaml.Value) : Option Kubeconfig := (read .meant v).run' 0

/-- Why two kubeconfigs cannot be merged. -/
inductive MergeFault where
  | kind
  | version
deriving DecidableEq, Repr

/-- Whether two fields are set to different values. -/
def differ (a b : Option String) : Bool :=
  match a, b with
  | some a, some b => a != b
  | _, _ => false

/-- Two kubeconfigs in one: what the first one sets wins. -/
def merge (a b : Kubeconfig) : Except MergeFault Kubeconfig :=
  if differ a.kind b.kind then .error .kind
  else if differ a.version b.version then .error .version
  else .ok
    { clusters := append a.clusters b.clusters
      users := append a.users b.users
      contexts := append a.contexts b.contexts
      current := a.current.or b.current
      kind := a.kind.or b.kind
      version := a.version.or b.version }

end Kubeconfig

end SpokeSim
