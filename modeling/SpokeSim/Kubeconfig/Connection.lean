import SpokeSim.Kubeconfig.Source
import SpokeSim.Kubeconfig.Uri
import SpokeSim.Text.Base64

/-!
# Connections

`Kubeconfig.connection` is the connection that a kubeconfig describes: the context in use is looked
up with its cluster and its user, and the addresses are taken apart.
-/

namespace SpokeSim

open Kubeconfig

/-- How the hub is reached. -/
structure Connection where
  server : Uri
  /-- The namespace in which work is done unless another one is named. -/
  space : String
  proxy : Option Uri := none
  user : User := {}
  /-- The name by which the server proves itself, if it is not that of its address. -/
  serverName : Option String := none
deriving Inhabited

namespace Kubeconfig

/-! ## Data in kubeconfigs -/

/-- The bytes of some data in base 64, or else of the file at a path, as characters below 256. -/
def load (files : Files) (data path : Option String) : Option String :=
  let characters (bytes : List UInt8) := String.ofList (bytes.map fun b => Char.ofNat b.toNat)
  match data, path with
  | some data, _ =>
    if Text.isBase64 data.toList then some (characters (Text.base64Bytes data.toList)) else none
  | none, some path => (files path).toOption.map fun s => characters s.toUTF8.toList
  | none, none => none

/-! ## Parts of a connection -/

/-- The namespace of a context that names none. -/
def defaultSpace : String := "default"

/-- The context in use. -/
def context (k : Kubeconfig) : Except Fault Context :=
  match k.current with
  | none => .error .noContext
  | some name =>
    match find? k.contexts name with
    | some c => .ok c
    | none => .error (.unknownContext name)

/-- The cluster of a context. -/
def clusterOf (k : Kubeconfig) (c : Context) : Except Fault Cluster :=
  match find? k.clusters c.cluster with
  | some cluster => .ok cluster
  | none => .error (.unknownCluster c.cluster)

/-- The user of a context; one that is not there is nobody in particular. -/
def userOf (k : Kubeconfig) (c : Context) : User := (c.user.bind (find? k.users)).getD {}

/-- The address of a cluster. -/
def Cluster.address (c : Cluster) : Except Fault Uri :=
  match c.server with
  | none => .error .noServer
  | some s => (Uri.parse s).mapError .badServer

/-- Check that the trusted certificates of a cluster can be read, if it names any. -/
def Cluster.checkAuthority (files : Files) (c : Cluster) : Except Fault Unit :=
  if (c.authorityData.or c.authority).isNone || (load files c.authorityData c.authority).isSome
  then .ok () else .error .badAuthority

/-- The proxy of a cluster; an empty address is none. -/
def Cluster.proxyAddress (c : Cluster) : Except Fault (Option Uri) :=
  match c.proxy with
  | none => .ok none
  | some s => if s = "" then .ok none else ((Uri.parse s).mapError .badProxy).map some

/-- The connection that a kubeconfig describes.  A command that is told about the cluster needs its
trusted certificates before anything else. -/
def connection (files : Files) (k : Kubeconfig) : Except Fault Connection := do
  let context ← k.context
  let cluster ← k.clusterOf context
  let user := k.userOf context
  if user.helper.any (·.informed) then cluster.checkAuthority files
  let server ← cluster.address
  cluster.checkAuthority files
  let proxy ← cluster.proxyAddress
  return {
    server, space := context.space.getD defaultSpace, proxy, user
    serverName := cluster.serverName }

end Kubeconfig

end SpokeSim
