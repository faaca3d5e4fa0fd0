import SpokeSim.Kubeconfig.Connection
import SpokeSim.Kubeconfig.ServerName
import SpokeSim.Text.Pem
import SpokeSim.Time.Timestamp

/-!
# Clients

What keeps a described connection from being used (`Connection.check`): its proxy, the way in which
its user proves who they are, the certificate of the user, the name of the server, and the headers
that say in whose name work is done are looked at in this order.

Nothing is run here: a command that is asked to vouch for a user cannot be started.
-/

namespace SpokeSim

open Kubeconfig

namespace Connection

/-! ## Faults -/

/-- Why a user cannot prove who they are. -/
inductive AuthFault where
  /-- The file with the token cannot be read. -/
  | noToken (path : String) (f : FileFault)
  /-- The time at which a token expires is none. -/
  | badExpiry (f : Time.Timestamp.Fault)
  /-- A provider does not vouch for the user. -/
  | refused (reason : String)
  /-- There is a helper without a command. -/
  | noCommand
  /-- The command of a helper cannot be started. -/
  | notStarted (f : FileFault)
deriving DecidableEq, Repr

/-- The wording of a fault. -/
def AuthFault.message : AuthFault → String
  | noToken path f => "failed to read token file '" ++ Text.quoted path ++ "': " ++ f.message
  | badExpiry f => "malformed token expiration date: " ++ f.message
  | refused reason => "failed exec auth: " ++ reason
  | noCommand => "command must be specified to use exec authentication plugin"
  | notStarted f => "unable to run auth exec: " ++ f.message

/-- Why a connection cannot be used. -/
inductive Fault where
  /-- There is support for the proxy's scheme, but not here. -/
  | proxyDisabled (proxy : Uri) (feature : String)
  | proxyUnsupported (proxy : Uri)
  | auth (f : AuthFault)
  /-- The user's certificate comes without a key. -/
  | noKey
  /-- The user's key comes without a certificate. -/
  | noCertificate
  /-- The name of the server is none. -/
  | badServerName
  /-- A header cannot say in whose name work is done. -/
  | badHeader
deriving DecidableEq, Repr

/-- The wording of a fault. -/
def Fault.message : Fault → String
  | proxyDisabled proxy feature =>
    "configured proxy " ++ proxy.text ++ " requires the disabled feature \"" ++ feature ++ "\""
  | proxyUnsupported proxy => "configured proxy " ++ proxy.text ++ " uses an unsupported protocol"
  | auth f => "auth error: " ++ f.message
  | noKey =>
    "rustls tls error: identity PEM is missing a private key: the key must be PKCS8 or RSA/PKCS1"
  | noCertificate => "rustls tls error: identity PEM is missing certificate"
  | badServerName => "rustls tls error: invalid server name: invalid dns name"
  | badHeader => "HttpError: failed to parse header value"

/-! ## Proxies -/

/-- No proxy can be used, whatever its scheme. -/
def checkProxy : Option Uri → Except Fault Unit
  | none => .ok ()
  | some proxy =>
    if proxy.scheme = "socks5" then .error (.proxyDisabled proxy "kube/socks5")
    else if proxy.scheme = "http" then .error (.proxyDisabled proxy "kube/http-proxy")
    else .error (.proxyUnsupported proxy)

/-! ## Proofs of who the user is -/

/-- Why a command cannot be started.  One without a slash is looked for among the system's commands,
of which there are none; a file that is there is no command. -/
def startFault (files : Files) (command : String) : FileFault :=
  if command.toList.contains '/' then
    match files command with
    | .ok _ | .error .isDirectory | .error .notText => .forbidden
    | .error f => f
  else if command.utf8ByteSize > 255 then .tooLong
  else .notFound

/-- What a provider says about a command that cannot be started. -/
def startComplaint (command : String) (f : FileFault) : String :=
  "Executing " ++ command ++ " failed: " ++
    match f.numbered? with
    | some (text, name, number) =>
      "Os \x7b code: " ++ toString number ++ ", kind: " ++ name ++ ", message: " ++ Text.quoted text
        ++ " \x7d"
    | none => f.message

/-- Where those find help who want a kind of provider that is gone. -/
def kubelogin : String := "https:" ++ "//github.com/Azure/kubelogin"

/-- Ask a provider that keeps tokens with the time at which they expire.  Only a token that expires
after `horizon` is good. -/
def checkKeeper (files : Files) (horizon : Time.Timestamp) (config : KeyMap String) :
    Except AuthFault Unit := do
  if config.contains "id-token" then return ()
  if config.contains "access-token" then
    if let some text := config.get? "expiry" then
      let expiry ← (Time.Timestamp.parse text).mapError .badExpiry
      if horizon.isBefore expiry then return ()
  match config.get? "cmd-path" with
  | some command => throw (.refused (startComplaint command (startFault files command)))
  | none =>
    throw (.refused
      "Enable oauth feature to use Google Application Credentials-based token source")

/-- Ask a provider to vouch for a user. -/
def checkProvider (files : Files) (horizon : Time.Timestamp) (p : Provider) :
    Except AuthFault Unit :=
  match p.name with
  | "oidc" =>
    if p.config.contains "id-token" then .ok ()
    else .error (.refused "No id-token for oidc Authentication provider")
  | "gcp" => checkKeeper files horizon p.config
  | "azure" =>
    .error (.refused
      ("The azure auth plugin is not supported; use " ++ kubelogin ++ " instead"))
  | name => .error (.refused ("Authentication with provider " ++ name ++ " not supported"))

/-- Ask a helper to vouch for a user. -/
def checkHelper (files : Files) (h : Helper) : Except AuthFault Unit :=
  match h.command with
  | none => .error .noCommand
  | some command => .error (.notStarted (startFault files command))

/-- A user proves who they are by the first of these that they have: a provider, a password, a
token, a file with a token, a helper. -/
def checkUser (files : Files) (horizon : Time.Timestamp) (u : User) : Except AuthFault Unit :=
  if let some p := u.provider then checkProvider files horizon p
  else if u.username.isSome && u.password.isSome || u.token.isSome then .ok ()
  else if let some path := u.tokenFile then
    ((files path).mapError (.noToken path)).map fun _ => ()
  else if let some h := u.helper then checkHelper files h
  else .ok ()

/-! ## Certificates and headers -/

/-- The labels of keys. -/
def keyLabels : List String := ["PRIVATE KEY", "RSA PRIVATE KEY", "EC PRIVATE KEY"]

/-- A certificate comes with its key.  Either counts only if both can be read. -/
def checkCertificate (files : Files) (u : User) : Except Fault Unit :=
  match load files u.certificateData u.certificate, load files u.keyData u.key with
  | some certificate, some key =>
    let labels := Text.Pem.labels (key ++ "\n" ++ certificate)
    if !labels.any keyLabels.contains then .error .noKey
    else if !labels.contains "CERTIFICATE" then .error .noCertificate
    else .ok ()
  | _, _ => .ok ()

/-- Whether a text may stand in a header: of the control characters only the tab may. -/
def isHeaderText (s : String) : Bool := s.toList.all fun c => c == '\t' || (c ≥ ' ' && c != '\x7f')

/-- What keeps a connection from being used, if anything does.  A token that expires before
`horizon` counts as expired. -/
def check (files : Files) (horizon : Time.Timestamp) (c : Connection) : Except Fault Unit := do
  checkProxy c.proxy
  (checkUser files horizon c.user).mapError .auth
  checkCertificate files c.user
  if !c.serverName.all isServerName then throw .badServerName
  if !(c.user.actsAs.toList ++ c.user.actsAsGroups).all isHeaderText then throw .badHeader

end Connection

end SpokeSim
