import SpokeSim.Object.Selector

/-!
# Hooks and probes

What is done to a container at points of its life, and how its state is found out.
-/

namespace SpokeSim

open Codec Record

/-- A command run in the container. -/
structure ExecAction where
  command : Option (List String) := none

/-- The fields of a command. -/
def ExecAction.record : Record ExecAction :=
  (optional "command" (list text)).via (fun command => { command }) (fun a => a.command)

/-- A request to the container. -/
structure HttpGetAction where
  host : Option String := none
  httpHeaders : Option (List NamedValue) := none
  path : Option String := none
  port : IntOrText := .int 0
  scheme : Option String := none

/-- The fields of a request. -/
def HttpGetAction.record : Record HttpGetAction :=
  ((optional "host" text).and <|
   (optional "httpHeaders" (list NamedValue.record.codec)).and <|
   (optional "path" text).and <|
   (defaulted "port" IntOrText.codec (.int 0)).and <|
   (optional "scheme" text)).via
    (fun (host, httpHeaders, path, port, scheme) => { host, httpHeaders, path, port, scheme })
    (fun a => (a.host, a.httpHeaders, a.path, a.port, a.scheme))

/-- A pause. -/
structure SleepAction where
  seconds : Int64 := 0

/-- The fields of a pause. -/
def SleepAction.record : Record SleepAction :=
  (defaulted "seconds" int64 0).via (fun seconds => { seconds }) (fun a => a.seconds)

/-- A connection to the container. -/
structure TcpSocketAction where
  host : Option String := none
  port : IntOrText := .int 0

/-- The fields of a connection. -/
def TcpSocketAction.record : Record TcpSocketAction :=
  ((optional "host" text).and <| (defaulted "port" IntOrText.codec (.int 0))).via
    (fun (host, port) => { host, port })
    (fun a => (a.host, a.port))

/-- A remote call to the container. -/
structure GrpcAction where
  port : Int32 := 0
  service : Option String := none

/-- The fields of a remote call. -/
def GrpcAction.record : Record GrpcAction :=
  ((defaulted "port" int32 0).and <| (optional "service" text)).via
    (fun (port, service) => { port, service })
    (fun a => (a.port, a.service))

/-- What is done at one point of a container's life. -/
structure Hook where
  exec : Option ExecAction := none
  httpGet : Option HttpGetAction := none
  sleep : Option SleepAction := none
  tcpSocket : Option TcpSocketAction := none

/-- The fields of a hook. -/
def Hook.record : Record Hook :=
  ((optional "exec" ExecAction.record.codec).and <|
   (optional "httpGet" HttpGetAction.record.codec).and <|
   (optional "sleep" SleepAction.record.codec).and <|
   (optional "tcpSocket" TcpSocketAction.record.codec)).via
    (fun (exec, httpGet, sleep, tcpSocket) => { exec, httpGet, sleep, tcpSocket })
    (fun h => (h.exec, h.httpGet, h.sleep, h.tcpSocket))

/-- What is done when a container has started, and before it is stopped. -/
structure Hooks where
  postStart : Option Hook := none
  preStop : Option Hook := none

/-- The fields of a container's hooks. -/
def Hooks.record : Record Hooks :=
  ((optional "postStart" Hook.record.codec).and <| (optional "preStop" Hook.record.codec)).via
    (fun (postStart, preStop) => { postStart, preStop })
    (fun h => (h.postStart, h.preStop))

/-- How the state of a container is found out. -/
structure Probe where
  exec : Option ExecAction := none
  failureThreshold : Option Int32 := none
  grpc : Option GrpcAction := none
  httpGet : Option HttpGetAction := none
  initialDelaySeconds : Option Int32 := none
  periodSeconds : Option Int32 := none
  successThreshold : Option Int32 := none
  tcpSocket : Option TcpSocketAction := none
  terminationGracePeriodSeconds : Option Int64 := none
  timeoutSeconds : Option Int32 := none

/-- The fields of a probe. -/
def Probe.record : Record Probe :=
  ((optional "exec" ExecAction.record.codec).and <|
   (optional "failureThreshold" int32).and <|
   (optional "grpc" GrpcAction.record.codec).and <|
   (optional "httpGet" HttpGetAction.record.codec).and <|
   (optional "initialDelaySeconds" int32).and <|
   (optional "periodSeconds" int32).and <|
   (optional "successThreshold" int32).and <|
   (optional "tcpSocket" TcpSocketAction.record.codec).and <|
   (optional "terminationGracePeriodSeconds" int64).and <|
   (optional "timeoutSeconds" int32)).via
    (fun (exec, failureThreshold, grpc, httpGet, initialDelaySeconds, periodSeconds,
        successThreshold, tcpSocket, terminationGracePeriodSeconds, timeoutSeconds) =>
      { exec, failureThreshold, grpc, httpGet, initialDelaySeconds, periodSeconds, successThreshold,
        tcpSocket, terminationGracePeriodSeconds, timeoutSeconds })
    (fun p =>
      (p.exec, p.failureThreshold, p.grpc, p.httpGet, p.initialDelaySeconds, p.periodSeconds,
        p.successThreshold, p.tcpSocket, p.terminationGracePeriodSeconds, p.timeoutSeconds))

end SpokeSim
