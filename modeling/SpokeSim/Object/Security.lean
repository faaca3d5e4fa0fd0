import SpokeSim.Object.Selector

/-!
# Security contexts

What the processes of a pod and of its containers are allowed to do, and under whose name.
-/

namespace SpokeSim

open Codec Record

/-- A profile that confines processes. -/
structure SecurityProfile where
  localhostProfile : Option String := none
  type : String := ""

/-- The fields of a profile. -/
def SecurityProfile.record : Record SecurityProfile :=
  ((optional "localhostProfile" text).and <| (defaulted "type" text "")).via
    (fun (localhostProfile, type) => { localhostProfile, type })
    (fun p => (p.localhostProfile, p.type))

/-- The label under which processes run. -/
structure SELinuxOptions where
  level : Option String := none
  role : Option String := none
  type : Option String := none
  user : Option String := none

/-- The fields of a label. -/
def SELinuxOptions.record : Record SELinuxOptions :=
  ((optional "level" text).and <|
   (optional "role" text).and <|
   (optional "type" text).and <|
   (optional "user" text)).via
    (fun (level, role, type, user) => { level, role, type, user })
    (fun o => (o.level, o.role, o.type, o.user))

/-- What is asked of machines with Windows. -/
structure WindowsOptions where
  gmsaCredentialSpec : Option String := none
  gmsaCredentialSpecName : Option String := none
  hostProcess : Option Bool := none
  runAsUserName : Option String := none

/-- The fields of what is asked of Windows. -/
def WindowsOptions.record : Record WindowsOptions :=
  ((optional "gmsaCredentialSpec" text).and <|
   (optional "gmsaCredentialSpecName" text).and <|
   (optional "hostProcess" bool).and <|
   (optional "runAsUserName" text)).via
    (fun (gmsaCredentialSpec, gmsaCredentialSpecName, hostProcess, runAsUserName) =>
      { gmsaCredentialSpec, gmsaCredentialSpecName, hostProcess, runAsUserName })
    (fun o => (o.gmsaCredentialSpec, o.gmsaCredentialSpecName, o.hostProcess, o.runAsUserName))

/-- Rights that processes get or lose. -/
structure Capabilities where
  add : Option (List String) := none
  drop : Option (List String) := none

/-- The fields of capabilities. -/
def Capabilities.record : Record Capabilities :=
  ((optional "add" (list text)).and <| (optional "drop" (list text))).via
    (fun (add, drop) => { add, drop })
    (fun c => (c.add, c.drop))

/-- What a container is allowed to do. -/
structure SecurityContext where
  allowPrivilegeEscalation : Option Bool := none
  appArmorProfile : Option SecurityProfile := none
  capabilities : Option Capabilities := none
  privileged : Option Bool := none
  procMount : Option String := none
  readOnlyRootFilesystem : Option Bool := none
  runAsGroup : Option Int64 := none
  runAsNonRoot : Option Bool := none
  runAsUser : Option Int64 := none
  seLinuxOptions : Option SELinuxOptions := none
  seccompProfile : Option SecurityProfile := none
  windowsOptions : Option WindowsOptions := none

/-- The fields of a security context. -/
def SecurityContext.record : Record SecurityContext :=
  ((optional "allowPrivilegeEscalation" bool).and <|
   (optional "appArmorProfile" SecurityProfile.record.codec).and <|
   (optional "capabilities" Capabilities.record.codec).and <|
   (optional "privileged" bool).and <|
   (optional "procMount" text).and <|
   (optional "readOnlyRootFilesystem" bool).and <|
   (optional "runAsGroup" int64).and <|
   (optional "runAsNonRoot" bool).and <|
   (optional "runAsUser" int64).and <|
   (optional "seLinuxOptions" SELinuxOptions.record.codec).and <|
   (optional "seccompProfile" SecurityProfile.record.codec).and <|
   (optional "windowsOptions" WindowsOptions.record.codec)).via
    (fun (allowPrivilegeEscalation, appArmorProfile, capabilities, privileged, procMount,
        readOnlyRootFilesystem, runAsGroup, runAsNonRoot, runAsUser, seLinuxOptions, seccompProfile,
        windowsOptions) =>
      { allowPrivilegeEscalation, appArmorProfile, capabilities, privileged, procMount,
        readOnlyRootFilesystem, runAsGroup, runAsNonRoot, runAsUser, seLinuxOptions, seccompProfile,
        windowsOptions })
    (fun c =>
      (c.allowPrivilegeEscalation, c.appArmorProfile, c.capabilities, c.privileged, c.procMount,
        c.readOnlyRootFilesystem, c.runAsGroup, c.runAsNonRoot, c.runAsUser, c.seLinuxOptions,
        c.seccompProfile, c.windowsOptions))

/-- What all containers of a pod are allowed to do. -/
structure PodSecurityContext where
  appArmorProfile : Option SecurityProfile := none
  fsGroup : Option Int64 := none
  fsGroupChangePolicy : Option String := none
  runAsGroup : Option Int64 := none
  runAsNonRoot : Option Bool := none
  runAsUser : Option Int64 := none
  seLinuxOptions : Option SELinuxOptions := none
  seccompProfile : Option SecurityProfile := none
  supplementalGroups : Option (List Int64) := none
  sysctls : Option (List NamedValue) := none
  windowsOptions : Option WindowsOptions := none

/-- The fields of a pod's security context. -/
def PodSecurityContext.record : Record PodSecurityContext :=
  ((optional "appArmorProfile" SecurityProfile.record.codec).and <|
   (optional "fsGroup" int64).and <|
   (optional "fsGroupChangePolicy" text).and <|
   (optional "runAsGroup" int64).and <|
   (optional "runAsNonRoot" bool).and <|
   (optional "runAsUser" int64).and <|
   (optional "seLinuxOptions" SELinuxOptions.record.codec).and <|
   (optional "seccompProfile" SecurityProfile.record.codec).and <|
   (optional "supplementalGroups" (list int64)).and <|
   (optional "sysctls" (list NamedValue.record.codec)).and <|
   (optional "windowsOptions" WindowsOptions.record.codec)).via
    (fun (appArmorProfile, fsGroup, fsGroupChangePolicy, runAsGroup, runAsNonRoot, runAsUser,
        seLinuxOptions, seccompProfile, supplementalGroups, sysctls, windowsOptions) =>
      { appArmorProfile, fsGroup, fsGroupChangePolicy, runAsGroup, runAsNonRoot, runAsUser,
        seLinuxOptions, seccompProfile, supplementalGroups, sysctls, windowsOptions })
    (fun c =>
      (c.appArmorProfile, c.fsGroup, c.fsGroupChangePolicy, c.runAsGroup, c.runAsNonRoot,
        c.runAsUser, c.seLinuxOptions, c.seccompProfile, c.supplementalGroups, c.sysctls,
        c.windowsOptions))

end SpokeSim
