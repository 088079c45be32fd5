import LibvirtCim.Device.Hotplug
import LibvirtCim.Framework.Effect
import LibvirtCim.Rasd.FromVdev

/-!
# What the service asks of libvirt

A domain as the requests of `Virt_VirtualSystemManagementService.c` change it: the
running domain, and the definition that is kept. `Libvirt` are the calls that change one
of the two, as functions that may fail; a call that fails changes nothing. `Calls` says of
all other calls of one request whether they succeed.

A connection that cannot be opened is no error for `connect_by_classname`: it returns no
connection and a status that is fine.
-/

open Framework LibvirtCim.Device LibvirtCim.Rasd

namespace LibvirtCim.Service

/-- How a request ends that does not succeed. -/
inductive Failure
  | status (rc : CmpiErr) (msg : String)
  /-- a null pointer is followed -/
  | crash
  deriving DecidableEq, Repr

/-- `CMPI_RC_ERR_FAILED`. -/
abbrev Failure.failed (msg : String) : Failure := .status .failed msg

/-- A domain: its running state, whatever libvirt takes for one, and its description as
`VIR_DOMAIN_XML_INACTIVE` gives it. -/
structure Guest (Live : Type) where
  live : Live
  config : Node

/-- The calls that change a domain. -/
structure Libvirt (Live : Type) where
  /-- `virDomainAttachDevice` -/
  attachDevice : Node → Live → Option Live
  /-- `virDomainDetachDevice` -/
  detachDevice : Node → Live → Option Live
  /-- `virDomainSetMemory` -/
  setMemory : UInt64 → Live → Option Live
  /-- `virDomainSetMaxMemory` -/
  setMaxMemory : UInt64 → Live → Option Live
  /-- `virDomainSetSchedulerParameters` with `cpu_shares` -/
  setSchedulerParameters : UInt64 → Live → Option Live
  /-- `virDomainSetVcpus` -/
  setVcpus : UInt64 → Live → Option Live
  /-- `virDomainSetSchedulerParametersFlags` with `cpu_shares`, on the definition -/
  setConfigSchedulerParameters : UInt64 → Node → Option Node
  /-- `virDomainDefineXML`: the description of what is defined -/
  defineXML : Node → Option Node

/-- The places in one request where a connection is opened and a domain looked up. -/
inductive Site
  | request | previous | uuid | updateDominfo | dynamic | create
  deriving DecidableEq, Repr

/-- The calls of one request that change nothing. -/
structure Calls where
  /-- a connection is opened -/
  connect : Site → Bool
  /-- `virDomainLookupByName` -/
  lookup : Site → Bool
  /-- `virDomainGetXMLDesc` for the definition -/
  xmlDesc : Bool
  /-- `virDomainGetAutostart` -/
  autostart : Bool
  /-- `virDomainGetXMLDesc` for the running domain -/
  liveDesc : Option Node
  /-- `domain_online` -/
  online : Bool
  /-- `infostore_open` -/
  infostore : Bool
  /-- `virConnectGetType` says `QEMU` -/
  qemu : Bool
  /-- `get_domain_by_name` -/
  getDomainByName : Bool

/-- Everything one request depends on besides its arguments and the domain. -/
structure Env (Live : Type) where
  lv : Libvirt Live
  calls : Calls
  host : Host
  info : DomainInfo
  /-- the first half of the name of the class the request is made to -/
  pfx : String
  /-- what libxml2 makes of the text of an element -/
  nodeContent : String → List Node
  /-- `uuid_generate` -/
  newUuid : String

variable {Live : Type} (env : Env Live)

/-- A request on one domain. -/
abbrev Request (Live α : Type) : Type := Effect (Guest Live) Failure α

/-- `CLASSNAME(ref)` of the class the request is made to. -/
def Env.refcn : String := env.pfx ++ "_VirtualSystemManagementService"

/-- `connect_by_classname`: whether there is a connection. -/
def connectByClassname (site : Site) (classname : String) : Except Failure Bool :=
  if startsWith classname "Xen" || startsWith classname "KVM" || startsWith classname "LXC" then
    .ok (env.calls.connect site)
  else .error (.failed "Unable to generate URI from classname")

/-- A call that changes the running domain, unless the process crashes before it. -/
def onLive (f : Live → Option (Bool × Live)) : Request Live Bool := fun g =>
  match f g.live with
  | none => (.error .crash, g)
  | some (ok, live) => (.ok ok, { g with live := live })

/-- The new state after a call that may fail. -/
def applied {α : Type} (old : α) (new : Option α) : Bool × α :=
  (new.isSome, new.getD old)

/-- A call that changes the definition. -/
def onConfig (f : Node → Option Node) : Request Live Bool :=
  .call fun g => ((f g.config).isSome, { g with config := (f g.config).getD g.config })

/-- `get_dominfo`. -/
def getDominfo (e : Failure) : Request Live Domain := do
  let root ← Effect.read Guest.config
  .require env.calls.xmlDesc e
  let dominfo ← .ofExcept ((getDominfoFromXml root).mapError fun _ => Failure.crash)
  .require env.calls.autostart e
  pure dominfo

/-! ### Changing a running domain -/

/-- `enum ResourceAction`. -/
inductive ResourceAction
  | add | del | mod
  deriving DecidableEq, Repr

/-- The value of a `ResourceAction`. -/
def ResourceAction.number : ResourceAction → String
  | .add => "0"
  | .del => "1"
  | .mod => "2"

/-- A call with the XML of a device, `_change_device` and `change_disk`. Without the XML it
fails. -/
def withDeviceXml (kind : DevKind) (dev : VirtDevice kind.Dev) (f : Node → Live → Option Live)
    (live : Live) : Option (Bool × Live) :=
  match deviceToXml env.nodeContent kind dev with
  | .error .fault => none
  | .error .reject => some (false, live)
  | .ok xml => some (applied live (f xml live))

/-- `change_memory`. -/
def changeMemory (lv : Libvirt Live) (dev : MemDevice) (live : Live) : Bool × Live :=
  match lv.setMemory dev.size live with
  | none => (false, live)
  | some live' => applied live' (lv.setMaxMemory dev.maxsize live')

/-- The second half of `change_vcpus`. -/
def setVcpuCount (lv : Libvirt Live) (dev : VcpuDevice) (live : Live) : Bool × Live :=
  if dev.quantity = 0 then (false, live)
  else applied live (lv.setVcpus dev.quantity live)

/-- `change_vcpus`. -/
def changeVcpus (lv : Libvirt Live) (dev : VcpuDevice) (live : Live) : Bool × Live :=
  if dev.weight = 0 then setVcpuCount lv dev live
  else
    match lv.setSchedulerParameters dev.weight.toUInt64 live with
    | none => (false, live)
    | some live' => setVcpuCount lv dev live'

/-- `change_device`. A disk is attached in place of the old one. -/
def changeDevice : (kind : DevKind) → VirtDevice kind.Dev → Live → Option (Bool × Live)
  | .mem, dev => fun live => some (changeMemory env.lv dev.dev live)
  | .proc, dev => fun live => some (changeVcpus env.lv dev.dev live)
  | .disk, dev => withDeviceXml env .disk dev env.lv.attachDevice
  | _, _ => fun live => some (false, live)

/-- `attach_device` and `detach_device`, which handle disks and interfaces only. -/
def plugDevice (f : Node → Live → Option Live) :
    (kind : DevKind) → VirtDevice kind.Dev → Live → Option (Bool × Live)
  | .disk, dev => withDeviceXml env .disk dev f
  | .net, dev => withDeviceXml env .net dev f
  | _, _ => fun live => some (false, live)

/-- `attach_device`, `detach_device` or `change_device`; nothing when the process crashes. -/
def changeLive (action : ResourceAction) (kind : DevKind) (dev : VirtDevice kind.Dev) :
    Live → Option (Bool × Live) :=
  match action with
  | .add => plugDevice env env.lv.attachDevice kind dev
  | .del => plugDevice env env.lv.detachDevice kind dev
  | .mod => changeDevice env kind dev

/-- The weight `update_dominfo` keeps, when it gets that far: in the definition of the
domain for QEMU. -/
def configWeight (dominfo : Domain) (refcn : String) : Option UInt64 :=
  match dominfo.devVcpu, connectByClassname env .updateDominfo refcn with
  | [vcpu], .ok true =>
    if env.calls.lookup .updateDominfo && env.calls.infostore && env.calls.qemu then
      some vcpu.dev.weight.toUInt64
    else none
  | _, _ => none

/-- `update_dominfo`, whose status its callers drop. What it keeps in the information
store is left out. -/
def updateDominfo (dominfo : Domain) (refcn : String) : Request Live Unit :=
  match configWeight env dominfo refcn with
  | none => pure ()
  | some weight => do
    let _ ← onConfig (env.lv.setConfigSchedulerParameters weight)
    pure ()

/-- `_resource_dynamic`. Without a connection nothing is changed, and nothing is wrong. -/
def resourceDynamic (dominfo : Domain) (action : ResourceAction) (kind : DevKind)
    (dev : VirtDevice kind.Dev) (refcn : String) : Request Live Unit := do
  updateDominfo env dominfo refcn
  let connected ← .ofExcept (connectByClassname env .dynamic refcn)
  if connected then
    .require (env.calls.lookup .dynamic) (.status .notFound
      ("Virtual System `" ++ formatStr dominfo.name ++ "' not found"))
    if env.calls.online then
      let changed ← onLive (changeLive env action kind dev)
      .require changed (.failed ("Unable to change (" ++ action.number ++ ") device"))

/-- `connect_and_create`: whether there is an instance of the new system. -/
def connectAndCreate (doc : Option Node) : Request Live Bool := do
  let connected ← .ofExcept (connectByClassname env .create env.refcn)
  if connected then
    let defined ← onConfig fun _ => doc.bind env.lv.defineXML
    .require defined (.failed "Failed to define domain")
    .require env.calls.getDomainByName (.failed "Failed to lookup resulting system")
    pure true
  else pure false

/-! ### A host to try requests on -/

/-- A running domain: its devices and the figures that can be changed. -/
structure SimpleLive where
  devices : List Node := []
  memory : UInt64 := 0
  maxMemory : UInt64 := 0
  cpuShares : UInt64 := 0
  vcpus : UInt64 := 1

/-- The target of a device. -/
def targetDev (node : Node) : Option String :=
  (node.child "target").bind fun target => target.attr "dev"

/-- A libvirt that accepts everything and keeps a document as it is. -/
def simpleLibvirt : Libvirt SimpleLive where
  attachDevice xml live := some { live with devices := live.devices ++ [xml] }
  detachDevice xml live := some
    { live with devices := live.devices.filter fun node => targetDev node ≠ targetDev xml }
  setMemory size live := some { live with memory := size }
  setMaxMemory size live := some { live with maxMemory := size }
  setSchedulerParameters shares live := some { live with cpuShares := shares }
  setVcpus count live := some { live with vcpus := count }
  setConfigSchedulerParameters shares config :=
    some (config.setChild "cputune" [.elem "shares" [] [.text (toString shares.toNat)]])
  defineXML doc := some doc

/-- A host on which every call succeeds, for a domain that runs with the description
`liveDesc`. -/
def simpleEnv (liveDesc : Node) : Env SimpleLive where
  lv := simpleLibvirt
  calls :=
    { connect := fun _ => true, lookup := fun _ => true, xmlDesc := true, autostart := true
      liveDesc := some liveDesc, online := true, infostore := true, qemu := true
      getDomainByName := true }
  host :=
    { diskTypeFromFile := fun _ => .file, netRandMac := some "00:1A:4A:00:00:01"
      defaultNetwork := some "NetworkPool/default" }
  info :=
    { volSize := fun _ => 0, volPool := fun _ => none, connect := true, lookup := true
      online := true, vcpuCount := some 1, infostore := true, qemu := true
      schedParams := some [("cpu_shares", 1024)], weight := 0, limit := 0 }
  pfx := "KVM"
  nodeContent s := [.text s]
  newUuid := "3f5a6d3e-0000-4000-8000-000000000000"

/-- A guest with one disk. -/
def diskGuest (disk : Node) : Node :=
  .elem "domain" [("type", "kvm")]
    [.elem "name" [] [.text "guest"], .elem "os" [] [.elem "type" [] [.text "hvm"]],
      .elem "devices" [] [disk]]

/-- A disk in a file. -/
def fileDisk (target : String) : Node :=
  .elem "disk" [("type", "file"), ("device", "disk")]
    [.elem "source" [("file", "/var/lib/disk.img")] [], .elem "target" [("dev", target)] []]

end LibvirtCim.Service
