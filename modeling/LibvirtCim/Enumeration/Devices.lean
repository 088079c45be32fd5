import LibvirtCim.Association.Guests
import LibvirtCim.Enumeration.Systems
import Mathlib.Data.List.Infix

/-!
# Enumerating the devices

`enum_devices` and `return_enum_devices` of `Virt_Device.c`. The devices of a domain are described
type by type, and those of a type until one cannot be described; what is described by then is kept.

* `deviceInstances_eq_iff` — when all the devices of a type that can be described are;
* `devices_iff` — when the enumeration does not depend on the order and is exact.
-/

open Framework LibvirtCim.Device LibvirtCim.Rasd LibvirtCim.Association

namespace LibvirtCim.Enumeration

/-! ### Devices -/

/-- A device that `get_devices` gives, and what the broker answers for it. -/
structure DeviceView (kind : DevKind) where
  dev : VirtDevice kind.Dev
  /-- `get_typed_instance` -/
  initialised : Bool := true
  /-- the array and the string of `net_set_hwaddr` -/
  addresses : Bool := true

/-- A domain with its devices. -/
structure GuestView where
  name : String
  /-- `get_devices`; a failure is like no devices -/
  devices : (kind : DevKind) → List (DeviceView kind)
  /-- `get_typed_instance` for a processor -/
  processors : ℕ → Bool := fun _ => true

/-- The device types `enum_devices` is called for. -/
inductive DeviceSelection
  | all
  | only (kind : DevKind)
  | unknown
  deriving DecidableEq, Repr

/-! ### The instance of a device -/

section Instances

variable (host : SystemHost) (guest : GuestView)

/-- An instance fresh from `get_typed_instance`. -/
def newDevice (base : String) : Instance :=
  let inst : Instance := { pfx := host.pfx, base }
  inst.set "CreationClassName" (.string inst.classname)

/-- `net_instance`. -/
def netInstance (v : DeviceView .net) : Option Instance :=
  if v.initialised && v.addresses then
    let type := v.dev.dev.type.getD ""
    let cimType : UInt16 :=
      if streqc type "ethernet" || streqc type "network" || streqc type "bridge" then 2 else 0
    some (((newDevice host "NetworkPort").set "LinkTechnology" (.uint16 cimType)).set
      "NetworkAddresses" (.stringA [some (v.dev.dev.mac.getD "")]))
  else none

/-- `disk_instance`. -/
def diskInstance (v : DeviceView .disk) : Option Instance :=
  if v.initialised then
    some (((newDevice host "LogicalDisk").setChars "Name" v.dev.dev.virtualDev).set
      "HealthState" (.uint16 5))
  else none

/-- The blocks of `mem_set_size`. -/
def memBlocks (size : UInt64) : UInt64 := (size <<< 10) / 4096

/-- `mem_instance`. -/
def memInstance (v : DeviceView .mem) : Option Instance :=
  if v.initialised then
    some ((((newDevice host "Memory").set "BlockSize" (.uint64 4096)).set
      "ConsumableBlocks" (.uint64 (memBlocks v.dev.dev.size))).set
      "NumberOfBlocks" (.uint64 (memBlocks v.dev.dev.maxsize)))
  else none

/-- `graphics_instance`. -/
def graphicsInstance (v : DeviceView .graphics) : Option Instance :=
  if v.initialised then
    let vpStr :=
      if streqc (v.dev.dev.type.getD "") "sdl" then formatStr v.dev.dev.type
      else formatStr v.dev.dev.type ++ "/" ++ formatStr v.dev.dev.host ++ ":" ++
        formatStr v.dev.dev.port
    some ((newDevice host "DisplayController").set "VideoProcessor" (.string vpStr))
  else none

/-- `console_instance`. -/
def consoleInstance (v : DeviceView .console) : Option Instance :=
  if v.initialised then
    some ((newDevice host "ConsoleDisplayController").setChars "VideoProcessor"
      (chardevSourceTypeIDToStr v.dev.dev.sourceType))
  else none

/-- `input_instance`. -/
def inputInstance (v : DeviceView .input) : Option Instance :=
  if v.initialised then
    let type := v.dev.dev.type.getD ""
    let cimType : UInt16 := if streqc type "mouse" || streqc type "tablet" then 3 else 2
    some (((newDevice host "PointingDevice").set "PointingType" (.uint16 cimType)).set
      "Caption" (.string (getInputDevCaption type (v.dev.dev.bus.getD ""))))
  else none

/-- `CIM_CONTROLLER_PROTOCOL_TYPE_*` as a number. -/
def controllerNumber : ControllerType → UInt16
  | .unset => 0
  | .unknown => 2
  | .ide => 37
  | .fd => 7
  | .scsiSsa => 13
  | .sata => 48
  | .ccid => 32678
  | .virtioSerial => 32769
  | .pci => 5
  | .usb => 16

/-- `controller_instance`. -/
def controllerInstance (v : DeviceView .controller) : Option Instance :=
  if v.initialised && (controllerProtocolTypeIDToStr v.dev.dev.type).isSome then
    some (((newDevice host "Controller").set "ProtocolSupported"
      (.uint16 (controllerNumber v.dev.dev.type))).setChars
      "ProtocolDescription" v.dev.dev.model)
  else none

/-- The branch of `device_instances` for a device. A processor has none: there the number of
processors is taken. -/
def typedInstance : (kind : DevKind) → DeviceView kind → Option Instance
  | .net => netInstance host
  | .disk => diskInstance host
  | .mem => memInstance host
  | .proc => fun _ => none
  | .graphics => graphicsInstance host
  | .input => inputInstance host
  | .console => consoleInstance host
  | .controller => controllerInstance host

/-- `device_set_systemname`. -/
def deviceSetSystemname (inst : Instance) : Instance :=
  (inst.set "SystemName" (.string guest.name)).set "SystemCreationClassName"
    (.string (host.pfx ++ "_ComputerSystem"))

/-- The instance of a device, with the ids that are set for all types. -/
def describeDevice {kind : DevKind} (v : DeviceView kind) : Option Instance :=
  if v.dev.type = kind.resType then
    (typedInstance host kind v).map fun inst =>
      deviceSetSystemname host guest
        (inst.set "DeviceID" (.string (getFqDevid guest.name v.dev.id)))
  else none

/-- `vcpu_inst`. -/
def vcpuInst (number : ℕ) : Option Instance :=
  if guest.processors number then
    some (deviceSetSystemname host guest ((newDevice host "Processor").set "DeviceID"
      (.string (getFqDevid guest.name (some (toString number))))))
  else none

/-- The instances of a list, until there is none for an entry. -/
def instancesUntil {α : Type} (describe : α → Option Instance) : List α → Bool × List Instance
  | [] => (true, [])
  | a :: l =>
    match describe a with
    | none => (false, [])
    | some inst => ((instancesUntil describe l).1, inst :: (instancesUntil describe l).2)

/-- The number of processors `device_instances` finds. -/
def procCount (devs : List (DeviceView .proc)) : ℕ :=
  devs.foldl (fun _ v => v.dev.dev.quantity.toNat) 0

/-- `device_instances`. The result of `vcpu_instances` is dropped. -/
def deviceInstances : (kind : DevKind) → Bool × List Instance
  | .proc =>
    (true, (instancesUntil (vcpuInst host guest) (List.range (procCount (guest.devices .proc)))).2)
  | kind => instancesUntil (describeDevice host guest) (guest.devices kind)

/-! ### The enumeration -/

/-- `_get_devices`. -/
def getTypedDevices (kind : DevKind) : CmpiStatus × List Instance :=
  let result := deviceInstances host guest kind
  (if result.1 then .ok else .failed "Couldn't get device instances", result.2)

/-- `cim_res_types`. -/
def cimResTypes : List DevKind :=
  [.net, .disk, .mem, .proc, .graphics, .input, .console, .controller]

/-- The types of a selection. -/
def DeviceSelection.kinds : DeviceSelection → List DevKind
  | .all => cimResTypes
  | .only kind => [kind]
  | .unknown => []

/-- `_enum_devices`. For a type that is unknown there are no devices. -/
def enumDevicesOf (type : DeviceSelection) : CmpiStatus × List Instance :=
  let result := gather (getTypedDevices host guest) .ok type.kinds
  (result.status, result.items)

end Instances

/-- `enum_devices`, for all the domains that `get_domain_list` gives. -/
def enumDevices (host : SystemHost) (type : DeviceSelection) (doms : List GuestView) :
    Gathered CmpiStatus Instance :=
  if host.connect = .ok then gather (fun guest => enumDevicesOf host guest type) .ok doms
  else ⟨host.connect, []⟩

/-- What a caller of `enum_devices` returns: nothing, if the status is a failure.
`return_enum_devices` asks for the type of its class, the associations for all types. -/
def reportDevices (host : SystemHost) (type : DeviceSelection) (doms : List GuestView) :
    Gathered CmpiStatus Instance :=
  (enumDevices host type doms).keepIf (· = .ok)

/-! ### What is asked -/

section Spec

variable (host : SystemHost) (guest : GuestView)

/-- One instance for each device of a type that can be described. -/
def describedDevices : DevKind → List Instance
  | .proc => (List.range (procCount (guest.devices .proc))).filterMap (vcpuInst host guest)
  | kind => (guest.devices kind).filterMap (describeDevice host guest)

/-- The branch for a device makes an instance. -/
def DeviceView.makeable : {kind : DevKind} → DeviceView kind → Bool
  | .net, v => v.initialised && v.addresses
  | .controller, v => v.initialised && (controllerProtocolTypeIDToStr v.dev.dev.type).isSome
  | .proc, _ => false
  | _, v => v.initialised

/-- A device can be described. -/
def DeviceView.describable {kind : DevKind} (v : DeviceView kind) : Bool :=
  decide (v.dev.type = kind.resType) && v.makeable

/-- No device of a type that can be described stands behind one that cannot. -/
def Gapless : DevKind → Prop
  | .proc => (List.range (procCount (guest.devices .proc))).Pairwise fun i j =>
      guest.processors j = true → guest.processors i = true
  | kind => (guest.devices kind).Pairwise fun v w => w.describable = true → v.describable = true

/-- The devices of a type can all be described; the processors count as such. -/
def Describable : DevKind → Prop
  | .proc => True
  | kind => ∀ v ∈ guest.devices kind, v.describable = true

end Spec

/-! ### One type of one domain -/

theorem instancesUntil_fst {α : Type} (describe : α → Option Instance) (l : List α) :
    (instancesUntil describe l).1 = true ↔ ∀ a ∈ l, (describe a).isSome = true := by
  induction l with
  | nil => exact iff_of_true rfl fun _ ha => nomatch ha
  | cons a l ih =>
    rw [instancesUntil, List.forall_mem_cons]
    cases describe a with
    | none => exact iff_of_false Bool.false_ne_true fun h => nomatch h.1
    | some inst => exact ih.trans (and_iff_right rfl).symm

theorem instancesUntil_sublist {α : Type} (describe : α → Option Instance) (l : List α) :
    (instancesUntil describe l).2.Sublist (l.filterMap describe) := by
  induction l with
  | nil => exact List.Sublist.refl _
  | cons a l ih =>
    rw [instancesUntil]
    cases hdescribe : describe a with
    | none => exact List.nil_sublist _
    | some inst =>
      rw [List.filterMap_cons_some hdescribe]
      exact ih.cons_cons inst

/-- Nothing is left out if no entry with an instance stands behind one without. -/
theorem instancesUntil_eq_iff {α : Type} (describe : α → Option Instance) (l : List α) :
    (instancesUntil describe l).2 = l.filterMap describe ↔
      l.Pairwise fun a b => (describe b).isSome = true → (describe a).isSome = true := by
  -- on the devices; the first that cannot be described ends the list
  induction l with
  | nil => exact iff_of_true rfl List.Pairwise.nil
  | cons a l ih =>
    rw [instancesUntil, List.pairwise_cons]
    cases hdescribe : describe a with
    | none =>
      -- nothing is listed, so none behind it may be describable
      rw [List.filterMap_cons_none hdescribe, eq_comm, List.filterMap_eq_nil_iff]
      refine ⟨fun h => ⟨fun b hb hsome => ?_, ?_⟩, fun ⟨h, _⟩ b hb => ?_⟩
      · rw [h b hb] at hsome
        exact hsome
      · have hany : l.Pairwise fun _ _ => True := List.pairwise_of_forall fun _ _ => trivial
        refine hany.imp_of_mem fun _ hc _ hsome => ?_
        rw [h _ hc] at hsome
        cases hsome
      · exact Option.not_isSome_iff_eq_none.mp fun hsome => Bool.false_ne_true (h b hb hsome)
    | some inst =>
      -- it is listed, and the rest decides
      rw [List.filterMap_cons_some hdescribe, ← ih]
      dsimp only
      rw [List.cons_inj_right]
      exact (and_iff_right fun _ _ _ => rfl).symm

section OneType

variable {host : SystemHost} {guest : GuestView}

theorem isSome_typedInstance {kind : DevKind} (v : DeviceView kind) :
    (typedInstance host kind v).isSome = v.makeable := by
  rw [Bool.eq_iff_iff]
  cases kind with
  | proc => exact Iff.rfl
  | _ => exact Option.isSome_ite

theorem isSome_describeDevice {kind : DevKind} (v : DeviceView kind) :
    (describeDevice host guest v).isSome = v.describable := by
  rw [describeDevice, DeviceView.describable]
  by_cases htype : v.dev.type = kind.resType
  · rw [if_pos htype, Option.isSome_map, isSome_typedInstance, decide_eq_true htype, Bool.true_and]
  · rw [if_neg htype, decide_eq_false htype, Bool.false_and, Option.isSome_none]

theorem isSome_vcpuInst (number : ℕ) :
    (vcpuInst host guest number).isSome = guest.processors number := by
  rw [vcpuInst]
  cases guest.processors number with
  | true => rfl
  | false => rfl

/-- The status is good if all devices of the type can be described. -/
theorem deviceInstances_fst (host : SystemHost) (kind : DevKind) :
    (deviceInstances host guest kind).1 = true ↔ Describable guest kind := by
  have hloop (kind : DevKind) :
      (instancesUntil (describeDevice host guest) (guest.devices kind)).1 = true ↔
        ∀ v ∈ guest.devices kind, v.describable = true := by
    rw [instancesUntil_fst]
    simp only [isSome_describeDevice]
  cases kind with
  | proc => exact iff_of_true rfl trivial
  | _ => exact hloop _

theorem deviceInstances_sublist (kind : DevKind) :
    (deviceInstances host guest kind).2.Sublist (describedDevices host guest kind) := by
  cases kind with
  | proc => exact instancesUntil_sublist _ _
  | _ => exact instancesUntil_sublist _ _

/-- **The devices of a type are all there** if no device that can be described stands behind one
that cannot. -/
theorem deviceInstances_eq_iff (host : SystemHost) (kind : DevKind) :
    (deviceInstances host guest kind).2 = describedDevices host guest kind ↔
      Gapless guest kind := by
  have hloop (kind : DevKind) :
      (instancesUntil (describeDevice host guest) (guest.devices kind)).2 =
          (guest.devices kind).filterMap (describeDevice host guest) ↔
        (guest.devices kind).Pairwise fun v w => w.describable = true → v.describable = true := by
    rw [instancesUntil_eq_iff]
    simp only [isSome_describeDevice]
  cases kind with
  | proc =>
    refine (instancesUntil_eq_iff _ _).trans ?_
    simp only [isSome_vcpuInst]
    rfl
  | _ => exact hloop _

/-! ### All the types of one domain -/

/-- The type that comes last decides. -/
def DeviceSelection.last : DeviceSelection → Option DevKind
  | .all => some .controller
  | .only kind => some kind
  | .unknown => none

/-- The devices of the last type can all be described. The types are enumerated one after the
other, and each sets the status anew. -/
def EndsWell (type : DeviceSelection) (guest : GuestView) : Prop :=
  ∀ kind, type.last = some kind → Describable guest kind

theorem getTypedDevices_status (kind : DevKind) :
    Describable guest kind ∧ (getTypedDevices host guest kind).1 = .ok ∨
      ¬ Describable guest kind ∧
        (getTypedDevices host guest kind).1 = .failed "Couldn't get device instances" := by
  rw [← deviceInstances_fst host, getTypedDevices]
  cases (deviceInstances host guest kind).1 with
  | true => exact .inl ⟨rfl, rfl⟩
  | false => exact .inr ⟨Bool.false_ne_true, rfl⟩

theorem endsWell_iff {type : DeviceSelection} {kind : DevKind} (h : type.last = some kind) :
    EndsWell type guest ↔ Describable guest kind := by
  rw [EndsWell, h]
  exact ⟨fun hall => hall kind rfl, fun hone _ hkind => Option.some.inj hkind ▸ hone⟩

/-- There are two statuses. -/
theorem enumDevicesOf_status (host : SystemHost) (guest : GuestView) (type : DeviceSelection) :
    EndsWell type guest ∧ (enumDevicesOf host guest type).1 = .ok ∨
      ¬ EndsWell type guest ∧
        (enumDevicesOf host guest type).1 = .failed "Couldn't get device instances" := by
  cases type with
  | all =>
    rw [endsWell_iff rfl]
    exact getTypedDevices_status .controller
  | only kind =>
    rw [endsWell_iff rfl]
    exact getTypedDevices_status kind
  | unknown => exact .inl ⟨fun _ hkind => (nomatch hkind), rfl⟩

theorem enumDevicesOf_ok_iff (host : SystemHost) (type : DeviceSelection) :
    (enumDevicesOf host guest type).1 = .ok ↔ EndsWell type guest := by
  obtain ⟨hends, hstatus⟩ | ⟨hends, hstatus⟩ := enumDevicesOf_status host guest type
  · exact iff_of_true hstatus hends
  · rw [hstatus]
    exact iff_of_false (fun h => nomatch h) hends

theorem enumDevicesOf_status_eq_iff (type : DeviceSelection) (guest' : GuestView) :
    (enumDevicesOf host guest type).1 = (enumDevicesOf host guest' type).1 ↔
      (EndsWell type guest ↔ EndsWell type guest') := by
  rw [← enumDevicesOf_ok_iff host, ← enumDevicesOf_ok_iff host]
  obtain ⟨_, hstatus⟩ | ⟨_, hstatus⟩ := enumDevicesOf_status host guest type <;>
    obtain ⟨_, hstatus'⟩ | ⟨_, hstatus'⟩ := enumDevicesOf_status host guest' type <;>
    rw [hstatus, hstatus'] <;> simp

theorem enumDevicesOf_items (type : DeviceSelection) :
    (enumDevicesOf host guest type).2 =
      type.kinds.flatMap fun kind => (deviceInstances host guest kind).2 := by
  rw [enumDevicesOf, items_gather]
  rfl

/-- What is asked of one domain. -/
def describedDevicesOf (host : SystemHost) (type : DeviceSelection) (guest : GuestView) :
    List Instance :=
  type.kinds.flatMap (describedDevices host guest)

theorem enumDevicesOf_sublist (type : DeviceSelection) :
    (enumDevicesOf host guest type).2.Sublist (describedDevicesOf host type guest) := by
  rw [enumDevicesOf_items, describedDevicesOf]
  exact flatMap_sublist fun kind _ => deviceInstances_sublist kind

theorem enumDevicesOf_eq_iff (type : DeviceSelection) :
    (enumDevicesOf host guest type).2 = describedDevicesOf host type guest ↔
      ∀ kind ∈ type.kinds, Gapless guest kind := by
  rw [enumDevicesOf_items, describedDevicesOf]
  simp only [← deviceInstances_eq_iff host]
  rw [← flatMap_perm_iff fun kind _ => deviceInstances_sublist kind]
  refine ⟨fun h => by rw [h], fun h => ?_⟩
  exact (flatMap_sublist fun kind _ => deviceInstances_sublist kind).eq_of_length h.length_eq

end OneType

/-! ### The devices of a host -/

theorem reportDevices_of_connect {host : SystemHost} (h : host.connect = .ok)
    (type : DeviceSelection) (doms : List GuestView) :
    reportDevices host type doms =
      (gather (fun guest => enumDevicesOf host guest type) .ok doms).keepIf (· = .ok) := by
  rw [reportDevices, enumDevices, if_pos h]

theorem reportDevices_of_not_connect {host : SystemHost} (h : host.connect ≠ .ok)
    (type : DeviceSelection) (doms : List GuestView) :
    reportDevices host type doms = ⟨host.connect, []⟩ := by
  rw [reportDevices, enumDevices, if_neg h, Gathered.keepIf, if_neg h]

/-- **When the devices are enumerated as asked**: in all domains alike, the devices of the last type
can all be described or not, and if they can, no device of any type that can be described stands
behind one that cannot. -/
theorem devices_iff (host : SystemHost) (type : DeviceSelection) (doms : List GuestView) :
    OrderFree (reportDevices host type) doms ∧
        Exact (· = .ok) (describedDevicesOf host type) doms (reportDevices host type doms) ↔
      (host.connect = .ok →
        (∀ a ∈ doms, ∀ b ∈ doms, (EndsWell type a ↔ EndsWell type b)) ∧
        ((∀ a ∈ doms, EndsWell type a) → ∀ a ∈ doms, ∀ kind ∈ type.kinds, Gapless a kind)) := by
  by_cases hconnect : host.connect = .ok
  -- each guest gives the status of its last type and the devices that could be described
  · have heq : reportDevices host type = fun doms =>
        (gather (fun guest => enumDevicesOf host guest type) .ok doms).keepIf (· = .ok) :=
      funext (reportDevices_of_connect hconnect type)
    have hitems : (doms.flatMap fun guest => (enumDevicesOf host guest type).2).Perm
          (doms.flatMap (describedDevicesOf host type)) ↔
        ∀ guest ∈ doms, (enumDevicesOf host guest type).2 = describedDevicesOf host type guest :=
      flatMap_perm_iff fun guest _ => enumDevicesOf_sublist type
    rw [heq, orderFree_and_exact_iff hitems, forall_prop_of_true hconnect]
    simp only [enumDevicesOf_status_eq_iff, enumDevicesOf_ok_iff, enumDevicesOf_eq_iff]
  -- without a connection nothing is enumerated, whatever the order
  · refine iff_of_true ⟨fun doms' _ => ?_, fun hok => ?_⟩ fun h => absurd h hconnect
    · rw [reportDevices_of_not_connect hconnect, reportDevices_of_not_connect hconnect]
      exact ⟨rfl, List.Perm.refl []⟩
    · rw [reportDevices_of_not_connect hconnect] at hok
      exact absurd hok hconnect

end LibvirtCim.Enumeration
