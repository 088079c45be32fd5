import LibvirtCim.Device.Document
import LibvirtCim.Rasd.ConsoleReadBack
import LibvirtCim.Rasd.History

/-!
# A setting that is sent back

A client reads the setting of a device and sends it back unchanged: `rasd_from_vdev` and
`rasd_to_vdev` in a row, with the device itself as the one to modify, as `resource_mod` does.
`Unmodified` says that this succeeds and that the device is written to the document as before.

The two translators agree on memory, input devices and the fields of a disk; elsewhere there is
an exact condition for each device type. What a setting never carries (the mount point of a
container, the filter of an interface) is lost, and what it carries in another form (the kind of
a file, the pool of a network, the address of a display) has to be found again on the way back.
-/

open Framework LibvirtCim.Device

namespace LibvirtCim.Rasd

/-- Two devices of a type that are written alike. Memory and processors are no elements of their
own: the document has their values. -/
def SameXml (domtype : DomainType) : (kind : DevKind) → kind.Dev → kind.Dev → Prop
  | .mem, dev, dev' => dev' = dev
  | .proc, dev, dev' => dev'.quantity = dev.quantity ∧ dev'.weight = dev.weight
  | kind, dev, dev' => deviceXml domtype kind dev' = deviceXml domtype kind dev

/-- **The setting of a device, sent back for it**, is accepted, and the device is written as
before. -/
def Unmodified (info : DomainInfo) (host : Host) (domtype : DomainType) (pfx name : String)
    (kind : DevKind) (dev : VirtDevice kind.Dev) : Prop :=
  ∃ inst dev', rasdFromVdev info pfx name kind dev = some inst ∧
    rasdToVdev host domtype inst kind dev = .ok dev' ∧ SameXml domtype kind dev.dev dev'.dev

/-- What is known to be read. -/
theorem exists_ok_iff {α ε : Type} {a : α} {P : α → Prop} :
    (∃ a', (Except.ok a : Except ε α) = .ok a' ∧ P a') ↔ P a := by
  constructor
  · rintro ⟨a', heq, ha'⟩
    rwa [Except.ok.inj heq]
  · intro h
    exact ⟨a, rfl, h⟩

/-- What is refused is not read. -/
theorem not_exists_ok {α ε : Type} {e : ε} {P : α → Prop} :
    ¬ ∃ a', (Except.error e : Except ε α) = .ok a' ∧ P a' := by
  rintro ⟨a', heq, -⟩
  cases heq

/-- The type of the device is set again, which is not written. -/
theorem unmodified_iff {info : DomainInfo} {host : Host} {domtype : DomainType} {pfx name : String}
    {kind : DevKind} {dev : VirtDevice kind.Dev} {inst : Instance}
    (h : rasdFromVdev info pfx name kind dev = some inst) :
    Unmodified info host domtype pfx name kind dev ↔
      ∃ dev', (if domtype = .lxc then containerRasdToVdev host inst kind dev
        else sysvirtRasdToVdev host inst kind dev) = .ok dev' ∧
        SameXml domtype kind dev.dev dev'.dev := by
  unfold Unmodified
  rw [h]
  -- the type of the device is set last, and is not in the XML
  constructor
  · rintro ⟨inst', dev', hinst, hread, hsame⟩
    obtain rfl := Option.some.inj hinst
    obtain ⟨set, hset, rfl⟩ := rasdToVdev_ok hread
    exact ⟨set, hset, hsame⟩
  -- back: the reading is the same before the type is set
  · rintro ⟨set, hset, hsame⟩
    refine ⟨inst, { set with type := kind.resType }, rfl, ?_, hsame⟩
    unfold rasdToVdev
    split_ifs at hset ⊢
    · rw [hset]
      rfl
    · rw [hset]
      rfl

/-! ### Properties that are set and found -/

section Properties

variable {inst : Instance}

/-- What all settings start with. -/
def settingBase (pfx name : String) (kind : DevKind) (id : Option String) : Instance :=
  (({ pfx, base := baseOfKind kind } : Instance).set "InstanceID"
    (.string (name ++ "/" ++ formatStr id))).set "ResourceType" (.uint16 (resourceType kind))

theorem rasdFromVdev_eq (info : DomainInfo) (pfx name : String) {kind : DevKind}
    {dev : VirtDevice kind.Dev} (h : dev.type = kind.resType) :
    rasdFromVdev info pfx name kind dev =
      some (setRasdParams info kind dev.dev (settingBase pfx name kind dev.id)) :=
  if_pos h

/-- Nothing else is set at the start. -/
theorem get_settingBase {pfx name : String} {kind : DevKind} {id : Option String} {prop : String}
    (hid : prop ≠ "InstanceID") (htype : prop ≠ "ResourceType") :
    (settingBase pfx name kind id).get prop = none := by
  unfold settingBase
  rw [Instance.get_set, if_neg htype, Instance.get_set, if_neg hid]
  rfl

/-- An address is none of the other properties. -/
theorem get_setRasdDeviceAddress (addr : DeviceAddress) {prop : String}
    (hkeys : prop ≠ "AddressProperties") (hvalues : prop ≠ "AddressValues") :
    (setRasdDeviceAddress addr inst).get prop = inst.get prop := by
  unfold setRasdDeviceAddress
  split_ifs
  · rfl
  · rw [Instance.get_set, if_neg hvalues, Instance.get_set, if_neg hkeys]

/-- **The address that is read is the one that was written**, behind the one that is there. -/
theorem rasdToDeviceAddress_set (h : inst.get "AddressProperties" = none)
    (addr old : DeviceAddress) :
    rasdToDeviceAddress (setRasdDeviceAddress addr inst) old = .ok (old ++ addr) := by
  unfold setRasdDeviceAddress
  split_ifs with hempty
  · rw [hempty, List.append_nil]
    unfold rasdToDeviceAddress Instance.getArray
    rw [h]
  · simp [rasdToDeviceAddress, Instance.getArray, addAddressProperties_some]

theorem getStr_of_get {prop : String} {value : Option String}
    (h : inst.get prop = value.map CmpiValue.string) : inst.getStr prop = value := by
  unfold Instance.getStr
  rw [h]
  cases value <;> rfl

/-- A flag is set only when it holds. -/
theorem getBool_of_get {prop : String} {flag : Bool}
    (h : inst.get prop = if flag then some (.boolean flag) else none) :
    (inst.getBool prop).getD false = flag := by
  unfold Instance.getBool
  rw [h]
  cases flag <;> rfl

end Properties

/-! ### Elements that are compared -/

theorem optChild_inj {name key : String} {value value' : Option String}
    (h : optChild name key value = optChild name key value') : value = value' := by
  cases value <;> cases value' <;> simp [optChild] at h ⊢
  exact h

/-! ### Memory and input devices -/

/-- The units that are written are those that are read. -/
theorem mem_unmodified (info : DomainInfo) (host : Host) (domtype : DomainType) (pfx name : String)
    {dev : VirtDevice MemDevice} (h : dev.type = .mem) :
    Unmodified info host domtype pfx name .mem dev := by
  rw [unmodified_iff (rasdFromVdev_eq info pfx name h)]
  have hread : memRasdToVdev (setMemRasdParams dev.dev (settingBase pfx name .mem dev.id)) dev =
      .ok dev := by
    obtain ⟨type, ⟨size, maxsize, dumpCore⟩, id⟩ := dev
    cases dumpCore <;>
      simp [memRasdToVdev, Instance.getU64, Instance.getBool, Instance.getStr, setMemRasdParams,
        get_settingBase, memShift, streqc]
  refine ⟨dev, ?_, rfl⟩
  split
  · exact hread
  · exact hread

theorem input_unmodified (info : DomainInfo) (host : Host) (domtype : DomainType)
    (pfx name : String) {node : Node} {dev : VirtDevice InputDevice}
    (h : parseInputDevice node = .ok dev) : Unmodified info host domtype pfx name .input dev := by
  obtain ⟨hkind, type, bus, hdev, -⟩ := parseInputDevice_ok h
  rw [unmodified_iff (rasdFromVdev_eq info pfx name hkind)]
  -- the two properties that are read are the ones that were written
  have htype : (setInputRasdParams dev.dev (settingBase pfx name .input dev.id)).getStr
      "ResourceSubType" = some type := by
    refine getStr_of_get ?_
    simp [setInputRasdParams, hdev]
  have hbus : (setInputRasdParams dev.dev (settingBase pfx name .input dev.id)).getStr "BusType" =
      some bus := by
    refine getStr_of_get ?_
    simp [setInputRasdParams, hdev]
  have hread : inputRasdToVdev
      (setInputRasdParams dev.dev (settingBase pfx name .input dev.id)) dev =
      dev := by
    unfold inputRasdToVdev
    rw [htype, hbus]
    dsimp only
    rw [← hdev]
  -- both kinds of guest read the device by the same function
  refine ⟨dev, ?_, rfl⟩
  split
  · exact congrArg Except.ok hread
  · exact congrArg Except.ok hread

/-! ### Controllers -/

/-- The name of a type is read as the type. -/
theorem controllerProtocolTypeStrToID_IDToStr {type : ControllerType} {name : String}
    (h : controllerProtocolTypeIDToStr type = some name) :
    controllerProtocolTypeStrToID name = type := by
  revert h
  cases type <;> intro h <;> cases h <;> decide

/-- The controller with the address of its setting behind its own. -/
def addressedTwice (dev : VirtDevice ControllerDevice) (typeName : String) :
    VirtDevice ControllerDevice :=
  { dev with
    dev := { dev.dev with address := dev.dev.address ++ dev.dev.address }
    id := some ("controller:" ++ typeName ++ ":" ++ toString dev.dev.index.toNat) }

/-- Every property of the setting is read as it was set. The address is the exception:
`rasd_to_device_address` adds to the list that the device already has. -/
theorem controllerRasdToVdev_set (info : DomainInfo) (pfx name : String)
    {dev : VirtDevice ControllerDevice} {typeName : String}
    (htypeName : controllerProtocolTypeIDToStr dev.dev.type = some typeName) :
    controllerRasdToVdev (setRasdParams info .controller dev.dev
      (settingBase pfx name .controller dev.id)) dev = .ok (addressedTwice dev typeName) := by
  have hinst : setRasdParams info .controller dev.dev (settingBase pfx name .controller dev.id) =
      setRasdDeviceAddress dev.dev.address (((((((settingBase pfx name .controller dev.id).set
        "OtherResourceType" (.string "controller")).set "ResourceSubType" (.string typeName)).set
        "Index" (.uint64 dev.dev.index)).setChars "Model" dev.dev.model).setChars "Ports"
        dev.dev.ports).setChars "Vectors" dev.dev.vectors |>.setChars "Queues" dev.dev.queues) := by
    change setControllerRasdParams dev.dev _ = _
    unfold setControllerRasdParams
    rw [htypeName]
  -- a property holds the string it was set to
  have hstr (prop : String) (value : Option String)
      (h : (setRasdParams info .controller dev.dev (settingBase pfx name .controller dev.id)).get
        prop = value.map CmpiValue.string) := getStr_of_get h
  have hindex : (setRasdParams info .controller dev.dev
      (settingBase pfx name .controller dev.id)).getU64 "Index" = some dev.dev.index := by
    rw [hinst]
    simp [Instance.getU64, get_setRasdDeviceAddress]
  -- the address is added to the one the device had, so it is there twice
  have haddress : rasdToDeviceAddress (setRasdParams info .controller dev.dev
      (settingBase pfx name .controller dev.id)) dev.dev.address =
      .ok (dev.dev.address ++ dev.dev.address) := by
    rw [hinst, rasdToDeviceAddress_set]
    simp [get_settingBase]
  unfold controllerRasdToVdev
  rw [hstr "ResourceSubType" (some typeName), hstr "Model" dev.dev.model,
    hstr "Ports" dev.dev.ports, hstr "Vectors" dev.dev.vectors, hstr "Queues" dev.dev.queues,
    hindex, haddress]
  · dsimp only [bind, Except.bind]
    rw [controllerProtocolTypeStrToID_IDToStr htypeName]
    simp [addressedTwice]
  -- the strings are set above the base and below the address, which is neither of them
  all_goals
    rw [hinst]
    simp [get_setRasdDeviceAddress, get_settingBase]

/-- A parsed controller has a type with a name. -/
theorem typeName_of_parseControllerDevice {node : Node} {dev : VirtDevice ControllerDevice}
    (h : parseControllerDevice node = .ok dev) :
    ∃ typeName, controllerProtocolTypeIDToStr dev.dev.type = some typeName := by
  obtain ⟨-, typeStr, htype, hknown, -⟩ := parseControllerDevice_ok h
  obtain ⟨typeName, htypeName, -⟩ :=
    controllerProtocolTypeIDToStr_StrToID (by rw [← htype]; exact hknown)
  rw [← htype] at htypeName
  exact ⟨typeName, htypeName⟩

/-- Another address is another element. -/
theorem controllerXmlOf_address_iff {dev : ControllerDevice} {typeName : String}
    (htypeName : controllerProtocolTypeIDToStr dev.type = some typeName) (addr : DeviceAddress) :
    controllerXmlOf { dev with address := addr } = controllerXmlOf dev ↔ addr = dev.address := by
  unfold controllerXmlOf
  dsimp only
  rw [htypeName]
  simp only [Except.ok.injEq, List.cons.injEq, Node.elem.injEq, and_true, true_and,
    List.append_cancel_left_eq]
  unfold deviceAddressXml
  -- an empty address is no element at all
  by_cases hold : dev.address = []
  · by_cases hnew : addr = [] <;> simp [hold, hnew]
  · by_cases hnew : addr = []
    · simp [hold, hnew, eq_comm]
    · simp [hold, hnew]

/-- Containers and the other guests read a controller with the same function. -/
theorem sysvirtOrContainer_controller (info : DomainInfo) (host : Host) (domtype : DomainType)
    (pfx name : String) {dev : VirtDevice ControllerDevice} {typeName : String}
    (htypeName : controllerProtocolTypeIDToStr dev.dev.type = some typeName) :
    (if domtype = .lxc then containerRasdToVdev host (setRasdParams info .controller
      dev.dev (settingBase pfx name .controller dev.id)) .controller dev
      else sysvirtRasdToVdev host (setRasdParams info .controller dev.dev
        (settingBase pfx name .controller dev.id)) .controller dev) =
      .ok (addressedTwice dev typeName) := by
  split
  · exact controllerRasdToVdev_set info pfx name htypeName
  · exact controllerRasdToVdev_set info pfx name htypeName

/-- The document keeps a controller without an address: nothing is added to it. -/
theorem controller_unmodified_iff (info : DomainInfo) (host : Host) (domtype : DomainType)
    (pfx name : String) {node : Node} {dev : VirtDevice ControllerDevice}
    (h : parseControllerDevice node = .ok dev) :
    Unmodified info host domtype pfx name .controller dev ↔ dev.dev.address = [] := by
  obtain ⟨typeName, htypeName⟩ := typeName_of_parseControllerDevice h
  rw [unmodified_iff (rasdFromVdev_eq info pfx name (parseControllerDevice_ok h).1),
    sysvirtOrContainer_controller info host domtype pfx name htypeName, exists_ok_iff]
  refine (controllerXmlOf_address_iff htypeName _).trans ?_
  rw [eq_comm, List.self_eq_append_right]

/-- **A controller that is sent back**, of whatever guest and at whatever address, is accepted,
and the device that is made has the address twice. So the document is as before exactly for a
controller without one. The first part is `controllerRasdToVdev_set`, which goes through all
properties of the setting; the second compares the two elements. -/
theorem controller_sentBack (info : DomainInfo) (host : Host) (domtype : DomainType)
    (pfx name : String) {node : Node} {dev : VirtDevice ControllerDevice}
    (h : parseControllerDevice node = .ok dev) :
    (∃ inst dev', rasdFromVdev info pfx name .controller dev = some inst ∧
        rasdToVdev host domtype inst .controller dev = .ok dev' ∧
        dev'.dev = { dev.dev with address := dev.dev.address ++ dev.dev.address }) ∧
      (Unmodified info host domtype pfx name .controller dev ↔ dev.dev.address = []) := by
  refine ⟨?_, controller_unmodified_iff info host domtype pfx name h⟩
  -- the type of the controller has a name, as it was parsed
  obtain ⟨typeName, htypeName⟩ := typeName_of_parseControllerDevice h
  have hread := sysvirtOrContainer_controller info host domtype pfx name htypeName
  refine ⟨_, { addressedTwice dev typeName with type := .controller },
    rasdFromVdev_eq info pfx name (parseControllerDevice_ok h).1, ?_, rfl⟩
  -- the guest's type only decides which function reads the setting
  unfold rasdToVdev
  split_ifs at hread ⊢
  · rw [hread]
    rfl
  · rw [hread]
    rfl

/-- A guest about which nothing is known. -/
def quietInfo : DomainInfo where
  volSize _ := 0
  volPool _ := none
  connect := false
  lookup := false
  online := false
  vcpuCount := none
  infostore := false
  qemu := false
  schedParams := none
  weight := 0
  limit := 0

/-- A controller at an address of its own. -/
def pciController : Node :=
  .elem "controller" [("type", "usb"), ("index", "1"), ("model", "piix3-uhci")]
    [.elem "address" [("type", "pci"), ("slot", "0x01")] []]

/-- The controller of this element is accepted, with both keys of the address twice. -/
theorem controller_sentBack_pci :
    ∃ inst dev', rasdFromVdev quietInfo "KVM" "guest" .controller
        { type := .controller
          dev := { type := .usb, index := 1, model := some "piix3-uhci"
                   address := [("type", "pci"), ("slot", "0x01")] }
          id := some "controller:usb:1" } = some inst ∧
      rasdToVdev quietHost .kvm inst .controller
        { type := .controller
          dev := { type := .usb, index := 1, model := some "piix3-uhci"
                   address := [("type", "pci"), ("slot", "0x01")] }
          id := some "controller:usb:1" } = .ok dev' ∧
      dev'.dev.address =
        [("type", "pci"), ("slot", "0x01"), ("type", "pci"), ("slot", "0x01")] := by
  -- the element is parsed to the device the two ends speak of
  have h : parseControllerDevice pciController = .ok
      { type := .controller
        dev := { type := .usb, index := 1, model := some "piix3-uhci"
                 address := [("type", "pci"), ("slot", "0x01")] }
        id := some "controller:usb:1" } := by
    decide +kernel
  obtain ⟨⟨inst, dev', hinst, hread, haddress⟩, -⟩ :=
    controller_sentBack quietInfo quietHost .kvm "KVM" "guest" h
  exact ⟨inst, dev', hinst, hread, by rw [haddress]; rfl⟩

/-! ### Processors -/

section Proc

variable {info : DomainInfo} {dev : VcpuDevice}

/-- The number of processors a setting has: of a running domain that of libvirt. -/
def procCount (info : DomainInfo) (dev : VcpuDevice) : Option UInt64 :=
  if info.connect ∧ info.lookup then
    if info.online then info.vcpuCount else some dev.quantity
  else none

/-- The weight and the limit a setting has. -/
def procShares (info : DomainInfo) (dev : VcpuDevice) : Option UInt32 :=
  if (procCount info dev).isSome ∧ info.infostore then procWeight info else none

/-- The weight of a setting without one. -/
def defaultWeight (pfx : String) : UInt32 :=
  if startsWith (pfx ++ "_" ++ "ProcResourceAllocationSettingData") "Xen" then 1024
  else if startsWith (pfx ++ "_" ++ "ProcResourceAllocationSettingData") "QEMU" then 1024
  else 0

/-- **The properties of processors.** -/
theorem get_setProcRasdParams (info : DomainInfo) (dev : VcpuDevice) (pfx name : String)
    (id : Option String) :
    (setProcRasdParams info dev (settingBase pfx name .proc id)).getU64 "VirtualQuantity" =
        (procCount info dev).filter (· ≠ 0) ∧
      (setProcRasdParams info dev (settingBase pfx name .proc id)).getU32 "Weight" =
        procShares info dev ∧
      (setProcRasdParams info dev (settingBase pfx name .proc id)).getU64 "Limit" =
        (procShares info dev).map fun _ => info.limit := by
  unfold setProcRasdParams procShares procCount
  -- without libvirt's answer none of the three properties is set
  by_cases hreached : info.connect ∧ info.lookup
  · rw [if_pos hreached, if_pos hreached]
    -- the count is libvirt's own where the guest is online
    generalize (if info.online then info.vcpuCount else some dev.quantity) = count
    cases count with
    | none => simp [Instance.getU64, Instance.getU32, get_settingBase]
    | some count =>
      dsimp only
      -- the weight is that of the store, where there is one
      by_cases hstore : info.infostore
      · rw [if_pos hstore]
        cases procWeight info with
        | none => by_cases hzero : count = 0 <;>
            simp [Instance.getU64, Instance.getU32, get_settingBase, hzero, hstore, Option.filter]
        | some weight => by_cases hzero : count = 0 <;>
            simp [Instance.getU64, Instance.getU32, get_settingBase, hzero, hstore, Option.filter]
      · rw [if_neg hstore]
        by_cases hzero : count = 0 <;>
          simp [Instance.getU64, Instance.getU32, get_settingBase, hzero, hstore, Option.filter]
  · rw [if_neg hreached, if_neg hreached]
    simp [Instance.getU64, Instance.getU32, get_settingBase]

/-- The class of the setting is kept. -/
theorem classname_setProcRasdParams (info : DomainInfo) (dev : VcpuDevice) (inst : Instance) :
    (setProcRasdParams info dev inst).classname = inst.classname := by
  -- a property that is set leaves the class as it is
  have hif (i : Instance) (cond : Bool) (prop : String) (value : CmpiValue) :
      (i.setIf cond prop value).classname = i.classname := by
    cases cond <;> rfl
  unfold setProcRasdParams
  split
  · split
    · rfl
    · dsimp only
      split
      · split
        · exact hif _ _ _ _
        · exact hif _ _ _ _
      · exact hif _ _ _ _
  · rfl

/-- **Processors that are sent back**: the number is known, and the weight, which no parser reads,
is zero. The setting has the number of the running guest and the weight of the store, or a
default; a container refuses the number that every setting has. -/
theorem proc_unmodified_iff (info : DomainInfo) (host : Host) (domtype : DomainType)
    (pfx name : String) {node : Node} {dev : VirtDevice VcpuDevice}
    (h : parseVcpuDevice node = .ok dev) :
    Unmodified info host domtype pfx name .proc dev ↔ domtype ≠ .lxc ∧
      procCount info dev.dev = some dev.dev.quantity ∧ dev.dev.quantity ≠ 0 ∧
      (procShares info dev.dev).getD (defaultWeight pfx) = 0 := by
  obtain ⟨hcount, hweight, hlimit⟩ := get_setProcRasdParams info dev.dev pfx name dev.id
  have hkind : dev.type = .proc := by
    -- what was parsed has a type, and no weight
    cases h
    rfl
  have hnone : dev.dev.weight = 0 := by
    cases h
    rfl
  rw [unmodified_iff (rasdFromVdev_eq info pfx name hkind)]
  -- a container's setting is read by a function that insists on a weight
  by_cases hlxc : domtype = .lxc
  · rw [if_pos hlxc]
    refine iff_of_false ?_ fun h => h.1 hlxc
    rintro ⟨dev', hread, -, hsame⟩
    change lxcProcRasdToVdev
      (setProcRasdParams info dev.dev (settingBase pfx name .proc dev.id)) dev =
      .ok dev' at hread
    unfold lxcProcRasdToVdev at hread
    rw [hcount, hlimit, hweight] at hread
    split_ifs at hread with hquantity hlimited
    -- without a limit there is no weight either
    have hshares : procShares info dev.dev = none := by simpa using hlimited
    rw [hshares] at hread
    cases hread
    have hsame : (1024 : UInt32) = dev.dev.weight := hsame
    rw [hnone] at hsame
    exact absurd hsame (by decide)
  -- a machine's setting needs a count, and takes the default for a weight
  · rw [if_neg hlxc, and_iff_right hlxc]
    change (∃ dev', procRasdToVdev (setProcRasdParams info dev.dev
      (settingBase pfx name .proc dev.id)) dev = .ok dev' ∧ _) ↔ _
    have hclass : (setProcRasdParams info dev.dev (settingBase pfx name .proc dev.id)).classname =
        pfx ++ "_" ++ "ProcResourceAllocationSettingData" := by
      rw [classname_setProcRasdParams]
      rfl
    unfold procRasdToVdev
    rw [hcount, hweight, hclass]
    -- a count of zero is written as no property, and is then missed
    cases hknown : (procCount info dev.dev).filter (· ≠ 0) with
    | none =>
      refine iff_of_false not_exists_ok ?_
      rintro ⟨hquantity, hzero, -⟩
      rw [hquantity] at hknown
      simp [hzero] at hknown
    | some count =>
      obtain ⟨hfound, hzero⟩ := Option.filter_eq_some_iff.mp hknown
      have hcount : procCount info dev.dev = some dev.dev.quantity ∧ dev.dev.quantity ≠ 0 ↔
          count = dev.dev.quantity := by
        rw [hfound, Option.some.injEq]
        refine ⟨And.left, fun heq => ⟨heq, ?_⟩⟩
        rw [← heq]
        exact of_decide_eq_true hzero
      -- of the XML only count and weight depend on the setting
      rw [exists_ok_iff, ← and_assoc, hcount]
      change count = dev.dev.quantity ∧ (procShares info dev.dev).getD (defaultWeight pfx) =
        dev.dev.weight ↔ _
      rw [hnone]

/-- Two processors of a domain that does not run. -/
theorem proc_unmodified_two :
    Unmodified { quietInfo with connect := true, lookup := true } quietHost .kvm "KVM" "guest" .proc
      { type := .proc, dev := { quantity := 2 }, id := some "proc" } := by
  have h : parseVcpuDevice (.elem "vcpu" [] [.text "2"]) =
      .ok { type := .proc, dev := { quantity := 2 }, id := some "proc" } := by
    decide +kernel
  exact (proc_unmodified_iff { quietInfo with connect := true, lookup := true } quietHost .kvm "KVM"
    "guest" h).mpr ⟨by decide, rfl, by decide, by decide⟩

end Proc

end LibvirtCim.Rasd
