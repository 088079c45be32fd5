import LibvirtCim.Device.Hotplug

/-!
# Duplicates of devices

`virt_device_dup` field by field, for a device of any type. A string that is null stays null in
the duplicate, whose fields are cleared; the id is handed to `strdup`, which wants a string.

`deepCopied_iff` says when the duplicate is the device: of a processor only the quantity is
copied.
-/

namespace LibvirtCim.Device

/-! ### The copy -/

/-- `DUP_FIELD`: a string that is there is copied over the field. -/
def dupField (t s : Option String) : Option String :=
  match s with
  | none => t
  | some s => some s

/-- `duplicate_device_address`. -/
def duplicateDeviceAddress (t s : DeviceAddress) : DeviceAddress :=
  if s.length = 0 then t else s.map fun (key, value) => (key, value)

/-- The device that is copied to is fresh from `calloc`. -/
theorem dupField_none (s : Option String) : dupField none s = s := by
  cases s <;> rfl

theorem duplicateDeviceAddress_nil (s : DeviceAddress) : duplicateDeviceAddress [] s = s := by
  unfold duplicateDeviceAddress
  split
  · next h => exact (List.eq_nil_of_length_eq_zero h).symm
  · exact List.map_id s

/-- The fields of an interface. -/
def dupNet (s : NetDevice) : NetDevice :=
  let t : NetDevice := {}
  { mac := dupField t.mac s.mac
    type := dupField t.type s.type
    source := dupField t.source s.source
    model := dupField t.model s.model
    poolid := dupField t.poolid s.poolid
    device := dupField t.device s.device
    netMode := dupField t.netMode s.netMode
    filterRef := dupField t.filterRef s.filterRef
    vsi :=
      { vsiType := dupField t.vsi.vsiType s.vsi.vsiType
        managerId := dupField t.vsi.managerId s.vsi.managerId
        typeId := dupField t.vsi.typeId s.vsi.typeId
        typeIdVersion := dupField t.vsi.typeIdVersion s.vsi.typeIdVersion
        instanceId := dupField t.vsi.instanceId s.vsi.instanceId
        filterRef := dupField t.vsi.filterRef s.vsi.filterRef
        profileId := dupField t.vsi.profileId s.vsi.profileId }
    reservation := s.reservation
    limit := s.limit
    address := duplicateDeviceAddress t.address s.address }

/-- The fields of a disk. -/
def dupDisk (s : DiskDevice) : DiskDevice :=
  let t : DiskDevice := {}
  { type := dupField t.type s.type
    device := dupField t.device s.device
    driver := dupField t.driver s.driver
    driverType := dupField t.driverType s.driverType
    rawio := dupField t.rawio s.rawio
    sgio := dupField t.sgio s.sgio
    cache := dupField t.cache s.cache
    source := dupField t.source s.source
    virtualDev := dupField t.virtualDev s.virtualDev
    busType := dupField t.busType s.busType
    accessMode := dupField t.accessMode s.accessMode
    diskType := s.diskType
    readonly := s.readonly
    shareable := s.shareable
    address := duplicateDeviceAddress t.address s.address }

/-- The fields of a graphics device, which are copied as those of `vnc`. -/
def dupGraphics (s : GraphicsDevice) : GraphicsDevice :=
  let t : GraphicsDevice := {}
  { type := dupField t.type s.type
    host := dupField t.host s.host
    port := dupField t.port s.port
    keymap := dupField t.keymap s.keymap
    passwd := dupField t.passwd s.passwd }

/-- The fields of a controller. -/
def dupController (s : ControllerDevice) : ControllerDevice :=
  let t : ControllerDevice := {}
  { type := s.type
    index := s.index
    model := dupField t.model s.model
    ports := dupField t.ports s.ports
    vectors := dupField t.vectors s.vectors
    queues := dupField t.queues s.queues
    address := duplicateDeviceAddress t.address s.address }

/-- A device with the member of the union that its type uses; a type without one is a number. -/
inductive Member
  | dev (kind : DevKind) (dev : kind.Dev)
  | emu (emu : EmuDevice)
  | other (type : UInt16)

/-- The member of the duplicate. -/
def dupMember : Member → Member
  | .dev .net s => .dev .net (dupNet s)
  | .dev .disk s => .dev .disk (dupDisk s)
  | .dev .mem s => .dev .mem { size := s.size, maxsize := s.maxsize, dumpCore := s.dumpCore }
  | .dev .proc s => .dev .proc { quantity := s.quantity }
  | .emu s => .emu { path := dupField none s.path }
  | .dev .graphics s => .dev .graphics (dupGraphics s)
  | .dev .input s => .dev .input { type := dupField none s.type, bus := dupField none s.bus }
  | .dev .console s => .dev .console (consoleDeviceDup s)
  | .dev .controller s => .dev .controller (dupController s)
  | .other type => .other type

/-- `struct virt_device`, of any type. -/
structure AnyDevice where
  member : Member
  id : Option String

/-- `virt_device_dup`, of any type. -/
def dupAny (d : AnyDevice) : Except Stop AnyDevice :=
  match d.id with
  | none => .error .fault
  | some id => .ok { member := dupMember d.member, id := some id }

/-- **The fields that are copied** are those of `dupFields`. -/
theorem dupMember_dev (kind : DevKind) (dev : kind.Dev) :
    dupMember (.dev kind dev) = .dev kind (dupFields kind dev) := by
  cases kind with
  | mem | proc | console => rfl
  | net =>
    simp only [dupMember, dupNet, dupFields, dupField_none, duplicateDeviceAddress_nil]
  | disk =>
    simp only [dupMember, dupDisk, dupFields, dupField_none, duplicateDeviceAddress_nil]
  | graphics => simp only [dupMember, dupGraphics, dupFields, dupField_none]
  | input => simp only [dupMember, dupFields, dupField_none]
  | controller =>
    simp only [dupMember, dupController, dupFields, dupField_none, duplicateDeviceAddress_nil]

/-! ### The same device -/

/-- The fields of a source that its type uses are the same. -/
def SameSource : ChardevSourceType → SourceDev → SourceDev → Prop
  | .pty, s, s' | .dev, s, s' | .file, s, s' | .pipe, s, s' => s.path = s'.path
  | .unixsock, s, s' => s.path = s'.path ∧ s.unixsockMode = s'.unixsockMode
  | .udp, s, s' => s.udpBindHost = s'.udpBindHost ∧ s.udpBindService = s'.udpBindService ∧
      s.udpConnectHost = s'.udpConnectHost ∧ s.udpConnectService = s'.udpConnectService
  | .tcp, s, s' => s.tcpMode = s'.tcpMode ∧ s.tcpProtocol = s'.tcpProtocol ∧
      s.tcpHost = s'.tcpHost ∧ s.tcpService = s'.tcpService
  | .null, _, _ | .vc, _, _ | .stdio, _, _ | .spicevmc, _, _ => True

/-- The fields of a graphics device that its type uses are the same. -/
def SameGraphics (gdev gdev' : GraphicsDevice) : Prop :=
  gdev.type = gdev'.type ∧
    if gdev'.type.any fun type => streqc type "sdl" then
      gdev.display = gdev'.display ∧ gdev.xauth = gdev'.xauth ∧ gdev.fullscreen = gdev'.fullscreen
    else
      gdev.port = gdev'.port ∧ gdev.host = gdev'.host ∧ gdev.keymap = gdev'.keymap ∧
        gdev.passwd = gdev'.passwd

/-- The fields of the type are the same. -/
def SameFields : (kind : DevKind) → kind.Dev → kind.Dev → Prop
  | .console, cdev, cdev' => cdev.sourceType = cdev'.sourceType ∧
      cdev.targetType = cdev'.targetType ∧
      SameSource cdev'.sourceType cdev.sourceDev cdev'.sourceDev
  | .graphics, gdev, gdev' => SameGraphics gdev gdev'
  | .net, dev, dev' => dev = dev'
  | .disk, dev, dev' => dev = dev'
  | .mem, dev, dev' => dev = dev'
  | .proc, dev, dev' => dev = dev'
  | .input, dev, dev' => dev = dev'
  | .controller, dev, dev' => dev = dev'

/-- The devices are of one type, with the same fields. -/
inductive SameMember : Member → Member → Prop
  | dev {kind : DevKind} {dev dev' : kind.Dev} (same : SameFields kind dev dev') :
      SameMember (.dev kind dev) (.dev kind dev')
  | emu (emu : EmuDevice) : SameMember (.emu emu) (.emu emu)
  | other (type : UInt16) : SameMember (.other type) (.other type)

/-- The elements of a device, for the types that `device_to_xml` has a generator for. -/
def Member.xml (t : DomainType) : Member → Option (Except String (List Framework.Node))
  | .dev kind d => some (deviceXml t kind d)
  | .emu _ | .other _ => none

/-- **A deep copy**: the device can be duplicated, the duplicate has the same fields, and is
written alike. -/
structure DeepCopied (d : AnyDevice) : Prop where
  same : ∃ d', dupAny d = .ok d' ∧ d'.id = d.id ∧ SameMember d'.member d.member
  written : ∀ d', dupAny d = .ok d' → ∀ t, d'.member.xml t = d.member.xml t

/-- The fields that are copied are the same, but for a processor. -/
theorem sameFields_dupFields (kind : DevKind) (hproc : kind ≠ .proc) (dev : kind.Dev) :
    SameFields kind (dupFields kind dev) dev := by
  -- the copy takes the fields of the member of the union that the type has
  cases kind with
  | proc => exact absurd rfl hproc
  | net | disk | mem | input | controller => rfl
  -- of a display either the address or the SDL fields are copied
  | graphics =>
    refine ⟨rfl, ?_⟩
    split
    · exact ⟨rfl, rfl, rfl⟩
    · exact ⟨rfl, rfl, rfl, rfl⟩
  -- of a console those of its kind of source
  | console =>
    obtain ⟨sourceType, source, targetType⟩ := dev
    refine ⟨rfl, rfl, ?_⟩
    cases sourceType with
    | pty | dev | file | pipe => rfl
    | unixsock => exact ⟨rfl, rfl⟩
    | udp | tcp => exact ⟨rfl, rfl, rfl, rfl⟩
    | null | vc | stdio | spicevmc => trivial

/-- Nothing but the quantity of a processor is copied. -/
theorem sameFields_dupFields_proc_iff (vcpu : VcpuDevice) :
    SameFields .proc (dupFields .proc vcpu) vcpu ↔ vcpu.weight = 0 ∧ vcpu.limit = 0 := by
  obtain ⟨quantity, weight, limit⟩ := vcpu
  show ({ quantity } : VcpuDevice) = _ ↔ _
  rw [VcpuDevice.mk.injEq]
  exact ⟨fun h => ⟨h.2.1.symm, h.2.2.symm⟩, fun h => ⟨rfl, h.1.symm, h.2.symm⟩⟩

/-- **When the duplicate is the device**: it has an id, and if it is a processor neither a weight
nor a limit. -/
theorem deepCopied_iff (d : AnyDevice) :
    DeepCopied d ↔ d.id.isSome ∧
      ∀ vcpu : VcpuDevice, d.member = .dev .proc vcpu → vcpu.weight = 0 ∧ vcpu.limit = 0 := by
  obtain ⟨member, id⟩ := d
  -- what is written of a device is written of the copy
  have hwritten (t : DomainType) : (dupMember member).xml t = member.xml t := by
    cases member with
    | dev kind dev =>
      rw [dupMember_dev]
      exact congrArg some (deviceXml_dup t kind dev)
    | emu emu => rfl
    | other type => rfl
  cases id with
  -- without an id `strdup` is handed a null pointer
  | none =>
    refine iff_of_false (fun h => ?_) (by simp)
    obtain ⟨d', hdup, -⟩ := h.same
    cases hdup
  | some id =>
    have hdup : dupAny { member, id := some id } =
        .ok { member := dupMember member, id := some id } :=
      rfl
    -- the copy is the device, but of a processor it leaves the weight and the limit
    constructor
    · rintro ⟨⟨d', hd', -, hsame⟩, -⟩
      rw [hdup] at hd'
      cases hd'
      refine ⟨rfl, ?_⟩
      rintro vcpu ⟨⟩
      rw [dupMember_dev] at hsame
      cases hsame with
      | dev same => exact (sameFields_dupFields_proc_iff vcpu).mp same
    · rintro ⟨-, hproc⟩
      refine ⟨⟨_, hdup, rfl, ?_⟩, fun d' hd' t => ?_⟩
      · show SameMember (dupMember member) member
        cases member with
        | emu emu =>
          rw [dupMember, dupField_none]
          exact .emu emu
        | other type => exact .other type
        | dev kind dev =>
          rw [dupMember_dev]
          refine .dev ?_
          by_cases hkind : kind = .proc
          · subst hkind
            exact (sameFields_dupFields_proc_iff dev).mpr (hproc dev rfl)
          · exact sameFields_dupFields kind hkind dev
      -- what is written of the copy is what is written of the device
      · cases hd'
        exact hwritten t

/-- The weight of a processor is lost. -/
theorem not_deepCopied : ¬ ∀ d : AnyDevice, DeepCopied d := by
  intro h
  obtain ⟨⟨d', hdup, -, hsame⟩, -⟩ :=
    h { member := .dev .proc { quantity := 1, weight := 1024 }, id := some "proc" }
  cases hdup
  cases hsame with
  | dev same => cases same

end LibvirtCim.Device
