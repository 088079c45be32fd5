import LibvirtCim.Device.XmlGen
import LibvirtCim.Framework.Fields
import LibvirtCim.Rasd.ToVdev

/-!
# What a modification takes from the device before it

`resource_mod` hands `rasd_to_vdev` the device that is modified. The translators for disks,
interfaces, memory and processors build theirs anew; the others write into the one they are
given, and what they do not write stays. `HistoryFree` says that nothing of it shows:
the outcomes of one request on two devices agree with its outcome on a cleared device on
every field the request specifies, no address has a key twice, and a union holds nothing of
another sub-type where the generator reads it.

`historyFree_iff` is the exact condition. Four translators need it: that of a controller
appends to the address it finds, that of a console keeps the slots of the union that the
request has no value for, that of an input device without a sub-type writes nothing, and
that of a file system keeps its address.
-/

open Framework LibvirtCim.Device

namespace LibvirtCim.Rasd

/-! ### The fields a request specifies -/

namespace Instance

/-- Both halves of an address are there. -/
def givesAddress (inst : Instance) : Bool :=
  (inst.getArray "AddressProperties").isSome && (inst.getArray "AddressValues").isSome

/-- The pairs of an address. -/
def addressPairs (inst : Instance) : DeviceAddress :=
  match inst.getArray "AddressProperties", inst.getArray "AddressValues" with
  | some keys, some values => (keys.zip values).filterMap fun pair =>
      pair.1.bind fun key => pair.2.map fun value => (key, value)
  | _, _ => []

/-- The type `SourceType` stands for. -/
def sourceType (inst : Instance) : Option ChardevSourceType :=
  (inst.getU16 "SourceType").bind fun id => chardevSourceTypeOfID.lookup id

/-- The port of a URL. -/
def urlPort (inst : Instance) (name : String) : Option String :=
  (inst.getStr name).bind fun url => (parseConsoleUrl url).bind fun parts => parts.2.2

end Instance

variable (inst : Instance)

def diskFields : List (NamedField (VirtDevice DiskDevice)) :=
  [{ given := (inst.getStr "VirtualDevice").isSome, get := fun d => (d.dev.virtualDev, d.id) },
    { given := (inst.getStr "Address").isSome, get := fun d => (d.dev.source, d.dev.diskType) },
    { given := (inst.getU16 "EmulatedType").isSome, get := fun d => d.dev.device },
    { given := (inst.getBool "readonly").isSome, get := fun d => d.dev.readonly },
    { given := (inst.getStr "BusType").isSome, get := fun d => d.dev.busType },
    { given := (inst.getStr "DriverName").isSome, get := fun d => d.dev.driver },
    { given := (inst.getStr "DriverType").isSome, get := fun d => d.dev.driverType },
    { given := (inst.getStr "DriverCache").isSome, get := fun d => d.dev.cache },
    { given := (inst.getStr "AccessMode").isSome, get := fun d => d.dev.accessMode },
    { given := (inst.getStr "rawio").isSome, get := fun d => d.dev.rawio },
    { given := (inst.getStr "sgio").isSome, get := fun d => d.dev.sgio },
    { given := (inst.getBool "shareable").isSome, get := fun d => d.dev.shareable },
    { given := inst.givesAddress, get := fun d => d.dev.address }]

def lxcDiskFields : List (NamedField (VirtDevice DiskDevice)) :=
  [{ given := (inst.getStr "MountPoint").isSome, get := fun d => (d.dev.virtualDev, d.id) },
    { given := (inst.getStr "Address").isSome, get := fun d => (d.dev.source, d.dev.diskType) }]

def netFields : List (NamedField (VirtDevice NetDevice)) :=
  [{ given := (inst.getStr "Address").isSome, get := fun d => (d.dev.mac, d.id) },
    { given := (inst.getStr "NetworkType").isSome, get := fun d => d.dev.type },
    { given := (inst.getStr "NetworkName").isSome, get := fun d => d.dev.source },
    { given := (inst.getStr "PoolID").isSome, get := fun d => d.dev.source },
    { given := (inst.getStr "SourceDevice").isSome, get := fun d => d.dev.source },
    { given := (inst.getStr "VSIType").isSome, get := fun d => d.dev.vsi.vsiType },
    { given := (inst.getStr "VSIManagerID").isSome, get := fun d => d.dev.vsi.managerId },
    { given := (inst.getStr "VSITypeID").isSome, get := fun d => d.dev.vsi.typeId },
    { given := (inst.getStr "VSITypeIDVersion").isSome, get := fun d => d.dev.vsi.typeIdVersion },
    { given := (inst.getStr "VSIInstanceID").isSome, get := fun d => d.dev.vsi.instanceId },
    { given := (inst.getStr "FilterRef").isSome, get := fun d => d.dev.vsi.filterRef },
    { given := (inst.getStr "ProfileID").isSome, get := fun d => d.dev.vsi.profileId },
    { given := (inst.getStr "VirtualDevice").isSome, get := fun d => d.dev.device },
    { given := (inst.getStr "NetworkMode").isSome, get := fun d => d.dev.netMode },
    { given := (inst.getStr "ResourceSubType").isSome, get := fun d => d.dev.model },
    { given := (inst.getU64 "Reservation").isSome, get := fun d => d.dev.reservation },
    { given := (inst.getU64 "Limit").isSome, get := fun d => d.dev.limit },
    { given := inst.givesAddress, get := fun d => d.dev.address }]

def memFields : List (NamedField (VirtDevice MemDevice)) :=
  [{ given := (inst.getU64 "VirtualQuantity").isSome, get := fun d => d.dev.size },
    { given := (inst.getU64 "Reservation").isSome, get := fun d => d.dev.size },
    { given := (inst.getU64 "Limit").isSome, get := fun d => d.dev.maxsize },
    { given := (inst.getStr "AllocationUnits").isSome
      get := fun d => (d.dev.size, d.dev.maxsize) },
    { given := (inst.getBool "dumpCore").isSome, get := fun d => d.dev.dumpCore }]

def procFields : List (NamedField (VirtDevice VcpuDevice)) :=
  [{ given := (inst.getU64 "VirtualQuantity").isSome, get := fun d => d.dev.quantity },
    { given := (inst.getU64 "Limit").isSome, get := fun d => d.dev.limit },
    { given := (inst.getU32 "Weight").isSome, get := fun d => d.dev.weight }]

/-- What a graphics device of a type is given by. -/
def graphicsTypeFields (type : String) : List (NamedField (VirtDevice GraphicsDevice)) :=
  if streqc type "vnc" then
    [{ given := (inst.getStr "Address").isSome, get := fun d => (d.dev.host, d.dev.port) },
      { given := (inst.getBool "IsIPV6Only").isSome, get := fun d => (d.dev.host, d.dev.port) },
      { given := (inst.getStr "KeyMap").isSome, get := fun d => d.dev.keymap },
      { given := (inst.getStr "Password").isSome, get := fun d => d.dev.passwd }]
  else if streqc type "sdl" then
    [{ given := (inst.getStr "Address").isSome, get := fun d => (d.dev.display, d.dev.xauth) },
      { given := (inst.getBool "IsIPV6Only").isSome, get := fun d => d.dev.fullscreen }]
  else
    [{ given := (inst.getStr "Address").isSome, get := fun d => (d.dev.host, d.dev.port) }]

def graphicsFields : List (NamedField (VirtDevice GraphicsDevice)) :=
  { given := (inst.getStr "ResourceSubType").isSome, get := fun d => (d.dev.type, d.id) } ::
    graphicsTypeFields inst ((inst.getStr "ResourceSubType").getD "")

/-- What the source of a console of a type is given by. A URL stands for all its parts. -/
def consoleSourceFields : ChardevSourceType → List (NamedField (VirtDevice ConsoleDevice))
  | .pty | .dev | .file | .pipe =>
    [{ given := (inst.getStr "SourcePath").isSome, get := fun d => d.dev.sourceDev.path }]
  | .unixsock =>
    [{ given := (inst.getStr "ConnectURL").isSome || (inst.getStr "BindURL").isSome
       get := fun d => (d.dev.sourceDev.path, d.dev.sourceDev.unixsockMode) }]
  | .udp =>
    [{ given := (inst.getStr "ConnectURL").isSome
       get := fun d => (d.dev.sourceDev.udpConnectHost, d.dev.sourceDev.udpConnectService) },
      { given := (inst.getStr "BindURL").isSome
        get := fun d => (d.dev.sourceDev.udpBindHost, d.dev.sourceDev.udpBindService) }]
  | .tcp =>
    [{ given := (inst.getStr "ConnectURL").isSome || (inst.getStr "BindURL").isSome
       get := fun d => d.dev.sourceDev }]
  | .null | .vc | .stdio | .spicevmc => []

def consoleFields : List (NamedField (VirtDevice ConsoleDevice)) :=
  [{ given := (inst.getU16 "SourceType").isSome, get := fun d => d.dev.sourceType },
    { given := (inst.getStr "TargetType").isSome, get := fun d => d.dev.targetType }] ++
    inst.sourceType.elim [] (consoleSourceFields inst)

def inputFields : List (NamedField (VirtDevice InputDevice)) :=
  [{ given := (inst.getStr "ResourceSubType").isSome, get := fun d => d.dev.type },
    { given := (inst.getStr "BusType").isSome, get := fun d => d.dev.bus }]

def controllerFields : List (NamedField (VirtDevice ControllerDevice)) :=
  [{ given := (inst.getStr "ResourceSubType").isSome, get := fun d => (d.dev.type, d.id) },
    { given := (inst.getU64 "Index").isSome, get := fun d => d.dev.index },
    { given := (inst.getStr "Model").isSome, get := fun d => d.dev.model },
    { given := (inst.getStr "Ports").isSome, get := fun d => d.dev.ports },
    { given := (inst.getStr "Vectors").isSome, get := fun d => d.dev.vectors },
    { given := (inst.getStr "Queues").isSome, get := fun d => d.dev.queues },
    { given := inst.givesAddress, get := fun d => d.dev.address }]

/-- The fields of a device with the properties of a setting that its translator takes
them from. -/
def specifiedFields (domtype : DomainType) :
    (kind : DevKind) → List (NamedField (VirtDevice kind.Dev))
  | .disk => if domtype = .lxc then lxcDiskFields inst else diskFields inst
  | .net => netFields inst
  | .mem => memFields inst
  | .proc => procFields inst
  | .graphics => graphicsFields inst
  | .console => consoleFields inst
  | .input => inputFields inst
  | .controller => controllerFields inst

/-! ### A translation that shows nothing of the device before it -/

/-- The address of a device. -/
def addressOf : (kind : DevKind) → kind.Dev → DeviceAddress
  | .disk, dev => dev.address
  | .net, dev => dev.address
  | .controller, dev => dev.address
  | .mem, _ | .proc, _ | .graphics, _ | .console, _ | .input, _ => []

/-- When the request changes the member of the union that is in use, what is written for the
device is what is written for the cleared device it is carried out on. -/
def UnionFresh : (kind : DevKind) → (before after fresh : kind.Dev) → Prop
  | .console, before, after, fresh =>
    before.sourceType ≠ after.sourceType → consoleSourceXml after = consoleSourceXml fresh
  | .graphics, before, after, fresh =>
    before.type ≠ after.type → graphicsXmlOf after = graphicsXmlOf fresh
  | .disk, _, _, _ | .net, _, _, _ | .mem, _, _, _ | .proc, _, _, _ | .input, _, _, _
  | .controller, _, _, _ => True

/-- The outcome `after` of a request on the device `before` shows nothing of it, compared
with the outcome `fresh` on a cleared device. -/
structure Unmixed (domtype : DomainType) (kind : DevKind)
    (before after fresh : VirtDevice kind.Dev) : Prop where
  agree : AgreeOn (specifiedFields inst domtype kind) after fresh
  keys : ((addressOf kind after.dev).map Prod.fst).Nodup
  union : UnionFresh kind before.dev after.dev fresh.dev

/-- **A modification is a function of the request.** It is carried out on both devices as
on a cleared one, and shows nothing of them. -/
def HistoryFree (host : Host) (domtype : DomainType) (kind : DevKind)
    (d₁ d₂ : VirtDevice kind.Dev) : Prop :=
  ∃ fresh after₁ after₂,
    rasdToVdev host domtype inst kind { dev := kind.zero } = .ok fresh ∧
    rasdToVdev host domtype inst kind d₁ = .ok after₁ ∧
    rasdToVdev host domtype inst kind d₂ = .ok after₂ ∧
    Unmixed inst domtype kind d₁ after₁ fresh ∧ Unmixed inst domtype kind d₂ after₂ fresh

/-! ### The exact condition -/

/-- The slots of the union that the request has no value for, and that are read for its type
of console, are empty or belong to it. -/
def ConsoleClean (before : ConsoleDevice) : Prop :=
  match inst.sourceType with
  | some .pty =>
    (inst.getStr "SourcePath").isSome ∨ before.sourceType = .pty ∨ before.sourceDev.path = none
  | some .udp =>
    ((inst.urlPort "BindURL").isSome ∨ before.sourceDev.udpBindService = none) ∧
      ((inst.urlPort "ConnectURL").isSome ∨ before.sourceDev.udpConnectService = none)
  | _ => True

/-- What the device before it has to be for a request to show nothing of it. -/
def Clean (domtype : DomainType) : (kind : DevKind) → kind.Dev → Prop
  | .disk, before =>
    if domtype = .lxc then (before.address.map Prod.fst).Nodup
    else (inst.addressPairs.map Prod.fst).Nodup
  | .net, _ => (inst.addressPairs.map Prod.fst).Nodup
  | .controller, before =>
    if inst.givesAddress then before.address = [] ∧ (inst.addressPairs.map Prod.fst).Nodup
    else (before.address.map Prod.fst).Nodup
  | .console, before => ConsoleClean inst before
  | .input, before =>
    (inst.getStr "ResourceSubType").isSome ∨ inst.getStr "BusType" = none ∨ before.bus = none
  | .mem, _ | .proc, _ | .graphics, _ => True

/-- A translator that succeeds on a cleared device succeeds on every one, and shows nothing
of it exactly when it is clean. -/
def UnmixedWhenClean (domtype : DomainType) (kind : DevKind)
    (translate : VirtDevice kind.Dev → Except RasdError (VirtDevice kind.Dev)) : Prop :=
  ∀ fresh, translate { dev := kind.zero } = .ok fresh → ∀ before, ∃ after,
    translate before = .ok after ∧
      (Unmixed inst domtype kind before { after with type := kind.resType }
          { fresh with type := kind.resType } ↔
        Clean inst domtype kind before.dev)

variable {inst} {host : Host} {domtype : DomainType}

/-! ### Addresses -/

theorem addressPairs_of_not_given (h : inst.givesAddress = false) : inst.addressPairs = [] := by
  unfold Instance.givesAddress at h
  unfold Instance.addressPairs
  split
  · next hkeys hvalues =>
    rw [hkeys, hvalues] at h
    exact absurd h (by simp)
  · rfl

/-- Whether the pairs can be added does not depend on the address they are added to. -/
theorem rasdToDeviceAddress_ok {addr out : DeviceAddress}
    (h : rasdToDeviceAddress inst addr = .ok out) :
    out = addr ++ inst.addressPairs ∧
      ∀ addr', rasdToDeviceAddress inst addr' = .ok (addr' ++ inst.addressPairs) := by
  -- with both arrays, the pairs are put behind what the address holds
  unfold rasdToDeviceAddress at h
  split at h
  · next keys values hkeys hvalues =>
    have hpairs : inst.addressPairs = (keys.zip values).filterMap fun pair =>
        pair.1.bind fun key => pair.2.map fun value => (key, value) := by
      simp only [Instance.addressPairs, hkeys, hvalues]
    split at h
    · exact absurd h (by simp)
    -- arrays of different lengths are refused, whatever the address
    · next hlen =>
      obtain ⟨hout, hall⟩ := addAddressProperties_ok h
      refine ⟨hout.trans (by rw [hpairs]), fun addr' => ?_⟩
      simp only [rasdToDeviceAddress, hkeys, hvalues, if_neg hlen, hpairs]
      exact hall addr'
  -- with one of the arrays missing, the address stays as it is
  · next hnone =>
    have hpairs : inst.addressPairs = [] := by
      unfold Instance.addressPairs
      split
      · next keys values hkeys hvalues => exact absurd hvalues (hnone keys values hkeys)
      · rfl
    refine ⟨by rw [hpairs, List.append_nil, Except.ok.inj h], fun addr' => ?_⟩
    rw [hpairs, List.append_nil]
    unfold rasdToDeviceAddress
    split
    · next keys values hkeys hvalues => exact absurd hvalues (hnone keys values hkeys)
    · rfl

/-- A disk that is built anew has the address of the request. -/
theorem address_diskRasdToVdev {d : VirtDevice DiskDevice} (h : diskRasdToVdev host inst = .ok d) :
    d.dev.address = inst.addressPairs := by
  unfold diskRasdToVdev at h
  split at h
  · exact absurd h (by simp)
  obtain ⟨⟨source, diskType⟩, hsource, h⟩ := bind_eq_ok h
  dsimp only at h
  split at h
  · exact absurd h (by simp)
  obtain ⟨address, haddr, h⟩ := bind_eq_ok h
  rw [← Except.ok.inj h]
  exact (rasdToDeviceAddress_ok haddr).1

/-- An interface that is built anew has the address of the request. -/
theorem address_netRasdToVdev {d : VirtDevice NetDevice} (h : netRasdToVdev host inst = .ok d) :
    d.dev.address = inst.addressPairs := by
  unfold netRasdToVdev at h
  split at h
  · exact absurd h (by simp)
  split at h
  · exact absurd h (by simp)
  obtain ⟨ndev, hndev, h⟩ := bind_eq_ok h
  obtain ⟨address, haddr, h⟩ := bind_eq_ok h
  rw [← Except.ok.inj h]
  exact (rasdToDeviceAddress_ok haddr).1

/-! ### The translators that build their device anew -/

/-- A device compared with itself can only have an address with a key twice. -/
theorem unmixed_self {kind : DevKind} {before after : VirtDevice kind.Dev} :
    Unmixed inst domtype kind before after after ↔
      ((addressOf kind after.dev).map Prod.fst).Nodup := by
  refine ⟨fun h => h.keys, fun hkeys => ⟨AgreeOn.refl _ _, hkeys, ?_⟩⟩
  cases kind with
  | console => exact fun _ => rfl
  | graphics => exact fun _ => rfl
  | _ => trivial

theorem unmixed_disk (hlxc : domtype ≠ .lxc) :
    UnmixedWhenClean inst domtype .disk fun _ => diskRasdToVdev host inst := by
  intro fresh hfresh before
  refine ⟨fresh, hfresh, ?_⟩
  rw [unmixed_self]
  show (fresh.dev.address.map Prod.fst).Nodup ↔ if domtype = .lxc then _ else _
  rw [if_neg hlxc, address_diskRasdToVdev hfresh]

theorem unmixed_net : UnmixedWhenClean inst domtype .net fun _ => netRasdToVdev host inst := by
  intro fresh hfresh before
  refine ⟨fresh, hfresh, ?_⟩
  rw [unmixed_self]
  show (fresh.dev.address.map Prod.fst).Nodup ↔ _
  rw [address_netRasdToVdev hfresh]
  rfl

/-! ### The translators that write the whole of what they interpret -/

theorem unmixed_mem : UnmixedWhenClean inst domtype .mem (memRasdToVdev inst) := by
  intro fresh hfresh before
  unfold memRasdToVdev at hfresh ⊢
  dsimp only at hfresh ⊢
  split at hfresh
  · exact absurd hfresh (by simp)
  next size hsize =>
  split at hfresh
  · exact absurd hfresh (by simp)
  next shift hshift =>
  rw [← Except.ok.inj hfresh]
  refine ⟨_, rfl, fun _ => trivial, fun _ => ⟨?_, List.nodup_nil, trivial⟩⟩
  simp [specifiedFields, memFields]

theorem unmixed_proc : UnmixedWhenClean inst domtype .proc (procRasdToVdev inst) := by
  intro fresh hfresh before
  unfold procRasdToVdev at hfresh ⊢
  dsimp only at hfresh ⊢
  split at hfresh
  · exact absurd hfresh (by simp)
  next quantity hquantity =>
  rw [← Except.ok.inj hfresh]
  refine ⟨_, rfl, fun _ => trivial, fun _ => ⟨?_, List.nodup_nil, trivial⟩⟩
  simp [specifiedFields, procFields]

/-- A container has no quantity and no limit in its setting, so the weight is all it gives. -/
theorem unmixed_lxcProc : UnmixedWhenClean inst domtype .proc (lxcProcRasdToVdev inst) := by
  intro fresh hfresh before
  unfold lxcProcRasdToVdev at hfresh ⊢
  split at hfresh
  · exact absurd hfresh (by simp)
  next hquantity =>
  split at hfresh
  · exact absurd hfresh (by simp)
  next hlimit =>
  rw [if_neg hquantity, if_neg hlimit, ← Except.ok.inj hfresh]
  refine ⟨_, rfl, fun _ => trivial, fun _ => ⟨?_, List.nodup_nil, trivial⟩⟩
  simp [specifiedFields, procFields, hquantity, hlimit]

/-- A file system keeps its address, which its setting does not give. -/
theorem unmixed_lxcDisk : UnmixedWhenClean inst .lxc .disk (lxcDiskRasdToVdev inst) := by
  intro fresh hfresh before
  unfold lxcDiskRasdToVdev at hfresh ⊢
  split at hfresh
  · exact absurd hfresh (by simp)
  next mountPoint hmount =>
  split at hfresh
  · exact absurd hfresh (by simp)
  next address haddress =>
  rw [← Except.ok.inj hfresh]
  refine ⟨_, rfl, fun h => h.keys, fun hclean => ⟨?_, hclean, trivial⟩⟩
  simp [specifiedFields, lxcDiskFields]

/-- Every type of graphics writes the slots of the union that it reads. -/
theorem graphicsOfRasd_overwrites {type : String} {fresh : GraphicsDevice}
    (h : graphicsOfRasd inst type {} = .ok fresh) (before : GraphicsDevice) :
    ∃ after, graphicsOfRasd inst type before = .ok after ∧
      after.type = some type ∧ fresh.type = some type ∧
      after.port = fresh.port ∧ after.host = fresh.host ∧
      (streqc type "vnc" → after = fresh) ∧
      (streqc type "sdl" → after.keymap = fresh.keymap) := by
  -- by the branches of graphics_rasd_to_vdev: VNC, console or serial, SDL
  unfold graphicsOfRasd at h ⊢
  split at h
  · next hvnc =>
    rw [if_pos hvnc]
    dsimp only at h ⊢
    split at h
    · next host port haddr =>
      rw [← Except.ok.inj h]
      exact ⟨_, rfl, rfl, rfl, rfl, rfl, fun _ => rfl, fun _ => rfl⟩
    · exact absurd h (by simp)
  next hvnc =>
  rw [if_neg hvnc]
  split at h
  · next hconsole =>
    rw [if_pos hconsole]
    split at h
    · next host port haddr =>
      rw [← Except.ok.inj h]
      refine ⟨_, rfl, rfl, rfl, rfl, rfl, fun h => absurd h hvnc, fun hsdl => ?_⟩
      -- a type is not both that of a console and `sdl`
      rw [streqc_congr hsdl, streqc_congr hsdl] at hconsole
      exact absurd hconsole (by decide)
    · exact absurd h (by simp)
  next hconsole =>
  rw [if_neg hconsole]
  -- SDL without an address takes the defaults, and with one reads display and authority
  split at h
  · next hsdl =>
    rw [if_pos hsdl]
    dsimp only at h ⊢
    split at h
    · next haddr =>
      rw [← Except.ok.inj h]
      exact ⟨_, rfl, rfl, rfl, rfl, rfl, fun h => absurd h hvnc, fun _ => rfl⟩
    · next address haddr =>
      split at h
      · exact absurd h (by simp)
      · next display xauth hparse =>
        rw [← Except.ok.inj h]
        exact ⟨_, rfl, rfl, rfl, rfl, rfl, fun h => absurd h hvnc, fun _ => rfl⟩
  · exact absurd h (by simp)

theorem unmixed_graphics : UnmixedWhenClean inst domtype .graphics (graphicsRasdToVdev inst) := by
  intro fresh hfresh before
  unfold graphicsRasdToVdev at hfresh ⊢
  split at hfresh
  · exact absurd hfresh (by simp)
  next type htype =>
  obtain ⟨gdev, hgdev, heq⟩ := bind_eq_ok hfresh
  -- what the device held before can only show in fields its type does not use
  obtain ⟨after, hafter, htypeAfter, htypeFresh, hport, hhost, hvnc, hsdl⟩ :=
    graphicsOfRasd_overwrites hgdev before.dev
  rw [hafter, ← Except.ok.inj heq]
  -- no address and no union is involved
  refine ⟨_, rfl, fun _ => trivial, fun _ => ⟨?_, List.nodup_nil, ?_⟩⟩
  · show AgreeOn (graphicsFields inst) _ _
    unfold graphicsFields graphicsTypeFields
    rw [htype, Option.getD_some]
    -- each type names its own fields
    split
    · next h => simp [hvnc h]
    · split
      · next h => simp [hport, hhost, htypeAfter, htypeFresh, hsdl h]
      · simp [hport, hhost, htypeAfter, htypeFresh]
  · show _ → graphicsXmlOf after = graphicsXmlOf gdev
    intro _
    -- the generator leaves out what is neither `vnc` nor `sdl`
    unfold graphicsXmlOf graphicsVncXml
    rw [htypeAfter, htypeFresh, Option.getD_some]
    by_cases hv : streqc type "vnc"
    · rw [hvnc hv]
    · by_cases hs : streqc type "sdl"
      · simp only [hs, or_true, if_true, GraphicsDevice.display, GraphicsDevice.xauth,
          GraphicsDevice.fullscreen, hport, hhost, hsdl hs]
      · rw [if_neg (by simp [hv, hs]), if_neg (by simp [hv, hs])]

/-! ### The translators that leave what the request has no value for -/

/-- Without a sub-type an input device stays as it is, whatever bus the request names. -/
theorem unmixed_input :
    UnmixedWhenClean inst domtype .input fun before => .ok (inputRasdToVdev inst before) := by
  intro fresh hfresh before
  refine ⟨_, rfl, ?_⟩
  rw [← Except.ok.inj hfresh]
  unfold inputRasdToVdev
  -- without a subtype the bus is only set when the entry has none
  cases htype : inst.getStr "ResourceSubType" with
  | none =>
    refine ⟨fun h => .inr ?_, fun h => ⟨?_, List.nodup_nil, trivial⟩⟩
    · cases hbus : inst.getStr "BusType" with
      | none => exact .inl rfl
      | some bus =>
        have hagree := h.agree
        exact .inr (by simpa [specifiedFields, inputFields, hbus, htype, DevKind.zero] using hagree)
    -- the bus is then the one asked for, if any is
    · have hbus : inst.getStr "BusType" = none ∨ before.dev.bus = none :=
        h.resolve_left (by simp [htype])
      show AgreeOn (inputFields inst) _ _
      obtain hbus | hbus := hbus
      · simp [inputFields, hbus, htype]
      · simp [inputFields, hbus, htype, DevKind.zero]
  -- with one the type is always written
  | some type =>
    refine ⟨fun _ => .inl (by rw [htype]; rfl), fun _ => ⟨?_, List.nodup_nil, trivial⟩⟩
    show AgreeOn (inputFields inst) _ _
    cases hbus : inst.getStr "BusType" with
    | none => simp [inputFields, hbus]
    | some bus => simp [inputFields]

/-- A controller of a type and an index, with the request written over it. -/
def writtenOver (inst : Instance) (type : ControllerType) (index : UInt64)
    (before : ControllerDevice) : ControllerDevice where
  type
  index
  model := (inst.getStr "Model").or before.model
  ports := (inst.getStr "Ports").or before.ports
  vectors := (inst.getStr "Vectors").or before.vectors
  queues := (inst.getStr "Queues").or before.queues
  address := before.address ++ inst.addressPairs

/-- What a controller is on a cleared device, and on any other. -/
theorem controllerRasdToVdev_fresh {fresh : VirtDevice ControllerDevice}
    (h : controllerRasdToVdev inst { dev := {} } = .ok fresh) :
    ∃ type index id, fresh.dev = writtenOver inst type index {} ∧ fresh.id = some id ∧
      ∀ before, controllerRasdToVdev inst before =
        .ok { before with dev := writtenOver inst type index before.dev, id := some id } := by
  unfold controllerRasdToVdev at h ⊢
  split at h
  · exact absurd h (by simp)
  next typeStr htype =>
  obtain ⟨address, haddr, heq⟩ := bind_eq_ok h
  obtain ⟨rfl, hall⟩ := rasdToDeviceAddress_ok haddr
  rw [← Except.ok.inj heq]
  refine ⟨_, _, _, rfl, rfl, fun before => ?_⟩
  rw [hall]
  rfl

/-- The pairs of a request go behind those of the controller. -/
theorem unmixed_controller :
    UnmixedWhenClean inst domtype .controller (controllerRasdToVdev inst) := by
  -- type, index and id are written in any case; the address is added to
  intro fresh hfresh before
  obtain ⟨type, index, id, hdev, hid, hall⟩ := controllerRasdToVdev_fresh hfresh
  refine ⟨_, hall before, ?_⟩
  show _ ↔ if inst.givesAddress then _ else _
  have hagree : AgreeOn (controllerFields inst)
      { type := .controller, dev := writtenOver inst type index before.dev, id := some id }
      { fresh with type := .controller } ↔
      (inst.givesAddress = true → before.dev.address = []) := by
    simp +contextual [controllerFields, hdev, hid, writtenOver, Option.or_of_isSome]
  -- an address in the request is put behind the old one
  by_cases hgiven : inst.givesAddress = true
  · rw [if_pos hgiven]
    refine ⟨fun h => ?_, fun ⟨hnil, hkeys⟩ => ⟨hagree.mpr fun _ => hnil, ?_, trivial⟩⟩
    · have hnil := hagree.mp h.agree hgiven
      exact ⟨hnil, by simpa [addressOf, writtenOver, hnil] using h.keys⟩
    · simpa [addressOf, writtenOver, hnil] using hkeys
  -- without one in the request the old address stays whole
  · rw [if_neg hgiven]
    have hpairs : inst.addressPairs = [] :=
      addressPairs_of_not_given (Bool.eq_false_of_not_eq_true hgiven)
    refine ⟨fun h => by simpa [addressOf, writtenOver, hpairs] using h.keys,
      fun hkeys => ⟨hagree.mpr fun h => absurd h hgiven, ?_, trivial⟩⟩
    simpa [addressOf, writtenOver, hpairs] using hkeys

/-- The slots that a request has no value for keep theirs. -/
def overSource (new old : SourceDev) : SourceDev where
  slot0 := new.slot0.or old.slot0
  slot1 := new.slot1.or old.slot1
  slot2 := new.slot2.or old.slot2
  slot3 := new.slot3.or old.slot3

/-- The slots that a request for a type of console has a value for. -/
def SourceWritten (inst : Instance) (sd : SourceDev) : ChardevSourceType → Prop
  | .pty => sd.path = inst.getStr "SourcePath"
  | .dev | .file | .pipe => sd.path.isSome
  | .unixsock => sd.path.isSome ∧ sd.unixsockMode.isSome
  | .udp =>
    ((inst.getStr "ConnectURL").isSome ∧ (inst.getStr "BindURL").isSome) ∧
      (sd.udpBindHost.isSome ∧ sd.udpBindService = inst.urlPort "BindURL") ∧
      sd.udpConnectHost.isSome ∧ sd.udpConnectService = inst.urlPort "ConnectURL"
  | .tcp => (sd.tcpMode.isSome ∧ sd.tcpProtocol.isSome) ∧ sd.tcpHost.isSome ∧ sd.tcpService.isSome
  | .null | .vc | .stdio | .spicevmc => True

/-- A translation of the source of a console that writes its values over the union. -/
def WritesOver (inst : Instance) (type : ChardevSourceType)
    (translate : SourceDev → Except RasdError SourceDev) : Prop :=
  ∀ fresh, translate {} = .ok fresh →
    SourceWritten inst fresh type ∧ ∀ before, translate before = .ok (overSource fresh before)

theorem pathOfRasd_writesOver {type : ChardevSourceType} {msg : String}
    (htype : ∀ sd : SourceDev, sd.path.isSome → SourceWritten inst sd type) :
    WritesOver inst type fun sd => pathOfRasd inst sd msg := by
  intro fresh h
  unfold pathOfRasd at h ⊢
  split at h
  · exact absurd h (by simp)
  next path hpath =>
  rw [← Except.ok.inj h]
  exact ⟨htype _ rfl, fun before => rfl⟩

theorem unixsock_writesOver : WritesOver inst .unixsock (unixsockConsoleRasdToVdev inst) := by
  intro fresh h
  unfold unixsockConsoleRasdToVdev at h ⊢
  -- the mode and the URL come from the request alone
  obtain ⟨⟨mode, url⟩, hurl, h⟩ := bind_eq_ok h
  dsimp only at h
  rw [hurl]
  simp only [bind, Except.bind]
  split at h
  · exact absurd h (by simp)
  next protocol path port hparse =>
  split at h
  · exact absurd h (by simp)
  next hprotocol =>
  rw [← Except.ok.inj h]
  refine ⟨⟨rfl, rfl⟩, fun before => ?_⟩
  rw [if_neg hprotocol]
  rfl

theorem tcp_writesOver : WritesOver inst .tcp (tcpConsoleRasdToVdev inst) := by
  intro fresh h
  unfold tcpConsoleRasdToVdev at h ⊢
  obtain ⟨⟨mode, url⟩, hurl, h⟩ := bind_eq_ok h
  -- every check is on what was read, but for the service
  dsimp only at h
  rw [hurl]
  simp only [bind, Except.bind]
  split at h
  · exact absurd h (by simp)
  next protocol host port hparse =>
  split at h
  · exact absurd h (by simp)
  next hservice =>
  split at h
  · exact absurd h (by simp)
  next hudp =>
  split at h
  · exact absurd h (by simp)
  next hfile =>
  -- a fresh device has no service, so the one read is there
  rw [Option.or_none] at hservice
  obtain ⟨service, rfl⟩ := Option.ne_none_iff_exists'.mp hservice
  rw [← Except.ok.inj h]
  refine ⟨⟨⟨rfl, rfl⟩, rfl, rfl⟩, fun before => ?_⟩
  rw [Option.some_or, if_neg (by simp), if_neg hudp, if_neg hfile]
  rfl

theorem udp_writesOver : WritesOver inst .udp (udpConsoleRasdToVdev inst) := by
  intro fresh h
  unfold udpConsoleRasdToVdev at h ⊢
  split at h
  · exact absurd h (by simp)
  next connectUrl hconnect =>
  split at h
  · exact absurd h (by simp)
  next protocol connectHost connectService hparseConnect =>
  split at h
  · exact absurd h (by simp)
  next hprotocol =>
  split at h
  · exact absurd h (by simp)
  next bindUrl hbind =>
  split at h
  · exact absurd h (by simp)
  next protocol' bindHost bindService hparseBind =>
  split at h
  · exact absurd h (by simp)
  next hprotocol' =>
  rw [← Except.ok.inj h]
  -- each port is that of its own URL
  have hconnectPort : inst.urlPort "ConnectURL" = connectService := by
    rw [Instance.urlPort, hconnect, Option.bind_some, hparseConnect, Option.bind_some]
  have hbindPort : inst.urlPort "BindURL" = bindService := by
    rw [Instance.urlPort, hbind, Option.bind_some, hparseBind, Option.bind_some]
  -- hosts are always read, services only when the URL has one
  refine ⟨⟨⟨by rw [hconnect]; rfl, by rw [hbind]; rfl⟩, ⟨rfl, ?_⟩, rfl, ?_⟩, fun before => ?_⟩
  · rw [hbindPort]
    exact Option.or_none
  · rw [hconnectPort]
    exact Option.or_none
  · rw [if_neg hprotocol, if_neg hprotocol']
    simp [overSource, SourceDev.udpBindService, SourceDev.udpConnectService]

/-- **The union of a console.** The request writes its values over the slots, and the slots it
has no value for keep theirs. -/
theorem consoleSourceOfRasd_writesOver (type : ChardevSourceType) :
    WritesOver inst type (consoleSourceOfRasd inst type) := by
  -- one case for each type of source that has members of its own
  cases type with
  | pty =>
    intro fresh h
    rw [← Except.ok.inj h]
    exact ⟨Option.or_none, fun before => by
      simp [consoleSourceOfRasd, overSource, SourceDev.path]⟩
  | dev => exact pathOfRasd_writesOver fun _ h => h
  | file => exact pathOfRasd_writesOver fun _ h => h
  | pipe => exact pathOfRasd_writesOver fun _ h => h
  | unixsock => exact unixsock_writesOver
  | udp => exact udp_writesOver
  | tcp => exact tcp_writesOver
  -- the types without members
  | _ =>
    intro fresh h
    rw [← Except.ok.inj h]
    exact ⟨trivial, fun before => rfl⟩

/-- A value that is kept does not show when there is another one, or none. -/
theorem or_eq_self_iff {α : Type} {given old : Option α} :
    given.or old = given ↔ given.isSome ∨ old = none := by
  cases given <;> simp

/-- The exact condition for a console, from what the request writes. -/
theorem unmixed_source {type : ChardevSourceType} {sd : SourceDev}
    (htype : inst.sourceType = some type) (hsd : SourceWritten inst sd type)
    (before after fresh : VirtDevice ConsoleDevice)
    (hafterType : after.dev.sourceType = type) (hfreshType : fresh.dev.sourceType = type)
    (hafter : after.dev.sourceDev = overSource sd before.dev.sourceDev)
    (hfresh : fresh.dev.sourceDev = sd) :
    AgreeOn (consoleSourceFields inst type) after fresh ∧
        UnionFresh .console before.dev after.dev fresh.dev ↔
      ConsoleClean inst before.dev := by
  show _ ∧ (before.dev.sourceType ≠ after.dev.sourceType →
    consoleSourceXml after.dev = consoleSourceXml fresh.dev) ↔ _
  unfold consoleSourceXml
  rw [hafterType, hfreshType]
  unfold ConsoleClean
  rw [htype]
  -- a member that was written is the one that stays
  have hpath (h : sd.path.isSome) :
      (overSource sd before.dev.sourceDev).path = sd.path := Option.or_of_isSome h
  -- which members each type writes, and which it leaves
  cases type with
  | pty =>
    have hslot : sd.path = inst.getStr "SourcePath" := hsd
    have hover : (overSource sd before.dev.sourceDev).path =
        (inst.getStr "SourcePath").or before.dev.sourceDev.path := by rw [← hslot]; rfl
    -- the XML of a pty has a source when there is a path, the old one or the new
    have hxml (old : Option String) : optChild "source" "path" ((inst.getStr "SourcePath").or old) =
        optChild "source" "path" (inst.getStr "SourcePath") ↔
          (inst.getStr "SourcePath").isSome ∨ old = none := by
      cases inst.getStr "SourcePath" with
      | some path => simp
      | none => cases old <;> simp [optChild]
    simp +contextual only [consoleSourceFields, hafter, hfresh, hover, hslot, hxml,
      agreeOn_cons, agreeOn_nil, Option.or_of_isSome, and_true, implies_true, true_and]
    tauto
  | udp =>
    obtain ⟨⟨hconnect, hbind⟩, ⟨hbindHost, hbindService⟩, hconnectHost, hconnectService⟩ := hsd
    have hbindOver : (overSource sd before.dev.sourceDev).udpBindHost = sd.udpBindHost :=
      Option.or_of_isSome hbindHost
    have hconnectOver : (overSource sd before.dev.sourceDev).udpConnectHost = sd.udpConnectHost :=
      Option.or_of_isSome hconnectHost
    -- a service that the request leaves out is the one from before
    have hbindIff : (overSource sd before.dev.sourceDev).udpBindService = sd.udpBindService ↔
        (inst.urlPort "BindURL").isSome ∨ before.dev.sourceDev.udpBindService = none := by
      rw [← hbindService]
      exact or_eq_self_iff
    have hconnectIff :
        (overSource sd before.dev.sourceDev).udpConnectService = sd.udpConnectService ↔
          (inst.urlPort "ConnectURL").isSome ∨
            before.dev.sourceDev.udpConnectService = none := by
      rw [← hconnectService]
      exact or_eq_self_iff
    dsimp only
    rw [← hbindIff, ← hconnectIff]
    simp only [consoleSourceFields, agreeOn_cons, agreeOn_nil, hconnect, hbind, forall_const,
      Prod.mk.injEq, hafter, hfresh, hbindOver, hconnectOver, true_and, and_true]
    -- with both services those of the request, so is the element
    refine ⟨fun h => ⟨h.1.2, h.1.1⟩, fun h => ⟨⟨h.2, h.1⟩, fun _ => ?_⟩⟩
    rw [h.1, h.2]
  -- these types write every member their XML reads
  | tcp =>
    obtain ⟨⟨hmode, hprotocol⟩, hhost, hservice⟩ := hsd
    have hover : overSource sd before.dev.sourceDev = sd := by
      simp [overSource, Option.or_of_isSome, *]
    simp [consoleSourceFields, hafter, hfresh, hover]
  | unixsock =>
    obtain ⟨hpathSome, hmode⟩ := hsd
    have hover : (overSource sd before.dev.sourceDev).unixsockMode = sd.unixsockMode :=
      Option.or_of_isSome hmode
    simp [consoleSourceFields, hafter, hfresh, hpath hpathSome, hover]
  | dev => simp [consoleSourceFields, hafter, hfresh, hpath hsd]
  | file => simp [consoleSourceFields, hafter, hfresh, hpath hsd]
  | pipe => simp [consoleSourceFields, hafter, hfresh, hpath hsd]
  | _ => simp [consoleSourceFields]

theorem unmixed_console : UnmixedWhenClean inst domtype .console (consoleRasdToVdev inst) := by
  intro fresh hfresh before
  unfold consoleRasdToVdev at hfresh ⊢
  split at hfresh
  · exact absurd hfresh (by simp)
  next number hnumber =>
  split at hfresh
  · exact absurd hfresh (by simp)
  next type hlookup =>
  obtain ⟨sd, hsd, heq⟩ := bind_eq_ok hfresh
  obtain ⟨hwritten, hall⟩ := consoleSourceOfRasd_writesOver type sd hsd
  -- the number in the request is that of the type
  have htype : inst.sourceType = some type := by
    rw [Instance.sourceType, hnumber, Option.bind_some, hlookup]
  rw [hall, ← Except.ok.inj heq]
  refine ⟨_, rfl, ?_⟩
  -- what becomes of the entry, and of one that was clear
  let after : VirtDevice ConsoleDevice :=
    { type := .console
      dev := ⟨type, overSource sd before.dev.sourceDev,
        (inst.getStr "TargetType").or before.dev.targetType⟩
      id := before.id }
  let cleared : VirtDevice ConsoleDevice :=
    { type := .console, dev := ⟨type, sd, (inst.getStr "TargetType").or none⟩ }
  have htarget (h : (inst.getStr "TargetType").isSome = true) :
      after.dev.targetType = cleared.dev.targetType := by
    show Option.or _ _ = Option.or _ _
    rw [Option.or_of_isSome h, Option.or_of_isSome h]
  -- the other two fields are those of the request, or not given
  have hfields : AgreeOn (consoleFields inst) after cleared ↔
      AgreeOn (consoleSourceFields inst type) after cleared := by
    simp only [consoleFields, htype, Option.elim_some, agreeOn_append, agreeOn_cons, agreeOn_nil,
      and_true]
    exact and_iff_right ⟨fun _ => rfl, htarget⟩
  show Unmixed inst domtype .console before after cleared ↔ ConsoleClean inst before.dev
  rw [← unmixed_source htype hwritten before after cleared rfl rfl rfl rfl]
  exact ⟨fun h => ⟨hfields.mp h.agree, h.union⟩,
    fun h => ⟨hfields.mpr h.1, List.nodup_nil, h.2⟩⟩

/-! ### All device types -/

/-- `rasd_to_vdev` as a translation for the platform, and the type. -/
theorem rasdToVdev_eq_map (kind : DevKind) (dev : VirtDevice kind.Dev) :
    rasdToVdev host domtype inst kind dev =
      (if domtype = .lxc then containerRasdToVdev host inst kind dev
        else sysvirtRasdToVdev host inst kind dev).map fun set =>
          { set with type := kind.resType } := by
  unfold rasdToVdev
  split
  · cases containerRasdToVdev host inst kind dev <;> rfl
  · cases sysvirtRasdToVdev host inst kind dev <;> rfl

/-- One lemma for each translator. -/
theorem unmixed_translators (kind : DevKind) :
    UnmixedWhenClean inst domtype kind fun dev =>
      if domtype = .lxc then containerRasdToVdev host inst kind dev
      else sysvirtRasdToVdev host inst kind dev := by
  -- each domain type has its own table of translators
  by_cases hlxc : domtype = .lxc
  · subst hlxc
    simp only [if_true]
    cases kind with
    | disk => exact unmixed_lxcDisk
    | net => exact unmixed_net
    | mem => exact unmixed_mem
    | proc => exact unmixed_lxcProc
    | input => exact unmixed_input
    | controller => exact unmixed_controller
    -- containers have neither graphics nor consoles
    | graphics => exact fun fresh hfresh => absurd hfresh (by simp [containerRasdToVdev])
    | console => exact fun fresh hfresh => absurd hfresh (by simp [containerRasdToVdev])
  · simp only [if_neg hlxc]
    cases kind with
    | disk => exact unmixed_disk hlxc
    | net => exact unmixed_net
    | mem => exact unmixed_mem
    | proc => exact unmixed_proc
    | input => exact unmixed_input
    | controller => exact unmixed_controller
    | graphics => exact unmixed_graphics
    | console => exact unmixed_console

/-- A request that a cleared device accepts is accepted by every device, and shows nothing of
it exactly when it is clean. -/
theorem unmixed_iff {kind : DevKind} {fresh : VirtDevice kind.Dev}
    (h : rasdToVdev host domtype inst kind { dev := kind.zero } = .ok fresh)
    (before : VirtDevice kind.Dev) :
    ∃ after, rasdToVdev host domtype inst kind before = .ok after ∧
      (Unmixed inst domtype kind before after fresh ↔ Clean inst domtype kind before.dev) := by
  rw [rasdToVdev_eq_map] at h
  obtain ⟨set, hset, rfl⟩ := map_eq_ok h
  obtain ⟨after, hafter, hiff⟩ := unmixed_translators kind set hset before
  refine ⟨{ after with type := kind.resType }, ?_, hiff⟩
  rw [rasdToVdev_eq_map]
  dsimp only at hafter
  rw [hafter]
  rfl

/-- **Modification is a function of the request** exactly when both devices are clean. A
translator writes into the device that is there, so a field it does not write keeps its history:
`unmixed_iff` says of one device when nothing of it is left, and the two devices are compared with
a cleared one. -/
theorem historyFree_iff (inst : Instance) (host : Host) (domtype : DomainType) (kind : DevKind)
    (d₁ d₂ : VirtDevice kind.Dev) {fresh : VirtDevice kind.Dev}
    (hfresh : rasdToVdev host domtype inst kind { dev := kind.zero } = .ok fresh) :
    HistoryFree inst host domtype kind d₁ d₂ ↔
      Clean inst domtype kind d₁.dev ∧ Clean inst domtype kind d₂.dev := by
  obtain ⟨after₁, hafter₁, hiff₁⟩ := unmixed_iff hfresh d₁
  obtain ⟨after₂, hafter₂, hiff₂⟩ := unmixed_iff hfresh d₂
  rw [← hiff₁, ← hiff₂]
  constructor
  -- the results are fixed, so they are the ones compared
  · rintro ⟨fresh', after₁', after₂', hfresh', hafter₁', hafter₂', hunmixed⟩
    obtain rfl := Except.ok.inj (hfresh.symm.trans hfresh')
    obtain rfl := Except.ok.inj (hafter₁.symm.trans hafter₁')
    obtain rfl := Except.ok.inj (hafter₂.symm.trans hafter₂')
    exact hunmixed
  · intro hunmixed
    exact ⟨fresh, after₁, after₂, hfresh, hafter₁, hafter₂, hunmixed⟩

/-- A host for the requests below, which ask it for nothing. -/
def quietHost : Host where
  diskTypeFromFile _ := .unknown
  netRandMac := none
  defaultNetwork := none

/-- A console over TCP. -/
def tcpConsole : VirtDevice ConsoleDevice where
  type := .console
  dev := { sourceType := .tcp, sourceDev := ⟨"bind", "raw", "localhost", "4555"⟩ }
  id := "charconsole:0"

/-- A request for a log file. -/
def logFileRequest : Instance where
  pfx := "KVM"
  base := "ConsoleResourceAllocationSettingData"
  props := [("SourceType", .uint16 4), ("SourcePath", .string "/var/log/guest.log")]

theorem logFileRequest_fresh :
    rasdToVdev quietHost .kvm logFileRequest .console { dev := {} } =
      .ok { type := .console
            dev := { sourceType := .file, sourceDev := { slot0 := "/var/log/guest.log" } } } := by
  decide +kernel

/-- The log file shows nothing of the console over TCP before it. -/
theorem historyFree_logFile :
    HistoryFree logFileRequest quietHost .kvm .console tcpConsole tcpConsole :=
  (historyFree_iff logFileRequest quietHost .kvm .console tcpConsole tcpConsole
    logFileRequest_fresh).mpr ⟨trivial, trivial⟩

/-- A controller with an address. -/
def usbController : VirtDevice ControllerDevice where
  type := .controller
  dev := { type := .usb, index := 0, address := [("type", "pci"), ("slot", "0x01")] }
  id := "controller:usb:0"

/-- A request that moves it to another slot. -/
def moveRequest : Instance where
  pfx := "KVM"
  base := "ControllerResourceAllocationSettingData"
  props := [("ResourceSubType", .string "usb"), ("Index", .uint64 0),
    ("AddressProperties", .stringA [some "type", some "slot"]),
    ("AddressValues", .stringA [some "pci", some "0x02"])]

/-- The controller that was to be moved has both addresses. -/
theorem not_historyFree : ¬ ∀ (inst : Instance) (host : Host) (domtype : DomainType)
    (kind : DevKind) (d₁ d₂ fresh : VirtDevice kind.Dev), d₁.id = d₂.id →
    rasdToVdev host domtype inst kind { dev := kind.zero } = .ok fresh →
    HistoryFree inst host domtype kind d₁ d₂ := by
  intro h
  have hfresh : rasdToVdev quietHost .kvm moveRequest .controller { dev := {} } =
      .ok { usbController with dev := writtenOver moveRequest .usb 0 {} } := by
    decide +kernel
  obtain ⟨fresh, after, -, hok, hafter, -, hunmixed, -⟩ :=
    h moveRequest quietHost .kvm .controller usbController usbController _ rfl hfresh
  have htwice : rasdToVdev quietHost .kvm moveRequest .controller usbController =
      .ok { usbController with dev := writtenOver moveRequest .usb 0 usbController.dev } := by
    decide +kernel
  obtain rfl := Except.ok.inj (hafter.symm.trans htwice)
  exact absurd hunmixed.keys (by decide +kernel)

end LibvirtCim.Rasd
