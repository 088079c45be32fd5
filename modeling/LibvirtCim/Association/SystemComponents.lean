import LibvirtCim.Association.ElementAllocatedFromPool
import LibvirtCim.Association.SettingsDefineState
import LibvirtCim.Enumeration.Devices

/-!
# Systems, their devices and their settings

`Virt_SystemDevice.c`, from a system to its devices and back, and `Virt_VSSDComponent.c`, from the
setting of a system to the settings of its devices and back. With `Virt_SettingsDefineState.c`
they make up a square: the settings of the devices of a system are reached by its devices, or by
its own setting.

* `systemDevice_iff` — a system and its devices lead to each other if and only if the devices can
  be referred to;
* `vssdComponent_iff` — the setting of a system and those of its devices do if and only if the ids
  of the devices are one line each. That is less: a device whose id has a blank is not found, but
  its setting is;
* `routes_agree_iff` — both ways around the square lead to the same settings if and only if no
  domain has processors, but none of them.
-/

open Framework LibvirtCim.Device LibvirtCim.Rasd LibvirtCim.Service LibvirtCim.Pool

namespace LibvirtCim.Association

/-- A host, with what the settings of its domains depend on. -/
structure AssociationHost extends PoolHost where
  info : String → DomainInfo

/-- What the settings of its devices depend on. -/
def AssociationHost.env (host : AssociationHost) : SettingsEnv where
  pfx := host.pfx
  known := host.known
  info := host.info
  validateRef := host.validateRef
  validates := host.validates

variable (host : AssociationHost)

/-! ### Systems and devices -/

/-- `_enum_devices`, for the devices of all types of one domain. -/
def devicesOf (guest : Guest) : List LogicalDevice :=
  Enumeration.cimResTypes.flatMap fun kind =>
    deviceInstances guest.name kind (guest.devices kind)

/-- `sys_to_dev`, from the `Name` of a system. -/
def sysToDev (name : String) : Option (List LogicalDevice) := do
  let guest ← host.list.lookup name
  validated host.env name (some guest.name)
  let guest ← host.list.lookup name
  some (devicesOf guest)

/-- `dev_to_sys`, from the class and the `DeviceID` of a device. -/
def devToSys (kind : DevKind) (deviceId : String) : Option (List Guest) := do
  let _ ← getDeviceByRef host.toPoolHost kind deviceId
  let (name, _) ← parseFqDevid deviceId
  let guest ← host.list.lookup name
  some [guest]

/-! ### Settings of systems and of devices -/

/-- The devices `_get_rasds` takes: of the processors the last one, as `proc`. -/
def settingDevices : (kind : DevKind) → List (VirtDevice kind.Dev) → List (VirtDevice kind.Dev)
  | .proc, devs => (devs.getLast?.map fun dev => { dev with id := some "proc" }).toList
  | _, devs => devs

/-- `_get_rasds`. A device that has no setting is left out. -/
def getRasds (guest : Guest) (kind : DevKind) : List Instance :=
  (settingDevices kind (guest.devices kind)).filterMap
    (rasdFromVdev (host.info guest.name) host.pfx guest.name kind)

/-- `_enum_rasds`, for all types of one domain. -/
def rasdsOf (guest : Guest) : List Instance :=
  Enumeration.cimResTypes.flatMap (getRasds host guest)

/-- `vssd_to_rasd`, from the `InstanceID` of the setting of a system. -/
def vssdToRasd (id : String) : Option (List Instance) := do
  let vssd ← (parseId id).bind (getVssdByName host.list)
  validated host.env id (some (vssd.instanceId host.env))
  let name ← parseId id
  let guest ← host.list.lookup name
  some (rasdsOf host guest)

/-- `rasd_to_vssd`, from the class and the `InstanceID` of a setting. -/
def rasdToVssd (kind : DevKind) (id : String) : Option (List Vssd) := do
  let rasd ← getSettingByName host.env host.list kind id
  validated host.env id (rasd.getStr "InstanceID")
  let (name, _) ← parseFqDevid id
  let vssd ← getVssdByName host.list name
  some [vssd]

variable {host}

/-! ### What is found -/

/-- Every type is among those that are enumerated. -/
theorem mem_cimResTypes (kind : DevKind) : kind ∈ Enumeration.cimResTypes := by
  cases kind <;> decide

theorem mem_devicesOf_iff {guest : Guest} {inst : LogicalDevice} :
    inst ∈ devicesOf guest ↔
      ∃ kind, inst ∈ deviceInstances guest.name kind (guest.devices kind) := by
  unfold devicesOf
  rw [List.mem_flatMap]
  exact ⟨fun ⟨kind, _, hinst⟩ => ⟨kind, hinst⟩, fun ⟨kind, hinst⟩ =>
    ⟨kind, mem_cimResTypes kind, hinst⟩⟩

/-- The processors are one device at most, which has its id already. -/
theorem settingDevices_eq {guest : Guest} (kind : DevKind) :
    settingDevices kind (guest.devices kind) = guest.devices kind := by
  cases kind with
  | proc =>
    have hread := guest.read .proc
    generalize guest.devices .proc = procs at hread
    cases hprocs : procs with
    | nil => rfl
    | cons proc rest =>
      rw [hprocs] at hread
      obtain ⟨hone, hid⟩ := proc_of_getDevices hread List.mem_cons_self
      rw [hone]
      show [{ proc with id := some "proc" }] = [proc]
      rw [← hid]
  | _ => rfl

/-- The settings of a domain are those of its devices. -/
theorem mem_getRasds_iff {guest : Guest} {kind : DevKind} {rasd : Instance} :
    rasd ∈ getRasds host guest kind ↔ ∃ dev ∈ guest.devices kind,
      rasdFromVdev (host.info guest.name) host.pfx guest.name kind dev = some rasd := by
  rw [getRasds, settingDevices_eq, List.mem_filterMap]

theorem mem_rasdsOf_iff {guest : Guest} {rasd : Instance} :
    rasd ∈ rasdsOf host guest ↔ ∃ kind, ∃ dev ∈ guest.devices kind,
      rasdFromVdev (host.info guest.name) host.pfx guest.name kind dev = some rasd := by
  unfold rasdsOf
  rw [List.mem_flatMap]
  constructor
  · rintro ⟨kind, -, hrasd⟩
    exact ⟨kind, mem_getRasds_iff.mp hrasd⟩
  · rintro ⟨kind, hrasd⟩
    exact ⟨kind, mem_cimResTypes kind, mem_getRasds_iff.mpr hrasd⟩

/-- **A system leads to all its devices.** -/
theorem sysToDev_eq {guest : Guest} (hguest : guest ∈ host.list.guests) :
    sysToDev host guest.name = some (devicesOf guest) := by
  unfold sysToDev
  rw [GuestList.lookup_of_mem hguest, Option.bind_eq_bind, Option.bind_some, validated_self]
  rfl

theorem parseId_instanceId (guest : Guest) :
    parseId (Vssd.instanceId host.env ⟨guest⟩) = some guest.name := by
  unfold parseId
  rw [scanUpTo_instanceId]
  show (scanUpTo '\n' guest.name.toList).bind _ = _
  rw [guest.legal.scanUpTo_newline]
  rfl

/-- **The setting of a system leads to all settings of its devices.** -/
theorem vssdToRasd_eq {guest : Guest} (hguest : guest ∈ host.list.guests) :
    vssdToRasd host (Vssd.instanceId host.env ⟨guest⟩) = some (rasdsOf host guest) := by
  unfold vssdToRasd
  rw [parseId_instanceId, Option.bind_some, getVssdByName, GuestList.lookup_of_mem hguest,
    Option.map_some, Option.bind_eq_bind, Option.bind_some, validated_self]
  show (host.list.lookup guest.name).bind _ = _
  rw [GuestList.lookup_of_mem hguest]
  rfl

/-! ### From a device to its system -/

/-- A device leads to its system if it is found by a reference to it, and its id can be split. -/
theorem devToSys_eq_iff {guest : Guest} (hguest : guest ∈ host.list.guests) {kind : DevKind}
    {id : Option String} :
    devToSys host kind (getFqDevid guest.name id) = some [guest] ↔
      (getDeviceByRef host.toPoolHost kind (getFqDevid guest.name id)).isSome ∧
        (scanUpTo '\n' (formatStr id).toList).isSome := by
  unfold devToSys
  rw [parseFqDevid_getFqDevid guest.legal]
  cases getDeviceByRef host.toPoolHost kind (getFqDevid guest.name id) with
  | none => simp
  | some inst =>
    cases scanUpTo '\n' (formatStr id).toList with
    | none => simp
    | some line => simp [GuestList.lookup_of_mem hguest]

/-- A processor leads to its system. -/
theorem devToSys_processor {guest : Guest} (hguest : guest ∈ host.list.guests)
    {inst : LogicalDevice}
    (hinst : inst ∈ deviceInstances guest.name .proc (guest.devices .proc)) :
    devToSys host .proc inst.deviceId = some [guest] := by
  have hfound := @isSome_getDeviceByRef_processor host.toPoolHost guest hguest inst hinst
  obtain ⟨num, -, rfl⟩ := List.mem_map.mp hinst
  refine (devToSys_eq_iff hguest).mpr ⟨hfound, ?_⟩
  show (scanUpTo '\n' num.repr.toList).isSome
  rw [scanUpTo_newline_of_bare (bare_repr num)]
  rfl

/-- **A system and its devices lead to each other** if and only if every device can be referred
to. A system leads to all its devices in any case (`sysToDev_eq`); the way back is a look-up by
reference, which may end at another device or at none (`isSome_getDeviceByRef_iff`). -/
theorem systemDevice_iff (host : AssociationHost) :
    (∀ guest ∈ host.list.guests, ∃ devices, sysToDev host guest.name = some devices ∧
        ∀ inst ∈ devices, devToSys host inst.kind inst.deviceId = some [guest]) ↔
      ∀ guest ∈ host.list.guests, ∀ kind, kind ≠ .proc → ∀ dev ∈ guest.devices kind,
        Referable host.toPoolHost guest kind dev := by
  -- each direction goes through the devices the guest has, processors apart from the others
  constructor
  · intro h guest hguest kind hkind dev hdev
    obtain ⟨devices, hdevices, hback⟩ := h guest hguest
    -- the guest's devices are the ones listed, this one among them
    rw [sysToDev_eq hguest] at hdevices
    obtain rfl := Option.some.inj hdevices
    have hinst : LogicalDevice.device kind guest.name dev ∈ devicesOf guest := by
      refine mem_devicesOf_iff.mpr ⟨kind, ?_⟩
      rw [deviceInstances_of_ne guest.name hkind]
      exact List.mem_map_of_mem hdev
    -- the way back looks the device up by its reference, which is what is asked of it
    have hsystem := hback _ hinst
    simp only [LogicalDevice.kind, LogicalDevice.deviceId] at hsystem
    obtain ⟨hfound, -⟩ := (devToSys_eq_iff hguest).mp hsystem
    exact (isSome_getDeviceByRef_iff hguest hkind hdev).mp hfound
  · intro h guest hguest
    refine ⟨devicesOf guest, sysToDev_eq hguest, ?_⟩
    intro inst hinst
    obtain ⟨kind, hinst⟩ := mem_devicesOf_iff.mp hinst
    -- a processor is found by its number, any other device by its id
    by_cases hkind : kind = .proc
    · subst hkind
      have hproc : inst.kind = .proc := by
        obtain ⟨num, -, rfl⟩ := List.mem_map.mp hinst
        rfl
      rw [hproc]
      exact devToSys_processor hguest hinst
    · rw [deviceInstances_of_ne guest.name hkind] at hinst
      obtain ⟨dev, hdev, rfl⟩ := List.mem_map.mp hinst
      have hreferable := h guest hguest kind hkind dev hdev
      obtain ⟨id, hid⟩ := exists_id_of_getDevices (guest.read kind) hdev
      simp only [LogicalDevice.kind, LogicalDevice.deviceId]
      refine (devToSys_eq_iff hguest).mpr
        ⟨(isSome_getDeviceByRef_iff hguest hkind hdev).mpr hreferable, ?_⟩
      -- the id is one line, so the scan of the way back reads all of it
      rw [hid]
      show (scanUpTo '\n' id.toList).isSome
      rw [scanUpTo_newline_of_bare (hreferable id hid).1]
      rfl

/-! ### From a setting to that of the system -/

/-- An id is one line. -/
def OneLine (id : String) : Prop := id ≠ "" ∧ '\n' ∉ id.toList

/-- An id that is read as a line is one, if the line is the id up to case. -/
theorem oneLine_of_scanUpTo {id line : String} {rest : List Char}
    (h : scanUpTo '\n' id.toList = some (line, rest)) (hcase : streqc id line = true) :
    OneLine id := by
  obtain ⟨hne, hnot, hsplit⟩ := scanUpTo_spec h
  have hlower : id.toList.map Char.toLower = line.toList.map Char.toLower := of_decide_eq_true hcase
  have hlength := congrArg List.length hlower
  rw [List.length_map, List.length_map, hsplit, List.length_append] at hlength
  have hrest : rest = [] := List.length_eq_zero_iff.mp (by omega)
  rw [hrest, List.append_nil] at hsplit
  refine ⟨?_, hsplit ▸ hnot⟩
  rintro rfl
  exact hne hsplit.symm

theorem OneLine.scanUpTo {id : String} (h : OneLine id) :
    scanUpTo '\n' id.toList = some (id, []) := by
  have hne : id.toList ≠ [] := fun hnil => h.1 (String.toList_inj.mp (by simpa using hnil))
  rw [scanUpTo_of_not_mem hne h.2, String.ofList_toList]

/-- A setting is looked for by the line that is read of its id. -/
theorem getSettingByName_getFqDevid_eq {guest : Guest} (hguest : guest ∈ host.list.guests)
    (kind : DevKind) (id : String) :
    getSettingByName host.env host.list kind (getFqDevid guest.name (some id)) =
      (scanUpTo '\n' id.toList).bind fun line =>
        ((guest.devices kind).find? (hasId line.1)).bind
          (rasdFromVdev (host.info guest.name) host.pfx guest.name kind) := by
  unfold getSettingByName findRasdDev listRasds
  rw [parseFqDevid_getFqDevid guest.legal]
  show ((scanUpTo '\n' id.toList).map _).bind _ = _
  cases scanUpTo '\n' id.toList with
  | none => rfl
  | some line =>
    simp only [Option.map_some, Option.bind_some, GuestList.lookup_of_mem hguest]
    rfl

/-- **The setting of a device leads to that of its system** if and only if its id is one line. -/
theorem rasdToVssd_eq_iff {guest : Guest} (hguest : guest ∈ host.list.guests) {kind : DevKind}
    {dev : VirtDevice kind.Dev} (hdev : dev ∈ guest.devices kind) {id : String}
    (hid : dev.id = some id) :
    rasdToVssd host kind (getFqDevid guest.name dev.id) = some [⟨guest⟩] ↔ OneLine id := by
  unfold rasdToVssd
  rw [hid, getSettingByName_getFqDevid_eq hguest, parseFqDevid_getFqDevid guest.legal]
  -- the id is looked up as its line, and what is found must be of the reference
  constructor
  · intro h
    obtain ⟨rasd, hrasd, h⟩ := Option.bind_eq_some_iff.mp h
    obtain ⟨line, hline, hfind⟩ := Option.bind_eq_some_iff.mp hrasd
    obtain ⟨found, hfound, hsetting⟩ := Option.bind_eq_some_iff.mp hfind
    obtain ⟨_, hvalid, -⟩ := Option.bind_eq_some_iff.mp h
    -- the setting that was found has the line for its id, and a reference to it is one to it
    have hfoundId : found.id = some line.1 := by
      have := List.find?_some hfound
      simpa [hasId] using this
    obtain ⟨rasd', hrasd', hkey⟩ := exists_rasdFromVdev (guest.read kind)
      (List.mem_of_find?_eq_some hfound) (host.info guest.name) host.pfx guest.name
    rw [hsetting] at hrasd'
    obtain rfl := Option.some.inj hrasd'
    rw [hkey, hfoundId] at hvalid
    have hcase : streqc (getFqDevid guest.name (some id)) (getFqDevid guest.name (some line.1)) =
        true := by
      refine host.upToCase _ _ ?_
      simp only [validated, Option.any_some] at hvalid
      split_ifs at hvalid with hvalidated
      exact hvalidated
    exact @oneLine_of_scanUpTo id line.1 line.2 hline ((streqc_getFqDevid_iff _ _ _).mp hcase)
  -- an id of one line is found again, and the setting made of it passes the check
  · intro hone
    obtain ⟨found, hfound⟩ : ∃ found, (guest.devices kind).find? (hasId id) = some found := by
      rw [← Option.isSome_iff_exists, List.find?_isSome]
      exact ⟨dev, hdev, by simp [hasId, hid]⟩
    have hfoundId : found.id = some id := by
      have := List.find?_some hfound
      simpa [hasId] using this
    obtain ⟨rasd, hrasd, hkey⟩ := exists_rasdFromVdev (guest.read kind)
      (List.mem_of_find?_eq_some hfound) (host.info guest.name) host.pfx guest.name
    rw [hfoundId] at hkey
    -- the steps of the provider, one after the other, on the line
    show ((scanUpTo '\n' id.toList).bind _).bind _ = _
    rw [hone.scanUpTo, Option.bind_some, hfound, Option.bind_some, hrasd, Option.bind_some]
    show (validated host.env _ (rasd.getStr "InstanceID")).bind _ = _
    rw [hkey, validated_self, Option.bind_some]
    show ((scanUpTo '\n' id.toList).map _).bind _ = _
    rw [hone.scanUpTo, Option.map_some, Option.bind_some]
    show ((host.list.lookup guest.name).map Vssd.mk).bind _ = _
    rw [GuestList.lookup_of_mem hguest]
    rfl

/-! ### The class of a setting -/

/-- A setting is of the class of its type. -/
theorem base_rasdFromVdev {info : DomainInfo} {pfx name : String} {kind : DevKind}
    {dev : VirtDevice kind.Dev} {rasd : Instance}
    (h : rasdFromVdev info pfx name kind dev = some rasd) : rasd.base = baseOfKind kind := by
  unfold rasdFromVdev at h
  split_ifs at h
  obtain rfl := Option.some.inj h
  rw [(setRasdParams_keeps _ _ _ _).1]
  rfl

/-- The class of a setting tells its type. -/
theorem baseOfKind_injective {kind kind' : DevKind} (h : baseOfKind kind = baseOfKind kind') :
    kind = kind' := by
  revert h
  cases kind <;> cases kind' <;> decide

/-- **The setting of a system and those of its devices lead to each other** if and only if the ids
of the devices are one line each. The setting of the system leads to all of them; the way back
scans the id of the setting and asks no more of the device than that (`rasdToVssd_eq_iff`). -/
theorem vssdComponent_iff (host : AssociationHost) :
    (∀ guest ∈ host.list.guests, ∃ rasds,
        vssdToRasd host (Vssd.instanceId host.env ⟨guest⟩) = some rasds ∧
        ∀ rasd ∈ rasds, ∃ kind id, rasd.base = baseOfKind kind ∧
          rasd.getStr "InstanceID" = some id ∧ rasdToVssd host kind id = some [⟨guest⟩]) ↔
      ∀ guest ∈ host.list.guests, ∀ kind, ∀ dev ∈ guest.devices kind, ∀ id ∈ dev.id,
        OneLine id := by
  -- each direction goes through the settings, which are made of the guest's devices
  constructor
  · intro h guest hguest kind dev hdev id hid
    obtain ⟨rasds, hrasds, hback⟩ := h guest hguest
    rw [vssdToRasd_eq hguest] at hrasds
    obtain rfl := Option.some.inj hrasds
    -- the setting of the device, which the way down lists
    obtain ⟨rasd, hrasd, hkey⟩ := exists_rasdFromVdev (guest.read kind) hdev
      (host.info guest.name) host.pfx guest.name
    obtain ⟨kind', id', hbase, hid', hvssd⟩ :=
      hback rasd (mem_rasdsOf_iff.mpr ⟨kind, dev, hdev, hrasd⟩)
    -- the base class of a setting tells its kind, so the way back asks for that kind
    obtain rfl : kind = kind' := baseOfKind_injective ((base_rasdFromVdev hrasd).symm.trans hbase)
    rw [hkey] at hid'
    obtain rfl := Option.some.inj hid'
    exact (rasdToVssd_eq_iff hguest hdev hid).mp hvssd
  · intro h guest hguest
    refine ⟨rasdsOf host guest, vssdToRasd_eq hguest, ?_⟩
    intro rasd hrasd
    obtain ⟨kind, dev, hdev, hsetting⟩ := mem_rasdsOf_iff.mp hrasd
    -- what is listed is the setting of some device, and its id is that of the device
    obtain ⟨rasd', hrasd', hkey⟩ := exists_rasdFromVdev (guest.read kind) hdev
      (host.info guest.name) host.pfx guest.name
    rw [hsetting] at hrasd'
    obtain rfl := Option.some.inj hrasd'
    obtain ⟨id, hid⟩ := exists_id_of_getDevices (guest.read kind) hdev
    refine ⟨kind, _, base_rasdFromVdev hsetting, hkey, ?_⟩
    exact (rasdToVssd_eq_iff hguest hdev hid).mpr (h guest hguest kind dev hdev id hid)

/-! ### Both ways around -/

/-- The setting is reached by the setting of the system: from the system to its own setting, and
from there to those of its devices. -/
def BySystemSetting (host : AssociationHost) (guest : Guest) (rasd : Instance) : Prop :=
  ∃ vssds, vsToVssd host.env host.list guest.name = some vssds ∧ ∃ vssd ∈ vssds, ∃ rasds,
    vssdToRasd host (vssd.instanceId host.env) = some rasds ∧ rasd ∈ rasds

/-- It is reached by a device of the system: from the system to its devices, and from one of them
to its setting. -/
def ByDevice (host : AssociationHost) (guest : Guest) (rasd : Instance) : Prop :=
  ∃ devices, sysToDev host guest.name = some devices ∧ ∃ inst ∈ devices, ∃ rasds,
    devToRasd host.env host.list inst.kind inst.deviceId = some rasds ∧ rasd ∈ rasds

theorem bySystemSetting_iff {guest : Guest} (hguest : guest ∈ host.list.guests)
    {rasd : Instance} :
    BySystemSetting host guest rasd ↔ ∃ kind, ∃ dev ∈ guest.devices kind,
      rasdFromVdev (host.info guest.name) host.pfx guest.name kind dev = some rasd := by
  unfold BySystemSetting
  rw [vsToVssd_eq hguest, ← mem_rasdsOf_iff]
  constructor
  · rintro ⟨vssds, hvssds, vssd, hvssd, rasds, hrasds, hrasd⟩
    obtain rfl := Option.some.inj hvssds
    obtain rfl := List.mem_singleton.mp hvssd
    rw [vssdToRasd_eq hguest] at hrasds
    obtain rfl := Option.some.inj hrasds
    exact hrasd
  · intro hrasd
    exact ⟨_, rfl, ⟨guest⟩, List.mem_singleton_self _, _, vssdToRasd_eq hguest, hrasd⟩

/-- Of the processors, one is enough to lead to their setting. -/
theorem byDevice_iff {guest : Guest} (hguest : guest ∈ host.list.guests)
    (hdistinct : ∀ kind, ((guest.devices kind).map VirtDevice.id).Nodup)
    (hfound : ∀ kind, kind ≠ .proc → ∀ dev ∈ guest.devices kind,
      FindsItself (guest.devices kind) dev) {rasd : Instance} :
    ByDevice host guest rasd ↔
      (∃ kind, kind ≠ .proc ∧ ∃ dev ∈ guest.devices kind,
        rasdFromVdev (host.info guest.name) host.pfx guest.name kind dev = some rasd) ∨
      ∃ proc ∈ guest.devices .proc, 0 < proc.dev.quantity.toNat ∧
        rasdFromVdev (host.info guest.name) host.pfx guest.name .proc proc = some rasd := by
  -- a processor that is counted leads to the setting of the guest's one entry
  have hproc {proc : VirtDevice VcpuDevice} (hproc : proc ∈ guest.devices .proc) {num : ℕ}
      (hnum : num < proc.dev.quantity.toNat) : ∃ setting,
      rasdFromVdev (host.info guest.name) host.pfx guest.name .proc proc = some setting ∧
        devToRasd host.env host.list .proc (getFqDevid guest.name (some num.repr)) =
          some [setting] := by
    obtain ⟨setting, hsetting, -⟩ := exists_rasdFromVdev (guest.read .proc) hproc
      (host.info guest.name) host.pfx guest.name
    exact ⟨setting, hsetting, @procToRasd_eq host.env host.list guest hguest proc hproc setting
      hsetting num hnum⟩
  unfold ByDevice
  rw [sysToDev_eq hguest]
  constructor
  -- what is reached over a device is the setting of that device
  · rintro ⟨devices, hdevices, inst, hinst, rasds, hrasds, hrasd⟩
    obtain rfl := Option.some.inj hdevices
    obtain ⟨kind, hinst⟩ := mem_devicesOf_iff.mp hinst
    by_cases hkind : kind = .proc
    · subst hkind
      obtain ⟨num, hnum, rfl⟩ := List.mem_map.mp hinst
      rw [List.mem_range] at hnum
      -- a guest without a processor entry has no processor devices
      cases hprocs : guest.devices .proc with
      | nil =>
        rw [hprocs] at hnum
        exact absurd hnum (Nat.not_lt_zero num)
      | cons proc procs =>
        have hmem : proc ∈ guest.devices .proc := by
          rw [hprocs]
          exact List.mem_cons_self
        obtain ⟨hone, -⟩ := proc_of_getDevices (guest.read .proc) hmem
        rw [hone] at hnum
        have hbelow : num < proc.dev.quantity.toNat := hnum
        obtain ⟨setting, hsetting, hto⟩ := hproc hmem hbelow
        simp only [LogicalDevice.kind, LogicalDevice.deviceId] at hrasds
        rw [hto] at hrasds
        obtain rfl := Option.some.inj hrasds
        obtain rfl := List.mem_singleton.mp hrasd
        refine .inr ⟨proc, ?_, by omega, hsetting⟩
        exact List.mem_cons_self
    -- every other device corresponds to its own setting
    · rw [deviceInstances_of_ne guest.name hkind] at hinst
      obtain ⟨dev, hdev, rfl⟩ := List.mem_map.mp hinst
      obtain ⟨⟨setting, hsetting, hto⟩, -⟩ := @device_corresponds host.env host.list guest hguest
        kind hkind (hdistinct kind) dev hdev (hfound kind hkind dev hdev)
      simp only [LogicalDevice.kind, LogicalDevice.deviceId] at hrasds
      rw [hto] at hrasds
      obtain rfl := Option.some.inj hrasds
      obtain rfl := List.mem_singleton.mp hrasd
      exact .inl ⟨kind, hkind, dev, hdev, hsetting⟩
  -- back: a device stands for its setting, the first processor for that of all
  · rintro (⟨kind, hkind, dev, hdev, hrasd⟩ | ⟨proc, hmem, hpos, hrasd⟩)
    · obtain ⟨⟨setting, hsetting, hto⟩, -⟩ := @device_corresponds host.env host.list guest hguest
        kind hkind (hdistinct kind) dev hdev (hfound kind hkind dev hdev)
      have hsame : setting = rasd := Option.some.inj (hsetting.symm.trans hrasd)
      refine ⟨_, rfl, .device kind guest.name dev, ?_, [setting], hto, ?_⟩
      · refine mem_devicesOf_iff.mpr ⟨kind, ?_⟩
        rw [deviceInstances_of_ne guest.name hkind]
        exact List.mem_map_of_mem hdev
      · rw [hsame]
        exact List.mem_singleton_self _
    · obtain ⟨setting, hsetting, hto⟩ := hproc hmem hpos
      have hsame : setting = rasd := Option.some.inj (hsetting.symm.trans hrasd)
      refine ⟨_, rfl, .processor guest.name 0, ?_, [setting], hto, ?_⟩
      · refine mem_devicesOf_iff.mpr ⟨.proc, List.mem_map_of_mem ?_⟩
        obtain ⟨hone, -⟩ := proc_of_getDevices (guest.read .proc) hmem
        rw [hone]
        exact List.mem_range.mpr hpos
      · rw [hsame]
        exact List.mem_singleton_self _

/-- **Both ways around lead to the same settings** if and only if there is a processor where there
are processors, for a system whose devices are found by their ids. By the setting of the system
every entry of the definition is reached (`bySystemSetting_iff`), by the devices a processor entry
only if it counts at least one (`byDevice_iff`). -/
theorem routes_agree_iff {guest : Guest} (hguest : guest ∈ host.list.guests)
    (hdistinct : ∀ kind, ((guest.devices kind).map VirtDevice.id).Nodup)
    (hlegible : ∀ kind, kind ≠ .proc → FoundById (guest.devices kind)) :
    (∀ rasd, BySystemSetting host guest rasd ↔ ByDevice host guest rasd) ↔
      ∀ proc ∈ guest.devices .proc, 0 < proc.dev.quantity.toNat := by
  -- the ids are distinct and legible, so each device finds itself
  have hfound : ∀ kind, kind ≠ .proc → ∀ dev ∈ guest.devices kind,
      FindsItself (guest.devices kind) dev := by
    intro kind hkind
    exact (forall_findsItself_iff (guest.read kind) (hdistinct kind)).mpr (hlegible kind hkind)
  constructor
  -- the setting of the processors is reached over a device only if one is counted
  · intro h proc hproc
    obtain ⟨setting, hsetting, -⟩ := exists_rasdFromVdev (guest.read .proc) hproc
      (host.info guest.name) host.pfx guest.name
    have hby := (h setting).mp ((bySystemSetting_iff hguest).mpr ⟨.proc, proc, hproc, hsetting⟩)
    obtain ⟨kind, hkind, dev, -, hrasd⟩ | ⟨proc', hproc', hpos, -⟩ :=
      (byDevice_iff hguest hdistinct hfound).mp hby
    · -- the class of the setting is that of processors
      have hclass := (base_rasdFromVdev hrasd).symm.trans (base_rasdFromVdev hsetting)
      exact absurd (baseOfKind_injective hclass) hkind
    · obtain ⟨hone, -⟩ := proc_of_getDevices (guest.read .proc) hproc
      rw [hone] at hproc'
      obtain rfl := List.mem_singleton.mp hproc'
      exact hpos
  -- both routes reach what the definition holds, the processors included
  · intro hpos rasd
    rw [bySystemSetting_iff hguest, byDevice_iff hguest hdistinct hfound]
    constructor
    · rintro ⟨kind, dev, hdev, hrasd⟩
      by_cases hkind : kind = .proc
      · subst hkind
        exact .inr ⟨dev, hdev, hpos dev hdev, hrasd⟩
      · exact .inl ⟨kind, hkind, dev, hdev, hrasd⟩
    · rintro (⟨kind, -, dev, hdev, hrasd⟩ | ⟨proc, hproc, -, hrasd⟩)
      · exact ⟨kind, dev, hdev, hrasd⟩
      · exact ⟨.proc, proc, hproc, hrasd⟩

theorem legalName_of_mem_nil : ∀ net ∈ ([] : List Network), LegalName net.name := by simp

/-- A host of one container, without networks and without storage pools. -/
def containerSystem : AssociationHost where
  list := containerHost "/srv"
  networks := []
  storage := []
  volumePool := fun _ => none
  distinct := List.nodup_nil
  networkNames := legalName_of_mem_nil
  storageNames := by simp
  pfx := "LXC"
  known := containerEnv.known
  validateRef := streqc
  validates := streqc_refl
  upToCase := fun _ _ h => h
  info := containerEnv.info

/-- The file system of the container is found by its id, and there is no other device. -/
theorem foundById_srv {guest : Guest} (hguest : guest ∈ containerSystem.list.guests)
    (kind : DevKind) (hkind : kind ≠ .proc) : FoundById (guest.devices kind) := by
  -- the guest of the sample has one device, its root directory
  obtain rfl := List.mem_singleton.mp hguest
  have hnone {kind : DevKind} {devs : List (VirtDevice kind.Dev)} (h : devs = []) :
      FoundById devs := by
    rw [h]
    exact ⟨by simp, List.Pairwise.nil⟩
  -- every type but that of the disk is empty there
  cases kind with
  | proc => exact absurd rfl hkind
  | disk =>
    show FoundById (readDevices (containerWith "/srv") .disk)
    rw [readDevices_disk_containerWith]
    refine ⟨?_, List.pairwise_singleton _ _⟩
    intro dev hdev id hid
    rw [List.mem_singleton.mp hdev] at hid
    obtain rfl := Option.some.inj hid
    decide
  | _ => exact hnone rfl

/-- For a container of one file system and two processors, both ways lead to their settings. -/
theorem routes_agree_srv : ∃ guest ∈ containerSystem.list.guests, ∀ rasd,
    BySystemSetting containerSystem guest rasd ↔ ByDevice containerSystem guest rasd := by
  obtain ⟨guest, hguest⟩ := List.exists_mem_of_ne_nil containerSystem.list.guests (by simp [
    containerSystem, containerHost])
  refine ⟨guest, hguest, ?_⟩
  have hdistinct := distinctDeviceIds_containerHost "/srv" guest hguest
  refine (routes_agree_iff hguest hdistinct (foundById_srv hguest)).mpr ?_
  intro proc hproc
  obtain rfl := List.mem_singleton.mp hguest
  have hproc : proc ∈ readDevices (containerWith "/srv") .proc := hproc
  rw [readDevices_proc_containerWith, List.mem_singleton] at hproc
  rw [hproc]
  decide

end LibvirtCim.Association
