import LibvirtCim.Service.System
import Mathlib.Data.Set.List

/-!
# A system with its own settings

`instance_from_dom` reads the settings of a system (VSSD) off its definition, and
`ModifySystemSettings` writes them. This is what becomes of a definition that is given
the settings it has.

* `vssdToDomain_own` — the settings all types have come back, and a clock as one of two;
* `settingsKept_iff` — when all of the settings are kept.

The settings of a fully virtualized system without boot devices have no architecture and no
machine, even where the definition has them (`FvHidden`).
-/

open Framework LibvirtCim.Device LibvirtCim.Rasd

namespace LibvirtCim.Service

/-! ### The settings of a definition -/

/-- The type has the settings of full virtualization. -/
def isFullyVirtual : DomainType → Bool
  | .xenfv | .kvm | .qemu => true
  | .unknown | .xenpv | .lxc | .unsupported => false

/-- `_set_fv_prop`. There is no string for a boot device that is null. -/
def setFvProp (dominfo : Domain) (inst : Instance) : Option Instance :=
  let inst := inst.setIf (dominfo.type = .xenfv) "IsFullVirt" (.boolean true)
  -- without boot devices it returns before the other two are set
  if dominfo.osInfo.bootlist = [] then some inst
  else
    (dominfo.osInfo.bootlist.mapM id).map fun bootlist =>
      ((inst.set "BootDevices" (.stringA (bootlist.map some))).setChars "Arch"
        dominfo.osInfo.arch).setChars
        "Machine" dominfo.osInfo.machine

/-- `_set_pv_prop`. -/
def setPvProp (dominfo : Domain) (inst : Instance) : Instance :=
  ((((((inst.set "IsFullVirt" (.boolean false)).setChars "Bootloader" dominfo.bootloader).setChars
    "BootloaderArgs" dominfo.bootloaderArgs).setChars
    "Kernel" dominfo.osInfo.kernel).setChars
    "Ramdisk" dominfo.osInfo.initrd).setChars
    "CommandLine" dominfo.osInfo.cmdline)

/-- `_set_lxc_prop`. -/
def setLxcProp (dominfo : Domain) (inst : Instance) : Instance :=
  inst.setChars "InitPath" dominfo.osInfo.init

/-- The number of a clock: what is not local is `VSSD_CLOCK_UTC`. -/
def clockNumber (clock : String) : UInt16 :=
  if streqc clock "localtime" then 1 else 0

/-- `dev_emu->dev.emu.path`. -/
def emulatorPath (dominfo : Domain) : Option String :=
  dominfo.devEmu.head?.bind fun dev => dev.dev.path

/-- The settings that `instance_from_dom` reads for all types. -/
def setCommonProps (pfx : String) (autostart : Bool) (dominfo : Domain) : Instance :=
  let inst : Instance := { pfx, base := "VirtualSystemSettingData" }
  let inst := inst.setChars "VirtualSystemIdentifier" dominfo.name
  let inst := inst.setChars "ElementName" dominfo.name
  let inst := inst.set "VirtualSystemType" (.string pfx)
  let inst := inst.setChars "UUID" dominfo.uuid
  let inst := inst.set "Caption" (.string "Virtual System")
  let inst := inst.set "Description" (.string "Virtual System")
  let inst := inst.set "AutomaticShutdownAction" (.uint16 dominfo.onPoweroff)
  let inst := inst.set "AutomaticRecoveryAction" (.uint16 dominfo.onCrash)
  let inst := inst.set "EnableACPI" (.boolean dominfo.acpi)
  let inst := inst.set "EnableAPIC" (.boolean dominfo.apic)
  let inst := inst.set "EnablePAE" (.boolean dominfo.pae)
  let inst := inst.set "AutoStart" (.uint16 (if autostart then 1 else 0))
  let inst := inst.setIf dominfo.clock.isSome "ClockOffset"
    (.uint16 (clockNumber (dominfo.clock.getD "")))
  inst.setChars "Emulator" (emulatorPath dominfo)

/-- `vsid` of `instance_from_dom`. -/
def vsidOf (pfx : String) (dominfo : Domain) : String :=
  pfx ++ ":" ++ formatStr dominfo.name

/-- `instance_from_dom`, for the prefix of the connection and the autostart flag of the
domain. -/
def instanceFromDom (pfx : String) (autostart : Bool) (dominfo : Domain) : Option Instance :=
  let inst := setCommonProps pfx autostart dominfo
  let typed :=
    if isFullyVirtual dominfo.type then setFvProp dominfo inst
    else if dominfo.type = .xenpv then some (setPvProp dominfo inst)
    else if dominfo.type = .lxc then some (setLxcProp dominfo inst)
    else some inst
  typed.map fun inst => inst.set "InstanceID" (.string (vsidOf pfx dominfo))

/-- `set_autostart`: the autostart flag afterwards. Reading the flag may fail, and so may
the way to the domain (`reached`). -/
def setAutostart (reached readable : Bool) (vssd : Instance) (autostart : Bool) : Bool :=
  if (vssd.getStr "VirtualSystemIdentifier").isSome && reached then
    match vssd.getU16 "AutoStart" with
    | none => readable && autostart
    | some val => val ≠ 0
  else autostart

/-! ### What the writer reads -/

section Read

variable {pfx : String} {autostart : Bool} {d : Domain} {inst inst' : Instance}

@[simp] theorem get_new (pfx base name : String) :
    ({ pfx, base } : Instance).get name = none := rfl

@[simp] theorem pfx_set (inst : Instance) (name : String) (value : CmpiValue) :
    (inst.set name value).pfx = inst.pfx := rfl

@[simp] theorem pfx_setChars (inst : Instance) (name : String) (value : Option String) :
    (inst.setChars name value).pfx = inst.pfx := by
  cases value <;> rfl

@[simp] theorem pfx_setIf (inst : Instance) (cond : Bool) (name : String) (value : CmpiValue) :
    (inst.setIf cond name value).pfx = inst.pfx := by
  cases cond <;> rfl

/-- The settings that depend on the type. -/
def typedProps : List String :=
  ["IsFullVirt", "BootDevices", "Arch", "Machine", "Bootloader", "BootloaderArgs", "Kernel",
    "Ramdisk", "CommandLine", "InitPath", "InstanceID"]

/-- The architecture or the machine of a fully virtualized system, as far as the settings
have it. -/
def shown (d : Domain) (value : Option String) : Option String :=
  if d.osInfo.bootlist = [] then none else value

/-- The fully virtualized settings, for the names of the boot devices. -/
def fvInstance (d : Domain) (names : List String) (inst : Instance) : Instance :=
  (((inst.setIf (d.type = .xenfv) "IsFullVirt" (.boolean true)).setIf (names ≠ [])
    "BootDevices" (.stringA (names.map some))).setChars
    "Arch" (shown d d.osInfo.arch)).setChars
    "Machine" (shown d d.osInfo.machine)

/-- The boot devices have names if none is null. -/
theorem mapM_id_map_some (names : List String) : (names.map some).mapM id = some names := by
  induction names with
  | nil => rfl
  | cons name names ih => rw [List.map_cons, List.mapM_cons, ih]; rfl

theorem mapM_id_eq_none {l : List (Option String)} (h : none ∈ l) : l.mapM id = none := by
  induction l with
  | nil => exact absurd h (List.not_mem_nil)
  | cons device l ih =>
    cases device with
    | none => rfl
    | some name =>
      rw [List.mapM_cons, ih (by simpa using h)]
      rfl

/-- **The fully virtualized settings** are there unless a boot device is null. -/
theorem setFvProp_map_some {names : List String} (h : d.osInfo.bootlist = names.map some)
    (inst : Instance) : setFvProp d inst = some (fvInstance d names inst) := by
  rw [setFvProp, h, mapM_id_map_some]
  cases names with
  | nil => simp [fvInstance, shown, h, Instance.setIf, Instance.setChars]
  | cons name names => simp [fvInstance, shown, h, Instance.setIf]

/-- What the writer reads of the settings that all types have. -/
structure OwnSettings (pfx : String) (autostart : Bool) (d : Domain) (inst : Instance) : Prop where
  pfx : inst.pfx = pfx
  name : inst.getStr "VirtualSystemIdentifier" = d.name
  uuid : inst.getStr "UUID" = d.uuid
  poweroff : inst.getU16 "AutomaticShutdownAction" = some d.onPoweroff
  crash : inst.getU16 "AutomaticRecoveryAction" = some d.onCrash
  acpi : inst.getBool "EnableACPI" = some d.acpi
  apic : inst.getBool "EnableAPIC" = some d.apic
  pae : inst.getBool "EnablePAE" = some d.pae
  autostart : inst.getU16 "AutoStart" = some (if autostart then 1 else 0)
  clock : inst.getU16 "ClockOffset" = d.clock.map clockNumber
  emulator : inst.getStr "Emulator" = emulatorPath d

theorem ownSettings_setCommonProps :
    OwnSettings pfx autostart d (setCommonProps pfx autostart d) where
  -- the common properties are set for every type of guest
  pfx := by
    simp [setCommonProps]
  name := by
    rw [Instance.getStr, setCommonProps]
    cases d.name <;> simp
  uuid := by
    rw [Instance.getStr, setCommonProps]
    cases d.uuid <;> simp
  poweroff := by
    simp [setCommonProps, Instance.getU16]
  crash := by
    simp [setCommonProps, Instance.getU16]
  acpi := by
    simp [setCommonProps, Instance.getBool]
  apic := by
    simp [setCommonProps, Instance.getBool]
  pae := by
    simp [setCommonProps, Instance.getBool]
  autostart := by
    simp [setCommonProps, Instance.getU16]
  clock := by
    rw [Instance.getU16, setCommonProps]
    cases d.clock <;> simp
  emulator := by
    rw [Instance.getStr, setCommonProps]
    cases emulatorPath d <;> simp

/-- The settings that depend on the type are none of these. -/
theorem OwnSettings.of_typed (h : OwnSettings pfx autostart d inst) (hpfx : inst'.pfx = inst.pfx)
    (hget : ∀ name ∉ typedProps, inst'.get name = inst.get name) :
    OwnSettings pfx autostart d inst' where
  pfx := hpfx.trans h.pfx
  name := by rw [Instance.getStr, hget _ (by decide)]; exact h.name
  uuid := by rw [Instance.getStr, hget _ (by decide)]; exact h.uuid
  poweroff := by rw [Instance.getU16, hget _ (by decide)]; exact h.poweroff
  crash := by rw [Instance.getU16, hget _ (by decide)]; exact h.crash
  acpi := by rw [Instance.getBool, hget _ (by decide)]; exact h.acpi
  apic := by rw [Instance.getBool, hget _ (by decide)]; exact h.apic
  pae := by rw [Instance.getBool, hget _ (by decide)]; exact h.pae
  autostart := by rw [Instance.getU16, hget _ (by decide)]; exact h.autostart
  clock := by rw [Instance.getU16, hget _ (by decide)]; exact h.clock
  emulator := by rw [Instance.getStr, hget _ (by decide)]; exact h.emulator

/-- What the writer reads besides for a fully virtualized system. -/
structure FvOwnSettings (pfx : String) (autostart : Bool) (d : Domain) (names : List String)
    (inst : Instance) : Prop extends OwnSettings pfx autostart d inst where
  fullvirt : (inst.getBool "IsFullVirt").getD false = decide (d.type = .xenfv)
  boot : inst.getArray "BootDevices" = if names = [] then none else some (names.map some)
  arch : inst.getStr "Arch" = shown d d.osInfo.arch
  machine : inst.getStr "Machine" = shown d d.osInfo.machine

/-- What it reads for a paravirtual one. -/
structure PvOwnSettings (pfx : String) (autostart : Bool) (d : Domain) (inst : Instance) : Prop
    extends OwnSettings pfx autostart d inst where
  fullvirt : (inst.getBool "IsFullVirt").getD false = false
  bootloader : inst.getStr "Bootloader" = d.bootloader
  bootloaderArgs : inst.getStr "BootloaderArgs" = d.bootloaderArgs
  kernel : inst.getStr "Kernel" = d.osInfo.kernel
  initrd : inst.getStr "Ramdisk" = d.osInfo.initrd
  cmdline : inst.getStr "CommandLine" = d.osInfo.cmdline

theorem fvOwnSettings_instance (names : List String) (id : String) :
    FvOwnSettings pfx autostart d names
      ((fvInstance d names (setCommonProps pfx autostart d)).set "InstanceID" (.string id)) where
  -- set_fv_prop adds to them, and changes none
  toOwnSettings := by
    apply ownSettings_setCommonProps.of_typed
    · simp [fvInstance]
    · intro name hname
      simp only [typedProps, List.mem_cons, List.not_mem_nil, or_false, not_or] at hname
      simp [fvInstance, hname]
  -- full virtualisation is only said of Xen guests
  fullvirt := by
    by_cases hfv : d.type = .xenfv <;>
      simp [fvInstance, setCommonProps, Instance.getBool, hfv]
  boot := by
    cases names <;> simp [fvInstance, setCommonProps, Instance.getArray]
  arch := by
    rw [Instance.getStr, fvInstance, setCommonProps]
    cases shown d d.osInfo.arch <;> simp
  machine := by
    rw [Instance.getStr, fvInstance, setCommonProps]
    cases shown d d.osInfo.machine <;> simp

theorem pvOwnSettings_instance (id : String) :
    PvOwnSettings pfx autostart d
      ((setPvProp d (setCommonProps pfx autostart d)).set "InstanceID" (.string id)) where
  -- what _set_pv_prop adds comes on top of the common properties
  toOwnSettings := by
    apply ownSettings_setCommonProps.of_typed
    · simp [setPvProp]
    · intro name hname
      simp only [typedProps, List.mem_cons, List.not_mem_nil, or_false, not_or] at hname
      simp [setPvProp, hname]
  fullvirt := by
    simp [setPvProp, Instance.getBool]
  bootloader := by
    rw [Instance.getStr, setPvProp, setCommonProps]
    cases d.bootloader <;> simp
  bootloaderArgs := by
    rw [Instance.getStr, setPvProp, setCommonProps]
    cases d.bootloaderArgs <;> simp
  kernel := by
    rw [Instance.getStr, setPvProp, setCommonProps]
    cases d.osInfo.kernel <;> simp
  initrd := by
    rw [Instance.getStr, setPvProp, setCommonProps]
    cases d.osInfo.initrd <;> simp
  cmdline := by
    rw [Instance.getStr, setPvProp, setCommonProps]
    cases d.osInfo.cmdline <;> simp

/-- What it reads for a container. -/
structure LxcOwnSettings (pfx : String) (autostart : Bool) (d : Domain) (inst : Instance) : Prop
    extends OwnSettings pfx autostart d inst where
  fullvirt : (inst.getBool "IsFullVirt").getD false = false
  init : inst.getStr "InitPath" = d.osInfo.init

theorem lxcOwnSettings_instance (id : String) :
    LxcOwnSettings pfx autostart d
      ((setLxcProp d (setCommonProps pfx autostart d)).set "InstanceID" (.string id)) where
  toOwnSettings := by
    apply ownSettings_setCommonProps.of_typed
    · simp [setLxcProp]
    · intro name hname
      simp only [typedProps, List.mem_cons, List.not_mem_nil, or_false, not_or] at hname
      simp [setLxcProp, hname]
  fullvirt := by
    simp [setLxcProp, setCommonProps, Instance.getBool]
  init := by
    rw [Instance.getStr, setLxcProp, setCommonProps]
    cases d.osInfo.init <;> simp

/-! ### The settings of each type -/

theorem instanceFromDom_fv {names : List String} (hfv : isFullyVirtual d.type)
    (hboot : d.osInfo.bootlist = names.map some) :
    ∃ inst, instanceFromDom pfx autostart d = some inst ∧
      FvOwnSettings pfx autostart d names inst := by
  refine ⟨_, ?_, fvOwnSettings_instance names (vsidOf pfx d)⟩
  rw [instanceFromDom, if_pos hfv, setFvProp_map_some hboot, Option.map_some]

/-- A boot device that is null cannot be shown. -/
theorem instanceFromDom_null (hfv : isFullyVirtual d.type) (hnull : none ∈ d.osInfo.bootlist) :
    instanceFromDom pfx autostart d = none := by
  have hne : d.osInfo.bootlist ≠ [] := List.ne_nil_of_mem hnull
  rw [instanceFromDom, if_pos hfv, setFvProp, if_neg hne, mapM_id_eq_none hnull]
  rfl

theorem instanceFromDom_pv (hpv : d.type = .xenpv) :
    ∃ inst, instanceFromDom pfx autostart d = some inst ∧ PvOwnSettings pfx autostart d inst := by
  refine ⟨_, ?_, pvOwnSettings_instance (vsidOf pfx d)⟩
  simp [instanceFromDom, isFullyVirtual, hpv]

theorem instanceFromDom_lxc (hlxc : d.type = .lxc) :
    ∃ inst, instanceFromDom pfx autostart d = some inst ∧ LxcOwnSettings pfx autostart d inst := by
  refine ⟨_, ?_, lxcOwnSettings_instance (vsidOf pfx d)⟩
  simp [instanceFromDom, isFullyVirtual, hlxc]

/-- A type that is not known has the settings of all types only. -/
theorem instanceFromDom_untyped (h : d.type = .unknown ∨ d.type = .unsupported) :
    ∃ inst, instanceFromDom pfx autostart d = some inst ∧ OwnSettings pfx autostart d inst ∧
      (inst.getBool "IsFullVirt").getD false = false := by
  refine ⟨(setCommonProps pfx autostart d).set "InstanceID"
    (.string (vsidOf pfx d)), ?_, ?_, ?_⟩
  · obtain h | h := h <;> simp [instanceFromDom, isFullyVirtual, h]
  · apply ownSettings_setCommonProps.of_typed
    · simp
    · intro name hname
      simp only [typedProps, List.mem_cons, List.not_mem_nil, or_false, not_or] at hname
      simp [hname]
  · simp [setCommonProps, Instance.getBool]

end Read

/-! ### What the writer makes of them -/

/-- The clock that the number of a clock stands for. -/
def clockText (clock : String) : String :=
  if streqc clock "localtime" then "localtime" else "utc"

theorem lookup_clockNumber (clock : String) :
    vssdClocks.lookup (clockNumber clock) = some (clockText clock) := by
  unfold clockNumber clockText
  split <;> rfl

/-- The clocks that come back as they were. -/
theorem map_clockText_iff {clock : Option String} :
    clock.map clockText = clock ↔ clock ∈ [none, some "utc", some "localtime"] := by
  cases clock with
  | none => simp
  | some clock =>
    simp only [Option.map_some, Option.some.injEq, List.mem_cons, reduceCtorEq, false_or,
      List.not_mem_nil, or_false]
    constructor
    · intro hsame
      unfold clockText at hsame
      split at hsame
      · exact .inr hsame.symm
      · exact .inl hsame.symm
    · rintro (rfl | rfl) <;> rfl

section Write

variable {Live : Type} (env : Env Live) (sys : SystemHost) {pfx : String} {autostart : Bool}
  {d : Domain} {inst : Instance}

/-- The settings that all types have are as they were. -/
theorem commonVssdToDomain_own (h : OwnSettings pfx autostart d inst) {name : String}
    (hname : d.name = some name) : commonVssdToDomain inst name d = d := by
  rw [commonVssdToDomain, h.uuid, h.poweroff, h.crash, h.acpi, h.apic, h.pae]
  simp [← hname]

/-- A clock comes back as one of two. -/
theorem clockVssdToDomain_own (h : OwnSettings pfx autostart d inst) :
    clockVssdToDomain inst d = some { d with clock := d.clock.map clockText } := by
  rw [clockVssdToDomain, h.clock]
  cases hclock : d.clock with
  | none =>
    show some d = some { d with clock := none }
    rw [← hclock]
  | some clock => simp [lookup_clockNumber]

/-- **The definition with its own settings**, up to those of its type. -/
theorem vssdToDomain_own (h : OwnSettings pfx autostart d inst) {name : String}
    (hname : d.name = some name) :
    vssdToDomain env sys inst d =
      let d' := { d with clock := d.clock.map clockText }
      if (inst.getBool "IsFullVirt").getD false || streqc pfx "KVM" then
        if sys.connect then fvVssdToDomain env sys inst d' else none
      else if streqc pfx "Xen" then some (xenpvVssdToDomain inst d')
      else if streqc pfx "LXC" then some (lxcVssdToDomain inst d')
      else none := by
  rw [vssdToDomain, h.name.trans hname]
  simp only [commonVssdToDomain_own h hname, clockVssdToDomain_own h, h.pfx, h.crash,
    Option.bind_eq_bind, Option.bind_some, Option.isNone_some, Bool.false_eq_true, if_false]

/-- The autostart flag stays. -/
theorem setAutostart_own (h : OwnSettings pfx autostart d inst) (reached readable : Bool) :
    setAutostart reached readable inst autostart = autostart := by
  rw [setAutostart, h.autostart]
  cases autostart <;> simp

/-! ### What is compared -/

/-- The settings of a definition. -/
structure SystemSettings where
  type : DomainType
  name : Option String
  uuid : Option String
  onPoweroff : UInt16
  onReboot : UInt16
  onCrash : UInt16
  clock : Option String
  acpi : Bool
  apic : Bool
  pae : Bool
  bootlist : List (Option String)
  arch : Option String
  machine : Option String
  emulator : Option String
  bootloader : Option String
  bootloaderArgs : Option String
  kernel : Option String
  initrd : Option String
  cmdline : Option String
  init : Option String
  deriving DecidableEq, Repr

/-- The settings of a parsed definition. -/
def systemSettings (d : Domain) : SystemSettings where
  type := d.type
  name := d.name
  uuid := d.uuid
  onPoweroff := d.onPoweroff
  onReboot := d.onReboot
  onCrash := d.onCrash
  clock := d.clock
  acpi := d.acpi
  apic := d.apic
  pae := d.pae
  bootlist := d.osInfo.bootlist
  arch := d.osInfo.arch
  machine := d.osInfo.machine
  emulator := emulatorPath d
  bootloader := d.bootloader
  bootloaderArgs := d.bootloaderArgs
  kernel := d.osInfo.kernel
  initrd := d.osInfo.initrd
  cmdline := d.osInfo.cmdline
  init := d.osInfo.init

/-- The definition has settings, and given these it keeps them, with its autostart flag. The
settings are those that the provider returns for the system, handed back as they are to the
translator of a definition. -/
def SettingsKept (pfx : String) (reached readable autostart : Bool) (d : Domain) : Prop :=
  ∃ inst d', instanceFromDom pfx autostart d = some inst ∧ vssdToDomain env sys inst d = some d' ∧
    systemSettings d' = systemSettings d ∧ setAutostart reached readable inst autostart = autostart

/-- What a fully virtualized system needs to keep its settings, if they have what `seen` is of
the architecture and of the machine: for the rest the capabilities have the same. Of its type
these know the name `domtype`. -/
structure FvFit (seen : Option String → Option String) (domtype : Option String) (d : Domain) :
    Prop where
  connect : sys.connect
  arch : seen d.osInfo.arch = none → sys.defaultArch = d.osInfo.arch
  machine : seen d.osInfo.machine = none →
    domtype.bind (sys.defaultMachine d.osInfo.arch) = d.osInfo.machine
  emulator : ∀ path, emulatorPath d = some path → env.host.diskTypeFromFile path ≠ .unknown
  noEmulator : emulatorPath d = none →
    d.type ≠ .xenfv ∧ domtype.bind (sys.defaultEmulator d.osInfo.arch) = none

/-- What a system needs to keep the settings of its type. -/
def TypeFit (seen : Option String → Option String) (pfx : String) (d : Domain) : Prop :=
  match d.type with
  | .xenpv => streqc pfx "Xen"
  | .xenfv => streqc pfx "Xen" ∧ FvFit env sys seen none d
  | .kvm => streqc pfx "KVM" ∧ sys.useKvm = true ∧ FvFit env sys seen (some "kvm") d
  | .qemu => streqc pfx "KVM" ∧ sys.useKvm = false ∧ FvFit env sys seen (some "qemu") d
  | .lxc => streqc pfx "LXC" ∧ d.osInfo.init.isSome
  | .unknown | .unsupported => False

/-- What a system needs to keep its settings. The boot list is copied as it is, so it must have no
null entry; a system without a name has no other settings; else the clock and the type have to be
ones that the settings can express. -/
def SettingsFit (seen : Option String → Option String) (pfx : String) (d : Domain) : Prop :=
  (isFullyVirtual d.type → none ∉ d.osInfo.bootlist) ∧
    (d.name.isSome →
      d.clock ∈ [none, some "utc", some "localtime"] ∧ TypeFit env sys seen pfx d)

/-! ### Full virtualization -/

/-- The emulator of a definition that is given one. -/
theorem systemSettings_fvSetEmulator (d : Domain) (emu : Option String) :
    systemSettings (fvSetEmulator sys d emu) = { systemSettings d with
      emulator :=
        ((if d.type = .xenfv then emu.or (some sys.xenEmulator) else emu).or
          (emulatorPath d)) } := by
  unfold fvSetEmulator
  split
  · next hemu => rw [hemu]; rfl
  · next emu' hemu => rw [hemu]; rfl

/-- **The settings of a fully virtualized system** after it is given its own. -/
theorem fvVssdToDomain_own {names : List String} (h : FvOwnSettings pfx autostart d names inst)
    (hboot : d.osInfo.bootlist = names.map some) {t : DomainType} {domtype arch emu : Option String}
    (htype : fvDomainType sys pfx = some (t, domtype))
    (harch : (shown d d.osInfo.arch).or sys.defaultArch = arch)
    (hemu : (emulatorPath d).or (domtype.bind (sys.defaultEmulator arch)) = emu)
    (clock : Option String) :
    (fvVssdToDomain env sys inst { d with clock }).map systemSettings =
      if emu.any fun path => env.host.diskTypeFromFile path = .unknown then none
      else some { systemSettings d with
        type := t
        clock
        arch
        machine := (shown d d.osInfo.machine).or (domtype.bind (sys.defaultMachine arch))
        emulator :=
          (if t = .xenfv then emu.or (some sys.xenEmulator) else emu).or (emulatorPath d) } := by
  -- the boot list is replaced by itself, or left when it was empty
  have hreplace : (bootDevices inst).replace d.osInfo.bootlist = some (names.map some) := by
    rw [bootDevices, h.boot]
    split_ifs with hnil
    · rw [hnil]
      rfl
    · show BootDevices.replace (.array _) _ = _
      rw [BootDevices.replace, if_neg (by simp [hnil]), mapM_chars_map, mapM_id_map_some]
      rfl
  -- the names are resolved from the settings and the defaults
  rw [fvVssdToDomain, h.pfx, htype]
  simp only [Option.bind_eq_bind, Option.bind_some, h.arch, h.machine, h.emulator, hreplace, harch,
    hemu]
  -- an emulator that is not there is refused
  split
  · rfl
  · rw [Option.map_some, systemSettings_fvSetEmulator, ← hboot]
    rfl

/-- What is shown comes back; for the rest the default has to be it. -/
theorem shown_or_iff {value default : Option String} :
    (shown d value).or default = value ↔ (shown d value = none → default = value) := by
  unfold shown
  split
  · simp
  · cases value <;> simp

/-- **A fully virtualized system keeps its settings**, if the writer gives it the type it
has. -/
theorem fvVssdToDomain_own_iff {names : List String}
    (h : FvOwnSettings pfx autostart d names inst) (hboot : d.osInfo.bootlist = names.map some)
    {domtype : Option String} (htype : fvDomainType sys pfx = some (d.type, domtype))
    (clock : Option String) :
    (if sys.connect then fvVssdToDomain env sys inst { d with clock }
      else none).map systemSettings =
        some (systemSettings d) ↔
      clock = d.clock ∧ FvFit env sys (shown d) domtype d := by
  -- without a connection the capabilities cannot be had
  by_cases hconnect : sys.connect
  · rw [if_pos hconnect, fvVssdToDomain_own env sys h hboot htype rfl rfl]
    constructor
    -- every setting is compared, and each gives one of the conditions
    · intro heq
      by_cases hany : ((emulatorPath d).or (domtype.bind (sys.defaultEmulator
          ((shown d d.osInfo.arch).or sys.defaultArch)))).any
          fun path => env.host.diskTypeFromFile path = .unknown
      · rw [if_pos hany] at heq
        cases heq
      · rw [if_neg hany] at heq
        have hsettings := Option.some.inj heq
        have harch := congrArg SystemSettings.arch hsettings
        have hmachine := congrArg SystemSettings.machine hsettings
        have hemu := congrArg SystemSettings.emulator hsettings
        simp only [systemSettings] at harch hmachine hemu
        rw [harch] at hany hmachine hemu
        refine ⟨congrArg SystemSettings.clock hsettings, hconnect, shown_or_iff.mp harch,
          shown_or_iff.mp hmachine, ?_, ?_⟩
        · intro path hpath
          simpa [hpath] using hany
        · intro hnone
          rw [hnone] at hemu
          split at hemu
          · simp at hemu
          · next hfv => exact ⟨hfv, by simpa using hemu⟩
    -- with settings that fit, the defaults do not come in
    · rintro ⟨rfl, hfit⟩
      have harch := shown_or_iff.mpr hfit.arch
      have hmachine := shown_or_iff.mpr hfit.machine
      simp only [harch, hmachine]
      -- without an emulator, only the default could set one
      cases hemu : emulatorPath d with
      | none =>
        obtain ⟨hfv, hdefault⟩ := hfit.noEmulator hemu
        simp [hdefault, hfv, systemSettings, hemu]
      | some path => simp [hfit.emulator path hemu, systemSettings, hemu]
  · rw [if_neg hconnect]
    exact iff_of_false (by simp) fun hfit => hconnect hfit.2.connect

/-! ### The types -/

theorem type_fvSetEmulator (d : Domain) (emu : Option String) :
    (fvSetEmulator sys d emu).type = d.type :=
  congrArg SystemSettings.type (systemSettings_fvSetEmulator sys d emu)

/-- A fully virtualized system has the type of the prefix. -/
theorem type_fvVssdToDomain {d' : Domain} (h : fvVssdToDomain env sys inst d = some d') :
    ∃ domtype, fvDomainType sys inst.pfx = some (d'.type, domtype) := by
  obtain ⟨⟨t, domtype⟩, htype, h⟩ := Option.bind_eq_some_iff.mp h
  refine ⟨domtype, ?_⟩
  obtain ⟨bootlist, -, h⟩ := Option.bind_eq_some_iff.mp h
  dsimp only at h
  split at h
  · cases h
  · cases h
    rw [htype, type_fvSetEmulator]

/-- The type that the prefix gives to a system whose settings are not those of a fully
virtualized one. -/
def typeOfPrefix (pfx : String) : Option DomainType :=
  if streqc pfx "KVM" then some (if sys.useKvm then .kvm else .qemu)
  else if streqc pfx "Xen" then some .xenpv
  else if streqc pfx "LXC" then some .lxc
  else none

/-- **The type that is written** is the one of the prefix, whatever the type was. -/
theorem type_vssdToDomain_own (h : OwnSettings pfx autostart d inst) {name : String}
    (hname : d.name = some name) (hfull : (inst.getBool "IsFullVirt").getD false = false)
    {d' : Domain} (hwritten : vssdToDomain env sys inst d = some d') :
    typeOfPrefix sys pfx = some d'.type := by
  rw [vssdToDomain_own env sys h hname, hfull, Bool.false_or] at hwritten
  unfold typeOfPrefix
  -- the type follows from the prefix, and for KVM from the capabilities
  by_cases hkvm : streqc pfx "KVM"
  · rw [if_pos hkvm] at hwritten ⊢
    by_cases hconnect : sys.connect
    · rw [if_pos hconnect] at hwritten
      obtain ⟨domtype, htype⟩ := type_fvVssdToDomain env sys hwritten
      rw [h.pfx, fvDomainType, if_pos hkvm, Option.some.injEq] at htype
      cases huse : sys.useKvm with
      | true =>
        rw [huse, if_pos rfl, Prod.mk.injEq] at htype
        exact congrArg some htype.1
      | false =>
        rw [huse, if_neg Bool.false_ne_true, Prod.mk.injEq] at htype
        exact congrArg some htype.1
    · rw [if_neg hconnect] at hwritten
      cases hwritten
  -- Xen and containers by their own prefix
  · rw [if_neg hkvm] at hwritten ⊢
    by_cases hxen : streqc pfx "Xen"
    · rw [if_pos hxen] at hwritten ⊢
      cases hwritten
      rfl
    · rw [if_neg hxen] at hwritten ⊢
      by_cases hlxc : streqc pfx "LXC"
      · rw [if_pos hlxc] at hwritten ⊢
        cases hwritten
        rfl
      · rw [if_neg hlxc] at hwritten
        cases hwritten

/-- Another type than that of the prefix is not kept. -/
theorem not_kept_of_type (h : OwnSettings pfx autostart d inst) {name : String}
    (hname : d.name = some name) (hfull : (inst.getBool "IsFullVirt").getD false = false)
    (htype : typeOfPrefix sys pfx ≠ some d.type) :
    (vssdToDomain env sys inst d).map systemSettings ≠ some (systemSettings d) := by
  intro hkept
  obtain ⟨d', hwritten, hsettings⟩ := Option.map_eq_some_iff.mp hkept
  apply htype
  rw [type_vssdToDomain_own env sys h hname hfull hwritten]
  exact congrArg some (congrArg SystemSettings.type hsettings)

/-- The prefixes exclude each other. -/
theorem streqc_kvm_of_xen (h : streqc pfx "Xen") : streqc pfx "KVM" = false := by
  rw [streqc_congr h]
  rfl

theorem streqc_kvm_of_lxc (h : streqc pfx "LXC") : streqc pfx "KVM" = false := by
  rw [streqc_congr h]
  rfl

theorem streqc_xen_of_lxc (h : streqc pfx "LXC") : streqc pfx "Xen" = false := by
  rw [streqc_congr h]
  rfl

theorem typeOfPrefix_eq_xenpv : typeOfPrefix sys pfx = some .xenpv ↔ streqc pfx "Xen" := by
  unfold typeOfPrefix
  by_cases hxen : streqc pfx "Xen"
  · simp [streqc_kvm_of_xen hxen, hxen]
  · split
    · cases sys.useKvm <;> simp [hxen]
    · cases streqc pfx "LXC" <;> simp [hxen]

theorem typeOfPrefix_eq_lxc : typeOfPrefix sys pfx = some .lxc ↔ streqc pfx "LXC" := by
  unfold typeOfPrefix
  by_cases hlxc : streqc pfx "LXC"
  · simp [streqc_kvm_of_lxc hlxc, streqc_xen_of_lxc hlxc, hlxc]
  · split
    · cases sys.useKvm <;> simp [hlxc]
    · cases streqc pfx "Xen" <;> simp [hlxc]

theorem typeOfPrefix_eq_kvm :
    typeOfPrefix sys pfx = some .kvm ↔ streqc pfx "KVM" ∧ sys.useKvm = true := by
  unfold typeOfPrefix
  by_cases hkvm : streqc pfx "KVM"
  · cases sys.useKvm <;> simp [hkvm]
  · cases streqc pfx "Xen" <;> cases streqc pfx "LXC" <;> simp [hkvm]

theorem typeOfPrefix_eq_qemu :
    typeOfPrefix sys pfx = some .qemu ↔ streqc pfx "KVM" ∧ sys.useKvm = false := by
  unfold typeOfPrefix
  by_cases hkvm : streqc pfx "KVM"
  · cases sys.useKvm <;> simp [hkvm]
  · cases streqc pfx "Xen" <;> cases streqc pfx "LXC" <;> simp [hkvm]

theorem typeOfPrefix_ne_untyped {t : DomainType} (h : t = .unknown ∨ t = .unsupported) :
    typeOfPrefix sys pfx ≠ some t := by
  unfold typeOfPrefix
  obtain rfl | rfl := h <;> cases sys.useKvm <;> split_ifs <;> simp

/-- **A paravirtual system** keeps its settings but for the clock. -/
theorem kept_pv_iff (h : PvOwnSettings pfx autostart d inst) {name : String}
    (hname : d.name = some name) (hpv : d.type = .xenpv) :
    (vssdToDomain env sys inst d).map systemSettings = some (systemSettings d) ↔
      d.clock.map clockText = d.clock ∧ TypeFit env sys (shown d) pfx d := by
  -- only the prefix of Xen makes a paravirtual guest
  by_cases hxen : streqc pfx "Xen"
  · rw [vssdToDomain_own env sys h.toOwnSettings hname, h.fullvirt, streqc_kvm_of_xen hxen]
    simp only [Bool.false_or, Bool.false_eq_true, if_false, if_pos hxen, Option.map_some,
      Option.some.injEq]
    -- the five texts are read from the settings, so they stay
    have hwritten (clock : Option String) :
        systemSettings (xenpvVssdToDomain inst { d with clock }) =
          { systemSettings d with clock } := by
      rw [xenpvVssdToDomain, h.bootloader, h.bootloaderArgs, h.kernel, h.initrd, h.cmdline, ← hpv]
      rfl
    rw [hwritten]
    simp [systemSettings, TypeFit, hpv, hxen]
  -- another prefix makes another type
  · apply iff_of_false
    · apply not_kept_of_type env sys h.toOwnSettings hname h.fullvirt
      rw [hpv, Ne, typeOfPrefix_eq_xenpv]
      exact hxen
    · simp [TypeFit, hpv, hxen]

/-- **A container** needs a first program. -/
theorem kept_lxc_iff (h : LxcOwnSettings pfx autostart d inst) {name : String}
    (hname : d.name = some name) (hlxc : d.type = .lxc) :
    (vssdToDomain env sys inst d).map systemSettings = some (systemSettings d) ↔
      d.clock.map clockText = d.clock ∧ TypeFit env sys (shown d) pfx d := by
  -- only the prefix of containers makes one
  by_cases hpfx : streqc pfx "LXC"
  · rw [vssdToDomain_own env sys h.toOwnSettings hname, h.fullvirt, streqc_kvm_of_lxc hpfx,
      streqc_xen_of_lxc hpfx]
    simp only [Bool.false_or, Bool.false_eq_true, if_false, if_pos hpfx, Option.map_some,
      Option.some.injEq]
    -- the program to start is written with a default
    have hwritten (clock : Option String) :
        systemSettings (lxcVssdToDomain inst { d with clock }) =
          { systemSettings d with clock, init := some (d.osInfo.init.getD "/bin/false") } := by
      rw [lxcVssdToDomain, h.init, ← hlxc]
      rfl
    rw [hwritten]
    cases hinit : d.osInfo.init <;> simp [systemSettings, TypeFit, hlxc, hpfx, hinit]
  · apply iff_of_false
    · apply not_kept_of_type env sys h.toOwnSettings hname h.fullvirt
      rw [hlxc, Ne, typeOfPrefix_eq_lxc]
      exact hpfx
    · simp [TypeFit, hlxc, hpfx]

/-- A system of Xen with full virtualization. -/
theorem kept_xenfv_iff {names : List String} (h : FvOwnSettings pfx autostart d names inst)
    (hboot : d.osInfo.bootlist = names.map some) {name : String} (hname : d.name = some name)
    (hfv : d.type = .xenfv) :
    (vssdToDomain env sys inst d).map systemSettings = some (systemSettings d) ↔
      d.clock.map clockText = d.clock ∧ TypeFit env sys (shown d) pfx d := by
  -- Xen guests say that they are fully virtual
  have hfull : (inst.getBool "IsFullVirt").getD false = true := by
    rw [h.fullvirt, hfv]
    rfl
  rw [vssdToDomain_own env sys h.toOwnSettings hname, hfull, Bool.true_or]
  simp only [if_true]
  -- so the prefix alone decides, and there is no domain type to look for
  by_cases hxen : streqc pfx "Xen"
  · have htype : fvDomainType sys pfx = some (d.type, none) := by
      rw [fvDomainType, streqc_kvm_of_xen hxen, if_neg Bool.false_ne_true, if_pos hxen, hfv]
    rw [fvVssdToDomain_own_iff env sys h hboot htype]
    simp [TypeFit, hfv, hxen]
  -- a guest of another type would come back
  · apply iff_of_false
    · intro hkept
      obtain ⟨d', hwritten, hsettings⟩ := Option.map_eq_some_iff.mp hkept
      have hd' : d'.type = .xenfv := (congrArg SystemSettings.type hsettings).trans hfv
      split at hwritten
      · obtain ⟨domtype, htype⟩ := type_fvVssdToDomain env sys hwritten
        rw [h.pfx, hd', fvDomainType, if_neg hxen] at htype
        cases huse : sys.useKvm <;> simp [huse] at htype
      · cases hwritten
    · simp [TypeFit, hfv, hxen]

/-- A system of KVM or QEMU, if that is what the host has; `domtype` is the name of its type
in the capabilities. -/
theorem kept_kvm_iff {names : List String} (h : FvOwnSettings pfx autostart d names inst)
    (hboot : d.osInfo.bootlist = names.map some) {name : String} (hname : d.name = some name)
    (hfull : (inst.getBool "IsFullVirt").getD false = false) {domtype : String}
    (hkvm : streqc pfx "KVM") (htype : fvDomainType sys pfx = some (d.type, some domtype)) :
    (vssdToDomain env sys inst d).map systemSettings = some (systemSettings d) ↔
      d.clock.map clockText = d.clock ∧ FvFit env sys (shown d) (some domtype) d := by
  rw [vssdToDomain_own env sys h.toOwnSettings hname, hfull, Bool.false_or]
  simp only [if_pos hkvm]
  rw [fvVssdToDomain_own_iff env sys h hboot htype]

/-- **A fully virtualized system.** -/
theorem kept_fv_iff {names : List String} (h : FvOwnSettings pfx autostart d names inst)
    (hboot : d.osInfo.bootlist = names.map some) {name : String} (hname : d.name = some name)
    (hfv : isFullyVirtual d.type) :
    (vssdToDomain env sys inst d).map systemSettings = some (systemSettings d) ↔
      d.clock.map clockText = d.clock ∧ TypeFit env sys (shown d) pfx d := by
  -- the type decides under which prefix it is read
  cases htype : d.type with
  | xenfv => exact kept_xenfv_iff env sys h hboot hname htype
  | kvm =>
    have hfull : (inst.getBool "IsFullVirt").getD false = false := by
      rw [h.fullvirt, htype]
      rfl
    -- a guest of type kvm needs a host that supports it
    by_cases hpfx : streqc pfx "KVM" ∧ sys.useKvm = true
    · have hdomtype : fvDomainType sys pfx = some (d.type, some "kvm") := by
        rw [fvDomainType, if_pos hpfx.1, if_pos hpfx.2, htype]
      rw [kept_kvm_iff env sys h hboot hname hfull hpfx.1 hdomtype]
      simp [TypeFit, htype, hpfx]
    · apply iff_of_false
      · apply not_kept_of_type env sys h.toOwnSettings hname hfull
        rwa [htype, Ne, typeOfPrefix_eq_kvm]
      · simp only [TypeFit, htype]
        exact fun hfit => hpfx ⟨hfit.2.1, hfit.2.2.1⟩
  | qemu =>
    have hfull : (inst.getBool "IsFullVirt").getD false = false := by
      rw [h.fullvirt, htype]
      rfl
    -- and one of type qemu a host that does not
    by_cases hpfx : streqc pfx "KVM" ∧ sys.useKvm = false
    · have hdomtype : fvDomainType sys pfx = some (d.type, some "qemu") := by
        rw [fvDomainType, if_pos hpfx.1, hpfx.2, if_neg Bool.false_ne_true, htype]
      rw [kept_kvm_iff env sys h hboot hname hfull hpfx.1 hdomtype]
      simp [TypeFit, htype, hpfx]
    · apply iff_of_false
      · apply not_kept_of_type env sys h.toOwnSettings hname hfull
        rwa [htype, Ne, typeOfPrefix_eq_qemu]
      · simp only [TypeFit, htype]
        exact fun hfit => hpfx ⟨hfit.2.1, hfit.2.2.1⟩
  -- the other types are not fully virtual
  | xenpv | lxc | unknown | unsupported => simp [isFullyVirtual, htype] at hfv

/-! ### All of the settings -/

/-- A system is written with its settings, or it has none. -/
theorem settingsKept_iff_of_own (reached readable : Bool)
    (hinst : instanceFromDom pfx autostart d = some inst)
    (h : OwnSettings pfx autostart d inst) :
    SettingsKept env sys pfx reached readable autostart d ↔
      (vssdToDomain env sys inst d).map systemSettings = some (systemSettings d) := by
  rw [Option.map_eq_some_iff]
  constructor
  · rintro ⟨inst', d', hinst', hwritten, hsettings, -⟩
    rw [hinst] at hinst'
    cases hinst'
    exact ⟨d', hwritten, hsettings⟩
  · rintro ⟨d', hwritten, hsettings⟩
    exact ⟨inst, d', hinst, hwritten, hsettings, setAutostart_own h reached readable⟩

/-- Without a name the definition is left alone. -/
theorem vssdToDomain_own_unnamed (h : OwnSettings pfx autostart d inst) (hname : d.name = none) :
    vssdToDomain env sys inst d = some d := by
  rw [vssdToDomain, h.name.trans hname]

/-- A boot list without null devices has names. -/
theorem exists_bootNames {l : List (Option String)} (h : none ∉ l) :
    ∃ names : List String, l = names.map some := by
  have hrange : l ∈ Set.range (List.map (some : String → Option String)) := by
    rw [Set.range_list_map]
    intro device hdevice
    cases device with
    | none => exact absurd hdevice h
    | some name => exact ⟨name, rfl⟩
  obtain ⟨names, hnames⟩ := hrange
  exact ⟨names, hnames.symm⟩

/-- The settings of a system, and what becomes of a system with a name that is given them. -/
theorem exists_own (hboot : isFullyVirtual d.type → none ∉ d.osInfo.bootlist) :
    ∃ inst, instanceFromDom pfx autostart d = some inst ∧ OwnSettings pfx autostart d inst ∧
      ∀ name, d.name = some name →
        ((vssdToDomain env sys inst d).map systemSettings = some (systemSettings d) ↔
          d.clock.map clockText = d.clock ∧ TypeFit env sys (shown d) pfx d) := by
  -- by the type: fully virtual, paravirtual, container, or none that is known
  by_cases hfv : isFullyVirtual d.type
  · obtain ⟨names, hnames⟩ := exists_bootNames (hboot hfv)
    obtain ⟨inst, hinst, h⟩ := instanceFromDom_fv hfv hnames
    exact ⟨inst, hinst, h.toOwnSettings, fun name hname => kept_fv_iff env sys h hnames hname hfv⟩
  cases htype : d.type with
  | xenpv =>
    obtain ⟨inst, hinst, h⟩ := instanceFromDom_pv htype
    exact ⟨inst, hinst, h.toOwnSettings, fun name hname => kept_pv_iff env sys h hname htype⟩
  | lxc =>
    obtain ⟨inst, hinst, h⟩ := instanceFromDom_lxc htype
    exact ⟨inst, hinst, h.toOwnSettings, fun name hname => kept_lxc_iff env sys h hname htype⟩
  | unknown | unsupported =>
    have huntyped : d.type = .unknown ∨ d.type = .unsupported := by simp [htype]
    obtain ⟨inst, hinst, h, hfull⟩ := instanceFromDom_untyped huntyped
    refine ⟨inst, hinst, h, fun name hname => iff_of_false ?_ ?_⟩
    · exact not_kept_of_type env sys h hname hfull (typeOfPrefix_ne_untyped sys huntyped)
    · simp [TypeFit, htype]
  -- these have been met above
  | xenfv | kvm | qemu => simp [isFullyVirtual, htype] at hfv

/-- **When a system keeps its settings.** -/
theorem settingsKept_iff (pfx : String) (reached readable autostart : Bool) (d : Domain) :
    SettingsKept env sys pfx reached readable autostart d ↔
      SettingsFit env sys (shown d) pfx d := by
  -- a null in the boot list is refused before there are settings
  by_cases hboot : isFullyVirtual d.type → none ∉ d.osInfo.bootlist
  · obtain ⟨inst, hinst, h, hkept⟩ := exists_own env sys hboot
    rw [settingsKept_iff_of_own env sys reached readable hinst h]
    -- a guest without a name is not typed at all
    cases hname : d.name with
    | none =>
      rw [vssdToDomain_own_unnamed env sys h hname]
      exact iff_of_true rfl ⟨hboot, fun hsome => by simp [hname] at hsome⟩
    | some name =>
      rw [hkept name hname, SettingsFit, hname, map_clockText_iff]
      simp only [Option.isSome_some, forall_const]
      exact (and_iff_right hboot).symm
  -- no settings, so none are kept
  · apply iff_of_false
    · rintro ⟨inst, d', hinst, -⟩
      obtain ⟨hfv, hnull⟩ := Classical.not_imp.mp hboot
      rw [instanceFromDom_null hfv (not_not.mp hnull)] at hinst
      cases hinst
    · exact fun hfit => hboot hfit.1

/-- The settings lack an architecture or a machine that the definition has: it has no boot
devices. -/
def FvHidden (d : Domain) : Prop :=
  isFullyVirtual d.type ∧ d.osInfo.bootlist = [] ∧ (d.osInfo.arch.isSome ∨ d.osInfo.machine.isSome)

instance (d : Domain) : Decidable (FvHidden d) :=
  inferInstanceAs (Decidable (_ ∧ _ ∧ _))

/-- Unless one is hidden, the settings have the architecture and the machine. -/
theorem fvFit_shown_iff (hfv : isFullyVirtual d.type) (hshown : ¬ FvHidden d)
    (domtype : Option String) :
    FvFit env sys (shown d) domtype d ↔ FvFit env sys id domtype d := by
  -- nothing is hidden: the list is not empty, or there is nothing to hide
  have hseen : shown d d.osInfo.arch = d.osInfo.arch ∧
      shown d d.osInfo.machine = d.osInfo.machine := by
    unfold shown
    by_cases hboot : d.osInfo.bootlist = []
    · have hnone : ¬(d.osInfo.arch.isSome ∨ d.osInfo.machine.isSome) :=
        fun hsome => hshown ⟨hfv, hboot, hsome⟩
      simp only [not_or, Option.not_isSome_iff_eq_none] at hnone
      simp [hboot, hnone]
    · simp [hboot]
  -- the condition speaks of what is shown only in these two places
  constructor
  · rintro ⟨hconnect, harch, hmachine, hpath, hnone⟩
    rw [hseen.1] at harch
    rw [hseen.2] at hmachine
    exact ⟨hconnect, harch, hmachine, hpath, hnone⟩
  · rintro ⟨hconnect, harch, hmachine, hpath, hnone⟩
    refine ⟨hconnect, ?_, ?_, hpath, hnone⟩
    · rw [hseen.1]
      exact harch
    · rw [hseen.2]
      exact hmachine

/-- **A system with its own settings.** Where these have the architecture and the machine of the
definition, all settings and the autostart flag are kept exactly if the clock is one of the two
that settings know, the type is the one the prefix of the settings and the host give, and nothing
is filled in: no architecture, machine, emulator or first program that the definition does not
have. In general the settings are kept if they fit what is shown of the definition
(`settingsKept_iff`), and nothing is hidden here. -/
theorem ownSettings_kept_iff (pfx : String) (reached readable autostart : Bool) (d : Domain)
    (hshown : ¬ FvHidden d) :
    SettingsKept env sys pfx reached readable autostart d ↔ SettingsFit env sys id pfx d := by
  rw [settingsKept_iff]
  have htype : TypeFit env sys (shown d) pfx d ↔ TypeFit env sys id pfx d := by
    unfold TypeFit
    cases htype : d.type with
    | xenfv | kvm | qemu =>
      have hfv : isFullyVirtual d.type := by rw [htype]; rfl
      simp only [fvFit_shown_iff env sys hfv hshown]
    | xenpv | lxc | unknown | unsupported => rfl
  rw [SettingsFit, SettingsFit, htype]

/-- **A system without boot devices** is given the architecture and the machine of the
capabilities, whatever it had. -/
theorem fvVssdToDomain_unbooted (hfv : isFullyVirtual d.type) (hboot : d.osInfo.bootlist = [])
    (hinst : instanceFromDom pfx autostart d = some inst) {clock : Option String} {d' : Domain}
    (hwritten : fvVssdToDomain env sys inst { d with clock } = some d') :
    ∃ domtype, fvDomainType sys pfx = some (d'.type, domtype) ∧
      d'.osInfo.arch = sys.defaultArch ∧
      d'.osInfo.machine = domtype.bind (sys.defaultMachine sys.defaultArch) := by
  -- with an empty list neither architecture nor machine is shown
  have hnames : d.osInfo.bootlist = ([] : List String).map some := hboot
  obtain ⟨inst', hinst', h⟩ := instanceFromDom_fv hfv hnames
  rw [hinst] at hinst'
  cases hinst'
  obtain ⟨domtype, htype⟩ := type_fvVssdToDomain env sys hwritten
  rw [h.pfx] at htype
  -- so both are the host's defaults
  have hsettings := fvVssdToDomain_own env sys h hnames htype rfl rfl clock
  rw [hwritten, Option.map_some] at hsettings
  split at hsettings
  · cases hsettings
  · have hsame := Option.some.inj hsettings
    refine ⟨domtype, htype, ?_, ?_⟩
    · calc d'.osInfo.arch = (shown d d.osInfo.arch).or sys.defaultArch :=
            congrArg SystemSettings.arch hsame
        _ = sys.defaultArch := by simp [shown, hboot]
    · calc d'.osInfo.machine = (shown d d.osInfo.machine).or (domtype.bind
              (sys.defaultMachine ((shown d d.osInfo.arch).or sys.defaultArch))) :=
            congrArg SystemSettings.machine hsame
        _ = domtype.bind (sys.defaultMachine sys.defaultArch) := by simp [shown, hboot]

end Write

/-- A guest with a clock. -/
def clockGuest (offset : String) : Node :=
  .elem "domain" [("type", "kvm")]
    [.elem "name" [] [.text "guest"],
      .elem "uuid" [] [.text "3f5a6d3e-0000-4000-8000-000000000000"],
      .elem "os" []
        [.elem "type" [("arch", "x86_64"), ("machine", "pc-1.2")] [.text "hvm"],
          .elem "boot" [("dev", "hd")] []],
      .elem "clock" [("offset", offset)] [],
      .elem "devices" [] [.elem "emulator" [] [.text "/usr/bin/qemu-kvm"]]]

/-- The capabilities of a host with KVM. -/
def kvmCapabilities : CapabilityParsing.NamedCapabilities where
  caps :=
    { cpuArch := some "x86_64"
      guests :=
        [{ ostype := some "hvm"
           arch :=
            { name := some "x86_64"
              domains :=
                [{ typestr := some "kvm"
                   guestDomainInfo :=
                    { emulator := some "/usr/bin/qemu-kvm"
                      machines := [{ name := some "pc-1.2" }] } }] } }] }
  named := by constructor <;> decide

/-- A host with KVM. -/
def kvmHost : SystemHost :=
  .ofCapabilities (some kvmCapabilities) true false "/usr/lib/xen/bin/qemu-dm"

/-- The parsed guest with a clock. -/
def clockDomain (offset : String) : Domain :=
  (getDominfoFromXml (clockGuest offset)).toOption.getD {}

/-- A guest with what the host has by default, on UTC. -/
theorem ownSettings_kept_utc :
    SettingsKept (simpleEnv (clockGuest "utc")) kvmHost "KVM" true true false
      (clockDomain "utc") := by
  rw [ownSettings_kept_iff _ _ _ _ _ _ _ (by decide)]
  refine ⟨fun _ => by decide, fun _ => ⟨by decide, by decide, by decide, ?_⟩⟩
  exact
    { connect := rfl
      arch := by decide
      machine := by decide
      emulator := fun _ _ => by simp [simpleEnv]
      noEmulator := by decide }

/-- A guest whose clock varies is set to UTC, on every host. -/
theorem not_settingsKept_variable :
    ∃ root d, getDominfoFromXml root = .ok d ∧ d.type = .kvm ∧
      ∀ (env : Env SimpleLive) (sys : SystemHost),
        ¬ SettingsKept env sys "KVM" true true false d := by
  refine ⟨clockGuest "variable", _, rfl, rfl, fun env sys hkept => ?_⟩
  obtain ⟨-, hfit⟩ := (settingsKept_iff env sys "KVM" true true false _).mp hkept
  have hclock : some "variable" ∈ [none, some "utc", some "localtime"] := (hfit rfl).1
  simp at hclock

end LibvirtCim.Service
