import LibvirtCim.Service.DefineSystem
import LibvirtCim.Service.OwnSettings

/-!
# What the settings of a system have to be

When `vssd_to_domain` accepts the settings of a system (VSSD), and what it makes of a domain of
any type with them.

The types of domains share one union for the settings of the operating system. Its words are
those of `OsUnion`, and a domain with the union is `Domain.withOs`: what a word holds is read as
whatever the type of the domain makes of it.

* `vssdToDomain_eq_none_iff` — when settings are refused. Of the domain, it depends on whether it
  has a boot list;
* `onlyComplete_iff` — when only complete settings are accepted, and nothing that the union held
  for another type is left in it.
-/

open Framework LibvirtCim.Device LibvirtCim.Rasd

namespace LibvirtCim.Device

/-! ### The union -/

/-- The words of `os_info`. -/
structure OsUnion where
  /-- `pv.type`, `fv.type`, `lxc.type` -/
  type : Option String := none
  /-- `pv.kernel`, `fv.arch`, `lxc.init` -/
  second : Option String := none
  /-- `pv.initrd`, `fv.machine` -/
  third : Option String := none
  /-- `pv.cmdline`, `fv.loader` -/
  fourth : Option String := none
  /-- `fv.bootlist` -/
  bootlist : List (Option String) := []
  deriving DecidableEq, Repr

/-- All members of the union are read off the same words. -/
def OsUnion.read (u : OsUnion) : OsInfo where
  type := u.type
  kernel := u.second
  arch := u.second
  init := u.second
  initrd := u.third
  machine := u.third
  cmdline := u.fourth
  loader := u.fourth
  bootlist := u.bootlist

/-- A `struct domain` with the words of its union. -/
def Domain.withOs (d : Domain) (u : OsUnion) : Domain :=
  { d with osInfo := u.read }

/-- The members of the union. -/
inductive OsMember
  | pv | fv | lxc
  deriving DecidableEq, Repr

/-- The member that a type of domains uses. -/
def osMember : DomainType → Option OsMember
  | .xenpv => some .pv
  | .xenfv | .kvm | .qemu => some .fv
  | .lxc => some .lxc
  | .unknown | .unsupported => none

/-- The words of the union in which the settings of a type of domains are kept. -/
def OsUnion.store (type : DomainType) (os : OsInfo) : OsUnion :=
  match osMember type with
  | some .pv =>
    { type := os.type, second := os.kernel, third := os.initrd, fourth := os.cmdline }
  | some .fv =>
    { type := os.type, second := os.arch, third := os.machine, fourth := os.loader
      bootlist := os.bootlist }
  | some .lxc => { type := os.type, second := os.init }
  | none => { type := os.type }

/-- What a type of domains makes of the union. -/
def OsInfo.used (type : DomainType) (os : OsInfo) : OsInfo :=
  match osMember type with
  | some .pv => { type := os.type, kernel := os.kernel, initrd := os.initrd, cmdline := os.cmdline }
  | some .fv =>
    { type := os.type, arch := os.arch, machine := os.machine, loader := os.loader
      bootlist := os.bootlist }
  | some .lxc => { type := os.type, init := os.init }
  | none => { type := os.type }

/-- A domain with only the settings of its type. -/
def Domain.used (d : Domain) : Domain :=
  { d with osInfo := d.osInfo.used d.type }

theorem Domain.used_withOs (d : Domain) :
    (d.withOs (.store d.type d.osInfo)).used = d.used := by
  unfold Domain.withOs Domain.used OsUnion.store
  cases d.type <;> rfl

theorem Domain.used_used (d : Domain) : d.used.used = d.used := by
  unfold Domain.used
  cases d.type <;> rfl

end LibvirtCim.Device

namespace LibvirtCim.Service

variable {Live : Type} (env : Env Live) (sys : SystemHost)

/-! ### The settings -/

section Settings

variable (inst : Instance)

/-- The settings are for full virtualization. -/
def asksFullVirt : Bool :=
  (inst.getBool "IsFullVirt").getD false || streqc inst.pfx "KVM"

/-- The class prefix is that of a hypervisor. -/
def supportedPrefix : Bool :=
  streqc inst.pfx "KVM" || streqc inst.pfx "Xen" || streqc inst.pfx "LXC"

/-- The type of a domain with the settings. -/
def vssdDomainType : Option DomainType :=
  if asksFullVirt inst then (fvDomainType sys inst.pfx).map Prod.fst
  else if streqc inst.pfx "Xen" then some .xenpv
  else if streqc inst.pfx "LXC" then some .lxc
  else none

/-- The member of the union that the settings are written to. -/
def vssdMember : OsMember :=
  if asksFullVirt inst then .fv else if streqc inst.pfx "Xen" then .pv else .lxc

/-- The architecture of a fully virtualized domain. -/
def vssdArch : Option String := (inst.getStr "Arch").or sys.defaultArch

/-- The emulator of a fully virtualized domain, for its type as the capabilities call it. -/
def vssdEmulator (domtype : Option String) : Option String :=
  (inst.getStr "Emulator").or (domtype.bind (sys.defaultEmulator (vssdArch sys inst)))

/-- The settings are refused for a domain with a boot list. Of the devices to boot from, an array
without elements is refused where there is a list, and an array with a null one always. -/
inductive Refused (bootlist : List (Option String)) : Prop
  | clock {offset : UInt16} (given : inst.getU16 "ClockOffset" = some offset)
      (unknown : vssdClocks.lookup offset = none)
  | connection (full : asksFullVirt inst = true) (failed : sys.connect = false)
  | hypervisor (full : asksFullVirt inst = true) (unknown : fvDomainType sys inst.pfx = none)
  | emulator {type : DomainType} {domtype : Option String} {path : String}
      (full : asksFullVirt inst = true) (known : fvDomainType sys inst.pfx = some (type, domtype))
      (chosen : vssdEmulator sys inst domtype = some path)
      (missing : env.host.diskTypeFromFile path = .unknown)
  | emptied (full : asksFullVirt inst = true) (given : inst.getArray "BootDevices" = some [])
      (listed : bootlist ≠ [])
  | nullDevice {elems : List (Option String)} (full : asksFullVirt inst = true)
      (given : inst.getArray "BootDevices" = some elems) (null : none ∈ elems)
  | action (notFull : asksFullVirt inst = false) (unknown : supportedPrefix inst = false)
      (given : (inst.getU16 "AutomaticRecoveryAction").isSome = true)

/-! ### What a domain has to carry -/

/-- The settings of a paravirtual domain. -/
structure CarriesPv (d : Domain) : Prop where
  bootloader : d.bootloader = inst.getStr "Bootloader"
  bootloaderArgs : d.bootloaderArgs = inst.getStr "BootloaderArgs"
  kernel : d.osInfo.kernel = inst.getStr "Kernel"
  initrd : d.osInfo.initrd = inst.getStr "Ramdisk"
  cmdline : d.osInfo.cmdline = inst.getStr "CommandLine"

/-- The settings of a fully virtualized domain, or their defaults. -/
structure CarriesFv (d : Domain) : Prop where
  bootlist : d.osInfo.bootlist = (inst.getArray "BootDevices").getD [] ∧ none ∉ d.osInfo.bootlist
  arch : d.osInfo.arch = vssdArch sys inst
  machine : ∃ domtype, fvDomainType sys inst.pfx = some (d.type, domtype) ∧
    d.osInfo.machine =
      (inst.getStr "Machine").or (domtype.bind (sys.defaultMachine (vssdArch sys inst)))
  emulator : ∀ path, inst.getStr "Emulator" = some path → emulatorPath d = some path

/-- The settings of the member of the union that the type of a domain uses. -/
def CarriesOs (d : Domain) : Prop :=
  match osMember d.type with
  | some .pv => CarriesPv inst d
  | some .fv => CarriesFv sys inst d
  | some .lxc => d.osInfo.init = some ((inst.getStr "InitPath").getD "/bin/false")
  | none => False

/-- **A domain carries the settings**: the name, the type, and what is given. -/
structure Carries (d : Domain) : Prop where
  name : d.name.isSome ∧ d.name = inst.getStr "VirtualSystemIdentifier"
  type : vssdDomainType sys inst = some d.type
  uuid : ∀ uuid, inst.getStr "UUID" = some uuid → d.uuid = some uuid
  onPoweroff : d.onPoweroff = (inst.getU16 "AutomaticShutdownAction").getD 0
  onCrash : d.onCrash = (inst.getU16 "AutomaticRecoveryAction").getD cimVssdRecoveryNone
  acpi : ∀ value, inst.getBool "EnableACPI" = some value → d.acpi = value
  apic : ∀ value, inst.getBool "EnableAPIC" = some value → d.apic = value
  pae : ∀ value, inst.getBool "EnablePAE" = some value → d.pae = value
  clock : ∀ offset, inst.getU16 "ClockOffset" = some offset →
    ∃ clock, vssdClocks.lookup offset = some clock ∧ d.clock = some clock
  os : CarriesOs sys inst d

end Settings

/-! ### Settings that are refused -/

section Translation

variable {inst : Instance} {d d' : Domain} {name : String}

/-- The settings of the type. -/
def typedVssdToDomain (inst : Instance) (domain : Domain) : Option Domain :=
  if asksFullVirt inst then if sys.connect then fvVssdToDomain env sys inst domain else none
  else if streqc inst.pfx "Xen" then some (xenpvVssdToDomain inst domain)
  else if streqc inst.pfx "LXC" then some (lxcVssdToDomain inst domain)
  else if (inst.getU16 "AutomaticRecoveryAction").isNone then some domain
  else none

/-- Settings with a name: those that all types have, the clock, and those of the type. -/
theorem vssdToDomain_of_name (h : inst.getStr "VirtualSystemIdentifier" = some name)
    (d : Domain) :
    vssdToDomain env sys inst d =
      (clockVssdToDomain inst (commonVssdToDomain inst name d)).bind
        (typedVssdToDomain env sys inst) := by
  rw [vssdToDomain, h]
  rfl

theorem clockVssdToDomain_eq_none_iff (d : Domain) :
    clockVssdToDomain inst d = none ↔
      ∃ offset, inst.getU16 "ClockOffset" = some offset ∧ vssdClocks.lookup offset = none := by
  unfold clockVssdToDomain
  cases inst.getU16 "ClockOffset" <;> simp

/-- The clock is all that is set. -/
theorem clockVssdToDomain_eq_some (h : clockVssdToDomain inst d = some d') :
    (∀ offset, inst.getU16 "ClockOffset" = some offset →
        ∃ clock, vssdClocks.lookup offset = some clock ∧ d'.clock = some clock) ∧
      ∃ clock, d' = { d with clock } := by
  unfold clockVssdToDomain at h
  -- only a number that is no clock is refused
  cases hoffset : inst.getU16 "ClockOffset" with
  | none =>
    rw [hoffset] at h
    cases h
    exact ⟨by simp, d.clock, rfl⟩
  | some offset =>
    rw [hoffset] at h
    obtain ⟨clock, hclock, rfl⟩ := Option.map_eq_some_iff.mp h
    refine ⟨fun offset' hoffset' => ?_, some clock, rfl⟩
    cases hoffset'
    exact ⟨clock, hclock, rfl⟩

/-- A fully virtualized domain of a type. The failures left are those of the boot list and of
the emulator. -/
theorem fvVssdToDomain_of_type {type : DomainType} {domtype : Option String}
    (h : fvDomainType sys inst.pfx = some (type, domtype)) (d : Domain) :
    fvVssdToDomain env sys inst d =
      ((bootDevices inst).replace d.osInfo.bootlist).bind fun bootlist =>
        if (vssdEmulator sys inst domtype).any fun path =>
            env.host.diskTypeFromFile path = .unknown then none
        else some (fvSetEmulator sys { d with
          type
          osInfo := { d.osInfo with
            arch := vssdArch sys inst
            machine := (inst.getStr "Machine").or
              (domtype.bind (sys.defaultMachine (vssdArch sys inst)))
            loader := if d.type = .xenpv then d.osInfo.cmdline else d.osInfo.loader
            bootlist } }
          (vssdEmulator sys inst domtype)) := by
  rw [fvVssdToDomain, h]
  rfl

theorem fvVssdToDomain_eq_none (h : fvDomainType sys inst.pfx = none) (d : Domain) :
    fvVssdToDomain env sys inst d = none := by
  rw [fvVssdToDomain, h]
  rfl

/-- The boot list that is replaced: by no devices, or by those that are given. -/
theorem replace_bootDevices (bootlist : List (Option String)) :
    (bootDevices inst).replace bootlist =
      if inst.getArray "BootDevices" = some [] ∧ bootlist ≠ [] then none
      else if none ∈ (inst.getArray "BootDevices").getD [] then none
      else some ((inst.getArray "BootDevices").getD []) := by
  unfold bootDevices
  -- by the property: not given, given and empty, or given with names
  cases hgiven : inst.getArray "BootDevices" with
  | none => rfl
  | some elems =>
    simp only [BootDevices.replace, List.map_eq_nil_iff, mapM_chars_map, Option.getD_some,
      Option.some.injEq]
    split
    · rfl
    -- a null element stops the copy
    · split
      · next hnull =>
        rw [mapM_id_eq_none hnull]
        rfl
      · next hnull =>
        obtain ⟨strs, rfl⟩ := exists_bootNames hnull
        rw [mapM_id_map_some]
        rfl

/-- The boot list is refused, or replaced by devices that are given and not null. -/
theorem replace_bootDevices_eq_none_iff (bootlist : List (Option String)) :
    (bootDevices inst).replace bootlist = none ↔
      (inst.getArray "BootDevices" = some [] ∧ bootlist ≠ []) ∨
        ∃ elems, inst.getArray "BootDevices" = some elems ∧ none ∈ elems := by
  rw [replace_bootDevices]
  -- each of the two failures is seen from the property alone
  split_ifs with hempty hnull
  · exact iff_of_true rfl (.inl hempty)
  · refine iff_of_true rfl (.inr ?_)
    cases hgiven : inst.getArray "BootDevices" with
    | none =>
      rw [hgiven] at hnull
      cases hnull
    | some elems =>
      rw [hgiven] at hnull
      exact ⟨elems, rfl, hnull⟩
  · refine iff_of_false (by simp) ?_
    -- and there is no third one
    rintro (hempty' | ⟨elems, hgiven, hmem⟩)
    · exact hempty hempty'
    · rw [hgiven] at hnull
      exact hnull hmem

/-- Settings of the type that are not accepted are refused. -/
theorem refused_of_typedVssdToDomain (h : typedVssdToDomain env sys inst d = none) :
    Refused env sys inst d.osInfo.bootlist := by
  unfold typedVssdToDomain at h
  -- the branches of vssd_to_domain that end in a failure
  split_ifs at h with hfull hconnect hxen hlxc haction
  · cases hknown : fvDomainType sys inst.pfx with
    | none => exact .hypervisor hfull hknown
    | some known =>
      obtain ⟨type, domtype⟩ := known
      rw [fvVssdToDomain_of_type env sys hknown] at h
      cases hboot : (bootDevices inst).replace d.osInfo.bootlist with
      | none =>
        obtain ⟨hempty, hlisted⟩ | ⟨elems, hgiven, hnull⟩ :=
          (replace_bootDevices_eq_none_iff _).mp hboot
        · exact .emptied hfull hempty hlisted
        · exact .nullDevice hfull hgiven hnull
      | some bootlist =>
        rw [hboot, Option.bind_some] at h
        split_ifs at h with hmissing
        -- the emulator is the only check that looks at the host's files
        obtain ⟨path, hchosen, hmissing⟩ := (Option.any_eq_true _ _).mp hmissing
        exact .emulator hfull hknown hchosen (of_decide_eq_true hmissing)
  · exact .connection hfull (by simpa using hconnect)
  · refine .action (by simpa using hfull) ?_ (by simpa [Option.isSome_iff_ne_none] using haction)
    -- not asked for full virtualisation, so the prefix is not KVM
    have hkvm : streqc inst.pfx "KVM" = false := by
      have hnot : ¬asksFullVirt inst = true := hfull
      unfold asksFullVirt at hnot
      simp at hnot
      exact hnot.2
    simp [supportedPrefix, hkvm, hxen, hlxc]

/-- Settings that are refused, but for the clock, are not accepted for the type. -/
theorem typedVssdToDomain_of_refused (h : Refused env sys inst d.osInfo.bootlist)
    (hclock : ∀ offset, inst.getU16 "ClockOffset" = some offset →
      vssdClocks.lookup offset ≠ none) :
    typedVssdToDomain env sys inst d = none := by
  -- without a list to replace the boot list by, there is no fully virtualized domain
  have hboot (full : asksFullVirt inst = true)
      (hnone : (bootDevices inst).replace d.osInfo.bootlist = none) :
      typedVssdToDomain env sys inst d = none := by
    unfold typedVssdToDomain
    rw [if_pos full]
    cases hknown : fvDomainType sys inst.pfx with
    | none => rw [fvVssdToDomain_eq_none env sys hknown, ite_self]
    | some known => rw [fvVssdToDomain_of_type env sys hknown, hnone, Option.bind_none, ite_self]
  -- each reason in turn ends the same function
  cases h with
  | emptied full given listed =>
    exact hboot full ((replace_bootDevices_eq_none_iff _).mpr (.inl ⟨given, listed⟩))
  | nullDevice full given null =>
    exact hboot full ((replace_bootDevices_eq_none_iff _).mpr (.inr ⟨_, given, null⟩))
  | clock given unknown => exact absurd unknown (hclock _ given)
  | connection full failed =>
    rw [typedVssdToDomain, if_pos full, failed, if_neg Bool.false_ne_true]
  | hypervisor full unknown =>
    rw [typedVssdToDomain, if_pos full, fvVssdToDomain_eq_none env sys unknown, ite_self]
  | emulator full known chosen missing =>
    rw [typedVssdToDomain, if_pos full, fvVssdToDomain_of_type env sys known, chosen,
      Option.any_some]
    simp only [if_pos (decide_eq_true missing), Option.bind_fun_none, ite_self]
  | action notFull unknown given =>
    unfold typedVssdToDomain
    unfold supportedPrefix at unknown
    rw [Bool.or_eq_false_iff, Bool.or_eq_false_iff] at unknown
    obtain ⟨⟨-, hxen⟩, hlxc⟩ := unknown
    rw [notFull, hxen, hlxc, ← Option.not_isSome, given]
    rfl

/-- **What is refused.** Of the domain, only the boot list has a part in it. -/
theorem vssdToDomain_eq_none_iff (inst : Instance) (d : Domain) :
    vssdToDomain env sys inst d = none ↔
      (inst.getStr "VirtualSystemIdentifier").isSome ∧ Refused env sys inst d.osInfo.bootlist := by
  -- without a name the settings are not read at all
  cases hname : inst.getStr "VirtualSystemIdentifier" with
  | none =>
    rw [vssdToDomain, hname]
    exact iff_of_false (by simp) (by simp)
  | some name =>
    rw [vssdToDomain_of_name env sys hname]
    -- the clock is translated before the type
    cases hclock : clockVssdToDomain inst (commonVssdToDomain inst name d) with
    | none =>
      obtain ⟨offset, given, unknown⟩ := (clockVssdToDomain_eq_none_iff _).mp hclock
      exact iff_of_true rfl ⟨rfl, .clock given unknown⟩
    | some next =>
      rw [Option.bind_some]
      -- what follows only sees the new clock in the domain
      obtain ⟨-, clock, rfl⟩ := clockVssdToDomain_eq_some hclock
      refine ⟨fun h => ?_, fun h => ?_⟩
      · have hrefused := refused_of_typedVssdToDomain env sys h
        exact ⟨rfl, hrefused⟩
      refine typedVssdToDomain_of_refused env sys h.2 fun offset given unknown => ?_
      rw [(clockVssdToDomain_eq_none_iff _).mpr ⟨offset, given, unknown⟩] at hclock
      cases hclock

/-! ### Settings that are accepted -/

/-- What is set for all types, and the type of the operating system. -/
structure KeepsCommon (d d' : Domain) : Prop where
  name : d'.name = d.name
  uuid : d'.uuid = d.uuid
  onPoweroff : d'.onPoweroff = d.onPoweroff
  onCrash : d'.onCrash = d.onCrash
  acpi : d'.acpi = d.acpi
  apic : d'.apic = d.apic
  pae : d'.pae = d.pae
  clock : d'.clock = d.clock
  osType : d'.osInfo.type = d.osInfo.type

/-- The emulator is all that is set, whatever is in the union. -/
theorem fvSetEmulator_osInfo (d : Domain) (emu : Option String) :
    ∃ devEmu, ∀ osInfo, fvSetEmulator sys { d with osInfo } emu = { d with devEmu, osInfo } := by
  refine ⟨(fvSetEmulator sys d emu).devEmu, fun osInfo => ?_⟩
  unfold fvSetEmulator
  cases if d.type = .xenfv then emu.or (some sys.xenEmulator) else emu <;> rfl

/-- An emulator that is given is that of the domain. -/
theorem emulatorPath_fvSetEmulator (d : Domain) (path : String) :
    emulatorPath (fvSetEmulator sys d (some path)) = some path := by
  have hchosen : (if d.type = .xenfv then (some path).or (some sys.xenEmulator) else some path) =
      some path := by
    rw [Option.some_or, ite_self]
  rw [fvSetEmulator, hchosen]
  rfl

/-- **What a fully virtualized domain is.** The word of the loader is left alone. -/
theorem fvVssdToDomain_eq_some (h : fvVssdToDomain env sys inst d = some d') :
    KeepsCommon d d' ∧ CarriesFv sys inst d' ∧
      d'.osInfo.loader = if d.type = .xenpv then d.osInfo.cmdline else d.osInfo.loader := by
  -- the type is known, and the list and the emulator have passed
  cases hknown : fvDomainType sys inst.pfx with
  | none =>
    rw [fvVssdToDomain_eq_none env sys hknown] at h
    cases h
  | some known =>
    obtain ⟨type, domtype⟩ := known
    rw [fvVssdToDomain_of_type env sys hknown] at h
    obtain ⟨bootlist, hboot, h⟩ := Option.bind_eq_some_iff.mp h
    obtain ⟨-, h⟩ := Option.ite_none_left_eq_some.mp h
    rw [replace_bootDevices] at hboot
    obtain ⟨-, hboot⟩ := Option.ite_none_left_eq_some.mp hboot
    obtain ⟨hnull, hboot⟩ := Option.ite_none_left_eq_some.mp hboot
    cases hboot
    -- an emulator that is given goes before the default
    have hemulator (path : String) (hpath : inst.getStr "Emulator" = some path) :
        emulatorPath d' = some path := by
      have hchosen : vssdEmulator sys inst domtype = some path := by
        rw [vssdEmulator, hpath, Option.some_or]
      rw [← Option.some.inj h, hchosen]
      exact emulatorPath_fvSetEmulator sys _ path
    obtain ⟨devEmu, heq⟩ := fvSetEmulator_osInfo sys { d with type } (vssdEmulator sys inst domtype)
    obtain rfl := (Option.some.inj h).symm.trans (heq _)
    exact ⟨⟨rfl, rfl, rfl, rfl, rfl, rfl, rfl, rfl, rfl⟩,
      ⟨⟨rfl, hnull⟩, rfl, ⟨domtype, hknown, rfl⟩, hemulator⟩, rfl⟩

/-- The types of full virtualization use the same member. -/
theorem osMember_of_fvDomainType {pfx : String} {type : DomainType} {domtype : Option String}
    (h : fvDomainType sys pfx = some (type, domtype)) : osMember type = some .fv := by
  unfold fvDomainType at h
  split_ifs at h <;> cases h <;> rfl

theorem streqc_kvm_of_not_asksFullVirt (h : asksFullVirt inst = false) :
    streqc inst.pfx "KVM" = false :=
  (Bool.or_eq_false_iff.mp h).2

/-- **What the settings of a supported type make of a domain.** -/
theorem typedVssdToDomain_eq_some (hsupported : supportedPrefix inst = true)
    (h : typedVssdToDomain env sys inst d = some d') :
    KeepsCommon d d' ∧ vssdDomainType sys inst = some d'.type ∧ CarriesOs sys inst d' ∧
      osMember d'.type = some (vssdMember inst) ∧
      (vssdMember inst = .fv → d'.osInfo.loader =
        if d.type = .xenpv then d.osInfo.cmdline else d.osInfo.loader) := by
  unfold typedVssdToDomain at h
  unfold vssdDomainType vssdMember CarriesOs
  -- by the kind of guest: fully virtual, paravirtual, container
  split_ifs at h with hfull hconnect hxen hlxc haction
  -- fully virtual: the member is the one of the type that was found
  · obtain ⟨hkeeps, hcarries, hloader⟩ := fvVssdToDomain_eq_some env sys h
    obtain ⟨domtype, hknown, -⟩ := hcarries.machine
    have hmember := osMember_of_fvDomainType sys hknown
    rw [if_pos hfull, if_pos hfull, hmember, hknown]
    exact ⟨hkeeps, rfl, hcarries, rfl, fun _ => hloader⟩
  -- a paravirtual guest of Xen
  · cases h
    rw [if_neg hfull, if_neg hfull, if_pos hxen, if_pos hxen]
    exact ⟨⟨rfl, rfl, rfl, rfl, rfl, rfl, rfl, rfl, rfl⟩, rfl, ⟨rfl, rfl, rfl, rfl, rfl⟩, rfl,
      fun hnot => by cases hnot⟩
  -- a container
  · cases h
    rw [if_neg hfull, if_neg hfull, if_neg hxen, if_neg hxen, if_pos hlxc]
    exact ⟨⟨rfl, rfl, rfl, rfl, rfl, rfl, rfl, rfl, rfl⟩, rfl, rfl, rfl,
      fun hnot => by cases hnot⟩
  · -- there is no other prefix that is supported
    have hkvm := streqc_kvm_of_not_asksFullVirt (Bool.eq_false_iff.mpr hfull)
    unfold supportedPrefix at hsupported
    rw [hkvm, Bool.eq_false_iff.mpr hxen, Bool.eq_false_iff.mpr hlxc] at hsupported
    cases hsupported

/-- **A domain carries the settings** of a supported type that are accepted, and the words of
the union that they do not set stay. -/
theorem carries_of_vssdToDomain (hsupported : supportedPrefix inst = true)
    (hname : inst.getStr "VirtualSystemIdentifier" = some name) {u : OsUnion}
    (h : vssdToDomain env sys inst (d.withOs u) = some d') :
    Carries sys inst d' ∧ osMember d'.type = some (vssdMember inst) ∧
      d'.osInfo.type = u.type ∧ (vssdMember inst = .fv → d'.osInfo.loader = u.fourth) := by
  rw [vssdToDomain_of_name env sys hname] at h
  obtain ⟨next, hclock, htyped⟩ := Option.bind_eq_some_iff.mp h
  obtain ⟨hgiven, clock, rfl⟩ := clockVssdToDomain_eq_some hclock
  obtain ⟨hkeeps, htype, hos, hmember, hloader⟩ :=
    typedVssdToDomain_eq_some env sys hsupported htyped
  -- what the common part has set, the typed part keeps
  refine ⟨?_, hmember, hkeeps.osType, fun hfv => (hloader hfv).trans (ite_self _)⟩
  exact {
    name := ⟨by rw [hkeeps.name]; rfl, by rw [hkeeps.name, hname]; rfl⟩
    type := htype
    uuid := fun uuid huuid => by
      rw [hkeeps.uuid]
      show (inst.getStr "UUID").or _ = _
      rw [huuid, Option.some_or]
    onPoweroff := hkeeps.onPoweroff
    onCrash := hkeeps.onCrash
    -- the flags are set where they are given, and stay as they were where they are not
    acpi := fun value hvalue => by
      rw [hkeeps.acpi]
      show (inst.getBool "EnableACPI").getD _ = _
      rw [hvalue, Option.getD_some]
    apic := fun value hvalue => by
      rw [hkeeps.apic]
      show (inst.getBool "EnableAPIC").getD _ = _
      rw [hvalue, Option.getD_some]
    pae := fun value hvalue => by
      rw [hkeeps.pae]
      show (inst.getBool "EnablePAE").getD _ = _
      rw [hvalue, Option.getD_some]
    clock := fun offset hoffset => by
      obtain ⟨clock', hlookup, hset⟩ := hgiven offset hoffset
      exact ⟨clock', hlookup, hkeeps.clock.trans hset⟩
    os := hos }

/-- The clock does not depend on the union. -/
theorem clockVssdToDomain_osInfo (d : Domain) (osInfo : OsInfo) :
    clockVssdToDomain inst { d with osInfo } =
      (clockVssdToDomain inst d).map fun next => { next with osInfo } := by
  unfold clockVssdToDomain
  cases inst.getU16 "ClockOffset" with
  | none => rfl
  | some offset =>
    rw [Option.map_map]
    rfl

/-- The words that are left alone are the same, wherever the fields are kept. -/
theorem used_typedVssdToDomain (d : Domain) (os : OsInfo) :
    (typedVssdToDomain env sys inst { d with osInfo := (OsUnion.store d.type os).read }).map
        Domain.used =
      (typedVssdToDomain env sys inst { d with osInfo := os.used d.type }).map Domain.used := by
  unfold typedVssdToDomain
  split_ifs with hfull hconnect hxen hlxc haction
  -- only the fully virtual branch reads what the union held before
  · cases hknown : fvDomainType sys inst.pfx with
    | none => rw [fvVssdToDomain_eq_none env sys hknown, fvVssdToDomain_eq_none env sys hknown]
    | some known =>
      obtain ⟨type, domtype⟩ := known
      have hmember := osMember_of_fvDomainType sys hknown
      -- the boot list is not among the words that are shared
      have hlist : (OsUnion.store d.type os).read.bootlist = (os.used d.type).bootlist := by
        unfold OsUnion.store OsInfo.used
        cases d.type <;> rfl
      rw [fvVssdToDomain_of_type env sys hknown, fvVssdToDomain_of_type env sys hknown]
      dsimp only
      rw [hlist]
      -- so both lists are replaced alike
      cases (bootDevices inst).replace (os.used d.type).bootlist with
      | none => rfl
      | some bootlist =>
      rw [Option.bind_some, Option.bind_some]
      split
      · rfl
      -- what is read back depends on the type that was written
      · have hused (osInfo : OsInfo) :
            (fvSetEmulator sys { d with type, osInfo } (vssdEmulator sys inst domtype)).used =
              { fvSetEmulator sys { d with type } (vssdEmulator sys inst domtype) with
                osInfo := osInfo.used type } := by
          obtain ⟨devEmu, heq⟩ := fvSetEmulator_osInfo sys { d with type }
            (vssdEmulator sys inst domtype)
          have hnew : fvSetEmulator sys { d with type } (vssdEmulator sys inst domtype) = _ :=
            heq d.osInfo
          rw [heq osInfo, hnew]
          rfl
        rw [Option.map_some, Option.map_some, hused, hused]
        unfold OsInfo.used
        rw [hmember]
        cases d.type <;> rfl
  · rfl
  -- the other branches write every word that they read back
  · cases d.type <;> rfl
  · cases d.type <;> rfl
  · rw [Option.map_some, Option.map_some]
    unfold Domain.used OsInfo.used OsUnion.store
    cases d.type <;> rfl
  · rfl

/-- **The fields of the union can be kept apart**: a domain that has only the settings of its type
is given new ones as if they were kept in the words of the union. -/
theorem used_vssdToDomain (inst : Instance) (d : Domain) :
    (vssdToDomain env sys inst (d.withOs (.store d.type d.osInfo))).map Domain.used =
      (vssdToDomain env sys inst d.used).map Domain.used := by
  cases hname : inst.getStr "VirtualSystemIdentifier" with
  -- the name decides whether the union is touched
  | none =>
    rw [vssdToDomain, vssdToDomain, hname]
    show some _ = some _
    rw [Domain.used_withOs, Domain.used_used]
  | some name =>
    rw [vssdToDomain_of_name env sys hname, vssdToDomain_of_name env sys hname]
    -- the common part does not look at the union
    have hcommon (osInfo : OsInfo) : clockVssdToDomain inst
        (commonVssdToDomain inst name { d with osInfo }) =
          (clockVssdToDomain inst (commonVssdToDomain inst name d)).map
            fun next => { next with osInfo } :=
      clockVssdToDomain_osInfo (commonVssdToDomain inst name d) osInfo
    unfold Domain.withOs Domain.used
    rw [hcommon (OsUnion.store d.type d.osInfo).read, hcommon (d.osInfo.used d.type)]
    cases hclock : clockVssdToDomain inst (commonVssdToDomain inst name d) with
    | none => rfl
    | some next =>
      obtain ⟨-, clock, rfl⟩ := clockVssdToDomain_eq_some hclock
      exact used_typedVssdToDomain env sys { commonVssdToDomain inst name d with clock } d.osInfo

end Translation

/-! ### Complete settings -/

/-- Nothing that is left in the union is read as something else: if the type of a domain uses
another member than it did, the words that are not set are null. -/
def NothingReread (d d' : Domain) : Prop :=
  osMember d'.type ≠ osMember d.type →
    d'.osInfo.type = none ∧ (osMember d'.type = some .fv → d'.osInfo.loader = none)

/-- `DefineSystem` starts from a domain, a new one or one that is copied, with a boot list. -/
def StartsFrom (refconf : Option RefConf) (w : World Live) (bootlist : List (Option String)) :
    Prop :=
  ∃ start, (domainToStart env refconf w).1 = .ok start ∧ start.osInfo.bootlist = bootlist

/-- **Only complete settings are accepted**, for a domain with the words of its union: a domain
that is made carries the settings of a supported type, and nothing of another type; and with
settings that are refused a `DefineSystem` that starts from a domain with the same boot list is an
error and does nothing. -/
structure OnlyComplete (inst : Instance) (d : Domain) (u : OsUnion) : Prop where
  complete : ∀ d', vssdToDomain env sys inst (d.withOs u) = some d' →
    supportedPrefix inst = true ∧ Carries sys inst d' ∧ NothingReread d d'
  refused : vssdToDomain env sys inst (d.withOs u) = none →
    ∀ (stopped : Live) (guestOfUuid : Option String → Option String) (objectPath : Option CmpiErr)
      (args : DefineArgs) (res : List Instance) (refconf : Option RefConf) (w : World Live),
      args.parse = .ok (inst, res, refconf) → StartsFrom env refconf w u.bootlist →
      ∃ e, defineSystemMethod env sys stopped guestOfUuid objectPath args (w, []) =
        (.error e, w, [])

/-- Settings that are refused for the boot list that `DefineSystem` starts with. -/
theorem defineSystemMethod_of_refused {inst : Instance} {d : Domain} {u : OsUnion}
    (h : vssdToDomain env sys inst (d.withOs u) = none) (stopped : Live)
    (guestOfUuid : Option String → Option String) (objectPath : Option CmpiErr)
    {args : DefineArgs} {res : List Instance} {refconf : Option RefConf} (w : World Live)
    (hparse : args.parse = .ok (inst, res, refconf))
    (hstarts : StartsFrom env refconf w u.bootlist) :
    ∃ e, defineSystemMethod env sys stopped guestOfUuid objectPath args (w, []) =
      (.error e, w, []) := by
  -- the request describes no domain
  refine defineSystemMethod_of_not_described env sys stopped guestOfUuid objectPath ?_
  rintro domain ⟨inst', res', refconf', start, hparse', hstart, hnew⟩
  rw [hparse] at hparse'
  cases hparse'
  obtain ⟨start', hstart', hlist⟩ := hstarts
  -- the domain to start from is the one its settings are read into
  cases hstart.symm.trans hstart'
  -- whether it is refused depends on the boot list alone
  have hrefused : vssdToDomain env sys inst start = none := by
    rw [vssdToDomain_eq_none_iff] at h ⊢
    rw [hlist]
    exact h
  unfold newDomain at hnew
  rw [hrefused] at hnew
  cases hnew

end LibvirtCim.Service
