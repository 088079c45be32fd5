import LibvirtCim.Device.DiskRoundTrip
import LibvirtCim.Rasd.SentBack

/-!
# Disks that are sent back

`disk_rasd_to_vdev` builds the disk anew. It takes over most fields as they are in the setting
(`diskRasdToVdev_own`); the device name goes through a number, and the kind of file is looked up
at the source again. `disk_unmodified_iff` says for which disks nothing is changed by this.
-/

open Framework LibvirtCim.Device

namespace LibvirtCim.Rasd

/-- The number of an emulated type: a name that is not known is that of a disk. -/
def emulatedType (device : Option String) : UInt16 :=
  if device = some "cdrom" then 1
  else if device = some "floppy" then 2
  else if device = some "lun" then 4
  else 0

/-- The name that the number is read as. -/
def emulatedName (device : Option String) : String :=
  if device = some "cdrom" then "cdrom"
  else if device = some "floppy" then "floppy"
  else if device = some "lun" then "lun"
  else "disk"

theorem lookup_emulatedType (device : Option String) :
    virtDiskTypes.lookup (emulatedType device) = some (emulatedName device) := by
  unfold emulatedType emulatedName
  split_ifs <;> rfl

theorem some_emulatedName_iff {device : Option String} :
    some (emulatedName device) = device ↔
      device ∈ [some "disk", some "cdrom", some "floppy", some "lun"] := by
  unfold emulatedName
  split_ifs with hcdrom hfloppy hlun
  · simp [hcdrom]
  · simp [hfloppy]
  · simp [hlun]
  · simp only [List.mem_cons, hcdrom, hfloppy, hlun, List.not_mem_nil, or_false]
    exact eq_comm

/-- **The disk that is read** off its own setting: all fields but the device name, the source and
the kind of file are taken over as they are. -/
theorem diskRasdToVdev_own (info : DomainInfo) (host : Host) {pfx name : String}
    {id : Option String} {dev : DiskDevice} {virtualDev source : String}
    (hvirtual : dev.virtualDev = some virtualDev) (hsource : dev.source = some source) :
    diskRasdToVdev host (setDiskRasdParams info dev (settingBase pfx name .disk id)) =
      (diskSourceOfRasd host virtualDev source (emulatedType dev.device)).map fun found =>
        { dev := { dev with
            type := none
            device := some (emulatedName dev.device)
            source := some found.1
            diskType := found.2 }
          id := some virtualDev } := by
  -- the device is written as a number, and read back as the name of that number
  have htype : (setDiskRasdParams info dev (settingBase pfx name .disk id)).getU16 "EmulatedType" =
      some (emulatedType dev.device) := by
    simp [Instance.getU16, setDiskRasdParams, get_setRasdDeviceAddress, emulatedType]
  have haddress : rasdToDeviceAddress
      (setDiskRasdParams info dev (settingBase pfx name .disk id)) [] = .ok dev.address := by
    unfold setDiskRasdParams
    dsimp only
    rw [rasdToDeviceAddress_set, List.nil_append]
    simp [get_settingBase]
  -- strings and flags are found as they were set
  have hstr (prop : String) (value : Option String)
      (h : (setDiskRasdParams info dev (settingBase pfx name .disk id)).get prop =
        value.map CmpiValue.string) := getStr_of_get h
  have hbool (prop : String) (flag : Bool)
      (h : (setDiskRasdParams info dev (settingBase pfx name .disk id)).get prop =
        if flag then some (.boolean flag) else none) := getBool_of_get h
  unfold diskRasdToVdev
  rw [htype, haddress, hstr "VirtualDevice" dev.virtualDev, hstr "Address" dev.source,
    hstr "BusType" dev.busType, hstr "DriverName" dev.driver, hstr "DriverType" dev.driverType,
    hstr "DriverCache" dev.cache, hstr "AccessMode" dev.accessMode, hstr "rawio" dev.rawio,
    hstr "sgio" dev.sgio, hbool "readonly" dev.readonly, hbool "shareable" dev.shareable]
  -- both names are there, so the search for the source decides the rest
  · rw [hvirtual, hsource]
    dsimp only [Option.getD]
    cases diskSourceOfRasd host virtualDev source (emulatedType dev.device) with
    | error e => rfl
    | ok found =>
      obtain ⟨source', diskType⟩ := found
      dsimp only [bind, Except.bind]
      rw [lookup_emulatedType]
      rfl
  all_goals simp [setDiskRasdParams, get_setRasdDeviceAddress, get_settingBase]

/-- The kinds of element differ. -/
theorem diskType_of_diskXmlOf {dev dev' : DiskDevice} (h : diskXmlOf dev' = diskXmlOf dev)
    (hknown : dev.diskType ≠ .unknown) : dev'.diskType = dev.diskType := by
  unfold diskXmlOf at h
  cases hnew : dev'.diskType <;> cases hold : dev.diskType <;>
    first
    | rfl
    | exact absurd hold hknown
    | simp [hnew, hold, diskBlockXml, diskFileXml, diskFsXml] at h

/-- A `disk` has its device name as an attribute. -/
theorem device_of_diskXmlOf {dev dev' : DiskDevice} (h : diskXmlOf dev' = diskXmlOf dev)
    (hkind : dev.diskType = .phy ∨ dev.diskType = .file) : dev'.device = dev.device := by
  -- the generator goes by the type of the source, so the two types agree
  have hsame : dev'.diskType = dev.diskType := by
    refine diskType_of_diskXmlOf h ?_
    rintro hunknown
    rw [hunknown] at hkind
    exact absurd hkind (by decide)
  unfold diskXmlOf at h
  rw [hsame] at h
  -- of the two elements, the device is one attribute
  obtain hphy | hfile := hkind
  · rw [hphy] at h
    have hattrs := congrArg (fun node => node.attr "device")
      (List.head_eq_of_cons_eq (Except.ok.inj h))
    simpa [diskBlockXml, Node.attr] using hattrs
  · rw [hfile] at h
    have hattrs := congrArg (fun node => node.attr "device")
      (List.head_eq_of_cons_eq (Except.ok.inj h))
    simpa [diskFileXml, Node.attr] using hattrs

/-- The device name of a file system is not written. -/
theorem diskXmlOf_device {dev : DiskDevice} {device : Option String}
    (h : dev.diskType = .fs ∨ device = dev.device) :
    diskXmlOf { dev with type := none, device } = diskXmlOf dev := by
  obtain hfs | rfl := h
  · unfold diskXmlOf
    rw [hfs]
    rfl
  · unfold diskXmlOf
    cases dev.diskType <;> rfl

/-- **The disks that come back.** The kind of file is looked up again, and a cdrom device may be
without a disk, which is one kind of file only. -/
def DiskFits (host : Host) (dev : DiskDevice) : Prop :=
  ∃ source, dev.source = some source ∧
    (dev.diskType = .fs ∨
      dev.device ∈ [some "disk", some "cdrom", some "floppy", some "lun"]) ∧
    if dev.device = some "cdrom" then
      if source = "" then dev.diskType = .file
      else source ≠ "/dev/null" ∧ (dev.diskType = host.diskTypeFromFile source ∨
        dev.diskType = .phy ∧ host.diskTypeFromFile source = .unknown)
    else dev.diskType = host.diskTypeFromFile source

/-- What a disk is found as, compared with what it was. -/
def FoundAs (dev : DiskDevice) (found : String × DiskType) : Prop :=
  diskXmlOf { dev with
    type := none
    device := some (emulatedName dev.device)
    source := some found.1
    diskType := found.2 } = diskXmlOf dev

theorem foundAs_self_iff {dev : DiskDevice} {source : String} (hsource : dev.source = some source)
    (hknown : dev.diskType ≠ .unknown) (diskType : DiskType) :
    FoundAs dev (source, diskType) ↔ diskType = dev.diskType ∧
      (dev.diskType = .fs ∨
        dev.device ∈ [some "disk", some "cdrom", some "floppy", some "lun"]) := by
  unfold FoundAs
  rw [← some_emulatedName_iff, ← hsource]
  constructor
  -- the same element has the same type, and outside a filesystem the same device
  · intro h
    have htype : diskType = dev.diskType := diskType_of_diskXmlOf h hknown
    refine ⟨htype, ?_⟩
    by_cases hfs : dev.diskType = .fs
    · exact .inl hfs
    · refine .inr (device_of_diskXmlOf h ?_)
      cases hkind : dev.diskType with
      | unknown => exact absurd hkind hknown
      | phy => exact .inl rfl
      | file => exact .inr rfl
      | fs => exact absurd hkind hfs
  · rintro ⟨rfl, hdevice⟩
    exact diskXmlOf_device hdevice

/-- A cdrom device in which `/dev/null` was found to be no disk. -/
theorem foundAs_empty_iff {dev : DiskDevice} {source : String} (hsource : dev.source = some source)
    (hcdrom : dev.device = some "cdrom") (hknown : dev.diskType ≠ .unknown) :
    FoundAs dev ("", .file) ↔ source = "" ∧ dev.diskType = .file := by
  constructor
  · intro h
    have htype : DiskType.file = dev.diskType := diskType_of_diskXmlOf h hknown
    refine ⟨?_, htype.symm⟩
    by_contra hne
    unfold FoundAs diskXmlOf at h
    rw [← htype] at h
    simp [diskFileXml, hcdrom, hsource, hne, emulatedName, diskDriverXml, diskTargetXml] at h
  · rintro ⟨rfl, htype⟩
    refine (foundAs_self_iff hsource hknown .file).mpr ⟨htype.symm, .inr ?_⟩
    rw [hcdrom]
    decide

/-- **When the source is found as it was.** -/
theorem diskFits_iff (host : Host) {dev : DiskDevice} {virtualDev source : String}
    (hsource : dev.source = some source) (hknown : dev.diskType ≠ .unknown) :
    (∃ found, diskSourceOfRasd host virtualDev source (emulatedType dev.device) = .ok found ∧
      FoundAs dev found) ↔ DiskFits host dev := by
  -- the condition with the source put in, as the cases below read it
  have hfits : DiskFits host dev ↔ (dev.diskType = .fs ∨
      dev.device ∈ [some "disk", some "cdrom", some "floppy", some "lun"]) ∧
      if dev.device = some "cdrom" then
        if source = "" then dev.diskType = .file
        else source ≠ "/dev/null" ∧ (dev.diskType = host.diskTypeFromFile source ∨
          dev.diskType = .phy ∧ host.diskTypeFromFile source = .unknown)
      else dev.diskType = host.diskTypeFromFile source := by
    unfold DiskFits
    rw [hsource]
    simp only [Option.some.injEq, exists_eq_left']
  rw [hfits]
  by_cases hcdrom : dev.device = some "cdrom"
  · -- a cdrom device is never refused
    have hlisted : dev.device ∈ [some "disk", some "cdrom", some "floppy", some "lun"] := by
      rw [hcdrom]
      decide
    have htype : emulatedType dev.device = 1 := if_pos hcdrom
    rw [htype, if_pos hcdrom, and_iff_right (.inr hlisted)]
    -- a cdrom may be without a source, or with one that is no file
    unfold diskSourceOfRasd
    rw [if_neg (fun h => absurd h.1 (by decide)), if_pos rfl]
    by_cases hempty : source = ""
    · rw [if_pos hempty, if_pos hempty, exists_ok_iff, foundAs_self_iff hsource hknown,
        and_iff_left (.inr hlisted), eq_comm]
    · rw [if_neg hempty, if_neg hempty]
      by_cases hnull : source = "/dev/null"
      · rw [if_pos hnull, exists_ok_iff, foundAs_empty_iff hsource hcdrom hknown]
        exact iff_of_false (fun h => hempty h.1) fun h => h.1 hnull
      · rw [if_neg hnull, and_iff_right hnull]
        by_cases hunknown : host.diskTypeFromFile source = .unknown
        · rw [if_pos hunknown, exists_ok_iff, foundAs_self_iff hsource hknown,
            and_iff_left (.inr hlisted), hunknown]
          simp [hknown, eq_comm]
        · rw [if_neg hunknown, exists_ok_iff, foundAs_self_iff hsource hknown,
            and_iff_left (.inr hlisted)]
          simp [hunknown, eq_comm]
  -- another disk is refused where its source is of no known type
  · rw [if_neg hcdrom]
    have htype : emulatedType dev.device ≠ 1 := by
      unfold emulatedType
      rw [if_neg hcdrom]
      split_ifs <;> decide
    unfold diskSourceOfRasd
    dsimp only
    rw [if_neg htype]
    split_ifs with hrefused
    · refine iff_of_false (by simp) fun h => hknown ?_
      rw [h.2, hrefused.2]
    · rw [exists_ok_iff, foundAs_self_iff hsource hknown, and_comm,
        @eq_comm _ (host.diskTypeFromFile source)]

/-- **A disk or a file system that is sent back.** The setting has what the translator asks for,
so it depends on the source, whose type is looked up again from the file (`diskFits_iff`). No
setting carries the mount point a container needs. -/
theorem disk_unmodified_iff (info : DomainInfo) (host : Host) (domtype : DomainType)
    (pfx name : String) {node : Node} {dev : VirtDevice DiskDevice}
    (h : parseDiskDevice node = .ok dev) :
    Unmodified info host domtype pfx name .disk dev ↔ domtype ≠ .lxc ∧ DiskFits host dev.dev := by
  -- what was parsed has a target, a source and a type
  obtain ⟨htype, virtualDev, source, hvirtual, hsource, hknown⟩ : dev.type = .disk ∧
      ∃ virtualDev source, dev.dev.virtualDev = some virtualDev ∧ dev.dev.source = some source ∧
        dev.dev.diskType ≠ .unknown := by
    obtain ⟨-, hblock⟩ | ⟨-, hfs⟩ := parseDiskDevice_ok h
    · obtain ⟨hparsed, htype, hid, hsome, hkind⟩ := parseBlockDevice_ok hblock
      obtain ⟨virtualDev, hvirtual⟩ := Option.isSome_iff_exists.mp (hid ▸ hsome)
      obtain ⟨hunknown, -⟩ | ⟨-, hsource⟩ := hparsed.source
      · rw [hunknown] at hkind
        exact absurd hkind (by decide)
      · obtain ⟨source, hsource⟩ := Option.isSome_iff_exists.mp hsource
        refine ⟨htype, virtualDev, source, hvirtual, hsource, fun hunknown => ?_⟩
        rw [hunknown] at hkind
        exact absurd hkind (by decide)
    · obtain ⟨-, htype, hid, hsome, hsource, hkind⟩ := parseFsDevice_ok hfs
      obtain ⟨virtualDev, hvirtual⟩ := Option.isSome_iff_exists.mp (hid ▸ hsome)
      obtain ⟨source, hsource⟩ := Option.isSome_iff_exists.mp hsource
      refine ⟨htype, virtualDev, source, hvirtual, hsource, fun hunknown => ?_⟩
      rw [hunknown] at hkind
      exact absurd hkind (by decide)
  rw [unmodified_iff (rasdFromVdev_eq info pfx name htype)]
  -- a container's reader wants a mount point, which no disk setting has
  by_cases hlxc : domtype = .lxc
  · refine iff_of_false ?_ fun h => h.1 hlxc
    rintro ⟨dev', hread, -⟩
    rw [if_pos hlxc] at hread
    change lxcDiskRasdToVdev _ dev = .ok dev' at hread
    unfold lxcDiskRasdToVdev at hread
    have hmount : (setRasdParams info .disk dev.dev (settingBase pfx name .disk dev.id)).getStr
        "MountPoint" = none := by
      refine getStr_of_get ?_
      simp [setRasdParams, setDiskRasdParams, get_setRasdDeviceAddress, get_settingBase]
    rw [hmount] at hread
    cases hread
  -- a machine's reader finds the source again by its path
  · rw [and_iff_right hlxc, ← @diskFits_iff host dev.dev virtualDev _ hsource hknown, if_neg hlxc]
    change (∃ dev', diskRasdToVdev host (setDiskRasdParams info dev.dev
      (settingBase pfx name .disk dev.id)) = .ok dev' ∧ diskXmlOf dev'.dev = diskXmlOf dev.dev) ↔ _
    rw [diskRasdToVdev_own info host hvirtual hsource]
    unfold FoundAs
    cases diskSourceOfRasd host virtualDev source (emulatedType dev.dev.device) with
    | error e => exact iff_of_false not_exists_ok not_exists_ok
    | ok found =>
      constructor
      · rintro ⟨dev', hread, hsame⟩
        cases hread
        exact ⟨found, rfl, hsame⟩
      · rintro ⟨found', hfound, hsame⟩
        cases hfound
        exact ⟨_, rfl, hsame⟩

/-- A cdrom device without a disk in it. -/
def emptyDrive : Node :=
  .elem "disk" [("type", "file"), ("device", "cdrom")] [.elem "target" [("dev", "hdc")] []]

theorem disk_unmodified_emptyDrive : Unmodified quietInfo quietHost .kvm "KVM" "guest" .disk
    { type := .disk
      dev := { type := some "file", device := some "cdrom", source := some ""
               virtualDev := some "hdc"
               diskType := .file }
      id := some "hdc" } := by
  have h : parseDiskDevice emptyDrive = .ok
      { type := .disk
        dev := { type := some "file", device := some "cdrom", source := some ""
                 virtualDev := some "hdc", diskType := .file }
        id := some "hdc" } := by
    rfl
  exact (disk_unmodified_iff quietInfo quietHost .kvm "KVM" "guest" h).mpr
    ⟨by decide, "", rfl, by decide, by decide⟩

end LibvirtCim.Rasd
