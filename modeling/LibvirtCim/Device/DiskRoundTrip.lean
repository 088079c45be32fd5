import LibvirtCim.Device.ReadBack

/-!
# Disks through the generator and back

What `parse_disk_device` makes of the element `disk_xml` writes for a device it
parsed. The two directions do not meet exactly, mostly on purpose: the generator
names only the two types `block` and `file`, it leaves the type of a file system to
libvirt, and it writes no source for `/dev/null`. A repeated address key is read back
with its first value.

The parsers are folds over children. Backwards, `parseBlockChild_cases` says once what
a child can change, and the invariants `BlockParsed` and `FsParsed` follow from it.
Forwards, each part of a generated element has one lemma on what the fold does with it.
-/

open Framework

namespace LibvirtCim.Device

/-! ### What the parsers produce -/

/-- What one child of a disk can change. -/
theorem parseBlockChild_cases {s t : DiskDevice} {child : Node}
    (h : parseBlockChild s child = .ok t) :
    (∃ name type cache, t = { s with driver := some name, driverType := type, cache := cache }) ∨
    (∃ source type, (type = .phy ∨ type = .file) ∧
      t = { s with source := some source, diskType := type }) ∨
    (∃ dev bus, t = { s with virtualDev := some dev, busType := bus }) ∨
    t = { s with readonly := true } ∨ t = { s with shareable := true } ∨
    (∃ addr, t = { s with address := addr }) ∨ t = s := by
  unfold parseBlockChild at h
  -- the elements in the order in which the loop of the parser asks for them
  -- a driver, which must have a name
  split at h
  · split at h
    · exact nomatch h
    · cases h
      exact .inl ⟨_, _, _, rfl⟩
  -- a source, of a file or of a device
  split at h
  · split at h
    · cases h
      exact .inr (.inl ⟨_, _, .inr rfl, rfl⟩)
    · split at h
      · cases h
        exact .inr (.inl ⟨_, _, .inl rfl, rfl⟩)
      · exact nomatch h
  -- a target, which must have a device
  split at h
  · split at h
    · exact nomatch h
    · cases h
      exact .inr (.inr (.inl ⟨_, _, rfl⟩))
  -- the two flags have no attributes
  split at h
  · cases h
    exact .inr (.inr (.inr (.inl rfl)))
  split at h
  · cases h
    exact .inr (.inr (.inr (.inr (.inl rfl))))
  -- an address, or a child that is not known
  split at h
  · cases h
    exact .inr (.inr (.inr (.inr (.inr (.inl ⟨_, rfl⟩)))))
  · cases h
    exact .inr (.inr (.inr (.inr (.inr (.inr rfl)))))

/-- What `parse_block_device` makes of a node: the attributes it requires are there,
and what belongs to a driver comes with one. -/
structure BlockParsed (d : DiskDevice) : Prop where
  type : d.type.isSome
  device : d.device.isSome
  driver : d.driver = none → d.driverType = none ∧ d.cache = none
  source : d.diskType = .unknown ∧ d.source = none ∨
    (d.diskType = .phy ∨ d.diskType = .file) ∧ d.source.isSome
  accessMode : d.accessMode = none

theorem BlockParsed.step {s t : DiskDevice} {child : Node} (hs : BlockParsed s)
    (h : parseBlockChild s child = .ok t) : BlockParsed t := by
  obtain ⟨name, type, cache, rfl⟩ | ⟨source, type, htype, rfl⟩ | ⟨dev, bus, rfl⟩ | rfl | rfl |
    ⟨addr, rfl⟩ | rfl := parseBlockChild_cases h
  · exact ⟨hs.type, hs.device, nofun, hs.source, hs.accessMode⟩
  · exact ⟨hs.type, hs.device, hs.driver, .inr ⟨htype, rfl⟩, hs.accessMode⟩
  · exact ⟨hs.type, hs.device, hs.driver, hs.source, hs.accessMode⟩
  · exact ⟨hs.type, hs.device, hs.driver, hs.source, hs.accessMode⟩
  · exact ⟨hs.type, hs.device, hs.driver, hs.source, hs.accessMode⟩
  · exact ⟨hs.type, hs.device, hs.driver, hs.source, hs.accessMode⟩
  · exact hs

theorem finishDisk_ok {ddev : DiskDevice} {d : VirtDevice DiskDevice}
    (h : finishDisk ddev = .ok d) :
    d = { type := .disk, dev := ddev, id := ddev.virtualDev } ∧ ddev.source.isSome ∧
      ddev.virtualDev.isSome := by
  unfold finishDisk at h
  split at h
  · next hsource hvirtual =>
    cases h
    rw [hsource, hvirtual]
    exact ⟨rfl, rfl, rfl⟩
  · exact nomatch h

/-- What `parse_disk_device` produces from a `disk`. -/
theorem parseBlockDevice_ok {dnode : Node} {d : VirtDevice DiskDevice}
    (h : parseBlockDevice dnode = .ok d) :
    BlockParsed d.dev ∧ d.type = .disk ∧ d.id = d.dev.virtualDev ∧ d.id.isSome ∧
      (d.dev.diskType = .phy ∨ d.dev.diskType = .file) := by
  unfold parseBlockDevice at h
  -- a disk without a type, or of no device, is dropped
  split at h
  case h_2 => exact nomatch h
  case h_1 type htype =>
    split at h
    case h_2 => exact nomatch h
    case h_1 device hdevice =>
      obtain ⟨ddev, hfold, hrest⟩ := bind_eq_ok h
      -- the loop keeps to the fields of the elements it meets
      have hinv : BlockParsed ddev := by
        refine foldlM_invariant (fun s child t hs => hs.step) ?_ hfold
        exact ⟨rfl, rfl, fun _ => ⟨rfl, rfl⟩, .inl ⟨rfl, rfl⟩, rfl⟩
      -- an empty cdrom is turned into an empty file, whatever was read before
      have hcdrom : BlockParsed (emptyCdrom ddev) := by
        unfold emptyCdrom
        split
        · exact ⟨hinv.type, hinv.device, hinv.driver, .inr ⟨.inr rfl, rfl⟩, hinv.accessMode⟩
        · exact hinv
      obtain ⟨rfl, hsource, hvirtual⟩ := finishDisk_ok hrest
      refine ⟨hcdrom, rfl, rfl, hvirtual, ?_⟩
      -- a disk that is kept has a source, and with it a type
      obtain ⟨-, hnone⟩ | ⟨htype, -⟩ := hcdrom.source
      · rw [hnone] at hsource
        exact nomatch hsource
      · exact htype

/-! ### Reading back the parts of an element -/

section Parts

variable {s d : DiskDevice}

theorem fold_diskDriverXml (hd : d.driver = none → d.driverType = none ∧ d.cache = none)
    (hs : s.driver = none ∧ s.driverType = none ∧ s.cache = none) :
    (diskDriverXml d).foldlM parseBlockChild s =
      .ok { s with driver := d.driver, driverType := d.driverType, cache := d.cache } := by
  obtain ⟨hs₁, hs₂, hs₃⟩ := hs
  cases hdriver : d.driver with
  | none =>
    obtain ⟨htype, hcache⟩ := hd hdriver
    rw [diskDriverXml, hdriver, htype, hcache]
    cases s
    dsimp only at hs₁ hs₂ hs₃
    subst hs₁ hs₂ hs₃
    rfl
  | some driver =>
    simp [diskDriverXml, hdriver, parseBlockChild]

theorem fold_diskTargetXml {virtualDev : String} (h : d.virtualDev = some virtualDev) :
    [diskTargetXml d].foldlM parseBlockChild s =
      .ok { s with virtualDev := d.virtualDev, busType := d.busType } := by
  simp [diskTargetXml, h, parseBlockChild]

theorem fold_readonly (hs : s.readonly = false) :
    (flagXml d.readonly "readonly").foldlM parseBlockChild s =
      .ok { s with readonly := d.readonly } := by
  cases hflag : d.readonly with
  | false =>
    have heta : { s with readonly := false } = s := by rw [← hs]
    rw [heta]
    rfl
  | true => simp [flagXml, parseBlockChild]

theorem fold_shareable (hs : s.shareable = false) :
    (flagXml d.shareable "shareable").foldlM parseBlockChild s =
      .ok { s with shareable := d.shareable } := by
  cases hflag : d.shareable with
  | false =>
    have heta : { s with shareable := false } = s := by rw [← hs]
    rw [heta]
    rfl
  | true => simp [flagXml, parseBlockChild]

theorem parseBlockChild_address (s : DiskDevice) (child : Node) (h : child.name = "address") :
    parseBlockChild s child = .ok { s with address := parseDeviceAddress child s.address } := by
  simp [parseBlockChild, h]

/-- A source that is written is read back with the kind of disk it makes. -/
theorem fold_source (key source : String) {type : DiskType}
    (hkey : (key, type) = ("dev", .phy) ∨ (key, type) = ("file", .file)) :
    [Node.elem "source" [(key, source)] []].foldlM parseBlockChild s =
      .ok { s with source := some source, diskType := type } := by
  obtain h | h := hkey <;> cases h <;> simp [parseBlockChild]

theorem fold_noSource (hs : s.source = none) (ht : s.diskType = .unknown) :
    [].foldlM parseBlockChild s = .ok { s with source := none, diskType := .unknown } := by
  rw [← hs, ← ht]
  rfl

end Parts

/-- The parts of a `disk` together, after a source that is read as `source`. -/
theorem fold_diskXml {d : DiskDevice} (hd : BlockParsed d) {virtualDev : String}
    (hvirtual : d.virtualDev = some virtualDev) (type device : String)
    (rawio sgio : Option String) {source : Option String} {diskType : DiskType}
    {sourceXml : List Node} (hsource : ∀ s : DiskDevice, s.source = none → s.diskType = .unknown →
      sourceXml.foldlM parseBlockChild s = .ok { s with source, diskType }) :
    (diskDriverXml d ++ sourceXml ++ [diskTargetXml d] ++ flagXml d.readonly "readonly" ++
        flagXml d.shareable "shareable" ++ deviceAddressXml d.address).foldlM parseBlockChild
      { type := some type, device := some device, rawio, sgio } =
      .ok { d with
        type := some type, device := some device, rawio, sgio, source, diskType
        address := readBack d.address } := by
  -- the parts are read one after the other, each by the lemma of its element
  refine foldlM_append_ok (foldlM_append_ok (foldlM_append_ok (foldlM_append_ok
    (foldlM_append_ok (fold_diskDriverXml hd.driver ⟨rfl, rfl, rfl⟩) (hsource _ rfl rfl))
    (fold_diskTargetXml hvirtual)) (fold_readonly rfl)) (fold_shareable rfl)) ?_
  rw [foldlM_deviceAddressXml (parseBlockChild_address _) rfl rfl]
  have haccess := hd.accessMode
  cases d
  dsimp only at haccess
  subst haccess
  rfl

/-- `parse_block_device`, once its loop has run. -/
theorem parseBlockDevice_of_fold {n : Node} {type device : String} {ddev : DiskDevice}
    (htype : n.attr "type" = some type) (hdevice : n.attr "device" = some device)
    (hfold : n.children.foldlM parseBlockChild
      { type := some type, device := some device, rawio := n.attr "rawio", sgio := n.attr "sgio" }
        = .ok ddev) :
    parseBlockDevice n = finishDisk (emptyCdrom ddev) := by
  unfold parseBlockDevice
  simp only [htype, hdevice, hfold]
  rfl

/-- A cdrom without a source is an empty one. -/
theorem emptyCdrom_of_cdrom {d : DiskDevice} (hdevice : d.device = some "cdrom")
    (hsource : d.source = none) :
    emptyCdrom d = { d with source := some "", diskType := .file } :=
  if_pos ⟨hdevice, hsource⟩

/-- A device with a source is no empty cdrom. -/
theorem emptyCdrom_of_source {d : DiskDevice} (h : d.source.isSome) : emptyCdrom d = d := by
  unfold emptyCdrom
  rw [if_neg]
  rintro ⟨-, hnone⟩
  rw [hnone] at h
  exact nomatch h

theorem attr_diskBlockXml (d : DiskDevice) :
    (diskBlockXml d).attr "type" = some "block" ∧ (diskBlockXml d).attr "device" = d.device ∧
      (diskBlockXml d).attr "rawio" = d.rawio ∧ (diskBlockXml d).attr "sgio" = d.sgio := by
  simp [diskBlockXml]

theorem attr_diskFileXml (d : DiskDevice) :
    (diskFileXml d).attr "type" = some "file" ∧ (diskFileXml d).attr "device" = d.device := by
  simp [diskFileXml]

theorem BlockParsed.source_isSome {d : DiskDevice} (hd : BlockParsed d)
    (htype : d.diskType ≠ .unknown) : d.source.isSome := by
  obtain ⟨hunknown, -⟩ | ⟨-, hsome⟩ := hd.source
  · exact absurd hunknown htype
  · exact hsome

/-- A block device comes back with the type `block`. -/
theorem parse_diskBlockXml {d : DiskDevice} (hd : BlockParsed d) {virtualDev : String}
    (hvirtual : d.virtualDev = some virtualDev) (htype : d.diskType = .phy)
    (hsource : d.source ≠ some "/dev/null") :
    parseDiskDevice (diskBlockXml d) = .ok
      { type := .disk
        dev := { d with type := some "block", address := readBack d.address }
        id := some virtualDev } := by
  -- both were read, so they are written
  obtain ⟨device, hdevice⟩ := Option.isSome_iff_exists.mp hd.device
  obtain ⟨source, hsrc⟩ := Option.isSome_iff_exists.mp
    (hd.source_isSome (by rw [htype]; exact nofun))
  have hne : source ≠ "/dev/null" := fun heq => hsource (heq ▸ hsrc)
  -- the attributes and the children that were written, as the parser asks for them
  obtain ⟨htypeAttr, hdeviceAttr, hrawio, hsgio⟩ := attr_diskBlockXml d
  have hchildren : (diskBlockXml d).children = diskDriverXml d ++
      [Node.elem "source" [("dev", source)] []] ++ [diskTargetXml d] ++
      flagXml d.readonly "readonly" ++ flagXml d.shareable "shareable" ++
      deviceAddressXml d.address := by
    simp only [diskBlockXml, hsrc, if_neg hne, Node.children_elem]
  have hfold := fold_diskXml hd hvirtual "block" device d.rawio d.sgio
    fun s _ _ => fold_source "dev" source (.inl rfl)
  rw [← hchildren, ← hrawio, ← hsgio] at hfold
  show parseBlockDevice (diskBlockXml d) = _
  rw [parseBlockDevice_of_fold htypeAttr (hdeviceAttr.trans hdevice) hfold,
    emptyCdrom_of_source rfl]
  simp only [finishDisk, hvirtual]
  rw [hrawio, hsgio, ← hdevice, ← hsrc, ← htype]

/-- A file comes back with the type `file`. -/
theorem parse_diskFileXml {d : DiskDevice} (hd : BlockParsed d) {virtualDev : String}
    (hvirtual : d.virtualDev = some virtualDev) (htype : d.diskType = .file) :
    ∃ rawio sgio, parseDiskDevice (diskFileXml d) = .ok
      { type := .disk
        dev := { d with type := some "file", rawio, sgio, address := readBack d.address }
        id := some virtualDev } := by
  obtain ⟨device, hdevice⟩ := Option.isSome_iff_exists.mp hd.device
  obtain ⟨source, hsrc⟩ := Option.isSome_iff_exists.mp
    (hd.source_isSome (by rw [htype]; exact nofun))
  obtain ⟨htypeAttr, hdeviceAttr⟩ := attr_diskFileXml d
  refine ⟨(diskFileXml d).attr "rawio", (diskFileXml d).attr "sgio", ?_⟩
  show parseBlockDevice (diskFileXml d) = _
  -- an empty cdrom is written without its source, and is made one again when read
  by_cases hempty : d.device = some "cdrom" ∧ d.source = some ""
  · -- no source is written, and the cdrom is found empty
    have hfold := fold_diskXml hd hvirtual "file" device ((diskFileXml d).attr "rawio")
      ((diskFileXml d).attr "sgio")
      fun s hs ht => fold_noSource hs ht
    have hchildren : (diskFileXml d).children = diskDriverXml d ++ [] ++ [diskTargetXml d] ++
        flagXml d.readonly "readonly" ++ flagXml d.shareable "shareable" ++
        deviceAddressXml d.address := by
      simp only [diskFileXml, if_pos hempty, Node.children_elem]
    rw [← hchildren] at hfold
    have hcdrom : device = "cdrom" := Option.some.inj (hdevice.symm.trans hempty.1)
    rw [parseBlockDevice_of_fold htypeAttr (hdeviceAttr.trans hdevice) hfold,
      emptyCdrom_of_cdrom (congrArg some hcdrom) rfl]
    simp only [finishDisk, hvirtual]
    rw [← hdevice, ← hempty.2, ← htype]
  -- the source is written as it is
  · have hfold := fold_diskXml hd hvirtual "file" device ((diskFileXml d).attr "rawio")
      ((diskFileXml d).attr "sgio")
      fun s _ _ => fold_source "file" source (.inr rfl)
    have hchildren : (diskFileXml d).children = diskDriverXml d ++
        [Node.elem "source" [("file", source)] []] ++ [diskTargetXml d] ++
        flagXml d.readonly "readonly" ++ flagXml d.shareable "shareable" ++
        deviceAddressXml d.address := by
      simp only [diskFileXml, if_neg hempty, Node.children_elem]
      rw [hsrc]
      rfl
    rw [← hchildren] at hfold
    rw [parseBlockDevice_of_fold htypeAttr (hdeviceAttr.trans hdevice) hfold,
      emptyCdrom_of_source rfl]
    simp only [finishDisk, hvirtual]
    rw [← hdevice, ← hsrc, ← htype]

/-- A block device on `/dev/null` is written without a source: it is an empty drive. -/
theorem parse_diskBlockXml_devNull {d : DiskDevice} (hd : BlockParsed d) {virtualDev : String}
    (hvirtual : d.virtualDev = some virtualDev) (hsource : d.source = some "/dev/null") :
    parseDiskDevice (diskBlockXml d) =
      if d.device = some "cdrom" then .ok
        { type := .disk
          dev := { d with
            type := some "block", source := some "", diskType := .file
            address := readBack d.address }
          id := some virtualDev }
      else .error .reject := by
  -- the source is left out, so what is read back depends on the device alone
  obtain ⟨device, hdevice⟩ := Option.isSome_iff_exists.mp hd.device
  obtain ⟨htypeAttr, hdeviceAttr, hrawio, hsgio⟩ := attr_diskBlockXml d
  have hfold := fold_diskXml hd hvirtual "block" device d.rawio d.sgio
    fun s hs ht => fold_noSource hs ht
  have hchildren : (diskBlockXml d).children = diskDriverXml d ++ [] ++ [diskTargetXml d] ++
      flagXml d.readonly "readonly" ++ flagXml d.shareable "shareable" ++
      deviceAddressXml d.address := by
    simp only [diskBlockXml, hsource, if_true, Node.children_elem]
  rw [← hchildren, ← hrawio, ← hsgio] at hfold
  show parseBlockDevice (diskBlockXml d) = _
  rw [parseBlockDevice_of_fold htypeAttr (hdeviceAttr.trans hdevice) hfold]
  -- a cdrom without source is an empty one, another disk is dropped
  by_cases hcdrom : device = "cdrom"
  · rw [emptyCdrom_of_cdrom (congrArg some hcdrom) rfl,
      if_pos (hdevice.trans (congrArg some hcdrom))]
    simp only [finishDisk, hvirtual]
    rw [hrawio, hsgio, ← hdevice]
  · have hne : ¬ d.device = some "cdrom" := by
      rw [hdevice, Option.some.injEq]
      exact hcdrom
    rw [if_neg hne, emptyCdrom, if_neg (fun h => hcdrom (Option.some.inj h.1))]
    rfl

/-! ### File systems -/

/-- What one child of a file system can change. -/
theorem parseFsChild_cases {s t : DiskDevice} {child : Node} (h : parseFsChild s child = .ok t) :
    (∃ dir, t = { s with source := some dir }) ∨ (∃ dir, t = { s with virtualDev := some dir }) ∨
    (∃ type, t = { s with driverType := type }) ∨ (∃ addr, t = { s with address := addr }) ∨
    t = s := by
  -- a filesystem has four elements, anything else leaves it as it is
  unfold parseFsChild at h
  -- a source directory, then the target
  split at h
  · split at h
    · exact nomatch h
    · cases h
      exact .inl ⟨_, rfl⟩
  split at h
  · split at h
    · exact nomatch h
    · cases h
      exact .inr (.inl ⟨_, rfl⟩)
  split at h
  · cases h
    exact .inr (.inr (.inl ⟨_, rfl⟩))
  split at h
  · cases h
    exact .inr (.inr (.inr (.inl ⟨_, rfl⟩)))
  · cases h
    exact .inr (.inr (.inr (.inr rfl)))

/-- A file system has these fields only. -/
def FsParsed (d : DiskDevice) : Prop :=
  ∃ type accessMode driverType source virtualDev address diskType,
    d = { type, accessMode, driverType, source, virtualDev, address, diskType }

theorem FsParsed.step {s t : DiskDevice} {child : Node} (hs : FsParsed s)
    (h : parseFsChild s child = .ok t) : FsParsed t := by
  obtain ⟨_, _, _, _, _, _, _, rfl⟩ := hs
  obtain ⟨dir, rfl⟩ | ⟨dir, rfl⟩ | ⟨type, rfl⟩ | ⟨addr, rfl⟩ | rfl := parseFsChild_cases h <;>
    exact ⟨_, _, _, _, _, _, _, rfl⟩

/-- What `parse_disk_device` produces from a `filesystem`. -/
theorem parseFsDevice_ok {dnode : Node} {d : VirtDevice DiskDevice}
    (h : parseFsDevice dnode = .ok d) :
    FsParsed d.dev ∧ d.type = .disk ∧ d.id = d.dev.virtualDev ∧ d.id.isSome ∧
      d.dev.source.isSome ∧ d.dev.diskType = .fs := by
  unfold parseFsDevice at h
  split at h
  case h_2 => exact nomatch h
  case h_1 type htype =>
    obtain ⟨ddev, hfold, hrest⟩ := bind_eq_ok h
    have hinv : FsParsed ddev :=
      foldlM_invariant (fun s child t hs => hs.step) ⟨_, _, _, _, _, _, _, rfl⟩ hfold
    obtain ⟨rfl, hsource, hvirtual⟩ := finishDisk_ok hrest
    obtain ⟨_, _, _, _, _, _, _, rfl⟩ := hinv
    exact ⟨⟨_, _, _, _, _, _, _, rfl⟩, rfl, rfl, hvirtual, hsource, rfl⟩

theorem parseFsChild_address (s : DiskDevice) (child : Node) (h : child.name = "address") :
    parseFsChild s child = .ok { s with address := parseDeviceAddress child s.address } := by
  simp [parseFsChild, h]

theorem fold_diskFsXml {s d : DiskDevice} {source virtualDev : String}
    (hsource : d.source = some source) (hvirtual : d.virtualDev = some virtualDev)
    (hdriver : s.driverType = none) (haddress : s.address = []) :
    (diskFsXml d).children.foldlM parseFsChild s =
      .ok { s with
        driverType := d.driverType, source := some source, virtualDev := some virtualDev
        address := readBack d.address } := by
  -- the type of the driver, where there is one
  have hfirst : (optChild "driver" "type" d.driverType).foldlM parseFsChild s =
      .ok { s with driverType := d.driverType } := by
    cases d.driverType with
    | none =>
      have heta : { s with driverType := none } = s := by rw [← hdriver]
      rw [heta]
      rfl
    | some driverType => simp [optChild, parseFsChild]
  -- source and target, which a filesystem has always
  have hmiddle : [Node.elem "source" (prop "dir" d.source) [],
        Node.elem "target" (prop "dir" d.virtualDev) []].foldlM parseFsChild
      { s with driverType := d.driverType } =
      .ok { s with
        driverType := d.driverType, source := some source, virtualDev := some virtualDev } := by
    simp [parseFsChild, hsource, hvirtual]
    rfl
  refine foldlM_append_ok (foldlM_append_ok hfirst hmiddle)
    (foldlM_deviceAddressXml (parseFsChild_address _) ?_ rfl _)
  exact haddress

/-- `parse_fs_device`, once its loop has run. -/
theorem parseFsDevice_of_fold {n : Node} {type : String} {ddev : DiskDevice}
    (htype : n.attr "type" = some type)
    (hfold : n.children.foldlM parseFsChild
      { type := some type, accessMode := n.attr "accessmode" } = .ok ddev) :
    parseFsDevice n = finishDisk { ddev with diskType := .fs } := by
  unfold parseFsDevice
  simp only [htype, hfold]
  rfl

/-- A file system is written without its type, and comes back with the one it is
given. -/
theorem parse_diskFsXml {d : DiskDevice} (hd : FsParsed d) {source virtualDev : String}
    (hsource : d.source = some source) (hvirtual : d.virtualDev = some virtualDev)
    (htype : d.diskType = .fs) :
    parseDiskDevice (diskFsXml d) = .error .reject ∧
    ∀ type, parseDiskDevice ((diskFsXml d).addAttr "type" type) = .ok
      { type := .disk
        dev := { d with type := some type, address := readBack d.address }
        id := some virtualDev } := by
  -- the generator writes no type, with one put in by hand the rest is read back
  refine ⟨?_, fun type => ?_⟩
  · show parseFsDevice (diskFsXml d) = _
    simp [parseFsDevice, diskFsXml]
  -- the access mode is an attribute, read apart from the type
  · have haccess : ((diskFsXml d).addAttr "type" type).attr "accessmode" = d.accessMode := by
      simp [diskFsXml, Node.addAttr]
    have hfold := fold_diskFsXml (s := { type := some type, accessMode := d.accessMode })
      hsource hvirtual rfl rfl
    rw [← haccess] at hfold
    show parseFsDevice ((diskFsXml d).addAttr "type" type) = _
    -- an attribute put in leaves the children alone
    have hchildren : ((diskFsXml d).addAttr "type" type).children = (diskFsXml d).children := rfl
    have htypeAttr : ((diskFsXml d).addAttr "type" type).attr "type" = some type := by
      simp [diskFsXml, Node.addAttr]
    rw [parseFsDevice_of_fold htypeAttr (hchildren ▸ hfold), haccess]
    obtain ⟨_, _, _, _, _, _, _, rfl⟩ := hd
    dsimp only at hsource hvirtual htype
    subst hsource hvirtual htype
    rfl

/-! ### The round trip -/

/-- What comes back of a disk or file system `d` that is written as `n`. `disk_xml` writes the
type that belongs to the kind of source, whatever was read; `/dev/null` stands for an empty cdrom;
and a file system is written without the type it is read by, so it comes back only if that is put
back. -/
def ComesBack (d : VirtDevice DiskDevice) (n : Node) : Prop :=
  let back : DiskDevice := { d.dev with address := readBack d.dev.address }
  match d.dev.diskType with
  | .phy => parseDiskDevice n =
      if d.dev.source ≠ some "/dev/null" then
        .ok { d with dev := { back with type := some "block" } }
      else if d.dev.device = some "cdrom" then .ok { d with
        dev := { back with type := some "block", source := some "", diskType := .file } }
      else .error .reject
  | .file => ∃ rawio sgio, parseDiskDevice n =
      .ok { d with dev := { back with type := some "file", rawio, sgio } }
  | .fs => parseDiskDevice n = .error .reject ∧ ∀ type,
      parseDiskDevice (n.addAttr "type" type) =
        .ok { d with dev := { back with type := some type } }
  | .unknown => False

/-- **Disks and file systems through the generator and back.** For every device that
`parse_disk_device` produces, `disk_xml` writes one element, and it comes back with every field
but its type, a source of `/dev/null` and repeated address keys. The generator has three forms,
for block devices, files and file systems; what each of them is parsed to is a lemma of its own.
-/
theorem disk_comesBack {dnode : Node} {d : VirtDevice DiskDevice}
    (h : parseDiskDevice dnode = .ok d) :
    ∃ n, diskXmlOf d.dev = .ok [n] ∧ ComesBack d n := by
  unfold parseDiskDevice at h
  -- a disk element is a block device or a file
  split at h
  · obtain ⟨hd, htype, hid, hsome, hdisk⟩ := parseBlockDevice_ok h
    obtain ⟨virtualDev, hvirtual⟩ := Option.isSome_iff_exists.mp (hid ▸ hsome)
    obtain ⟨_, dev, _⟩ := d
    dsimp only at hd htype hid hvirtual hdisk ⊢
    subst htype hid
    obtain hphy | hfile := hdisk
    · refine ⟨diskBlockXml dev, by rw [diskXmlOf, hphy], ?_⟩
      -- a disk at /dev/null is written without a source
      by_cases hsource : dev.source = some "/dev/null"
      · have hback := parse_diskBlockXml_devNull hd hvirtual hsource
        simpa [ComesBack, hphy, hsource, hvirtual] using hback
      · have hback := parse_diskBlockXml hd hvirtual hphy hsource
        simpa [ComesBack, hphy, hsource, hvirtual] using hback
    · refine ⟨diskFileXml dev, by rw [diskXmlOf, hfile], ?_⟩
      have hback := parse_diskFileXml hd hvirtual hfile
      simpa [ComesBack, hfile, hvirtual] using hback
  -- a filesystem has its source and its target in their own elements
  split at h
  · obtain ⟨hd, htype, hid, hsome, hsource, hfs⟩ := parseFsDevice_ok h
    obtain ⟨virtualDev, hvirtual⟩ := Option.isSome_iff_exists.mp (hid ▸ hsome)
    obtain ⟨source, hsrc⟩ := Option.isSome_iff_exists.mp hsource
    obtain ⟨_, dev, _⟩ := d
    dsimp only at hd htype hid hvirtual hsrc hfs ⊢
    subst htype hid
    refine ⟨diskFsXml dev, by rw [diskXmlOf, hfs], ?_⟩
    have hback := parse_diskFsXml hd hsrc hvirtual hfs
    simpa [ComesBack, hfs, hvirtual, hsrc] using hback
  · exact nomatch h

/-- A directory of the host mounted in a container. -/
def srvMount : Node :=
  .elem "filesystem" [("type", "mount")]
    [.elem "source" [("dir", "/export/srv")] [], .elem "target" [("dir", "/srv")] []]

/-- The device it is parsed to. -/
def srvDevice : VirtDevice DiskDevice where
  type := .disk
  dev :=
    { type := some "mount", source := some "/export/srv", virtualDev := some "/srv"
      diskType := .fs }
  id := some "/srv"

theorem disk_comesBack_srvMount :
    ∃ n, diskXmlOf srvDevice.dev = .ok [n] ∧ ComesBack srvDevice n :=
  have h : parseDiskDevice srvMount = .ok srvDevice := rfl
  disk_comesBack h

/-- The element comes back as the device it is written for. -/
def RoundTrips (dnode : Node) : Prop :=
  ∀ d, parseDiskDevice dnode = .ok d →
    ∃ n, diskXmlOf d.dev = .ok [n] ∧ parseDiskDevice n = .ok d

/-- A `disk` with the parts that differ. -/
def vdaDisk (type : String) (source : Node) (addresses : List Node) : Node :=
  .elem "disk" [("type", type), ("device", "disk")]
    ([source, .elem "target" [("dev", "vda")] []] ++ addresses)

/-- A file system without its type is rejected, so is a disk whose source is `/dev/null`;
the type of a volume and the second of two addresses do not come back. -/
theorem not_disk_roundTrips :
    ¬ RoundTrips srvMount ∧
    ¬ RoundTrips (vdaDisk "block" (.elem "source" [("dev", "/dev/null")] []) []) ∧
    ¬ RoundTrips (vdaDisk "volume" (.elem "source" [("dev", "/dev/sdb")] []) []) ∧
    ¬ RoundTrips (vdaDisk "file" (.elem "source" [("file", "/srv/a.img")] [])
      [.elem "address" [("type", "drive")] [], .elem "address" [("type", "pci")] []]) := by
  refine ⟨fun h => ?_, fun h => ?_, fun h => ?_, fun h => ?_⟩ <;>
    obtain ⟨n, hxml, hback⟩ := h _ rfl <;> cases hxml <;> exact absurd hback (by decide)

end LibvirtCim.Device
