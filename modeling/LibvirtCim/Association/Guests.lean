import LibvirtCim.Device.Parsed
import LibvirtCim.Device.StoredElement
import LibvirtCim.Framework.Keyed
import LibvirtCim.Rasd.Scan
import LibvirtCim.Service.Resources

/-!
# The devices of all domains

What the associations walk over: the domains of a host with the devices that are read of them,
`enum_devices`, which makes an instance of each, and `get_device_by_name`, which finds an
instance by its `DeviceID`.

The id of a device is appended to the name of its domain. It is split again in two ways:
`parse_fq_devid` reads up to the end of the line (`parseFqDevid_getFqDevid`), `parse_devid` reads
one word (`parseDevid_getFqDevid`), so that an id with a blank in it is not found
(`getDeviceByName_device_iff`).
-/

open Framework LibvirtCim.Device LibvirtCim.Rasd LibvirtCim.Service

namespace LibvirtCim.Association

/-! ### Domains -/

/-- The names libvirt allows: not empty, on one line, and without a slash. -/
structure LegalName (name : String) : Prop where
  nonempty : name ≠ ""
  noSlash : '/' ∉ name.toList
  oneLine : '\n' ∉ name.toList

instance (name : String) : Decidable (LegalName name) :=
  decidable_of_iff (name ≠ "" ∧ '/' ∉ name.toList ∧ '\n' ∉ name.toList)
    ⟨fun h => ⟨h.1, h.2.1, h.2.2⟩, fun h => ⟨h.1, h.2, h.3⟩⟩

/-- A domain: its name, the description of its present state and that of its definition, with
the devices that are read of each. The number of processors fits an `int`. -/
structure Guest where
  name : String
  legal : LegalName name
  live : Node
  config : Node
  devices : (kind : DevKind) → List (VirtDevice kind.Dev)
  configDevices : (kind : DevKind) → List (VirtDevice kind.Dev)
  read : ∀ kind, getDevices live kind = .ok (devices kind)
  readConfig : ∀ kind, getDevices config kind = .ok (configDevices kind)
  vcpus : ∀ proc ∈ devices .proc, proc.dev.quantity.toNat < 2 ^ 31

/-- The devices of a type, of a description that is read. -/
def readDevices (root : Node) (kind : DevKind) : List (VirtDevice kind.Dev) :=
  (getDevices root kind).toOption.getD []

theorem getDevices_eq_readDevices {root : Node} {kind : DevKind}
    (h : (getDevices root kind).toOption.isSome) :
    getDevices root kind = .ok (readDevices root kind) := by
  unfold readDevices
  cases hread : getDevices root kind with
  | ok devs => rfl
  | error stop =>
    rw [hread] at h
    cases h

/-- A domain that is in the state it is defined in. -/
def Guest.ofNode (name : String) (root : Node) (legal : LegalName name)
    (readable : ∀ kind, (getDevices root kind).toOption.isSome)
    (vcpus : ∀ proc ∈ readDevices root .proc, proc.dev.quantity.toNat < 2 ^ 31) : Guest where
  name := name
  legal := legal
  live := root
  config := root
  devices := readDevices root
  configDevices := readDevices root
  read := fun kind => getDevices_eq_readDevices (readable kind)
  readConfig := fun kind => getDevices_eq_readDevices (readable kind)
  vcpus := vcpus

/-- The domains of a host. -/
structure GuestList where
  guests : List Guest
  distinct : (guests.map Guest.name).Nodup

/-- `virDomainLookupByName`. -/
def GuestList.lookup (list : GuestList) (name : String) : Option Guest :=
  lookupKey Guest.name list.guests name

theorem GuestList.lookup_of_mem {list : GuestList} {guest : Guest} (h : guest ∈ list.guests) :
    list.lookup guest.name = some guest :=
  lookupKey_of_mem Guest.name list.distinct h

theorem GuestList.mem_of_lookup {list : GuestList} {name : String} {guest : Guest}
    (h : list.lookup name = some guest) : guest ∈ list.guests ∧ guest.name = name :=
  ⟨mem_of_lookupKey Guest.name h, key_of_lookupKey Guest.name h⟩

/-! ### Ids -/

/-- `get_fq_devid`. -/
def getFqDevid (host : String) (devid : Option String) : String :=
  host ++ "/" ++ formatStr devid

/-- `parse_devid`. -/
def parseDevid (devid : String) : Option (String × String) := do
  let (dom, rest) ← scanUpTo '/' devid.toList
  let rest ← scanLit ['/'] rest
  let dev ← scanWord rest
  some (dom, dev)

theorem LegalName.toList_ne_nil {name : String} (h : LegalName name) : name.toList ≠ [] := by
  intro hnil
  exact h.nonempty (String.toList_inj.mp (by simpa using hnil))

/-- **`parse_devid` reads one word of the id.** -/
theorem parseDevid_getFqDevid {name : String} (h : LegalName name) (devid : Option String) :
    parseDevid (getFqDevid name devid) =
      (scanWord (formatStr devid).toList).map fun word => (name, word) := by
  have hsplit : (getFqDevid name devid).toList =
      name.toList ++ '/' :: (formatStr devid).toList := by
    simp [getFqDevid]
  unfold parseDevid
  rw [hsplit, scanUpTo_append h.toList_ne_nil h.noSlash]
  cases hword : scanWord (formatStr devid).toList with
  | none => simp [scanLit, hword]
  | some word => simp [scanLit, hword]

/-- **`parse_fq_devid` reads one line of the id.** -/
theorem parseFqDevid_getFqDevid {name : String} (h : LegalName name) (devid : Option String) :
    parseFqDevid (getFqDevid name devid) =
      (scanUpTo '\n' (formatStr devid).toList).map fun line => (name, line.1) := by
  have hsplit : (getFqDevid name devid).toList =
      name.toList ++ '/' :: (formatStr devid).toList := by
    simp [getFqDevid]
  unfold parseFqDevid
  rw [hsplit, scanUpTo_append h.toList_ne_nil h.noSlash]
  cases hline : scanUpTo '\n' (formatStr devid).toList with
  | none => simp [scanLit, hline]
  | some line => simp [scanLit, hline]

/-! ### Instances -/

/-- An instance of a device class: a device of a domain, or one processor of a domain. -/
inductive LogicalDevice
  | device (kind : DevKind) (system : String) (dev : VirtDevice kind.Dev)
  | processor (system : String) (num : ℕ)

/-- `DeviceID`. -/
def LogicalDevice.deviceId : LogicalDevice → String
  | .device _ system dev => getFqDevid system dev.id
  | .processor system num => getFqDevid system (some num.repr)

/-- `SystemName`. -/
def LogicalDevice.systemName : LogicalDevice → String
  | .device _ system _ => system
  | .processor system _ => system

/-- `vcpu_instances`. -/
def vcpuInstances (system : String) (procCount : ℕ) : List LogicalDevice :=
  (List.range procCount).map (.processor system)

/-- `device_instances`, for devices of one type. The processors are one device. -/
def deviceInstances (system : String) :
    (kind : DevKind) → List (VirtDevice kind.Dev) → List LogicalDevice
  | .proc, devs => vcpuInstances system ((devs.getLast?.map (·.dev.quantity.toNat)).getD 0)
  | kind, devs => devs.map (.device kind system)

/-- `enum_devices`, for all domains and one type. -/
def enumDevices (list : GuestList) (kind : DevKind) : List LogicalDevice :=
  list.guests.flatMap fun guest => deviceInstances guest.name kind (guest.devices kind)

/-- The device has the id, up to case. -/
def namedUpToCase {α : Type} (devid : String) (dev : VirtDevice α) : Bool :=
  dev.id.any (streqc devid)

/-- `find_dom_dev` with the instance that is made of what it finds. For processors it looks
through the list of `proc_dev_list`. -/
def findDomDev (guest : Guest) : DevKind → String → Option LogicalDevice
  | .proc, device =>
    match guest.devices .proc with
    | [] => none
    | proc :: _ =>
      ((List.range proc.dev.quantity.toNat).find? fun num => streqc device num.repr).map
        (.processor guest.name)
  | kind, device =>
    ((guest.devices kind).find? (namedUpToCase device)).map (.device kind guest.name)

/-- `get_device_by_name`. -/
def getDeviceByName (list : GuestList) (kind : DevKind) (name : String) :
    Option LogicalDevice := do
  let (domain, device) ← parseDevid name
  let guest ← list.lookup domain
  findDomDev guest kind device

theorem findDomDev_of_ne (guest : Guest) {kind : DevKind} (hkind : kind ≠ .proc)
    (device : String) : findDomDev guest kind device =
      ((guest.devices kind).find? (namedUpToCase device)).map (.device kind guest.name) := by
  cases kind with
  | proc => exact absurd rfl hkind
  | _ => rfl

theorem deviceInstances_of_ne (system : String) {kind : DevKind} (hkind : kind ≠ .proc)
    (devs : List (VirtDevice kind.Dev)) :
    deviceInstances system kind devs = devs.map (.device kind system) := by
  cases kind with
  | proc => exact absurd rfl hkind
  | _ => rfl

/-- The name of a domain and a word lead to the domain. -/
theorem getDeviceByName_getFqDevid {list : GuestList} {guest : Guest}
    (hguest : guest ∈ list.guests) (kind : DevKind) (devid : Option String) :
    getDeviceByName list kind (getFqDevid guest.name devid) =
      (scanWord (formatStr devid).toList).bind (findDomDev guest kind) := by
  unfold getDeviceByName
  rw [parseDevid_getFqDevid guest.legal]
  cases hword : scanWord (formatStr devid).toList with
  | none => rfl
  | some word =>
    simp [GuestList.lookup_of_mem hguest]

/-- Numbers are told apart by their digits, whatever the case. -/
theorem streqc_repr_iff (m n : ℕ) : streqc m.repr n.repr = true ↔ m = n := by
  -- digits have no case, so equal up to case is equal
  have hlower (n : ℕ) : n.repr.toList.map Char.toLower = n.repr.toList := by
    refine (List.map_congr_left ?_).trans (List.map_id _)
    intro c hc
    have hdigit := isDigit_of_mem_repr hc
    show c.toLower = c
    unfold Char.toLower
    rw [dif_neg]
    intro hupper
    simp only [Char.isDigit, ge_iff_le, Bool.and_eq_true, decide_eq_true_eq] at hdigit
    have h1 := UInt32.le_iff_toNat_le.mp hupper.1
    have h2 := UInt32.le_iff_toNat_le.mp hdigit.2
    have h3 : (65 : ℕ) ≤ 57 := h1.trans h2
    omega
  constructor
  · intro h
    -- a number is read back off its digits, so the digits tell the number
    have hlist : m.repr.toList = n.repr.toList := by
      have := of_decide_eq_true h
      rwa [hlower, hlower] at this
    have hm := @scanDigits_repr m [] (by simp)
    rw [List.append_nil, hlist] at hm
    have hn := @scanDigits_repr n [] (by simp)
    rw [List.append_nil] at hn
    exact Option.some.inj (hm.symm.trans hn)
  · rintro rfl
    exact streqc_refl _

theorem bare_repr (n : ℕ) : Bare n.repr := by
  refine ⟨?_, fun c hc => isSpace_eq_false_of_isDigit (isDigit_of_mem_repr hc)⟩
  obtain ⟨d, ds, hrepr, -⟩ := exists_digit_repr n
  intro hempty
  rw [hempty] at hrepr
  simp at hrepr

/-- **A processor is found by its `DeviceID`.** -/
theorem getDeviceByName_processor {list : GuestList} {guest : Guest}
    (hguest : guest ∈ list.guests) {proc : VirtDevice VcpuDevice} {procs}
    (hproc : guest.devices .proc = proc :: procs) {num : ℕ}
    (hnum : num < proc.dev.quantity.toNat) :
    getDeviceByName list .proc (getFqDevid guest.name (some num.repr)) =
      some (.processor guest.name num) := by
  -- the numbers before are written with other digits
  have hfind : (List.range proc.dev.quantity.toNat).find? (fun n => streqc num.repr n.repr) =
      some num := by
    rw [List.find?_range_eq_some]
    refine ⟨streqc_refl _, List.mem_range.mpr hnum, ?_⟩
    intro j hj
    have hne : ¬ streqc num.repr j.repr = true := by
      rw [streqc_repr_iff]
      omega
    simpa using hne
  -- the id is scanned as a word, and the digits are one
  rw [getDeviceByName_getFqDevid hguest]
  show (scanWord num.repr.toList).bind _ = _
  rw [scanWord_of_bare (bare_repr num), Option.bind_some, findDomDev, hproc]
  simp only [hfind, Option.map_some]

/-! ### Devices by their names -/

/-- Every device that is read is of the type and has an id. -/
theorem type_and_id_of_getDevices {root : Node} {kind : DevKind}
    {devs : List (VirtDevice kind.Dev)} (h : getDevices root kind = .ok devs)
    {dev : VirtDevice kind.Dev} (hdev : dev ∈ devs) :
    dev.type = kind.resType ∧ dev.id.isSome := by
  -- memory is merged and only the first processor is kept; all other devices are parsed nodes
  have hparsed {kind : DevKind} {devs : List (VirtDevice kind.Dev)}
      (h : parseDevices root kind = .ok devs) {dev : VirtDevice kind.Dev} (hdev : dev ∈ devs) :
      ∃ node, doRealParse kind node = .ok dev := by
    obtain ⟨node, -, hnode⟩ := (mem_doParse h).mp hdev
    exact ⟨node, hnode⟩
  -- the parsers set type and id, in the way of each kind
  cases kind with
  | mem =>
    obtain ⟨mdevs, -, hmerged⟩ := map_eq_ok h
    subst hmerged
    unfold getMemDevice at hdev
    split at hdev
    · cases hdev
    · rw [List.mem_singleton] at hdev
      subst hdev
      exact ⟨rfl, rfl⟩
    · rw [List.mem_singleton] at hdev
      subst hdev
      exact ⟨rfl, rfl⟩
  | proc =>
    obtain ⟨procs, hprocs, hfirst⟩ := map_eq_ok h
    subst hfirst
    obtain ⟨node, hnode⟩ := hparsed hprocs (List.mem_of_mem_take hdev)
    cases hnode
    exact ⟨rfl, rfl⟩
  | disk =>
    obtain ⟨node, hnode⟩ := hparsed h hdev
    -- a disk has its target for an id
    have hfinish {ddev : DiskDevice} (h : finishDisk ddev = .ok dev) :
        dev.type = .disk ∧ dev.id.isSome := by
      unfold finishDisk at h
      split at h
      · cases h
        exact ⟨rfl, rfl⟩
      · cases h
    obtain ⟨-, hblock⟩ | ⟨-, hfs⟩ := parseDiskDevice_ok hnode
    · unfold parseBlockDevice at hblock
      split at hblock
      · split at hblock
        · obtain ⟨ddev, -, hrest⟩ := bind_eq_ok hblock
          exact hfinish hrest
        · cases hblock
      · cases hblock
    · unfold parseFsDevice at hfs
      split at hfs
      · obtain ⟨ddev, -, hrest⟩ := bind_eq_ok hfs
        exact hfinish hrest
      · cases hfs
  | net =>
    obtain ⟨node, hnode⟩ := hparsed h hdev
    obtain ⟨htype, -, hid, -⟩ := parseNetDevice_ok hnode
    exact ⟨htype, hid⟩
  | console =>
    obtain ⟨node, hnode⟩ := hparsed h hdev
    obtain ⟨htype, port, hid⟩ := parseConsoleDevice_ok hnode
    rw [hid]
    exact ⟨htype, rfl⟩
  -- a display gets its id when it is finished
  | graphics =>
    obtain ⟨node, hnode⟩ := hparsed h hdev
    change parseGraphicsDevice node = .ok dev at hnode
    unfold parseGraphicsDevice at hnode
    split at hnode
    · obtain ⟨gdev, -, hrest⟩ := bind_eq_ok hnode
      cases hrest
      exact ⟨rfl, rfl⟩
    · cases hnode
  | input =>
    obtain ⟨node, hnode⟩ := hparsed h hdev
    obtain ⟨htype, type, bus, -, hid⟩ := parseInputDevice_ok hnode
    rw [hid]
    exact ⟨htype, rfl⟩
  | controller =>
    obtain ⟨node, hnode⟩ := hparsed h hdev
    obtain ⟨htype, typeStr, -, -, hid⟩ := parseControllerDevice_ok hnode
    rw [hid]
    exact ⟨htype, rfl⟩

theorem exists_id_of_getDevices {root : Node} {kind : DevKind}
    {devs : List (VirtDevice kind.Dev)} (h : getDevices root kind = .ok devs)
    {dev : VirtDevice kind.Dev} (hdev : dev ∈ devs) : ∃ id, dev.id = some id :=
  Option.isSome_iff_exists.mp (type_and_id_of_getDevices h hdev).2

/-- The processors of a domain are one device at most, with the id `proc`. -/
theorem proc_of_getDevices {root : Node} {devs : List (VirtDevice VcpuDevice)}
    (h : getDevices root .proc = .ok devs) {proc : VirtDevice VcpuDevice} (hproc : proc ∈ devs) :
    devs = [proc] ∧ proc.id = some "proc" := by
  obtain ⟨procs, hprocs, hfirst⟩ := map_eq_ok h
  subst hfirst
  obtain ⟨node, -, hnode⟩ := (mem_doParse hprocs).mp (List.mem_of_mem_take hproc)
  cases procs with
  | nil => cases hproc
  | cons first rest =>
    obtain rfl : proc = first := by simpa using hproc
    cases hnode
    exact ⟨rfl, rfl⟩

/-- A device that is found by its own id. -/
def FindsItself {α : Type} (devs : List (VirtDevice α)) (dev : VirtDevice α) : Prop :=
  ∀ id ∈ dev.id, Bare id ∧ devs.find? (namedUpToCase id) = some dev

/-- The ids by which the devices of a type are found: one word each, and no two of them equal up
to case. -/
structure FoundById {α : Type} (devs : List (VirtDevice α)) : Prop where
  bare : ∀ dev ∈ devs, ∀ id ∈ dev.id, Bare id
  apart : devs.Pairwise fun a b => ∀ id ∈ b.id, ¬ namedUpToCase id a = true

/-- **A device is found by its `DeviceID`** if and only if its id is one word and no device
before it has this id up to case. -/
theorem getDeviceByName_device_iff {list : GuestList} {guest : Guest}
    (hguest : guest ∈ list.guests) {kind : DevKind} (hkind : kind ≠ .proc)
    {dev : VirtDevice kind.Dev} (hdev : dev ∈ guest.devices kind) :
    getDeviceByName list kind (getFqDevid guest.name dev.id) =
        some (.device kind guest.name dev) ↔
      FindsItself (guest.devices kind) dev := by
  obtain ⟨id, hid⟩ := exists_id_of_getDevices (guest.read kind) hdev
  rw [getDeviceByName_getFqDevid hguest, FindsItself, hid]
  simp only [Option.mem_some_iff, forall_eq', formatStr, Option.getD_some]
  constructor
  -- the name in the reference is scanned up to a space
  · intro h
    obtain ⟨word, hword, hfind⟩ := Option.bind_eq_some_iff.mp h
    rw [findDomDev_of_ne guest hkind] at hfind
    obtain ⟨found, hfound, heq⟩ := Option.map_eq_some_iff.mp hfind
    obtain rfl : found = dev := by
      injection heq
    -- the word that was read is the id up to case, so the id is one word too
    have hnamed := List.find?_some hfound
    rw [namedUpToCase, hid, Option.any_some] at hnamed
    have hbare : Bare id := (bare_of_scanWord hword).of_streqc hnamed
    rw [scanWord_of_bare hbare] at hword
    cases hword
    exact ⟨hbare, hfound⟩
  · rintro ⟨hbare, hfind⟩
    rw [scanWord_of_bare hbare, Option.bind_some, findDomDev_of_ne guest hkind, hfind,
      Option.map_some]

/-- Every device of a type is found by itself if and only if their ids allow it: they are
compared up to case, and the first match is what is found. -/
theorem forall_findsItself_iff {root : Node} {kind : DevKind} {devs : List (VirtDevice kind.Dev)}
    (hread : getDevices root kind = .ok devs) (hdistinct : (devs.map VirtDevice.id).Nodup) :
    (∀ dev ∈ devs, FindsItself devs dev) ↔ FoundById devs := by
  have hsome {dev : VirtDevice kind.Dev} (hdev : dev ∈ devs) : ∃ id, dev.id = some id :=
    exists_id_of_getDevices hread hdev
  have hself := find_self_iff (r := fun b a => namedUpToCase (b.id.getD "") a) (l := devs)
    (by
      intro dev hdev
      obtain ⟨id, hid⟩ := hsome hdev
      simp [namedUpToCase, hid, streqc_refl])
    (List.Nodup.of_map _ hdistinct)
  -- each device is the first with its id up to case, so no two agree
  constructor
  · intro h
    refine ⟨?_, ?_⟩
    · intro dev hdev id hid
      exact (h dev hdev id hid).1
    · refine (hself.mp ?_).imp_of_mem ?_
      · intro dev hdev
        obtain ⟨id, hid⟩ := hsome hdev
        have := (h dev hdev id hid).2
        simpa [hid] using this
      · intro a b _ _ hab id hid
        rw [Option.mem_def.mp hid] at hab
        exact hab
  -- and the other way round
  · intro h dev hdev id hid
    have hfind := hself.mpr (h.apart.imp_of_mem ?_) dev hdev
    · refine ⟨h.bare dev hdev id hid, ?_⟩
      rw [Option.mem_def.mp hid] at hfind
      exact hfind
    · intro a b _ hb hab
      obtain ⟨id, hid⟩ := hsome hb
      have := hab id hid
      rwa [hid]

end LibvirtCim.Association
