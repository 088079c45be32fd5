import LibvirtCim.Association.Guests
import LibvirtCim.Rasd.FromVdev
import LibvirtCim.Service.DefineSystem

/-!
# Devices and their settings

`Virt_SettingsDefineState.c`: from a device to its setting and back, and from a system to its
setting and back. A device and its setting have the same id, which `get_device_by_name` and
`get_rasd_by_name` split in their own ways; the processors of a domain share the setting with
the id `proc`.

Both directions agree for every id that is one word, if no two ids of a type are equal up to
case, and for every system whose name is one word (`corresponds_iff`).
-/

open Framework LibvirtCim.Device LibvirtCim.Rasd LibvirtCim.Service

namespace LibvirtCim.Association

/-! ### The functions -/

/-- What the associations depend on besides the domains. -/
structure SettingsEnv where
  /-- the prefix of the hypervisor's classes -/
  pfx : String
  known : pfx ∈ ["Xen", "KVM", "LXC"]
  /-- what the setting of a device of a domain depends on -/
  info : String → DomainInfo
  /-- `cu_validate_ref`: the key of a reference against that of the instance -/
  validateRef : String → String → Bool
  /-- a reference to an instance is one to that instance -/
  validates : ∀ key, validateRef key key = true

variable (env : SettingsEnv) (list : GuestList)

/-- `get_rasd_id`. -/
def getRasdId (inst : LogicalDevice) : DevKind → String
  | .proc => inst.systemName ++ "/proc"
  | _ => inst.deviceId

/-- `get_dev_id`. -/
def getDevId (host : String) (devid : ℕ) : String :=
  host ++ "/" ++ devid.repr

/-- `list_rasds`. -/
def listRasds (kind : DevKind) (host : String) : List (VirtDevice kind.Dev) :=
  match list.lookup host with
  | none => []
  | some guest => guest.devices kind

/-- `find_dev`. -/
def findRasdDev (kind : DevKind) (host devid : String) : Option (VirtDevice kind.Dev) :=
  (listRasds list kind host).find? (hasId devid)

/-- `get_rasd_by_name`. -/
def getSettingByName (kind : DevKind) (name : String) : Option Instance := do
  let (host, devid) ← parseFqDevid name
  let dev ← findRasdDev list kind host devid
  rasdFromVdev (env.info host) env.pfx host kind dev

/-- A reference with a key that is the one of the instance. -/
def validated (key : String) (instKey : Option String) : Option Unit :=
  if instKey.any (env.validateRef key) then some () else none

/-- `dev_to_rasd`. -/
def devToRasd (kind : DevKind) (deviceId : String) : Option (List Instance) := do
  let inst ← getDeviceByName list kind deviceId
  validated env deviceId (some inst.deviceId)
  let rasd ← getSettingByName env list kind (getRasdId inst kind)
  some [rasd]

/-- `get_proc_dev_count`: without a processor there is an error. -/
def getProcDevCount (host : String) : Option ℕ :=
  (listRasds list .proc host).head?.map fun proc => proc.dev.quantity.toNat

/-- `rasd_to_dev`. -/
def rasdToDev (kind : DevKind) (name : String) : Option (List LogicalDevice) := do
  let rasd ← getSettingByName env list kind name
  validated env name (rasd.getStr "InstanceID")
  if kind = .proc then do
    let (host, _) ← parseFqDevid name
    let count ← getProcDevCount list host
    (List.range count).mapM fun i => getDeviceByName list kind (getDevId host i)
  else (getDeviceByName list kind name).map ([·])

/-- The setting of a system, and its `InstanceID`. -/
structure Vssd where
  guest : Guest

def Vssd.instanceId (vssd : Vssd) : String := env.pfx ++ ":" ++ vssd.guest.name

/-- `get_vssd_by_name`. -/
def getVssdByName (name : String) : Option Vssd :=
  (list.lookup name).map Vssd.mk

/-- `vs_to_vssd`, from the `Name` of the system. -/
def vsToVssd (name : String) : Option (List Vssd) := do
  let guest ← list.lookup name
  validated env name (some guest.name)
  let vssd ← getVssdByName list name
  some [vssd]

/-- `vssd_to_vs`, from the `InstanceID` of the setting. The setting is looked up with
`parse_id`, the system with a format of its own. -/
def vssdToVs (id : String) : Option (List Guest) := do
  let vssd ← (parseId id).bind (getVssdByName list)
  validated env id (some (vssd.instanceId env))
  let (_, rest) ← scanUpTo ':' id.toList
  let name ← (scanLit [':'] rest).bind scanWord
  let guest ← list.lookup name
  some [guest]

/-! ### Correspondence -/

/-- **Devices and settings, systems and settings belong together**, one to one, but for the
processors of a domain, which have one setting. -/
structure Corresponds : Prop where
  byName : ∀ kind, ∀ inst ∈ enumDevices list kind,
    getDeviceByName list kind inst.deviceId = some inst
  toRasd : ∀ guest ∈ list.guests, ∀ kind, kind ≠ .proc → ∀ dev ∈ guest.devices kind, ∃ rasd,
    rasdFromVdev (env.info guest.name) env.pfx guest.name kind dev = some rasd ∧
      devToRasd env list kind (getFqDevid guest.name dev.id) = some [rasd]
  toDev : ∀ guest ∈ list.guests, ∀ kind, kind ≠ .proc → ∀ dev ∈ guest.devices kind,
    rasdToDev env list kind (getFqDevid guest.name dev.id) = some [.device kind guest.name dev]
  procToRasd : ∀ guest ∈ list.guests, ∀ proc ∈ guest.devices .proc, ∃ rasd,
    rasdFromVdev (env.info guest.name) env.pfx guest.name .proc proc = some rasd ∧
      ∀ num < proc.dev.quantity.toNat,
        devToRasd env list .proc (getFqDevid guest.name (some num.repr)) = some [rasd]
  rasdToProc : ∀ guest ∈ list.guests, ∀ proc ∈ guest.devices .proc,
    rasdToDev env list .proc (guest.name ++ "/proc") =
      some (vcpuInstances guest.name proc.dev.quantity.toNat)
  toVssd : ∀ guest ∈ list.guests, vsToVssd env list guest.name = some [⟨guest⟩]
  toVs : ∀ guest ∈ list.guests, vssdToVs env list (Vssd.instanceId env ⟨guest⟩) = some [guest]

/-- The names and ids that are read as they are: names of one word, and of each type ids of one
word that are not equal up to case. -/
def Legible : Prop :=
  ∀ guest ∈ list.guests, Bare guest.name ∧
    ∀ kind, kind ≠ .proc → FoundById (guest.devices kind)

/-- The devices of each type have ids of their own. The providers tell devices by type and id, and
libvirt accepts no domain with two alike. -/
def DistinctDeviceIds : Prop :=
  ∀ guest ∈ list.guests, ∀ kind, ((guest.devices kind).map VirtDevice.id).Nodup

variable {env list}

/-! ### Settings -/

/-- The properties of a type leave the class and the id as they are. -/
theorem setRasdParams_keeps (info : DomainInfo) (kind : DevKind) (dev : kind.Dev)
    (inst : Instance) :
    (setRasdParams info kind dev inst).base = inst.base ∧
      (setRasdParams info kind dev inst).get "InstanceID" = inst.get "InstanceID" := by
  have hbase (addr : DeviceAddress) (inst : Instance) :
      (setRasdDeviceAddress addr inst).base = inst.base := by
    unfold setRasdDeviceAddress
    split <;> simp
  have hid (addr : DeviceAddress) (inst : Instance) :
      (setRasdDeviceAddress addr inst).get "InstanceID" = inst.get "InstanceID" := by
    unfold setRasdDeviceAddress
    split <;> simp
  -- each type writes its own properties, none of them the id
  cases kind with
  | disk =>
    change (setDiskRasdParams info dev inst).base = _ ∧
      (setDiskRasdParams info dev inst).get _ = _
    simp [setDiskRasdParams, hbase, hid]
  | net =>
    change (setNetVsiRasdParams _ (setNetRasdParams dev inst)).base = _ ∧
      (setNetVsiRasdParams _ (setNetRasdParams dev inst)).get _ = _
    unfold setNetVsiRasdParams
    split <;> simp [setNetRasdParams, setNetQosRasdParams, hbase, hid] <;> split <;> simp
  | mem =>
    change (setMemRasdParams dev inst).base = _ ∧ (setMemRasdParams dev inst).get _ = _
    simp [setMemRasdParams]
  | proc =>
    change (setProcRasdParams info dev inst).base = _ ∧
      (setProcRasdParams info dev inst).get _ = _
    unfold setProcRasdParams
    repeat' split
    all_goals simp
  | graphics =>
    change (setGraphicsRasdParams info dev inst).base = _ ∧
      (setGraphicsRasdParams info dev inst).get _ = _
    unfold setGraphicsRasdParams
    dsimp only
    split <;> simp
  | input =>
    change (setInputRasdParams dev inst).base = _ ∧ (setInputRasdParams dev inst).get _ = _
    simp [setInputRasdParams]
  | console =>
    change (setConsoleRasdParams dev inst).base = _ ∧ (setConsoleRasdParams dev inst).get _ = _
    unfold setConsoleRasdParams setConsoleUrl
    dsimp only
    repeat' split
    all_goals simp
  | controller =>
    change (setControllerRasdParams dev inst).base = _ ∧
      (setControllerRasdParams dev inst).get _ = _
    unfold setControllerRasdParams
    split <;> simp [hbase, hid]

/-- **A device that is read has a setting**, with its id. -/
theorem exists_rasdFromVdev {root : Node} {kind : DevKind} {devs : List (VirtDevice kind.Dev)}
    (h : getDevices root kind = .ok devs) {dev : VirtDevice kind.Dev} (hdev : dev ∈ devs)
    (info : DomainInfo) (pfx host : String) : ∃ rasd,
      rasdFromVdev info pfx host kind dev = some rasd ∧
        rasd.getStr "InstanceID" = some (getFqDevid host dev.id) := by
  refine ⟨_, if_pos (type_and_id_of_getDevices h hdev).1, ?_⟩
  rw [Instance.getStr, (setRasdParams_keeps _ _ _ _).2]
  simp [getFqDevid]

/-- The first device with an id, when the ids are distinct. -/
theorem find_hasId {kind : DevKind} {devs : List (VirtDevice kind.Dev)}
    (hdistinct : (devs.map VirtDevice.id).Nodup) {dev : VirtDevice kind.Dev} (hdev : dev ∈ devs)
    {id : String} (hid : dev.id = some id) : devs.find? (hasId id) = some dev := by
  cases hfind : devs.find? (hasId id) with
  | none =>
    have hnot := List.find?_eq_none.mp hfind dev hdev
    simp [hasId, hid] at hnot
  | some found =>
    have hfound : found.id = some id := by
      have := List.find?_some hfind
      simpa [hasId] using this
    rw [List.inj_on_of_nodup_map hdistinct (List.mem_of_find?_eq_some hfind) hdev
      (hfound.trans hid.symm)]

/-- A bare id is one line. -/
theorem scanUpTo_newline_of_bare {id : String} (h : Bare id) :
    scanUpTo '\n' id.toList = some (id, []) := by
  have hne : id.toList ≠ [] := by
    intro hnil
    exact h.1 (String.toList_inj.mp (by simpa using hnil))
  have hnot : '\n' ∉ id.toList := by
    intro hmem
    have hspace := h.2 '\n' hmem
    revert hspace
    decide
  rw [scanUpTo_of_not_mem hne hnot, String.ofList_toList]

/-- **A setting is found by its id** if the id is one word. -/
theorem getSettingByName_getFqDevid {guest : Guest} (hguest : guest ∈ list.guests)
    {kind : DevKind} (hdistinct : ((guest.devices kind).map VirtDevice.id).Nodup)
    {dev : VirtDevice kind.Dev} (hdev : dev ∈ guest.devices kind) {id : String}
    (hid : dev.id = some id) (hbare : Bare id) :
    getSettingByName env list kind (getFqDevid guest.name dev.id) =
      rasdFromVdev (env.info guest.name) env.pfx guest.name kind dev := by
  -- the id in the reference is one line, and is read back whole
  have hline : parseFqDevid (getFqDevid guest.name dev.id) = some (guest.name, id) := by
    rw [parseFqDevid_getFqDevid guest.legal, hid]
    show (scanUpTo '\n' id.toList).map _ = _
    rw [scanUpTo_newline_of_bare hbare]
    rfl
  -- the ids of the guest's devices are distinct, so the search ends at this one
  have hfind : findRasdDev list kind guest.name id = some dev := by
    rw [findRasdDev, listRasds, GuestList.lookup_of_mem hguest]
    exact find_hasId hdistinct hdev hid
  unfold getSettingByName
  rw [hline, Option.bind_eq_bind, Option.bind_some]
  dsimp only
  rw [hfind]
  rfl

theorem validated_self (key : String) : validated env key (some key) = some () := by
  simp [validated, env.validates]

/-! ### Devices -/

/-- The instance of a device leads to its setting and back, when the device is found. -/
theorem device_corresponds {guest : Guest} (hguest : guest ∈ list.guests) {kind : DevKind}
    (hkind : kind ≠ .proc) (hdistinct : ((guest.devices kind).map VirtDevice.id).Nodup)
    {dev : VirtDevice kind.Dev} (hdev : dev ∈ guest.devices kind)
    (hfound : FindsItself (guest.devices kind) dev) :
    (∃ rasd, rasdFromVdev (env.info guest.name) env.pfx guest.name kind dev = some rasd ∧
      devToRasd env list kind (getFqDevid guest.name dev.id) = some [rasd]) ∧
    rasdToDev env list kind (getFqDevid guest.name dev.id) =
      some [.device kind guest.name dev] := by
  obtain ⟨id, hid⟩ := exists_id_of_getDevices (guest.read kind) hdev
  obtain ⟨rasd, hrasd, hkey⟩ := exists_rasdFromVdev (guest.read kind) hdev
    (env.info guest.name) env.pfx guest.name
  -- the device is found by its reference, its setting by the same id
  have hbyName := (getDeviceByName_device_iff hguest hkind hdev).mpr hfound
  have hsetting : getSettingByName env list kind (getFqDevid guest.name dev.id) = some rasd := by
    rw [getSettingByName_getFqDevid hguest hdistinct hdev hid (hfound id hid).1, hrasd]
  have hrasdId : getRasdId (.device kind guest.name dev) kind =
      getFqDevid guest.name dev.id := by
    cases kind with
    | proc => exact absurd rfl hkind
    | _ => rfl
  constructor
  -- the setting is looked up by the id of the device, which the device passes as its own
  · refine ⟨rasd, hrasd, ?_⟩
    unfold devToRasd
    rw [hbyName, Option.bind_eq_bind, Option.bind_some]
    rw [show (LogicalDevice.device kind guest.name dev).deviceId =
      getFqDevid guest.name dev.id from rfl, validated_self, hrasdId, hsetting]
    rfl
  -- the device is looked up by the id of the setting, which is its own
  · unfold rasdToDev
    rw [hsetting, Option.bind_eq_bind, Option.bind_some]
    dsimp only
    rw [hkey, validated_self, if_neg hkind, hbyName]
    rfl

/-! ### Processors -/

/-- The setting of the processors of a domain. -/
theorem getSettingByName_proc {guest : Guest} (hguest : guest ∈ list.guests)
    {proc : VirtDevice VcpuDevice} (hproc : proc ∈ guest.devices .proc) :
    getSettingByName env list .proc (guest.name ++ "/proc") =
      rasdFromVdev (env.info guest.name) env.pfx guest.name .proc proc := by
  obtain ⟨hone, hid⟩ := proc_of_getDevices (guest.read .proc) hproc
  have hkey : guest.name ++ "/proc" = getFqDevid guest.name proc.id := by
    rw [hid, getFqDevid, String.append_assoc]
    rfl
  rw [hkey]
  refine getSettingByName_getFqDevid hguest ?_ hproc hid (by decide)
  rw [hone]
  exact List.nodup_singleton _

/-- **One setting for all processors**, from each of them. -/
theorem procToRasd_eq {guest : Guest} (hguest : guest ∈ list.guests)
    {proc : VirtDevice VcpuDevice} (hproc : proc ∈ guest.devices .proc) {rasd : Instance}
    (hrasd : rasdFromVdev (env.info guest.name) env.pfx guest.name .proc proc = some rasd)
    {num : ℕ} (hnum : num < proc.dev.quantity.toNat) :
    devToRasd env list .proc (getFqDevid guest.name (some num.repr)) = some [rasd] := by
  obtain ⟨hone, -⟩ := proc_of_getDevices (guest.read .proc) hproc
  unfold devToRasd
  rw [getDeviceByName_processor hguest hone hnum, Option.bind_eq_bind, Option.bind_some]
  rw [show (LogicalDevice.processor guest.name num).deviceId =
    getFqDevid guest.name (some num.repr) from rfl, validated_self]
  show (getSettingByName env list .proc (guest.name ++ "/proc")).bind _ = _
  rw [getSettingByName_proc hguest hproc, hrasd]
  rfl

/-- **All processors from the one setting.** -/
theorem rasdToProc_eq {guest : Guest} (hguest : guest ∈ list.guests)
    {proc : VirtDevice VcpuDevice} (hproc : proc ∈ guest.devices .proc) :
    rasdToDev env list .proc (guest.name ++ "/proc") =
      some (vcpuInstances guest.name proc.dev.quantity.toNat) := by
  obtain ⟨hone, hid⟩ := proc_of_getDevices (guest.read .proc) hproc
  obtain ⟨rasd, hrasd, hkey⟩ := exists_rasdFromVdev (guest.read .proc) hproc
    (env.info guest.name) env.pfx guest.name
  -- the setting of the processors has the id proc, not a number
  have hname : getFqDevid guest.name proc.id = guest.name ++ "/proc" := by
    rw [hid, getFqDevid, String.append_assoc]
    rfl
  have hline : parseFqDevid (guest.name ++ "/proc") = some (guest.name, "proc") := by
    rw [← hname, parseFqDevid_getFqDevid guest.legal, hid]
    rfl
  -- the count is that of the one entry
  have hcount : getProcDevCount list guest.name = some proc.dev.quantity.toNat := by
    rw [getProcDevCount, listRasds, GuestList.lookup_of_mem hguest]
    show ((guest.devices .proc).head?).map _ = _
    rw [hone]
    rfl
  -- each number below the count is that of a processor
  have hall : (List.range proc.dev.quantity.toNat).mapM
      (fun i => getDeviceByName list .proc (getDevId guest.name i)) =
        some (vcpuInstances guest.name proc.dev.quantity.toNat) := by
    refine mapM_eq_some_map fun num hnum => ?_
    show getDeviceByName list .proc (getFqDevid guest.name (some num.repr)) = _
    exact getDeviceByName_processor hguest hone (List.mem_range.mp hnum)
  -- the setting is found, its id split again, and the processors counted
  unfold rasdToDev
  rw [getSettingByName_proc hguest hproc, hrasd, Option.bind_eq_bind, Option.bind_some]
  dsimp only
  rw [hkey, hname, validated_self, if_pos rfl, hline]
  show (getProcDevCount list guest.name).bind _ = _
  rw [hcount]
  exact hall

/-! ### Systems -/

theorem LegalName.scanUpTo_newline {name : String} (h : LegalName name) :
    scanUpTo '\n' name.toList = some (name, []) := by
  rw [scanUpTo_of_not_mem h.toList_ne_nil h.oneLine, String.ofList_toList]

/-- The id of the setting of a system, split at the colon. -/
theorem scanUpTo_instanceId (guest : Guest) :
    scanUpTo ':' (Vssd.instanceId env ⟨guest⟩).toList =
      some (env.pfx, ':' :: guest.name.toList) := by
  have hsplit : (Vssd.instanceId env ⟨guest⟩).toList =
      env.pfx.toList ++ ':' :: guest.name.toList := by
    simp [Vssd.instanceId]
  have hpfx : env.pfx.toList ≠ [] ∧ ':' ∉ env.pfx.toList := by
    have hknown := env.known
    simp only [List.mem_cons, List.not_mem_nil, or_false] at hknown
    obtain h | h | h := hknown <;> rw [h] <;> decide
  rw [hsplit, scanUpTo_append hpfx.1 hpfx.2, String.ofList_toList]

theorem vsToVssd_eq {guest : Guest} (hguest : guest ∈ list.guests) :
    vsToVssd env list guest.name = some [⟨guest⟩] := by
  have hlookup := GuestList.lookup_of_mem hguest
  unfold vsToVssd getVssdByName
  rw [hlookup, Option.bind_eq_bind, Option.bind_some, validated_self]
  rfl

/-- **The system is found from its setting** if and only if its name is one word. -/
theorem vssdToVs_iff {guest : Guest} (hguest : guest ∈ list.guests) :
    vssdToVs env list (Vssd.instanceId env ⟨guest⟩) = some [guest] ↔ Bare guest.name := by
  have hlookup := GuestList.lookup_of_mem hguest
  -- the way to the guest's settings goes by the line of the id
  have hparse : (parseId (Vssd.instanceId env ⟨guest⟩)).bind (getVssdByName list) =
      some ⟨guest⟩ := by
    have hid : parseId (Vssd.instanceId env ⟨guest⟩) = some guest.name := by
      unfold parseId
      rw [scanUpTo_instanceId]
      show (scanUpTo '\n' guest.name.toList).bind _ = _
      rw [guest.legal.scanUpTo_newline]
      rfl
    rw [hid, Option.bind_some, getVssdByName, hlookup, Option.map_some]
  -- the way back reads a word, where the way there reads a line
  have hword : vssdToVs env list (Vssd.instanceId env ⟨guest⟩) =
      (scanWord guest.name.toList).bind fun name => (list.lookup name).map ([·]) := by
    unfold vssdToVs
    rw [hparse, Option.bind_eq_bind, Option.bind_some]
    dsimp only
    rw [validated_self, scanUpTo_instanceId]
    show ((scanWord guest.name.toList).bind fun name =>
      (list.lookup name).bind fun g => some [g]) = _
    cases scanWord guest.name.toList with
    | none => rfl
    | some name =>
      rw [Option.bind_some, Option.bind_some]
      cases list.lookup name <;> rfl
  rw [hword]
  constructor
  -- the guest comes back, so the word is its name
  · intro h
    obtain ⟨name, hname, hfound⟩ := Option.bind_eq_some_iff.mp h
    obtain ⟨found, hnamed, hone⟩ := Option.map_eq_some_iff.mp hfound
    obtain rfl : found = guest := by simpa using hone
    rw [(GuestList.mem_of_lookup hnamed).2]
    exact bare_of_scanWord hname
  · intro hbare
    rw [scanWord_of_bare hbare, Option.bind_some, hlookup]
    rfl

/-! ### The correspondence -/

/-- **Devices, systems and their settings correspond if and only if the names are legible.** Every
association ends in a look-up by an id that is scanned into the words it was made of, and compares
ids up to case; `forall_findsItself_iff` says when each device of a type is found so. Processors
have one entry for all of them and are treated apart. -/
theorem corresponds_iff (hdistinct : DistinctDeviceIds list) :
    Corresponds env list ↔ Legible list := by
  -- down: a device that its reference leads to finds itself
  constructor
  · intro h guest hguest
    refine ⟨(vssdToVs_iff hguest).mp (h.toVs guest hguest), ?_⟩
    intro kind hkind
    rw [← forall_findsItself_iff (guest.read kind) (hdistinct guest hguest kind)]
    intro dev hdev
    rw [← getDeviceByName_device_iff hguest hkind hdev]
    refine h.byName kind (.device kind guest.name dev) ?_
    rw [enumDevices, List.mem_flatMap]
    refine ⟨guest, hguest, ?_⟩
    rw [deviceInstances_of_ne guest.name hkind]
    exact List.mem_map_of_mem hdev
  -- up: the clauses of the correspondence one by one
  · intro h
    have hfound {guest : Guest} (hguest : guest ∈ list.guests) {kind : DevKind}
        (hkind : kind ≠ .proc) {dev : VirtDevice kind.Dev} (hdev : dev ∈ guest.devices kind) :
        FindsItself (guest.devices kind) dev :=
      (forall_findsItself_iff (guest.read kind) (hdistinct guest hguest kind)).mpr
        ((h guest hguest).2 kind hkind) dev hdev
    refine ⟨?_, ?_, ?_, ?_, ?_, ?_, ?_⟩
    -- a device is found by its reference, a processor by its number
    · intro kind inst hinst
      obtain ⟨guest, hguest, hinst⟩ := List.mem_flatMap.mp hinst
      by_cases hkind : kind = .proc
      · subst hkind
        obtain ⟨num, hnum, rfl⟩ := List.mem_map.mp hinst
        rw [List.mem_range] at hnum
        cases hprocs : guest.devices .proc with
        | nil =>
          rw [hprocs] at hnum
          exact absurd hnum (Nat.not_lt_zero num)
        | cons proc procs =>
          have hproc : proc ∈ guest.devices .proc := by
            rw [hprocs]
            exact List.mem_cons_self
          obtain ⟨hone, -⟩ := proc_of_getDevices (guest.read .proc) hproc
          rw [hone] at hnum
          exact getDeviceByName_processor hguest hone hnum
      · rw [deviceInstances_of_ne guest.name hkind] at hinst
        obtain ⟨dev, hdev, rfl⟩ := List.mem_map.mp hinst
        exact (getDeviceByName_device_iff hguest hkind hdev).mpr (hfound hguest hkind hdev)
    · intro guest hguest kind hkind dev hdev
      exact (device_corresponds hguest hkind (hdistinct guest hguest kind) hdev
        (hfound hguest hkind hdev)).1
    · intro guest hguest kind hkind dev hdev
      exact (device_corresponds hguest hkind (hdistinct guest hguest kind) hdev
        (hfound hguest hkind hdev)).2
    · intro guest hguest proc hproc
      obtain ⟨rasd, hrasd, -⟩ := exists_rasdFromVdev (guest.read .proc) hproc
        (env.info guest.name) env.pfx guest.name
      exact ⟨rasd, hrasd, fun num hnum => procToRasd_eq hguest hproc hrasd hnum⟩
    · intro guest hguest proc hproc
      exact rasdToProc_eq hguest hproc
    · intro guest hguest
      exact vsToVssd_eq hguest
    · intro guest hguest
      exact (vssdToVs_iff hguest).mpr (h guest hguest).1

/-! ### A container with a blank in a mount point -/

/-- A container with a processor and one file system. -/
def containerWith (target : String) : Node :=
  .elem "domain" [("type", "lxc")]
    [.elem "name" [] [.text "ct"], .elem "vcpu" [] [.text "2"],
      .elem "devices" [] [.elem "filesystem" [("type", "mount")]
        [.elem "source" [("dir", "/srv")] [], .elem "target" [("dir", target)] []]]]

/-- It can be read. -/
theorem getDevices_containerWith (target : String) (kind : DevKind) :
    (getDevices (containerWith target) kind).toOption.isSome := by
  cases kind <;> rfl

/-- Its processors, and its file system. -/
theorem readDevices_proc_containerWith (target : String) :
    readDevices (containerWith target) .proc =
      [{ type := .proc, dev := { quantity := 2 }, id := some "proc" }] := rfl

theorem readDevices_disk_containerWith (target : String) :
    readDevices (containerWith target) .disk =
      [{ type := .disk
         dev :=
           { type := some "mount", source := some "/srv", virtualDev := some target
             diskType := .fs }
         id := some target }] := rfl

/-- The host of one container. -/
def containerHost (target : String) : GuestList where
  guests := [.ofNode "ct" (containerWith target) (by decide) (getDevices_containerWith target)
    (by
      intro proc hproc
      rw [readDevices_proc_containerWith, List.mem_singleton] at hproc
      rw [hproc]
      decide)]
  distinct := List.nodup_singleton _

theorem distinctDeviceIds_containerHost (target : String) :
    DistinctDeviceIds (containerHost target) := by
  intro guest hguest kind
  obtain rfl := List.mem_singleton.mp hguest
  cases kind <;> first | exact List.nodup_singleton _ | exact List.nodup_nil

/-- A broker that compares the keys, on an idle host. -/
def containerEnv : SettingsEnv where
  pfx := "LXC"
  known := by decide
  info := fun _ =>
    { volSize := fun _ => 0, volPool := fun _ => none, connect := true, lookup := true
      online := false, vcpuCount := none, infostore := true, qemu := false, schedParams := none
      weight := 0, limit := 0 }
  validateRef := fun key key' => key = key'
  validates := by simp

theorem corresponds_srv : Corresponds containerEnv (containerHost "/srv") := by
  refine (corresponds_iff (distinctDeviceIds_containerHost "/srv")).mpr ?_
  intro guest hguest
  obtain rfl := List.mem_singleton.mp hguest
  -- the sample guest has one disk, so every list but that is empty
  refine ⟨by decide, fun kind hkind => ?_⟩
  have hnone {kind : DevKind} {devs : List (VirtDevice kind.Dev)} (h : devs = []) :
      FoundById devs := by
    subst h
    exact ⟨by simp, List.Pairwise.nil⟩
  cases kind with
  | proc => exact absurd rfl hkind
  | disk =>
    show FoundById (readDevices (containerWith "/srv") .disk)
    rw [readDevices_disk_containerWith]
    refine ⟨?_, List.pairwise_singleton _ _⟩
    intro dev hdev id hid
    rw [List.mem_singleton.mp hdev] at hid
    obtain rfl := Option.some.inj hid
    decide
  | mem => exact @hnone .mem _ rfl
  | net => exact @hnone .net _ rfl
  | console => exact @hnone .console _ rfl
  | graphics => exact @hnone .graphics _ rfl
  | input => exact @hnone .input _ rfl
  | controller => exact @hnone .controller _ rfl

/-- **A file system whose mount point has a blank is not found by its `DeviceID`.** -/
theorem not_corresponds_blank :
    ¬ ∀ env list, DistinctDeviceIds list → Corresponds env list := by
  intro h
  have hbyName := (h containerEnv (containerHost "/mnt/my data")
    (distinctDeviceIds_containerHost _)).byName .disk
  obtain ⟨inst, hinst⟩ : ∃ inst, inst ∈ enumDevices (containerHost "/mnt/my data") .disk :=
    ⟨_, List.mem_singleton_self _⟩
  have hnone : ((enumDevices (containerHost "/mnt/my data") .disk).map fun inst =>
      (getDeviceByName (containerHost "/mnt/my data") .disk inst.deviceId).isSome) = [false] := by
    decide +kernel
  have hmem := List.mem_map_of_mem (f := fun inst : LogicalDevice =>
    (getDeviceByName (containerHost "/mnt/my data") .disk inst.deviceId).isSome) hinst
  rw [hnone, hbyName inst hinst] at hmem
  simp at hmem

end LibvirtCim.Association
