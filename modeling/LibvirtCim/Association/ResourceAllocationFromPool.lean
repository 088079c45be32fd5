import LibvirtCim.Association.SystemComponents

/-!
# Settings and their pools

`Virt_ResourceAllocationFromPool.c`, from a setting to its pool and from a pool to its settings.
It is what `Virt_ElementAllocatedFromPool.c` is for the devices, and asks `pool_member_of` about
the same ids, but a setting is found by the line that is read of its id, and a reference to it is
not validated.

* `settingsAllocated_iff` — the two directions belong together if and only if no network without a
  bridge is in the way, and a setting that is in a pool is found by the line of its id;
* `settingsAllocated_of_symmetric` — they do wherever those of the devices do;
* `devToRasd_samePool` — a device and the setting it leads to are in the same pools.
-/

open Framework LibvirtCim.Device LibvirtCim.Rasd LibvirtCim.Service LibvirtCim.Pool

namespace LibvirtCim.Association

variable (host : AssociationHost)

/-- `enum_rasds`, for one type of all domains. -/
def enumRasds (kind : DevKind) : List Instance :=
  host.list.guests.flatMap fun guest => getRasds host guest kind

/-- `rasd_to_pool`, from the class and the `InstanceID` of a setting. -/
def rasdToPool (kind : DevKind) (id : String) : Except Stop (List PoolInstance) :=
  match getSettingByName host.env host.list kind id with
  | none => .ok []
  | some _ => do
    let poolid ← poolMemberOf host.toPoolHost kind id
    .ok (poolid.bind (getPoolByName (poolView host.toPoolHost))).toList

/-- The test of `filter_by_pool`. -/
def settingInPool (poolid : String) (inst : Instance) : Except Stop Bool :=
  match resTypeFromRasdClassname inst, inst.getStr "InstanceID" with
  | some (.dev kind), some id => do
    let member ← poolMemberOf host.toPoolHost kind id
    .ok (member = some poolid)
  | _, _ => .ok false

/-- `pool_to_rasd`, from the class and the `InstanceID` of a pool. -/
def poolToRasd (classname poolid : String) : Except Stop (List Instance) :=
  match getPoolByRef (poolView host.toPoolHost) host.validateRef classname (some poolid) with
  | none => .ok []
  | some _ =>
    match resTypeFromPoolId poolid with
    | none => .ok []
    | some kind => filterExcept (settingInPool host poolid) (enumRasds host kind)

/-- What `pool_to_rasd` returns for a pool. -/
def settingsFrom (pool : PoolInstance) : Except Stop (List Instance) :=
  poolToRasd host (host.pfx ++ "_" ++ poolClass pool.kind) pool.id

/-- The setting is among those that are returned for the pool. -/
def AllocatesSetting (pool : PoolInstance) (rasd : Instance) : Prop :=
  ∃ rasds, settingsFrom host pool = .ok rasds ∧ rasd ∈ rasds

/-- **Settings and pools belong together**, and every setting has one pool at most. -/
structure SettingsAllocated : Prop where
  answered : ∀ pool, IsPool host.toPoolHost pool → ∃ rasds, settingsFrom host pool = .ok rasds
  setting : ∀ kind, ∀ rasd ∈ enumRasds host kind, ∀ id ∈ rasd.getStr "InstanceID",
    ∀ pool, IsPool host.toPoolHost pool →
      (AllocatesSetting host pool rasd ↔ rasdToPool host kind id = .ok [pool])
  onePool : ∀ rasd pool pool', IsPool host.toPoolHost pool → IsPool host.toPoolHost pool' →
    AllocatesSetting host pool rasd → AllocatesSetting host pool' rasd → pool = pool'

/-- The line that is read of the id of the device is the id of a device. -/
def FoundByLine {α : Type} (devs : List (VirtDevice α)) (id : String) : Prop :=
  ∃ line, scanUpTo '\n' id.toList = some line ∧ ∃ found ∈ devs, found.id = some line.1

/-- Where they belong together. A network without a bridge ends the process when a bridge is
searched for; and a setting is looked up by what is scanned of its id, the rest of the line. -/
structure SettingsAllocatable : Prop where
  bridges : ∀ guest ∈ host.list.guests, ∀ dev ∈ guest.devices .net, ∀ nic,
    memberDevice host.toPoolHost .net VirtDevice.id (getFqDevid guest.name dev.id) = some nic →
      BridgesNamed host.toPoolHost nic.dev
  found : ∀ guest ∈ host.list.guests, ∀ kind, ∀ dev ∈ guest.devices kind, ∀ id ∈ dev.id,
    InPool host.toPoolHost kind (getFqDevid guest.name dev.id) →
      FoundByLine (guest.devices kind) id

variable {host}

/-! ### Settings -/

theorem mem_enumRasds_iff {kind : DevKind} {rasd : Instance} :
    rasd ∈ enumRasds host kind ↔ ∃ guest ∈ host.list.guests, ∃ dev ∈ guest.devices kind,
      rasdFromVdev (host.info guest.name) host.pfx guest.name kind dev = some rasd := by
  unfold enumRasds
  rw [List.mem_flatMap]
  exact exists_congr fun guest => and_congr_right fun _ => mem_getRasds_iff

/-- What is enumerated is of the class of its type, and has the id of its device. -/
theorem setting_of_mem_enumRasds {kind : DevKind} {rasd : Instance}
    (h : rasd ∈ enumRasds host kind) : rasd.base = baseOfKind kind ∧
      ∃ guest ∈ host.list.guests, ∃ dev ∈ guest.devices kind,
        rasd.getStr "InstanceID" = some (getFqDevid guest.name dev.id) := by
  obtain ⟨guest, hguest, dev, hdev, hrasd⟩ := mem_enumRasds_iff.mp h
  obtain ⟨rasd', hrasd', hkey⟩ := exists_rasdFromVdev (guest.read kind) hdev
    (host.info guest.name) host.pfx guest.name
  rw [hrasd] at hrasd'
  obtain rfl := Option.some.inj hrasd'
  exact ⟨base_rasdFromVdev hrasd, guest, hguest, dev, hdev, hkey⟩

theorem resTypeFromRasdClassname_of_base {kind : DevKind} {rasd : Instance}
    (h : rasd.base = baseOfKind kind) : resTypeFromRasdClassname rasd = some (.dev kind) := by
  unfold resTypeFromRasdClassname
  rw [h]
  cases kind <;> decide

/-- A setting is found by its id if and only if the line that is read of it is the id of a
device. -/
theorem isSome_getSettingByName_iff {guest : Guest} (hguest : guest ∈ host.list.guests)
    (kind : DevKind) (id : String) :
    (getSettingByName host.env host.list kind (getFqDevid guest.name (some id))).isSome ↔
      FoundByLine (guest.devices kind) id := by
  rw [getSettingByName_getFqDevid_eq hguest]
  unfold FoundByLine
  -- the id is scanned up to the end of its line, and only the line is looked up
  cases scanUpTo '\n' id.toList with
  | none => simp
  | some line =>
    rw [Option.bind_some]
    -- what the search returns is a device with the line as its id, and it stops at the first
    constructor
    · intro h
      obtain ⟨rasd, hrasd⟩ := Option.isSome_iff_exists.mp h
      obtain ⟨found, hfound, -⟩ := Option.bind_eq_some_iff.mp hrasd
      have hid := List.find?_some hfound
      exact ⟨line, rfl, found, List.mem_of_find?_eq_some hfound, by simpa [hasId] using hid⟩
    · rintro ⟨line', hline, dev, hdev, hid⟩
      obtain rfl := Option.some.inj hline
      obtain ⟨found, hfound⟩ : ∃ found,
          (guest.devices kind).find? (hasId line.1) = some found := by
        rw [← Option.isSome_iff_exists, List.find?_isSome]
        exact ⟨dev, hdev, by simp [hasId, hid]⟩
      obtain ⟨rasd, hrasd, -⟩ := exists_rasdFromVdev (guest.read kind)
        (List.mem_of_find?_eq_some hfound) (host.info guest.name) host.pfx guest.name
      rw [hfound, Option.bind_some, hrasd]
      rfl

/-! ### What belongs to a pool -/

/-- The membership of every setting of the type is known. -/
def SettingMembersKnown (host : AssociationHost) (kind : DevKind) : Prop :=
  ∀ rasd ∈ enumRasds host kind, ∀ id ∈ rasd.getStr "InstanceID",
    ∃ pool, poolMemberOf host.toPoolHost kind id = .ok pool

/-- The test asks for the pool of the id. -/
theorem settingInPool_eq {kind : DevKind} {rasd : Instance} (h : rasd ∈ enumRasds host kind)
    {id : String} (hid : rasd.getStr "InstanceID" = some id) (poolid : String) :
    settingInPool host poolid rasd = (poolMemberOf host.toPoolHost kind id).map
      fun member => decide (member = some poolid) := by
  unfold settingInPool
  rw [resTypeFromRasdClassname_of_base (setting_of_mem_enumRasds h).1, hid]
  dsimp only
  cases poolMemberOf host.toPoolHost kind id with
  | error stop => rfl
  | ok member => rfl

/-- **What is returned for a pool.** -/
theorem settingsFrom_eq {pool : PoolInstance} (h : IsPool host.toPoolHost pool) :
    settingsFrom host pool =
      filterExcept (settingInPool host pool.id) (enumRasds host pool.kind) := by
  obtain ⟨id, hid⟩ := h
  obtain ⟨hkind, htype, hself⟩ := getPoolByName_id hid
  have href : getPoolByRef (poolView host.toPoolHost) host.validateRef
      (host.pfx ++ "_" ++ poolClass pool.kind) (some pool.id) = some pool := by
    unfold getPoolByRef
    rw [Option.bind_eq_bind, Option.bind_some, resTypeFromPoolClassname_poolClass hkind,
      Option.bind_eq_bind, Option.bind_some, if_pos htype, hself, Option.bind_eq_bind,
      Option.bind_some, host.validates, if_pos rfl]
  unfold settingsFrom poolToRasd
  rw [href]
  dsimp only
  rw [htype]

theorem exists_settingsFrom_iff {pool : PoolInstance} (h : IsPool host.toPoolHost pool) :
    (∃ rasds, settingsFrom host pool = .ok rasds) ↔ SettingMembersKnown host pool.kind := by
  rw [settingsFrom_eq h]
  constructor
  · rintro ⟨rasds, hrasds⟩ rasd hrasd id hid
    -- an answer means that every setting of the type passed its test, this one among them
    have htest := (filterExcept_eq_ok_iff.mp hrasds).1 rasd hrasd
    rw [settingInPool_eq hrasd hid] at htest
    cases hpool : poolMemberOf host.toPoolHost pool.kind id with
    | ok poolid => exact ⟨poolid, rfl⟩
    | error stop =>
      rw [hpool] at htest
      cases htest
  · intro hknown
    refine ⟨_, filterExcept_eq_ok_iff.mpr ⟨?_, rfl⟩⟩
    -- the test asks for the pool of the id, which is known by assumption
    intro rasd hrasd
    obtain ⟨-, guest, -, dev, -, hid⟩ := setting_of_mem_enumRasds hrasd
    obtain ⟨poolid, hpool⟩ := hknown rasd hrasd _ hid
    rw [settingInPool_eq hrasd hid, hpool]
    rfl

theorem allocatesSetting_iff {pool : PoolInstance} (h : IsPool host.toPoolHost pool)
    (rasd : Instance) :
    AllocatesSetting host pool rasd ↔ SettingMembersKnown host pool.kind ∧
      rasd ∈ enumRasds host pool.kind ∧ ∃ id ∈ rasd.getStr "InstanceID",
        poolMemberOf host.toPoolHost pool.kind id = .ok (some pool.id) := by
  -- the list kept is the list searched, with the test of each setting written out
  have hmem {rasds : List Instance}
      (hrasds : filterExcept (settingInPool host pool.id) (enumRasds host pool.kind) =
        .ok rasds) :
      rasd ∈ rasds ↔ rasd ∈ enumRasds host pool.kind ∧ ∃ id ∈ rasd.getStr "InstanceID",
        poolMemberOf host.toPoolHost pool.kind id = .ok (some pool.id) := by
    rw [(filterExcept_eq_ok_iff.mp hrasds).2, List.mem_filter]
    refine and_congr_right fun hrasd => ?_
    obtain ⟨-, guest, -, dev, -, hid⟩ := setting_of_mem_enumRasds hrasd
    rw [settingInPool_eq hrasd hid, hid]
    simp only [Option.mem_some_iff, exists_eq_left']
    -- the test is decided by the pool found, compared with the pool asked about
    cases poolMemberOf host.toPoolHost pool.kind (getFqDevid guest.name dev.id) with
    | error stop =>
      constructor
      · intro hnone
        cases of_decide_eq_true hnone
      · rintro ⟨⟩
    | ok poolid =>
      show decide (some (decide (poolid = some pool.id)) = some true) = true ↔ _
      simp
  -- the settings known are what makes the list an answer, the rest is membership in it
  constructor
  · rintro ⟨rasds, hok, hrasd⟩
    refine ⟨(exists_settingsFrom_iff h).mp ⟨rasds, hok⟩, ?_⟩
    rw [settingsFrom_eq h] at hok
    exact (hmem hok).mp hrasd
  · rintro ⟨hknown, hrasd⟩
    obtain ⟨rasds, hok⟩ := (exists_settingsFrom_iff h).mpr hknown
    refine ⟨rasds, hok, ?_⟩
    rw [settingsFrom_eq h] at hok
    exact (hmem hok).mpr hrasd

/-- **The pool of a setting.** -/
theorem rasdToPool_eq_iff {kind : DevKind} {id : String} {pool : PoolInstance} :
    rasdToPool host kind id = .ok [pool] ↔
      (getSettingByName host.env host.list kind id).isSome ∧
        ∃ poolid, poolMemberOf host.toPoolHost kind id = .ok (some poolid) ∧
          getPoolByName (poolView host.toPoolHost) poolid = some pool := by
  unfold rasdToPool
  -- three steps in the order of the provider: the setting, its pool, the pool by its id
  cases getSettingByName host.env host.list kind id with
  | none => simp
  | some rasd =>
    cases poolMemberOf host.toPoolHost kind id with
    | error stop =>
      constructor
      · rintro ⟨⟩
      · rintro ⟨-, poolid, ⟨⟩, -⟩
    | ok member =>
      show Except.ok (member.bind (getPoolByName (poolView host.toPoolHost))).toList =
        .ok [pool] ↔ _
      cases member with
      | none => simp
      | some poolid =>
        cases hpool : getPoolByName (poolView host.toPoolHost) poolid with
        | none => simp [hpool]
        | some found => simp [hpool]

/-- Only the search for a bridge can crash. -/
theorem settingMembersKnown_iff (kind : DevKind) :
    SettingMembersKnown host kind ↔ (kind = .net →
      ∀ guest ∈ host.list.guests, ∀ dev ∈ guest.devices .net, ∀ nic,
        memberDevice host.toPoolHost .net VirtDevice.id (getFqDevid guest.name dev.id) =
          some nic → BridgesNamed host.toPoolHost nic.dev) := by
  -- only a network interface is placed by a search that can stop, the bridge of its source
  by_cases hkind : kind = .net
  · subst hkind
    -- for one id the search fails only where the interface exists and a bridge has no name
    have hone (id : String) : (∃ pool, poolMemberOf host.toPoolHost .net id = .ok pool) ↔
        ∀ nic, memberDevice host.toPoolHost .net VirtDevice.id id = some nic →
          BridgesNamed host.toPoolHost nic.dev := by
      unfold poolMemberOf
      cases hnic : memberDevice host.toPoolHost .net VirtDevice.id id with
      | none => simp
      | some nic =>
        simp only [Option.some.injEq, forall_eq']
        exact exists_netpoolMemberOf_iff nic.dev
    refine Iff.trans ?_ (forall_prop_of_true rfl).symm
    -- the ids are those of the settings, made of the devices of the guests
    constructor
    · intro h guest hguest dev hdev
      obtain ⟨rasd, hrasd, hid⟩ := exists_rasdFromVdev (guest.read .net) hdev
        (host.info guest.name) host.pfx guest.name
      exact (hone _).mp (h rasd (mem_enumRasds_iff.mpr ⟨guest, hguest, dev, hdev, hrasd⟩) _ hid)
    · intro h rasd hrasd id hid
      obtain ⟨-, guest, hguest, dev, hdev, hkey⟩ := setting_of_mem_enumRasds hrasd
      obtain rfl := Option.some.inj (hkey.symm.trans hid)
      exact (hone _).mpr (h guest hguest dev hdev)
  · simp only [hkind, false_imp_iff, iff_true]
    intro rasd _ id _
    cases kind with
    | net => exact absurd rfl hkind
    | _ => exact ⟨_, rfl⟩

theorem SettingsAllocatable.membersKnown (h : SettingsAllocatable host) (kind : DevKind) :
    SettingMembersKnown host kind :=
  (settingMembersKnown_iff kind).mpr fun _ => h.bridges

/-! ### Both directions -/

theorem SettingsAllocatable.allocated (h : SettingsAllocatable host) :
    SettingsAllocated host where
  answered pool hpool := (exists_settingsFrom_iff hpool).mpr (h.membersKnown pool.kind)
  setting kind rasd hrasd id hid pool hpool := by
    obtain ⟨hbase, guest, hguest, dev, hdev, hkey⟩ := setting_of_mem_enumRasds hrasd
    obtain rfl := Option.some.inj (hkey.symm.trans hid)
    obtain ⟨devid, hdevid⟩ := exists_id_of_getDevices (guest.read kind) hdev
    rw [allocatesSetting_iff hpool, rasdToPool_eq_iff]
    -- down: the pool lists the setting, and the setting is looked up by its own id
    constructor
    · rintro ⟨-, hmem, id, hid', hpoolid⟩
      obtain rfl := Option.some.inj (hkey.symm.trans hid')
      obtain rfl : pool.kind = kind :=
        baseOfKind_injective ((setting_of_mem_enumRasds hmem).1.symm.trans hbase)
      obtain ⟨id, hid⟩ := hpool
      refine ⟨?_, pool.id, hpoolid, (getPoolByName_id hid).2.2⟩
      -- a setting with a pool is found by its id
      have hin := (isSome_of_poolMemberOf hpoolid).mp rfl
      have hline := h.found guest hguest _ dev hdev devid hdevid hin
      rw [hdevid]
      exact (isSome_getSettingByName_iff hguest _ devid).mpr hline
    -- up: a pool that comes back has the id the setting is placed by
    · rintro ⟨-, poolid, hpoolid, hfound⟩
      obtain ⟨found, hfound', hkind, hpid⟩ := exists_pool_of_poolMemberOf hpoolid
      obtain rfl := Option.some.inj (hfound.symm.trans hfound')
      rw [hkind, hpid]
      exact ⟨h.membersKnown kind, hrasd, _, hkey, hpoolid⟩
  onePool rasd pool pool' hpool hpool' hrasd hrasd' := by
    obtain ⟨-, hmem, id, hkey, hid⟩ := (allocatesSetting_iff hpool rasd).mp hrasd
    obtain ⟨-, hmem', id', hkey', hid'⟩ := (allocatesSetting_iff hpool' rasd).mp hrasd'
    have hkind : pool.kind = pool'.kind := baseOfKind_injective
      ((setting_of_mem_enumRasds hmem).1.symm.trans (setting_of_mem_enumRasds hmem').1)
    obtain rfl := Option.some.inj (hkey.symm.trans hkey')
    rw [hkind, hid'] at hid
    -- both pools answer to the id of the setting, so they are one pool
    have heq : pool'.id = pool.id := Option.some.inj (Except.ok.inj hid)
    obtain ⟨name, hname⟩ := hpool
    obtain ⟨name', hname'⟩ := hpool'
    have hself := (getPoolByName_id hname).2.2
    rw [← heq, (getPoolByName_id hname').2.2] at hself
    exact (Option.some.inj hself).symm

theorem SettingsAllocated.allocatable (h : SettingsAllocated host) :
    SettingsAllocatable host where
  -- the settings of the parent of the network pools are listed only where the bridges are named
  bridges := by
    obtain ⟨pool, hpool, hkind⟩ := @isPool_parent host.toPoolHost .net (by decide)
    have hknown := (exists_settingsFrom_iff hpool).mp (h.answered pool hpool)
    rw [hkind] at hknown
    exact (settingMembersKnown_iff .net).mp hknown rfl
  found guest hguest kind dev hdev id hid hin := by
    obtain ⟨rasd, hrasd, hkey⟩ := exists_rasdFromVdev (guest.read kind) hdev
      (host.info guest.name) host.pfx guest.name
    have hmem : rasd ∈ enumRasds host kind :=
      mem_enumRasds_iff.mpr ⟨guest, hguest, dev, hdev, hrasd⟩
    -- what is in a pool has a pool, so the type has one
    have hconsole : kind ≠ .console := by
      rintro rfl
      exact hin
    obtain ⟨parent, hparent, rfl⟩ := isPool_parent hconsole
    have hknown := (exists_settingsFrom_iff hparent).mp (h.answered parent hparent)
    obtain ⟨member, hmember⟩ := hknown rasd hmem _ hkey
    obtain ⟨poolid, rfl⟩ := Option.isSome_iff_exists.mp ((isSome_of_poolMemberOf hmember).mpr hin)
    obtain ⟨pool, hpool, hkind, hpoolid⟩ := exists_pool_of_poolMemberOf hmember
    -- the pool of the member lists the setting, so the other direction must find it
    have hispool : IsPool host.toPoolHost pool := ⟨poolid, hpool⟩
    have hup := (h.setting _ rasd hmem _ hkey pool hispool).mp ((allocatesSetting_iff hispool
      rasd).mpr ⟨hkind ▸ hknown, hkind ▸ hmem, _, hkey, by rw [hkind, hpoolid]; exact hmember⟩)
    obtain ⟨hfound, -⟩ := rasdToPool_eq_iff.mp hup
    rw [Option.mem_def.mp hid] at hfound
    exact (isSome_getSettingByName_iff hguest _ id).mp hfound

/-- **Settings and pools belong together** if and only if no network without a bridge is in the
way of one with a bridge, and a setting that is in a pool is found by the line of its id. Only the
search for a bridge can end the process (`settingMembersKnown_iff`); all else is the same look-up
from both sides. -/
theorem settingsAllocated_iff (host : AssociationHost) :
    SettingsAllocated host ↔ SettingsAllocatable host :=
  ⟨SettingsAllocated.allocatable, SettingsAllocatable.allocated⟩

/-! ### Devices and settings -/

/-- A word is read as a line. -/
theorem foundByLine_of_bare {α : Type} {devs : List (VirtDevice α)} {dev : VirtDevice α}
    (hdev : dev ∈ devs) {id : String} (hid : dev.id = some id) (hbare : Bare id) :
    FoundByLine devs id :=
  ⟨(id, []), scanUpTo_newline_of_bare hbare, dev, hdev, hid⟩

theorem mem_enumDevices_of_mem {guest : Guest} (hguest : guest ∈ host.list.guests)
    {kind : DevKind} (hkind : kind ≠ .proc) {dev : VirtDevice kind.Dev}
    (hdev : dev ∈ guest.devices kind) :
    LogicalDevice.device kind guest.name dev ∈ enumDevices host.list kind := by
  refine mem_enumDevices_iff.mpr ⟨guest, hguest, ?_⟩
  rw [deviceInstances_of_ne guest.name hkind]
  exact List.mem_map_of_mem hdev

/-- The ids `pool_member_of` is asked about are those of the devices, or say nothing. -/
theorem settingMembersKnown_iff_membersKnown (kind : DevKind) :
    SettingMembersKnown host kind ↔ MembersKnown host.toPoolHost kind := by
  rw [settingMembersKnown_iff, membersKnown_iff]
  refine forall_congr' fun hkind => ?_
  have hnet : DevKind.net ≠ .proc := by decide
  -- settings and devices range over the same devices and differ in the instance alone
  constructor
  · intro h inst hinst
    obtain ⟨guest, hguest, hdevs⟩ := mem_enumDevices_iff.mp hinst
    rw [deviceInstances_of_ne guest.name hnet] at hdevs
    obtain ⟨dev, hdev, rfl⟩ := List.mem_map.mp hdevs
    simp only [LogicalDevice.deviceId]
    exact h guest hguest dev hdev
  · intro h guest hguest dev hdev
    have hnic := h _ (mem_enumDevices_of_mem hguest hnet hdev)
    simp only [LogicalDevice.deviceId] at hnic
    exact hnic

/-- **Where devices and pools belong together, settings and pools do.** The two associations ask
for the pool of the same ids (`settingMembersKnown_iff_membersKnown`), and a device that is found
by a word is found by the line of it (`foundByLine_of_bare`). -/
theorem settingsAllocated_of_symmetric {host : AssociationHost}
    (h : AllocationSymmetric host.toPoolHost) : SettingsAllocated host := by
  have hdevices := h.allocatable
  refine SettingsAllocatable.allocated ⟨?_, ?_⟩
  · exact (settingMembersKnown_iff .net).mp
      ((settingMembersKnown_iff_membersKnown .net).mpr (hdevices.membersKnown .net)) rfl
  · intro guest hguest kind dev hdev id hid hin
    by_cases hkind : kind = .proc
    · subst hkind
      obtain ⟨-, hproc⟩ := proc_of_getDevices (guest.read .proc) hdev
      obtain rfl := Option.some.inj (hproc.symm.trans hid)
      exact foundByLine_of_bare hdev hid (by decide)
    · have hreferable := hdevices.referable guest hguest kind hkind dev hdev hin
      exact foundByLine_of_bare hdev hid (hreferable id hid).1

/-- The container is in no pool with its file system, and has no other device that is looked for
by its id. -/
theorem allocatable_containerSystem : Allocatable containerSystem.toPoolHost where
  networks := by
    -- a container has neither networks nor storage, so what is asked of them is vacuous
    intro net hnet
    cases hnet
  storage := List.not_mem_nil
  bridges := by
    intro inst hinst
    obtain ⟨guest, hguest, hdevs⟩ := mem_enumDevices_iff.mp hinst
    obtain rfl := List.mem_singleton.mp hguest
    cases hdevs
  -- what is left are its settings, and the ids of the sample find themselves
  referable := by
    intro guest hguest kind hkind dev hdev hin
    have hbare := (foundById_srv hguest kind hkind).bare dev hdev
    have hapart := (forall_findsItself_iff (guest.read kind)
      (distinctDeviceIds_containerHost "/srv" guest hguest kind)).mpr
      (foundById_srv hguest kind hkind) dev hdev
    intro id hid
    refine ⟨hbare id hid, ?_⟩
    intro found hfound
    obtain rfl := Option.some.inj ((hapart id hid).2.symm.trans hfound)
    exact containerSystem.validates _

theorem settingsAllocated_containerSystem : SettingsAllocated containerSystem :=
  settingsAllocated_of_symmetric allocatable_containerSystem.symmetric

/-- **A device and the setting it leads to are in the same pools**, processors included. Both are
asked for by the id, which the setting takes from the device; the processors of a guest share one
setting and one pool. -/
theorem devToRasd_samePool {guest : Guest} (hguest : guest ∈ host.list.guests)
    (hdistinct : ∀ kind, ((guest.devices kind).map VirtDevice.id).Nodup)
    (hlegible : ∀ kind, kind ≠ .proc → FoundById (guest.devices kind)) :
    ∀ inst ∈ devicesOf guest, ∃ rasd,
      devToRasd host.env host.list inst.kind inst.deviceId = some [rasd] ∧
        ∀ pool, IsPool host.toPoolHost pool →
          (Allocates host.toPoolHost pool inst ↔ AllocatesSetting host pool rasd) := by
  -- the guest's processors are one entry in its definition, every other device its own
  intro inst hinst
  obtain ⟨kind, hdevs⟩ := mem_devicesOf_iff.mp hinst
  have hmem : inst ∈ enumDevices host.list kind := mem_enumDevices_iff.mpr ⟨guest, hguest, hdevs⟩
  have hinstKind := kind_of_mem_enumDevices hmem
  -- both are asked for by the pool of the id, so the ids must have the same pool
  have hsame {rasd : Instance} {id : String} (hrasd : rasd ∈ enumRasds host kind)
      (hid : rasd.getStr "InstanceID" = some id)
      (hpools : poolMemberOf host.toPoolHost kind inst.deviceId =
        poolMemberOf host.toPoolHost kind id) (pool : PoolInstance)
      (hpool : IsPool host.toPoolHost pool) :
      Allocates host.toPoolHost pool inst ↔ AllocatesSetting host pool rasd := by
    rw [allocates_iff hpool, allocatesSetting_iff hpool, settingMembersKnown_iff_membersKnown]
    refine and_congr_right fun _ => ?_
    -- a setting and a device are in a pool of their own type only, so the types agree
    constructor
    · rintro ⟨hinst', hmember⟩
      obtain rfl : kind = pool.kind := hinstKind.symm.trans (kind_of_mem_enumDevices hinst')
      exact ⟨hrasd, id, hid, hpools ▸ hmember⟩
    · rintro ⟨hrasd', id', hid', hmember⟩
      obtain rfl : kind = pool.kind := baseOfKind_injective
        ((setting_of_mem_enumRasds hrasd).1.symm.trans (setting_of_mem_enumRasds hrasd').1)
      obtain rfl := Option.some.inj (hid.symm.trans hid')
      exact ⟨hmem, hpools ▸ hmember⟩
  rw [hinstKind]
  by_cases hkind : kind = .proc
  · subst hkind
    obtain ⟨num, hnum, rfl⟩ := List.mem_map.mp hdevs
    rw [List.mem_range] at hnum
    cases hprocs : guest.devices .proc with
    | nil =>
      -- a guest without a processor entry has no processor device
      rw [hprocs] at hnum
      exact absurd hnum (Nat.not_lt_zero num)
    | cons proc procs =>
      have hproc : proc ∈ guest.devices .proc := by
        rw [hprocs]
        exact List.mem_cons_self
      -- the entry counts the processors, and each of them leads to the one setting
      obtain ⟨hone, -⟩ := proc_of_getDevices (guest.read .proc) hproc
      rw [hone] at hnum
      obtain ⟨rasd, hrasd, hid⟩ := exists_rasdFromVdev (guest.read .proc) hproc
        (host.info guest.name) host.pfx guest.name
      refine ⟨rasd, ?_, ?_⟩
      · exact @procToRasd_eq host.env host.list guest hguest proc hproc rasd hrasd num hnum
      · exact hsame (mem_enumRasds_iff.mpr ⟨guest, hguest, proc, hproc, hrasd⟩) hid rfl
  · rw [deviceInstances_of_ne guest.name hkind] at hdevs
    obtain ⟨dev, hdev, rfl⟩ := List.mem_map.mp hdevs
    have hfound := (forall_findsItself_iff (guest.read kind) (hdistinct kind)).mpr
      (hlegible kind hkind) dev hdev
    obtain ⟨⟨rasd, hrasd, hto⟩, -⟩ := @device_corresponds host.env host.list guest hguest
      kind hkind (hdistinct kind) dev hdev hfound
    -- the setting the device corresponds to is the one that is made of it
    obtain ⟨rasd', hrasd', hid⟩ := exists_rasdFromVdev (guest.read kind) hdev
      (host.info guest.name) host.pfx guest.name
    obtain rfl : rasd = rasd' := Option.some.inj (hrasd.symm.trans hrasd')
    exact ⟨rasd, hto, hsame (mem_enumRasds_iff.mpr ⟨guest, hguest, dev, hdev, hrasd⟩) hid rfl⟩

/-- The file system and the processors of the container. -/
theorem samePool_srv : ∃ guest ∈ containerSystem.list.guests, ∀ inst ∈ devicesOf guest, ∃ rasd,
    devToRasd containerSystem.env containerSystem.list inst.kind inst.deviceId = some [rasd] ∧
      ∀ pool, IsPool containerSystem.toPoolHost pool →
        (Allocates containerSystem.toPoolHost pool inst ↔
          AllocatesSetting containerSystem pool rasd) := by
  obtain ⟨guest, hguest⟩ := List.exists_mem_of_ne_nil containerSystem.list.guests (by simp [
    containerSystem, containerHost])
  exact ⟨guest, hguest, devToRasd_samePool hguest
    (distinctDeviceIds_containerHost "/srv" guest hguest) (foundById_srv hguest)⟩

end LibvirtCim.Association
