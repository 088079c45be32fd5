import LibvirtCim.Pool.TextSafety
import LibvirtCim.Rasd.Instance

/-!
# Pools from settings

`Virt_ResourcePoolConfigurationService.c`: how the setting of a request becomes a
`struct virt_pool`. A storage pool that comes from a setting is described completely by its XML
document: `get_pool_from_xml` reads the same pool from what `pool_to_xml` writes, but for texts
with an `&` and device paths that are missing (`poolSettings_comeBack_iff`).
-/

open Framework LibvirtCim.Device LibvirtCim.Rasd

namespace LibvirtCim.Pool

/-! ### Settings -/

/-- The setting of a pool. `DevicePaths` is kept apart: an element of it may be null. -/
structure PoolRasd where
  inst : Instance
  devicePaths : Option (List (Option String)) := none

/-- `NETPOOL_FORWARD_*`: the mode that is written, or none if there is no such number. -/
def forwardModeOf (type : UInt16) : Option (Option String) :=
  if type = 0 then some none
  else if type = 1 then some (some "nat")
  else if type = 2 then some (some "route")
  else none

/-- `net_rasd_to_pool`. The message is the one for storage pools. -/
def netRasdToPool (inst : Instance) : Except String NetPool := do
  let forwardMode ← match inst.getU16 "ForwardMode" with
    | none => .ok (some "nat")
    | some type =>
      match forwardModeOf type with
      | none => .error "Storage pool type not supported"
      | some mode => .ok mode
  .ok {
    addr := some ((inst.getStr "Address").getD "192.168.122.1")
    netmask := some ((inst.getStr "Netmask").getD "255.255.255.0")
    ipStart := some ((inst.getStr "IPRangeStart").getD "192.168.122.2")
    ipEnd := some ((inst.getStr "IPRangeEnd").getD "192.168.122.254")
    forwardMode
    forwardDev := inst.getStr "ForwardDevice" }

/-- The paths that are stored: the first one that is null ends the loop, and the places behind it
are still cleared. -/
def storedPaths : List (Option String) → List (Option String)
  | [] => []
  | some path :: paths => some path :: storedPaths paths
  | none :: paths => (none :: paths).map fun _ => none

/-- `get_dev_paths`: the message, and the pool in any case. The count is cut to sixteen bits. -/
def getDevPaths (rasd : PoolRasd) (pool : DiskPool) : Option String × DiskPool :=
  match rasd.devicePaths with
  | none => (some "Missing `DevicePaths' property", pool)
  | some [] => (some "Unable to get DevicePaths array count", pool)
  | some paths =>
    let count := UInt16.ofNat paths.length
    let pool := { pool with devicePaths := (storedPaths paths).take count.toNat }
    if none ∈ paths then (some "Unable to get element from DevicePaths array", pool)
    else (none, pool)

/-- `disk_fs_or_disk_or_logical_pool`: logical pools do without device paths. -/
def diskFsOrDiskOrLogicalPool (rasd : PoolRasd) (pool : DiskPool) : Except String DiskPool :=
  let (msg, pool) := getDevPaths rasd pool
  if pool.poolType = .logical then .ok pool
  else
    match msg with
    | some msg => .error msg
    | none =>
      if pool.devicePaths.length ≠ 1 then
        .error "Specified pool type only takes one device path"
      else .ok pool

/-- `disk_netfs_pool`. -/
def diskNetfsPool (inst : Instance) (pool : DiskPool) : Except String DiskPool := do
  let some host := inst.getStr "Host" | .error "Missing `Host' property"
  let some srcDir := inst.getStr "SourceDirectory" | .error "Missing `SourceDirectory' property"
  .ok { pool with host := some host, srcDir := some srcDir }

/-- `disk_iscsi_pool`. -/
def diskIscsiPool (rasd : PoolRasd) (pool : DiskPool) : Except String DiskPool :=
  match getDevPaths rasd pool with
  | (some msg, _) => .error msg
  | (none, pool) =>
    if pool.devicePaths.length ≠ 1 then .error "Specified pool type only takes one device path"
    else
      match rasd.inst.getStr "Host" with
      | none => .error "Missing `Host' property"
      | some host => .ok { pool with host := some host }

/-- `disk_scsi_pool`. -/
def diskScsiPool (inst : Instance) (pool : DiskPool) : Except String DiskPool :=
  match inst.getStr "AdapterName" with
  | none => .error "Missing `AdapterName' property"
  | some adapter =>
    .ok { pool with
      adapter := some adapter
      portName := inst.getStr "PortName"
      nodeName := inst.getStr "NodeName" }

/-- `DISK_POOL_*` as a number. -/
def diskPoolTypeOfNumber (type : UInt16) : DiskPoolType :=
  if type = 1 then .dir
  else if type = 2 then .fs
  else if type = 3 then .netfs
  else if type = 4 then .disk
  else if type = 5 then .iscsi
  else if type = 6 then .logical
  else if type = 7 then .scsi
  else .unknown

/-- What `disk_rasd_to_pool` takes from the setting for each type of pool. -/
def diskSource (rasd : PoolRasd) (pool : DiskPool) : Except String DiskPool :=
  match pool.poolType with
  | .dir => .ok pool
  | .fs | .disk | .logical => diskFsOrDiskOrLogicalPool rasd pool
  | .netfs => diskNetfsPool rasd.inst pool
  | .iscsi => diskIscsiPool rasd pool
  | .scsi => diskScsiPool rasd.inst pool
  | .unknown => .error "Storage pool type not supported"

/-- `disk_rasd_to_pool`: the pool, and whether it is started with the host. -/
def diskRasdToPool (rasd : PoolRasd) : Except String (DiskPool × UInt16) := do
  let some type := rasd.inst.getU16 "Type" | .error "Missing `Type' property"
  let pool ← diskSource rasd { poolType := diskPoolTypeOfNumber type }
  let some path := rasd.inst.getStr "Path" | .error "Missing `Path' property"
  .ok ({ pool with path := some path }, (rasd.inst.getU16 "Autostart").getD 0)

/-! ### What is accepted -/

/-- What a storage pool from a setting has: no more than its type is written with. -/
structure Described (pool : DiskPool) : Prop where
  known : pool.poolType ≠ .unknown
  path : pool.path.isSome
  dir : pool.poolType = .dir → pool = { poolType := .dir, path := pool.path }
  adapter : pool.adapter = none → pool.portName = none ∧ pool.nodeName = none

theorem getDevPaths_snd (rasd : PoolRasd) (pool : DiskPool) :
    (getDevPaths rasd pool).2 =
      { pool with devicePaths := (getDevPaths rasd pool).2.devicePaths } := by
  unfold getDevPaths
  split
  · rfl
  · rfl
  · dsimp only
    split <;> rfl

theorem diskFsOrDiskOrLogicalPool_eq_ok {rasd : PoolRasd} {pool pool' : DiskPool}
    (h : diskFsOrDiskOrLogicalPool rasd pool = .ok pool') : pool' = (getDevPaths rasd pool).2 := by
  unfold diskFsOrDiskOrLogicalPool at h
  dsimp only at h
  split at h
  · exact (Except.ok.inj h).symm
  · split at h
    · cases h
    · split_ifs at h
      exact (Except.ok.inj h).symm

/-- **What is taken from a setting** is described by the type of the pool. -/
theorem described_of_diskSource {rasd : PoolRasd} {type : DiskPoolType} {pool : DiskPool}
    (h : diskSource rasd { poolType := type } = .ok pool) (path : String) :
    Described { pool with path := some path } := by
  -- pools of device paths have nothing but them
  have hpaths (hknown : type ≠ .unknown) (hdir : type ≠ .dir)
      (h : diskFsOrDiskOrLogicalPool rasd { poolType := type } = .ok pool) :
      Described { pool with path := some path } := by
    rw [diskFsOrDiskOrLogicalPool_eq_ok h, getDevPaths_snd]
    exact ⟨hknown, rfl, fun heq => absurd heq hdir, fun _ => ⟨rfl, rfl⟩⟩
  -- one case for each kind of pool; the translator of the kind fills the fields
  cases type with
  | dir =>
    cases h
    exact ⟨by simp, rfl, fun _ => rfl, fun _ => ⟨rfl, rfl⟩⟩
  | fs => exact hpaths (by decide) (by decide) h
  | disk => exact hpaths (by decide) (by decide) h
  | logical => exact hpaths (by decide) (by decide) h
  -- the host and the directory, without paths
  | netfs =>
    change diskNetfsPool rasd.inst _ = _ at h
    unfold diskNetfsPool at h
    split at h
    · split at h
      · cases h
        exact ⟨by simp, rfl, by simp, fun _ => ⟨rfl, rfl⟩⟩
      · cases h
    · cases h
  -- one path only
  | iscsi =>
    change diskIscsiPool rasd _ = _ at h
    unfold diskIscsiPool at h
    split at h
    · cases h
    · next source hsource =>
      have hsnd := getDevPaths_snd rasd { poolType := .iscsi }
      rw [hsource] at hsnd
      dsimp only at hsnd
      split_ifs at h
      split at h
      · cases h
      · cases h
        rw [hsnd]
        exact ⟨by simp, rfl, by simp, fun _ => ⟨rfl, rfl⟩⟩
  -- the adapter, which may come with a port or a node name
  | scsi =>
    change diskScsiPool rasd.inst _ = _ at h
    unfold diskScsiPool at h
    split at h
    · cases h
    · cases h
      exact ⟨by simp, rfl, by simp, by simp⟩
  | unknown => cases h

/-- **What is accepted is described by its type.** -/
theorem described_of_diskRasdToPool {rasd : PoolRasd} {pool : DiskPool} {autostart : UInt16}
    (h : diskRasdToPool rasd = .ok (pool, autostart)) : Described pool := by
  unfold diskRasdToPool at h
  split at h
  · obtain ⟨source, hsource, h⟩ := bind_eq_ok h
    split at h
    · next path hpath =>
      cases h
      exact described_of_diskSource hsource path
    · cases h
  · cases h

/-! ### Reading back -/

section ReadBack

variable {nodeContent : String → List Node}

/-- The document of the pool can be made, and the pool is read from it as it was. -/
def ComesBack (nodeContent : String → List Node) (pool : VirtPool) : Prop :=
  ∃ doc, poolToXml nodeContent pool = .ok doc ∧ getPoolFromXml doc = .ok pool

/-- Paths come back if none is missing. -/
theorem map_getD_eq_self_iff (paths : List (Option String)) :
    (paths.map fun path => some (path.getD "")) = paths ↔ none ∉ paths := by
  induction paths with
  | nil => simp
  | cons path paths ih =>
    rw [List.map_cons, List.cons.injEq, ih, List.mem_cons, not_or]
    refine and_congr_left fun _ => ?_
    cases path with
    | none => simp
    | some s => simp

/-- The source of a described pool comes back if no device path is missing. -/
theorem sourceBack_eq_self_iff {pool : DiskPool} (h : Described pool) :
    { sourceBack pool with path := pool.path } = pool ↔ none ∉ pool.devicePaths := by
  -- only the paths may be lost, where one of them is null
  rw [← map_getD_eq_self_iff]
  constructor
  · intro heq
    exact congrArg DiskPool.devicePaths heq
  · intro hpaths
    obtain ⟨poolType, path, devicePaths, host, srcDir, adapter, portName, nodeName⟩ := pool
    have hadapter := h.adapter
    dsimp only at hpaths hadapter
    simp only [sourceBack, hpaths]
    -- without an adapter the port and the node name are null too
    cases adapter with
    | none =>
      obtain ⟨hport, hnode⟩ := hadapter rfl
      rw [hport, hnode]
      rfl
    | some adapter => rfl

theorem ReferencesParsed.contentText_eq_iff (hcontent : ReferencesParsed nodeContent)
    (text : String) : contentText nodeContent text = text ↔ '&' ∉ text.toList :=
  ⟨fun h => hcontent.not_mem_of_survives h, fun h => hcontent.plain.survives h⟩

/-- **A storage pool from a setting comes back from its document** if and only if its name and its
path have no `&` and none of its device paths is missing. What a setting is translated to has the
fields of its type only (`described_of_diskRasdToPool`), so nothing is lost to a parser that knows
no types; name and path are contents of elements, the rest are attributes. -/
theorem poolSettings_comeBack_iff (hcontent : ReferencesParsed nodeContent) {rasd : PoolRasd}
    {pool : DiskPool} {autostart : UInt16} (h : diskRasdToPool rasd = .ok (pool, autostart))
    (name : String) : ComesBack nodeContent { info := .disk pool, id := some name } ↔
      '&' ∉ name.toList ∧ (∀ path ∈ pool.path, '&' ∉ path.toList) ∧ none ∉ pool.devicePaths := by
  have hpool := described_of_diskRasdToPool h
  -- an accepted pool has a type, a document and a path
  obtain ⟨type, htype⟩ : ∃ type, diskPoolTypeToStr pool.poolType = some type := by
    have hknown := hpool.known
    cases htype : pool.poolType with
    | unknown => exact absurd htype hknown
    | _ => exact ⟨_, rfl⟩
  obtain ⟨doc, hdoc⟩ : ∃ doc, diskPoolXml nodeContent (some name) pool = .ok doc := by
    unfold diskPoolXml
    rw [htype]
    exact ⟨_, rfl⟩
  obtain ⟨path, hpath⟩ := Option.isSome_iff_exists.mp hpool.path
  have hread := getPoolFromXml_diskPoolXml hdoc
  rw [hpath] at hread ⊢
  -- a directory has no source, so that nothing is missing without one
  have hsource : (if pool.poolType = .dir then { poolType := .dir } else sourceBack pool) =
      sourceBack pool := by
    split
    · next hdir =>
      rw [hpool.dir hdir]
      rfl
    · rfl
  -- the paths come back, and the path of the target as its text
  have hread' : { sourceBack pool with path := some (contentText nodeContent path) } = pool ↔
      contentText nodeContent path = path ∧ none ∉ pool.devicePaths := by
    rw [← sourceBack_eq_self_iff hpool, hpath]
    constructor
    · intro heq
      have htext := congrArg DiskPool.path heq
      dsimp only at htext
      rw [hpath] at htext
      have htext := Option.some.inj htext
      rw [htext] at heq
      exact ⟨htext, heq⟩
    · rintro ⟨htext, heq⟩
      rw [htext]
      exact heq
  -- the name is a text of its own
  have hback : ComesBack nodeContent { info := .disk pool, id := some name } ↔
      contentText nodeContent name = name ∧ contentText nodeContent path = path ∧
        none ∉ pool.devicePaths := by
    rw [← hread']
    rw [hsource] at hread
    constructor
    · rintro ⟨doc', hdoc', hback⟩
      obtain rfl : doc = doc' := Except.ok.inj (hdoc.symm.trans hdoc')
      rw [hread] at hback
      have heq := VirtPool.mk.inj (Except.ok.inj hback)
      exact ⟨Option.some.inj heq.2, PoolInfo.disk.inj heq.1⟩
    · rintro ⟨hname, heq⟩
      refine ⟨doc, hdoc, ?_⟩
      rw [hread]
      dsimp only [Option.elim]
      rw [hname, heq]
  rw [hback, ReferencesParsed.contentText_eq_iff hcontent,
    ReferencesParsed.contentText_eq_iff hcontent]
  simp

end ReadBack

/-- The setting of a storage pool. -/
def diskPoolRasd (type : UInt16) (path : String) (props : List (String × CmpiValue))
    (devicePaths : Option (List (Option String))) : PoolRasd where
  inst := {
    pfx := "KVM"
    base := "DiskPoolResourceAllocationSettingData"
    props := [("Type", .uint16 type), ("Path", .string path)] ++ props }
  devicePaths := devicePaths

/-- A target of a storage server. -/
def iscsiPool : DiskPool where
  poolType := .iscsi
  path := some "/dev/disk/by-path"
  devicePaths := [some "iqn.2010-07.org:disks"]
  host := some "storage"

theorem poolSettings_comeBack_iscsi :
    ComesBack predefinedContent { info := .disk iscsiPool, id := some "disks" } ↔
      '&' ∉ "disks".toList ∧ (∀ path ∈ iscsiPool.path, '&' ∉ path.toList) ∧
        none ∉ iscsiPool.devicePaths :=
  poolSettings_comeBack_iff referencesParsed_predefinedContent
    (show diskRasdToPool (diskPoolRasd 5 "/dev/disk/by-path" [("Host", .string "storage")]
      (some [some "iqn.2010-07.org:disks"])) = .ok (iscsiPool, 0) by decide +kernel) "disks"

/-- A directory with an `&` in its path. -/
def ampersandPool : DiskPool where
  poolType := .dir
  path := some "/srv/R&D"

/-- A logical pool with a device path that is missing. -/
def logicalPool : DiskPool where
  poolType := .logical
  path := some "/dev/images"
  devicePaths := [some "/dev/sdb", none]

/-- A path with an `&` is not read as it was, and a device path that is missing is read as an
empty one. -/
theorem not_poolSettings_comeBack :
    (diskRasdToPool (diskPoolRasd 1 "/srv/R&D" [] none) = .ok (ampersandPool, 0) ∧
      ¬ ComesBack predefinedContent { info := .disk ampersandPool, id := some "images" }) ∧
    (diskRasdToPool (diskPoolRasd 6 "/dev/images" [] (some [some "/dev/sdb", none])) =
        .ok (logicalPool, 0) ∧
      ¬ ComesBack predefinedContent { info := .disk logicalPool, id := some "images" }) := by
  refine ⟨⟨by decide +kernel, ?_⟩, by decide +kernel, ?_⟩
  · rintro ⟨doc, hdoc, hread⟩
    cases hdoc
    revert hread
    decide +kernel
  · rintro ⟨doc, hdoc, hread⟩
    cases hdoc
    revert hread
    decide +kernel

end LibvirtCim.Pool
