import LibvirtCim.Association.Guests
import LibvirtCim.Pool.DevicePool

/-!
# Devices and their pools

`Virt_ElementAllocatedFromPool.c`: from a device to its pool (`vdev_to_pool`), from a pool to its
devices, and between the parent pool of a type and the other pools of the type
(`pool_to_vdev_or_pool`). Both directions decide with `pool_member_of`, which takes the id of a
device, so that they can only differ where a device or a pool is not found by the id it has.

They agree (`allocationSymmetric_iff`) where the name `0` is left to the parent pools, every
network is active, and a device that has a pool is found by its id. A network without a bridge
crashes the search for one.
-/

open Framework LibvirtCim.Device LibvirtCim.Rasd LibvirtCim.Service LibvirtCim.Pool

namespace LibvirtCim.Association

/-! ### Hosts -/

/-- A network, with what `virNetworkGetBridgeName` answers. -/
structure Network where
  name : String
  active : Bool
  bridge : Option String

/-- A host: its domains, networks and active storage pools, and the pool of the volume that has
a path. -/
structure PoolHost where
  list : GuestList
  networks : List Network
  storage : List String
  volumePool : String → Option String
  distinct : (networks.map Network.name).Nodup
  networkNames : ∀ net ∈ networks, LegalName net.name
  storageNames : ∀ name ∈ storage, LegalName name
  /-- the prefix of the hypervisor's classes -/
  pfx : String
  known : pfx ∈ ["Xen", "KVM", "LXC"]
  /-- `cu_validate_ref`: the key of a reference against that of the instance -/
  validateRef : String → String → Bool
  /-- a reference to an instance is one to that instance -/
  validates : ∀ key, validateRef key key = true
  /-- a reference has the key of the instance, up to case at most -/
  upToCase : ∀ key key', validateRef key key' = true → streqc key key' = true

variable (host : PoolHost)

/-- The networks `virConnectListNetworks` lists. -/
def activeNetworks : List Network :=
  host.networks.filter Network.active

/-- What is seen of the pools. -/
def poolView : PoolView where
  networkNamed name := host.networks.any (·.name = name)
  activeNetworks := some ((activeNetworks host).map Network.name)
  activeStorage := some host.storage

/-! ### The pool of a device -/

/-- The device of a domain `netpool_member_of` and `diskpool_member_of` look for: the first one
that has the name in the id. -/
def memberDevice (kind : DevKind) (named : VirtDevice kind.Dev → Option String) (id : String) :
    Option (VirtDevice kind.Dev) := do
  let (domain, dev) ← parseFqDevid id
  let guest ← host.list.lookup domain
  (guest.devices kind).find? fun device => named device = some dev

/-- `bridge_to_network`: the bridge of every network up to the one that is looked for is
compared, and a null pointer is not compared. Each name that is listed is looked up again. -/
def bridgeToNetwork (bridge : String) : List Network → Except Stop (Option Network)
  | [] => .ok none
  | net :: nets =>
    match net.bridge with
    | none => .error .fault
    | some name => if name = bridge then .ok (some net) else bridgeToNetwork bridge nets

/-- `_netpool_member_of`. -/
def netpoolMemberOf (ndev : NetDevice) : Except Stop (Option String) :=
  match ndev.source with
  | none => .ok none
  | some source =>
    if ndev.type = some "bridge" then do
      let net ← bridgeToNetwork source (activeNetworks host)
      .ok (net.map fun net => getPoolId .net net.name)
    else if ndev.type = some "network" then
      .ok ((host.networks.find? (·.name = source)).map fun net => getPoolId .net net.name)
    else .ok none

/-- `_diskpool_member_of`: the first pool that is called like the one of the volume, up to
case. -/
def diskpoolMemberOf (file : Option String) : Option String := do
  let pools ← getDiskpoolConfig (poolView host)
  let volume ← file
  let pool ← pools.find? fun pool => (host.volumePool volume).any (streqc · pool.name)
  some (getPoolId .disk pool.name)

/-- `pool_member_of`, with `netpool_member_of` and `diskpool_member_of`. -/
def poolMemberOf (kind : DevKind) (id : String) : Except Stop (Option String) :=
  match kind with
  | .net =>
    match memberDevice host .net VirtDevice.id id with
    | none => .ok none
    | some nic => netpoolMemberOf host nic.dev
  | .disk =>
    .ok ((memberDevice host .disk (fun disk => disk.dev.virtualDev) id).bind fun disk =>
      diskpoolMemberOf host disk.dev.source)
  | .console => .ok none
  | .proc | .mem | .graphics | .input | .controller => .ok (some (getPoolId kind "0"))

/-- `get_device_by_ref`. -/
def getDeviceByRef (kind : DevKind) (deviceId : String) : Option LogicalDevice := do
  let inst ← getDeviceByName host.list kind deviceId
  if host.validateRef deviceId inst.deviceId then some inst else none

/-- `vdev_to_pool`, from the class and the `DeviceID` of a device. -/
def vdevToPool (kind : DevKind) (deviceId : String) : Except Stop (List PoolInstance) :=
  match getDeviceByRef host kind deviceId with
  | none => .ok []
  | some _ => do
    let poolid ← poolMemberOf host kind deviceId
    .ok (poolid.bind (getPoolByName (poolView host))).toList

/-! ### What belongs to a pool -/

/-- `get_dev_from_pool`. -/
def getDevFromPool (kind : DevKind) (poolid : String) : Except Stop (List LogicalDevice) :=
  filterExcept (fun inst => do
    let id ← poolMemberOf host kind inst.deviceId
    .ok (id = some poolid)) (enumDevices host.list kind)

/-- `get_pools`: from a parent to all pools that are not called like it, up to case, and from any
other pool to the parent. -/
def getPoolsOf (kind : DevKind) (poolid : String) (pool : PoolInstance) : List PoolInstance :=
  if pool.primordial then
    ((enumPools (poolView host) kind).getD []).filter fun other => !streqc other.id poolid
  else (parentDevicePool (poolView host) kind).toList

/-- What `pool_to_vdev_or_pool` returns. -/
structure Allocated where
  devices : List LogicalDevice := []
  pools : List PoolInstance := []

/-- `pool_to_vdev_or_pool`, from the class and the `InstanceID` of a pool. -/
def poolToVdevOrPool (classname poolid : String) : Except Stop Allocated :=
  match getPoolByRef (poolView host) host.validateRef classname (some poolid) with
  | none => .ok {}
  | some pool =>
    match resTypeFromPoolId poolid with
    | none => .ok {}
    | some kind => do
      let devices ← getDevFromPool host kind poolid
      .ok { devices, pools := getPoolsOf host kind poolid pool }

/-! ### Symmetry -/

/-- The pools of a host: whatever can be found by an id. -/
def IsPool (pool : PoolInstance) : Prop :=
  ∃ id, getPoolByName (poolView host) id = some pool

/-- What `pool_to_vdev_or_pool` returns for a pool. -/
def allocatedFrom (pool : PoolInstance) : Except Stop Allocated :=
  poolToVdevOrPool host (host.pfx ++ "_" ++ poolClass pool.kind) pool.id

/-- The device is among those that are returned for the pool. -/
def Allocates (pool : PoolInstance) (inst : LogicalDevice) : Prop :=
  ∃ allocated, allocatedFrom host pool = .ok allocated ∧ inst ∈ allocated.devices

/-- The second pool is among those that are returned for the first. -/
def LeadsTo (pool other : PoolInstance) : Prop :=
  ∃ allocated, allocatedFrom host pool = .ok allocated ∧ other ∈ allocated.pools

/-- **Allocation is symmetric**, every device has one pool at most, and a child pool and the one
parent pool of its type, and no others, belong together. -/
structure AllocationSymmetric : Prop where
  answered : ∀ pool, IsPool host pool → ∃ allocated, allocatedFrom host pool = .ok allocated
  device : ∀ kind, ∀ inst ∈ enumDevices host.list kind, ∀ pool, IsPool host pool →
    (Allocates host pool inst ↔ vdevToPool host kind inst.deviceId = .ok [pool])
  onePool : ∀ inst pool pool', IsPool host pool → IsPool host pool' →
    Allocates host pool inst → Allocates host pool' inst → pool = pool'
  family : ∀ parent child, IsPool host parent → IsPool host child → parent.kind = child.kind →
    parent.primordial = true → child.primordial = false →
    (LeadsTo host parent child ↔ LeadsTo host child parent)
  oneParent : ∀ kind, kind ≠ .console → ∃ parent,
    (enumPools (poolView host) kind).map (·.filter PoolInstance.primordial) = some [parent]
  notItself : ∀ pool, IsPool host pool → ¬ LeadsTo host pool pool
  notSiblings : ∀ pool other, IsPool host pool → IsPool host other → pool.primordial = false →
    other.primordial = false → ¬ LeadsTo host pool other

/-! ### Where it is -/

/-- No network without a bridge is in the way when the bridge of an interface is looked for. -/
def BridgesNamed (nic : NetDevice) : Prop :=
  nic.type = some "bridge" → ∀ bridge ∈ nic.source,
    ∀ net ∈ (activeNetworks host).takeWhile (·.bridge ≠ some bridge), net.bridge.isSome

/-- The device is in a pool: an interface on the bridge of an active network or on a network, a
disk on a volume of an active storage pool, or any device of a type that has one pool. -/
def InPool (kind : DevKind) (id : String) : Prop :=
  match kind with
  | .net => ∃ nic, memberDevice host .net VirtDevice.id id = some nic ∧
      ∃ source ∈ nic.dev.source,
        (nic.dev.type = some "bridge" ∧ ∃ net ∈ activeNetworks host, net.bridge = some source) ∨
        (nic.dev.type = some "network" ∧ ∃ net ∈ host.networks, net.name = source)
  | .disk => ∃ disk, memberDevice host .disk (fun disk => disk.dev.virtualDev) id = some disk ∧
      ∃ source ∈ disk.dev.source, ∃ pool ∈ host.volumePool source,
        ∃ name ∈ host.storage ++ ["0"], streqc pool name = true
  | .console => False
  | .proc | .mem | .graphics | .input | .controller => True

/-- The device can be referred to: its id is one word, and a reference to it is one to the first
device with the id, up to case. -/
def Referable (guest : Guest) (kind : DevKind) (dev : VirtDevice kind.Dev) : Prop :=
  ∀ id ∈ dev.id, Bare id ∧
    ∀ found, (guest.devices kind).find? (namedUpToCase id) = some found →
      host.validateRef (getFqDevid guest.name dev.id) (getFqDevid guest.name found.id) = true

/-- The hosts where allocation is symmetric. The id of the parent pool ends in `0`, which a
network or a storage pool may be called as well; an inactive network has no pool; the search for a
bridge ends the process where one has no name; and a device in a pool is looked up by a reference
to it. -/
structure Allocatable : Prop where
  networks : ∀ net ∈ host.networks, net.active = true ↔ net.name ≠ "0"
  storage : "0" ∉ host.storage
  bridges : ∀ inst ∈ enumDevices host.list .net, ∀ nic,
    memberDevice host .net VirtDevice.id inst.deviceId = some nic → BridgesNamed host nic.dev
  referable : ∀ guest ∈ host.list.guests, ∀ kind, kind ≠ .proc → ∀ dev ∈ guest.devices kind,
    InPool host kind (getFqDevid guest.name dev.id) → Referable host guest kind dev

variable {host}

/-! ### Looking for the pool of a device -/

theorem exists_bridgeToNetwork_iff (bridge : String) (nets : List Network) :
    (∃ net, bridgeToNetwork bridge nets = .ok net) ↔
      ∀ net ∈ nets.takeWhile (·.bridge ≠ some bridge), net.bridge.isSome := by
  induction nets with
  | nil => simp [bridgeToNetwork]
  | cons net nets ih =>
    rw [bridgeToNetwork, List.takeWhile_cons]
    cases hbridge : net.bridge with
    | none => simp [hbridge]
    | some name =>
      by_cases hname : name = bridge
      · simp [hname]
      · simp only [hname, if_false, ih]
        simp [hname, hbridge]

/-- The network that is found has the bridge, and one is found if there is one. -/
theorem bridgeToNetwork_eq_ok {bridge : String} {nets : List Network} {found : Option Network}
    (h : bridgeToNetwork bridge nets = .ok found) :
    (∀ net ∈ found, net ∈ nets) ∧ (found.isSome ↔ ∃ net ∈ nets, net.bridge = some bridge) := by
  -- the first network with the bridge is taken, but one without any stops the search
  induction nets with
  | nil =>
    cases h
    simp
  | cons net nets ih =>
    rw [bridgeToNetwork] at h
    cases hbridge : net.bridge with
    | none =>
      rw [hbridge] at h
      cases h
    | some name =>
      rw [hbridge] at h
      dsimp only at h
      split_ifs at h with hname
      · cases h
        simp [hbridge, hname]
      · obtain ⟨hmem, hsome⟩ := ih h
        refine ⟨fun net' hnet' => List.mem_cons_of_mem _ (hmem net' hnet'), ?_⟩
        rw [hsome]
        simp [hbridge, hname]

/-- The membership of every device of the type is known. -/
def MembersKnown (host : PoolHost) (kind : DevKind) : Prop :=
  ∀ inst ∈ enumDevices host.list kind, ∃ pool, poolMemberOf host kind inst.deviceId = .ok pool

theorem exists_netpoolMemberOf_iff (nic : NetDevice) :
    (∃ pool, netpoolMemberOf host nic = .ok pool) ↔ BridgesNamed host nic := by
  unfold netpoolMemberOf BridgesNamed
  cases nic.source with
  -- an interface without a source is in no pool, and asks nothing
  | none => simp
  | some source =>
    -- only the type "bridge" runs through the active networks
    by_cases hbridge : nic.type = some "bridge"
    · simp only [hbridge, if_true, Option.mem_some_iff, forall_eq', true_imp_iff]
      rw [← exists_bridgeToNetwork_iff]
      cases bridgeToNetwork source (activeNetworks host) with
      | ok found => exact ⟨fun _ => ⟨found, rfl⟩, fun _ => ⟨_, rfl⟩⟩
      | error stop =>
        constructor
        · rintro ⟨pool, ⟨⟩⟩
        · rintro ⟨found, ⟨⟩⟩
    · simp only [hbridge, if_false, false_imp_iff, iff_true]
      split
      · exact ⟨_, rfl⟩
      · exact ⟨_, rfl⟩

/-- Only the search for a bridge can crash. -/
theorem membersKnown_iff (kind : DevKind) :
    MembersKnown host kind ↔ (kind = .net → ∀ inst ∈ enumDevices host.list .net, ∀ nic,
      memberDevice host .net VirtDevice.id inst.deviceId = some nic →
        BridgesNamed host nic.dev) := by
  -- every other kind gives an answer without a look at the networks
  by_cases hkind : kind = .net
  · subst hkind
    refine Iff.trans ?_ (forall_prop_of_true rfl).symm
    refine forall₂_congr fun inst _ => ?_
    unfold poolMemberOf
    cases hnic : memberDevice host .net VirtDevice.id inst.deviceId with
    | none => simp
    | some nic =>
      simp only [Option.some.injEq, forall_eq']
      exact exists_netpoolMemberOf_iff nic.dev
  · simp only [hkind, false_imp_iff, iff_true]
    intro inst _
    cases kind with
    | net => exact absurd rfl hkind
    | _ => exact ⟨_, rfl⟩

/-- **A device has a pool** if and only if it is in one. -/
theorem isSome_of_poolMemberOf {kind : DevKind} {id : String} {pool : Option String}
    (h : poolMemberOf host kind id = .ok pool) : pool.isSome ↔ InPool host kind id := by
  unfold poolMemberOf at h
  unfold InPool
  -- by the kind, as pool_member_of does
  cases kind with
  | net =>
    dsimp only at h ⊢
    cases hnic : memberDevice host .net VirtDevice.id id with
    | none =>
      rw [hnic] at h
      cases h
      simp
    | some nic =>
      rw [hnic] at h
      dsimp only at h
      simp only [Option.some.injEq, exists_eq_left']
      unfold netpoolMemberOf at h
      -- no source, no pool
      cases hsource : nic.dev.source with
      | none =>
        rw [hsource] at h
        cases h
        simp
      | some source =>
        rw [hsource] at h
        simp only [Option.mem_some_iff, exists_eq_left']
        dsimp only at h
        -- a bridge is looked for among the networks, a network by its name
        split_ifs at h with hbridge hnetwork
        · obtain ⟨found, hfound, hrest⟩ := bind_eq_ok h
          cases hrest
          have hnot : some "bridge" ≠ some "network" := by decide
          rw [Option.isSome_map, (bridgeToNetwork_eq_ok hfound).2, hbridge]
          simp [hnot]
        · cases h
          rw [Option.isSome_map, List.find?_isSome, hnetwork]
          simp
        · cases h
          simp [hbridge, hnetwork]
  | disk =>
    cases h
    -- a disk is in the pool of its volume, when that pool is one libvirt names
    cases hdisk : memberDevice host .disk (fun disk => disk.dev.virtualDev) id with
    | none => simp
    | some disk =>
      simp only [Option.bind_some, Option.some.injEq, exists_eq_left']
      unfold diskpoolMemberOf getDiskpoolConfig poolView
      cases disk.dev.source with
      | none => simp
      | some source =>
        simp only [Option.map_some, Option.bind_eq_bind, Option.bind_some, Option.isSome_bind,
          Option.mem_some_iff, exists_eq_left']
        cases host.volumePool source with
        | none => simp
        | some pool => simp [parentPool, List.find?_isSome]
  -- consoles have no pool, and the rest is in the parent pool
  | console =>
    cases h
    simp
  | _ =>
    cases h
    simp

/-! ### Pools -/

theorem mem_networks_of_active {net : Network} (h : net ∈ activeNetworks host) :
    net ∈ host.networks ∧ net.active = true :=
  List.mem_filter.mp h

/-- A name libvirt allows is a line. -/
theorem LegalName.line {name : String} (h : LegalName name) :
    name.toList ≠ [] ∧ '\n' ∉ name.toList :=
  ⟨h.toList_ne_nil, h.oneLine⟩

theorem networkNamed_iff (name : String) :
    (poolView host).networkNamed name = true ↔ ∃ net ∈ host.networks, net.name = name := by
  simp [poolView]

/-- The pool of a network. -/
theorem getPoolByName_network {net : Network} (h : net ∈ host.networks) :
    getPoolByName (poolView host) (getPoolId .net net.name) =
      some (if net.name = "0" then parentPool .net
        else { kind := .net, name := net.name, primordial := false }) := by
  have hline := (host.networkNames net h).line
  have hnamed : (poolView host).networkNamed net.name = true :=
    (networkNamed_iff net.name).mpr ⟨net, h, rfl⟩
  rw [getPoolByName_getPoolId (resTypeFromPoolId_net _) hline.1 hline.2, poolNamed_net, hnamed]
  split <;> rfl

/-- The pool an active storage pool makes. -/
theorem getPoolByName_storage {name : String} (h : name ∈ host.storage) :
    getPoolByName (poolView host) (getPoolId .disk name) =
      some { kind := .disk, name, primordial := false } := by
  have hline := (host.storageNames name h).line
  rw [getPoolByName_getPoolId (resTypeFromPoolId_disk _) hline.1 hline.2, poolNamed_disk]
  exact if_pos h

/-- There is a parent pool of each type, or a storage pool in its place. -/
theorem getPoolByName_parent {kind : DevKind} (hkind : kind ≠ .console) :
    getPoolByName (poolView host) (getPoolId kind "0") =
      some (if kind = .disk ∧ "0" ∈ host.storage then
        { kind := .disk, name := "0", primordial := false } else parentPool kind) := by
  rw [getPoolByName_zero hkind]
  by_cases hnet : kind = .net
  · subst hnet
    rw [poolNamed_net]
    rfl
  by_cases hdisk : kind = .disk
  · subst hdisk
    rw [poolNamed_disk]
    by_cases hzero : "0" ∈ host.storage <;> simp [poolView, hzero]
  · rw [poolNamed_onlyParent hnet hdisk hkind]
    simp [hdisk]

/-- **The pool of a device is a pool**, of the type of the device, and is found by the id that
`pool_member_of` gives. -/
theorem exists_pool_of_poolMemberOf {kind : DevKind} {id poolid : String}
    (h : poolMemberOf host kind id = .ok (some poolid)) : ∃ pool,
      getPoolByName (poolView host) poolid = some pool ∧ pool.kind = kind ∧ pool.id = poolid := by
  -- the pools of the networks are known under the id made from their name
  have hnetwork {net : Network} (hnet : net ∈ host.networks) : ∃ pool,
      getPoolByName (poolView host) (getPoolId .net net.name) = some pool ∧ pool.kind = .net ∧
        pool.id = getPoolId .net net.name := by
    refine ⟨_, getPoolByName_network hnet, ?_⟩
    split
    · next hzero =>
      rw [hzero]
      exact ⟨rfl, rfl⟩
    · exact ⟨rfl, rfl⟩
  -- so are the parent pools of every kind with pools
  have hparent {kind : DevKind} (hkind : kind ≠ .console) : ∃ pool,
      getPoolByName (poolView host) (getPoolId kind "0") = some pool ∧ pool.kind = kind ∧
        pool.id = getPoolId kind "0" := by
    refine ⟨_, getPoolByName_parent hkind, ?_⟩
    split
    · next hdisk =>
      rw [hdisk.1]
      exact ⟨rfl, rfl⟩
    · exact ⟨rfl, rfl⟩
  unfold poolMemberOf at h
  cases kind with
  | net =>
    dsimp only at h
    cases hnic : memberDevice host .net VirtDevice.id id with
    | none =>
      rw [hnic] at h
      cases h
    | some nic =>
      rw [hnic] at h
      dsimp only at h
      unfold netpoolMemberOf at h
      split at h
      · cases h
      · next source hsource =>
        split_ifs at h with hbridge hname
        -- a network found by its bridge, which is an active one
        · obtain ⟨found, hfound, hrest⟩ := bind_eq_ok h
          obtain ⟨net, hnet, rfl⟩ := Option.map_eq_some_iff.mp (Except.ok.inj hrest)
          have hactive := (bridgeToNetwork_eq_ok hfound).1 net hnet
          exact hnetwork (mem_networks_of_active hactive).1
        -- or by its name
        · obtain ⟨net, hnet, rfl⟩ := Option.map_eq_some_iff.mp (Except.ok.inj h)
          exact hnetwork (List.mem_of_find?_eq_some hnet)
        · cases h
  | disk =>
    obtain ⟨disk, -, h⟩ := Option.bind_eq_some_iff.mp (Except.ok.inj h)
    unfold diskpoolMemberOf at h
    obtain ⟨pools, hpools, h⟩ := Option.bind_eq_some_iff.mp h
    obtain ⟨volume, -, h⟩ := Option.bind_eq_some_iff.mp h
    obtain ⟨pool, hpool, h⟩ := Option.bind_eq_some_iff.mp h
    cases h
    cases hpools
    -- a storage pool, or the parent pool that stands after them
    obtain hchild | hzero := List.mem_append.mp (List.mem_of_find?_eq_some hpool)
    · obtain ⟨name, hname, rfl⟩ := List.mem_map.mp hchild
      exact ⟨_, getPoolByName_storage hname, rfl, rfl⟩
    · obtain rfl := List.mem_singleton.mp hzero
      exact hparent (by decide)
  | console => cases h
  | _ =>
    cases h
    exact hparent (by decide)

theorem isPool_of_mem_networks {net : Network} (h : net ∈ host.networks) (hname : net.name ≠ "0") :
    IsPool host { kind := .net, name := net.name, primordial := false } := by
  refine ⟨_, (getPoolByName_network h).trans ?_⟩
  rw [if_neg hname]

/-- The class of a pool tells its type. -/
theorem resTypeFromPoolClassname_poolClass {kind : DevKind} (hkind : kind ≠ .console) :
    resTypeFromPoolClassname (host.pfx ++ "_" ++ poolClass kind) = some kind := by
  have hknown := host.known
  generalize host.pfx = pfx at hknown ⊢
  simp only [List.mem_cons, List.not_mem_nil, or_false] at hknown
  obtain rfl | rfl | rfl := hknown
  all_goals
    cases kind with
    | console => exact absurd rfl hkind
    | _ => decide +kernel

/-- **What is returned for a pool.** -/
theorem allocatedFrom_eq {pool : PoolInstance} (h : IsPool host pool) :
    allocatedFrom host pool = (getDevFromPool host pool.kind pool.id).map fun devices =>
      { devices, pools := getPoolsOf host pool.kind pool.id pool } := by
  -- the reference made of a pool names that pool, class and id
  obtain ⟨id, hid⟩ := h
  obtain ⟨hkind, htype, hself⟩ := getPoolByName_id hid
  have href : getPoolByRef (poolView host) host.validateRef
      (host.pfx ++ "_" ++ poolClass pool.kind) (some pool.id) = some pool := by
    unfold getPoolByRef
    rw [Option.bind_eq_bind, Option.bind_some, resTypeFromPoolClassname_poolClass hkind,
      Option.bind_eq_bind, Option.bind_some, if_pos htype, hself, Option.bind_eq_bind,
      Option.bind_some, host.validates, if_pos rfl]
  unfold allocatedFrom poolToVdevOrPool
  rw [href]
  dsimp only
  rw [htype]
  rfl

theorem exists_allocatedFrom_iff {pool : PoolInstance} (h : IsPool host pool) :
    (∃ allocated, allocatedFrom host pool = .ok allocated) ↔ MembersKnown host pool.kind := by
  rw [allocatedFrom_eq h]
  constructor
  -- one member without an answer stops the whole request
  · rintro ⟨allocated, hok⟩ inst hinst
    obtain ⟨devices, hdevices, -⟩ := map_eq_ok hok
    have htest := (filterExcept_eq_ok_iff.mp hdevices).1 inst hinst
    cases hpool : poolMemberOf host pool.kind inst.deviceId with
    | ok poolid => exact ⟨poolid, rfl⟩
    | error stop =>
      rw [hpool] at htest
      cases htest
  -- all answer, so the filter goes through
  · intro hknown
    obtain ⟨devices, hdevices⟩ : ∃ devices,
        getDevFromPool host pool.kind pool.id = .ok devices := by
      refine ⟨_, filterExcept_eq_ok_iff.mpr ⟨?_, rfl⟩⟩
      intro inst hinst
      obtain ⟨poolid, hpool⟩ := hknown inst hinst
      rw [hpool]
      rfl
    rw [hdevices]
    exact ⟨_, rfl⟩

theorem allocates_iff {pool : PoolInstance} (h : IsPool host pool) (inst : LogicalDevice) :
    Allocates host pool inst ↔ MembersKnown host pool.kind ∧
      inst ∈ enumDevices host.list pool.kind ∧
      poolMemberOf host pool.kind inst.deviceId = .ok (some pool.id) := by
  -- what is returned are the devices whose own pool is this one
  have hmem {devices : List LogicalDevice}
      (hdevices : getDevFromPool host pool.kind pool.id = .ok devices) :
      inst ∈ devices ↔ inst ∈ enumDevices host.list pool.kind ∧
        poolMemberOf host pool.kind inst.deviceId = .ok (some pool.id) := by
    rw [(filterExcept_eq_ok_iff.mp hdevices).2, List.mem_filter]
    refine and_congr_right fun _ => ?_
    cases poolMemberOf host pool.kind inst.deviceId with
    | error stop =>
      constructor
      · intro hnone
        cases of_decide_eq_true hnone
      · rintro ⟨⟩
    | ok poolid =>
      show decide (some (decide (poolid = some pool.id)) = some true) = true ↔ _
      simp
  constructor
  · rintro ⟨allocated, hok, hinst⟩
    refine ⟨(exists_allocatedFrom_iff h).mp ⟨allocated, hok⟩, ?_⟩
    rw [allocatedFrom_eq h] at hok
    obtain ⟨devices, hdevices, rfl⟩ := map_eq_ok hok
    exact (hmem hdevices).mp hinst
  · rintro ⟨hknown, hinst⟩
    obtain ⟨allocated, hok⟩ := (exists_allocatedFrom_iff h).mpr hknown
    refine ⟨allocated, hok, ?_⟩
    rw [allocatedFrom_eq h] at hok
    obtain ⟨devices, hdevices, rfl⟩ := map_eq_ok hok
    exact (hmem hdevices).mpr hinst

theorem leadsTo_iff {pool : PoolInstance} (h : IsPool host pool) (other : PoolInstance) :
    LeadsTo host pool other ↔ MembersKnown host pool.kind ∧
      other ∈ getPoolsOf host pool.kind pool.id pool := by
  constructor
  · rintro ⟨allocated, hok, hother⟩
    refine ⟨(exists_allocatedFrom_iff h).mp ⟨allocated, hok⟩, ?_⟩
    rw [allocatedFrom_eq h] at hok
    obtain ⟨devices, -, rfl⟩ := map_eq_ok hok
    exact hother
  · rintro ⟨hknown, hother⟩
    obtain ⟨allocated, hok⟩ := (exists_allocatedFrom_iff h).mpr hknown
    refine ⟨allocated, hok, ?_⟩
    rw [allocatedFrom_eq h] at hok
    obtain ⟨devices, -, rfl⟩ := map_eq_ok hok
    exact hother

/-! ### Devices -/

theorem isPool_parent {kind : DevKind} (hkind : kind ≠ .console) : ∃ pool,
    IsPool host pool ∧ pool.kind = kind := by
  refine ⟨_, ⟨_, getPoolByName_parent hkind⟩, ?_⟩
  split
  · next hdisk => exact hdisk.1.symm
  · rfl

theorem mem_enumDevices_iff {list : GuestList} {kind : DevKind} {inst : LogicalDevice} :
    inst ∈ enumDevices list kind ↔ ∃ guest ∈ list.guests,
      inst ∈ deviceInstances guest.name kind (guest.devices kind) :=
  List.mem_flatMap

/-- The type of an instance. -/
def LogicalDevice.kind : LogicalDevice → DevKind
  | .device kind _ _ => kind
  | .processor _ _ => .proc

theorem kind_of_mem_enumDevices {list : GuestList} {kind : DevKind} {inst : LogicalDevice}
    (h : inst ∈ enumDevices list kind) : inst.kind = kind := by
  obtain ⟨guest, -, hinst⟩ := mem_enumDevices_iff.mp h
  by_cases hproc : kind = .proc
  · subst hproc
    obtain ⟨num, -, rfl⟩ := List.mem_map.mp hinst
    rfl
  · rw [deviceInstances_of_ne guest.name hproc] at hinst
    obtain ⟨dev, -, rfl⟩ := List.mem_map.mp hinst
    rfl

/-- The names of a domain do not tell ids apart. -/
theorem streqc_getFqDevid_iff (name a b : String) :
    streqc (getFqDevid name (some a)) (getFqDevid name (some b)) = true ↔ streqc a b = true := by
  simp [streqc, getFqDevid, formatStr]

/-- **A device is found by a reference to it** if and only if it can be referred to. -/
theorem isSome_getDeviceByRef_iff {guest : Guest} (hguest : guest ∈ host.list.guests)
    {kind : DevKind} (hkind : kind ≠ .proc) {dev : VirtDevice kind.Dev}
    (hdev : dev ∈ guest.devices kind) :
    (getDeviceByRef host kind (getFqDevid guest.name dev.id)).isSome ↔
      Referable host guest kind dev := by
  -- a device read by getDevices always has an id
  obtain ⟨id, hid⟩ := exists_id_of_getDevices (guest.read kind) hdev
  unfold getDeviceByRef Referable
  rw [getDeviceByName_getFqDevid hguest, hid]
  simp only [Option.mem_some_iff, forall_eq', formatStr, Option.getD_some]
  constructor
  · intro h
    obtain ⟨inst, hinst⟩ := Option.isSome_iff_exists.mp h
    obtain ⟨named, hnamed, hvalid⟩ := Option.bind_eq_some_iff.mp hinst
    obtain ⟨word, hword, hfind⟩ := Option.bind_eq_some_iff.mp hnamed
    -- get_device_by_name finds the first device with the id up to case
    rw [findDomDev_of_ne guest hkind] at hfind
    obtain ⟨found, hfound, rfl⟩ := Option.map_eq_some_iff.mp hfind
    obtain ⟨foundId, hfoundId⟩ := exists_id_of_getDevices (guest.read kind)
      (List.mem_of_find?_eq_some hfound)
    split_ifs at hvalid with hvalidated
    -- what was read is the id that was found up to case, and that one is the id up to case
    have hcase : streqc word foundId = true := by
      have := List.find?_some hfound
      rwa [namedUpToCase, hfoundId, Option.any_some] at this
    have hkey : streqc id foundId = true := by
      have := host.upToCase _ _ hvalidated
      rw [LogicalDevice.deviceId, hfoundId] at this
      exact (streqc_getFqDevid_iff guest.name id foundId).mp this
    have hbare : Bare id := by
      refine ((bare_of_scanWord hword).of_streqc hcase).of_streqc ?_
      rw [streqc_comm]
      exact hkey
    rw [scanWord_of_bare hbare] at hword
    cases hword
    refine ⟨hbare, ?_⟩
    intro found' hfound'
    rw [hfound] at hfound'
    cases hfound'
    exact hvalidated
  -- the reference is made from the id, so it is validated by what is found
  · rintro ⟨hbare, hvalid⟩
    obtain ⟨found, hfound⟩ :
        ∃ found, (guest.devices kind).find? (namedUpToCase id) = some found := by
      rw [← Option.isSome_iff_exists, List.find?_isSome]
      exact ⟨dev, hdev, by simp [namedUpToCase, hid, streqc_refl]⟩
    rw [scanWord_of_bare hbare, Option.bind_some, findDomDev_of_ne guest hkind, hfound,
      Option.map_some, Option.bind_eq_bind, Option.bind_some]
    rw [LogicalDevice.deviceId, if_pos (hvalid found hfound)]
    rfl

/-- A processor is found by a reference to it. -/
theorem isSome_getDeviceByRef_processor {guest : Guest} (hguest : guest ∈ host.list.guests)
    {inst : LogicalDevice} (hinst : inst ∈ deviceInstances guest.name .proc (guest.devices .proc)) :
    (getDeviceByRef host .proc inst.deviceId).isSome := by
  -- a processor is one of the numbers below the guest's count
  obtain ⟨num, hnum, rfl⟩ := List.mem_map.mp hinst
  rw [List.mem_range] at hnum
  cases hprocs : guest.devices .proc with
  | nil =>
    rw [hprocs] at hnum
    cases hnum
  -- the guest has one entry for all of its processors
  | cons proc procs =>
    have hmem : proc ∈ guest.devices .proc := by
      rw [hprocs]
      exact List.mem_cons_self
    obtain ⟨hone, -⟩ := proc_of_getDevices (guest.read .proc) hmem
    rw [hone] at hnum
    unfold getDeviceByRef
    rw [LogicalDevice.deviceId, getDeviceByName_processor hguest hone hnum, Option.bind_eq_bind,
      Option.bind_some, LogicalDevice.deviceId, host.validates, if_pos rfl]
    rfl

/-- **The pool of a device.** -/
theorem vdevToPool_eq_iff {kind : DevKind} {id : String} {pool : PoolInstance} :
    vdevToPool host kind id = .ok [pool] ↔ (getDeviceByRef host kind id).isSome ∧
      ∃ poolid, poolMemberOf host kind id = .ok (some poolid) ∧
        getPoolByName (poolView host) poolid = some pool := by
  unfold vdevToPool
  -- no device, no pool
  cases getDeviceByRef host kind id with
  | none => simp
  | some inst =>
    cases poolMemberOf host kind id with
    | error stop =>
      constructor
      · rintro ⟨⟩
      · rintro ⟨-, poolid, ⟨⟩, -⟩
    | ok member =>
      -- a member without a pool leads nowhere
      show Except.ok (member.bind (getPoolByName (poolView host))).toList = .ok [pool] ↔ _
      cases member with
      | none => simp
      | some poolid =>
        cases hpool : getPoolByName (poolView host) poolid with
        | none => simp [hpool]
        | some found => simp [hpool]

/-! ### The parent and its children -/

theorem isPool_storage {name : String} (h : name ∈ host.storage) :
    IsPool host { kind := .disk, name, primordial := false } :=
  ⟨_, getPoolByName_storage h⟩

theorem parentDevicePool_eq {kind : DevKind} (hkind : kind ≠ .console)
    (hstorage : "0" ∉ host.storage) :
    parentDevicePool (poolView host) kind = some (parentPool kind) := by
  rw [parentDevicePool, if_neg hkind, getPoolByName_parent hkind, if_neg (by simp [hstorage])]

/-- A pool that is no parent is a network or an active storage pool. -/
theorem child_cases {pool : PoolInstance} (h : IsPool host pool)
    (hchild : pool.primordial = false) :
    (pool.kind = .net ∧ pool.name ≠ "0" ∧ ∃ net ∈ host.networks, net.name = pool.name) ∨
      (pool.kind = .disk ∧ pool.name ∈ host.storage) := by
  obtain ⟨id, hid⟩ := h
  rw [getPoolByName_eq] at hid
  obtain ⟨kind, -, hid⟩ := Option.bind_eq_some_iff.mp hid
  obtain ⟨name, -, hnamed⟩ := Option.bind_eq_some_iff.mp hid
  -- only networks and storage have pools beside the parent
  by_cases hnet : kind = .net
  · subst hnet
    rw [poolNamed_net] at hnamed
    split_ifs at hnamed with hzero hknown
    · cases hnamed
      cases hchild
    · cases hnamed
      exact .inl ⟨rfl, hzero, (networkNamed_iff name).mp hknown⟩
  by_cases hdisk : kind = .disk
  · subst hdisk
    rw [poolNamed_disk] at hnamed
    obtain ⟨names, hnames, hnamed⟩ := Option.bind_eq_some_iff.mp hnamed
    cases hnames
    -- a storage pool named "0" would hide the parent
    split_ifs at hnamed with hmem hzero
    · cases hnamed
      exact .inr ⟨rfl, hmem⟩
    · cases hnamed
      cases hchild
  -- for the other kinds the parent is the only pool
  by_cases hconsole : kind = .console
  · subst hconsole
    simp [poolNamed, getPools] at hnamed
  rw [poolNamed_onlyParent hnet hdisk hconsole] at hnamed
  split_ifs at hnamed
  cases hnamed
  cases hchild

theorem parent_of_primordial {pool : PoolInstance} (h : IsPool host pool)
    (hparent : pool.primordial = true) : pool.kind ≠ .console ∧ pool = parentPool pool.kind := by
  obtain ⟨id, hid⟩ := h
  refine ⟨(getPoolByName_id hid).1, ?_⟩
  rw [getPoolByName_eq] at hid
  obtain ⟨kind, -, hid⟩ := Option.bind_eq_some_iff.mp hid
  obtain ⟨name, -, hnamed⟩ := Option.bind_eq_some_iff.mp hid
  obtain ⟨rfl, -, heq⟩ := kind_and_name_of_poolNamed hnamed
  exact heq hparent

theorem enumPools_net : enumPools (poolView host) .net =
    some (((activeNetworks host).map Network.name ++ ["0"]).flatMap
      (netpoolForNetwork (poolView host))) := by
  simp [enumPools, getPools, netpoolInstance, poolView]

theorem enumPools_disk : enumPools (poolView host) .disk =
    some (host.storage.map (fun name => PoolInstance.mk .disk name false) ++
      [parentPool .disk]) := by
  simp [enumPools, getPools, diskpoolInstance, getDiskpoolConfig, poolView]

theorem netpoolForNetwork_zero (view : PoolView) :
    netpoolForNetwork view "0" = [parentPool .net] := by
  rw [netpoolForNetwork, if_pos (by decide)]

theorem netpoolForNetwork_of_ne {net : Network} (h : net ∈ host.networks) (hname : net.name ≠ "0") :
    netpoolForNetwork (poolView host) net.name =
      [{ kind := .net, name := net.name, primordial := false }] := by
  have hzero : ¬ streqc net.name "0" = true := by
    rwa [streqc_zero_iff]
  rw [netpoolForNetwork, if_neg hzero, if_pos ((networkNamed_iff net.name).mpr ⟨net, h, rfl⟩)]

/-- The parents among the networks that are listed: one for the list, and one for each active
network that is called `0`. -/
theorem filter_primordial_net : (enumPools (poolView host) .net).map
    (·.filter PoolInstance.primordial) =
      some (((activeNetworks host).filter (·.name = "0")).map (fun _ => parentPool .net) ++
        [parentPool .net]) := by
  -- a network is only primordial when it is named "0"
  have hnets (nets : List Network) (h : ∀ net ∈ nets, net ∈ host.networks) :
      ((nets.map Network.name).flatMap (netpoolForNetwork (poolView host))).filter
        PoolInstance.primordial = (nets.filter (·.name = "0")).map fun _ => parentPool .net := by
    induction nets with
    | nil => rfl
    | cons net nets ih =>
      rw [List.forall_mem_cons] at h
      rw [List.map_cons, List.flatMap_cons, List.filter_append, ih h.2]
      by_cases hzero : net.name = "0"
      · simp [hzero, netpoolForNetwork_zero, parentPool]
      · simp [hzero, netpoolForNetwork_of_ne h.1 hzero]
  rw [enumPools_net, Option.map_some, List.flatMap_append, List.filter_append,
    hnets _ fun net hnet => (mem_networks_of_active hnet).1, List.flatMap_singleton,
    netpoolForNetwork_zero]
  rfl

/-- A child pool of an allocatable host is listed. -/
theorem mem_enumPools_of_child (h : Allocatable host) {pool : PoolInstance}
    (hpool : IsPool host pool) (hchild : pool.primordial = false) :
    pool ∈ (enumPools (poolView host) pool.kind).getD [] := by
  obtain ⟨kind, name, primordial⟩ := pool
  dsimp only at hchild
  subst hchild
  -- a child is an active network or a storage pool
  obtain ⟨hkind, hname, net, hnet, hnamed⟩ | ⟨hkind, hmem⟩ := child_cases hpool rfl
  · dsimp only at hkind hname hnamed
    subst hkind hnamed
    have hactive : net ∈ activeNetworks host :=
      List.mem_filter.mpr ⟨hnet, (h.networks net hnet).mpr hname⟩
    rw [enumPools_net, Option.getD_some, List.mem_flatMap]
    refine ⟨net.name, List.mem_append_left _ (List.mem_map_of_mem hactive), ?_⟩
    rw [netpoolForNetwork_of_ne hnet hname]
    exact List.mem_singleton.mpr rfl
  · dsimp only at hkind hmem
    subst hkind
    rw [enumPools_disk, Option.getD_some]
    exact List.mem_append_left _ (List.mem_map_of_mem hmem)

/-- The id of a child is not that of the parent, whatever the case. -/
theorem streqc_id_parent {pool : PoolInstance} (hname : pool.name ≠ "0") :
    streqc pool.id (parentPool pool.kind).id = false := by
  have hzero : ¬ streqc pool.name "0" = true := by
    rwa [streqc_zero_iff]
  rw [← Bool.not_eq_true]
  intro heq
  apply hzero
  have hlower : pool.id.toList.map Char.toLower =
      (parentPool pool.kind).id.toList.map Char.toLower := of_decide_eq_true heq
  simp only [PoolInstance.id, getPoolId, parentPool, String.toList_append, List.map_append]
    at hlower
  exact decide_eq_true (List.append_cancel_left hlower)

theorem child_name_ne (h : Allocatable host) {pool : PoolInstance} (hpool : IsPool host pool)
    (hchild : pool.primordial = false) : pool.name ≠ "0" := by
  obtain ⟨-, hname, -⟩ | ⟨-, hmem⟩ := child_cases hpool hchild
  · exact hname
  · rintro hzero
    rw [hzero] at hmem
    exact h.storage hmem

theorem Allocatable.membersKnown (h : Allocatable host) (kind : DevKind) :
    MembersKnown host kind :=
  (membersKnown_iff kind).mpr fun _ => h.bridges

/-- **A host that is allocatable allocates symmetrically**, each part by what the two directions
look up. -/
theorem Allocatable.symmetric (h : Allocatable host) : AllocationSymmetric host where
  answered pool hpool := (exists_allocatedFrom_iff hpool).mpr (h.membersKnown pool.kind)
  device kind inst hinst pool hpool := by
    rw [allocates_iff hpool, vdevToPool_eq_iff]
    constructor
    · rintro ⟨-, hmem, hpoolid⟩
      obtain rfl : pool.kind = kind :=
        (kind_of_mem_enumDevices hmem).symm.trans (kind_of_mem_enumDevices hinst)
      obtain ⟨id, hid⟩ := hpool
      refine ⟨?_, pool.id, hpoolid, (getPoolByName_id hid).2.2⟩
      -- a device with a pool is found by its id
      obtain ⟨guest, hguest, hdevs⟩ := mem_enumDevices_iff.mp hinst
      have hin : InPool host pool.kind inst.deviceId := (isSome_of_poolMemberOf hpoolid).mp rfl
      generalize pool.kind = kind at *
      by_cases hproc : kind = .proc
      · subst hproc
        exact isSome_getDeviceByRef_processor hguest hdevs
      · rw [deviceInstances_of_ne guest.name hproc] at hdevs
        obtain ⟨dev, hdev, rfl⟩ := List.mem_map.mp hdevs
        exact (isSome_getDeviceByRef_iff hguest hproc hdev).mpr
          (h.referable guest hguest kind hproc dev hdev hin)
    -- back: the pool that was found is the one of the device
    · rintro ⟨-, poolid, hpoolid, hfound⟩
      obtain ⟨found, hfound', hkind, hid⟩ := exists_pool_of_poolMemberOf hpoolid
      rw [hfound] at hfound'
      cases hfound'
      rw [hkind, hid]
      exact ⟨h.membersKnown kind, hinst, hpoolid⟩
  onePool inst pool pool' hpool hpool' hinst hinst' := by
    obtain ⟨-, hmem, hid⟩ := (allocates_iff hpool inst).mp hinst
    obtain ⟨-, hmem', hid'⟩ := (allocates_iff hpool' inst).mp hinst'
    have hkind : pool.kind = pool'.kind :=
      (kind_of_mem_enumDevices hmem).symm.trans (kind_of_mem_enumDevices hmem')
    -- both pools are the one that pool_member_of names
    rw [hkind, hid'] at hid
    have heq : pool'.id = pool.id := Option.some.inj (Except.ok.inj hid)
    obtain ⟨id, hid⟩ := hpool
    obtain ⟨id', hid'⟩ := hpool'
    have hself := (getPoolByName_id hid).2.2
    rw [← heq, (getPoolByName_id hid').2.2] at hself
    exact (Option.some.inj hself).symm
  family parent child hparent hchild hkind hprimordial hnot := by
    obtain ⟨hconsole, heq⟩ := parent_of_primordial hparent hprimordial
    -- down: the parent lists every pool of its kind but itself
    have hdown : LeadsTo host parent child := by
      refine (leadsTo_iff hparent child).mpr ⟨h.membersKnown parent.kind, ?_⟩
      rw [getPoolsOf, if_pos hprimordial, List.mem_filter, hkind]
      refine ⟨mem_enumPools_of_child h hchild hnot, ?_⟩
      rw [heq, hkind, streqc_id_parent (child_name_ne h hchild hnot)]
      rfl
    -- up: the child's parent is looked up by the id of "0"
    have hup : LeadsTo host child parent := by
      refine (leadsTo_iff hchild parent).mpr ⟨h.membersKnown child.kind, ?_⟩
      rw [getPoolsOf, if_neg (by simp [hnot]), ← hkind, parentDevicePool_eq hconsole h.storage,
        ← heq]
      exact List.mem_singleton.mpr rfl
    exact iff_of_true hdown hup
  oneParent kind hkind := by
    by_cases hnet : kind = .net
    · subst hnet
      refine ⟨parentPool .net, ?_⟩
      -- no active network is named "0", or there would be two parents
      have hnone : (activeNetworks host).filter (·.name = "0") = [] := by
        rw [List.filter_eq_nil_iff]
        intro net hnet hzero
        obtain ⟨hmem, hactive⟩ := mem_networks_of_active hnet
        exact (h.networks net hmem).mp hactive (of_decide_eq_true hzero)
      rw [filter_primordial_net, hnone]
      rfl
    by_cases hdisk : kind = .disk
    · subst hdisk
      refine ⟨parentPool .disk, ?_⟩
      rw [enumPools_disk, Option.map_some, List.filter_append, List.filter_eq_nil_iff.mpr]
      · rfl
      · intro pool hpool
        obtain ⟨name, -, rfl⟩ := List.mem_map.mp hpool
        simp
    · refine ⟨parentPool kind, ?_⟩
      cases kind with
      | net => exact absurd rfl hnet
      | disk => exact absurd rfl hdisk
      | console => exact absurd rfl hkind
      | _ => rfl
  notItself pool hpool hself := by
    -- a parent leaves itself out, and a child leads to the parent only
    obtain ⟨-, hmem⟩ := (leadsTo_iff hpool pool).mp hself
    rw [getPoolsOf] at hmem
    split at hmem
    · have hne := (List.mem_filter.mp hmem).2
      rw [streqc_refl] at hne
      cases hne
    · next hchild =>
      obtain ⟨id, hid⟩ := hpool
      rw [parentDevicePool_eq (getPoolByName_id hid).1 h.storage] at hmem
      rw [List.mem_singleton.mp hmem] at hchild
      exact hchild rfl
  notSiblings pool other hpool _ hchild hchild' hlead := by
    obtain ⟨-, hmem⟩ := (leadsTo_iff hpool other).mp hlead
    obtain ⟨id, hid⟩ := hpool
    rw [getPoolsOf, if_neg (by simp [hchild]),
      parentDevicePool_eq (getPoolByName_id hid).1 h.storage] at hmem
    rw [List.mem_singleton.mp hmem] at hchild'
    cases hchild'

/-- **Where allocation is symmetric**, the host is allocatable: the name `0` is left to the
parents, every network is active, no network without a bridge is in the way, and a device that
is in a pool can be referred to. -/
theorem AllocationSymmetric.allocatable (h : AllocationSymmetric host) : Allocatable host where
  networks net hnet := by
    constructor
    -- a network named "0" that is active would be a second parent
    · rintro hactive hzero
      obtain ⟨parent, hone⟩ := h.oneParent .net (by decide)
      rw [filter_primordial_net] at hone
      have hlength := congrArg List.length (Option.some.inj hone)
      have hmem : net ∈ (activeNetworks host).filter (·.name = "0") :=
        List.mem_filter.mpr ⟨List.mem_filter.mpr ⟨hnet, hactive⟩, decide_eq_true hzero⟩
      have hpos := List.length_pos_of_mem hmem
      simp only [List.length_append, List.length_map, List.length_singleton] at hlength
      omega
    · intro hname
      have hchild := isPool_of_mem_networks hnet hname
      have hkind : DevKind.net ≠ .console := by decide
      have hparent : IsPool host (parentPool .net) := ⟨_, getPoolByName_parent hkind⟩
      have hknown : MembersKnown host .net := (exists_allocatedFrom_iff hparent).mp
        (h.answered _ hparent)
      -- an inactive network leads to the parent, so the parent must list it
      have hup : LeadsTo host { kind := .net, name := net.name, primordial := false }
          (parentPool .net) := by
        refine (leadsTo_iff hchild _).mpr ⟨hknown, ?_⟩
        rw [getPoolsOf, if_neg (by simp), parentDevicePool, if_neg hkind,
          getPoolByName_parent hkind]
        exact List.mem_singleton.mpr rfl
      have hdown := (h.family _ _ hparent hchild rfl rfl rfl).mpr hup
      obtain ⟨-, hmem⟩ := (leadsTo_iff hparent _).mp hdown
      have hlisted := (List.mem_filter.mp hmem).1
      have henum : (enumPools (poolView host) (parentPool .net).kind).getD [] = _ :=
        congrArg (Option.getD · []) enumPools_net
      rw [henum, Option.getD_some, List.mem_flatMap] at hlisted
      obtain ⟨name, hname', hpool⟩ := hlisted
      -- listed as an active network or as the parent
      obtain hactive | hzero := List.mem_append.mp hname'
      · obtain ⟨other, hother, rfl⟩ := List.mem_map.mp hactive
        obtain ⟨hmem, hactive⟩ := mem_networks_of_active hother
        have hother : other.name = net.name := by
          by_cases hzero : other.name = "0"
          · rw [hzero, netpoolForNetwork_zero] at hpool
            exact absurd (List.mem_singleton.mp hpool) (by simp [parentPool])
          · rw [netpoolForNetwork_of_ne hmem hzero] at hpool
            exact (PoolInstance.mk.inj (List.mem_singleton.mp hpool)).2.1.symm
        rw [← List.inj_on_of_nodup_map host.distinct hmem hnet hother]
        exact hactive
      · rw [List.mem_singleton.mp hzero, netpoolForNetwork_zero] at hpool
        exact absurd (List.mem_singleton.mp hpool) (by simp [parentPool])
  storage := by
    intro hzero
    have hpool := isPool_storage hzero
    -- a storage pool named "0" would be its own parent
    refine h.notItself _ hpool ((leadsTo_iff hpool _).mpr ⟨?_, ?_⟩)
    · exact (exists_allocatedFrom_iff hpool).mp (h.answered _ hpool)
    · rw [getPoolsOf, if_neg (by simp), parentDevicePool, if_neg (by decide),
        getPoolByName_parent (by decide), if_pos ⟨rfl, hzero⟩]
      exact List.mem_singleton.mpr rfl
  bridges := by
    obtain ⟨pool, hpool, hkind⟩ := @isPool_parent host .net (by decide)
    -- the parent of the networks asks every interface
    have hknown := (exists_allocatedFrom_iff hpool).mp (h.answered _ hpool)
    rw [hkind] at hknown
    exact (membersKnown_iff .net).mp hknown rfl
  referable guest hguest kind hproc dev hdev hin := by
    have hinst : LogicalDevice.device kind guest.name dev ∈ enumDevices host.list kind := by
      refine mem_enumDevices_iff.mpr ⟨guest, hguest, ?_⟩
      rw [deviceInstances_of_ne guest.name hproc]
      exact List.mem_map_of_mem hdev
    -- consoles are in no pool at all
    have hconsole : kind ≠ .console := by
      rintro rfl
      exact hin
    obtain ⟨any, hany, hkind⟩ := @isPool_parent host kind hconsole
    have hknown := (exists_allocatedFrom_iff hany).mp (h.answered _ hany)
    rw [hkind] at hknown
    obtain ⟨member, hmember⟩ := hknown _ hinst
    -- the device is in a pool, and what that pool lists must find its way back
    obtain ⟨poolid, rfl⟩ := Option.isSome_iff_exists.mp ((isSome_of_poolMemberOf hmember).mpr hin)
    obtain ⟨pool, hfound, hpoolKind, hid⟩ := exists_pool_of_poolMemberOf hmember
    have hpool : IsPool host pool := ⟨poolid, hfound⟩
    have hallocates : Allocates host pool (.device kind guest.name dev) := by
      refine (allocates_iff hpool _).mpr ?_
      rw [hpoolKind, hid]
      exact ⟨hknown, hinst, hmember⟩
    have hvdev := (h.device kind _ hinst pool hpool).mp hallocates
    exact (isSome_getDeviceByRef_iff hguest hproc hdev).mp (vdevToPool_eq_iff.mp hvdev).1

/-- **Pools and devices, parents and children belong together** on exactly the hosts that are
allocatable. The conditions are read off the symmetry one at a time, at a network, a storage pool
or a device that would violate them; a host that meets them gives the same answer in every
direction. -/
theorem allocationSymmetric_iff (host : PoolHost) : AllocationSymmetric host ↔ Allocatable host :=
  ⟨AllocationSymmetric.allocatable, Allocatable.symmetric⟩

/-- A host with one active storage pool, which is called `0`. -/
def zeroPoolHost : PoolHost where
  list := { guests := [], distinct := List.nodup_nil }
  networks := []
  storage := ["0"]
  volumePool := fun _ => none
  distinct := List.nodup_nil
  networkNames := by simp
  storageNames := by decide
  pfx := "KVM"
  known := by decide
  validateRef := fun key key' => key == key'
  validates := beq_self_eq_true
  upToCase := by simp [streqc_refl]

/-- The storage pool stands in the place of the parent, and is returned for itself. -/
theorem not_allocationSymmetric_zeroPool : ¬ AllocationSymmetric zeroPoolHost := by
  intro h
  have hpool : IsPool zeroPoolHost { kind := .disk, name := "0", primordial := false } :=
    isPool_storage (by decide)
  refine h.notItself _ hpool ((leadsTo_iff hpool _).mpr ⟨?_, ?_⟩)
  · rintro inst ⟨⟩
  · decide +kernel

end LibvirtCim.Association
