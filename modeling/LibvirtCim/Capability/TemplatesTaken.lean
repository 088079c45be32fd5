import LibvirtCim.Capability.ValueRoles
import LibvirtCim.Rasd.Scan

/-!
# Templates that are handed in

A template is there to be handed in: one of a pool to `CreateChildResourcePool`, one of an image to
`CreateResourceInPool`, one of a device to the services that make domains. `template_taken_iff` says
which ones are taken. All pools are. The processors of a container and half of the displays of type
`vnc` never are: they are offered at `True` and `False`, which are no addresses.
-/

open Framework Framework.Listing LibvirtCim.Device LibvirtCim.Pool LibvirtCim.Rasd

namespace LibvirtCim.SettingsDefineCapabilities

/-- A template of a pool, as the argument of a request. -/
def poolRasdOf (inst : Instance) : PoolRasd where
  inst := inst
  devicePaths := inst.getArray "DevicePaths"

/-- A template is taken: where a device is changed, whatever it is changed from. A template of a
pool is handed to the request that makes one, and one of a volume to the request for a volume. -/
def Taken (host : Host) (domtype : DomainType) (inst : Instance) : Prop :=
  match resTypeFromRasdClassname inst with
  | some (.dev kind) =>
    if inst.base = poolBase kind then
      ∃ info, getPoolProperties [some (poolRasdOf inst)] = .ok info
    else ∀ dev, ∃ dev', rasdToVdev host domtype inst kind dev = .ok dev'
  | some .image => ∃ vol, rasdToRes inst = .ok vol ∧ (volFormatTypeToStr vol.formatType).isSome
  | none => False

/-- What else it takes for a template to be taken: a random address for an interface, a file that
can be told for a disk, a path for a volume, and a guest that is no container for processors and
displays. -/
def Usable (host : Host) (domtype : DomainType) (inst : Instance) : Prop :=
  match resTypeFromRasdClassname inst with
  | some (.dev .net) => inst.base = poolBase .net ∨ host.netRandMac.isSome
  | some (.dev .disk) => inst.base = poolBase .disk ∨ domtype = .lxc ∨
      inst.getU16 "EmulatedType" ≠ some 0 ∨
      ∀ path ∈ inst.getStr "Address", host.diskTypeFromFile path ≠ .unknown
  | some .image => (inst.getStr "Path").isSome
  | some (.dev .proc) => domtype ≠ .lxc
  | some (.dev .graphics) => domtype ≠ .lxc ∧ inst.getStr "Address" ≠ some "True" ∧
      inst.getStr "Address" ≠ some "False"
  | _ => True

/-! ### Devices -/

section Devices

variable {host : Host} {domtype : DomainType}

theorem taken_device_iff {inst : Instance} {kind : DevKind} (hbase : inst.base = baseOfKind kind) :
    Taken host domtype inst ↔ ∀ dev, ∃ set,
      (if domtype = .lxc then containerRasdToVdev host inst kind dev
        else sysvirtRasdToVdev host inst kind dev) = .ok set := by
  -- the base of a device is not that of its pool, so rasd_to_vdev is asked and not rasd_to_vpool
  have hpool : baseOfKind kind ≠ poolBase kind := by
    cases kind <;> decide
  unfold Taken
  rw [resTypeFromRasdClassname_device hbase]
  dsimp only
  rw [hbase, if_neg hpool]
  refine forall_congr' fun dev => ?_
  constructor
  -- rasd_to_vdev adds the id to what the translator of the kind has set
  · rintro ⟨dev', h⟩
    obtain ⟨set, hset, -⟩ := rasdToVdev_ok h
    exact ⟨set, hset⟩
  · rintro ⟨set, hset⟩
    unfold rasdToVdev
    dsimp only
    split_ifs at hset ⊢
    · rw [hset]
      exact ⟨_, rfl⟩
    · rw [hset]
      exact ⟨_, rfl⟩

variable (sdc : SdcHost) (pfx id : String) (t : SdcRasdType)

/-- Memory is always taken. -/
theorem taken_mem :
    Taken host domtype ((memTemplate sdc pfx t).set "PoolID" (.string id)) := by
  have hsize : ((memTemplate sdc pfx t).set "PoolID" (.string id)).getU64 "VirtualQuantity" =
      some (memSize sdc t) := by
    simp [Instance.getU64, memTemplate]
  have hunits : ((memTemplate sdc pfx t).set "PoolID" (.string id)).getStr "AllocationUnits" =
      some "KiloBytes" := by
    simp [Instance.getStr, memTemplate]
  rw [taken_device_iff (show _ = baseOfKind .mem from rfl)]
  intro dev
  -- the same translator serves a container and every other guest
  generalize (memTemplate sdc pfx t).set "PoolID" (.string id) = inst at hsize hunits ⊢
  change ∃ set, (if domtype = .lxc then memRasdToVdev inst dev else memRasdToVdev inst dev) =
    .ok set
  rw [ite_self]
  unfold memRasdToVdev
  rw [hsize, hunits]
  exact ⟨_, rfl⟩

/-- Processors are taken for what is no container. -/
theorem taken_proc_iff :
    Taken host domtype ((procTemplate sdc pfx t).set "PoolID" (.string id)) ↔ domtype ≠ .lxc := by
  have hcount : ((procTemplate sdc pfx t).set "PoolID" (.string id)).getU64 "VirtualQuantity" =
      some (numProcs sdc t) := by
    unfold Instance.getU64 procTemplate
    dsimp only
    split_ifs <;> simp
  have hbase : ((procTemplate sdc pfx t).set "PoolID" (.string id)).base = baseOfKind .proc := by
    unfold procTemplate
    dsimp only
    split_ifs <;> rfl
  rw [taken_device_iff hbase]
  -- lxc_proc_rasd_to_vdev wants Limit or Weight, which no template has
  by_cases hlxc : domtype = .lxc
  · refine iff_of_false ?_ (not_not_intro hlxc)
    intro h
    obtain ⟨set, hset⟩ := h { type := .proc, dev := { quantity := 0 } }
    rw [if_pos hlxc] at hset
    change lxcProcRasdToVdev _ _ = _ at hset
    unfold lxcProcRasdToVdev at hset
    rw [hcount] at hset
    cases hset
  -- everywhere else a count is enough
  · refine iff_of_true ?_ hlxc
    intro dev
    rw [if_neg hlxc]
    change ∃ set, procRasdToVdev _ dev = .ok set
    unfold procRasdToVdev
    rw [hcount]
    exact ⟨_, rfl⟩

theorem given_of_getD {value : Option String} (h : value.getD "" ≠ "") :
    ∃ s, value = some s ∧ s ≠ "" := by
  cases value with
  | none => exact absurd rfl h
  | some s => exact ⟨s, rfl, h⟩

/-- The interfaces that are offered have what their types need. -/
theorem complete_of_mem_netProps : ∀ props ∈ netProps,
    (props.netType = "bridge" ∧ props.netName.getD "" ≠ "") ∨ props.netType = "network" ∨
      props.netType = "user" ∨ (props.netType = "direct" ∧ props.srcDev.getD "" ≠ "") := by
  decide +kernel

/-- An interface is taken if it can be given an address: none is offered. -/
theorem taken_net_iff (amounts : NetAmounts) {props : NetProps} (hprops : props ∈ netProps)
    (hid : (nameFromPoolId id).isSome) :
    Taken host domtype ((setNetProps pfx t amounts props).set "PoolID" (.string id)) ↔
      host.netRandMac.isSome := by
  have hbase : ((setNetProps pfx t amounts props).set "PoolID" (.string id)).base =
      baseOfKind .net := by
    simp [setNetProps]
  rw [taken_device_iff hbase]
  -- six properties are all the translator looks at
  generalize hinst : (setNetProps pfx t amounts props).set "PoolID" (.string id) = inst
  have hget (name : String) : inst.getStr name =
      ((setNetProps pfx t amounts props).set "PoolID" (.string id)).getStr name := by rw [hinst]
  have haddress : inst.getStr "Address" = none := by
    rw [hget]
    simp [Instance.getStr, setNetProps]
    rfl
  have htype : inst.getStr "NetworkType" = some props.netType := by
    rw [hget]
    simp [Instance.getStr, setNetProps]
  have hname : inst.getStr "NetworkName" = props.netName := by
    rw [hget]
    cases hnone : props.netName <;> simp [Instance.getStr, setNetProps, hnone]
    rfl
  have hpool : inst.getStr "PoolID" = some id := by
    rw [hget]
    simp [Instance.getStr]
  have hsource : inst.getStr "SourceDevice" = props.srcDev := by
    rw [hget]
    cases hnone : props.srcDev <;> simp [Instance.getStr, setNetProps, hnone]
    rfl
  have hproperties : inst.getArray "AddressProperties" = none := by
    rw [← hinst]
    simp [Instance.getArray, setNetProps]
    rfl
  -- a container takes it like any other domain
  have hboth (dev : VirtDevice NetDevice) :
      (∃ set, (if domtype = .lxc then containerRasdToVdev host inst .net dev
        else sysvirtRasdToVdev host inst .net dev) = .ok set) ↔
      ∃ set, netRasdToVdev host inst = .ok set := by
    split_ifs
    · rfl
    · rfl
  refine (forall_congr' hboth).trans ?_
  unfold netRasdToVdev
  rw [haddress, htype, Option.none_or]
  dsimp only
  -- without an address the MAC is random, and the host may have none to give
  cases host.netRandMac with
  | none =>
    refine iff_of_false ?_ (by simp)
    intro h
    obtain ⟨set, hset⟩ := h { type := .net, dev := {} }
    cases hset
  | some mac =>
    refine iff_of_true ?_ rfl
    intro dev
    -- the four network types, each with the property its branch asks for
    obtain ⟨ndev, hndev⟩ : ∃ ndev, netSourceOfRasd host inst props.netType { mac := some mac } =
        .ok ndev := by
      obtain ⟨network, hnetwork⟩ := Option.isSome_iff_exists.mp hid
      unfold netSourceOfRasd
      rw [hname, hpool, hsource]
      obtain ⟨hbridge, hgiven⟩ | hnet | huser | ⟨hdirect, hgiven⟩ :=
        complete_of_mem_netProps props hprops
      · obtain ⟨name, hsome, hne⟩ := given_of_getD hgiven
        rw [hbridge, hsome, if_pos (by decide)]
        dsimp only
        rw [if_neg hne]
        exact ⟨_, rfl⟩
      -- the network's name is taken from the pool id when it is not given
      · rw [hnet, if_neg (by decide), if_pos (by decide)]
        dsimp only [Option.some_or]
        rw [hnetwork]
        exact ⟨_, rfl⟩
      · rw [huser]
        exact ⟨_, rfl⟩
      -- a direct interface needs a source device
      · obtain ⟨source, hsome, hne⟩ := given_of_getD hgiven
        rw [hdirect, hsome, if_neg (by decide), if_neg (by decide), if_neg (by decide),
          if_pos (by decide)]
        dsimp only
        rw [if_neg hne]
        exact ⟨_, rfl⟩
    dsimp only
    rw [hndev]
    unfold rasdToDeviceAddress
    rw [hproperties]
    exact ⟨_, rfl⟩

/-- A disk is taken by a container, and elsewhere if the host knows what its path is. Drives are
offered without a medium. -/
theorem taken_disk_iff {diskDomain : DomainType} (hdomain : domtype = .lxc ↔ diskDomain = .lxc)
    (tid diskPath : String) (diskSize : UInt64) {emuType : UInt16}
    (hemu : emuType = 0 ∨ emuType = 1 ∨ emuType = 2) (readonly shareable : Bool) (cache : String) :
    Taken host domtype ((setDiskProps pfx diskDomain tid diskPath diskSize emuType readonly
        shareable cache).set "PoolID" (.string id)) ↔
      domtype = .lxc ∨ emuType ≠ 0 ∨ host.diskTypeFromFile diskPath ≠ .unknown := by
  have hbase : ((setDiskProps pfx diskDomain tid diskPath diskSize emuType readonly shareable
      cache).set "PoolID" (.string id)).base = baseOfKind .disk := by
    unfold setDiskProps
    by_cases hlxc : diskDomain = .lxc <;> simp [hlxc]
  rw [taken_device_iff hbase]
  generalize hinst : (setDiskProps pfx diskDomain tid diskPath diskSize emuType readonly shareable
    cache).set "PoolID" (.string id) = inst
  have haddress : inst.getStr "Address" = some diskPath := by
    rw [← hinst]
    unfold setDiskProps
    by_cases hlxc : diskDomain = .lxc <;> simp [Instance.getStr, hlxc]
  -- a container's disk is a file system, which needs a mount point and nothing of the file
  by_cases hlxc : domtype = .lxc
  · have hmount : inst.getStr "MountPoint" = some "/lxc_mnt/tmp" := by
      rw [← hinst, hdomain.mp hlxc]
      simp [Instance.getStr, setDiskProps]
    refine iff_of_true ?_ (.inl hlxc)
    intro dev
    rw [if_pos hlxc]
    change ∃ set, lxcDiskRasdToVdev inst dev = .ok set
    unfold lxcDiskRasdToVdev
    rw [hmount, haddress]
    exact ⟨_, rfl⟩
  -- elsewhere the type of the image is looked up, but only for a plain disk
  · have hdisk : diskDomain ≠ .lxc := fun heq => hlxc (hdomain.mpr heq)
    obtain ⟨virtualDev, hvirtual⟩ : ∃ virtualDev, inst.getStr "VirtualDevice" =
        some virtualDev := by
      rw [← hinst]
      exact ⟨_, by simp [Instance.getStr, setDiskProps, hdisk]; rfl⟩
    have htype : inst.getU16 "EmulatedType" = some emuType := by
      rw [← hinst]
      simp [Instance.getU16, setDiskProps, hdisk]
    have hproperties : inst.getArray "AddressProperties" = none := by
      rw [← hinst]
      simp [Instance.getArray, setDiskProps, hdisk]
      rfl
    -- process_other's disk translator is the only one left
    have hsys (dev : VirtDevice DiskDevice) :
        (∃ set, (if domtype = .lxc then containerRasdToVdev host inst .disk dev
          else sysvirtRasdToVdev host inst .disk dev) = .ok set) ↔
        ∃ set, diskRasdToVdev host inst = .ok set := by
      rw [if_neg hlxc]
      rfl
    refine (forall_congr' hsys).trans ?_
    rw [or_iff_right hlxc]
    unfold diskRasdToVdev diskSourceOfRasd rasdToDeviceAddress
    rw [hvirtual, htype, haddress, hproperties]
    dsimp only [Option.getD_some]
    obtain rfl | rfl | rfl := hemu
    -- the file must be there
    · -- a disk
      by_cases hknown : host.diskTypeFromFile diskPath = .unknown
      · rw [if_pos ⟨by decide, hknown⟩]
        refine iff_of_false ?_ (by simp [hknown])
        intro h
        obtain ⟨set, hset⟩ := h { type := .disk, dev := {} }
        cases hset
      · rw [if_neg fun both => hknown both.2, if_neg (by decide)]
        exact iff_of_true (fun _ => ⟨_, rfl⟩) (.inr hknown)
    · -- a drive for compact discs
      refine iff_of_true ?_ (.inl (by decide))
      intro _
      rw [if_neg fun both => absurd both.1 (by decide), if_pos rfl]
      split_ifs
      · exact ⟨_, rfl⟩
      · exact ⟨_, rfl⟩
      · exact ⟨_, rfl⟩
      · exact ⟨_, rfl⟩
    · -- a drive for floppy discs
      refine iff_of_true ?_ (.inl (by decide))
      intro _
      rw [if_neg fun both => absurd both.1 (by decide), if_neg (by decide)]
      exact ⟨_, rfl⟩

/-- A display of type `vnc` is taken if its address has a port. -/
theorem graphicsOfRasd_vnc_iff {inst : Instance} {address : String}
    (h : inst.getStr "Address" = some address) (gdev : GraphicsDevice) :
    (∃ new, graphicsOfRasd inst "vnc" gdev = .ok new) ↔
      ((parseIpAddress address).bind Prod.snd).isSome := by
  have hvnc : streqc "vnc" "vnc" = true := by decide
  unfold graphicsOfRasd
  rw [if_pos hvnc, h]
  dsimp only [Option.getD_some]
  cases parseIpAddress address with
  | none => simp
  | some parts =>
    obtain ⟨host, port⟩ := parts
    cases port with
    | none => simp
    | some port => simp

/-- The displays that are offered. -/
theorem graphicsTemplate_eq : (graphicsTemplate pfx t).items =
    [setGraphicsProps pfx t "sdl" none, setGraphicsProps pfx t "vnc" (some "127.0.0.1:-1"),
      setGraphicsProps pfx t "vnc" (some "[::1]:-1"), setGraphicsProps pfx t "vnc" (some "True"),
      setGraphicsProps pfx t "vnc" (some "False")] := rfl

/-- A display is taken by what is no container, unless its address is none. -/
theorem taken_graphics_iff {inst : Instance} (h : inst ∈ (graphicsTemplate pfx t).items) :
    Taken host domtype (inst.set "PoolID" (.string id)) ↔
      domtype ≠ .lxc ∧ inst.getStr "Address" ≠ some "True" ∧
        inst.getStr "Address" ≠ some "False" := by
  -- the five templates, by their type and address
  obtain ⟨type, addr, hinst, hcases⟩ : ∃ type addr, inst = setGraphicsProps pfx t type addr ∧
      (type = "sdl" ∧ addr = none ∨ type = "vnc" ∧ (addr = some "127.0.0.1:-1" ∨
        addr = some "[::1]:-1" ∨ addr = some "True" ∨ addr = some "False")) := by
    rw [graphicsTemplate_eq] at h
    simp only [List.mem_cons, List.not_mem_nil, or_false] at h
    obtain rfl | rfl | rfl | rfl | rfl := h
    · exact ⟨_, _, rfl, .inl ⟨rfl, rfl⟩⟩
    · exact ⟨_, _, rfl, .inr ⟨rfl, .inl rfl⟩⟩
    · exact ⟨_, _, rfl, .inr ⟨rfl, .inr (.inl rfl)⟩⟩
    · exact ⟨_, _, rfl, .inr ⟨rfl, .inr (.inr (.inl rfl))⟩⟩
    · exact ⟨_, _, rfl, .inr ⟨rfl, .inr (.inr (.inr rfl))⟩⟩
  have hbase : (inst.set "PoolID" (.string id)).base = baseOfKind .graphics := by
    rw [hinst]
    simp [setGraphicsProps]
  have hown : inst.getStr "Address" = addr := by
    rw [hinst]
    cases addr <;> simp [Instance.getStr, setGraphicsProps]
    rfl
  have haddress : (inst.set "PoolID" (.string id)).getStr "Address" = addr := by
    rw [← hown]
    simp [Instance.getStr]
  have hsub : (inst.set "PoolID" (.string id)).getStr "ResourceSubType" = some type := by
    rw [hinst]
    simp [Instance.getStr, setGraphicsProps]
  -- what the translator sees of a template are its type and its address
  rw [taken_device_iff hbase, hown]
  generalize inst.set "PoolID" (.string id) = inst' at haddress hsub ⊢
  by_cases hlxc : domtype = .lxc
  · refine iff_of_false ?_ fun both => both.1 hlxc
    intro hall
    obtain ⟨set, hset⟩ := hall { type := .graphics, dev := {} }
    rw [if_pos hlxc] at hset
    cases hset
  -- for the other guests graphics_rasd_to_vdev is the whole of the translation
  · have hsys (dev : VirtDevice GraphicsDevice) :
        (∃ set, (if domtype = .lxc then containerRasdToVdev host inst' .graphics dev
          else sysvirtRasdToVdev host inst' .graphics dev) = .ok set) ↔
        ∃ gdev, graphicsOfRasd inst' type dev.dev = .ok gdev := by
      rw [if_neg hlxc]
      change (∃ set, graphicsRasdToVdev inst' dev = .ok set) ↔ _
      unfold graphicsRasdToVdev
      rw [hsub]
      dsimp only
      cases graphicsOfRasd inst' type dev.dev with
      | error e => exact iff_of_false (by rintro ⟨_, h⟩; cases h) (by simp)
      | ok gdev => exact iff_of_true ⟨_, rfl⟩ ⟨_, rfl⟩
    refine (forall_congr' hsys).trans ?_
    rw [and_iff_right hlxc]
    -- SDL is taken without an address
    obtain ⟨rfl, rfl⟩ | ⟨rfl, hcases⟩ := hcases
    · refine iff_of_true ?_ (by simp)
      intro dev
      unfold graphicsOfRasd
      rw [if_neg (by decide), if_neg (by decide), if_pos (by decide), haddress]
      exact ⟨_, rfl⟩
    -- a VNC address must hold a port, and "True" and "False" hold none
    · obtain ⟨address, haddr⟩ : ∃ address, addr = some address := by
        obtain rfl | rfl | rfl | rfl := hcases <;> exact ⟨_, rfl⟩
      have hany : Nonempty (VirtDevice GraphicsDevice) := ⟨{ type := .graphics, dev := {} }⟩
      refine (forall_congr' fun dev => graphicsOfRasd_vnc_iff (haddress.trans haddr)
        dev.dev).trans ?_
      rw [forall_const]
      obtain rfl | rfl | rfl | rfl := hcases
      · cases haddr
        decide +kernel
      · cases haddr
        decide +kernel
      · cases haddr
        decide +kernel
      · cases haddr
        decide +kernel

/-- Input devices are always taken. -/
theorem taken_input (type bus : String) (caption : Option String) :
    Taken host domtype ((setInputProps pfx t type bus caption).set "PoolID" (.string id)) := by
  rw [taken_device_iff (show _ = baseOfKind .input from rfl)]
  intro dev
  split_ifs
  · exact ⟨_, rfl⟩
  · exact ⟨_, rfl⟩

end Devices

/-! ### Pools and images -/

section Pools

variable {host : Host} {domtype : DomainType} (pfx id : String) (t : SdcRasdType)

theorem taken_netPool {forwardMode : UInt16}
    (hmode : forwardMode = 0 ∨ forwardMode = 1 ∨ forwardMode = 2) (forwardDevice : Bool) :
    Taken host domtype
      ((netPoolProps pfx t forwardMode forwardDevice).set "PoolID" (.string id)) := by
  have hbase : ((netPoolProps pfx t forwardMode forwardDevice).set "PoolID" (.string id)).base =
      poolBase .net := by
    simp [netPoolProps]
  have hforward : ((netPoolProps pfx t forwardMode forwardDevice).set "PoolID"
      (.string id)).getU16 "ForwardMode" = some forwardMode := by
    simp [Instance.getU16, netPoolProps]
  have htype := resTypeFromRasdClassname_pool (.inr rfl) hbase
  unfold Taken
  rw [htype]
  dsimp only
  rw [if_pos hbase]
  unfold getPoolProperties poolRasdOf
  dsimp only
  rw [htype]
  dsimp only
  unfold rasdToVpool netRasdToPool
  dsimp only
  rw [hforward]
  -- the three forward modes, none, nat and route, are all known to net_rasd_to_pool
  obtain rfl | rfl | rfl := hmode
  · exact ⟨_, rfl⟩
  · exact ⟨_, rfl⟩
  · exact ⟨_, rfl⟩

theorem taken_diskPool {props : DiskPoolProps} (hprops : props ∈ diskPoolProps) :
    Taken host domtype ((setDiskPoolProps pfx t props).set "PoolID" (.string id)) := by
  have hbase : ((setDiskPoolProps pfx t props).set "PoolID" (.string id)).base =
      poolBase .disk := by
    unfold setDiskPoolProps
    cases props.devPath <;> simp
  have htype := resTypeFromRasdClassname_pool (.inl rfl) hbase
  unfold Taken
  rw [htype]
  dsimp only
  rw [if_pos hbase]
  unfold getPoolProperties poolRasdOf
  dsimp only
  rw [htype]
  -- one of each type of pool
  simp only [diskPoolProps, List.mem_cons, List.not_mem_nil, or_false] at hprops
  obtain rfl | rfl | rfl | rfl | rfl | rfl | rfl := hprops
  · exact ⟨_, rfl⟩
  · exact ⟨_, rfl⟩
  · exact ⟨_, rfl⟩
  · exact ⟨_, rfl⟩
  · exact ⟨_, rfl⟩
  · exact ⟨_, rfl⟩
  · exact ⟨_, rfl⟩

theorem taken_newVolume_iff (path units : Option String) :
    Taken host domtype ((newVolumeInst pfx t path units).set "PoolID" (.string id)) ↔
      path.isSome := by
  have htype : resTypeFromRasdClassname
      ((newVolumeInst pfx t path units).set "PoolID" (.string id)) = some .image := by
    unfold resTypeFromRasdClassname newVolumeInst
    simp only [Instance.base_set, Instance.base_setChars]
    rfl
  unfold Taken
  rw [htype]
  dsimp only
  unfold rasdToRes
  rw [htype]
  -- a new volume without a path is refused by rasd_to_res
  cases path with
  | none =>
    refine iff_of_false ?_ (by simp)
    rintro ⟨vol, hvol, -⟩
    cases units <;> cases hvol
  | some path =>
    refine iff_of_true ?_ rfl
    cases units
    · exact ⟨_, rfl, rfl⟩
    · exact ⟨_, rfl, rfl⟩

end Pools

/-! ### All templates -/

section All

variable {sdc : SdcHost} {host : Host} {domtype : DomainType} {pfx id : String} {t : SdcRasdType}

theorem getStr_set_poolID (inst : Instance) {name : String} (hname : name ≠ "PoolID") :
    (inst.set "PoolID" (.string id)).getStr name = inst.getStr name := by
  unfold Instance.getStr
  rw [Instance.get_set, if_neg hname]

theorem template_net_iff {inst : Instance} (hid : (nameFromPoolId id).isSome)
    (h : inst ∈ (netDevOrPoolTemplate sdc pfx t id).items) :
    Taken host domtype (inst.set "PoolID" (.string id)) ↔
      Usable host domtype (inst.set "PoolID" (.string id)) := by
  unfold netDevOrPoolTemplate netPoolTemplate netTemplate at h
  split at h
  · cases h
  · split at h
    -- a pool template
    · obtain ⟨forwardMode, hmode, hinst⟩ := List.mem_flatMap.mp h
      have hmode : forwardMode = 0 ∨ forwardMode = 1 ∨ forwardMode = 2 := by
        simpa using hmode
      obtain ⟨forwardDevice, rfl⟩ : ∃ forwardDevice,
          inst = netPoolProps pfx t forwardMode forwardDevice := by
        unfold setNetPoolProps at hinst
        split at hinst
        · exact ⟨false, List.mem_singleton.mp hinst⟩
        · obtain hinst | hinst := List.mem_pair.mp hinst
          · exact ⟨false, hinst⟩
          · exact ⟨true, hinst⟩
      have hbase : ((netPoolProps pfx t forwardMode forwardDevice).set "PoolID"
          (.string id)).base = poolBase .net := by
        simp [netPoolProps]
      refine iff_of_true (taken_netPool pfx id t hmode forwardDevice) ?_
      unfold Usable
      rw [resTypeFromRasdClassname_pool (.inr rfl) hbase]
      exact .inl hbase
    -- an interface template
    · split at h
      · cases h
      · next amounts hamounts =>
        obtain ⟨props, hprops, rfl⟩ := List.mem_map.mp h
        have hbase : ((setNetProps pfx t amounts props).set "PoolID" (.string id)).base =
            baseOfKind .net := by
          simp [setNetProps]
        rw [taken_net_iff pfx id t amounts hprops hid]
        unfold Usable
        rw [resTypeFromRasdClassname_device hbase]
        dsimp only
        rw [hbase, or_iff_right (by decide)]

theorem template_setDiskProps_iff {diskDomain : DomainType}
    (hdomain : domtype = .lxc ↔ diskDomain = .lxc) (tid diskPath : String) (diskSize : UInt64)
    {emuType : UInt16} (hemu : emuType = 0 ∨ emuType = 1 ∨ emuType = 2) (readonly shareable : Bool)
    (cache : String) :
    Taken host domtype ((setDiskProps pfx diskDomain tid diskPath diskSize emuType readonly
        shareable cache).set "PoolID" (.string id)) ↔
      Usable host domtype ((setDiskProps pfx diskDomain tid diskPath diskSize emuType readonly
        shareable cache).set "PoolID" (.string id)) := by
  have hbase : ((setDiskProps pfx diskDomain tid diskPath diskSize emuType readonly shareable
      cache).set "PoolID" (.string id)).base = baseOfKind .disk := by
    unfold setDiskProps
    by_cases hlxc : diskDomain = .lxc <;> simp [hlxc]
  have haddress : ((setDiskProps pfx diskDomain tid diskPath diskSize emuType readonly shareable
      cache).set "PoolID" (.string id)).getStr "Address" = some diskPath := by
    unfold setDiskProps
    by_cases hlxc : diskDomain = .lxc <;> simp [Instance.getStr, hlxc]
  rw [taken_disk_iff pfx id hdomain tid diskPath diskSize hemu readonly shareable cache]
  unfold Usable
  rw [resTypeFromRasdClassname_device hbase]
  have hpool : baseOfKind .disk ≠ poolBase .disk := by decide
  dsimp only
  rw [hbase, or_iff_right hpool, haddress]
  -- the file system of a container needs nothing of the host
  by_cases hlxc : domtype = .lxc
  · exact iff_of_true (.inl hlxc) (.inl hlxc)
  · have hdisk : diskDomain ≠ .lxc := fun heq => hlxc (hdomain.mpr heq)
    have htype : ((setDiskProps pfx diskDomain tid diskPath diskSize emuType readonly shareable
        cache).set "PoolID" (.string id)).getU16 "EmulatedType" = some emuType := by
      simp [Instance.getU16, setDiskProps, hdisk]
    rw [htype]
    simp

theorem template_newVolume_iff (path units : Option String) :
    Taken host domtype ((newVolumeInst pfx t path units).set "PoolID" (.string id)) ↔
      Usable host domtype ((newVolumeInst pfx t path units).set "PoolID" (.string id)) := by
  have htype : resTypeFromRasdClassname
      ((newVolumeInst pfx t path units).set "PoolID" (.string id)) = some .image := by
    unfold resTypeFromRasdClassname newVolumeInst
    simp only [Instance.base_set, Instance.base_setChars]
    rfl
  have hpath : ((newVolumeInst pfx t path units).set "PoolID" (.string id)).getStr "Path" =
      path := by
    cases path <;> simp [Instance.getStr, newVolumeInst]
    rfl
  rw [taken_newVolume_iff]
  unfold Usable
  rw [htype]
  dsimp only
  rw [hpath]

/-- The domain of a disk is no container where the domain is none. -/
theorem diskDomain_iff (hdomain : domtype = .lxc ↔ pfx = "LXC") {domtypes : List DomainType}
    (hdomains : diskDomains pfx = some domtypes) {diskDomain : DomainType}
    (h : diskDomain ∈ domtypes) : domtype = .lxc ↔ diskDomain = .lxc := by
  -- neither side holds: a container has no list of disk domains
  refine iff_of_false ?_ ?_
  · intro hlxc
    rw [hdomain.mp hlxc] at hdomains
    cases hdomains
  · unfold diskDomains at hdomains
    split_ifs at hdomains
    · cases hdomains
      revert h
      revert diskDomain
      decide
    · cases hdomains
      revert h
      revert diskDomain
      decide

theorem template_cdromOrFloppy_iff (hdomain : domtype = .lxc ↔ pfx = "LXC") {emuType : UInt16}
    (hemu : emuType = 0 ∨ emuType = 1 ∨ emuType = 2) {inst : Instance}
    (h : inst ∈ (cdromOrFloppyTemplate pfx t emuType).items) :
    Taken host domtype (inst.set "PoolID" (.string id)) ↔
      Usable host domtype (inst.set "PoolID" (.string id)) := by
  unfold cdromOrFloppyTemplate at h
  dsimp only at h
  split at h
  · next domtypes hdomains =>
    obtain ⟨diskDomain, hmem, rfl⟩ := List.mem_map.mp h
    exact template_setDiskProps_iff (diskDomain_iff hdomain hdomains hmem) _ _ _ hemu _ _ _
  · split at h
    · cases h
    · cases h

theorem template_volume_iff (hdomain : domtype = .lxc ↔ pfx = "LXC") {storage : StorageView}
    {volname : String} {inst : Instance} (h : inst ∈ (volumeTemplate pfx t storage volname).items) :
    Taken host domtype (inst.set "PoolID" (.string id)) ↔
      Usable host domtype (inst.set "PoolID" (.string id)) := by
  -- every failure on the way leaves no template
  unfold volumeTemplate availVolumeTemplate at h
  split at h
  · cases h
  · split at h
    · cases h
    · split at h
      · cases h
      · split at h
        · next domtypes hdomains =>
          obtain ⟨diskDomain, hmem, rfl⟩ := List.mem_map.mp h
          exact template_setDiskProps_iff (diskDomain_iff hdomain hdomains hmem) _ _ _ (.inl rfl)
            _ _ _
        · cases h

theorem template_disk_iff (hdomain : domtype = .lxc ↔ pfx = "LXC") {inst : Instance}
    (h : inst ∈ (diskTemplate sdc pfx t id).items) :
    Taken host domtype (inst.set "PoolID" (.string id)) ↔
      Usable host domtype (inst.set "PoolID" (.string id)) := by
  -- with and without units, the new volume only differs in that property
  have hnew {storage : StorageView} {units : Option String}
      (h : inst ∈ (newVolumeTemplateOf pfx t storage units).items) :
      Taken host domtype (inst.set "PoolID" (.string id)) ↔
        Usable host domtype (inst.set "PoolID" (.string id)) := by
    unfold newVolumeTemplateOf at h
    split at h
    · cases h
    · split at h
      · rw [List.mem_singleton.mp h]
        exact template_newVolume_iff _ _
      · cases h
  unfold diskTemplate at h
  split at h
  -- a container's pool has the one template
  · next hlxc =>
    rw [List.mem_singleton.mp h]
    exact template_setDiskProps_iff (iff_of_true (hdomain.mpr hlxc) rfl) _ _ _ (.inl rfl) _ _ _
  · split at h
    · cases h
    · split at h
      · cases h
      -- the new volumes first, then the existing ones, then the drives
      · unfold storageTemplate newVolumeTemplate at h
        obtain himages | hrest := mem_items_andThen h
        · obtain hplain | hunits := mem_items_andThen himages
          · exact hnew hplain
          · exact hnew hunits
        · split at hrest
          · cases hrest
          · obtain hvolumes | hdrives := mem_items_andThen hrest
            · obtain ⟨volname, -, hvolume⟩ := exists_of_mem_forEach hvolumes
              exact template_volume_iff hdomain hvolume
            · obtain hcdrom | hfloppy := mem_items_andThen hdrives
              · exact template_cdromOrFloppy_iff hdomain (.inr (.inl rfl)) hcdrom
              · exact template_cdromOrFloppy_iff hdomain (.inr (.inr rfl)) hfloppy

theorem template_diskRes_iff (hdomain : domtype = .lxc ↔ pfx = "LXC") {inst : Instance}
    (h : inst ∈ (diskResTemplate sdc pfx t id).items) :
    Taken host domtype (inst.set "PoolID" (.string id)) ↔
      Usable host domtype (inst.set "PoolID" (.string id)) := by
  unfold diskResTemplate at h
  split at h
  · cases h
  · split at h
    -- the templates of the disk pool itself
    · obtain ⟨props, hprops, rfl⟩ := List.mem_map.mp h
      have hbase : ((setDiskPoolProps pfx t props).set "PoolID" (.string id)).base =
          poolBase .disk := by
        unfold setDiskPoolProps
        cases props.devPath <;> simp
      refine iff_of_true (taken_diskPool pfx id t hprops) ?_
      unfold Usable
      rw [resTypeFromRasdClassname_pool (.inl rfl) hbase]
      exact .inl hbase
    · exact template_disk_iff hdomain h

/-- The id of a pool that is found has a name. -/
theorem isSome_nameFromPoolId {name : String} (h : scanPoolName id = some name) :
    (nameFromPoolId id).isSome := by
  unfold scanPoolName at h
  obtain ⟨⟨first, rest⟩, hfirst, h⟩ := Option.bind_eq_some_iff.mp h
  obtain ⟨rest', hrest, -⟩ := Option.bind_eq_some_iff.mp h
  rw [scanUpTo_eq] at hfirst
  split_ifs at hfirst
  obtain ⟨-, rfl⟩ := Prod.mk.inj (Option.some.inj hfirst)
  unfold nameFromPoolId
  generalize id.toList.dropWhile (fun c => decide (c ≠ '/')) = rest at hrest
  cases rest with
  | nil => cases hrest
  | cons c rest => rfl

/-- **Which templates are taken** when they are handed in as they are. There is a lemma for each
kind, which computes the properties of the template and puts them through the translator; `Usable`
collects what these need of the host and of the guest. -/
theorem template_taken_iff (sdc : SdcHost) (host : Host) (domtype : DomainType) (pfx id : String)
    (hdomain : domtype = .lxc ↔ pfx = "LXC") {inst : Instance}
    (h : inst ∈ (allocCapToRasd sdc pfx id).items) :
    Taken host domtype inst ↔ Usable host domtype inst := by
  unfold allocCapToRasd at h
  -- no capabilities with this id, no templates
  cases hcap : getAllocCapById sdc id with
  | none =>
    rw [hcap] at h
    cases h
  | some pool =>
    obtain ⟨hkind, hname⟩ :=
      kind_and_name_of_getPoolByName (getPoolByName_of_getAllocCapById hcap)
    rw [hcap] at h
    dsimp only at h
    rw [hkind] at h
    dsimp only [items_map] at h
    obtain ⟨inst, hmem, rfl⟩ := List.mem_map.mp h
    -- each label is templated alike, so one of them is enough
    obtain ⟨t, -, hmem⟩ := exists_of_mem_forEach hmem
    -- by the kind of the pool, as in sdc_rasds_for_type
    cases hpool : pool.kind with
    -- a memory template is taken by every guest
    | mem =>
      rw [hpool] at hmem
      rw [List.mem_singleton.mp hmem]
      exact iff_of_true (taken_mem sdc pfx id t) trivial
    | proc =>
      rw [hpool] at hmem
      rw [List.mem_singleton.mp hmem, taken_proc_iff]
      have hbase : ((procTemplate sdc pfx t).set "PoolID" (.string id)).base =
          baseOfKind .proc := by
        unfold procTemplate
        dsimp only
        split_ifs <;> rfl
      unfold Usable
      rw [resTypeFromRasdClassname_device hbase]
    | net =>
      rw [hpool] at hmem
      exact template_net_iff (isSome_nameFromPoolId hname) hmem
    | disk =>
      rw [hpool] at hmem
      exact template_diskRes_iff hdomain hmem
    | graphics =>
      rw [hpool] at hmem
      -- the base is the same for each of the five
      have hbase : (inst.set "PoolID" (.string id)).base = baseOfKind .graphics := by
        obtain ⟨⟨type, i, js⟩, -, hinst⟩ := List.mem_flatMap.mp hmem
        obtain ⟨j, -, rfl⟩ := List.mem_map.mp hinst
        simp [setGraphicsProps]
      rw [taken_graphics_iff pfx id t hmem]
      unfold Usable
      rw [resTypeFromRasdClassname_device hbase]
      dsimp only
      rw [getStr_set_poolID _ (by decide)]
    | input =>
      rw [hpool] at hmem
      change inst ∈ (inputTemplate pfx t).items at hmem
      unfold inputTemplate at hmem
      split at hmem
      · obtain ⟨⟨type, bus, caption⟩, -, rfl⟩ := List.mem_map.mp hmem
        exact iff_of_true (taken_input pfx id t type bus caption) trivial
      · cases hmem
    -- controllers and consoles have no pool
    | controller =>
      rw [hpool] at hmem
      cases hmem
    | console =>
      rw [hpool] at hmem
      cases hmem

/-- The default display at an address that is none. -/
def flagDisplay : Instance :=
  (setGraphicsProps "KVM" .default "vnc" (some "True")).set "PoolID" (.string "GraphicsPool/0")

/-- A host that knows no file. -/
def blindHost : Host where
  diskTypeFromFile _ := .unknown
  netRandMac := none
  defaultNetwork := none

theorem template_taken_flag :
    Taken blindHost .kvm flagDisplay ↔ Usable blindHost .kvm flagDisplay :=
  template_taken_iff imagesHost blindHost .kvm "KVM" "GraphicsPool/0" (by decide)
    (by decide +kernel)

end All

end LibvirtCim.SettingsDefineCapabilities
