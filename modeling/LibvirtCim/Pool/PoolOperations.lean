import LibvirtCim.Pool.DevicePool
import LibvirtCim.Pool.PoolSettings
import Mathlib.Data.Finset.Basic

/-!
# Operations on pools and volumes

The methods of `Virt_ResourcePoolConfigurationService.c` that change something:
`CreateChildResourcePool`, `DeleteResourcePool`, `CreateResourceInPool` and
`DeleteResourceInPool`, with `define_pool`, `destroy_pool`, `create_resource` and
`delete_resource` of `pool_parsing.c`. What they change is a `PoolState`: the pools that are
defined, those that run, and the volumes.

Each operation is summed up by what it leaves (`definePool_eq`, `destroyPool_eq`). The answer
tells the truth (`tellsTruth_iff`) unless a step behind the one that changes something fails:
the look-up of a pool that runs already, the definition of a pool that does not run any more,
the path of a volume that is there already. The deletion of a volume returns -1 where its caller
tests for zero.
-/

open Framework LibvirtCim.Device LibvirtCim.Rasd

namespace LibvirtCim.Pool

/-! ### What is changed, and by what -/

/-- A pool of libvirt: its type and its name. -/
abbrev PoolKey := DevKind × String

/-- What there is on a host. -/
structure PoolState where
  defined : Finset PoolKey
  running : Finset PoolKey
  volumes : Finset String

/-- What a request meets: what the calls of libvirt and of the broker answer. -/
structure PoolCalls where
  /-- `connect_by_classname`, which may have no connection and a status that is fine -/
  connect : Except CmpiStatus Unit
  /-- what `get_pool_by_name` sees before and after, if it has a connection -/
  before : Option PoolView
  after : Option PoolView
  /-- `cu_validate_ref` -/
  validateRef : String → String → Bool
  nodeContent : String → List Node
  /-- `virNetworkDefineXML`, `virStoragePoolDefineXML` -/
  defineXML : Bool
  /-- `virNetworkCreate`, `virStoragePoolCreate` -/
  create : Bool
  /-- `virNetworkLookupByName`, `virStoragePoolLookupByName` -/
  lookup : Bool
  /-- `virNetworkDestroy`, `virStoragePoolDestroy` -/
  destroy : Bool
  /-- `virNetworkUndefine`, `virStoragePoolUndefine` -/
  undefine : Bool
  /-- `virStorageVolCreateXML`: the path of the volume -/
  volCreate : Option String
  /-- `virStorageVolGetPath` -/
  volGetPath : Bool
  /-- `virStorageVolLookupByPath` -/
  volLookup : Bool
  /-- `virStorageVolDelete` -/
  volDelete : Bool
  /-- `get_typed_instance` -/
  typedInstance : Bool
  /-- `CMGetObjectPath` -/
  objectPath : CmpiStatus

variable (calls : PoolCalls)

/-- A pool is defined. The document has no uuid, so that a name that is taken is refused. -/
def virDefineXML (key : PoolKey) (s : PoolState) : Bool × PoolState :=
  if calls.defineXML ∧ key ∉ s.defined ∧ key ∉ s.running then
    (true, { s with defined := insert key s.defined })
  else (false, s)

/-- A pool is started. -/
def virCreate (key : PoolKey) (s : PoolState) : Bool × PoolState :=
  if calls.create then (true, { s with running := insert key s.running }) else (false, s)

/-- A pool is stopped, if it runs. -/
def virDestroy (key : PoolKey) (s : PoolState) : Bool × PoolState :=
  if calls.destroy ∧ key ∈ s.running then (true, { s with running := s.running.erase key })
  else (false, s)

/-- A pool is undefined, if it is defined: one that is not is gone when it stops. -/
def virUndefine (key : PoolKey) (s : PoolState) : Bool × PoolState :=
  if calls.undefine ∧ key ∈ s.defined then (true, { s with defined := s.defined.erase key })
  else (false, s)

/-- A pool is looked up. -/
def virLookup (key : PoolKey) (s : PoolState) : Bool :=
  calls.lookup && (key ∈ s.defined || key ∈ s.running)

/-- A volume is created, with a path of its own. -/
def virVolCreate (s : PoolState) : Option String × PoolState :=
  match calls.volCreate with
  | none => (none, s)
  | some path =>
    if path ∈ s.volumes then (none, s)
    else (some path, { s with volumes := insert path s.volumes })

/-- A volume is deleted. -/
def virVolDelete (path : String) (s : PoolState) : Bool × PoolState :=
  if calls.volDelete then (true, { s with volumes := s.volumes.erase path }) else (false, s)

/-- An error with its message. -/
abbrev Refusal := CmpiErr × String

/-! ### Pools -/

/-- The name libvirt reads in a document. -/
def documentName (xml : Node) : String :=
  (xml.childText "name").getD ""

/-- The type of the pool that is described, of the two that there are. -/
def infoKind : PoolInfo → Option DevKind
  | .net _ => some .net
  | .disk _ => some .disk
  | .other => none

/-- `define_pool`. Whether the pool is started with the host is set last, and not asked for. -/
def definePool (xml : Node) (info : PoolInfo) (s : PoolState) : Bool × PoolState :=
  match infoKind info with
  | none => (true, s)
  | some kind =>
    let key := (kind, documentName xml)
    match virDefineXML calls key s with
    | (false, s) => (false, s)
    | (true, s) =>
      match virCreate calls key s with
      | (true, s) => (true, s)
      | (false, s) => (false, (virUndefine calls key s).2)

/-- `destroy_pool`. -/
def destroyPool (key : PoolKey) (s : PoolState) : Bool × PoolState :=
  if key.1 = .net ∨ key.1 = .disk then
    if virLookup calls key s then
      match virDestroy calls key s with
      | (false, s) => (false, s)
      | (true, s) => virUndefine calls key s
    else (false, s)
  else (false, s)

/-- `rasd_to_vpool`. -/
def rasdToVpool (rasd : PoolRasd) : RasdType → Except String PoolInfo
  | .dev .net => .net <$> netRasdToPool rasd.inst
  | .dev .disk => (fun pool => .disk pool.1) <$> diskRasdToPool rasd
  | _ => .error "Resource type not supported on this platform"

/-- `get_pool_properties`: the first setting counts. -/
def getPoolProperties : List (Option PoolRasd) → Except String PoolInfo
  | [] => .error "No resources specified"
  | none :: _ => .error "Internal array error"
  | some rasd :: _ =>
    match resTypeFromRasdClassname rasd.inst with
    | none => .error "Unable to determine resource type"
    | some type => rasdToVpool rasd type

/-- The arguments of `CreateChildResourcePool`. -/
structure CreatePoolArgs where
  elementName : Option String
  settings : Option (List (Option PoolRasd))

/-- `get_pool_by_name`, with what is seen. -/
def poolSeen (view : Option PoolView) (id : String) : Bool :=
  (view.bind (getPoolByName · id)).isSome

/-- `create_child_pool` up to the document: it, the pool, and the id of the pool. -/
def childPoolXml (args : CreatePoolArgs) : Except Refusal (Node × PoolInfo × String) := do
  let some settings := args.settings
    | .error (.invalidParameter, "Missing argument `Settings'")
  let name := args.elementName.getD "libvirt-cim-pool"
  let info ← (getPoolProperties settings).mapError fun msg => (.failed, s!"Settings Error: {msg}")
  let fullId := getPoolId ((infoKind info).getD .console) name
  if poolSeen calls.before fullId then .error (.failed, "Pool with that name already exists")
  else
    let xml ← (poolToXml calls.nodeContent { info, id := some name }).mapError fun _ =>
      (.failed, "Unable to generate XML for resource pool")
    .ok (xml, info, fullId)

/-- What is returned when there is no connection and the caller looks at what it got. -/
def withoutConnection (msg : String) : CmpiStatus → CmpiStatus
  | .ok => .failed msg
  | .error rc told => .error rc told

/-- `create_child_pool` with `connect_and_create`. The path of the instance that is made is an
argument of the answer, and nothing more depends on it. -/
def createChildPool (args : CreatePoolArgs) (s : PoolState) : Option CmpiStatus × PoolState :=
  match childPoolXml calls args with
  | .error (rc, msg) => (some (.error rc msg), s)
  | .ok (xml, info, fullId) =>
    match calls.connect with
    | .error status => (some (withoutConnection "Unable to create resource pool" status), s)
    | .ok () =>
      match definePool calls xml info s with
      | (false, s) => (some (.failed "Unable to create resource pool"), s)
      | (true, s) =>
        if poolSeen calls.after fullId then (some .ok, s)
        else (some (.failed "Failed to lookup resulting pool"), s)

/-- The argument `Pool` of a request: the class and the `InstanceID` of the reference. -/
structure PoolRef where
  classname : String
  instanceId : Option String

/-- `delete_pool` up to the connection: the pool that is to be removed. -/
def poolToDelete (pool : Option PoolRef) : Except Refusal PoolKey := do
  let some ref := pool | .error (.invalidParameter, "Missing argument `Pool'")
  let some _ := calls.before.bind fun view =>
      getPoolByRef view calls.validateRef ref.classname ref.instanceId
    | .error (.failed, "Resource pool instance does not exist")
  let some poolid := ref.instanceId | .error (.failed, "Missing InstanceID in pool reference")
  let some name := nameFromPoolId poolid
    | .error (.invalidParameter, "Pool has invalid InstanceID")
  let some type := resTypeFromPoolClassname ref.classname
    | .error (.failed, "Unable to determine resource type of pool")
  .ok (type, name)

/-- `delete_pool` with `_delete_pool`. -/
def deletePool (pool : Option PoolRef) (s : PoolState) : Option CmpiStatus × PoolState :=
  match poolToDelete calls pool with
  | .error (rc, msg) => (some (.error rc msg), s)
  | .ok key =>
    match calls.connect with
    | .error _ => (some (.failed "Unable to connect to hypervisor"), s)
    | .ok () =>
      match destroyPool calls key s with
      | (true, s) => (some .ok, s)
      | (false, s) =>
        (some (.failed "Storage pool deletion error: Unable to destroy resource pool"), s)

/-! ### Volumes -/

/-- `VOL_FORMAT_*`. -/
def volFormatTypeToStr (type : UInt16) : Option String :=
  if type = 1 then some "raw" else if type = 2 then some "qcow2" else none

/-- `struct storage_vol`. -/
structure StorageVol where
  formatType : UInt16
  volName : String
  path : String
  alloc : UInt16 := 0
  cap : UInt16
  capUnits : Option String

/-- `storage_vol_rasd_to_res`. -/
def storageVolRasdToRes (inst : Instance) : Except String StorageVol := do
  let some formatType := inst.getU16 "FormatType"
    | .error "StorageVolumeRASD FormatType field not valid"
  let some volName := inst.getStr "VolumeName"
    | .error "StorageVolumeRASD VolumeName field not valid"
  let some path := inst.getStr "Path" | .error "StorageVolumeRASD Path field not valid"
  let some cap := inst.getU16 "Capacity"
    | .error "StorageVolumeRASD Capacity field not valid"
  .ok {
    formatType, volName, path, cap
    alloc := (inst.getU16 "AllocationQuantity").getD 0
    capUnits := inst.getStr "AllocationUnits" }

/-- `rasd_to_res`. -/
def rasdToRes (inst : Instance) : Except String StorageVol :=
  match resTypeFromRasdClassname inst with
  | none => .error "Unable to get resource type"
  | some .image => storageVolRasdToRes inst
  | some (.dev _) => .error "This function does not support this resource type"

/-- `storage_vol_xml`. The unit is set twice, the first time on an element that is not there
yet. -/
def storageVolXml (vol : StorageVol) : Except String Node :=
  match volFormatTypeToStr vol.formatType with
  | none => .error xmlError
  | some type =>
    .ok (.elem "volume" [] [
      xmlNewChild calls.nodeContent "name" (some vol.volName),
      xmlNewChild calls.nodeContent "allocation" (some vol.alloc.toNat.repr),
      .elem "capacity" (optProp "unit" vol.capUnits) (calls.nodeContent vol.cap.toNat.repr),
      .elem "target" [] [
        xmlNewChild calls.nodeContent "path" (some vol.path),
        .elem "format" (prop "type" type) []]])

/-- The arguments of `CreateResourceInPool` and of `DeleteResourceInPool`. -/
structure ResourceArgs where
  settings : Option Instance
  pool : Option PoolRef

/-- `create_resource_in_pool` up to the document: it and the name of the pool. -/
def resourceXml (args : ResourceArgs) : Except Refusal (Node × String) := do
  let some settings := args.settings
    | .error (.invalidParameter, "Missing argument `Settings'")
  let some ref := args.pool | .error (.invalidParameter, "Missing argument `Pool'")
  let vol ← (rasdToRes settings).mapError fun msg =>
    (.failed, s!"Unable to get attributes for resource: {msg}")
  let some id := ref.instanceId | .error (.failed, "Missing InstanceID in resource pool")
  let some poolId := nameFromPoolId id
    | .error (.invalidParameter, "Pool has invalid InstanceID")
  let xml ← (storageVolXml calls vol).mapError fun _ =>
    (.failed, "Unable to generate XML for new resource")
  .ok (xml, poolId)

/-- `create_resource`, for the one type of resource there is: the path, or none. -/
def createResource (pname : String) (s : PoolState) : Option String × PoolState :=
  if virLookup calls (.disk, pname) s then
    match virVolCreate calls s with
    | (none, s) => (none, s)
    | (some path, s) => if calls.volGetPath then (some path, s) else (none, s)
  else (none, s)

/-- `create_resource_in_pool` with `connect_and_create_res`, which sets a property of the
instance also where there is none. -/
def createResourceInPool (args : ResourceArgs) (s : PoolState) : Option CmpiStatus × PoolState :=
  match resourceXml calls args with
  | .error (rc, msg) => (some (.error rc msg), s)
  | .ok (_, poolId) =>
    match calls.connect with
    | .error status => (some (withoutConnection "Unable to create new resource" status), s)
    | .ok () =>
      match createResource calls poolId s with
      | (none, s) => (some (.failed "Unable to create storage volume"), s)
      | (some _, s) =>
        if calls.typedInstance then (some calls.objectPath, s) else (none, s)

/-- `delete_resource`: one if the volume is deleted, zero if there is none, and the result of
libvirt if it is not deleted. -/
def deleteResource (rname : String) (type : RasdType) (s : PoolState) : ℤ × PoolState :=
  if type = .image then
    if calls.volLookup ∧ rname ∈ s.volumes then
      match virVolDelete calls rname s with
      | (true, s) => (1, s)
      | (false, s) => (-1, s)
    else (0, s)
  else (0, s)

/-- `delete_resource_in_pool` up to the connection: the path and the type of the resource. -/
def resourceToDelete (args : ResourceArgs) : Except Refusal (String × RasdType) := do
  let some resource := args.settings
    | .error (.invalidParameter, "Missing argument `Resource'")
  let some _ := args.pool | .error (.invalidParameter, "Missing argument `Pool'")
  if calls.objectPath = .ok then
    let some type := resTypeFromRasdClassname resource
      | .error (.failed, "Unable to get resource type")
    let some id := resource.getStr "Address"
      | .error (.failed, "Missing Address in resource RASD")
    .ok (id, if type = .dev .disk then .image else type)
  else .error (.failed, "Unable to get ObjectPath of Resource instance")

/-- `delete_resource_in_pool`. -/
def deleteResourceInPool (args : ResourceArgs) (s : PoolState) : Option CmpiStatus × PoolState :=
  match resourceToDelete calls args with
  | .error (rc, msg) => (some (.error rc msg), s)
  | .ok (id, type) =>
    match calls.connect with
    | .error _ => (some (.failed "libvirt connection failed"), s)
    | .ok () =>
      match deleteResource calls id type s with
      | (rc, s) => if rc = 0 then (some (.failed "Unable to delete resource"), s) else (some .ok, s)

/-! ### Requests -/

/-- The requests. -/
inductive PoolRequest
  | createPool (args : CreatePoolArgs)
  | deletePool (pool : Option PoolRef)
  | createResource (args : ResourceArgs)
  | deleteResource (args : ResourceArgs)

/-- The status of a request, or none when the process has crashed, and what it leaves. -/
def PoolRequest.run (s : PoolState) : PoolRequest → Option CmpiStatus × PoolState
  | .createPool args => createChildPool calls args s
  | .deletePool pool => Pool.deletePool calls pool s
  | .createResource args => createResourceInPool calls args s
  | .deleteResource args => deleteResourceInPool calls args s

/-- The return code: `CIM_SVPC_RETURN_COMPLETED` or `CIM_SVPC_RETURN_FAILED`. -/
def returnCode (status : CmpiStatus) : ℕ :=
  if status = .ok then 0 else 2

/-! ### The truth -/

/-- The pool is defined and runs. -/
def PoolState.withPool (s : PoolState) (key : PoolKey) : PoolState :=
  { s with defined := insert key s.defined, running := insert key s.running }

/-- The pool is gone. -/
def PoolState.withoutPool (s : PoolState) (key : PoolKey) : PoolState :=
  { s with defined := s.defined.erase key, running := s.running.erase key }

/-- The pool a request describes. -/
def describedPool (args : CreatePoolArgs) : Option PoolKey :=
  match childPoolXml calls args with
  | .error _ => none
  | .ok (xml, info, _) => (infoKind info).map fun kind => (kind, documentName xml)

/-- What was asked for is done: the pool is defined and started, or removed, the volume is there,
or deleted. -/
def PoolRequest.Done (s t : PoolState) : PoolRequest → Prop
  | .createPool args => ∃ key, describedPool calls args = some key ∧ key ∉ s.defined ∧
      t = s.withPool key
  | .deletePool pool => ∃ key, poolToDelete calls pool = .ok key ∧
      (key ∈ s.defined ∨ key ∈ s.running) ∧ t = s.withoutPool key
  | .createResource _ => ∃ path, path ∉ s.volumes ∧
      t = { s with volumes := insert path s.volumes }
  | .deleteResource args => ∃ path, (args.settings.bind (·.getStr "Address")) = some path ∧
      path ∈ s.volumes ∧ t = { s with volumes := s.volumes.erase path }

/-- What is to undo a change does so: a pool that is defined and does not start is undefined
again. -/
def PoolRequest.UndoSucceeds : PoolRequest → Prop
  | .createPool _ => calls.create = false → calls.undefine = true
  | .deletePool _ | .createResource _ | .deleteResource _ => True

/-- **The answer tells the truth**: the completed code and a status that is fine if and only if
what was asked for is done, and with an error nothing is changed, unless what was to undo a
change has failed. -/
def TellsTruth (request : PoolRequest) (s : PoolState) : Prop :=
  ((request.run calls s).1.map (fun status => (returnCode status, status)) = some (0, .ok) ↔
      request.Done calls s (request.run calls s).2) ∧
    (request.UndoSucceeds calls → (∃ rc msg, (request.run calls s).1 = some (.error rc msg)) →
      (request.run calls s).2 = s)

/-- What comes behind the step that does what is asked for goes well too: the pool that was
started is found, the pool that was stopped is defined and is undefined, the volume that was
created gives its path, its instance is made and has a path, and the volume that is there is
deleted. -/
def PoolRequest.Untroubled (s : PoolState) : PoolRequest → Prop
  | .createPool args => ∀ xml info id key, childPoolXml calls args = .ok (xml, info, id) →
      describedPool calls args = some key → calls.connect = .ok () → calls.defineXML = true →
        key ∉ s.defined → key ∉ s.running → calls.create = true → poolSeen calls.after id = true
  | .deletePool pool => ∀ key, poolToDelete calls pool = .ok key → calls.connect = .ok () →
      (key.1 = .net ∨ key.1 = .disk) → calls.lookup = true → calls.destroy = true →
        key ∈ s.running → calls.undefine = true ∧ key ∈ s.defined
  | .createResource args => ∀ xml poolId path, resourceXml calls args = .ok (xml, poolId) →
      calls.connect = .ok () → virLookup calls (.disk, poolId) s = true →
        calls.volCreate = some path → path ∉ s.volumes →
          calls.volGetPath = true ∧ calls.typedInstance = true ∧ calls.objectPath = .ok
  | .deleteResource args => ∀ path, resourceToDelete calls args = .ok (path, .image) →
      calls.connect = .ok () → calls.volLookup = true → path ∈ s.volumes →
        calls.volDelete = true

variable {calls}

/-! ### Answers -/

theorem completed_iff (status : Option CmpiStatus) :
    status.map (fun status => (returnCode status, status)) = some (0, .ok) ↔
      status = some .ok := by
  cases status with
  | none => simp
  | some status =>
    cases status with
    | ok => simp [returnCode]
    | error rc msg => simp [returnCode]

theorem withoutConnection_eq_error (msg : String) (status : CmpiStatus) :
    ∃ rc told, withoutConnection msg status = .error rc told := by
  cases status with
  | ok => exact ⟨_, _, rfl⟩
  | error rc told => exact ⟨rc, told, rfl⟩

theorem PoolState.withPool_ne {s : PoolState} {key : PoolKey} (h : key ∉ s.defined) :
    s.withPool key ≠ s := by
  intro heq
  apply h
  rw [← congrArg PoolState.defined heq]
  exact Finset.mem_insert_self key s.defined

theorem PoolState.withoutPool_ne {s : PoolState} {key : PoolKey}
    (h : key ∈ s.defined ∨ key ∈ s.running) : s.withoutPool key ≠ s := by
  intro heq
  obtain hdefined | hrunning := h
  · rw [← congrArg PoolState.defined heq] at hdefined
    exact absurd hdefined (Finset.notMem_erase key s.defined)
  · rw [← congrArg PoolState.running heq] at hrunning
    exact absurd hrunning (Finset.notMem_erase key s.running)

/-- **Nothing was changed and an error is told.** -/
theorem tellsTruth_of_error {request : PoolRequest} {s : PoolState} {rc : CmpiErr} {msg : String}
    (hrun : request.run calls s = (some (.error rc msg), s))
    (hdone : ¬ request.Done calls s s) : TellsTruth calls request s := by
  unfold TellsTruth
  rw [hrun, completed_iff]
  refine ⟨⟨fun h => by simp at h, fun h => absurd h hdone⟩, fun _ _ => rfl⟩

/-- **What was asked for is done**, so that the truth is that it is completed. -/
theorem tellsTruth_iff_of_done {request : PoolRequest} {s t : PoolState}
    {status : Option CmpiStatus} (hrun : request.run calls s = (status, t))
    (hdone : request.Done calls s t) : TellsTruth calls request s ↔ status = some .ok := by
  unfold TellsTruth
  rw [hrun, completed_iff]
  constructor
  · intro h
    exact h.1.mpr hdone
  · intro hok
    refine ⟨iff_of_true hok hdone, ?_⟩
    rintro - ⟨rc, msg, herror⟩
    rw [hok] at herror
    cases herror

/-- Nothing is done when nothing is changed. -/
theorem not_done_self (request : PoolRequest) (s : PoolState) : ¬ request.Done calls s s := by
  cases request with
  | createPool args =>
    -- a key that was free is taken now
    rintro ⟨key, -, hkey, heq⟩
    exact PoolState.withPool_ne hkey heq.symm
  | deletePool pool =>
    -- and here one that was taken is free
    rintro ⟨key, -, hkey, heq⟩
    exact PoolState.withoutPool_ne hkey heq.symm
  | createResource args =>
    rintro ⟨path, hpath, heq⟩
    apply hpath
    rw [congrArg PoolState.volumes heq]
    exact Finset.mem_insert_self path s.volumes
  | deleteResource args =>
    rintro ⟨path, -, hpath, heq⟩
    rw [congrArg PoolState.volumes heq] at hpath
    exact absurd hpath (Finset.notMem_erase path s.volumes)

theorem tellsTruth_of_refused {request : PoolRequest} {s : PoolState} {rc : CmpiErr}
    {msg : String} (hrun : request.run calls s = (some (.error rc msg), s)) :
    TellsTruth calls request s :=
  tellsTruth_of_error hrun (not_done_self request s)

/-! ### Each request -/

/-- **What defining a pool leaves**: a pool that runs, or nothing if it can be undone. -/
theorem definePool_eq {info : PoolInfo} {kind : DevKind} (hkind : infoKind info = some kind)
    (xml : Node) (s : PoolState) : definePool calls xml info s =
      if calls.defineXML = true ∧ (kind, documentName xml) ∉ s.defined ∧
          (kind, documentName xml) ∉ s.running then
        if calls.create = true then (true, s.withPool (kind, documentName xml))
        else if calls.undefine = true then (false, s)
        else (false, { s with defined := insert (kind, documentName xml) s.defined })
      else (false, s) := by
  -- the pool is undefined again where it cannot be started
  unfold definePool virDefineXML
  rw [hkind]
  dsimp only
  split_ifs with hdefine hcreate hundefine
  · simp [virCreate, hcreate, PoolState.withPool]
  · simp [virCreate, hcreate, virUndefine, hundefine, Finset.erase_insert hdefine.2.1]
  -- left behind: defined, and not running
  · simp [virCreate, hcreate, virUndefine, hundefine]
  · rfl

/-- **What destroying a pool leaves**: no pool, or one that does not run any more. -/
theorem destroyPool_eq (key : PoolKey) (s : PoolState) : destroyPool calls key s =
    if (key.1 = .net ∨ key.1 = .disk) ∧ calls.lookup = true ∧ calls.destroy = true ∧
        key ∈ s.running then
      if calls.undefine = true ∧ key ∈ s.defined then (true, s.withoutPool key)
      else (false, { s with running := s.running.erase key })
    else (false, s) := by
  unfold destroyPool virLookup virDestroy virUndefine
  by_cases hkind : key.1 = .net ∨ key.1 = .disk
  · by_cases hrunning : key ∈ s.running
    · cases calls.lookup <;> cases calls.destroy <;>
        simp [hkind, hrunning, PoolState.withoutPool]
    · cases calls.lookup <;> cases calls.destroy <;> simp [hrunning]
  · simp [hkind]

theorem infoKind_of_getPoolProperties {settings : List (Option PoolRasd)} {info : PoolInfo}
    (h : getPoolProperties settings = .ok info) : ∃ kind, infoKind info = some kind := by
  unfold getPoolProperties at h
  split at h
  · cases h
  · cases h
  · split at h
    · cases h
    · unfold rasdToVpool at h
      split at h
      · obtain ⟨net, -, rfl⟩ := map_eq_ok h
        exact ⟨.net, rfl⟩
      · obtain ⟨disk, -, rfl⟩ := map_eq_ok h
        exact ⟨.disk, rfl⟩
      · cases h

/-- A pool with a document is one of the two types. -/
theorem infoKind_of_childPoolXml {args : CreatePoolArgs} {xml : Node} {info : PoolInfo}
    {id : String} (h : childPoolXml calls args = .ok (xml, info, id)) :
    ∃ kind, infoKind info = some kind := by
  unfold childPoolXml at h
  split at h
  · next settings _ =>
    obtain ⟨info', hinfo, h⟩ := bind_eq_ok h
    -- each kind of pool has an information of its own
    have hkind : ∃ kind, infoKind info' = some kind := by
      cases hproperties : getPoolProperties settings with
      | error msg =>
        rw [hproperties] at hinfo
        cases hinfo
      | ok found =>
        rw [hproperties] at hinfo
        cases hinfo
        exact infoKind_of_getPoolProperties hproperties
    dsimp only at h
    split_ifs at h
    obtain ⟨xml', -, h⟩ := bind_eq_ok h
    cases h
    exact hkind
  · cases h

/-- **`CreateChildResourcePool`** tells the truth if and only if a pool that was started is
found. -/
theorem tellsTruth_createPool_iff (args : CreatePoolArgs) (s : PoolState) :
    TellsTruth calls (.createPool args) s ↔
      (PoolRequest.createPool args).Untroubled calls s := by
  cases hxml : childPoolXml calls args with
  | error refusal =>
    obtain ⟨rc, msg⟩ := refusal
    -- a request that is not understood gets no further than its arguments
    have hrun : (PoolRequest.createPool args).run calls s = (some (.error rc msg), s) := by
      simp [PoolRequest.run, createChildPool, hxml]
    refine iff_of_true (tellsTruth_of_refused hrun) ?_
    rintro xml info id key hok
    rw [hxml] at hok
    cases hok
  | ok described =>
    obtain ⟨xml, info, id⟩ := described
    obtain ⟨kind, hkind⟩ := infoKind_of_childPoolXml hxml
    have hkey : describedPool calls args = some (kind, documentName xml) := by
      simp [describedPool, hxml, hkind]
    -- the condition with the one document that it can be about
    have huntroubled : (PoolRequest.createPool args).Untroubled calls s ↔
        (calls.connect = .ok () → calls.defineXML = true → (kind, documentName xml) ∉ s.defined →
          (kind, documentName xml) ∉ s.running → calls.create = true →
            poolSeen calls.after id = true) := by
      constructor
      · intro h
        exact h xml info id _ hxml hkey
      · intro h xml' info' id' key' hxml' hkey'
        rw [hxml] at hxml'
        cases hxml'
        rw [hkey] at hkey'
        cases hkey'
        exact h
    rw [huntroubled]
    cases hconnect : calls.connect with
    | error status =>
      obtain ⟨rc, told, herror⟩ :=
        withoutConnection_eq_error "Unable to create resource pool" status
      have hrun : (PoolRequest.createPool args).run calls s = (some (.error rc told), s) := by
        simp [PoolRequest.run, createChildPool, hxml, hconnect, herror]
      exact iff_of_true (tellsTruth_of_refused hrun) (by simp)
    | ok =>
      -- behind the connection all depends on `define_pool`
      have hrun : (PoolRequest.createPool args).run calls s =
          match definePool calls xml info s with
          | (false, s) => (some (.failed "Unable to create resource pool"), s)
          | (true, s) =>
            if poolSeen calls.after id then (some .ok, s)
            else (some (.failed "Failed to lookup resulting pool"), s) := by
        simp only [PoolRequest.run, createChildPool, hxml, hconnect]
      rw [definePool_eq hkind] at hrun
      by_cases hdefine : calls.defineXML = true ∧ (kind, documentName xml) ∉ s.defined ∧
          (kind, documentName xml) ∉ s.running
      · rw [if_pos hdefine] at hrun
        by_cases hstart : calls.create = true
        · rw [if_pos hstart] at hrun
          dsimp only at hrun
          have hdone : (PoolRequest.createPool args).Done calls s
              (s.withPool (kind, documentName xml)) := ⟨_, hkey, hdefine.2.1, rfl⟩
          by_cases hseen : poolSeen calls.after id = true
          · rw [if_pos hseen] at hrun
            exact iff_of_true ((tellsTruth_iff_of_done hrun hdone).mpr rfl)
              fun _ _ _ _ _ => hseen
          · -- the pool runs, and it is told that it does not
            rw [if_neg hseen] at hrun
            refine iff_of_false ?_ ?_
            · rw [tellsTruth_iff_of_done hrun hdone]
              simp
            · intro h
              exact hseen (h rfl hdefine.1 hdefine.2.1 hdefine.2.2 hstart)
        -- it could not be started: an error is told, and the rest is whether it was undefined
        -- again
        · refine iff_of_true ?_ fun _ _ _ _ h => absurd h hstart
          rw [if_neg hstart] at hrun
          by_cases hundefine : calls.undefine = true
          · rw [if_pos hundefine] at hrun
            exact tellsTruth_of_refused hrun
          · rw [if_neg hundefine] at hrun
            dsimp only at hrun
            unfold TellsTruth
            rw [hrun, completed_iff]
            constructor
            -- nothing was done, as the pool does not run
            · refine iff_of_false (by simp) ?_
              rintro ⟨key, hkey', -, heq⟩
              rw [hkey] at hkey'
              cases hkey'
              apply hdefine.2.2
              rw [congrArg PoolState.running heq]
              exact Finset.mem_insert_self _ _
            · intro hundo
              exact absurd (hundo (by simpa using hstart)) hundefine
      -- libvirt refuses the definition, and all is as before
      · rw [if_neg hdefine] at hrun
        refine iff_of_true (tellsTruth_of_refused hrun) ?_
        intro _ h h' h''
        exact absurd ⟨h, h', h''⟩ hdefine

/-- **`DeleteResourcePool`** tells the truth if and only if a pool that was stopped is
undefined. -/
theorem tellsTruth_deletePool_iff (pool : Option PoolRef) (s : PoolState) :
    TellsTruth calls (.deletePool pool) s ↔ (PoolRequest.deletePool pool).Untroubled calls s := by
  cases hkey : poolToDelete calls pool with
  | error refusal =>
    obtain ⟨rc, msg⟩ := refusal
    -- nothing is called where no pool is named
    have hrun : (PoolRequest.deletePool pool).run calls s = (some (.error rc msg), s) := by
      simp [PoolRequest.run, Pool.deletePool, hkey]
    refine iff_of_true (tellsTruth_of_refused hrun) ?_
    rintro key hok
    rw [hkey] at hok
    cases hok
  | ok key =>
    -- the condition for the one pool that is named
    have huntroubled : (PoolRequest.deletePool pool).Untroubled calls s ↔
        (calls.connect = .ok () → (key.1 = .net ∨ key.1 = .disk) → calls.lookup = true →
          calls.destroy = true → key ∈ s.running →
            calls.undefine = true ∧ key ∈ s.defined) := by
      constructor
      · intro h
        exact h key hkey
      · intro h key' hkey'
        rw [hkey] at hkey'
        cases hkey'
        exact h
    rw [huntroubled]
    cases hconnect : calls.connect with
    | error status =>
      have hrun : (PoolRequest.deletePool pool).run calls s =
          (some (.failed "Unable to connect to hypervisor"), s) := by
        simp [PoolRequest.run, Pool.deletePool, hkey, hconnect]
      exact iff_of_true (tellsTruth_of_refused hrun) (by simp)
    | ok =>
      have hrun : (PoolRequest.deletePool pool).run calls s =
          match destroyPool calls key s with
          | (true, s) => (some .ok, s)
          | (false, s) =>
            (some (.failed "Storage pool deletion error: Unable to destroy resource pool"), s) := by
        simp only [PoolRequest.run, Pool.deletePool, hkey, hconnect]
      -- first the pool is stopped, then it is undefined
      rw [destroyPool_eq] at hrun
      by_cases hstop : (key.1 = .net ∨ key.1 = .disk) ∧ calls.lookup = true ∧
          calls.destroy = true ∧ key ∈ s.running
      · rw [if_pos hstop] at hrun
        obtain ⟨hkind, hlookup, hdestroy, hrunning⟩ := hstop
        by_cases hundefine : calls.undefine = true ∧ key ∈ s.defined
        · rw [if_pos hundefine] at hrun
          have hdone : (PoolRequest.deletePool pool).Done calls s (s.withoutPool key) :=
            ⟨key, hkey, .inr hrunning, rfl⟩
          -- gone from both sets, and told so
          exact iff_of_true ((tellsTruth_iff_of_done hrun hdone).mpr rfl)
            fun _ _ _ _ _ => hundefine
        · -- the pool does not run any more, and an error is told
          rw [if_neg hundefine] at hrun
          dsimp only at hrun
          refine iff_of_false ?_ fun h => hundefine (h rfl hkind hlookup hdestroy hrunning)
          rintro ⟨-, hundo⟩
          rw [hrun] at hundo
          -- nothing was to be changed by what is told as an error
          have hsame := congrArg PoolState.running (hundo trivial ⟨_, _, rfl⟩)
          rw [← hsame] at hrunning
          exact absurd hrunning (Finset.notMem_erase key s.running)
      · rw [if_neg hstop] at hrun
        refine iff_of_true (tellsTruth_of_refused hrun) ?_
        intro _ hkind hlookup hdestroy hrunning
        exact absurd ⟨hkind, hlookup, hdestroy, hrunning⟩ hstop

/-- **`CreateResourceInPool`** tells the truth if and only if a volume that was created is
returned. -/
theorem tellsTruth_createResource_iff (args : ResourceArgs) (s : PoolState) :
    TellsTruth calls (.createResource args) s ↔
      (PoolRequest.createResource args).Untroubled calls s := by
  cases hxml : resourceXml calls args with
  | error refusal =>
    obtain ⟨rc, msg⟩ := refusal
    -- nothing is called where the volume is not described
    have hrun : (PoolRequest.createResource args).run calls s = (some (.error rc msg), s) := by
      simp [PoolRequest.run, createResourceInPool, hxml]
    refine iff_of_true (tellsTruth_of_refused hrun) ?_
    rintro xml poolId path hok
    rw [hxml] at hok
    cases hok
  | ok described =>
    obtain ⟨xml, poolId⟩ := described
    have huntroubled : (PoolRequest.createResource args).Untroubled calls s ↔
        ∀ path, calls.connect = .ok () → virLookup calls (.disk, poolId) s = true →
          calls.volCreate = some path → path ∉ s.volumes →
            calls.volGetPath = true ∧ calls.typedInstance = true ∧ calls.objectPath = .ok := by
      constructor
      · intro h path
        exact h xml poolId path hxml
      · intro h xml' poolId' path hxml'
        rw [hxml] at hxml'
        cases hxml'
        exact h path
    rw [huntroubled]
    cases hconnect : calls.connect with
    | error status =>
      obtain ⟨rc, told, herror⟩ := withoutConnection_eq_error "Unable to create new resource" status
      have hrun : (PoolRequest.createResource args).run calls s = (some (.error rc told), s) := by
        simp [PoolRequest.run, createResourceInPool, hxml, hconnect, herror]
      exact iff_of_true (tellsTruth_of_refused hrun) (by simp)
    | ok =>
      -- the instance that is returned is made behind the volume
      have hrun : (PoolRequest.createResource args).run calls s =
          match createResource calls poolId s with
          | (none, s) => (some (.failed "Unable to create storage volume"), s)
          | (some _, s) =>
            if calls.typedInstance then (some calls.objectPath, s) else (none, s) := by
        simp only [PoolRequest.run, createResourceInPool, hxml, hconnect]
      unfold createResource at hrun
      by_cases hlookup : virLookup calls (.disk, poolId) s = true
      · rw [if_pos hlookup] at hrun
        unfold virVolCreate at hrun
        cases hcreate : calls.volCreate with
        | none =>
          rw [hcreate] at hrun
          -- no volume was made
          exact iff_of_true (tellsTruth_of_refused hrun) (by simp)
        | some path =>
          rw [hcreate] at hrun
          dsimp only at hrun
          by_cases hpath : path ∈ s.volumes
          · rw [if_pos hpath] at hrun
            refine iff_of_true (tellsTruth_of_refused hrun) ?_
            -- a volume of this path is there already, and libvirt refuses
            rintro path' - - hpath' hnew
            rw [← Option.some.inj hpath'] at hnew
            exact absurd hpath hnew
          · -- the volume is there, whatever comes next
            rw [if_neg hpath] at hrun
            dsimp only at hrun
            have hdone : (PoolRequest.createResource args).Done calls s
                { s with volumes := insert path s.volumes } := ⟨path, hpath, rfl⟩
            -- each of the steps behind it can fail, and none takes the volume back
            have hok : TellsTruth calls (.createResource args) s ↔ calls.volGetPath = true ∧
                calls.typedInstance = true ∧ calls.objectPath = .ok := by
              by_cases hget : calls.volGetPath = true
              · rw [if_pos hget] at hrun
                dsimp only at hrun
                by_cases hinstance : calls.typedInstance = true
                · rw [if_pos hinstance] at hrun
                  rw [tellsTruth_iff_of_done hrun hdone]
                  simp [hget, hinstance]
                · rw [if_neg hinstance] at hrun
                  rw [tellsTruth_iff_of_done hrun hdone]
                  simp [hinstance]
              · rw [if_neg hget] at hrun
                rw [tellsTruth_iff_of_done hrun hdone]
                simp [hget]
            rw [hok]
            constructor
            · intro h path' _ _ _ _
              exact h
            · intro h
              exact h path rfl hlookup rfl hpath
      -- the pool is not found
      · rw [if_neg hlookup] at hrun
        refine iff_of_true (tellsTruth_of_refused hrun) ?_
        rintro path - h
        exact absurd h hlookup

/-- The path that is deleted is the address of the resource. -/
theorem address_of_resourceToDelete {args : ResourceArgs} {path : String} {type : RasdType}
    (h : resourceToDelete calls args = .ok (path, type)) :
    (args.settings.bind (·.getStr "Address")) = some path := by
  -- of all ways through the arguments only one is not refused
  unfold resourceToDelete at h
  split at h
  · next resource hresource =>
    split at h
    · split_ifs at h
      split at h
      · split at h
        · next address haddress =>
          cases h
          rw [hresource, Option.bind_some, haddress]
        · cases h
      · cases h
    · cases h
  · cases h

/-- **`DeleteResourceInPool`** tells the truth if and only if a volume that is there is
deleted. -/
theorem tellsTruth_deleteResource_iff (args : ResourceArgs) (s : PoolState) :
    TellsTruth calls (.deleteResource args) s ↔
      (PoolRequest.deleteResource args).Untroubled calls s := by
  cases hres : resourceToDelete calls args with
  | error refusal =>
    obtain ⟨rc, msg⟩ := refusal
    -- the arguments are refused before anything is called
    have hrun : (PoolRequest.deleteResource args).run calls s = (some (.error rc msg), s) := by
      simp [PoolRequest.run, deleteResourceInPool, hres]
    refine iff_of_true (tellsTruth_of_refused hrun) ?_
    rintro path hok
    rw [hres] at hok
    cases hok
  | ok resource =>
    obtain ⟨path, type⟩ := resource
    -- the condition for the one path that is given
    have huntroubled : (PoolRequest.deleteResource args).Untroubled calls s ↔
        (type = .image → calls.connect = .ok () → calls.volLookup = true → path ∈ s.volumes →
          calls.volDelete = true) := by
      constructor
      · rintro h rfl
        exact h path hres
      · intro h path' hres'
        rw [hres] at hres'
        cases hres'
        exact h rfl
    rw [huntroubled]
    cases hconnect : calls.connect with
    | error status =>
      have hrun : (PoolRequest.deleteResource args).run calls s =
          (some (.failed "libvirt connection failed"), s) := by
        simp [PoolRequest.run, deleteResourceInPool, hres, hconnect]
      exact iff_of_true (tellsTruth_of_refused hrun) (by simp)
    | ok =>
      -- `delete_resource` returns zero for a failure and everything else for a success
      have hrun : (PoolRequest.deleteResource args).run calls s =
          match deleteResource calls path type s with
          | (rc, s) =>
            if rc = 0 then (some (.failed "Unable to delete resource"), s) else (some .ok, s) := by
        simp only [PoolRequest.run, deleteResourceInPool, hres, hconnect]
      unfold deleteResource virVolDelete at hrun
      by_cases htype : type = .image
      · rw [if_pos htype] at hrun
        by_cases hfound : calls.volLookup = true ∧ path ∈ s.volumes
        · rw [if_pos hfound] at hrun
          by_cases hdelete : calls.volDelete = true
          · rw [if_pos hdelete] at hrun
            -- the volume is gone
            have hdone : (PoolRequest.deleteResource args).Done calls s
                { s with volumes := s.volumes.erase path } :=
              ⟨path, address_of_resourceToDelete hres, hfound.2, rfl⟩
            exact iff_of_true ((tellsTruth_iff_of_done hrun hdone).mpr rfl)
              fun _ _ _ _ => hdelete
          · -- libvirt's own result is not zero either
            rw [if_neg hdelete] at hrun
            refine iff_of_false ?_ fun h => hdelete (h htype rfl hfound.1 hfound.2)
            rintro ⟨htruth, -⟩
            rw [hrun, completed_iff] at htruth
            exact not_done_self _ s (htruth.mp rfl)
        -- there is no such volume, and zero is returned
        · rw [if_neg hfound] at hrun
          refine iff_of_true (tellsTruth_of_refused hrun) ?_
          intro _ _ hlookup hpath
          exact absurd ⟨hlookup, hpath⟩ hfound
      -- a resource of another type is refused
      · rw [if_neg htype] at hrun
        exact iff_of_true (tellsTruth_of_refused hrun) fun h => absurd h htype

/-- A host with one active storage pool. -/
def imagesView : PoolView where
  networkNamed := fun _ => false
  activeNetworks := some []
  activeStorage := some ["images"]

/-- A host on which nothing can be deleted. -/
def stubbornCalls : PoolCalls where
  connect := .ok ()
  before := some imagesView
  after := none
  validateRef := fun key key' => key = key'
  nodeContent := predefinedContent
  defineXML := true
  create := true
  lookup := true
  destroy := true
  undefine := false
  volCreate := none
  volGetPath := true
  volLookup := true
  volDelete := false
  typedInstance := true
  objectPath := .ok

/-- The pool and the volume on it. -/
def imagesState : PoolState where
  defined := {(.disk, "images")}
  running := {(.disk, "images")}
  volumes := {"/srv/images/guest.img"}

/-- The pool. -/
def imagesRef : PoolRef where
  classname := "KVM_DiskPool"
  instanceId := some "DiskPool/images"

/-- The volume. -/
def guestImage : ResourceArgs where
  settings := some {
    pfx := "KVM"
    base := "StorageVolumeResourceAllocationSettingData"
    props := [("Address", .string "/srv/images/guest.img")] }
  pool := some imagesRef

end LibvirtCim.Pool
