import LibvirtCim.Rasd.Instance
import Mathlib.Data.List.Infix

/-!
# Pools

`Virt_DevicePool.c`: the pools of a host as instances. Every type of device has a parent pool
with the name `0`, which is primordial; networks and storage pools of libvirt are its children.
`get_pool_by_name` looks for a pool by its `InstanceID`, `enum_pools` lists those of a type.

Networks are looked up by name whether they are active or not, and listed only when they are;
the name `0` never reaches libvirt. Storage pools are looked up in the list of the active ones,
behind which the parent stands: one that is called `0` comes before the parent
(`poolNamed_disk`).
-/

open Framework LibvirtCim.Device LibvirtCim.Rasd

namespace LibvirtCim.Pool

/-! ### Ids -/

/-- What the ids of the pools of a type begin with. -/
def poolClass : DevKind → String
  | .net => "NetworkPool"
  | .disk => "DiskPool"
  | .mem => "MemoryPool"
  | .proc => "ProcessorPool"
  | .graphics => "GraphicsPool"
  | .input => "InputPool"
  | .controller => "ControllerPool"
  | .console => "Unknown"

/-- `get_pool_id`, and the format of every other id of a pool. -/
def getPoolId (kind : DevKind) (name : String) : String :=
  poolClass kind ++ "/" ++ name

/-- `STARTS_WITH`. -/
def startsWith (s start : String) : Bool :=
  start.toList.isPrefixOf s.toList

/-- `strstr`. -/
def strstr (s part : String) : Bool :=
  decide (part.toList <:+: s.toList)

/-- `res_type_from_pool_classname`. -/
def resTypeFromPoolClassname (classname : String) : Option DevKind :=
  if strstr classname "NetworkPool" then some .net
  else if strstr classname "DiskPool" then some .disk
  else if strstr classname "MemoryPool" then some .mem
  else if strstr classname "ProcessorPool" then some .proc
  else if strstr classname "GraphicsPool" then some .graphics
  else if strstr classname "InputPool" then some .input
  else if strstr classname "ControllerPool" then some .controller
  else none

/-- `res_type_from_pool_id`. -/
def resTypeFromPoolId (id : String) : Option DevKind :=
  if startsWith id "NetworkPool" then some .net
  else if startsWith id "DiskPool" then some .disk
  else if startsWith id "MemoryPool" then some .mem
  else if startsWith id "ProcessorPool" then some .proc
  else if strstr id "GraphicsPool" then some .graphics
  else if strstr id "InputPool" then some .input
  else if strstr id "ControllerPool" then some .controller
  else none

/-- The name in an id, as `get_pool_by_name` reads it: `%*[^/]/%m[^\n]`. -/
def scanPoolName (id : String) : Option String := do
  let (_, rest) ← scanUpTo '/' id.toList
  let rest ← scanLit ['/'] rest
  let (name, _) ← scanUpTo '\n' rest
  some name

/-! ### Instances -/

/-- What the calls of libvirt show of the pools of a host. -/
structure PoolView where
  /-- `virNetworkLookupByName` -/
  networkNamed : String → Bool
  /-- `virConnectListNetworks`: the active ones -/
  activeNetworks : Option (List String)
  /-- `virConnectListStoragePools`: the active ones -/
  activeStorage : Option (List String)

/-- An instance of a pool. -/
structure PoolInstance where
  kind : DevKind
  name : String
  primordial : Bool
  deriving DecidableEq, Repr

/-- `InstanceID`. -/
def PoolInstance.id (pool : PoolInstance) : String :=
  getPoolId pool.kind pool.name

/-- The parent pool of a type. -/
def parentPool (kind : DevKind) : PoolInstance :=
  { kind, name := "0", primordial := true }

/-- `_netpool_for_network`, by what it adds to the list. -/
def netpoolForNetwork (view : PoolView) (netname : String) : List PoolInstance :=
  if streqc netname "0" then [parentPool .net]
  else if view.networkNamed netname then
    [{ kind := .net, name := netname, primordial := false }]
  else []

/-- `netpool_instance`. -/
def netpoolInstance (view : PoolView) : Option String → Option (List PoolInstance)
  | some id => some (netpoolForNetwork view id)
  | none => view.activeNetworks.map fun names => (names ++ ["0"]).flatMap (netpoolForNetwork view)

/-- `get_diskpool_config` with `get_disk_parent`. -/
def getDiskpoolConfig (view : PoolView) : Option (List PoolInstance) :=
  view.activeStorage.map fun names =>
    names.map (fun name => { kind := .disk, name, primordial := false }) ++ [parentPool .disk]

/-- `diskpool_instance`. -/
def diskpoolInstance (view : PoolView) (id : Option String) : Option (List PoolInstance) :=
  (getDiskpoolConfig view).map fun pools => pools.filter fun pool => id.all (· = pool.name)

/-- `procpool_instance`, `mempool_instance`, `graphicspool_instance`, `inputpool_instance` and
`controllerpool_instance`: the parent is the only one. -/
def onlyParentInstance (kind : DevKind) (id : Option String) : Option (List PoolInstance) :=
  if id.all (streqc · "0") then some [parentPool kind] else none

/-- `_get_pools`; a name that nothing is found for is an error. -/
def getPools (view : PoolView) (kind : DevKind) (id : Option String) :
    Option (List PoolInstance) := do
  let list ← match kind with
    | .net => netpoolInstance view id
    | .disk => diskpoolInstance view id
    | .console => some []
    | .proc | .mem | .graphics | .input | .controller => onlyParentInstance kind id
  if id.isSome ∧ list = [] then none else some list

/-- `enum_pools`. -/
def enumPools (view : PoolView) (kind : DevKind) : Option (List PoolInstance) :=
  getPools view kind none

/-- `get_pool_by_name`. -/
def getPoolByName (view : PoolView) (id : String) : Option PoolInstance := do
  let kind ← resTypeFromPoolId id
  let name ← scanPoolName id
  let list ← getPools view kind (some name)
  list.head?

/-- `get_pool_by_ref`, for a reference of a class with an `InstanceID`. -/
def getPoolByRef (view : PoolView) (validateRef : String → String → Bool) (classname : String)
    (instanceId : Option String) : Option PoolInstance := do
  let id ← instanceId
  let kind ← resTypeFromPoolClassname classname
  if resTypeFromPoolId id = some kind then do
    let pool ← getPoolByName view id
    if validateRef id pool.id then some pool else none
  else none

/-- `parent_device_pool`. -/
def parentDevicePool (view : PoolView) (kind : DevKind) : Option PoolInstance :=
  if kind = .console then none else getPoolByName view (getPoolId kind "0")

/-! ### Names -/

/-- Only `0` is equal to it, whatever the case. -/
theorem streqc_zero_iff (name : String) : streqc name "0" = true ↔ name = "0" := by
  constructor
  · intro h
    have hlower : name.toList.map Char.toLower = ['0'] := of_decide_eq_true h
    obtain ⟨c, hc, hzero⟩ := List.map_eq_singleton_iff.mp hlower
    have hchar : c = '0' := by
      -- a letter does not become a digit
      unfold Char.toLower at hzero
      split at hzero
      · next hupper =>
        have hval : c.val + 32 = 48 := congrArg Char.val hzero
        have hge : 65 ≤ c.val.toNat := UInt32.le_iff_toNat_le.mp hupper.1
        have hle : c.val.toNat ≤ 90 := UInt32.le_iff_toNat_le.mp hupper.2
        have hnat := congrArg UInt32.toNat hval
        rw [UInt32.toNat_add] at hnat
        simp only [UInt32.reduceToNat] at hnat
        omega
      · exact hzero
    rw [hchar] at hc
    exact String.toList_inj.mp hc
  · rintro rfl
    decide

/-- A name that is scanned is one line. -/
theorem line_of_scanPoolName {id name : String} (h : scanPoolName id = some name) :
    name.toList ≠ [] ∧ '\n' ∉ name.toList := by
  unfold scanPoolName at h
  obtain ⟨first, -, h⟩ := Option.bind_eq_some_iff.mp h
  obtain ⟨rest, -, h⟩ := Option.bind_eq_some_iff.mp h
  obtain ⟨line, hline, h⟩ := Option.bind_eq_some_iff.mp h
  obtain rfl := Option.some.inj h
  -- the last of the three parts is what `%as` reads, up to the end of the line
  unfold scanUpTo at hline
  dsimp only at hline
  split_ifs at hline with hnil
  obtain rfl := Option.some.inj hline
  rw [String.toList_ofList]
  refine ⟨hnil, ?_⟩
  intro hmem
  have := List.mem_takeWhile_imp hmem
  simp at this

/-- **A name is scanned from the id that is made of it.** -/
theorem scanPoolName_getPoolId (kind : DevKind) {name : String} (hne : name.toList ≠ [])
    (hline : '\n' ∉ name.toList) : scanPoolName (getPoolId kind name) = some name := by
  have hsplit : (getPoolId kind name).toList = (poolClass kind).toList ++ '/' :: name.toList := by
    simp [getPoolId]
  have hclass : (poolClass kind).toList ≠ [] ∧ '/' ∉ (poolClass kind).toList := by
    cases kind <;> decide
  unfold scanPoolName
  rw [hsplit, scanUpTo_append hclass.1 hclass.2, Option.bind_eq_bind, Option.bind_some]
  simp [scanLit, scanUpTo_of_not_mem hne hline]

theorem resTypeFromPoolId_net (name : String) :
    resTypeFromPoolId (getPoolId .net name) = some .net := by
  have hstart : startsWith (getPoolId .net name) "NetworkPool" = true := by
    simp [startsWith, getPoolId, poolClass]
  rw [resTypeFromPoolId, if_pos hstart]

theorem resTypeFromPoolId_disk (name : String) :
    resTypeFromPoolId (getPoolId .disk name) = some .disk := by
  have hother : startsWith (getPoolId .disk name) "NetworkPool" = false := by
    simp [startsWith, getPoolId, poolClass, List.isPrefixOf]
  have hstart : startsWith (getPoolId .disk name) "DiskPool" = true := by
    simp [startsWith, getPoolId, poolClass]
  rw [resTypeFromPoolId, hother, if_neg (by simp), if_pos hstart]

/-- The id of a parent pool tells its type. -/
theorem resTypeFromPoolId_zero {kind : DevKind} (hkind : kind ≠ .console) :
    resTypeFromPoolId (getPoolId kind "0") = some kind := by
  cases kind with
  | console => exact absurd rfl hkind
  | net => exact resTypeFromPoolId_net "0"
  | disk => exact resTypeFromPoolId_disk "0"
  | mem => decide +kernel
  | proc => decide +kernel
  | graphics => decide +kernel
  | input => decide +kernel
  | controller => decide +kernel

/-! ### Look-ups -/

section Lookup

variable {view : PoolView}

/-- What `_get_pools` finds first for a name. -/
def poolNamed (view : PoolView) (kind : DevKind) (name : String) : Option PoolInstance :=
  (getPools view kind (some name)).bind List.head?

theorem poolNamed_net (name : String) : poolNamed view .net name =
    if name = "0" then some (parentPool .net)
    else if view.networkNamed name then some { kind := .net, name, primordial := false }
    else none := by
  have hzero := streqc_zero_iff name
  unfold poolNamed getPools
  simp only [netpoolInstance, netpoolForNetwork, Option.bind_eq_bind, Option.bind_some, hzero]
  split_ifs <;> simp_all

theorem poolNamed_disk (name : String) : poolNamed view .disk name =
    view.activeStorage.bind fun names =>
      if name ∈ names then some { kind := .disk, name, primordial := false }
      else if name = "0" then some (parentPool .disk)
      else none := by
  unfold poolNamed getPools
  simp only [diskpoolInstance, getDiskpoolConfig]
  cases view.activeStorage with
  | none => rfl
  | some names =>
    -- the pools of that name among the active ones
    have hfilter : (names.map fun name => PoolInstance.mk .disk name false).filter
        (fun pool => (some name).all (· = pool.name)) =
        (names.filter (name = ·)).map fun name => PoolInstance.mk .disk name false := by
      rw [List.filter_map]
      rfl
    simp only [Option.map_some, Option.bind_eq_bind, Option.bind_some, List.filter_append, hfilter]
    by_cases hmem : name ∈ names
    · -- an active storage pool comes before the parent
      have hne : names.filter (name = ·) ≠ [] := by
        rw [Ne, List.filter_eq_nil_iff]
        intro hnone
        exact hnone name hmem (by simp)
      obtain ⟨first, rest, hfirst⟩ := List.exists_cons_of_ne_nil hne
      have hname : name = first := by
        have := List.mem_filter.mp (hfirst ▸ List.mem_cons_self : first ∈ names.filter (name = ·))
        simpa using this.2
      rw [hfirst, if_pos hmem, ← hname]
      simp
    · have hnil : names.filter (name = ·) = [] := by
        rw [List.filter_eq_nil_iff]
        intro other hother heq
        exact hmem (of_decide_eq_true heq ▸ hother)
      -- no active pool of that name: only the parent is left
      rw [hnil, if_neg hmem]
      by_cases hzero : name = "0" <;> simp [parentPool, hzero]

theorem poolNamed_onlyParent {kind : DevKind} (hnet : kind ≠ .net) (hdisk : kind ≠ .disk)
    (hconsole : kind ≠ .console) (name : String) : poolNamed view kind name =
    if name = "0" then some (parentPool kind) else none := by
  have honly : poolNamed view kind name =
      (onlyParentInstance kind (some name)).bind List.head? := by
    unfold poolNamed getPools
    cases kind with
    | net => exact absurd rfl hnet
    | disk => exact absurd rfl hdisk
    | console => exact absurd rfl hconsole
    | _ =>
      simp only [onlyParentInstance]
      split <;> rfl
  simp only [honly, onlyParentInstance, Option.all_some, streqc_zero_iff]
  split <;> rfl

/-- **What is found for a name has the name**, and is of the type. -/
theorem kind_and_name_of_poolNamed {kind : DevKind} {name : String} {pool : PoolInstance}
    (h : poolNamed view kind name = some pool) :
    pool.kind = kind ∧ pool.name = name ∧ (pool.primordial = true → pool = parentPool kind) := by
  -- the two forms an instance takes: the parent and a child of the given name
  have hparent {name : String} (hzero : name = "0") (heq : parentPool kind = pool) :
      pool.kind = kind ∧ pool.name = name ∧ (pool.primordial = true → pool = parentPool kind) := by
    subst heq
    exact ⟨rfl, hzero.symm, fun _ => rfl⟩
  have hchild {name : String} (heq : PoolInstance.mk kind name false = pool) :
      pool.kind = kind ∧ pool.name = name ∧ (pool.primordial = true → pool = parentPool kind) := by
    subst heq
    exact ⟨rfl, rfl, fun hprimordial => by cases hprimordial⟩
  -- networks, storage pools and consoles have lists of their own
  by_cases hnet : kind = .net
  · subst hnet
    rw [poolNamed_net] at h
    split_ifs at h with hzero hnamed
    · exact hparent hzero (Option.some.inj h)
    · exact hchild (Option.some.inj h)
  by_cases hdisk : kind = .disk
  · subst hdisk
    rw [poolNamed_disk] at h
    obtain ⟨names, -, h⟩ := Option.bind_eq_some_iff.mp h
    split_ifs at h with hmem hzero
    · exact hchild (Option.some.inj h)
    · exact hparent hzero (Option.some.inj h)
  by_cases hconsole : kind = .console
  · subst hconsole
    simp [poolNamed, getPools] at h
  -- every other kind has the parent pool only
  rw [poolNamed_onlyParent hnet hdisk hconsole] at h
  split_ifs at h with hzero
  exact hparent hzero (Option.some.inj h)

theorem getPoolByName_eq (id : String) : getPoolByName view id =
    (resTypeFromPoolId id).bind fun kind => (scanPoolName id).bind (poolNamed view kind) := rfl

/-- The id of a pool that can be found leads to what is found for its name. -/
theorem getPoolByName_getPoolId {kind : DevKind} {name : String}
    (htype : resTypeFromPoolId (getPoolId kind name) = some kind) (hne : name.toList ≠ [])
    (hline : '\n' ∉ name.toList) :
    getPoolByName view (getPoolId kind name) = poolNamed view kind name := by
  rw [getPoolByName_eq, htype, Option.bind_some, scanPoolName_getPoolId kind hne hline,
    Option.bind_some]

theorem getPoolByName_zero {kind : DevKind} (hkind : kind ≠ .console) :
    getPoolByName view (getPoolId kind "0") = poolNamed view kind "0" :=
  getPoolByName_getPoolId (resTypeFromPoolId_zero hkind) (by decide) (by decide)

/-- **A pool that is found is found by its own id.** -/
theorem getPoolByName_id {id : String} {pool : PoolInstance}
    (h : getPoolByName view id = some pool) :
    pool.kind ≠ .console ∧ resTypeFromPoolId pool.id = some pool.kind ∧
      getPoolByName view pool.id = some pool := by
  rw [getPoolByName_eq] at h
  obtain ⟨kind, -, h⟩ := Option.bind_eq_some_iff.mp h
  obtain ⟨name, hname, h⟩ := Option.bind_eq_some_iff.mp h
  obtain ⟨rfl, rfl, -⟩ := kind_and_name_of_poolNamed h
  have hline := line_of_scanPoolName hname
  -- the consoles have no pools at all
  have hconsole : pool.kind ≠ .console := by
    intro hkind
    rw [hkind] at h
    simp [poolNamed, getPools] at h
  have htype : resTypeFromPoolId (getPoolId pool.kind pool.name) = some pool.kind := by
    by_cases hnet : pool.kind = .net
    · rw [hnet]
      exact resTypeFromPoolId_net _
    by_cases hdisk : pool.kind = .disk
    · rw [hdisk]
      exact resTypeFromPoolId_disk _
    -- the other types have the parent only
    rw [poolNamed_onlyParent hnet hdisk hconsole] at h
    split_ifs at h with hzero
    rw [hzero]
    exact resTypeFromPoolId_zero hconsole
  refine ⟨hconsole, htype, ?_⟩
  rw [PoolInstance.id, getPoolByName_getPoolId htype hline.1 hline.2, h]

end Lookup

end LibvirtCim.Pool
