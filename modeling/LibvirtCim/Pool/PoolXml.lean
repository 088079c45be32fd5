import LibvirtCim.Device.WellFormed

/-!
# Pool XML

`struct virt_pool`, the generator `pool_to_xml` of `xmlgen.c` and the parser
`get_pool_from_xml` of `pool_parsing.c`, which reads storage pools only. The name and the
path of a pool are contents of elements, whatever else it has are attributes.
-/

open Framework LibvirtCim.Device

namespace LibvirtCim.Pool

/-! ### Pools -/

/-- `struct net_pool`. -/
structure NetPool where
  addr : Option String := none
  netmask : Option String := none
  ipStart : Option String := none
  ipEnd : Option String := none
  forwardMode : Option String := none
  forwardDev : Option String := none
  deriving DecidableEq, Repr

/-- `DISK_POOL_*`. -/
inductive DiskPoolType
  | unknown | dir | fs | netfs | disk | iscsi | logical | scsi
  deriving DecidableEq, Repr

/-- `struct disk_pool`. -/
structure DiskPool where
  poolType : DiskPoolType := .unknown
  path : Option String := none
  devicePaths : List (Option String) := []
  host : Option String := none
  srcDir : Option String := none
  adapter : Option String := none
  portName : Option String := none
  nodeName : Option String := none
  deriving DecidableEq, Repr

/-- The union `pool_info`, with the type that says which of its members is in use. -/
inductive PoolInfo
  | net (pool : NetPool)
  | disk (pool : DiskPool)
  | other
  deriving DecidableEq, Repr

/-- `struct virt_pool`. -/
structure VirtPool where
  info : PoolInfo
  id : Option String := none
  deriving DecidableEq, Repr

/-! ### Generating -/

section Generate

variable (nodeContent : String → List Node)

/-- The `forward` of a network. -/
def forwardXml (pool : NetPool) : List Node :=
  match pool.forwardMode with
  | none => []
  | some mode => [.elem "forward" (prop "mode" mode ++ optProp "dev" pool.forwardDev) []]

/-- The `dhcp` of a network: its range needs both ends. -/
def dhcpXml (pool : NetPool) : List Node :=
  match pool.ipStart, pool.ipEnd with
  | some first, some last =>
    [.elem "dhcp" [] [.elem "range" (prop "start" first ++ prop "end" last) []]]
  | _, _ => []

/-- `net_pool_xml`. -/
def netPoolXml (id : Option String) (pool : NetPool) : Node :=
  .elem "network" []
    ([xmlNewChild nodeContent "name" id, .elem "bridge" [] []] ++ forwardXml pool ++
      [.elem "ip" (prop "address" pool.addr ++ prop "netmask" pool.netmask) (dhcpXml pool)])

/-- `disk_pool_type_to_str`. -/
def diskPoolTypeToStr : DiskPoolType → Option String
  | .dir => some "dir"
  | .fs => some "fs"
  | .netfs => some "netfs"
  | .disk => some "disk"
  | .iscsi => some "iscsi"
  | .logical => some "logical"
  | .scsi => some "scsi"
  | .unknown => none

/-- The `adapter` of a storage pool. -/
def adapterXml (pool : DiskPool) : List Node :=
  match pool.adapter with
  | none => []
  | some adapter =>
    [.elem "adapter"
      (prop "name" adapter ++ optProp "wwpn" pool.portName ++ optProp "wwnn" pool.nodeName) []]

/-- `set_disk_pool_source`. -/
def setDiskPoolSource (pool : DiskPool) : Node :=
  .elem "source" []
    ((pool.devicePaths.map fun path => .elem "device" (prop "path" path) []) ++
      optChild "host" "name" pool.host ++ optChild "dir" "path" pool.srcDir ++ adapterXml pool)

/-- `disk_pool_xml`. -/
def diskPoolXml (id : Option String) (pool : DiskPool) : Except String Node :=
  match diskPoolTypeToStr pool.poolType with
  | none => .error xmlError
  | some type =>
    .ok (.elem "pool" [("type", type)]
      ([xmlNewChild nodeContent "name" id] ++
        (if pool.poolType = .dir then [] else [setDiskPoolSource pool]) ++
        [.elem "target" [] [xmlNewChild nodeContent "path" pool.path]]))

/-- `pool_to_xml`. -/
def poolToXml (pool : VirtPool) : Except String Node :=
  match pool.info with
  | .net net => .ok (netPoolXml nodeContent pool.id net)
  | .disk disk => diskPoolXml nodeContent pool.id disk
  | .other => .error "pool_to_xml: invalid type specified"

end Generate

/-! ### Parsing -/

/-- `parse_disk_target`: the first child that is a path. -/
def parseDiskTarget (node : Node) (pool : DiskPool) : DiskPool :=
  match node.children.find? fun child => child.name = "path" with
  | none => pool
  | some child => { pool with path := some (getNodeContent child) }

/-- What `parse_disk_source` has read: the pool, and the paths of the devices, which are
kept when the loop ends. -/
structure SourceState where
  pool : DiskPool
  devPaths : List (Option String) := []

/-- The children of a `source`. -/
def parseDiskSourceChild (s : SourceState) (child : Node) : Except DiskPool SourceState :=
  if child.name = "device" then
    .ok { s with devPaths := s.devPaths ++ [getAttrValue child "path"] }
  else if child.name = "host" then
    let pool := { s.pool with host := getAttrValue child "name" }
    if pool.host = none then .error pool else .ok { s with pool }
  else if child.name = "dir" then
    let pool := { s.pool with srcDir := getAttrValue child "path" }
    if pool.srcDir = none then .error pool else .ok { s with pool }
  else if child.name = "adapter" then
    .ok { s with
      pool := { s.pool with
        adapter := getAttrValue child "name"
        portName := getAttrValue child "wwpn"
        nodeName := getAttrValue child "wwnn" } }
  else .ok s

/-- `parse_disk_source`; its caller does not look at what it returns. -/
def parseDiskSource (node : Node) (pool : DiskPool) : DiskPool :=
  match node.children.foldlM parseDiskSourceChild { pool } with
  | .ok s => { s.pool with devicePaths := s.devPaths }
  | .error pool => pool

/-- The type of a storage pool. -/
def diskPoolTypeOf (typeStr : String) : DiskPoolType :=
  if streqc typeStr "dir" then .dir
  else if streqc typeStr "fs" then .fs
  else if streqc typeStr "netfs" then .netfs
  else if streqc typeStr "disk" then .disk
  else if streqc typeStr "iscsi" then .iscsi
  else if streqc typeStr "logical" then .logical
  else if streqc typeStr "scsi" then .scsi
  else .unknown

/-- The children of a `pool`: the first name counts. -/
def parseDiskPoolChild (s : Option String × DiskPool) (child : Node) : Option String × DiskPool :=
  if child.name = "name" ∧ s.1 = none then (some (getNodeContent child), s.2)
  else if child.name = "target" then (s.1, parseDiskTarget child s.2)
  else if child.name = "source" then (s.1, parseDiskSource child s.2)
  else s

/-- `parse_disk_pool`: the name with the pool. -/
def parseDiskPool (node : Node) : Option String × DiskPool :=
  match getAttrValue node "type" with
  | none => (none, {})
  | some typeStr =>
    node.children.foldl parseDiskPoolChild (none, { poolType := diskPoolTypeOf typeStr })

/-- `get_pool_from_xml` for a storage pool: the document has a `pool`, otherwise the first
node of an empty set is read. -/
def getPoolFromXml (root : Node) : Except Stop VirtPool :=
  if root.isElem "pool" then
    match parseDiskPool root with
    | (none, _) => .error .reject
    | (some id, pool) => .ok { info := .disk pool, id := some id }
  else .error .fault

end LibvirtCim.Pool
