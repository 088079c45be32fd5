import LibvirtCim.Device.Types
import LibvirtCim.Framework.Decimal
import LibvirtCim.Framework.Xml

/-!
# Parsing devices

The parsers of `device_parsing.c`, one for each type of device. A parser walks the
children of its node once and fills a cleared structure; it stops at the first
child it cannot use. `do_parse` leaves out the nodes a parser rejects.

A child is selected by its name alone, whatever kind of node it is. Allocations
succeed; a null pointer that is handed to `strdup` or `strcasecmp` is a `fault`.
-/

open Framework

namespace LibvirtCim.Device

/-- How a parser ends without a device: it rejects the node, or the process
crashes. -/
inductive Stop
  | reject | fault
  deriving DecidableEq, Repr

/-- `get_attr_value`. -/
abbrev getAttrValue (node : Node) (attrname : String) : Option String :=
  node.attr attrname

/-- `get_node_content`. -/
abbrev getNodeContent (node : Node) : String :=
  node.textValue

/-- `%s` of a string that may be null. -/
def formatStr (s : Option String) : String :=
  s.getD "(null)"

/-- `parse_device_address`: each attribute is added with the value that is looked up
for its name. -/
def parseDeviceAddress (anode : Node) (devaddr : DeviceAddress) : DeviceAddress :=
  devaddr ++ anode.attrs.map fun attr => (attr.1, (getAttrValue anode attr.1).getD "")

/-! ### Disks and file systems -/

/-- The end of both parsers: a disk has a source and a target, and its id is the
target. -/
def finishDisk (ddev : DiskDevice) : Except Stop (VirtDevice DiskDevice) :=
  match ddev.source, ddev.virtualDev with
  | some _, some virtualDev => .ok { type := .disk, dev := ddev, id := some virtualDev }
  | _, _ => .error .reject

/-- The children of a `filesystem`. -/
def parseFsChild (ddev : DiskDevice) (child : Node) : Except Stop DiskDevice :=
  if child.name = "source" then
    match getAttrValue child "dir" with
    | none => .error .reject
    | some dir => .ok { ddev with source := some dir }
  else if child.name = "target" then
    match getAttrValue child "dir" with
    | none => .error .reject
    | some dir => .ok { ddev with virtualDev := some dir }
  else if child.name = "driver" then
    .ok { ddev with driverType := getAttrValue child "type" }
  else if child.name = "address" then
    .ok { ddev with address := parseDeviceAddress child ddev.address }
  else .ok ddev

/-- `parse_fs_device`. -/
def parseFsDevice (dnode : Node) : Except Stop (VirtDevice DiskDevice) := do
  let some type := getAttrValue dnode "type" | .error .reject
  let ddev ← dnode.children.foldlM parseFsChild
    { type := some type, accessMode := getAttrValue dnode "accessmode" }
  finishDisk { ddev with diskType := .fs }

/-- The children of a `disk`. -/
def parseBlockChild (ddev : DiskDevice) (child : Node) : Except Stop DiskDevice :=
  if child.name = "driver" then
    match getAttrValue child "name" with
    | none => .error .reject
    | some name => .ok { ddev with
        driver := some name
        driverType := getAttrValue child "type"
        cache := getAttrValue child "cache" }
  else if child.name = "source" then
    match getAttrValue child "file" with
    | some file => .ok { ddev with source := some file, diskType := .file }
    | none =>
      match getAttrValue child "dev" with
      | some dev => .ok { ddev with source := some dev, diskType := .phy }
      | none => .error .reject
  else if child.name = "target" then
    match getAttrValue child "dev" with
    | none => .error .reject
    | some dev => .ok { ddev with virtualDev := some dev, busType := getAttrValue child "bus" }
  else if child.name = "readonly" then .ok { ddev with readonly := true }
  else if child.name = "shareable" then .ok { ddev with shareable := true }
  else if child.name = "address" then
    .ok { ddev with address := parseDeviceAddress child ddev.address }
  else .ok ddev

/-- A cdrom device may have no disk in it. -/
def emptyCdrom (ddev : DiskDevice) : DiskDevice :=
  if ddev.device = some "cdrom" ∧ ddev.source = none then
    { ddev with source := some "", diskType := .file }
  else ddev

/-- `parse_block_device`. -/
def parseBlockDevice (dnode : Node) : Except Stop (VirtDevice DiskDevice) := do
  let some type := getAttrValue dnode "type" | .error .reject
  let some device := getAttrValue dnode "device" | .error .reject
  let ddev ← dnode.children.foldlM parseBlockChild
    { type := some type
      device := some device
      rawio := getAttrValue dnode "rawio"
      sgio := getAttrValue dnode "sgio" }
  finishDisk (emptyCdrom ddev)

/-- `parse_disk_device`. -/
def parseDiskDevice (dnode : Node) : Except Stop (VirtDevice DiskDevice) :=
  if dnode.name = "disk" then parseBlockDevice dnode
  else if dnode.name = "filesystem" then parseFsDevice dnode
  else .error .reject

/-! ### Network interfaces -/

/-- The children of a `virtualport`. -/
def parseVsiChild (vsi : VsiDevice) (child : Node) : Except Stop VsiDevice :=
  if child.name = "parameters" then
    match getAttrValue child "managerid", getAttrValue child "typeid",
      getAttrValue child "typeidversion" with
    | some managerId, some typeId, some typeIdVersion => .ok { vsi with
        managerId := some managerId
        typeId := some typeId
        typeIdVersion := some typeIdVersion
        instanceId := getAttrValue child "instanceid"
        profileId := getAttrValue child "profileid" }
    | _, _, _ => .error .reject
  else .ok vsi

/-- `parse_vsi_device`: what does not parse is not stored. -/
def parseVsiDevice (dnode : Node) (ndev : NetDevice) : NetDevice :=
  match getAttrValue dnode "type" with
  | none => ndev
  | some type =>
    match dnode.children.foldlM parseVsiChild { vsiType := some type } with
    | .ok vsi => { ndev with vsi }
    | .error _ => ndev

/-- `sscanf` into a variable that keeps its value when nothing is read; an attribute
that is missing clears it. -/
def scanAttr (grandchild : Node) (attrname : String) (old : UInt64) : UInt64 :=
  match getAttrValue grandchild attrname with
  | none => 0
  | some val => (scanU64 val).getD old

/-- The children of an `interface`. -/
def parseNetChild (ndev : NetDevice) (child : Node) : Except Stop NetDevice :=
  if child.name = "mac" then
    match getAttrValue child "address" with
    | none => .error .reject
    | some mac => .ok { ndev with mac := some mac }
  else if child.name = "source" then
    match getAttrValue child "bridge" with
    | some bridge => .ok { ndev with source := some bridge }
    | none =>
      match getAttrValue child "network" with
      | some network => .ok { ndev with
          source := some network
          poolid := some ("NetworkPool/" ++ network) }
      | none =>
        match getAttrValue child "dev", getAttrValue child "mode" with
        | some dev, some mode => .ok { ndev with source := some dev, netMode := some mode }
        | _, _ => .error .reject
  else if child.name = "target" then
    match getAttrValue child "dev" with
    | none => .error .reject
    | some dev => .ok { ndev with device := some dev }
  else if child.name = "model" then
    match getAttrValue child "type" with
    | none => .error .reject
    | some type => .ok { ndev with model := some type }
  else if child.name = "filterref" then
    .ok { ndev with filterRef := getAttrValue child "filter" }
  else if child.name = "virtualport" then .ok (parseVsiDevice child ndev)
  else if child.name = "address" then
    .ok { ndev with address := parseDeviceAddress child ndev.address }
  else if child.name = "bandwidth" then
    -- only the first inbound bandwidth is exposed
    match child.children.find? fun grandchild => grandchild.name = "inbound" with
    | none => .ok ndev
    | some inbound => .ok { ndev with
        reservation := scanAttr inbound "average" ndev.reservation
        limit := scanAttr inbound "peak" ndev.limit }
  else .ok ndev

/-- `parse_net_device`. The id is a copy of the MAC address, which has to be there. -/
def parseNetDevice (inode : Node) : Except Stop (VirtDevice NetDevice) := do
  let some type := getAttrValue inode "type" | .error .reject
  let ndev ← inode.children.foldlM parseNetChild { type := some type }
  match ndev.mac with
  | none => .error .fault
  | some mac => .ok { type := .net, dev := ndev, id := some mac }

/-! ### Processors, emulator and memory -/

/-- `parse_vcpu_device`: one processor if the count is garbage. -/
def parseVcpuDevice (node : Node) : Except Stop (VirtDevice VcpuDevice) :=
  let count := (scanI32 (getNodeContent node)).getD 1
  .ok { type := .proc, dev := { quantity := UInt64.ofInt count }, id := some "proc" }

/-- `parse_emu_device`. -/
def parseEmuDevice (node : Node) : Except Stop (VirtDevice EmuDevice) :=
  .ok { type := .emu, dev := { path := some (getNodeContent node) } }

/-- `parse_mem_device`. -/
def parseMemDevice (node : Node) : Except Stop (VirtDevice MemDevice) :=
  let size := (scanU64 (getNodeContent node)).getD 0
  if node.name = "currentMemory" then .ok { dev := { size } }
  else if node.name = "memory" then
    let dumpCore :=
      match getAttrValue node "dumpCore" with
      | none => DumpCore.notSet
      | some tmpval =>
        if streqc tmpval "on" then .on else if streqc tmpval "off" then .off else .notSet
    .ok { dev := { maxsize := size, dumpCore } }
  else .ok { dev := {} }

/-! ### Consoles -/

/-- The table of `chardev_source_type_StrToID` and `chardev_source_type_IDToStr`. -/
def chardevSourceTypes : List (String × ChardevSourceType) :=
  [("null", .null), ("vc", .vc), ("pty", .pty), ("dev", .dev), ("file", .file), ("pipe", .pipe),
    ("stdio", .stdio), ("udp", .udp), ("tcp", .tcp), ("unix", .unixsock),
    ("spicevmc", .spicevmc)]

/-- `chardev_source_type_StrToID`; `none` is its unknown type. -/
def chardevSourceTypeStrToID (typeStr : String) : Option ChardevSourceType :=
  (chardevSourceTypes.find? fun entry => streqc typeStr entry.1).map Prod.snd

/-- `chardev_source_type_IDToStr`. -/
def chardevSourceTypeIDToStr (type : ChardevSourceType) : Option String :=
  (chardevSourceTypes.find? fun entry => entry.2 = type).map Prod.fst

/-- A `source` child, read according to the type of the console. -/
def parseConsoleSource (sourceType : ChardevSourceType) (sd : SourceDev) (child : Node) :
    Except Stop SourceDev :=
  match sourceType with
  | .pty | .dev | .file | .pipe => .ok { sd with slot0 := getAttrValue child "path" }
  | .unixsock => .ok { sd with
      slot1 := getAttrValue child "mode"
      slot0 := getAttrValue child "path" }
  | .udp =>
    match getAttrValue child "mode" with
    | none => .error .reject
    | some mode =>
      if streqc mode "bind" then .ok { sd with
        slot0 := getAttrValue child "host"
        slot1 := getAttrValue child "service" }
      else if streqc mode "connect" then .ok { sd with
        slot2 := getAttrValue child "host"
        slot3 := getAttrValue child "service" }
      else .error .reject
  | .tcp => .ok { sd with
      slot0 := getAttrValue child "mode"
      slot2 := getAttrValue child "host"
      slot3 := getAttrValue child "service" }
  | .null | .vc | .stdio | .spicevmc => .ok sd

/-- The children of a `console`, with the port of the first target that has been
seen. -/
def parseConsoleChild (st : ConsoleDevice × Option String) (child : Node) :
    Except Stop (ConsoleDevice × Option String) :=
  let (cdev, targetPortID) := st
  if child.name = "target" then
    if targetPortID = none then
      match getAttrValue child "port" with
      | none => .error .reject
      | some port => .ok ({ cdev with targetType := getAttrValue child "type" }, some port)
    else .ok st
  else if child.name = "source" then do
    let sd ← parseConsoleSource cdev.sourceType cdev.sourceDev child
    .ok ({ cdev with sourceDev := sd }, targetPortID)
  else if cdev.sourceType = .tcp ∧ child.name = "protocol" then
    .ok ({ cdev with sourceDev := { cdev.sourceDev with slot1 := getAttrValue child "type" } },
      targetPortID)
  else .ok st

/-- `parse_console_device`. -/
def parseConsoleDevice (node : Node) : Except Stop (VirtDevice ConsoleDevice) := do
  let some typeStr := getAttrValue node "type" | .error .reject
  let some sourceType := chardevSourceTypeStrToID typeStr | .error .reject
  let (cdev, targetPortID) ← node.children.foldlM parseConsoleChild ({ sourceType }, none)
  .ok { type := .console, dev := cdev, id := some ("charconsole:" ++ formatStr targetPortID) }

/-! ### Graphics -/

/-- `get_attr_value_default`. -/
def getAttrValueDefault (node : Node) (attrname default : String) : Option String :=
  some ((getAttrValue node attrname).getD default)

/-- The children of a graphics node of type `pty`. -/
def parsePtyChild (gdev : GraphicsDevice) (child : Node) : GraphicsDevice :=
  if child.name = "source" then { gdev with host := getAttrValue child "path" }
  else if child.name = "target" then { gdev with port := getAttrValue child "port" }
  else gdev

/-- The graphics device of a node, without its id. -/
def parseGraphics (node : Node) (type : String) : Except Stop GraphicsDevice :=
  if streqc type "vnc" then .ok
    { type := some type
      port := getAttrValueDefault node "port" "-1"
      host := getAttrValueDefault node "listen" "127.0.0.1"
      keymap := getAttrValue node "keymap"
      passwd := getAttrValue node "passwd" }
  else if streqc type "sdl" then .ok
    { type := some type
      port := getAttrValue node "display"
      host := getAttrValue node "xauth"
      keymap := getAttrValue node "fullscreen" }
  else if streqc type "pty" then
    -- a console in its place among the graphics
    .ok (node.children.foldl parsePtyChild { type := some node.name })
  else .error .reject

/-- `parse_graphics_device`. -/
def parseGraphicsDevice (node : Node) : Except Stop (VirtDevice GraphicsDevice) := do
  let some type := getAttrValue node "type" | .error .reject
  let gdev ← parseGraphics node type
  let id :=
    if streqc (gdev.type.getD "") "vnc" then formatStr gdev.type
    else formatStr gdev.type ++ ":" ++ formatStr gdev.port
  .ok { type := .graphics, dev := gdev, id := some id }

/-! ### Input devices and controllers -/

/-- `parse_input_device`. -/
def parseInputDevice (node : Node) : Except Stop (VirtDevice InputDevice) :=
  match getAttrValue node "type", getAttrValue node "bus" with
  | some type, some bus => .ok
    { type := .input, dev := { type := some type, bus := some bus }
      id := some (type ++ ":" ++ bus) }
  | _, _ => .error .reject

/-- The table of `controller_protocol_type_StrToID` and
`controller_protocol_type_IDToStr`. -/
def controllerProtocolTypes : List (String × ControllerType) :=
  [("ide", .ide), ("fdc", .fd), ("scsi", .scsiSsa), ("sata", .sata), ("ccid", .ccid),
    ("virtio-serial", .virtioSerial), ("pci", .pci), ("usb", .usb)]

/-- `controller_protocol_type_StrToID`. -/
def controllerProtocolTypeStrToID (typeStr : String) : ControllerType :=
  ((controllerProtocolTypes.find? fun entry => streqc typeStr entry.1).map Prod.snd).getD .unknown

/-- `controller_protocol_type_IDToStr`. -/
def controllerProtocolTypeIDToStr (type : ControllerType) : Option String :=
  (controllerProtocolTypes.find? fun entry => entry.2 = type).map Prod.fst

/-- The children of a `controller`. -/
def parseControllerChild (cdev : ControllerDevice) (child : Node) : ControllerDevice :=
  if child.name = "address" then
    { cdev with address := parseDeviceAddress child cdev.address }
  else if child.name = "driver" then { cdev with queues := getAttrValue child "queues" }
  else cdev

/-- `parse_controller_device`. -/
def parseControllerDevice (cnode : Node) : Except Stop (VirtDevice ControllerDevice) := do
  let some typeStr := getAttrValue cnode "type" | .error .reject
  let type := controllerProtocolTypeStrToID typeStr
  if type = .unknown then .error .reject
  else
    let some index := getAttrValue cnode "index" | .error .reject
    let cdev := cnode.children.foldl parseControllerChild
      { type
        index := (scanU64 index).getD 0
        model := getAttrValue cnode "model"
        ports := getAttrValue cnode "ports"
        vectors := getAttrValue cnode "vectors" }
    .ok
      { type := .controller
        dev := cdev
        id := some ("controller:" ++ typeStr ++ ":" ++ toString cdev.index.toNat) }

/-! ### Device lists -/

/-- `do_parse`: the devices of the nodes that are not rejected. -/
def doParse {α : Type} (doRealParse : Node → Except Stop (VirtDevice α)) :
    List Node → Except Stop (List (VirtDevice α))
  | [] => .ok []
  | node :: nodes =>
    match doRealParse node with
    | .ok dev => (dev :: ·) <$> doParse doRealParse nodes
    | .error .reject => doParse doRealParse nodes
    | .error .fault => .error .fault

end LibvirtCim.Device
