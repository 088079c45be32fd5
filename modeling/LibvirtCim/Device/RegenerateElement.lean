import LibvirtCim.Device.ConsoleRoundTrip
import LibvirtCim.Device.ControllerRoundTrip
import LibvirtCim.Device.DisplayRoundTrip
import LibvirtCim.Device.Reread
import LibvirtCim.Device.WellFormed

/-!
# Elements that are written again

An element that a generator wrote is read and written once more. Where this gives the same
element, the element is regenerated (`Regenerates`); for each type of device the condition
on the device it was written for is exact. A list of elements gives the same list if and
only if each of its elements is regenerated, since no element makes more than one.

An element that has a key of its address twice is no element of a document, so that the keys
are taken to be distinct here; the documents are left to see to it.
-/

open Framework

namespace LibvirtCim.Device

/-- The element is read as a device for which it is written. -/
def Regenerates (domtype : DomainType) (kind : DevKind) (node : Node) : Prop :=
  ∃ dev, doRealParse kind node = .ok dev ∧ deviceXml domtype kind dev.dev = .ok [node]

/-! ### Lists -/

/-- Reading a list of elements and writing it again. -/
def Rewritten (domtype : DomainType) (kind : DevKind) (nodes nodes' : List Node) : Prop :=
  ∃ devs, doParse (doRealParse kind) nodes = .ok devs ∧
    devicesXml (deviceXml domtype kind) devs = .ok nodes'

/-- A list taken apart at its head. -/
theorem rewritten_cons {domtype : DomainType} {kind : DevKind} {node : Node}
    {nodes nodes' : List Node} (h : Rewritten domtype kind (node :: nodes) nodes') :
    ∃ ns rest, nodes' = ns ++ rest ∧ Rewritten domtype kind nodes rest ∧
      ((∃ dev, doRealParse kind node = .ok dev ∧ deviceXml domtype kind dev.dev = .ok ns) ∨
        doRealParse kind node = .error .reject ∧ ns = []) := by
  obtain ⟨devs, hparse, hxml⟩ := h
  obtain ⟨dev, devs, hnode, hdevs, rfl⟩ | ⟨hnode, hdevs⟩ := doParse_cons hparse
  · obtain ⟨hunknown, -⟩ | ⟨-, ns, rest, hns, hrest, rfl⟩ := devicesXml_cons hxml
    · exact absurd hunknown (type_of_parsed hnode)
    exact ⟨ns, rest, rfl, ⟨devs, hdevs, hrest⟩, .inl ⟨dev, hnode, hns⟩⟩
  · exact ⟨[], nodes', rfl, ⟨devs, hdevs, hxml⟩, .inr ⟨hnode, rfl⟩⟩

theorem Rewritten.length_le {domtype : DomainType} {kind : DevKind} {nodes nodes' : List Node}
    (h : Rewritten domtype kind nodes nodes') : nodes'.length ≤ nodes.length := by
  induction nodes generalizing nodes' with
  | nil =>
    obtain ⟨devs, hparse, hxml⟩ := h
    cases hparse
    cases hxml
    rfl
  | cons node nodes ih =>
    obtain ⟨ns, rest, rfl, hrest, hcases⟩ := rewritten_cons h
    have hle := ih hrest
    -- at most one element is written for a device, and none for one that was rejected
    have hns : ns.length ≤ 1 := by
      obtain ⟨dev, -, hdev⟩ | ⟨-, rfl⟩ := hcases
      · exact length_deviceXml hdev
      · exact Nat.zero_le 1
    rw [List.length_append, List.length_cons]
    omega

/-- **A list is written again as it is** if and only if every element is. -/
theorem rewritten_self_iff {domtype : DomainType} {kind : DevKind} {nodes : List Node} :
    Rewritten domtype kind nodes nodes ↔ ∀ node ∈ nodes, Regenerates domtype kind node := by
  induction nodes with
  | nil => exact ⟨fun _ => nofun, fun _ => ⟨[], rfl, rfl⟩⟩
  | cons node nodes ih =>
    rw [List.forall_mem_cons, ← ih]
    constructor
    -- as many elements as before only when none is lost
    · intro h
      obtain ⟨ns, rest, heq, hrest, hcases⟩ := rewritten_cons h
      have hle := hrest.length_le
      have hlen := congrArg List.length heq
      rw [List.length_cons, List.length_append] at hlen
      -- an element that is lost would leave too few of them
      obtain ⟨dev, hnode, hdev⟩ | ⟨-, rfl⟩ := hcases
      · have hns := length_deviceXml hdev
        obtain ⟨n, rfl⟩ := List.length_eq_one_iff.mp (show ns.length = 1 by omega)
        obtain ⟨rfl, rfl⟩ := List.cons.inj heq
        exact ⟨⟨dev, hnode, hdev⟩, hrest⟩
      · rw [List.length_nil] at hlen
        omega
    -- each element is its own device's, so the list is theirs
    · rintro ⟨⟨dev, hnode, hdev⟩, devs, hparse, hxml⟩
      refine ⟨dev :: devs, ?_, ?_⟩
      · rw [doParse, hnode, hparse]
        rfl
      · rw [devicesXml, if_neg (type_of_parsed hnode), hdev, hxml]
        rfl

/-- An element that is regenerated is there as often as before. -/
theorem Rewritten.countP_le {domtype : DomainType} {kind : DevKind} {node : Node}
    (hnode : Regenerates domtype kind node) {nodes nodes' : List Node} {p : Node → Bool}
    (hp : ∀ n, p n = true ↔ n = node) (h : Rewritten domtype kind nodes nodes') :
    nodes.countP p ≤ nodes'.countP p := by
  induction nodes generalizing nodes' with
  | nil => exact Nat.zero_le _
  | cons n nodes ih =>
    obtain ⟨ns, rest, rfl, hrest, hcases⟩ := rewritten_cons h
    have hle := ih hrest
    -- an equal element is counted before and after
    rw [List.countP_cons, List.countP_append]
    split
    · next hpn =>
      -- the element is written as itself
      obtain rfl := (hp n).mp hpn
      obtain ⟨dev, hdev, hxml⟩ := hnode
      have hone : ns = [n] := by
        obtain ⟨dev', hdev', hxml'⟩ | ⟨hreject, -⟩ := hcases
        · cases hdev.symm.trans hdev'
          exact Except.ok.inj (hxml'.symm.trans hxml)
        · rw [hdev] at hreject
          cases hreject
      rw [hone, List.countP_singleton, if_pos hpn]
      omega
    · omega

/-- **One element more.** A list is not what is written for a list with one more element
that is regenerated. -/
theorem not_rewritten_append {domtype : DomainType} {kind : DevKind} {node : Node}
    (hnode : Regenerates domtype kind node) (nodes : List Node) :
    ¬ Rewritten domtype kind (nodes ++ [node]) nodes := by
  classical
  intro h
  have hle := h.countP_le hnode (p := fun n => decide (n = node)) (fun n => decide_eq_true_iff)
  rw [List.countP_append, List.countP_singleton, if_pos (by simp)] at hle
  omega

/-! ### Disks -/

theorem deviceAddressXml_inj {addr addr' : DeviceAddress} :
    deviceAddressXml addr = deviceAddressXml addr' ↔ addr = addr' := by
  constructor
  · intro h
    unfold deviceAddressXml at h
    split at h <;> split at h <;> simp_all
  · intro h
    rw [h]

theorem length_deviceAddressXml (addr : DeviceAddress) :
    (deviceAddressXml (readBack addr)).length = (deviceAddressXml addr).length := by
  unfold deviceAddressXml
  cases addr <;> simp [readBack]

/-- The disk is written as an element that is read as the disk: a file system is written
without its type, and `/dev/null` is left out. -/
def DiskStable (disk : DiskDevice) : Prop :=
  disk.diskType = .file ∨ disk.diskType = .phy ∧ disk.source ≠ some "/dev/null"

/-- Whether an element is regenerated, once what it is read as is known. -/
theorem regenerates_iff_of_ok {domtype : DomainType} (kind : DevKind) {n : Node}
    {dev : VirtDevice kind.Dev} {f : Node → Except Stop (VirtDevice kind.Dev)}
    (hf : doRealParse kind = f) (h : f n = .ok dev) :
    Regenerates domtype kind n ↔ deviceXml domtype kind dev.dev = .ok [n] := by
  subst hf
  constructor
  · rintro ⟨dev', hdev', hxml⟩
    cases h.symm.trans hdev'
    exact hxml
  · intro hxml
    exact ⟨dev, h, hxml⟩

theorem not_regenerates_of_error {domtype : DomainType} (kind : DevKind) {n : Node} {stop : Stop}
    {f : Node → Except Stop (VirtDevice kind.Dev)} (hf : doRealParse kind = f)
    (h : f n = .error stop) : ¬ Regenerates domtype kind n := by
  subst hf
  rintro ⟨dev, hdev, -⟩
  rw [h] at hdev
  cases hdev

theorem diskFileXml_eq_iff (d : DiskDevice) (type rawio sgio : Option String)
    (address : DeviceAddress) :
    diskFileXml { d with type, rawio, sgio, address } = diskFileXml d ↔ address = d.address := by
  simp [diskFileXml, diskDriverXml, diskTargetXml, deviceAddressXml_inj]

theorem diskBlockXml_eq_iff (d : DiskDevice) (type : Option String) (address : DeviceAddress) :
    diskBlockXml { d with type, address } = diskBlockXml d ↔ address = d.address := by
  simp [diskBlockXml, diskDriverXml, diskTargetXml, deviceAddressXml_inj]

theorem regenerates_disk_iff {domtype : DomainType} {node n : Node} {d : VirtDevice DiskDevice}
    (hparse : parseDiskDevice node = .ok d) (hxml : diskXmlOf d.dev = .ok [n])
    (hkeys : (keys d.dev.address).Nodup) : Regenerates domtype .disk n ↔ DiskStable d.dev := by
  have haddress : readBack d.dev.address = d.dev.address := readBack_of_nodup hkeys
  -- a block disk or a file system, as parse_disk_device tries them in turn
  obtain ⟨-, h⟩ | ⟨-, h⟩ := parseDiskDevice_ok hparse
  · obtain ⟨hd, -, hid, hsome, htype⟩ := parseBlockDevice_ok h
    rw [hid] at hsome
    obtain ⟨virtualDev, hvirtual⟩ := Option.isSome_iff_exists.mp hsome
    -- type "block" or "file", each written by a function of its own
    obtain hphy | hfile := htype
    · obtain rfl : diskBlockXml d.dev = n := by
        rw [diskXmlOf, hphy] at hxml
        simpa using hxml
      -- the source "/dev/null" is only there because an empty cdrom has none
      by_cases hnull : d.dev.source = some "/dev/null"
      · have hunstable : ¬ DiskStable d.dev := by
          rintro (hfile | ⟨-, hsource⟩)
          · rw [hphy] at hfile
            cases hfile
          · exact hsource hnull
        have hback := parse_diskBlockXml_devNull hd hvirtual hnull
        refine iff_of_false ?_ hunstable
        split at hback
        · -- an empty cdrom is written as a file
          rw [regenerates_iff_of_ok .disk (f := parseDiskDevice) rfl hback]
          intro heq
          obtain ⟨heq, -⟩ := List.cons.inj (Except.ok.inj heq)
          have hattr := congrArg (fun n => n.attr "type") heq
          simp [diskFileXml, diskBlockXml] at hattr
        · exact not_regenerates_of_error .disk (f := parseDiskDevice) rfl hback
      · rw [regenerates_iff_of_ok .disk (f := parseDiskDevice) rfl
          (parse_diskBlockXml hd hvirtual hphy hnull)]
        -- only the address could differ, and it has no key twice
        have hback : diskXmlOf { d.dev with
            type := some "block", address := readBack d.dev.address } = .ok [diskBlockXml d.dev] ↔
            readBack d.dev.address = d.dev.address := by
          rw [← diskBlockXml_eq_iff d.dev (some "block") (readBack d.dev.address)]
          simp [diskXmlOf, hphy]
        show diskXmlOf _ = _ ↔ _
        rw [hback]
        exact iff_of_true haddress (.inr ⟨hphy, hnull⟩)
    · obtain rfl : diskFileXml d.dev = n := by
        rw [diskXmlOf, hfile] at hxml
        simpa using hxml
      -- rawio and sgio are read for LUN devices, and not written
      obtain ⟨rawio, sgio, hback⟩ := parse_diskFileXml hd hvirtual hfile
      rw [regenerates_iff_of_ok .disk (f := parseDiskDevice) rfl hback]
      have hback : diskXmlOf { d.dev with
          type := some "file", rawio, sgio, address := readBack d.dev.address } =
            .ok [diskFileXml d.dev] ↔ readBack d.dev.address = d.dev.address := by
        rw [← diskFileXml_eq_iff d.dev (some "file") rawio sgio (readBack d.dev.address)]
        simp [diskXmlOf, hfile]
      show diskXmlOf _ = _ ↔ _
      rw [hback]
      exact iff_of_true haddress (.inl hfile)
  · obtain ⟨hd, -, hid, hsome, hsource, htype⟩ := parseFsDevice_ok h
    rw [hid] at hsome
    obtain ⟨virtualDev, hvirtual⟩ := Option.isSome_iff_exists.mp hsome
    obtain ⟨source, hsource⟩ := Option.isSome_iff_exists.mp hsource
    -- a file system is written without what parse_fs_device asks for
    obtain rfl : diskFsXml d.dev = n := by
      rw [diskXmlOf, htype] at hxml
      simpa using hxml
    refine iff_of_false (not_regenerates_of_error .disk (f := parseDiskDevice) rfl
      (parse_diskFsXml hd hsource hvirtual htype).1) ?_
    simp [DiskStable, htype]

/-! ### Interfaces -/

/-- The parameters of a virtual port that are read. -/
def ParametersRead (vsi : VsiDevice) : Prop :=
  vsi.vsiType ≠ some "802.1Qbh" ∧ vsi.managerId.isSome ∧ vsi.typeId.isSome ∧
    vsi.typeIdVersion.isSome

/-- The interface is written as an element that is read as the interface: a direct one has
a mode with its source, and the parameters of 802.1Qbg with its virtual port. -/
def NetStable (net : NetDevice) : Prop :=
  net.type = some "direct" → (net.source.isSome → net.netMode.isSome) ∧
    (net.vsi.vsiType.isSome → ParametersRead net.vsi)

section Net

variable {domtype : DomainType} {net : NetDevice} {rest : List Node}

/-- The element of an interface. -/
def interfaceXml (net : NetDevice) (rest : List Node) : Node :=
  .elem "interface" (prop "type" net.type) (commonNetXml net ++ rest)

/-- An interface whose common part is that of another one. -/
theorem commonNetXml_commonNet (net : NetDevice) (source poolid netMode : Option String)
    (vsi : VsiDevice) :
    commonNetXml { commonNet net with source, poolid, netMode, vsi } = commonNetXml net ↔
      readBack net.address = net.address := by
  simp [commonNetXml, commonNet, bandwidthXml, deviceAddressXml_inj]

theorem length_commonNetXml (net : NetDevice) (source poolid netMode : Option String)
    (vsi : VsiDevice) :
    (commonNetXml { commonNet net with source, poolid, netMode, vsi }).length =
      (commonNetXml net).length := by
  simp [commonNetXml, commonNet, bandwidthXml, length_deviceAddressXml]

/-- Whether an interface is regenerated, once its last children are read. -/
theorem regenerates_net_of_fold {mac type : String} {ndev : NetDevice}
    {source poolid netMode : Option String} {vsi : VsiDevice} (hmac : net.mac = some mac)
    (htype : net.type = some type)
    (hfold : rest.foldlM parseNetChild (commonNet net) = .ok ndev)
    (hndev : ndev = { commonNet net with source, poolid, netMode, vsi }) :
    Regenerates domtype .net (interfaceXml net rest) ↔
      readBack net.address = net.address ∧ netTypeXml ndev domtype = .ok rest := by
  -- the element is read child by child, the common ones first
  have hparse : parseNetDevice (interfaceXml net rest) =
      .ok { type := .net, dev := ndev, id := some mac } := by
    have hattr : (interfaceXml net rest).attr "type" = some type := by
      simp [interfaceXml, htype]
    have hchildren : (interfaceXml net rest).children.foldlM parseNetChild
        { type := some type } = .ok ndev := by
      rw [← htype]
      exact foldlM_append_ok (fold_commonNetXml net) hfold
    apply parseNetDevice_of_fold hattr hchildren
    rw [hndev]
    exact hmac
  rw [regenerates_iff_of_ok .net (f := parseNetDevice) rfl hparse]
  show netXmlOf domtype ndev = .ok [interfaceXml net rest] ↔ _
  constructor
  -- the common children are as many as before, so they can be told from the rest
  · intro hxml
    obtain ⟨rest', hrest', heq⟩ := bind_eq_ok hxml
    obtain ⟨-, -, hchildren⟩ := Node.elem.inj (List.cons.inj (Except.ok.inj heq)).1
    rw [hndev] at hchildren
    obtain ⟨hcommon, rfl⟩ := List.append_inj hchildren
      (length_commonNetXml net source poolid netMode vsi)
    exact ⟨(commonNetXml_commonNet net source poolid netMode vsi).mp hcommon, hrest'⟩
  -- back: with the same address the common children are the same
  · rintro ⟨haddress, hrest'⟩
    have hcommon := (commonNetXml_commonNet net source poolid netMode vsi).mpr haddress
    rw [← hndev] at hcommon
    have hattrs : prop "type" ndev.type = prop "type" net.type := by
      rw [hndev]
      rfl
    rw [netXmlOf, hrest']
    show Except.ok [Node.elem "interface" (prop "type" ndev.type) (commonNetXml ndev ++ rest)] = _
    rw [hcommon, hattrs]
    rfl

/-- An interface whose last children are not accepted. -/
theorem not_regenerates_net (htype : net.type.isSome)
    (hfold : rest.foldlM parseNetChild (commonNet net) = .error .reject) :
    ¬ Regenerates domtype .net (interfaceXml net rest) := by
  obtain ⟨type, htype⟩ := Option.isSome_iff_exists.mp htype
  have hattr : getAttrValue (interfaceXml net rest) "type" = some type := by
    simp [interfaceXml, htype]
  have hchildren : (interfaceXml net rest).children.foldlM parseNetChild { type := some type } =
      .error .reject := by
    rw [interfaceXml, Node.children_elem, List.foldlM_append, ← htype, fold_commonNetXml]
    exact hfold
  have hreject : parseNetDevice (interfaceXml net rest) = .error .reject := by
    unfold parseNetDevice
    simp only [hattr, hchildren]
    rfl
  exact not_regenerates_of_error .net (f := parseNetDevice) rfl hreject

end Net

/-- What is written for a virtual port that was read. -/
theorem netTypeXml_readVsi {domtype : DomainType} {net ndev : NetDevice} {type : String}
    (htype : ndev.type = some "direct")
    (hset : setNetSource ndev "direct" = setNetSource net "direct")
    (hvsi : net.vsi.vsiType = some type) (hread : ndev.vsi = readVsi net.vsi) :
    netTypeXml ndev domtype =
        .ok ((setNetSource net "direct").toOption.getD [] ++ [setNetVsi net.vsi]) ↔
      ParametersRead net.vsi := by
  -- the port stands behind the source, when there is one
  have hxml : netTypeXml ndev domtype = if ndev.vsi.vsiType = none then setNetSource net "direct"
      else .ok ((setNetSource net "direct").toOption.getD [] ++ [setNetVsi ndev.vsi]) := by
    simp [netTypeXml, htype, hset]
  -- parse_vsi_device leaves the port out unless all three parameters are there
  have hgood : ParametersRead net.vsi ↔ type ≠ "802.1Qbh" ∧ net.vsi.managerId.isSome ∧
      net.vsi.typeId.isSome ∧ net.vsi.typeIdVersion.isSome := by
    simp [ParametersRead, hvsi]
  rw [hxml, hread, readVsi_of_parameters hvsi, hgood]
  split
  · next hparams =>
    refine iff_of_true ?_ hparams
    simp [setNetVsi, hvsi, hparams.1]
  · next hparams =>
    -- without the port, one child is missing
    refine iff_of_false (fun heq => ?_) hparams
    rw [if_pos rfl] at heq
    cases hset : setNetSource net "direct" with
    | error msg =>
      rw [hset] at heq
      cases heq
    | ok source =>
      rw [hset] at heq
      have hlen := congrArg List.length (Except.ok.inj heq)
      simp [Except.toOption] at hlen

/-- A direct interface with a virtual port. -/
theorem regenerates_directPort {domtype : DomainType} {net : NetDevice} {mac type : String}
    (hmac : net.mac = some mac) (htype : net.type = some "direct")
    (hvsi : net.vsi.vsiType = some type) (haddress : readBack net.address = net.address) :
    Regenerates domtype .net (interfaceXml net
        ((setNetSource net "direct").toOption.getD [] ++ [setNetVsi net.vsi])) ↔
      NetStable net := by
  -- the port alone sets the whole port of the interface
  have hport (s : NetDevice) (hs : s.vsi = {}) :
      [setNetVsi net.vsi].foldlM parseNetChild s = .ok { s with vsi := readVsi net.vsi } := by
    rw [List.foldlM_cons, parseNetChild_setNetVsi hs]
    rfl
  have hstable : NetStable net ↔
      (net.source.isSome → net.netMode.isSome) ∧ ParametersRead net.vsi := by
    simp [NetStable, htype, hvsi, ParametersRead]
  have hfold := fold_directSource net
  rw [hstable]
  -- a direct interface whose source is missing
  cases hsource : net.source with
  | none =>
    rw [hsource, if_neg (by simp)] at hfold
    rw [regenerates_net_of_fold hmac htype (foldlM_append_ok hfold (hport _ rfl)) rfl,
      netTypeXml_readVsi ?_ ?_ hvsi ?_]
    · simp [haddress]
    · exact htype
    · simp [setNetSource, hsource, commonNet]
    · rfl
  | some source =>
    -- or has a source without a mode
    cases hmode : net.netMode with
    | none =>
      rw [hsource, hmode, if_pos (by simp), if_neg (by simp)] at hfold
      refine iff_of_false (not_regenerates_net (by simp [htype]) ?_) (by simp)
      rw [List.foldlM_append, hfold]
      rfl
    | some mode =>
      rw [hsource, hmode, if_pos (by simp), if_pos (by simp)] at hfold
      rw [regenerates_net_of_fold hmac htype (foldlM_append_ok hfold (hport _ rfl)) rfl,
        netTypeXml_readVsi ?_ ?_ hvsi ?_]
      · simp [haddress]
      · exact htype
      · simp [setNetSource, hsource, hmode]
      · rfl

theorem regenerates_net_iff {domtype : DomainType} {n : Node} {net : NetDevice}
    (hmac : net.mac.isSome) (hxml : netXmlOf domtype net = .ok [n])
    (hkeys : (keys net.address).Nodup) : Regenerates domtype .net n ↔ NetStable net := by
  have haddress : readBack net.address = net.address := readBack_of_nodup hkeys
  obtain ⟨mac, hmac⟩ := Option.isSome_iff_exists.mp hmac
  obtain ⟨rest, hrest, heq⟩ := bind_eq_ok hxml
  obtain rfl : interfaceXml net rest = n := (List.cons.inj (Except.ok.inj heq)).1
  -- by the type of the network, as net_xml branches
  by_cases hnetwork : net.type = some "network"
  · have hstable : NetStable net := by
      simp [NetStable, hnetwork]
    -- the source must be there for the type to be written at all
    rw [netTypeXml, if_pos hnetwork, setNetSource] at hrest
    cases hsource : net.source with
    | none =>
      rw [hsource] at hrest
      cases hrest
    | some source =>
      rw [hsource] at hrest
      cases hrest
      rw [regenerates_net_of_fold hmac hnetwork rfl rfl]
      simp [netTypeXml, commonNet, hnetwork, setNetSource, haddress, hstable]
  by_cases hbridge : net.type = some "bridge"
  · have hstable : NetStable net := by
      simp [NetStable, hbridge]
    rw [netTypeXml, if_neg hnetwork, if_pos hbridge, bridgeNetToXml, setNetSource] at hrest
    cases hsource : net.source with
    | none =>
      rw [hsource] at hrest
      cases hrest
    | some source =>
      rw [hsource] at hrest
      -- the script of a Xen guest is written again
      by_cases hxen : domtype = .xenpv ∨ domtype = .xenfv
      · obtain rfl := Except.ok.inj ((if_pos hxen).symm.trans hrest)
        rw [regenerates_net_of_fold hmac hbridge rfl rfl]
        simp [netTypeXml, commonNet, hbridge, bridgeNetToXml, setNetSource, hxen, bind, Except.bind,
          haddress, hstable]
      · obtain rfl := Except.ok.inj ((if_neg hxen).symm.trans hrest)
        rw [regenerates_net_of_fold hmac hbridge rfl rfl]
        simp [netTypeXml, commonNet, hbridge, bridgeNetToXml, setNetSource, hxen, bind, Except.bind,
          haddress, hstable]
  by_cases huser : net.type = some "user"
  · have hstable : NetStable net := by
      simp [NetStable, huser]
    rw [netTypeXml, if_neg hnetwork, if_neg hbridge, if_pos huser] at hrest
    cases hrest
    rw [regenerates_net_of_fold hmac huser rfl rfl]
    simp [netTypeXml, commonNet, huser, haddress, hstable]
  -- a direct interface, with a port or without one
  by_cases hdirect : net.type = some "direct"
  · rw [netTypeXml, if_neg hnetwork, if_neg hbridge, if_neg huser, if_pos hdirect] at hrest
    cases hvsi : net.vsi.vsiType with
    | some type =>
      rw [if_neg (by simp [hvsi])] at hrest
      cases hrest
      exact regenerates_directPort hmac hdirect hvsi haddress
    | none =>
      -- without a port, only the mode of the source can be missing
      rw [if_pos hvsi, setNetSource] at hrest
      have hstable : NetStable net ↔ (net.source.isSome → net.netMode.isSome) := by
        simp [NetStable, hdirect, hvsi]
      rw [hstable]
      cases hsource : net.source with
      | none =>
        rw [hsource] at hrest
        cases hrest
      -- the source has a mode of its own, or "mode" is read as missing
      | some source =>
        rw [hsource] at hrest
        cases hrest
        cases hmode : net.netMode with
        | none =>
          refine iff_of_false (not_regenerates_net (by simp [hdirect]) ?_) (by simp)
          rfl
        | some mode =>
          rw [regenerates_net_of_fold hmac hdirect rfl rfl]
          simp [netTypeXml, commonNet, hdirect, setNetSource, haddress]
  -- no other type is written
  · rw [netTypeXml, if_neg hnetwork, if_neg hbridge, if_neg huser, if_neg hdirect] at hrest
    cases hrest

/-! ### Consoles and controllers -/

/-- What a console is read as is written like the console. -/
theorem consoleSourceXml_readSource (cdev : ConsoleDevice) :
    consoleSourceXml { sourceType := cdev.sourceType, sourceDev := readSource cdev } =
      consoleSourceXml cdev := by
  obtain ⟨sourceType, sd, targetType⟩ := cdev
  cases sourceType <;> rfl

theorem regenerates_console_iff {domtype : DomainType} {n : Node} {cdev : ConsoleDevice}
    (hxml : consoleXmlOf cdev = .ok [n]) :
    Regenerates domtype .console n ↔ cdev.targetType = none := by
  cases hxml
  have hback := parse_consoleXml cdev
  cases htarget : cdev.targetType with
  | some type =>
    rw [htarget] at hback
    exact iff_of_false (not_regenerates_of_error .console (f := parseConsoleDevice) rfl hback) nofun
  | none =>
    rw [htarget, if_neg (by simp)] at hback
    refine iff_of_true ?_ rfl
    rw [regenerates_iff_of_ok .console (f := parseConsoleDevice) rfl hback]
    show consoleXmlOf _ = _
    rw [consoleXmlOf, consoleSourceXml_readSource]

/-- The controller is written as an element that is read as the controller. -/
def ControllerStable (cdev : ControllerDevice) : Prop :=
  cdev.queues = none ∧ cdev.index ≠ controllerIndexNotSet

theorem regenerates_controller_iff {domtype : DomainType} {n : Node} {cdev : ControllerDevice}
    (hxml : controllerXmlOf cdev = .ok [n]) (hkeys : (keys cdev.address).Nodup) :
    Regenerates domtype .controller n ↔ ControllerStable cdev := by
  have haddress : readBack cdev.address = cdev.address := readBack_of_nodup hkeys
  unfold controllerXmlOf at hxml
  split at hxml
  · cases hxml
  · next typeStr htype =>
    cases hxml
    -- what the parser makes of the element that was written
    have hback := parse_controllerXml htype
    show Regenerates domtype .controller (.elem "controller" (controllerAttrs cdev typeStr)
      (optChild "driver" "queueus" cdev.queues ++ deviceAddressXml cdev.address)) ↔ _
    -- the index stands for itself as long as it is not the default
    by_cases hindex : cdev.index = controllerIndexNotSet
    · rw [if_pos hindex] at hback
      refine iff_of_false
        (not_regenerates_of_error .controller (f := parseControllerDevice) rfl hback) ?_
      exact fun hstable => hstable.2 hindex
    · rw [if_neg hindex] at hback
      rw [regenerates_iff_of_ok .controller (f := parseControllerDevice) rfl hback]
      show controllerXmlOf _ = _ ↔ _
      have hchildren : optChild "driver" "queueus" none ++
            deviceAddressXml (readBack cdev.address) =
          optChild "driver" "queueus" cdev.queues ++ deviceAddressXml cdev.address ↔
          cdev.queues = none := by
        cases cdev.queues with
        -- the queues are written under "queueus", which is never read
        | none => simp [optChild, haddress]
        | some queues =>
          -- the driver makes one child more
          refine iff_of_false (fun heq => ?_) (by simp)
          have hlen := congrArg List.length heq
          simp [optChild, length_deviceAddressXml] at hlen
      rw [controllerXmlOf, htype]
      dsimp only
      rw [Except.ok.injEq, List.cons.injEq, Node.elem.injEq, hchildren]
      simp [ControllerStable, controllerAttrs, hindex]

/-! ### Devices of every type -/

/-- A parsed device is written as an element that is read as the device. Displays and input
devices always are. -/
def DevStable : (kind : DevKind) → kind.Dev → Prop
  | .disk, disk => DiskStable disk
  | .net, net => NetStable net
  | .console, cdev => cdev.targetType = none
  | .controller, cdev => ControllerStable cdev
  | .graphics, _ | .input, _ | .mem, _ | .proc, _ => True

/-- A console among the graphics is not written. -/
theorem graphicsXmlOf_pty {node : Node} {d : VirtDevice GraphicsDevice}
    (h : parseGraphicsDevice node = .ok d) (hpty : isPtyNode node)
    (hname : node.name = "graphics" ∨ node.name = "console") : graphicsXmlOf d.dev = .ok [] := by
  -- the type of a pty is the name of its element
  obtain ⟨-, type, htype, hcases⟩ := parseGraphicsDevice_ok h
  obtain ⟨type', htype', hstr⟩ := exists_type_of_isPtyNode hpty
  cases htype.symm.trans htype'
  have hdev : d.dev.type = some node.name := by
    obtain ⟨hvnc, -⟩ | ⟨hsdl, -⟩ | ⟨-, hdev, -⟩ := hcases
    · rw [streqc_congr hstr "vnc"] at hvnc
      exact absurd hvnc (by decide)
    · rw [streqc_congr hstr "sdl"] at hsdl
      exact absurd hsdl (by decide)
    · exact hdev
  -- graphics_xml only knows the types "vnc" and "sdl"
  have hwritten : ¬ (streqc (d.dev.type.getD "") "vnc" ∨ streqc (d.dev.type.getD "") "sdl") := by
    rw [hdev]
    obtain hname | hname := hname <;> rw [hname] <;> decide
  exact if_neg hwritten

/-- **The elements of a parsed device are regenerated** if and only if it is stable. -/
theorem regenerates_parsed_iff {domtype : DomainType} {kind : DevKind} {node : Node}
    (hname : node.name ∈ xpathNames kind) {dev : VirtDevice kind.Dev} {nodes : List Node}
    (hparse : doRealParse kind node = .ok dev)
    (hxml : deviceXml domtype kind dev.dev = .ok nodes)
    (hkeys : (keys (deviceAddress kind dev.dev)).Nodup) :
    (∀ n ∈ nodes, Regenerates domtype kind n) ↔ DevStable kind dev.dev := by
  -- one case for each kind that has elements of its own
  cases kind with
  | disk =>
    obtain ⟨attrs, children, rfl⟩ := diskXmlOf_parsed hparse hxml
    rw [List.forall_mem_singleton]
    exact regenerates_disk_iff hparse hxml hkeys
  | net =>
    obtain ⟨rest, -, heq⟩ := bind_eq_ok hxml
    obtain ⟨-, hid, hsome, -⟩ := parseNetDevice_ok hparse
    rw [hid] at hsome
    cases heq
    rw [List.forall_mem_singleton]
    exact regenerates_net_iff hsome hxml hkeys
  -- consoles and controllers are written whatever their contents are
  | console =>
    cases hxml
    rw [List.forall_mem_singleton]
    exact regenerates_console_iff rfl
  | controller =>
    -- one element for each controller
    have hone : ∃ n, nodes = [n] := by
      change controllerXmlOf dev.dev = .ok nodes at hxml
      unfold controllerXmlOf at hxml
      split at hxml <;> cases hxml
      exact ⟨_, rfl⟩
    obtain ⟨n, rfl⟩ := hone
    rw [List.forall_mem_singleton]
    exact regenerates_controller_iff hxml hkeys
  | input =>
    obtain ⟨n, hn, hback⟩ := input_comesBack hparse
    cases hn.symm.trans hxml
    refine iff_of_true ?_ trivial
    rw [List.forall_mem_singleton]
    exact ⟨dev, hback, hn⟩
  | graphics =>
    refine iff_of_true ?_ trivial
    -- a display or the console of a pty
    cases hpty : isPtyNode node with
    | false =>
      obtain ⟨n, hn, hback⟩ := display_comesBack hparse hpty
      cases hn.symm.trans hxml
      rw [List.forall_mem_singleton]
      exact ⟨dev, hback, hn⟩
    | true =>
      have hnone : graphicsXmlOf dev.dev = .ok [] :=
        graphicsXmlOf_pty hparse hpty (by simpa [xpathNames] using hname)
      cases hnone.symm.trans hxml
      exact List.forall_mem_nil _
  -- memory and processors have no elements of their own
  | mem | proc =>
    cases hxml
    exact iff_of_true (List.forall_mem_nil _) trivial

/-- The names of the nodes that are selected. -/
theorem name_of_mem_xpathNodes {root node : Node} {kind : DevKind}
    (h : node ∈ xpathNodes root kind) : node.name ∈ xpathNames kind := by
  -- the nodes of a path have one of its names
  have helems (names : List String) (nodes : List Node) (hmem : node ∈ elems names nodes) :
      node.name ∈ names := by
    obtain ⟨name, hname, helem⟩ := List.any_eq_true.mp (List.mem_filter.mp hmem).2
    rw [name_of_isElem helem]
    exact hname
  -- the paths below the devices, and those below the domain itself
  have hdevices (names : List String) (hmem : node ∈ devicesXPath root names) :
      node.name ∈ names := by
    obtain ⟨devices, -, hmem⟩ := List.mem_flatMap.mp hmem
    exact helems names _ hmem
  have hdomain (names : List String) (hmem : node ∈ domainXPath root names) :
      node.name ∈ names := by
    unfold domainXPath at hmem
    split at hmem
    · exact helems names _ hmem
    · exact absurd hmem List.not_mem_nil
  cases kind with
  | mem => exact hdomain _ h
  | proc => exact hdomain _ h
  | disk => exact hdevices _ h
  | net => exact hdevices _ h
  | console => exact hdevices _ h
  | graphics => exact hdevices _ h
  | input => exact hdevices _ h
  | controller => exact hdevices _ h

/-- **The elements of a parsed list are regenerated** if and only if each of its devices is
stable. -/
theorem regenerates_list_iff {domtype : DomainType} {kind : DevKind} {root : Node}
    {devs : List (VirtDevice kind.Dev)} {written : List Node}
    (hparse : parseDevices root kind = .ok devs)
    (hxml : devicesXml (deviceXml domtype kind) devs = .ok written)
    (hkeys : ∀ dev ∈ devs, (keys (deviceAddress kind dev.dev)).Nodup) :
    (∀ n ∈ written, Regenerates domtype kind n) ↔ ∀ dev ∈ devs, DevStable kind dev.dev := by
  -- each device comes from a node under the path of its kind
  have hdev : ∀ dev ∈ devs, dev.type ≠ .unknown ∧ ∀ nodes,
      deviceXml domtype kind dev.dev = .ok nodes →
        ((∀ n ∈ nodes, Regenerates domtype kind n) ↔ DevStable kind dev.dev) := by
    intro dev hmem
    obtain ⟨node, hnode, hdev⟩ := exists_node_of_mem hparse hmem
    refine ⟨type_of_parsed hdev, fun nodes hnodes => ?_⟩
    exact regenerates_parsed_iff (name_of_mem_xpathNodes hnode) hdev hnodes (hkeys dev hmem)
  clear hparse hkeys
  -- the list is written device by device
  induction devs generalizing written with
  | nil =>
    cases hxml
    exact iff_of_true nofun nofun
  | cons dev devs ih =>
    rw [List.forall_mem_cons] at hdev ⊢
    obtain ⟨⟨htype, hiff⟩, hdevs⟩ := hdev
    obtain ⟨hunknown, -⟩ | ⟨-, ns, rest, hns, hrest, rfl⟩ := devicesXml_cons hxml
    · exact absurd hunknown htype
    rw [List.forall_mem_append]
    exact and_congr (hiff ns hns) (ih hrest hdevs)

end LibvirtCim.Device
