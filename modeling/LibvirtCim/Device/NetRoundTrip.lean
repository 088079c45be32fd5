import LibvirtCim.Device.Parsed

/-!
# Interfaces through the generator and back

What `parse_net_device` makes of the element `net_xml` writes for a device it parsed. Most
fields are written for every interface (`commonNetXml`) and come back; the source and the
virtual port depend on the type of the interface, and there the two directions differ. The
parser wants the parameters of 802.1Qbg from every virtual port, while the generator writes
those of 802.1Qbh without them; it writes a virtual port for a direct interface only, and
does not write its profile.
-/

open Framework

namespace LibvirtCim.Device

/-! ### The common part -/

/-- The fields that are written for an interface of any type. -/
def commonNet (net : NetDevice) : NetDevice where
  type := net.type
  mac := net.mac
  device := net.device
  model := net.model
  filterRef := net.filterRef
  reservation := net.reservation
  limit := net.limit
  address := readBack net.address

/-- Their children. -/
def commonNetXml (net : NetDevice) : List Node :=
  optChild "mac" "address" net.mac ++ optChild "target" "dev" net.device ++
    optChild "model" "type" net.model ++ optChild "filterref" "filter" net.filterRef ++
    bandwidthXml net ++ deviceAddressXml net.address

/-- A rate that is not written is zero. -/
theorem fold_bandwidthXml {s : NetDevice} (hres : s.reservation = 0) (hlimit : s.limit = 0)
    (net : NetDevice) : (bandwidthXml net).foldlM parseNetChild s =
      .ok { s with reservation := net.reservation, limit := net.limit } := by
  have heta : { s with reservation := 0, limit := 0 } = s := by
    cases s
    cases hres
    cases hlimit
    rfl
  unfold bandwidthXml
  -- the element is left out if both numbers are zero, and zero is what is read then
  by_cases hr : net.reservation = 0
  · by_cases hl : net.limit = 0
    · rw [if_pos ⟨hr, hl⟩, hr, hl, heta]
      rfl
    · simp [hr, hl, parseNetChild, scanAttr]
  · by_cases hl : net.limit = 0
    · simp [hr, hl, parseNetChild, scanAttr]
    · simp [hr, hl, parseNetChild, scanAttr]

theorem fold_commonNetXml (net : NetDevice) :
    (commonNetXml net).foldlM parseNetChild { type := net.type } = .ok (commonNet net) := by
  -- each optional element is there or is not, and reads back as it was
  have hmac : (optChild "mac" "address" net.mac).foldlM parseNetChild { type := net.type } =
      .ok { type := net.type, mac := net.mac } := by
    cases net.mac <;> rfl
  have htarget : (optChild "target" "dev" net.device).foldlM parseNetChild
      { type := net.type, mac := net.mac } =
      .ok { type := net.type, mac := net.mac, device := net.device } := by
    cases net.device <;> rfl
  have hmodel : (optChild "model" "type" net.model).foldlM parseNetChild
      { type := net.type, mac := net.mac, device := net.device } =
      .ok { type := net.type, mac := net.mac, device := net.device, model := net.model } := by
    cases net.model <;> rfl
  have hfilter : (optChild "filterref" "filter" net.filterRef).foldlM parseNetChild
      { type := net.type, mac := net.mac, device := net.device, model := net.model } =
      .ok { type := net.type, mac := net.mac, device := net.device, model := net.model,
            filterRef := net.filterRef } := by
    cases net.filterRef <;> rfl
  -- the five parts and the address, in the order they are written
  refine foldlM_append_ok (foldlM_append_ok (foldlM_append_ok (foldlM_append_ok
    (foldlM_append_ok hmac htarget) hmodel) hfilter) (fold_bandwidthXml rfl rfl net)) ?_
  have haddress (s : NetDevice) (child : Node) (h : child.name = "address") :
      parseNetChild s child = .ok { s with address := parseDeviceAddress child s.address } := by
    simp [parseNetChild, h]
  rw [foldlM_deviceAddressXml (haddress _) rfl rfl]
  rfl

/-! ### The part that depends on the type -/

/-- A virtual port that comes back: not one of 802.1Qbh, with all its parameters, and
without a profile. -/
structure VsiComesBack (vsi : VsiDevice) : Prop where
  vsiType : vsi.vsiType.isSome
  notQbh : vsi.vsiType ≠ some "802.1Qbh"
  managerId : vsi.managerId.isSome
  typeId : vsi.typeId.isSome
  typeIdVersion : vsi.typeIdVersion.isSome
  profileId : vsi.profileId = none
  /-- no parser sets it -/
  filterRef : vsi.filterRef = none

/-- The virtual port that is read from the element of one. -/
def readVsi (vsi : VsiDevice) : VsiDevice :=
  (parseVsiDevice (setNetVsi vsi) {}).vsi

theorem parseNetChild_setNetVsi {s : NetDevice} (hs : s.vsi = {}) (vsi : VsiDevice) :
    parseNetChild s (setNetVsi vsi) = .ok { s with vsi := readVsi vsi } := by
  have hparse : parseNetChild s (setNetVsi vsi) = .ok (parseVsiDevice (setNetVsi vsi) s) := rfl
  rw [hparse, readVsi]
  unfold parseVsiDevice
  cases s
  cases hs
  split
  · rfl
  · split <;> rfl

/-- The parameters are stored if the ones of 802.1Qbg are there. -/
theorem readVsi_of_parameters {vsi : VsiDevice} {type : String} (htype : vsi.vsiType = some type) :
    readVsi vsi =
      if type ≠ "802.1Qbh" ∧ vsi.managerId.isSome ∧ vsi.typeId.isSome ∧
          vsi.typeIdVersion.isSome then
        { vsi with profileId := none, filterRef := none }
      else {} := by
  obtain ⟨_, managerId, typeId, typeIdVersion, instanceId, filterRef, profileId⟩ := vsi
  dsimp only at htype
  subst htype
  -- a port of type 802.1Qbh is not stored, whatever it has
  by_cases hqbh : type = "802.1Qbh"
  · simp [readVsi, setNetVsi, parseVsiDevice, parseVsiChild, hqbh]
  -- of another type, the first of the three that is missing empties the port
  · cases managerId with
    | none => simp [readVsi, setNetVsi, parseVsiDevice, parseVsiChild, hqbh]
    | some managerId =>
      cases typeId with
      | none => simp [readVsi, setNetVsi, parseVsiDevice, parseVsiChild, hqbh]
      | some typeId =>
        cases typeIdVersion with
        | none => simp [readVsi, setNetVsi, parseVsiDevice, parseVsiChild, hqbh]
        | some typeIdVersion =>
          simp [readVsi, setNetVsi, parseVsiDevice, parseVsiChild, hqbh]

/-- **Virtual ports.** -/
theorem readVsi_eq_iff {vsi : VsiDevice} (hport : vsi.vsiType.isSome) :
    readVsi vsi = vsi ↔ VsiComesBack vsi := by
  obtain ⟨type, htype⟩ := Option.isSome_iff_exists.mp hport
  rw [readVsi_of_parameters htype]
  constructor
  · intro h
    -- the port that is read has the type, so it was stored
    split at h
    · next hparams =>
      obtain ⟨hqbh, hmanager, htypeId, hversion⟩ := hparams
      refine ⟨hport, ?_, hmanager, htypeId, hversion, ?_, ?_⟩
      · rw [htype]
        exact fun heq => hqbh (Option.some.inj heq)
      · rw [← h]
      · rw [← h]
    · -- nothing is stored
      rw [← h] at htype
      cases htype
  -- the three are there, and the two that are not written were empty
  · intro h
    have hqbh : type ≠ "802.1Qbh" := by
      rintro rfl
      exact h.notQbh htype
    rw [if_pos ⟨hqbh, h.managerId, h.typeId, h.typeIdVersion⟩]
    have hprofile := h.profileId
    have hfilter := h.filterRef
    cases vsi
    cases hprofile
    cases hfilter
    rfl

/-- The fields that depend on the type of the interface are such that they come back. `net_xml`
has a branch for each type and writes in it what the type needs, so the others must not be there:
a pool belongs to networks, a mode and a virtual port to direct interfaces. -/
def TypeFieldsFit (net : NetDevice) : Prop :=
  if net.type = some "network" then
    net.source.isSome ∧ net.poolid = net.source.map ("NetworkPool/" ++ ·) ∧ net.netMode = none ∧
      net.vsi = {}
  else if net.type = some "bridge" then
    net.source.isSome ∧ net.poolid = none ∧ net.netMode = none ∧ net.vsi = {}
  else if net.type = some "user" then
    net.source = none ∧ net.poolid = none ∧ net.netMode = none ∧ net.vsi = {}
  else if net.type = some "direct" then
    net.poolid = none ∧ net.source.isSome = net.netMode.isSome ∧
      (VsiComesBack net.vsi ∨ net.source.isSome ∧ net.vsi = {})
  else False

/-- An interface that is equal to what its common part and four more fields make. -/
theorem commonNet_eq_iff {net : NetDevice} {source poolid netMode : Option String}
    {vsi : VsiDevice} :
    { commonNet net with source, poolid, netMode, vsi } = net ↔
      readBack net.address = net.address ∧ net.source = source ∧ net.poolid = poolid ∧
        net.netMode = netMode ∧ net.vsi = vsi := by
  cases net
  simp only [commonNet, NetDevice.mk.injEq, true_and]
  constructor
  · rintro ⟨rfl, rfl, rfl, rfl, haddress⟩
    exact ⟨haddress, rfl, rfl, rfl, rfl⟩
  · rintro ⟨haddress, rfl, rfl, rfl, rfl⟩
    exact ⟨rfl, rfl, rfl, rfl, haddress⟩

/-- The children that depend on the type are written, and read back as what they are
written for. -/
def TypePartComesBack (domtype : DomainType) (net : NetDevice) : Prop :=
  ∃ rest, netTypeXml net domtype = .ok rest ∧
    rest.foldlM parseNetChild (commonNet net) = .ok net

theorem typePart_of_fold {domtype : DomainType} {net : NetDevice} {rest : List Node}
    {source poolid netMode : Option String} {vsi : VsiDevice}
    (hrest : netTypeXml net domtype = .ok rest)
    (hfold : rest.foldlM parseNetChild (commonNet net) =
      .ok { commonNet net with source, poolid, netMode, vsi }) :
    TypePartComesBack domtype net ↔ readBack net.address = net.address ∧ net.source = source ∧
      net.poolid = poolid ∧ net.netMode = netMode ∧ net.vsi = vsi := by
  rw [← commonNet_eq_iff]
  constructor
  · rintro ⟨rest', hrest', hback⟩
    cases hrest.symm.trans hrest'
    exact Except.ok.inj (hfold.symm.trans hback)
  · intro heq
    refine ⟨rest, hrest, ?_⟩
    rw [hfold, heq]

theorem not_typePart_of_error {domtype : DomainType} {net : NetDevice} {msg : String}
    (h : netTypeXml net domtype = .error msg) : ¬ TypePartComesBack domtype net := by
  rintro ⟨rest, hrest, -⟩
  rw [h] at hrest
  cases hrest

theorem typePart_network (domtype : DomainType) {net : NetDevice}
    (htype : net.type = some "network") :
    TypePartComesBack domtype net ↔ readBack net.address = net.address ∧ TypeFieldsFit net := by
  have hxml : netTypeXml net domtype = setNetSource net "network" := if_pos htype
  rw [TypeFieldsFit, if_pos htype]
  -- without a source the generator fails, so nothing can come back
  cases hsource : net.source with
  | none =>
    rw [setNetSource, hsource] at hxml
    simp [not_typePart_of_error hxml]
  | some source =>
    rw [setNetSource, hsource] at hxml
    -- the source is read with the pool it names
    have hfold : [Node.elem "source" [("network", source)] []].foldlM parseNetChild
        (commonNet net) = .ok { commonNet net with
          source := some source, poolid := some ("NetworkPool/" ++ source) } := rfl
    rw [typePart_of_fold hxml hfold]
    simp [hsource, commonNet]

theorem typePart_bridge (domtype : DomainType) {net : NetDevice}
    (htype : net.type = some "bridge") :
    TypePartComesBack domtype net ↔ readBack net.address = net.address ∧ TypeFieldsFit net := by
  have hxml : netTypeXml net domtype = bridgeNetToXml net domtype := by
    simp [netTypeXml, htype]
  have hfit : TypeFieldsFit net ↔ net.source.isSome ∧ net.poolid = none ∧ net.netMode = none ∧
      net.vsi = {} := by
    simp [TypeFieldsFit, htype]
  rw [hfit]
  -- a bridge has a source, and nothing of the other types
  cases hsource : net.source with
  | none =>
    rw [bridgeNetToXml, setNetSource, hsource] at hxml
    simp [not_typePart_of_error hxml]
  | some source =>
    -- the script of a Xen guest is not read
    have hrest : ∃ rest, netTypeXml net domtype = .ok rest ∧
        rest.foldlM parseNetChild (commonNet net) =
          .ok { commonNet net with source := some source } := by
      rw [hxml, bridgeNetToXml, setNetSource, hsource]
      by_cases hxen : domtype = .xenpv ∨ domtype = .xenfv
      · exact ⟨_, if_pos hxen, rfl⟩
      · exact ⟨_, if_neg hxen, rfl⟩
    obtain ⟨rest, hrest, hfold⟩ := hrest
    rw [typePart_of_fold hrest hfold]
    simp [hsource, commonNet]

theorem typePart_user (domtype : DomainType) {net : NetDevice} (htype : net.type = some "user") :
    TypePartComesBack domtype net ↔ readBack net.address = net.address ∧ TypeFieldsFit net := by
  have hxml : netTypeXml net domtype = .ok [] := by
    simp [netTypeXml, htype]
  have hfit : TypeFieldsFit net ↔ net.source = none ∧ net.poolid = none ∧ net.netMode = none ∧
      net.vsi = {} := by
    simp [TypeFieldsFit, htype]
  rw [hfit, typePart_of_fold hxml rfl]

/-- The source of a direct interface needs a mode. -/
theorem fold_directSource (net : NetDevice) :
    ((setNetSource net "direct").toOption.getD []).foldlM parseNetChild (commonNet net) =
      if net.source.isSome then
        if net.netMode.isSome then
          .ok { commonNet net with source := net.source, netMode := net.netMode }
        else .error .reject
      else .ok (commonNet net) := by
  rw [setNetSource]
  cases net.source with
  | none => rfl
  | some source => cases net.netMode <;> rfl

/-- A direct interface without a virtual port. -/
theorem typePart_directPlain {domtype : DomainType} {net : NetDevice}
    (hxml : netTypeXml net domtype = setNetSource net "direct") (hvsi : net.vsi.vsiType = none) :
    TypePartComesBack domtype net ↔ readBack net.address = net.address ∧ net.poolid = none ∧
      net.source.isSome = net.netMode.isSome ∧
      (VsiComesBack net.vsi ∨ net.source.isSome ∧ net.vsi = {}) := by
  -- without a type there is no port that could come back
  have hno : ¬ VsiComesBack net.vsi := by
    intro h
    have htype := h.vsiType
    rw [hvsi] at htype
    cases htype
  have hfold := fold_directSource net
  cases hsource : net.source with
  | none =>
    rw [setNetSource, hsource] at hxml
    simp [not_typePart_of_error hxml, hno]
  -- the source is there, and has to have a mode beside it
  | some source =>
    rw [setNetSource, hsource] at hxml hfold
    cases hmode : net.netMode with
    | none =>
      rw [hmode] at hxml hfold
      have hnot : ¬ TypePartComesBack domtype net := by
        rintro ⟨rest, hrest, hback⟩
        cases hxml.symm.trans hrest
        cases hfold.symm.trans hback
      simp [hnot]
    | some mode =>
      rw [hmode] at hxml hfold
      rw [typePart_of_fold hxml hfold]
      simp [hsource, hmode, hno, commonNet]

/-- A direct interface with a virtual port. -/
theorem typePart_directPort {domtype : DomainType} {net : NetDevice}
    (hxml : netTypeXml net domtype =
      .ok ((setNetSource net "direct").toOption.getD [] ++ [setNetVsi net.vsi]))
    (hvsi : net.vsi.vsiType.isSome) :
    TypePartComesBack domtype net ↔ readBack net.address = net.address ∧ net.poolid = none ∧
      net.source.isSome = net.netMode.isSome ∧
      (VsiComesBack net.vsi ∨ net.source.isSome ∧ net.vsi = {}) := by
  -- a port with a type is not the empty one
  have hne : net.vsi ≠ {} := by
    intro heq
    rw [heq] at hvsi
    cases hvsi
  -- the port is read into a device that has none
  have hport (s : NetDevice) (hs : s.vsi = {}) :
      [setNetVsi net.vsi].foldlM parseNetChild s = .ok { s with vsi := readVsi net.vsi } := by
    rw [List.foldlM_cons, parseNetChild_setNetVsi hs]
    rfl
  have hfold := fold_directSource net
  -- without a source only the port is written
  cases hsource : net.source with
  | none =>
    simp only [hsource, Option.isSome_none, Bool.false_eq_true, if_false] at hfold
    rw [typePart_of_fold hxml (foldlM_append_ok hfold (hport _ rfl))]
    simp [hsource, commonNet, eq_comm (b := readVsi net.vsi), readVsi_eq_iff hvsi]
  -- with a source and no mode the parser rejects the element
  | some source =>
    cases hmode : net.netMode with
    | none =>
      simp only [hsource, hmode, Option.isSome_some, Option.isSome_none, Bool.false_eq_true,
        if_true, if_false] at hfold
      have hnot : ¬ TypePartComesBack domtype net := by
        rintro ⟨rest, hrest, hback⟩
        cases hxml.symm.trans hrest
        rw [List.foldlM_append, hfold] at hback
        cases hback
      simp [hnot]
    | some mode =>
      simp only [hsource, hmode, Option.isSome_some, if_true] at hfold
      rw [typePart_of_fold hxml (foldlM_append_ok hfold (hport _ rfl))]
      simp [hsource, hmode, hne, commonNet, eq_comm (b := readVsi net.vsi), readVsi_eq_iff hvsi]

theorem typePart_direct (domtype : DomainType) {net : NetDevice}
    (htype : net.type = some "direct") :
    TypePartComesBack domtype net ↔ readBack net.address = net.address ∧ TypeFieldsFit net := by
  have hfit : TypeFieldsFit net ↔ net.poolid = none ∧ net.source.isSome = net.netMode.isSome ∧
      (VsiComesBack net.vsi ∨ net.source.isSome ∧ net.vsi = {}) := by
    simp [TypeFieldsFit, htype]
  rw [hfit]
  cases hvsi : net.vsi.vsiType with
  | none => exact typePart_directPlain (by simp [netTypeXml, htype, hvsi]) hvsi
  | some type =>
    refine typePart_directPort (by simp [netTypeXml, htype, hvsi]) ?_
    rw [hvsi]
    rfl

/-- **The part that depends on the type**, for every type. -/
theorem typePartComesBack_iff (domtype : DomainType) (net : NetDevice) :
    TypePartComesBack domtype net ↔ readBack net.address = net.address ∧ TypeFieldsFit net := by
  by_cases hnetwork : net.type = some "network"
  · exact typePart_network domtype hnetwork
  by_cases hbridge : net.type = some "bridge"
  · exact typePart_bridge domtype hbridge
  by_cases huser : net.type = some "user"
  · exact typePart_user domtype huser
  by_cases hdirect : net.type = some "direct"
  · exact typePart_direct domtype hdirect
  · have hxml : netTypeXml net domtype = .error "Unknown interface type" := by
      simp [netTypeXml, hnetwork, hbridge, huser, hdirect]
    simp [not_typePart_of_error hxml, TypeFieldsFit, hnetwork, hbridge, huser, hdirect]

/-! ### The round trip -/

/-- The element that is written in a domain of a type comes back as the device it is
written for. -/
def NetComesBack (domtype : DomainType) (d : VirtDevice NetDevice) : Prop :=
  ∃ n, netXmlOf domtype d.dev = .ok [n] ∧ parseNetDevice n = .ok d

/-- `parse_net_device`, once its loop has run. -/
theorem parseNetDevice_of_fold {n : Node} {type mac : String} {ndev : NetDevice}
    (htype : n.attr "type" = some type)
    (hfold : n.children.foldlM parseNetChild { type := some type } = .ok ndev)
    (hmac : ndev.mac = some mac) :
    parseNetDevice n = .ok { type := .net, dev := ndev, id := some mac } := by
  unfold parseNetDevice
  simp only [htype, hfold, bind, Except.bind, hmac]

/-- The loop of a `parse_net_device` that succeeds. -/
theorem fold_of_parseNetDevice {n : Node} {d : VirtDevice NetDevice}
    (h : parseNetDevice n = .ok d) :
    n.children.foldlM parseNetChild { type := n.attr "type" } = .ok d.dev := by
  unfold parseNetDevice at h
  split at h
  case h_2 => cases h
  case h_1 type htype =>
    obtain ⟨ndev, hfold, hrest⟩ := bind_eq_ok h
    have hattr : n.attr "type" = some type := htype
    rw [hattr, hfold]
    split at hrest
    · cases hrest
    · cases hrest
      rfl

/-- **Interfaces through the generator and back.** A device that `parse_net_device` produces comes
back if and only if no address key has two values, and the source, the mode and the virtual port
are what its type can carry. The elements that all types share are read as they were
(`fold_commonNetXml`), so what decides is the part that depends on the type
(`typePartComesBack_iff`). -/
theorem net_comesBack_iff (domtype : DomainType) {inode : Node} {d : VirtDevice NetDevice}
    (h : parseNetDevice inode = .ok d) :
    NetComesBack domtype d ↔ readBack d.dev.address = d.dev.address ∧ TypeFieldsFit d.dev := by
  -- what the parser asks of an interface: a type, and a mac for its id
  obtain ⟨htype, hid, hsome, -, hnet⟩ := parseNetDevice_ok h
  obtain ⟨type, hnet⟩ := Option.isSome_iff_exists.mp hnet
  obtain ⟨mac, hmac⟩ := Option.isSome_iff_exists.mp (hid ▸ hsome)
  rw [← typePartComesBack_iff domtype d.dev]
  -- the common part is read first
  have hcommon (rest : List Node) :
      (commonNetXml d.dev ++ rest).foldlM parseNetChild { type := d.dev.type } =
        rest.foldlM parseNetChild (commonNet d.dev) := by
    rw [List.foldlM_append, fold_commonNetXml]
    rfl
  -- the rest of the element is what the type adds
  constructor
  · rintro ⟨n, hxml, hback⟩
    obtain ⟨rest, hrest, hxml⟩ := bind_eq_ok hxml
    cases hxml
    have hfold := fold_of_parseNetDevice hback
    refine ⟨rest, hrest, ?_⟩
    rw [← hcommon, ← hfold]
    simp [commonNetXml, hnet]
  -- from the type's part to the whole element, with the common part in front
  · rintro ⟨rest, hrest, hfold⟩
    rw [← hcommon, hnet] at hfold
    refine ⟨.elem "interface" (prop "type" d.dev.type) (commonNetXml d.dev ++ rest), ?_, ?_⟩
    · rw [netXmlOf, hrest]
      rfl
    · rw [parseNetDevice_of_fold (by simp [hnet]) hfold hmac]
      obtain ⟨_, dev, _⟩ := d
      cases htype
      cases hid.trans hmac
      rfl

/-- A direct interface with a virtual port. -/
def portInterface (vsiType : String) (profile : List (String × String)) : Node :=
  .elem "interface" [("type", "direct")]
    [.elem "mac" [("address", "00:16:3e:00:00:01")] [],
      .elem "source" [("dev", "eth0"), ("mode", "vepa")] [],
      .elem "virtualport" [("type", vsiType)]
        [.elem "parameters" ([("managerid", "11"), ("typeid", "1193047"), ("typeidversion", "2"),
          ("instanceid", "09b11c53-8b5c-4eeb-8f00-d84eaa0aaa4f")] ++ profile) []]]

/-- The device it is parsed to. -/
def portDevice : VirtDevice NetDevice where
  type := .net
  dev :=
    { type := some "direct", mac := some "00:16:3e:00:00:01", source := some "eth0"
      netMode := some "vepa"
      vsi :=
        { vsiType := some "802.1Qbg", managerId := some "11", typeId := some "1193047"
          typeIdVersion := some "2", instanceId := some "09b11c53-8b5c-4eeb-8f00-d84eaa0aaa4f" } }
  id := some "00:16:3e:00:00:01"

theorem net_comesBack_portDevice :
    NetComesBack .kvm portDevice ↔
      readBack portDevice.dev.address = portDevice.dev.address ∧ TypeFieldsFit portDevice.dev :=
  have h : parseNetDevice (portInterface "802.1Qbg" []) = .ok portDevice := rfl
  net_comesBack_iff .kvm h

/-- Every device that an element is parsed to comes back. -/
def NetRoundTrips (inode : Node) : Prop :=
  ∀ domtype d, parseNetDevice inode = .ok d → NetComesBack domtype d

/-- A virtual port of 802.1Qbh does not come back, nor does the profile of another one, nor
the source of a user interface; a bridge without a source is not written. -/
theorem not_net_roundTrips :
    ¬ NetRoundTrips (portInterface "802.1Qbh" []) ∧
    ¬ NetRoundTrips (portInterface "802.1Qbg" [("profileid", "finance")]) ∧
    ¬ NetRoundTrips (.elem "interface" [("type", "user")]
      [.elem "mac" [("address", "00:16:3e:00:00:02")] [],
        .elem "source" [("bridge", "br0")] []]) ∧
    ¬ NetRoundTrips (.elem "interface" [("type", "bridge")]
      [.elem "mac" [("address", "00:16:3e:00:00:03")] []]) := by
  refine ⟨fun h => ?_, fun h => ?_, fun h => ?_, fun h => ?_⟩
  all_goals obtain ⟨n, hxml, hback⟩ := h .kvm _ rfl
  all_goals cases hxml
  all_goals exact absurd hback (by decide)

end LibvirtCim.Device
