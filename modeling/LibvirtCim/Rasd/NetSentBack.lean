import LibvirtCim.Device.NetRoundTrip
import LibvirtCim.Rasd.SentBack

/-!
# Interfaces that are sent back

`net_rasd_to_vdev` builds the interface anew, and finds its source by its type: by the name of a
bridge, by the pool of a network, by the device of a direct interface (`sourceRead`). No setting
has the filter of an interface, and a limit is only written next to a reservation.
-/

open Framework LibvirtCim.Device

namespace LibvirtCim.Rasd

variable {dev dev' : NetDevice} {domtype : DomainType}

/-- The children of an interface that depend on its type. -/
theorem named_netTypeXml {rest : List Node} (h : netTypeXml dev domtype = .ok rest) :
    Named ["script", "source", "virtualport"] rest := by
  -- set_net_source writes a source, which may be a network, a bridge or a device
  have hsource (srcType : String) {nodes : List Node} (h : setNetSource dev srcType = .ok nodes) :
      Named ["script", "source", "virtualport"] nodes := by
    unfold setNetSource at h
    split at h
    · cases h
    · split_ifs at h
      · cases h
        exact .single (by simp) _ _
      · cases h
        exact .single (by simp) _ _
  unfold netTypeXml at h
  -- by the type; a script or a port may stand beside the source
  split_ifs at h with hnetwork hbridge huser hdirect hvsi
  · exact hsource _ h
  · obtain ⟨nodes, hnodes, h⟩ := bind_eq_ok h
    split_ifs at h
    · cases h
      exact Named.append (.single (by simp) _ _) (hsource _ hnodes)
    · cases h
      exact hsource _ hnodes
  · cases h
    exact .nil _
  · exact hsource _ h
  · cases h
    refine Named.append ?_ (.single (by simp) _ _)
    cases hset : setNetSource dev "direct" with
    | error e => exact .nil _
    | ok nodes => exact hsource _ hset

theorem named_optChild (name key : String) (value : Option String) :
    Named [name] (optChild name key value) := by
  cases value with
  | none => exact .nil _
  | some v => exact .single (List.mem_singleton_self _) _ _

theorem named_bandwidthXml (net : NetDevice) : Named ["bandwidth"] (bandwidthXml net) := by
  unfold bandwidthXml
  dsimp only
  split
  · exact .nil _
  · exact .single (List.mem_singleton_self _) _ _

theorem named_deviceAddressXml (addr : DeviceAddress) :
    Named ["address"] (deviceAddressXml addr) := by
  unfold deviceAddressXml
  split_ifs
  · exact .nil _
  · exact .single (List.mem_singleton_self _) _ _

/-- The parts of an interface are found by their names. -/
theorem parts_netXml {rest : List Node} (hrest : netTypeXml dev domtype = .ok rest) :
    ∃ node, netXmlOf domtype dev = .ok [node] ∧ node.attr "type" = some (dev.type.getD "") ∧
      elems ["filterref"] node.children = optChild "filterref" "filter" dev.filterRef ∧
      elems ["bandwidth"] node.children = bandwidthXml dev ∧
      elems ["script", "source", "virtualport"] node.children = rest := by
  have hnamed := named_netTypeXml hrest
  -- the children before the filter
  have hfront : Named ["mac", "target", "model"] (optChild "mac" "address" dev.mac ++
      optChild "target" "dev" dev.device ++ optChild "model" "type" dev.model) := by
    have hsub {name key : String} {value : Option String} (h : name ∈ ["mac", "target", "model"]) :
        Named ["mac", "target", "model"] (optChild name key value) := by
      cases value with
      | none => exact .nil _
      | some v => exact .single h _ _
    exact Named.append (Named.append (hsub (by simp)) (hsub (by simp))) (hsub (by simp))
  have hfilter := named_optChild "filterref" "filter" dev.filterRef
  have hbandwidth := named_bandwidthXml dev
  have haddress := named_deviceAddressXml dev.address
  -- each of the three selections passes over what has other names
  refine ⟨_, by rw [netXmlOf, hrest]; rfl, by simp, ?_, ?_, ?_⟩
  · rw [Node.children_elem, elems_append, elems_append, elems_append, elems_append,
      hfront.elems_of_disjoint (by simp), hfilter.elems_eq_self,
      hbandwidth.elems_of_disjoint (by simp), haddress.elems_of_disjoint (by simp),
      hnamed.elems_of_disjoint (by simp)]
    simp
  · rw [Node.children_elem, elems_append, elems_append, elems_append, elems_append,
      hfront.elems_of_disjoint (by simp), hfilter.elems_of_disjoint (by simp),
      hbandwidth.elems_eq_self, haddress.elems_of_disjoint (by simp),
      hnamed.elems_of_disjoint (by simp)]
    simp
  · rw [Node.children_elem, elems_append, elems_append, elems_append, elems_append,
      hfront.elems_of_disjoint (by simp), hfilter.elems_of_disjoint (by simp),
      hbandwidth.elems_of_disjoint (by simp), haddress.elems_of_disjoint (by simp),
      hnamed.elems_of_subset (List.Subset.refl _)]
    simp

/-- **When two interfaces are written alike** that have the same hardware address, target, model
and address. -/
theorem netXmlOf_eq_iff {rest : List Node} (hrest : netTypeXml dev' domtype = .ok rest)
    (hmac : dev'.mac = dev.mac) (hdevice : dev'.device = dev.device)
    (hmodel : dev'.model = dev.model) (haddress : dev'.address = dev.address) :
    netXmlOf domtype dev' = netXmlOf domtype dev ↔ dev'.type.getD "" = dev.type.getD "" ∧
      dev'.filterRef = dev.filterRef ∧ bandwidthXml dev' = bandwidthXml dev ∧
      netTypeXml dev domtype = .ok rest := by
  constructor
  · intro h
    obtain ⟨node', hnode', htype', hfilter', hbandwidth', hrest'⟩ := parts_netXml hrest
    -- the old type must be one that is written as well
    cases hold : netTypeXml dev domtype with
    | error e =>
      rw [hnode', netXmlOf, hold] at h
      cases h
    | ok rest₀ =>
      obtain ⟨node, hnode, htype, hfilter, hbandwidth, hrest₀⟩ := parts_netXml hold
      rw [hnode', hnode] at h
      -- one element, of which the four parts are read off
      obtain rfl : node' = node := List.head_eq_of_cons_eq (Except.ok.inj h)
      refine ⟨Option.some.inj (htype'.symm.trans htype), optChild_inj (hfilter'.symm.trans hfilter),
        hbandwidth'.symm.trans hbandwidth, ?_⟩
      rw [← hrest₀, ← hrest']
  -- equal parts make equal elements
  · rintro ⟨htype, hfilter, hbandwidth, hold⟩
    rw [netXmlOf, netXmlOf, hrest, hold, prop, prop, htype, hfilter, hbandwidth, hmac, hdevice,
      hmodel, haddress]

/-- The setting of an interface. -/
abbrev netSetting (pfx name : String) (id : Option String) (dev : NetDevice) : Instance :=
  setNetVsiRasdParams dev.vsi (setNetRasdParams dev (settingBase pfx name .net id))

/-- A virtual port has properties of its own. -/
theorem get_setNetVsiRasdParams (vsi : VsiDevice) (inst : Instance) {prop : String}
    (h : prop ∉ ["VSIType", "VSIManagerID", "VSITypeID", "VSITypeIDVersion", "VSIInstanceID",
      "FilterRef", "ProfileID"]) :
    (setNetVsiRasdParams vsi inst).get prop = inst.get prop := by
  simp only [List.mem_cons, not_or, List.not_mem_nil, not_false_eq_true, and_true] at h
  obtain ⟨htype, hmanager, htypeId, hversion, hinstance, hfilter, hprofile⟩ := h
  unfold setNetVsiRasdParams
  split
  · rfl
  · simp [htype, hmanager, htypeId, hversion, hinstance, hfilter, hprofile]

theorem get_setNetQosRasdParams (dev : NetDevice) (inst : Instance) {prop : String}
    (h : prop ∉ ["Reservation", "Limit", "AllocationUnits"]) :
    (setNetQosRasdParams dev inst).get prop = inst.get prop := by
  simp only [List.mem_cons, not_or, List.not_mem_nil, not_false_eq_true, and_true] at h
  obtain ⟨hreservation, hlimit, hunits⟩ := h
  unfold setNetQosRasdParams
  split
  · rfl
  · simp [hreservation, hlimit, hunits]

/-- A text of an interface that is set once. -/
theorem getStr_netSetting (pfx name : String) (id : Option String) (dev : NetDevice)
    {prop : String} {value : Option String}
    (hvsi : prop ∉ ["VSIType", "VSIManagerID", "VSITypeID", "VSITypeIDVersion", "VSIInstanceID",
      "FilterRef", "ProfileID"])
    (h : (setNetRasdParams dev (settingBase pfx name .net id)).get prop =
      value.map CmpiValue.string) :
    (netSetting pfx name id dev).getStr prop = value :=
  getStr_of_get ((get_setNetVsiRasdParams dev.vsi _ hvsi).trans h)

/-- The virtual port that is read: all of it, if it has a type. -/
def vsiRead (dev : NetDevice) : VsiDevice :=
  if dev.vsi.vsiType = none then {} else dev.vsi

/-- The source device that is written, for a type in lower case. -/
def directSource (dev : NetDevice) : Option String :=
  if dev.type = some "direct" then dev.source else none

theorem vsiOfRasd_netSetting (pfx name : String) (id : Option String) (dev : NetDevice) :
    vsiOfRasd (netSetting pfx name id dev) = vsiRead dev := by
  -- none of the port's properties is among those set before
  have hnone {prop : String} (h : prop ∈ ["VSIType", "VSIManagerID", "VSITypeID",
      "VSITypeIDVersion", "VSIInstanceID", "FilterRef", "ProfileID"]) :
      (setNetRasdParams dev (settingBase pfx name .net id)).get prop = none := by
    simp only [List.mem_cons, List.not_mem_nil, or_false] at h
    obtain rfl | rfl | rfl | rfl | rfl | rfl | rfl := h <;>
      simp [setNetRasdParams, get_setRasdDeviceAddress, get_setNetQosRasdParams, get_settingBase]
  unfold vsiOfRasd vsiRead netSetting setNetVsiRasdParams
  -- without a type the port is not written, and nothing is read
  split
  · have hstr {prop : String} (h : prop ∈ ["VSIType", "VSIManagerID", "VSITypeID",
        "VSITypeIDVersion", "VSIInstanceID", "FilterRef", "ProfileID"]) :
        (setNetRasdParams dev (settingBase pfx name .net id)).getStr prop = none :=
      getStr_of_get (hnone h)
    rw [hstr (by simp), hstr (by simp), hstr (by simp), hstr (by simp), hstr (by simp),
      hstr (by simp), hstr (by simp)]
  -- with one each member is a property of its own
  · obtain ⟨vsiType, managerId, typeId, typeIdVersion, instanceId, filterRef, profileId⟩ := dev.vsi
    rw [VsiDevice.mk.injEq]
    refine ⟨?_, ?_, ?_, ?_, ?_, ?_, ?_⟩
    all_goals
      refine getStr_of_get ?_
      simp [hnone]

/-- The source of an interface that is read for a type. -/
def sourceRead (host : Host) (dev : NetDevice) (type : String) (ndev : NetDevice) :
    Option NetDevice :=
  if streqc type "bridge" then
    (dev.source.filter (· ≠ "")).map fun source =>
      { ndev with type := some "bridge", source := some source }
  else if streqc type "network" then
    ((dev.poolid.or host.defaultNetwork).bind nameFromPoolId).map fun network =>
      { ndev with type := some "network", source := some network }
  else if streqc type "user" then some { ndev with type := some "user" }
  else if streqc type "direct" then
    ((directSource dev).filter (· ≠ "")).map fun source =>
      { ndev with type := some "direct", source := some source, vsi := vsiRead dev }
  else none

theorem netSourceOfRasd_own (host : Host) (pfx name : String) (id : Option String)
    (dev : NetDevice) (type : String) (ndev : NetDevice) :
    (netSourceOfRasd host (netSetting pfx name id dev) type ndev).toOption =
      sourceRead host dev type ndev := by
  -- the three properties a source is read from
  have hname : (netSetting pfx name id dev).getStr "NetworkName" = dev.source :=
    getStr_netSetting _ _ _ _ (by simp) (by
      simp [setNetRasdParams, get_setRasdDeviceAddress, get_setNetQosRasdParams, get_settingBase])
  have hpool : (netSetting pfx name id dev).getStr "PoolID" = dev.poolid :=
    getStr_netSetting _ _ _ _ (by simp) (by
      simp [setNetRasdParams, get_setRasdDeviceAddress, get_setNetQosRasdParams, get_settingBase])
  have hdevice : (netSetting pfx name id dev).getStr "SourceDevice" = directSource dev :=
    getStr_netSetting _ _ _ _ (by simp) (by
      simp [setNetRasdParams, get_setRasdDeviceAddress, get_setNetQosRasdParams, get_settingBase,
        directSource])
  unfold netSourceOfRasd sourceRead
  rw [hname, hpool, hdevice, vsiOfRasd_netSetting]
  -- a bridge and a device must be given and not empty
  have hnamed (source : Option String) (set : String → NetDevice) (missing empty : RasdError) :
      (source.elim (.error missing) fun s => if s = "" then .error empty else .ok (set s) :
        Except RasdError NetDevice).toOption = (source.filter (· ≠ "")).map set := by
    cases source with
    | none => rfl
    | some s => by_cases hempty : s = "" <;> simp [hempty, Except.toOption]
  -- the four types of network
  split_ifs with hbridge hnetwork huser hdirect
  · rw [← hnamed]
    cases dev.source <;> rfl
  · cases hfound : dev.poolid.or host.defaultNetwork with
    | none => rfl
    | some poolid => cases hnet : nameFromPoolId poolid <;> simp [hnet, Except.toOption]
  · rfl
  · rw [← hnamed]
    cases directSource dev <;> rfl
  · rfl

/-- The fields that are read for an interface of any type. -/
def commonRead (dev ndev : NetDevice) : NetDevice :=
  { ndev with
    device := dev.device
    netMode := dev.netMode
    model := dev.model
    reservation := dev.reservation
    limit := if dev.reservation = 0 then 0 else dev.limit
    address := dev.address }

/-- **The interface that is read** off its own setting. -/
theorem netRasdToVdev_own (host : Host) (pfx name : String) (id : Option String) {dev : NetDevice}
    {mac type : String} (hmac : dev.mac = some mac) (htype : dev.type = some type) :
    (netRasdToVdev host (netSetting pfx name id dev)).toOption =
      (sourceRead host dev type { mac := some mac }).map fun ndev =>
        { dev := commonRead dev ndev, id := some mac } := by
  have hstr {prop : String} {value : Option String}
      (hvsi : prop ∉ ["VSIType", "VSIManagerID", "VSITypeID", "VSITypeIDVersion", "VSIInstanceID",
        "FilterRef", "ProfileID"])
      (h : (setNetRasdParams dev (settingBase pfx name .net id)).get prop =
        value.map CmpiValue.string) : (netSetting pfx name id dev).getStr prop = value :=
    getStr_netSetting pfx name id dev hvsi h
  -- the address is written into two arrays and read from them
  have haddress : rasdToDeviceAddress (netSetting pfx name id dev) [] = .ok dev.address := by
    have hset : rasdToDeviceAddress (netSetting pfx name id dev) [] =
        rasdToDeviceAddress (setNetRasdParams dev (settingBase pfx name .net id)) [] := by
      unfold rasdToDeviceAddress Instance.getArray
      rw [get_setNetVsiRasdParams _ _ (by simp), get_setNetVsiRasdParams _ _ (by simp)]
    rw [hset, setNetRasdParams, rasdToDeviceAddress_set, List.nil_append]
    simp [get_setNetQosRasdParams, get_settingBase]
  -- the rates are not among the port's properties either
  have hrate {prop : String} (hvsi : prop ∉ ["VSIType", "VSIManagerID", "VSITypeID",
      "VSITypeIDVersion", "VSIInstanceID", "FilterRef", "ProfileID"]) :
      (netSetting pfx name id dev).getU64 prop =
        (setNetRasdParams dev (settingBase pfx name .net id)).getU64 prop := by
    unfold Instance.getU64
    rw [get_setNetVsiRasdParams _ _ hvsi]
  -- a reservation of 0 is not written, and read as 0 when it is missing
  have hreservation : ((netSetting pfx name id dev).getU64 "Reservation").getD 0 =
      dev.reservation := by
    rw [hrate (by simp)]
    by_cases hzero : dev.reservation = 0
    · simp [Instance.getU64, setNetRasdParams, get_setRasdDeviceAddress, setNetQosRasdParams,
        get_settingBase, hzero]
    · simp [Instance.getU64, setNetRasdParams, get_setRasdDeviceAddress, setNetQosRasdParams, hzero]
  -- the limit is only written beside a reservation
  have hlimit : ((netSetting pfx name id dev).getU64 "Limit").getD 0 =
      if dev.reservation = 0 then 0 else dev.limit := by
    rw [hrate (by simp)]
    by_cases hzero : dev.reservation = 0
    · simp [Instance.getU64, setNetRasdParams, get_setRasdDeviceAddress, setNetQosRasdParams,
        get_settingBase, hzero]
    · by_cases hlimit : dev.limit = 0 <;>
        simp [Instance.getU64, setNetRasdParams, get_setRasdDeviceAddress, setNetQosRasdParams,
          get_settingBase, hzero, hlimit]
  have hsource := netSourceOfRasd_own host pfx name id dev type { mac := some mac }
  -- the other properties are read as they were written
  unfold netRasdToVdev
  rw [hreservation, hlimit, haddress, @hstr "Address" dev.mac (by simp),
    @hstr "NetworkType" dev.type (by simp), @hstr "VirtualDevice" dev.device (by simp),
    @hstr "NetworkMode" dev.netMode (by simp), @hstr "ResourceSubType" dev.model (by simp)]
  · rw [hmac, htype, ← hsource]
    dsimp only [Option.or]
    cases netSourceOfRasd host (netSetting pfx name id dev) type { mac := some mac } with
    | error e => rfl
    | ok ndev => rfl
  all_goals
    simp [setNetRasdParams, get_setRasdDeviceAddress, get_setNetQosRasdParams, get_settingBase]

/-- The source of an interface is found again: that of a network through its pool. -/
def NetSourceFits (host : Host) (dev : NetDevice) : Prop :=
  if dev.type = some "network" then
    dev.source.isSome ∧ (dev.poolid.or host.defaultNetwork).bind nameFromPoolId = dev.source
  else if dev.type = some "bridge" ∨ dev.type = some "direct" then
    ∃ source, dev.source = some source ∧ source ≠ ""
  else dev.type = some "user"

/-- **The interfaces that come back.** The source is looked up again by its type; the filter has
no property in a setting; and a limit is carried only along with a reservation. -/
structure NetFits (host : Host) (dev : NetDevice) : Prop where
  source : NetSourceFits host dev
  filterRef : dev.filterRef = none
  limit : dev.reservation = 0 → dev.limit = 0

/-- A bandwidth that is read is the one that was written, unless it is a limit alone. -/
theorem bandwidthXml_commonRead_iff (dev ndev : NetDevice) :
    bandwidthXml (commonRead dev ndev) = bandwidthXml dev ↔
      (dev.reservation = 0 → dev.limit = 0) := by
  unfold bandwidthXml commonRead
  by_cases hreservation : dev.reservation = 0
  · by_cases hlimit : dev.limit = 0
    · simp [hreservation, hlimit]
    · simp [hreservation, hlimit]
  · simp [hreservation]

/-- What is written for a direct interface. -/
theorem netTypeXml_direct {net : NetDevice} (htype : net.type = some "direct") :
    netTypeXml net domtype = if net.vsi.vsiType = none then setNetSource net "direct"
      else .ok ((setNetSource net "direct").toOption.getD [] ++ [setNetVsi net.vsi]) := by
  simp [netTypeXml, htype]

/-- What is read for a type is written for it. -/
theorem sourceRead_written {host : Host} {type mac : String} {ndev : NetDevice}
    (h : sourceRead host dev type { mac := some mac } = some ndev) :
    (∃ rest, netTypeXml (commonRead dev ndev) domtype = .ok rest) ∧ ndev.mac = some mac ∧
      ndev.filterRef = none ∧ ndev.type.isSome := by
  unfold sourceRead at h
  -- by the type, each of which sets what it is written from
  split_ifs at h with hbridge hnetwork huser hdirect
  · obtain ⟨source, -, rfl⟩ := Option.map_eq_some_iff.mp h
    refine ⟨?_, rfl, rfl, rfl⟩
    -- a Xen guest has a script beside the bridge
    by_cases hxen : domtype = .xenpv ∨ domtype = .xenfv
    · exact ⟨_, if_pos hxen⟩
    · exact ⟨_, if_neg hxen⟩
  · obtain ⟨network, -, rfl⟩ := Option.map_eq_some_iff.mp h
    exact ⟨⟨_, rfl⟩, rfl, rfl, rfl⟩
  · cases h
    exact ⟨⟨_, rfl⟩, rfl, rfl, rfl⟩
  · obtain ⟨source, -, rfl⟩ := Option.map_eq_some_iff.mp h
    refine ⟨?_, rfl, rfl, rfl⟩
    rw [netTypeXml_direct rfl]
    split
    · exact ⟨_, rfl⟩
    · exact ⟨_, rfl⟩

/-- **When what was read for an interface is written as before.** -/
theorem commonRead_sameXml_iff {host : Host} {type mac : String} {ndev : NetDevice}
    (h : sourceRead host dev type { mac := some mac } = some ndev) (hmac : dev.mac = some mac)
    (htype : dev.type = some type) :
    netXmlOf domtype (commonRead dev ndev) = netXmlOf domtype dev ↔
      ndev.type = some type ∧ dev.filterRef = none ∧ (dev.reservation = 0 → dev.limit = 0) ∧
        netTypeXml dev domtype = netTypeXml (commonRead dev ndev) domtype := by
  -- what was read has a type that is written and no filter
  obtain ⟨⟨rest, hrest⟩, hmac', hfilter', hsome⟩ := @sourceRead_written _ domtype _ _ _ _ h
  obtain ⟨type', htype'⟩ := Option.isSome_iff_exists.mp hsome
  rw [netXmlOf_eq_iff hrest (hmac'.trans hmac.symm) rfl rfl rfl, bandwidthXml_commonRead_iff, hrest]
  have hname : (commonRead dev ndev).type.getD "" = dev.type.getD "" ↔ ndev.type = some type := by
    rw [htype]
    change ndev.type.getD "" = type ↔ _
    rw [htype']
    simp
  -- the setting has no property for the filter that set_net_rasd_params writes
  have hfilter : (commonRead dev ndev).filterRef = dev.filterRef ↔ dev.filterRef = none := by
    change ndev.filterRef = dev.filterRef ↔ _
    rw [hfilter', eq_comm]
  rw [hname, hfilter]

/-- **When the source of an interface is found again.** -/
theorem netSourceFits_iff (host : Host) {type : String} (mac : String)
    (htype : dev.type = some type) :
    (∃ ndev, sourceRead host dev type { mac := some mac } = some ndev ∧ ndev.type = some type ∧
      netTypeXml dev domtype = netTypeXml (commonRead dev ndev) domtype) ↔
      NetSourceFits host dev := by
  -- the source is read back for some setting of the interface
  have hfound (option : Option String) (set : String → NetDevice) (P : NetDevice → Prop) :
      (∃ ndev, option.map set = some ndev ∧ P ndev) ↔ ∃ source, option = some source ∧
        P (set source) := by
    cases option <;> simp
  unfold NetSourceFits
  rw [htype]
  simp only [Option.some.injEq]
  unfold sourceRead
  -- a network: written from its source, but read from the pool id
  by_cases hnetwork : type = "network"
  · subst hnetwork
    have hxml : netTypeXml dev domtype = setNetSource dev "network" := if_pos htype
    rw [if_neg (by decide), if_pos (by decide), if_pos rfl, hfound, hxml]
    -- without a source there is nothing to compare with
    unfold setNetSource
    cases hsource : dev.source with
    | none =>
      refine iff_of_false ?_ ?_
      · rintro ⟨_, _, _, hsame⟩
        cases hsame
      · rintro ⟨hnone, -⟩
        cases hnone
    | some source =>
      constructor
      · rintro ⟨network, hnetwork, -, hsame⟩
        have hsame : (Except.ok [Node.elem "source" [("network", source)] []] :
            Except String (List Node)) = .ok [.elem "source" [("network", network)] []] := hsame
        -- the network that was read is the source
        simp only [Except.ok.injEq, List.cons.injEq, Node.elem.injEq, Prod.mk.injEq, and_true,
          true_and] at hsame
        exact ⟨rfl, by rw [hsame, hnetwork]⟩
      · rintro ⟨-, hnetwork⟩
        exact ⟨source, hnetwork, rfl, rfl⟩
  -- a bridge: written from its source and read from it
  by_cases hbridge : type = "bridge"
  · subst hbridge
    have hxml : netTypeXml dev domtype = bridgeNetToXml dev domtype := by
      simp [netTypeXml, htype]
    rw [if_pos (by decide), if_neg hnetwork, if_pos (.inl rfl), hfound, hxml]
    constructor
    · rintro ⟨source, hsource, -⟩
      obtain ⟨hsource, hne⟩ := Option.filter_eq_some_iff.mp hsource
      exact ⟨source, hsource, of_decide_eq_true hne⟩
    · rintro ⟨source, hsource, hne⟩
      refine ⟨source, Option.filter_eq_some_iff.mpr ⟨hsource, decide_eq_true hne⟩, rfl, ?_⟩
      unfold bridgeNetToXml setNetSource
      rw [hsource]
      rfl
  -- a direct interface: read from its source, with the port beside it
  by_cases hdirect : type = "direct"
  · subst hdirect
    have hsource : directSource dev = dev.source := if_pos htype
    rw [if_neg (by decide), if_neg (by decide), if_neg (by decide), if_pos (by decide),
      if_neg hnetwork, if_pos (.inr rfl), hfound, hsource]
    constructor
    · rintro ⟨source, hsource, -⟩
      obtain ⟨hsource, hne⟩ := Option.filter_eq_some_iff.mp hsource
      exact ⟨source, hsource, of_decide_eq_true hne⟩
    · rintro ⟨source, hsource, hne⟩
      refine ⟨source, Option.filter_eq_some_iff.mpr ⟨hsource, decide_eq_true hne⟩, rfl, ?_⟩
      rw [netTypeXml_direct htype, netTypeXml_direct rfl]
      unfold setNetSource
      rw [hsource]
      -- the port is read whenever it was written
      by_cases hvsi : dev.vsi.vsiType = none
      · rw [if_pos hvsi, if_pos]
        · rfl
        · change (vsiRead dev).vsiType = none
          rw [vsiRead, if_pos hvsi]
      · have hread : vsiRead dev = dev.vsi := if_neg hvsi
        rw [if_neg hvsi, if_neg]
        · change _ = Except.ok (_ ++ [setNetVsi (vsiRead dev)])
          rw [hread]
          rfl
        · change ¬ (vsiRead dev).vsiType = none
          rwa [hread]
  -- any other type is read as itself or not at all
  · rw [if_neg hnetwork, if_neg (not_or.mpr ⟨hbridge, hdirect⟩)]
    constructor
    · rintro ⟨ndev, hread, hsame, -⟩
      split_ifs at hread
      · obtain ⟨source, -, rfl⟩ := Option.map_eq_some_iff.mp hread
        exact absurd (Option.some.inj hsame).symm hbridge
      · obtain ⟨source, -, rfl⟩ := Option.map_eq_some_iff.mp hread
        exact absurd (Option.some.inj hsame).symm hnetwork
      · cases hread
        exact (Option.some.inj hsame).symm
      · obtain ⟨source, -, rfl⟩ := Option.map_eq_some_iff.mp hread
        exact absurd (Option.some.inj hsame).symm hdirect
    · rintro rfl
      refine ⟨_, rfl, rfl, ?_⟩
      unfold netTypeXml
      rw [htype]
      rfl

/-- **An interface that is sent back**, to any guest. What is not its source is written as before
but for the filter, and a limit without a reservation (`commonRead_sameXml_iff`); the source is
found again by its type, and `netSourceFits_iff` has a case for each. -/
theorem net_unmodified_iff (info : DomainInfo) (host : Host) (domtype : DomainType)
    (pfx name : String) {node : Node} {dev : VirtDevice NetDevice}
    (h : parseNetDevice node = .ok dev) :
    Unmodified info host domtype pfx name .net dev ↔ NetFits host dev.dev := by
  -- the type and the MAC are those of the parsed interface
  obtain ⟨hkind, hid, hsome, -, htype⟩ := parseNetDevice_ok h
  obtain ⟨mac, hmac⟩ := Option.isSome_iff_exists.mp (hid ▸ hsome)
  obtain ⟨type, htype⟩ := Option.isSome_iff_exists.mp htype
  have hread : Unmodified info host domtype pfx name .net dev ↔
      ∃ dev', netRasdToVdev host (netSetting pfx name dev.id dev.dev) = .ok dev' ∧
        netXmlOf domtype dev'.dev = netXmlOf domtype dev.dev := by
    rw [unmodified_iff (rasdFromVdev_eq info pfx name hkind)]
    -- the translator is the same for a container
    split <;> rfl
  have hown := netRasdToVdev_own host pfx name dev.id hmac htype
  rw [hread]
  -- the parts that can differ are the source, the filter and the limit
  constructor
  · rintro ⟨dev', hdev', hsame⟩
    rw [hdev'] at hown
    obtain ⟨ndev, hndev, rfl⟩ := Option.map_eq_some_iff.mp hown.symm
    obtain ⟨hname, hfilter, hlimit, hxml⟩ := (commonRead_sameXml_iff hndev hmac htype).mp hsame
    exact ⟨(netSourceFits_iff host mac htype).mp ⟨ndev, hndev, hname, hxml⟩, hfilter, hlimit⟩
  · rintro ⟨hsource, hfilter, hlimit⟩
    obtain ⟨ndev, hndev, hname, hxml⟩ := (netSourceFits_iff host mac htype).mpr hsource
    rw [hndev] at hown
    exact ⟨_, eq_ok_of_toOption hown,
      (commonRead_sameXml_iff hndev hmac htype).mpr ⟨hname, hfilter, hlimit, hxml⟩⟩

/-- The interface of a container with a virtual port. -/
theorem net_unmodified_portDevice :
    Unmodified quietInfo quietHost .lxc "LXC" "guest" .net portDevice := by
  have h : parseNetDevice (portInterface "802.1Qbg" []) = .ok portDevice := rfl
  exact (net_unmodified_iff quietInfo quietHost .lxc "LXC" "guest" h).mpr
    ⟨⟨"eth0", rfl, by decide⟩, rfl, fun _ => rfl⟩

end LibvirtCim.Rasd
