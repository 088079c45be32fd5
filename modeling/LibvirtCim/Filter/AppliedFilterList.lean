import LibvirtCim.Device.Reread
import LibvirtCim.Device.StoredElement
import LibvirtCim.Filter.AclParsing
import LibvirtCim.Service.Resources

/-!
# Filters on interfaces

`Virt_AppliedFilterList.c` sets the filter of an interface, or takes it away, by defining the
domain anew; `DeleteInstance` of `Virt_FilterList.c` undefines a filter. `FilterRequest` are the
three requests, `perform` is what they return and which definitions they change.

A request starts with a status that is fine, and leaves with it on every path that does not set
another one: without a connection, with an id that is not that of a device, without the domain,
and, because `update_domain` always returns zero, with a domain that libvirt did not take.
`FilterList` does not use what `delete_filter` returns either.
-/

open Framework LibvirtCim.Device LibvirtCim.Rasd LibvirtCim.Service

namespace LibvirtCim.Filter

/-! ### Hosts and requests -/

/-- What is defined on a host. The description of a filter has the name the filter is looked up
by. -/
structure FilterHost where
  filters : NwFilters
  domains : String → Option Node
  named : ∀ name filter, getFilterByName filters name = some filter → filter.name = name

/-- What a request meets: what the calls of libvirt answer. -/
structure FilterEnv where
  /-- `connect_by_classname`, which may have no connection and a status that is fine -/
  connect : Except CmpiStatus Unit
  /-- `virNWFilterLookupByName`, in `delete_filter` -/
  lookupFilter : String → Bool
  /-- `virNWFilterUndefine` -/
  undefineFilter : String → Bool
  /-- `virDomainLookupByName` -/
  lookupDomain : String → Bool
  /-- `virDomainGetXMLDesc` -/
  xmlDesc : Bool
  /-- `virDomainGetAutostart` -/
  autostart : Bool
  /-- `virDomainDefineXML`: the description of what is defined -/
  defineXML : Node → Option Node
  nodeContent : String → List Node
  newUuid : String

/-- What a request does to the definitions of a host. -/
inductive Change
  | redefined (domain : String) (doc stored : Node)
  | undefined (filter : String)

/-- The two ends of an association: the interface by its `DeviceID`, the filter by its `Name`.
Each is a property that may be missing, with a path that may not have the key. -/
structure AppliedFilterList where
  antecedent : Option (Option String)
  dependent : Option (Option String)

/-- The requests: `CreateInstance` and `DeleteInstance` of `AppliedFilterList`, and
`DeleteInstance` of `FilterList` with the `Name` of the reference. -/
inductive FilterRequest
  | create (list : AppliedFilterList)
  | delete (list : AppliedFilterList)
  | deleteFilter (name : Option String)

/-- A request that is answered: the status, or none when the process has crashed, and what it
did. -/
abbrev Answer : Type := Option CmpiStatus × List Change

/-! ### The association -/

section Update

variable (env : FilterEnv)

/-- `update_domain`, which says that it went well in any case. -/
def updateDomain (domainName : String) (dominfo : Domain) : ℤ × List Change :=
  match systemToXml env.nodeContent env.newUuid dominfo with
  | .error _ => (0, [])
  | .ok xml =>
    match env.defineXML xml with
    | none => (0, [])
    | some stored => (0, [.redefined domainName xml stored])

/-- `get_device_by_devid`: the first interface with the id, between those before it and those
behind it. -/
def getDeviceByDevid (dominfo : Domain) (devid : String) :
    Option (List (VirtDevice NetDevice) × VirtDevice NetDevice × List (VirtDevice NetDevice)) :=
  splitAtFirst (fun dev => dev.id.any (streqc devid)) dominfo.devNet

/-- The keys of the two ends. -/
def appliedEnds (list : AppliedFilterList) : Except CmpiStatus (String × String) :=
  match list.antecedent with
  | none => .error (.failed "Unable to get Antecedent property")
  | some none => .error (.failed "Unable to get Antecedent.DeviceID property")
  | some (some deviceName) =>
    match list.dependent with
    | none => .error (.failed "Unable to get Dependent property")
    | some none => .error (.failed "Unable to get Dependent.Name property")
    | some (some filterName) => .ok (deviceName, filterName)

/-- The domain of a name and what `get_dominfo` reads of it. Neither failure is told. -/
def getDomainInfo (host : FilterHost) (domainName : String) :
    Except (Option CmpiStatus) Domain :=
  match if env.lookupDomain domainName then host.domains domainName else none with
  | none => .error (some .ok)
  | some root =>
    if env.xmlDesc then
      match getDominfoFromXml root with
      | .error _ => .error none
      | .ok dominfo => if env.autostart then .ok dominfo else .error (some .ok)
    else .error (some .ok)

/-- The interface a request is about. -/
structure Interface where
  domainName : String
  dominfo : Domain
  before : List (VirtDevice NetDevice)
  device : VirtDevice NetDevice
  after : List (VirtDevice NetDevice)
  filterName : String

/-- What `CreateInstance` and `DeleteInstance` have in common up to the interface. -/
def findInterface (host : FilterHost) (filterMissing deviceMissing : String)
    (list : AppliedFilterList) : Except (Option CmpiStatus) Interface := do
  env.connect.mapError some
  let (deviceName, filterName) ← (appliedEnds list).mapError some
  let some _ := getFilterByName host.filters filterName
    | .error (some (.failed filterMissing))
  let some (domainName, netName) := parseFqDevid deviceName
    | .error (some .ok)
  let dominfo ← getDomainInfo env host domainName
  let some (before, device, after) := getDeviceByDevid dominfo netName
    | .error (some (.failed deviceMissing))
  .ok { domainName, dominfo, before, device, after, filterName }

/-- The domain with another filter on the interface. -/
def Interface.withRef (found : Interface) (ref : Option String) : Domain :=
  { found.dominfo with
    devNet := found.before ++
      { found.device with dev := { found.device.dev with filterRef := ref } } :: found.after }

/-- How `CreateInstance` and `DeleteInstance` go on with the interface. -/
def setFilterRef (host : FilterHost) (filterMissing deviceMissing : String)
    (ref : String → Option String) (list : AppliedFilterList) : Answer :=
  match findInterface env host filterMissing deviceMissing list with
  | .error status => (status, [])
  | .ok found =>
    let (rc, changes) := updateDomain env found.domainName (found.withRef (ref found.filterName))
    if rc ≠ 0 then (some (.failed "Failed to update domain"), changes) else (some .ok, changes)

/-- `CreateInstance`. The two messages name the ends the wrong way round. -/
def createAppliedFilterList (host : FilterHost) : AppliedFilterList → Answer :=
  setFilterRef env host "Antecedent.Name object does not exist"
    "Dependent.Name object does not exist" some

/-- `DeleteInstance`. -/
def deleteAppliedFilterList (host : FilterHost) : AppliedFilterList → Answer :=
  setFilterRef env host "Dependent.Name object does not exist"
    "Antecedent.Name object does not exist" fun _ => none

/-! ### Filters -/

/-- `delete_filter`: one if the filter is gone. -/
def deleteFilter (filter : AclFilter) : ℤ × List Change :=
  if env.lookupFilter filter.name then
    if env.undefineFilter filter.name then (1, [.undefined filter.name]) else (0, [])
  else (0, [])

/-- `DeleteInstance` of `FilterList`. -/
def deleteFilterList (host : FilterHost) (name : Option String) : Answer :=
  match name with
  | none => (some (.error .notFound "Unable to get Name from reference"), [])
  | some name =>
    match env.connect with
    | .error status => (some status, [])
    | .ok () =>
      match getFilterByName host.filters name with
      | none => (some (.error .notFound "Instance does not exist"), [])
      | some filter =>
        let (rc, changes) := deleteFilter env filter
        -- a result other than zero is logged, no result is told
        if rc ≠ 0 then (some .ok, changes) else (some .ok, changes)

/-- A request. -/
def perform (host : FilterHost) : FilterRequest → Answer
  | .create list => createAppliedFilterList env host list
  | .delete list => deleteAppliedFilterList env host list
  | .deleteFilter name => deleteFilterList env host name

end Update

/-! ### What is asked for -/

/-- The filters without the one of a name. -/
def NwFilters.without (filters : NwFilters) (name : String) : NwFilters where
  names := filters.names.filter (· ≠ name)
  xmlDesc := fun name' => if name' = name then none else filters.xmlDesc name'

/-- The host after a change. -/
def FilterHost.apply (host : FilterHost) : Change → FilterHost
  | .redefined domain _ stored =>
    { host with domains := Function.update host.domains domain (some stored) }
  | .undefined name =>
    { host with
      filters := host.filters.without name
      named := by
        intro name' filter hget
        unfold getFilterByName NwFilters.without at hget
        dsimp only at hget
        split at hget
        · cases hget
        · exact host.named name' filter hget }

/-- The address of an interface. -/
def interfaceMac (node : Node) : Option String :=
  (node.children.find? fun child => child.name = "mac").bind fun mac => getAttrValue mac "address"

/-- The filter of an interface. -/
def interfaceRef (node : Node) : Option String :=
  (node.children.find? fun child => child.name = "filterref").bind fun ref =>
    getAttrValue ref "filter"

/-- The filter of the interface with an id, in the description of a domain that has it. -/
def namedRef (doc : Node) (netName : String) : Option (Option String) :=
  ((devicesXPath doc ["interface"]).find? fun node =>
    (interfaceMac node).any (streqc netName)).map interfaceRef

/-- The domain was redefined with this filter on the interface the association names, or
without one. -/
def RedefinedWith (list : AppliedFilterList) (ref : String → Option String) : Change → Prop
  | .redefined domain doc _ =>
    ∃ deviceName filterName netName, list.antecedent = some (some deviceName) ∧
      list.dependent = some (some filterName) ∧
      parseFqDevid deviceName = some (domain, netName) ∧
      namedRef doc netName = some (ref filterName)
  | .undefined _ => False

/-- What a request asks for. -/
def Asked : FilterRequest → Change → Prop
  | .create list, change => RedefinedWith list some change
  | .delete list, change => RedefinedWith list (fun _ => none) change
  | .deleteFilter name, .undefined filter => name = some filter
  | .deleteFilter _, .redefined _ _ _ => False

/-- **The answer tells the truth**: it is fine if and only if what was asked for was done, and
where it was not, an error is told and the definitions are as they were. -/
def TellsTruth (host : FilterHost) (request : FilterRequest) (answer : Answer) : Prop :=
  (answer.1 = some .ok ↔ ∃ change, answer.2 = [change] ∧ Asked request change) ∧
  ((¬ ∃ change, answer.2 = [change] ∧ Asked request change) →
    (∃ rc msg, answer.1 = some (.error rc msg)) ∧ answer.2.foldl FilterHost.apply host = host)

/-! ### The interface in the document -/

/-- What depends on the type of an interface is neither its address nor its filter. -/
theorem name_of_netTypeXml {domtype : DomainType} {net : NetDevice} {rest : List Node}
    (h : netTypeXml net domtype = .ok rest) :
    ∀ node ∈ rest, node.name ∈ ["source", "script", "virtualport"] := by
  -- what set_net_source writes, with and without a bridge script
  have hsource {srcType : String} {nodes : List Node}
      (hnodes : setNetSource net srcType = .ok nodes) :
      ∀ node ∈ nodes, node.name ∈ ["source", "script", "virtualport"] := by
    unfold setNetSource at hnodes
    split at hnodes
    · cases hnodes
    split at hnodes <;> cases hnodes <;> simp
  -- the types of net_xml, each with what it puts behind the common children
  unfold netTypeXml at h
  split at h
  · exact hsource h
  split at h
  · obtain ⟨source, hnodes, h⟩ := bind_eq_ok h
    split at h
    · cases h
      rw [List.forall_mem_cons]
      exact ⟨by simp, hsource hnodes⟩
    · cases h
      exact hsource hnodes
  split at h
  · cases h
    simp
  split at h
  · split at h
    · exact hsource h
    · cases h
      rw [List.forall_mem_append]
      refine ⟨?_, by simp [setNetVsi]⟩
      cases hnodes : setNetSource net "direct" with
      | ok nodes => exact hsource hnodes
      | error msg =>
        show ∀ node ∈ [], _
        simp
  -- an unknown type is an error
  · cases h

/-- The element of an interface has its address and its filter. -/
theorem interface_of_netXmlOf {domtype : DomainType} {net : NetDevice} {mac : String}
    (hmac : net.mac = some mac) {nodes : List Node} (h : netXmlOf domtype net = .ok nodes) :
    ∃ node, nodes = [node] ∧ interfaceMac node = some mac ∧ interfaceRef node = net.filterRef := by
  obtain ⟨rest, hrest, ⟨⟩⟩ := bind_eq_ok h
  -- no child of the type is a filterref, so the one found is the device's own
  have hnames := name_of_netTypeXml hrest
  have hnoref : rest.find? (fun child => child.name = "filterref") = none := by
    -- nor is any of the other children of an interface
    rw [List.find?_eq_none]
    intro node hnode href
    have hname := hnames node hnode
    rw [of_decide_eq_true href] at hname
    revert hname
    decide
  refine ⟨_, rfl, ?_, ?_⟩
  · rw [interfaceMac, hmac]
    simp [optChild]
  · rw [interfaceRef, Node.children_elem]
    -- neither are the bandwidth and the address
    have hrate : (bandwidthXml net).find? (fun child => child.name = "filterref") = none := by
      unfold bandwidthXml
      split <;> simp
    have haddr : (deviceAddressXml net.address).find? (fun child => child.name = "filterref") =
        none := by
      unfold deviceAddressXml
      split <;> simp
    cases hdev : net.device <;> cases hmodel : net.model <;> cases href : net.filterRef <;>
      simp [optChild, hmac, List.find?_append, hrate, haddr, hnoref]

/-- The interfaces of a list are written in their order. -/
theorem find_written {domtype : DomainType} {test : String → Bool}
    {before after : List (VirtDevice NetDevice)} {device : VirtDevice NetDevice} {mac : String}
    (hbefore : ∀ dev ∈ before, dev.type ≠ .unknown ∧ ∃ m, dev.dev.mac = some m ∧ ¬ test m)
    (htype : device.type ≠ .unknown) (hmac : device.dev.mac = some mac) (htest : test mac)
    {nodes : List Node}
    (h : devicesXml (netXmlOf domtype) (before ++ device :: after) = .ok nodes) :
    (nodes.find? fun node => (interfaceMac node).any test).map interfaceRef =
      some device.dev.filterRef := by
  -- along the devices before it, whose elements are passed over
  induction before generalizing nodes with
  | nil =>
    rw [List.nil_append, devicesXml, if_neg htype] at h
    obtain ⟨own, hown, h⟩ := bind_eq_ok h
    obtain ⟨rest, -, ⟨⟩⟩ := bind_eq_ok h
    obtain ⟨node, rfl, hnodemac, href⟩ := interface_of_netXmlOf hmac hown
    -- its own element is the first one to carry the address
    have hany : (interfaceMac node).any test = true := by
      rw [hnodemac]
      exact htest
    rw [List.singleton_append, List.find?_cons, hany, Option.map_some, href]
  | cons dev before ih =>
    rw [List.forall_mem_cons] at hbefore
    obtain ⟨⟨hknown, m, hm, hnot⟩, hbefore⟩ := hbefore
    rw [List.cons_append, devicesXml, if_neg hknown] at h
    obtain ⟨own, hown, h⟩ := bind_eq_ok h
    obtain ⟨rest, hrest, ⟨⟩⟩ := bind_eq_ok h
    obtain ⟨node, rfl, hnodemac, -⟩ := interface_of_netXmlOf hm hown
    -- another address, so that the search goes on
    have hany : (interfaceMac node).any test = false := by
      rw [hnodemac]
      exact Bool.eq_false_of_not_eq_true hnot
    rw [List.singleton_append, List.find?_cons, hany]
    exact ih hbefore hrest

/-- **The document that is written for a domain has the filter on the interface that was
found.** -/
theorem namedRef_systemToXml {nodeContent : String → List Node} {newUuid netName : String}
    {root doc : Node} {dominfo : Domain} {before after : List (VirtDevice NetDevice)}
    {device : VirtDevice NetDevice} {ref : Option String}
    (hparse : getDominfoFromXml root = .ok dominfo)
    (hdevice : getDeviceByDevid dominfo netName = some (before, device, after))
    (hxml : systemToXml nodeContent newUuid
      { dominfo with devNet := before ++
        { device with dev := { device.dev with filterRef := ref } } :: after } = .ok doc) :
    namedRef doc netName = some ref := by
  obtain ⟨hlist, hid, hfirst⟩ := splitAtFirst_eq_some hdevice
  -- the parser gives each interface its MAC for an id
  have hparsed {dev : VirtDevice NetDevice} (hdev : dev ∈ dominfo.devNet) :
      dev.type ≠ .unknown ∧ ∃ mac, dev.dev.mac = some mac ∧ dev.id = some mac := by
    have hread : parseDevices root .net = .ok dominfo.devNet :=
      list_getDominfoFromXml hparse (by simp)
    obtain ⟨node, -, hnode⟩ := exists_node_of_mem hread hdev
    obtain ⟨htype, hmac, hsome, -⟩ := parseNetDevice_ok hnode
    obtain ⟨mac, hmac'⟩ := Option.isSome_iff_exists.mp hsome
    refine ⟨?_, mac, ?_, hmac'⟩
    · rw [htype]
      simp
    · rw [← hmac, hmac']
  -- what is written under the devices is the list of interfaces
  obtain ⟨written, hwritten, hselected, -⟩ := selected_systemToXml hxml
  have hnet : devicesXml (netXmlOf dominfo.type) (before ++
      { device with dev := { device.dev with filterRef := ref } } :: after) =
        .ok (written .net) :=
    hwritten .net (by simp) (by simp)
  have hnodes : devicesXPath doc ["interface"] = written .net := hselected.net
  have hmem : device ∈ dominfo.devNet := by
    rw [hlist]
    simp
  obtain ⟨hknown, mac, hmac, hidmac⟩ := hparsed hmem
  -- the id searched for is the MAC of the device that was found
  have htest : streqc netName mac := by
    rw [hidmac] at hid
    exact hid
  rw [namedRef, hnodes]
  -- the device with the new filter has the type and the address of the old one
  let changed : VirtDevice NetDevice :=
    { device with dev := { device.dev with filterRef := ref } }
  have hchanged : changed.type ≠ .unknown ∧ changed.dev.mac = some mac := ⟨hknown, hmac⟩
  -- those before it have other addresses
  refine @find_written _ _ before after changed mac ?_ hchanged.1 hchanged.2 htest _ hnet
  intro dev hdev
  have hmem' : dev ∈ dominfo.devNet := by
    rw [hlist]
    exact List.mem_append_left _ hdev
  obtain ⟨hknown', mac', hmac', hid'⟩ := hparsed hmem'
  refine ⟨hknown', mac', hmac', ?_⟩
  have hnot := hfirst dev hdev
  rw [hid'] at hnot
  exact hnot

/-! ### When the answer is true -/

section Truth

variable (env : FilterEnv) (host : FilterHost)

/-- What can be read of the domain an interface is looked for in. -/
def ReadsDomain (domainName : String) (dominfo : Domain) : Prop :=
  env.lookupDomain domainName = true ∧ env.xmlDesc = true ∧ env.autostart = true ∧
    ∃ root, host.domains domainName = some root ∧ getDominfoFromXml root = .ok dominfo

/-- The condition for a change of the association: there is a connection or an error, and once
the filter is known the id is that of a device, the domain can be read, and libvirt takes what is
written of it if it has the interface. -/
structure ChangeReported (ref : String → Option String) (list : AppliedFilterList) : Prop where
  connected : ∀ status, env.connect = .error status → status ≠ .ok
  reached : env.connect = .ok () → ∀ deviceName filterName filter,
    list.antecedent = some (some deviceName) → list.dependent = some (some filterName) →
    getFilterByName host.filters filterName = some filter →
    ∃ domainName netName dominfo, parseFqDevid deviceName = some (domainName, netName) ∧
      ReadsDomain env host domainName dominfo ∧
      ∀ before device after, getDeviceByDevid dominfo netName = some (before, device, after) →
        ∃ doc, systemToXml env.nodeContent env.newUuid
            { dominfo with devNet := before ++
              { device with dev := { device.dev with filterRef := ref filterName } } :: after } =
          .ok doc ∧ (env.defineXML doc).isSome

/-- The condition for undefining a filter: there is a connection or an error, and a filter that
is known is undefined. -/
structure RemovalReported (name : String) : Prop where
  connected : ∀ status, env.connect = .error status → status ≠ .ok
  undefined : env.connect = .ok () → ∀ filter, getFilterByName host.filters name = some filter →
    env.lookupFilter name = true ∧ env.undefineFilter name = true

/-- Nothing goes wrong without being told. -/
def FailuresReported : FilterRequest → Prop
  | .create list => ChangeReported env host some list
  | .delete list => ChangeReported env host (fun _ => none) list
  | .deleteFilter name => ∀ n ∈ name, RemovalReported env host n

variable {env host}

theorem getDomainInfo_ok {domainName : String} {dominfo : Domain} :
    getDomainInfo env host domainName = .ok dominfo ↔
      ReadsDomain env host domainName dominfo := by
  -- each call of get_domain_info fails on its own
  unfold getDomainInfo ReadsDomain
  cases env.lookupDomain domainName with
  | false => simp
  | true =>
    cases host.domains domainName with
    | none => simp
    | some root =>
      cases env.xmlDesc with
      | false => simp
      | true =>
        cases hparse : getDominfoFromXml root with
        | error stop => simp [hparse]
        | ok d =>
          cases env.autostart <;> simp [hparse]

/-- No failure to read the domain is told. -/
theorem getDomainInfo_error {domainName : String} {status : Option CmpiStatus}
    (h : getDomainInfo env host domainName = .error status) :
    ∀ rc msg, status ≠ some (.error rc msg) := by
  unfold getDomainInfo at h
  split at h
  · cases h
    simp
  · split at h
    · split at h
      · cases h
        simp
      · split at h
        · cases h
        · cases h
          simp
    · cases h
      simp

/-- The interface that was found, and how. -/
structure Found (env : FilterEnv) (host : FilterHost) (list : AppliedFilterList)
    (found : Interface) : Prop where
  connect : env.connect = .ok ()
  dependent : list.dependent = some (some found.filterName)
  filter : (getFilterByName host.filters found.filterName).isSome
  device : ∃ deviceName netName, list.antecedent = some (some deviceName) ∧
    parseFqDevid deviceName = some (found.domainName, netName) ∧
    getDeviceByDevid found.dominfo netName = some (found.before, found.device, found.after)
  reads : ReadsDomain env host found.domainName found.dominfo

variable {filterMissing deviceMissing : String} {list : AppliedFilterList}

theorem mapError_eq_ok {α ε ε' : Type} {x : Except ε α} {f : ε → ε'} {a : α} :
    x.mapError f = .ok a ↔ x = .ok a := by
  cases x with
  | ok b => simp [Except.mapError]
  | error e => simp [Except.mapError]

/-- Both keys are there, or the one that is missing is told. -/
theorem appliedEnds_ok {deviceName filterName : String} :
    appliedEnds list = .ok (deviceName, filterName) ↔
      list.antecedent = some (some deviceName) ∧ list.dependent = some (some filterName) := by
  unfold appliedEnds
  split
  · next h => simp [h]
  · next h => simp [h]
  · next h =>
    split
    · next h' => simp [h, h']
    · next h' => simp [h, h']
    · next h' => simp [h, h']

theorem appliedEnds_error {status : CmpiStatus} (h : appliedEnds list = .error status) :
    ∃ rc msg, status = .error rc msg := by
  unfold appliedEnds at h
  split at h
  · exact ⟨_, _, (Except.error.inj h).symm⟩
  · exact ⟨_, _, (Except.error.inj h).symm⟩
  · split at h
    · exact ⟨_, _, (Except.error.inj h).symm⟩
    · exact ⟨_, _, (Except.error.inj h).symm⟩
    · cases h

/-- The interface is only reached along one path. -/
theorem found_of_findInterface {found : Interface}
    (h : findInterface env host filterMissing deviceMissing list = .ok found) :
    Found env host list found := by
  unfold findInterface at h
  obtain ⟨⟨⟩, hconnect, h⟩ := bind_eq_ok h
  -- the names, the filter, the guest and the interface, in this order
  obtain ⟨⟨deviceName, filterName⟩, hends, h⟩ := bind_eq_ok h
  cases hfilter : getFilterByName host.filters filterName with
  | none => simp [hfilter] at h
  | some filter =>
    simp only [hfilter] at h
    cases hparse : parseFqDevid deviceName with
    | none => simp [hparse] at h
    | some names =>
      obtain ⟨domainName, netName⟩ := names
      simp only [hparse] at h
      obtain ⟨dominfo, hread, h⟩ := bind_eq_ok h
      cases hdevice : getDeviceByDevid dominfo netName with
      | none => simp [hdevice] at h
      | some parts =>
        obtain ⟨before, device, after⟩ := parts
        simp only [hdevice] at h
        cases h
        have hlist := appliedEnds_ok.mp (mapError_eq_ok.mp hends)
        -- each answer on the way is the one the condition speaks of
        refine ⟨?_, hlist.2, ?_, ⟨deviceName, netName, hlist.1, hparse, hdevice⟩,
          getDomainInfo_ok.mp hread⟩
        · exact mapError_eq_ok.mp hconnect
        · show (getFilterByName host.filters filterName).isSome
          rw [hfilter]
          rfl

/-- **Without an interface**, the condition says that an error was told. -/
theorem changeReported_iff_of_error {status : Option CmpiStatus} {ref : String → Option String}
    (h : findInterface env host filterMissing deviceMissing list = .error status) :
    ChangeReported env host ref list ↔ ∃ rc msg, status = some (.error rc msg) := by
  -- where the path ends, the condition is broken or asks for nothing
  have hbroken {s : Option CmpiStatus} (hs : ∀ rc msg, s ≠ some (.error rc msg))
      (hnot : ¬ ChangeReported env host ref list) :
      ChangeReported env host ref list ↔ ∃ rc msg, s = some (.error rc msg) := by
    refine iff_of_false hnot ?_
    rintro ⟨rc, msg, rfl⟩
    exact hs rc msg rfl
  unfold findInterface at h
  -- the connection itself may have failed
  cases hconnect : env.connect with
  | error s =>
    rw [hconnect] at h
    cases h
    constructor
    · intro hreported
      have hne := hreported.connected s hconnect
      cases s with
      | ok => exact absurd rfl hne
      | error rc msg => exact ⟨rc, msg, rfl⟩
    · rintro ⟨rc, msg, hs⟩
      obtain rfl := Option.some.inj hs
      refine ⟨?_, ?_⟩
      · intro s' hs' hok
        rw [hconnect, hok] at hs'
        cases hs'
      · intro hok
        rw [hconnect] at hok
        cases hok
  -- from here on the connection is there
  | ok u =>
    have hnoerror : ∀ s, env.connect = .error s → s ≠ .ok := by
      intro s hs
      rw [hconnect] at hs
      cases hs
    rw [hconnect] at h
    cases hends : appliedEnds list with
    | error s =>
      rw [hends] at h
      cases h
      obtain ⟨rc, msg, rfl⟩ := appliedEnds_error hends
      refine iff_of_true ⟨hnoerror, ?_⟩ ⟨rc, msg, rfl⟩
      intro _ deviceName filterName _ hante hdep
      rw [appliedEnds_ok.mpr ⟨hante, hdep⟩] at hends
      cases hends
    -- the ends are given, so the condition is about them
    | ok ends =>
      obtain ⟨deviceName, filterName⟩ := ends
      obtain ⟨hante, hdep⟩ := appliedEnds_ok.mp hends
      have hkeys {deviceName' filterName' : String}
          (hante' : list.antecedent = some (some deviceName'))
          (hdep' : list.dependent = some (some filterName')) :
          deviceName' = deviceName ∧ filterName' = filterName := by
        rw [hante] at hante'
        rw [hdep] at hdep'
        cases hante'
        cases hdep'
        exact ⟨rfl, rfl⟩
      rw [hends] at h
      simp only [Except.mapError, bind, Except.bind] at h
      cases hfilter : getFilterByName host.filters filterName with
      -- a filter that is not there is told
      | none =>
        rw [hfilter] at h
        cases h
        refine iff_of_true ⟨hnoerror, ?_⟩ ⟨_, _, rfl⟩
        intro _ deviceName' filterName' filter hante' hdep' hfilter'
        obtain ⟨rfl, rfl⟩ := hkeys hante' hdep'
        rw [hfilter] at hfilter'
        cases hfilter'
      | some filter =>
        simp only [hfilter] at h
        cases hparse : parseFqDevid deviceName with
        -- a device name that cannot be split is not told
        | none =>
          simp only [hparse] at h
          cases h
          refine hbroken (by simp) fun hreported => ?_
          obtain ⟨_, _, _, hparse', -⟩ :=
            hreported.reached hconnect deviceName filterName filter hante hdep hfilter
          rw [hparse] at hparse'
          cases hparse'
        | some names =>
          obtain ⟨domainName, netName⟩ := names
          simp only [hparse] at h
          -- nor is a guest that cannot be read
          cases hread : getDomainInfo env host domainName with
          | error s =>
            rw [hread] at h
            cases h
            refine hbroken (getDomainInfo_error hread) fun hreported => ?_
            obtain ⟨_, _, dominfo, hparse', hreads, -⟩ :=
              hreported.reached hconnect deviceName filterName filter hante hdep hfilter
            rw [hparse] at hparse'
            cases hparse'
            rw [getDomainInfo_ok.mpr hreads] at hread
            cases hread
          | ok dominfo =>
            rw [hread] at h
            cases hdevice : getDeviceByDevid dominfo netName with
            | some parts => simp [hdevice] at h
            -- the interface that is missing is told
            | none =>
              simp only [hdevice] at h
              cases h
              refine iff_of_true ⟨hnoerror, ?_⟩ ⟨_, _, rfl⟩
              intro _ deviceName' filterName' _ hante' hdep' _
              obtain ⟨rfl, rfl⟩ := hkeys hante' hdep'
              refine ⟨domainName, netName, dominfo, hparse, getDomainInfo_ok.mp hread, ?_⟩
              intro before device after hdevice'
              rw [hdevice] at hdevice'
              cases hdevice'

/-- An answer without a change is true if it is an error. -/
theorem tellsTruth_nil {request : FilterRequest} {status : Option CmpiStatus} :
    TellsTruth host request (status, []) ↔ ∃ rc msg, status = some (.error rc msg) := by
  have hnone : ¬ ∃ change, ([] : List Change) = [change] ∧ Asked request change := by simp
  constructor
  · intro h
    exact (h.2 hnone).1
  · rintro ⟨rc, msg, rfl⟩
    exact ⟨iff_of_false (by simp) hnone, fun _ => ⟨⟨rc, msg, rfl⟩, rfl⟩⟩

/-- An answer that is fine is true if the change was asked for. -/
theorem tellsTruth_ok {request : FilterRequest} {change : Change} (h : Asked request change) :
    TellsTruth host request (some .ok, [change]) :=
  ⟨iff_of_true rfl ⟨change, rfl, h⟩, fun hnot => absurd ⟨change, rfl, h⟩ hnot⟩

/-- **A change of the association** is answered truly if and only if no failure stays
untold. -/
theorem tellsTruth_setFilterRef_iff {request : FilterRequest} {ref : String → Option String}
    (hasked : ∀ change, RedefinedWith list ref change → Asked request change) :
    TellsTruth host request (setFilterRef env host filterMissing deviceMissing ref list) ↔
      ChangeReported env host ref list := by
  unfold setFilterRef
  -- where the search ends early, nothing is written
  cases hfind : findInterface env host filterMissing deviceMissing list with
  | error status =>
    rw [changeReported_iff_of_error hfind]
    exact tellsTruth_nil
  | ok found =>
    obtain ⟨hconnect, hdep, hfilter, ⟨deviceName, netName, hante, hparse, hdevice⟩, hreads⟩ :=
      found_of_findInterface hfind
    obtain ⟨hlookup, hdesc, hauto, root, hroot, hdominfo⟩ := hreads
    obtain ⟨filter, hfilter⟩ := Option.isSome_iff_exists.mp hfilter
    -- the condition is about the very document that is written
    have hwritten : ChangeReported env host ref list ↔ ∃ doc, systemToXml env.nodeContent
        env.newUuid (found.withRef (ref found.filterName)) = .ok doc ∧
          (env.defineXML doc).isSome := by
      constructor
      · intro hreported
        obtain ⟨_, _, dominfo, hparse', ⟨-, -, -, root', hroot', hdominfo'⟩, hupdate⟩ :=
          hreported.reached hconnect deviceName found.filterName filter hante hdep hfilter
        rw [hparse] at hparse'
        cases hparse'
        rw [hroot] at hroot'
        cases hroot'
        rw [hdominfo] at hdominfo'
        cases hdominfo'
        exact hupdate found.before found.device found.after hdevice
      -- back: there is one document and it was accepted
      · intro hupdate
        refine ⟨?_, ?_⟩
        · intro status hstatus
          rw [hconnect] at hstatus
          cases hstatus
        · intro _ deviceName' filterName' _ hante' hdep' _
          rw [hante] at hante'
          rw [hdep] at hdep'
          cases hante'
          cases hdep'
          refine ⟨_, netName, found.dominfo, hparse,
            ⟨hlookup, hdesc, hauto, root, hroot, hdominfo⟩, ?_⟩
          intro before device after hdevice'
          rw [hdevice] at hdevice'
          cases hdevice'
          exact hupdate
    rw [hwritten]
    dsimp only
    -- update_domain drops both failures
    cases hxml : systemToXml env.nodeContent env.newUuid
        (found.withRef (ref found.filterName)) with
    | error msg =>
      have hupdate : updateDomain env found.domainName (found.withRef (ref found.filterName)) =
          (0, []) := by
        rw [updateDomain, hxml]
      simp only [hupdate, ne_eq, not_true_eq_false, if_false]
      rw [tellsTruth_nil]
      simp
    | ok doc =>
      cases hdefine : env.defineXML doc with
      | none =>
        have hupdate : updateDomain env found.domainName (found.withRef (ref found.filterName)) =
            (0, []) := by
          simp only [updateDomain, hxml, hdefine]
        simp only [hupdate, ne_eq, not_true_eq_false, if_false]
        rw [tellsTruth_nil]
        simp [hdefine]
      | some stored =>
        have hupdate : updateDomain env found.domainName (found.withRef (ref found.filterName)) =
            (0, [.redefined found.domainName doc stored]) := by
          simp only [updateDomain, hxml, hdefine]
        simp only [hupdate, ne_eq, not_true_eq_false, if_false]
        refine iff_of_true (tellsTruth_ok (hasked _ ?_)) ⟨doc, rfl, by simp [hdefine]⟩
        exact ⟨deviceName, found.filterName, netName, hante, hdep, hparse,
          namedRef_systemToXml hdominfo hdevice hxml⟩

/-- What `delete_filter` does. -/
theorem deleteFilter_snd (filter : AclFilter) :
    (deleteFilter env filter).2 =
      if env.lookupFilter filter.name = true ∧ env.undefineFilter filter.name = true then
        [.undefined filter.name]
      else [] := by
  unfold deleteFilter
  cases env.lookupFilter filter.name <;> cases env.undefineFilter filter.name <;> rfl

/-- Once the filter is known, the answer is fine. -/
theorem deleteFilterList_of_filter {name : String} {filter : AclFilter}
    (hconnect : env.connect = .ok ()) (hfilter : getFilterByName host.filters name = some filter) :
    deleteFilterList env host (some name) = (some .ok, (deleteFilter env filter).2) := by
  simp [deleteFilterList, hconnect, hfilter]

/-- **Undefining a filter** is answered truly if and only if no failure stays untold. -/
theorem tellsTruth_deleteFilterList_iff (name : Option String) :
    TellsTruth host (.deleteFilter name) (deleteFilterList env host name) ↔
      ∀ n ∈ name, RemovalReported env host n := by
  cases name with
  -- without a name, the failure is told
  | none => exact iff_of_true (tellsTruth_nil.mpr ⟨_, _, rfl⟩) (by simp)
  | some name =>
    have hone : (∀ n ∈ some name, RemovalReported env host n) ↔
        RemovalReported env host name := by simp
    rw [hone]
    -- no connection
    cases hconnect : env.connect with
    | error status =>
      have hanswer : deleteFilterList env host (some name) = (some status, []) := by
        rw [deleteFilterList, hconnect]
      rw [hanswer, tellsTruth_nil]
      constructor
      · rintro ⟨rc, msg, hstatus⟩
        obtain rfl := Option.some.inj hstatus
        refine ⟨?_, ?_⟩
        · intro status hs hok
          rw [hconnect, hok] at hs
          cases hs
        · intro hok
          rw [hconnect] at hok
          cases hok
      · intro hreported
        have hne := hreported.connected status hconnect
        cases status with
        | ok => exact absurd rfl hne
        | error rc msg => exact ⟨rc, msg, rfl⟩
    -- each of the two calls of delete_filter may fail, and neither is told
    | ok u =>
      have hnoerror : ∀ s, env.connect = .error s → s ≠ .ok := by
        intro s hs
        rw [hconnect] at hs
        cases hs
      cases hfilter : getFilterByName host.filters name with
      -- a filter that is not there is told
      | none =>
        have hanswer : deleteFilterList env host (some name) =
            (some (.error .notFound "Instance does not exist"), []) := by
          simp only [deleteFilterList, hconnect, hfilter]
        rw [hanswer, tellsTruth_nil]
        refine iff_of_true ⟨_, _, rfl⟩ ⟨hnoerror, ?_⟩
        intro _ filter hfilter'
        rw [hfilter] at hfilter'
        cases hfilter'
      | some filter =>
        have hname : filter.name = name := host.named name filter hfilter
        have hgone : RemovalReported env host name ↔
            env.lookupFilter name = true ∧ env.undefineFilter name = true := by
          constructor
          · intro hreported
            exact hreported.undefined hconnect filter hfilter
          · intro hgone
            exact ⟨hnoerror, fun _ _ _ => hgone⟩
        rw [hgone, deleteFilterList_of_filter hconnect hfilter, deleteFilter_snd, hname]
        by_cases hcalls : env.lookupFilter name = true ∧ env.undefineFilter name = true
        · rw [if_pos hcalls]
          exact iff_of_true (tellsTruth_ok rfl) hcalls
        · rw [if_neg hcalls, tellsTruth_nil]
          exact iff_of_false (by simp) hcalls

/-- **A request on filters is answered truly if and only if no failure stays untold.** Making and
removing the association both redefine the domain with another reference
(`tellsTruth_setFilterRef_iff`), and undefining a filter is the third request
(`tellsTruth_deleteFilterList_iff`); the failures meant are those whose answer would be OK. -/
theorem filterMutations_iff (env : FilterEnv) (host : FilterHost) (request : FilterRequest) :
    TellsTruth host request (perform env host request) ↔ FailuresReported env host request := by
  cases request with
  | create list =>
    rw [perform, createAppliedFilterList, FailuresReported]
    apply tellsTruth_setFilterRef_iff
    intro change h
    exact h
  | delete list =>
    rw [perform, deleteAppliedFilterList, FailuresReported]
    apply tellsTruth_setFilterRef_iff
    intro change h
    exact h
  | deleteFilter name => exact tellsTruth_deleteFilterList_iff name

end Truth

/-! ### A failure that is not told -/

/-- A host with one filter and no domain. -/
def oneFilterHost : FilterHost where
  filters :=
    { names := ["clean-traffic"]
      xmlDesc := fun name =>
        if name = "clean-traffic" then some [.elem "filter" [("name", "clean-traffic")] []]
        else none }
  domains := fun _ => none
  named := by
    intro name filter h
    unfold getFilterByName at h
    by_cases hname : name = "clean-traffic"
    · subst hname
      obtain rfl : ({ name := "clean-traffic" } : AclFilter) = filter := Option.some.inj h
      rfl
    · simp [hname] at h

/-- Libvirt, which has the filter but does not undefine it while it is used. -/
def filterInUse : FilterEnv where
  connect := .ok ()
  lookupFilter := fun _ => true
  undefineFilter := fun _ => false
  lookupDomain := fun _ => true
  xmlDesc := true
  autostart := true
  defineXML := some
  nodeContent := fun text => [.text text]
  newUuid := "33333333-3333-3333-3333-333333333333"

/-- **A filter in use is not undefined, and the request is fine.** -/
theorem not_tellsTruth_filterInUse :
    ¬ ∀ env host request, TellsTruth host request (perform env host request) := by
  intro h
  have hreported := h filterInUse oneFilterHost (.deleteFilter (some "clean-traffic"))
  have hanswer : perform filterInUse oneFilterHost (.deleteFilter (some "clean-traffic")) =
      (some .ok, []) := rfl
  rw [hanswer, tellsTruth_nil] at hreported
  obtain ⟨rc, msg, hstatus⟩ := hreported
  cases hstatus

end LibvirtCim.Filter
