import LibvirtCim.Association.Guests
import LibvirtCim.Filter.AclParsing
import Mathlib.Data.List.Induction

/-!
# Filters and the ports they are applied to

The two directions of `Virt_AppliedFilterList.c`. `list_to_net` walks over the definitions of all
domains, compares the name of the filter up to case, and asks `get_device_by_name` for the port,
which looks at the present state of the domain. `net_to_list` takes the definition of the one
domain and looks up the filter by the name that stands there.

The status `list_to_net` returns is that of the last port it asked for: a port that is not there
any more takes the others with it if it is the last one.
-/

open Framework LibvirtCim.Device LibvirtCim.Rasd LibvirtCim.Service LibvirtCim.Filter

namespace LibvirtCim.Association

/-- An address as libvirt writes it: one word of digits, colons and lower case letters. -/
def CanonicalMac (mac : String) : Prop :=
  Bare mac ∧ ∀ c ∈ mac.toList, c.toLower = c

instance (mac : String) : Decidable (CanonicalMac mac) :=
  decidable_of_iff (Bare mac ∧ mac.toList.all (fun c => c.toLower = c) = true)
    (by simp [CanonicalMac])

/-- A host: its domains and its filters. The description of a filter has its name, and addresses
are written the same way everywhere. -/
structure PortHost where
  list : GuestList
  filters : NwFilters
  named : ∀ name filter, getFilterByName filters name = some filter → filter.name = name
  macs : ∀ guest ∈ list.guests, ∀ dev, dev ∈ guest.devices .net ∨ dev ∈ guest.configDevices .net →
    ∀ id ∈ dev.id, CanonicalMac id

variable (host : PortHost)

/-! ### The two directions -/

/-- The interfaces `list_to_net` goes through: those of the definitions with a reference to the
filter. -/
def appliedPorts (name : String) : List (Guest × VirtDevice NetDevice) :=
  host.list.guests.flatMap fun guest =>
    ((guest.configDevices .net).filter fun dev => dev.dev.filterRef.any (streqc name)).map
      fun dev => (guest, dev)

/-- The instance of an interface. -/
def portInstance (port : Guest × VirtDevice NetDevice) : Option LogicalDevice :=
  getDeviceByName host.list .net (getFqDevid port.1.name port.2.id)

/-- The loop of `list_to_net` on one interface. The names of domains and the ids can be split, so
that it is the device that is missing. -/
def addPort (result : CmpiStatus × List LogicalDevice) (port : Guest × VirtDevice NetDevice) :
    CmpiStatus × List LogicalDevice :=
  match portInstance host port with
  | none => (.error .notFound
      s!"No such instance (no device {getFqDevid port.1.name port.2.id})", result.2)
  | some inst => (.ok, result.2 ++ [inst])

/-- `list_to_net`, from the `Name` of the filter. -/
def listToNet (name : String) : CmpiStatus × List LogicalDevice :=
  match getFilterByName host.filters name with
  | none => (.ok, [])
  | some _ =>
    if host.list.guests = [] then (.failed "Failed to get domain list", [])
    else (appliedPorts host name).foldl (addPort host) (.ok, [])

/-- `net_to_list`, from the class and the `DeviceID` of the port. The reference is one to the
port that is found. -/
def netToList (classname deviceId : String) : CmpiStatus × List AclFilter :=
  if streqc classname "KVM_NetworkPort" then
    match getDeviceByName host.list .net deviceId with
    | none => (.error .notFound s!"No such instance (no device {deviceId})", [])
    | some _ =>
      match parseFqDevid deviceId with
      | none => (.ok, [])
      | some (domainName, netName) =>
        match host.list.lookup domainName with
        | none => (.ok, [])
        | some guest =>
          (.ok, ((guest.configDevices .net).filter (namedUpToCase netName)).filterMap
            fun dev => dev.dev.filterRef.bind (getFilterByName host.filters))
  else (.ok, [])

/-- What is returned of a list: an error comes alone. -/
def returned {α : Type} (result : CmpiStatus × List α) : List α :=
  if result.1 = .ok then result.2 else []

/-- **The two directions agree** on the ports and the filters of the host: a port is among those
of a filter exactly if the filter is among those of the port. Both sides are what the handlers
return, and a handler that fails returns nothing. -/
def Symmetric : Prop :=
  ∀ port ∈ enumDevices host.list .net, ∀ name filter,
    getFilterByName host.filters name = some filter →
      (port.deviceId ∈ (returned (listToNet host name)).map LogicalDevice.deviceId ↔
        name ∈ (returned (netToList host "KVM_NetworkPort" port.deviceId)).map AclFilter.name)

/-! ### When they agree -/

/-- The interface is there in the present state of the domain. -/
def IsLive (guest : Guest) (dev : VirtDevice NetDevice) : Prop :=
  ∃ port ∈ guest.devices .net, port.id = dev.id

/-- The last interface with the filter is there. -/
def Served (name : String) : Prop :=
  ∀ port ∈ (appliedPorts host name).getLast?, IsLive port.1 port.2

/-- What the interfaces refer to: an interface that is there does not refer to a filter by a name
in another case, unless the definition has it once more with the name as it is; and a filter
it refers to does not end with an interface that is gone. -/
structure Agreeing : Prop where
  exact : ∀ guest ∈ host.list.guests, ∀ dev ∈ guest.configDevices .net, IsLive guest dev →
    ∀ name filter, getFilterByName host.filters name = some filter → Served host name →
      dev.dev.filterRef.any (streqc name) = true →
        ∃ dev' ∈ guest.configDevices .net, dev'.id = dev.id ∧ dev'.dev.filterRef = some name
  served : ∀ guest ∈ host.list.guests, ∀ dev ∈ guest.configDevices .net, IsLive guest dev →
    ∀ name filter, getFilterByName host.filters name = some filter →
      dev.dev.filterRef = some name → Served host name

variable {host}

/-! ### Addresses -/

theorem CanonicalMac.streqc_iff {a b : String} (ha : CanonicalMac a) (hb : CanonicalMac b) :
    streqc a b = true ↔ a = b := by
  have hlower {s : String} (hs : CanonicalMac s) : s.toList.map Char.toLower = s.toList :=
    (List.map_congr_left hs.2).trans (List.map_id _)
  constructor
  · intro h
    have hlist : a.toList.map Char.toLower = b.toList.map Char.toLower := of_decide_eq_true h
    rw [hlower ha, hlower hb] at hlist
    exact String.toList_inj.mp hlist
  · rintro rfl
    exact streqc_refl a

/-- An id of one word is told from every other by the whole name. -/
theorem getFqDevid_inj {name name' id id' : String} (hname : LegalName name)
    (hname' : LegalName name') (hid : Bare id) (hid' : Bare id')
    (h : getFqDevid name (some id) = getFqDevid name' (some id')) : name = name' ∧ id = id' := by
  have hparse {name id : String} (hname : LegalName name) (hid : Bare id) :
      parseDevid (getFqDevid name (some id)) = some (name, id) := by
    rw [parseDevid_getFqDevid hname]
    show (scanWord id.toList).map _ = _
    rw [scanWord_of_bare hid]
    rfl
  have heq : some (name, id) = some (name', id') := by
    rw [← hparse hname hid, ← hparse hname' hid', h]
  cases heq
  exact ⟨rfl, rfl⟩

/-- The address of an interface that is read. -/
theorem PortHost.exists_mac (host : PortHost) {guest : Guest} (hguest : guest ∈ host.list.guests)
    {dev : VirtDevice NetDevice}
    (hdev : dev ∈ guest.devices .net ∨ dev ∈ guest.configDevices .net) :
    ∃ mac, dev.id = some mac ∧ CanonicalMac mac := by
  obtain ⟨mac, hmac⟩ : ∃ mac, dev.id = some mac := by
    obtain hlive | hconfig := hdev
    · exact exists_id_of_getDevices (guest.read .net) hlive
    · exact exists_id_of_getDevices (guest.readConfig .net) hconfig
  exact ⟨mac, hmac, host.macs guest hguest dev hdev mac hmac⟩

/-- **The port of an interface**: it is found if and only if it is there. -/
theorem deviceId_portInstance {guest : Guest} (hguest : guest ∈ host.list.guests)
    {dev : VirtDevice NetDevice}
    (hdev : dev ∈ guest.devices .net ∨ dev ∈ guest.configDevices .net) :
    (∀ inst, portInstance host (guest, dev) = some inst →
      inst.deviceId = getFqDevid guest.name dev.id) ∧
    ((portInstance host (guest, dev)).isSome ↔ IsLive guest dev) := by
  -- a mac has no spaces and one spelling, so it is read back whole
  obtain ⟨mac, hmac, hcanonical⟩ := host.exists_mac hguest hdev
  have hfind : portInstance host (guest, dev) =
      ((guest.devices .net).find? (namedUpToCase mac)).map (.device .net guest.name) := by
    rw [portInstance, getDeviceByName_getFqDevid hguest, hmac]
    show (scanWord mac.toList).bind _ = _
    rw [scanWord_of_bare hcanonical.1]
    rfl
  -- two interfaces have one mac if they have one id
  have hsame {port : VirtDevice NetDevice} (hport : port ∈ guest.devices .net) :
      namedUpToCase mac port = true ↔ port.id = dev.id := by
    obtain ⟨mac', hmac', hcanonical'⟩ := host.exists_mac hguest (.inl hport)
    rw [namedUpToCase, hmac', hmac, Option.any_some, hcanonical.streqc_iff hcanonical',
      Option.some.injEq, eq_comm]
  rw [hfind]
  -- the instance is found by the mac, and so has its id
  constructor
  · intro inst hinst
    obtain ⟨port, hport, rfl⟩ := Option.map_eq_some_iff.mp hinst
    have hid := (hsame (List.mem_of_find?_eq_some hport)).mp (List.find?_some hport)
    rw [← hid]
    rfl
  -- it is found if the guest runs an interface of that id
  · rw [Option.isSome_map, List.find?_isSome]
    constructor
    · rintro ⟨port, hport, hnamed⟩
      exact ⟨port, hport, (hsame hport).mp hnamed⟩
    · rintro ⟨port, hport, hid⟩
      exact ⟨port, hport, (hsame hport).mpr hid⟩

/-! ### From a filter to its ports -/

/-- The loop of `list_to_net`: the ports that are found, and the status of the last one. -/
theorem foldl_addPort (ports : List (Guest × VirtDevice NetDevice)) :
    (ports.foldl (addPort host) (.ok, [])).2 = ports.filterMap (portInstance host) ∧
      ((ports.foldl (addPort host) (.ok, [])).1 = .ok ↔
        ∀ port ∈ ports.getLast?, (portInstance host port).isSome) := by
  induction ports using List.reverseRecOn with
  | nil => exact ⟨rfl, iff_of_true rfl (by simp)⟩
  | append_singleton ports port ih =>
    rw [List.foldl_append, List.filterMap_append, ← ih.1, List.getLast?_concat]
    show (addPort host _ port).2 = _ ∧ ((addPort host _ port).1 = .ok ↔ _)
    cases hport : portInstance host port with
    | none => simp [addPort, hport]
    | some inst => simp [addPort, hport]

theorem mem_appliedPorts {name : String} {port : Guest × VirtDevice NetDevice} :
    port ∈ appliedPorts host name ↔ port.1 ∈ host.list.guests ∧
      port.2 ∈ port.1.configDevices .net ∧ port.2.dev.filterRef.any (streqc name) = true := by
  obtain ⟨guest, dev⟩ := port
  rw [appliedPorts, List.mem_flatMap]
  constructor
  · rintro ⟨guest', hguest, hport⟩
    obtain ⟨dev', hdev, heq⟩ := List.mem_map.mp hport
    cases heq
    exact ⟨hguest, List.mem_filter.mp hdev⟩
  · rintro ⟨hguest, hdev⟩
    exact ⟨guest, hguest, List.mem_map_of_mem (List.mem_filter.mpr hdev)⟩

/-- An interface `list_to_net` goes through has a port if and only if it is there. -/
theorem isSome_portInstance {name : String} {port : Guest × VirtDevice NetDevice}
    (hport : port ∈ appliedPorts host name) :
    (portInstance host port).isSome ↔ IsLive port.1 port.2 := by
  obtain ⟨hguest, hdev, -⟩ := mem_appliedPorts.mp hport
  exact (deviceId_portInstance hguest (.inr hdev)).2

/-- **The ports of a filter**: those of the interfaces with it that are there, unless the last of
them is not. -/
theorem mem_listToNet_iff {name : String} {filter : AclFilter}
    (hfilter : getFilterByName host.filters name = some filter) (id : String) :
    id ∈ (returned (listToNet host name)).map LogicalDevice.deviceId ↔
      Served host name ∧ ∃ port ∈ appliedPorts host name, IsLive port.1 port.2 ∧
        getFqDevid port.1.name port.2.id = id := by
  unfold listToNet
  rw [hfilter]
  dsimp only
  by_cases hempty : host.list.guests = []
  · -- without a domain there is no interface
    have hnone : appliedPorts host name = [] := by
      rw [appliedPorts, hempty]
      rfl
    rw [if_pos hempty, hnone]
    simp [returned]
  · rw [if_neg hempty]
    obtain ⟨hlist, hstatus⟩ := @foldl_addPort host (appliedPorts host name)
    -- the status is that of the last interface looked up
    have hserved : (∀ port ∈ (appliedPorts host name).getLast?,
        (portInstance host port).isSome) ↔ Served host name := by
      refine forall₂_congr fun port hport => ?_
      exact isSome_portInstance (List.mem_of_getLast? hport)
    rw [hserved] at hstatus
    rw [returned, hlist]
    -- with a good status all that were found are returned
    by_cases hok : Served host name
    · rw [if_pos (hstatus.mpr hok), List.mem_map]
      constructor
      · rintro ⟨inst, hinst, rfl⟩
        obtain ⟨port, hport, hfound⟩ := List.mem_filterMap.mp hinst
        obtain ⟨hguest, hdev, -⟩ := mem_appliedPorts.mp hport
        obtain ⟨hid, hlive⟩ := deviceId_portInstance hguest (.inr hdev)
        refine ⟨hok, port, hport, hlive.mp ?_, (hid inst hfound).symm⟩
        show (portInstance host port).isSome
        rw [hfound]
        rfl
      -- back: the interface runs, so its instance was found
      · rintro ⟨-, port, hport, hlive, rfl⟩
        obtain ⟨hguest, hdev, -⟩ := mem_appliedPorts.mp hport
        obtain ⟨inst, hinst⟩ :=
          Option.isSome_iff_exists.mp ((isSome_portInstance hport).mpr hlive)
        exact ⟨inst, List.mem_filterMap.mpr ⟨port, hport, hinst⟩,
          (deviceId_portInstance hguest (.inr hdev)).1 inst hinst⟩
    · rw [if_neg fun h => hok (hstatus.mp h)]
      simp [hok]

/-! ### From a port to its filters -/

/-- **The filters of a port**: those its definition refers to. -/
theorem mem_netToList_iff {guest : Guest} (hguest : guest ∈ host.list.guests)
    {dev : VirtDevice NetDevice} (hdev : dev ∈ guest.devices .net) {name : String}
    {filter : AclFilter} (hfilter : getFilterByName host.filters name = some filter) :
    name ∈ (returned (netToList host "KVM_NetworkPort" (getFqDevid guest.name dev.id))).map
        AclFilter.name ↔
      ∃ dev' ∈ guest.configDevices .net, dev'.id = dev.id ∧ dev'.dev.filterRef = some name := by
  obtain ⟨mac, hmac, hcanonical⟩ := host.exists_mac hguest (.inl hdev)
  obtain ⟨inst, hinst⟩ : ∃ inst, getDeviceByName host.list .net (getFqDevid guest.name dev.id) =
      some inst :=
    Option.isSome_iff_exists.mp ((deviceId_portInstance hguest (.inl hdev)).2.mpr ⟨dev, hdev, rfl⟩)
  have hne : mac.toList ≠ [] := by
    intro hnil
    exact hcanonical.1.1 (String.toList_inj.mp (by simpa using hnil))
  -- the mac is one line, so the whole of it is read from the id
  have hnot : '\n' ∉ mac.toList := by
    intro hmem
    have hspace := hcanonical.1.2 '\n' hmem
    revert hspace
    decide
  have hline : parseFqDevid (getFqDevid guest.name dev.id) = some (guest.name, mac) := by
    rw [parseFqDevid_getFqDevid guest.legal, hmac]
    show (scanUpTo '\n' mac.toList).map _ = _
    rw [scanUpTo_of_not_mem hne hnot, String.ofList_toList]
    rfl
  have hclass : streqc "KVM_NetworkPort" "KVM_NetworkPort" = true := streqc_refl _
  -- the class and the interface are good, so the guest is looked up
  unfold netToList
  rw [if_pos hclass, hinst, hline]
  dsimp only
  rw [GuestList.lookup_of_mem hguest]
  show name ∈ (List.filterMap _ _).map AclFilter.name ↔ _
  rw [List.mem_map]
  -- the filters are read off the interfaces of the definition, by their ids
  constructor
  · rintro ⟨found, hfound, rfl⟩
    obtain ⟨dev', hdev', hread⟩ := List.mem_filterMap.mp hfound
    obtain ⟨hconfig, hnamed⟩ := List.mem_filter.mp hdev'
    obtain ⟨ref, href, hget⟩ := Option.bind_eq_some_iff.mp hread
    obtain ⟨mac', hmac', hcanonical'⟩ := host.exists_mac hguest (.inr hconfig)
    rw [namedUpToCase, hmac', Option.any_some, hcanonical.streqc_iff hcanonical'] at hnamed
    refine ⟨dev', hconfig, ?_, ?_⟩
    · rw [hmac', hmac, hnamed]
    · rw [href, host.named ref found hget]
  -- back: the interface of the definition has the id and the reference
  · rintro ⟨dev', hconfig, hid, href⟩
    refine ⟨filter, List.mem_filterMap.mpr ⟨dev', List.mem_filter.mpr ⟨hconfig, ?_⟩, ?_⟩,
      host.named name filter hfilter⟩
    · rw [namedUpToCase, hid, hmac]
      exact streqc_refl mac
    · rw [href]
      exact hfilter

/-! ### Symmetry -/

/-- **The two directions agree if and only if what the interfaces refer to does.** From a filter
the interfaces of all guests are compared with its name up to case, and the last of them decides
(`mem_listToNet_iff`); from an interface the reference in its definition is looked up
(`mem_netToList_iff`). An id of one word stands for one interface of one guest (`getFqDevid_inj`).
-/
theorem symmetric_iff (host : PortHost) : Symmetric host ↔ Agreeing host := by
  have hport {guest : Guest} (hguest : guest ∈ host.list.guests) {dev : VirtDevice NetDevice}
      (hdev : dev ∈ guest.devices .net) :
      LogicalDevice.device .net guest.name dev ∈ enumDevices host.list .net :=
    List.mem_flatMap.mpr ⟨guest, hguest, List.mem_map_of_mem hdev⟩
  constructor
  -- what the list tells of an interface is what the interface tells of the list
  · intro h
    refine ⟨?_, ?_⟩
    · rintro guest hguest dev hdev ⟨port, hlive, hid⟩ name filter hfilter hserved href
      have hiff := h _ (hport hguest hlive) name filter hfilter
      rw [mem_listToNet_iff hfilter] at hiff
      obtain ⟨dev', hdev', hid', href'⟩ := (mem_netToList_iff hguest hlive hfilter).mp
        (hiff.mp ⟨hserved, (guest, dev), mem_appliedPorts.mpr ⟨hguest, hdev, href⟩,
          ⟨port, hlive, hid⟩, by rw [← hid]; rfl⟩)
      exact ⟨dev', hdev', hid'.trans hid, href'⟩
    -- a filter that an interface names is listed, so it is served
    · rintro guest hguest dev hdev ⟨port, hlive, hid⟩ name filter hfilter href
      have hiff := h _ (hport hguest hlive) name filter hfilter
      rw [mem_listToNet_iff hfilter] at hiff
      exact (hiff.mpr ((mem_netToList_iff hguest hlive hfilter).mpr
        ⟨dev, hdev, hid.symm, href⟩)).1
  · intro h port hport name filter hfilter
    obtain ⟨guest, hguest, hport⟩ := List.mem_flatMap.mp hport
    obtain ⟨dev, hdev, rfl⟩ := List.mem_map.mp hport
    rw [mem_listToNet_iff hfilter]
    show _ ↔ name ∈
      (returned (netToList host "KVM_NetworkPort" (getFqDevid guest.name dev.id))).map _
    rw [mem_netToList_iff hguest hdev hfilter]
    -- an interface under the filter is known by its guest and its mac
    constructor
    · rintro ⟨hserved, ⟨guest', dev'⟩, hmem, hlive, hkey⟩
      obtain ⟨hguest', hconfig, href⟩ := mem_appliedPorts.mp hmem
      obtain ⟨mac, hmac, hcanonical⟩ := host.exists_mac hguest (.inl hdev)
      obtain ⟨mac', hmac', hcanonical'⟩ := host.exists_mac hguest' (.inr hconfig)
      have hkey : getFqDevid guest'.name dev'.id = getFqDevid guest.name dev.id := hkey
      rw [hmac', hmac] at hkey
      obtain ⟨hname, rfl⟩ := getFqDevid_inj guest'.legal guest.legal hcanonical'.1 hcanonical.1 hkey
      -- names of domains are distinct
      obtain rfl : guest' = guest := by
        have hlookup := GuestList.lookup_of_mem hguest'
        rw [hname, GuestList.lookup_of_mem hguest] at hlookup
        exact (Option.some.inj hlookup).symm
      obtain ⟨dev'', hdev'', hid'', href''⟩ :=
        h.exact guest' hguest dev' hconfig hlive name filter hfilter hserved href
      exact ⟨dev'', hdev'', hid''.trans (hmac'.trans hmac.symm), href''⟩
    -- back: the interface of the definition is a port of the filter
    · rintro ⟨dev', hconfig, hid, href⟩
      have hlive : IsLive guest dev' := ⟨dev, hdev, hid.symm⟩
      refine ⟨h.served guest hguest dev' hconfig hlive name filter hfilter href, (guest, dev'),
        mem_appliedPorts.mpr ⟨hguest, hconfig, ?_⟩, hlive, ?_⟩
      · show dev'.dev.filterRef.any (streqc name) = true
        rw [href]
        exact streqc_refl name
      · show getFqDevid guest.name dev'.id = getFqDevid guest.name dev.id
        rw [hid]

/-! ### Two filters whose names differ in case -/

/-- A machine with an interface on a filter. -/
def machineOn (ref : String) : Node :=
  .elem "domain" [("type", "kvm")]
    [.elem "name" [] [.text "guest"],
      .elem "devices" [] [.elem "interface" [("type", "network")]
        [.elem "mac" [("address", "52:54:00:00:00:01")] [],
          .elem "filterref" [("filter", ref)] []]]]

/-- Its interface. -/
theorem readDevices_net_machineOn (ref : String) :
    readDevices (machineOn ref) .net =
      [{ type := .net
         dev := { type := some "network", mac := some "52:54:00:00:00:01", filterRef := some ref }
         id := some "52:54:00:00:00:01" }] := rfl

theorem getDevices_machineOn (ref : String) (kind : DevKind) :
    (getDevices (machineOn ref) kind).toOption.isSome := by
  cases kind <;> rfl

/-- The host of one machine with the filters of two names. -/
def machineHost (ref name name' : String) : PortHost where
  list :=
    { guests := [.ofNode "guest" (machineOn ref) (by decide) (getDevices_machineOn ref)
        (by
          intro proc hproc
          cases hproc)]
      distinct := List.nodup_singleton _ }
  filters :=
    { names := [name, name']
      xmlDesc := fun n =>
        if n = name ∨ n = name' then some [.elem "filter" [("name", n)] []] else none }
  named := by
    intro n filter h
    unfold getFilterByName at h
    by_cases hn : n = name ∨ n = name'
    · simp only [hn, if_true, Option.bind_some] at h
      obtain rfl : ({ name := n } : AclFilter) = filter := Option.some.inj h
      rfl
    · simp [hn] at h
  macs := by
    intro guest hguest dev hdev id hid
    obtain rfl := List.mem_singleton.mp hguest
    have hone : dev ∈ readDevices (machineOn ref) .net := hdev.elim (fun h => h) fun h => h
    rw [readDevices_net_machineOn, List.mem_singleton] at hone
    rw [hone] at hid
    obtain rfl := Option.some.inj hid
    decide

/-- **A port is returned for the filter `web` when it is on the filter `WEB`.** -/
theorem not_symmetric_case : ¬ ∀ host, Symmetric host := by
  intro h
  have hport : LogicalDevice.device .net "guest"
      { type := .net
        dev := { type := some "network", mac := some "52:54:00:00:00:01", filterRef := some "WEB" }
        id := some "52:54:00:00:00:01" } ∈
      enumDevices (machineHost "WEB" "web" "WEB").list .net :=
    List.mem_singleton_self _
  -- the port has the filter WEB, and the list is asked for web
  have hiff := h (machineHost "WEB" "web" "WEB") _ hport "web" { name := "web" } rfl
  have hports : (returned (listToNet (machineHost "WEB" "web" "WEB") "web")).map
      LogicalDevice.deviceId = ["guest/52:54:00:00:00:01"] := by
    decide +kernel
  have hlists : (returned (netToList (machineHost "WEB" "web" "WEB") "KVM_NetworkPort"
      "guest/52:54:00:00:00:01")).map AclFilter.name = ["WEB"] := by
    decide +kernel
  rw [hports] at hiff
  have hmem := hiff.mp (List.mem_singleton_self _)
  change "web" ∈ (returned (netToList (machineHost "WEB" "web" "WEB") "KVM_NetworkPort"
    "guest/52:54:00:00:00:01")).map AclFilter.name at hmem
  rw [hlists] at hmem
  revert hmem
  decide

end LibvirtCim.Association
