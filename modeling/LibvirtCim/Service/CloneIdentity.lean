import LibvirtCim.Device.Reread
import LibvirtCim.Service.DefineSystem
import LibvirtCim.Service.DevicesKept

/-!
# What a clone has of the domain it is cloned from

`get_reference_domain` reads the definition of a domain and takes the unique bits out of it:
the name, the UUID, and the address of the first interface. The settings of the request give
the copy a name, and their devices are added to those of the copy; a device replaces the one
with its id.

Of the interfaces only the first one is cleared, and its id, which was made of the old
address, stays. So what is left of an interface is gone only when the request has its
address: `ownInterfaces_iff`.
-/

open Framework LibvirtCim.Device LibvirtCim.Rasd

namespace LibvirtCim.Service

/-! ### The interfaces of the new domain -/

/-- The address stands in a setting of the request. Addresses are compared as ids are, so a
request may spell it in another case. -/
def RequestedMac (resources : List Instance) (mac : Option String) : Prop :=
  ∃ inst ∈ resources, resTypeFromRasdClassname inst = some (.dev .net) ∧
    sameId (inst.getStr "Address") mac

/-- The id of an interface is its address. -/
def OwnId (net : VirtDevice NetDevice) : Prop := net.id = net.dev.mac

/-- No interface has an address of the domain `ref` that was not requested, and the id of each
is its address. -/
def OwnInterfaces (ref : Domain) (resources : List Instance)
    (nets : List (VirtDevice NetDevice)) : Prop :=
  ∀ dev ∈ nets, (∀ net ∈ ref.devNet, sameId dev.dev.mac net.dev.mac →
    RequestedMac resources dev.dev.mac) ∧ OwnId dev

/-- The source of an interface leaves its address alone. -/
theorem mac_netSourceOfRasd {host : Host} {inst : Instance} {type : String}
    {ndev ndev' : NetDevice} (h : netSourceOfRasd host inst type ndev = .ok ndev') :
    ndev'.mac = ndev.mac := by
  -- the four types of network fill in the source and leave the MAC that is there
  unfold netSourceOfRasd at h
  -- a network and a bridge need a source
  split at h
  · split at h
    · cases h
    · split at h
      · cases h
      · rw [← Except.ok.inj h]
  split at h
  · split at h
    · cases h
    · split at h
      · cases h
      · rw [← Except.ok.inj h]
  -- the user network has none
  split at h
  · rw [← Except.ok.inj h]
  -- a direct interface has a source and a mode
  split at h
  · split at h
    · cases h
    · split at h
      · cases h
      · rw [← Except.ok.inj h]
  · cases h

/-- The interface of a setting: it has the address of the setting, or one that was made. -/
theorem rasdToVdev_net {host : Host} {domtype : DomainType} {inst : Instance}
    {dev dev' : VirtDevice NetDevice} (h : rasdToVdev host domtype inst .net dev = .ok dev') :
    OwnId dev' ∧ ∀ mac, inst.getStr "Address" = some mac → dev'.id = some mac := by
  obtain ⟨set, hset, rfl⟩ := rasdToVdev_ok h
  have hdev : netRasdToVdev host inst = .ok set := by
    -- containers and other guests share net_rasd_to_vdev
    split at hset
    · exact hset
    · exact hset
  unfold netRasdToVdev at hdev
  split at hdev
  · cases hdev
  · next mac hmac =>
    split at hdev
    · cases hdev
    · obtain ⟨ndev, hsource, hdev⟩ := bind_eq_ok hdev
      obtain ⟨address, -, hdev⟩ := bind_eq_ok hdev
      rw [← Except.ok.inj hdev]
      -- the id is set to the MAC that the device gets
      refine ⟨(mac_netSourceOfRasd hsource).symm, ?_⟩
      intro mac' hmac'
      rw [hmac', Option.some_or] at hmac
      exact hmac.symm

/-- `add_device_nodup` for an interface: nothing but the id is looked at. -/
theorem addDevice_net (dev : VirtDevice NetDevice) (list : List (VirtDevice NetDevice)) :
    @addDevice .net dev list =
      .ok (upsertBy (fun ptr => sameId ptr.id dev.id) dev list) := by
  unfold addDevice
  rw [if_neg (by simp)]
  induction list with
  | nil => rfl
  | cons ptr list ih =>
    rw [addDeviceNodup, if_neg (by simp [sameTarget]), upsertBy]
    split
    · rfl
    · rw [ih]
      rfl

/-- What a setting does to the interfaces. -/
inductive NetRound (host : Host) (inst : Instance) (nets : List (VirtDevice NetDevice)) :
    List (VirtDevice NetDevice) → Prop
  /-- it is for another type -/
  | other (htype : resTypeFromRasdClassname inst ≠ some (.dev .net)) :
      NetRound host inst nets nets
  /-- it is for an interface -/
  | net {dev : VirtDevice NetDevice} (htype : resTypeFromRasdClassname inst = some (.dev .net))
      (hown : OwnId dev) (haddress : ∀ mac, inst.getStr "Address" = some mac → dev.id = some mac) :
      NetRound host inst nets (upsertBy (fun ptr => sameId ptr.id dev.id) dev nets)

theorem netRound_classifyResource {host : Host} {domain domain' : Domain} {inst : Instance}
    {kind : DevKind} (htype : resTypeFromRasdClassname inst = some (.dev kind))
    (h : classifyResource host domain inst kind = .ok domain') :
    NetRound host inst domain.devNet domain'.devNet := by
  unfold classifyResource at h
  dsimp only at h
  -- only interfaces touch the list of interfaces
  by_cases hkind : kind = .net
  · subst hkind
    rw [if_neg (by simp [isSingle])] at h
    obtain ⟨dev, hdev, h⟩ := bind_eq_ok h
    obtain ⟨list, hlist, h⟩ := bind_eq_ok h
    -- classify_resources merges the new interface by its id
    obtain ⟨hown, haddress⟩ := rasdToVdev_net hdev
    rw [addDevice_net] at hlist
    rw [← Except.ok.inj h, ← Except.ok.inj hlist]
    exact .net htype hown haddress
  · have hother : resTypeFromRasdClassname inst ≠ some (.dev .net) := by
      rw [htype]
      simpa using hkind
    -- the list of another kind is another member of the domain
    have hset (list : List (VirtDevice kind.Dev)) :
        (domain.setList kind list).devNet = domain.devNet :=
      domain.list_setList_of_ne (fun heq : .net = kind => hkind heq.symm) list
    split at h
    · obtain ⟨dev, -, h⟩ := bind_eq_ok h
      rw [← Except.ok.inj h, hset]
      exact .other hother
    · obtain ⟨dev, -, h⟩ := bind_eq_ok h
      obtain ⟨list, -, h⟩ := bind_eq_ok h
      rw [← Except.ok.inj h, hset]
      exact .other hother

/-! ### The rounds of a request -/

section

variable {host : Host} {inst : Instance} {nets nets' : List (VirtDevice NetDevice)}
  {mac : Option String}

/-- The address is the id of an interface. -/
def Marked (mac : Option String) (nets : List (VirtDevice NetDevice)) : Prop :=
  ∃ dev ∈ nets, sameId dev.id mac

/-- All interfaces have their address as their id, but for the first, which has `mac`. -/
def Pending (mac : Option String) (nets : List (VirtDevice NetDevice)) : Prop :=
  ∃ dev rest, nets = dev :: rest ∧ dev.id = mac ∧ ∀ dev ∈ rest, OwnId dev

/-- A device takes the place of the one with its id, so the id stays. -/
theorem NetRound.marked (h : NetRound host inst nets nets') (hmark : Marked mac nets) :
    Marked mac nets' := by
  cases h with
  | other => exact hmark
  | net =>
    rename_i new _ _ _
    obtain ⟨dev, hdev, hmac⟩ := hmark
    obtain hmem | hsame := mem_upsertBy_or hdev new
    · exact ⟨dev, hmem, hmac⟩
    · exact ⟨new, mem_upsertBy_self _ new nets, sameId_trans (sameId_symm hsame) hmac⟩

theorem NetRound.own (h : NetRound host inst nets nets') (hown : ∀ dev ∈ nets, OwnId dev) :
    ∀ dev ∈ nets', OwnId dev := by
  cases h with
  | other => exact hown
  | net _ hnew _ =>
    intro dev hdev
    obtain rfl | hmem := eq_or_mem_of_mem_upsertBy hdev
    · exact hnew
    · exact hown dev hmem

/-- The first interface is replaced by a setting that has its id. -/
theorem NetRound.pending (h : NetRound host inst nets nets') (hpending : Pending mac nets)
    (hmac : mac.isSome) :
    (∀ dev ∈ nets', OwnId dev) ∨ Pending mac nets' ∧
      ¬ (resTypeFromRasdClassname inst = some (.dev .net) ∧
        sameId (inst.getStr "Address") mac) := by
  cases h with
  | other htype => exact .inr ⟨hpending, fun h => htype h.1⟩
  | net htype hnew haddress =>
    obtain ⟨dev, rest, rfl, hid, hrest⟩ := hpending
    rename_i new
    rw [upsertBy]
    -- where the new interface is put, by its id
    split
    · left
      intro dev' hdev'
      obtain rfl | hmem := List.mem_cons.mp hdev'
      · exact hnew
      · exact hrest dev' hmem
    · next hnot =>
      refine .inr ⟨⟨dev, _, rfl, hid, ?_⟩, ?_⟩
      · intro dev' hdev'
        obtain rfl | hmem := eq_or_mem_of_mem_upsertBy hdev'
        · exact hnew
        · exact hrest dev' hmem
      · rintro ⟨-, hsame⟩
        -- then the id of the setting is that of the first interface
        apply hnot
        cases hget : inst.getStr "Address" with
        | none =>
          rw [hget] at hsame
          cases mac <;> cases hsame
        | some address =>
          rw [haddress address hget, hid, ← hget]
          exact sameId_symm hsame

end

/-- One round of `classify_resources`. -/
theorem netRound_of_classify {host : Host} {domain domain' : Domain} {inst : Instance}
    (h : (match resTypeFromRasdClassname inst with
      | none => .error ("Unable to determine resource type" : String)
      | some .image => .ok domain
      | some (.dev kind) => classifyResource host domain inst kind :
        Except RasdError Domain) = .ok domain') :
    NetRound host inst domain.devNet domain'.devNet := by
  -- by the type of the setting
  cases htype : resTypeFromRasdClassname inst with
  | none =>
    rw [htype] at h
    cases h
  | some type =>
    rw [htype] at h
    cases type with
    -- the setting of a volume is taken and adds no device
    | image =>
      rw [← Except.ok.inj h]
      exact .other (by simp [htype])
    | dev kind => exact netRound_classifyResource htype h

/-- **The interfaces of a request**, from ones of which the first has another address than its
id: an id stays, and if the first one is asked for, all ids are the addresses. -/
theorem nets_classifyResources {host : Host} {resources : List Instance}
    {domain domain' : Domain} {mac : Option String} (hmac : mac.isSome)
    (h : classifyResources host resources domain = .ok domain') :
    (∀ mac', Marked mac' domain.devNet → Marked mac' domain'.devNet) ∧
      (Pending mac domain.devNet → RequestedMac resources mac →
        ∀ dev ∈ domain'.devNet, OwnId dev) := by
  unfold classifyResources at h
  split at h
  · cases h
  · constructor
    -- by the step, over all resources
    · intro mac' hmark
      exact foldlM_invariant (I := fun d => Marked mac' d.devNet)
        (fun d inst d' hd hstep => (netRound_of_classify hstep).marked hd) hmark h
    · intro hpending hrequested
      clear * - h hpending hrequested hmac
      -- until the request for the first interface is met, the rest of the list is its own
      induction resources generalizing domain with
      | nil =>
        obtain ⟨inst, hinst, -⟩ := hrequested
        exact absurd hinst List.not_mem_nil
      -- this setting either settles the first interface or leaves it as it was
      | cons inst resources ih =>
        rw [List.foldlM_cons] at h
        obtain ⟨next, hnext, hrest⟩ := bind_eq_ok h
        obtain hown | ⟨hstill, hnot⟩ :=
          (netRound_of_classify hnext).pending hpending hmac
        · exact foldlM_invariant (I := fun d => ∀ dev ∈ d.devNet, OwnId dev)
            (fun d inst d' hd hstep => (netRound_of_classify hstep).own hd) hown hrest
        · refine ih hrest hstill ?_
          obtain ⟨inst', hinst', hfor⟩ := hrequested
          -- it was not for the first interface, so a later one is
          obtain rfl | hmem := List.mem_cons.mp hinst'
          · exact absurd hfor hnot
          · exact ⟨inst', hmem, hfor⟩

theorem defaultConsoleDevice_eq (domain : Domain) :
    ∃ console, defaultConsoleDevice domain = { domain with devConsole := console } := by
  unfold defaultConsoleDevice
  split <;> exact ⟨_, rfl⟩

theorem defaultGraphicsDevice_eq (domain : Domain) :
    ∃ graphics, defaultGraphicsDevice domain = { domain with devGraphics := graphics } := by
  unfold defaultGraphicsDevice
  split <;> exact ⟨_, rfl⟩

theorem defaultInputDevice_eq (domain : Domain) :
    ∃ input, defaultInputDevice domain = { domain with devInput := input } := by
  unfold defaultInputDevice
  split <;> exact ⟨_, rfl⟩

/-- **The default devices** are displays and inputs: the rest of the domain stays. -/
theorem addDefaultDevs_eq (domain : Domain) :
    ∃ graphics console input, addDefaultDevs domain =
      { domain with devGraphics := graphics, devConsole := console, devInput := input } := by
  unfold addDefaultDevs
  -- only the display, the console and the input are filled in
  have hdisplays : ∃ graphics console,
      (if domain.devGraphics = [] ∧ domain.devConsole = [] then
        defaultGraphicsDevice (defaultConsoleDevice domain) else domain) =
      { domain with devGraphics := graphics, devConsole := console } := by
    -- a domain with a display or a console keeps what it has
    split
    · obtain ⟨console, hconsole⟩ := defaultConsoleDevice_eq domain
      obtain ⟨graphics, hgraphics⟩ := defaultGraphicsDevice_eq (defaultConsoleDevice domain)
      rw [hgraphics, hconsole]
      exact ⟨graphics, console, rfl⟩
    · exact ⟨domain.devGraphics, domain.devConsole, rfl⟩
  obtain ⟨graphics, console, hshown⟩ := hdisplays
  dsimp only
  rw [hshown]
  -- the input device is added apart
  split
  · obtain ⟨input, hinput⟩ := defaultInputDevice_eq
      { domain with devGraphics := graphics, devConsole := console }
    rw [hinput]
    exact ⟨graphics, console, input, rfl⟩
  · exact ⟨graphics, console, domain.devInput, rfl⟩

/-- The name, the UUID and the interfaces are those of another domain. -/
def SameIdentity (domain domain' : Domain) : Prop :=
  domain'.name = domain.name ∧ domain'.uuid = domain.uuid ∧ domain'.devNet = domain.devNet

theorem sameIdentity_addDefaultDevs (domain : Domain) :
    SameIdentity domain (addDefaultDevs domain) := by
  obtain ⟨graphics, console, input, heq⟩ := addDefaultDevs_eq domain
  rw [heq]
  exact ⟨rfl, rfl, rfl⟩

variable {Live : Type} (env : Env Live) (sys : SystemHost)

/-- The steps of a new domain. -/
theorem newDomain_ok {guestOfUuid : Option String → Option String} {vssd : Instance}
    {resources : List Instance} {start domain : Domain}
    (h : newDomain env sys guestOfUuid vssd resources start = .ok domain) :
    ∃ set classified, vssdToDomain env sys vssd start = some set ∧
      checkUuidInUse env guestOfUuid set = .ok () ∧
      classifyResources env.host resources set = .ok classified ∧
      domain = addDefaultDevs classified := by
  -- the three steps of the method, each of which may end it
  unfold newDomain at h
  split at h
  · cases h
  · next set hset =>
    obtain ⟨⟨⟩, hcheck, h⟩ := bind_eq_ok h
    split at h
    · cases h
    · next classified hclassified =>
      exact ⟨set, classified, hset, hcheck, hclassified, (Except.ok.inj h).symm⟩

/-- **The interfaces of a clone.** None has an address of the reference that was not requested,
and each has its address as its id, if and only if all addresses of the reference were
requested. The list starts from the reference's, whose first interface has a new address under
its old id. -/
theorem ownInterfaces_iff {guestOfUuid : Option String → Option String} {name : String}
    {mac : Option String} {vssd : Instance} {resources : List Instance}
    {ref start domain : Domain} (hids : ∀ net ∈ ref.devNet, OwnId net ∧ net.id.isSome)
    (hstart : scrub name mac ref = .ok start)
    (hnew : newDomain env sys guestOfUuid vssd resources start = .ok domain) :
    OwnInterfaces ref resources domain.devNet ↔
      ∀ net ∈ ref.devNet, RequestedMac resources net.dev.mac := by
  obtain ⟨set, classified, hset, -, hclassify, rfl⟩ := newDomain_ok env sys hnew
  have hsame : set.devNet = start.devNet := sameDevices_vssdToDomain env sys hset .net
  rw [(sameIdentity_addDefaultDevs classified).2.2]
  unfold scrub at hstart
  -- without an interface the reference makes _get_reference_domain crash
  cases hnets : ref.devNet with
  | nil =>
    rw [hnets] at hstart
    cases hstart
  | cons net nets =>
    rw [hnets] at hstart hids
    cases mac with
    | none => cases hstart
    | some mac =>
      have hdevNet : set.devNet = { net with dev := { net.dev with mac := some mac } } :: nets := by
        rw [hsame, ← Except.ok.inj hstart]
      obtain ⟨hown, hsome⟩ := hids net List.mem_cons_self
      -- only the first one differs, since only its address is new
      have hrest : ∀ dev ∈ nets, OwnId dev :=
        fun dev hdev => (hids dev (List.mem_cons_of_mem net hdev)).1
      obtain ⟨hmarked, hpending⟩ := nets_classifyResources hsome hclassify
      constructor
      · intro hclone net' hnet'
        -- the id of the interface is still there, and has become an address
        obtain ⟨hown', hsome'⟩ := hids net' hnet'
        have hself : sameId net'.id net'.id := by
          obtain ⟨id, hid⟩ := Option.isSome_iff_exists.mp hsome'
          rw [hid]
          exact decide_eq_true rfl
        have hstart' : Marked net'.id set.devNet := by
          rw [hdevNet]
          obtain rfl | hmem := List.mem_cons.mp hnet'
          · exact ⟨_, List.mem_cons_self, hself⟩
          · exact ⟨net', List.mem_cons_of_mem _ hmem, hself⟩
        obtain ⟨dev, hdev, hid⟩ := hmarked _ hstart'
        obtain ⟨hrequested, hid'⟩ := hclone dev hdev
        rw [hid', hown'] at hid
        obtain ⟨inst, hinst, htype, haddress⟩ := hrequested net' (by rw [hnets]; exact hnet') hid
        exact ⟨inst, hinst, htype, sameId_trans haddress hid⟩
      · intro hrequested dev hdev
        constructor
        -- an address of the reference among the clone's was asked for
        · intro net' hnet' hmac
          rw [hnets] at hnet'
          obtain ⟨inst, hinst, htype, haddress⟩ := hrequested net' hnet'
          exact ⟨inst, hinst, htype, sameId_trans haddress (sameId_symm hmac)⟩
        -- the first one is matched by the setting that asks for its old address
        · refine hpending ?_ ?_ dev hdev
          · rw [hdevNet]
            exact ⟨_, nets, rfl, rfl, hrest⟩
          · rw [hown]
            exact hrequested net List.mem_cons_self

/-! ### The name and the UUID -/

theorem uuid_vssdToDomain {inst : Instance} {domain domain' : Domain}
    (h : vssdToDomain env sys inst domain = some domain') :
    domain'.uuid = ((inst.getStr "VirtualSystemIdentifier").bind
      fun _ => inst.getStr "UUID").or domain.uuid := by
  -- the UUID is set with the name, before anything that depends on the type
  have hclock {d d' : Domain} (h : clockVssdToDomain inst d = some d') : d'.uuid = d.uuid := by
    unfold clockVssdToDomain at h
    split at h
    · rw [← Option.some.inj h]
    · obtain ⟨clock, -, rfl⟩ := Option.map_eq_some_iff.mp h
      rfl
  -- none of the translators of a type touches it
  have hfv {d d' : Domain} (h : fvVssdToDomain env sys inst d = some d') : d'.uuid = d.uuid := by
    unfold fvVssdToDomain at h
    obtain ⟨⟨type, domtype⟩, -, h⟩ := Option.bind_eq_some_iff.mp h
    obtain ⟨bootlist, -, h⟩ := Option.bind_eq_some_iff.mp h
    dsimp only at h
    split at h
    · cases h
    · rw [← Option.some.inj h]
      unfold fvSetEmulator
      split <;> rfl
  unfold vssdToDomain at h
  split at h
  · next hname =>
    rw [hname, ← Option.some.inj h]
    rfl
  -- a name was given, so the rest is translated
  · next name hname =>
    rw [hname, Option.bind_some]
    obtain ⟨d, hd, h⟩ := Option.bind_eq_some_iff.mp h
    have hcommon : d.uuid = (inst.getStr "UUID").or domain.uuid := hclock hd
    rw [← hcommon]
    -- full virtualization, then the three prefixes
    split at h
    · split at h
      · exact hfv h
      · cases h
    split at h
    · rw [← Option.some.inj h]
      rfl
    split at h
    · rw [← Option.some.inj h]
      rfl
    split at h
    · rw [← Option.some.inj h]
    · cases h

theorem uuid_classifyResources {host : Host} {resources : List Instance}
    {domain domain' : Domain} (h : classifyResources host resources domain = .ok domain') :
    domain'.uuid = domain.uuid := by
  -- a list is one member of the domain
  have hset (d : Domain) (kind : DevKind) (list : List (VirtDevice kind.Dev)) :
      (d.setList kind list).uuid = d.uuid := by
    cases kind <;> rfl
  have hround {d d' : Domain} {inst : Instance} {kind : DevKind}
      (h : classifyResource host d inst kind = .ok d') : d'.uuid = d.uuid := by
    unfold classifyResource at h
    dsimp only at h
    split at h
    · obtain ⟨dev, -, h⟩ := bind_eq_ok h
      rw [← Except.ok.inj h, hset]
    · obtain ⟨dev, -, h⟩ := bind_eq_ok h
      obtain ⟨list, -, h⟩ := bind_eq_ok h
      rw [← Except.ok.inj h, hset]
  -- no resource sets the UUID
  unfold classifyResources at h
  split at h
  · cases h
  · refine foldlM_invariant (I := fun d => d.uuid = domain.uuid) ?_ rfl h
    intro d inst d' hd hstep
    split at hstep
    · cases hstep
    · rw [← Except.ok.inj hstep, hd]
    · rw [hround hstep, hd]

/-- The UUID in the document of a domain. -/
theorem childText_uuid_systemToXml {nodeContent : String → List Node} {newUuid : String}
    {domain : Domain} {doc : Node} (h : systemToXml nodeContent newUuid domain = .ok doc) :
    doc.childText "uuid" = some (contentText nodeContent (domain.uuid.getD newUuid)) := by
  obtain ⟨os, written, -, -, rfl⟩ := systemToXml_parts h
  unfold systemXml
  cases domain.bootloader <;> cases domain.bootloaderArgs <;> rfl

variable {U : Type} (virUUIDParse : String → Option U)

/-- The UUID of a definition. -/
def docUuid (doc : Node) : Option U :=
  (doc.childText "uuid").bind virUUIDParse

/-- What the documentation of libvirt says of names and UUIDs. -/
structure HostDocumented (guestOfUuid : Option String → Option String) (w : World Live) :
    Prop where
  /-- A definition has a UUID. -/
  valid : ∀ name g, w name = some g → (docUuid virUUIDParse g.config).isSome
  /-- `virDomainLookupByUUIDString` finds a domain by its UUID, however that is spelled. -/
  found : ∀ name g text, w name = some g → virUUIDParse text = docUuid virUUIDParse g.config →
    guestOfUuid (some text) ≠ none
  /-- `virDomainDefineXML` accepts no document with the name of a domain and another UUID, or
  with its UUID and another name. -/
  distinct : ∀ name g doc, w name = some g → (env.lv.defineXML doc).isSome →
    (doc.childText "name" = g.config.childText "name" ↔
      docUuid virUUIDParse doc = docUuid virUUIDParse g.config)
  /-- `uuid_generate` gives a UUID that no domain has. -/
  fresh : ∀ name g, w name = some g →
    virUUIDParse (contentText env.nodeContent env.newUuid) ≠ docUuid virUUIDParse g.config

/-- The UUID of the settings is that of a definition only once it stands in a document, where
characters may be given by references. -/
def Respelled (vssd : Instance) (config : Node) : Prop :=
  vssd.getStr "VirtualSystemIdentifier" ≠ none ∧ ∃ text, vssd.getStr "UUID" = some text ∧
    virUUIDParse text ≠ docUuid virUUIDParse config ∧
    virUUIDParse (contentText env.nodeContent text) = docUuid virUUIDParse config

/-! ### Clones -/

/-- What `get_reference_domain` reads before it takes the unique bits out: the domain of a name,
and what was parsed of its definition. -/
structure ReferenceRead (refconf : RefConf) (w : World Live) (name : String) (g : Guest Live)
    (ref : Domain) : Prop where
  pfx : matchPrefixes env.refcn refconf.classname = .ok ()
  connect : connectByClassname env .previous refconf.classname = .ok true
  named : refconf.domainName = .ok name
  lookup : env.calls.lookup .previous = true
  there : w name = some g
  xmlDesc : env.calls.xmlDesc = true
  autostart : env.calls.autostart = true
  parsed : getDominfoFromXml g.config = .ok ref

theorem referenceDomain_of_read {refconf : RefConf} {w : World Live} {name : String}
    {g : Guest Live} {ref : Domain} (h : ReferenceRead env refconf w name g ref) :
    (referenceDomain env refconf w).1 = scrub name env.host.netRandMac ref := by
  -- libvirt answers each of the calls of get_dominfo
  have hget : (getDominfo env (.failed "Error getting referenced configuration") g).1 =
      .ok ref := by
    unfold getDominfo
    rw [h.xmlDesc, h.autostart, Effect.bind_apply, Effect.read_apply, Effect.goOn_ok, h.parsed]
    rfl
  have hon : (onDomain name (noSuchDomain name)
      (getDominfo env (.failed "Error getting referenced configuration")) w).1 = .ok ref := by
    unfold onDomain
    rw [h.there]
    exact hget
  -- each check of _get_reference_domain passes
  unfold referenceDomain
  rw [Effect.bind_apply, Effect.ofExcept_apply, h.pfx, Effect.goOn_ok, Effect.bind_apply,
    Effect.ofExcept_apply, h.connect, Effect.goOn_ok, Effect.bind_apply,
    Effect.require_true_apply, Effect.goOn_ok, Effect.bind_apply, Effect.ofExcept_apply, h.named,
    Effect.goOn_ok, Effect.bind_apply, h.lookup, Effect.require_true_apply, Effect.goOn_ok,
    Effect.bind_apply]
  generalize onDomain name _ _ w = read at hon ⊢
  obtain ⟨result, w'⟩ := read
  dsimp only at hon
  rw [hon]
  rfl

/-- **The missing interface.** The copy follows a null pointer if and only if the reference has
no interface. -/
theorem referenceDomain_crash_iff {refconf : RefConf} {w : World Live} {name : String}
    {g : Guest Live} {ref : Domain} (h : ReferenceRead env refconf w name g ref) :
    (referenceDomain env refconf w).1 = .error .crash ↔ ref.devNet = [] := by
  rw [referenceDomain_of_read env h]
  unfold scrub
  split
  · next hnil => exact ⟨fun _ => hnil, fun _ => rfl⟩
  · next net nets hcons =>
    rw [hcons]
    split <;> simp

/-- The copy has no UUID of its own. -/
theorem uuid_scrub {name : String} {mac : Option String} {ref start : Domain}
    (h : scrub name mac ref = .ok start) : start.uuid = none := by
  unfold scrub at h
  split at h
  · cases h
  · split at h
    · cases h
    · rw [← Except.ok.inj h]

/-- The document of a clone has the UUID of the reference only if the settings have it by other
characters: the UUID of the settings was looked up, and a new UUID is nobody's. -/
theorem docUuid_clone_iff {guestOfUuid : Option String → Option String} {w : World Live}
    {name : String} {g : Guest Live} {mac : Option String} {vssd : Instance}
    {resources : List Instance} {ref start domain : Domain} {doc : Node}
    (hhost : HostDocumented env virUUIDParse guestOfUuid w) (hg : w name = some g)
    (hstart : scrub name mac ref = .ok start)
    (hnew : newDomain env sys guestOfUuid vssd resources start = .ok domain)
    (hdoc : systemToXml env.nodeContent env.newUuid domain = .ok doc) :
    docUuid virUUIDParse doc = docUuid virUUIDParse g.config ↔
      Respelled env virUUIDParse vssd g.config := by
  obtain ⟨set, classified, hset, hcheck, hclassify, rfl⟩ := newDomain_ok env sys hnew
  -- what the document has is the UUID of the settings, or a new one
  have huuid : (addDefaultDevs classified).uuid =
      (vssd.getStr "VirtualSystemIdentifier").bind fun _ => vssd.getStr "UUID" := by
    rw [(sameIdentity_addDefaultDevs classified).2.1, uuid_classifyResources hclassify,
      uuid_vssdToDomain env sys hset, uuid_scrub hstart, Option.or_none]
  have hset' : set.uuid = (addDefaultDevs classified).uuid := by
    rw [(sameIdentity_addDefaultDevs classified).2.1, uuid_classifyResources hclassify]
  have hread : docUuid virUUIDParse doc = virUUIDParse (contentText env.nodeContent
      ((addDefaultDevs classified).uuid.getD env.newUuid)) := by
    rw [docUuid, childText_uuid_systemToXml hdoc, Option.bind_some]
  -- the check for a UUID in use has passed, so no guest answers to it
  have hfree : guestOfUuid set.uuid = none := by
    unfold checkUuidInUse at hcheck
    split at hcheck
    · split at hcheck
      · assumption
      · cases hcheck
    · cases hcheck
  rw [hread]
  cases htext : (addDefaultDevs classified).uuid with
  -- no UUID given: libvirt makes one that no guest has
  | none =>
    rw [Option.getD_none]
    constructor
    · intro heq
      exact absurd heq (hhost.fresh name g hg)
    · rintro ⟨hname, text, hget, -⟩
      rw [htext, hget] at huuid
      obtain ⟨vsid, hvsid⟩ := Option.ne_none_iff_exists'.mp hname
      rw [hvsid] at huuid
      cases huuid
  -- a UUID given: the check knows it only when it is spelled as libvirt does
  | some text =>
    rw [Option.getD_some]
    rw [htext] at huuid
    obtain ⟨vsid, hvsid, hget⟩ := Option.bind_eq_some_iff.mp huuid.symm
    have hother : virUUIDParse text ≠ docUuid virUUIDParse g.config := by
      intro heq
      rw [hset', htext] at hfree
      exact hhost.found name g text hg heq hfree
    constructor
    · intro heq
      exact ⟨by rw [hvsid]; simp, text, hget, hother, heq⟩
    · rintro ⟨-, text', hget', -, heq⟩
      rw [hget] at hget'
      rw [Option.some.inj hget']
      exact heq

section

variable (stopped : Live) (guestOfUuid : Option String → Option String)
  (objectPath : Option CmpiErr)

/-- `DefineSystem` succeeds, and has defined the document of a domain. -/
structure Cloned (args : DefineArgs) (w : World Live) (domain : Domain) (doc : Node) : Prop where
  described : Described env sys guestOfUuid args w domain
  written : systemToXml env.nodeContent env.newUuid domain = .ok doc
  succeeds : (defineSystemMethod env sys stopped guestOfUuid objectPath args (w, [])).1 = .ok ()
  defined : (defineSystemMethod env sys stopped guestOfUuid objectPath args (w, [])).2.2 = [doc]

/-- The new domain, of which `doc` is the document, shares no identity with the reference `ref`
that has the definition `config`. -/
structure SharesNothing (config : Node) (ref : Domain) (resources : List Instance)
    (domain : Domain) (doc : Node) : Prop where
  name : doc.childText "name" ≠ config.childText "name"
  uuid : docUuid virUUIDParse doc ≠ docUuid virUUIDParse config
  interfaces : OwnInterfaces ref resources domain.devNet

/-- A document that was defined was accepted. -/
theorem Cloned.accepted {args : DefineArgs} {w : World Live} {domain : Domain} {doc : Node}
    (h : Cloned env sys stopped guestOfUuid objectPath args w domain doc) :
    (env.lv.defineXML doc).isSome := by
  -- the only path of DefineSystem that stores a document is the one libvirt accepts
  have hdoc : (systemToXml env.nodeContent env.newUuid domain).toOption = some doc := by
    rw [h.written]
    rfl
  obtain ⟨-, hrun⟩ | ⟨-, -, hrun⟩ | ⟨-, root, hroot, haccepted, -⟩ :=
    defineSystemMethod_cases env sys stopped guestOfUuid objectPath h.described
  · have hnil := h.defined
    rw [hrun] at hnil
    cases hnil
  · have hnil := h.defined
    rw [hrun] at hnil
    cases hnil
  · rw [hdoc] at hroot
    rw [Option.some.inj hroot]
    exact haccepted

/-- **Clones.** A reference that was read is copied without following a null pointer if and only
if it has an interface. A clone that was defined shares no identity with it if and only if all
addresses of its interfaces were requested, and its UUID was not, by other characters. -/
theorem clone_iff {w : World Live} {args : DefineArgs}
    {vssd : Instance} {resources : List Instance} {refconf : RefConf} {name : String}
    {g : Guest Live} {ref : Domain}
    (hhost : HostDocumented env virUUIDParse guestOfUuid w)
    (hargs : args.parse = .ok (vssd, resources, some refconf))
    (hread : ReferenceRead env refconf w name g ref) :
    ((referenceDomain env refconf w).1 ≠ .error .crash ↔ ref.devNet ≠ []) ∧
      ∀ domain doc, Cloned env sys stopped guestOfUuid objectPath args w domain doc →
        (SharesNothing virUUIDParse g.config ref resources domain doc ↔
          (∀ net ∈ ref.devNet, RequestedMac resources net.dev.mac) ∧
            ¬ Respelled env virUUIDParse vssd g.config) := by
  refine ⟨not_congr (referenceDomain_crash_iff env hread), ?_⟩
  intro domain doc hclone
  obtain ⟨vssd', resources', refconf', start, hargs', hstart, hnew⟩ := hclone.described
  -- the description is the one that was read
  rw [hargs] at hargs'
  cases hargs'
  change (referenceDomain env refconf w).1 = .ok start at hstart
  rw [referenceDomain_of_read env hread] at hstart
  -- the parser gives each interface its address for an id
  have hids : ∀ net ∈ ref.devNet, OwnId net ∧ net.id.isSome := by
    intro net hnet
    have hlist : parseDevices g.config .net = .ok ref.devNet :=
      list_getDominfoFromXml hread.parsed (by simp)
    obtain ⟨node, -, hnode⟩ := exists_node_of_mem hlist hnet
    obtain ⟨-, hid, hsome, -⟩ := parseNetDevice_ok hnode
    exact ⟨hid, hsome⟩
  have hnets := ownInterfaces_iff env sys hids hstart hnew
  -- the names differ exactly when the UUIDs do, as libvirt demands of a new definition
  have hdistinct := hhost.distinct name g doc hread.there
    (hclone.accepted env sys stopped guestOfUuid objectPath)
  have huuid := docUuid_clone_iff env sys virUUIDParse hhost hread.there hstart hnew
    hclone.written
  constructor
  · intro h
    exact ⟨hnets.mp h.interfaces, fun hspell => h.uuid (huuid.mpr hspell)⟩
  · rintro ⟨hrequested, hspell⟩
    -- with another UUID libvirt stores the clone under another name
    have hother : docUuid virUUIDParse doc ≠ docUuid virUUIDParse g.config :=
      fun heq => hspell (huuid.mp heq)
    exact ⟨fun heq => hother (hdistinct.mp heq), hother, hnets.mpr hrequested⟩

end

/-! ### Two clones -/

/-- An interface on a virtual network. -/
def networkInterface (mac : String) : Node :=
  .elem "interface" [("type", "network")]
    [.elem "mac" [("address", mac)] [], .elem "source" [("network", "default")] []]

/-- The UUID of the guest that is cloned. -/
def goldenUuid : String := "c7a5fdbd-cdaf-9455-926a-d65c16db1809"

/-- A guest to clone. -/
def golden (macs : List String) : Node :=
  .elem "domain" [("type", "kvm")]
    [.elem "name" [] [.text "golden"], .elem "uuid" [] [.text goldenUuid],
      .elem "os" [] [.elem "type" [] [.text "hvm"]],
      .elem "devices" [] (macs.map networkInterface)]

/-- The only guest of a host. -/
def goldenWorld (macs : List String) : World SimpleLive := fun name =>
  if name = "golden" then some { live := {}, config := golden macs } else none

/-- A host that keeps the name and the UUID of the guest apart. -/
def goldenEnv : Env SimpleLive :=
  let env := simpleEnv (.elem "domain" [] [])
  { env with lv :=
    { simpleLibvirt with
      defineXML := fun doc =>
        if doc.childText "name" = some "golden" ↔ doc.childText "uuid" = some goldenUuid then
          some doc
        else none } }

/-- The look-up of a UUID on that host. -/
def goldenOfUuid (uuid : Option String) : Option String :=
  if uuid = some goldenUuid then some "golden" else none

/-- The reference to the guest. -/
def goldenRef : RefConf where
  classname := "KVM_VirtualSystemSettingData"
  instanceId := some "KVM:golden"

/-- A setting for an interface on the network. -/
def interfaceRasd (mac : String) : Instance where
  pfx := "KVM"
  base := "NetResourceAllocationSettingData"
  props := [("Address", .string mac), ("NetworkType", .string "network"),
    ("PoolID", .string "NetworkPool/default")]

/-- A request for a clone. -/
def cloneArgs (resources : List Instance) : DefineArgs where
  systemSettings := some
    { pfx := "KVM", base := "VirtualSystemSettingData"
      props := [("VirtualSystemIdentifier", .string "clone")] }
  resourceSettings := some resources
  referenceConfiguration := some goldenRef

/-- A setting for the memory. -/
def memoryRasd : Instance where
  pfx := "KVM"
  base := "MemResourceAllocationSettingData"
  props := [("VirtualQuantity", .uint64 262144), ("AllocationUnits", .string "KiloBytes")]

theorem hostDocumented_golden (macs : List String) :
    HostDocumented goldenEnv some goldenOfUuid (goldenWorld macs) := by
  -- the one guest there is
  have hgolden {name : String} {g : Guest SimpleLive} (h : goldenWorld macs name = some g) :
      g.config = golden macs := by
    unfold goldenWorld at h
    split at h
    · rw [← Option.some.inj h]
    · cases h
  have huuid : docUuid some (golden macs) = some goldenUuid := rfl
  -- the parts that libvirt's documentation promises, at a host with one guest
  refine ⟨?_, ?_, ?_, ?_⟩
  · intro name g h
    rw [hgolden h, huuid]
    rfl
  · intro name g text h htext
    rw [hgolden h, huuid] at htext
    rw [htext]
    simp [goldenOfUuid]
  · intro name g doc h haccepted
    have hread : docUuid some doc = doc.childText "uuid" := Option.bind_fun_some _
    have hname : (golden macs).childText "name" = some "golden" := rfl
    rw [hgolden h, hread, huuid, hname]
    by_contra hnot
    simp [goldenEnv, hnot] at haccepted
  · intro name g h
    rw [hgolden h, huuid]
    decide

/-- The domain that a request for a clone describes. -/
def cloneOf (macs : List String) (resources : List Instance) : Option Domain :=
  (referenceDomain goldenEnv goldenRef (goldenWorld macs)).1.toOption.bind fun start =>
    (newDomain goldenEnv simpleSystemHost goldenOfUuid
      { pfx := "KVM", base := "VirtualSystemSettingData"
        props := [("VirtualSystemIdentifier", .string "clone")] } resources start).toOption

/-- The interfaces of the clone, if its document can be generated and is accepted. -/
def cloneNets (macs : List String) (resources : List Instance) :
    Option (List (VirtDevice NetDevice)) :=
  (cloneOf macs resources).bind fun domain =>
    (systemToXml goldenEnv.nodeContent goldenEnv.newUuid domain).toOption.bind fun doc =>
      (goldenEnv.lv.defineXML doc).map fun _ => domain.devNet

/-- The request defines the clone. -/
theorem cloned_of_cloneNets {macs : List String} {resources : List Instance}
    {nets : List (VirtDevice NetDevice)} (h : cloneNets macs resources = some nets) :
    ∃ domain doc, domain.devNet = nets ∧ Cloned goldenEnv simpleSystemHost {} goldenOfUuid none
      (cloneArgs resources) (goldenWorld macs) domain doc := by
  obtain ⟨domain, hdomain, h⟩ := Option.bind_eq_some_iff.mp h
  obtain ⟨doc, hdoc, h⟩ := Option.bind_eq_some_iff.mp h
  obtain ⟨config, hconfig, hnets⟩ := Option.map_eq_some_iff.mp h
  obtain ⟨start, hstart, hnew⟩ := Option.bind_eq_some_iff.mp hdomain
  -- the run of the request, from the arguments to the document
  have hdescribed : Described goldenEnv simpleSystemHost goldenOfUuid (cloneArgs resources)
      (goldenWorld macs) domain :=
    ⟨_, _, _, start, rfl, eq_ok_of_toOption hstart, eq_ok_of_toOption hnew⟩
  refine ⟨domain, doc, hnets, ?_⟩
  obtain ⟨hconnect, -⟩ | ⟨-, hnone, -⟩ | ⟨-, root, hroot, -, hlog, hok, -⟩ :=
    defineSystemMethod_cases goldenEnv simpleSystemHost ({} : SimpleLive) goldenOfUuid none
      hdescribed
  -- the two other ways through the request store nothing
  · cases hconnect
  · rw [hdoc, Option.bind_some, hconfig] at hnone
    cases hnone
  · rw [hdoc] at hroot
    rw [← Option.some.inj hroot] at hlog
    exact ⟨hdescribed, eq_ok_of_toOption hdoc, hok.mpr ⟨rfl, rfl⟩, hlog⟩

/-- What is read of the guest. -/
theorem referenceRead_golden {macs : List String} {ref : Domain}
    (h : getDominfoFromXml (golden macs) = .ok ref) :
    ReferenceRead goldenEnv goldenRef (goldenWorld macs) "golden"
      { live := {}, config := golden macs } ref where
  pfx := by decide
  connect := by decide
  named := by decide
  lookup := rfl
  there := rfl
  xmlDesc := rfl
  autostart := rfl
  parsed := h

/-- The address of the only interface is asked for. -/
theorem clone_requested :
    (referenceDomain goldenEnv goldenRef (goldenWorld ["00:16:3e:00:00:01"])).1 ≠
        .error .crash ∧
      ∃ ref domain doc, Cloned goldenEnv simpleSystemHost {} goldenOfUuid none
          (cloneArgs [interfaceRasd "00:16:3e:00:00:01"]) (goldenWorld ["00:16:3e:00:00:01"])
          domain doc ∧
        SharesNothing some (golden ["00:16:3e:00:00:01"]) ref
          [interfaceRasd "00:16:3e:00:00:01"] domain doc := by
  -- what is read of the reference, and that the request goes through
  have hread : ((getDominfoFromXml (golden ["00:16:3e:00:00:01"])).toOption.map fun ref =>
      ref.devNet.map fun net => net.dev.mac) = some [some "00:16:3e:00:00:01"] := by
    decide +kernel
  have hruns : (cloneNets ["00:16:3e:00:00:01"] [interfaceRasd "00:16:3e:00:00:01"]).isSome := by
    decide +kernel
  obtain ⟨ref, href, hmacs⟩ := Option.map_eq_some_iff.mp hread
  obtain ⟨nets, hnets⟩ := Option.isSome_iff_exists.mp hruns
  obtain ⟨domain, doc, -, hcloned⟩ := cloned_of_cloneNets hnets
  have hargs : (cloneArgs [interfaceRasd "00:16:3e:00:00:01"]).parse =
      .ok (_, [interfaceRasd "00:16:3e:00:00:01"], some goldenRef) := rfl
  obtain ⟨hcrash, hclone⟩ := clone_iff goldenEnv simpleSystemHost some {} goldenOfUuid none
    (hostDocumented_golden _) hargs (referenceRead_golden (eq_ok_of_toOption href))
  refine ⟨hcrash.mpr ?_, ref, domain, doc, hcloned, (hclone domain doc hcloned).mpr ⟨?_, ?_⟩⟩
  -- it has an interface
  · intro hnil
    rw [hnil] at hmacs
    cases hmacs
  -- and the one setting asks for the address of that interface
  · intro net hnet
    have hmac : net.dev.mac ∈ ref.devNet.map fun net => net.dev.mac := List.mem_map_of_mem hnet
    rw [hmacs, List.mem_singleton] at hmac
    rw [hmac]
    exact ⟨_, List.mem_cons_self, by decide, by decide⟩
  · rintro ⟨-, text, htext, -⟩
    cases htext

/-- A guest without interfaces cannot be cloned, and of one with two interfaces the clone has
the second. -/
theorem not_sharesNothing :
    (referenceDomain goldenEnv goldenRef (goldenWorld [])).1 = .error .crash ∧
      ∃ ref domain doc,
        getDominfoFromXml (golden ["00:16:3e:00:00:01", "00:16:3e:00:00:02"]) = .ok ref ∧
        Cloned goldenEnv simpleSystemHost {} goldenOfUuid none (cloneArgs [memoryRasd])
          (goldenWorld ["00:16:3e:00:00:01", "00:16:3e:00:00:02"]) domain doc ∧
        ¬ SharesNothing some (golden ["00:16:3e:00:00:01", "00:16:3e:00:00:02"]) ref [memoryRasd]
          domain doc := by
  constructor
  -- a reference without interfaces
  · have hnone : ((getDominfoFromXml (golden [])).toOption.map fun ref => ref.devNet.length) =
        some 0 := by decide +kernel
    obtain ⟨ref, href, hlength⟩ := Option.map_eq_some_iff.mp hnone
    exact (referenceDomain_crash_iff goldenEnv
      (referenceRead_golden (eq_ok_of_toOption href))).mpr (List.length_eq_zero_iff.mp hlength)
  -- and one with two, of which the second keeps its address
  · have hread : ((getDominfoFromXml
        (golden ["00:16:3e:00:00:01", "00:16:3e:00:00:02"])).toOption.map fun ref =>
          ref.devNet.map fun net => net.dev.mac) =
        some [some "00:16:3e:00:00:01", some "00:16:3e:00:00:02"] := by
      decide +kernel
    have hruns : ((cloneNets ["00:16:3e:00:00:01", "00:16:3e:00:00:02"] [memoryRasd]).map
        fun nets => nets.map fun net => net.dev.mac) =
        some [some "00:1A:4A:00:00:01", some "00:16:3e:00:00:02"] := by
      decide +kernel
    obtain ⟨ref, href, hmacs⟩ := Option.map_eq_some_iff.mp hread
    obtain ⟨nets, hnets, hcloned⟩ := Option.map_eq_some_iff.mp hruns
    obtain ⟨domain, doc, rfl, hclone⟩ := cloned_of_cloneNets hnets
    refine ⟨ref, domain, doc, eq_ok_of_toOption href, hclone, ?_⟩
    intro h
    -- the second interface has an address of the reference that nothing asks for
    have hdev : some "00:16:3e:00:00:02" ∈ domain.devNet.map fun net => net.dev.mac := by
      rw [hcloned]
      exact List.mem_cons_of_mem _ List.mem_cons_self
    have hold : some "00:16:3e:00:00:02" ∈ ref.devNet.map fun net => net.dev.mac := by
      rw [hmacs]
      exact List.mem_cons_of_mem _ List.mem_cons_self
    obtain ⟨dev, hmem, hmac⟩ := List.mem_map.mp hdev
    obtain ⟨net, hnet, hmac'⟩ := List.mem_map.mp hold
    obtain ⟨inst, hinst, htype, -⟩ := (h.interfaces dev hmem).1 net hnet (by
      rw [hmac, hmac']
      decide)
    rw [List.mem_singleton.mp hinst] at htype
    exact absurd htype (by decide)

end LibvirtCim.Service
