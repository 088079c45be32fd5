import LibvirtCim.Device.Removal
import LibvirtCim.Service.Steps

/-!
# What `RemoveResourceSettings` leaves

The request parses the definition, marks the device and defines the document that is written;
libvirt stores that document with what it lacks filled in and its own devices added.
`preciseRemoval_iff` says when the stored definition is the old one without the device: when
there was a connection to define it, and the domain is one whose other devices are all read again,
and the one that is removed is not (`Removable`). Without a connection the request succeeds and
nothing is stored.
-/

open Framework LibvirtCim.Device LibvirtCim.Rasd

namespace LibvirtCim.Service

variable {Live : Type}

/-- What libvirt does with the devices of a definition: it keeps those it is given, filled in as
`store` says for the document, and a change of the scheduler parameters is not about them. -/
structure DevicesDocumented (store : Node → DeviceStore) (lv : Libvirt Live) : Prop where
  defineXML : ∀ doc config, lv.defineXML doc = some config → StoredAs (store doc) doc config
  setConfig : ∀ weight root config, lv.setConfigSchedulerParameters weight root = some config →
    ∀ kind, xpathNodes config kind = xpathNodes root kind

variable (env : Env Live)

/-- The document of a domain without one of its devices. The device is not taken from its list but
marked, with the type that the generator skips, so the others keep their places. -/
def MarkedDocument (d : Domain) (kind : DevKind) (devid : String) (doc : Node) : Prop :=
  ∃ before after dev, splitAtFirst (hasId devid) (d.list kind) = some (before, dev, after) ∧
    systemToXml env.nodeContent env.newUuid (marked d kind before after dev) = .ok doc

/-- What the request stores in the end. -/
def Stored (doc : Node) (g s : Guest Live) : Prop :=
  if env.calls.connect .create then env.lv.defineXML doc = some s.config else s.config = g.config

theorem connectAndCreate_stored (doc : Node) (g : Guest Live) :
    Triple (· = g) (connectAndCreate env (some doc)) (fun _ s => Stored env doc g s)
      (fun _ _ => True) := by
  unfold connectAndCreate
  refine Triple.bind (Q := fun connected s => connected = env.calls.connect .create ∧ s = g)
    (Triple.of_ofExcept (fun connected h s hs => ⟨?_, hs⟩) fun _ _ _ _ => trivial)
    fun connected => ?_
  -- a failure to connect that is no error leaves the request without an effect
  · unfold connectByClassname at h
    split at h <;> cases h
    rfl
  cases connected with
  | false =>
    refine Triple.of_pure fun s hs => ?_
    rw [Stored, ← hs.1, hs.2]
    rfl
  -- without a connection nothing is defined, and the request goes on
  | true =>
    refine Triple.bind (Q := fun ok s => ok = true → Stored env doc g s) (Triple.of_call ?_)
      fun ok => ?_
    -- a definition that libvirt takes is the one the guest now has
    · rintro s ⟨hconnect, rfl⟩ hok
      obtain ⟨config, hconfig⟩ := Option.isSome_iff_exists.mp hok
      rw [Stored, ← hconnect, if_pos rfl]
      show env.lv.defineXML doc = some _
      rw [hconfig]
      exact hconfig
    -- what follows only looks at it and raises the indication
    refine Triple.bind (Q := fun _ s => Stored env doc g s)
      (Triple.of_require (fun hok s hs => hs hok) fun _ _ _ => trivial) fun _ => ?_
    refine Triple.bind (Q := fun _ s => Stored env doc g s)
      (Triple.of_require (fun _ s hs => hs) fun _ _ _ => trivial) fun _ => ?_
    exact Triple.of_pure fun s hs => hs

/-- What `resource_del` makes of the parsed domain. -/
theorem resourceDel_spec (d : Domain) (rasd : Instance) (type : RasdType) (devid : String)
    (g : Guest Live) :
    Triple (· = g) (resourceDel env d rasd type (some devid))
      (fun d' s => ∃ kind before after dev, type = .dev kind ∧ kind ≠ .mem ∧ kind ≠ .proc ∧
        splitAtFirst (hasId devid) (d.list kind) = some (before, dev, after) ∧
        d' = marked d kind before after dev ∧ WeightKept env d rasd.classname g.config s.config)
      (fun _ _ => True) := by
  unfold resourceDel
  dsimp only
  split
  · exact Triple.of_fail fun _ _ => trivial
  · exact Triple.of_fail fun _ _ => trivial
  · exact Triple.of_fail fun _ _ => trivial
  -- memory and processors cannot be removed, the other devices are looked up by their id
  · next kind hmem hproc =>
    split
    · exact Triple.of_fail fun _ _ => trivial
    split
    · exact Triple.of_fail fun _ _ => trivial
    · next before dev after hlist =>
      -- the running guest is changed first, of its definition only the weight
      refine Triple.bind ((changeRunning_spec env d .del dev rasd.classname g).weaken
        (fun _ hs => hs) (fun _ _ hs => hs) fun _ _ _ => trivial) fun _ => ?_
      refine Triple.of_pure fun s hs =>
        ⟨kind, before, after, dev, rfl, ?_, ?_, hlist, rfl, hs.config⟩
      · rintro rfl
        exact hmem rfl
      · rintro rfl
        exact hproc rfl

/-- A request that succeeds: the device that was marked, and what was stored. -/
structure RemovalPerformed (devid : String) (rasd : Instance) (d : Domain) (kind : DevKind)
    (g s : Guest Live) : Prop where
  mem : kind ≠ .mem
  proc : kind ≠ .proc
  stored : ∃ doc mid, MarkedDocument env d kind devid doc ∧
    WeightKept env d rasd.classname g.config mid.config ∧ Stored env doc mid s

/-- **What a removal does.** -/
theorem removal_spec {devid : String} {rasd : Instance} {d : Domain} {kind : DevKind}
    {g : Guest Live} (hparse : getDominfoFromXml g.config = .ok d)
    (htype : resTypeFromRasdClassname rasd = some (.dev kind)) :
    Triple (· = g) (updateResourcesFor env .del (some devid) rasd)
      (fun _ s => RemovalPerformed env devid rasd d kind g s) (fun _ _ => True) := by
  unfold updateResourcesFor
  refine Triple.bind ((getDominfo_spec env _ g).weaken (fun _ h => h) (fun _ _ h => h)
    fun _ _ _ => trivial) fun d' => ?_
  -- what was read is the definition as it stood
  rw [htype]
  refine Triple.bind (Q := fun rasd' s => d' = d ∧ rasd' = rasd ∧ s = g)
    (Triple.of_ofExcept (fun rasd' hr s hs => ?_) fun _ _ _ _ => trivial) fun rasd' => ?_
  · cases hr
    exact ⟨Except.ok.inj (hs.1.symm.trans hparse), rfl, hs.2⟩
  rintro s ⟨rfl, rfl, rfl⟩
  -- the list is changed, then the document is made of it and defined
  refine Triple.bind (resourceDel_spec env d' rasd' (.dev kind) devid s) (fun changed => ?_) s rfl
  rintro mid ⟨_, before, after, dev, ⟨rfl⟩, hmem, hproc, hlist, rfl, hweight⟩
  cases hdoc : systemToXml env.nodeContent env.newUuid (marked d' kind before after dev) with
  | error msg =>
    refine ⟨?_, fun _ _ => trivial⟩
    rintro _ ⟨⟩
  | ok doc =>
    refine Triple.bind (connectAndCreate_stored env doc mid)
      (fun _ => Triple.of_pure fun t ht => ?_)
      mid rfl
    exact ⟨hmem, hproc, doc, mid, ⟨before, after, dev, hlist, hdoc⟩, hweight, ht⟩

variable {env}

/-- There is one such document. -/
theorem MarkedDocument.unique {d : Domain} {kind : DevKind} {devid : String} {doc doc' : Node}
    (h : MarkedDocument env d kind devid doc) (h' : MarkedDocument env d kind devid doc') :
    doc = doc' := by
  obtain ⟨before, after, dev, hsplit, hdoc⟩ := h
  obtain ⟨before', after', dev', hsplit', hdoc'⟩ := h'
  cases hsplit.symm.trans hsplit'
  exact Except.ok.inj (hdoc.symm.trans hdoc')

/-- A definition that was not written anew still has the device. -/
theorem not_preciselyRemoved_of_nodes {d : Domain} {kind : DevKind} {dev : VirtDevice kind.Dev}
    {devid : String} {root config : Node} (hparse : getDominfoFromXml root = .ok d)
    (hmem : kind ≠ .mem) (hdev : dev ∈ d.list kind) (hid : dev.id = some devid)
    (hnodes : xpathNodes config kind = xpathNodes root kind) :
    ¬ PreciselyRemoved d kind devid config := by
  rintro ⟨d', hback, hgone, -⟩
  have hold := list_getDominfoFromXml hparse hmem
  have hnew := list_getDominfoFromXml hback hmem
  unfold parseDevices at hold hnew
  rw [hnodes, hold] at hnew
  rw [← Except.ok.inj hnew] at hgone
  exact hgone dev hdev hid

/-- A console with the port it has as the first one. -/
def withPort (node : Node) : Node :=
  if node.isElem "console" then
    if (node.child "target").isSome then
      node.withChildren (node.children.map fun child =>
        if child.isElem "target" ∧ child.attr "port" = none then child.addAttr "port" "0"
        else child)
    else node.withChildren
      (node.children ++ [.elem "target" [("type", "serial"), ("port", "0")] []])
  else node

/-- The element of a device with what it lacks. -/
def completed (node : Node) : Node := withPort (withMountType node)

@[simp] theorem isElem_completed (node : Node) (name : String) :
    (completed node).isElem name = node.isElem name := by
  have hmount : (withMountType node).isElem name = node.isElem name := by
    unfold withMountType
    split
    · cases node <;> rfl
    · rfl
  unfold completed withPort
  repeat' split
  all_goals simp [hmount]

/-- The devices that a PC has in any case: a USB controller, a mouse and a keyboard. -/
def implicitDevices (devices : List Node) : List Node :=
  let has (name type : String) : Bool :=
    devices.any fun node => node.isElem name && node.attr "type" = some type
  (if has "controller" "usb" then []
    else [.elem "controller" [("type", "usb"), ("index", "0"), ("model", "piix3-uhci")] []]) ++
  (if has "input" "mouse" then [] else [.elem "input" [("type", "mouse"), ("bus", "ps2")] []]) ++
  if has "input" "keyboard" then [] else [.elem "input" [("type", "keyboard"), ("bus", "ps2")] []]

/-- The devices are completed, and what is below the domain besides is left alone. -/
def completedPart (node : Node) : Node :=
  if node.isElem "devices" then
    node.withChildren (node.children.map completed ++ implicitDevices node.children)
  else node

/-- The definition that is stored for a document. -/
def completedDomain (doc : Node) : Node :=
  doc.withChildren (doc.children.map completedPart)

/-- What is stored for the devices of a document. -/
def completedStore (doc : Node) : DeviceStore where
  kept node node' := node' = completed node
  implicit node := ∃ devices ∈ domainXPath doc ["devices"], node ∈ implicitDevices devices.children

/-- A libvirt that completes the documents it can read, as it does for a PC. -/
def typedLibvirt : Libvirt SimpleLive :=
  { simpleLibvirt with
    setConfigSchedulerParameters := fun _ _ => none
    defineXML := fun doc =>
      if (parseDomain (completedDomain doc)).toOption.isSome ∧
          ∀ node ∈ xpathNodes (completedDomain doc) .net,
            ∃ child ∈ node.children, child.name = "mac" then
        some (completedDomain doc)
      else none }

/-- Names do not change. -/
theorem elems_map {f : Node → Node} (hf : ∀ node name, (f node).isElem name = node.isElem name)
    (names : List String) (nodes : List Node) :
    elems names (nodes.map f) = (elems names nodes).map f := by
  unfold elems
  rw [List.filter_map]
  congr 1
  apply List.filter_congr
  intro node _
  simp [hf]

theorem isElem_completedPart (node : Node) (name : String) :
    (completedPart node).isElem name = node.isElem name := by
  unfold completedPart
  split <;> simp

theorem domainXPath_completedDomain (doc : Node) (names : List String) :
    domainXPath (completedDomain doc) names = (domainXPath doc names).map completedPart := by
  cases doc with
  | elem name attrs children =>
    by_cases hname : name = "domain"
    · simp only [domainXPath, completedDomain, Node.withChildren, Node.isElem_elem, hname,
        decide_true, if_true, Node.children_elem]
      exact elems_map isElem_completedPart names children
    · simp [domainXPath, completedDomain, Node.withChildren, hname]
  | text _ | comment _ | pi _ _ | entityRef _ => rfl

/-- The parts of the domain besides its devices are as they were. -/
theorem domainXPath_completedDomain_of_ne (doc : Node) {names : List String}
    (hnames : "devices" ∉ names) :
    domainXPath (completedDomain doc) names = domainXPath doc names := by
  rw [domainXPath_completedDomain]
  -- only the part of the devices is completed
  have hsame : ∀ node ∈ domainXPath doc names, completedPart node = id node := by
    intro node hnode
    apply if_neg
    intro hdevices
    have helems : node ∈ elems names doc.children := by
      unfold domainXPath at hnode
      split at hnode
      · exact hnode
      · cases hnode
    obtain ⟨name, hname, helem⟩ := List.any_eq_true.mp (List.mem_filter.mp helems).2
    rw [name_of_isElem hdevices |>.symm.trans (name_of_isElem helem)] at hnames
    exact hnames hname
  rw [List.map_congr_left hsame, List.map_id]

/-- The devices that are stored. -/
theorem mem_devicesXPath_completedDomain {doc node : Node} {names : List String} :
    node ∈ devicesXPath (completedDomain doc) names ↔
      (∃ written ∈ devicesXPath doc names, (completedStore doc).kept written node) ∨
        node.name ∈ names ∧ (completedStore doc).implicit node := by
  -- of one part: its elements, each completed, and the ones libvirt adds
  have hpart (devices : Node) (hdevices : devices ∈ domainXPath doc ["devices"]) :
      node ∈ elems names (completedPart devices).children ↔
        (∃ written ∈ elems names devices.children, node = completed written) ∨
          node.name ∈ names ∧ node ∈ implicitDevices devices.children := by
    -- the part is an element named devices
    have hname : devices.isElem "devices" := by
      unfold domainXPath at hdevices
      split at hdevices
      · simpa [elems] using (List.mem_filter.mp hdevices).2
      · cases hdevices
    have hchildren : (completedPart devices).children =
        devices.children.map completed ++ implicitDevices devices.children := by
      rw [completedPart, if_pos hname]
      cases devices with
      | elem _ _ _ => rfl
      | text _ | comment _ | pi _ _ | entityRef _ => cases hname
    have himplicit : node ∈ elems names (implicitDevices devices.children) ↔
        node.name ∈ names ∧ node ∈ implicitDevices devices.children := by
      -- they are elements
      have helem (h : node ∈ implicitDevices devices.children) (name : String) :
          node.isElem name ↔ node.name = name := by
        unfold implicitDevices at h
        simp only [List.mem_append] at h
        obtain (h | h) | h := h <;> split at h <;>
          simp only [List.not_mem_nil, List.mem_singleton] at h <;> subst h <;> simp
      rw [elems, List.mem_filter, List.any_eq_true]
      constructor
      · rintro ⟨hmem, name, hname, hnode⟩
        rw [helem hmem] at hnode
        exact ⟨hnode ▸ hname, hmem⟩
      · rintro ⟨hname, hmem⟩
        exact ⟨hmem, node.name, hname, (helem hmem _).mpr rfl⟩
    rw [hchildren, elems_append, List.mem_append, himplicit, elems_map isElem_completed,
      List.mem_map]
    simp only [eq_comm]
  -- the same over all parts of the document
  unfold devicesXPath
  rw [domainXPath_completedDomain, List.flatMap_map, List.mem_flatMap]
  constructor
  · rintro ⟨devices, hdevices, hnode⟩
    obtain ⟨written, hwritten, hkept⟩ | ⟨hname, hmem⟩ := (hpart devices hdevices).mp hnode
    · exact .inl ⟨written, List.mem_flatMap.mpr ⟨devices, hdevices, hwritten⟩, hkept⟩
    · exact .inr ⟨hname, devices, hdevices, hmem⟩
  · rintro (⟨written, hwritten, hkept⟩ | ⟨hname, devices, hdevices, hmem⟩)
    · obtain ⟨devices, hdevices, hwritten⟩ := List.mem_flatMap.mp hwritten
      exact ⟨devices, hdevices, (hpart devices hdevices).mpr (.inl ⟨written, hwritten, hkept⟩)⟩
    · exact ⟨devices, hdevices, (hpart devices hdevices).mpr (.inr ⟨hname, hmem⟩)⟩

theorem devicesDocumented_typedLibvirt : DevicesDocumented completedStore typedLibvirt where
  setConfig weight root config h := by cases h
  defineXML doc config h := by
    obtain ⟨⟨hreadable, hmacs⟩, ⟨⟩⟩ := Option.ite_none_right_eq_some.mp h
    obtain ⟨settings, hsettings⟩ := Option.isSome_iff_exists.mp hreadable
    -- memory and processors stand outside the devices, where nothing is added
    have hcapacity (kind : DevKind) (hkind : kind = .mem ∨ kind = .proc) :
        parseDevices (completedDomain doc) kind = parseDevices doc kind := by
      have hnames : "devices" ∉ xpathNames kind := by
        obtain rfl | rfl := hkind <;> simp [xpathNames]
      have hnodes : xpathNodes (completedDomain doc) kind = xpathNodes doc kind := by
        obtain rfl | rfl := hkind <;> exact domainXPath_completedDomain_of_ne doc hnames
      rw [parseDevices, hnodes]
      rfl
    refine ⟨⟨settings, eq_ok_of_toOption hsettings⟩, hmacs, ?_, hcapacity .proc (.inr rfl), ?_⟩
    · intro mdevs hmdevs
      exact ⟨mdevs, (hcapacity .mem (.inl rfl)).trans hmdevs, rfl⟩
    · intro kind hmem hproc node
      cases kind with
      | mem => exact absurd rfl hmem
      | proc => exact absurd rfl hproc
      | disk | net | graphics | console | input | controller =>
        exact mem_devicesXPath_completedDomain

/-- A guest with some devices. -/
def guestWith (devices : List Node) : Node :=
  .elem "domain" [("type", "kvm")]
    [.elem "name" [] [.text "guest"], .elem "os" [] [.elem "type" [] [.text "hvm"]],
      .elem "devices" [] devices]

/-- Its host. -/
def typedEnv (devices : List Node) : Env SimpleLive :=
  { simpleEnv (guestWith devices) with lv := typedLibvirt, nodeContent := textNodes }

/-- A disk in a file, as it is parsed. -/
def parsedDisk (target : String) : VirtDevice DiskDevice where
  type := .disk
  dev :=
    { type := some "file", device := some "disk", source := some "/var/lib/disk.img"
      virtualDev := some target, diskType := .file }
  id := some target

/-- A guest with two disks, as it is parsed. -/
def twoDiskDomain : Domain where
  type := .kvm
  name := some "guest"
  typestr := some "kvm"
  osInfo := { type := some "hvm" }
  devDisk := [parsedDisk "vda", parsedDisk "vdb"]

/-- The class of the settings of a device. -/
def settingOf (base : String) : Instance := { pfx := "KVM", base }

/-- The element of a disk as libvirt describes it. -/
def storedDisk (target slot : String) : Node :=
  .elem "disk" [("type", "file"), ("device", "disk")]
    [.elem "driver" [("name", "qemu"), ("type", "raw")] [],
      .elem "source" [("file", "/var/lib/disk.img")] [],
      .elem "target" [("dev", target), ("bus", "virtio")] [],
      .elem "address" [("type", "pci"), ("slot", slot)] []]

/-- What is read of it. -/
def readDisk (target slot : String) : VirtDevice DiskDevice where
  type := .disk
  dev :=
    { type := some "file", device := some "disk", driver := some "qemu"
      driverType := some "raw", source := some "/var/lib/disk.img", virtualDev := some target
      busType := some "virtio", diskType := .file
      address := [("type", "pci"), ("slot", slot)] }
  id := some target

/-- The devices that a definition has in any case. -/
def ownDevices : List Node := implicitDevices []

/-- A guest as it is parsed that has these devices and others. -/
def ownDomain (disks : List (VirtDevice DiskDevice)) (consoles : List (VirtDevice ConsoleDevice))
    (graphics : List (VirtDevice GraphicsDevice)) : Domain where
  type := .kvm
  name := some "guest"
  typestr := some "kvm"
  osInfo := { type := some "hvm" }
  devDisk := disks
  devConsole := consoles
  devGraphics := graphics
  devInput :=
    [{ type := .input, dev := { type := some "mouse", bus := some "ps2" }, id := some "mouse:ps2" },
      { type := .input, dev := { type := some "keyboard", bus := some "ps2" }
        id := some "keyboard:ps2" }]
  devController :=
    [{ type := .controller, dev := { type := .usb, index := 0, model := some "piix3-uhci" }
       id := some "controller:usb:0" }]

/-- A console on a terminal, as libvirt describes it. -/
def terminalConsole : Node :=
  .elem "console" [("type", "pty")] [.elem "target" [("type", "serial"), ("port", "0")] []]

/-- The graphics device that stands for it. -/
def terminalGraphics : VirtDevice GraphicsDevice where
  type := .graphics
  dev := { type := some "console", port := some "0" }
  id := some "console:0"

end LibvirtCim.Service
