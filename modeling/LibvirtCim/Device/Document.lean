import LibvirtCim.Device.Dominfo
import LibvirtCim.Device.XmlGen
import Mathlib.Data.List.Lattice

/-!
# The devices of a document

Which elements the `devices` of a generated document has: for each list of the domain
those its generator writes, in order. `elems_systemToXml` says it name by name, in the
terms of the XPath expressions that read the document again.
-/

open Framework

namespace LibvirtCim.Device

/-- A display, as `graphics_xml` writes it. -/
def IsDisplay (gdev : GraphicsDevice) : Prop :=
  streqc (gdev.type.getD "") "vnc" ∨ streqc (gdev.type.getD "") "sdl"

/-! ### Selecting from lists of nodes -/

theorem elems_append (names : List String) (nodes nodes' : List Node) :
    elems names (nodes ++ nodes') = elems names nodes ++ elems names nodes' :=
  List.filter_append nodes nodes'

theorem elems_cons (names : List String) (node : Node) (nodes : List Node) :
    elems names (node :: nodes) = elems names [node] ++ elems names nodes :=
  elems_append names [node] nodes

/-- The nodes are elements, and have one of the names. -/
def Named (names : List String) (nodes : List Node) : Prop :=
  ∀ node ∈ nodes, ∃ name ∈ names, ∃ attrs children, node = .elem name attrs children

theorem Named.append {names : List String} {nodes nodes' : List Node} (h : Named names nodes)
    (h' : Named names nodes') : Named names (nodes ++ nodes') := by
  intro node hnode
  obtain hnode | hnode := List.mem_append.mp hnode
  · exact h node hnode
  · exact h' node hnode

theorem Named.nil (names : List String) : Named names [] := nofun

theorem Named.single {names : List String} {name : String} (h : name ∈ names)
    (attrs : List (String × String)) (children : List Node) :
    Named names [.elem name attrs children] := by
  intro node hnode
  rw [List.mem_singleton] at hnode
  exact ⟨name, h, attrs, children, hnode⟩

/-- Selecting names that no node has. -/
theorem Named.elems_of_disjoint {names names' : List String} {nodes : List Node}
    (h : Named names nodes) (hdisjoint : names.Disjoint names') :
    elems names' nodes = [] := by
  refine List.filter_eq_nil_iff.mpr fun node hnode => ?_
  obtain ⟨name, hmem, attrs, children, rfl⟩ := h node hnode
  simpa using hdisjoint hmem

/-- Selecting all names that the nodes have. -/
theorem Named.elems_of_subset {names names' : List String} {nodes : List Node}
    (h : Named names nodes) (hsubset : names ⊆ names') :
    elems names' nodes = nodes := by
  refine List.filter_eq_self.mpr fun node hnode => ?_
  obtain ⟨name, hmem, attrs, children, rfl⟩ := h node hnode
  simpa using hsubset hmem

/-- Selecting a name that no node has. -/
theorem Named.elems_eq_nil {names : List String} {nodes : List Node} (h : Named names nodes)
    {name : String} (hname : name ∉ names) : elems [name] nodes = [] := by
  exact h.elems_of_disjoint (List.disjoint_singleton.mpr hname)

/-- Selecting the one name that all nodes have. -/
theorem Named.elems_eq_self {name : String} {nodes : List Node} (h : Named [name] nodes) :
    elems [name] nodes = nodes :=
  h.elems_of_subset (List.Subset.refl _)

/-! ### The elements of a device type -/

/-- The generator for a device type; memory and processors are written outside of the
devices. -/
def deviceXml (domtype : DomainType) : (kind : DevKind) → kind.Dev → Except String (List Node)
  | .disk => diskXmlOf
  | .net => netXmlOf domtype
  | .console => consoleXmlOf
  | .graphics => graphicsXmlOf
  | .input => inputXmlOf
  | .controller => controllerXmlOf
  | .mem | .proc => fun _ => .ok []

/-- The names of the elements a generator writes. -/
def writtenNames : DevKind → List String
  | .disk => ["disk", "filesystem"]
  | .net => ["interface"]
  | .console => ["console"]
  | .graphics => ["graphics"]
  | .input => ["input"]
  | .controller => ["controller"]
  | .mem | .proc => []

theorem named_deviceXml {domtype : DomainType} {kind : DevKind} {dev : kind.Dev}
    {nodes : List Node} (h : deviceXml domtype kind dev = .ok nodes) :
    Named (writtenNames kind) nodes := by
  -- one element of one name, or none: kind by kind
  cases kind with
  | disk =>
    change diskXmlOf dev = .ok nodes at h
    unfold diskXmlOf at h
    split at h
    · cases h
      exact .single (by simp [writtenNames]) _ _
    · cases h
      exact .single (by simp [writtenNames]) _ _
    · cases h
      exact .single (by simp [writtenNames]) _ _
    · cases h
  | net =>
    obtain ⟨rest, -, ⟨⟩⟩ := bind_eq_ok h
    exact .single (by simp [writtenNames]) _ _
  | console =>
    cases h
    exact .single (by simp [writtenNames]) _ _
  -- a display that is neither VNC nor SDL has no element
  | graphics =>
    change graphicsXmlOf dev = .ok nodes at h
    unfold graphicsXmlOf at h
    split at h
    · cases h
      exact .single (by simp [writtenNames]) _ _
    · cases h
      exact .nil _
  | input =>
    cases h
    exact .single (by simp [writtenNames]) _ _
  | controller =>
    change controllerXmlOf dev = .ok nodes at h
    unfold controllerXmlOf at h
    split at h
    · cases h
    · cases h
      exact .single (by simp [writtenNames]) _ _
  | mem =>
    cases h
    exact .nil _
  | proc =>
    cases h
    exact .nil _

/-- No device has more than one element. -/
theorem length_deviceXml {domtype : DomainType} {kind : DevKind} {dev : kind.Dev}
    {nodes : List Node} (h : deviceXml domtype kind dev = .ok nodes) : nodes.length ≤ 1 := by
  -- the same cases, now counted
  cases kind with
  | disk =>
    change diskXmlOf dev = .ok nodes at h
    unfold diskXmlOf at h
    split at h <;> cases h <;> simp
  | net =>
    obtain ⟨rest, -, ⟨⟩⟩ := bind_eq_ok h
    simp
  | console =>
    cases h
    simp
  | graphics =>
    change graphicsXmlOf dev = .ok nodes at h
    unfold graphicsXmlOf at h
    split at h <;> cases h <;> simp
  | input =>
    cases h
    simp
  | controller =>
    change controllerXmlOf dev = .ok nodes at h
    unfold controllerXmlOf at h
    split at h <;> cases h
    simp
  | mem | proc =>
    cases h
    simp

/-- A list of devices taken apart at its head. -/
theorem devicesXml_cons {α : Type} {xml : α → Except String (List Node)} {dev : VirtDevice α}
    {devs : List (VirtDevice α)} {nodes : List Node}
    (h : devicesXml xml (dev :: devs) = .ok nodes) :
    (dev.type = .unknown ∧ devicesXml xml devs = .ok nodes) ∨
    (dev.type ≠ .unknown ∧ ∃ ns rest, xml dev.dev = .ok ns ∧ devicesXml xml devs = .ok rest ∧
      nodes = ns ++ rest) := by
  rw [devicesXml] at h
  split at h
  · next htype => exact .inl ⟨htype, h⟩
  · next htype =>
    obtain ⟨ns, hns, h⟩ := bind_eq_ok h
    obtain ⟨rest, hrest, h⟩ := bind_eq_ok h
    cases h
    exact .inr ⟨htype, ns, rest, hns, hrest, rfl⟩

/-- The elements of two lists of devices one after the other. -/
theorem devicesXml_append {α : Type} {xml : α → Except String (List Node)}
    {devs devs' : List (VirtDevice α)} {nodes nodes' : List Node}
    (h : devicesXml xml devs = .ok nodes) (h' : devicesXml xml devs' = .ok nodes') :
    devicesXml xml (devs ++ devs') = .ok (nodes ++ nodes') := by
  induction devs generalizing nodes with
  | nil =>
    cases h
    exact h'
  | cons dev devs ih =>
    rw [List.cons_append, devicesXml]
    obtain ⟨htype, htail⟩ | ⟨htype, ns, rest, hns, htail, rfl⟩ := devicesXml_cons h
    · rw [if_pos htype]
      exact ih htail
    · rw [if_neg htype, hns, ih htail, List.append_assoc]
      rfl

/-- A list of devices that is written, taken apart anywhere. -/
theorem devicesXml_of_append {α : Type} {xml : α → Except String (List Node)}
    {devs devs' : List (VirtDevice α)} {written : List Node}
    (h : devicesXml xml (devs ++ devs') = .ok written) :
    ∃ nodes nodes', devicesXml xml devs = .ok nodes ∧ devicesXml xml devs' = .ok nodes' ∧
      written = nodes ++ nodes' := by
  -- device by device, a device without a type being skipped in both lists
  induction devs generalizing written with
  | nil => exact ⟨[], written, rfl, h, rfl⟩
  | cons dev devs ih =>
    obtain ⟨htype, htail⟩ | ⟨htype, ns, rest, hns, htail, rfl⟩ := devicesXml_cons h
    · obtain ⟨nodes, nodes', hnodes, hnodes', rfl⟩ := ih htail
      refine ⟨nodes, nodes', ?_, hnodes', rfl⟩
      rw [devicesXml, if_pos htype, hnodes]
    · obtain ⟨nodes, nodes', hnodes, hnodes', rfl⟩ := ih htail
      refine ⟨ns ++ nodes, nodes', ?_, hnodes', ?_⟩
      · rw [devicesXml, if_neg htype, hns, hnodes]
        rfl
      · rw [List.append_assoc]

theorem named_devicesXml {domtype : DomainType} {kind : DevKind}
    {devs : List (VirtDevice kind.Dev)} {nodes : List Node}
    (h : devicesXml (deviceXml domtype kind) devs = .ok nodes) :
    Named (writtenNames kind) nodes := by
  induction devs generalizing nodes with
  | nil =>
    cases h
    exact .nil _
  | cons dev devs ih =>
    obtain ⟨-, h⟩ | ⟨-, ns, rest, hns, hrest, rfl⟩ := devicesXml_cons h
    · exact ih h
    · exact (named_deviceXml hns).append (ih hrest)

/-! ### The document -/

section Document

variable (nodeContent : String → List Node) (newUuid : String)

/-- The console libvirt expects of a container. -/
def lxcConsole (domtype : DomainType) : List Node :=
  if domtype = .lxc then [.elem "console" [("type", "pty")] []] else []

/-- What is written for each list of the domain. -/
theorem devicesElementXml_ok {dominfo : Domain} {devices : Node}
    (h : devicesElementXml nodeContent dominfo = .ok devices) :
    ∃ written : DevKind → List Node,
      (∀ kind, kind ≠ .mem → kind ≠ .proc →
        devicesXml (deviceXml dominfo.type kind) (dominfo.list kind) = .ok (written kind)) ∧
      devices = .elem "devices" [] (written .disk ++ written .net ++ written .input ++
        written .console ++ written .graphics ++ emuXml nodeContent dominfo ++
        written .controller ++ lxcConsole dominfo.type) := by
  -- the six lists in the order of the document
  obtain ⟨disks, hdisks, h⟩ := bind_eq_ok h
  obtain ⟨nets, hnets, h⟩ := bind_eq_ok h
  obtain ⟨inputs, hinputs, h⟩ := bind_eq_ok h
  obtain ⟨consoles, hconsoles, h⟩ := bind_eq_ok h
  obtain ⟨graphics, hgraphics, h⟩ := bind_eq_ok h
  obtain ⟨controllers, hcontrollers, h⟩ := bind_eq_ok h
  cases h
  refine ⟨fun kind => match kind with
    | .disk => disks
    | .net => nets
    | .input => inputs
    | .console => consoles
    | .graphics => graphics
    | .controller => controllers
    | .mem | .proc => [], ?_, rfl⟩
  intro kind hmem hproc
  cases kind with
  | disk => exact hdisks
  | net => exact hnets
  | input => exact hinputs
  | console => exact hconsoles
  | graphics => exact hgraphics
  | controller => exact hcontrollers
  | mem => exact absurd rfl hmem
  | proc => exact absurd rfl hproc

/-- The element that is written when the elements of each list are known. -/
theorem devicesElementXml_of_lists {dominfo : Domain} (written : DevKind → List Node)
    (hwritten : ∀ kind, kind ≠ .mem → kind ≠ .proc →
      devicesXml (deviceXml dominfo.type kind) (dominfo.list kind) = .ok (written kind)) :
    devicesElementXml nodeContent dominfo = .ok (.elem "devices" [] (written .disk ++
      written .net ++ written .input ++ written .console ++ written .graphics ++
      emuXml nodeContent dominfo ++ written .controller ++ lxcConsole dominfo.type)) := by
  have hdisk : diskXml dominfo = .ok (written .disk) := hwritten .disk nofun nofun
  have hnet : netXml dominfo = .ok (written .net) := hwritten .net nofun nofun
  have hinput : inputXml dominfo = .ok (written .input) := hwritten .input nofun nofun
  have hconsole : consoleXml dominfo = .ok (written .console) := hwritten .console nofun nofun
  have hgraphics : graphicsXml dominfo = .ok (written .graphics) := hwritten .graphics nofun nofun
  have hcontroller : controllerXml dominfo = .ok (written .controller) :=
    hwritten .controller nofun nofun
  unfold devicesElementXml
  rw [hdisk, hnet, hinput, hconsole, hgraphics, hcontroller]
  rfl

/-- A document is written when its system and its lists are. -/
theorem exists_systemToXml {dominfo : Domain} (hos : ∃ os, osXml nodeContent dominfo = .ok os)
    (hlists : ∀ kind, kind ≠ .mem → kind ≠ .proc →
      ∃ nodes, devicesXml (deviceXml dominfo.type kind) (dominfo.list kind) = .ok nodes) :
    ∃ doc, systemToXml nodeContent newUuid dominfo = .ok doc := by
  -- a list for every kind, empty for the two that have none
  have hwritten (kind : DevKind) : ∃ nodes, kind ≠ .mem → kind ≠ .proc →
      devicesXml (deviceXml dominfo.type kind) (dominfo.list kind) = .ok nodes := by
    by_cases hkind : kind ≠ .mem ∧ kind ≠ .proc
    · obtain ⟨nodes, hnodes⟩ := hlists kind hkind.1 hkind.2
      exact ⟨nodes, fun _ _ => hnodes⟩
    · exact ⟨[], fun hmem hproc => absurd ⟨hmem, hproc⟩ hkind⟩
  choose written hwritten using hwritten
  obtain ⟨os, hos⟩ := hos
  have hdevices := devicesElementXml_of_lists nodeContent written hwritten
  unfold systemToXml
  rw [hos, hdevices]
  exact ⟨_, rfl⟩

/-- The names of the settings. -/
def settingNames : List String :=
  ["name", "bootloader", "bootloader_args", "on_poweroff", "on_crash", "uuid", "clock", "os",
    "features"]

theorem Named.optContent {names : List String} {name : String} (h : name ∈ names)
    (content : Option String) : Named names (optContent nodeContent name content) := by
  cases content with
  | none => exact .nil _
  | some content => exact .single h _ _

theorem named_systemXml (domain : Domain) (uuid : String) :
    Named settingNames (systemXml nodeContent domain uuid) := by
  -- every child of the first part has one of the names of the settings
  have hclock : Named settingNames (optChild "clock" "offset" domain.clock) := by
    cases domain.clock with
    | none => exact .nil _
    | some offset => exact .single (by simp [settingNames]) _ _
  have hactions : Named settingNames
      [xmlNewChild nodeContent "on_poweroff" (some (vssdRecoveryActionStr domain.onPoweroff)),
        xmlNewChild nodeContent "on_crash" (some (vssdRecoveryActionStr domain.onCrash)),
        xmlNewChild nodeContent "uuid" (some uuid)] :=
    ((Named.single (by simp [settingNames]) _ _).append
      (.single (by simp [settingNames]) _ _)).append (.single (by simp [settingNames]) _ _)
  unfold systemXml
  refine Named.append (.append (.append (.append ?_ ?_) ?_) hactions) hclock
  · exact .single (by simp [settingNames]) _ _
  · exact .optContent nodeContent (by simp [settingNames]) _
  · exact .optContent nodeContent (by simp [settingNames]) _

theorem exists_osXml {domain : Domain} {os : Node} (h : osXml nodeContent domain = .ok os) :
    ∃ children, os = .elem "os" [] children := by
  unfold osXml at h
  split at h <;> cases h <;> exact ⟨_, rfl⟩

theorem named_osXml {domain : Domain} {os : Node} (h : osXml nodeContent domain = .ok os) :
    Named settingNames [os, featuresXml domain] := by
  obtain ⟨children, rfl⟩ := exists_osXml nodeContent h
  exact (Named.single (by simp [settingNames]) _ _).append (.single (by simp [settingNames]) _ _)

theorem named_memXml (dominfo : Domain) :
    Named ["currentMemory", "memory"] (memXml nodeContent dominfo) := by
  unfold memXml
  split
  · exact .nil _
  · exact (Named.single (by simp) _ _).append (.single (by simp) _ _)

theorem named_vcpuXml (dominfo : Domain) : Named ["vcpu"] (vcpuXml nodeContent dominfo) := by
  unfold vcpuXml
  split
  · exact .nil _
  · exact .single (by simp) _ _

theorem named_cputuneXml (dominfo : Domain) :
    Named ["cputune"] (cputuneXml nodeContent dominfo) := by
  unfold cputuneXml
  split
  · exact .nil _
  · exact .single (by simp) _ _

theorem named_emuXml (dominfo : Domain) : Named ["emulator"] (emuXml nodeContent dominfo) := by
  unfold emuXml
  split
  · exact .nil _
  · exact .single (by simp) _ _

theorem named_lxcConsole (domtype : DomainType) : Named ["console"] (lxcConsole domtype) := by
  unfold lxcConsole
  split
  · exact .single (by simp) _ _
  · exact .nil _

/-- The document has one element for the devices. -/
theorem systemToXml_ok {dominfo : Domain} {doc : Node}
    (h : systemToXml nodeContent newUuid dominfo = .ok doc) :
    ∃ devices, devicesElementXml nodeContent dominfo = .ok devices ∧
      domainXPath doc ["devices"] = elems ["devices"] [devices] := by
  -- of all parts of the document, only one has the name devices
  obtain ⟨os, hos, h⟩ := bind_eq_ok h
  obtain ⟨devices, hdevices, h⟩ := bind_eq_ok h
  cases h
  refine ⟨devices, hdevices, ?_⟩
  rw [domainXPath, if_pos (by simp), Node.children_elem]
  simp only [elems_append]
  rw [(named_systemXml nodeContent dominfo _).elems_eq_nil (by simp [settingNames]),
    (named_osXml nodeContent hos).elems_eq_nil (by simp [settingNames]),
    (named_memXml nodeContent dominfo).elems_eq_nil (by simp),
    (named_vcpuXml nodeContent dominfo).elems_eq_nil (by simp),
    (named_cputuneXml nodeContent dominfo).elems_eq_nil (by simp)]
  rfl

/-- No name is written for two device types. -/
theorem writtenNames_unique {kind kind' : DevKind} {name : String}
    (h : name ∈ writtenNames kind) (h' : name ∈ writtenNames kind') : kind' = kind := by
  cases kind <;> cases kind' <;> first | rfl | grind [writtenNames]

/-- **The elements of a name** are those written for the devices of its type, and the
console of a container. -/
theorem elems_systemToXml {dominfo : Domain} {doc : Node}
    (h : systemToXml nodeContent newUuid dominfo = .ok doc) {kind : DevKind} {name : String}
    (hname : name ∈ writtenNames kind) :
    ∃ written, devicesXml (deviceXml dominfo.type kind) (dominfo.list kind) = .ok written ∧
      devicesXPath doc [name] = elems [name] written ++ elems [name] (lxcConsole dominfo.type) := by
  obtain ⟨devices, hdevices, hxpath⟩ := systemToXml_ok nodeContent newUuid h
  obtain ⟨written, hwritten, rfl⟩ := devicesElementXml_ok nodeContent hdevices
  -- memory and processors write no device, so the name is of another kind
  have hmem : kind ≠ .mem := by
    rintro rfl
    exact absurd hname List.not_mem_nil
  have hproc : kind ≠ .proc := by
    rintro rfl
    exact absurd hname List.not_mem_nil
  refine ⟨written kind, hwritten kind hmem hproc, ?_⟩
  -- the lists of the other kinds have other names
  have hnil (kind' : DevKind) (hne : kind' ≠ kind) (hmem' : kind' ≠ .mem)
      (hproc' : kind' ≠ .proc) : elems [name] (written kind') = [] :=
    (named_devicesXml (hwritten kind' hmem' hproc')).elems_eq_nil
      fun h' => hne (writtenNames_unique hname h')
  -- nor is the emulator an element of a device
  have hemu : elems [name] (emuXml nodeContent dominfo) = [] := by
    refine (named_emuXml nodeContent dominfo).elems_eq_nil fun h' => ?_
    rw [List.mem_singleton.mp h'] at hname
    cases kind <;> simp [writtenNames] at hname
  rw [devicesXPath, hxpath]
  have hone : elems ["devices"] [Node.elem "devices" [] (written .disk ++ written .net ++
      written .input ++ written .console ++ written .graphics ++ emuXml nodeContent dominfo ++
      written .controller ++ lxcConsole dominfo.type)] = [_] := rfl
  rw [hone, List.flatMap_singleton, Node.children_elem]
  simp only [elems_append, hemu]
  cases kind with
  | disk => simp [hnil]
  | net => simp [hnil]
  | input => simp [hnil]
  | console => simp [hnil]
  | graphics => simp [hnil]
  | controller => simp [hnil]
  | mem => exact absurd rfl hmem
  | proc => exact absurd rfl hproc

end Document

end LibvirtCim.Device
