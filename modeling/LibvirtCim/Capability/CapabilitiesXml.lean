import LibvirtCim.Capability.Defaults
import LibvirtCim.Device.Parse

/-!
# The capabilities of a hypervisor, from their document

`_get_capabilities` of `capability_parsing.c` reads the host and the guests of the document libvirt
describes itself with into `struct capabilities`, and puts the defaults of each architecture into
its domains. `capabilities_told` says what the lookups find then, of any document whose guests and
domains have their types: the first domain in the order of the document that meets what is asked
for, with its own emulator and machine or those of its architecture.

A name that occurs more than once in one place is read as its last, except that machines, domains
and architectures add up.
-/

open Framework LibvirtCim.Device

namespace LibvirtCim.CapabilityParsing

/-! ### The document -/

/-- `//outer//inner`, from one node on: the nodes called `inner` that stand somewhere in one that
is called `outer`, in the order of the document. -/
def nodesUnder (outer inner : String) (inside : Bool) : Node → List Node
  | .elem name attrs children =>
    (if inside && name = inner then [.elem name attrs children] else []) ++
      nodesUnderAll (inside || name = outer) children
  | _ => []
where
  /-- The same for a list of nodes. -/
  nodesUnderAll (inside : Bool) : List Node → List Node
    | [] => []
    | n :: ns => nodesUnder outer inner inside n ++ nodesUnderAll inside ns

/-- `parse_cap_domain_info`. -/
def parseCapDomainInfo (info : CapDomainInfo) (child : Node) : CapDomainInfo :=
  if child.name = "emulator" then { info with emulator := some (getNodeContent child) }
  else if child.name = "loader" then { info with loader := some (getNodeContent child) }
  else if child.name = "machine" then
    info.extendCapMachines (some (getNodeContent child)) (getAttrValue child "canonical")
  else info

/-- `parse_cap_domain`. -/
def parseCapDomain (guestDom : Node) : CapDomain where
  typestr := getAttrValue guestDom "type"
  guestDomainInfo := guestDom.children.foldl parseCapDomainInfo {}

/-- The loop of `parse_cap_arch`. -/
def parseCapArchChild (archinfo : CapArch) (child : Node) : CapArch :=
  if child.name = "wordsize" then archinfo
  else if child.name = "domain" then
    { archinfo with domains := archinfo.domains ++ [parseCapDomain child] }
  else
    { archinfo with defaultDomainInfo := parseCapDomainInfo archinfo.defaultDomainInfo child }

/-- `parse_cap_arch`, into an entry that may have been read into before. -/
def parseCapArch (archinfo : CapArch) (arch : Node) : CapArch :=
  arch.children.foldl parseCapArchChild { archinfo with name := getAttrValue arch "name" }

/-- The loop of `parse_cap_guests` for one guest. -/
def parseCapGuestChild (guest : CapGuest) (child : Node) : CapGuest :=
  if child.name = "os_type" then { guest with ostype := some (getNodeContent child) }
  else if child.name = "arch" then { guest with arch := parseCapArch guest.arch child }
  else guest

/-- `parse_cap_guests`, for one of them. -/
def parseCapGuest (node : Node) : CapGuest :=
  node.children.foldl parseCapGuestChild { ostype := none, arch := { name := none } }

/-- `parse_cap_host_cpu`: the architecture, by the first node. -/
def parseCapHostCpu (cpu : Node) : Option String :=
  (cpu.children.find? fun child => child.name = "arch").map fun child => getNodeContent child

/-- `parse_cap_host`: the first host, and its first processor. -/
def parseCapHost (hosts : List Node) : Option String := do
  let host ← hosts.head?
  let cpu ← host.children.find? fun child => child.name = "cpu"
  parseCapHostCpu cpu

/-- The hosts and the guests of a document. -/
def hostNodes (root : Node) : List Node := nodesUnder "capabilities" "host" false root

def guestNodes (root : Node) : List Node := nodesUnder "capabilities" "guest" false root

/-- `get_caps_from_xml`, with `_get_capabilities`: nothing where there is no host with an
architecture or no guest. The defaults are put in at the end, which may crash. -/
def getCapsFromXml (root : Node) : Option (Option Capabilities) :=
  match parseCapHost (hostNodes root) with
  | none => some none
  | some cpuArch =>
    if guestNodes root = [] then some none
    else (extendDefaultsCapGuests
      { cpuArch := some cpuArch, guests := (guestNodes root).map parseCapGuest }).map some

/-! ### What is in the document -/

/-- The content of the last node of a name. -/
def lastContent (name : String) (nodes : List Node) : Option String :=
  ((nodes.filter fun node => node.name = name).getLast?).map fun node => getNodeContent node

/-- The machines, as they are listed. -/
def listedMachines (nodes : List Node) : List CapMachine :=
  (nodes.filter fun node => node.name = "machine").map fun node =>
    { name := some (getNodeContent node), canonicalName := getAttrValue node "canonical" }

/-- The domains of an architecture. -/
def archDomains (arch : Node) : List Node :=
  arch.children.filter fun child => child.name = "domain"

/-- The nodes that say what holds for the whole architecture. -/
def archDefaults (arch : Node) : List Node :=
  arch.children.filter fun child => child.name ≠ "wordsize" ∧ child.name ≠ "domain"

/-- The architectures of a guest; libvirt has one. -/
def guestArchs (guest : Node) : List Node :=
  guest.children.filter fun child => child.name = "arch"

def guestOs (guest : Node) : Option String := lastContent "os_type" guest.children

def guestArch (guest : Node) : Option String :=
  (guestArchs guest).getLast?.bind fun arch => getAttrValue arch "name"

def guestDomains (guest : Node) : List Node := (guestArchs guest).flatMap archDomains

def guestDefaults (guest : Node) : List Node := (guestArchs guest).flatMap archDefaults

theorem lastContent_cons (name : String) (node : Node) (nodes : List Node) :
    lastContent name (node :: nodes) =
      if node.name = name then (lastContent name nodes).or (some (getNodeContent node))
      else lastContent name nodes := by
  unfold lastContent
  by_cases hname : node.name = name
  · rw [List.filter_cons_of_pos (by simpa using hname), if_pos hname]
    cases hrest : nodes.filter fun node => node.name = name with
    | nil => rfl
    | cons first rest => rfl
  · rw [List.filter_cons_of_neg (by simpa using hname), if_neg hname]

/-- **What is read of a domain.** -/
theorem foldl_parseCapDomainInfo (nodes : List Node) (info : CapDomainInfo) :
    nodes.foldl parseCapDomainInfo info =
      { emulator := (lastContent "emulator" nodes).or info.emulator
        loader := (lastContent "loader" nodes).or info.loader
        machines := info.machines ++ listedMachines nodes } := by
  induction nodes generalizing info with
  | nil => simp [lastContent, listedMachines]
  | cons node nodes ih =>
    rw [List.foldl_cons, ih, lastContent_cons, lastContent_cons]
    -- the three names of interest; any other child leaves the values
    unfold parseCapDomainInfo listedMachines CapDomainInfo.extendCapMachines
    by_cases hemulator : node.name = "emulator"
    · simp [hemulator]
    by_cases hloader : node.name = "loader"
    · simp [hloader]
    by_cases hmachine : node.name = "machine"
    · simp [hmachine]
    · simp [hemulator, hloader, hmachine]

/-- **What is read of an architecture**, from one of its nodes to the next. -/
theorem foldl_parseCapArchChild (nodes : List Node) (archinfo : CapArch) :
    nodes.foldl parseCapArchChild archinfo =
      { name := archinfo.name
        defaultDomainInfo := (nodes.filter fun child => child.name ≠ "wordsize" ∧
          child.name ≠ "domain").foldl parseCapDomainInfo archinfo.defaultDomainInfo
        domains := archinfo.domains ++
          (nodes.filter fun child => child.name = "domain").map parseCapDomain } := by
  induction nodes generalizing archinfo with
  | nil => simp
  | cons node nodes ih =>
    rw [List.foldl_cons, ih]
    -- the word size is passed over, a domain is listed, the rest are defaults
    unfold parseCapArchChild
    by_cases hwordsize : node.name = "wordsize"
    · simp [hwordsize]
    by_cases hdomain : node.name = "domain"
    · simp [hdomain]
    · simp [hwordsize, hdomain]

/-- Several architectures of one guest add up. -/
theorem foldl_parseCapArch (archs : List Node) (archinfo : CapArch) :
    archs.foldl parseCapArch archinfo =
      { name := archs.getLast?.elim archinfo.name fun arch => getAttrValue arch "name"
        defaultDomainInfo :=
          (archs.flatMap archDefaults).foldl parseCapDomainInfo archinfo.defaultDomainInfo
        domains := archinfo.domains ++ (archs.flatMap archDomains).map parseCapDomain } := by
  induction archs generalizing archinfo with
  | nil => simp
  -- of the name the last element counts, defaults and domains add up
  | cons arch archs ih =>
    rw [List.foldl_cons, ih]
    unfold parseCapArch
    rw [foldl_parseCapArchChild, List.flatMap_cons, List.flatMap_cons, List.foldl_append,
      List.map_append, ← List.append_assoc]
    have hlast : (arch :: archs).getLast? = archs.getLast?.or (some arch) := by
      cases archs with
      | nil => rfl
      | cons next rest =>
        rw [List.getLast?_cons_cons, List.getLast?_eq_some_getLast (List.cons_ne_nil _ _)]
        rfl
    rw [hlast]
    cases archs.getLast? with
    | none => rfl
    | some last => rfl

/-- **What is read of a guest.** -/
theorem parseCapGuest_eq (guest : Node) :
    parseCapGuest guest =
      { ostype := guestOs guest
        arch :=
          { name := guestArch guest
            defaultDomainInfo := (guestDefaults guest).foldl parseCapDomainInfo {}
            domains := (guestDomains guest).map parseCapDomain } } := by
  -- the same for the children of a guest
  have hfold (nodes : List Node) (read : CapGuest) :
      nodes.foldl parseCapGuestChild read =
        { ostype := (lastContent "os_type" nodes).or read.ostype
          arch := (nodes.filter fun child => child.name = "arch").foldl parseCapArch
            read.arch } := by
    induction nodes generalizing read with
    | nil => simp [lastContent]
    | cons node nodes ih =>
      rw [List.foldl_cons, ih, lastContent_cons]
      unfold parseCapGuestChild
      by_cases hos : node.name = "os_type"
      · simp [hos]
      by_cases harch : node.name = "arch"
      · simp [harch]
      · simp [hos, harch]
  -- the values of the guest are those of the folds over its children
  unfold parseCapGuest
  rw [hfold, foldl_parseCapArch, Option.or_none, List.nil_append]
  unfold guestArch guestArchs
  cases (guest.children.filter fun child => child.name = "arch").getLast? with
  | none => rfl
  | some arch => rfl

/-! ### What the lookups find -/

/-- The domains of the document, each with its guest. -/
def domainNodes (root : Node) : List (Node × Node) :=
  (guestNodes root).flatMap fun guest => (guestDomains guest).map (Prod.mk guest)

/-- The first domain that meets what is asked for. -/
def firstDomain (root : Node) (osType arch domainType : Option String) : Option (Node × Node) :=
  (domainNodes root).find? fun entry =>
    nameMeets osType (guestOs entry.1) && nameMeets arch (guestArch entry.1) &&
      nameMeets domainType (getAttrValue entry.2 "type")

/-- The first guest of an os type and an architecture. -/
def firstGuestNode (root : Node) (osType : String) (arch : Option String) : Option Node :=
  (guestNodes root).find? fun guest =>
    sameName (guestOs guest) (some osType) && nameMeets arch (guestArch guest)

/-- The emulator of a domain, or that of its architecture. -/
def emulatorOf (entry : Node × Node) : Option String :=
  (lastContent "emulator" entry.2.children).or (lastContent "emulator" (guestDefaults entry.1))

/-- The first machine of a domain, or of its architecture where the domain has none. -/
def machineOf (entry : Node × Node) : Option String :=
  (listedMachines entry.2.children ++ listedMachines (guestDefaults entry.1)).head?.bind fun m =>
    m.canonicalName.or m.name

/-- Guests have their type and their architecture, and domains their type: these are the names the
look-ups compare, and the parser leaves a missing one null. -/
structure Typed (root : Node) : Prop where
  guests : ∀ guest ∈ guestNodes root, (guestOs guest).isSome ∧ (guestArch guest).isSome
  domains : ∀ entry ∈ domainNodes root, (getAttrValue entry.2 "type").isSome

/-- What is read of the document, before the defaults are put in. -/
def readCaps (root : Node) (cpuArch : String) : Capabilities where
  cpuArch := some cpuArch
  guests := (guestNodes root).map parseCapGuest

theorem isSome_of_mem_listedMachines {nodes : List Node} {m : CapMachine}
    (h : m ∈ listedMachines nodes) : m.name.isSome := by
  obtain ⟨node, -, rfl⟩ := List.mem_map.mp h
  rfl

/-- A document that says its types has names for everything that is compared. -/
theorem named_readCaps {root : Node} (h : Typed root) (cpuArch : String) :
    (readCaps root cpuArch).Named := by
  -- what is asked of the guests that are read is asked of their elements
  have hguest {P : CapGuest → Prop}
      (hP : ∀ guest ∈ guestNodes root, P (parseCapGuest guest)) :
      ∀ guest ∈ (readCaps root cpuArch).guests, P guest := List.forall_mem_map.mpr hP
  refine ⟨hguest ?_, hguest ?_, hguest ?_, hguest ?_, hguest ?_⟩
  -- the type of the system, the architecture, and the machines of both places
  · intro guest hmem
    rw [parseCapGuest_eq]
    exact (h.guests guest hmem).1
  · intro guest hmem
    rw [parseCapGuest_eq]
    exact (h.guests guest hmem).2
  · intro guest hmem m hm
    rw [parseCapGuest_eq, foldl_parseCapDomainInfo] at hm
    exact isSome_of_mem_listedMachines hm
  · intro guest hmem domain hdomain
    rw [parseCapGuest_eq] at hdomain
    obtain ⟨node, hnode, rfl⟩ := List.mem_map.mp hdomain
    exact h.domains (guest, node)
      (List.mem_flatMap.mpr ⟨guest, hmem, List.mem_map_of_mem hnode⟩)
  · intro guest hmem domain hdomain m hm
    rw [parseCapGuest_eq] at hdomain
    obtain ⟨node, -, rfl⟩ := List.mem_map.mp hdomain
    unfold parseCapDomain at hm
    rw [foldl_parseCapDomainInfo] at hm
    exact isSome_of_mem_listedMachines hm

/-- What becomes of a domain of the document. -/
def domainInfoOf (entry : Node × Node) : CapDomainInfo :=
  ((guestDefaults entry.1).foldl parseCapDomainInfo {}).filled
    (parseCapDomain entry.2).guestDomainInfo

theorem emulator_domainInfoOf (entry : Node × Node) :
    (domainInfoOf entry).emulator = emulatorOf entry := by
  unfold domainInfoOf parseCapDomain
  rw [foldl_parseCapDomainInfo, foldl_parseCapDomainInfo]
  simp [CapDomainInfo.filled, emulatorOf]

/-- A domain without a machine gets those of its architecture in their order. -/
theorem machine_domainInfoOf (entry : Node × Node) :
    ((domainInfoOf entry).machines.head?.bind fun m => m.canonicalName.or m.name) =
      machineOf entry := by
  unfold domainInfoOf parseCapDomain machineOf
  rw [foldl_parseCapDomainInfo, foldl_parseCapDomainInfo]
  unfold CapDomainInfo.filled fillUp
  dsimp only
  rw [List.nil_append, List.nil_append]
  cases hown : listedMachines entry.2.children with
  | nil => simp
  | cons m own => rfl

/-- The entries of the structure are the domains of the document. -/
theorem entries_readCaps (root : Node) (cpuArch : String) :
    (readCaps root cpuArch).filled.entries =
      (domainNodes root).map fun entry =>
        ((parseCapGuest entry.1).filled,
          (parseCapDomain entry.2).filled
            ((guestDefaults entry.1).foldl parseCapDomainInfo {})) := by
  unfold Capabilities.entries Capabilities.filled readCaps domainNodes
  dsimp only
  rw [List.map_map, List.flatMap_map, List.map_flatMap]
  refine List.flatMap_congr fun guest _ => ?_
  rw [List.map_map]
  -- the domains are filled with the defaults of the guest they are in
  have hdomains : ((parseCapGuest guest).filled).arch.domains =
      (guestDomains guest).map fun domain =>
        (parseCapDomain domain).filled
          ((guestDefaults guest).foldl parseCapDomainInfo {}) := by
    rw [parseCapGuest_eq]
    unfold CapGuest.filled
    dsimp only
    rw [List.map_map]
    rfl
  rw [Function.comp_apply, hdomains, List.map_map]
  rfl

theorem ostype_filled (guest : Node) : (parseCapGuest guest).filled.ostype = guestOs guest := by
  rw [parseCapGuest_eq]
  rfl

theorem arch_filled (guest : Node) : (parseCapGuest guest).filled.arch.name = guestArch guest := by
  rw [parseCapGuest_eq]
  rfl

/-- The first entry of the structure is the first domain of the document. -/
theorem firstEntry_readCaps (root : Node) (cpuArch : String)
    (osType arch domainType : Option String) :
    (readCaps root cpuArch).filled.firstEntry osType arch domainType =
      (firstDomain root osType arch domainType).map domainInfoOf := by
  unfold Capabilities.firstEntry firstDomain
  rw [entries_readCaps, List.find?_map, Option.map_map]
  simp only [Function.comp_def, ostype_filled, arch_filled]
  rfl

theorem firstGuest_readCaps (root : Node) (cpuArch osType : String) (arch : Option String) :
    ((readCaps root cpuArch).filled.firstGuest osType arch).bind (·.arch.name) =
      (firstGuestNode root osType arch).bind guestArch := by
  unfold Capabilities.firstGuest Capabilities.filled readCaps firstGuestNode
  dsimp only
  rw [List.map_map, List.find?_map, Option.bind_map]
  simp only [Function.comp_def, ostype_filled, arch_filled]

/-- Where there are a host and a guest, the structure is what was read, with the defaults. -/
theorem getCapsFromXml_eq {root : Node} {cpuArch : String}
    (hhost : parseCapHost (hostNodes root) = some cpuArch) (hguests : guestNodes root ≠ [])
    (htyped : Typed root) :
    getCapsFromXml root = some (some (readCaps root cpuArch).filled) := by
  have hnamed := named_readCaps htyped cpuArch
  have hfilled : extendDefaultsCapGuests (readCaps root cpuArch) =
      some (readCaps root cpuArch).filled :=
    (extendDefaultsCapGuests_yields _).eq_some (extendDefaultsCapGuests_isSome hnamed)
  unfold getCapsFromXml
  rw [hhost]
  dsimp only
  rw [if_neg hguests]
  exact congrArg (Option.map some) hfilled

/-- What the lookups find in the document: the first domain that meets what is asked for, and the
architecture of the host before any other. -/
structure Tells (root : Node) (cpuArch : String) (caps : Capabilities) : Prop where
  emulator : ∀ osType arch domainType, getDefaultEmulator (some caps) osType arch domainType =
    some ((firstDomain root osType arch domainType).bind emulatorOf)
  machine : ∀ osType arch domainType, getDefaultMachine (some caps) osType arch domainType =
    some ((firstDomain root osType arch domainType).bind machineOf)
  arch : ∀ osType, getDefaultArch (some caps) (some osType) =
    some (((firstGuestNode root osType (some cpuArch)).bind guestArch).or
      ((firstGuestNode root osType none).bind guestArch))

/-- What libvirt says of a host of 64 bits: a guest with an emulator for all of its domains and
one domain with a machine of its own, and a guest of 32 bits before it. -/
def hostDocument : Node :=
  .elem "capabilities" [] [
    .elem "host" [] [.elem "cpu" [] [.elem "arch" [] [.text "x86_64"]]],
    .elem "guest" [] [
      .elem "os_type" [] [.text "hvm"],
      .elem "arch" [("name", "i686")] [.elem "domain" [("type", "qemu")] []]],
    .elem "guest" [] [
      .elem "os_type" [] [.text "hvm"],
      .elem "arch" [("name", "x86_64")] [
        .elem "wordsize" [] [.text "64"],
        .elem "emulator" [] [.text "/usr/bin/qemu-system-x86_64"],
        .elem "machine" [("canonical", "pc-1.2")] [.text "pc"],
        .elem "domain" [("type", "qemu")] [],
        .elem "domain" [("type", "kvm")] [.elem "machine" [] [.text "q35"]]]]]

/-- **The capabilities are those of the document.** Where it has a host with an architecture, a
guest, and the types of its guests and domains, it is read, and the lookups find the first domain
of it that meets what is asked for. The names that are required keep the loops from meeting a null
one, so the lookups are those of the first entry, and that is the first domain of the document
(`firstEntry_readCaps`). -/
theorem capabilities_told {root : Node} {cpuArch : String}
    (hhost : parseCapHost (hostNodes root) = some cpuArch) (hguests : guestNodes root ≠ [])
    (htyped : Typed root) :
    ∃ caps, getCapsFromXml root = some (some caps) ∧ Tells root cpuArch caps := by
  -- what was read has names, so the look-ups do not stop on a null one
  have hnamed := (named_readCaps htyped cpuArch).filled
  refine ⟨_, getCapsFromXml_eq hhost hguests htyped, ⟨?_, ?_, ?_⟩⟩
  -- the same search over the elements in place of the entries
  · intro osType arch domainType
    rw [getDefaultEmulator_eq hnamed, firstEntry_readCaps, Option.bind_map]
    congr 2
    ext entry : 1
    exact emulator_domainInfoOf entry
  · intro osType arch domainType
    rw [getDefaultMachine_eq hnamed, firstEntry_readCaps, Option.bind_map]
    congr 2
    ext entry : 1
    exact machine_domainInfoOf entry
  -- the architecture of the processor is preferred, else the first guest decides
  · intro osType
    rw [getDefaultArch_eq hnamed, ← firstGuest_readCaps root cpuArch,
      ← firstGuest_readCaps root cpuArch]
    show some (Option.bind (((readCaps root cpuArch).filled.firstGuest osType
      (some cpuArch)).or _) _) = _
    -- a guest that is found has a name for its architecture
    cases hfirst : (readCaps root cpuArch).filled.firstGuest osType (some cpuArch) with
    | none => rfl
    | some guest =>
      obtain ⟨name, hname⟩ := Option.isSome_iff_exists.mp (arch_name_isSome hnamed hfirst)
      rw [Option.some_or, Option.bind_some, hname, Option.some_or]

theorem hostDocument_told :
    ∃ caps, getCapsFromXml hostDocument = some (some caps) ∧
      getDefaultArch (some caps) (some "hvm") = some (some "x86_64") ∧
      getDefaultEmulator (some caps) (some "hvm") (some "x86_64") (some "kvm") =
        some (some "/usr/bin/qemu-system-x86_64") ∧
      getDefaultMachine (some caps) (some "hvm") (some "x86_64") (some "kvm") =
        some (some "q35") ∧
      getDefaultMachine (some caps) (some "hvm") (some "x86_64") none = some (some "pc-1.2") := by
  -- the sample document has a name everywhere one is asked for
  have htyped : Typed hostDocument := by
    refine ⟨?_, ?_⟩
    · decide +kernel
    · decide +kernel
  have hguests : guestNodes hostDocument ≠ [] := List.ne_nil_of_length_pos (by decide +kernel)
  have hhost : parseCapHost (hostNodes hostDocument) = some "x86_64" := by decide +kernel
  obtain ⟨caps, hread, htold⟩ := capabilities_told hhost hguests htyped
  refine ⟨caps, hread, (htold.arch _).trans ?_, (htold.emulator _ _ _).trans ?_,
    (htold.machine _ _ _).trans ?_, (htold.machine _ _ _).trans ?_⟩
  · decide +kernel
  · decide +kernel
  · decide +kernel
  · decide +kernel

end LibvirtCim.CapabilityParsing
