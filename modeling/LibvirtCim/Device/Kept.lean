import LibvirtCim.Device.Document
import LibvirtCim.Device.Parsed
import Mathlib.Data.List.Forall2

/-!
# What survives parsing and generating

A domain that is parsed and written again keeps the device elements that the parsers
accept: for each of them the document has an element of the same name, in the same order
(`keeps_systemToXml`). The elements a parser rejects are skipped without an error, and
so lost; a graphics element of type `pty` is accepted and never written.

The statement is about a list of nodes and the devices parsed from them, so that it can
be put together for a list in which one device was exchanged.
-/

open Framework

namespace LibvirtCim.Device

/-- A graphics element that stands for a console. -/
def isPty (node : Node) : Bool :=
  node.isElem "graphics" && (getAttrValue node "type").any (streqc · "pty")

/-- The parser accepts the element, and the generator writes it. -/
def isKept (kind : DevKind) (node : Node) : Bool :=
  (doRealParse kind node).toOption.isSome && !isPty node

/-- The second node is what becomes of the first one. -/
def Represents (domtype : DomainType) (kind : DevKind) (node node' : Node) : Prop :=
  ∃ dev, doRealParse kind node = .ok dev ∧ deviceXml domtype kind dev.dev = .ok [node'] ∧
    node'.name = node.name

/-- The elements of a name that are kept are represented, in order. -/
def KeptIn (domtype : DomainType) (kind : DevKind) (name : String) (nodes nodes' : List Node) :
    Prop :=
  List.SublistForall₂ (Represents domtype kind) ((elems [name] nodes).filter (isKept kind)) nodes'

theorem sublistForall₂_append {α β : Type} {R : α → β → Prop} {l₁ l₂ : List α}
    {l₁' l₂' : List β} (h₁ : List.SublistForall₂ R l₁ l₁') (h₂ : List.SublistForall₂ R l₂ l₂') :
    List.SublistForall₂ R (l₁ ++ l₂) (l₁' ++ l₂') := by
  obtain ⟨m₁, hm₁, hsub₁⟩ := List.sublistForall₂_iff.mp h₁
  obtain ⟨m₂, hm₂, hsub₂⟩ := List.sublistForall₂_iff.mp h₂
  exact List.sublistForall₂_iff.mpr ⟨m₁ ++ m₂, List.rel_append hm₁ hm₂, hsub₁.append hsub₂⟩

theorem KeptIn.append {domtype : DomainType} {kind : DevKind} {name : String}
    {nodes₁ nodes₂ nodes₁' nodes₂' : List Node} (h₁ : KeptIn domtype kind name nodes₁ nodes₁')
    (h₂ : KeptIn domtype kind name nodes₂ nodes₂') :
    KeptIn domtype kind name (nodes₁ ++ nodes₂) (nodes₁' ++ nodes₂') := by
  unfold KeptIn
  rw [elems_append, List.filter_append]
  exact sublistForall₂_append h₁ h₂

theorem KeptIn.trans_sublist {domtype : DomainType} {kind : DevKind} {name : String}
    {nodes nodes' nodes'' : List Node} (h : KeptIn domtype kind name nodes nodes')
    (hsub : nodes'.Sublist nodes'') : KeptIn domtype kind name nodes nodes'' := by
  obtain ⟨m, hm, hsub'⟩ := List.sublistForall₂_iff.mp h
  exact List.sublistForall₂_iff.mpr ⟨m, hm, hsub'.trans hsub⟩

/-! ### One element -/

/-- The type that a parser sets. Memory devices get theirs when they are merged. -/
theorem type_of_parsed {kind : DevKind} {node : Node} {dev : VirtDevice kind.Dev}
    (h : doRealParse kind node = .ok dev) : dev.type ≠ .unknown := by
  -- the parsers set the type of their kind, that of the memory none
  have htype : dev.type = .unset ∨ dev.type = kind.resType := by
    cases kind with
    | net => exact .inr (parseNetDevice_ok h).1
    | disk =>
      obtain ⟨-, h⟩ | ⟨-, h⟩ := parseDiskDevice_ok h
      · exact .inr (parseBlockDevice_ok h).2.1
      · exact .inr (parseFsDevice_ok h).2.1
    | mem =>
      change parseMemDevice node = .ok dev at h
      unfold parseMemDevice at h
      dsimp only at h
      split at h
      · cases h
        exact .inl rfl
      · split at h <;> cases h <;> exact .inl rfl
    | proc =>
      cases h
      exact .inr rfl
    | graphics => exact .inr (parseGraphicsDevice_ok h).1
    | input => exact .inr (parseInputDevice_ok h).1
    | console => exact .inr (parseConsoleDevice_ok h).1
    | controller => exact .inr (parseControllerDevice_ok h).1
  intro hunknown
  rw [hunknown] at htype
  cases kind <;> simp [DevKind.resType] at htype

theorem name_of_isElem {node : Node} {name : String} (h : node.isElem name) :
    node.name = name := by
  cases node with
  | elem name' attrs children => simpa using h
  | text content => simp [Node.isElem] at h
  | comment content => simp [Node.isElem] at h
  | pi target content => simp [Node.isElem] at h
  | entityRef entity => simp [Node.isElem] at h

/-- The generator of a disk writes the element the disk was read from. -/
theorem diskXmlOf_parsed {node : Node} {d : VirtDevice DiskDevice} {nodes : List Node}
    (hparse : parseDiskDevice node = .ok d) (hxml : diskXmlOf d.dev = .ok nodes) :
    ∃ attrs children, nodes = [.elem node.name attrs children] := by
  unfold diskXmlOf at hxml
  obtain ⟨hname, h⟩ | ⟨hname, h⟩ := parseDiskDevice_ok hparse
  -- a disk is written under the name of disk, whatever its source
  · rw [hname]
    obtain ⟨-, -, -, -, htype | htype⟩ := parseBlockDevice_ok h
    · rw [htype] at hxml
      cases hxml
      exact ⟨_, _, rfl⟩
    · rw [htype] at hxml
      cases hxml
      exact ⟨_, _, rfl⟩
  -- a filesystem is written under its own name
  · rw [hname]
    have htype : d.dev.diskType = .fs := (parseFsDevice_ok h).2.2.2.2.2
    rw [htype] at hxml
    cases hxml
    exact ⟨_, _, rfl⟩

/-- The generator of a display writes every type but consoles. -/
theorem graphicsXmlOf_parsed {node : Node} {d : VirtDevice GraphicsDevice} {nodes : List Node}
    (hparse : parseGraphicsDevice node = .ok d) (hname : node.name = "graphics")
    (hpty : isPty node = false) (helem : node.isElem "graphics")
    (hxml : graphicsXmlOf d.dev = .ok nodes) :
    ∃ attrs children, nodes = [.elem node.name attrs children] := by
  obtain ⟨-, type, htype, hcases⟩ := parseGraphicsDevice_ok hparse
  rw [isPty, helem, htype] at hpty
  -- the entry has a display, since a terminal was ruled out
  have hwritten : streqc (d.dev.type.getD "") "vnc" ∨ streqc (d.dev.type.getD "") "sdl" := by
    obtain ⟨hvnc, hdev, -⟩ | ⟨hsdl, hdev, -⟩ | ⟨hp, -⟩ := hcases
    · rw [hdev]
      exact .inl hvnc
    · rw [hdev]
      exact .inr hsdl
    · simp [hp] at hpty
  -- so the generator writes one element of that name
  unfold graphicsXmlOf at hxml
  rw [if_pos hwritten] at hxml
  cases hxml
  rw [hname]
  exact ⟨_, _, rfl⟩

/-- **One element.** What a parser accepts and is no console among the graphics is
written as one element of the same name. -/
theorem represents_of_parsed {domtype : DomainType} {kind : DevKind} {node : Node}
    {dev : VirtDevice kind.Dev} {name : String} {nodes : List Node}
    (hname : name ∈ writtenNames kind) (hnode : node.isElem name) (hpty : isPty node = false)
    (hparse : doRealParse kind node = .ok dev)
    (hxml : deviceXml domtype kind dev.dev = .ok nodes) :
    ∃ node', nodes = [node'] ∧ node'.isElem name ∧ Represents domtype kind node node' := by
  have hnode' := name_of_isElem hnode
  -- the element that is written has the name of the one that was read
  have hshape : ∃ attrs children, nodes = [.elem node.name attrs children] := by
    cases kind with
    | disk => exact diskXmlOf_parsed hparse hxml
    | graphics =>
      obtain rfl : name = "graphics" := by simpa [writtenNames] using hname
      exact graphicsXmlOf_parsed hparse hnode' hpty hnode hxml
    | net =>
      obtain rfl : name = "interface" := by simpa [writtenNames] using hname
      obtain ⟨rest, -, ⟨⟩⟩ := bind_eq_ok hxml
      exact ⟨_, _, by rw [hnode']⟩
    | console =>
      obtain rfl : name = "console" := by simpa [writtenNames] using hname
      cases hxml
      exact ⟨_, _, by rw [hnode']⟩
    | input =>
      obtain rfl : name = "input" := by simpa [writtenNames] using hname
      cases hxml
      exact ⟨_, _, by rw [hnode']⟩
    | controller =>
      obtain rfl : name = "controller" := by simpa [writtenNames] using hname
      change controllerXmlOf dev.dev = .ok nodes at hxml
      unfold controllerXmlOf at hxml
      split at hxml
      · cases hxml
      · cases hxml
        exact ⟨_, _, by rw [hnode']⟩
    | mem => exact absurd hname List.not_mem_nil
    | proc => exact absurd hname List.not_mem_nil
  obtain ⟨attrs, children, rfl⟩ := hshape
  refine ⟨_, rfl, ?_, dev, hparse, hxml, rfl⟩
  simpa using hnode'

/-! ### Lists of elements -/

/-- A list of nodes taken apart at its head. -/
theorem doParse_cons {α : Type} {f : Node → Except Stop (VirtDevice α)} {node : Node}
    {nodes : List Node} {devs : List (VirtDevice α)} (h : doParse f (node :: nodes) = .ok devs) :
    (∃ dev rest, f node = .ok dev ∧ doParse f nodes = .ok rest ∧ devs = dev :: rest) ∨
      f node = .error .reject ∧ doParse f nodes = .ok devs := by
  -- a rejected element is passed over, any other failure ends the parse
  rw [doParse] at h
  cases hnode : f node with
  | ok dev =>
    rw [hnode] at h
    cases hrest : doParse f nodes with
    | ok rest =>
      rw [hrest] at h
      cases h
      exact .inl ⟨dev, rest, rfl, rfl, rfl⟩
    | error stop =>
      rw [hrest] at h
      cases h
  | error stop =>
    rw [hnode] at h
    cases stop with
    | reject => exact .inr ⟨rfl, h⟩
    | fault => cases h

/-- The devices of a list of nodes. -/
theorem mem_doParse {α : Type} {f : Node → Except Stop (VirtDevice α)} {nodes : List Node}
    {devs : List (VirtDevice α)} (h : doParse f nodes = .ok devs) {dev : VirtDevice α} :
    dev ∈ devs ↔ ∃ node ∈ nodes, f node = .ok dev := by
  induction nodes generalizing devs with
  | nil =>
    cases h
    simp
  | cons node nodes ih =>
    obtain ⟨d, rest, hnode, hrest, rfl⟩ | ⟨hnode, hrest⟩ := doParse_cons h
    · rw [List.mem_cons, ih hrest]
      simp [hnode, eq_comm]
    · rw [ih hrest]
      simp [hnode]

/-- The nodes of a list of devices. -/
theorem mem_devicesXml {α : Type} {xml : α → Except String (List Node)} {devs : List (VirtDevice α)}
    {written : List Node} (h : devicesXml xml devs = .ok written) {node : Node} :
    node ∈ written ↔
      ∃ dev ∈ devs, dev.type ≠ .unknown ∧ ∃ nodes, xml dev.dev = .ok nodes ∧ node ∈ nodes := by
  induction devs generalizing written with
  | nil =>
    cases h
    simp
  | cons dev devs ih =>
    obtain ⟨htype, htail⟩ | ⟨htype, ns, rest, hns, htail, rfl⟩ := devicesXml_cons h
    · rw [ih htail]
      simp [htype]
    · rw [List.mem_append, ih htail]
      simp [htype, hns]

/-- Two parsed lists one after the other. -/
theorem doParse_append {α : Type} {f : Node → Except Stop (VirtDevice α)} {nodes nodes' : List Node}
    {devs devs' : List (VirtDevice α)} (h : doParse f nodes = .ok devs)
    (h' : doParse f nodes' = .ok devs') : doParse f (nodes ++ nodes') = .ok (devs ++ devs') := by
  induction nodes generalizing devs with
  | nil =>
    cases h
    exact h'
  | cons node nodes ih =>
    rw [List.cons_append, doParse]
    obtain ⟨dev, rest, hnode, hrest, rfl⟩ | ⟨hnode, hrest⟩ := doParse_cons h
    · rw [hnode, ih hrest]
      rfl
    · rw [hnode]
      exact ih hrest

/-- A parsed list taken apart at one device. -/
theorem doParse_split {α : Type} {f : Node → Except Stop (VirtDevice α)} {nodes : List Node}
    {before after : List (VirtDevice α)} {dev : VirtDevice α}
    (h : doParse f nodes = .ok (before ++ dev :: after)) :
    ∃ nb node na, nodes = nb ++ node :: na ∧ doParse f nb = .ok before ∧ f node = .ok dev ∧
      doParse f na = .ok after := by
  -- the device in the middle came of one node, the rest of the nodes around it
  induction nodes generalizing before with
  | nil =>
    cases before <;> cases h
  | cons n nodes ih =>
    obtain ⟨d, rest, hn, hrest, heq⟩ | ⟨hn, hrest⟩ := doParse_cons h
    · cases before with
      | nil =>
        -- the device is the one of the first node
        obtain ⟨rfl, rfl⟩ := List.cons.inj heq
        exact ⟨[], n, nodes, rfl, rfl, hn, hrest⟩
      | cons b before =>
        obtain ⟨rfl, rfl⟩ := List.cons.inj heq
        obtain ⟨nb, node, na, rfl, hb, hnode, ha⟩ := ih hrest
        refine ⟨n :: nb, node, na, rfl, ?_, hnode, ha⟩
        rw [doParse, hn, hb]
        rfl
    · obtain ⟨nb, node, na, rfl, hb, hnode, ha⟩ := ih hrest
      refine ⟨n :: nb, node, na, rfl, ?_, hnode, ha⟩
      rw [doParse, hn]
      exact hb

/-- The elements of a parsed list are represented in what is written for it. -/
theorem keptIn_devicesXml {domtype : DomainType} {kind : DevKind} {name : String}
    (hname : name ∈ writtenNames kind) {nodes written : List Node}
    {devs : List (VirtDevice kind.Dev)} (hparse : doParse (doRealParse kind) nodes = .ok devs)
    (hxml : devicesXml (deviceXml domtype kind) devs = .ok written) :
    KeptIn domtype kind name nodes (elems [name] written) := by
  induction nodes generalizing devs written with
  | nil => exact .nil
  | cons node nodes ih =>
    obtain ⟨dev, rest, hnode, hrest, rfl⟩ | ⟨hnode, hrest⟩ := doParse_cons hparse
    -- a parsed device has a type, so none of the list is skipped
    · obtain ⟨htype, -⟩ | ⟨-, ns, written', hns, hxml', rfl⟩ := devicesXml_cons hxml
      · exact absurd htype (type_of_parsed hnode)
      -- the rest of the nodes is kept in the rest of the document
      have htail := ih hrest hxml'
      rw [elems_append]
      by_cases hkept : node.isElem name ∧ isPty node = false
      · obtain ⟨node', rfl, helem', hrep⟩ :=
          represents_of_parsed hname hkept.1 hkept.2 hnode hns
        have hhead : KeptIn domtype kind name [node] (elems [name] [node']) := by
          have hone : (elems [name] [node]).filter (isKept kind) = [node] := by
            simp [elems, hkept.1, isKept, hkept.2, hnode, Except.toOption]
          have hone' : elems [name] [node'] = [node'] := by simp [elems, helem']
          rw [KeptIn, hone, hone']
          exact .cons hrep .nil
        exact hhead.append htail
      · -- the element has another name or is not written
        have hnone : (elems [name] [node]).filter (isKept kind) = [] := by
          refine List.filter_eq_nil_iff.mpr fun n hn hk => hkept ?_
          obtain ⟨hmem, helem⟩ := List.mem_filter.mp hn
          obtain rfl := List.mem_singleton.mp hmem
          simp only [isKept, Bool.and_eq_true, Bool.not_eq_true'] at hk
          exact ⟨by simpa using helem, hk.2⟩
        have hhead : KeptIn domtype kind name [node] (elems [name] ns) := by
          rw [KeptIn, hnone]
          exact .nil
        exact hhead.append htail
    -- an element that is not parsed is not kept, so it has no partner
    · have hnone : (elems [name] [node]).filter (isKept kind) = [] := by
        refine List.filter_eq_nil_iff.mpr fun n hn hk => ?_
        obtain rfl := List.mem_singleton.mp (List.mem_filter.mp hn).1
        simp [isKept, hnode, Except.toOption] at hk
      have htail := ih hrest hxml
      unfold KeptIn at htail ⊢
      rw [elems_cons, List.filter_append, hnone]
      exact htail

/-- What is written for a part of a list is part of what is written for the list. -/
theorem devicesXml_sublist {α : Type} {xml : α → Except String (List Node)}
    {devs devs' : List (VirtDevice α)} (hsub : devs.Sublist devs') {written' : List Node}
    (h : devicesXml xml devs' = .ok written') :
    ∃ written, devicesXml xml devs = .ok written ∧ written.Sublist written' := by
  -- leaving devices out leaves elements out, in the order of the document
  induction hsub generalizing written' with
  | slnil => exact ⟨written', h, .refl _⟩
  | cons dev _ ih =>
    obtain ⟨-, htail⟩ | ⟨-, ns, rest, -, htail, rfl⟩ := devicesXml_cons h
    · exact ih htail
    · obtain ⟨written, hwritten, hsub⟩ := ih htail
      exact ⟨written, hwritten, hsub.trans (List.sublist_append_right ns rest)⟩
  | cons_cons dev _ ih =>
    obtain ⟨htype, htail⟩ | ⟨htype, ns, rest, hns, htail, rfl⟩ := devicesXml_cons h
    · obtain ⟨written, hwritten, hsub⟩ := ih htail
      refine ⟨written, ?_, hsub⟩
      rw [devicesXml, if_pos htype]
      exact hwritten
    · obtain ⟨written, hwritten, hsub⟩ := ih htail
      refine ⟨ns ++ written, ?_, hsub.append_left ns⟩
      rw [devicesXml, if_neg htype, hns, hwritten]
      rfl

/-- **What is parsed and still listed is written.** -/
theorem keptIn_systemToXml {nodeContent : String → List Node} {newUuid : String}
    {dominfo : Domain} {doc : Node} (h : systemToXml nodeContent newUuid dominfo = .ok doc)
    {kind : DevKind} {name : String} (hname : name ∈ writtenNames kind) {nodes : List Node}
    {devs : List (VirtDevice kind.Dev)} (hparse : doParse (doRealParse kind) nodes = .ok devs)
    (hsub : devs.Sublist (dominfo.list kind)) :
    KeptIn dominfo.type kind name nodes (devicesXPath doc [name]) := by
  obtain ⟨written', hwritten', hdoc⟩ := elems_systemToXml nodeContent newUuid h hname
  obtain ⟨written, hwritten, hsub⟩ := devicesXml_sublist hsub hwritten'
  have hkept := keptIn_devicesXml hname hparse hwritten
  rw [hdoc]
  exact hkept.trans_sublist ((hsub.filter _).trans (List.sublist_append_left _ _))

end LibvirtCim.Device
