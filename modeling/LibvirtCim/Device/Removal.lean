import LibvirtCim.Device.Hotplug
import LibvirtCim.Device.StoredElement
import Mathlib.Data.List.Nodup

/-!
# Documents without one of the devices

`resource_del` marks a device, and the document is written from the domain with the mark. What
the parsers make of that document once libvirt has stored it, with what an element does not say
filled in and the devices that it takes for granted added:

* `mem_reread` — what is read is read from an element that is written for a device that stays,
  from one that is written for another list (`WrittenBeside`: the consoles are among the graphics,
  and a container is given one more console), or from a device of libvirt's own;
* `preciselyRemoved_iff` — the removal is precise exactly when each device that stays is read
  again in this way and the one that is removed is not;
* `removable_mountStore_iff` — where libvirt adds nothing but the type of a file system, this is
  a condition on the fields of the devices: each comes back from its own element (`OwnBack`) or
  is read from another list (`ReadBeside`).
-/

open Framework

namespace LibvirtCim.Device

/-- The devices of each type have ids of their own. -/
def DistinctIds (d : Domain) : Prop :=
  ∀ kind, ((d.list kind).map VirtDevice.id).Nodup

theorem DistinctIds.eq_of_id {d : Domain} (h : DistinctIds d) {kind : DevKind}
    {x y : VirtDevice kind.Dev} (hx : x ∈ d.list kind) (hy : y ∈ d.list kind)
    (hid : x.id = y.id) : x = y :=
  List.inj_on_of_nodup_map (h kind) hx hy hid

/-- A device that the removal of another one is not about. -/
def Stays (d : Domain) (kind : DevKind) (devid : String) (kind' : DevKind)
    (x : VirtDevice kind'.Dev) : Prop :=
  x ∈ d.list kind' ∧ ¬ (kind' = kind ∧ x.id = some devid)

/-- The graphics device that is read from a console on a terminal. -/
def terminalEntry (path : Option String) : VirtDevice GraphicsDevice where
  type := .graphics
  dev := { type := some "console", host := path }
  id := some "console:(null)"

/-- The console that is written for every container. -/
def containerConsole : VirtDevice ConsoleDevice where
  type := .console
  dev := { sourceType := .pty }
  id := some "charconsole:(null)"

/-- What is read in a list from elements that are not written for it, given the consoles that
are written. -/
def ReadBeside (domtype : DomainType) (consoles : VirtDevice ConsoleDevice → Prop) :
    (kind : DevKind) → VirtDevice kind.Dev → Prop
  | .console, x => domtype = .lxc ∧ x = containerConsole
  | .graphics, x =>
    (∃ c, consoles c ∧ c.dev.sourceType = .pty ∧ x = terminalEntry c.dev.sourceDev.path) ∨
      domtype = .lxc ∧ x = terminalEntry none
  | _, _ => False

/-- **The stored definition without the device**: it is parsed, nothing of the type has the id,
and every other device is there as it was. -/
def PreciselyRemoved (d : Domain) (kind : DevKind) (devid : String) (config : Node) : Prop :=
  ∃ d', getDominfoFromXml config = .ok d' ∧ (∀ x ∈ d'.list kind, x.id ≠ some devid) ∧
    ∀ kind' x, Stays d kind devid kind' x → x ∈ d'.list kind'

/-- The nodes that are written for some devices of a list. -/
def WrittenFor (domtype : DomainType) (kind : DevKind) (devs : VirtDevice kind.Dev → Prop)
    (node : Node) : Prop :=
  ∃ y, devs y ∧ deviceXml domtype kind y.dev = .ok [node]

/-- The nodes that a list is read from and that are not written for it: the consoles, for the
graphics, and the console of a container. -/
def WrittenBeside (domtype : DomainType) (consoles : VirtDevice ConsoleDevice → Prop) :
    DevKind → Node → Prop
  | .console, node => node ∈ lxcConsole domtype
  | .graphics, node => WrittenFor domtype .console consoles node ∨ node ∈ lxcConsole domtype
  | _, _ => False

/-- What is read in a list once the document without the device is stored: from an element that
is written, as libvirt keeps it, or from an element that libvirt adds. -/
def Reread (store : DeviceStore) (d : Domain) (kind : DevKind) (devid : String) (kind' : DevKind)
    (x : VirtDevice kind'.Dev) : Prop :=
  (∃ node node', (WrittenFor d.type kind' (Stays d kind devid kind') node ∨
      WrittenBeside d.type (Stays d kind devid .console) kind' node) ∧
    store.kept node node' ∧ doRealParse kind' node' = .ok x) ∨
  ∃ node, store.implicit node ∧ node.name ∈ xpathNames kind' ∧ doRealParse kind' node = .ok x

/-- The domain whose device can be removed without a trace on the others: each of them is read
again, and nothing that is read has the id. -/
structure Removable (store : DeviceStore) (d : Domain) (kind : DevKind) (devid : String) :
    Prop where
  processors : ∀ x, Stays d kind devid .proc x → OwnBack .proc x
  back : ∀ kind', kind' ≠ .mem → kind' ≠ .proc → ∀ x, Stays d kind devid kind' x →
    Reread store d kind devid kind' x
  gone : ∀ x, Reread store d kind devid kind x → x.id ≠ some devid

/-- The same on the fields of the devices: each of the others comes back, and what is read for a
console does not have the id. -/
structure PlainlyRemovable (d : Domain) (kind : DevKind) (devid : String) : Prop where
  back : ∀ kind' x, Stays d kind devid kind' x →
    OwnBack kind' x ∨ ReadBeside d.type (Stays d kind devid .console) kind' x
  beside : ∀ x, ReadBeside d.type (Stays d kind devid .console) kind x → x.id ≠ some devid

/-! ### Consoles among the graphics -/

/-- An element of another type is none of the graphics. -/
theorem parseGraphicsDevice_other {node : Node} {type : String}
    (htype : node.attr "type" = some type) (hvnc : streqc type "vnc" = false)
    (hsdl : streqc type "sdl" = false) (hpty : streqc type "pty" = false) :
    parseGraphicsDevice node = .error .reject := by
  unfold parseGraphicsDevice parseGraphics
  simp only [getAttrValue, htype, hvnc, hsdl, hpty]
  rfl

/-- Of the names of source types, only that of a terminal is one of the graphics. -/
theorem streqc_chardevSourceType (type : ChardevSourceType) :
    streqc ((chardevSourceTypeIDToStr type).getD "") "vnc" = false ∧
      streqc ((chardevSourceTypeIDToStr type).getD "") "sdl" = false ∧
      (type ≠ .pty → streqc ((chardevSourceTypeIDToStr type).getD "") "pty" = false) := by
  cases type <;> decide

/-- A console is one of the graphics when it is on a terminal. -/
theorem parseGraphics_consoleXml (cdev : ConsoleDevice) :
    parseGraphicsDevice (.elem "console" (prop "type" (chardevSourceTypeIDToStr cdev.sourceType))
        (consoleSourceXml cdev ++ optChild "target" "type" cdev.targetType)) =
      if cdev.sourceType = .pty then .ok (terminalEntry cdev.sourceDev.path)
      else .error .reject := by
  -- the type of the source decides: only a terminal is kept among the graphics
  obtain ⟨sourceType, ⟨slot0, _, _, _⟩, targetType⟩ := cdev
  by_cases hsource : sourceType = .pty
  · subst hsource
    have hpty : streqc "pty" "pty" := by decide
    have hvnc : streqc "console" "vnc" = false := by decide
    -- the path of the source is read into the host, whatever the target
    have hdev : (optChild "source" "path" slot0 ++ optChild "target" "type" targetType).foldl
        parsePtyChild { type := some "console" } = { type := some "console", host := slot0 } := by
      cases slot0 <;> cases targetType <;> rfl
    have hread := parseGraphics_pty (.elem "console" [("type", "pty")]
      (optChild "source" "path" slot0 ++ optChild "target" "type" targetType)) hpty
    rw [Node.children_elem, Node.name_elem, hdev] at hread
    refine (parseGraphicsDevice_of_parseGraphics rfl hread).trans ?_
    simp [graphicsId, hvnc, formatStr, terminalEntry]
  · obtain ⟨hvnc, hsdl, hpty⟩ := streqc_chardevSourceType sourceType
    rw [if_neg hsource]
    exact parseGraphicsDevice_other rfl hvnc hsdl (hpty hsource)

/-- A device that is written in its own list comes back when what it is read as does. -/
theorem readAs_self_of_beside {domtype : DomainType} {consoles : VirtDevice ConsoleDevice → Prop}
    {kind : DevKind} (hmem : kind ≠ .mem) (hproc : kind ≠ .proc) {y x : VirtDevice kind.Dev}
    (hread : ReadAs domtype kind y x) (hy : IsParsed kind y)
    (hbeside : ReadBeside domtype consoles kind y) : ReadAs domtype kind y y := by
  cases kind with
  | console =>
    obtain ⟨-, rfl⟩ := hbeside
    exact (readAs_self_iff hmem hproc hy).mpr ⟨rfl, rfl, trivial⟩
  | graphics =>
    obtain ⟨node, hname, hnode⟩ := hy
    obtain ⟨n, hxml, -⟩ := hread
    exact (readAs_graphics hname hnode hxml).2
  | _ => exact hbeside.elim

/-! ### The domain with the mark -/

/-- The domain with a device marked as removed. -/
def marked (d : Domain) (kind : DevKind) (before after : List (VirtDevice kind.Dev))
    (dev : VirtDevice kind.Dev) : Domain :=
  d.setList kind (before ++ { dev with type := .unknown } :: after)

section Document

variable {nodeContent : String → List Node} {newUuid : String} {root doc config : Node}
  {store : DeviceStore}
  {d d' : Domain} {kind : DevKind} {devid : String} {before after : List (VirtDevice kind.Dev)}
  {dev : VirtDevice kind.Dev}

theorem isParsed_of_mem (hparse : getDominfoFromXml root = .ok d) {kind' : DevKind}
    (hmem : kind' ≠ .mem) {x : VirtDevice kind'.Dev} (hx : x ∈ d.list kind') :
    IsParsed kind' x := by
  obtain ⟨node, hnode, hx⟩ := exists_node_of_mem (list_getDominfoFromXml hparse hmem) hx
  exact ⟨node, name_of_mem_xpathNodes hnode, hx⟩

/-- **What is left in the lists** are the devices that stay. -/
theorem mem_marked (hparse : getDominfoFromXml root = .ok d) (hdistinct : DistinctIds d)
    (hlist : d.list kind = before ++ dev :: after) (hid : dev.id = some devid) {kind' : DevKind}
    (hmem : kind' ≠ .mem) {x : VirtDevice kind'.Dev} :
    x ∈ (marked d kind before after dev).list kind' ∧ x.type ≠ .unknown ↔
      Stays d kind devid kind' x := by
  -- what was parsed has a type, so an unknown type marks the removed device alone
  have hknown (hx : x ∈ d.list kind') : x.type ≠ .unknown := by
    obtain ⟨node, -, hnode⟩ := isParsed_of_mem hparse hmem hx
    exact type_of_parsed hnode
  -- the lists of the other kinds are untouched
  by_cases hkind : kind' = kind
  · subst hkind
    have hnodup := hdistinct kind'
    -- the ids are distinct, so no other device of the list has this one
    rw [hlist, List.map_append, List.map_cons, List.nodup_middle, List.nodup_cons, hid,
      ← List.map_append] at hnodup
    have hother {y : VirtDevice kind'.Dev} (hy : y ∈ before ++ after) : y.id ≠ some devid := by
      intro hyid
      have hmap := List.mem_map_of_mem (f := VirtDevice.id) hy
      rw [hyid] at hmap
      exact hnodup.1 hmap
    rw [hlist] at hknown
    rw [marked, Domain.list_setList, Stays, hlist]
    simp only [List.mem_append, List.mem_cons, true_and] at hknown hother ⊢
    constructor
    · rintro ⟨hx | rfl | hx, htype⟩
      · exact ⟨.inl hx, hother (.inl hx)⟩
      · exact absurd rfl htype
      · exact ⟨.inr (.inr hx), hother (.inr hx)⟩
    · rintro ⟨hx | rfl | hx, hne⟩
      · exact ⟨.inl hx, hknown (.inl hx)⟩
      · exact absurd hid hne
      · exact ⟨.inr (.inr hx), hknown (.inr (.inr hx))⟩
  · rw [marked, Domain.list_setList_of_ne d hkind, Stays]
    constructor
    · rintro ⟨hx, -⟩
      exact ⟨hx, fun h => hkind h.1⟩
    · rintro ⟨hx, -⟩
      exact ⟨hx, hknown hx⟩

/-- What is written for a list are the elements of the devices that stay. -/
theorem mem_written (hparse : getDominfoFromXml root = .ok d) (hdistinct : DistinctIds d)
    (hlist : d.list kind = before ++ dev :: after) (hid : dev.id = some devid) {kind' : DevKind}
    (hmem : kind' ≠ .mem) {written : List Node}
    (hwritten : devicesXml (deviceXml (marked d kind before after dev).type kind')
      ((marked d kind before after dev).list kind') = .ok written) {n : Node} :
    n ∈ written ↔ WrittenFor d.type kind' (Stays d kind devid kind') n := by
  have hdomtype : (marked d kind before after dev).type = d.type := Domain.type_setList d kind _
  rw [mem_devicesXml hwritten, hdomtype]
  constructor
  · rintro ⟨y, hy, htype, nodes, hnodes, hn⟩
    refine ⟨y, (mem_marked hparse hdistinct hlist hid hmem).mp ⟨hy, htype⟩, ?_⟩
    -- there is one element at most
    have hlen := length_deviceXml hnodes
    obtain ⟨m, rfl⟩ := List.length_eq_one_iff.mp
      (Nat.le_antisymm hlen (List.length_pos_of_mem hn))
    rw [List.mem_singleton.mp hn]
    exact hnodes
  · rintro ⟨y, hy, hn⟩
    obtain ⟨hmarked, htype⟩ := (mem_marked hparse hdistinct hlist hid hmem).mpr hy
    exact ⟨y, hmarked, htype, [n], hn, List.mem_singleton_self n⟩

/-- **What is in the document**: the elements of the devices that stay, and those that are
written for other lists. -/
theorem mem_xpathNodes_marked (hparse : getDominfoFromXml root = .ok d)
    (hdistinct : DistinctIds d) (hlist : d.list kind = before ++ dev :: after)
    (hid : dev.id = some devid)
    (hxml : systemToXml nodeContent newUuid (marked d kind before after dev) = .ok doc)
    {kind' : DevKind} (hmem : kind' ≠ .mem) (hproc : kind' ≠ .proc) {n : Node} :
    n ∈ xpathNodes doc kind' ↔ WrittenFor d.type kind' (Stays d kind devid kind') n ∨
      WrittenBeside d.type (Stays d kind devid .console) kind' n := by
  obtain ⟨written, hwritten, hselected, -⟩ := selected_systemToXml hxml
  -- marking a device does not change the type of the domain
  have hdomtype : (marked d kind before after dev).type = d.type := Domain.type_setList d kind _
  -- of each kind, the elements written are those of the devices that stay
  have hown (kind' : DevKind) (hmem : kind' ≠ .mem) (hproc : kind' ≠ .proc) :
      n ∈ written kind' ↔ WrittenFor d.type kind' (Stays d kind devid kind') n :=
    mem_written hparse hdistinct hlist hid hmem (hwritten kind' hmem hproc)
  cases kind' with
  | disk => simp only [hselected.disk, hown .disk hmem hproc, WrittenBeside, or_false]
  | net => simp only [hselected.net, hown .net hmem hproc, WrittenBeside, or_false]
  | input => simp only [hselected.input, hown .input hmem hproc, WrittenBeside, or_false]
  | controller =>
    simp only [hselected.controller, hown .controller hmem hproc, WrittenBeside, or_false]
  | console =>
    simp only [hselected.console, hdomtype, List.mem_append, hown .console hmem hproc,
      WrittenBeside]
  -- the graphics are selected with the consoles, and the terminal of a container beside them
  | graphics =>
    simp only [hselected.graphics, hdomtype, List.mem_append, hown .graphics hmem hproc,
      hown .console (by simp) (by simp), WrittenBeside]
    rw [or_comm (a := WrittenFor d.type .console _ n), or_assoc]
  | mem => exact absurd rfl hmem
  | proc => exact absurd rfl hproc

/-- **What is read again**, in every list but those of the capacities. -/
theorem mem_reread (hparse : getDominfoFromXml root = .ok d) (hdistinct : DistinctIds d)
    (hlist : d.list kind = before ++ dev :: after) (hid : dev.id = some devid)
    (hxml : systemToXml nodeContent newUuid (marked d kind before after dev) = .ok doc)
    (hstored : StoredAs store doc config) (hback : getDominfoFromXml config = .ok d')
    {kind' : DevKind} (hmem : kind' ≠ .mem) (hproc : kind' ≠ .proc) {x : VirtDevice kind'.Dev} :
    x ∈ d'.list kind' ↔ Reread store d kind devid kind' x := by
  have hnodes (node : Node) := hstored.nodes kind' hmem hproc node
  have hdoc {n : Node} :=
    @mem_xpathNodes_marked nodeContent newUuid root doc d kind devid before after dev hparse
      hdistinct hlist hid hxml kind' hmem hproc n
  rw [mem_doParse (list_getDominfoFromXml hback hmem)]
  constructor
  -- what is read comes of a stored element, or of one libvirt adds
  · rintro ⟨node, hnode, hx⟩
    obtain ⟨written, hwritten, hkept⟩ | ⟨hname, himplicit⟩ := (hnodes node).mp hnode
    · exact .inl ⟨written, node, hdoc.mp hwritten, hkept, hx⟩
    · exact .inr ⟨node, himplicit, hname, hx⟩
  · rintro (⟨written, node, hwritten, hkept, hx⟩ | ⟨node, himplicit, hname, hx⟩)
    · exact ⟨node, (hnodes node).mpr (.inl ⟨written, hdoc.mpr hwritten, hkept⟩), hx⟩
    · exact ⟨node, (hnodes node).mpr (.inr ⟨hname, himplicit⟩), hx⟩

/-! ### Memory and processors -/

/-- The memory of a parsed domain is one device. -/
theorem mem_of_parsed (hparse : getDominfoFromXml root = .ok d) {x : VirtDevice MemDevice}
    (hx : x ∈ d.devMem) : d.devMem = [{ type := .mem, dev := x.dev, id := some "mem" }] ∧
      x = { type := .mem, dev := x.dev, id := some "mem" } := by
  obtain ⟨settings, mdevs, -, -, -, hmerged, -⟩ := getDominfoFromXml_ok hparse
  rw [hmerged] at hx ⊢
  unfold getMemDevice at hx ⊢
  split at hx
  · cases hx
  · rw [List.mem_singleton] at hx
    subst hx
    exact ⟨rfl, rfl⟩
  · rw [List.mem_singleton] at hx
    subst hx
    exact ⟨rfl, rfl⟩

/-- **The memory is still there.** -/
theorem mem_reread_mem (hdoc : ContentDocumented nodeContent)
    (hparse : getDominfoFromXml root = .ok d) (hkind : kind ≠ .mem)
    (hxml : systemToXml nodeContent newUuid (marked d kind before after dev) = .ok doc)
    (hstored : StoredAs store doc config) (hback : getDominfoFromXml config = .ok d')
    {x : VirtDevice MemDevice} (hx : x ∈ d.devMem) : x ∈ d'.devMem := by
  obtain ⟨hone, hself⟩ := mem_of_parsed hparse hx
  have hsame : (marked d kind before after dev).devMem = d.devMem :=
    Domain.list_setList_of_ne d hkind.symm _
  have hhead : (marked d kind before after dev).devMem.head? =
      some { type := .mem, dev := x.dev, id := some "mem" } := by
    rw [hsame, hone]
    -- there is one memory entry, and the guest has it as it was written
    rfl
  obtain ⟨mdevs, hmdevs, hmerged⟩ := parseDevices_mem hdoc hxml hhead
  obtain ⟨settings, mdevs', -, -, hmdevs', hmerged', -⟩ := getDominfoFromXml_ok hback
  obtain ⟨mdevs'', hmdevs'', hsame'⟩ := hstored.memory mdevs hmdevs
  cases hmdevs'.symm.trans hmdevs''
  rw [hmerged', hsame', hmerged, List.mem_singleton]
  exact hself

/-- The processors of a parsed domain have a count and nothing else. -/
theorem proc_of_parsed (hparse : getDominfoFromXml root = .ok d) {x : VirtDevice VcpuDevice}
    (hx : x ∈ d.devVcpu) :
    x = { type := .proc, dev := { quantity := x.dev.quantity }, id := some "proc" } := by
  obtain ⟨node, -, hnode⟩ := isParsed_of_mem hparse (by simp : DevKind.proc ≠ .mem) hx
  cases hnode
  rfl

/-- **The processors are still there** when their count comes back. -/
theorem mem_reread_proc (hdoc : ContentDocumented nodeContent)
    (hparse : getDominfoFromXml root = .ok d) (hdistinct : DistinctIds d) (hkind : kind ≠ .proc)
    (hxml : systemToXml nodeContent newUuid (marked d kind before after dev) = .ok doc)
    (hstored : StoredAs store doc config) (hback : getDominfoFromXml config = .ok d')
    {x : VirtDevice VcpuDevice} (hx : x ∈ d.devVcpu) :
    x ∈ d'.devVcpu ↔ OwnBack .proc x := by
  -- the processors are written by their number, which is scanned again
  have hself := proc_of_parsed hparse hx
  have hsame : (marked d kind before after dev).devVcpu = d.devVcpu :=
    Domain.list_setList_of_ne d hkind.symm _
  -- all processors have one id, so that there is no other one
  have hhead : (marked d kind before after dev).devVcpu.head? = some x := by
    rw [hsame]
    cases hvcpu : d.devVcpu with
    | nil =>
      rw [hvcpu] at hx
      cases hx
    | cons y rest =>
      have hy : y ∈ d.devVcpu := by
        rw [hvcpu]
        exact List.mem_cons_self
      have hid : y.id = x.id := by
        rw [proc_of_parsed hparse hy, hself]
      rw [List.head?_cons, @DistinctIds.eq_of_id d hdistinct .proc y x hy hx hid]
  have hproc := parseDevices_proc hdoc hxml hhead
  have hlist : parseDevices config .proc = .ok d'.devVcpu :=
    list_getDominfoFromXml hback (by simp : DevKind.proc ≠ .mem)
  rw [hstored.processors, hproc] at hlist
  have hdevs := Except.ok.inj hlist
  rw [← hdevs, List.mem_singleton]
  -- it is the same entry if the number survives the scan
  constructor
  · intro heq
    have hquantity := congrArg (fun v : VirtDevice VcpuDevice => v.dev.quantity) heq
    exact (scannedCount_eq_iff x.dev.quantity).mp hquantity.symm
  · intro hcount
    have hscan : scannedCount x.dev.quantity = x.dev.quantity :=
      (scannedCount_eq_iff x.dev.quantity).mpr hcount
    rw [hscan]
    exact hself

/-! ### The stored definition -/

/-- The stored definition is parsed: every interface has its MAC address. -/
theorem exists_reread (hstored : StoredAs store doc config) :
    ∃ d', getDominfoFromXml config = .ok d' := by
  obtain ⟨settings, hsettings⟩ := hstored.readable
  exact exists_getDominfoFromXml hsettings fun node hnode =>
    parseNetDevice_of_mac (hstored.macs node hnode)

/-- **A device is removed precisely** exactly when each of the others is read again, from the
element of a device that stays or from another one, and nothing that is read has its id. -/
theorem preciselyRemoved_iff (hdoc : ContentDocumented nodeContent)
    (hparse : getDominfoFromXml root = .ok d) (hdistinct : DistinctIds d)
    (hlist : d.list kind = before ++ dev :: after) (hid : dev.id = some devid)
    (hmem : kind ≠ .mem) (hproc : kind ≠ .proc)
    (hxml : systemToXml nodeContent newUuid (marked d kind before after dev) = .ok doc)
    (hstored : StoredAs store doc config) :
    PreciselyRemoved d kind devid config ↔ Removable store d kind devid := by
  -- libvirt answers with some document, in it the two readings are compared
  obtain ⟨d', hback⟩ := exists_reread hstored
  have hreread {kind' : DevKind} (hmem' : kind' ≠ .mem) (hproc' : kind' ≠ .proc)
      (x : VirtDevice kind'.Dev) : x ∈ d'.list kind' ↔ Reread store d kind devid kind' x :=
    mem_reread hparse hdistinct hlist hid hxml hstored hback hmem' hproc'
  have hcount {x : VirtDevice VcpuDevice} (hx : x ∈ d.devVcpu) :
      x ∈ d'.devVcpu ↔ OwnBack .proc x :=
    mem_reread_proc hdoc hparse hdistinct hproc hxml hstored hback hx
  -- out of the comparison: each part of the condition is about one kind of device
  constructor
  · rintro ⟨d'', hback', hgone, hkept⟩
    cases hback.symm.trans hback'
    refine ⟨?_, ?_, ?_⟩
    · intro x hx
      exact (hcount hx.1).mp (hkept .proc x hx)
    · intro kind' hmem' hproc' x hx
      exact (hreread hmem' hproc' x).mp (hkept kind' x hx)
    · intro x hx
      exact hgone x ((hreread hmem hproc x).mpr hx)
  -- into it: what is gone by the condition, and what comes back by kind
  · intro hremovable
    refine ⟨d', hback, ?_, ?_⟩
    · intro x hx
      exact hremovable.gone x ((hreread hmem hproc x).mp hx)
    · intro kind' x hx
      by_cases hmem' : kind' = .mem
      · subst hmem'
        exact mem_reread_mem hdoc hparse hmem hxml hstored hback hx.1
      by_cases hproc' : kind' = .proc
      · subst hproc'
        exact (hcount hx.1).mpr (hremovable.processors x hx)
      · exact (hreread hmem' hproc' x).mpr (hremovable.back kind' hmem' hproc' x hx)

end Document

/-! ### A libvirt that fills in the type of a file system -/

section Plain

variable {root : Node} {d : Domain} {kind : DevKind} {devid : String}

/-- What is read from the console of a container. -/
theorem mem_lxcConsole {α : Type} {f : Node → Except Stop α} {domtype : DomainType} {x y : α}
    (hf : f (.elem "console" [("type", "pty")] []) = .ok y) :
    (∃ node ∈ lxcConsole domtype, f (withMountType node) = .ok x) ↔ domtype = .lxc ∧ x = y := by
  have hsame : withMountType (.elem "console" [("type", "pty")] []) =
      .elem "console" [("type", "pty")] [] := withMountType_of_name (by simp)
  unfold lxcConsole
  split
  · next hlxc =>
    simp [hsame, hf, hlxc, eq_comm]
  · next hlxc =>
    simp [hlxc]

/-- The consoles as the graphics see them. -/
theorem readGraphics_writtenFor {domtype : DomainType} {consoles : VirtDevice ConsoleDevice → Prop}
    {x : VirtDevice GraphicsDevice} :
    (∃ node, WrittenFor domtype .console consoles node ∧
        parseGraphicsDevice (withMountType node) = .ok x) ↔
      ∃ c, consoles c ∧ c.dev.sourceType = .pty ∧ x = terminalEntry c.dev.sourceDev.path := by
  constructor
  -- a console is read as a graphics device only if its source is a terminal
  · rintro ⟨_, ⟨c, hc, ⟨⟩⟩, hx⟩
    rw [withMountType_of_name (by simp), parseGraphics_consoleXml] at hx
    split at hx
    · next hpty =>
      cases hx
      exact ⟨c, hc, hpty, rfl⟩
    · cases hx
  · rintro ⟨c, hc, hpty, rfl⟩
    refine ⟨_, ⟨c, hc, rfl⟩, ?_⟩
    rw [withMountType_of_name (by simp), parseGraphics_consoleXml, if_pos hpty]

/-- What is read from an element of another list. -/
theorem readBeside_iff {domtype : DomainType} {consoles : VirtDevice ConsoleDevice → Prop}
    {kind' : DevKind} {x : VirtDevice kind'.Dev} :
    (∃ node, WrittenBeside domtype consoles kind' node ∧
        doRealParse kind' (withMountType node) = .ok x) ↔ ReadBeside domtype consoles kind' x := by
  -- only consoles and graphics have elements of others among theirs
  cases kind' with
  | disk | net | input | controller | mem | proc => simp [WrittenBeside, ReadBeside]
  | console =>
    have hlxc : parseConsoleDevice (.elem "console" [("type", "pty")] []) = .ok containerConsole :=
      rfl
    exact mem_lxcConsole hlxc
  | graphics =>
    have hlxc : parseGraphicsDevice (.elem "console" [("type", "pty")] []) =
        .ok (terminalEntry none) :=
      parseGraphics_consoleXml { sourceType := .pty }
    simp only [WrittenBeside, or_and_right, exists_or]
    exact or_congr readGraphics_writtenFor (mem_lxcConsole hlxc)

/-- Through such a libvirt, a device is read from the element of one that stays, or beside. -/
theorem reread_mountStore_iff {kind' : DevKind} {x : VirtDevice kind'.Dev} :
    Reread mountStore d kind devid kind' x ↔
      (∃ y, Stays d kind devid kind' y ∧ ReadAs d.type kind' y x) ∨
        ReadBeside d.type (Stays d kind devid .console) kind' x := by
  rw [← readBeside_iff]
  constructor
  · rintro (⟨node, _, ⟨y, hy, hn⟩ | hbeside, rfl, hx⟩ | ⟨_, hfalse, -⟩)
    · exact .inl ⟨y, hy, node, hn, hx⟩
    · exact .inr ⟨node, hbeside, hx⟩
    · exact hfalse.elim
  · rintro (⟨y, hy, node, hn, hx⟩ | ⟨node, hbeside, hx⟩)
    · exact .inl ⟨node, _, .inl ⟨y, hy, hn⟩, rfl, hx⟩
    · exact .inl ⟨node, _, .inr hbeside, rfl, hx⟩

/-- **The fields that decide.** With a libvirt that fills in the type of a file system and adds
nothing, a device of a parsed domain can be removed exactly when each of the others comes back from
its own element, or is read from another list, and what is read for a console does not have the
id. -/
theorem removable_mountStore_iff (hparse : getDominfoFromXml root = .ok d)
    (hdistinct : DistinctIds d) (hmem : kind ≠ .mem) (hproc : kind ≠ .proc) :
    Removable mountStore d kind devid ↔ PlainlyRemovable d kind devid := by
  -- what is read for another device that comes back is that device
  have hown {kind' : DevKind} (hmem' : kind' ≠ .mem) (hproc' : kind' ≠ .proc)
      {x : VirtDevice kind'.Dev} (hx : Stays d kind devid kind' x) :
      ReadAs d.type kind' x x ↔ OwnBack kind' x :=
    readAs_self_iff hmem' hproc' (isParsed_of_mem hparse hmem' hx.1)
  constructor
  -- what came back was written by itself, or is read beside the lists
  · intro hremovable
    constructor
    · intro kind' x hx
      by_cases hmem' : kind' = .mem
      · subst hmem'
        exact .inl trivial
      by_cases hproc' : kind' = .proc
      · subst hproc'
        exact .inl (hremovable.processors x hx)
      obtain ⟨y, hy, hread⟩ | hbeside :=
        reread_mountStore_iff.mp (hremovable.back kind' hmem' hproc' x hx)
      -- the device that is read back may be another one, with its id
      · obtain hsame | hback := id_or_ownBack_of_readAs hmem' hproc'
          (isParsed_of_mem hparse hmem' hy.1) hread
        · rw [hdistinct.eq_of_id hx.1 hy.1 hsame] at hread ⊢
          exact .inl ((hown hmem' hproc' hy).mp hread)
        · exact .inl hback
      · exact .inr hbeside
    · intro x hbeside
      exact hremovable.gone x (reread_mountStore_iff.mpr (.inr hbeside))
  -- a memory entry, processors and other devices come back each by its own lemma
  · intro hplain
    refine ⟨?_, ?_, ?_⟩
    · intro x hx
      obtain hcount | hbeside := hplain.back .proc x hx
      · exact hcount
      · exact hbeside.elim
    · intro kind' hmem' hproc' x hx
      rw [reread_mountStore_iff]
      obtain hback | hbeside := hplain.back kind' x hx
      · exact .inl ⟨x, hx, (hown hmem' hproc' hx).mpr hback⟩
      · exact .inr hbeside
    · intro x hx hxid
      obtain ⟨y, hy, hread⟩ | hbeside := reread_mountStore_iff.mp hx
      · have hself : ReadAs d.type kind y y := by
          obtain hback | hbeside := hplain.back kind y hy
          · exact (hown hmem hproc hy).mpr hback
          · exact readAs_self_of_beside hmem hproc hread (isParsed_of_mem hparse hmem hy.1) hbeside
        rw [hread.unique hself] at hxid
        exact hy.2 ⟨rfl, hxid⟩
      · exact hplain.beside x hbeside hxid

end Plain

end LibvirtCim.Device
