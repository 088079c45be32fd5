import LibvirtCim.Device.Reread

/-!
# The element of a live device

`device_to_xml` writes the element that a live attach or detach is given. It works on a
duplicate of the device (`virt_device_dup`), in a domain that has nothing else and no type.

* `deviceXml_dup` — the duplicate is written as the device is;
* `netXmlOf_unknown_iff` — the type of the domain is asked for in one place: a bridge of a
  Xen guest has a script;
* `deviceXml_eq_nil_iff` — a display of another type than `vnc` and `sdl` is not written, and
  a live device that is not written has no text at all;
* `hotplugAgrees_iff` — when the element is the one that `system_to_xml` writes for the
  device, or both fail.
-/

open Framework

namespace LibvirtCim.Device

/-! ### The duplicate -/

/-- `console_device_dup`: of the union only what the type of the source uses. -/
def consoleDeviceDup (s : ConsoleDevice) : ConsoleDevice where
  sourceType := s.sourceType
  targetType := s.targetType
  sourceDev :=
    match s.sourceType with
    | .pty | .dev | .file | .pipe => { slot0 := s.sourceDev.path }
    | .unixsock => { slot0 := s.sourceDev.path, slot1 := s.sourceDev.unixsockMode }
    | .udp => s.sourceDev
    | .tcp => s.sourceDev
    | .null | .vc | .stdio | .spicevmc => {}

/-- The fields that `virt_device_dup` copies: all of them, but of a processor only the
quantity. -/
def dupFields : (kind : DevKind) → kind.Dev → kind.Dev
  | .proc, vcpu => { quantity := vcpu.quantity }
  | .console, cdev => consoleDeviceDup cdev
  | .net, net => net
  | .disk, disk => disk
  | .mem, mem => mem
  | .graphics, gdev => gdev
  | .input, idev => idev
  | .controller, cdev => cdev

/-- `virt_device_dup`, which hands the id to `strdup`. -/
def virtDeviceDup (kind : DevKind) (dev : VirtDevice kind.Dev) :
    Except Stop (VirtDevice kind.Dev) :=
  match dev.id with
  | none => .error .fault
  | some id => .ok { type := dev.type, dev := dupFields kind dev.dev, id := some id }

/-! ### The element -/

section Element

variable (nodeContent : String → List Node)

/-- The generator that `device_to_xml` selects. -/
def deviceFunc : DevKind → Domain → Except String (List Node)
  | .disk, dominfo => diskXml dominfo
  | .proc, dominfo => .ok (vcpuXml nodeContent dominfo)
  | .net, dominfo => netXml dominfo
  | .mem, dominfo => .ok (memXml nodeContent dominfo)
  | .graphics, dominfo => graphicsXml dominfo
  | .console, dominfo => consoleXml dominfo
  | .input, dominfo => inputXml dominfo
  | .controller, dominfo => controllerXml dominfo

/-- `tree_to_xml` on the first of some nodes. There is no text of no node: `xmlSaveTree`
refuses a null pointer. -/
def treeToXml : List Node → Except Stop Node
  | [] => .error .reject
  | node :: _ => .ok node

/-- `device_to_xml` for a device of the list `kind`. Only the first node below the root is
serialized. -/
def deviceToXml (kind : DevKind) (dev : VirtDevice kind.Dev) : Except Stop Node := do
  let dup ← virtDeviceDup kind dev
  if dev.type = kind.resType then
    match deviceFunc nodeContent kind (Domain.setList {} kind [dup]) with
    | .error _ => .error .reject
    | .ok nodes => treeToXml nodes
  else .error .reject

end Element

/-! ### What the type of the domain decides -/

/-- The duplicate of a device is written as the device. -/
theorem deviceXml_dup (t : DomainType) (kind : DevKind) (dev : kind.Dev) :
    deviceXml t kind (dupFields kind dev) = deviceXml t kind dev := by
  cases kind with
  | console =>
    obtain ⟨sourceType, sd, targetType⟩ := dev
    cases sourceType <;> rfl
  | net | disk | mem | proc | graphics | input | controller => rfl

/-- A bridge of a Xen guest that has a source. -/
def NeedsScript (t : DomainType) : (kind : DevKind) → kind.Dev → Prop
  | .net, net => (t = .xenpv ∨ t = .xenfv) ∧ net.type = some "bridge" ∧ net.source.isSome
  | .disk, _ | .mem, _ | .proc, _ | .graphics, _ | .input, _ | .console, _ | .controller, _ => False

/-- Of the displays, only two types are written. -/
def WritesElement : (kind : DevKind) → kind.Dev → Prop
  | .graphics, gdev => IsDisplay gdev
  | .net, _ | .disk, _ | .mem, _ | .proc, _ | .input, _ | .console, _ | .controller, _ => True

/-- A device that is written without an error and has no element is a display of another
type. -/
theorem deviceXml_eq_nil_iff {t : DomainType} {kind : DevKind} {dev : kind.Dev}
    {nodes : List Node} (hmem : kind ≠ .mem) (hproc : kind ≠ .proc)
    (h : deviceXml t kind dev = .ok nodes) : nodes = [] ↔ ¬ WritesElement kind dev := by
  -- the graphics generator alone can write nothing and succeed
  cases kind with
  | mem => exact absurd rfl hmem
  | proc => exact absurd rfl hproc
  | graphics =>
    change graphicsXmlOf dev = .ok nodes at h
    unfold graphicsXmlOf at h
    split at h
    · next htype =>
      cases h
      exact iff_of_false (List.cons_ne_nil _ _) (not_not.mpr htype)
    · next htype =>
      cases h
      exact iff_of_true rfl htype
  | disk =>
    change diskXmlOf dev = .ok nodes at h
    refine iff_of_false ?_ (not_not.mpr trivial)
    unfold diskXmlOf at h
    -- a disk has an element of one of three names, or fails
    split at h <;> cases h <;> exact List.cons_ne_nil _ _
  | net =>
    obtain ⟨rest, -, ⟨⟩⟩ := bind_eq_ok h
    exact iff_of_false (List.cons_ne_nil _ _) (not_not.mpr trivial)
  | console | input =>
    cases h
    exact iff_of_false (List.cons_ne_nil _ _) (not_not.mpr trivial)
  | controller =>
    change controllerXmlOf dev = .ok nodes at h
    refine iff_of_false ?_ (not_not.mpr trivial)
    unfold controllerXmlOf at h
    split at h <;> cases h
    exact List.cons_ne_nil _ _

/-- A bridge is written. -/
theorem NeedsScript.writesElement {t : DomainType} {kind : DevKind} {dev : kind.Dev}
    (h : NeedsScript t kind dev) : WritesElement kind dev := by
  cases kind with
  | net => trivial
  | disk | mem | proc | graphics | input | console | controller => exact h.elim

/-- Without a type of the domain, the element of an interface is the one it has in a
domain, but for the script. -/
theorem netXmlOf_unknown_iff (t : DomainType) (net : NetDevice) :
    netXmlOf .unknown net = netXmlOf t net ↔ ¬ NeedsScript t .net net := by
  -- the domain type is looked at by the generator of a bridge alone
  by_cases hbridge : net.type = some "bridge"
  · have hxml (t : DomainType) : netTypeXml net t = bridgeNetToXml net t := by
      simp [netTypeXml, hbridge]
    -- a bridge without a source fails for every type
    cases hsource : net.source with
    | none =>
      have herror (t : DomainType) : netXmlOf t net = .error xmlError := by
        rw [netXmlOf, hxml, bridgeNetToXml, setNetSource, hsource]
        rfl
      simp [herror, NeedsScript, hsource]
    | some source =>
      -- on Xen the bridge has a script, which an unknown domain is not given
      by_cases hxen : t = .xenpv ∨ t = .xenfv
      · refine iff_of_false ?_ (not_not.mpr ⟨hxen, hbridge, by simp [hsource]⟩)
        -- the two elements have not as many children
        intro heq
        rw [netXmlOf, netXmlOf, hxml, hxml, bridgeNetToXml, bridgeNetToXml, setNetSource, hsource]
          at heq
        simp [bind, Except.bind, hxen] at heq
      · refine iff_of_true ?_ fun hneeds => hxen hneeds.1
        rw [netXmlOf, netXmlOf, hxml, hxml, bridgeNetToXml, bridgeNetToXml, setNetSource, hsource]
        simp [bind, Except.bind, hxen]
  · have hxml : netTypeXml net .unknown = netTypeXml net t := by
      simp [netTypeXml, hbridge]
    refine iff_of_true ?_ fun hneeds => hbridge hneeds.2.1
    rw [netXmlOf, netXmlOf, hxml]

theorem deviceXml_unknown_iff (t : DomainType) (kind : DevKind) (dev : kind.Dev) :
    deviceXml .unknown kind dev = deviceXml t kind dev ↔ ¬ NeedsScript t kind dev := by
  cases kind with
  | net => exact netXmlOf_unknown_iff t dev
  | disk | mem | proc | graphics | input | console | controller => exact iff_of_true rfl not_false

/-! ### Both paths -/

section Agree

variable {nodeContent : String → List Node} {newUuid : String} {t : DomainType} {kind : DevKind}
  {dev : VirtDevice kind.Dev}

/-- The generator on a list of one device. -/
theorem devicesXml_singleton (hknown : dev.type ≠ .unknown) :
    devicesXml (deviceXml t kind) [dev] = deviceXml t kind dev.dev := by
  rw [devicesXml, if_neg hknown]
  show (deviceXml t kind dev.dev).bind (fun nodes => .ok (nodes ++ [])) = _
  cases deviceXml t kind dev.dev with
  | error msg => rfl
  | ok nodes =>
    show Except.ok (nodes ++ []) = _
    rw [List.append_nil]

variable (kind) in
/-- The devices of the lists are of the types of their lists. -/
theorem resType_ne_unknown : kind.resType ≠ .unknown := by
  cases kind <;> exact ResType.noConfusion

variable (nodeContent dev) in
/-- The generator of `device_to_xml`, on the one device of its domain. -/
theorem deviceFunc_singleton (hmem : kind ≠ .mem) (hproc : kind ≠ .proc)
    (hknown : dev.type ≠ .unknown) :
    deviceFunc nodeContent kind (Domain.setList {} kind [dev]) =
      deviceXml .unknown kind dev.dev := by
  rw [← devicesXml_singleton hknown]
  cases kind with
  | mem => exact absurd rfl hmem
  | proc => exact absurd rfl hproc
  | disk | net | graphics | console | input | controller => rfl

variable (nodeContent) in
/-- Without an id, the process crashes. -/
theorem deviceToXml_of_none (hid : dev.id = none) :
    deviceToXml nodeContent kind dev = .error .fault := by
  rw [deviceToXml, virtDeviceDup, hid]
  rfl

variable (nodeContent) in
/-- The element of a live device is what is written in a domain without a type. -/
theorem deviceToXml_of_some (hmem : kind ≠ .mem) (hproc : kind ≠ .proc)
    (htype : dev.type = kind.resType) (hid : dev.id.isSome) :
    (∀ nodes, deviceXml .unknown kind dev.dev = .ok nodes →
      deviceToXml nodeContent kind dev = treeToXml nodes) ∧
    (∀ msg, deviceXml .unknown kind dev.dev = .error msg →
      deviceToXml nodeContent kind dev = .error .reject) := by
  obtain ⟨id, hid⟩ := Option.isSome_iff_exists.mp hid
  -- the type is that of its kind, so the switch on it takes the kind's branch
  have hknown : dev.type ≠ .unknown := by
    rw [htype]
    exact resType_ne_unknown kind
  have hfunc := deviceFunc_singleton nodeContent
    { type := dev.type, dev := dupFields kind dev.dev, id := some id } hmem hproc hknown
  -- what is written of the copy is written of the device
  rw [deviceXml_dup] at hfunc
  rw [deviceToXml, virtDeviceDup, hid]
  constructor
  · intro nodes hnodes
    show (if dev.type = kind.resType then _ else _) = _
    rw [if_pos htype, hfunc, hnodes]
  · intro msg herror
    show (if dev.type = kind.resType then _ else _) = _
    rw [if_pos htype, hfunc, herror]

/-- The live path and the stored one agree on a device: there is an element, and it is the one
that is written between those of the devices around it, wherever it stands in a domain of the
type; and a document that fails for the device alone means that there is no element. -/
structure HotplugAgrees (nodeContent : String → List Node) (newUuid : String) (t : DomainType)
    (kind : DevKind) (dev : VirtDevice kind.Dev) : Prop where
  runs : deviceToXml nodeContent kind dev ≠ .error .fault
  same : ∀ (dominfo : Domain) before after doc, dominfo.type = t →
    dominfo.list kind = before ++ dev :: after →
    systemToXml nodeContent newUuid dominfo = .ok doc →
    ∃ element pre post, deviceToXml nodeContent kind dev = .ok element ∧
      devicesXml (deviceXml t kind) before = .ok pre ∧
      devicesXml (deviceXml t kind) after = .ok post ∧
      devicesXPath doc (writtenNames kind) = pre ++ element :: post ++
        if kind = .console then lxcConsole t else []
  fails : ∀ (dominfo : Domain) before after, dominfo.type = t →
    dominfo.list kind = before ++ dev :: after →
    (∃ doc, systemToXml nodeContent newUuid (dominfo.setList kind (before ++ after)) = .ok doc) →
    (∀ doc, systemToXml nodeContent newUuid dominfo ≠ .ok doc) →
    deviceToXml nodeContent kind dev = .error .reject

/-- The elements that have the names of a list. -/
theorem devicesXPath_writtenNames {dominfo : Domain} {doc : Node} (hmem : kind ≠ .mem)
    (hproc : kind ≠ .proc) (h : systemToXml nodeContent newUuid dominfo = .ok doc) :
    ∃ written, devicesXml (deviceXml dominfo.type kind) (dominfo.list kind) = .ok written ∧
      devicesXPath doc (writtenNames kind) =
        written ++ if kind = .console then lxcConsole dominfo.type else [] := by
  obtain ⟨written, hwritten, hselected, -⟩ := selected_systemToXml h
  refine ⟨written kind, hwritten kind hmem hproc, ?_⟩
  -- of the other kinds, the expression selects what was written and no more
  have hplain (hkind : kind ≠ .console)
      (hnodes : devicesXPath doc (writtenNames kind) = written kind) :
      devicesXPath doc (writtenNames kind) =
        written kind ++ if kind = .console then lxcConsole dominfo.type else [] := by
    rw [hnodes, if_neg hkind, List.append_nil]
  cases kind with
  | disk => exact hplain DevKind.noConfusion hselected.disk
  | net => exact hplain DevKind.noConfusion hselected.net
  | input => exact hplain DevKind.noConfusion hselected.input
  | controller => exact hplain DevKind.noConfusion hselected.controller
  | console => exact hselected.console
  | graphics =>
    -- the expression that reads the displays selects the consoles besides
    have hname : "graphics" ∈ writtenNames .graphics := List.mem_singleton_self _
    obtain ⟨nodes, hnodes, hxpath⟩ := elems_systemToXml nodeContent newUuid h hname
    have hsame : nodes = written .graphics :=
      Except.ok.inj (hnodes.symm.trans (hwritten .graphics hmem hproc))
    have hlxc : elems ["graphics"] (lxcConsole dominfo.type) = [] :=
      (named_lxcConsole dominfo.type).elems_eq_nil (by simp)
    have hnamed : Named ["graphics"] nodes := named_devicesXml hnodes
    refine hplain DevKind.noConfusion ?_
    show devicesXPath doc ["graphics"] = _
    rw [hxpath, hlxc, hnamed.elems_eq_self, List.append_nil, hsame]
  | mem => exact absurd rfl hmem
  | proc => exact absurd rfl hproc

/-- A device that is written has one element. -/
theorem exists_deviceXml_eq_singleton {d : kind.Dev} {nodes : List Node} (hmem : kind ≠ .mem)
    (hproc : kind ≠ .proc) (h : deviceXml t kind d = .ok nodes) (hwrites : WritesElement kind d) :
    ∃ element, nodes = [element] := by
  have hlen := length_deviceXml h
  have hne : nodes ≠ [] := fun hnil => (deviceXml_eq_nil_iff hmem hproc h).mp hnil hwrites
  obtain ⟨element, rest, rfl⟩ := List.exists_cons_of_ne_nil hne
  have hrest : rest = [] := by
    rw [List.length_cons] at hlen
    exact List.length_eq_zero_iff.mp (Nat.le_zero.mp (Nat.le_of_succ_le_succ hlen))
  exact ⟨element, by rw [hrest]⟩

/-- A list with one more device is written when the device is. -/
theorem devicesXml_insert {α : Type} {xml : α → Except String (List Node)}
    {before after : List (VirtDevice α)} {d : VirtDevice α} {written ns : List Node}
    (h : devicesXml xml (before ++ after) = .ok written) (hns : xml d.dev = .ok ns)
    (hknown : d.type ≠ .unknown) : ∃ nodes, devicesXml xml (before ++ d :: after) = .ok nodes := by
  obtain ⟨pre, post, hpre, hpost, -⟩ := devicesXml_of_append h
  have htail : devicesXml xml (d :: after) = .ok (ns ++ post) := by
    rw [devicesXml, if_neg hknown, hns, hpost]
    rfl
  exact ⟨_, devicesXml_append hpre htail⟩

/-- There is a document for domains of the supported types only. -/
theorem supported_of_systemToXml {dominfo : Domain} {doc : Node}
    (h : systemToXml nodeContent newUuid dominfo = .ok doc) : Supported dominfo.type := by
  obtain ⟨os, -, hos, -⟩ := systemToXml_parts h
  unfold osXml at hos
  constructor
  · intro htype
    rw [htype] at hos
    cases hos
  · intro htype
    rw [htype] at hos
    cases hos

/-- Where no script is needed and an element is written, both paths agree on a device with an
id. -/
theorem hotplugAgrees_of_not_needsScript (hmem : kind ≠ .mem) (hproc : kind ≠ .proc)
    (htype : dev.type = kind.resType) (hid : dev.id.isSome) (hscript : ¬ NeedsScript t kind dev.dev)
    (hwrites : Supported t → WritesElement kind dev.dev) :
    HotplugAgrees nodeContent newUuid t kind dev := by
  -- without a script the element is the same for a domain of any type
  have hsame : deviceXml .unknown kind dev.dev = deviceXml t kind dev.dev :=
    (deviceXml_unknown_iff t kind dev.dev).mpr hscript
  have hknown : dev.type ≠ .unknown := by
    rw [htype]
    exact resType_ne_unknown kind
  obtain ⟨hok, herror⟩ := deviceToXml_of_some nodeContent hmem hproc htype hid
  rw [hsame] at hok herror
  refine ⟨?_, ?_, ?_⟩
  -- the live text is empty only where the device has no element
  · intro hfault
    cases hxml : deviceXml t kind dev.dev with
    | error msg => exact absurd ((herror msg hxml).symm.trans hfault) (by simp)
    | ok nodes =>
      have htree := (hok nodes hxml).symm.trans hfault
      cases nodes <;> cases htree
  -- the element stands between those of the devices before and after it
  · rintro dominfo before after doc rfl hlist hdoc
    obtain ⟨written, hwritten, hxpath⟩ := devicesXPath_writtenNames hmem hproc hdoc
    rw [hlist] at hwritten
    obtain ⟨pre, rest, hpre, hrest, rfl⟩ := devicesXml_of_append hwritten
    obtain ⟨hunknown, -⟩ | ⟨-, ns, post, hns, hpost, rfl⟩ := devicesXml_cons hrest
    · exact absurd hunknown hknown
    -- a document is written, so the type is supported
    obtain ⟨element, rfl⟩ := exists_deviceXml_eq_singleton hmem hproc hns
      (hwrites (supported_of_systemToXml hdoc))
    refine ⟨element, pre, post, hok _ hns, hpre, hpost, ?_⟩
    rw [hxpath, List.singleton_append]
  -- the definition fails with the device and not without, so the device has no element
  · rintro dominfo before after rfl hlist ⟨doc, hdoc⟩ hfail
    cases hxml : deviceXml dominfo.type kind dev.dev with
    | error msg => exact herror msg hxml
    | ok ns =>
      -- the device would be written among the others
      exfalso
      obtain ⟨os, written, hos, hwritten, -⟩ := systemToXml_parts hdoc
      have hos' : ∃ os, osXml nodeContent dominfo = .ok os := by
        refine ⟨os, ?_⟩
        rw [← hos]
        cases kind <;> rfl
      obtain ⟨doc', hdoc'⟩ :=
          exists_systemToXml nodeContent newUuid hos' fun kind' hmem' hproc' => by
        have hothers := hwritten kind' hmem' hproc'
        rw [Domain.type_setList] at hothers
        by_cases hkind : kind' = kind
        · subst hkind
          rw [Domain.list_setList] at hothers
          rw [hlist]
          exact devicesXml_insert hothers hxml hknown
        · rw [Domain.list_setList_of_ne dominfo hkind] at hothers
          exact ⟨_, hothers⟩
      exact hfail doc' hdoc'

/-- A script is for a Xen guest, and the bridge is written for a guest of any type. -/
theorem supported_of_needsScript (h : NeedsScript t kind dev.dev) :
    Supported t ∧ ∀ t', ∃ nodes, deviceXml t' kind dev.dev = .ok nodes := by
  cases kind with
  | disk | mem | proc | graphics | input | console | controller => exact h.elim
  | net =>
    obtain ⟨hxen, hbridge, hsome⟩ := h
    obtain ⟨source, hsource⟩ := Option.isSome_iff_exists.mp hsome
    refine ⟨?_, fun t' => ?_⟩
    · obtain rfl | rfl := hxen <;> decide
    · show ∃ nodes, netXmlOf t' dev.dev = .ok nodes
      rw [netXmlOf, netTypeXml, if_neg (by simp [hbridge]), if_pos hbridge, bridgeNetToXml,
        setNetSource, hsource]
      by_cases hxen' : t' = .xenpv ∨ t' = .xenfv
      · simp [bind, Except.bind, hxen']
      · simp [bind, Except.bind, hxen']

variable (nodeContent newUuid) in
/-- A domain with one device. -/
theorem systemToXml_singleton (hsupported : Supported t) {ns : List Node}
    (hns : deviceXml t kind dev.dev = .ok ns) (hknown : dev.type ≠ .unknown) :
    ∃ doc, systemToXml nodeContent newUuid (Domain.setList { type := t } kind [dev]) = .ok doc := by
  -- a supported type is one with a generator for its os part
  have hos : ∃ os, osXml nodeContent (Domain.setList { type := t } kind [dev]) = .ok os := by
    unfold osXml
    rw [Domain.type_setList]
    cases t with
    | unknown => exact absurd rfl hsupported.1
    | unsupported => exact absurd rfl hsupported.2
    | xenpv | xenfv | kvm | qemu | lxc => exact ⟨_, rfl⟩
  refine exists_systemToXml nodeContent newUuid hos fun kind' _ _ => ?_
  rw [Domain.type_setList]
  -- the other lists of such a domain are empty
  by_cases hkind : kind' = kind
  · subst hkind
    rw [Domain.list_setList, devicesXml_singleton hknown]
    exact ⟨ns, hns⟩
  · rw [Domain.list_setList_of_ne _ hkind]
    refine ⟨[], ?_⟩
    cases kind' <;> rfl

/-- Where both paths agree, the device has an id. -/
theorem HotplugAgrees.id_isSome (hagrees : HotplugAgrees nodeContent newUuid t kind dev) :
    dev.id.isSome := by
  rw [Option.isSome_iff_ne_none]
  intro hnone
  exact hagrees.runs (deviceToXml_of_none nodeContent hnone)

/-- Where both paths agree, no script is needed. -/
theorem HotplugAgrees.not_needsScript (hagrees : HotplugAgrees nodeContent newUuid t kind dev)
    (hmem : kind ≠ .mem) (hproc : kind ≠ .proc) (htype : dev.type = kind.resType) :
    ¬ NeedsScript t kind dev.dev := by
  intro hneeds
  have hid := hagrees.id_isSome
  have hknown : dev.type ≠ .unknown := by
    rw [htype]
    exact resType_ne_unknown kind
  -- a domain with nothing else tells the two elements apart
  obtain ⟨hsupported, hwritten⟩ := supported_of_needsScript hneeds
  obtain ⟨ns, hns⟩ := hwritten t
  obtain ⟨us, hus⟩ := hwritten .unknown
  obtain ⟨doc, hdoc⟩ := systemToXml_singleton nodeContent newUuid hsupported hns hknown
  obtain ⟨element, pre, post, helement, hpre, hpost, hxpath⟩ :=
    hagrees.same _ [] [] doc (Domain.type_setList _ _ _) (Domain.list_setList _ _ _) hdoc
  obtain ⟨written, hwritten, hxpath'⟩ := devicesXPath_writtenNames hmem hproc hdoc
  rw [Domain.type_setList, Domain.list_setList, devicesXml_singleton hknown] at hwritten
  rw [Domain.type_setList] at hxpath'
  cases hns.symm.trans hwritten
  cases hpre
  cases hpost
  -- what is selected is the one element, so both texts are of one node
  rw [hxpath', List.nil_append] at hxpath
  have hlive : treeToXml us = .ok element :=
    ((deviceToXml_of_some nodeContent hmem hproc htype hid).1 us hus).symm.trans helement
  have heq : us = ns := by
    have hns : ns = [element] := List.append_cancel_right hxpath
    rw [hns]
    obtain ⟨u, rfl⟩ := exists_deviceXml_eq_singleton hmem hproc hus hneeds.writesElement
    cases hlive
    rfl
  have hsame : deviceXml .unknown kind dev.dev = deviceXml t kind dev.dev := by
    rw [hus, hns, heq]
  exact (deviceXml_unknown_iff t kind dev.dev).mp hsame hneeds

/-- Where both paths agree, an element is written, as far as there are documents for the
type. -/
theorem HotplugAgrees.writesElement (hagrees : HotplugAgrees nodeContent newUuid t kind dev)
    (hmem : kind ≠ .mem) (hproc : kind ≠ .proc) (htype : dev.type = kind.resType)
    (hsupported : Supported t) : WritesElement kind dev.dev := by
  have hknown : dev.type ≠ .unknown := by
    rw [htype]
    exact resType_ne_unknown kind
  by_contra hnot
  -- only a display is left out, and that without an error
  have hns (t' : DomainType) : deviceXml t' kind dev.dev = .ok [] := by
    cases kind with
    | graphics => exact if_neg hnot
    | net | disk | mem | proc | input | console | controller => exact absurd trivial hnot
  obtain ⟨doc, hdoc⟩ := systemToXml_singleton nodeContent newUuid hsupported (hns t) hknown
  obtain ⟨element, -, -, helement, -⟩ :=
    hagrees.same _ [] [] doc (Domain.type_setList _ _ _) (Domain.list_setList _ _ _) hdoc
  have hlive := (deviceToXml_of_some nodeContent hmem hproc htype hagrees.id_isSome).1 [] (hns _)
  cases hlive.symm.trans helement

/-- **The live element and the stored one.** They agree if and only if the device has an id,
is no bridge of a Xen guest, and is no display that is left out of documents: the two
generators run on the same fields, and what they read besides is the type of the domain. -/
theorem hotplugAgrees_iff (hmem : kind ≠ .mem) (hproc : kind ≠ .proc)
    (htype : dev.type = kind.resType) :
    HotplugAgrees nodeContent newUuid t kind dev ↔
      dev.id.isSome ∧ ¬ NeedsScript t kind dev.dev ∧
        (Supported t → WritesElement kind dev.dev) := by
  constructor
  · intro hagrees
    exact ⟨hagrees.id_isSome, hagrees.not_needsScript hmem hproc htype,
      hagrees.writesElement hmem hproc htype⟩
  · rintro ⟨hid, hscript, hwrites⟩
    exact hotplugAgrees_of_not_needsScript hmem hproc htype hid hscript hwrites

end Agree

/-- An interface on a bridge. -/
def bridgeInterface : VirtDevice NetDevice where
  type := .net
  dev := { type := some "bridge", mac := some "00:16:3e:1a:b3:4a", source := some "br0" }
  id := some "00:16:3e:1a:b3:4a"

theorem hotplugAgrees_kvmBridge :
    HotplugAgrees textNodes "" .kvm .net bridgeInterface ↔
      bridgeInterface.id.isSome ∧ ¬ NeedsScript .kvm .net bridgeInterface.dev ∧
        (Supported .kvm → WritesElement .net bridgeInterface.dev) :=
  hotplugAgrees_iff DevKind.noConfusion DevKind.noConfusion rfl

/-- A console among the displays, as it is read from a serial line. -/
def consoleDisplay : VirtDevice GraphicsDevice where
  type := .graphics
  dev := { type := some "console" }
  id := some "0:0"

/-- The bridge of a Xen guest is attached without its script. A device without an id, as one
is translated that is added to the inputs, crashes the process. There is no element of a
console among the displays, while the document of its domain is written. -/
theorem not_hotplugAgrees :
    ¬ HotplugAgrees textNodes "" .xenfv .net bridgeInterface ∧
    ¬ HotplugAgrees textNodes "" .kvm .input
      { type := .input, dev := { type := some "tablet", bus := some "usb" } } ∧
    ¬ HotplugAgrees textNodes "" .kvm .graphics consoleDisplay := by
  -- a script, an id and an element are each needed
  refine ⟨?_, ?_, ?_⟩
  · intro hagrees
    have hscript : NeedsScript .xenfv .net bridgeInterface.dev := ⟨.inr rfl, rfl, rfl⟩
    exact hagrees.not_needsScript DevKind.noConfusion DevKind.noConfusion rfl hscript
  · intro hagrees
    exact absurd hagrees.id_isSome Bool.false_ne_true
  · intro hagrees
    have hwrites : WritesElement .graphics consoleDisplay.dev :=
      hagrees.writesElement DevKind.noConfusion DevKind.noConfusion rfl (by decide)
    revert hwrites
    change ¬ (streqc "console" "vnc" ∨ streqc "console" "sdl")
    decide

end LibvirtCim.Device
