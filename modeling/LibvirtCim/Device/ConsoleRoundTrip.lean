import LibvirtCim.Device.Parsed

/-!
# Consoles through the generator and back

What `parse_console_device` makes of the element `console_xml` writes for a device it
parsed. The port of the target, which makes the id, is not kept and not written; a target
with a type is written without a port, and the parser rejects it. A path, mode or host that
is missing is written as an empty one.
-/

open Framework

namespace LibvirtCim.Device

/-- The slots a source type has no use for are empty. -/
def UnusedSlotsEmpty : ChardevSourceType → SourceDev → Prop
  | .pty, sd | .dev, sd | .file, sd | .pipe, sd => sd = { slot0 := sd.slot0 }
  | .unixsock, sd => sd = { slot0 := sd.slot0, slot1 := sd.slot1 }
  | .udp, _ | .tcp, _ => True
  | .null, sd | .vc, sd | .stdio, sd | .spicevmc, sd => sd = {}

/-- What one child of a console can change. -/
theorem parseConsoleChild_cases {cdev cdev' : ConsoleDevice} {port port' : Option String}
    {child : Node} (h : parseConsoleChild (cdev, port) child = .ok (cdev', port')) :
    (∃ type, cdev' = { cdev with targetType := type } ∧ port'.isSome) ∨
    (∃ sd, parseConsoleSource cdev.sourceType cdev.sourceDev child = .ok sd ∧
      cdev' = { cdev with sourceDev := sd }) ∨
    (∃ protocol, cdev.sourceType = .tcp ∧
      cdev' = { cdev with sourceDev := { cdev.sourceDev with slot1 := protocol } }) ∨
    cdev' = cdev := by
  unfold parseConsoleChild at h
  dsimp only at h
  -- the four kinds of child: the target, the source, the protocol and any other
  split at h
  · split at h
    · split at h
      · cases h
      · cases h
        exact .inl ⟨_, rfl, rfl⟩
    · cases h
      exact .inr (.inr (.inr rfl))
  split at h
  · obtain ⟨sd, hsd, h⟩ := bind_eq_ok h
    cases h
    exact .inr (.inl ⟨sd, hsd, rfl⟩)
  split at h
  · next htcp =>
    cases h
    exact .inr (.inr (.inl ⟨_, htcp.1, rfl⟩))
  · cases h
    exact .inr (.inr (.inr rfl))

theorem unusedSlotsEmpty_parseConsoleSource {type : ChardevSourceType} {sd sd' : SourceDev}
    {child : Node} (hsd : UnusedSlotsEmpty type sd)
    (h : parseConsoleSource type sd child = .ok sd') : UnusedSlotsEmpty type sd' := by
  -- only the sources of two slots fill both
  cases type with
  | pty | dev | file | pipe =>
    cases h
    change sd = _ at hsd
    rw [hsd]
    rfl
  | unixsock =>
    cases h
    change sd = _ at hsd
    rw [hsd]
    rfl
  | udp | tcp => trivial
  | null | vc | stdio | spicevmc =>
    cases h
    exact hsd

/-- What `parse_console_device` produces. -/
theorem parseConsoleDevice_source {node : Node} {d : VirtDevice ConsoleDevice}
    (h : parseConsoleDevice node = .ok d) :
    UnusedSlotsEmpty d.dev.sourceType d.dev.sourceDev := by
  -- the type of the source is fixed before the children are read
  unfold parseConsoleDevice at h
  split at h
  case h_2 => cases h
  split at h
  case h_2 => cases h
  case h_1 sourceType _ =>
    obtain ⟨⟨cdev, port⟩, hfold, hrest⟩ := bind_eq_ok h
    cases hrest
    refine foldlM_invariant (I := fun st => UnusedSlotsEmpty st.1.sourceType st.1.sourceDev)
      ?_ ?_ hfold
    -- a child fills a slot of its own kind of source
    · rintro ⟨s, _⟩ child ⟨t, _⟩ hs hstep
      obtain ⟨type, rfl, -⟩ | ⟨sd, hsd, rfl⟩ | ⟨protocol, htcp, rfl⟩ | rfl :=
        parseConsoleChild_cases hstep
      · exact hs
      · exact unusedSlotsEmpty_parseConsoleSource hs hsd
      · dsimp only
        rw [htcp]
        trivial
      · exact hs
    -- the slots are empty to begin with
    · cases sourceType <;> first | rfl | trivial

/-! ### Reading back a source -/

/-- A value that is written in any case. -/
def written (value : Option String) : Option String :=
  some (value.getD "")

theorem written_eq_iff {value : Option String} : written value = value ↔ value.isSome := by
  cases value <;> simp [written]

/-- The source that is read back. -/
def readSource (cdev : ConsoleDevice) : SourceDev :=
  let sd := cdev.sourceDev
  match cdev.sourceType with
  | .pty => { slot0 := sd.path }
  | .dev | .file | .pipe => { slot0 := written sd.path }
  | .unixsock => { slot0 := written sd.path, slot1 := written sd.unixsockMode }
  | .udp =>
    { slot0 := written sd.udpBindHost, slot1 := sd.udpBindService
      slot2 := written sd.udpConnectHost, slot3 := sd.udpConnectService }
  | .tcp =>
    { slot0 := written sd.tcpMode, slot1 := sd.tcpProtocol, slot2 := written sd.tcpHost
      slot3 := sd.tcpService }
  | .null | .vc | .stdio | .spicevmc => {}

theorem fold_consoleSourceXml (cdev : ConsoleDevice) :
    (consoleSourceXml cdev).foldlM parseConsoleChild ({ sourceType := cdev.sourceType }, none) =
      .ok ({ sourceType := cdev.sourceType, sourceDev := readSource cdev }, none) := by
  obtain ⟨sourceType, ⟨slot0, slot1, slot2, slot3⟩, _⟩ := cdev
  cases sourceType with
  | pty => cases slot0 <;> rfl
  | dev | file | pipe | unixsock => rfl
  | udp => cases slot1 <;> cases slot3 <;> rfl
  | tcp => cases slot1 <;> cases slot3 <;> rfl
  | null | vc | stdio | spicevmc => rfl

/-- What a source type cannot do without is there. These are the attributes the parser fetches for
the type; where one is missing the generator writes none, and what is read instead is not a
missing value. -/
def SourceComplete (cdev : ConsoleDevice) : Prop :=
  let sd := cdev.sourceDev
  match cdev.sourceType with
  | .dev | .file | .pipe => sd.path.isSome
  | .unixsock => sd.unixsockMode.isSome ∧ sd.path.isSome
  | .udp => sd.udpBindHost.isSome ∧ sd.udpConnectHost.isSome
  | .tcp => sd.tcpMode.isSome ∧ sd.tcpHost.isSome
  | .pty | .null | .vc | .stdio | .spicevmc => True

theorem readSource_eq_iff {cdev : ConsoleDevice}
    (h : UnusedSlotsEmpty cdev.sourceType cdev.sourceDev) :
    readSource cdev = cdev.sourceDev ↔ SourceComplete cdev := by
  obtain ⟨sourceType, ⟨slot0, slot1, slot2, slot3⟩, _⟩ := cdev
  cases sourceType <;>
    simp_all [readSource, SourceComplete, UnusedSlotsEmpty, written_eq_iff, and_comm]

/-! ### The round trip -/

/-- The element that is written comes back as the console it is written for. -/
def ConsoleComesBack (d : VirtDevice ConsoleDevice) : Prop :=
  ∃ n, consoleXmlOf d.dev = .ok [n] ∧ parseConsoleDevice n = .ok d

theorem chardevSourceType_back (type : ChardevSourceType) :
    ∃ name, chardevSourceTypeIDToStr type = some name ∧
      chardevSourceTypeStrToID name = some type := by
  cases type <;> exact ⟨_, rfl, rfl⟩

/-- What is read from the element of a console. -/
theorem parse_consoleXml (cdev : ConsoleDevice) :
    parseConsoleDevice (.elem "console" (prop "type" (chardevSourceTypeIDToStr cdev.sourceType))
        (consoleSourceXml cdev ++ optChild "target" "type" cdev.targetType)) =
      if cdev.targetType.isSome then .error .reject
      else .ok
        { type := .console
          dev := { sourceType := cdev.sourceType, sourceDev := readSource cdev }
          id := some "charconsole:(null)" } := by
  obtain ⟨name, hname, hback⟩ := chardevSourceType_back cdev.sourceType
  have hsource := fold_consoleSourceXml cdev
  unfold parseConsoleDevice
  rw [hname]
  simp only [prop, Option.getD_some, getAttrValue, Node.attr_elem, lookup_cons_ite, if_true, hback,
    Node.children_elem, List.foldlM_append, hsource]
  cases cdev.targetType <;> rfl

/-- **Consoles through the generator and back.** A device that `parse_console_device` produces
comes back if and only if its target had no type and no port, and no path, mode or host of its
source is missing. `parse_consoleXml` computes what the element is parsed to. The generator writes
the slots of the source's own type only, but a parsed source has no others
(`parseConsoleDevice_source`). -/
theorem console_comesBack_iff {node : Node} {d : VirtDevice ConsoleDevice}
    (h : parseConsoleDevice node = .ok d) :
    ConsoleComesBack d ↔
      d.dev.targetType = none ∧ d.id = some "charconsole:(null)" ∧ SourceComplete d.dev := by
  have hslots := parseConsoleDevice_source h
  obtain ⟨htype, -⟩ := parseConsoleDevice_ok h
  rw [← readSource_eq_iff hslots]
  obtain ⟨_, ⟨sourceType, sourceDev, targetType⟩, id⟩ := d
  cases htype
  -- the generator writes no target and no port, so these are what the parser must have read
  constructor
  · rintro ⟨n, hxml, hback⟩
    cases hxml
    rw [parse_consoleXml] at hback
    cases targetType with
    | some type => cases hback
    | none =>
      obtain ⟨-, hdev, hid⟩ := VirtDevice.mk.inj (Except.ok.inj hback)
      exact ⟨rfl, hid.symm, (ConsoleDevice.mk.inj hdev).2.1⟩
  · rintro ⟨rfl, rfl, hsource⟩
    refine ⟨_, rfl, ?_⟩
    rw [parse_consoleXml, hsource]
    rfl

/-- A console on a pseudo terminal. -/
def ptyConsole (targets : List Node) : Node :=
  .elem "console" [("type", "pty")] (.elem "source" [("path", "/dev/pts/3")] [] :: targets)

/-- The device of a console without a target. -/
def ptyDevice : VirtDevice ConsoleDevice where
  type := .console
  dev := { sourceType := .pty, sourceDev := { slot0 := some "/dev/pts/3" } }
  id := some "charconsole:(null)"

theorem console_comesBack_ptyDevice :
    ConsoleComesBack ptyDevice ↔ ptyDevice.dev.targetType = none ∧
      ptyDevice.id = some "charconsole:(null)" ∧ SourceComplete ptyDevice.dev :=
  have h : parseConsoleDevice (ptyConsole []) = .ok ptyDevice := rfl
  console_comesBack_iff h

/-- Every device that an element is parsed to comes back. -/
def ConsoleRoundTrips (node : Node) : Prop :=
  ∀ d, parseConsoleDevice node = .ok d → ConsoleComesBack d

/-- A console with a target does not come back, nor does one that is reached over a socket
without a source to bind to. -/
theorem not_console_roundTrips :
    ¬ ConsoleRoundTrips (ptyConsole [.elem "target" [("type", "serial"), ("port", "0")] []]) ∧
    ¬ ConsoleRoundTrips (ptyConsole [.elem "target" [("port", "0")] []]) ∧
    ¬ ConsoleRoundTrips (.elem "console" [("type", "udp")]
      [.elem "source" [("mode", "connect"), ("host", "10.0.0.1"), ("service", "4555")] []]) := by
  refine ⟨fun h => ?_, fun h => ?_, fun h => ?_⟩
  all_goals obtain ⟨n, hxml, hback⟩ := h _ rfl
  all_goals cases hxml
  all_goals exact absurd hback (by decide)

end LibvirtCim.Device
