import LibvirtCim.Device.ConsoleRoundTrip

/-!
# Displays and input devices through the generator and back

What `parse_graphics_device` and `parse_input_device` make of the elements that
`graphics_xml` and `input_xml` write for the devices they parsed. Displays and input devices
come back as they are. A console that is parsed among the graphics is written by
`console_xml`, which does not write its port.
-/

open Framework

namespace LibvirtCim.Device

/-- The element that is written comes back as the display it is written for. -/
def DisplayComesBack (d : VirtDevice GraphicsDevice) : Prop :=
  ∃ n, graphicsXmlOf d.dev = .ok [n] ∧ parseGraphicsDevice n = .ok d

/-- The element that is written comes back as the input device it is written for. -/
def InputComesBack (d : VirtDevice InputDevice) : Prop :=
  ∃ n, inputXmlOf d.dev = .ok [n] ∧ parseInputDevice n = .ok d

/-! ### Displays -/

/-- The id of a graphics device. -/
def graphicsId (gdev : GraphicsDevice) : String :=
  if streqc (gdev.type.getD "") "vnc" then formatStr gdev.type
  else formatStr gdev.type ++ ":" ++ formatStr gdev.port

/-- `parse_graphics_device`, once the attributes are read. -/
theorem parseGraphicsDevice_of_parseGraphics {node : Node} {type : String} {gdev : GraphicsDevice}
    (htype : node.attr "type" = some type) (h : parseGraphics node type = .ok gdev) :
    parseGraphicsDevice node =
      .ok { type := .graphics, dev := gdev, id := some (graphicsId gdev) } := by
  unfold parseGraphicsDevice
  simp only [getAttrValue, htype, h]
  rfl

/-- The attributes that a `parse_graphics_device` that succeeds has read. -/
theorem parseGraphics_of_parseGraphicsDevice {node : Node} {d : VirtDevice GraphicsDevice}
    (h : parseGraphicsDevice node = .ok d) :
    ∃ type, node.attr "type" = some type ∧ parseGraphics node type = .ok d.dev ∧
      d = { type := .graphics, dev := d.dev, id := some (graphicsId d.dev) } := by
  unfold parseGraphicsDevice at h
  split at h
  case h_2 => cases h
  case h_1 type htype =>
    obtain ⟨gdev, hgdev, h⟩ := bind_eq_ok h
    cases h
    exact ⟨type, htype, hgdev, rfl⟩

/-- A VNC display with a port and an address to listen on comes back. -/
theorem parseGraphics_vnc {gdev : GraphicsDevice} {type port host : String}
    (hvnc : streqc type "vnc") (htype : gdev.type = some type) (hport : gdev.port = some port)
    (hhost : gdev.host = some host) :
    (graphicsVncXml gdev).attr "type" = some type ∧
      parseGraphics (graphicsVncXml gdev) type = .ok gdev := by
  obtain ⟨_, _, _, keymap, passwd⟩ := gdev
  dsimp only at htype hport hhost
  subst htype hport hhost
  have hsdl : streqc type "sdl" = false := streqc_congr hvnc "sdl"
  constructor
  · simp [graphicsVncXml, hsdl]
  · simp [parseGraphics, hvnc, graphicsVncXml, hsdl, getAttrValueDefault]

/-- An SDL display comes back. -/
theorem parseGraphics_sdl {gdev : GraphicsDevice} {type : String} (hsdl : streqc type "sdl")
    (htype : gdev.type = some type) (hpasswd : gdev.passwd = none) :
    (graphicsVncXml gdev).attr "type" = some type ∧
      parseGraphics (graphicsVncXml gdev) type = .ok gdev := by
  obtain ⟨_, _, _, _, _⟩ := gdev
  dsimp only at htype hpasswd
  subst htype hpasswd
  have hvnc : streqc type "vnc" = false := streqc_congr hsdl "vnc"
  constructor
  · simp [graphicsVncXml, hsdl]
  · simp [parseGraphics, hvnc, hsdl, graphicsVncXml]

/-- A pseudo terminal among the graphics. -/
theorem parseGraphics_pty (node : Node) {type : String} (hpty : streqc type "pty") :
    parseGraphics node type =
      .ok (node.children.foldl parsePtyChild { type := some node.name }) := by
  have hvnc : streqc type "vnc" = false := streqc_congr hpty "vnc"
  have hsdl : streqc type "sdl" = false := streqc_congr hpty "sdl"
  simp [parseGraphics, hpty, hvnc, hsdl]

/-- The node is one of a console, as `parse_graphics_device` sees it. -/
def isPtyNode (node : Node) : Bool :=
  (node.attr "type").any fun type => streqc type "pty"

/-- **Displays come back.** -/
theorem display_comesBack {node : Node} {d : VirtDevice GraphicsDevice}
    (h : parseGraphicsDevice node = .ok d) (hpty : isPtyNode node = false) :
    DisplayComesBack d := by
  obtain ⟨type, htype, hgdev, hd⟩ := parseGraphics_of_parseGraphicsDevice h
  -- a type that is accepted and not pty is written by the vnc writer, sdl too
  have hback : graphicsXmlOf d.dev = .ok [graphicsVncXml d.dev] ∧
      (graphicsVncXml d.dev).attr "type" = some type ∧
      parseGraphics (graphicsVncXml d.dev) type = .ok d.dev := by
    generalize d.dev = gdev at hgdev
    unfold parseGraphics at hgdev
    split at hgdev
    · next hvnc =>
      cases hgdev
      refine ⟨?_, parseGraphics_vnc hvnc rfl rfl rfl⟩
      simp [graphicsXmlOf, hvnc]
    split at hgdev
    · next hsdl =>
      cases hgdev
      refine ⟨?_, parseGraphics_sdl hsdl rfl rfl⟩
      simp [graphicsXmlOf, hsdl]
    split at hgdev
    -- only pty is left, which is excluded
    · next hnode =>
      rw [isPtyNode, htype, Option.any_some, hnode] at hpty
      cases hpty
    · cases hgdev
  obtain ⟨hxml, hattr, hparse⟩ := hback
  refine ⟨_, hxml, ?_⟩
  rw [parseGraphicsDevice_of_parseGraphics hattr hparse, ← hd]

/-- **Input devices come back.** -/
theorem input_comesBack {node : Node} {d : VirtDevice InputDevice}
    (h : parseInputDevice node = .ok d) : InputComesBack d := by
  obtain ⟨htype, type, bus, hdev, hid⟩ := parseInputDevice_ok h
  obtain ⟨_, _, _⟩ := d
  cases htype
  cases hdev
  cases hid
  exact ⟨_, rfl, rfl⟩

/-! ### Consoles among the graphics -/

/-- A `target` child. -/
def isTarget (child : Node) : Bool := child.name = "target"

/-- The first target, whose port `parse_console_device` requires, has one. -/
def FirstTargetHasPort (node : Node) : Prop :=
  ∀ target, node.children.find? isTarget = some target → (target.attr "port").isSome

/-- Behind a target with a port, no child of a pseudo terminal is rejected. -/
theorem fold_ptyBehindTarget (children : List Node) {cdev : ConsoleDevice}
    (hpty : cdev.sourceType = .pty) (port : String) :
    ∃ r, children.foldlM parseConsoleChild (cdev, some port) = .ok r := by
  induction children generalizing cdev with
  | nil => exact ⟨_, rfl⟩
  | cons child children ih =>
    -- behind a target every child is accepted and leaves the port and the kind of source
    have hstep : ∃ cdev', parseConsoleChild (cdev, some port) child = .ok (cdev', some port) ∧
        cdev'.sourceType = .pty := by
      obtain ⟨_, sd, targetType⟩ := cdev
      cases hpty
      unfold parseConsoleChild
      dsimp only
      split
      · exact ⟨_, rfl, rfl⟩
      split
      · exact ⟨_, rfl, rfl⟩
      · exact ⟨_, rfl, rfl⟩
    obtain ⟨cdev', hchild, hpty'⟩ := hstep
    rw [List.foldlM_cons, hchild]
    exact ih hpty'

/-- **Pseudo terminals are accepted** if the first target has a port. -/
theorem fold_pty_iff (children : List Node) {cdev : ConsoleDevice} (hpty : cdev.sourceType = .pty) :
    (∃ r, children.foldlM parseConsoleChild (cdev, none) = .ok r) ↔
      ∀ target, children.find? isTarget = some target → (target.attr "port").isSome := by
  induction children generalizing cdev with
  | nil => exact ⟨fun _ => nofun, fun _ => ⟨_, rfl⟩⟩
  | cons child children ih =>
    obtain ⟨_, sd, targetType⟩ := cdev
    cases hpty
    rw [List.foldlM_cons, List.find?_cons]
    -- a target without a port is the one way a pty console is refused
    by_cases htarget : child.name = "target"
    · have his : isTarget child = true := decide_eq_true htarget
      rw [his]
      cases hport : child.attr "port" with
      | none =>
        have hchild (cdev : ConsoleDevice) :
            parseConsoleChild (cdev, none) child = .error .reject := by
          simp [parseConsoleChild, htarget, hport]
        rw [hchild]
        constructor
        · rintro ⟨r, ⟨⟩⟩
        · intro h
          have hsome := h child rfl
          rw [hport] at hsome
          cases hsome
      -- the first target has its port, and no later one is asked
      | some port =>
        have hchild (cdev : ConsoleDevice) : parseConsoleChild (cdev, none) child =
            .ok ({ cdev with targetType := child.attr "type" }, some port) := by
          simp [parseConsoleChild, htarget, hport]
        rw [hchild]
        refine ⟨fun _ target h => ?_, fun _ => fold_ptyBehindTarget children rfl port⟩
        cases h
        rw [hport]
        rfl
    · have his : isTarget child = false := decide_eq_false htarget
      have hstep : ∃ cdev', parseConsoleChild ({ sourceType := .pty, sourceDev := sd, targetType },
          none) child = .ok (cdev', none) ∧ cdev'.sourceType = .pty := by
        unfold parseConsoleChild
        dsimp only
        rw [if_neg htarget]
        split
        · exact ⟨_, rfl, rfl⟩
        · exact ⟨_, rfl, rfl⟩
      -- any other child leaves the search for the target where it is
      obtain ⟨cdev', hchild, hpty'⟩ := hstep
      rw [his, hchild]
      exact ih hpty'

/-- The type of a console that `parse_graphics_device` takes for a pseudo terminal. -/
theorem sourceType_of_isPtyNode {type : String} (h : streqc type "pty") :
    chardevSourceTypeStrToID type = some .pty := by
  have hlower : type.toList.map Char.toLower = ['p', 't', 'y'] := by
    simpa [streqc] using h
  simp [chardevSourceTypeStrToID, chardevSourceTypes, streqc, hlower]

/-- The type of a node of a console. -/
theorem exists_type_of_isPtyNode {node : Node} (h : isPtyNode node) :
    ∃ type, node.attr "type" = some type ∧ streqc type "pty" :=
  (Option.any_eq_true _ _).mp h

theorem parseConsoleDevice_pty_iff {node : Node} (h : isPtyNode node) :
    (∃ c, parseConsoleDevice node = .ok c) ↔ FirstTargetHasPort node := by
  obtain ⟨type, htype, hpty⟩ := exists_type_of_isPtyNode h
  have hsource : ({ sourceType := .pty } : ConsoleDevice).sourceType = .pty := rfl
  rw [FirstTargetHasPort, ← fold_pty_iff node.children hsource]
  unfold parseConsoleDevice
  simp only [getAttrValue, htype, sourceType_of_isPtyNode hpty]
  constructor
  · rintro ⟨c, hc⟩
    obtain ⟨r, hr, -⟩ := bind_eq_ok hc
    exact ⟨r, hr⟩
  · rintro ⟨r, hr⟩
    rw [hr]
    exact ⟨_, rfl⟩

/-- The source type that a `parse_console_device` that succeeds has read. -/
theorem sourceType_of_parseConsoleDevice {node : Node} {c : VirtDevice ConsoleDevice}
    (h : parseConsoleDevice node = .ok c) :
    (node.attr "type").bind chardevSourceTypeStrToID = some c.dev.sourceType := by
  unfold parseConsoleDevice at h
  split at h
  case h_2 => cases h
  case h_1 typeStr htype =>
    split at h
    case h_2 => cases h
    case h_1 sourceType hsource =>
      obtain ⟨⟨cdev, port⟩, hfold, hrest⟩ := bind_eq_ok h
      cases hrest
      -- the kind is read before the children, and none of them changes it
      have hinv : cdev.sourceType = sourceType := by
        refine foldlM_invariant (I := fun st => st.1.sourceType = sourceType) ?_ rfl hfold
        rintro ⟨s, _⟩ child ⟨t, _⟩ hs hstep
        obtain ⟨type, rfl, -⟩ | ⟨sd, -, rfl⟩ | ⟨protocol, -, rfl⟩ | rfl :=
          parseConsoleChild_cases hstep <;> exact hs
      have hattr : node.attr "type" = some typeStr := htype
      rw [hattr, Option.bind_some, hsource, hinv]

/-- The console that a graphics device came from is written, and read as a graphics device
with the same port. -/
def Represented (node : Node) (d : VirtDevice GraphicsDevice) : Prop :=
  node.name = "console" ∧ ∃ c m d', parseConsoleDevice node = .ok c ∧
    consoleXmlOf c.dev = .ok [m] ∧ parseGraphicsDevice m = .ok d' ∧ d'.dev.port = d.dev.port

/-- A console that is written has no port. -/
theorem port_consoleXml {cdev : ConsoleDevice} (hpty : cdev.sourceType = .pty) :
    ∃ m d', consoleXmlOf cdev = .ok [m] ∧ parseGraphicsDevice m = .ok d' ∧ d'.dev.port = none := by
  obtain ⟨_, ⟨slot0, _, _, _⟩, targetType⟩ := cdev
  cases hpty
  have hname : streqc "pty" "pty" := by decide
  refine ⟨.elem "console" [("type", "pty")] (optChild "source" "path" slot0 ++
    optChild "target" "type" targetType), _, rfl,
    parseGraphicsDevice_of_parseGraphics rfl (parseGraphics_pty _ hname), ?_⟩
  cases slot0 <;> cases targetType <;> rfl

/-- What is left of a graphics device: a display comes back, a console is represented. The
graphics parser also accepts consoles and serial ports, of which `graphics_xml` writes nothing. -/
def GraphicsKept (node : Node) (d : VirtDevice GraphicsDevice) : Prop :=
  if isPtyNode node then Represented node d else DisplayComesBack d

/-- **Displays, input devices and consoles through the generator and back.** Displays and input
devices always come back. A graphics device that came from a console is represented with its port
if and only if it has none and its console is accepted. No element is written of it as a display,
so what represents it is the console that the same node was parsed to, and that has no port
(`port_consoleXml`). -/
theorem graphics_kept_iff {node : Node} {d : VirtDevice GraphicsDevice}
    (h : parseGraphicsDevice node = .ok d) :
    (GraphicsKept node d ↔ isPtyNode node →
      node.name = "console" ∧ d.dev.port = none ∧ FirstTargetHasPort node) ∧
    ∀ node' d', parseInputDevice node' = .ok d' → InputComesBack d' := by
  refine ⟨?_, fun node' d' h' => input_comesBack h'⟩
  unfold GraphicsKept
  cases hpty : isPtyNode node with
  -- a display that is no pty comes back by itself
  | false => simpa using display_comesBack h hpty
  | true =>
    have hsource (c : VirtDevice ConsoleDevice) (hc : parseConsoleDevice node = .ok c) :
        c.dev.sourceType = .pty := by
      obtain ⟨type, htype, hstr⟩ := exists_type_of_isPtyNode hpty
      have hread := sourceType_of_parseConsoleDevice hc
      rw [htype, Option.bind_some, sourceType_of_isPtyNode hstr] at hread
      exact (Option.some.inj hread).symm
    rw [if_pos rfl, ← parseConsoleDevice_pty_iff hpty, forall_prop_of_true rfl]
    constructor
    -- a console made of a pty has no port, so the port must be absent to begin with
    · rintro ⟨hname, c, m, d', hc, hm, hd', hport⟩
      obtain ⟨m', e, hm', he, hnone⟩ := port_consoleXml (hsource c hc)
      cases hm.symm.trans hm'
      cases hd'.symm.trans he
      exact ⟨hname, hport.symm.trans hnone, c, hc⟩
    · rintro ⟨hname, hnone, c, hc⟩
      obtain ⟨m, d', hm, hd', hport⟩ := port_consoleXml (hsource c hc)
      exact ⟨hname, c, m, d', hc, hm, hd', hport.trans hnone.symm⟩

/-- A VNC display. -/
def vncDisplay : Node :=
  .elem "graphics" [("type", "vnc"), ("port", "5901"), ("autoport", "no")] []

/-- The device it is parsed to. -/
def vncDevice : VirtDevice GraphicsDevice where
  type := .graphics
  dev := { type := some "vnc", port := some "5901", host := some "127.0.0.1" }
  id := some "vnc"

theorem graphics_kept_vncDevice :
    (GraphicsKept vncDisplay vncDevice ↔ isPtyNode vncDisplay →
      vncDisplay.name = "console" ∧ vncDevice.dev.port = none ∧ FirstTargetHasPort vncDisplay) ∧
    ∀ node' d', parseInputDevice node' = .ok d' → InputComesBack d' :=
  have h : parseGraphicsDevice vncDisplay = .ok vncDevice := rfl
  graphics_kept_iff h

/-- The port of a console among the graphics is lost. -/
theorem not_graphics_kept :
    ¬ ∀ node d, parseGraphicsDevice node = .ok d → GraphicsKept node d := by
  intro h
  have hconsole := h (ptyConsole [.elem "target" [("type", "serial"), ("port", "0")] []]) _ rfl
  obtain ⟨-, c, m, d', hc, hm, hd', hport⟩ := hconsole
  cases hc
  cases hm
  cases hd'
  exact absurd hport (by decide)

end LibvirtCim.Device
