import LibvirtCim.Device.DiskRoundTrip
import LibvirtCim.Device.Dominfo

/-!
# What the parsers produce

The shape of the devices of each type: the type and the id they carry, and what is known
of their fields. Disks are in `DiskRoundTrip`.
-/

open Framework

namespace LibvirtCim.Device

/-- A disk: read from a `disk` or from a `filesystem`. -/
theorem parseDiskDevice_ok {node : Node} {d : VirtDevice DiskDevice}
    (h : parseDiskDevice node = .ok d) :
    (node.name = "disk" ∧ parseBlockDevice node = .ok d) ∨
      (node.name = "filesystem" ∧ parseFsDevice node = .ok d) := by
  unfold parseDiskDevice at h
  split at h
  · next hname => exact .inl ⟨hname, h⟩
  split at h
  · next hname => exact .inr ⟨hname, h⟩
  · cases h

/-- No child changes the type of an interface. -/
theorem type_parseNetChild {s t : NetDevice} {child : Node} (h : parseNetChild s child = .ok t) :
    t.type = s.type := by
  have hvsi : (parseVsiDevice child s).type = s.type := by
    unfold parseVsiDevice
    split
    · rfl
    · split <;> rfl
  unfold parseNetChild at h
  repeat' split at h
  all_goals first | cases h; rfl | cases h; exact hvsi | cases h

/-- What `parse_net_device` produces. -/
theorem parseNetDevice_ok {node : Node} {d : VirtDevice NetDevice}
    (h : parseNetDevice node = .ok d) :
    d.type = .net ∧ d.id = d.dev.mac ∧ d.id.isSome ∧ d.dev.type = getAttrValue node "type" ∧
      d.dev.type.isSome := by
  unfold parseNetDevice at h
  split at h
  case h_2 => exact nomatch h
  case h_1 type htype =>
    obtain ⟨ndev, hfold, hrest⟩ := bind_eq_ok h
    -- the type is set before the children, and no child touches it
    have hinv : ndev.type = some type :=
      foldlM_invariant (I := fun s => s.type = some type)
        (fun s child t hs hstep => (type_parseNetChild hstep).trans hs) rfl hfold
    split at hrest
    · cases hrest
    · next mac hmac =>
      cases hrest
      refine ⟨rfl, hmac.symm, rfl, ?_, ?_⟩
      · rw [hinv, htype]
      · rw [hinv]
        rfl

/-- What `parse_console_device` produces. -/
theorem parseConsoleDevice_ok {node : Node} {d : VirtDevice ConsoleDevice}
    (h : parseConsoleDevice node = .ok d) :
    d.type = .console ∧ ∃ port, d.id = some ("charconsole:" ++ formatStr port) := by
  unfold parseConsoleDevice at h
  split at h
  case h_2 => exact nomatch h
  case h_1 typeStr _ =>
    split at h
    case h_2 => exact nomatch h
    case h_1 sourceType _ =>
      obtain ⟨⟨cdev, port⟩, -, hrest⟩ := bind_eq_ok h
      cases hrest
      exact ⟨rfl, port, rfl⟩

/-- No child changes the type of a console among the graphics. -/
theorem type_parsePtyChild (gdev : GraphicsDevice) (child : Node) :
    (parsePtyChild gdev child).type = gdev.type := by
  unfold parsePtyChild
  split
  · rfl
  · split <;> rfl

/-- What `parse_graphics_device` produces: a display of a type that is written, or what it
takes for a console. -/
theorem parseGraphicsDevice_ok {node : Node} {d : VirtDevice GraphicsDevice}
    (h : parseGraphicsDevice node = .ok d) :
    d.type = .graphics ∧ ∃ type, getAttrValue node "type" = some type ∧
      (streqc type "vnc" ∧ d.dev.type = some type ∧ d.dev.host.isSome ∧ d.dev.port.isSome ∧
          d.id = some type ∨
        streqc type "sdl" ∧ d.dev.type = some type ∧ d.dev.passwd = none ∧
          d.id = some (type ++ ":" ++ formatStr d.dev.port) ∨
        streqc type "pty" ∧ d.dev.type = some node.name ∧
          (streqc node.name "vnc" ∨ d.id = some (node.name ++ ":" ++ formatStr d.dev.port))) := by
  unfold parseGraphicsDevice at h
  split at h
  case h_2 => exact nomatch h
  case h_1 type htype =>
    obtain ⟨gdev, hgdev, hrest⟩ := bind_eq_ok h
    cases hrest
    refine ⟨rfl, type, htype, ?_⟩
    -- the three branches of the parser, in its order
    unfold parseGraphics at hgdev
    split at hgdev
    · next hvnc =>
      cases hgdev
      refine .inl ⟨hvnc, rfl, rfl, rfl, ?_⟩
      simp [hvnc, formatStr]
    split at hgdev
    · next hvnc hsdl =>
      cases hgdev
      refine .inr (.inl ⟨hsdl, rfl, rfl, ?_⟩)
      simp [hvnc, formatStr]
    split at hgdev
    · next hpty =>
      cases hgdev
      have hname := foldl_eq_of_step type_parsePtyChild node.children { type := some node.name }
      refine .inr (.inr ⟨hpty, hname, ?_⟩)
      -- the id of a pty node is cut from the node's own name
      by_cases hvnc : streqc node.name "vnc" = true
      · exact .inl hvnc
      · refine .inr ?_
        simp only [hname, Option.getD_some, hvnc, formatStr]
        rfl
    · cases hgdev

/-- What `parse_input_device` produces. -/
theorem parseInputDevice_ok {node : Node} {d : VirtDevice InputDevice}
    (h : parseInputDevice node = .ok d) :
    d.type = .input ∧ ∃ type bus, d.dev = { type := some type, bus := some bus } ∧
      d.id = some (type ++ ":" ++ bus) := by
  unfold parseInputDevice at h
  split at h
  · next type bus _ _ =>
    cases h
    exact ⟨rfl, type, bus, rfl, rfl⟩
  · cases h

/-- A type of a controller that is known has a name, the one it was read from up to
case. -/
theorem controllerProtocolTypeIDToStr_StrToID {typeStr : String}
    (h : controllerProtocolTypeStrToID typeStr ≠ .unknown) :
    ∃ name, controllerProtocolTypeIDToStr (controllerProtocolTypeStrToID typeStr) = some name ∧
      streqc typeStr name := by
  unfold controllerProtocolTypeStrToID at h ⊢
  cases hfind : controllerProtocolTypes.find? fun entry => streqc typeStr entry.1 with
  | none =>
    rw [hfind] at h
    exact absurd rfl h
  | some entry =>
    refine ⟨entry.1, ?_, by simpa using List.find?_some hfind⟩
    have hmem := List.mem_of_find?_eq_some hfind
    have hall : ∀ e ∈ controllerProtocolTypes, controllerProtocolTypeIDToStr e.2 = some e.1 := by
      simp [controllerProtocolTypes, controllerProtocolTypeIDToStr]
    exact hall entry hmem

/-- No child changes the type of a controller. -/
theorem type_parseControllerChild (cdev : ControllerDevice) (child : Node) :
    (parseControllerChild cdev child).type = cdev.type := by
  unfold parseControllerChild
  split
  · rfl
  · split <;> rfl

/-- What `parse_controller_device` produces. -/
theorem parseControllerDevice_ok {node : Node} {d : VirtDevice ControllerDevice}
    (h : parseControllerDevice node = .ok d) :
    d.type = .controller ∧ ∃ typeStr, d.dev.type = controllerProtocolTypeStrToID typeStr ∧
      d.dev.type ≠ .unknown ∧
      d.id = some ("controller:" ++ typeStr ++ ":" ++ toString d.dev.index.toNat) := by
  unfold parseControllerDevice at h
  split at h
  case h_2 => exact nomatch h
  case h_1 typeStr _ =>
    dsimp only at h
    -- a type that is no bus name is refused
    split at h
    · cases h
    · next hknown =>
      split at h
      case h_2 => exact nomatch h
      case h_1 index _ =>
        cases h
        refine ⟨rfl, typeStr, foldl_eq_of_step type_parseControllerChild _ _, ?_, rfl⟩
        -- the children set the address only
        rw [foldl_eq_of_step type_parseControllerChild]
        exact hknown

/-! ### Parsers that do not crash -/

theorem parseBlockChild_error {ddev : DiskDevice} {child : Node} {stop : Stop}
    (h : parseBlockChild ddev child = .error stop) : stop = .reject := by
  unfold parseBlockChild at h
  repeat' split at h
  all_goals first | cases h; rfl | cases h

theorem parseFsChild_error {ddev : DiskDevice} {child : Node} {stop : Stop}
    (h : parseFsChild ddev child = .error stop) : stop = .reject := by
  unfold parseFsChild at h
  repeat' split at h
  all_goals first | cases h; rfl | cases h

theorem finishDisk_error {ddev : DiskDevice} {stop : Stop}
    (h : finishDisk ddev = .error stop) : stop = .reject := by
  unfold finishDisk at h
  split at h
  · cases h
  · cases h
    rfl

theorem parseDiskDevice_error {dnode : Node} {stop : Stop}
    (h : parseDiskDevice dnode = .error stop) : stop = .reject := by
  unfold parseDiskDevice at h
  split at h
  · unfold parseBlockDevice at h
    -- every failure of the parser is a refusal, the missing attributes first
    split at h
    case h_2 => cases h; rfl
    split at h
    case h_2 => cases h; rfl
    obtain h | ⟨ddev, -, h⟩ := bind_eq_error h
    · exact foldlM_error (fun _ _ _ => parseBlockChild_error) h
    · exact finishDisk_error h
  split at h
  · unfold parseFsDevice at h
    split at h
    case h_2 => cases h; rfl
    obtain h | ⟨ddev, -, h⟩ := bind_eq_error h
    · exact foldlM_error (fun _ _ _ => parseFsChild_error) h
    · exact finishDisk_error h
  · cases h
    rfl

theorem parseConsoleChild_error {st : ConsoleDevice × Option String} {child : Node} {stop : Stop}
    (h : parseConsoleChild st child = .error stop) : stop = .reject := by
  -- the source of a pty, a file or an address: each may lack what it needs
  have hsource (type : ChardevSourceType) (sd : SourceDev)
      (hs : parseConsoleSource type sd child = .error stop) : stop = .reject := by
    unfold parseConsoleSource at hs
    repeat' split at hs
    all_goals first | cases hs; rfl | cases hs
  unfold parseConsoleChild at h
  dsimp only at h
  split at h
  · repeat' split at h
    all_goals first | cases h; rfl | cases h
  split at h
  · obtain h | ⟨sd, -, h⟩ := bind_eq_error h
    · exact hsource _ _ h
    · cases h
  split at h <;> cases h

theorem parseConsoleDevice_error {node : Node} {stop : Stop}
    (h : parseConsoleDevice node = .error stop) : stop = .reject := by
  unfold parseConsoleDevice at h
  split at h
  case h_2 => cases h; rfl
  split at h
  case h_2 => cases h; rfl
  obtain h | ⟨st, -, h⟩ := bind_eq_error h
  · exact foldlM_error (fun _ _ _ => parseConsoleChild_error) h
  · cases h

theorem parseGraphicsDevice_error {node : Node} {stop : Stop}
    (h : parseGraphicsDevice node = .error stop) : stop = .reject := by
  unfold parseGraphicsDevice at h
  split at h
  case h_2 => cases h; rfl
  obtain h | ⟨gdev, -, h⟩ := bind_eq_error h
  · unfold parseGraphics at h
    repeat' split at h
    all_goals first | cases h; rfl | cases h
  · cases h

theorem parseInputDevice_error {node : Node} {stop : Stop}
    (h : parseInputDevice node = .error stop) : stop = .reject := by
  unfold parseInputDevice at h
  split at h
  · cases h
  · cases h
    rfl

theorem parseControllerDevice_error {node : Node} {stop : Stop}
    (h : parseControllerDevice node = .error stop) : stop = .reject := by
  unfold parseControllerDevice at h
  split at h
  case h_2 => cases h; rfl
  dsimp only at h
  split at h
  · cases h
    rfl
  split at h
  case h_2 => cases h; rfl
  cases h

/-- **No parser crashes** but the one of interfaces, which wants a MAC address. -/
theorem doRealParse_ne_fault {kind : DevKind} (hkind : kind ≠ .net) (node : Node) :
    doRealParse kind node ≠ .error .fault := by
  intro h
  cases kind with
  | net => exact hkind rfl
  | disk => exact absurd (parseDiskDevice_error h) nofun
  | console => exact absurd (parseConsoleDevice_error h) nofun
  | graphics => exact absurd (parseGraphicsDevice_error h) nofun
  | input => exact absurd (parseInputDevice_error h) nofun
  | controller => exact absurd (parseControllerDevice_error h) nofun
  -- a processor is never refused
  | proc => cases h
  | mem =>
    -- the memory parser refuses only
    change parseMemDevice node = .error .fault at h
    unfold parseMemDevice at h
    dsimp only at h
    repeat' split at h
    all_goals cases h

end LibvirtCim.Device
