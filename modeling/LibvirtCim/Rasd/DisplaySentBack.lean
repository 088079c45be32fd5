import LibvirtCim.Device.DisplayRoundTrip
import LibvirtCim.Rasd.SentBack

/-!
# Displays and consoles that are sent back

A display has its address in one text, and a console the ends of its socket in a URL. What is
scanned from these is compared with what they were made of (`parseIpAddress_join_iff`,
`HostKept`). Neither a container nor a display that stands for a console has a translator.
-/

open Framework LibvirtCim.Device

namespace LibvirtCim.Rasd

/-! ### Graphics -/

section Graphics

/-- **When a host and a port are read off their text.** The host may have blanks in it. -/
theorem parseIpAddress_join_iff {host port : String} :
    parseIpAddress (joinPort host (some port)) = some (host, some port) ↔
      host ≠ "" ∧ Bare port ∧ SplitsAt host (some port) := by
  unfold SplitsAt
  constructor
  -- what was read back tells which of the two scans has split the address
  · intro h
    have hport : Bare port := bare_port h port rfl
    split
    · next hbracket =>
      obtain ⟨field, rest, hfield, hnot, -, heq, -⟩ := parseIpAddress_bracket hbracket h
      refine ⟨?_, hport, field, hfield, hnot, heq⟩
      rintro rfl
      simp at heq
    · next hbracket =>
      obtain ⟨rest, hne, hnot, -⟩ := parseIpAddress_plain hbracket h
      refine ⟨?_, hport, hnot⟩
      rintro rfl
      exact hne rfl
  -- the same scan takes the host up to its own end, and the word after the colon is the port
  · rintro ⟨hne, hport, h⟩
    split at h
    · next hbracket =>
      obtain ⟨field, hfield, hnot, heq⟩ := h
      have hip : String.ofList field ++ "]" = host := by
        apply String.toList_inj.mp
        rw [heq]
        simp
      -- the bracket scan ends at the first ']' and is given it back
      have htext : field ++ [']'] ++ ':' :: port.toList = field ++ ']' :: ':' :: port.toList := by
        simp
      rw [parseIpAddress, if_pos hbracket, toList_joinPort, heq, Option.elim_some, htext, scanPair,
        scanUpTo_append hfield hnot]
      simp [scanLit, hip, scanWord_of_bare hport]
    · next hbracket =>
      have hlist : host.toList ≠ [] := by
        intro hnil
        exact hne (String.toList_inj.mp (by simpa using hnil))
      rw [parseIpAddress, if_neg hbracket, toList_joinPort, Option.elim_some, scanPair,
        scanUpTo_append hlist h]
      simp [scanLit, scanWord_of_bare hport]

/-- The password that is read: a text in its place, if there was one and the domain is found. -/
def passwordRead (info : DomainInfo) (dev : GraphicsDevice) : Option String :=
  if info.connect && info.lookup && dev.passwd.getD "" != "" then some "********" else none

/-- **The displays that come back.** The address of an SDL display is its type, which is read as
an authority; a console among the displays is not written, and only has to be read. -/
def GraphicsFits (info : DomainInfo) (dev : GraphicsDevice) : Prop :=
  if streqc (dev.type.getD "") "vnc" then
    (∃ host port, dev.host = some host ∧ dev.port = some port ∧ host ≠ "" ∧ Bare port ∧
      SplitsAt host (some port)) ∧ dev.keymap.isSome ∧ dev.passwd = passwordRead info dev
  else if streqc (dev.type.getD "") "sdl" then
    dev.display = none ∧ dev.xauth = dev.type ∧ dev.fullscreen = none
  else dev.type = some "console" ∧
    (parseConsoleAddress (formatStr dev.host ++ ":" ++ formatStr dev.port)).isSome

/-- The setting of a display. -/
abbrev graphicsSetting (info : DomainInfo) (pfx name : String) (id : Option String)
    (dev : GraphicsDevice) : Instance :=
  setGraphicsRasdParams info dev (settingBase pfx name .graphics id)

variable {info : DomainInfo} {pfx name : String} {id : Option String} {dev : GraphicsDevice}

/-- **The properties of a VNC display.** -/
theorem getStr_vncSetting {type : String} (htype : dev.type = some type)
    (hvnc : streqc type "vnc" = true) :
    (graphicsSetting info pfx name id dev).getStr "ResourceSubType" = some type ∧
      (graphicsSetting info pfx name id dev).getStr "Address" =
        some (formatStr dev.host ++ ":" ++ formatStr dev.port) ∧
      (graphicsSetting info pfx name id dev).getStr "KeyMap" = dev.keymap ∧
      (graphicsSetting info pfx name id dev).getStr "Password" = passwordRead info dev := by
  -- the two types exclude each other, so only the VNC branch of set_graphics_rasd_params is left
  have hsdl : streqc type "sdl" = false := by
    rw [streqc_congr hvnc]
    decide
  unfold graphicsSetting setGraphicsRasdParams passwordRead
  rw [htype]
  simp only [Option.getD_some, hvnc, hsdl, Bool.false_eq_true, if_true, if_false]
  refine ⟨getStr_of_get ?_, getStr_of_get ?_, getStr_of_get ?_, getStr_of_get ?_⟩
  · simp
  · simp
  · simp [get_settingBase]
  -- the password is written only where libvirt has shown one
  · cases hset : (info.connect && info.lookup && dev.passwd.getD "" != "") <;>
      simp [get_settingBase]

/-- The attributes of a VNC display are its fields. -/
theorem attr_vncXml {type port : String} (htype : dev.type = some type)
    (hvnc : streqc type "vnc" = true) (hport : dev.port = some port) :
    (graphicsVncXml dev).attr "port" = dev.port ∧ (graphicsVncXml dev).attr "listen" = dev.host ∧
      (graphicsVncXml dev).attr "passwd" = dev.passwd ∧
      (graphicsVncXml dev).attr "keymap" = dev.keymap := by
  have hsdl : streqc type "sdl" = false := by
    rw [streqc_congr hvnc]
    decide
  unfold graphicsVncXml
  rw [htype, hport]
  simp only [Option.getD_some, hsdl, Bool.false_eq_true, if_false, Node.attr_elem]
  refine ⟨?_, ?_, ?_, ?_⟩ <;> simp

/-- **A VNC display is written alike** if its fields are the same. -/
theorem vncXml_eq_iff {dev' : GraphicsDevice} {type port port' : String}
    (htype : dev.type = some type) (htype' : dev'.type = some type)
    (hvnc : streqc type "vnc" = true) (hport : dev.port = some port)
    (hport' : dev'.port = some port') :
    graphicsXmlOf dev' = graphicsXmlOf dev ↔ dev' = dev := by
  constructor
  · intro h
    unfold graphicsXmlOf at h
    rw [htype, htype', if_pos (.inl hvnc), if_pos (.inl hvnc)] at h
    -- every field of the device is an attribute of the node written for it
    have hnode : graphicsVncXml dev' = graphicsVncXml dev :=
      List.head_eq_of_cons_eq (Except.ok.inj h)
    obtain ⟨hp, hl, hw, hk⟩ := attr_vncXml htype hvnc hport
    obtain ⟨hp', hl', hw', hk'⟩ := attr_vncXml htype' hvnc hport'
    rw [hnode] at hp' hl' hw' hk'
    cases dev
    cases dev'
    simp only [GraphicsDevice.mk.injEq]
    exact ⟨htype'.trans htype.symm, hp'.symm.trans hp, hl'.symm.trans hl, hk'.symm.trans hk,
      hw'.symm.trans hw⟩
  · rintro rfl
    rfl

/-- An SDL display has its type for its address. -/
theorem getStr_sdlSetting {type : String} (htype : dev.type = some type)
    (hsdl : streqc type "sdl" = true) :
    (graphicsSetting info pfx name id dev).getStr "ResourceSubType" = some type ∧
      (graphicsSetting info pfx name id dev).getStr "Address" = some type ∧
      (graphicsSetting info pfx name id dev).getBool "IsIPV6Only" = none := by
  have hvnc : streqc type "vnc" = false := by
    rw [streqc_congr hsdl]
    decide
  unfold graphicsSetting setGraphicsRasdParams
  rw [htype]
  simp only [Option.getD_some, hvnc, hsdl, Bool.false_eq_true, if_true, if_false]
  refine ⟨getStr_of_get ?_, getStr_of_get ?_, ?_⟩
  · simp
  · simp
  · simp [Instance.getBool, get_settingBase]

/-- The type is all of an authority. -/
theorem parseSdlAddress_type {type : String} (h : streqc type "sdl" = true) :
    parseSdlAddress type = some (none, some type) := by
  have hnot : ':' ∉ type.toList := not_mem_of_streqc h (by decide)
  have hne : type.toList ≠ [] := by
    intro hnil
    have hlower : type.toList.map Char.toLower = "sdl".toList.map Char.toLower :=
      of_decide_eq_true h
    rw [hnil] at hlower
    exact absurd hlower (by decide)
  unfold parseSdlAddress scanPair
  rw [scanUpTo_of_not_mem hne hnot]
  simp [scanLit]

/-- **An SDL display is written alike** if its three fields are the same. -/
theorem sdlXml_eq_iff {dev' : GraphicsDevice} {type : String} (htype : dev.type = some type)
    (htype' : dev'.type = some type) (hsdl : streqc type "sdl" = true) :
    graphicsXmlOf dev' = graphicsXmlOf dev ↔ dev'.display = dev.display ∧ dev'.xauth = dev.xauth ∧
      dev'.fullscreen = dev.fullscreen := by
  -- for SDL the node is the type and three attributes, nothing of the port or host
  have hattr {d : GraphicsDevice} (h : d.type = some type) :
      graphicsXmlOf d = .ok [.elem "graphics" (prop "type" (some type) ++
        (optProp "display" d.display ++ optProp "xauth" d.xauth ++
          optProp "fullscreen" d.fullscreen)) []] := by
    unfold graphicsXmlOf graphicsVncXml
    rw [h]
    simp only [Option.getD_some, hsdl, if_true, or_true]
  rw [hattr htype, hattr htype']
  constructor
  · intro h
    have hnode := List.head_eq_of_cons_eq (Except.ok.inj h)
    refine ⟨?_, ?_, ?_⟩
    · simpa using congrArg (fun node => node.attr "display") hnode
    · simpa using congrArg (fun node => node.attr "xauth") hnode
    · simpa using congrArg (fun node => node.attr "fullscreen") hnode
  · rintro ⟨hdisplay, hxauth, hfullscreen⟩
    rw [hdisplay, hxauth, hfullscreen]

/-- **A display that is sent back.** Host and port travel as one address, which has to be cut
where it was joined (`parseIpAddress_join_iff`). A missing keymap is filled in, and a password is
shown by a placeholder or not at all. -/
theorem graphics_unmodified_iff (info : DomainInfo) (host : Host) (domtype : DomainType)
    (pfx name : String) {node : Node} {dev : VirtDevice GraphicsDevice}
    (hname : node.name ∈ xpathNames .graphics) (h : parseGraphicsDevice node = .ok dev) :
    Unmodified info host domtype pfx name .graphics dev ↔
      domtype ≠ .lxc ∧ GraphicsFits info dev.dev := by
  obtain ⟨hkind, type, -, hparsed⟩ := parseGraphicsDevice_ok h
  rw [unmodified_iff (rasdFromVdev_eq info pfx name hkind)]
  -- LXC has no graphics devices: process_other's table refuses every one of them
  by_cases hlxc : domtype = .lxc
  · rw [if_pos hlxc]
    exact iff_of_false not_exists_ok fun h => h.1 hlxc
  rw [if_neg hlxc, and_iff_right hlxc]
  change (∃ dev', graphicsRasdToVdev (graphicsSetting info pfx name dev.id dev.dev) dev = .ok dev' ∧
    graphicsXmlOf dev'.dev = graphicsXmlOf dev.dev) ↔ _
  unfold GraphicsFits graphicsRasdToVdev
  -- vnc, sdl or the console that stands for a pty
  obtain ⟨hvnc, htype, hhost, hport, -⟩ | ⟨hsdl, htype, -⟩ | ⟨hpty, htype, -⟩ := hparsed
  · obtain ⟨ip, hhost⟩ := Option.isSome_iff_exists.mp hhost
    obtain ⟨port, hport⟩ := Option.isSome_iff_exists.mp hport
    obtain ⟨hsub, haddress, hkeymap, hpasswd⟩ :=
      @getStr_vncSetting info pfx name dev.id _ _ htype hvnc
    -- the address written is the join that parse_ip_address splits
    have htext : formatStr (some ip) ++ ":" ++ formatStr (some port) = joinPort ip (some port) := by
      apply String.toList_inj.mp
      rw [toList_joinPort]
      simp [formatStr]
    -- a missing keymap comes back as the "en-us" the translator puts in its place
    have hfits : dev.dev.keymap.isSome ↔ some (dev.dev.keymap.getD "en-us") = dev.dev.keymap := by
      cases dev.dev.keymap <;> simp
    have hfirst : (∃ host port, dev.dev.host = some host ∧ dev.dev.port = some port ∧ host ≠ "" ∧
        Bare port ∧ SplitsAt host (some port)) ↔
        parseIpAddress (joinPort ip (some port)) = some (ip, some port) := by
      rw [parseIpAddress_join_iff, hhost, hport]
      simp
    rw [hsub, htype]
    simp only [Option.getD_some, hvnc, if_true]
    rw [hfirst, hfits]
    unfold graphicsOfRasd
    rw [if_pos hvnc, haddress, hkeymap, hpasswd, hhost, hport, htext]
    dsimp only [Option.getD_some]
    -- the rest of the device is given by its type, so the fields of VNC are all there is
    have hdev : dev.dev = GraphicsDevice.mk (some type) (some port) (some ip) dev.dev.keymap
        dev.dev.passwd := by
      rw [← htype, ← hport, ← hhost]
    cases hparse : parseIpAddress (joinPort ip (some port)) with
    | none => exact iff_of_false not_exists_ok (by simp)
    | some parts =>
      obtain ⟨ip', port'⟩ := parts
      cases port' with
      | none => exact iff_of_false not_exists_ok (by simp)
      | some port' =>
        dsimp only [bind, Except.bind]
        rw [exists_ok_iff, vncXml_eq_iff htype rfl hvnc hport rfl, hdev]
        simp only [GraphicsDevice.mk.injEq, Option.some.injEq, Prod.mk.injEq, true_and]
        constructor
        · rintro ⟨hp, hh, hk, hw⟩
          exact ⟨⟨hh, hp⟩, hk, hw.symm⟩
        · rintro ⟨⟨hh, hp⟩, hk, hw⟩
          exact ⟨hp, hh, hk, hw.symm⟩
  -- SDL writes the placeholder address, and three fields without a place in it decide
  · obtain ⟨hsub, haddress, hbool⟩ := @getStr_sdlSetting info pfx name dev.id _ _ htype hsdl
    have hvnc : streqc type "vnc" = false := by
      rw [streqc_congr hsdl]
      decide
    have hconsole : (streqc type "console" || streqc type "serial") = false := by
      rw [streqc_congr hsdl, streqc_congr hsdl]
      decide
    rw [hsub, htype]
    simp only [Option.getD_some, hvnc, hsdl, Bool.false_eq_true, if_false, if_true]
    unfold graphicsOfRasd
    rw [if_neg (by simp [hvnc]), if_neg (by simp [hconsole]), if_pos hsdl, haddress, hbool]
    -- graphics_rasd_to_vdev takes the three attributes from the address alone
    dsimp only
    rw [parseSdlAddress_type hsdl]
    dsimp only [bind, Except.bind]
    rw [exists_ok_iff, sdlXml_eq_iff htype rfl hsdl]
    simp only [eq_comm, Option.map_none]
  · -- the type is the name of the element
    have hsub : (graphicsSetting info pfx name dev.id dev.dev).getStr "ResourceSubType" =
        dev.dev.type := by
      refine getStr_of_get ?_
      unfold graphicsSetting setGraphicsRasdParams
      dsimp only
      split <;> simp [get_settingBase]
    rw [hsub, htype]
    -- a pty's type is "console" or "graphics"; only the former is known to graphics_rasd_to_vdev
    obtain hgraphics | hconsole : node.name = "graphics" ∨ node.name = "console" := by
      simpa [xpathNames] using hname
    · rw [hgraphics]
      refine iff_of_false ?_ (by simp [streqc])
      rintro ⟨dev', hread, -⟩
      cases hread
    · have haddress : (graphicsSetting info pfx name dev.id dev.dev).getStr "Address" =
          some (formatStr dev.dev.host ++ ":" ++ formatStr dev.dev.port) := by
        refine getStr_of_get ?_
        unfold graphicsSetting setGraphicsRasdParams
        rw [htype, hconsole]
        simp [streqc]
      -- graphics_xml skips the type "console", so every such device has the same empty XML
      have hxml (gdev : GraphicsDevice) (h : gdev.type = some "console") :
          graphicsXmlOf gdev = .ok [] := by
        unfold graphicsXmlOf
        rw [h]
        exact if_neg (by decide)
      have hvnc : streqc "console" "vnc" = false := by decide
      have hsdl : streqc "console" "sdl" = false := by decide
      rw [hconsole] at htype ⊢
      simp only [Option.getD_some, hvnc, hsdl, Bool.false_eq_true, if_false, true_and]
      unfold graphicsOfRasd
      rw [if_neg (by decide), if_pos (by decide), haddress, hxml dev.dev htype]
      dsimp only [Option.getD_some]
      cases parseConsoleAddress (formatStr dev.dev.host ++ ":" ++ formatStr dev.dev.port) with
      | none => exact iff_of_false not_exists_ok (by simp)
      | some found => exact iff_of_true ⟨_, rfl, hxml _ rfl⟩ rfl

/-- A display with a keymap. -/
def keyedDisplay : Node :=
  .elem "graphics" [("type", "vnc"), ("port", "5901"), ("listen", "0.0.0.0"), ("keymap", "de")] []

theorem graphics_unmodified_keyed : Unmodified quietInfo quietHost .kvm "KVM" "guest" .graphics
    { type := .graphics
      dev := { type := some "vnc", port := some "5901", host := some "0.0.0.0"
               keymap := some "de" }
      id := some "vnc" } := by
  -- the parser reads the keymap that the node carries
  have h : parseGraphicsDevice keyedDisplay = .ok
      { type := .graphics
        dev := { type := some "vnc", port := some "5901", host := some "0.0.0.0"
                 keymap := some "de" }
        id := some "vnc" } := by
    rfl
  have hsplit : SplitsAt "0.0.0.0" (some "5901") := by
    rw [SplitsAt, if_neg (by decide)]
    decide
  exact (graphics_unmodified_iff quietInfo quietHost .kvm "KVM" "guest" (by decide) h).mpr
    ⟨by decide, ⟨"0.0.0.0", "5901", rfl, rfl, by decide, by decide, hsplit⟩, rfl, rfl⟩

end Graphics

/-! ### A host and its service in a URL -/

section Url

variable {host : String} {service : Option String}

/-- The text before the first blank. -/
def leadingWord (text : String) : String :=
  String.ofList (text.toList.takeWhile fun c => !isSpace c)

theorem isSpace_leadingWord (text : String) :
    ∀ c ∈ (leadingWord text).toList, isSpace c = false := by
  intro c hc
  rw [leadingWord, String.toList_ofList] at hc
  simpa using List.mem_takeWhile_imp hc

/-- A word is read up to the first blank behind it. -/
theorem scanWord_joinPort (hhost : Bare host) (service : Option String) :
    scanWord (joinPort host service).toList = some (joinPort host (service.map leadingWord)) := by
  have hne := toList_ne_nil_of_bare hhost
  -- the host has no space, so the word goes on into the service up to its first space
  have hall : ∀ c ∈ host.toList, (!isSpace c) = true := fun c hc => by simp [hhost.2 c hc]
  have hdrop (rest : List Char) : (host.toList ++ rest).dropWhile isSpace =
      host.toList ++ rest := by
    cases hlist : host.toList with
    | nil => exact absurd hlist hne
    | cons c cs =>
      rw [List.cons_append]
      exact List.dropWhile_cons_of_neg (by simp [hhost.2 c (by simp [hlist])])
  have htake (rest : List Char) : (host.toList ++ rest).takeWhile (fun c => !isSpace c) =
      host.toList ++ rest.takeWhile (fun c => !isSpace c) := List.takeWhile_append_of_pos hall
  unfold scanWord
  rw [toList_joinPort, hdrop, htake]
  dsimp only
  rw [if_neg (by simp [hne])]
  refine congrArg some (String.toList_inj.mp ?_)
  rw [String.toList_ofList, toList_joinPort]
  cases service with
  | none => rfl
  | some s => simp [leadingWord, isSpace]

/-- A text without blanks is a word, if there is anything. -/
theorem scanWord_of_not_isSpace {text : String} (h : ∀ c ∈ text.toList, isSpace c = false) :
    scanWord text.toList = (some text).filter (· ≠ "") := by
  by_cases hempty : text = ""
  · rw [hempty]
    rfl
  · rw [scanWord_of_bare ⟨hempty, h⟩]
    simp [Option.filter, hempty]

/-- **A host and a word behind it**, which may be empty. -/
theorem parseIpAddress_word_iff {port : Option String} (hhost : Bare host)
    (hservice : ∀ word ∈ service, ∀ c ∈ word.toList, isSpace c = false) :
    parseIpAddress (joinPort host service) = some (host, port) ↔
      SplitsAt host service ∧ port = service.bind fun word => (some word).filter (· ≠ "") := by
  -- what scanf makes of a colon and nothing after it is no port at all
  have hne := toList_ne_nil_of_bare hhost
  have hsplits (h : SplitsAt host service) : parseIpAddress (joinPort host service) =
      some (host, service.bind fun word => (some word).filter (· ≠ "")) := by
    unfold SplitsAt at h
    -- bracketed hosts are scanned with another format than the plain ones
    split at h
    · next hbracket =>
      obtain ⟨field, hfield, hnot, heq⟩ := h
      have hip : String.ofList field ++ "]" = host := by
        apply String.toList_inj.mp
        rw [heq]
        simp
      have htext : field ++ [']'] ++ (service.elim [] fun port => ':' :: port.toList) =
          field ++ ']' :: (service.elim [] fun port => ':' :: port.toList) := by simp
      rw [parseIpAddress, if_pos hbracket, toList_joinPort, heq, htext, scanPair,
        scanUpTo_append hfield hnot]
      cases service with
      | none => simp [scanLit, hip]
      | some word =>
        rw [Option.bind_some, ← scanWord_of_not_isSpace (hservice word rfl)]
        simp [scanLit, hip]
    -- without a bracket the host ends at the first colon
    · next hbracket =>
      rw [parseIpAddress, if_neg hbracket, toList_joinPort, scanPair]
      cases service with
      | none =>
        rw [Option.elim_none, List.append_nil, scanUpTo_of_not_mem hne h]
        simp [scanLit]
      | some word =>
        rw [Option.elim_some, scanUpTo_append hne h, Option.bind_some,
          ← scanWord_of_not_isSpace (hservice word rfl)]
        simp [scanLit]
  constructor
  · intro h
    -- the scan that succeeded tells where the host has ended
    have hsplit : SplitsAt host service := by
      unfold SplitsAt
      split
      · next hbracket =>
        obtain ⟨field, rest, hfield, hnot, -, heq, -⟩ := parseIpAddress_bracket hbracket h
        exact ⟨field, hfield, hnot, heq⟩
      · next hbracket => exact (parseIpAddress_plain hbracket h).choose_spec.2.1
    rw [hsplits hsplit] at h
    exact ⟨hsplit, (Prod.mk.inj (Option.some.inj h)).2.symm⟩
  · rintro ⟨hsplit, rfl⟩
    exact hsplits hsplit

/-- A host and a service that are kept when they are read off their URL: what is not found of a
service is left as it is. -/
def HostKept (host : String) (service : Option String) : Prop :=
  ':' ∉ host.toList ∧ Bare host ∧ SplitsAt host (service.map leadingWord) ∧
    ∀ s ∈ service, leadingWord s = s ∨ leadingWord s = ""

/-- **When a host and a service are kept.** -/
theorem readKept_iff {protocol protocol' : String} (hfile : streqc "file" protocol = false)
    (hne : protocol.toList ≠ []) (hnot : ':' ∉ protocol.toList) :
    (∃ url port, buildConsoleUrl (some protocol) (some host) service = some url ∧
        parseConsoleUrl url = some (protocol', host, port) ∧ port.or service = service) ↔
      protocol' = protocol ∧ HostKept host service := by
  -- the words in a URL are without spaces: build_console_url cuts the service there
  have hwords : ∀ word ∈ service.map leadingWord, ∀ c ∈ word.toList, isSpace c = false := by
    intro word hword
    obtain ⟨s, -, rfl⟩ := Option.map_eq_some_iff.mp hword
    exact isSpace_leadingWord s
  -- parse_console_url's port is only stored when there is one, else the old service stays
  have hkeep : ((service.map leadingWord).bind fun word => (some word).filter (· ≠ "")).or service =
      service ↔ ∀ s ∈ service, leadingWord s = s ∨ leadingWord s = "" := by
    cases service with
    | none => simp
    | some s =>
      by_cases hempty : leadingWord s = ""
      · simp [hempty, Option.filter]
      · simp [hempty, Option.filter]
  rw [buildConsoleUrl_other hfile]
  unfold HostKept
  constructor
  -- a URL is only built for a host without ':', and read back by the two scans
  · rintro ⟨url, port, hbuilt, hparse, hkept⟩
    obtain ⟨hcolon, hbuilt⟩ := Option.ite_none_left_eq_some.mp hbuilt
    obtain rfl := Option.some.inj hbuilt
    obtain ⟨address, hparts, haddress⟩ := parseConsoleUrl_iff.mp hparse
    have hhost : Bare host := bare_host (urlParts_spec hparts).2.2 haddress
    rw [urlParts_append hne hnot, scanWord_joinPort hhost] at hparts
    obtain ⟨rfl, rfl⟩ := Prod.mk.inj (Option.some.inj hparts)
    obtain ⟨hsplit, rfl⟩ := (parseIpAddress_word_iff hhost hwords).mp haddress
    exact ⟨rfl, hcolon, hhost, hsplit, hkeep.mp hkept⟩
  -- the same equations read the other way
  · rintro ⟨rfl, hcolon, hhost, hsplit, hkept⟩
    refine ⟨_, _, if_neg hcolon, parseConsoleUrl_iff.mpr ⟨_, ?_,
      (parseIpAddress_word_iff hhost hwords).mpr ⟨hsplit, rfl⟩⟩, hkeep.mpr hkept⟩
    rw [urlParts_append hne hnot, scanWord_joinPort hhost]
    rfl

end Url

/-! ### Consoles -/

section Console

/-- **The sources that are kept.** -/
def SourceKept (sd : SourceDev) : ChardevSourceType → Prop
  | .null | .vc | .stdio | .spicevmc | .pty => True
  | .dev | .file | .pipe => sd.path.isSome
  | .unixsock => ModeFits sd.unixsockMode ∧
      ∃ path, sd.path = some path ∧ path.toList.head? = some '/' ∧ Bare path ∧ SplitsAt path none
  | .udp => ∃ bind connect, sd.udpBindHost = some bind ∧ sd.udpConnectHost = some connect ∧
      HostKept bind sd.udpBindService ∧ HostKept connect sd.udpConnectService
  | .tcp => ModeFits sd.tcpMode ∧ ∃ protocol host service, sd.tcpProtocol = some protocol ∧
      sd.tcpHost = some host ∧ sd.tcpService = some service ∧
      protocol.toList ≠ [] ∧ ':' ∉ protocol.toList ∧ streqc "udp" protocol = false ∧
      streqc "file" protocol = false ∧ HostKept host (some service)

variable {inst : Instance} {sd : SourceDev}

/-- A UNIX domain socket is read whatever was there. -/
theorem unixsock_over (inst : Instance) (sd : SourceDev) :
    unixsockConsoleRasdToVdev inst sd = (unixsockConsoleRasdToVdev inst {}).map fun read =>
      { sd with slot0 := read.path, slot1 := read.unixsockMode } := by
  unfold unixsockConsoleRasdToVdev
  -- only the mode and the path are set, whatever the other members of the union were
  cases urlOfRasd inst
    "ConsoleRASD: Only one of ConnectURL or BindURL is allowed for UNIX domain sockets."
    "ConsoleRASD: ConnectURL or BindURL not specified for UNIX domain socket client/server." with
  | error e => rfl
  | ok found =>
    obtain ⟨mode, url⟩ := found
    dsimp only [bind, Except.bind]
    cases parseConsoleUrl url with
    | none => rfl
    | some parts =>
      obtain ⟨protocol, path, port⟩ := parts
      dsimp only
      split <;> rfl

theorem unixsock_kept_iff (h : NoSource inst) :
    (∃ sd', unixsockConsoleRasdToVdev
        (setConsoleUrl sd.unixsockMode (buildConsoleUrl (some "file") sd.path none) inst) sd =
        .ok sd' ∧ SameSource .unixsock sd' sd) ↔ SourceKept sd .unixsock := by
  refine Iff.trans ?_ (unixsock_readsBack_iff h)
  rw [unixsock_over]
  constructor
  · rintro ⟨sd', hread, hpath, hmode⟩
    obtain ⟨read, hfirst, rfl⟩ := map_eq_ok hread
    exact ⟨read, hfirst, hpath, hmode⟩
  · rintro ⟨read, hread, hpath, hmode⟩
    rw [hread]
    exact ⟨_, rfl, hpath, hmode⟩

/-- Both ends of a UDP socket are found. -/
theorem getStr_udpUrls (h : NoSource inst) (bind connect : Option String) :
    ((inst.setChars "BindURL" bind).setChars "ConnectURL" connect).getStr "ConnectURL" = connect ∧
      ((inst.setChars "BindURL" bind).setChars "ConnectURL" connect).getStr "BindURL" = bind := by
  refine ⟨getStr_setChars_self ?_, ?_⟩
  · rw [getStr_setChars, if_neg (by decide), h.connect]
  · rw [getStr_setChars, if_neg (by decide), getStr_setChars_self h.bind]

/-- **A UDP socket that is sent back.** -/
theorem udp_kept_iff (h : NoSource inst) :
    (∃ sd', udpConsoleRasdToVdev
        ((inst.setChars "BindURL" (buildConsoleUrl (some "udp") sd.udpBindHost
          sd.udpBindService)).setChars "ConnectURL"
            (buildConsoleUrl (some "udp") sd.udpConnectHost sd.udpConnectService)) sd = .ok sd' ∧
        SameSource .udp sd' sd) ↔ SourceKept sd .udp := by
  -- bind and connect are two URLs, read one after the other by the same function
  obtain ⟨hconnect, hbind⟩ := getStr_udpUrls h (buildConsoleUrl (some "udp") sd.udpBindHost
    sd.udpBindService) (buildConsoleUrl (some "udp") sd.udpConnectHost sd.udpConnectService)
  unfold udpConsoleRasdToVdev SourceKept
  rw [hconnect, hbind]
  constructor
  -- every refusal of the reader is excluded by its success
  · rintro ⟨sd', hread, hbindHost, hbindService, hconnectHost, hconnectService⟩
    split at hread
    · cases hread
    next url hurl =>
    split at hread
    · cases hread
    next protocol connectHost connectService hparse =>
    split_ifs at hread
    split at hread
    · cases hread
    next url' hurl' =>
    split at hread
    · cases hread
    next protocol' bindHost bindService hparse' =>
    split_ifs at hread
    cases hread
    have hbindHost : some bindHost = sd.udpBindHost := hbindHost
    have hconnectHost : some connectHost = sd.udpConnectHost := hconnectHost
    -- the hosts read are the ones written, so each URL is the one built from the device
    rw [← hconnectHost] at hurl
    rw [← hbindHost] at hurl'
    exact ⟨bindHost, connectHost, hbindHost.symm, hconnectHost.symm,
      ((readKept_iff rfl (by decide) (by decide)).mp ⟨url', _, hurl', hparse', hbindService⟩).2,
      ((readKept_iff rfl (by decide) (by decide)).mp ⟨url, _, hurl, hparse, hconnectService⟩).2⟩
  · rintro ⟨bindHost, connectHost, hbindHost, hconnectHost, hbindKept, hconnectKept⟩
    -- either URL is read back as soon as its host and service are kept
    have hwritten {host : String} {service : Option String} (hkept : HostKept host service) :
        ∃ url port, buildConsoleUrl (some "udp") (some host) service = some url ∧
          parseConsoleUrl url = some ("udp", host, port) ∧ port.or service = service :=
      (readKept_iff rfl (by decide) (by decide)).mpr ⟨rfl, hkept⟩
    obtain ⟨url, port, hurl, hparse, hport⟩ := hwritten hconnectKept
    obtain ⟨url', port', hurl', hparse', hport'⟩ := hwritten hbindKept
    rw [hbindHost, hconnectHost, hurl, hurl']
    dsimp only
    rw [hparse]
    dsimp only
    rw [hparse']
    exact ⟨_, rfl, hbindHost.symm, hport', hconnectHost.symm, hport⟩

/-- **A TCP socket that is sent back.** -/
theorem tcp_kept_iff (h : NoSource inst) :
    (∃ sd', tcpConsoleRasdToVdev
        (setConsoleUrl sd.tcpMode (buildConsoleUrl sd.tcpProtocol sd.tcpHost sd.tcpService) inst)
          sd = .ok sd' ∧ SameSource .tcp sd' sd) ↔ SourceKept sd .tcp := by
  unfold tcpConsoleRasdToVdev SourceKept
  constructor
  -- the reader refuses a missing service, the protocol "udp" and the protocol "file"
  · rintro ⟨sd', hread, hmode, hprotocol, hhost, hservice⟩
    obtain ⟨⟨mode', url'⟩, hurl, hread⟩ := bind_eq_ok hread
    obtain ⟨hbuilt, hgiven⟩ := (urlOfRasd_setConsoleUrl_eq_ok h).mp hurl
    dsimp only at hread
    split at hread
    · cases hread
    next protocol host port hparse =>
    split_ifs at hread with hnone hudp hfile
    cases hread
    have hservice : port.or sd.tcpService = sd.tcpService := hservice
    have hprotocol : some protocol = sd.tcpProtocol := hprotocol
    have hhost : some host = sd.tcpHost := hhost
    -- a service is given, since the port read is never absent
    obtain ⟨service, hgivenService⟩ : ∃ service, sd.tcpService = some service := by
      refine Option.ne_none_iff_exists'.mp fun hnot => hnone ?_
      rw [hservice, hnot]
    rw [← hprotocol, ← hhost, hgivenService] at hbuilt
    rw [hgivenService] at hservice
    have hfile : streqc "file" protocol = false := Bool.eq_false_iff.mpr hfile
    obtain ⟨hne, hnot⟩ : protocol.toList ≠ [] ∧ ':' ∉ protocol.toList := by
      obtain ⟨address, hparts, -⟩ := parseConsoleUrl_iff.mp hparse
      obtain ⟨hne, hnot, -⟩ := urlParts_spec hparts
      exact ⟨hne, hnot⟩
    exact ⟨(mode_of_mode.mp ⟨hgiven, hmode⟩).1, protocol, host, service, hprotocol.symm, hhost.symm,
      hgivenService, hne, hnot, Bool.eq_false_iff.mpr hudp, hfile,
      ((readKept_iff hfile hne hnot).mp ⟨url', port, hbuilt, hparse, hservice⟩).2⟩
  -- with these conditions the URL is built, read, and passes every check of the reader
  · rintro ⟨hfits, protocol, host, service, hprotocol, hhost, hservice, hne, hnot, hudp, hfile,
      hkept⟩
    obtain ⟨mode', hmode⟩ : ∃ mode', sd.tcpMode = some mode' := by
      obtain h | h := hfits
      · exact ⟨_, h⟩
      · exact ⟨_, h⟩
    obtain ⟨url', port, hbuilt, hparse, hport⟩ := (readKept_iff hfile hne hnot).mpr ⟨rfl, hkept⟩
    rw [← hprotocol, ← hhost, ← hservice] at hbuilt
    refine ⟨{ slot0 := some mode', slot1 := some protocol, slot2 := some host
              slot3 := some service },
      ?_, hmode.symm, hprotocol.symm, hhost.symm, hservice.symm⟩
    rw [(urlOfRasd_setConsoleUrl_eq_ok h).mpr ⟨hbuilt, (mode_of_mode.mpr ⟨hfits, hmode⟩).1⟩]
    dsimp only [bind, Except.bind]
    rw [hparse]
    dsimp only
    rw [hservice, hport, if_neg (by simp), hudp, hfile]
    rfl

/-- **A source of any type that is sent back.** -/
theorem source_kept_iff (h : NoSource inst) (cdev : ConsoleDevice) :
    (∃ sd', consoleSourceOfRasd (setConsoleRasdParams cdev inst) cdev.sourceType cdev.sourceDev =
        .ok sd' ∧ SameSource cdev.sourceType sd' cdev.sourceDev) ↔
      SourceKept cdev.sourceDev cdev.sourceType := by
  have hno := h.withType cdev
  -- four of the source types are only a path, written and read under one property
  have hpath (msg : String) (sd : SourceDev) (inst : Instance) (h : NoSource inst) :
      (∃ sd', pathOfRasd (inst.setChars "SourcePath" sd.path) sd msg = .ok sd' ∧
        sd'.path = sd.path) ↔ sd.path.isSome := by
    unfold pathOfRasd
    rw [getStr_setChars_self h.path]
    cases hpath : sd.path with
    | none => simp
    | some path => exact iff_of_true ⟨_, rfl, rfl⟩ rfl
  -- one case for each source type the translator knows
  unfold setConsoleRasdParams
  obtain ⟨sourceType, sd, targetType⟩ := cdev
  cases sourceType with
  | null | vc | stdio | spicevmc => exact iff_of_true ⟨_, rfl, trivial⟩ trivial
  | pty =>
    -- for a pty a missing path is no error: the device keeps the one it has
    refine iff_of_true ⟨_, rfl, ?_⟩ trivial
    change (Instance.getStr _ _).or sd.path = sd.path
    rw [getStr_setChars_self hno.path]
    cases sd.path <;> rfl
  | dev => exact hpath _ sd _ hno
  | file => exact hpath _ sd _ hno
  | pipe => exact hpath _ sd _ hno
  | unixsock => exact unixsock_kept_iff hno
  | udp => exact udp_kept_iff hno
  | tcp => exact tcp_kept_iff hno

/-- The fields that are written with an empty text in their place are there. -/
def Given (sd : SourceDev) : ChardevSourceType → Prop
  | .null | .vc | .stdio | .spicevmc | .pty => True
  | .dev | .file | .pipe => sd.path.isSome
  | .unixsock => sd.unixsockMode.isSome ∧ sd.path.isSome
  | .udp => sd.udpBindHost.isSome ∧ sd.udpConnectHost.isSome
  | .tcp => sd.tcpMode.isSome ∧ sd.tcpHost.isSome

theorem getD_inj {a b : Option String} (ha : a.isSome) (hb : b.isSome) (h : a.getD "" = b.getD "") :
    a = b := by
  obtain ⟨x, rfl⟩ := Option.isSome_iff_exists.mp ha
  obtain ⟨y, rfl⟩ := Option.isSome_iff_exists.mp hb
  exact congrArg some h

/-- **Two sources are written alike** when they are the same. -/
theorem consoleSourceXml_eq_iff {type : ChardevSourceType} {sd sd' : SourceDev}
    {target target' : Option String} (h : Given sd type) (h' : Given sd' type) :
    consoleSourceXml { sourceType := type, sourceDev := sd', targetType := target' } =
        consoleSourceXml { sourceType := type, sourceDev := sd, targetType := target } ↔
      SameSource type sd' sd := by
  unfold consoleSourceXml SameSource
  cases type with
  -- these sources write no element and no attribute
  | null | vc | stdio | spicevmc => simp
  | pty =>
    constructor
    · exact optChild_inj
    · intro heq
      dsimp only
      rw [heq]
  -- a path stands in the only attribute
  | dev | file | pipe =>
    constructor
    · intro heq
      refine getD_inj h' h ?_
      simpa [prop] using heq
    · intro heq
      dsimp only
      rw [heq]
  | unixsock =>
    constructor
    -- two attributes of one element
    · intro heq
      simp only [prop, List.cons.injEq, Node.elem.injEq, List.cons_append, List.nil_append,
        Prod.mk.injEq, and_true, true_and] at heq
      exact ⟨getD_inj h'.2 h.2 heq.2, getD_inj h'.1 h.1 heq.1⟩
    · rintro ⟨hpath, hmode⟩
      dsimp only
      rw [hpath, hmode]
  | udp =>
    constructor
    -- two source elements, the first bound and the second connected
    · intro heq
      obtain ⟨hbind, hrest⟩ := List.cons.inj heq
      have hconnect := List.head_eq_of_cons_eq hrest
      refine ⟨getD_inj h'.1 h.1 ?_, ?_, getD_inj h'.2 h.2 ?_, ?_⟩
      · simpa using congrArg (fun node => node.attr "host") hbind
      · simpa using congrArg (fun node => node.attr "service") hbind
      · simpa using congrArg (fun node => node.attr "host") hconnect
      · simpa using congrArg (fun node => node.attr "service") hconnect
    · rintro ⟨hbindHost, hbindService, hconnectHost, hconnectService⟩
      dsimp only
      rw [hbindHost, hbindService, hconnectHost, hconnectService]
  | tcp =>
    constructor
    -- a source element and a protocol element that is left out when absent
    · intro heq
      obtain ⟨hsource, hrest⟩ := List.cons.inj heq
      refine ⟨getD_inj h'.1 h.1 ?_, optChild_inj hrest, getD_inj h'.2 h.2 ?_, ?_⟩
      · simpa using congrArg (fun node => node.attr "mode") hsource
      · simpa using congrArg (fun node => node.attr "host") hsource
      · simpa using congrArg (fun node => node.attr "service") hsource
    · rintro ⟨hmode, hprotocol, hhost, hservice⟩
      dsimp only
      rw [hmode, hprotocol, hhost, hservice]

/-- A URL has a host. -/
theorem isSome_of_buildConsoleUrl {protocol host port : Option String} {url : String}
    (h : buildConsoleUrl protocol host port = some url) : host.isSome := by
  cases host with
  | none => cases h
  | some host => rfl

/-- What is read has all the fields, and was written from them. -/
theorem given_of_read (h : NoSource inst) {cdev : ConsoleDevice} {sd' : SourceDev}
    (hread : consoleSourceOfRasd (setConsoleRasdParams cdev inst) cdev.sourceType cdev.sourceDev =
      .ok sd') : Given cdev.sourceDev cdev.sourceType ∧ Given sd' cdev.sourceType := by
  have hno := h.withType cdev
  -- for the path types the reader refuses a missing SourcePath
  have hpath {msg : String} {sd sd' : SourceDev} {inst : Instance} (h : NoSource inst)
      (hread : pathOfRasd (inst.setChars "SourcePath" sd.path) sd msg = .ok sd') :
      sd.path.isSome ∧ sd'.path.isSome := by
    unfold pathOfRasd at hread
    rw [getStr_setChars_self h.path] at hread
    split at hread
    · cases hread
    · next path hpath =>
      cases hread
      exact ⟨Option.isSome_iff_exists.mpr ⟨path, hpath⟩, rfl⟩
  unfold setConsoleRasdParams at hread
  obtain ⟨sourceType, sd, targetType⟩ := cdev
  cases sourceType with
  | null | vc | stdio | spicevmc | pty => exact ⟨trivial, trivial⟩
  | dev => exact hpath hno hread
  | file => exact hpath hno hread
  | pipe => exact hpath hno hread
  -- the URL exists only when the path did, and the mode is checked before it
  | unixsock =>
    obtain ⟨⟨mode', url'⟩, hurl, hread⟩ := bind_eq_ok hread
    obtain ⟨hbuilt, mode, hmode, -⟩ := (urlOfRasd_setConsoleUrl_eq_ok hno).mp hurl
    dsimp only at hread
    split at hread
    · cases hread
    split_ifs at hread
    cases hread
    exact ⟨⟨Option.isSome_iff_exists.mpr ⟨mode, hmode⟩, isSome_of_buildConsoleUrl hbuilt⟩, rfl, rfl⟩
  -- both URLs are looked at before either is read
  | udp =>
    obtain ⟨hconnect, hbind⟩ := getStr_udpUrls hno (buildConsoleUrl (some "udp") sd.udpBindHost
      sd.udpBindService) (buildConsoleUrl (some "udp") sd.udpConnectHost sd.udpConnectService)
    dsimp only [consoleSourceOfRasd] at hread
    unfold udpConsoleRasdToVdev at hread
    rw [hconnect, hbind] at hread
    split at hread
    · cases hread
    next url hurl =>
    split at hread
    · cases hread
    split_ifs at hread
    split at hread
    · cases hread
    next url' hurl' =>
    split at hread
    · cases hread
    split_ifs at hread
    cases hread
    exact ⟨⟨isSome_of_buildConsoleUrl hurl', isSome_of_buildConsoleUrl hurl⟩, rfl, rfl⟩
  | tcp =>
    obtain ⟨⟨mode', url'⟩, hurl, hread⟩ := bind_eq_ok hread
    obtain ⟨hbuilt, mode, hmode, -⟩ := (urlOfRasd_setConsoleUrl_eq_ok hno).mp hurl
    dsimp only at hread
    split at hread
    · cases hread
    split_ifs at hread
    cases hread
    exact ⟨⟨Option.isSome_iff_exists.mpr ⟨mode, hmode⟩, isSome_of_buildConsoleUrl hbuilt⟩, rfl, rfl⟩

/-- The target is read as it was, or left as it is. -/
theorem targetType_setConsoleRasdParams (cdev : ConsoleDevice)
    (h : inst.get "TargetType" = none) :
    ((setConsoleRasdParams cdev inst).getStr "TargetType").or cdev.targetType =
      cdev.targetType := by
  -- the URL attributes written after it leave TargetType as it is
  have hget : (setConsoleRasdParams cdev inst).get "TargetType" =
      cdev.targetType.map CmpiValue.string := by
    unfold setConsoleRasdParams
    cases cdev.sourceType with
    | null | vc | stdio | spicevmc => simp [h]
    | pty | dev | file | pipe | udp => simp [h]
    | unixsock =>
      dsimp only
      rw [get_setConsoleUrl _ _ _ (by decide) (by decide)]
      simp [h]
    | tcp =>
      dsimp only
      rw [get_setConsoleUrl _ _ _ (by decide) (by decide)]
      simp [h]
  rw [getStr_of_get hget]
  cases cdev.targetType <;> rfl

/-- **A console that is sent back.** The type and the target are properties of their own; the
source travels as a path or a URL, and `source_kept_iff` says for each type what of it is read
again. -/
theorem console_unmodified_iff (info : DomainInfo) (host : Host) (domtype : DomainType)
    (pfx name : String) {node : Node} {dev : VirtDevice ConsoleDevice}
    (h : parseConsoleDevice node = .ok dev) :
    Unmodified info host domtype pfx name .console dev ↔
      domtype ≠ .lxc ∧ SourceKept dev.dev.sourceDev dev.dev.sourceType := by
  have hbase : NoSource (settingBase pfx name .console dev.id) := ⟨rfl, rfl, rfl⟩
  rw [unmodified_iff (rasdFromVdev_eq info pfx name (type_of_parseConsoleDevice h))]
  by_cases hlxc : domtype = .lxc
  · rw [if_pos hlxc]
    exact iff_of_false not_exists_ok fun h => h.1 hlxc
  rw [if_neg hlxc, and_iff_right hlxc, ← source_kept_iff hbase]
  change (∃ dev', consoleRasdToVdev (setConsoleRasdParams dev.dev _) dev = .ok dev' ∧
    consoleXmlOf dev'.dev = consoleXmlOf dev.dev) ↔ _
  unfold consoleRasdToVdev
  rw [getU16_setConsoleRasdParams]
  dsimp only
  rw [lookup_chardevSourceTypeID, targetType_setConsoleRasdParams dev.dev
    (get_settingBase (by decide) (by decide))]
  dsimp only
  -- the XML of a console is that of its source and the target type, which stays
  have hxml (sd' : SourceDev) (hgiven : Given dev.dev.sourceDev dev.dev.sourceType)
      (hgiven' : Given sd' dev.dev.sourceType) :
      consoleXmlOf { dev.dev with sourceDev := sd' } = consoleXmlOf dev.dev ↔
        SameSource dev.dev.sourceType sd' dev.dev.sourceDev := by
    -- the address and target come back on their own, so the source decides
    rw [← @consoleSourceXml_eq_iff _ _ _ dev.dev.targetType dev.dev.targetType hgiven hgiven']
    unfold consoleXmlOf
    simp
  -- an accepted setting gives the reader all it needs to have been written
  constructor
  · rintro ⟨dev', hread, hsame⟩
    obtain ⟨sd', hsd', hread⟩ := bind_eq_ok hread
    cases hread
    obtain ⟨hgiven, hgiven'⟩ := given_of_read hbase hsd'
    exact ⟨sd', hsd', (hxml sd' hgiven hgiven').mp hsame⟩
  · rintro ⟨sd', hsd', hsame⟩
    obtain ⟨hgiven, hgiven'⟩ := given_of_read hbase hsd'
    rw [hsd']
    exact ⟨_, rfl, (hxml sd' hgiven hgiven').mpr hsame⟩

/-- A console that waits for a connection. -/
def waitingConsole : Node :=
  .elem "console" [("type", "tcp")]
    [.elem "source" [("mode", "bind"), ("host", "127.0.0.1"), ("service", "2445")] [],
      .elem "protocol" [("type", "telnet")] [], .elem "target" [("port", "0")] []]

theorem console_unmodified_waiting : Unmodified quietInfo quietHost .kvm "KVM" "guest" .console
    { type := .console
      dev := { sourceType := .tcp, sourceDev := ⟨"bind", "telnet", "127.0.0.1", "2445"⟩ }
      id := "charconsole:0" } := by
  have h : parseConsoleDevice waitingConsole = .ok
      { type := .console
        dev := { sourceType := .tcp, sourceDev := ⟨"bind", "telnet", "127.0.0.1", "2445"⟩ }
        id := "charconsole:0" } := by
    rfl
  have hsplit : SplitsAt "127.0.0.1" ((some "2445").map leadingWord) := by
    rw [SplitsAt, if_neg (by decide)]
    decide
  have hkept : HostKept "127.0.0.1" (some "2445") := by
    refine ⟨by decide, by decide, hsplit, fun s hs => .inl ?_⟩
    cases hs
    decide
  exact (console_unmodified_iff quietInfo quietHost .kvm "KVM" "guest" h).mpr
    ⟨by decide, .inl rfl, "telnet", "127.0.0.1", "2445", rfl, rfl, rfl, by decide, by decide,
      by decide, by decide, hkept⟩

end Console

end LibvirtCim.Rasd
