import LibvirtCim.Device.Duplicate
import LibvirtCim.Rasd.ConsoleUrl

/-!
# The source of a console in its setting

`rasd_from_vdev` writes the source of a console to its setting: a path as it is, a socket as a
URL. `readsBack_iff` says when `console_rasd_to_vdev` makes the same source of the setting.
-/

open Framework LibvirtCim.Device

namespace LibvirtCim.Rasd

/-- The setting of a console is read as one with the same source. It is read into a cleared
device, so nothing of the console itself is there to be found again. -/
def ReadsBack (info : DomainInfo) (pfx host : String) (dev : VirtDevice ConsoleDevice) : Prop :=
  ∃ inst dev', rasdFromVdev info pfx host .console dev = some inst ∧
    consoleRasdToVdev inst { dev := DevKind.console.zero } = .ok dev' ∧
    dev'.dev.sourceType = dev.dev.sourceType ∧
    SameSource dev.dev.sourceType dev'.dev.sourceDev dev.dev.sourceDev

/-- A host and a port that are read off their URL: both are words, the host has no colon, and a
bracket in them closes at its end. -/
def HostFits (host : String) (port : Option String) : Prop :=
  ':' ∉ host.toList ∧ Bare host ∧ (∀ q ∈ port, Bare q) ∧ SplitsAt host port

/-- The mode of a socket is one of the two that are read, in lower case. -/
def ModeFits (mode : Option String) : Prop :=
  mode = some "bind" ∨ mode = some "connect"

/-- **The sources that come back.** -/
def SourceFits (sd : SourceDev) : ChardevSourceType → Prop
  | .null | .vc | .stdio | .spicevmc | .pty => True
  | .dev | .file | .pipe => sd.path.isSome
  | .unixsock => ModeFits sd.unixsockMode ∧
      ∃ path, sd.path = some path ∧ path.toList.head? = some '/' ∧ Bare path ∧ SplitsAt path none
  | .udp => ∃ bind connect, sd.udpBindHost = some bind ∧ sd.udpConnectHost = some connect ∧
      HostFits bind sd.udpBindService ∧ HostFits connect sd.udpConnectService
  | .tcp => ModeFits sd.tcpMode ∧ ∃ protocol host service, sd.tcpProtocol = some protocol ∧
      sd.tcpHost = some host ∧ sd.tcpService = some service ∧
      protocol.toList ≠ [] ∧ ':' ∉ protocol.toList ∧ streqc "udp" protocol = false ∧
      streqc "file" protocol = false ∧ HostFits host (some service)

/-! ### The properties of a setting -/

section Setting

variable {inst : Instance} {sd : SourceDev} {mode url : Option String}

theorem getStr_setChars (inst : Instance) (name name' : String) (value : Option String) :
    (inst.setChars name value).getStr name' =
      if name' = name then value.or (inst.getStr name') else inst.getStr name' := by
  unfold Instance.getStr
  rw [Instance.get_setChars]
  by_cases hname : name' = name
  · rw [if_pos hname, if_pos hname]
    cases value <;> rfl
  · rw [if_neg hname, if_neg hname]

/-- A setting without a source. -/
structure NoSource (inst : Instance) : Prop where
  path : inst.getStr "SourcePath" = none
  connect : inst.getStr "ConnectURL" = none
  bind : inst.getStr "BindURL" = none

theorem lookup_chardevSourceTypeID (type : ChardevSourceType) :
    chardevSourceTypeOfID.lookup (chardevSourceTypeID type) = some type := by
  cases type <;> decide

/-- **The URL that is found** is that of its mode. -/
theorem urlOfRasd_setConsoleUrl_eq_ok (h : NoSource inst) {twice none_ mode' url' : String} :
    urlOfRasd (setConsoleUrl mode url inst) twice none_ = .ok (mode', url') ↔
      url = some url' ∧ ∃ m, mode = some m ∧
        if streqc m "bind" then mode' = "bind"
        else streqc m "connect" = true ∧ mode' = "connect" := by
  have hgiven (u given : String) : Except.ok (given, u) =
      (Except.ok (mode', url') : Except RasdError _) ↔
      some u = some url' ∧ mode' = given := by
    rw [Except.ok.injEq, Prod.mk.injEq, Option.some_inj, and_comm, @eq_comm _ given]
  -- the mode decides under which key the URL is, and each is looked up
  unfold urlOfRasd setConsoleUrl
  cases mode with
  | none => simp [h.connect, h.bind]
  | some m =>
    dsimp only
    split_ifs with hbind hconnect
    -- bind wins over connect, which is asked for second
    · simp only [getStr_setChars, h.connect, h.bind, Option.or_none]
      cases url with
      | none => simp
      | some u => simpa [hbind] using hgiven u "bind"
    · simp only [getStr_setChars, h.connect, h.bind, Option.or_none]
      cases url with
      | none => simp
      | some u => simpa [hbind, hconnect] using hgiven u "connect"
    · simp [h.connect, h.bind, hbind, hconnect]

/-- The mode that is read is the one that was written, for the two in lower case. -/
theorem mode_of_mode {mode' : String} :
    (∃ m, mode = some m ∧
        if streqc m "bind" then mode' = "bind" else streqc m "connect" = true ∧ mode' = "connect") ∧
      some mode' = mode ↔ ModeFits mode ∧ mode = some mode' := by
  unfold ModeFits
  constructor
  -- the mode that is read is the word itself, so the mode was one of the two words
  · rintro ⟨⟨m, rfl, hmode⟩, heq⟩
    obtain rfl := Option.some.inj heq
    split_ifs at hmode
    · exact ⟨.inl (congrArg some hmode), rfl⟩
    · exact ⟨.inr (congrArg some hmode.2), rfl⟩
  · rintro ⟨hfits, rfl⟩
    refine ⟨⟨mode', rfl, ?_⟩, rfl⟩
    obtain h | h := hfits
    · obtain rfl := Option.some.inj h
      rfl
    · obtain rfl := Option.some.inj h
      exact ⟨rfl, rfl⟩

/-! ### Sockets -/

/-- **A UNIX domain socket.** -/
theorem unixsock_readsBack_iff (h : NoSource inst) :
    (∃ sd', unixsockConsoleRasdToVdev
        (setConsoleUrl sd.unixsockMode (buildConsoleUrl (some "file") sd.path none) inst) {} =
        .ok sd' ∧ sd'.path = sd.path ∧ sd'.unixsockMode = sd.unixsockMode) ↔
      SourceFits sd .unixsock := by
  unfold unixsockConsoleRasdToVdev SourceFits
  -- read: the mode and the path have to pass through the URL
  constructor
  · rintro ⟨sd', hread, hpath, hmode⟩
    obtain ⟨⟨mode', url'⟩, hurl, hread⟩ := bind_eq_ok hread
    obtain ⟨hbuilt, hgiven⟩ := (urlOfRasd_setConsoleUrl_eq_ok h).mp hurl
    dsimp only at hread
    split at hread
    · cases hread
    next protocol path' port hparse =>
    split_ifs at hread with hfile
    cases hread
    have hfits := (mode_of_mode.mp ⟨hgiven, hmode⟩).1
    refine ⟨hfits, path', hpath.symm, ?_⟩
    rw [← hpath, buildConsoleUrl_file rfl] at hbuilt
    obtain rfl := Option.some.inj hbuilt
    obtain ⟨-, hslash, -, hbare, hsplit⟩ := parseConsoleUrl_path_iff.mp hparse
    exact ⟨hslash, hbare, hsplit⟩
  -- written: a path that starts with a slash is found again behind the scheme
  · rintro ⟨hfits, path, hpath, hslash, hbare, hsplit⟩
    obtain ⟨mode', hmode⟩ : ∃ mode', sd.unixsockMode = some mode' := by
      obtain h | h := hfits
      · exact ⟨_, h⟩
      · exact ⟨_, h⟩
    obtain ⟨url', hbuilt, hparse⟩ : ∃ url', buildConsoleUrl (some "file") sd.path none = some url' ∧
        parseConsoleUrl url' = some ("file", path, none) := by
      rw [hpath, buildConsoleUrl_file rfl]
      exact ⟨_, rfl, parseConsoleUrl_path_iff.mpr ⟨rfl, hslash, rfl, hbare, hsplit⟩⟩
    refine ⟨{ slot0 := some path, slot1 := some mode' }, ?_, hpath.symm, hmode.symm⟩
    rw [(urlOfRasd_setConsoleUrl_eq_ok h).mpr ⟨hbuilt, (mode_of_mode.mpr ⟨hfits, hmode⟩).1⟩]
    dsimp only [bind, Except.bind]
    rw [hparse]
    rfl

/-- **When a host and a port are read off their URL**, for a protocol that is none of a file. -/
theorem readHost_iff {protocol protocol' host : String} {port : Option String}
    (hfile : streqc "file" protocol = false) (hne : protocol.toList ≠ [])
    (hnot : ':' ∉ protocol.toList) :
    (∃ url, buildConsoleUrl (some protocol) (some host) port = some url ∧
        parseConsoleUrl url = some (protocol', host, port)) ↔
      protocol' = protocol ∧ HostFits host port := by
  -- a host with a colon has no URL
  rw [buildConsoleUrl_other hfile]
  unfold HostFits
  constructor
  · rintro ⟨url, hbuilt, hparse⟩
    obtain ⟨hcolon, hbuilt⟩ := Option.ite_none_left_eq_some.mp hbuilt
    obtain rfl := Option.some.inj hbuilt
    obtain ⟨rfl, -⟩ := parseConsoleUrl_append hne hnot hparse
    exact ⟨rfl, hcolon, (parseConsoleUrl_joined_iff.mp hparse).2.2⟩
  · rintro ⟨rfl, hcolon, hfits⟩
    exact ⟨_, if_neg hcolon, parseConsoleUrl_joined_iff.mpr ⟨hne, hnot, hfits⟩⟩

/-- A property that was set when there was none. -/
theorem getStr_setChars_self {name : String} {value : Option String}
    (h : inst.getStr name = none) : (inst.setChars name value).getStr name = value := by
  rw [getStr_setChars, if_pos rfl, h, Option.or_none]

/-- **A UDP socket.** -/
theorem udp_readsBack_iff (h : NoSource inst) :
    (∃ sd', udpConsoleRasdToVdev
        ((inst.setChars "BindURL" (buildConsoleUrl (some "udp") sd.udpBindHost
          sd.udpBindService)).setChars "ConnectURL"
            (buildConsoleUrl (some "udp") sd.udpConnectHost sd.udpConnectService)) {} = .ok sd' ∧
        SameSource .udp sd' sd) ↔ SourceFits sd .udp := by
  -- the two URLs are under two keys, so that each is found as it was set
  have hconnect : ((inst.setChars "BindURL" (buildConsoleUrl (some "udp") sd.udpBindHost
      sd.udpBindService)).setChars "ConnectURL" (buildConsoleUrl (some "udp") sd.udpConnectHost
        sd.udpConnectService)).getStr "ConnectURL" =
      buildConsoleUrl (some "udp") sd.udpConnectHost sd.udpConnectService := by
    refine getStr_setChars_self ?_
    rw [getStr_setChars, if_neg (by decide), h.connect]
  have hbind : ((inst.setChars "BindURL" (buildConsoleUrl (some "udp") sd.udpBindHost
      sd.udpBindService)).setChars "ConnectURL" (buildConsoleUrl (some "udp") sd.udpConnectHost
        sd.udpConnectService)).getStr "BindURL" =
      buildConsoleUrl (some "udp") sd.udpBindHost sd.udpBindService := by
    rw [getStr_setChars, if_neg (by decide), getStr_setChars_self h.bind]
  unfold udpConsoleRasdToVdev SourceFits
  rw [hconnect, hbind]
  -- both URLs are read, the connect host first
  constructor
  · rintro ⟨sd', hread, hbindHost, hbindService, hconnectHost, hconnectService⟩
    split at hread
    · cases hread
    next url hurl =>
    split at hread
    · cases hread
    next protocol connectHost connectService hparse =>
    split_ifs at hread
    split at hread
    · cases hread
    next url' hurl' =>
    split at hread
    · cases hread
    next protocol' bindHost bindService hparse' =>
    split_ifs at hread
    cases hread
    -- no service is kept in a source that is cleared
    have hbindPort : bindService = sd.udpBindService := Option.or_none.symm.trans hbindService
    have hconnectPort : connectService = sd.udpConnectService :=
      Option.or_none.symm.trans hconnectService
    rw [← hconnectHost, ← hconnectPort] at hurl
    rw [← hbindHost, ← hbindPort] at hurl'
    refine ⟨bindHost, connectHost, hbindHost.symm, hconnectHost.symm, ?_, ?_⟩
    · rw [← hbindPort]
      exact ((readHost_iff rfl (by decide) (by decide)).mp ⟨url', hurl', hparse'⟩).2
    · rw [← hconnectPort]
      exact ((readHost_iff rfl (by decide) (by decide)).mp ⟨url, hurl, hparse⟩).2
  -- each of the two hosts fits, so each URL is read as it was written
  · rintro ⟨bindHost, connectHost, hbindHost, hconnectHost, hbindFits, hconnectFits⟩
    have hwritten {host : String} {port : Option String} (hfits : HostFits host port) :
        ∃ url, buildConsoleUrl (some "udp") (some host) port = some url ∧
          parseConsoleUrl url = some ("udp", host, port) :=
      (readHost_iff rfl (by decide) (by decide)).mpr ⟨rfl, hfits⟩
    obtain ⟨url, hurl, hparse⟩ := hwritten hconnectFits
    obtain ⟨url', hurl', hparse'⟩ := hwritten hbindFits
    rw [hbindHost, hconnectHost, hurl, hurl']
    dsimp only
    rw [hparse]
    dsimp only
    rw [hparse']
    refine ⟨_, rfl, hbindHost.symm, ?_, hconnectHost.symm, ?_⟩
    · exact Option.or_none
    · exact Option.or_none

/-- **A TCP socket.** -/
theorem tcp_readsBack_iff (h : NoSource inst) :
    (∃ sd', tcpConsoleRasdToVdev
        (setConsoleUrl sd.tcpMode (buildConsoleUrl sd.tcpProtocol sd.tcpHost sd.tcpService) inst)
          {} = .ok sd' ∧ SameSource .tcp sd' sd) ↔ SourceFits sd .tcp := by
  -- the mode, then the URL with its protocol, host and service
  unfold tcpConsoleRasdToVdev SourceFits
  constructor
  · rintro ⟨sd', hread, hmode, hprotocol, hhost, hservice⟩
    obtain ⟨⟨mode', url'⟩, hurl, hread⟩ := bind_eq_ok hread
    obtain ⟨hbuilt, hgiven⟩ := (urlOfRasd_setConsoleUrl_eq_ok h).mp hurl
    dsimp only at hread
    split at hread
    · cases hread
    next protocol host port hparse =>
    -- the branches that refuse: no service, the protocol of another source, a path
    split_ifs at hread with hnone hudp hfile
    cases hread
    have hport : port = sd.tcpService := Option.or_none.symm.trans hservice
    obtain ⟨service, rfl⟩ : ∃ service, port = some service :=
      Option.ne_none_iff_exists'.mp fun hnot => hnone (by rw [hnot]; rfl)
    rw [← hprotocol, ← hhost, ← hport] at hbuilt
    have hfile : streqc "file" protocol = false := Bool.eq_false_iff.mpr hfile
    obtain ⟨hne, hnot, -⟩ : protocol.toList ≠ [] ∧ ':' ∉ protocol.toList ∧ True := by
      obtain ⟨address, hparts, -⟩ := parseConsoleUrl_iff.mp hparse
      obtain ⟨hne, hnot, -⟩ := urlParts_spec hparts
      exact ⟨hne, hnot, trivial⟩
    exact ⟨(mode_of_mode.mp ⟨hgiven, hmode⟩).1, protocol, host, service, hprotocol.symm, hhost.symm,
      hport.symm, hne, hnot, Bool.eq_false_iff.mpr hudp, hfile,
      ((readHost_iff hfile hne hnot).mp ⟨url', hbuilt, hparse⟩).2⟩
  -- the three parts are given, so the source is the one they were taken from
  · rintro ⟨hfits, protocol, host, service, hprotocol, hhost, hservice, hne, hnot, hudp, hfile,
      hwritten⟩
    obtain ⟨mode', hmode⟩ : ∃ mode', sd.tcpMode = some mode' := by
      obtain h | h := hfits
      · exact ⟨_, h⟩
      · exact ⟨_, h⟩
    obtain ⟨url', hbuilt, hparse⟩ := (readHost_iff hfile hne hnot).mpr ⟨rfl, hwritten⟩
    rw [← hprotocol, ← hhost, ← hservice] at hbuilt
    refine ⟨{ slot0 := some mode', slot1 := some protocol, slot2 := some host
              slot3 := some service },
      ?_, hmode.symm, hprotocol.symm, hhost.symm, hservice.symm⟩
    rw [(urlOfRasd_setConsoleUrl_eq_ok h).mpr ⟨hbuilt, (mode_of_mode.mpr ⟨hfits, hmode⟩).1⟩]
    dsimp only [bind, Except.bind]
    rw [hparse]
    dsimp only
    rw [Option.some_or, if_neg (by simp), hudp, hfile]
    rfl

end Setting

/-! ### All sources -/

theorem getStr_set_of_ne (inst : Instance) {name name' : String} (hne : name' ≠ name)
    (value : CmpiValue) : (inst.set name value).getStr name' = inst.getStr name' := by
  unfold Instance.getStr
  rw [Instance.get_set, if_neg hne]

/-- The properties that all consoles have are not their source. -/
theorem NoSource.withType {inst : Instance} (h : NoSource inst) (cdev : ConsoleDevice) :
    NoSource (((inst.set "OtherResourceType" (.string "console")).set "SourceType"
      (.uint16 (chardevSourceTypeID cdev.sourceType))).setChars "TargetType" cdev.targetType) := by
  have hkept (name : String) (htarget : name ≠ "TargetType") (htype : name ≠ "SourceType")
      (hother : name ≠ "OtherResourceType") :
      (((inst.set "OtherResourceType" (.string "console")).set "SourceType"
        (.uint16 (chardevSourceTypeID cdev.sourceType))).setChars "TargetType"
          cdev.targetType).getStr name = inst.getStr name := by
    rw [getStr_setChars, if_neg htarget, getStr_set_of_ne _ htype, getStr_set_of_ne _ hother]
  refine ⟨?_, ?_, ?_⟩
  · rw [hkept _ (by decide) (by decide) (by decide), h.path]
  · rw [hkept _ (by decide) (by decide) (by decide), h.connect]
  · rw [hkept _ (by decide) (by decide) (by decide), h.bind]

/-- A path that has to be there. -/
theorem path_readsBack_iff {inst : Instance} (h : NoSource inst) (sd : SourceDev) (msg : String) :
    (∃ sd', pathOfRasd (inst.setChars "SourcePath" sd.path) {} msg = .ok sd' ∧
        sd'.path = sd.path) ↔ sd.path.isSome := by
  unfold pathOfRasd
  rw [getStr_setChars_self h.path]
  cases hpath : sd.path with
  | none => simp
  | some path => exact iff_of_true ⟨_, rfl, rfl⟩ rfl

/-- **A source of any type.** -/
theorem source_readsBack_iff {inst : Instance} (h : NoSource inst) (cdev : ConsoleDevice) :
    (∃ sd', consoleSourceOfRasd (setConsoleRasdParams cdev inst) cdev.sourceType {} = .ok sd' ∧
        SameSource cdev.sourceType sd' cdev.sourceDev) ↔
      SourceFits cdev.sourceDev cdev.sourceType := by
  have hno := h.withType cdev
  unfold setConsoleRasdParams
  obtain ⟨sourceType, sd, targetType⟩ := cdev
  -- a source type has its own properties, four of them have none
  cases sourceType with
  | null | vc | stdio | spicevmc => exact iff_of_true ⟨_, rfl, trivial⟩ trivial
  | pty =>
    refine iff_of_true ⟨_, rfl, ?_⟩ trivial
    exact (Option.or_none).trans (getStr_setChars_self hno.path)
  | dev => exact path_readsBack_iff hno sd _
  | file => exact path_readsBack_iff hno sd _
  | pipe => exact path_readsBack_iff hno sd _
  | unixsock => exact unixsock_readsBack_iff hno
  | udp => exact udp_readsBack_iff hno
  | tcp => exact tcp_readsBack_iff hno

/-- A URL is none of the other properties. -/
theorem get_setConsoleUrl (mode url : Option String) (inst : Instance) {name : String}
    (hbind : name ≠ "BindURL") (hconnect : name ≠ "ConnectURL") :
    (setConsoleUrl mode url inst).get name = inst.get name := by
  unfold setConsoleUrl
  cases mode with
  | none => rfl
  | some mode =>
    dsimp only
    split_ifs
    · rw [Instance.get_setChars, if_neg hbind]
    · rw [Instance.get_setChars, if_neg hconnect]
    · rfl

/-- The type of the source is found. -/
theorem getU16_setConsoleRasdParams (cdev : ConsoleDevice) (inst : Instance) :
    (setConsoleRasdParams cdev inst).getU16 "SourceType" =
      some (chardevSourceTypeID cdev.sourceType) := by
  -- the type is set first, and no later property is named as it
  have hget : (setConsoleRasdParams cdev inst).get "SourceType" =
      some (.uint16 (chardevSourceTypeID cdev.sourceType)) := by
    unfold setConsoleRasdParams
    cases cdev.sourceType with
    | null | vc | stdio | spicevmc => simp
    | pty | dev | file | pipe | udp => simp
    | unixsock =>
      dsimp only
      rw [get_setConsoleUrl _ _ _ (by decide) (by decide)]
      simp
    | tcp =>
      dsimp only
      rw [get_setConsoleUrl _ _ _ (by decide) (by decide)]
      simp
  rw [Instance.getU16, hget]

/-- **When a console comes back from its setting.** -/
theorem readsBack_iff (info : DomainInfo) (pfx host : String) {dev : VirtDevice ConsoleDevice}
    (htype : dev.type = .console) :
    ReadsBack info pfx host dev ↔ SourceFits dev.dev.sourceDev dev.dev.sourceType := by
  -- what the setting starts from, before the source is written
  let base : Instance := ((({ pfx, base := baseOfKind .console } : Instance).set "InstanceID"
    (.string (host ++ "/" ++ formatStr dev.id))).set "ResourceType"
      (.uint16 (resourceType .console)))
  have hbase : NoSource base := ⟨rfl, rfl, rfl⟩
  have hinst : rasdFromVdev info pfx host .console dev = some (setConsoleRasdParams dev.dev base) :=
    if_pos htype
  -- the settings are read for the type that was written, with the source alone open
  have hread : consoleRasdToVdev (setConsoleRasdParams dev.dev base)
      { dev := DevKind.console.zero } =
      (consoleSourceOfRasd (setConsoleRasdParams dev.dev base) dev.dev.sourceType {}).bind
        fun sourceDev => .ok { dev :=
          { sourceType := dev.dev.sourceType
            sourceDev
            targetType :=
              ((setConsoleRasdParams dev.dev base).getStr "TargetType").or none } } := by
    unfold consoleRasdToVdev
    rw [getU16_setConsoleRasdParams]
    dsimp only
    rw [lookup_chardevSourceTypeID]
    rfl
  rw [← source_readsBack_iff hbase]
  -- the reading comes back if the source does
  constructor
  · rintro ⟨inst, dev', hinst', hdev', -, hsame⟩
    rw [hinst] at hinst'
    obtain rfl := Option.some.inj hinst'
    rw [hread] at hdev'
    obtain ⟨sd', hsd', hdev'⟩ := bind_eq_ok hdev'
    cases hdev'
    exact ⟨sd', hsd', hsame⟩
  · rintro ⟨sd', hsd', hsame⟩
    rw [hsd'] at hread
    exact ⟨_, _, hinst, hread, rfl, hsame⟩

/-- A console that was parsed is one. -/
theorem type_of_parseConsoleDevice {node : Node} {dev : VirtDevice ConsoleDevice}
    (h : parseConsoleDevice node = .ok dev) : dev.type = .console := by
  unfold parseConsoleDevice at h
  split at h
  · split at h
    · obtain ⟨⟨cdev, port⟩, -, h⟩ := bind_eq_ok h
      cases h
      rfl
    · cases h
  · cases h

/-! ### Both directions -/

/-- **The URLs of consoles**: when a URL that is read is written as one that is read alike, and
when a console that was parsed comes back from its setting. The first part is about the text
alone, its protocol, host and service (`rebuilds_iff`); the second adds the fields of the source
that have no place in a URL (`readsBack_iff`). -/
theorem consoleUrls_iff (url : String) (info : DomainInfo) (pfx host : String) (node : Node) :
    (Rebuilds url ↔ ∀ protocol address, urlParts url = some (protocol, address) →
      StartsWithHost address → UrlKept protocol address) ∧
    ∀ dev, parseConsoleDevice node = .ok dev →
      (ReadsBack info pfx host dev ↔ SourceFits dev.dev.sourceDev dev.dev.sourceType) :=
  ⟨rebuilds_iff url, fun _ hdev => readsBack_iff info pfx host (type_of_parseConsoleDevice hdev)⟩

/-- The host of a URL may be in brackets, and no such host is written. -/
theorem not_consoleUrls : ¬ ((∀ url, Rebuilds url) ∧ ∀ (info : DomainInfo) (pfx host : String)
    (node : Node) (dev : VirtDevice ConsoleDevice), parseConsoleDevice node = .ok dev →
      ReadsBack info pfx host dev) := by
  rintro ⟨hrebuilds, -⟩
  obtain ⟨url', hbuilt, -⟩ :=
    hrebuilds "telnet://[::1]:4555" "telnet" "[::1]" (some "4555") (by decide +kernel)
  cases hbuilt

end LibvirtCim.Rasd
