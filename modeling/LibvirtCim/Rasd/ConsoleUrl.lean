import LibvirtCim.Rasd.FromVdev
import LibvirtCim.Rasd.Scan

/-!
# The URLs of consoles

`parse_console_url` reads the URL of a console and `_build_console_url` writes it, for a source
that is a socket. A host with a colon in it is not written, and a file is written without a port
and with a slash in front.

* `parseConsoleUrl_joined_iff` — when a URL made of a protocol, a host and a port is read as these;
* `rebuilds_iff` — when a URL that is read is written as one that is read alike.
-/

open Framework LibvirtCim.Device

namespace LibvirtCim.Rasd

/-! ### Addresses -/

/-- A host, and a port behind a colon if there is one. -/
def joinPort (host : String) (port : Option String) : String :=
  match port with
  | none => host
  | some port => host ++ ":" ++ port

/-- The text of a host and a port is split where it was joined: in the presence of a bracket the
host ends with its only closing one, otherwise it has no colon. -/
def SplitsAt (host : String) (port : Option String) : Prop :=
  if '[' ∈ (joinPort host port).toList then
    ∃ field, field ≠ [] ∧ ']' ∉ field ∧ host.toList = field ++ [']']
  else ':' ∉ host.toList

theorem joinPort_none (host : String) : joinPort host none = host := rfl

theorem toList_joinPort (host : String) (port : Option String) :
    (joinPort host port).toList = host.toList ++ (port.elim [] fun port => ':' :: port.toList) := by
  cases port <;> simp [joinPort]

variable {host : String} {port : Option String}

/-- What `parse_ip_address` makes of a text with a bracket. -/
theorem parseIpAddress_bracket {id : String} (h : '[' ∈ id.toList)
    (hparse : parseIpAddress id = some (host, port)) :
    ∃ field rest, field ≠ [] ∧ ']' ∉ field ∧ id.toList = field ++ rest ∧
      host.toList = field ++ [']'] ∧ port = (scanLit [']', ':'] rest).bind scanWord := by
  rw [parseIpAddress, if_pos h] at hparse
  obtain ⟨⟨ip, port'⟩, hpair, heq⟩ := Option.map_eq_some_iff.mp hparse
  obtain ⟨⟨field, rest⟩, hfield, hpair⟩ := Option.map_eq_some_iff.mp hpair
  obtain ⟨rfl, rfl⟩ := Prod.mk.inj hpair
  obtain ⟨rfl, rfl⟩ := Prod.mk.inj heq
  obtain ⟨hne, hnot, hsplit⟩ := scanUpTo_spec hfield
  exact ⟨field.toList, rest, hne, hnot, hsplit, by simp, rfl⟩

/-- What it makes of a text without one. -/
theorem parseIpAddress_plain {id : String} (h : '[' ∉ id.toList)
    (hparse : parseIpAddress id = some (host, port)) :
    ∃ rest, host.toList ≠ [] ∧ ':' ∉ host.toList ∧ id.toList = host.toList ++ rest ∧
      port = (scanLit [':'] rest).bind scanWord := by
  rw [parseIpAddress, if_neg h] at hparse
  obtain ⟨⟨field, rest⟩, hfield, hpair⟩ := Option.map_eq_some_iff.mp hparse
  obtain ⟨rfl, rfl⟩ := Prod.mk.inj hpair
  obtain ⟨hne, hnot, hsplit⟩ := scanUpTo_spec hfield
  exact ⟨rest, hne, hnot, hsplit, rfl⟩

/-- The port of an address is one word. -/
theorem bare_port {id : String} (h : parseIpAddress id = some (host, port)) :
    ∀ q ∈ port, Bare q := by
  intro q hq
  by_cases hbracket : '[' ∈ id.toList
  · obtain ⟨field, rest, -, -, -, -, hport⟩ := parseIpAddress_bracket hbracket h
    rw [hport] at hq
    obtain ⟨rest', -, hword⟩ := Option.bind_eq_some_iff.mp hq
    exact bare_of_scanWord hword
  · obtain ⟨rest, -, -, -, hport⟩ := parseIpAddress_plain hbracket h
    rw [hport] at hq
    obtain ⟨rest', -, hword⟩ := Option.bind_eq_some_iff.mp hq
    exact bare_of_scanWord hword

/-- The host of an address in one word is one word. -/
theorem bare_host {id : String} (hid : Bare id) (h : parseIpAddress id = some (host, port)) :
    Bare host := by
  -- with a bracket the host is read to it, without one to the colon
  by_cases hbracket : '[' ∈ id.toList
  · obtain ⟨field, rest, hne, -, hsplit, hhost, -⟩ := parseIpAddress_bracket hbracket h
    refine ⟨?_, fun c hc => ?_⟩
    -- the bracket at the end of the field keeps the host from being empty
    · rintro rfl
      simp at hhost
    · rw [hhost] at hc
      obtain hc | hc := List.mem_append.mp hc
      · exact hid.2 c (by rw [hsplit]; exact List.mem_append_left _ hc)
      · rw [List.mem_singleton.mp hc]
        rfl
  · obtain ⟨rest, hne, -, hsplit, -⟩ := parseIpAddress_plain hbracket h
    refine ⟨?_, fun c hc => hid.2 c (by rw [hsplit]; exact List.mem_append_left _ hc)⟩
    rintro rfl
    exact hne rfl

/-- **When the text of a host and a port is read as these**, for words. -/
theorem parseIpAddress_joined_iff (hhost : Bare host) (hport : ∀ q ∈ port, Bare q) :
    parseIpAddress (joinPort host port) = some (host, port) ↔ SplitsAt host port := by
  have hne : host.toList ≠ [] := by
    intro hnil
    exact hhost.1 (String.toList_inj.mp (by simpa using hnil))
  unfold SplitsAt
  -- what is read of the text is the field before the separator, so the host must be that field
  constructor
  · intro h
    split
    · next hbracket =>
      obtain ⟨field, rest, hfield, hnot, -, heq, -⟩ := parseIpAddress_bracket hbracket h
      exact ⟨field, hfield, hnot, heq⟩
    · next hbracket => exact (parseIpAddress_plain hbracket h).choose_spec.2.1
  -- back: the field is scanned where it was split, then the port, if there is one
  · intro h
    split at h
    · next hbracket =>
      obtain ⟨field, hfield, hnot, heq⟩ := h
      rw [parseIpAddress, if_pos hbracket, toList_joinPort, heq]
      have htext : field ++ [']'] ++ (port.elim [] fun port => ':' :: port.toList) =
          field ++ ']' :: (port.elim [] fun port => ':' :: port.toList) := by simp
      have hip : String.ofList field ++ "]" = host := by
        apply String.toList_inj.mp
        rw [heq]
        simp
      -- the bracket is put back behind the field, as the scan drops it
      rw [htext, scanPair, scanUpTo_append hfield hnot]
      cases port with
      | none => simp [scanLit, hip]
      | some q =>
        simp [scanLit, hip, scanWord_of_bare (hport q rfl)]
    · next hbracket =>
      rw [parseIpAddress, if_neg hbracket, toList_joinPort, scanPair]
      cases port with
      | none =>
        rw [Option.elim_none, List.append_nil, scanUpTo_of_not_mem hne h]
        simp [scanLit]
      | some q =>
        rw [Option.elim_some, scanUpTo_append hne h]
        simp [scanLit, scanWord_of_bare (hport q rfl)]

/-! ### URLs -/

/-- The protocol of a URL, and the word behind it. -/
def urlParts (url : String) : Option (String × String) := do
  let (protocol, address) ← scanPair ':' [':', '/', '/'] url.toList
  (protocol, ·) <$> address

variable {url protocol address : String}

/-- A URL is its parts, of which the second is an address. -/
theorem parseConsoleUrl_iff :
    parseConsoleUrl url = some (protocol, host, port) ↔
      ∃ address, urlParts url = some (protocol, address) ∧
        parseIpAddress address = some (host, port) := by
  -- the two scans come one after the other, each may fail
  unfold parseConsoleUrl urlParts
  cases hpair : scanPair ':' [':', '/', '/'] url.toList with
  | none => simp
  | some pair =>
    obtain ⟨protocol', address'⟩ := pair
    cases address' with
    | none => simp
    | some address' =>
      cases haddress : parseIpAddress address' with
      | none =>
        -- the address is fixed by the first scan, so the failure of the second is final
        simp only [Option.bind_eq_bind, Option.bind_some, haddress, Option.bind_none,
          Option.map_eq_map, Option.map_some, Option.some.injEq, Prod.mk.injEq]
        refine iff_of_false (by simp) ?_
        rintro ⟨address, ⟨-, rfl⟩, h⟩
        rw [haddress] at h
        cases h
      | some parts =>
        simp only [Option.bind_eq_bind, Option.bind_some, haddress,
          Option.map_eq_map, Option.map_some, Option.some.injEq, Prod.mk.injEq]
        constructor
        · rintro ⟨rfl, rfl, rfl⟩
          exact ⟨address', ⟨rfl, rfl⟩, haddress⟩
        · rintro ⟨address, ⟨rfl, rfl⟩, h⟩
          rw [haddress] at h
          obtain rfl := Option.some.inj h
          exact ⟨rfl, rfl, rfl⟩

theorem urlParts_spec (h : urlParts url = some (protocol, address)) :
    protocol.toList ≠ [] ∧ ':' ∉ protocol.toList ∧ Bare address := by
  obtain ⟨⟨protocol', address'⟩, hpair, h⟩ := Option.bind_eq_some_iff.mp h
  obtain ⟨word, hword, heq⟩ := Option.map_eq_some_iff.mp h
  obtain ⟨rfl, rfl⟩ := Prod.mk.inj heq
  obtain ⟨⟨field, rest⟩, hfield, heq⟩ := Option.map_eq_some_iff.mp hpair
  obtain ⟨rfl, hrest⟩ := Prod.mk.inj heq
  obtain ⟨hne, hnot, -⟩ := scanUpTo_spec hfield
  rw [hword] at hrest
  obtain ⟨rest', -, hword⟩ := Option.bind_eq_some_iff.mp hrest
  exact ⟨hne, hnot, bare_of_scanWord hword⟩

/-- The parts of a text that starts with a protocol. -/
theorem urlParts_append (hne : protocol.toList ≠ []) (hnot : ':' ∉ protocol.toList)
    (text : String) :
    urlParts (protocol ++ "://" ++ text) = (protocol, ·) <$> scanWord text.toList := by
  have hsplit : (protocol ++ "://" ++ text).toList =
      protocol.toList ++ ':' :: '/' :: '/' :: text.toList := by simp
  rw [urlParts, hsplit, scanPair, scanUpTo_append hne hnot]
  simp [scanLit]

/-- The protocol of a text that starts with one is it, if it has no colon. -/
theorem protocol_of_urlParts_append {text : String}
    (h : urlParts (protocol ++ "://" ++ text) = some (protocol, address)) :
    scanWord text.toList = some address := by
  obtain ⟨hne, hnot, -⟩ := urlParts_spec h
  rw [urlParts_append hne hnot] at h
  obtain ⟨word, hword, heq⟩ := Option.map_eq_some_iff.mp h
  rw [hword, (Prod.mk.inj heq).2]

theorem bare_joinPort (hhost : Bare host) (hport : ∀ q ∈ port, Bare q) :
    Bare (joinPort host port) := by
  refine ⟨fun hempty => hhost.1 ?_, fun c hc => ?_⟩
  · have hlist := congrArg String.toList hempty
    rw [toList_joinPort] at hlist
    exact String.toList_inj.mp (by simpa using (List.append_eq_nil_iff.mp hlist).1)
  · rw [toList_joinPort] at hc
    obtain hc | hc := List.mem_append.mp hc
    · exact hhost.2 c hc
    · cases port with
      | none => cases hc
      | some q =>
        obtain rfl | hc := List.mem_cons.mp hc
        · rfl
        · exact (hport q rfl).2 c hc

/-- **When a URL is read as what it is made of.** -/
theorem parseConsoleUrl_joined_iff :
    parseConsoleUrl (protocol ++ "://" ++ joinPort host port) = some (protocol, host, port) ↔
      protocol.toList ≠ [] ∧ ':' ∉ protocol.toList ∧ Bare host ∧ (∀ q ∈ port, Bare q) ∧
        SplitsAt host port := by
  rw [parseConsoleUrl_iff]
  constructor
  · rintro ⟨address, hparts, hparse⟩
    obtain ⟨hne, hnot, haddress⟩ := urlParts_spec hparts
    have hhost := bare_host haddress hparse
    have hport := bare_port hparse
    have hword := protocol_of_urlParts_append hparts
    -- the whole text is one word
    rw [scanWord_of_bare (bare_joinPort hhost hport)] at hword
    obtain rfl := Option.some.inj hword
    exact ⟨hne, hnot, hhost, hport, (parseIpAddress_joined_iff hhost hport).mp hparse⟩
  · rintro ⟨hne, hnot, hhost, hport, hsplits⟩
    refine ⟨joinPort host port, ?_, (parseIpAddress_joined_iff hhost hport).mpr hsplits⟩
    rw [urlParts_append hne hnot, scanWord_of_bare (bare_joinPort hhost hport)]
    rfl

/-- What is read of the text behind a protocol. -/
theorem parseConsoleUrl_append {protocol' text : String} (hne : protocol.toList ≠ [])
    (hnot : ':' ∉ protocol.toList)
    (h : parseConsoleUrl (protocol ++ "://" ++ text) = some (protocol', host, port)) :
    protocol' = protocol ∧ ∃ word, scanWord text.toList = some word ∧
      parseIpAddress word = some (host, port) := by
  obtain ⟨word, hparts, hparse⟩ := parseConsoleUrl_iff.mp h
  rw [urlParts_append hne hnot] at hparts
  obtain ⟨word', hword, heq⟩ := Option.map_eq_some_iff.mp hparts
  obtain ⟨rfl, rfl⟩ := Prod.mk.inj heq
  exact ⟨rfl, word', hword, hparse⟩

/-! ### Reading, writing and reading again -/

/-- What is read of a URL is written as a URL that is read alike. The text need not be the same: a
service that is missing is not written, and brackets are read off. -/
def Rebuilds (url : String) : Prop :=
  ∀ protocol host port, parseConsoleUrl url = some (protocol, host, port) →
    ∃ url', buildConsoleUrl (some protocol) (some host) port = some url' ∧
      parseConsoleUrl url' = some (protocol, host, port)

/-- There is something before the delimiter of an address. The delimiter is the last bracket where
there is one, and the first colon else. -/
def StartsWithHost (address : String) : Prop :=
  if '[' ∈ address.toList then address.toList.head? ≠ some ']'
  else address.toList.head? ≠ some ':'

/-- There is a port behind the delimiter of an address. -/
def HasPort (address : String) : Prop :=
  if '[' ∈ address.toList then
    ∃ c port, address.toList.dropWhile (· ≠ ']') = ']' :: ':' :: c :: port
  else ∃ c port, address.toList.dropWhile (· ≠ ':') = ':' :: c :: port

/-- A protocol and an address whose URL is written as it was read. No other protocol has a colon
before the bracket of its address; a file is an absolute path without a port, in which a bracket
is opened before it is closed or no colon comes first. -/
def UrlKept (protocol address : String) : Prop :=
  let field := address.toList.takeWhile (· ≠ ']')
  if streqc "file" protocol then
    protocol = "file" ∧ address.toList.head? = some '/' ∧ ¬ HasPort address ∧
      ('[' ∈ address.toList → '[' ∈ field ∨ ':' ∉ field)
  else '[' ∈ address.toList → ':' ∉ field

/-- `parse_ip_address`, by what is before the delimiter and behind it. -/
theorem parseIpAddress_eq (id : String) :
    parseIpAddress id =
      if '[' ∈ id.toList then
        if id.toList.takeWhile (· ≠ ']') = [] then none
        else some (String.ofList (id.toList.takeWhile (· ≠ ']')) ++ "]",
          (scanLit [']', ':'] (id.toList.dropWhile (· ≠ ']'))).bind scanWord)
      else
        if id.toList.takeWhile (· ≠ ':') = [] then none
        else some (String.ofList (id.toList.takeWhile (· ≠ ':')),
          (scanLit [':'] (id.toList.dropWhile (· ≠ ':'))).bind scanWord) := by
  unfold parseIpAddress scanPair
  rw [scanUpTo_eq, scanUpTo_eq]
  split
  · split <;> rfl
  · split <;> rfl

theorem takeWhile_eq_nil_iff (c : Char) (cs : List Char) (hne : cs ≠ []) :
    cs.takeWhile (· ≠ c) = [] ↔ cs.head? = some c := by
  cases cs with
  | nil => exact absurd rfl hne
  | cons d cs =>
    rw [List.takeWhile_cons]
    by_cases h : d = c
    · simp [h]
    · simp [h]

theorem toList_ne_nil_of_bare {text : String} (h : Bare text) : text.toList ≠ [] := by
  intro hnil
  exact h.1 (String.toList_inj.mp (by simpa using hnil))

/-- An address that has a host is read. -/
theorem parseIpAddress_eq_none_iff (haddress : Bare address) :
    parseIpAddress address = none ↔ ¬ StartsWithHost address := by
  have hne := toList_ne_nil_of_bare haddress
  rw [parseIpAddress_eq]
  unfold StartsWithHost
  split
  · rw [not_not, ← takeWhile_eq_nil_iff _ _ hne]
    simp
  · rw [not_not, ← takeWhile_eq_nil_iff _ _ hne]
    simp

/-- Without blanks there is a word, if there is anything. -/
theorem scanWord_eq_none_iff {cs : List Char} (h : ∀ c ∈ cs, isSpace c = false) :
    scanWord cs = none ↔ cs = [] := by
  cases cs with
  | nil => exact iff_of_true rfl rfl
  | cons c cs =>
    refine iff_of_false ?_ (List.cons_ne_nil c cs)
    have hc := h c List.mem_cons_self
    unfold scanWord
    rw [List.dropWhile_cons_of_neg (by rw [hc]; exact Bool.false_ne_true),
      List.takeWhile_cons_of_pos (by rw [hc]; rfl)]
    simp

/-- The word behind a literal. -/
theorem scanLit_bind_eq_none_iff (lit : List Char) {cs : List Char}
    (h : ∀ c ∈ cs, isSpace c = false) :
    (scanLit lit cs).bind scanWord = none ↔ ¬ ∃ c port, cs = lit ++ c :: port := by
  unfold scanLit
  split
  · next hlit =>
    obtain ⟨rest, rfl⟩ := List.isPrefixOf_iff_prefix.mp hlit
    rw [Option.bind_some, List.drop_left,
      scanWord_eq_none_iff fun c hc => h c (List.mem_append_right _ hc)]
    simp only [List.append_cancel_left_eq]
    cases rest <;> simp
  · next hlit =>
    refine iff_of_true rfl ?_
    rintro ⟨c, port, rfl⟩
    exact hlit (List.isPrefixOf_iff_prefix.mpr (List.prefix_append _ _))

/-- **What is read of an address**, with whether there is a port and how the host starts. -/
theorem parseIpAddress_spec (haddress : Bare address)
    (h : parseIpAddress address = some (host, port)) :
    (port = none ↔ ¬ HasPort address) ∧ host.toList.head? = address.toList.head? ∧
      (∀ q ∈ port, ∀ c ∈ q.toList, c ∈ address.toList) ∧
      host.toList = if '[' ∈ address.toList then address.toList.takeWhile (· ≠ ']') ++ [']']
        else address.toList.takeWhile (· ≠ ':') := by
  -- what a scan leaves over has no spaces, since the address has none
  have hrest (c : Char) : ∀ d ∈ address.toList.dropWhile (· ≠ c), isSpace d = false :=
    fun d hd => haddress.2 d ((List.dropWhile_suffix _).subset hd)
  have hword (lit : List Char) (c : Char) (q : String)
      (hq : (scanLit lit (address.toList.dropWhile (· ≠ c))).bind scanWord = some q) :
      ∀ d ∈ q.toList, d ∈ address.toList := by
    intro d hd
    obtain ⟨rest, hlit, hscan⟩ := Option.bind_eq_some_iff.mp hq
    have hmem := mem_of_scanWord hscan hd
    unfold scanLit at hlit
    split_ifs at hlit
    cases hlit
    exact (List.dropWhile_suffix _).subset (List.mem_of_mem_drop hmem)
  -- a field that is not empty starts as the address does
  have hhead (c : Char) (hne : address.toList.takeWhile (· ≠ c) ≠ []) :
      (address.toList.takeWhile (· ≠ c)).head? = address.toList.head? := by
    cases hlist : address.toList with
    | nil => rfl
    | cons d cs =>
      rw [hlist] at hne
      rw [List.takeWhile_cons] at hne ⊢
      split_ifs at hne ⊢
      · rfl
      · exact absurd rfl hne
  rw [parseIpAddress_eq] at h
  unfold HasPort
  -- the field is cut at the bracket or at the colon, the same argument for each separator
  split at h
  · next hbracket =>
    split_ifs at h with hne
    obtain ⟨rfl, rfl⟩ := Prod.mk.inj (Option.some.inj h)
    rw [if_pos hbracket, if_pos hbracket]
    refine ⟨scanLit_bind_eq_none_iff _ (hrest ']'), ?_, hword _ _, by simp⟩
    rw [String.toList_append, String.toList_ofList, List.head?_append_of_ne_nil _ hne]
    exact hhead ']' hne
  · next hbracket =>
    split_ifs at h with hne
    obtain ⟨rfl, rfl⟩ := Prod.mk.inj (Option.some.inj h)
    rw [if_neg hbracket, if_neg hbracket]
    refine ⟨scanLit_bind_eq_none_iff _ (hrest ':'), ?_, hword _ _, by simp⟩
    rw [String.toList_ofList]
    exact hhead ':' hne

/-- The URL of a file with an absolute path. -/
theorem buildConsoleUrl_file (hfile : streqc "file" protocol = true) (port : Option String) :
    buildConsoleUrl (some protocol) (some host) port =
      some ("file" ++ "://" ++ joinPort (if host.toList.head? = some '/' then host else "/" ++ host)
        none) := by
  -- the slash is looked for at the front of the host, a path without one is given it
  have hstarts : startsWith host "/" = true ↔ host.toList.head? = some '/' := by
    unfold startsWith
    cases host.toList with
    | nil => simp
    | cons c cs => simpa using @eq_comm _ '/' c
  unfold buildConsoleUrl
  simp only [Option.any_some, hfile, if_true, joinPort]
  by_cases hslash : host.toList.head? = some '/'
  · rw [if_pos (hstarts.mpr hslash), if_pos hslash]
    exact congrArg some (String.toList_inj.mp (by simp))
  · rw [if_neg (fun h => hslash (hstarts.mp h)), if_neg hslash]
    exact congrArg some (String.toList_inj.mp (by simp))

/-- The URL of another protocol, for a host without a colon. -/
theorem buildConsoleUrl_other (hfile : streqc "file" protocol = false) (port : Option String) :
    buildConsoleUrl (some protocol) (some host) port =
      if ':' ∈ host.toList then none else some (protocol ++ "://" ++ joinPort host port) := by
  unfold buildConsoleUrl
  simp only [Option.any_some, hfile, Bool.false_eq_true, if_false]
  split
  · rfl
  · cases port with
    | none => rfl
    | some port =>
      show some _ = some _
      congr 1
      apply String.toList_inj.mp
      simp [joinPort, formatStr]

/-- A host that is an address of its own has no port. -/
theorem port_of_parseIpAddress_self (h : parseIpAddress host = some (host, port)) :
    port = none := by
  by_cases hbracket : '[' ∈ host.toList
  · obtain ⟨field, rest, -, -, hsplit, heq, rfl⟩ := parseIpAddress_bracket hbracket h
    rw [heq] at hsplit
    rw [← List.append_cancel_left hsplit]
    rfl
  · obtain ⟨rest, -, -, hsplit, rfl⟩ := parseIpAddress_plain hbracket h
    rw [List.self_eq_append_right.mp hsplit]
    rfl

/-- What an address was split into is split there again, if a host in brackets has no colon or
opens a bracket. -/
theorem splitsAt_of_parseIpAddress (haddress : Bare address)
    (h : parseIpAddress address = some (host, port)) {port' : Option String}
    (hport : ∀ q ∈ port', q ∈ port) :
    SplitsAt host port' ↔ ('[' ∈ address.toList → '[' ∈ (joinPort host port').toList ∨
      ':' ∉ address.toList.takeWhile (· ≠ ']')) := by
  obtain ⟨-, -, hword, hhost⟩ := parseIpAddress_spec haddress h
  unfold SplitsAt
  -- the host has a bracket only where the address has one
  by_cases hbracket : '[' ∈ address.toList
  · rw [if_pos hbracket] at hhost
    obtain ⟨field, rest, hne, hnot, -, heq, -⟩ := parseIpAddress_bracket hbracket h
    -- the field of the host is what stands before the bracket of the address
    have hfield : field = address.toList.takeWhile (· ≠ ']') :=
      List.append_cancel_right (heq.symm.trans hhost)
    subst hfield
    -- the text is split at a bracket if it has one, else at its colon
    split
    · next hopen => exact iff_of_true ⟨_, hne, hnot, heq⟩ fun _ => .inl hopen
    · next hopen =>
      rw [heq]
      simp [hbracket, hopen]
  · -- there is no bracket in the parts either
    have hhost' : '[' ∉ host.toList := by
      rw [hhost, if_neg hbracket]
      exact fun hmem => hbracket ((List.takeWhile_prefix _).subset hmem)
    have hnone : '[' ∉ (joinPort host port').toList := by
      rw [toList_joinPort]
      intro hmem
      obtain hmem | hmem := List.mem_append.mp hmem
      · exact hhost' hmem
      -- a bracket in the port would have been in the address
      · cases hport' : port' with
        | none =>
          rw [hport'] at hmem
          cases hmem
        | some q =>
          rw [hport'] at hmem
          obtain hcolon | hmem := List.mem_cons.mp hmem
          · exact absurd hcolon (by decide)
          · exact hbracket (hword q (hport q hport') _ hmem)
    rw [if_neg hnone]
    refine iff_of_true ?_ fun hmem => absurd hmem hbracket
    exact (parseIpAddress_plain hbracket h).choose_spec.2.1

/-- **When a path is read off its URL**: it is absolute, and an address of its own. -/
theorem parseConsoleUrl_path_iff :
    parseConsoleUrl ("file" ++ "://" ++
        joinPort (if host.toList.head? = some '/' then host else "/" ++ host) none) =
      some (protocol, host, port) ↔
      protocol = "file" ∧ host.toList.head? = some '/' ∧ port = none ∧ Bare host ∧
        SplitsAt host none := by
  -- a path starts with a slash, the text is then the host as it is
  by_cases hslash : host.toList.head? = some '/'
  · rw [if_pos hslash]
    constructor
    · intro h
      obtain ⟨rfl, word, hword, hparse⟩ := parseConsoleUrl_append (by decide) (by decide) h
      have hhost := bare_host (bare_of_scanWord hword) hparse
      rw [joinPort_none, scanWord_of_bare hhost] at hword
      obtain rfl := Option.some.inj hword
      obtain rfl := port_of_parseIpAddress_self hparse
      exact ⟨rfl, hslash, rfl, hhost, (parseConsoleUrl_joined_iff.mp h).2.2.2.2⟩
    · rintro ⟨rfl, -, rfl, hhost, hsplit⟩
      exact parseConsoleUrl_joined_iff.mpr ⟨by decide, by decide, hhost, by simp, hsplit⟩
  -- without the slash the text made names another host
  · rw [if_neg hslash]
    refine iff_of_false (fun h => hslash ?_) fun h => hslash h.2.1
    -- the host that is read starts with the slash that was put in front
    obtain ⟨-, word, hword, hparse⟩ := parseConsoleUrl_append (by decide) (by decide) h
    have hhost := bare_host (bare_of_scanWord hword) hparse
    have hbare : Bare ("/" ++ host) := by
      refine ⟨by simp [← String.toList_inj], fun c hc => ?_⟩
      rw [String.toList_append] at hc
      obtain hc | hc := List.mem_append.mp hc
      · rw [List.mem_singleton.mp hc]
        rfl
      · exact hhost.2 c hc
    rw [joinPort_none, scanWord_of_bare hbare] at hword
    obtain rfl := Option.some.inj hword
    obtain ⟨-, hhead, -⟩ := parseIpAddress_spec hbare hparse
    exact hhead.trans (by simp)

/-- **A file is written as it was read.** -/
theorem parseConsoleUrl_file_iff (haddress : Bare address)
    (h : parseIpAddress address = some (host, port)) (hfile : streqc "file" protocol = true) :
    (∃ url', buildConsoleUrl (some protocol) (some host) port = some url' ∧
        parseConsoleUrl url' = some (protocol, host, port)) ↔ UrlKept protocol address := by
  have hhost := bare_host haddress h
  -- a file has no port in its text, so the split is that of the host alone
  obtain ⟨hport, hhead, -, hfield⟩ := parseIpAddress_spec haddress h
  have hsplits : SplitsAt host none ↔ ('[' ∈ address.toList →
      '[' ∈ address.toList.takeWhile (· ≠ ']') ∨ ':' ∉ address.toList.takeWhile (· ≠ ']')) := by
    refine (splitsAt_of_parseIpAddress haddress h (by simp)).trans ?_
    refine forall_congr' fun hbracket => ?_
    rw [if_pos hbracket] at hfield
    rw [joinPort_none, hfield]
    simp
  unfold UrlKept
  rw [if_pos hfile, buildConsoleUrl_file hfile, ← hhead, ← hport, ← hsplits]
  -- a round trip asks the same three things of the address as of its parts
  constructor
  · rintro ⟨url', ⟨⟩, hparse⟩
    obtain ⟨hprotocol, hslash, hnone, -, hsplit⟩ := parseConsoleUrl_path_iff.mp hparse
    exact ⟨hprotocol, hslash, hnone, hsplit⟩
  · rintro ⟨hprotocol, hslash, hnone, hsplit⟩
    exact ⟨_, rfl, parseConsoleUrl_path_iff.mpr ⟨hprotocol, hslash, hnone, hhost, hsplit⟩⟩

/-- **Another URL is written as it was read.** -/
theorem parseConsoleUrl_other_iff (hparts : urlParts url = some (protocol, address))
    (h : parseIpAddress address = some (host, port)) (hfile : streqc "file" protocol = false) :
    (∃ url', buildConsoleUrl (some protocol) (some host) port = some url' ∧
        parseConsoleUrl url' = some (protocol, host, port)) ↔ UrlKept protocol address := by
  obtain ⟨hne, hnot, haddress⟩ := urlParts_spec hparts
  have hhost := bare_host haddress h
  obtain ⟨-, -, -, hfield⟩ := parseIpAddress_spec haddress h
  -- the colon of an IPv6 address is in the brackets, it is the field that has it
  have hcolon : ':' ∉ host.toList ↔
      ('[' ∈ address.toList → ':' ∉ address.toList.takeWhile (· ≠ ']')) := by
    by_cases hbracket : '[' ∈ address.toList
    · rw [hfield, if_pos hbracket]
      simp [hbracket]
    · refine iff_of_true ?_ fun hmem => absurd hmem hbracket
      exact (parseIpAddress_plain hbracket h).choose_spec.2.1
  unfold UrlKept
  rw [if_neg (by rw [hfile]; exact Bool.false_ne_true), buildConsoleUrl_other hfile]
  rw [← hcolon]
  -- a host with a colon has no branch in the generator
  constructor
  · rintro ⟨url', hbuild, -⟩ hmem
    rw [if_pos hmem] at hbuild
    cases hbuild
  · intro hmem
    rw [if_neg hmem]
    refine ⟨_, rfl, parseConsoleUrl_joined_iff.mpr
      ⟨hne, hnot, hhost, bare_port h, (splitsAt_of_parseIpAddress haddress h (by simp)).mpr ?_⟩⟩
    exact fun hbracket => .inr (hcolon.mp hmem hbracket)

/-- **When a URL that is read is written as one that is read alike.** -/
theorem rebuilds_iff (url : String) :
    Rebuilds url ↔ ∀ protocol address, urlParts url = some (protocol, address) →
      StartsWithHost address → UrlKept protocol address := by
  -- the generator has a branch for files and one for all others
  have hkept {protocol address host : String} {port : Option String}
      (hparts : urlParts url = some (protocol, address))
      (h : parseIpAddress address = some (host, port)) :
      (∃ url', buildConsoleUrl (some protocol) (some host) port = some url' ∧
        parseConsoleUrl url' = some (protocol, host, port)) ↔ UrlKept protocol address := by
    cases hfile : streqc "file" protocol with
    | true => exact parseConsoleUrl_file_iff (urlParts_spec hparts).2.2 h hfile
    | false => exact parseConsoleUrl_other_iff hparts h hfile
  constructor
  -- what is read of the URL is what its address is split into
  · intro hrebuilds protocol address hparts hstarts
    have haddress := (urlParts_spec hparts).2.2
    cases hparse : parseIpAddress address with
    | none => exact absurd hstarts ((parseIpAddress_eq_none_iff haddress).mp hparse)
    | some parts =>
      obtain ⟨host, port⟩ := parts
      exact (hkept hparts hparse).mp
        (hrebuilds _ _ _ (parseConsoleUrl_iff.mpr ⟨address, hparts, hparse⟩))
  -- a reading has an address behind it, and it starts with a host
  · intro h protocol host port hread
    obtain ⟨address, hparts, hparse⟩ := parseConsoleUrl_iff.mp hread
    refine (hkept hparts hparse).mpr (h protocol address hparts ?_)
    by_contra hstarts
    rw [(parseIpAddress_eq_none_iff (urlParts_spec hparts).2.2).mpr hstarts] at hparse
    cases hparse

end LibvirtCim.Rasd
