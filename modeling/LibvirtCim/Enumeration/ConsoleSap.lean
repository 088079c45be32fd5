import LibvirtCim.Framework.Fold
import LibvirtCim.Framework.Join
import LibvirtCim.Framework.Keyed
import LibvirtCim.Framework.Lines
import LibvirtCim.Framework.ScanFormat
import LibvirtCim.Indication.FilterSpec
import LibvirtCim.Rasd.Instance

/-!
# Console access points

`Virt_KVMRedirectionSAP.c`: the VNC ports of the guests joined with the rows of the kernel's
tables of TCP connections. A row is read for all guests at once, and a guest that no row was for
is found afterwards by its remote port, which is still `-1`.

`sapsRight_iff` says when the enumeration is what it should be and a lookup by name agrees
with it: both tables are needed for a guest without a session, and the lookup believes any port.
-/

open Framework LibvirtCim.Device LibvirtCim.Rasd LibvirtCim.Indication

namespace LibvirtCim.ConsoleSap

/-! ### Guests and their instances -/

/-- A domain of the connection. -/
structure Guest where
  /-- `dominfo->name`, which is also the name it is looked up by -/
  name : String
  /-- `dev_graphics` of `get_dominfo`, unless that fails -/
  graphics : Option (List (VirtDevice GraphicsDevice))

/-- `struct vnc_port`. -/
structure VncPort where
  name : String
  port : Int32
  remotePort : Int32
  deriving DecidableEq, Repr

/-- What the calls behind a connection answer. -/
structure SapHost where
  /-- `pfx_from_conn` -/
  pfx : String
  guests : List Guest
  /-- `/proc/net/tcp`, or why it cannot be opened -/
  tcp4 : Except String (List Char)
  /-- `/proc/net/tcp6` -/
  tcp6 : Except String (List Char)

/-- `inst_from_dom`, with the class of the reference. -/
def instFromDom (classname : String) (port : VncPort) (inst : Instance) : Instance :=
  let id := printD port.port ++ ":" ++ printD port.remotePort
  let sccn := (classPrefixName classname).map (· ++ "_ComputerSystem")
  let inst := inst.set "Name" (.string id)
  let inst := inst.set "SystemName" (.string port.name)
  let inst := inst.setChars "SystemCreationClassName" sccn
  let inst := inst.set "ElementName" (.string id)
  let inst := inst.set "KVMProtocol" (.uint16 4)
  inst.set "EnabledState" <| .uint16 <|
    if port.remotePort < 0 then 3 else if port.remotePort = 0 then 6 else 2

/-- `get_console_sap`. -/
def getConsoleSap (pfx classname : String) (port : VncPort) : Instance :=
  let inst : Instance := { pfx, base := "KVMRedirectionSAP" }
  instFromDom classname port (inst.set "CreationClassName" (.string inst.classname))

/-- `check_graphics`: the first graphics device that is one of VNC. -/
def checkGraphics (guest : Guest) : Option GraphicsDevice :=
  guest.graphics.bind fun devs =>
    (devs.find? fun dev => streqc (dev.dev.type.getD "") "vnc").map (·.dev)

/-- The port of a VNC device, if its text is a number. -/
def scanPort (gdev : GraphicsDevice) : Option Int32 :=
  gdev.port.bind fun port => (scanD port.toList).map (·.1)

/-! ### Sessions -/

/-- The format `"%d: %*[^:]:%X %*[^:]:%X"`: the local and the remote port of a row. -/
def scanRow (line : List Char) : Option (UInt32 × UInt32) := do
  let (_, cs) ← scanD line
  let cs ← scanChar ':' cs
  let cs ← skipField ':' (cs.dropWhile isSpace)
  let (lport, cs) ← scanHex cs
  let cs ← skipField ':' (cs.dropWhile isSpace)
  let (rport, _) ← scanHex cs
  some (lport, rport)

/-- The ports with what was found of their sessions, and the list of instances. -/
structure Found where
  ports : List VncPort
  list : List Instance

section Sessions

variable (pfx classname : String)

/-- The loop over the ports for a row. The comparison is one of unsigned numbers. -/
def visitPorts (lport rport : UInt32) : List VncPort → List VncPort × List Instance
  | [] => ([], [])
  | port :: ports =>
    let rest := visitPorts lport rport ports
    if lport ≠ port.port.toUInt32 then (port :: rest.1, rest.2)
    else
      let port := { port with remotePort := rport.toInt32 }
      (port :: rest.1, getConsoleSap pfx classname port :: rest.2)

/-- The loop over the rows of a table. -/
def readRows : List (List Char) → Found → CmpiStatus × Found
  | [], found => (.ok, found)
  | line :: rest, found =>
    match scanRow line with
    | none => (.failed "Unable to determine active sessions", found)
    | some (lport, rport) =>
      let visited := visitPorts pfx classname lport rport found.ports
      readRows rest { ports := visited.1, list := found.list ++ visited.2 }

/-- `read_tcp_file`. The first line is the header; the message for a table without one prints
the stream itself. -/
def readTcpFile (text : List Char) (found : Found) : CmpiStatus × Found :=
  match lines '\n' text with
  | [] => (.failed "Failed to read from ", found)
  | _ :: rows => readRows pfx classname rows found

/-- The body of the loop over the two tables. -/
def readTable (file : Except String (List Char)) (found : Found) : CmpiStatus × Found :=
  match file with
  | .error why => (.failed ("Failed to open (null): " ++ why), found)
  | .ok text => readTcpFile pfx classname text found

/-- The loop over the guests that were missed: whether it comes to its end. The status is the one
of the table that was read last, and `get_console_sap` leaves it as it is. -/
def addMissed (s : CmpiStatus) : List VncPort → List Instance → Bool × List Instance
  | [], list => (true, list)
  | port :: ports, list =>
    if port.remotePort ≠ -1 then addMissed s ports list
    else if s ≠ .ok then (false, list)
    else addMissed s ports (list ++ [getConsoleSap pfx classname port])

/-- `get_vnc_sessions`. -/
def getVncSessions (host : SapHost) (ports : List VncPort) : CmpiStatus × List Instance :=
  let first := readTable pfx classname host.tcp4 { ports, list := [] }
  let second := readTable pfx classname host.tcp6 first.2
  let s := second.1
  let missed := addMissed pfx classname s second.2.ports second.2.list
  -- one table that cannot be read is no error, if the loop came to its end
  (if missed.1 && (first.1 = .ok || s = .ok) then .ok else s, missed.2)

end Sessions

/-! ### The entry points -/

/-- The loop over the domains that fills `port_list`. -/
def fillPortList : List Guest → Except CmpiStatus (List VncPort)
  | [] => .ok []
  | guest :: guests =>
    match checkGraphics guest with
    | none => fillPortList guests
    | some gdev =>
      match scanPort gdev with
      | none => .error (.failed "Unable to guest's console port")
      | some port =>
        (fillPortList guests).map fun ports =>
          { name := guest.name, port, remotePort := -1 } :: ports

/-- `enum_console_sap`, with the status of `connect_by_classname` and whether `get_domain_list`
succeeds. -/
def enumConsoleSap (connect : CmpiStatus) (listed : Bool) (host : SapHost) (classname : String) :
    CmpiStatus × List Instance :=
  if connect ≠ .ok then (connect, [])
  else if listed = false then (.failed "Failed to enumerate domains", [])
  else if host.guests.isEmpty then (.ok, [])
  else
    match fillPortList host.guests with
    | .error s => (s, [])
    | .ok ports => getVncSessions host.pfx classname host ports

/-- The format `"%d:%d"` of a name. -/
def scanName (name : String) : Option (Int32 × Int32) := do
  let (lport, cs) ← scanD name.toList
  let cs ← scanChar ':' cs
  let (rport, _) ← scanD cs
  some (lport, rport)

/-- `get_console_sap_by_name`, with the system and the name of the reference. -/
def getConsoleSapByName (connect : CmpiStatus) (host : SapHost) (classname sys : String)
    (name : Option String) : Except CmpiStatus Instance := do
  if connect ≠ .ok then throw (.error .notFound "No such instance")
  let some guest := host.guests.find? (·.name = sys)
    | throw (.error .notFound ("No such instance (" ++ sys ++ ")"))
  let some _ := checkGraphics guest | throw (.failed "No console device for this guest")
  let some name := name | throw (.error .notFound "No such instance (Name)")
  let some (lport, rport) := scanName name
    | throw (.failed ("Unable to determine console port for guest '" ++ sys ++ "'"))
  return getConsoleSap host.pfx classname
    { name := guest.name, port := lport, remotePort := rport }

/-! ### The tables of the kernel -/

/-- A port as the tables write it: at most four hexadecimal digits. -/
structure TcpPort where
  digits : List Char
  digits_ne_nil : digits ≠ []
  length_le : digits.length ≤ 4
  isHexDigit_of_mem : ∀ c ∈ digits, isHexDigit c = true

def TcpPort.number (port : TcpPort) : ℕ := ofHexDigits port.digits

/-- An address, which is a row of hexadecimal digits for either version of the protocol. -/
structure TcpAddress where
  digits : List Char
  digits_ne_nil : digits ≠ []
  isHexDigit_of_mem : ∀ c ∈ digits, isHexDigit c = true

/-- A row of a table, up to the second port, and what stands behind it. -/
structure TcpRow where
  pad : ℕ
  slot : ℕ
  localAddress : TcpAddress
  localPort : TcpPort
  remAddress : TcpAddress
  remPort : TcpPort
  tail : List Char
  newline_notMem_tail : '\n' ∉ tail

/-- A row without its newline. -/
def TcpRow.body (row : TcpRow) : List Char :=
  List.replicate row.pad ' ' ++ (row.slot.repr.toList ++
    (':' :: ' ' :: (row.localAddress.digits ++ ':' :: (row.localPort.digits ++
      (' ' :: (row.remAddress.digits ++ ':' :: (row.remPort.digits ++ (' ' :: row.tail))))))))

/-- A table. -/
structure TcpTable where
  header : List Char
  newline_notMem_header : '\n' ∉ header
  rows : List TcpRow

def TcpTable.text (table : TcpTable) : List Char :=
  table.header ++ '\n' :: table.rows.flatMap fun row => row.body ++ ['\n']

theorem TcpPort.number_lt (port : TcpPort) : port.number < 65536 := by
  calc port.number < 16 ^ port.digits.length := ofHexDigits_lt _
    _ ≤ 16 ^ 4 := Nat.pow_le_pow_right (by omega) port.length_le
    _ = 65536 := rfl

theorem not_mem_of_hexDigits {c : Char} (hc : isHexDigit c = false) {ds : List Char}
    (h : ∀ d ∈ ds, isHexDigit d = true) : c ∉ ds := by
  intro hmem
  rw [h c hmem] at hc
  cases hc

/-- What a row reads: its two ports. -/
def TcpRow.ports (row : TcpRow) : UInt32 × UInt32 :=
  (UInt32.ofNat row.localPort.number, UInt32.ofNat row.remPort.number)

theorem TcpAddress.dropWhile_blank (address : TcpAddress) (rest : List Char) :
    (' ' :: (address.digits ++ rest)).dropWhile isSpace = address.digits ++ rest := by
  obtain ⟨d, ds, hds⟩ := List.exists_cons_of_ne_nil address.digits_ne_nil
  have hd : isHexDigit d = true :=
    address.isHexDigit_of_mem d (by rw [hds]; exact List.mem_cons_self)
  rw [List.dropWhile_cons_of_pos (by rfl), hds, List.cons_append,
    List.dropWhile_cons_of_neg (by rw [(plain_of_isHexDigit hd).1]; exact Bool.false_ne_true)]

theorem TcpAddress.skipField_digits (address : TcpAddress) (rest : List Char) :
    skipField ':' (address.digits ++ ':' :: rest) = some rest :=
  skipField_append address.digits_ne_nil
    (not_mem_of_hexDigits (by decide) address.isHexDigit_of_mem) rest

theorem TcpPort.scanHex_digits (port : TcpPort) (rest : List Char) :
    scanHex (port.digits ++ ' ' :: rest) = some (UInt32.ofNat port.number, ' ' :: rest) := by
  apply scanHex_of_digits port.digits_ne_nil port.isHexDigit_of_mem
  · exact port.length_le.trans (by omega)
  · intro c hc
    cases hc
    exact ⟨by decide, by decide⟩

/-- **A row of the kernel is read as its ports.** -/
theorem scanRow_body (row : TcpRow) : scanRow (row.body ++ ['\n']) = some row.ports := by
  have hblank : ∀ c ∈ List.replicate row.pad ' ', isSpace c = true := by
    intro c hc
    rw [(List.mem_replicate.mp hc).2]
    rfl
  have hslot := @scanD_repr _ hblank row.slot (':' :: ' ' :: (row.localAddress.digits ++
    ':' :: (row.localPort.digits ++ (' ' :: (row.remAddress.digits ++
      ':' :: (row.remPort.digits ++ (' ' :: (row.tail ++ ['\n']))))))))
    (fun c hc => by cases hc; rfl)
  simp only [TcpRow.body, List.append_assoc, List.cons_append, scanRow, hslot,
    Option.bind_eq_bind, Option.bind_some, scanChar, if_pos, TcpAddress.dropWhile_blank,
    TcpAddress.skipField_digits, TcpPort.scanHex_digits]
  rfl

theorem TcpRow.newline_notMem_body (row : TcpRow) : '\n' ∉ row.body := by
  have hnewline : isHexDigit '\n' = false := by decide
  have hslot : '\n' ∉ row.slot.repr.toList := by
    intro hmem
    exact absurd (isDigit_of_mem_repr hmem) (by decide)
  rw [Nat.toList_repr] at hslot
  have hpad : '\n' ∉ List.replicate row.pad ' ' := by
    intro hmem
    exact absurd (List.mem_replicate.mp hmem).2 (by decide)
  simp [TcpRow.body, hslot, hpad, row.newline_notMem_tail,
    not_mem_of_hexDigits hnewline row.localAddress.isHexDigit_of_mem,
    not_mem_of_hexDigits hnewline row.localPort.isHexDigit_of_mem,
    not_mem_of_hexDigits hnewline row.remAddress.isHexDigit_of_mem,
    not_mem_of_hexDigits hnewline row.remPort.isHexDigit_of_mem]

theorem lines_rows (rows : List TcpRow) :
    lines '\n' (rows.flatMap fun row => row.body ++ ['\n']) =
      rows.map fun row => row.body ++ ['\n'] := by
  induction rows with
  | nil => rfl
  | cons row rows ih =>
    rw [List.flatMap_cons, List.append_assoc, List.singleton_append,
      lines_append_newline row.newline_notMem_body, ih, List.map_cons]

theorem lines_table (table : TcpTable) :
    lines '\n' table.text =
      (table.header ++ ['\n']) :: table.rows.map fun row => row.body ++ ['\n'] := by
  rw [TcpTable.text, lines_append_newline table.newline_notMem_header, lines_rows]

/-! ### What the sessions come to -/

/-- The comparison of a row with a guest. -/
def fitsPort (row : UInt32 × UInt32) (port : VncPort) : Bool := row.1 = port.port.toUInt32

section Sessions

variable (pfx classname : String)

/-- The access point of a row and a guest. -/
def sessionOf (row : UInt32 × UInt32) (port : VncPort) : Instance :=
  getConsoleSap pfx classname { port with remotePort := row.2.toInt32 }

/-- What a row does to a guest. -/
def touch (port : VncPort) (row : UInt32 × UInt32) : VncPort :=
  if fitsPort row port then { port with remotePort := row.2.toInt32 } else port

theorem fitsPort_touch (row row' : UInt32 × UInt32) (port : VncPort) :
    fitsPort row (touch port row') = fitsPort row port := by
  unfold touch
  split <;> rfl

theorem sessionOf_touch (row row' : UInt32 × UInt32) (port : VncPort) :
    sessionOf pfx classname row (touch port row') = sessionOf pfx classname row port := by
  unfold touch
  split <;> rfl

theorem visitPorts_eq (row : UInt32 × UInt32) (ports : List VncPort) :
    visitPorts pfx classname row.1 row.2 ports =
      (ports.map (touch · row),
        (ports.filter (fitsPort row)).map (sessionOf pfx classname row)) := by
  induction ports with
  | nil => rfl
  | cons port ports ih =>
    by_cases hfit : row.1 = port.port.toUInt32
    · have hfits : fitsPort row port = true := decide_eq_true hfit
      rw [visitPorts, if_neg (not_not_intro hfit), ih, List.map_cons, touch, if_pos hfits,
        List.filter_cons_of_pos hfits, List.map_cons]
      rfl
    · have hfits : ¬ fitsPort row port = true := fun h => hfit (of_decide_eq_true h)
      rw [visitPorts, if_pos hfit, ih, List.map_cons, touch, if_neg hfits,
        List.filter_cons_of_neg hfits]

/-- **The rows of a table**, read one after the other, are joined with the guests. -/
theorem readRows_eq (rows : List TcpRow) (found : Found) :
    readRows pfx classname (rows.map fun row => row.body ++ ['\n']) found =
      (.ok,
        { ports := found.ports.map fun port => (rows.map TcpRow.ports).foldl touch port
          list := found.list ++
            innerJoin fitsPort (sessionOf pfx classname) (rows.map TcpRow.ports)
              found.ports }) := by
  -- row by row, the ports carried along as the rows before have left them
  induction rows generalizing found with
  | nil =>
    rw [List.map_nil, readRows, List.map_nil]
    simp [innerJoin]
  | cons row rows ih =>
    rw [List.map_cons, readRows, scanRow_body]
    show readRows pfx classname _ _ = _
    rw [ih, show visitPorts pfx classname (UInt32.ofNat row.localPort.number)
      (UInt32.ofNat row.remPort.number) found.ports = _ from
      visitPorts_eq pfx classname row.ports _]
    -- a port keeps what the rows look at, so the ports may be taken as they were at first
    dsimp only
    rw [List.map_cons, innerJoin_cons, List.map_map, List.append_assoc,
      innerJoin_map_keys (fun r k => fitsPort_touch r row.ports k)
        (fun r k => sessionOf_touch pfx classname r row.ports k)]
    rfl

end Sessions

/-- A remote port of a table is no `-1`. -/
theorem toInt32_remPort_ne (row : TcpRow) : row.ports.2.toInt32 ≠ -1 := by
  intro h
  have hlt := row.remPort.number_lt
  have hint : (Int32.ofNat row.remPort.number).toInt = -1 := congrArg Int32.toInt h
  rw [Int32.toInt_ofNat_of_lt (by omega)] at hint
  omega

/-- The ports that still bear `-1` are those that no row fits. -/
theorem remotePort_foldl_eq_iff (rows : List TcpRow) (port : VncPort) :
    ((rows.map TcpRow.ports).foldl touch port).remotePort = -1 ↔
      port.remotePort = -1 ∧ (rows.map TcpRow.ports).any (fitsPort · port) = false := by
  -- a port is idle after the rows if none of them was its own
  induction rows generalizing port with
  | nil => simp
  | cons row rows ih =>
    rw [List.map_cons, List.foldl_cons, ih, List.any_cons, Bool.or_eq_false_iff]
    simp only [fitsPort_touch]
    -- a row that fits leaves a port number, which is never the mark of an idle port
    by_cases hfit : fitsPort row.ports port = true
    · rw [touch, if_pos hfit, hfit]
      refine iff_of_false (fun h => toInt32_remPort_ne row h.1) ?_
      rintro ⟨-, hfalse, -⟩
      cases hfalse
    · rw [touch, if_neg hfit]
      rw [Bool.not_eq_true] at hfit
      simp [hfit]

theorem foldl_touch_of_unmatched {rows : List (UInt32 × UInt32)} {port : VncPort}
    (h : rows.any (fitsPort · port) = false) : rows.foldl touch port = port := by
  induction rows with
  | nil => rfl
  | cons row rows ih =>
    rw [List.any_cons, Bool.or_eq_false_iff] at h
    rw [List.foldl_cons, touch, if_neg (by rw [h.1]; exact Bool.false_ne_true), ih h.2]

/-- **The guests that were missed** are those without a row, as they were before. -/
theorem filter_missed (rows : List TcpRow) {ports : List VncPort}
    (hports : ∀ port ∈ ports, port.remotePort = -1) :
    (ports.map fun port => (rows.map TcpRow.ports).foldl touch port).filter
        (fun port => port.remotePort = -1) =
      unmatched fitsPort (rows.map TcpRow.ports) ports := by
  have hfilter : ports.filter ((fun port => decide (port.remotePort = -1)) ∘
      fun port => (rows.map TcpRow.ports).foldl touch port) =
      unmatched fitsPort (rows.map TcpRow.ports) ports := by
    apply List.filter_congr
    intro port hport
    rw [Function.comp_apply, Bool.eq_iff_iff, decide_eq_true_eq, remotePort_foldl_eq_iff,
      Bool.not_eq_true']
    exact and_iff_right (hports port hport)
  rw [List.filter_map, hfilter]
  -- a guest without a row is as it was
  have hid : ∀ port ∈ unmatched fitsPort (rows.map TcpRow.ports) ports,
      (rows.map TcpRow.ports).foldl touch port = id port := by
    intro port hport
    have hnone := (List.mem_filter.mp hport).2
    rw [Bool.not_eq_true'] at hnone
    exact foldl_touch_of_unmatched hnone
  rw [List.map_congr_left hid, List.map_id]

/-- The loop over the missed guests stops at the first one when the status is no good. -/
theorem addMissed_eq (pfx classname : String) (s : CmpiStatus) (ports : List VncPort)
    (list : List Instance) :
    addMissed pfx classname s ports list =
      if s ≠ .ok ∧ ports.filter (fun port => port.remotePort = -1) ≠ [] then (false, list)
      else (true, list ++
        (ports.filter fun port => port.remotePort = -1).map (getConsoleSap pfx classname)) := by
  -- the ports in order, the first idle one ends it if the tables were not read
  induction ports generalizing list with
  | nil => simp [addMissed]
  | cons port ports ih =>
    by_cases hmissed : port.remotePort = -1
    -- an idle port is one more instance, another one is passed over
    · rw [addMissed, if_neg (not_not_intro hmissed),
        List.filter_cons_of_pos (by simpa using hmissed)]
      by_cases hs : s = .ok
      · rw [if_neg (not_not_intro hs), if_neg (fun h => h.1 hs), ih, if_neg (fun h => h.1 hs)]
        simp
      · rw [if_pos hs, if_pos ⟨hs, List.cons_ne_nil _ _⟩]
    · rw [addMissed, if_pos hmissed, List.filter_cons_of_neg (by simpa using hmissed), ih]

/-- The guests, of which no two have a name, with the tables as the kernel has them. -/
structure KernelHost where
  pfx : String
  guests : List Guest
  nodup_names : (guests.map Guest.name).Nodup
  tcp4 : Except String TcpTable
  tcp6 : Except String TcpTable

/-- The rows of a table that can be read. -/
def rowsOf : Except String TcpTable → List TcpRow
  | .error _ => []
  | .ok table => table.rows

/-- The VNC port of a guest, before anything is known of its sessions. -/
def vncPortOf (guest : Guest) : Option VncPort :=
  (checkGraphics guest).bind fun gdev =>
    (scanPort gdev).map fun port => { name := guest.name, port, remotePort := -1 }

namespace KernelHost

variable (host : KernelHost) (classname : String)

def rows : List TcpRow := rowsOf host.tcp4 ++ rowsOf host.tcp6

/-- The texts of the tables. -/
def sapHost : SapHost where
  pfx := host.pfx
  guests := host.guests
  tcp4 := host.tcp4.map TcpTable.text
  tcp6 := host.tcp6.map TcpTable.text

/-- The guests with a VNC port. -/
def vncPorts : List VncPort := host.guests.filterMap vncPortOf

/-- The access points that there are: one for each row of a guest's port, or an inactive one. -/
def accessPoints : List Instance :=
  outerJoin (fun row port => (row.localPort.number : ℤ) = port.port.toInt)
    (fun row port => getConsoleSap host.pfx classname
      { port with remotePort := Int32.ofNat row.remPort.number })
    (getConsoleSap host.pfx classname) host.rows host.vncPorts

end KernelHost

/-- Numbers of 16 bits are compared as they are. -/
theorem fitsPort_ports (row : TcpRow) (port : VncPort) :
    fitsPort row.ports port = decide ((row.localPort.number : ℤ) = port.port.toInt) := by
  have hlt := row.localPort.number_lt
  rw [fitsPort, decide_eq_decide]
  refine ⟨fun h => ?_, fun h => ?_⟩
  · have hport : port.port = Int32.ofNat row.localPort.number := by
      have htoInt32 := congrArg UInt32.toInt32 h
      exact htoInt32.symm
    rw [hport, Int32.toInt_ofNat_of_lt (by omega)]
  · have hport : port.port = Int32.ofNat row.localPort.number := by
      rw [← Int32.toInt_inj, Int32.toInt_ofNat_of_lt (by omega), h]
    rw [hport]
    rfl

theorem readTable_eq (pfx classname : String) (file : Except String TcpTable) (found : Found) :
    (readTable pfx classname (file.map TcpTable.text) found).2 =
        { ports := found.ports.map fun port => ((rowsOf file).map TcpRow.ports).foldl touch port
          list := found.list ++
            innerJoin fitsPort (sessionOf pfx classname) ((rowsOf file).map TcpRow.ports)
              found.ports } ∧
      ((readTable pfx classname (file.map TcpTable.text) found).1 = .ok ↔ file.isOk) := by
  -- a table that cannot be opened leaves what was found before
  cases file with
  | error why =>
    refine ⟨?_, iff_of_false (fun h => nomatch h) (fun h => nomatch h)⟩
    simp [readTable, Except.map, rowsOf, innerJoin]
  | ok table =>
    have hrows := readRows_eq pfx classname table.rows found
    show (readTcpFile pfx classname table.text found).2 = _ ∧
      ((readTcpFile pfx classname table.text found).1 = .ok ↔ _)
    rw [readTcpFile, lines_table]
    dsimp only
    rw [hrows]
    exact ⟨rfl, iff_of_true rfl rfl⟩

section Exact

variable (host : KernelHost) (classname : String)

/-- The sessions of the guests. -/
def KernelHost.sessions : List Instance :=
  innerJoin fitsPort (sessionOf host.pfx classname) (host.rows.map TcpRow.ports) host.vncPorts

/-- The guests without a row in either table. -/
def KernelHost.idle : List VncPort :=
  unmatched fitsPort (host.rows.map TcpRow.ports) host.vncPorts

theorem remotePort_of_mem_vncPorts : ∀ port ∈ host.vncPorts, port.remotePort = -1 := by
  intro port hport
  obtain ⟨guest, -, hguest⟩ := List.mem_filterMap.mp hport
  obtain ⟨gdev, -, hgdev⟩ := Option.bind_eq_some_iff.mp hguest
  obtain ⟨lport, -, rfl⟩ := Option.map_eq_some_iff.mp hgdev
  rfl

/-- What both tables leave behind. -/
theorem readTables_eq :
    (readTable host.pfx classname host.sapHost.tcp6
        (readTable host.pfx classname host.sapHost.tcp4
          { ports := host.vncPorts, list := [] }).2).2 =
      { ports := host.vncPorts.map fun port => (host.rows.map TcpRow.ports).foldl touch port
        list := host.sessions classname } := by
  -- what the rows ask of a port is not changed by the rows before
  have htouch : ∀ (rows : List (UInt32 × UInt32)) (row : UInt32 × UInt32) (port : VncPort),
      fitsPort row (rows.foldl touch port) = fitsPort row port ∧
        sessionOf host.pfx classname row (rows.foldl touch port) =
          sessionOf host.pfx classname row port := by
    intro rows row port
    exact ⟨foldl_eq_of_step (fun port row' => fitsPort_touch row row' port) rows port,
      foldl_eq_of_step (fun port row' => sessionOf_touch _ _ row row' port) rows port⟩
  -- the second table is read over what the first has left
  rw [KernelHost.sapHost, (readTable_eq _ _ _ _).1, (readTable_eq _ _ _ _).1]
  dsimp only
  rw [List.nil_append, List.map_map, innerJoin_map_keys (fun r k => (htouch _ r k).1)
    (fun r k => (htouch _ r k).2), ← innerJoin_append, ← List.map_append]
  congr 1
  apply List.map_congr_left
  intro port _
  rw [Function.comp_apply, ← List.foldl_append, ← List.map_append]
  rfl

/-- **What `get_vnc_sessions` comes to.** An idle guest ends it when the second table could not be
read. -/
theorem getVncSessions_spec :
    ((getVncSessions host.pfx classname host.sapHost host.vncPorts).1 = .ok ↔
        host.tcp6.isOk ∨ host.tcp4.isOk ∧ host.idle = []) ∧
      ((getVncSessions host.pfx classname host.sapHost host.vncPorts).1 = .ok →
        (getVncSessions host.pfx classname host.sapHost host.vncPorts).2 =
          host.sessions classname ++ host.idle.map (getConsoleSap host.pfx classname)) := by
  -- the ports that no row fits, which are to be listed without a session
  have hidle := filter_missed host.rows (remotePort_of_mem_vncPorts host)
  have h4 : (readTable host.pfx classname host.sapHost.tcp4
      { ports := host.vncPorts, list := [] }).1 = .ok ↔ host.tcp4.isOk := (readTable_eq _ _ _ _).2
  have h6 : (readTable host.pfx classname host.sapHost.tcp6 (readTable host.pfx classname
      host.sapHost.tcp4 { ports := host.vncPorts, list := [] }).2).1 = .ok ↔ host.tcp6.isOk :=
    (readTable_eq _ _ _ _).2
  rw [getVncSessions, readTables_eq, addMissed_eq, hidle, ← h4, ← h6]
  generalize (readTable host.pfx classname host.sapHost.tcp6 _).1 = s
  generalize (readTable host.pfx classname host.sapHost.tcp4 _).1 = s4
  show ((if _ then CmpiStatus.ok else s) = .ok ↔ _ ∨ _ ∧ host.idle = []) ∧
    ((if _ then CmpiStatus.ok else s) = .ok → _)
  rw [show unmatched fitsPort (host.rows.map TcpRow.ports) host.vncPorts = host.idle from rfl]
  -- the status is that of the second table, except that idle ports need one that was read
  by_cases hs : s = .ok
  · -- the second table was read
    simp [hs]
  by_cases hnone : host.idle = []
  · simp [hs, hnone]
  · simp [hs, hnone]

/-! ### The enumeration -/

/-- Each VNC device has a port that is a number. -/
def KernelHost.PortsReadable : Prop :=
  ∀ guest ∈ host.guests, ∀ gdev, checkGraphics guest = some gdev → (scanPort gdev).isSome

theorem fillPortList_ok_iff (guests : List Guest) (ports : List VncPort) :
    fillPortList guests = .ok ports ↔
      (∀ guest ∈ guests, ∀ gdev, checkGraphics guest = some gdev → (scanPort gdev).isSome) ∧
        ports = guests.filterMap vncPortOf := by
  -- guest by guest, a graphics device that is not VNC adds no port
  induction guests generalizing ports with
  | nil =>
    rw [fillPortList, Except.ok.injEq]
    exact ⟨fun h => ⟨fun _ hmem => absurd hmem List.not_mem_nil, h.symm⟩, fun h => h.2.symm⟩
  | cons guest guests ih =>
    rw [fillPortList, List.forall_mem_cons]
    cases hgraphics : checkGraphics guest with
    | none =>
      have hnone : vncPortOf guest = none := by rw [vncPortOf, hgraphics]; rfl
      rw [List.filterMap_cons_none hnone]
      dsimp only
      rw [ih]
      simp
    | some gdev =>
      dsimp only
      -- a port that is no number is an error of the whole list
      cases hport : scanPort gdev with
      | none =>
        refine iff_of_false (fun h => nomatch h) ?_
        rintro ⟨⟨hguest, -⟩, -⟩
        have hsome := hguest gdev rfl
        rw [hport] at hsome
        cases hsome
      | some port =>
        have hsome : vncPortOf guest = some { name := guest.name, port, remotePort := -1 } := by
          rw [vncPortOf, hgraphics, Option.bind_some, hport]
          rfl
        rw [List.filterMap_cons_some hsome]
        have hguest : ∀ gdev', some gdev = some gdev' → (scanPort gdev').isSome := by
          intro gdev' h
          rw [← Option.some.inj h, hport]
          rfl
        rw [and_iff_right hguest]
        dsimp only
        refine ⟨fun h => ?_, ?_⟩
        · obtain ⟨rest, hrest, rfl⟩ := map_eq_ok h
          obtain ⟨hall, rfl⟩ := (ih rest).mp hrest
          exact ⟨hall, rfl⟩
        · rintro ⟨hall, rfl⟩
          rw [(ih _).mpr ⟨hall, rfl⟩]
          rfl

/-- **The enumeration is right where it succeeds.** -/
theorem accessPoints_perm :
    (host.sessions classname ++ host.idle.map (getConsoleSap host.pfx classname)).Perm
      (host.accessPoints classname) := by
  have hfits : (fun (row : TcpRow) port => fitsPort row.ports port) =
      fun row port => decide ((row.localPort.number : ℤ) = port.port.toInt) := by
    funext row port
    exact fitsPort_ports row port
  rw [KernelHost.sessions, KernelHost.idle, innerJoin_map_rows, unmatched_map_rows, hfits]
  exact innerJoin_append_perm _ _ _ _ _

/-- When the enumeration succeeds. Without guests nothing is looked at; else the ports have to be
readable, and the second table is opened only where the first cannot be, and then has to have a
row for each port. -/
def KernelHost.Enumerable : Prop :=
  host.guests = [] ∨ host.PortsReadable ∧
    (host.tcp6.isOk ∨ host.tcp4.isOk ∧ ∀ port ∈ host.vncPorts,
      ∃ row ∈ rowsOf host.tcp4, (row.localPort.number : ℤ) = port.port.toInt)

theorem idle_eq_nil_iff :
    host.idle = [] ↔ ∀ port ∈ host.vncPorts,
      ∃ row ∈ host.rows, (row.localPort.number : ℤ) = port.port.toInt := by
  rw [KernelHost.idle, unmatched_map_rows, unmatched, List.filter_eq_nil_iff]
  refine forall₂_congr fun port _ => ?_
  rw [Bool.not_eq_true, Bool.not_eq_false', List.any_eq_true]
  simp only [fitsPort_ports, decide_eq_true_eq]

theorem fillPortList_error {guests : List Guest} {s : CmpiStatus}
    (h : fillPortList guests = .error s) : s ≠ .ok := by
  -- the error is that of the first port that cannot be read
  induction guests with
  | nil => cases h
  | cons guest guests ih =>
    rw [fillPortList] at h
    cases hgraphics : checkGraphics guest with
    | none =>
      rw [hgraphics] at h
      exact ih h
    | some gdev =>
      rw [hgraphics] at h
      dsimp only at h
      cases hport : scanPort gdev with
      | none =>
        rw [hport] at h
        rw [← Except.error.inj h]
        exact fun hok => nomatch hok
      | some port =>
        rw [hport] at h
        dsimp only at h
        cases hrest : fillPortList guests with
        | ok rest =>
          rw [hrest] at h
          cases h
        | error s' =>
          rw [hrest] at h
          obtain rfl := Except.error.inj h
          exact ih hrest

/-- The enumeration of a host with guests. -/
theorem enumConsoleSap_of_guests (hguests : host.guests ≠ []) :
    ((enumConsoleSap .ok true host.sapHost classname).1 = .ok ↔ host.Enumerable) ∧
      ((enumConsoleSap .ok true host.sapHost classname).1 = .ok →
        (enumConsoleSap .ok true host.sapHost classname).2 =
          host.sessions classname ++ host.idle.map (getConsoleSap host.pfx classname)) := by
  have hempty : host.sapHost.guests.isEmpty = false := List.isEmpty_eq_false_iff.mpr hguests
  -- with guests there, neither the class nor the connection ends it at once
  rw [enumConsoleSap, if_neg (fun h => h rfl), if_neg (fun h => nomatch h), hempty,
    if_neg Bool.false_ne_true]
  rw [show host.sapHost.guests = host.guests from rfl, KernelHost.Enumerable, or_iff_right hguests]
  cases hfill : fillPortList host.guests with
  -- the list of ports comes first, its error ends the enumeration
  | error s =>
    -- a port that is no number ends the enumeration
    have hs : s ≠ .ok := fillPortList_error hfill
    refine ⟨iff_of_false hs fun h => ?_, fun h => absurd h hs⟩
    have hok := (fillPortList_ok_iff host.guests host.vncPorts).mpr ⟨h.1, rfl⟩
    rw [hfill] at hok
    cases hok
  | ok ports =>
    obtain ⟨hall, rfl⟩ := (fillPortList_ok_iff host.guests ports).mp hfill
    have hreadable : host.PortsReadable := hall
    obtain ⟨hiff, hlist⟩ := getVncSessions_spec host classname
    refine ⟨hiff.trans ?_, hlist⟩
    rw [idle_eq_nil_iff, and_iff_right hreadable]
    -- the second table decides whether the ports found idle can be told
    cases htcp6 : host.tcp6 with
    | ok table => exact iff_of_true (.inl rfl) (.inl rfl)
    | error why =>
      rw [KernelHost.rows, htcp6, rowsOf, List.append_nil]

theorem enumConsoleSap_of_no_guests (hguests : host.guests = []) :
    enumConsoleSap .ok true host.sapHost classname = (.ok, []) := by
  have hempty : host.sapHost.guests.isEmpty = true := List.isEmpty_iff.mpr hguests
  rw [enumConsoleSap, if_neg (fun h => h rfl), if_neg (fun h => nomatch h), if_pos hempty]

/-- **The enumeration**: every guest has its access points exactly when it succeeds. -/
theorem enumerated_iff :
    (∃ list, enumConsoleSap .ok true host.sapHost classname = (.ok, list) ∧
        list.Perm (host.accessPoints classname)) ↔ host.Enumerable := by
  by_cases hguests : host.guests = []
  · refine iff_of_true ⟨[], enumConsoleSap_of_no_guests host classname hguests, ?_⟩ (.inl hguests)
    rw [KernelHost.accessPoints, KernelHost.vncPorts, hguests]
    exact .refl _
  · obtain ⟨hiff, hlist⟩ := enumConsoleSap_of_guests host classname hguests
    rw [← hiff]
    refine ⟨?_, fun h => ?_⟩
    · rintro ⟨list, h, -⟩
      rw [h]
    · have hperm := accessPoints_perm host classname
      rw [← hlist h] at hperm
      exact ⟨_, Prod.ext h rfl, hperm⟩

/-- An access point is that of a guest's port, with some remote port. -/
theorem exists_of_mem_accessPoints {inst : Instance} (h : inst ∈ host.accessPoints classname) :
    ∃ port ∈ host.vncPorts, ∃ remotePort,
      inst = getConsoleSap host.pfx classname { port with remotePort := remotePort } := by
  obtain ⟨port, hport, hinst⟩ := List.mem_flatMap.mp h
  refine ⟨port, hport, ?_⟩
  rw [joined] at hinst
  split at hinst
  · obtain ⟨row, -, rfl⟩ := List.mem_map.mp hinst
    exact ⟨_, rfl⟩
  · rw [List.mem_singleton.mp hinst]
    exact ⟨port.remotePort, rfl⟩

end Exact

/-! ### Lookups by name -/

theorem getStr_systemName (pfx classname : String) (port : VncPort) :
    (getConsoleSap pfx classname port).getStr "SystemName" = some port.name := by
  simp [getConsoleSap, instFromDom, Instance.getStr]

theorem getStr_name (pfx classname : String) (port : VncPort) :
    (getConsoleSap pfx classname port).getStr "Name" =
      some (printD port.port ++ ":" ++ printD port.remotePort) := by
  simp [getConsoleSap, instFromDom, Instance.getStr]

/-- **A name is read back.** -/
theorem scanName_print (port remotePort : Int32) :
    scanName (printD port ++ ":" ++ printD remotePort) = some (port, remotePort) := by
  have htext : (printD port ++ ":" ++ printD remotePort).toList =
      (printD port).toList ++ ':' :: ((printD remotePort).toList ++ []) := by
    rw [String.toList_append, String.toList_append, List.append_assoc, List.append_nil]
    rfl
  have hport := @scanD_print port (':' :: ((printD remotePort).toList ++ []))
    (fun c hc => by cases hc; rfl)
  have hremotePort := @scanD_print remotePort [] (fun c hc => nomatch hc)
  simp only [scanName, htext, hport, Option.bind_eq_bind, Option.bind_some, scanChar, if_pos,
    hremotePort]

section Lookup

variable (host : KernelHost) (classname sys : String)

/-- The VNC device of the guest of a name. -/
def KernelHost.vncOf : Option GraphicsDevice :=
  (host.guests.find? (·.name = sys)).bind checkGraphics

/-- **What a lookup gives**: an access point with any port of the name, if the guest has a VNC
device at all. -/
theorem getConsoleSapByName_eq (name : String) {gdev : GraphicsDevice}
    (hgdev : host.vncOf sys = some gdev) :
    (∀ lport rport, scanName name = some (lport, rport) →
        getConsoleSapByName .ok host.sapHost classname sys (some name) =
          .ok (getConsoleSap host.pfx classname
            { name := sys, port := lport, remotePort := rport })) ∧
      (scanName name = none → ∃ s,
        getConsoleSapByName .ok host.sapHost classname sys (some name) = .error s) := by
  -- the guest is found by its name, its VNC display with it
  obtain ⟨guest, hguest, hgraphics⟩ := Option.bind_eq_some_iff.mp hgdev
  have hname : guest.name = sys := by simpa using List.find?_some hguest
  have hfind : host.sapHost.guests.find? (·.name = sys) = some guest := hguest
  -- the name is scanned for the two ports, and nothing is compared with the display
  refine ⟨fun lport rport hscan => ?_, fun hscan => ?_⟩
  · simp only [getConsoleSapByName, hfind, hgraphics, hscan, hname]
    rfl
  · simp only [getConsoleSapByName, hfind, hgraphics, hscan]
    exact ⟨_, rfl⟩

theorem getConsoleSapByName_of_no_vnc (name : String) (hgdev : host.vncOf sys = none) :
    ∃ s, getConsoleSapByName .ok host.sapHost classname sys (some name) = .error s := by
  cases hguest : host.guests.find? (·.name = sys) with
  | none =>
    have hfind : host.sapHost.guests.find? (·.name = sys) = none := hguest
    simp only [getConsoleSapByName, hfind]
    exact ⟨_, rfl⟩
  | some guest =>
    have hfind : host.sapHost.guests.find? (·.name = sys) = some guest := hguest
    rw [KernelHost.vncOf, hguest, Option.bind_some] at hgdev
    simp only [getConsoleSapByName, hfind, hgdev]
    exact ⟨_, rfl⟩

/-- A guest's port is found by the name of the guest. -/
theorem vncOf_of_mem_vncPorts {port : VncPort} (h : port ∈ host.vncPorts) :
    (host.vncOf port.name).bind scanPort = some port.port := by
  obtain ⟨guest, hguest, hport⟩ := List.mem_filterMap.mp h
  obtain ⟨gdev, hgraphics, hscan⟩ := Option.bind_eq_some_iff.mp hport
  obtain ⟨lport, hlport, rfl⟩ := Option.map_eq_some_iff.mp hscan
  have hfind : host.guests.find? (·.name = guest.name) = some guest :=
    lookupKey_of_mem Guest.name host.nodup_names hguest
  rw [KernelHost.vncOf, hfind, Option.bind_some, hgraphics, Option.bind_some, hlport]

end Lookup

/-! ### The enumeration and the lookups -/

/-- Console access points as they should be: the enumeration has those of each guest, a lookup
by the name of one gives it, and a name with another port than the guest's is refused. -/
structure SapsRight (host : KernelHost) (classname sys name : String) : Prop where
  enumerated : ∃ list, enumConsoleSap .ok true host.sapHost classname = (.ok, list) ∧
    list.Perm (host.accessPoints classname)
  found : ∀ list, enumConsoleSap .ok true host.sapHost classname = (.ok, list) →
    ∀ inst ∈ list, inst.getStr "SystemName" = some sys → inst.getStr "Name" = some name →
      getConsoleSapByName .ok host.sapHost classname sys (some name) = .ok inst
  rejected : ∀ lport rport, scanName name = some (lport, rport) →
    (host.vncOf sys).bind scanPort ≠ some lport →
      ∃ s, getConsoleSapByName .ok host.sapHost classname sys (some name) = .error s

/-- The name does not bear another port than the one of the VNC device asked for. -/
def KernelHost.OwnPort (host : KernelHost) (sys name : String) : Prop :=
  ∀ gdev lport rport, host.vncOf sys = some gdev → scanName name = some (lport, rport) →
    scanPort gdev = some lport

/-- A host with one guest, which has no session. -/
def idleHost (tcp6 : Except String TcpTable) : KernelHost where
  pfx := "KVM"
  guests := [{
    name := "vm"
    graphics := some [
      { type := .graphics, id := none, dev := { type := some "vnc", port := some "5900" } }] }]
  nodup_names := List.nodup_singleton _
  tcp4 := .ok { header := [], newline_notMem_header := List.not_mem_nil, rows := [] }
  tcp6 := tcp6

/-- Without the second table the idle guest has no access point, and with it a name with the port
`1` is found. -/
theorem not_sapsRight :
    ¬ SapsRight (idleHost (.error "No such file or directory")) "KVM_KVMRedirectionSAP" "vm"
        "5900:-1" ∧
      ¬ SapsRight (idleHost (.ok
        { header := [], newline_notMem_header := List.not_mem_nil, rows := [] }))
        "KVM_KVMRedirectionSAP" "vm" "1:0" := by
  -- a port of no session is missing from the list, and a made-up name is resolved
  refine ⟨fun h => ?_, fun h => ?_⟩
  · obtain ⟨list, henum, -⟩ := h.enumerated
    have hok := congrArg Prod.fst henum
    dsimp only at hok
    revert hok
    decide +kernel
  · obtain ⟨s, hs⟩ := h.rejected 1 0 (by decide +kernel) (by decide +kernel)
    have hok := congrArg Except.isOk hs
    change _ = false at hok
    revert hok
    decide +kernel

/-- **When the access points are right**: the enumeration goes through, which takes the second
table for an idle guest, and the name has the guest's port. The list is compared with the sockets
of the kernel's tables (`enumerated_iff`); a name is two ports, which are read back from it
(`scanName_print`), but the look-up does not compare them with those of the guest. -/
theorem sapsRight_iff (host : KernelHost) (classname sys name : String) :
    SapsRight host classname sys name ↔ host.Enumerable ∧ host.OwnPort sys name := by
  rw [← enumerated_iff host classname]
  -- the two conditions are two halves of what is asked, the second about names alone
  refine ⟨fun h => ⟨h.enumerated, ?_⟩, fun h => ⟨h.1, ?_, ?_⟩⟩
  · -- another port is found all the same
    intro gdev lport rport hgdev hscan
    by_contra hne
    have hport : (host.vncOf sys).bind scanPort ≠ some lport := by
      rw [hgdev]
      exact hne
    obtain ⟨s, hs⟩ := h.rejected lport rport hscan hport
    rw [(getConsoleSapByName_eq host classname sys name hgdev).1 lport rport hscan] at hs
    cases hs
  -- what is listed is of some guest's display, under its name and port
  · intro list hlist inst hinst hsys hname
    obtain ⟨list', hlist', hperm⟩ := h.1
    have hsame : list = list' := (Prod.ext_iff.mp (hlist.symm.trans hlist')).2
    rw [hsame, hperm.mem_iff] at hinst
    obtain ⟨port, hport, remotePort, rfl⟩ := exists_of_mem_accessPoints host classname hinst
    rw [getStr_systemName, Option.some.injEq] at hsys
    rw [getStr_name, Option.some.injEq] at hname
    have hvnc := vncOf_of_mem_vncPorts host hport
    obtain ⟨gdev, hgdev, -⟩ := Option.bind_eq_some_iff.mp hvnc
    dsimp only at hsys hname
    subst hsys hname
    exact (getConsoleSapByName_eq host classname _ _ hgdev).1 _ _ (scanName_print _ _)
  -- a name of a port that is not the guest's is refused only if the guest has none
  · intro lport rport hscan hport
    cases hgdev : host.vncOf sys with
    | none => exact getConsoleSapByName_of_no_vnc host classname sys name hgdev
    | some gdev =>
      rw [hgdev, Option.bind_some] at hport
      exact absurd (h.2 gdev lport rport hgdev hscan) hport

end LibvirtCim.ConsoleSap
