import LibvirtCim.Device.Kind
import LibvirtCim.Framework.Decimal
import Mathlib.Data.List.Basic

/-!
# Settings

A resource allocation setting (RASD) as the providers see it: an instance of a class,
with a value for some of its properties. The getters of libcmpiutil succeed on a
property that is there, is not null and has the type that is asked for.

Also the conversions of `sscanf` the providers split addresses with: `%m[^c]` reads
at least one character up to `c`, `%ms` skips white space and reads at least one
character up to white space.
-/

open Framework LibvirtCim.Device

namespace LibvirtCim.Rasd

/-- A property value. -/
inductive CmpiValue
  | string (s : String)
  | uint16 (n : UInt16)
  | uint32 (n : UInt32)
  | uint64 (n : UInt64)
  | boolean (b : Bool)
  /-- an array of strings, whose elements may be null -/
  | stringA (ss : List (Option String))
  deriving DecidableEq, Repr

/-- An instance: the two halves of its class name, and its properties, the latest
value of each first. -/
structure Instance where
  pfx : String
  base : String
  props : List (String × CmpiValue) := []
  deriving DecidableEq, Repr

namespace Instance

/-- `CLASSNAME` of the object path. -/
def classname (inst : Instance) : String :=
  inst.pfx ++ "_" ++ inst.base

/-- `CMSetProperty`. -/
def set (inst : Instance) (name : String) (value : CmpiValue) : Instance :=
  { inst with props := (name, value) :: inst.props }

/-- `CMSetProperty` with `CMPI_chars`: a null string leaves the property null. -/
def setChars (inst : Instance) (name : String) (value : Option String) : Instance :=
  match value with
  | none => inst
  | some s => inst.set name (.string s)

/-- `CMSetProperty` under a condition on a pointer or a flag. -/
def setIf (inst : Instance) (cond : Bool) (name : String) (value : CmpiValue) : Instance :=
  if cond then inst.set name value else inst

/-- `cu_merge_instances`: the properties of the source over those of the destination. -/
def merge (src dest : Instance) : Instance :=
  { dest with props := src.props ++ dest.props }

/-- `CMGetProperty`. -/
def get (inst : Instance) (name : String) : Option CmpiValue :=
  inst.props.lookup name

/-- `cu_get_str_prop`. -/
def getStr (inst : Instance) (name : String) : Option String :=
  match inst.get name with
  | some (.string s) => some s
  | _ => none

/-- `cu_get_u16_prop`. -/
def getU16 (inst : Instance) (name : String) : Option UInt16 :=
  match inst.get name with
  | some (.uint16 n) => some n
  | _ => none

/-- `cu_get_u32_prop`. -/
def getU32 (inst : Instance) (name : String) : Option UInt32 :=
  match inst.get name with
  | some (.uint32 n) => some n
  | _ => none

/-- `cu_get_u64_prop`. -/
def getU64 (inst : Instance) (name : String) : Option UInt64 :=
  match inst.get name with
  | some (.uint64 n) => some n
  | _ => none

/-- `cu_get_bool_prop`. -/
def getBool (inst : Instance) (name : String) : Option Bool :=
  match inst.get name with
  | some (.boolean b) => some b
  | _ => none

/-- `cu_get_array_prop`, on an array of strings. -/
def getArray (inst : Instance) (name : String) : Option (List (Option String)) :=
  match inst.get name with
  | some (.stringA ss) => some ss
  | _ => none

@[simp] theorem get_set (inst : Instance) (name name' : String) (value : CmpiValue) :
    (inst.set name value).get name' = if name' = name then some value else inst.get name' := by
  unfold get set
  rw [List.lookup_cons]
  by_cases h : name' = name
  · rw [if_pos h, beq_iff_eq.mpr h]
  · rw [if_neg h, beq_eq_false_iff_ne.mpr h]

@[simp] theorem get_setChars (inst : Instance) (name name' : String) (value : Option String) :
    (inst.setChars name value).get name' =
      if name' = name then (value.map CmpiValue.string).or (inst.get name')
      else inst.get name' := by
  cases value with
  | none => simp [setChars]
  | some s => simp [setChars]

@[simp] theorem get_setIf (inst : Instance) (cond : Bool) (name name' : String)
    (value : CmpiValue) :
    (inst.setIf cond name value).get name' =
      if cond ∧ name' = name then some value else inst.get name' := by
  cases cond <;> simp [setIf]

@[simp] theorem base_set (inst : Instance) (name : String) (value : CmpiValue) :
    (inst.set name value).base = inst.base := rfl

@[simp] theorem base_setChars (inst : Instance) (name : String) (value : Option String) :
    (inst.setChars name value).base = inst.base := by
  cases value with
  | none => rfl
  | some s => rfl

@[simp] theorem base_setIf (inst : Instance) (cond : Bool) (name : String) (value : CmpiValue) :
    (inst.setIf cond name value).base = inst.base := by
  cases cond with
  | false => rfl
  | true => rfl

end Instance

/-- The type of a setting: that of a device, or a storage volume. -/
inductive RasdType
  | dev (kind : DevKind)
  | image
  deriving DecidableEq, Repr

/-- `CIM_RES_TYPE_*` as a number. -/
def RasdType.number : RasdType → ℕ
  | .dev kind => kind.number
  | .image => 32768

/-- The classes of `res_type_from_rasd_classname`. -/
def typeOfBase : List (String × RasdType) :=
  [("DiskResourceAllocationSettingData", .dev .disk),
    ("DiskPoolResourceAllocationSettingData", .dev .disk),
    ("NetResourceAllocationSettingData", .dev .net),
    ("NetPoolResourceAllocationSettingData", .dev .net),
    ("ProcResourceAllocationSettingData", .dev .proc),
    ("MemResourceAllocationSettingData", .dev .mem),
    ("GraphicsResourceAllocationSettingData", .dev .graphics),
    ("InputResourceAllocationSettingData", .dev .input),
    ("StorageVolumeResourceAllocationSettingData", .image),
    ("ConsoleResourceAllocationSettingData", .dev .console),
    ("ControllerResourceAllocationSettingData", .dev .controller)]

/-- `res_type_from_rasd_classname`. -/
def resTypeFromRasdClassname (inst : Instance) : Option RasdType :=
  typeOfBase.lookup inst.base

/-! ### Splitting addresses -/

/-- `%m[^c]`. -/
def scanUpTo (c : Char) (cs : List Char) : Option (String × List Char) :=
  let field := cs.takeWhile (· ≠ c)
  if field = [] then none else some (String.ofList field, cs.drop field.length)

/-- A field up to a character that follows it. -/
theorem scanUpTo_append {c : Char} {field rest : List Char} (hne : field ≠ [])
    (hnot : c ∉ field) :
    scanUpTo c (field ++ c :: rest) = some (String.ofList field, c :: rest) := by
  have htake : (field ++ c :: rest).takeWhile (fun x => decide (x ≠ c)) = field := by
    rw [List.takeWhile_append_of_pos, List.takeWhile_cons_of_neg (by simp), List.append_nil]
    intro x hx
    have hxc : x ≠ c := by
      rintro rfl
      exact hnot hx
    simpa using hxc
  unfold scanUpTo
  simp only [htake, hne, if_false]
  simp

/-- A field up to the end. -/
theorem scanUpTo_of_not_mem {c : Char} {field : List Char} (hne : field ≠ []) (hnot : c ∉ field) :
    scanUpTo c field = some (String.ofList field, []) := by
  have htake : field.takeWhile (fun x => decide (x ≠ c)) = field := by
    rw [List.takeWhile_eq_self_iff]
    intro x hx
    have hxc : x ≠ c := by
      rintro rfl
      exact hnot hx
    simpa using hxc
  unfold scanUpTo
  simp only [htake, hne, if_false]
  simp

/-- `%ms`. -/
def scanWord (cs : List Char) : Option String :=
  let word := (cs.dropWhile isSpace).takeWhile fun c => !isSpace c
  if word = [] then none else some (String.ofList word)

/-- Literal characters of a format. -/
def scanLit (lit cs : List Char) : Option (List Char) :=
  if lit.isPrefixOf cs then some (cs.drop lit.length) else none

/-- `%m[^c]` with a literal and `%ms` after it: the first field, and the second if it
is there. -/
def scanPair (c : Char) (lit cs : List Char) : Option (String × Option String) :=
  (scanUpTo c cs).map fun (field, rest) => (field, (scanLit lit rest).bind scanWord)

/-- `parse_ip_address`: an address and, if there is one, a port. -/
def parseIpAddress (id : String) : Option (String × Option String) :=
  if '[' ∈ id.toList then
    (scanPair ']' [']', ':'] id.toList).map fun (ip, port) => (ip ++ "]", port)
  else scanPair ':' [':'] id.toList

/-- `parse_console_address`. -/
def parseConsoleAddress (id : String) : Option (String × String) := do
  let (path, port) ← scanPair ':' [':'] id.toList
  (path, ·) <$> port

/-- `parse_sdl_address`: the display and the authority. -/
def parseSdlAddress (id : String) : Option (Option String × Option String) :=
  match scanPair ':' [':'] id.toList with
  | some (xauth, display) => some (display, some xauth)
  | none =>
    match (scanLit [':'] id.toList).bind scanWord with
    | some display => some (some display, none)
    | none => if id = ":" then some (none, none) else none

/-- `parse_console_url`: protocol, host and port. -/
def parseConsoleUrl (url : String) : Option (String × String × Option String) := do
  let (protocol, address) ← scanPair ':' [':', '/', '/'] url.toList
  let address ← address
  let (host, port) ← parseIpAddress address
  some (protocol, host, port)

/-- `name_from_pool_id`. -/
def nameFromPoolId (id : String) : Option String :=
  match id.toList.dropWhile (· ≠ '/') with
  | [] => none
  | _ :: name => some (String.ofList name)

end LibvirtCim.Rasd
