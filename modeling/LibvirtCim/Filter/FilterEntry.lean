import LibvirtCim.Filter.Addresses
import LibvirtCim.Filter.AclParsing
import Mathlib.Data.List.Infix

/-!
# The instance of a rule

`convert_rule_to_instance` of `Virt_FilterEntry.c`: the class of the instance is chosen by the type
of the rule, and the values of the rule are converted by one of two functions, of which each reads
the rule through a member of the union. Rules for ARP are converted through the member of MAC
rules.

`get_convertRuleToInstance` says what each property is set to: what `sourceOf` names, converted.
-/

open Framework

namespace LibvirtCim.Filter

/-! ### Instances -/

/-- A value of a property. -/
inductive FilterValue
  | uint8 (n : UInt8)
  | uint16 (n : UInt16)
  | sint16 (n : Int16)
  | octets (array : List UInt8)
  | chars (s : String)
  deriving DecidableEq

/-- An instance: the class without its prefix, and the properties that were set, the last first. -/
structure EntryInstance where
  base : String
  props : List (String × FilterValue) := []
  deriving DecidableEq

namespace EntryInstance

/-- `CMSetProperty`. -/
def set (inst : EntryInstance) (name : String) (value : FilterValue) : EntryInstance :=
  { inst with props := (name, value) :: inst.props }

/-- `CMGetProperty`. -/
def get (inst : EntryInstance) (name : String) : Option FilterValue :=
  inst.props.lookup name

/-- A property that is set when there is a value. -/
def setOpt (inst : EntryInstance) (name : String) : Option FilterValue → EntryInstance
  | none => inst
  | some value => inst.set name value

@[simp] theorem get_set (inst : EntryInstance) (name other : String) (value : FilterValue) :
    (inst.set name value).get other = if other = name then some value else inst.get other := by
  unfold get set
  rw [List.lookup_cons]
  by_cases h : other = name
  · rw [if_pos h, h, beq_self_eq_true]
  · rw [if_neg h, beq_false_of_ne h]

@[simp] theorem get_setOpt (inst : EntryInstance) (name other : String)
    (value : Option FilterValue) :
    (inst.setOpt name value).get other = if other = name then value.or (inst.get other)
      else inst.get other := by
  cases value with
  | none => exact (ite_self _).symm
  | some value => exact get_set inst name other value

end EntryInstance

/-! ### Values -/

/-- `convert_direction`. -/
def convertDirection (s : String) : UInt16 :=
  if streqc s "in" then 1 else if streqc s "out" then 2 else if streqc s "inout" then 3 else 0

/-- `convert_priority`. -/
def convertPriority (s : Option String) : Int16 :=
  match s with
  | none => 0
  | some s => Int16.ofInt (atoi s)

/-- `convert_action`. -/
def convertAction (s : String) : UInt16 :=
  if streqc s "accept" then 1 else if streqc s "drop" then 2 else if streqc s "reject" then 3
  else if streqc s "return" then 4 else if streqc s "continue" then 5 else 0

/-- `convert_protocol_id`. -/
def convertProtocolId (s : String) : UInt16 :=
  if streqc s "ipv4" then 2048 else if streqc s "arp" then 2054 else if streqc s "rarp" then 32821
  else if streqc s "ipv6" then 34525 else 0

/-- `strtoul` of base 16, of which 16 bits are kept. -/
def strtoul16 (s : String) : UInt16 :=
  match scanX s.toList with
  | .number value _ => value.toUInt16
  | .mismatch => 0
  | .endOfInput => 0

/-- The protocol of a MAC rule, by its name or its number. -/
def protocolNumber (s : String) : UInt16 :=
  if convertProtocolId s = 0 then strtoul16 s else convertProtocolId s

/-- The properties that hold what a rule matches. -/
inductive MatchProperty
  | srcMac | srcMacMask | destMac | destMacMask | protocolId8021
  | srcAddress | srcEndOfRange | srcMask | destAddress | destEndOfRange | destMask
  | srcPortStart | srcPortEnd | destPortStart | destPortEnd
  deriving DecidableEq

namespace MatchProperty

def name : MatchProperty → String
  | srcMac => "HdrSrcMACAddr8021"
  | srcMacMask => "HdrSrcMACMask8021"
  | destMac => "HdrDestMACAddr8021"
  | destMacMask => "HdrDestMACMask8021"
  | protocolId8021 => "HdrProtocolID8021"
  | srcAddress => "HdrSrcAddress"
  | srcEndOfRange => "HdrSrcAddressEndOfRange"
  | srcMask => "HdrSrcMask"
  | destAddress => "HdrDestAddress"
  | destEndOfRange => "HdrDestAddressEndOfRange"
  | destMask => "HdrDestMask"
  | srcPortStart => "HdrSrcPortStart"
  | srcPortEnd => "HdrSrcPortEnd"
  | destPortStart => "HdrDestPortStart"
  | destPortEnd => "HdrDestPortEnd"

/-- What a string is converted to for a property. The memory behind the numbers of a MAC address
is that of the call. -/
def convert (stack : MatchProperty → ℕ → UInt32) (prop : MatchProperty) (s : String) :
    Option FilterValue :=
  match prop with
  | srcMac | srcMacMask | destMac | destMacMask =>
    (octetsToCmpi (octetsFromMac (stack prop) (some s))).map .octets
  | protocolId8021 => some (.uint16 (protocolNumber s))
  | srcAddress | srcEndOfRange | destAddress | destEndOfRange =>
    (octetsToCmpi (octetsFromIp (some s))).map .octets
  | srcMask | destMask => (maskToCmpi s).map .octets
  | srcPortStart | srcPortEnd | destPortStart | destPortEnd =>
    some (.uint16 (UInt16.ofInt (atoi s)))

end MatchProperty

/-- A property is set to what a field of the rule is converted to. -/
def setMatch (stack : MatchProperty → ℕ → UInt32) (prop : MatchProperty) (field : Option String)
    (inst : EntryInstance) : EntryInstance :=
  inst.setOpt prop.name (field.bind (prop.convert stack))

/-! ### Fields -/

/-- A pointer of the union. -/
def AclRule.slot (rule : AclRule) (i : ℕ) : Option String := (rule.var[i]?).join

/-- `convert_mac_rule_to_instance`. It reads the member of a MAC rule, whatever the rule is. -/
def convertMacRuleToInstance (stack : MatchProperty → ℕ → UInt32) (rule : AclRule)
    (inst : EntryInstance) : EntryInstance :=
  setMatch stack .protocolId8021 (rule.slot 4) <|
    setMatch stack .destMacMask (rule.slot 3) <|
    setMatch stack .destMac (rule.slot 2) <|
    setMatch stack .srcMacMask (rule.slot 1) <|
    setMatch stack .srcMac (rule.slot 0) inst

/-- `struct rule_data_t`. -/
structure RuleData where
  srcmacaddr : Option String := none
  srcmacmask : Option String := none
  dstmacaddr : Option String := none
  dstmacmask : Option String := none
  srcipaddr : Option String := none
  srcipmask : Option String := none
  dstipaddr : Option String := none
  dstipmask : Option String := none
  srcipfrom : Option String := none
  srcipto : Option String := none
  dstipfrom : Option String := none
  dstipto : Option String := none
  srcportstart : Option String := none
  srcportend : Option String := none
  dstportstart : Option String := none
  dstportend : Option String := none

/-- `fill_rule_data`. The destination MAC address is that of the source; nothing reads it. -/
def fillRuleData (rule : AclRule) : RuleData :=
  match rule.type with
  | .ip =>
    { srcmacaddr := rule.slot 0
      srcmacmask := rule.slot 1
      dstmacaddr := rule.slot 0
      dstmacmask := rule.slot 3
      srcipaddr := rule.slot 4
      srcipmask := rule.slot 5
      dstipaddr := rule.slot 6
      dstipmask := rule.slot 7
      srcportstart := rule.slot 9
      srcportend := rule.slot 10
      dstportstart := rule.slot 11
      dstportend := rule.slot 12 }
  | .tcp =>
    { srcmacaddr := rule.slot 0
      srcipaddr := rule.slot 1
      srcipmask := rule.slot 2
      dstipaddr := rule.slot 3
      dstipmask := rule.slot 4
      srcipfrom := rule.slot 5
      srcipto := rule.slot 6
      dstipfrom := rule.slot 7
      dstipto := rule.slot 8
      srcportstart := rule.slot 9
      srcportend := rule.slot 10
      dstportstart := rule.slot 11
      dstportend := rule.slot 12 }
  | .icmpIgmp =>
    { srcmacaddr := rule.slot 0
      srcmacmask := rule.slot 1
      dstmacaddr := rule.slot 0
      dstmacmask := rule.slot 3
      srcipaddr := rule.slot 4
      srcipmask := rule.slot 5
      dstipaddr := rule.slot 6
      dstipmask := rule.slot 7
      srcipfrom := rule.slot 8
      srcipto := rule.slot 9
      dstipfrom := rule.slot 10
      dstipto := rule.slot 11 }
  | .unknown | .mac | .arp => {}

/-- `convert_ip_rule_to_instance` for the addresses of one side: a range, or an address and its
mask. -/
def convertSide (stack : MatchProperty → ℕ → UInt32) (address endOfRange mask : MatchProperty)
    (ipaddr ipmask ipfrom ipto : Option String) (inst : EntryInstance) : EntryInstance :=
  if ipfrom.isSome ∧ ipto.isSome then
    setMatch stack endOfRange ipto (setMatch stack address ipfrom inst)
  else setMatch stack mask ipmask (setMatch stack address ipaddr inst)

/-- `convert_ip_rule_to_instance`. The name of the protocol is there when the type is. -/
def convertIpRuleToInstance (stack : MatchProperty → ℕ → UInt32) (rule : AclRule)
    (inst : EntryInstance) : EntryInstance :=
  let ipver : UInt8 :=
    if "v6".toList <:+: (rule.protocolId.getD "").toList then 6 else 4
  let data := fillRuleData rule
  setMatch stack .destPortEnd data.dstportend <|
    setMatch stack .destPortStart data.dstportstart <|
    setMatch stack .srcPortEnd data.srcportend <|
    setMatch stack .srcPortStart data.srcportstart <|
    convertSide stack .destAddress .destEndOfRange .destMask data.dstipaddr data.dstipmask
      data.dstipfrom data.dstipto <|
    convertSide stack .srcAddress .srcEndOfRange .srcMask data.srcipaddr data.srcipmask
      data.srcipfrom data.srcipto <|
    inst.set "HdrIPVersion" (.uint8 ipver)

/-! ### `convert_rule_to_instance` -/

/-- What the provider asks: whether `get_typed_instance` makes an instance, and the name and the
class of the host system. -/
structure EntryHost where
  typed : String → Bool
  system : Option (String × String)

/-- The class of a rule. -/
def entryBase : RuleType → String
  | .mac | .arp => "Hdr8021Filter"
  | .ip | .tcp | .icmpIgmp => "IPHeadersFilter"
  | .unknown => "FilterEntry"

/-- The conversion of a rule. -/
def convertFields (stack : MatchProperty → ℕ → UInt32) (rule : AclRule) :
    EntryInstance → EntryInstance :=
  match rule.type with
  | .mac | .arp => convertMacRuleToInstance stack rule
  | .ip | .tcp | .icmpIgmp => convertIpRuleToInstance stack rule
  | .unknown => id

/-- `convert_rule_to_instance`: the instance and the status. -/
def convertRuleToInstance (stack : MatchProperty → ℕ → UInt32) (host : EntryHost) (rule : AclRule) :
    Option EntryInstance × CmpiStatus :=
  let base := entryBase rule.type
  if host.typed base then
    match host.system with
    -- the instance is returned all the same
    | none => (some { base := base }, .failed "Unable to get host attributes")
    | some (sysName, sysCcname) =>
      let inst : EntryInstance := { base := base }
      let inst := inst.set "SystemName" (.chars sysName)
      let inst := inst.set "SystemCreationClassName" (.chars sysCcname)
      let inst := inst.setOpt "Name" (rule.name.map .chars)
      let inst := inst.set "Action" (.uint16 (convertAction rule.action))
      let inst := inst.set "Direction" (.uint16 (convertDirection rule.direction))
      let inst := inst.set "Priority" (.sint16 (convertPriority rule.priority))
      (some (convertFields stack rule inst), .ok)
  else (none, .failed "Unable to get filter entry instance")

/-! ### What a property is set to -/

/-- The field of the rule that a property is set from. -/
def sourceOf (rule : AclRule) (prop : MatchProperty) : Option String :=
  let data := fillRuleData rule
  let mac (field : Option String) := if rule.type = .mac ∨ rule.type = .arp then field else none
  let srcRange := data.srcipfrom.isSome ∧ data.srcipto.isSome
  let destRange := data.dstipfrom.isSome ∧ data.dstipto.isSome
  match prop with
  | .srcMac => mac (rule.slot 0)
  | .srcMacMask => mac (rule.slot 1)
  | .destMac => mac (rule.slot 2)
  | .destMacMask => mac (rule.slot 3)
  | .protocolId8021 => mac (rule.slot 4)
  | .srcAddress => if srcRange then data.srcipfrom else data.srcipaddr
  | .srcEndOfRange => if srcRange then data.srcipto else none
  | .srcMask => if srcRange then none else data.srcipmask
  | .destAddress => if destRange then data.dstipfrom else data.dstipaddr
  | .destEndOfRange => if destRange then data.dstipto else none
  | .destMask => if destRange then none else data.dstipmask
  | .srcPortStart => data.srcportstart
  | .srcPortEnd => data.srcportend
  | .destPortStart => data.dstportstart
  | .destPortEnd => data.dstportend

section Conversion

variable {stack : MatchProperty → ℕ → UInt32}

theorem name_injective : Function.Injective MatchProperty.name := by
  intro a b h
  cases a <;> cases b <;> first | rfl | exact absurd h (by decide)

theorem get_setMatch (prop other : MatchProperty) (field : Option String) (inst : EntryInstance) :
    (setMatch stack prop field inst).get other.name =
      if other = prop then (field.bind (prop.convert stack)).or (inst.get other.name)
      else inst.get other.name := by
  rw [setMatch, EntryInstance.get_setOpt]
  simp only [name_injective.eq_iff]

theorem name_ne_ipVersion (prop : MatchProperty) : prop.name ≠ "HdrIPVersion" := by
  cases prop <;> decide

/-- The addresses of one side are set field by field, of which some are none. -/
theorem convertSide_eq (address endOfRange mask : MatchProperty)
    (ipaddr ipmask ipfrom ipto : Option String) (inst : EntryInstance) :
    convertSide stack address endOfRange mask ipaddr ipmask ipfrom ipto inst =
      setMatch stack mask (if ipfrom.isSome ∧ ipto.isSome then none else ipmask)
        (setMatch stack endOfRange (if ipfrom.isSome ∧ ipto.isSome then ipto else none)
          (setMatch stack address
            (if ipfrom.isSome ∧ ipto.isSome then ipfrom else ipaddr) inst)) := by
  unfold convertSide
  split_ifs
  · rfl
  · rfl

variable (rule : AclRule) {inst : EntryInstance}

/-- A rule of the one class. -/
theorem get_convertMacRuleToInstance (prop : MatchProperty) (hnone : inst.get prop.name = none)
    (htype : rule.type = .mac ∨ rule.type = .arp) :
    (convertMacRuleToInstance stack rule inst).get prop.name =
      (sourceOf rule prop).bind (prop.convert stack) := by
  have hdata : fillRuleData rule = {} := by
    unfold fillRuleData
    obtain h | h := htype
    · rw [h]
    · rw [h]
  unfold convertMacRuleToInstance sourceOf
  rw [hdata]
  simp only [get_setMatch, hnone, Option.or_none, htype, if_true]
  cases prop <;> simp

/-- A rule of the other class. -/
theorem get_convertIpRuleToInstance (prop : MatchProperty) (hnone : inst.get prop.name = none)
    (htype : ¬ (rule.type = .mac ∨ rule.type = .arp)) :
    (convertIpRuleToInstance stack rule inst).get prop.name =
      (sourceOf rule prop).bind (prop.convert stack) := by
  unfold convertIpRuleToInstance sourceOf
  simp only [convertSide_eq, get_setMatch, EntryInstance.get_set, name_ne_ipVersion, if_false,
    hnone,
    Option.or_none, htype]
  cases prop <;> simp

theorem sourceOf_of_unknown (prop : MatchProperty) (htype : rule.type = .unknown) :
    sourceOf rule prop = none := by
  have hdata : fillRuleData rule = {} := by
    unfold fillRuleData
    rw [htype]
  unfold sourceOf
  rw [hdata, htype]
  cases prop <;> rfl

/-- The properties that every entry has are no properties of a match. -/
theorem get_common (base sysName sysCcname : String) (prop : MatchProperty) :
    (((((((({ base := base } : EntryInstance).set "SystemName" (.chars sysName)).set
      "SystemCreationClassName" (.chars sysCcname)).setOpt "Name" (rule.name.map .chars)).set
        "Action" (.uint16 (convertAction rule.action))).set
          "Direction" (.uint16 (convertDirection rule.direction))).set
            "Priority" (.sint16 (convertPriority rule.priority))).get prop.name) = none := by
  simp only [EntryInstance.get_set, EntryInstance.get_setOpt]
  cases prop <;> rfl

/-- **What the properties of the instance are.** -/
theorem get_convertRuleToInstance {host : EntryHost} {rule : AclRule}
    (h : convertRuleToInstance stack host rule = (some inst, .ok)) (prop : MatchProperty) :
    inst.get prop.name = (sourceOf rule prop).bind (prop.convert stack) := by
  unfold convertRuleToInstance at h
  dsimp only at h
  split_ifs at h
  swap
  · cases h
  split at h
  · cases h
  next sysName sysCcname _ =>
  obtain rfl := Option.some.inj (Prod.mk.inj h).1
  have hcommon := get_common rule (entryBase rule.type) sysName sysCcname prop
  generalize EntryInstance.set _ "Priority" _ = common at hcommon ⊢
  cases htype : rule.type with
  | mac =>
    rw [convertFields, htype]
    exact get_convertMacRuleToInstance rule prop hcommon (.inl htype)
  | arp =>
    rw [convertFields, htype]
    exact get_convertMacRuleToInstance rule prop hcommon (.inr htype)
  | ip =>
    rw [convertFields, htype]
    exact get_convertIpRuleToInstance rule prop hcommon (by rw [htype]; decide)
  | tcp =>
    rw [convertFields, htype]
    exact get_convertIpRuleToInstance rule prop hcommon (by rw [htype]; decide)
  | icmpIgmp =>
    rw [convertFields, htype]
    exact get_convertIpRuleToInstance rule prop hcommon (by rw [htype]; decide)
  | unknown =>
    rw [convertFields, htype, sourceOf_of_unknown rule prop htype]
    exact hcommon

end Conversion

end LibvirtCim.Filter
