import LibvirtCim.Filter.FilterEntry
import Mathlib.Tactic.IntervalCases

/-!
# The attributes of a rule

From an element of a rule to the properties of its instance: `parse_acl_rule` fills the member of
the union that is for the element (`readAttributes`), and the conversion sets the properties of a
match from it (`fieldProperties` tells which are whose).

* `parsed_iff` — when every attribute is in the field that is for it;
* `slots_iff` — when the properties are the converted fields, each under its own property;
* `attributes_iff` — both, for every rule.
-/

open Framework LibvirtCim.Device

namespace LibvirtCim.Filter

/-! ### Fields, attributes and properties -/

/-- The member of the union an element is parsed into. -/
def protocolType (name : String) : Option RuleType :=
  if name = "mac" then some .mac
  else if name ∈ ["arp", "rarp"] then some .arp
  else if name ∈ ["ip", "ipv6"] then some .ip
  else if name ∈ ["tcp", "tcp-ipv6", "udp", "udp-ipv6", "sctp", "sctp-ipv6"] then some .tcp
  else if name ∈ ["icmp", "icmpv6", "igmp", "igmp-ipv6", "esp", "esp-ipv6", "ah", "ah-ipv6",
      "udplite", "udplite-ipv6", "all", "all-ipv6"] then some .icmpIgmp
  else none

/-- The attribute each field of a member is for. -/
def fieldAttributes : RuleType → List String
  | .unknown => []
  | .mac => ["srcmacaddr", "srcmacmask", "dstmacaddr", "dstmacmask", "protocolid", "comment"]
  | .arp => ["srcmacaddr", "srcmacmask", "dstmacaddr", "dstmacmask", "hwtype", "protocoltype",
      "opcode", "arpsrcmacaddr", "arpdstmacaddr", "arpsrcipaddr", "arpdstipaddr", "comment"]
  | .ip => ["srcmacaddr", "srcmacmask", "dstmacaddr", "dstmacmask", "srcipaddr", "srcipmask",
      "dstipaddr", "dstipmask", "protocol", "srcportstart", "srcportend", "dstportstart",
      "dstportend", "comment"]
  | .tcp => ["srcmacaddr", "srcipaddr", "srcipmask", "dstipaddr", "dstipmask", "srcipfrom",
      "srcipto", "dstipfrom", "dstipto", "srcportstart", "srcportend", "dstportstart", "dstportend",
      "comment", "state"]
  | .icmpIgmp => ["srcmacaddr", "srcmacmask", "dstmacaddr", "dstmacmask", "srcipaddr", "srcipmask",
      "dstipaddr", "dstipmask", "srcipfrom", "srcipto", "dstipfrom", "dstipto", "type", "code",
      "comment", "state"]

/-- The attribute that is read for a field, if one is. -/
def readAttributes (type : RuleType) : List (Option String) :=
  (fieldAttributes type).map fun attr =>
    if type = .ip ∧ attr = "dstmacmask" then some "dstmacmaks"
    else if type = .icmpIgmp ∧ attr ∈ ["type", "code"] then none
    else some attr

/-- The properties that are for the fields of a member. -/
def fieldProperties : RuleType → List (ℕ × MatchProperty)
  | .unknown => []
  | .mac => [(0, .srcMac), (1, .srcMacMask), (2, .destMac), (3, .destMacMask), (4, .protocolId8021)]
  | .arp => [(0, .srcMac), (1, .srcMacMask), (2, .destMac), (3, .destMacMask)]
  | .ip => [(4, .srcAddress), (5, .srcMask), (6, .destAddress), (7, .destMask), (9, .srcPortStart),
      (10, .srcPortEnd), (11, .destPortStart), (12, .destPortEnd)]
  | .tcp => [(1, .srcAddress), (2, .srcMask), (3, .destAddress), (4, .destMask), (5, .srcAddress),
      (6, .srcEndOfRange), (7, .destAddress), (8, .destEndOfRange), (9, .srcPortStart),
      (10, .srcPortEnd), (11, .destPortStart), (12, .destPortEnd)]
  | .icmpIgmp => [(4, .srcAddress), (5, .srcMask), (6, .destAddress), (7, .destMask),
      (8, .srcAddress), (9, .srcEndOfRange), (10, .destAddress), (11, .destEndOfRange)]

/-- The elements of a rule that are parsed. -/
def protocols (rnode : Node) : List (Node × RuleType) :=
  rnode.children.filterMap fun child => (protocolType child.name).map fun type => (child, type)

/-- An attribute of an element of a rule: the element, its type, the field and the value. -/
structure Given (rnode child : Node) (type : RuleType) (i : ℕ) (v : String) : Prop where
  mem : (child, type) ∈ protocols rnode
  value : ∃ attr, (fieldAttributes type)[i]? = some attr ∧ getAttrValue child attr = some v

/-- **Every attribute is in its field**, those of the rule itself included. -/
structure Parsed (rnode : Node) (rule : AclRule) : Prop where
  action : some rule.action = getAttrValue rnode "action"
  direction : some rule.direction = getAttrValue rnode "direction"
  priority : rule.priority = getAttrValue rnode "priority"
  statematch : rule.statematch = getAttrValue rnode "statematch"
  fields : ∀ child type i v, Given rnode child type i v → rule.type = type ∧ rule.slot i = some v

/-- **The instance reports the attributes** that have a property, and no other value. -/
structure Reported (stack : MatchProperty → ℕ → UInt32) (rnode : Node) (inst : EntryInstance) :
    Prop where
  each : ∀ child type i v prop, Given rnode child type i v → (i, prop) ∈ fieldProperties type →
    inst.get prop.name = prop.convert stack v
  only : ∀ prop value, inst.get prop.name = some value → ∃ child type i v,
    Given rnode child type i v ∧ (i, prop) ∈ fieldProperties type ∧
      prop.convert stack v = some value

/-- **No attribute is lost**: from the rule to its fields, and to the instance under whatever name
the rule gets. -/
structure AttributesKept (stack : MatchProperty → ℕ → UInt32) (host : EntryHost) (rnode : Node) :
    Prop where
  parsed : ∀ rule, parseAclRule rnode = some rule → Parsed rnode rule
  reported : ∀ rule name inst, parseAclRule rnode = some rule →
    convertRuleToInstance stack host { rule with name := name } = (some inst, .ok) →
    Reported stack rnode inst

/-! ### The parser -/

/-- One element that is parsed. -/
def fillRule (rule : AclRule) (p : Node × RuleType) : AclRule :=
  { rule with
    protocolId := some p.1.name
    type := p.2
    var := fillVar p.1 (readAttributes p.2) rule.var }

theorem parseRuleChild_eq (rule : AclRule) (child : Node) :
    parseRuleChild rule child =
      ((protocolType child.name).map fun type => fillRule rule (child, type)).getD rule := by
  unfold parseRuleChild protocolType
  split_ifs <;> rfl

/-- The rule before any element. -/
def freshRule (rnode : Node) (action direction : String) : AclRule where
  action := action
  direction := direction
  priority := getAttrValue rnode "priority"
  statematch := getAttrValue rnode "statematch"

theorem foldl_parseRuleChild (children : List Node) (rule : AclRule) :
    children.foldl parseRuleChild rule =
      (children.filterMap fun child =>
        (protocolType child.name).map fun type => (child, type)).foldl fillRule rule := by
  induction children generalizing rule with
  | nil => rfl
  | cons child children ih =>
    rw [List.foldl_cons, ih, parseRuleChild_eq]
    cases htype : protocolType child.name with
    | none => rw [List.filterMap_cons_none (by rw [htype]; rfl)]; rfl
    | some type => rw [List.filterMap_cons_some (by rw [htype]; rfl), List.foldl_cons]; rfl

theorem parseAclRule_eq_some_iff {rnode : Node} {rule : AclRule} :
    parseAclRule rnode = some rule ↔ ∃ action direction,
      getAttrValue rnode "action" = some action ∧ getAttrValue rnode "direction" = some direction ∧
        rule = (protocols rnode).foldl fillRule (freshRule rnode action direction) := by
  unfold parseAclRule
  simp only [Option.bind_eq_bind, Option.bind_eq_some_iff, Option.some.injEq, foldl_parseRuleChild]
  refine ⟨fun ⟨action, ha, direction, hd, h⟩ => ⟨action, direction, ha, hd, h.symm⟩, ?_⟩
  exact fun ⟨action, direction, ha, hd, h⟩ => ⟨action, ha, direction, hd, h.symm⟩

/-- The elements leave what is of the rule itself. -/
theorem own_foldl_fillRule (ps : List (Node × RuleType)) (rule : AclRule) :
    (ps.foldl fillRule rule).action = rule.action ∧
      (ps.foldl fillRule rule).direction = rule.direction ∧
      (ps.foldl fillRule rule).priority = rule.priority ∧
      (ps.foldl fillRule rule).statematch = rule.statematch := by
  induction ps generalizing rule with
  | nil => exact ⟨rfl, rfl, rfl, rfl⟩
  | cons p ps ih => exact ih (fillRule rule p)

theorem length_fillVar (rnode : Node) (attrs var : List (Option String)) :
    (fillVar rnode attrs var).length = var.length := by
  fun_induction fillVar rnode attrs var with
  | case1 => rfl
  | case2 => rfl
  | case3 attrs field var ih => rw [List.length_cons, List.length_cons, ih]
  | case4 attrname attrs field var ih => rw [List.length_cons, List.length_cons, ih]

/-- A pointer after a member was filled: what was read for it, or what it was. -/
theorem getElem?_fillVar (rnode : Node) {attrs var : List (Option String)}
    (hlen : attrs.length ≤ var.length) (i : ℕ) :
    ((fillVar rnode attrs var)[i]?).join =
      (attrs[i]?).join.elim (var[i]?).join (getAttrValue rnode) := by
  fun_induction fillVar rnode attrs var generalizing i with
  | case1 var => rfl
  | case2 attr attrs => cases hlen
  | case3 attrs field var ih =>
    cases i with
    | zero => rfl
    | succ i => exact ih (Nat.le_of_succ_le_succ hlen) i
  | case4 attrname attrs field var ih =>
    cases i with
    | zero => rfl
    | succ i => exact ih (Nat.le_of_succ_le_succ hlen) i

theorem length_readAttributes_le (type : RuleType) : (readAttributes type).length ≤ 16 := by
  cases type <;> decide

theorem length_foldl_fillRule (ps : List (Node × RuleType)) {rule : AclRule}
    (h : rule.var.length = 16) : (ps.foldl fillRule rule).var.length = 16 := by
  induction ps generalizing rule with
  | nil => exact h
  | cons p ps ih => exact ih ((length_fillVar _ _ _).trans h)

/-- A field of the element that was parsed last. -/
theorem slot_fillRule {rule : AclRule} (h : rule.var.length = 16) (p : Node × RuleType) (i : ℕ) :
    (fillRule rule p).slot i =
      ((readAttributes p.2)[i]?).join.elim (rule.slot i) (getAttrValue p.1) :=
  getElem?_fillVar p.1 (h ▸ length_readAttributes_le p.2) i

/-- What a pointer holds was read from one of the elements. -/
theorem exists_of_slot_foldl (ps : List (Node × RuleType)) {rule : AclRule}
    (hlen : rule.var.length = 16) {i : ℕ} {v : String}
    (h : (ps.foldl fillRule rule).slot i = some v) :
    rule.slot i = some v ∨ ∃ p ∈ ps, ∃ attrname, ((readAttributes p.2)[i]?).join = some attrname ∧
      getAttrValue p.1 attrname = some v := by
  -- each element fills the slots its type reads, over those before it
  induction ps generalizing rule with
  | nil => exact .inl h
  | cons p ps ih =>
    obtain hslot | ⟨q, hq, hread⟩ := ih ((length_fillVar _ _ _).trans hlen) h
    -- a slot that this element does not read keeps what it was
    · rw [slot_fillRule hlen] at hslot
      cases hattr : ((readAttributes p.2)[i]?).join with
      | none =>
        rw [hattr] at hslot
        exact .inl hslot
      | some attrname =>
        rw [hattr] at hslot
        exact .inr ⟨p, List.mem_cons_self, attrname, hattr, hslot⟩
    · exact .inr ⟨q, List.mem_cons_of_mem _ hq, hread⟩

/-! ### What is parsed -/

/-- Every attribute is read for its field, and the last element, of the same type, has the value
that is read for it. -/
def KeptByLast (rnode : Node) : Prop :=
  ∀ child type i v, Given rnode child type i v → ∃ last attrname,
    (protocols rnode).getLast? = some (last, type) ∧
      ((readAttributes type)[i]?).join = some attrname ∧ getAttrValue last attrname = some v

theorem read_of_field {type : RuleType} {i : ℕ} {attr : String}
    (h : (fieldAttributes type)[i]? = some attr) :
    ((readAttributes type)[i]?).join =
      if type = .ip ∧ attr = "dstmacmask" then some "dstmacmaks"
      else if type = .icmpIgmp ∧ attr ∈ ["type", "code"] then none
      else some attr := by
  rw [readAttributes, List.getElem?_map, h]
  rfl

/-- The fields that are not read are two, and no other member has a misspelt attribute there. -/
theorem fields_of_unread {type type' : RuleType} {i : ℕ} {attr attrname : String}
    (hattr : (fieldAttributes type)[i]? = some attr)
    (hunread : ((readAttributes type)[i]?).join = none)
    (hread : ((readAttributes type')[i]?).join = some attrname) :
    type' ≠ type ∧ (fieldAttributes type')[i]? = some attrname := by
  -- only ICMP and IGMP have attributes that are not read
  obtain ⟨rfl, hname⟩ : type = .icmpIgmp ∧ attr ∈ ["type", "code"] := by
    rw [read_of_field hattr] at hunread
    split_ifs at hunread with _ h
    exact h
  -- which stand in two slots of their own
  have hpos : i = 12 ∨ i = 13 := by
    have hall : ∀ i : Fin 16, (∃ attr ∈ ["type", "code"],
        (fieldAttributes .icmpIgmp)[i.val]? = some attr) → i.val = 12 ∨ i.val = 13 := by decide
    obtain ⟨hlt, -⟩ := List.getElem?_eq_some_iff.mp hattr
    exact hall ⟨i, hlt⟩ ⟨attr, hname, hattr⟩
  -- and no other type has these attributes
  obtain rfl | rfl := hpos
  · cases type' <;> simp_all [readAttributes, fieldAttributes]
  · cases type' <;> simp_all [readAttributes, fieldAttributes]

theorem length_freshRule (rnode : Node) (action direction : String) :
    (freshRule rnode action direction).var.length = 16 := List.length_replicate

/-- A rule is what its last element makes of it. -/
theorem last_of_parseAclRule {rnode : Node} {rule : AclRule} (h : parseAclRule rnode = some rule)
    {ps : List (Node × RuleType)} {last : Node} {type : RuleType}
    (hps : protocols rnode = ps ++ [(last, type)]) :
    rule.type = type ∧ ∃ fresh : AclRule, fresh.var = List.replicate 16 none ∧
      ∀ i, rule.slot i = ((readAttributes type)[i]?).join.elim
        ((ps.foldl fillRule fresh).slot i) (getAttrValue last) := by
  obtain ⟨action, direction, -, -, rfl⟩ := parseAclRule_eq_some_iff.mp h
  rw [hps, List.foldl_append]
  have hlen := length_foldl_fillRule ps (length_freshRule rnode action direction)
  exact ⟨rfl, _, rfl, fun i => slot_fillRule hlen (last, type) i⟩

theorem exists_last {rnode child : Node} {type : RuleType} (h : (child, type) ∈ protocols rnode) :
    ∃ ps last lastType, protocols rnode = ps ++ [(last, lastType)] :=
  ⟨_, _, _, (List.dropLast_append_getLast (List.ne_nil_of_mem h)).symm⟩

/-- **When every attribute is in its field.** -/
theorem parsed_iff {rnode : Node} {rule : AclRule} (h : parseAclRule rnode = some rule) :
    Parsed rnode rule ↔ KeptByLast rnode := by
  -- a rule with every attribute kept has them from its last element
  refine ⟨fun hparsed child type i v hgiven => ?_, fun hkept => ?_⟩
  · obtain ⟨htype, hslot⟩ := hparsed.fields child type i v hgiven
    obtain ⟨ps, last, lastType, hps⟩ := exists_last hgiven.mem
    obtain ⟨htype', fresh, hfresh, hslot'⟩ := last_of_parseAclRule h hps
    obtain rfl : type = lastType := htype.symm.trans htype'
    rw [hslot' i] at hslot
    -- the slot is one that the last element reads, or one it does not
    cases hread : ((readAttributes type)[i]?).join with
    | some attrname =>
      rw [hread] at hslot
      exact ⟨last, attrname, by rw [hps, List.getLast?_concat], rfl, hslot⟩
    | none =>
      -- what is left there was read from an element of another type
      exfalso
      rw [hread] at hslot
      obtain ⟨attr, hattr, -⟩ := hgiven.value
      have hlen : fresh.var.length = 16 := by rw [hfresh, List.length_replicate]
      obtain hnone | ⟨q, hq, attrname, hother, hvalue⟩ := exists_of_slot_foldl ps hlen hslot
      · rw [AclRule.slot, hfresh, List.getElem?_replicate] at hnone
        split_ifs at hnone
        · cases hnone
        · cases hnone
      · obtain ⟨hne, hfield⟩ := fields_of_unread hattr hread hother
        have hq' : (q.1, q.2) ∈ protocols rnode := by
          rw [hps]
          exact List.mem_append_left _ hq
        obtain ⟨htype'', -⟩ := hparsed.fields q.1 q.2 i v ⟨hq', attrname, hfield, hvalue⟩
        exact hne (htype''.symm.trans htype)
  -- back: the rule's own attributes are read before any element
  · obtain ⟨action, direction, haction, hdirection, hrule⟩ := parseAclRule_eq_some_iff.mp h
    obtain ⟨hact, hdir, hprio, hstate⟩ :=
      own_foldl_fillRule (protocols rnode) (freshRule rnode action direction)
    rw [← hrule] at hact hdir hprio hstate
    refine ⟨?_, ?_, hprio, hstate, fun child type i v hgiven => ?_⟩
    · rw [hact, haction]
      rfl
    · rw [hdir, hdirection]
      rfl
    -- the attribute was given, so it is one of the last element's
    · obtain ⟨last, attrname, hlast, hread, hvalue⟩ := hkept child type i v hgiven
      obtain ⟨ps, last', lastType, hps⟩ := exists_last hgiven.mem
      obtain ⟨htype, fresh, -, hslot⟩ := last_of_parseAclRule h hps
      rw [hps, List.getLast?_concat] at hlast
      obtain ⟨rfl, rfl⟩ := Prod.mk.inj (Option.some.inj hlast)
      rw [hslot i, hread]
      exact ⟨htype, hvalue⟩

/-! ### What is reported -/

/-- What is set for an IP address. -/
def ipToCmpi (s : String) : Option (List UInt8) := octetsToCmpi (octetsFromIp (some s))

/-- The addresses of one side that are not reported make no difference: of a range that is complete
those of a single address, and of a single address those of a range that is not complete. -/
def SideReported (ipaddr ipmask ipfrom ipto : Option String) : Prop :=
  if ipfrom.isSome ∧ ipto.isSome then
    (∀ s, ipaddr = some s → ipfrom.bind ipToCmpi = ipToCmpi s) ∧
      ∀ s, ipmask = some s → maskToCmpi s = none
  else
    (∀ s, ipfrom = some s → ipaddr.bind ipToCmpi = ipToCmpi s) ∧
      ∀ s, ipto = some s → ipToCmpi s = none

/-- The fields of a rule that can be reported as they are. -/
def FieldsReported (rule : AclRule) : Prop :=
  match rule.type with
  | .unknown | .mac | .ip => True
  | .arp => rule.slot 4 = none
  | .tcp =>
    SideReported (rule.slot 1) (rule.slot 2) (rule.slot 5) (rule.slot 6) ∧
      SideReported (rule.slot 3) (rule.slot 4) (rule.slot 7) (rule.slot 8)
  | .icmpIgmp =>
    SideReported (rule.slot 4) (rule.slot 5) (rule.slot 8) (rule.slot 9) ∧
      SideReported (rule.slot 6) (rule.slot 7) (rule.slot 10) (rule.slot 11)

section Slots

variable {stack : MatchProperty → ℕ → UInt32}

/-- A field is what its property is set from. -/
def Told (stack : MatchProperty → ℕ → UInt32) (rule : AclRule) (p : ℕ × MatchProperty) : Prop :=
  ∀ v, rule.slot p.1 = some v →
    (sourceOf rule p.2).bind (p.2.convert stack) = p.2.convert stack v

/-- Each field that has a property is told. -/
def SlotsEach (stack : MatchProperty → ℕ → UInt32) (rule : AclRule) : Prop :=
  ∀ p ∈ fieldProperties rule.type, Told stack rule p

/-- A property is set from such a field only. -/
def SlotsOnly (stack : MatchProperty → ℕ → UInt32) (rule : AclRule) : Prop :=
  ∀ prop value, (sourceOf rule prop).bind (prop.convert stack) = some value →
    ∃ i v, (i, prop) ∈ fieldProperties rule.type ∧ rule.slot i = some v ∧
      prop.convert stack v = some value

variable {rule : AclRule}

theorem told_of_source {p : ℕ × MatchProperty} (h : sourceOf rule p.2 = rule.slot p.1) :
    Told stack rule p := by
  intro v hv
  rw [h, hv]
  rfl

/-- The addresses of one side: the fields `a` and `m`, or the range from `f` to `t`. -/
theorem told_side_iff (stack : MatchProperty → ℕ → UInt32)
    {address endOfRange mask : MatchProperty} {a m f t : ℕ}
    (hsource : sourceOf rule address =
        if (rule.slot f).isSome ∧ (rule.slot t).isSome then rule.slot f else rule.slot a)
    (hsourceEnd : sourceOf rule endOfRange =
        if (rule.slot f).isSome ∧ (rule.slot t).isSome then rule.slot t else none)
    (hsourceMask : sourceOf rule mask =
        if (rule.slot f).isSome ∧ (rule.slot t).isSome then none else rule.slot m)
    (haddress : address.convert stack = fun s => (ipToCmpi s).map .octets)
    (hend : endOfRange.convert stack = fun s => (ipToCmpi s).map .octets)
    (hmask : mask.convert stack = fun s => (maskToCmpi s).map .octets) :
    (Told stack rule (a, address) ∧ Told stack rule (m, mask) ∧ Told stack rule (f, address) ∧
        Told stack rule (t, endOfRange)) ↔
      SideReported (rule.slot a) (rule.slot m) (rule.slot f) (rule.slot t) := by
  -- the values are octets, so a property tells one address
  have hinj : Function.Injective (Option.map FilterValue.octets) :=
    Option.map_injective fun _ _ h => FilterValue.octets.inj h
  have hbind (o : Option String) (f : String → Option (List UInt8)) :
      (o.bind fun s => (f s).map FilterValue.octets) = (o.bind f).map .octets := by
    cases o <;> rfl
  have hself (o : Option String) (f : String → Option (List UInt8)) :
      ∀ s, o = some s → o.bind f = f s := by
    rintro s rfl
    rfl
  unfold Told SideReported
  -- a range is told by its two ends, anything else by address and mask
  dsimp only
  rw [hsource, hsourceEnd, hsourceMask, haddress, hend, hmask]
  by_cases hrange : (rule.slot f).isSome ∧ (rule.slot t).isSome
  · simp only [if_pos hrange, hbind, hinj.eq_iff]
    refine ⟨fun ⟨haddr, hmasked, _, _⟩ => ⟨haddr, fun s hs => (hmasked s hs).symm⟩, ?_⟩
    exact fun ⟨haddr, hmasked⟩ => ⟨haddr, fun s hs => (hmasked s hs).symm, hself _ _, hself _ _⟩
  · simp only [if_neg hrange, hbind, hinj.eq_iff]
    refine ⟨fun ⟨_, _, hfirst, hlast⟩ => ⟨hfirst, fun s hs => (hlast s hs).symm⟩, ?_⟩
    exact fun ⟨hfirst, hlast⟩ => ⟨hself _ _, hself _ _, hfirst, fun s hs => (hlast s hs).symm⟩

/-- In a rule without ranges each field is told. -/
theorem slotsEach_of_direct (h : rule.type = .mac ∨ rule.type = .arp ∨ rule.type = .ip) :
    SlotsEach stack rule := by
  intro p hp
  apply told_of_source
  unfold sourceOf fillRuleData
  obtain htype | htype | htype := h
  · rw [htype] at hp ⊢
    simp only [fieldProperties, List.mem_cons, List.not_mem_nil, or_false] at hp
    obtain rfl | rfl | rfl | rfl | rfl := hp <;> rfl
  · rw [htype] at hp ⊢
    simp only [fieldProperties, List.mem_cons, List.not_mem_nil, or_false] at hp
    obtain rfl | rfl | rfl | rfl := hp <;> rfl
  · rw [htype] at hp ⊢
    simp only [fieldProperties, List.mem_cons, List.not_mem_nil, or_false] at hp
    obtain rfl | rfl | rfl | rfl | rfl | rfl | rfl | rfl := hp <;> rfl

/-- The source of a property of a rule, by its type. -/
theorem sourceOf_of_type {type : RuleType} (h : rule.type = type) (prop : MatchProperty) :
    sourceOf rule prop = sourceOf { rule with type := type } prop := by
  rw [← h]

theorem slotsEach_tcp_iff (htype : rule.type = .tcp) :
    SlotsEach stack rule ↔
      SideReported (rule.slot 1) (rule.slot 2) (rule.slot 5) (rule.slot 6) ∧
        SideReported (rule.slot 3) (rule.slot 4) (rule.slot 7) (rule.slot 8) := by
  have hsource := sourceOf_of_type htype
  rw [← told_side_iff stack (hsource .srcAddress) (hsource .srcEndOfRange) (hsource .srcMask)
      rfl rfl rfl,
    ← told_side_iff stack (hsource .destAddress) (hsource .destEndOfRange) (hsource .destMask)
      rfl rfl rfl, SlotsEach, htype]
  simp only [fieldProperties, List.forall_mem_cons]
  refine ⟨?_, ?_⟩
  · rintro ⟨h1, h2, h3, h4, h5, h6, h7, h8, -⟩
    exact ⟨⟨h1, h2, h5, h6⟩, h3, h4, h7, h8⟩
  · rintro ⟨⟨h1, h2, h5, h6⟩, h3, h4, h7, h8⟩
    -- the ports have one field each
    exact ⟨h1, h2, h3, h4, h5, h6, h7, h8, told_of_source (hsource .srcPortStart),
      told_of_source (hsource .srcPortEnd), told_of_source (hsource .destPortStart),
      told_of_source (hsource .destPortEnd), fun p hp => nomatch hp⟩

theorem slotsEach_icmpIgmp_iff (htype : rule.type = .icmpIgmp) :
    SlotsEach stack rule ↔
      SideReported (rule.slot 4) (rule.slot 5) (rule.slot 8) (rule.slot 9) ∧
        SideReported (rule.slot 6) (rule.slot 7) (rule.slot 10) (rule.slot 11) := by
  have hsource := sourceOf_of_type htype
  rw [← told_side_iff stack (hsource .srcAddress) (hsource .srcEndOfRange) (hsource .srcMask)
      rfl rfl rfl,
    ← told_side_iff stack (hsource .destAddress) (hsource .destEndOfRange) (hsource .destMask)
      rfl rfl rfl, SlotsEach, htype]
  simp only [fieldProperties, List.forall_mem_cons]
  refine ⟨?_, ?_⟩
  · rintro ⟨h4, h5, h6, h7, h8, h9, h10, h11, -⟩
    exact ⟨⟨h4, h5, h8, h9⟩, h6, h7, h10, h11⟩
  · rintro ⟨⟨h4, h5, h8, h9⟩, h6, h7, h10, h11⟩
    exact ⟨h4, h5, h6, h7, h8, h9, h10, h11, fun p hp => nomatch hp⟩

/-- A property is set from a field that is for it, but for the rules that are converted through the
member of others. -/
theorem exists_slot_of_sourceOf {rule : AclRule} {prop : MatchProperty} {v : String}
    (harp : rule.type = .arp → prop ≠ .protocolId8021) (h : sourceOf rule prop = some v) :
    ∃ i, (i, prop) ∈ fieldProperties rule.type ∧ rule.slot i = some v := by
  unfold sourceOf fillRuleData at h
  cases htype : rule.type <;> rw [htype] at h <;> cases prop <;>
    simp [fieldProperties, htype] at h harp ⊢ <;> grind

/-- **When the properties are the converted fields**, each under its own property. -/
theorem slots_iff (stack : MatchProperty → ℕ → UInt32) (rule : AclRule) :
    SlotsEach stack rule ∧ SlotsOnly stack rule ↔ FieldsReported rule := by
  -- a slot that is reported has a property of its own
  have honly (h : rule.type = .arp → rule.slot 4 = none) : SlotsOnly stack rule := by
    intro prop value hvalue
    obtain ⟨v, hv, hconvert⟩ := Option.bind_eq_some_iff.mp hvalue
    have harp : rule.type = .arp → prop ≠ .protocolId8021 := by
      rintro htype rfl
      have hsource : sourceOf rule .protocolId8021 = rule.slot 4 := if_pos (.inr htype)
      rw [hsource, h htype] at hv
      cases hv
    obtain ⟨i, hi, hslot⟩ := exists_slot_of_sourceOf harp hv
    exact ⟨i, v, hi, hslot, hconvert⟩
  have hother (hne : rule.type ≠ .arp) : SlotsOnly stack rule := honly fun h => absurd h hne
  -- by the protocol of the rule
  cases htype : rule.type with
  | unknown =>
    rw [FieldsReported, htype]
    refine iff_of_true ⟨?_, hother (by rw [htype]; decide)⟩ trivial
    rw [SlotsEach, htype]
    exact fun p hp => nomatch hp
  | mac =>
    rw [FieldsReported, htype]
    exact iff_of_true ⟨slotsEach_of_direct (.inl htype), hother (by rw [htype]; decide)⟩ trivial
  | arp =>
    rw [FieldsReported, htype, and_iff_right (slotsEach_of_direct (.inr (.inl htype)))]
    refine ⟨fun h => ?_, fun h => honly fun _ => h⟩
    -- a hardware type would be reported as a protocol
    by_contra hne
    obtain ⟨v, hv⟩ := Option.ne_none_iff_exists'.mp hne
    have hsource : sourceOf rule .protocolId8021 = some v := (if_pos (.inr htype)).trans hv
    obtain ⟨i, w, hmem, -⟩ := h .protocolId8021 (.uint16 (protocolNumber v)) (by rw [hsource]; rfl)
    rw [htype] at hmem
    simp [fieldProperties] at hmem
  | ip =>
    rw [FieldsReported, htype]
    exact iff_of_true ⟨slotsEach_of_direct (.inr (.inr htype)), hother (by rw [htype]; decide)⟩
      trivial
  -- TCP and its like have two sides, with addresses and ports
  | tcp =>
    rw [FieldsReported, htype, and_iff_left (hother (by rw [htype]; decide)),
      slotsEach_tcp_iff htype]
  -- ICMP and IGMP have the two sides as well, but without ports
  | icmpIgmp =>
    rw [FieldsReported, htype, and_iff_left (hother (by rw [htype]; decide)),
      slotsEach_icmpIgmp_iff htype]

end Slots

/-- A field that has a property is read from the attribute it is for. -/
theorem read_of_property {type : RuleType} {i : ℕ} {prop : MatchProperty}
    (h : (i, prop) ∈ fieldProperties type) :
    ∃ attr, (fieldAttributes type)[i]? = some attr ∧
      ((readAttributes type)[i]?).join = some attr := by
  have hall : ∀ p ∈ fieldProperties type, ((fieldAttributes type)[p.1]?).isSome ∧
      ((readAttributes type)[p.1]?).join = (fieldAttributes type)[p.1]? := by
    cases type <;> decide
  obtain ⟨hsome, hread⟩ := hall (i, prop) h
  obtain ⟨attr, hattr⟩ := Option.isSome_iff_exists.mp hsome
  exact ⟨attr, hattr, hread.trans hattr⟩

/-- Such a field is that of the last element. -/
theorem slot_of_property {rnode : Node} {rule : AclRule} (h : parseAclRule rnode = some rule)
    {i : ℕ} {prop : MatchProperty} (hprop : (i, prop) ∈ fieldProperties rule.type) :
    ∃ last attr, (protocols rnode).getLast? = some (last, rule.type) ∧
      (fieldAttributes rule.type)[i]? = some attr ∧ rule.slot i = getAttrValue last attr := by
  -- a rule with properties has an element
  have hne : protocols rnode ≠ [] := by
    intro hnil
    obtain ⟨action, direction, -, -, hrule⟩ := parseAclRule_eq_some_iff.mp h
    rw [hnil] at hrule
    rw [hrule] at hprop
    cases hprop
  obtain ⟨ps, ⟨last, type⟩, hps⟩ : ∃ ps last, protocols rnode = ps ++ [last] :=
    ⟨_, _, (List.dropLast_append_getLast hne).symm⟩
  obtain ⟨rfl, fresh, -, hslot⟩ := last_of_parseAclRule h hps
  obtain ⟨attr, hattr, hread⟩ := read_of_property hprop
  -- the property is read from the slot that this element has filled
  refine ⟨last, attr, by rw [hps, List.getLast?_concat], hattr, ?_⟩
  rw [hslot i, hread]
  rfl

/-- What is reported of the attributes is what is reported of the fields. -/
theorem reported_iff {stack : MatchProperty → ℕ → UInt32} {rnode : Node} {rule : AclRule}
    {inst : EntryInstance} (h : parseAclRule rnode = some rule) (hparsed : Parsed rnode rule)
    (hget : ∀ prop : MatchProperty,
      inst.get prop.name = (sourceOf rule prop).bind (prop.convert stack)) :
    Reported stack rnode inst ↔ SlotsEach stack rule ∧ SlotsOnly stack rule := by
  -- each reported slot was given by the element
  have hgiven : ∀ i prop v, (i, prop) ∈ fieldProperties rule.type → rule.slot i = some v →
      ∃ last, Given rnode last rule.type i v := by
    intro i prop v hprop hslot
    obtain ⟨last, attr, hlast, hattr, hvalue⟩ := slot_of_property h hprop
    exact ⟨last, List.mem_of_getLast? hlast, attr, hattr, hvalue.symm.trans hslot⟩
  -- what is reported, slot by slot and property by property
  refine ⟨fun hrep => ⟨?_, ?_⟩, ?_⟩
  · rintro ⟨i, prop⟩ hprop v hslot
    obtain ⟨last, hlast⟩ := hgiven i prop v hprop hslot
    rw [← hget prop]
    exact hrep.each last rule.type i v prop hlast hprop
  · intro prop value hvalue
    rw [← hget prop] at hvalue
    obtain ⟨child, type, i, v, hchild, hprop, hconvert⟩ := hrep.only prop value hvalue
    obtain ⟨rfl, hslot⟩ := hparsed.fields child type i v hchild
    exact ⟨i, v, hprop, hslot, hconvert⟩
  -- and the other way, by the same slots
  · rintro ⟨heach, honly⟩
    refine ⟨fun child type i v prop hchild hprop => ?_, fun prop value hvalue => ?_⟩
    · obtain ⟨rfl, hslot⟩ := hparsed.fields child type i v hchild
      rw [hget prop]
      exact heach (i, prop) hprop v hslot
    · rw [hget prop] at hvalue
      obtain ⟨i, v, hprop, hslot, hconvert⟩ := honly prop value hvalue
      obtain ⟨last, hlast⟩ := hgiven i prop v hprop hslot
      exact ⟨last, rule.type, i, v, hlast, hprop, hconvert⟩

/-! ### The attributes of an element -/

/-- The attributes of an element that can be reported as they are: of an ARP element all but the
hardware type, and of each side of an element with ranges those that are not in the way. -/
def AttributesReported (last : Node) (type : RuleType) : Prop :=
  match type with
  | .unknown | .mac | .ip => True
  | .arp => getAttrValue last "hwtype" = none
  | .tcp | .icmpIgmp =>
    SideReported (getAttrValue last "srcipaddr") (getAttrValue last "srcipmask")
        (getAttrValue last "srcipfrom") (getAttrValue last "srcipto") ∧
      SideReported (getAttrValue last "dstipaddr") (getAttrValue last "dstipmask")
        (getAttrValue last "dstipfrom") (getAttrValue last "dstipto")

theorem fieldsReported_iff {rnode : Node} {rule : AclRule} (h : parseAclRule rnode = some rule) :
    FieldsReported rule ↔ ∀ last type, (protocols rnode).getLast? = some (last, type) →
      AttributesReported last type := by
  -- a rule without an element has nothing to report
  by_cases hne : protocols rnode = []
  · obtain ⟨action, direction, -, -, hrule⟩ := parseAclRule_eq_some_iff.mp h
    rw [hne] at hrule ⊢
    rw [hrule]
    exact iff_of_true trivial fun last type h => nomatch h
  obtain ⟨ps, ⟨last, type⟩, hps⟩ : ∃ ps last, protocols rnode = ps ++ [last] :=
    ⟨_, _, (List.dropLast_append_getLast hne).symm⟩
  -- the slots are those of the last element
  obtain ⟨htype, fresh, -, hslot⟩ := last_of_parseAclRule h hps
  have hlast : ∀ last' type', (protocols rnode).getLast? = some (last', type') ↔
      last = last' ∧ type = type' := by
    intro last' type'
    rw [hps, List.getLast?_concat, Option.some.injEq, Prod.mk.injEq]
  have hall : (∀ last' type', (protocols rnode).getLast? = some (last', type') →
      AttributesReported last' type') ↔ AttributesReported last type := by
    simp only [hlast]
    exact ⟨fun h => h last type ⟨rfl, rfl⟩, fun h _ _ ⟨h1, h2⟩ => h1 ▸ h2 ▸ h⟩
  rw [hall, FieldsReported, htype]
  -- by its protocol, each in its own slots
  cases type with
  | unknown => exact Iff.rfl
  | mac => exact Iff.rfl
  | ip => exact Iff.rfl
  | arp => exact iff_of_eq (congrArg (· = none) (hslot 4))
  | tcp =>
    -- with the names that the element gives to them
    rw [hslot 1, hslot 2, hslot 3, hslot 4, hslot 5, hslot 6, hslot 7, hslot 8]
    exact Iff.rfl
  | icmpIgmp =>
    rw [hslot 4, hslot 5, hslot 6, hslot 7, hslot 8, hslot 9, hslot 10, hslot 11]
    exact Iff.rfl

/-- The conversion makes an instance of a rule of this type. -/
def EntryHost.Builds (host : EntryHost) (type : RuleType) : Prop :=
  host.typed (entryBase type) = true ∧ host.system.isSome

theorem exists_convertRuleToInstance_iff {stack : MatchProperty → ℕ → UInt32} {host : EntryHost}
    {rule : AclRule} :
    (∃ inst, convertRuleToInstance stack host rule = (some inst, .ok)) ↔ host.Builds rule.type := by
  unfold convertRuleToInstance EntryHost.Builds
  dsimp only
  by_cases htyped : host.typed (entryBase rule.type) = true
  · rw [if_pos htyped, and_iff_right htyped]
    cases host.system with
    | none => exact iff_of_false (fun ⟨_, h⟩ => nomatch h) Bool.false_ne_true
    | some system => exact iff_of_true ⟨_, rfl⟩ rfl
  · rw [if_neg htyped]
    exact iff_of_false (fun ⟨_, h⟩ => nomatch h) fun h => htyped h.1

/-- The last element gives the rule its type. -/
theorem type_of_getLast {rnode last : Node} {rule : AclRule} {type : RuleType}
    (h : parseAclRule rnode = some rule) (hlast : (protocols rnode).getLast? = some (last, type)) :
    rule.type = type := by
  obtain ⟨ps, hps⟩ := List.getLast?_eq_some_iff.mp hlast
  exact (last_of_parseAclRule h hps).1

/-- The instances of a rule that was parsed as it is to be. -/
theorem instances_iff (stack : MatchProperty → ℕ → UInt32) (host : EntryHost) {rnode : Node}
    {rule : AclRule} (h : parseAclRule rnode = some rule) (hparsed : Parsed rnode rule) :
    (∀ name inst, convertRuleToInstance stack host { rule with name := name } = (some inst, .ok) →
        Reported stack rnode inst) ↔
      ∀ last type, (protocols rnode).getLast? = some (last, type) → host.Builds type →
        AttributesReported last type := by
  have hreported : ∀ name inst,
      convertRuleToInstance stack host { rule with name := name } = (some inst, .ok) →
      (Reported stack rnode inst ↔ FieldsReported rule) := by
    intro name inst hinst
    rw [← slots_iff stack]
    -- the name of a rule is no source of a property
    exact reported_iff h hparsed fun prop => get_convertRuleToInstance hinst prop
  -- the broker builds an instance of the type, or there is none
  refine ⟨fun hall last type hlast hbuilds => ?_, fun hall name inst hinst => ?_⟩
  · obtain rfl := type_of_getLast h hlast
    obtain ⟨inst, hinst⟩ := exists_convertRuleToInstance_iff.mpr hbuilds
    have hfields := (hreported rule.name inst hinst).mp (hall rule.name inst hinst)
    exact (fieldsReported_iff h).mp hfields last rule.type hlast
  · have hbuilds : host.Builds ({ rule with name := name } : AclRule).type :=
      exists_convertRuleToInstance_iff.mp ⟨inst, hinst⟩
    refine (hreported name inst hinst).mpr ((fieldsReported_iff h).mpr fun last type hlast => ?_)
    obtain rfl := type_of_getLast h hlast
    exact hall last rule.type hlast hbuilds

/-- **When no attribute of a rule is lost on its way**: the rule is not parsed at all, or every
attribute is kept by the last element, and if an instance is built the attributes of the last
element can be reported as they are. `parsed_iff` is the way into the rule, where each protocol
element takes the place of the one before it; `instances_iff` is the way on to the instance. -/
theorem attributes_iff (stack : MatchProperty → ℕ → UInt32) (host : EntryHost) (rnode : Node) :
    AttributesKept stack host rnode ↔
      ((getAttrValue rnode "action").isSome → (getAttrValue rnode "direction").isSome →
        KeptByLast rnode ∧ ∀ last type, (protocols rnode).getLast? = some (last, type) →
          host.Builds type → AttributesReported last type) := by
  -- a rule without action or direction is not parsed at all
  cases h : parseAclRule rnode with
  | none =>
    refine iff_of_true ⟨fun rule hrule => ?_, fun rule name inst hrule => ?_⟩
      fun haction hdirection => ?_
    · rw [h] at hrule
      cases hrule
    · rw [h] at hrule
      cases hrule
    · obtain ⟨action, haction⟩ := Option.isSome_iff_exists.mp haction
      obtain ⟨direction, hdirection⟩ := Option.isSome_iff_exists.mp hdirection
      have hsome := parseAclRule_eq_some_iff.mpr ⟨action, direction, haction, hdirection, rfl⟩
      rw [h] at hsome
      cases hsome
  | some rule =>
    obtain ⟨action, direction, haction, hdirection, -⟩ := parseAclRule_eq_some_iff.mp h
    rw [haction, hdirection, forall_prop_of_true Option.isSome_some,
      forall_prop_of_true Option.isSome_some]
    -- parsed and reported, each on its own
    refine ⟨fun hkept => ?_, fun ⟨hlast, hall⟩ => ?_⟩
    · have hparsed := hkept.parsed rule h
      exact ⟨(parsed_iff h).mp hparsed,
        (instances_iff stack host h hparsed).mp fun name inst => hkept.reported rule name inst h⟩
    · have hparsed := (parsed_iff h).mpr hlast
      refine ⟨fun rule' hrule => ?_, fun rule' name inst hrule => ?_⟩
      · rw [h] at hrule
        obtain rfl := Option.some.inj hrule
        exact hparsed
      · rw [h] at hrule
        obtain rfl := Option.some.inj hrule
        exact (instances_iff stack host h hparsed).mpr hall name inst

/-- A rule for an IP element with a mask of the destination MAC address. -/
def maskedRule : Node :=
  .elem "rule" [("action", "accept"), ("direction", "in")]
    [.elem "ip" [("dstmacaddr", "52:54:00:00:00:00"), ("dstmacmask", "ff:ff:ff:00:00:00")] []]

/-- A rule for an ARP element with a hardware type. -/
def hardwareRule : Node :=
  .elem "rule" [("action", "accept"), ("direction", "in")] [.elem "arp" [("hwtype", "1")] []]

/-- The mask is lost, and the hardware type is reported as the protocol of a MAC rule. -/
theorem not_attributesKept :
    ¬ (∀ rnode rule, parseAclRule rnode = some rule → Parsed rnode rule) ∧
    ¬ ∀ stack host rnode, AttributesKept stack host rnode := by
  -- a mask that is not read, and a hardware type told as a protocol
  refine ⟨fun h => ?_, fun h => ?_⟩
  · obtain ⟨rule, hrule, hmask⟩ : ∃ rule, parseAclRule maskedRule = some rule ∧
        rule.slot 3 = none := ⟨_, rfl, by decide +kernel⟩
    have hslot := (h maskedRule rule hrule).fields _ .ip 3 "ff:ff:ff:00:00:00"
      ⟨List.mem_singleton.mpr rfl, "dstmacmask", rfl, rfl⟩
    rw [hmask] at hslot
    cases hslot.2
  · let host : EntryHost := { typed := fun _ => true, system := some ("host", "KVM_HostSystem") }
    obtain ⟨rule, inst, hrule, hinst, hvalue⟩ : ∃ rule inst,
        parseAclRule hardwareRule = some rule ∧
          convertRuleToInstance (fun _ _ => 0) host { rule with name := none } = (some inst, .ok) ∧
          inst.get "HdrProtocolID8021" = some (.uint16 1) :=
      ⟨_, _, rfl, rfl, by decide +kernel⟩
    obtain ⟨child, type, i, v, hgiven, hprop, -⟩ :=
      ((h (fun _ _ => 0) host hardwareRule).reported rule none inst hrule hinst).only
        .protocolId8021 _ hvalue
    obtain ⟨rfl, rfl⟩ := Prod.mk.inj (List.mem_singleton.mp hgiven.mem)
    simp [fieldProperties] at hprop

end LibvirtCim.Filter
