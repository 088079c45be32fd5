import LibvirtCim.Rasd.Instance
import LibvirtCim.Device.XmlGen

/-!
# Network filters

`acl_parsing.c`: a network filter with its rules and its references to other filters, how it
is read from the XML of libvirt, and the names its rules get. The generator `filter_to_xml`
of `xmlgen.c` stands with them, since `update_filter` is `create_filter` of what it writes.

A rule keeps the fields of its protocol in a union. The parser fills the member of each
protocol element it meets, so that an earlier element is seen through the member of a later
one; the union is kept as the sixteen pointers of its largest member.
-/

open Framework LibvirtCim.Device LibvirtCim.Rasd

namespace LibvirtCim.Filter

/-! ### Rules -/

/-- The type of a rule: the member of its union that is in use. -/
inductive RuleType
  | unknown | mac | arp | ip | tcp | icmpIgmp
  deriving DecidableEq, Repr

/-- `struct acl_rule`. -/
structure AclRule where
  name : Option String := none
  protocolId : Option String := none
  action : String
  direction : String
  priority : Option String := none
  statematch : Option String := none
  type : RuleType := .unknown
  var : List (Option String) := List.replicate 16 none
  deriving DecidableEq, Repr

/-- The pointers of the union after a member was filled: `attrs` has the attribute each field
of the member is read from, and nothing for a field that is not read. -/
def fillVar (rnode : Node) : List (Option String) → List (Option String) → List (Option String)
  | [], var => var
  | _ :: _, [] => []
  | none :: attrs, field :: var => field :: fillVar rnode attrs var
  | some attrname :: attrs, _ :: var => getAttrValue rnode attrname :: fillVar rnode attrs var

/-- What the parsers of the protocol elements have in common. -/
def parseProtocol (type : RuleType) (attrs : List (Option String)) (rnode : Node)
    (rule : AclRule) : AclRule :=
  { rule with type := type, var := fillVar rnode attrs rule.var }

/-- `parse_acl_mac_rule`. -/
def parseAclMacRule : Node → AclRule → AclRule :=
  parseProtocol .mac [some "srcmacaddr", some "srcmacmask", some "dstmacaddr", some "dstmacmask",
    some "protocolid", some "comment"]

/-- `parse_acl_arp_rule`. -/
def parseAclArpRule : Node → AclRule → AclRule :=
  parseProtocol .arp [some "srcmacaddr", some "srcmacmask", some "dstmacaddr", some "dstmacmask",
    some "hwtype", some "protocoltype", some "opcode", some "arpsrcmacaddr", some "arpdstmacaddr",
    some "arpsrcipaddr", some "arpdstipaddr", some "comment"]

/-- `parse_acl_ip_rule`. The attribute of `dstmacmask` is misspelt in the source. -/
def parseAclIpRule : Node → AclRule → AclRule :=
  parseProtocol .ip [some "srcmacaddr", some "srcmacmask", some "dstmacaddr", some "dstmacmaks",
    some "srcipaddr", some "srcipmask", some "dstipaddr", some "dstipmask", some "protocol",
    some "srcportstart", some "srcportend", some "dstportstart", some "dstportend", some "comment"]

/-- `parse_acl_tcp_rule`. -/
def parseAclTcpRule : Node → AclRule → AclRule :=
  parseProtocol .tcp [some "srcmacaddr", some "srcipaddr", some "srcipmask", some "dstipaddr",
    some "dstipmask", some "srcipfrom", some "srcipto", some "dstipfrom", some "dstipto",
    some "srcportstart", some "srcportend", some "dstportstart", some "dstportend", some "comment",
    some "state"]

/-- `parse_acl_icmp_igmp_rule`. The fields `type` and `code` are not read. -/
def parseAclIcmpIgmpRule : Node → AclRule → AclRule :=
  parseProtocol .icmpIgmp [some "srcmacaddr", some "srcmacmask", some "dstmacaddr",
    some "dstmacmask", some "srcipaddr", some "srcipmask", some "dstipaddr", some "dstipmask",
    some "srcipfrom", some "srcipto", some "dstipfrom", some "dstipto", none, none, some "comment",
    some "state"]

/-- The loop of `parse_acl_rule` on one child. -/
def parseRuleChild (rule : AclRule) (child : Node) : AclRule :=
  let named := { rule with protocolId := some child.name }
  if child.name = "mac" then parseAclMacRule child named
  else if child.name ∈ ["arp", "rarp"] then parseAclArpRule child named
  else if child.name ∈ ["ip", "ipv6"] then parseAclIpRule child named
  else if child.name ∈ ["tcp", "tcp-ipv6", "udp", "udp-ipv6", "sctp", "sctp-ipv6"] then
    parseAclTcpRule child named
  else if child.name ∈ ["icmp", "icmpv6", "igmp", "igmp-ipv6", "esp", "esp-ipv6", "ah", "ah-ipv6",
      "udplite", "udplite-ipv6", "all", "all-ipv6"] then
    parseAclIcmpIgmpRule child named
  else rule

/-- `parse_acl_rule`. -/
def parseAclRule (rnode : Node) : Option AclRule := do
  let action ← getAttrValue rnode "action"
  let direction ← getAttrValue rnode "direction"
  let rule : AclRule :=
    { action := action
      direction := direction
      priority := getAttrValue rnode "priority"
      statematch := getAttrValue rnode "statematch" }
  some (rnode.children.foldl parseRuleChild rule)

/-! ### Names of rules -/

/-- `make_rule_id`: `"%s:%u"`. -/
def makeRuleId (filter : String) (index : ℕ) : String :=
  filter ++ ":" ++ (index % UInt32.size).repr

/-- `%ms`, and what follows the word. -/
def scanWordRest (cs : List Char) : Option (String × List Char) :=
  (scanWord cs).map fun word => (word, (cs.dropWhile isSpace).dropWhile fun c => !isSpace c)

/-- `%u` into an `int`. -/
def scanUnsigned (cs : List Char) : Option ℤ :=
  (scanU64 (String.ofList cs)).map fun n => (Int32.ofNat n.toNat).toInt

/-- `parse_rule_id`: the format is `"%ms[^:]:%u"`, a word, the literal characters `[^:]:` and
a number. -/
def parseRuleId (ruleId : String) : Option (String × ℤ) := do
  let (filter, rest) ← scanWordRest ruleId.toList
  let rest ← scanLit "[^:]:".toList rest
  let index ← scanUnsigned rest
  some (filter, index)

/-! ### Filters -/

/-- `struct acl_filter`. A filter without a reference has no list of references. -/
structure AclFilter where
  uuid : Option String := none
  name : String
  chain : Option String := none
  priority : Option String := none
  rules : List AclRule := []
  refs : List String := []
  deriving DecidableEq, Repr

/-- `append_filter_rule`. -/
def appendFilterRule (filter : AclFilter) (rule : AclRule) : AclFilter :=
  let named := { rule with name := some (makeRuleId filter.name filter.rules.length) }
  { filter with rules := filter.rules ++ [named] }

/-- `append_filter_ref`: a name that is in the list already is refused. -/
def appendFilterRef (filter : AclFilter) (name : String) : Option AclFilter :=
  if name ∈ filter.refs then none else some { filter with refs := filter.refs ++ [name] }

/-- `remove_filter_ref`. -/
def removeFilterRef (filter : AclFilter) (name : String) : Option AclFilter :=
  if filter.refs = [] then none else some { filter with refs := filter.refs.erase name }

/-- The loop of `parse_acl_filter` on one child. -/
def parseFilterChild (filter : AclFilter) (child : Node) : Option AclFilter :=
  if child.name = "uuid" then some { filter with uuid := some (getNodeContent child) }
  else if child.name = "rule" then (parseAclRule child).map (appendFilterRule filter)
  else if child.name = "filterref" then
    (getAttrValue child "filter").bind (appendFilterRef filter)
  else some filter

/-- `parse_acl_filter`. -/
def parseAclFilter (fnode : Node) : Option AclFilter := do
  let name ← getAttrValue fnode "name"
  let filter : AclFilter :=
    { name := name
      chain := getAttrValue fnode "chain"
      priority := getAttrValue fnode "priority" }
  fnode.children.foldlM parseFilterChild filter

/-- `get_filter_from_xml`, on the nodes of a document: it is the first of them that is
parsed, whatever node it is. -/
def getFilterFromXml (xmldoc : List Node) : Option AclFilter :=
  xmldoc.head?.bind parseAclFilter

/-- `filter_to_xml`. -/
def filterToXml (nodeContent : String → List Node) (filter : AclFilter) : Node :=
  .elem "filter" (prop "name" (some filter.name) ++ optProp "chain" filter.chain)
    (optContent nodeContent "uuid" filter.uuid ++
      filter.refs.map fun ref => .elem "filterref" (prop "filter" (some ref)) [])

/-! ### Filters of a hypervisor -/

/-- What libvirt answers about its network filters: their names, and the document of a filter
when it can be looked up and its description is XML. -/
structure NwFilters where
  names : List String
  xmlDesc : String → Option (List Node)

/-- `get_filter_by_name`. -/
def getFilterByName (conn : NwFilters) (name : String) : Option AclFilter :=
  (conn.xmlDesc name).bind getFilterFromXml

/-- The loop of `get_filters`: it stops at the first filter that cannot be read. -/
def loadFilters (conn : NwFilters) : List String → List AclFilter
  | [] => []
  | name :: names =>
    match getFilterByName conn name with
    | none => []
    | some filter => filter :: loadFilters conn names

/-- `get_filters`. -/
def getFilters (conn : NwFilters) : List AclFilter :=
  loadFilters conn conn.names

end LibvirtCim.Filter
