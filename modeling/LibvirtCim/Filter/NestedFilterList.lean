import LibvirtCim.Filter.RuleNames
import LibvirtCim.Pool.TextSafety

/-!
# Nested filter lists

`Virt_NestedFilterList.c` adds a reference to a filter, or takes one away: it reads the
filter, edits its list of references and defines the filter anew from what it has read.

What is defined is what `filter_to_xml` writes, and that is the name, the chain, the uuid and
the references. The rules and the priority are read but not written: a filter that has any
loses them with the first reference that is added to it or taken from it.
-/

open Framework LibvirtCim.Device

namespace LibvirtCim.Filter

section RoundTrip

variable (nodeContent : String → List Node)

/-! ### What is read back -/

/-- A list without an element stays duplicate free with it at the end. -/
theorem nodup_concat {names : List String} {name : String} (hnodup : names.Nodup)
    (hnot : name ∉ names) : (names ++ [name]).Nodup := by
  rw [List.nodup_append]
  refine ⟨hnodup, List.pairwise_singleton _ name, ?_⟩
  intro a ha b hb hab
  rw [List.mem_singleton] at hb
  rw [hab, hb] at ha
  exact hnot ha

/-- The references of a filter that was read are distinct. -/
theorem nodup_refs_of_parseAclFilter {fnode : Node} {filter : AclFilter}
    (h : parseAclFilter fnode = some filter) : filter.refs.Nodup := by
  -- the element starts the filter with no references, and each child keeps them distinct
  refine parseAclFilter_rule (P := fun filter => filter.refs.Nodup) ?_ ?_ h
  · intro filter _ hrefs
    rw [hrefs]
    exact List.nodup_nil
  · intro filter child filter' hchild hnodup
    unfold parseFilterChild at hchild
    split_ifs at hchild
    · rw [← Option.some.inj hchild]
      exact hnodup
    · obtain ⟨rule, -, rfl⟩ := Option.map_eq_some_iff.mp hchild
      exact hnodup
    -- a reference is appended only if it is not there yet
    · obtain ⟨name, -, happend⟩ := Option.bind_eq_some_iff.mp hchild
      unfold appendFilterRef at happend
      split_ifs at happend with hmem
      rw [← Option.some.inj happend]
      exact nodup_concat hnodup hmem
    · rw [← Option.some.inj hchild]
      exact hnodup

/-- Distinct references are read in their order. -/
theorem foldlM_filterref {refs : List String} {filter : AclFilter}
    (hnodup : (filter.refs ++ refs).Nodup) :
    (refs.map fun ref => Node.elem "filterref" (prop "filter" (some ref)) []).foldlM
      parseFilterChild filter = some { filter with refs := filter.refs ++ refs } := by
  induction refs generalizing filter with
  | nil => simp
  -- the references are read in order, and none of them is a repetition
  | cons ref refs ih =>
    have hnot : ref ∉ filter.refs := by
      intro hmem
      have hdisjoint := (List.nodup_append.mp hnodup).2.2
      exact hdisjoint ref hmem ref List.mem_cons_self rfl
    have hstep : parseFilterChild filter (.elem "filterref" (prop "filter" (some ref)) []) =
        some { filter with refs := filter.refs ++ [ref] } := by
      simp [parseFilterChild, appendFilterRef, hnot]
    rw [List.map_cons, List.foldlM_cons, hstep]
    show List.foldlM parseFilterChild { filter with refs := filter.refs ++ [ref] } _ = _
    rw [ih]
    · simp
    · simpa using hnodup

/-- What is left of a filter that is written and read again. -/
def rereadFilter (filter : AclFilter) : AclFilter :=
  { filter with
    uuid := filter.uuid.map (contentText nodeContent)
    priority := none
    rules := [] }

/-- **What `filter_to_xml` writes is read as the filter without its rules and its priority.** -/
theorem getFilterFromXml_filterToXml {filter : AclFilter} (hnodup : filter.refs.Nodup) :
    getFilterFromXml [filterToXml nodeContent filter] = some (rereadFilter nodeContent filter) := by
  -- the uuid is read back through its content
  have huuid : ∀ start : AclFilter, start.uuid = none →
      (optContent nodeContent "uuid" filter.uuid).foldlM parseFilterChild start =
        some { start with uuid := filter.uuid.map (contentText nodeContent) } := by
    intro start hstart
    obtain ⟨uuid, name, chain, priority, rules, refs⟩ := start
    obtain rfl : uuid = none := hstart
    cases filter.uuid with
    | none => rfl
    | some uuid => rfl
  show parseAclFilter (filterToXml nodeContent filter) = _
  -- attributes first, then the uuid, then the references
  unfold parseAclFilter filterToXml
  simp only [getAttrValue, Node.attr_elem, Node.children_elem, lookup_prop_append, lookup_optProp,
    Option.getD_some, if_pos, Option.bind_eq_bind, Option.bind_some, List.foldlM_append]
  rw [huuid _ rfl, Option.bind_some, foldlM_filterref]
  · simp [rereadFilter]
  · simpa using hnodup

/-- What can be written of a filter: it has no rule and no priority, and no reference stands
in its uuid. -/
structure Rewritable (filter : AclFilter) : Prop where
  rules : filter.rules = []
  priority : filter.priority = none
  uuid : ∀ uuid ∈ filter.uuid, '&' ∉ uuid.toList

/-- A content comes back if and only if it has no reference. -/
theorem survives_iff {nodeContent : String → List Node} (hcontent : ReferencesParsed nodeContent)
    (content : String) : contentText nodeContent content = content ↔ '&' ∉ content.toList :=
  ⟨fun h => hcontent.not_mem_of_survives h, fun h => hcontent.plain.survives h⟩

/-- A filter is left as it is if and only if it can be written. -/
theorem rereadFilter_eq_iff {nodeContent : String → List Node}
    (hcontent : ReferencesParsed nodeContent) {filter read : AclFilter}
    (huuid : read.uuid = filter.uuid) (hpriority : read.priority = filter.priority)
    (hrules : read.rules = filter.rules) :
    rereadFilter nodeContent read = read ↔ Rewritable filter := by
  obtain ⟨uuid, name, chain, priority, rules, refs⟩ := read
  subst huuid hpriority hrules
  simp only [rereadFilter, AclFilter.mk.injEq, true_and, and_true]
  -- what is lost is seen in what is read: the rules, the priority, the content of the uuid
  constructor
  · rintro ⟨hmap, hpriority, hrules⟩
    refine ⟨hrules.symm, hpriority.symm, fun text htext => ?_⟩
    rw [Option.mem_def.mp htext, Option.map_some] at hmap
    exact (survives_iff hcontent text).mp (Option.some.inj hmap)
  · intro h
    refine ⟨?_, h.priority.symm, h.rules.symm⟩
    cases huuid : filter.uuid with
    | none => rfl
    | some text => rw [Option.map_some, (survives_iff hcontent text).mpr (h.uuid text huuid)]

end RoundTrip

/-! ### The two operations -/

/-- What the operations meet: what connecting gives, and whether `virNWFilterDefineXML` takes
a document. -/
structure NestedEnv where
  connect : Except CmpiStatus NwFilters
  nodeContent : String → List Node
  defines : Node → Bool

/-- The two ends of an association: a property that may be missing, with a path that may
have no `Name`. -/
structure NestedFilterList where
  antecedent : Option (Option String)
  dependent : Option (Option String)
  deriving DecidableEq, Repr

/-- `create_filter`: the filter that is handed to libvirt, and whether it was taken. -/
def createFilter (env : NestedEnv) (filter : AclFilter) : Bool × Node :=
  let xml := filterToXml env.nodeContent filter
  (env.defines xml, xml)

/-- `update_filter`. -/
def updateFilter (env : NestedEnv) (filter : AclFilter) : Bool × Node :=
  createFilter env filter

/-- One end of the association: its name and the filter of that name. -/
def lookupEnd (conn : NwFilters) (role : String) (ref : Option (Option String)) :
    Except CmpiStatus (String × AclFilter) :=
  match ref with
  | none => .error (.failed s!"Unable to get {role} property")
  | some none => .error (.failed s!"Unable to get {role}.Name property")
  | some (some name) =>
    match getFilterByName conn name with
    | none => .error (.failed s!"{role}.Name object does not exist")
    | some filter => .ok (name, filter)

/-- How both operations begin: the parent filter and the name of the child. -/
def parentAndChild (env : NestedEnv) (list : NestedFilterList) :
    Except CmpiStatus (AclFilter × String) := do
  let conn ← env.connect
  let (_, parentFilter) ← lookupEnd conn "Antecedent" list.antecedent
  let (childName, _) ← lookupEnd conn "Dependent" list.dependent
  .ok (parentFilter, childName)

/-- How both operations end: the status, and what was handed to libvirt. -/
def finishUpdate (env : NestedEnv) (filter : AclFilter) : CmpiStatus × List Node :=
  match updateFilter env filter with
  | (true, xml) => (.ok, [xml])
  | (false, xml) => (.failed "Failed to update filter", [xml])

/-- `CreateInstance`: the status, and what was handed to libvirt. -/
def createInstance (env : NestedEnv) (list : NestedFilterList) : CmpiStatus × List Node :=
  match parentAndChild env list with
  | .error status => (status, [])
  | .ok (parentFilter, childName) =>
    match appendFilterRef parentFilter childName with
    | none => (.failed "Failed to append filter reference", [])
    | some filter => finishUpdate env filter

/-- `DeleteInstance`: the status, and what was handed to libvirt. -/
def deleteInstance (env : NestedEnv) (list : NestedFilterList) : CmpiStatus × List Node :=
  match parentAndChild env list with
  | .error status => (status, [])
  | .ok (parentFilter, childName) =>
    match removeFilterRef parentFilter childName with
    | none => (.failed "Failed to remove filter reference", [])
    | some filter => finishUpdate env filter

/-- The document that is handed to libvirt is that of the updated filter. -/
theorem finishUpdate_snd (env : NestedEnv) (filter : AclFilter) :
    (finishUpdate env filter).2 = [filterToXml env.nodeContent filter] := by
  unfold finishUpdate updateFilter createFilter
  split
  · next heq =>
    rw [← (Prod.mk.inj heq).2]
  · next heq =>
    rw [← (Prod.mk.inj heq).2]

/-- The parent was read from a document. -/
theorem exists_of_parentAndChild {env : NestedEnv} {list : NestedFilterList} {parent : AclFilter}
    {child : String} (h : parentAndChild env list = .ok (parent, child)) :
    ∃ fnode, parseAclFilter fnode = some parent := by
  -- the parent is a filter that libvirt answered with, and was parsed
  unfold parentAndChild at h
  obtain ⟨conn, -, h⟩ := bind_eq_ok h
  obtain ⟨⟨name, filter⟩, hlookup, h⟩ := bind_eq_ok h
  obtain ⟨⟨childName, childFilter⟩, -, h⟩ := bind_eq_ok h
  obtain ⟨rfl, -⟩ := Prod.mk.inj (Except.ok.inj h)
  unfold lookupEnd at hlookup
  split at hlookup
  · cases hlookup
  · cases hlookup
  · split at hlookup
    · cases hlookup
    · next hget =>
      obtain ⟨-, rfl⟩ := Prod.mk.inj (Except.ok.inj hlookup)
      obtain ⟨xmldoc, -, hread⟩ := Option.bind_eq_some_iff.mp hget
      obtain ⟨fnode, -, hparse⟩ := Option.bind_eq_some_iff.mp hread
      exact ⟨fnode, hparse⟩

/-- The request hands to libvirt nothing but the parent with these references. -/
def ChangesRefsOnly (result : CmpiStatus × List Node) (parent : AclFilter)
    (refs : List String) : Prop :=
  ∀ doc ∈ result.2, getFilterFromXml [doc] = some { parent with refs := refs }

/-- What both operations hand to libvirt differs from the parent in the references only, if
and only if the parent can be written. -/
theorem finishUpdate_iff {env : NestedEnv} (hcontent : ReferencesParsed env.nodeContent)
    {parent : AclFilter} {refs : List String} (hnodup : refs.Nodup) :
    ChangesRefsOnly (finishUpdate env { parent with refs := refs }) parent refs ↔
      Rewritable parent := by
  have hread : getFilterFromXml [filterToXml env.nodeContent { parent with refs := refs }] =
      some (rereadFilter env.nodeContent { parent with refs := refs }) :=
    getFilterFromXml_filterToXml env.nodeContent hnodup
  rw [ChangesRefsOnly, finishUpdate_snd, List.forall_mem_singleton, hread, Option.some.injEq]
  exact rereadFilter_eq_iff hcontent rfl rfl rfl

/-- **Adding a reference.** -/
theorem createInstance_iff {env : NestedEnv} (hcontent : ReferencesParsed env.nodeContent)
    {list : NestedFilterList} {parent : AclFilter} {child : String}
    (hends : parentAndChild env list = .ok (parent, child)) :
    ChangesRefsOnly (createInstance env list) parent (parent.refs ++ [child]) ↔
      child ∈ parent.refs ∨ Rewritable parent := by
  obtain ⟨fnode, hparse⟩ := exists_of_parentAndChild hends
  have hnodup := nodup_refs_of_parseAclFilter hparse
  unfold createInstance
  rw [hends]
  -- the reference that is there already is refused, and nothing is defined
  dsimp only
  rw [appendFilterRef]
  by_cases hmem : child ∈ parent.refs
  · rw [if_pos hmem]
    simp [ChangesRefsOnly, hmem]
  -- the new references are distinct, so the filter is written with all of them
  · have hnew : (parent.refs ++ [child]).Nodup :=
      nodup_concat hnodup hmem
    rw [if_neg hmem, or_iff_right hmem]
    exact finishUpdate_iff hcontent hnew

/-- **Taking a reference away.** -/
theorem deleteInstance_iff {env : NestedEnv} (hcontent : ReferencesParsed env.nodeContent)
    {list : NestedFilterList} {parent : AclFilter} {child : String}
    (hends : parentAndChild env list = .ok (parent, child)) :
    ChangesRefsOnly (deleteInstance env list) parent (parent.refs.erase child) ↔
      parent.refs = [] ∨ Rewritable parent := by
  obtain ⟨fnode, hparse⟩ := exists_of_parentAndChild hends
  have hnodup := nodup_refs_of_parseAclFilter hparse
  unfold deleteInstance
  rw [hends]
  dsimp only
  rw [removeFilterRef]
  -- without references there is nothing to remove, and nothing is defined
  by_cases hrefs : parent.refs = []
  · rw [if_pos hrefs]
    simp [ChangesRefsOnly, hrefs]
  · rw [if_neg hrefs, or_iff_right hrefs]
    exact finishUpdate_iff hcontent (hnodup.erase child)

/-- **Filters and their references.** A filter that was read comes back from what is written
of it if and only if it has no rule, no priority and no reference in its uuid; and so does the
rest of a filter when a reference is added to it or taken away. A request that does not get to
the filters, adds a reference that is there or takes one from a filter without any changes
nothing. -/
theorem nestedFilters_iff {env : NestedEnv} (hcontent : ReferencesParsed env.nodeContent) :
    (∀ xmldoc filter, getFilterFromXml xmldoc = some filter →
      (getFilterFromXml [filterToXml env.nodeContent filter] = some filter ↔
        Rewritable filter)) ∧
    ∀ list : NestedFilterList,
      (∀ status, parentAndChild env list = .error status →
        (createInstance env list).2 = [] ∧ (deleteInstance env list).2 = []) ∧
      ∀ parent child, parentAndChild env list = .ok (parent, child) →
        (ChangesRefsOnly (createInstance env list) parent (parent.refs ++ [child]) ↔
          child ∈ parent.refs ∨ Rewritable parent) ∧
        (ChangesRefsOnly (deleteInstance env list) parent (parent.refs.erase child) ↔
          parent.refs = [] ∨ Rewritable parent) := by
  constructor
  -- a filter that was read has distinct references
  · intro xmldoc filter hread
    obtain ⟨fnode, -, hparse⟩ := Option.bind_eq_some_iff.mp hread
    rw [getFilterFromXml_filterToXml env.nodeContent (nodup_refs_of_parseAclFilter hparse),
      Option.some.injEq]
    exact rereadFilter_eq_iff hcontent rfl rfl rfl
  · intro list
    constructor
    · intro status hends
      simp [createInstance, deleteInstance, hends]
    · intro parent child hends
      exact ⟨createInstance_iff hcontent hends, deleteInstance_iff hcontent hends⟩

/-- A hypervisor with a filter of one rule, and a filter of references. -/
def twoFilters : NwFilters where
  names := ["no-spoofing", "clean-traffic"]
  xmlDesc name :=
    if name = "no-spoofing" then oneRule.xmlDesc name
    else if name = "clean-traffic" then
      some [.elem "filter" [("name", "clean-traffic"), ("chain", "root")]
        [.elem "uuid" [] [.text "79f62b0d-94e2-4a22-a9f4-2ba0b2be6e3c"]]]
    else none

/-- Everything that is asked of it succeeds. -/
def twoFiltersEnv : NestedEnv where
  connect := .ok twoFilters
  nodeContent := Pool.predefinedContent
  defines _ := true

/-- The filter of references, as it is read. -/
def cleanTraffic : AclFilter where
  uuid := some "79f62b0d-94e2-4a22-a9f4-2ba0b2be6e3c"
  name := "clean-traffic"
  chain := some "root"

/-- The two filters as an association. -/
def spoofingInTraffic : NestedFilterList where
  antecedent := some (some "clean-traffic")
  dependent := some (some "no-spoofing")

theorem parentAndChild_spoofingInTraffic :
    parentAndChild twoFiltersEnv spoofingInTraffic = .ok (cleanTraffic, "no-spoofing") := by
  obtain ⟨child, hchild⟩ : ∃ child, getFilterByName twoFilters "no-spoofing" = some child :=
    ⟨_, rfl⟩
  have hparent : getFilterByName twoFilters "clean-traffic" = some cleanTraffic := by
    decide +kernel
  have hantecedent : lookupEnd twoFilters "Antecedent" (some (some "clean-traffic")) =
      .ok ("clean-traffic", cleanTraffic) := by rw [lookupEnd, hparent]
  have hdependent : lookupEnd twoFilters "Dependent" (some (some "no-spoofing")) =
      .ok ("no-spoofing", child) := by rw [lookupEnd, hchild]
  simp [parentAndChild, twoFiltersEnv, spoofingInTraffic, hantecedent, hdependent, bind,
    Except.bind]

theorem nestedFilters_cleanTraffic :
    Rewritable cleanTraffic ∧
      ChangesRefsOnly (createInstance twoFiltersEnv spoofingInTraffic) cleanTraffic
        ["no-spoofing"] := by
  have hcontent : ReferencesParsed twoFiltersEnv.nodeContent :=
    Pool.referencesParsed_predefinedContent
  have hwritable : Rewritable cleanTraffic := by
    refine ⟨rfl, rfl, ?_⟩
    intro uuid huuid
    obtain rfl := Option.some.inj huuid
    decide
  have hadd := ((nestedFilters_iff hcontent).2 spoofingInTraffic).2 _ _
    parentAndChild_spoofingInTraffic
  exact ⟨hwritable, hadd.1.mpr (.inr hwritable)⟩

/-- The rule of a filter does not come back, and is lost when a reference is added. -/
theorem not_changesRefsOnly_oneRule :
    (∃ xmldoc filter, getFilterFromXml xmldoc = some filter ∧
      getFilterFromXml [filterToXml Pool.predefinedContent filter] ≠ some filter) ∧
    ∃ list parent child, parentAndChild twoFiltersEnv list = .ok (parent, child) ∧
      ¬ ChangesRefsOnly (createInstance twoFiltersEnv list) parent (parent.refs ++ [child]) := by
  -- the first filter of the sample has a rule and no reference
  obtain ⟨filter, hread, hrules, hrefs⟩ : ∃ filter,
      getFilterByName twoFilters "no-spoofing" = some filter ∧ filter.rules ≠ [] ∧
        filter.refs = [] := by
    refine ⟨_, rfl, ?_, rfl⟩
    exact List.cons_ne_nil _ _
  obtain ⟨xmldoc, -, hxml⟩ := Option.bind_eq_some_iff.mp hread
  have hnodup : filter.refs.Nodup := by
    rw [hrefs]
    exact List.nodup_nil
  have hcontent : ReferencesParsed twoFiltersEnv.nodeContent :=
    Pool.referencesParsed_predefinedContent
  have hnot : ¬ Rewritable filter := fun h => hrules h.rules
  constructor
  · refine ⟨xmldoc, filter, hxml, ?_⟩
    rw [getFilterFromXml_filterToXml _ hnodup, Ne, Option.some.injEq]
    exact fun h => hnot ((rereadFilter_eq_iff hcontent rfl rfl rfl).mp h)
  · obtain ⟨childFilter, hchild⟩ : ∃ childFilter,
        getFilterByName twoFilters "clean-traffic" = some childFilter := ⟨_, rfl⟩
    -- both ends of the nesting are there
    have hends : parentAndChild twoFiltersEnv
        ⟨some (some "no-spoofing"), some (some "clean-traffic")⟩ =
          .ok (filter, "clean-traffic") := by
      have hantecedent : lookupEnd twoFilters "Antecedent" (some (some "no-spoofing")) =
          .ok ("no-spoofing", filter) := by rw [lookupEnd, hread]
      have hdependent : lookupEnd twoFilters "Dependent" (some (some "clean-traffic")) =
          .ok ("clean-traffic", childFilter) := by rw [lookupEnd, hchild]
      simp [parentAndChild, twoFiltersEnv, hantecedent, hdependent, bind, Except.bind]
    refine ⟨_, filter, "clean-traffic", hends, ?_⟩
    rw [createInstance_iff hcontent hends, hrefs]
    simpa using hnot

end LibvirtCim.Filter
