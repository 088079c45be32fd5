import LibvirtCim.Filter.AclParsing
import LibvirtCim.Framework.Fold

/-!
# Names of filter rules

`Virt_FilterEntry.c` gives each rule of each filter as an instance whose name is
`make_rule_id` of the filter and the position, and looks a rule up by taking the name apart
with `parse_rule_id`.

The format of `parse_rule_id` reads `%ms[^:]` as one conversion, which it is not: `%ms` takes
the whole word, colons included, and `[^:]` is literal text that never stands behind a word.
No name is taken apart, and no rule is found by its name.
-/

open Framework LibvirtCim.Rasd

namespace LibvirtCim.Filter

/-! ### The names are given by position -/

/-- Each rule of a filter has the name made of the filter's name and of its position. The name is
made when the rule is appended, so an earlier rule keeps its own. -/
def NamedByPosition (filter : AclFilter) : Prop :=
  ∀ i rule, filter.rules[i]? = some rule → rule.name = some (makeRuleId filter.name i)

/-- Appending a rule keeps the names, and gives the new rule the name of its position. -/
theorem namedByPosition_appendFilterRule (filter : AclFilter) (rule : AclRule) :
    NamedByPosition (appendFilterRule filter rule) ↔ NamedByPosition filter := by
  constructor
  · intro h i r hr
    apply h i r
    rw [appendFilterRule, List.getElem?_append_left (List.getElem?_eq_some_iff.mp hr).1, hr]
  · intro h i r hr
    rw [appendFilterRule] at hr
    dsimp only at hr
    rw [List.getElem?_append] at hr
    split at hr
    · exact h i r hr
    · next hle =>
      -- the rule at the end is the new one
      obtain ⟨hlt, hget⟩ := List.getElem?_eq_some_iff.mp hr
      rw [List.length_singleton] at hlt
      have hi : i = filter.rules.length := by omega
      subst hi
      simp only [Nat.sub_self, List.getElem_cons_zero] at hget
      rw [← hget]
      rfl

/-- **Any sequence of appends names by position.** -/
theorem namedByPosition_foldl (filter : AclFilter) (rules : List AclRule) :
    NamedByPosition (rules.foldl appendFilterRule filter) ↔ NamedByPosition filter := by
  induction rules generalizing filter with
  | nil => rfl
  | cons rule rules ih => rw [List.foldl_cons, ih, namedByPosition_appendFilterRule]

/-- A child that is read keeps the names. -/
theorem namedByPosition_parseFilterChild {filter filter' : AclFilter} {child : Node}
    (h : parseFilterChild filter child = some filter') (hnamed : NamedByPosition filter) :
    NamedByPosition filter' := by
  unfold parseFilterChild at h
  split_ifs at h
  · rw [← Option.some.inj h]
    exact hnamed
  · obtain ⟨rule, -, rfl⟩ := Option.map_eq_some_iff.mp h
    exact (namedByPosition_appendFilterRule filter rule).mpr hnamed
  · obtain ⟨name, -, happend⟩ := Option.bind_eq_some_iff.mp h
    unfold appendFilterRef at happend
    split_ifs at happend
    rw [← Option.some.inj happend]
    exact hnamed
  · rw [← Option.some.inj h]
    exact hnamed

/-- What every accepted child keeps, an accepted filter has. -/
theorem parseAclFilter_rule {P : AclFilter → Prop}
    (hstart : ∀ filter, filter.rules = [] → filter.refs = [] → P filter)
    (hchild : ∀ filter child filter', parseFilterChild filter child = some filter' →
      P filter → P filter')
    {fnode : Node} {filter : AclFilter} (h : parseAclFilter fnode = some filter) : P filter := by
  unfold parseAclFilter at h
  obtain ⟨name, -, hfold⟩ := Option.bind_eq_some_iff.mp h
  exact foldlM_some_invariant hchild hfold (hstart _ rfl rfl)

/-- **The rules of a filter that was read are named by position.** -/
theorem namedByPosition_getFilterFromXml {xmldoc : List Node} {filter : AclFilter}
    (h : getFilterFromXml xmldoc = some filter) : NamedByPosition filter := by
  obtain ⟨fnode, -, hparse⟩ := Option.bind_eq_some_iff.mp h
  refine parseAclFilter_rule (P := NamedByPosition) ?_ ?_ hparse
  · intro filter hrules _ i rule hrule
    simp [hrules] at hrule
  · intro filter child filter' hchild hnamed
    exact namedByPosition_parseFilterChild hchild hnamed

/-! ### No name is taken apart -/

/-- Behind a word stands white space, or nothing. -/
theorem isSpace_of_scanWordRest {cs rest : List Char} {word : String}
    (h : scanWordRest cs = some (word, rest)) : ∀ c ∈ rest.head?, isSpace c = true := by
  obtain ⟨w, -, heq⟩ := Option.map_eq_some_iff.mp h
  obtain ⟨-, rfl⟩ := Prod.mk.inj heq
  intro c hc
  have hnot := List.head?_dropWhile_not (fun c => !isSpace c) (cs.dropWhile isSpace)
  rw [Option.mem_def.mp hc] at hnot
  simpa using hnot

/-- The literal text of the format does not stand there. -/
theorem scanLit_of_scanWordRest {cs rest : List Char} {word : String}
    (h : scanWordRest cs = some (word, rest)) : scanLit "[^:]:".toList rest = none := by
  have hspace := isSpace_of_scanWordRest h
  unfold scanLit
  rw [if_neg]
  intro hlit
  obtain ⟨tail, rfl⟩ := List.isPrefixOf_iff_prefix.mp hlit
  have hbracket : isSpace '[' = true := hspace '[' rfl
  exact absurd hbracket (by decide)

/-- **`parse_rule_id` fails on every text.** -/
@[simp] theorem parseRuleId_eq_none (ruleId : String) : parseRuleId ruleId = none := by
  unfold parseRuleId
  cases hword : scanWordRest ruleId.toList with
  | none => rfl
  | some wordRest =>
    obtain ⟨word, rest⟩ := wordRest
    show (scanLit "[^:]:".toList rest).bind _ = none
    rw [scanLit_of_scanWordRest hword]
    rfl

/-! ### Rule instances -/

/-- `enum_filter_rules`: the rules that are made into instances, each with the filter it
belongs to. The `Name` of the instance is the name of the rule. -/
def enumFilterRules (conn : NwFilters) : List (AclFilter × AclRule) :=
  (getFilters conn).flatMap fun filter => filter.rules.map (filter, ·)

/-- `get_rule_by_ref`, on the `Name` of the reference and what connecting to the hypervisor
gives: the filter and the rule that is made into the instance. -/
def getRuleByRef (conn : Except CmpiStatus NwFilters) (name : Option String) :
    Except CmpiStatus (AclFilter × AclRule) :=
  match name with
  | none => .error (.error .notFound "Unable to get Name from reference")
  | some name =>
    match parseRuleId name with
    | none => .error (.error .notFound "Could not parse filter name")
    | some (filterName, ruleIndex) =>
      conn.bind fun conn =>
        match getFilterByName conn filterName with
        | none => .error (.error .notFound "Could not retrieve filter")
        | some filter =>
          match filter.rules.zipIdx.find? fun entry => ruleIndex = (entry.2 : ℤ) with
          | none => .error (.error .notFound "Could not retrieve rule")
          | some (rule, _) => .ok (filter, rule)

/-- A filter of the list was read from a document. -/
theorem exists_of_mem_getFilters {conn : NwFilters} {filter : AclFilter}
    (h : filter ∈ getFilters conn) : ∃ xmldoc, getFilterFromXml xmldoc = some filter := by
  have hload : ∀ names, filter ∈ loadFilters conn names →
      ∃ xmldoc, getFilterFromXml xmldoc = some filter := by
    intro names
    induction names with
    | nil =>
      intro hmem
      cases hmem
    | cons name names ih =>
      intro hmem
      rw [loadFilters] at hmem
      split at hmem
      · cases hmem
      · next loaded hloaded =>
        rw [List.mem_cons] at hmem
        obtain rfl | hrest := hmem
        · obtain ⟨xmldoc, -, hread⟩ := Option.bind_eq_some_iff.mp hloaded
          exact ⟨xmldoc, hread⟩
        · exact ih hrest
  exact hload conn.names h

/-- No rule is found by its name. -/
theorem getRuleByRef_of_name (conn : Except CmpiStatus NwFilters) (name : String) :
    getRuleByRef conn (some name) =
      .error (.error .notFound "Could not parse filter name") := by
  unfold getRuleByRef
  dsimp only
  rw [parseRuleId_eq_none]

/-- Each rule that is enumerated is found again by its name, as the same rule of the same
filter. -/
def RulesRecovered (conn : NwFilters) : Prop :=
  ∀ entry ∈ enumFilterRules conn, ∃ name, entry.2.name = some name ∧
    getRuleByRef (.ok conn) (some name) = .ok entry

theorem rulesRecovered_iff (conn : NwFilters) :
    RulesRecovered conn ↔ ∀ filter ∈ getFilters conn, filter.rules = [] := by
  constructor
  · intro h filter hfilter
    rw [List.eq_nil_iff_forall_not_mem]
    intro rule hrule
    have hentry : (filter, rule) ∈ enumFilterRules conn :=
      List.mem_flatMap.mpr ⟨filter, hfilter, List.mem_map.mpr ⟨rule, hrule, rfl⟩⟩
    obtain ⟨name, -, hget⟩ := h _ hentry
    rw [getRuleByRef_of_name] at hget
    cases hget
  · intro h entry hentry
    obtain ⟨filter, hfilter, hrule⟩ := List.mem_flatMap.mp hentry
    rw [h filter hfilter] at hrule
    simp at hrule

/-- **Names of rules.** They are given by position, whatever is appended, and name the rules
of every filter that is read; but `parse_rule_id` gives none of them back, and the rules of
the filters are found by their names only where there are none. -/
theorem ruleNames_never_recovered (conn : NwFilters) :
    (RulesRecovered conn ↔ ∀ filter ∈ getFilters conn, filter.rules = []) ∧
      (∀ (name : String) (index : ℕ) (result : String × ℤ),
        parseRuleId (makeRuleId name index) ≠ some result) ∧
      (∀ filter ∈ getFilters conn, NamedByPosition filter) ∧
      ∀ (filter : AclFilter) (rules : List AclRule),
        NamedByPosition (rules.foldl appendFilterRule filter) ↔ NamedByPosition filter := by
  refine ⟨rulesRecovered_iff conn, ?_, ?_, namedByPosition_foldl⟩
  · intro name index result h
    rw [parseRuleId_eq_none] at h
    cases h
  · intro filter hfilter
    obtain ⟨xmldoc, hread⟩ := exists_of_mem_getFilters hfilter
    exact namedByPosition_getFilterFromXml hread

/-- A hypervisor with one filter, of one rule. -/
def oneRule : NwFilters where
  names := ["no-spoofing"]
  xmlDesc name :=
    if name = "no-spoofing" then
      some [.elem "filter" [("name", "no-spoofing"), ("chain", "mac")]
        [.elem "rule" [("action", "drop"), ("direction", "out")]
          [.elem "mac" [("srcmacaddr", "$MAC")] []]]]
    else none

/-- Its rule is not found by the name it is enumerated with. -/
theorem not_rulesRecovered_oneRule :
    ¬ RulesRecovered oneRule ∧
      parseRuleId (makeRuleId "no-spoofing" 0) ≠ some ("no-spoofing", 0) := by
  constructor
  · intro h
    have hnil := (rulesRecovered_iff oneRule).mp h
    have hfilters : (getFilters oneRule).all (fun filter => filter.rules = []) = false := by
      decide +kernel
    rw [← Bool.not_eq_true, List.all_eq_true] at hfilters
    exact hfilters fun filter hfilter => decide_eq_true (hnil filter hfilter)
  · intro h
    rw [parseRuleId_eq_none] at h
    cases h

end LibvirtCim.Filter
