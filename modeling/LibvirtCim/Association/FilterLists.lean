import LibvirtCim.Association.AppliedFilters
import LibvirtCim.Filter.FilterEntry
import LibvirtCim.Filter.FilterEnumeration

/-!
# Filters, their rules and the filters they refer to

`Virt_EntriesInFilterList.c`, from a filter to its rules and from a rule to its filter, and the two
directions of `Virt_NestedFilterList.c`, from a filter to those it refers to and from a filter to
those that refer to it. One direction of each looks a filter up by its name, the other walks over
what `get_filters` returns.

* `entriesSymmetric_iff` — a rule leads to its filter, and to no other, if and only if no filter
  with rules is hidden, the names of those that have rules differ in more than case, and none has
  so many rules that the numbers in their names wrap around;
* `nestedSymmetric_iff` — the filters of a filter lead back to it if and only if no filter that
  refers to one is hidden.
-/

open Framework LibvirtCim.Device LibvirtCim.Filter

namespace LibvirtCim.Association

/-! ### Instances -/

/-- `convert_filter_to_instance`: the instance and the status. The direction is always zero. -/
def convertFilterToInstance (host : EntryHost) (filter : AclFilter) :
    Option EntryInstance × CmpiStatus :=
  let inst : EntryInstance := { base := "FilterList" }
  if host.typed "FilterList" then
    match host.system with
    -- the instance is returned all the same
    | none => (some inst, .failed "Unable to get host attributes")
    | some (sysName, sysCcname) =>
      let inst := inst.set "SystemName" (.chars sysName)
      let inst := inst.set "SystemCreationClassName" (.chars sysCcname)
      let inst := inst.set "Name" (.chars filter.name)
      let inst := inst.setOpt "InstanceID" (filter.uuid.map .chars)
      let inst := inst.set "Direction" (.uint16 0)
      (some (inst.set "Priority" (.sint16 (convertPriority filter.priority))), .ok)
  else (none, .failed "Unable to get filter list instance")

/-- The body of the four loops: the status is that of the last instance. -/
def addInstance {α : Type} (convert : α → Option EntryInstance × CmpiStatus)
    (result : CmpiStatus × List EntryInstance) (a : α) : CmpiStatus × List EntryInstance :=
  let (inst, s) := convert a
  (s, result.2 ++ inst.toList)

/-- How each of the four begins: the `Name` of the reference, and the connection. -/
def withName (conn : Except CmpiStatus NwFilters) (name : Option String)
    (rest : NwFilters → String → CmpiStatus × List EntryInstance) :
    CmpiStatus × List EntryInstance :=
  match name with
  | none => (.error .notFound "Unable to get Name from reference", [])
  | some name =>
    match conn with
    | .error status => (status, [])
    | .ok conn => rest conn name

variable (stack : MatchProperty → ℕ → UInt32) (host : EntryHost)

/-! ### Rules -/

/-- `list_to_rule`. -/
def listToRule (conn : Except CmpiStatus NwFilters) (name : Option String) :
    CmpiStatus × List EntryInstance :=
  withName conn name fun conn name =>
    match getFilterByName conn name with
    | none => (.ok, [])
    | some filter => filter.rules.foldl (addInstance (convertRuleToInstance stack host)) (.ok, [])

/-- The rules `rule_to_list` stops at, each with its filter: those with the name, up to case. -/
def rulesNamed (conn : NwFilters) (name : String) : List (AclFilter × AclRule) :=
  (enumFilterRules conn).filter fun entry => entry.2.name.any (streqc name)

/-- `rule_to_list`. -/
def ruleToList (conn : Except CmpiStatus NwFilters) (name : Option String) :
    CmpiStatus × List EntryInstance :=
  withName conn name fun conn name =>
    ((rulesNamed conn name).map Prod.fst).foldl (addInstance (convertFilterToInstance host))
      (.ok, [])

/-! ### Nested filters -/

/-- `parent_to_child`. A filter that is not there is left out. -/
def parentToChild (conn : Except CmpiStatus NwFilters) (name : Option String) :
    CmpiStatus × List EntryInstance :=
  withName conn name fun conn name =>
    match getFilterByName conn name with
    | none => (.ok, [])
    | some filter =>
      (filter.refs.filterMap (getFilterByName conn)).foldl
        (addInstance (convertFilterToInstance host)) (.ok, [])

/-- `child_to_parent`. -/
def childToParent (conn : Except CmpiStatus NwFilters) (name : Option String) :
    CmpiStatus × List EntryInstance :=
  withName conn name fun conn name =>
    ((getFilters conn).filter fun filter => name ∈ filter.refs).foldl
      (addInstance (convertFilterToInstance host)) (.ok, [])

/-! ### What is returned -/

/-- The `Name` of what is returned. -/
def returnedNames (result : CmpiStatus × List EntryInstance) : List (Option FilterValue) :=
  (returned result).map (·.get "Name")

/-- The provider gets instances of filters and of rules, and the host system. -/
structure Builds (host : EntryHost) : Prop where
  lists : host.typed "FilterList" = true
  entries : ∀ type, host.typed (entryBase type) = true
  system : host.system.isSome

variable {stack host}

/-- Instances that are all made are all returned. -/
theorem foldl_addInstance {α : Type} {convert : α → Option EntryInstance × CmpiStatus}
    {as : List α} {named : α → Option FilterValue}
    (h : ∀ a ∈ as, ∃ inst, convert a = (some inst, .ok) ∧ inst.get "Name" = named a) :
    returnedNames (as.foldl (addInstance convert) (.ok, [])) = as.map named := by
  -- the instances are appended to those of the front, in the order of the rules
  have hfold (front : List EntryInstance) :
      ∃ insts, as.foldl (addInstance convert) (.ok, front) = (.ok, front ++ insts) ∧
        insts.map (·.get "Name") = as.map named := by
    induction as generalizing front with
    | nil => exact ⟨[], by simp, rfl⟩
    -- the conversion goes through, so the fold takes its instance and goes on
    | cons a as ih =>
      obtain ⟨inst, hinst, hname⟩ := h a List.mem_cons_self
      obtain ⟨insts, hinsts, hnames⟩ := ih (fun b hb => h b (List.mem_cons_of_mem _ hb))
        (front ++ [inst])
      refine ⟨inst :: insts, ?_, ?_⟩
      · rw [List.foldl_cons, addInstance, hinst]
        show as.foldl (addInstance convert) (.ok, front ++ [inst]) = _
        rw [hinsts, List.append_assoc]
        rfl
      · rw [List.map_cons, List.map_cons, hname, hnames]
  obtain ⟨insts, hinsts, hnames⟩ := hfold []
  rw [hinsts]
  exact hnames

/-- The instance of a filter has its name. -/
theorem Builds.list (h : Builds host) (filter : AclFilter) :
    ∃ inst, convertFilterToInstance host filter = (some inst, .ok) ∧
      inst.get "Name" = some (.chars filter.name) := by
  obtain ⟨⟨sysName, sysCcname⟩, hsystem⟩ := Option.isSome_iff_exists.mp h.system
  unfold convertFilterToInstance
  rw [h.lists, hsystem]
  refine ⟨_, rfl, ?_⟩
  simp

/-- What a rule matches is no name. -/
theorem get_setMatch_name (prop : MatchProperty) (field : Option String) (inst : EntryInstance) :
    (setMatch stack prop field inst).get "Name" = inst.get "Name" := by
  have hne : "Name" ≠ prop.name := by cases prop <;> decide
  rw [setMatch, EntryInstance.get_setOpt, if_neg hne]

theorem get_convertFields_name (rule : AclRule) (inst : EntryInstance) :
    (convertFields stack rule inst).get "Name" = inst.get "Name" := by
  have hmac : (convertMacRuleToInstance stack rule inst).get "Name" = inst.get "Name" := by
    simp only [convertMacRuleToInstance, get_setMatch_name]
  have hip : (convertIpRuleToInstance stack rule inst).get "Name" = inst.get "Name" := by
    simp [convertIpRuleToInstance, convertSide_eq, get_setMatch_name]
  unfold convertFields
  cases rule.type with
  | mac => exact hmac
  | arp => exact hmac
  | ip => exact hip
  | tcp => exact hip
  | icmpIgmp => exact hip
  | unknown => rfl

/-- The instance of a rule has its name. -/
theorem Builds.entry (h : Builds host) (rule : AclRule) :
    ∃ inst, convertRuleToInstance stack host rule = (some inst, .ok) ∧
      inst.get "Name" = rule.name.map .chars := by
  obtain ⟨⟨sysName, sysCcname⟩, hsystem⟩ := Option.isSome_iff_exists.mp h.system
  unfold convertRuleToInstance
  dsimp only
  rw [h.entries, hsystem]
  refine ⟨_, rfl, ?_⟩
  rw [get_convertFields_name]
  simp only [EntryInstance.get_set, EntryInstance.get_setOpt]
  exact Option.or_none

variable {conn : NwFilters}

theorem returnedNames_listToRule (h : Builds host) {name : String} {filter : AclFilter}
    (hfilter : getFilterByName conn name = some filter) :
    returnedNames (listToRule stack host (.ok conn) (some name)) =
      filter.rules.map fun rule => rule.name.map .chars := by
  unfold listToRule withName
  dsimp only
  rw [hfilter]
  exact foldl_addInstance fun rule _ => h.entry rule

theorem returnedNames_ruleToList (h : Builds host) (name : String) :
    returnedNames (ruleToList host (.ok conn) (some name)) =
      (rulesNamed conn name).map fun entry => some (.chars entry.1.name) := by
  unfold ruleToList withName
  dsimp only
  rw [foldl_addInstance fun filter _ => h.list filter, List.map_map]
  rfl

theorem returnedNames_parentToChild (h : Builds host) {name : String} {filter : AclFilter}
    (hfilter : getFilterByName conn name = some filter) :
    returnedNames (parentToChild host (.ok conn) (some name)) =
      (filter.refs.filterMap (getFilterByName conn)).map fun child => some (.chars child.name) := by
  unfold parentToChild withName
  dsimp only
  rw [hfilter]
  exact foldl_addInstance fun child _ => h.list child

theorem returnedNames_childToParent (h : Builds host) (name : String) :
    returnedNames (childToParent host (.ok conn) (some name)) =
      ((getFilters conn).filter fun filter => name ∈ filter.refs).map fun parent =>
        some (.chars parent.name) := by
  unfold childToParent withName
  dsimp only
  exact foldl_addInstance fun parent _ => h.list parent

/-! ### Filters that are listed -/

/-- The filters of a hypervisor: the description of a filter has its name. -/
structure NamedFilters extends NwFilters where
  named : ∀ name filter, getFilterByName toNwFilters name = some filter → filter.name = name

/-- A filter that is listed can be looked up by its name. -/
theorem NamedFilters.lookup_of_mem (conn : NamedFilters) {filter : AclFilter}
    (h : filter ∈ getFilters conn.toNwFilters) :
    getFilterByName conn.toNwFilters filter.name = some filter := by
  -- a filter that was loaded was looked up by the name listed for it
  have hload : ∀ names, filter ∈ loadFilters conn.toNwFilters names →
      ∃ name, getFilterByName conn.toNwFilters name = some filter := by
    intro names hmem
    induction names with
    | nil => cases hmem
    | cons name names ih =>
      rw [loadFilters] at hmem
      split at hmem
      · cases hmem
      · next loaded hloaded =>
        obtain rfl | hrest := List.mem_cons.mp hmem
        · exact ⟨name, hloaded⟩
        · exact ih hrest
  -- libvirt answers to a name with the filter of that name
  obtain ⟨name, hname⟩ := hload conn.names h
  rw [conn.named name filter hname]
  exact hname

/-- Where every filter that is listed can be read, each of them is loaded. -/
theorem mem_getFilters_of_readable {conn : NwFilters}
    (hall : ∀ name ∈ conn.names, (getFilterByName conn name).isSome) {name : String}
    (hname : name ∈ conn.names) {filter : AclFilter}
    (h : getFilterByName conn name = some filter) : filter ∈ getFilters conn := by
  unfold getFilters
  generalize conn.names = names at hall hname
  -- the names are loaded in order, and none before this one fails
  induction names with
  | nil => cases hname
  | cons first names ih =>
    obtain ⟨hfirst, hrest⟩ := List.forall_mem_cons.mp hall
    obtain ⟨loaded, hloaded⟩ := Option.isSome_iff_exists.mp hfirst
    rw [loadFilters, hloaded]
    obtain rfl | hlater := List.mem_cons.mp hname
    · obtain rfl := Option.some.inj (h.symm.trans hloaded)
      exact List.mem_cons_self
    · exact List.mem_cons_of_mem _ (ih hrest hlater)

/-! ### The name of a rule -/

/-- What stands in front of the last separator, and behind it. -/
theorem append_sep_inj {α : Type} {sep : α} {a a' b b' : List α} (hb : sep ∉ b) (hb' : sep ∉ b') :
    a ++ sep :: b = a' ++ sep :: b' ↔ a = a' ∧ b = b' := by
  have hle {a a' b b' : List α} (hb : sep ∉ b) (c : List α) (hc : a' = a ++ c)
      (h : sep :: b = c ++ sep :: b') : a = a' ∧ b = b' := by
    cases c with
    | nil =>
      rw [List.append_nil] at hc
      exact ⟨hc.symm, (List.cons.inj h).2⟩
    | cons d c =>
      -- the one separator would be behind the other
      rw [List.cons_append] at h
      rw [(List.cons.inj h).2] at hb
      exact absurd (List.mem_append_right c List.mem_cons_self) hb
  constructor
  · intro h
    obtain ⟨c, hc, hrest⟩ | ⟨c, hc, hrest⟩ := List.append_eq_append_iff.mp h
    · exact hle hb c hc hrest
    · obtain ⟨ha, hb⟩ := hle hb' c hc hrest
      exact ⟨ha.symm, hb.symm⟩
  · rintro ⟨rfl, rfl⟩
    rfl

/-- A number has no colon in it. -/
theorem colon_not_mem_lower_repr (n : ℕ) : ':' ∉ n.repr.toList.map Char.toLower := by
  intro hmem
  obtain ⟨c, hc, hlower⟩ := List.mem_map.mp hmem
  have hdigit := isDigit_of_mem_repr hc
  unfold Char.toLower at hlower
  split_ifs at hlower with hupper
  · simp only [Char.isDigit, ge_iff_le, Bool.and_eq_true, decide_eq_true_eq] at hdigit
    have h1 := UInt32.le_iff_toNat_le.mp hupper.1
    have h2 := UInt32.le_iff_toNat_le.mp hdigit.2
    have h3 : (65 : ℕ) ≤ 57 := h1.trans h2
    omega
  · rw [hlower] at hdigit
    cases hdigit

/-- **Two names of rules are equal up to case** if and only if those of their filters are, and
their numbers are. -/
theorem streqc_makeRuleId_iff (a b : String) (i j : ℕ) :
    streqc (makeRuleId a i) (makeRuleId b j) = true ↔
      streqc a b = true ∧ i % UInt32.size = j % UInt32.size := by
  have hsplit (a : String) (i : ℕ) : (makeRuleId a i).toList.map Char.toLower =
      a.toList.map Char.toLower ++
        ':' :: (i % UInt32.size).repr.toList.map Char.toLower := by
    simp [makeRuleId]
  rw [← streqc_repr_iff]
  unfold streqc
  rw [hsplit, hsplit, decide_eq_true_iff, decide_eq_true_iff, decide_eq_true_iff]
  exact append_sep_inj (colon_not_mem_lower_repr _) (colon_not_mem_lower_repr _)

/-! ### Rules and their filters -/

/-- **A rule leads to its filter, and to no other**, wherever it is among those of a filter. -/
def EntriesSymmetric (stack : MatchProperty → ℕ → UInt32) (host : EntryHost)
    (conn : NwFilters) : Prop :=
  ∀ name filter, getFilterByName conn name = some filter → ∀ id,
    some (.chars id) ∈ returnedNames (listToRule stack host (.ok conn) (some name)) →
      returnedNames (ruleToList host (.ok conn) (some id)) = [some (.chars name)]

/-- The filters whose rules are told apart by their names. The rules of all filters that are
listed are searched, the first match up to case is taken, and the number in a name is printed with
32 bits. -/
structure EntriesFound (conn : NwFilters) : Prop where
  listed : ∀ name filter, getFilterByName conn name = some filter → filter.rules ≠ [] →
    filter ∈ getFilters conn
  apart : (getFilters conn).Pairwise fun f g => f.rules ≠ [] → g.rules ≠ [] →
    streqc f.name g.name = false
  few : ∀ filter ∈ getFilters conn, filter.rules.length ≤ UInt32.size

/-- The names of two rules are equal up to case. -/
def sameName (entry other : AclFilter × AclRule) : Bool :=
  other.2.name.any fun name => entry.2.name.any (streqc · name)

/-- Two rules have the same name if and only if their filters have, and their numbers are
equal. -/
theorem sameName_iff {conn : NwFilters} {f g : AclFilter} (hf : f ∈ getFilters conn)
    (hg : g ∈ getFilters conn) {i j : ℕ} (hi : i < f.rules.length) (hj : j < g.rules.length) :
    sameName (f, f.rules[i]) (g, g.rules[j]) = true ↔
      streqc f.name g.name = true ∧ i % UInt32.size = j % UInt32.size := by
  have hname {f : AclFilter} (hf : f ∈ getFilters conn) {i : ℕ} (hi : i < f.rules.length) :
      f.rules[i].name = some (makeRuleId f.name i) := by
    obtain ⟨xmldoc, hread⟩ := exists_of_mem_getFilters hf
    apply namedByPosition_getFilterFromXml hread i
    rw [List.getElem?_eq_getElem hi]
  unfold sameName
  rw [hname hf hi, hname hg hj, Option.any_some, Option.any_some, streqc_makeRuleId_iff]

/-- The rules of one filter are told apart if they are not too many. -/
theorem pairwise_rules_iff {conn : NwFilters} {filter : AclFilter}
    (h : filter ∈ getFilters conn) :
    (filter.rules.map (filter, ·)).Pairwise (fun e e' => ¬ sameName e e' = true) ↔
      filter.rules.length ≤ UInt32.size := by
  rw [List.pairwise_map, List.pairwise_iff_getElem]
  -- two rules of one filter share a name if their numbers meet modulo 2^32
  constructor
  · intro hapart
    by_contra hmany
    have hpos : 0 < UInt32.size := by decide
    have hlast : UInt32.size < filter.rules.length := by omega
    refine hapart 0 UInt32.size (by omega) hlast hpos ((sameName_iff h h _ hlast).mpr ?_)
    rw [Nat.mod_self, Nat.zero_mod]
    exact ⟨streqc_refl _, rfl⟩
  -- with no more rules than numbers, the number is the index
  · intro hfew i j hi hj hlt hnames
    have hmod := ((sameName_iff h h hi hj).mp hnames).2
    rw [Nat.mod_eq_of_lt (by omega), Nat.mod_eq_of_lt (by omega)] at hmod
    omega

/-- The rules of two filters are told apart by the names of the filters. -/
theorem forall_sameName_iff {conn : NwFilters} {f g : AclFilter} (hf : f ∈ getFilters conn)
    (hg : g ∈ getFilters conn) :
    (∀ e ∈ f.rules.map (f, ·), ∀ e' ∈ g.rules.map (g, ·), ¬ sameName e e' = true) ↔
      (f.rules ≠ [] → g.rules ≠ [] → streqc f.name g.name = false) := by
  -- rules of two filters share a name only if the filters do
  constructor
  · intro h hfrules hgrules
    rw [← Bool.not_eq_true]
    intro hname
    -- the first rules of both have the number zero
    have hfpos := List.length_pos_of_ne_nil hfrules
    have hgpos := List.length_pos_of_ne_nil hgrules
    exact h _ (List.mem_map_of_mem (List.getElem_mem hfpos)) _
      (List.mem_map_of_mem (List.getElem_mem hgpos))
      ((sameName_iff hf hg hfpos hgpos).mpr ⟨hname, rfl⟩)
  -- the names of the filters are part of the names of the rules
  · intro h e he e' he' hsame
    obtain ⟨rule, hrule, rfl⟩ := List.mem_map.mp he
    obtain ⟨rule', hrule', rfl⟩ := List.mem_map.mp he'
    have hnot := h (List.ne_nil_of_mem hrule) (List.ne_nil_of_mem hrule')
    obtain ⟨i, hi, rfl⟩ := List.getElem_of_mem hrule
    obtain ⟨j, hj, rfl⟩ := List.getElem_of_mem hrule'
    have hname := ((sameName_iff hf hg hi hj).mp hsame).1
    rw [hnot] at hname
    cases hname

/-- The rules that are enumerated are told apart by their names. -/
theorem pairwise_enumFilterRules_iff (conn : NwFilters) :
    (enumFilterRules conn).Pairwise (fun e e' => ¬ sameName e e' = true) ↔
      (getFilters conn).Pairwise (fun f g => f.rules ≠ [] → g.rules ≠ [] →
        streqc f.name g.name = false) ∧
      ∀ filter ∈ getFilters conn, filter.rules.length ≤ UInt32.size := by
  unfold enumFilterRules
  rw [List.pairwise_flatMap, and_comm]
  refine and_congr ?_ (forall₂_congr fun filter hfilter => pairwise_rules_iff hfilter)
  refine List.Pairwise.iff_of_mem ?_
  intro f g hf hg
  exact forall_sameName_iff hf hg

/-- A rule of a filter that was read has a name. -/
theorem exists_name_of_rule {xmldoc : List Node} {filter : AclFilter}
    (hread : getFilterFromXml xmldoc = some filter) {rule : AclRule}
    (hrule : rule ∈ filter.rules) : ∃ id, rule.name = some id := by
  obtain ⟨i, hi, rfl⟩ := List.getElem_of_mem hrule
  refine ⟨_, namedByPosition_getFilterFromXml hread i _ ?_⟩
  rw [List.getElem?_eq_getElem hi]

/-- A rule that is enumerated is one of a filter that is listed, and has a name. -/
theorem exists_name_of_mem {conn : NwFilters} {entry : AclFilter × AclRule}
    (h : entry ∈ enumFilterRules conn) : entry.1 ∈ getFilters conn ∧ entry.2 ∈ entry.1.rules ∧
      ∃ id, entry.2.name = some id := by
  obtain ⟨filter, hfilter, hmem⟩ := List.mem_flatMap.mp h
  obtain ⟨rule, hrule, rfl⟩ := List.mem_map.mp hmem
  obtain ⟨xmldoc, hread⟩ := exists_of_mem_getFilters hfilter
  exact ⟨hfilter, hrule, exists_name_of_rule hread hrule⟩

/-- The rules with the name of one of them. -/
theorem rulesNamed_eq {conn : NwFilters} {entry : AclFilter × AclRule} {id : String}
    (h : entry.2.name = some id) :
    rulesNamed conn id = (enumFilterRules conn).filter (sameName entry) := by
  unfold rulesNamed
  refine List.filter_congr fun other _ => ?_
  unfold sameName
  rw [h]
  cases other.2.name with
  | none => rfl
  | some name => rfl

/-- **A rule leads to its filter and to no other** if and only if no filter with rules is hidden
behind one that cannot be read, the names of the filters with rules differ in more than case, and
none of them has more rules than there are numbers for them. A rule is looked up among those of
all filters that are listed, by a name that is compared up to case, so these names have to be
apart (`pairwise_enumFilterRules_iff`). -/
theorem entriesSymmetric_iff (conn : NamedFilters) (stack : MatchProperty → ℕ → UInt32)
    (hbuilds : Builds host) :
    EntriesSymmetric stack host conn.toNwFilters ↔ EntriesFound conn.toNwFilters := by
  -- a rule is of its own name, and having a name in common goes both ways
  have hrefl : ∀ e ∈ enumFilterRules conn.toNwFilters, sameName e e = true := by
    intro e he
    obtain ⟨-, -, id, hid⟩ := exists_name_of_mem he
    unfold sameName
    rw [hid]
    exact streqc_refl id
  have hsymm (e e' : AclFilter × AclRule) : sameName e e' = sameName e' e := by
    unfold sameName
    cases e.2.name with
    | none =>
      cases e'.2.name with
      | none => rfl
      | some name => rfl
    | some name =>
      cases e'.2.name with
      | none => rfl
      | some name' => exact streqc_comm name name'
  -- the three conditions say that each rule is found alone by its name
  have hall : EntriesFound conn.toNwFilters ↔
      (∀ name filter, getFilterByName conn.toNwFilters name = some filter → filter.rules ≠ [] →
        filter ∈ getFilters conn.toNwFilters) ∧
      ∀ entry ∈ enumFilterRules conn.toNwFilters,
        (enumFilterRules conn.toNwFilters).filter (sameName entry) = [entry] := by
    rw [filter_self_iff hrefl hsymm, pairwise_enumFilterRules_iff]
    exact ⟨fun h => ⟨h.listed, h.apart, h.few⟩, fun h => ⟨h.1, h.2.1, h.2.2⟩⟩
  rw [hall]
  constructor
  · intro h
    -- what a rule of a filter leads to
    have hback {name : String} {filter : AclFilter}
        (hfilter : getFilterByName conn.toNwFilters name = some filter) {rule : AclRule}
        (hrule : rule ∈ filter.rules) {id : String} (hid : rule.name = some id) :
        ∃ e, rulesNamed conn.toNwFilters id = [e] ∧ e.1 = filter := by
      have hnames := h name filter hfilter id (by
        rw [returnedNames_listToRule hbuilds hfilter]
        exact List.mem_map.mpr ⟨rule, hrule, by rw [hid]; rfl⟩)
      rw [returnedNames_ruleToList hbuilds] at hnames
      -- what is found leads back to one filter, the one that was asked
      obtain ⟨e, hrules, hname⟩ := List.map_eq_singleton_iff.mp hnames
      refine ⟨e, hrules, ?_⟩
      have hmem : e ∈ rulesNamed conn.toNwFilters id := by
        rw [hrules]
        exact List.mem_singleton_self e
      obtain ⟨hlisted, -, -⟩ := exists_name_of_mem (List.mem_of_mem_filter hmem)
      have hlookup := conn.lookup_of_mem hlisted
      have hsame : e.1.name = name := by simpa using hname
      rw [hsame] at hlookup
      exact Option.some.inj (hlookup.symm.trans hfilter)
    -- a filter with a rule is listed, as the rule leads to it
    constructor
    · intro name filter hfilter hrules
      obtain ⟨rule, hrule⟩ := List.exists_mem_of_ne_nil _ hrules
      obtain ⟨xmldoc, -, hread⟩ := Option.bind_eq_some_iff.mp hfilter
      obtain ⟨id, hid⟩ := exists_name_of_rule hread hrule
      obtain ⟨e, hnamed, rfl⟩ := hback hfilter hrule hid
      have hmem : e ∈ rulesNamed conn.toNwFilters id := by
        rw [hnamed]
        exact List.mem_singleton_self e
      exact (exists_name_of_mem (List.mem_of_mem_filter hmem)).1
    -- the rule that is found by its own name is the rule
    · intro entry hentry
      obtain ⟨hlisted, hrule, id, hid⟩ := exists_name_of_mem hentry
      obtain ⟨e, hnamed, -⟩ := hback (conn.lookup_of_mem hlisted) hrule hid
      rw [rulesNamed_eq hid] at hnamed
      have hmem := List.mem_filter.mpr ⟨hentry, hrefl entry hentry⟩
      rw [hnamed] at hmem
      rw [hnamed, List.mem_singleton.mp hmem]
  -- back: the rule is found alone, and its filter has the name that was asked
  · rintro ⟨hlisted, hself⟩ name filter hfilter id hid
    rw [returnedNames_listToRule hbuilds hfilter] at hid
    obtain ⟨rule, hrule, hname⟩ := List.mem_map.mp hid
    obtain ⟨id', hid', hchars⟩ := Option.map_eq_some_iff.mp hname
    obtain rfl : id' = id := by simpa using hchars
    have hmem : (filter, rule) ∈ enumFilterRules conn.toNwFilters := by
      refine List.mem_flatMap.mpr ⟨filter, ?_, List.mem_map_of_mem hrule⟩
      exact hlisted name filter hfilter (List.ne_nil_of_mem hrule)
    rw [returnedNames_ruleToList hbuilds, @rulesNamed_eq _ (filter, rule) _ hid',
      hself _ hmem, List.map_singleton, conn.named name filter hfilter]

/-- A filter with a rule, and a filter that refers to it. -/
def layeredFilters : NamedFilters where
  names := ["no-spoofing", "clean-traffic"]
  xmlDesc name :=
    if name = "no-spoofing" then oneRule.xmlDesc name
    else if name = "clean-traffic" then
      some [.elem "filter" [("name", "clean-traffic"), ("chain", "root")]
        [.elem "filterref" [("filter", "no-spoofing")] []]]
    else none
  named := by
    intro name filter h
    unfold getFilterByName at h
    dsimp only at h
    split_ifs at h with hrule href
    · subst hrule
      exact (congrArg AclFilter.name (Option.some.inj h)).symm
    · subst href
      exact (congrArg AclFilter.name (Option.some.inj h)).symm
    · cases h

/-- A host on which every instance can be made. -/
def buildingHost : EntryHost where
  typed _ := true
  system := some ("host", "KVM_HostSystem")

theorem builds_buildingHost : Builds buildingHost where
  lists := rfl
  entries _ := rfl
  system := rfl

/-- Both filters are listed. -/
theorem mem_getFilters_layeredFilters {name : String} {filter : AclFilter}
    (h : getFilterByName layeredFilters.toNwFilters name = some filter) :
    filter ∈ getFilters layeredFilters.toNwFilters := by
  have hread : ∀ name ∈ layeredFilters.names,
      (getFilterByName layeredFilters.toNwFilters name).isSome := by decide +kernel
  refine mem_getFilters_of_readable hread ?_ h
  unfold getFilterByName layeredFilters at h
  dsimp only at h
  split_ifs at h with hrule href
  · rw [hrule]
    exact List.mem_cons_self
  · rw [href]
    exact List.mem_cons_of_mem _ List.mem_cons_self
  · cases h

/-- The rule leads to its filter. -/
theorem entriesSymmetric_layered :
    EntriesSymmetric (fun _ _ => 0) buildingHost layeredFilters.toNwFilters := by
  refine (entriesSymmetric_iff layeredFilters _ builds_buildingHost).mpr ⟨?_, ?_, ?_⟩
  · intro name filter hfilter _
    exact mem_getFilters_layeredFilters hfilter
  · decide +kernel
  · decide +kernel

/-! ### Filters and the filters they refer to -/

/-- **Filters that refer to each other lead to each other.** -/
def NestedSymmetric (host : EntryHost) (conn : NwFilters) : Prop :=
  ∀ parent child, (getFilterByName conn parent).isSome → (getFilterByName conn child).isSome →
    (some (.chars child) ∈ returnedNames (parentToChild host (.ok conn) (some parent)) ↔
      some (.chars parent) ∈ returnedNames (childToParent host (.ok conn) (some child)))

/-- The filters of a filter are those it refers to, as far as they can be read. -/
theorem mem_parentToChild_iff (conn : NamedFilters) (hbuilds : Builds host) {parent : String}
    {filter : AclFilter} (hfilter : getFilterByName conn.toNwFilters parent = some filter)
    (child : String) :
    some (.chars child) ∈
        returnedNames (parentToChild host (.ok conn.toNwFilters) (some parent)) ↔
      child ∈ filter.refs ∧ (getFilterByName conn.toNwFilters child).isSome := by
  -- the filters that are named by the references and are there
  rw [returnedNames_parentToChild hbuilds hfilter]
  constructor
  · intro hmem
    obtain ⟨found, hfound, hname⟩ := List.mem_map.mp hmem
    obtain ⟨ref, href, hlookup⟩ := List.mem_filterMap.mp hfound
    have hsame : found.name = child := by simpa using hname
    obtain rfl : ref = child := (conn.named ref found hlookup).symm.trans hsame
    -- the name in the answer is the reference itself
    rw [hlookup]
    exact ⟨href, rfl⟩
  · rintro ⟨href, hsome⟩
    obtain ⟨found, hlookup⟩ := Option.isSome_iff_exists.mp hsome
    refine List.mem_map.mpr ⟨found, List.mem_filterMap.mpr ⟨child, href, hlookup⟩, ?_⟩
    rw [conn.named child found hlookup]

/-- The filters that refer to a filter are those that are listed. -/
theorem mem_childToParent_iff (conn : NamedFilters) (hbuilds : Builds host) {parent : String}
    {filter : AclFilter} (hfilter : getFilterByName conn.toNwFilters parent = some filter)
    (child : String) :
    some (.chars parent) ∈
        returnedNames (childToParent host (.ok conn.toNwFilters) (some child)) ↔
      child ∈ filter.refs ∧ filter ∈ getFilters conn.toNwFilters := by
  -- of the listed filters, those that refer to the child
  rw [returnedNames_childToParent hbuilds]
  constructor
  · intro hmem
    obtain ⟨found, hfound, hname⟩ := List.mem_map.mp hmem
    obtain ⟨hlisted, href⟩ := List.mem_filter.mp hfound
    -- the filter listed under the name of the parent is the parent
    have hlookup := conn.lookup_of_mem hlisted
    have hsame : found.name = parent := by simpa using hname
    rw [hsame, hfilter] at hlookup
    obtain rfl := Option.some.inj hlookup
    exact ⟨of_decide_eq_true href, hlisted⟩
  · rintro ⟨href, hlisted⟩
    refine List.mem_map.mpr ⟨filter, List.mem_filter.mpr ⟨hlisted, decide_eq_true href⟩, ?_⟩
    rw [conn.named parent filter hfilter]

/-- **The filters of a filter lead back to it** if and only if no filter that refers to another
one is hidden behind one that cannot be read. The one direction looks the references up by name,
the other searches the filters that are listed, and the list ends at the first that cannot be
read. -/
theorem nestedSymmetric_iff (conn : NamedFilters) (hbuilds : Builds host) :
    NestedSymmetric host conn.toNwFilters ↔
      ∀ name filter, getFilterByName conn.toNwFilters name = some filter →
        (∃ ref ∈ filter.refs, (getFilterByName conn.toNwFilters ref).isSome) →
          filter ∈ getFilters conn.toNwFilters := by
  -- the parent lists the child, so the child must list the parent
  constructor
  · rintro h name filter hfilter ⟨ref, href, hsome⟩
    have hparent : (getFilterByName conn.toNwFilters name).isSome := by
      rw [hfilter]
      rfl
    have hchild := (mem_parentToChild_iff conn hbuilds hfilter ref).mpr ⟨href, hsome⟩
    exact ((mem_childToParent_iff conn hbuilds hfilter ref).mp
      ((h name ref hparent hsome).mp hchild)).2
  -- both conditions hold of the same reference
  · intro h parent child hparent hchild
    obtain ⟨filter, hfilter⟩ := Option.isSome_iff_exists.mp hparent
    rw [mem_parentToChild_iff conn hbuilds hfilter, mem_childToParent_iff conn hbuilds hfilter]
    refine and_congr_right fun href => ?_
    exact iff_of_true hchild (h parent filter hfilter ⟨child, href, hchild⟩)

/-- The filter with the rule and the one that refers to it. -/
theorem nestedSymmetric_layered :
    NestedSymmetric buildingHost layeredFilters.toNwFilters := by
  refine (nestedSymmetric_iff layeredFilters builds_buildingHost).mpr ?_
  intro name filter hfilter _
  exact mem_getFilters_layeredFilters hfilter

end LibvirtCim.Association
