import LibvirtCim.Filter.NestedFilterList
import LibvirtCim.Framework.Until
import Mathlib.Data.List.Nodup

/-!
# The filters of a hypervisor

`get_filters` sizes its array by what libvirt says the number of filters is, fills it by name
and gives up at the first filter that it cannot look up or parse. What it returns is
well-formed (`valid_of_getFiltersArray`), but it is complete only when no such filter stands
before one that can be read (`enumerates_iff`). A filter that names another one twice is one
that cannot be parsed (`parseAclFilter_of_twice`).
-/

open Framework LibvirtCim.Device

namespace LibvirtCim.Filter

/-! ### The array -/

/-- The array of names: as many entries as `virConnectNumOfNWFilters` promised, the first of
them set by `virConnectListNWFilters`. -/
def nameSlots (conn : NwFilters) (count : ℕ) : List (Option String) :=
  (conn.names.take count).map some ++ List.replicate (count - conn.names.length) none

/-- `get_filter_by_name`, of a name that may be null. -/
def getFilterByEntry (conn : NwFilters) (name : Option String) : Option AclFilter :=
  name.bind (getFilterByName conn)

/-- The loop of `get_filters`, from the index `i` on: the array and the index it ends with. -/
def fillFilters (conn : NwFilters) :
    List (Option String) → ℕ → List (Option AclFilter) → List (Option AclFilter) × ℕ
  | [], i, filters => (filters, i)
  | name :: names, i, filters =>
    match getFilterByEntry conn name with
    | none => (filters, i)
    | some filter => fillFilters conn names (i + 1) (filters.set i (some filter))

/-- `get_filters`: the array, when there is one, and the number that is returned. An entry
that was not set is zero. A count of `-1` cannot be allocated. -/
def getFiltersArray (conn : NwFilters) (count : ℤ) : Option (List (Option AclFilter)) × ℕ :=
  if count < 0 then (none, 0)
  else
    let r := fillFilters conn (nameSlots conn count.toNat) 0 (List.replicate count.toNat none)
    (some r.1, r.2)

/-- The names libvirt reports. -/
def reportedNames (conn : NwFilters) (count : ℤ) : List String :=
  conn.names.take count.toNat

/-- The valid entries of the array. -/
def validEntries (filters : Option (List (Option AclFilter))) : List AclFilter :=
  (filters.getD []).filterMap id

/-- The array holds exactly the filters that can be read, in their order and each once, from
its start on, and as many as is returned. -/
structure Enumerates (conn : NwFilters) (count : ℤ) : Prop where
  entries : validEntries (getFiltersArray conn count).1 =
    (reportedNames conn count).filterMap (getFilterByName conn)
  front : ((getFiltersArray conn count).1.getD []).take (getFiltersArray conn count).2 =
    (validEntries (getFiltersArray conn count).1).map some
  counted : (getFiltersArray conn count).2 = (validEntries (getFiltersArray conn count).1).length

/-! ### The loop -/

/-- What the loop does: the filters it reads are appended to those in front of the index. -/
theorem fillFilters_eq (conn : NwFilters) (names : List (Option String))
    (front : List AclFilter) (rest : ℕ) (hrest : names.length ≤ rest) :
    fillFilters conn names front.length (front.map some ++ List.replicate rest none) =
      let read := mapUntil (getFilterByEntry conn) names
      ((front ++ read).map some ++ List.replicate (rest - read.length) none,
        (front ++ read).length) := by
  -- on the names; the filters read so far are the front of the array
  induction names generalizing front rest with
  | nil => simp [fillFilters]
  | cons name names ih =>
    cases h : getFilterByEntry conn name with
    -- the loop ends here, and the rest of the array stays zero
    | none =>
      rw [mapUntil_cons_none _ _ h]
      simp [fillFilters, h]
    | some filter =>
      -- the filter takes the next free entry
      obtain ⟨rest, rfl⟩ : ∃ k, rest = k + 1 :=
        ⟨rest - 1, by rw [List.length_cons] at hrest; omega⟩
      have hset : (front.map some ++ List.replicate (rest + 1) none).set front.length
          (some filter) = (front ++ [filter]).map some ++ List.replicate rest none := by
        rw [List.set_append_right _ _ (by simp)]
        simp [List.replicate_succ]
      have hlen : (front ++ [filter]).length = front.length + 1 := by simp
      rw [mapUntil_cons_some _ _ h]
      simp only [fillFilters, h]
      rw [hset, ← hlen, ih (front ++ [filter]) rest (by simpa using hrest)]
      simp [List.append_assoc, Nat.add_sub_add_right]

/-- Entries without a name are not reached, or the loop ends with them. -/
theorem mapUntil_nameSlots (conn : NwFilters) (count : ℕ) :
    mapUntil (getFilterByEntry conn) (nameSlots conn count) =
      mapUntil (getFilterByName conn) (conn.names.take count) := by
  unfold nameSlots
  induction conn.names.take count with
  | nil =>
    cases count - conn.names.length with
    | zero => rfl
    | succ n => rfl
  | cons name names ih =>
    rw [List.map_cons, List.cons_append]
    cases h : getFilterByName conn name with
    | none => rw [mapUntil_cons_none _ _ h, mapUntil_cons_none _ _ (by exact h)]
    | some filter => rw [mapUntil_cons_some _ _ h, mapUntil_cons_some _ _ (by exact h), ih]

/-- The number of names. -/
theorem length_nameSlots (conn : NwFilters) (count : ℕ) :
    (nameSlots conn count).length = count := by
  simp [nameSlots]
  omega

/-- The filters that were read before the first failure. -/
def readFilters (conn : NwFilters) (count : ℤ) : List AclFilter :=
  mapUntil (getFilterByName conn) (reportedNames conn count)

/-- **The array is what was read before the first failure, and zero behind it; the number
that is returned is the number of filters that were read.** -/
theorem getFiltersArray_eq (conn : NwFilters) {count : ℤ} (hcount : 0 ≤ count) :
    getFiltersArray conn count =
      (some ((readFilters conn count).map some ++
        List.replicate (count.toNat - (readFilters conn count).length) none),
        (readFilters conn count).length) := by
  have hloop := fillFilters_eq conn (nameSlots conn count.toNat) [] count.toNat
    (length_nameSlots conn count.toNat).le
  rw [mapUntil_nameSlots] at hloop
  unfold getFiltersArray
  rw [if_neg (not_lt.mpr hcount)]
  simp only [List.map_nil, List.nil_append, List.length_nil] at hloop
  rw [hloop]
  rfl

/-- Nothing is read without an array. -/
theorem readFilters_of_neg (conn : NwFilters) {count : ℤ} (hcount : count < 0) :
    readFilters conn count = [] := by
  have hzero : count.toNat = 0 := by omega
  rw [readFilters, reportedNames, hzero]
  rfl

/-- The valid entries are the filters that were read. -/
theorem validEntries_getFiltersArray (conn : NwFilters) (count : ℤ) :
    validEntries (getFiltersArray conn count).1 = readFilters conn count := by
  by_cases hcount : count < 0
  · rw [readFilters_of_neg conn hcount, getFiltersArray, if_pos hcount]
    rfl
  · rw [getFiltersArray_eq conn (not_lt.mp hcount)]
    simp [validEntries, List.filterMap_append, List.filterMap_map]

/-- The number that is returned is always the number of valid entries. -/
theorem count_getFiltersArray (conn : NwFilters) (count : ℤ) :
    (getFiltersArray conn count).2 = (readFilters conn count).length := by
  by_cases hcount : count < 0
  · rw [readFilters_of_neg conn hcount, getFiltersArray, if_pos hcount]
    rfl
  · rw [getFiltersArray_eq conn (not_lt.mp hcount)]

/-- The valid entries always stand at the start of the array. -/
theorem front_getFiltersArray (conn : NwFilters) (count : ℤ) :
    ((getFiltersArray conn count).1.getD []).take (getFiltersArray conn count).2 =
      (readFilters conn count).map some := by
  by_cases hcount : count < 0
  · rw [readFilters_of_neg conn hcount, getFiltersArray, if_pos hcount]
    rfl
  · rw [getFiltersArray_eq conn (not_lt.mp hcount), Option.getD_some]
    rw [List.take_append_of_le_length (by simp)]
    apply List.take_of_length_le
    simp

/-- Where libvirt reports as many filters as it lists, the entries are those of
`getFilters`. -/
theorem validEntries_eq_getFilters (conn : NwFilters) :
    validEntries (getFiltersArray conn conn.names.length).1 = getFilters conn := by
  rw [validEntries_getFiltersArray, readFilters, reportedNames, Int.toNat_natCast, List.take_length,
    getFilters]
  induction conn.names with
  | nil => rfl
  | cons name names ih =>
    cases h : getFilterByName conn name with
    | none => rw [mapUntil_cons_none _ _ h, loadFilters, h]
    | some filter => rw [mapUntil_cons_some _ _ h, loadFilters, h, ih]

/-! ### Completeness -/

/-- **`get_filters` returns exactly the filters that can be looked up and parsed if and only if
none that cannot stands before one that can.** The loop ends at the first name that fails
(`getFiltersArray_eq`), so what is returned is what was read before it, and the number is right in
any case. -/
theorem enumerates_iff (conn : NwFilters) (count : ℤ) :
    Enumerates conn count ↔ (reportedNames conn count).Pairwise fun a b =>
      getFilterByName conn a = none → getFilterByName conn b = none := by
  show _ ↔ Unhidden (getFilterByName conn) (reportedNames conn count)
  rw [← mapUntil_eq_filterMap_iff]
  constructor
  · intro h
    rw [← h.entries, validEntries_getFiltersArray]
    rfl
  · intro h
    refine ⟨?_, ?_, ?_⟩
    · rw [validEntries_getFiltersArray]
      exact h
    · rw [front_getFiltersArray, validEntries_getFiltersArray]
    · rw [count_getFiltersArray, validEntries_getFiltersArray]

/-! ### Filters that name another one twice -/

/-- The names a filter refers to, as its document has them. -/
def filterrefs (fnode : Node) : List (Option String) :=
  (fnode.children.filter fun child => child.name = "filterref").map fun child =>
    getAttrValue child "filter"

/-- The loop of `parse_acl_filter` appends every reference it meets. -/
theorem refs_of_foldlM {children : List Node} {filter filter' : AclFilter}
    (h : children.foldlM parseFilterChild filter = some filter') :
    filter'.refs.map some = filter.refs.map some ++
      (children.filter fun child => child.name = "filterref").map fun child =>
        getAttrValue child "filter" := by
  -- on the children; only an element filterref adds a reference
  induction children generalizing filter with
  | nil =>
    obtain rfl : filter = filter' := by simpa using h
    simp
  | cons child children ih =>
    rw [List.foldlM_cons] at h
    obtain ⟨next, hchild, hrest⟩ := Option.bind_eq_some_iff.mp h
    rw [ih hrest]
    by_cases hname : child.name = "filterref"
    -- the reference is new, for one that is there already ends the parser
    · rw [List.filter_cons_of_pos (by simpa using hname)]
      have hnext : (getAttrValue child "filter").bind (appendFilterRef filter) = some next := by
        simpa [parseFilterChild, hname] using hchild
      obtain ⟨name, hattr, happend⟩ := Option.bind_eq_some_iff.mp hnext
      unfold appendFilterRef at happend
      split_ifs at happend with hmem
      rw [← Option.some.inj happend]
      simp [hattr]
    · rw [List.filter_cons_of_neg (by simpa using hname)]
      -- any other child leaves the references
      have hrefs : next.refs = filter.refs := by
        unfold parseFilterChild at hchild
        split_ifs at hchild
        · rw [← Option.some.inj hchild]
        · obtain ⟨rule, -, rfl⟩ := Option.map_eq_some_iff.mp hchild
          rfl
        · rw [← Option.some.inj hchild]
      rw [hrefs]

/-- **A filter whose document names another filter twice cannot be parsed.** -/
theorem parseAclFilter_of_twice {fnode : Node} (h : ¬ (filterrefs fnode).Nodup) :
    parseAclFilter fnode = none := by
  cases hparse : parseAclFilter fnode with
  | none => rfl
  | some filter =>
    exfalso
    apply h
    have hrefs : filterrefs fnode = filter.refs.map some := by
      obtain ⟨name, -, hfold⟩ := Option.bind_eq_some_iff.mp hparse
      rw [refs_of_foldlM hfold]
      rfl
    rw [hrefs]
    exact List.Nodup.map (Option.some_injective _) (nodup_refs_of_parseAclFilter hparse)

/-- A document of a filter that names one other filter as often as said. -/
def filterNaming (name ref : String) (times : ℕ) : Node :=
  .elem "filter" [("name", name)]
    (List.replicate times (.elem "filterref" [("filter", ref)] []))

/-- Three filters of which the second names `clean-traffic` twice. -/
def threeFilters : NwFilters where
  names := ["first", "twice", "last"]
  xmlDesc := fun name =>
    if name = "twice" then some [filterNaming name "clean-traffic" 2]
    else some [filterNaming name "clean-traffic" 1]

/-- **A filter that is enumerated before another hides it when it cannot be parsed.** -/
theorem not_enumerates :
    ¬ ∀ (conn : NwFilters) (count : ℤ), Enumerates conn count := by
  intro h
  have hentries := (h threeFilters 3).entries
  revert hentries
  decide +kernel

end LibvirtCim.Filter
