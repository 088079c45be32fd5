import LibvirtCim.Association.FilterLists
import LibvirtCim.Filter.AppliedFilterList
import LibvirtCim.Framework.Run

/-!
# Requests on filters

The requests that change the filters of a hypervisor, one after the other: those of
`Virt_FilterList.c`, which make a filter or take it away, those of `Virt_NestedFilterList.c`, which
add a reference to a filter or take one from it, and those of `Virt_AppliedFilterList.c`, which only
change domains. Libvirt may refuse any of them.

A client that follows the answers (`tellStep`) knows, after every run, the references and the
rules of every filter that is there (`told_of_run`), although `DeleteInstance` of `FilterList`
does not tell it whether the filter is gone. It loses track where the hypervisor cannot be
connected to: there the answer is that everything is fine. What it knows about the rules is not
what a client expects (`rules_kept_iff`): they are lost with the first reference that is granted.
-/

open Framework LibvirtCim.Device LibvirtCim.Filter LibvirtCim.Association

namespace LibvirtCim.Service

/-! ### Requests -/

/-- What a request meets: what the calls of libvirt answer, and the instances the provider gets. -/
structure FilterCalls extends FilterEnv where
  /-- `virNWFilterDefineXML`: the description of what is defined -/
  defineFilter : Node → Option (List Node)
  entryHost : EntryHost
  /-- what was defined is described with its name and its references -/
  described : ∀ filter nodes, filter.refs.Nodup →
    defineFilter (filterToXml nodeContent filter) = some nodes →
      ∃ read, getFilterFromXml nodes = some read ∧ read.name = filter.name ∧
        read.refs = filter.refs ∧ read.rules = []

/-- `FilterRequest`, `CreateInstance` of `FilterList` with the `Name` of the instance, and the two
requests on nested filters. -/
inductive FiltersRequest
  | applied (request : FilterRequest)
  | createFilter (name : Option String)
  | nest (list : NestedFilterList)
  | unnest (list : NestedFilterList)

/-- A request that was answered. There is no status where the process has crashed. -/
structure FiltersLabel where
  request : FiltersRequest
  calls : FilterCalls
  status : Option CmpiStatus

/-- `CreateInstance` of `FilterList`: the status, and what was handed to libvirt. -/
def createFilterList (calls : FilterCalls) (host : FilterHost) (name : Option String) :
    CmpiStatus × List Node :=
  match name with
  | none => (.failed "Unable to get Name property", [])
  | some name =>
    match calls.connect with
    | .error status => (status, [])
    | .ok () =>
      if (getFilterByName host.filters name).isSome then
        (.error .alreadyExists "Instance already exists", [])
      else
        let filter : AclFilter := { name := name }
        let xml := filterToXml calls.nodeContent filter
        -- the status is that of the conversion, although the filter is there
        if (calls.defineFilter xml).isSome then
          ((convertFilterToInstance calls.entryHost filter).2, [xml])
        else (.failed "Failed to create filter", [xml])

/-- What the requests on nested filters meet. -/
def nestedEnv (calls : FilterCalls) (host : FilterHost) : NestedEnv where
  connect := calls.connect.map fun _ => host.filters
  nodeContent := calls.nodeContent
  defines doc := (calls.defineFilter doc).isSome

/-- A request: the status, what it does to definitions, and the filters it hands to libvirt. -/
def performFilters (calls : FilterCalls) (host : FilterHost) :
    FiltersRequest → Option CmpiStatus × List Change × List Node
  | .applied request =>
    let (status, changes) := perform calls.toFilterEnv host request
    (status, changes, [])
  | .createFilter name =>
    let (status, docs) := createFilterList calls host name
    (some status, [], docs)
  | .nest list =>
    let (status, docs) := createInstance (nestedEnv calls host) list
    (some status, [], docs)
  | .unnest list =>
    let (status, docs) := deleteInstance (nestedEnv calls host) list
    (some status, [], docs)

/-! ### What libvirt takes -/

/-- The filters with another description of one of them, or with one more. -/
def withFilter (filters : NwFilters) (name : String) (nodes : List Node) : NwFilters where
  names := if name ∈ filters.names then filters.names else filters.names ++ [name]
  xmlDesc other := if other = name then some nodes else filters.xmlDesc other

/-- A filter that is handed to libvirt. -/
def takeFilter (calls : FilterCalls) (filters : NwFilters) (doc : Node) : NwFilters :=
  match calls.defineFilter doc, getAttrValue doc "name" with
  | some nodes, some name => withFilter filters name nodes
  | _, _ => filters

/-- A request leads from one host to another. -/
structure FiltersStep (host : FilterHost) (l : FiltersLabel) (host' : FilterHost) : Prop where
  answer : (performFilters l.calls host l.request).1 = l.status
  filters : host'.filters = (performFilters l.calls host l.request).2.2.foldl
    (takeFilter l.calls) ((performFilters l.calls host l.request).2.1.foldl FilterHost.apply
      host).filters
  domains : host'.domains =
    ((performFilters l.calls host l.request).2.1.foldl FilterHost.apply host).domains

/-- A host and the requests of its clients. -/
def filtersSystem (init : FilterHost) : System FilterHost FiltersLabel where
  init := init
  step := FiltersStep

/-! ### What the answers tell -/

/-- What a client knows of a filter. -/
structure KnownFilter where
  refs : List String
  rules : List AclRule

/-- The answers that tell that a filter was made. -/
def toldCreated (status : CmpiStatus) : Bool :=
  status = .ok ∨ status = .failed "Unable to get host attributes" ∨
    status = .failed "Unable to get filter list instance"

/-- The names of the two ends. -/
def nestedEnds (list : NestedFilterList) : Option (String × String) := do
  let parent ← list.antecedent.join
  let child ← list.dependent.join
  some (parent, child)

/-- What a client makes of a request on nested filters. A request that is granted takes the rules
of the parent with it. -/
def tellNested (known : String → KnownFilter) (list : NestedFilterList)
    (edit : List String → String → List String) (status : Option CmpiStatus) :
    String → KnownFilter :=
  match nestedEnds list with
  | none => known
  | some (parent, child) =>
    if status = some .ok then Function.update known parent ⟨edit (known parent).refs child, []⟩
    else known

/-- What a client makes of a request and its answer. -/
def tellStep (known : String → KnownFilter) (l : FiltersLabel) : String → KnownFilter :=
  match l.request with
  | .applied _ => known
  | .createFilter none => known
  | .createFilter (some name) =>
    if l.status.any toldCreated then Function.update known name ⟨[], []⟩ else known
  | .nest list => tellNested known list (fun refs child => refs ++ [child]) l.status
  | .unnest list => tellNested known list List.erase l.status

/-- What is known of the filters that are there is right. -/
def Agrees (known : String → KnownFilter) (host : FilterHost) : Prop :=
  ∀ name filter, getFilterByName host.filters name = some filter →
    filter.refs = (known name).refs ∧ filter.rules = (known name).rules

/-- A request without a connection is told so. Where the connection fails and no status is set,
the answer would be OK although nothing was done. -/
def ConnectionTold (calls : FilterCalls) : Prop :=
  ∀ status, calls.connect = .error status →
    status = .failed "Unable to generate URI from classname"

/-! ### Steps -/

/-- What is there after definitions were changed was there before. -/
theorem getFilterByName_of_changes {changes : List Change} {host : FilterHost} {name : String}
    {filter : AclFilter}
    (h : getFilterByName (changes.foldl FilterHost.apply host).filters name = some filter) :
    getFilterByName host.filters name = some filter := by
  induction changes generalizing host with
  | nil => exact h
  -- each change leaves the filters or takes some away, so what is found was there
  | cons change changes ih =>
    have hstep := ih h
    cases change with
    | redefined domain doc stored => exact hstep
    | undefined gone =>
      have hwithout : getFilterByName (host.filters.without gone) name = some filter := hstep
      unfold getFilterByName NwFilters.without at hwithout
      dsimp only at hwithout
      split_ifs at hwithout
      · cases hwithout
      · exact hwithout

theorem getFilterByName_withFilter (filters : NwFilters) (name other : String)
    (nodes : List Node) :
    getFilterByName (withFilter filters name nodes) other =
      if other = name then getFilterFromXml nodes else getFilterByName filters other := by
  unfold getFilterByName withFilter
  dsimp only
  split_ifs
  · rfl
  · rfl

/-- What is handed over has the name of the filter. -/
theorem getAttrValue_filterToXml (nodeContent : String → List Node) (filter : AclFilter) :
    getAttrValue (filterToXml nodeContent filter) "name" = some filter.name := by
  simp [filterToXml, getAttrValue, prop]

/-- A filter that is taken is there with its references and without a rule, the others stay. -/
theorem getFilterByName_takeFilter {calls : FilterCalls} {filters : NwFilters}
    {filter : AclFilter} (hnodup : filter.refs.Nodup)
    (hdefined : (calls.defineFilter (filterToXml calls.nodeContent filter)).isSome)
    (other : String) :
    ∃ read : AclFilter, read.refs = filter.refs ∧ read.rules = [] ∧
      getFilterByName (takeFilter calls filters (filterToXml calls.nodeContent filter)) other =
        if other = filter.name then some read else getFilterByName filters other := by
  obtain ⟨nodes, hnodes⟩ := Option.isSome_iff_exists.mp hdefined
  obtain ⟨read, hread, -, hrefs, hrules⟩ := calls.described filter nodes hnodup hnodes
  refine ⟨read, hrefs, hrules, ?_⟩
  unfold takeFilter
  rw [hnodes, getAttrValue_filterToXml]
  dsimp only
  rw [getFilterByName_withFilter, hread]

/-- A filter that is refused changes nothing. -/
theorem takeFilter_of_refused {calls : FilterCalls} {doc : Node}
    (h : calls.defineFilter doc = none) (filters : NwFilters) :
    takeFilter calls filters doc = filters := by
  unfold takeFilter
  rw [h]

/-- What is handed to libvirt is a filter whose references are distinct. -/
def Written (calls : FilterCalls) (doc : Node) : Prop :=
  ∃ filter : AclFilter, filter.refs.Nodup ∧ doc = filterToXml calls.nodeContent filter

/-- What is taken is described under its name. -/
theorem named_takeFilter {calls : FilterCalls} {filters : NwFilters} {doc : Node}
    (hwritten : Written calls doc)
    (hnamed : ∀ name filter, getFilterByName filters name = some filter → filter.name = name)
    (name : String) (filter : AclFilter)
    (h : getFilterByName (takeFilter calls filters doc) name = some filter) :
    filter.name = name := by
  obtain ⟨source, hnodup, rfl⟩ := hwritten
  unfold takeFilter at h
  rw [getAttrValue_filterToXml] at h
  -- a document that libvirt refuses changes nothing
  cases hnodes : calls.defineFilter (filterToXml calls.nodeContent source) with
  | none =>
    rw [hnodes] at h
    exact hnamed name filter h
  | some nodes =>
    rw [hnodes] at h
    dsimp only at h
    obtain ⟨read, hread, hsame, -, -⟩ := calls.described source nodes hnodup hnodes
    rw [getFilterByName_withFilter] at h
    split_ifs at h with hname
    -- the filter that is defined is found under its own name
    · obtain rfl := Option.some.inj (hread.symm.trans h)
      rw [hsame, hname]
    · exact hnamed name filter h

theorem written_finishUpdate {calls : FilterCalls} {host : FilterHost} {filter : AclFilter}
    (hnodup : filter.refs.Nodup) :
    ∀ doc ∈ (finishUpdate (nestedEnv calls host) filter).2, Written calls doc := by
  intro doc hdoc
  rw [finishUpdate_snd] at hdoc
  exact ⟨filter, hnodup, List.mem_singleton.mp hdoc⟩

/-- Whatever is requested, only such filters are handed to libvirt. -/
theorem written_performFilters (calls : FilterCalls) (host : FilterHost)
    (request : FiltersRequest) :
    ∀ doc ∈ (performFilters calls host request).2.2, Written calls doc := by
  -- the parent as it was read names no filter twice
  have hnested {list : NestedFilterList} {filter : AclFilter} {child : String}
      (hends : parentAndChild (nestedEnv calls host) list = .ok (filter, child)) :
      filter.refs.Nodup := by
    obtain ⟨fnode, hparse⟩ := exists_of_parentAndChild hends
    exact nodup_refs_of_parseAclFilter hparse
  -- what each of the requests gives to libvirt
  cases request with
  | applied request => simp [performFilters]
  | createFilter name =>
    show ∀ doc ∈ (createFilterList calls host name).2, Written calls doc
    unfold createFilterList
    split
    · simp
    · split
      · simp
      -- a new filter has no references
      · have hone (name : String) (doc : Node)
            (hdoc : doc ∈ [filterToXml calls.nodeContent { name := name }]) :
            Written calls doc :=
          ⟨{ name := name }, List.nodup_nil, List.mem_singleton.mp hdoc⟩
        dsimp only
        split_ifs
        · simp
        · exact hone _
        · exact hone _
  | nest list =>
    show ∀ doc ∈ (createInstance (nestedEnv calls host) list).2, Written calls doc
    unfold createInstance
    cases hends : parentAndChild (nestedEnv calls host) list with
    | error status => simp
    | ok ends =>
      dsimp only
      unfold appendFilterRef
      split_ifs with hmem
      · simp
      -- one reference more, which was not there yet
      · exact written_finishUpdate (nodup_concat (hnested hends) hmem)
  | unnest list =>
    show ∀ doc ∈ (deleteInstance (nestedEnv calls host) list).2, Written calls doc
    unfold deleteInstance
    cases hends : parentAndChild (nestedEnv calls host) list with
    | error status => simp
    | ok ends =>
      dsimp only
      unfold removeFilterRef
      split_ifs
      · simp
      -- one reference less
      · exact written_finishUpdate ((hnested hends).erase _)

/-- **Every request leads to a host**, whatever libvirt answers. -/
theorem exists_filtersStep (calls : FilterCalls) (host : FilterHost) (request : FiltersRequest) :
    ∃ host', FiltersStep host ⟨request, calls, (performFilters calls host request).1⟩ host' := by
  have hnamed {docs : List Node} (hwritten : ∀ doc ∈ docs, Written calls doc)
      {filters : NwFilters}
      (h : ∀ name filter, getFilterByName filters name = some filter → filter.name = name) :
      ∀ name filter, getFilterByName (docs.foldl (takeFilter calls) filters) name = some filter →
        filter.name = name := by
    induction docs generalizing filters with
    | nil => exact h
    | cons doc docs ih =>
      obtain ⟨hdoc, hdocs⟩ := List.forall_mem_cons.mp hwritten
      exact ih hdocs (named_takeFilter hdoc h)
  exact ⟨⟨_, _, hnamed (written_performFilters calls host request)
    (((performFilters calls host request).2.1.foldl FilterHost.apply host).named)⟩, rfl, rfl, rfl⟩

/-- An end that is looked up is named, and its filter is there. -/
theorem lookupEnd_eq_ok {conn : NwFilters} {role name : String} {ref : Option (Option String)}
    {filter : AclFilter} (h : lookupEnd conn role ref = .ok (name, filter)) :
    ref.join = some name ∧ getFilterByName conn name = some filter := by
  unfold lookupEnd at h
  split at h
  · cases h
  · cases h
  · next found =>
    split at h
    · cases h
    · next hget =>
      obtain ⟨rfl, rfl⟩ := Prod.mk.inj (Except.ok.inj h)
      exact ⟨rfl, hget⟩

theorem lookupEnd_ne_ok {conn : NwFilters} {role : String} {ref : Option (Option String)} :
    lookupEnd conn role ref ≠ .error .ok := by
  unfold lookupEnd
  intro h
  split at h
  · cases h
  · cases h
  · split at h
    · cases h
    · cases h

/-- The ends of a request that gets to the filters. -/
theorem parentAndChild_eq_ok {calls : FilterCalls} {host : FilterHost} {list : NestedFilterList}
    {filter : AclFilter} {child : String}
    (h : parentAndChild (nestedEnv calls host) list = .ok (filter, child)) :
    nestedEnds list = some (filter.name, child) ∧
      getFilterByName host.filters filter.name = some filter := by
  unfold parentAndChild at h
  obtain ⟨conn, hconn, h⟩ := bind_eq_ok h
  obtain ⟨⟨name, parent⟩, hparent, h⟩ := bind_eq_ok h
  obtain ⟨⟨other, childFilter⟩, hchild, h⟩ := bind_eq_ok h
  obtain ⟨rfl, rfl⟩ := Prod.mk.inj (Except.ok.inj h)
  -- the two ends are found by the names in the references
  obtain ⟨_, -, rfl⟩ := map_eq_ok hconn
  obtain ⟨hjoin, hget⟩ := lookupEnd_eq_ok hparent
  obtain ⟨hjoin', -⟩ := lookupEnd_eq_ok hchild
  have hname := host.named name parent hget
  rw [hname]
  refine ⟨?_, hget⟩
  unfold nestedEnds
  rw [hjoin, hjoin']
  rfl

/-- A request that does not get to the filters tells so. -/
theorem parentAndChild_ne_ok {calls : FilterCalls} (hconnect : ConnectionTold calls)
    {host : FilterHost} {list : NestedFilterList} :
    parentAndChild (nestedEnv calls host) list ≠ .error .ok := by
  intro h
  unfold parentAndChild nestedEnv at h
  dsimp only at h
  -- no connection is told, and each end that is missing has a status of its own
  cases hconn : calls.connect with
  | error status =>
    rw [hconn] at h
    obtain rfl : status = .ok := Except.error.inj h
    exact absurd (hconnect _ hconn) (by decide)
  | ok _ =>
    rw [hconn] at h
    change (lookupEnd host.filters "Antecedent" list.antecedent >>= _) = _ at h
    cases hparent : lookupEnd host.filters "Antecedent" list.antecedent with
    | error status =>
      rw [hparent] at h
      obtain rfl : status = .ok := Except.error.inj h
      exact lookupEnd_ne_ok hparent
    | ok parent =>
      rw [hparent] at h
      change (lookupEnd host.filters "Dependent" list.dependent >>= _) = _ at h
      cases hchild : lookupEnd host.filters "Dependent" list.dependent with
      | error status =>
        rw [hchild] at h
        obtain rfl : status = .ok := Except.error.inj h
        exact lookupEnd_ne_ok hchild
      | ok child =>
        rw [hchild] at h
        cases h

/-- How a request on nested filters ends: it is granted, and the parent is defined with other
references, or it is told that it failed, and nothing is taken. -/
def Granted (calls : FilterCalls) (host : FilterHost) (list : NestedFilterList)
    (edit : List String → String → List String) (answer : CmpiStatus × List Node) : Prop :=
  (∃ filter child, nestedEnds list = some (filter.name, child) ∧
    getFilterByName host.filters filter.name = some filter ∧
    (edit filter.refs child).Nodup ∧
    (calls.defineFilter (filterToXml calls.nodeContent
      { filter with refs := edit filter.refs child })).isSome ∧
    answer = (.ok, [filterToXml calls.nodeContent
      { filter with refs := edit filter.refs child }])) ∨
  (answer.1 ≠ .ok ∧ ∀ doc ∈ answer.2, calls.defineFilter doc = none)

theorem finishUpdate_granted {calls : FilterCalls} {host : FilterHost} {list : NestedFilterList}
    {edit : List String → String → List String} {filter : AclFilter} {child : String}
    (hends : nestedEnds list = some (filter.name, child))
    (hget : getFilterByName host.filters filter.name = some filter)
    (hnodup : (edit filter.refs child).Nodup) :
    Granted calls host list edit (finishUpdate (nestedEnv calls host)
      { filter with refs := edit filter.refs child }) := by
  unfold Granted finishUpdate updateFilter createFilter nestedEnv
  dsimp only
  -- libvirt refuses the document, or takes it and the filter has the new references
  cases hdefined : calls.defineFilter (filterToXml calls.nodeContent
      { filter with refs := edit filter.refs child }) with
  | none =>
    refine .inr ⟨by simp, ?_⟩
    intro doc hdoc
    obtain rfl := List.mem_singleton.mp hdoc
    exact hdefined
  | some nodes =>
    refine .inl ⟨filter, child, hends, hget, hnodup, ?_, rfl⟩
    rw [hdefined]
    rfl

/-- The references of a filter that is there are distinct. -/
theorem nodup_refs_of_getFilterByName {conn : NwFilters} {name : String} {filter : AclFilter}
    (h : getFilterByName conn name = some filter) : filter.refs.Nodup := by
  obtain ⟨xmldoc, -, hread⟩ := Option.bind_eq_some_iff.mp h
  obtain ⟨fnode, -, hparse⟩ := Option.bind_eq_some_iff.mp hread
  exact nodup_refs_of_parseAclFilter hparse

theorem createInstance_granted {calls : FilterCalls} (hconnect : ConnectionTold calls)
    (host : FilterHost) (list : NestedFilterList) :
    Granted calls host list (fun refs child => refs ++ [child])
      (createInstance (nestedEnv calls host) list) := by
  unfold createInstance
  cases hends : parentAndChild (nestedEnv calls host) list with
  -- an end is missing, and the status says so
  | error status =>
    refine .inr ⟨?_, by simp⟩
    rintro rfl
    exact parentAndChild_ne_ok hconnect hends
  | ok ends =>
    obtain ⟨filter, child⟩ := ends
    obtain ⟨hnames, hget⟩ := parentAndChild_eq_ok hends
    dsimp only
    unfold appendFilterRef
    -- append_filter_ref refuses a name that is there
    by_cases hmem : child ∈ filter.refs
    · rw [if_pos hmem]
      exact .inr ⟨by simp, by simp⟩
    · rw [if_neg hmem]
      exact @finishUpdate_granted calls host list (fun refs child => refs ++ [child]) filter child
        hnames hget (nodup_concat (nodup_refs_of_getFilterByName hget) hmem)

theorem deleteInstance_granted {calls : FilterCalls} (hconnect : ConnectionTold calls)
    (host : FilterHost) (list : NestedFilterList) :
    Granted calls host list List.erase (deleteInstance (nestedEnv calls host) list) := by
  unfold deleteInstance
  cases hends : parentAndChild (nestedEnv calls host) list with
  | error status =>
    refine .inr ⟨?_, by simp⟩
    rintro rfl
    exact parentAndChild_ne_ok hconnect hends
  | ok ends =>
    obtain ⟨filter, child⟩ := ends
    obtain ⟨hnames, hget⟩ := parentAndChild_eq_ok hends
    dsimp only
    unfold removeFilterRef
    -- remove_filter_ref refuses a filter without references
    by_cases hrefs : filter.refs = []
    · rw [if_pos hrefs]
      exact .inr ⟨by simp, by simp⟩
    · rw [if_neg hrefs]
      exact @finishUpdate_granted calls host list List.erase filter child hnames hget
        ((nodup_refs_of_getFilterByName hget).erase child)

/-- How a request for a filter ends: it tells that a filter was made, and one without references
and rules is defined, or it does not, and nothing is taken. -/
theorem createFilterList_spec {calls : FilterCalls} (hconnect : ConnectionTold calls)
    (host : FilterHost) (name : Option String) :
    (∃ text, name = some text ∧ toldCreated (createFilterList calls host name).1 = true ∧
      (calls.defineFilter (filterToXml calls.nodeContent { name := text })).isSome ∧
      (createFilterList calls host name).2 =
        [filterToXml calls.nodeContent { name := text }]) ∨
    (toldCreated (createFilterList calls host name).1 = false ∧
      ∀ doc ∈ (createFilterList calls host name).2, calls.defineFilter doc = none) := by
  unfold createFilterList
  -- the name, the connection and a filter of that name are looked at in turn
  cases name with
  | none =>
    refine .inr ⟨?_, by simp⟩
    show toldCreated (.failed "Unable to get Name property") = false
    decide
  | some text =>
    dsimp only
    cases hconn : calls.connect with
    | error status =>
      obtain rfl := hconnect status hconn
      refine .inr ⟨?_, by simp⟩
      show toldCreated (.failed "Unable to generate URI from classname") = false
      decide
    | ok _ =>
      dsimp only
      by_cases hthere : (getFilterByName host.filters text).isSome
      · rw [if_pos hthere]
        exact .inr ⟨by decide, by simp⟩
      rw [if_neg hthere]
      -- told as created when it is stored, whatever becomes of the instance
      by_cases hdefined :
          (calls.defineFilter (filterToXml calls.nodeContent { name := text })).isSome
      · rw [if_pos hdefined]
        refine .inl ⟨text, rfl, ?_, hdefined, rfl⟩
        -- the conversion tells one of three
        unfold convertFilterToInstance toldCreated
        dsimp only
        split
        · split
          · simp
          · simp
        · simp
      -- refused by libvirt, and told so
      · rw [if_neg hdefined]
        refine .inr ⟨?_, ?_⟩
        · show toldCreated (.failed "Failed to create filter") = false
          decide
        · intro doc hdoc
          obtain rfl := List.mem_singleton.mp hdoc
          exact Option.not_isSome_iff_eq_none.mp hdefined

/-! ### What a client knows -/

/-- Filters that are refused change nothing. -/
theorem foldl_takeFilter_of_refused {calls : FilterCalls} {docs : List Node}
    (h : ∀ doc ∈ docs, calls.defineFilter doc = none) (filters : NwFilters) :
    docs.foldl (takeFilter calls) filters = filters := by
  induction docs with
  | nil => rfl
  | cons doc docs ih =>
    obtain ⟨hdoc, hdocs⟩ := List.forall_mem_cons.mp h
    rw [List.foldl_cons, takeFilter_of_refused hdoc]
    exact ih hdocs

/-- A filter that is taken is known as it was written. -/
theorem agrees_of_taken {calls : FilterCalls} {host host' : FilterHost} {filter : AclFilter}
    (hnodup : filter.refs.Nodup)
    (hdefined : (calls.defineFilter (filterToXml calls.nodeContent filter)).isSome)
    (hfilters : host'.filters =
      takeFilter calls host.filters (filterToXml calls.nodeContent filter))
    {known : String → KnownFilter} (h : Agrees known host) :
    Agrees (Function.update known filter.name ⟨filter.refs, []⟩) host' := by
  intro other found hfound
  obtain ⟨read, hrefs, hrules, hget⟩ :=
    @getFilterByName_takeFilter calls host.filters filter hnodup hdefined other
  rw [hfilters, hget] at hfound
  -- only the filter that was taken has changed
  by_cases hother : other = filter.name
  · rw [if_pos hother] at hfound
    obtain rfl := Option.some.inj hfound
    rw [hother, Function.update_self]
    exact ⟨hrefs, hrules⟩
  · rw [if_neg hother] at hfound
    rw [Function.update_of_ne hother]
    exact h other found hfound

/-- A request on nested filters is followed. -/
theorem agrees_of_granted {calls : FilterCalls} {host host' : FilterHost}
    {list : NestedFilterList} {edit : List String → String → List String}
    {answer : CmpiStatus × List Node} (hgranted : Granted calls host list edit answer)
    (hfilters : host'.filters = answer.2.foldl (takeFilter calls) host.filters)
    {known : String → KnownFilter} (h : Agrees known host) :
    Agrees (tellNested known list edit (some answer.1)) host' := by
  unfold tellNested
  -- granted: one document was taken, else none was
  obtain ⟨filter, child, hends, hget, hnodup, hdefined, rfl⟩ | ⟨hfailed, hrefused⟩ := hgranted
  · rw [hends]
    dsimp only
    rw [if_pos rfl, ← (h filter.name filter hget).1]
    exact @agrees_of_taken calls host host' { filter with refs := edit filter.refs child } hnodup
      hdefined hfilters known h
  · rw [foldl_takeFilter_of_refused hrefused] at hfilters
    have hsame : Agrees known host' := by
      intro name filter hget
      rw [hfilters] at hget
      exact h name filter hget
    have hnot : ¬ some answer.1 = some CmpiStatus.ok := fun hok => hfailed (Option.some.inj hok)
    -- without a parent or without a grant, what is told stays
    cases nestedEnds list with
    | none => exact hsame
    | some ends =>
      dsimp only
      rw [if_neg hnot]
      exact hsame

/-- **One request and its answer.** -/
theorem agrees_step {host host' : FilterHost} {l : FiltersLabel} (hstep : FiltersStep host l host')
    (hconnect : ConnectionTold l.calls) {known : String → KnownFilter} (h : Agrees known host) :
    Agrees (tellStep known l) host' := by
  obtain ⟨hanswer, hfilters, -⟩ := hstep
  obtain ⟨request, calls, status⟩ := l
  dsimp only at hanswer hfilters hconnect
  unfold tellStep
  -- each request tells what it has done to the filters
  cases request with
  | applied request =>
    -- applied filters change domains only
    intro name filter hget
    rw [hfilters] at hget
    exact h name filter (getFilterByName_of_changes hget)
  | createFilter name =>
    obtain rfl : some (createFilterList calls host name).1 = status := hanswer
    have hfilters : host'.filters =
      (createFilterList calls host name).2.foldl (takeFilter calls) host.filters := hfilters
    -- created, or refused with no document taken
    obtain ⟨text, rfl, htold, hdefined, hdocs⟩ | ⟨htold, hrefused⟩ :=
      createFilterList_spec hconnect host name
    · dsimp only
      rw [if_pos (by rw [Option.any_some, htold])]
      rw [hdocs] at hfilters
      exact @agrees_of_taken calls host host' { name := text } List.nodup_nil hdefined hfilters
        known h
    · rw [foldl_takeFilter_of_refused hrefused] at hfilters
      have hsame : Agrees known host' := by
        intro name filter hget
        rw [hfilters] at hget
        exact h name filter hget
      cases name with
      | none => exact hsame
      | some text =>
        dsimp only
        rw [if_neg (by rw [Option.any_some, htold]; exact Bool.false_ne_true)]
        exact hsame
  | nest list =>
    obtain rfl : some (createInstance (nestedEnv calls host) list).1 = status := hanswer
    exact agrees_of_granted (createInstance_granted hconnect host list) hfilters h
  | unnest list =>
    obtain rfl : some (deleteInstance (nestedEnv calls host) list).1 = status := hanswer
    exact agrees_of_granted (deleteInstance_granted hconnect host list) hfilters h

/-- **What the answers tell is right after every run**, whatever libvirt refuses, where a request
that had no connection was told so. -/
theorem told_of_run {init host : FilterHost} {ls : List FiltersLabel}
    (hrun : Run (filtersSystem init) init ls host) (hconnect : ∀ l ∈ ls, ConnectionTold l.calls)
    {known : String → KnownFilter} (h : Agrees known init) :
    Agrees (ls.foldl tellStep known) host := by
  refine hrun.historyInvariant (I := fun ls host => (∀ l ∈ ls, ConnectionTold l.calls) →
    Agrees (ls.foldl tellStep known) host) ?_ (fun _ => h) hconnect
  intro front s l t ih hstep hall
  rw [List.foldl_concat]
  refine agrees_step hstep (hall l (by simp)) (ih fun l' hl' => hall l' ?_)
  exact List.mem_append_left _ hl'

/-- What there is to know at the beginning. -/
def knownAt (host : FilterHost) (name : String) : KnownFilter :=
  match getFilterByName host.filters name with
  | none => ⟨[], []⟩
  | some filter => ⟨filter.refs, filter.rules⟩

theorem agrees_knownAt (host : FilterHost) : Agrees (knownAt host) host := by
  intro name filter hget
  unfold knownAt
  rw [hget]
  exact ⟨rfl, rfl⟩

/-- The filters of a host. -/
def FilterHost.namedFilters (host : FilterHost) : NamedFilters :=
  { host.filters with named := host.named }

/-- **After every run the filters of a filter are those the answers tell**, as far as they are
there, and it is among those of another one if the answers tell so and no filter before it is
unreadable. That the answers tell what the filters are holds at the start and is kept by each
request, granted or not (`told_of_run`); the associations then show it. -/
theorem nesting_told {init host : FilterHost} {ls : List FiltersLabel}
    (hrun : Run (filtersSystem init) init ls host) (hconnect : ∀ l ∈ ls, ConnectionTold l.calls)
    {entryHost : EntryHost} (hbuilds : Builds entryHost) {parent : String} {filter : AclFilter}
    (hfilter : getFilterByName host.filters parent = some filter) (child : String) :
    (some (.chars child) ∈
        returnedNames (parentToChild entryHost (.ok host.filters) (some parent)) ↔
      child ∈ (ls.foldl tellStep (knownAt init) parent).refs ∧
        (getFilterByName host.filters child).isSome) ∧
    (some (.chars parent) ∈
        returnedNames (childToParent entryHost (.ok host.filters) (some child)) ↔
      child ∈ (ls.foldl tellStep (knownAt init) parent).refs ∧
        filter ∈ getFilters host.filters) := by
  obtain ⟨hrefs, -⟩ := told_of_run hrun hconnect (agrees_knownAt init) parent filter hfilter
  -- both associations read the references that the filter has now
  rw [← hrefs]
  exact ⟨mem_parentToChild_iff (FilterHost.namedFilters host) hbuilds hfilter child,
    mem_childToParent_iff (FilterHost.namedFilters host) hbuilds hfilter child⟩

/-! ### The rules of a filter -/

/-- A filter of the name was made. -/
def Creates (name : String) (l : FiltersLabel) : Prop :=
  l.request = .createFilter (some name) ∧ l.status.any toldCreated = true

/-- A reference was added to the filter, or taken from it, and the request was granted: the filter
was written anew. -/
def Regrants (name : String) (l : FiltersLabel) : Prop :=
  ∃ list child, (l.request = .nest list ∨ l.request = .unnest list) ∧
    nestedEnds list = some (name, child) ∧ l.status = some .ok

/-- A request that is granted takes the rules of the parent, and of no other filter. -/
theorem rules_tellNested {known : String → KnownFilter} {list : NestedFilterList}
    {edit : List String → String → List String} {status : Option CmpiStatus} {name : String} :
    ((∃ child, nestedEnds list = some (name, child)) ∧ status = some .ok →
      (tellNested known list edit status name).rules = []) ∧
    (¬ ((∃ child, nestedEnds list = some (name, child)) ∧ status = some .ok) →
      (tellNested known list edit status name).rules = (known name).rules) := by
  unfold tellNested
  -- only the parent of a granted request has its rules forgotten
  cases nestedEnds list with
  | none => simp
  | some ends =>
    obtain ⟨parent, child⟩ := ends
    dsimp only
    by_cases hok : status = some .ok
    · rw [if_pos hok]
      by_cases hname : name = parent
      · subst hname
        simp [hok]
      · rw [Function.update_of_ne hname]
        simp [Ne.symm hname]
    · rw [if_neg hok]
      simp [hok]

theorem rules_tellStep {known : String → KnownFilter} {l : FiltersLabel} {name : String}
    (hcreates : ¬ Creates name l) :
    (Regrants name l → (tellStep known l name).rules = []) ∧
      (¬ Regrants name l → (tellStep known l name).rules = (known name).rules) := by
  obtain ⟨request, calls, status⟩ := l
  unfold tellStep
  -- which requests name the filter is seen from their kind
  cases request with
  | applied request =>
    refine ⟨?_, fun _ => rfl⟩
    rintro ⟨list, child, hrequest | hrequest, -⟩
    · cases hrequest
    · cases hrequest
  | createFilter text =>
    refine ⟨?_, fun _ => ?_⟩
    · rintro ⟨list, child, hrequest | hrequest, -⟩
      · cases hrequest
      · cases hrequest
    · cases text with
      | none => rfl
      | some text =>
        dsimp only
        by_cases htold : status.any toldCreated = true
        -- a creation under the name would be one of those excluded
        · have hname : name ≠ text := by
            rintro rfl
            exact hcreates ⟨rfl, htold⟩
          rw [if_pos htold, Function.update_of_ne hname]
        · rw [if_neg htold]
  | nest list =>
    -- this request names it by its parent and is granted by its status
    have hregrants : Regrants name ⟨.nest list, calls, status⟩ ↔
        (∃ child, nestedEnds list = some (name, child)) ∧ status = some .ok := by
      constructor
      · rintro ⟨list', child, hrequest | hrequest, hends, hok⟩
        · cases hrequest
          exact ⟨⟨child, hends⟩, hok⟩
        · cases hrequest
      · rintro ⟨⟨child, hends⟩, hok⟩
        exact ⟨list, child, .inl rfl, hends, hok⟩
    rw [hregrants]
    exact rules_tellNested
  | unnest list =>
    -- the other request that names a parent
    have hregrants : Regrants name ⟨.unnest list, calls, status⟩ ↔
        (∃ child, nestedEnds list = some (name, child)) ∧ status = some .ok := by
      constructor
      · rintro ⟨list', child, hrequest | hrequest, hends, hok⟩
        · cases hrequest
        · cases hrequest
          exact ⟨⟨child, hends⟩, hok⟩
      · rintro ⟨⟨child, hends⟩, hok⟩
        exact ⟨list, child, .inr rfl, hends, hok⟩
    rw [hregrants]
    exact rules_tellNested

/-- The rules that are known after a history without a new filter of the name. -/
theorem rules_foldl_tellStep {known : String → KnownFilter} {ls : List FiltersLabel}
    {name : String} (hcreates : ∀ l ∈ ls, ¬ Creates name l) :
    ((∃ l ∈ ls, Regrants name l) → (ls.foldl tellStep known name).rules = []) ∧
      ((¬ ∃ l ∈ ls, Regrants name l) →
        (ls.foldl tellStep known name).rules = (known name).rules) := by
  induction ls generalizing known with
  | nil => simp
  -- once lost, rules do not come back, as nothing creates the filter again
  | cons l ls ih =>
    obtain ⟨hfirst, hrest⟩ := List.forall_mem_cons.mp hcreates
    obtain ⟨hlost, hkept⟩ := @ih (tellStep known l) hrest
    obtain ⟨hlose, hkeep⟩ := @rules_tellStep known l name hfirst
    rw [List.foldl_cons, List.exists_mem_cons_iff]
    by_cases hlater : ∃ l ∈ ls, Regrants name l
    · exact ⟨fun _ => hlost hlater, fun hnot => absurd (.inr hlater) hnot⟩
    · rw [hkept hlater]
      refine ⟨?_, fun hnot => hkeep fun hl => hnot (.inl hl)⟩
      rintro (hl | hl)
      · exact hlose hl
      · exact absurd hl hlater

/-- **A filter keeps its rules** through every run in which it is not made anew, if and only if it
has none or no reference is ever granted to it or taken from it. What is known of the rules goes
with the first change that is granted, since a filter is written without them
(`rules_foldl_tellStep`); that it is right is `told_of_run`. -/
theorem rules_kept_iff {init host : FilterHost} {ls : List FiltersLabel}
    (hrun : Run (filtersSystem init) init ls host) (hconnect : ∀ l ∈ ls, ConnectionTold l.calls)
    {name : String} (hcreates : ∀ l ∈ ls, ¬ Creates name l) {filter filter' : AclFilter}
    (hfilter : getFilterByName init.filters name = some filter)
    (hfilter' : getFilterByName host.filters name = some filter') :
    filter'.rules = filter.rules ↔ filter.rules = [] ∨ ¬ ∃ l ∈ ls, Regrants name l := by
  obtain ⟨-, hbefore⟩ := agrees_knownAt init name filter hfilter
  obtain ⟨-, hafter⟩ := told_of_run hrun hconnect (agrees_knownAt init) name filter' hfilter'
  obtain ⟨hlost, hkept⟩ := @rules_foldl_tellStep (knownAt init) ls name hcreates
  rw [hafter]
  by_cases hregrants : ∃ l ∈ ls, Regrants name l
  · rw [hlost hregrants, or_iff_left (not_not_intro hregrants)]
    exact eq_comm
  · rw [hkept hregrants, hbefore]
    exact iff_of_true rfl (.inr hregrants)

/-! ### Two filters -/

/-- Every filter is taken as it is written. -/
def takingCalls : FilterCalls where
  connect := .ok ()
  lookupFilter _ := true
  undefineFilter _ := true
  lookupDomain _ := true
  xmlDesc := true
  autostart := true
  defineXML := some
  nodeContent := Pool.predefinedContent
  newUuid := ""
  defineFilter doc := some [doc]
  entryHost := buildingHost
  described filter nodes hnodup hnodes := by
    obtain rfl := Option.some.inj hnodes
    exact ⟨_, getFilterFromXml_filterToXml _ hnodup, rfl, rfl, rfl⟩

/-- The host of a filter with a rule, and of one that refers to it. -/
def layeredHost : FilterHost where
  filters := layeredFilters.toNwFilters
  domains _ := none
  named := layeredFilters.named

/-- The reference of `clean-traffic` is taken away. -/
def unlayer : FiltersLabel where
  request := .unnest ⟨some (some "clean-traffic"), some (some "no-spoofing")⟩
  calls := takingCalls
  status := some .ok

theorem connectionTold_takingCalls : ConnectionTold takingCalls := by
  intro status h
  cases h

/-- The reference is gone, in both directions. -/
theorem nesting_unlayered : ∃ host, Run (filtersSystem layeredHost) layeredHost [unlayer] host ∧
    ∃ filter, getFilterByName host.filters "clean-traffic" = some filter ∧
      some (.chars "no-spoofing") ∉
        returnedNames (parentToChild buildingHost (.ok host.filters) (some "clean-traffic")) ∧
      some (.chars "clean-traffic") ∉
        returnedNames (childToParent buildingHost (.ok host.filters) (some "no-spoofing")) := by
  obtain ⟨host, hstep⟩ := exists_filtersStep takingCalls layeredHost unlayer.request
  -- the request is granted, and takes the reference away
  have hok : (performFilters takingCalls layeredHost unlayer.request).1 = some .ok := by
    decide +kernel
  rw [hok] at hstep
  have hthere : (getFilterByName host.filters "clean-traffic").isSome = true := by
    -- the filter is still there, without it
    rw [hstep.filters]
    decide +kernel
  have htold : ([unlayer].foldl tellStep (knownAt layeredHost) "clean-traffic").refs = [] := by
    decide +kernel
  obtain ⟨filter, hfilter⟩ := Option.isSome_iff_exists.mp hthere
  have hrun : Run (filtersSystem layeredHost) layeredHost [unlayer] host := Run.single hstep
  have hconnect : ∀ l ∈ [unlayer], ConnectionTold l.calls :=
    List.forall_mem_singleton.mpr connectionTold_takingCalls
  obtain ⟨hchildren, hparents⟩ :=
    nesting_told hrun hconnect builds_buildingHost hfilter "no-spoofing"
  rw [htold] at hchildren hparents
  -- neither direction shows it any longer
  refine ⟨host, hrun, filter, hfilter, ?_, ?_⟩
  · intro hmem
    exact absurd (hchildren.mp hmem).1 List.not_mem_nil
  · intro hmem
    exact absurd (hparents.mp hmem).1 List.not_mem_nil

/-- `no-spoofing` is to refer to `clean-traffic`. -/
def entangle : FiltersLabel where
  request := .nest ⟨some (some "no-spoofing"), some (some "clean-traffic")⟩
  calls := takingCalls
  status := some .ok

/-- The rule of a filter is gone with its first reference. -/
theorem rules_lost_entangled : ∃ host filter filter',
    Run (filtersSystem layeredHost) layeredHost [entangle] host ∧
      getFilterByName layeredHost.filters "no-spoofing" = some filter ∧
      getFilterByName host.filters "no-spoofing" = some filter' ∧ filter'.rules ≠ filter.rules := by
  obtain ⟨host, hstep⟩ := exists_filtersStep takingCalls layeredHost entangle.request
  -- the request is granted
  have hok : (performFilters takingCalls layeredHost entangle.request).1 = some .ok := by
    decide +kernel
  rw [hok] at hstep
  have hthere : (getFilterByName host.filters "no-spoofing").isSome = true := by
    rw [hstep.filters]
    decide +kernel
  obtain ⟨filter', hfilter'⟩ := Option.isSome_iff_exists.mp hthere
  obtain ⟨filter, hfilter⟩ : ∃ filter,
      getFilterByName layeredHost.filters "no-spoofing" = some filter :=
    Option.isSome_iff_exists.mp (by decide +kernel)
  have hrun : Run (filtersSystem layeredHost) layeredHost [entangle] host := Run.single hstep
  have hconnect : ∀ l ∈ [entangle], ConnectionTold l.calls :=
    List.forall_mem_singleton.mpr connectionTold_takingCalls
  -- it creates no filter
  have hcreates : ∀ l ∈ [entangle], ¬ Creates "no-spoofing" l := by
    rw [List.forall_mem_singleton]
    rintro ⟨hrequest, -⟩
    cases hrequest
  have hregrants : ∃ l ∈ [entangle], Regrants "no-spoofing" l :=
    ⟨entangle, List.mem_singleton_self _, _, "clean-traffic", .inl rfl, rfl, rfl⟩
  refine ⟨host, filter, filter', hrun, hfilter, hfilter', ?_⟩
  intro hkept
  -- the rule that was there is gone
  obtain hnone | hnot :=
    (rules_kept_iff hrun hconnect hcreates hfilter hfilter').mp hkept
  · have hrule : ((getFilterByName layeredHost.filters "no-spoofing").any
        fun filter => filter.rules = []) = false := by decide +kernel
    rw [hfilter, Option.any_some, hnone] at hrule
    cases hrule
  · exact hnot hregrants

end LibvirtCim.Service
