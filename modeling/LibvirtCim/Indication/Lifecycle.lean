import LibvirtCim.Common.Basic
import LibvirtCim.Framework.Keyed
import LibvirtCim.Framework.Markup
import LibvirtCim.Framework.Run

/-!
# The lifecycle polling loop

The body of `lifecycle_thread_native`: each turn lists the domains of the
connection (`get_domain_list`), reads the uuid, the XML and the state of each
(`doms_to_xml`), compares the result with the array kept from the turn before
(`dom_in_list`, `dom_changed`) and calls `async_ind_native` for each difference
it finds. That function still has to find the guest by the name it cuts from the
XML it is handed, and raises its indication only when this and every later step
succeed.

A poll is given by the answers of all the libvirt calls it makes (`Listing`), so
every combination of successes and failures is one value. `domsToXml` keeps the
arrays as the source leaves them: after a failure the entries behind the failing
one are the zeroed memory of `calloc`, and the array keeps its full length. The
answers that `async_ind_native` gets stand beside it in a `Poll`, as a function
of the call.

`Listing.entries` is not translated from the source. It is what a poll reports
when none of its calls fails, and `expected` and `replay` say what a listener may
conclude from the indications.
-/

open Framework

namespace LibvirtCim.Indication

/-! ### What libvirt answers -/

/-- A `virDomainPtr`, through the answers of the calls a poll makes on it; `none`
is a failed call. -/
structure Domain where
  /-- `virDomainGetUUIDString` -/
  uuidString : Option String
  /-- `virDomainGetXMLDesc` -/
  xmlDesc : Option String
  /-- the `state` of `virDomainGetInfo` -/
  info : Option VirDomainState
  deriving DecidableEq, Repr

/-- The answers of one poll. Each listed name or id stands with the answer of its
lookup. -/
structure Listing where
  /-- `virConnectNumOfDefinedDomains` -/
  numOfDefinedDomains : Option ℕ
  /-- `virConnectNumOfDomains` -/
  numOfDomains : Option ℕ
  /-- `virConnectListDefinedDomains`, each name with `virDomainLookupByName` -/
  listDefinedDomains : Option (List (Option Domain))
  /-- `virConnectListDomains`, each id with `virDomainLookupByID` -/
  listDomains : Option (List (Option Domain))
  deriving DecidableEq, Repr

/-- The names `get_domain_list` gets: the call is made only for a positive count,
and fills at most that many slots. -/
def Listing.names (q : Listing) (nNames : ℕ) : Option (List (Option Domain)) :=
  if 0 < nNames then q.listDefinedDomains.map (List.take nNames) else some []

/-- The ids `get_domain_list` gets. -/
def Listing.ids (q : Listing) (nIds : ℕ) : Option (List (Option Domain)) :=
  if 0 < nIds then q.listDomains.map (List.take nIds) else some []

/-- `get_domain_list`, in the variant that is compiled. It has no failure result:
a failing call ends the list, a failing lookup is left out of it. -/
def getDomainList (q : Listing) : List Domain :=
  match q.numOfDefinedDomains, q.numOfDomains with
  | some nNames, some nIds =>
    match q.names nNames with
    | none => []
    | some names =>
      let defined := names.filterMap id
      match q.ids nIds with
      | none => defined
      | some ids => defined ++ ids.filterMap id
  | _, _ => []

/-! ### The arrays of the loop -/

/-- The `state` of `struct dom_xml`. -/
inductive DomState
  | offline | online | paused | crashed | gone
  deriving DecidableEq, Repr

/-- `struct dom_xml`; `none` is a null `xml`. -/
structure DomXml where
  uuid : String
  xml : Option String
  state : DomState
  deriving DecidableEq, Repr

/-- An entry as `calloc` leaves it. -/
def DomXml.zero : DomXml := ⟨"", none, .offline⟩

/-- `dom_state`. -/
def domState : Option VirDomainState → DomState
  | none => .gone
  | some .nostate | some .running | some .blocked => .online
  | some .paused => .paused
  | some .shutoff => .offline
  | some .crashed => .crashed
  | some .shutdown | some .pmsuspended => .gone

/-- `doms_to_xml`: the array, and whether the status is OK. -/
def domsToXml : List Domain → List DomXml × Bool
  | [] => ([], true)
  | dom :: doms =>
    match dom.uuidString, dom.xmlDesc with
    | none, _ => (List.replicate (doms.length + 1) .zero, false)
    | some uuid, none =>
      ({ DomXml.zero with uuid := uuid } :: List.replicate doms.length .zero, false)
    | some uuid, some xml =>
      let (rest, s) := domsToXml doms
      (⟨uuid, some xml, domState dom.info⟩ :: rest, s)

/-- `dom_in_list`. -/
def domInList (uuid : String) (list : List DomXml) : Bool :=
  list.any fun dom => uuid = dom.uuid

/-- `dom_changed`: the first entry with the uuid decides. `none` is the null
pointer handed to `strcmp`. -/
def domChanged (prevDom : DomXml) : List DomXml → Option Bool
  | [] => some false
  | cur :: rest =>
    if cur.uuid ≠ prevDom.uuid then domChanged prevDom rest
    else
      match cur.xml, prevDom.xml with
      | some curXml, some prevXml =>
        some (curXml ≠ prevXml || prevDom.state ≠ cur.state)
      | _, _ => none

/-! ### The loop -/

/-- `enum CS_EVENTS`. -/
inductive CsEvent
  | created | deleted | modified
  deriving DecidableEq, Repr

/-- A call of `async_ind_native`: its indication type and the entry it is handed. -/
structure AsyncInd where
  kind : CsEvent
  dom : DomXml
  deriving DecidableEq, Repr

/-- The first `for` of the loop body. -/
def createdIndications (prev cur : List DomXml) : List AsyncInd :=
  (cur.filter fun dom => !domInList dom.uuid prev).map (⟨.created, ·⟩)

/-- What the second `for` of the loop body does at one entry of the previous
array. -/
def prevIndication (cur : List DomXml) (dom : DomXml) : Option (Option AsyncInd) :=
  if domInList dom.uuid cur then
    (domChanged dom cur).map fun changed => if changed then some ⟨.modified, dom⟩ else none
  else some (some ⟨.deleted, dom⟩)

/-- The calls that the two `for` loops make; `none` is the null pointer in
`dom_changed`. -/
def compareDomains (prev cur : List DomXml) : Option (List AsyncInd) :=
  (prev.mapM (prevIndication cur)).map fun inds =>
    createdIndications prev cur ++ inds.filterMap id

/-! ### The delivery -/

/-- The start tag that is searched for. -/
def nameTag : List Char := "<name>".toList

/-- `sys_name_from_xml`: `strstr`, and the conversion `%m[^<]` behind the tag. -/
def sysNameFromXml (xml : List Char) : Option String :=
  (afterFirst nameTag xml).bind fun rest =>
    let name := rest.takeWhile (· ≠ '<')
    if name = [] then none else some (String.ofList name)

/-- A domain as a poll reports it. -/
structure Entry where
  uuid : String
  xml : String
  state : DomState
  deriving DecidableEq, Repr

/-- What the steps of `async_ind_native` give. -/
structure NativeIndCalls where
  /-- `CMNewObjectPath` -/
  objectPath : Bool
  /-- `get_domain_by_name`: the domain that libvirt has under a name at that moment;
  `none` when there is none, or when the connection or its instance fails -/
  byName : String → Option Entry
  /-- `create_deleted_guest_inst` -/
  recreated : Bool
  /-- the steps of `_do_indication` before the delivery, whose result is only
  logged -/
  indication : Bool

/-- The domain that the affected instance is read from; a deleted one is made from the XML
of the call, and is read from no hypervisor. -/
def NativeIndCalls.affected (calls : NativeIndCalls) (name : String) :
    CsEvent → Option (Option Entry)
  | .created | .modified => (calls.byName name).map some
  | .deleted => if calls.recreated then some none else none

/-- An indication: its kind, the name and the uuid that are put on the instance, and
the domain that the instance was read from. -/
structure CsIndication where
  kind : CsEvent
  name : String
  uuid : String
  guest : Option Entry
  deriving DecidableEq, Repr

/-- `async_ind_native`: the indication that is raised, if any. The outer `none` is
the null pointer that `sys_name_from_xml` hands to `strstr`. -/
def asyncIndNative (lifecycleEnabled : Bool) (calls : NativeIndCalls) (ind : AsyncInd) :
    Option (Option CsIndication) :=
  if !lifecycleEnabled then some none
  else
    ind.dom.xml.map fun xml => do
      let name ← sysNameFromXml xml.toList
      guard calls.objectPath
      let guest ← calls.affected name ind.kind
      guard calls.indication
      -- the uuid is the one of the array, whichever domain was found
      some ⟨ind.kind, name, ind.dom.uuid, guest⟩

/-! ### The loop -/

/-- The worker between two polls. -/
inductive LoopState
  /-- connected, before the first listing -/
  | starting
  | looping (prev : List DomXml)
  /-- a null pointer was dereferenced -/
  | crashed
  deriving DecidableEq, Repr

/-- One poll: the listing before the loop, which ignores the status, or one turn
of it, which keeps the previous array when `doms_to_xml` fails. What a turn raised
before it dereferenced a null pointer is not kept. -/
def lifecycleThreadNative (st : LoopState) (q : Listing) (lifecycleEnabled : Bool)
    (calls : AsyncInd → NativeIndCalls) : LoopState × List CsIndication :=
  match st with
  | .starting => (.looping (domsToXml (getDomainList q)).1, [])
  | .looping prev =>
    match domsToXml (getDomainList q) with
    | (_, false) => (.looping prev, [])
    | (cur, true) =>
      match (compareDomains prev cur).bind
          (·.mapM fun ind => asyncIndNative lifecycleEnabled (calls ind) ind) with
      | some raised => (.looping cur, raised.filterMap id)
      | none => (.crashed, [])
  | .crashed => (.crashed, [])

/-! ### What a poll should say -/

/-- The entry of a domain on which every call succeeds. -/
def Domain.entry (dom : Domain) : Option Entry :=
  match dom.uuidString, dom.xmlDesc, dom.info with
  | some uuid, some xml, some info => some ⟨uuid, xml, domState (some info)⟩
  | _, _, _ => none

/-- What the poll reports when every call succeeds; `none` when one fails. -/
def Listing.entries (q : Listing) : Option (List Entry) := do
  let nNames ← q.numOfDefinedDomains
  let nIds ← q.numOfDomains
  let names ← q.names nNames
  let ids ← q.ids nIds
  (names ++ ids).mapM fun answer => answer.bind Domain.entry

/-- The entry of a uuid. -/
abbrev entryOf (es : List Entry) (uuid : String) : Option Entry :=
  lookupKey Entry.uuid es uuid

/-- The one kind of indication a uuid calls for between two successful polls. -/
def expected (prev cur : Option Entry) : Option CsEvent :=
  match prev, cur with
  | none, none => none
  | none, some _ => some .created
  | some _, none => some .deleted
  | some p, some c => if p = c then none else some .modified

/-- What a listener does with an indication: the domain of a creation or of a
modification is the one the instance shows, under the uuid it was given. -/
def CsIndication.effect (ind : CsIndication) : Option Entry :=
  match ind.kind with
  | .created | .modified => ind.guest.map fun e => { e with uuid := ind.uuid }
  | .deleted => none

/-- The listener's map after the indications of a poll. -/
def replayPoll (m : String → Option Entry) (inds : List CsIndication) : String → Option Entry :=
  inds.foldl (fun m ind => Function.update m ind.uuid ind.effect) m

/-! ### Runs of the loop -/

/-- A poll with what it emitted. The answers of a call of `async_ind_native` go with
the kind and the entry of the call, in which the calls of a poll differ. The flag is
that of the moment, which no client changes while a poll goes on. -/
structure Poll where
  answers : Listing
  lifecycleEnabled : Bool
  calls : AsyncInd → NativeIndCalls
  emitted : List CsIndication

/-- A poll that succeeds reports distinct uuids. -/
def DistinctUuids (q : Listing) : Prop :=
  ∀ es, q.entries = some es → (es.map Entry.uuid).Nodup

/-- The polls of one connection. -/
def pollSystem : System LoopState Poll where
  init := .starting
  step st l st' :=
    DistinctUuids l.answers ∧
      lifecycleThreadNative st l.answers l.lifecycleEnabled l.calls = (st', l.emitted)

/-- What the last successful poll reported. -/
def lastSuccess (ls : List Poll) : Option (List Entry) :=
  ls.foldl (fun last l => l.answers.entries <|> last) none

/-- The listener's map: nothing before the first successful poll, that poll's set
at it, and the replay of every later indication. -/
def replay (ls : List Poll) : Option (String → Option Entry) :=
  ls.foldl (fun m l => match l.answers.entries, m with
    | some _, some m => some (replayPoll m l.emitted)
    | some cur, none => some (entryOf cur)
    | none, m => m) none

/-- What the poll `l` may emit after the polls `ls`: nothing when it fails or is
the first to succeed; else for each uuid exactly the indication the two sets
call for. -/
def PollExact (ls : List Poll) (l : Poll) : Prop :=
  match l.answers.entries, lastSuccess ls with
  | some cur, some prev => ∀ uuid,
    (l.emitted.filter fun ind => ind.uuid = uuid).map CsIndication.kind =
      (expected (entryOf prev uuid) (entryOf cur uuid)).toList
  | _, _ => l.emitted = []

/-- The polls `ls` that led to `st` are reported exactly: the worker has not
crashed, every poll emitted what it should, and the replay of the indications is
the set of the last successful poll. -/
def Exact (ls : List Poll) (st : LoopState) : Prop :=
  st ≠ .crashed ∧
  Along PollExact ls ∧
  replay ls = (lastSuccess ls).map entryOf

/-- **Sound and complete polling**, along every run. -/
def PollsExact (sys : System LoopState Poll) : Prop :=
  ∀ ls st, Run sys sys.init ls st → Exact ls st

end LibvirtCim.Indication
