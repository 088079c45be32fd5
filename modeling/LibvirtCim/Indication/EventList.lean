import LibvirtCim.Indication.Lifecycle
import Mathlib.Data.Int.Notation
import Mathlib.Logic.Function.Basic

/-!
# The domain list of the event worker

The build with libvirt events keeps a list of the domains of a connection: it is filled when
the worker starts (`update_domain_list`) and is brought up to date by the callback that
libvirt calls at each lifecycle event (`csi_domain_event_cb`).

The hypervisor is the map from uuids to domains that the events speak of; an event changes it
and, when a worker is there, calls the callback. What libvirt answers to the calls made on the
domain is part of the event, so that every call may fail and every answer may be another one
than the hypervisor's.

A text of a list entry can be null, and can be memory that was freed; so can the list.
-/

open Framework

namespace LibvirtCim.Indication

/-! ### The list -/

/-- A `char *` of an entry. -/
inductive CText
  | null
  | str (s : String)
  | freed
  deriving DecidableEq, Repr

/-- `csi_dom_xml_t`. -/
structure CsiDomXml where
  uuid : String
  name : CText
  xml : CText
  deriving DecidableEq, Repr

/-- `thread->dom_list`: the null pointer, a list, or the address of a list that was freed. -/
inductive DomList
  | null
  | live (doms : List CsiDomXml)
  | freed
  deriving DecidableEq, Repr

/-- The entries of the list. -/
def DomList.entries : DomList → List CsiDomXml
  | .live doms => doms
  | .null | .freed => []

/-- `list_free`. A list without entries is not freed, and the pointer is left as it was. -/
def listFree : DomList → DomList
  | .live (_ :: _) => .freed
  | list => list

/-- `csi_thread_dom_list_append`. -/
def csiThreadDomListAppend (list : DomList) (dom : CsiDomXml) : DomList :=
  match list with
  | .null => .live [dom]
  | .live doms => .live (doms ++ [dom])
  | .freed => .freed

/-- `list_find`, by uuid. -/
def listFind (list : DomList) (uuid : String) : Option CsiDomXml :=
  list.entries.find? fun dom => dom.uuid = uuid

/-- What is written through the pointer that `list_find` gave. -/
def setFirst (uuid : String) (new : CsiDomXml) : List CsiDomXml → List CsiDomXml
  | [] => []
  | dom :: doms => if dom.uuid = uuid then new :: doms else dom :: setFirst uuid new doms

/-- The same for the list. -/
def DomList.set (list : DomList) (uuid : String) (new : CsiDomXml) : DomList :=
  match list with
  | .live doms => .live (setFirst uuid new doms)
  | list => list

/-- `list_remove`, by uuid. -/
def listRemove (list : DomList) (uuid : String) : DomList :=
  match list with
  | .live doms => .live (doms.eraseP fun dom => dom.uuid = uuid)
  | list => list

/-! ### Entries -/

/-- A `virDomainPtr`, through the answers of the calls made on it. -/
structure DomainPtr where
  /-- `virDomainGetUUIDString` -/
  uuidString : Option String
  /-- `virDomainGetName` -/
  name : Option String
  /-- `virDomainGetXMLDesc` -/
  xmlDesc : Option String
  deriving DecidableEq, Repr

/-- `csi_dom_xml_set`: the entry, and whether it was filled. -/
def csiDomXmlSet (dom : CsiDomXml) (ptr : DomainPtr) : CsiDomXml × Bool :=
  match ptr.name, ptr.xmlDesc with
  | none, _ => (dom, false)
  | some name, none => ({ dom with name := .str name, xml := .null }, false)
  | some name, some xml => ({ dom with name := .str name, xml := .str xml }, true)

/-- `csi_dom_xml_new`. -/
def csiDomXmlNew (ptr : DomainPtr) : Option CsiDomXml := do
  let uuid ← ptr.uuidString
  match csiDomXmlSet ⟨uuid, .null, .null⟩ ptr with
  | (dom, true) => some dom
  | (_, false) => none

/-- The loop of `update_domain_list`: it ends at the first domain that cannot be read, which
is the failure of the function. -/
def appendDomains (list : DomList) : List DomainPtr → DomList × Bool
  | [] => (list, true)
  | ptr :: ptrs =>
    match csiDomXmlNew ptr with
    | none => (list, false)
    | some dom => appendDomains (csiThreadDomListAppend list dom) ptrs

/-- `update_domain_list`, on what `get_domain_list` gives. The old list is freed, and the
pointer kept. -/
def updateDomainList (list : DomList) (ptrs : List DomainPtr) : DomList × Bool :=
  appendDomains (listFree list) ptrs

/-! ### The callback -/

/-- `virDomainEventType`. -/
inductive DomainEvent
  | defined | undefined | started | suspended | resumed | stopped | shutdown | pmsuspended
  | crashed
  deriving DecidableEq, Repr

/-- `VIR_DOMAIN_EVENT_DEFINED_ADDED`. -/
def definedAdded : ℕ := 0

/-- `VIR_DOMAIN_EVENT_DEFINED_UPDATED`. -/
def definedUpdated : ℕ := 1

/-- `VIR_DOMAIN_EVENT_UNDEFINED_REMOVED`. -/
def undefinedRemoved : ℕ := 0

/-- The results of `get_domain_by_name`. -/
inductive ByName
  | found | notFound | failed
  deriving DecidableEq, Repr

/-- What the calls of `async_ind` give. -/
structure IndCalls where
  objectPath : Bool
  byName : ByName
  /-- `create_deleted_guest_inst` -/
  recreated : Bool
  /-- the steps of `_do_indication` before the delivery -/
  indication : Bool
  deriving DecidableEq, Repr

/-- `async_ind`: the indication that is raised, if any. -/
def asyncInd (lifecycleEnabled : Bool) (calls : IndCalls) (indType : CsEvent) : List CsEvent :=
  let affected := match indType with
    | .created | .modified =>
      match calls.byName with
      | .found => true
      | .notFound => calls.recreated
      | .failed => false
    | .deleted => calls.recreated
  if lifecycleEnabled && calls.objectPath && affected && calls.indication then [indType] else []

/-- The kind of indication the callback chooses. -/
def csEventOf (event : DomainEvent) (detail : ℕ) : CsEvent :=
  match event with
  | .defined => if detail = definedAdded then .created else .modified
  | .undefined => .deleted
  | _ => .modified

/-- What the callback does with the list. The last case is nested under the event `defined`,
where it cannot be reached: its detail has the value of another one. -/
def updateList (list : DomList) (event : DomainEvent) (detail : ℕ) (ptr : DomainPtr)
    (dom : CsiDomXml) : DomList :=
  if event = .defined then
    if detail = definedAdded then csiThreadDomListAppend list dom
    else if detail = definedUpdated then
      list.set dom.uuid (csiDomXmlSet { dom with name := .freed, xml := .freed } ptr).1
    else if detail = undefinedRemoved then listRemove list dom.uuid
    else list
  else list

/-- `csi_domain_event_cb`, when indications are enabled and a filter is active: the list and
the indications that are raised. -/
def csiDomainEventCb (list : DomList) (event : DomainEvent) (detail : ℕ) (ptr : DomainPtr)
    (calls : IndCalls) : DomList × List CsEvent :=
  let csEvent := csEventOf event detail
  let domXml :=
    if csEvent = .created then csiDomXmlNew ptr else ptr.uuidString.bind (listFind list)
  match domXml with
  | none => (list, [])
  | some dom => (updateList list event detail ptr dom, asyncInd true calls csEvent)

/-! ### The hypervisor -/

/-- A domain of the hypervisor. Its XML is the inactive one. -/
structure HostDomain where
  name : String
  xml : String
  persistent : Bool
  active : Bool
  deriving DecidableEq, Repr

/-- The domains that are defined or running, by uuid. -/
abbrev Host := String → Option HostDomain

/-- The domain an event speaks of, with the name and the XML it has after it. -/
structure EventDomain where
  uuid : String
  name : String
  xml : String
  deriving DecidableEq, Repr

/-- What an event says has happened to its domain. -/
def HostDomain.after (event : DomainEvent) (dom : EventDomain) (old : Option HostDomain) :
    Option HostDomain :=
  match event with
  | .defined => some ⟨dom.name, dom.xml, true, old.any HostDomain.active⟩
  | .undefined => old.bind fun d => if d.active then some { d with persistent := false } else none
  | .started => some (old.elim ⟨dom.name, dom.xml, false, true⟩ ({ · with active := true }))
  | .stopped => old.bind fun d => if d.persistent then some { d with active := false } else none
  | .suspended | .resumed | .shutdown | .pmsuspended | .crashed => old

/-- The hypervisor after an event. -/
def Host.after (host : Host) (event : DomainEvent) (dom : EventDomain) : Host :=
  Function.update host dom.uuid (HostDomain.after event dom (host dom.uuid))

/-! ### Runs -/

/-- The hypervisor, and what the provider has of the connection. -/
structure EventState where
  host : Host
  domList : DomList
  /-- the worker is in its event loop -/
  running : Bool
  lifecycleEnabled : Bool
  activeFilters : ℤ

/-- A step. The worker and its callback are those of one platform. -/
inductive EventLabel
  /-- a worker connects, registers its callback and lists the domains; when the listing fails
  it deregisters the callback, and libvirt frees its data or not -/
  | start (ptrs : List DomainPtr) (freed : Bool)
  /-- the worker leaves its loop and deregisters the callback -/
  | stop (freed : Bool)
  /-- `EnableIndications`, `DisableIndications` -/
  | enable (enabled : Bool)
  /-- `ActivateFilter`, `DeActivateFilter` -/
  | filters (active : ℤ)
  /-- a lifecycle event, with the answers the callback gets and what it raises; without a
  worker there is no callback -/
  | event (event : DomainEvent) (detail : ℕ) (dom : EventDomain) (ptr : DomainPtr)
    (calls : IndCalls) (raised : Option (List CsEvent))
  deriving DecidableEq, Repr

/-- `csi_free_thread_data`, where libvirt calls it. -/
def freeThreadData (list : DomList) (freed : Bool) : DomList :=
  if freed then .null else list

/-- The callback as a step of the state. -/
def EventState.callback (st : EventState) (event : DomainEvent) (detail : ℕ) (ptr : DomainPtr)
    (calls : IndCalls) : DomList × List CsEvent :=
  if st.lifecycleEnabled = false ∨ st.activeFilters ≤ 0 then (st.domList, [])
  else csiDomainEventCb st.domList event detail ptr calls

/-- The steps of the worker, of the clients and of the hypervisor. -/
inductive EventStep : EventState → EventLabel → EventState → Prop
  | started (st : EventState) (ptrs : List DomainPtr) (freed : Bool) (list : DomList)
      (hidle : st.running = false) (hlist : updateDomainList st.domList ptrs = (list, true)) :
      EventStep st (.start ptrs freed) { st with domList := list, running := true }
  | notStarted (st : EventState) (ptrs : List DomainPtr) (freed : Bool) (list : DomList)
      (hidle : st.running = false) (hlist : updateDomainList st.domList ptrs = (list, false)) :
      EventStep st (.start ptrs freed)
        { st with domList := freeThreadData list freed, activeFilters := 0 }
  | stop (st : EventState) (freed : Bool) (hrunning : st.running = true) :
      EventStep st (.stop freed)
        { st with
          domList := freeThreadData st.domList freed, running := false, activeFilters := 0 }
  | enable (st : EventState) (enabled : Bool) :
      EventStep st (.enable enabled) { st with lifecycleEnabled := enabled }
  | filters (st : EventState) (active : ℤ) :
      EventStep st (.filters active) { st with activeFilters := active }
  | handled (st : EventState) (event : DomainEvent) (detail : ℕ) (dom : EventDomain)
      (ptr : DomainPtr) (calls : IndCalls) (hrunning : st.running = true) :
      EventStep st
        (.event event detail dom ptr calls (some (st.callback event detail ptr calls).2))
        { st with
          host := st.host.after event dom
          domList := (st.callback event detail ptr calls).1 }
  | unseen (st : EventState) (event : DomainEvent) (detail : ℕ) (dom : EventDomain)
      (ptr : DomainPtr) (calls : IndCalls) (hidle : st.running = false) :
      EventStep st (.event event detail dom ptr calls none)
        { st with host := st.host.after event dom }

/-- The event mode: no domain, no list and no worker at first. -/
def eventSystem : System EventState EventLabel where
  init := ⟨fun _ => none, .null, false, false, 0⟩
  step := EventStep

/-! ### What the list is for -/

/-- The entry a domain should have. -/
def HostDomain.entry (uuid : String) (d : HostDomain) : CsiDomXml :=
  ⟨uuid, .str d.name, .str d.xml⟩

/-- The list has one entry for each domain, with its name and XML, and no other. -/
structure ListExact (host : Host) (list : DomList) : Prop where
  nodup : (list.entries.map CsiDomXml.uuid).Nodup
  mem_iff : ∀ dom, dom ∈ list.entries ↔ (host dom.uuid).map (HostDomain.entry dom.uuid) = some dom

/-- The event raised the one indication that it calls for. -/
def RaisedOnce : EventLabel → Prop
  | .event event detail _ _ _ (some raised) => raised = [csEventOf event detail]
  | _ => True

/-- **The event-mode list.** While the worker runs the list is exact; it is never memory that
was freed; and every event the worker sees raises its indication once. -/
def EventsExact (ls : List EventLabel) (st : EventState) : Prop :=
  (st.running = true → ListExact st.host st.domList) ∧ st.domList ≠ .freed ∧ ∀ l ∈ ls, RaisedOnce l

end LibvirtCim.Indication
