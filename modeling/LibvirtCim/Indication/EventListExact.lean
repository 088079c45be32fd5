import LibvirtCim.Indication.EventList
import Mathlib.Data.List.Nodup

/-!
# When the event-mode list is exact

The callback takes no domain off its list: the branch that would is nested under the event
`defined`. It adds no domain that is started without having been defined, adds a transient
domain a second time when it becomes persistent, and follows no renaming. Along the steps that
are `Faithful` the list is exact (`eventsExact_of_faithful`).

The invariant is `EventsExact` itself. Each way the callback may go has a lemma on the list
(`ListExact.append`, `ListExact.set`, `ListExact.unchanged`), and `csiDomainEventCb_exact` puts
them together.
-/

open Framework

namespace LibvirtCim.Indication

/-! ### The condition -/

/-- A call that fills an entry fails. -/
def DomainPtr.Refuses (ptr : DomainPtr) : Prop :=
  ptr.uuidString = none ∨ ptr.name = none ∨ ptr.xmlDesc = none

/-- The answers of a domain of the hypervisor. -/
def HostDomain.ptr (uuid : String) (d : HostDomain) : DomainPtr :=
  ⟨some uuid, some d.name, some d.xml⟩

/-- The listing gives each domain of the hypervisor once, and every call succeeds. -/
structure Complete (host : Host) (ptrs : List DomainPtr) : Prop where
  nodup : (ptrs.map DomainPtr.uuidString).Nodup
  mem_iff : ∀ ptr, ptr ∈ ptrs ↔ ∃ uuid d, host uuid = some d ∧ ptr = d.ptr uuid

/-- The steps of `async_ind` for a domain that was created or modified succeed. -/
structure IndCalls.Succeed (calls : IndCalls) : Prop where
  objectPath : calls.objectPath = true
  affected : calls.byName = .found ∨ calls.byName = .notFound ∧ calls.recreated = true
  indication : calls.indication = true

/-- The events the callback follows: a domain that was not there is defined, one that was
there is redefined, or an event leaves it there with the name and the XML it had. -/
inductive Followed (host : Host) (event : DomainEvent) (detail : ℕ) (dom : EventDomain)
    (ptr : DomainPtr) : Prop
  | added (hevent : event = .defined) (hdetail : detail = definedAdded)
      (hnew : host dom.uuid = none) (hname : ptr.name = some dom.name)
      (hxml : ptr.xmlDesc = some dom.xml)
  | updated (hevent : event = .defined) (hdetail : detail = definedUpdated)
      (hknown : host dom.uuid ≠ none) (hname : ptr.name = some dom.name)
      (hxml : ptr.xmlDesc = some dom.xml)
  | unchanged (hevent : event ≠ .undefined)
      (hdetail : event = .defined → detail ≠ definedAdded ∧ detail ≠ definedUpdated)
      (hknown : host dom.uuid ≠ none)
      (hsame : (HostDomain.after event dom (host dom.uuid)).map (HostDomain.entry dom.uuid) =
        (host dom.uuid).map (HostDomain.entry dom.uuid))

/-- The callback is awake, gets its answers, and the event is one it follows. -/
structure Handled (st : EventState) (event : DomainEvent) (detail : ℕ) (dom : EventDomain)
    (ptr : DomainPtr) (calls : IndCalls) : Prop where
  enabled : st.lifecycleEnabled = true
  filters : 0 < st.activeFilters
  uuid : ptr.uuidString = some dom.uuid
  indicated : calls.Succeed
  followed : Followed st.host event detail dom ptr

/-- The condition on a step. -/
def Faithful (st : EventState) : EventLabel → Prop
  | .start ptrs _ => st.domList.entries = [] ∧
    ((∃ ptr ∈ ptrs, ptr.Refuses) ∨ Complete st.host ptrs)
  | .event event detail dom ptr calls _ =>
    st.running = true → Handled st event detail dom ptr calls
  | .stop _ | .enable _ | .filters _ => True

/-! ### Entries -/

theorem csiDomXmlNew_eq_none_iff (ptr : DomainPtr) : csiDomXmlNew ptr = none ↔ ptr.Refuses := by
  obtain ⟨_ | uuid, _ | name, _ | xml⟩ := ptr <;>
    simp [csiDomXmlNew, csiDomXmlSet, DomainPtr.Refuses]

theorem csiDomXmlNew_of_answers {ptr : DomainPtr} {uuid name xml : String}
    (huuid : ptr.uuidString = some uuid) (hname : ptr.name = some name)
    (hxml : ptr.xmlDesc = some xml) :
    csiDomXmlNew ptr = some ⟨uuid, .str name, .str xml⟩ := by
  obtain ⟨_, _, _⟩ := ptr
  subst huuid hname hxml
  rfl

/-- A new entry has the uuid of its domain. -/
theorem uuid_of_csiDomXmlNew {ptr : DomainPtr} {dom : CsiDomXml}
    (h : csiDomXmlNew ptr = some dom) : ptr.uuidString = some dom.uuid := by
  obtain ⟨_ | uuid, _ | name, _ | xml⟩ := ptr <;>
    simp [csiDomXmlNew, csiDomXmlSet] at h
  rw [← h]

/-! ### The listing -/

theorem append_ne_freed {list : DomList} (h : list ≠ .freed) (dom : CsiDomXml) :
    csiThreadDomListAppend list dom ≠ .freed := by
  cases list with
  | null => simp [csiThreadDomListAppend]
  | live doms => simp [csiThreadDomListAppend]
  | freed => exact absurd rfl h

theorem entries_append {list : DomList} (h : list ≠ .freed) (dom : CsiDomXml) :
    (csiThreadDomListAppend list dom).entries = list.entries ++ [dom] := by
  cases list with
  | null => rfl
  | live doms => rfl
  | freed => exact absurd rfl h

/-- What the loop of `update_domain_list` leaves. -/
theorem appendDomains_spec {list list' : DomList} {ptrs : List DomainPtr} {ok : Bool}
    (hlist : list ≠ .freed) (h : appendDomains list ptrs = (list', ok)) :
    list' ≠ .freed ∧ (ok = true →
      (∀ ptr ∈ ptrs, csiDomXmlNew ptr ≠ none) ∧
        list'.entries = list.entries ++ ptrs.filterMap csiDomXmlNew) := by
  -- a domain that cannot be read ends the loop, but the list stays in use
  induction ptrs generalizing list with
  | nil =>
    obtain ⟨rfl, rfl⟩ := Prod.mk.inj h
    simp [hlist]
  | cons ptr ptrs ih =>
    rw [appendDomains] at h
    split at h
    · obtain ⟨rfl, rfl⟩ := Prod.mk.inj h
      simp [hlist]
    · next dom hdom =>
      obtain ⟨hfreed, hok⟩ := ih (append_ne_freed hlist dom) h
      refine ⟨hfreed, fun htrue => ?_⟩
      obtain ⟨hall, hentries⟩ := hok htrue
      refine ⟨?_, ?_⟩
      -- the entries are those of the domains before and of this one
      · rw [List.forall_mem_cons]
        refine ⟨?_, hall⟩
        rw [hdom]
        exact Option.some_ne_none dom
      · rw [hentries, entries_append hlist, List.filterMap_cons, hdom, List.append_assoc]
        rfl

/-- A list without entries is not freed. -/
theorem listFree_of_nil {list : DomList} (h : list.entries = []) : listFree list = list := by
  cases list with
  | null => rfl
  | live doms =>
    obtain rfl : doms = [] := h
    rfl
  | freed => rfl

/-- **The initial enumeration.** A complete listing makes the list exact. -/
theorem Complete.listExact {host : Host} {ptrs : List DomainPtr} (h : Complete host ptrs)
    {list : DomList} (hentries : list.entries = ptrs.filterMap csiDomXmlNew) :
    ListExact host list := by
  -- every domain of a complete listing is one of the host, with its entry
  have hnew : ∀ ptr ∈ ptrs, ∃ uuid d, host uuid = some d ∧
      csiDomXmlNew ptr = some (d.entry uuid) := by
    intro ptr hptr
    obtain ⟨uuid, d, hd, rfl⟩ := (h.mem_iff ptr).mp hptr
    exact ⟨uuid, d, hd, rfl⟩
  constructor
  · -- the uuids of the entries are the uuids of the listing
    have hmap : list.entries.map (fun dom => some dom.uuid) = ptrs.map DomainPtr.uuidString := by
      rw [hentries]
      clear hentries h
      induction ptrs with
      | nil => rfl
      | cons ptr ptrs ih =>
        rw [List.forall_mem_cons] at hnew
        obtain ⟨⟨uuid, d, -, hptr⟩, hrest⟩ := hnew
        rw [List.filterMap_cons, hptr, List.map_cons, List.map_cons, ih hrest,
          uuid_of_csiDomXmlNew hptr]
    have hnodup := h.nodup
    rw [← hmap] at hnodup
    exact List.Nodup.of_map some (by rwa [List.map_map])
  -- an entry is in the list for the domain the host has under its uuid
  · intro dom
    rw [hentries, List.mem_filterMap, Option.map_eq_some_iff]
    constructor
    · rintro ⟨ptr, hptr, hdom⟩
      obtain ⟨uuid, d, hd, hentry⟩ := hnew ptr hptr
      rw [hdom] at hentry
      obtain rfl := Option.some.inj hentry
      exact ⟨d, hd, rfl⟩
    · rintro ⟨d, hd, hdom⟩
      exact ⟨d.ptr dom.uuid, (h.mem_iff _).mpr ⟨dom.uuid, d, hd, rfl⟩, by rw [← hdom]; rfl⟩

/-! ### The list along the events -/

/-- Replacing an entry keeps the uuids. -/
theorem map_uuid_setFirst {uuid : String} (new : CsiDomXml) (hnew : new.uuid = uuid)
    (doms : List CsiDomXml) :
    (setFirst uuid new doms).map CsiDomXml.uuid = doms.map CsiDomXml.uuid := by
  induction doms with
  | nil => rfl
  | cons dom doms ih =>
    rw [setFirst]
    split
    · next heq => rw [List.map_cons, List.map_cons, hnew, heq]
    · rw [List.map_cons, List.map_cons, ih]

/-- The entries after one was replaced. -/
theorem mem_setFirst {uuid : String} {new : CsiDomXml} (hnew : new.uuid = uuid)
    {doms : List CsiDomXml} (hnodup : (doms.map CsiDomXml.uuid).Nodup)
    (hmem : uuid ∈ doms.map CsiDomXml.uuid) {dom : CsiDomXml} :
    dom ∈ setFirst uuid new doms ↔ dom = new ∨ dom ∈ doms ∧ dom.uuid ≠ uuid := by
  -- the first entry of the uuid is overwritten, the ones before it are others
  induction doms with
  | nil => cases hmem
  | cons d doms ih =>
    rw [List.map_cons, List.nodup_cons] at hnodup
    rw [setFirst]
    by_cases heq : d.uuid = uuid
    · -- the entries behind the first have other uuids
      rw [if_pos heq, List.mem_cons, List.mem_cons]
      have hrest : dom ∈ doms → dom.uuid ≠ uuid := by
        intro hdom hsame
        apply hnodup.1
        rw [heq, ← hsame]
        exact List.mem_map_of_mem hdom
      constructor
      · rintro (rfl | hdom)
        · exact .inl rfl
        · exact .inr ⟨.inr hdom, hrest hdom⟩
      · rintro (rfl | ⟨rfl | hdom, hne⟩)
        · exact .inl rfl
        · exact absurd heq hne
        · exact .inr hdom
    -- the entry to be overwritten is further down
    · have hmem' : uuid ∈ doms.map CsiDomXml.uuid := by
        rw [List.map_cons, List.mem_cons] at hmem
        exact hmem.resolve_left fun hd => heq hd.symm
      rw [if_neg heq, List.mem_cons, List.mem_cons, ih hnodup.2 hmem']
      constructor
      · rintro (rfl | rfl | hdom)
        · exact .inr ⟨.inl rfl, heq⟩
        · exact .inl rfl
        · exact .inr ⟨.inr hdom.1, hdom.2⟩
      · rintro (rfl | ⟨rfl | hdom, hne⟩)
        · exact .inr (.inl rfl)
        · exact .inl rfl
        · exact .inr (.inr ⟨hdom, hne⟩)

namespace ListExact

variable {host : Host} {list : DomList}

/-- A domain of the hypervisor is found in the list. -/
theorem find (h : ListExact host list) {uuid : String} {d : HostDomain}
    (hd : host uuid = some d) : listFind list uuid = some (d.entry uuid) := by
  have hmem : d.entry uuid ∈ list.entries := by
    rw [h.mem_iff]
    show (host uuid).map _ = _
    rw [hd]
    rfl
  cases hfind : listFind list uuid with
  | none =>
    have hnot := List.find?_eq_none.mp hfind _ hmem
    exact absurd (decide_eq_true rfl) hnot
  | some dom =>
    -- the entry that is found is the domain's, since its uuid is
    have huuid : dom.uuid = uuid := by simpa using List.find?_some hfind
    have hdom := (h.mem_iff dom).mp (List.mem_of_find?_eq_some hfind)
    rw [huuid, hd, Option.map_some] at hdom
    exact hdom.symm

/-- A domain that is not there has no entry. -/
theorem uuid_not_mem (h : ListExact host list) {uuid : String} (hnew : host uuid = none) :
    uuid ∉ list.entries.map CsiDomXml.uuid := by
  intro hmem
  obtain ⟨dom, hdom, rfl⟩ := List.mem_map.mp hmem
  have hhost := (h.mem_iff dom).mp hdom
  rw [hnew] at hhost
  cases hhost

/-- A new domain is appended. -/
theorem append (h : ListExact host list) (hlist : list ≠ .freed) {uuid : String}
    (hnew : host uuid = none) (d : HostDomain) :
    ListExact (Function.update host uuid (some d))
      (csiThreadDomListAppend list (d.entry uuid)) := by
  -- the new uuid is not in the list, so the entries stay distinct
  constructor
  · rw [entries_append hlist, List.map_append, List.nodup_append]
    refine ⟨h.nodup, List.pairwise_singleton _ _, ?_⟩
    intro a ha b hb hab
    obtain rfl : b = uuid := List.mem_singleton.mp hb
    rw [hab] at ha
    exact h.uuid_not_mem hnew ha
  · intro dom
    rw [entries_append hlist, List.mem_append, List.mem_singleton, h.mem_iff]
    -- under the new uuid there is the new domain, under the others nothing changed
    by_cases huuid : dom.uuid = uuid
    · rw [huuid, hnew, Function.update_self]
      constructor
      · rintro (hnone | rfl)
        · cases hnone
        · rfl
      · intro hsome
        exact .inr (Option.some.inj hsome).symm
    · rw [Function.update_of_ne huuid]
      refine or_iff_left ?_
      rintro rfl
      exact huuid rfl

/-- The entry of a domain is replaced. -/
theorem set (h : ListExact host list) {uuid : String} (hknown : host uuid ≠ none)
    (d : HostDomain) :
    ListExact (Function.update host uuid (some d)) (list.set uuid (d.entry uuid)) := by
  -- the entry of the uuid is overwritten in its place
  have hentries : (list.set uuid (d.entry uuid)).entries =
      setFirst uuid (d.entry uuid) list.entries := by
    cases list <;> rfl
  -- the list has an entry of the uuid, as the host knows the domain
  have huuid : uuid ∈ list.entries.map CsiDomXml.uuid := by
    obtain ⟨old, hold⟩ := Option.ne_none_iff_exists'.mp hknown
    exact List.mem_map.mpr ⟨_, List.mem_of_find?_eq_some (h.find hold), rfl⟩
  have hnew : (d.entry uuid).uuid = uuid := rfl
  constructor
  · rw [hentries, map_uuid_setFirst _ hnew]
    exact h.nodup
  -- the entry of the uuid is the new one, the others are as they were
  · intro dom
    rw [hentries, mem_setFirst hnew h.nodup huuid, h.mem_iff]
    by_cases hdom : dom.uuid = uuid
    · rw [hdom, Function.update_self]
      simp [eq_comm]
    · rw [Function.update_of_ne hdom]
      have hne : dom ≠ d.entry uuid := by
        rintro rfl
        exact hdom rfl
      simp [hdom, hne]

/-- A change that leaves the name and the XML of a domain. -/
theorem unchanged (h : ListExact host list) {uuid : String} {d : Option HostDomain}
    (hsame : d.map (HostDomain.entry uuid) = (host uuid).map (HostDomain.entry uuid)) :
    ListExact (Function.update host uuid d) list := by
  refine ⟨h.nodup, ?_⟩
  intro dom
  rw [h.mem_iff]
  by_cases huuid : dom.uuid = uuid
  · rw [huuid, Function.update_self, hsame]
  · rw [Function.update_of_ne huuid]

end ListExact

/-! ### The callback -/

/-- The indication of a created or modified domain is raised. -/
theorem IndCalls.Succeed.asyncInd {calls : IndCalls} (h : calls.Succeed) {kind : CsEvent}
    (hkind : kind ≠ .deleted) : asyncInd true calls kind = [kind] := by
  obtain ⟨objectPath, byName, recreated, indication⟩ := calls
  obtain ⟨rfl, haffected, rfl⟩ := h
  cases kind with
  | deleted => exact absurd rfl hkind
  | created =>
    obtain hfound | ⟨hmissing, hrecreated⟩ := haffected
    · simp_all [Indication.asyncInd]
    · simp_all [Indication.asyncInd]
  | modified =>
    obtain hfound | ⟨hmissing, hrecreated⟩ := haffected
    · simp_all [Indication.asyncInd]
    · simp_all [Indication.asyncInd]

/-- **The callback.** After an event it follows, the list is exact again, and the one
indication was raised. -/
theorem csiDomainEventCb_exact {host : Host} {list : DomList} {event : DomainEvent} {detail : ℕ}
    {dom : EventDomain} {ptr : DomainPtr} {calls : IndCalls} (hlist : list ≠ .freed)
    (hexact : ListExact host list) (huuid : ptr.uuidString = some dom.uuid)
    (hcalls : calls.Succeed) (hfollowed : Followed host event detail dom ptr) :
    ListExact (host.after event dom) (csiDomainEventCb list event detail ptr calls).1 ∧
      (csiDomainEventCb list event detail ptr calls).1 ≠ .freed ∧
      (csiDomainEventCb list event detail ptr calls).2 = [csEventOf event detail] := by
  have hcreated : CsEvent.created ≠ .deleted := by simp
  have hmodified : CsEvent.modified ≠ .deleted := by simp
  -- the callback by what libvirt reports: a new, a changed or an unchanged definition
  cases hfollowed with
  | added hevent hdetail hnew hname hxml =>
    subst hevent hdetail
    have hdom := csiDomXmlNew_of_answers huuid hname hxml
    have hcb : csiDomainEventCb list .defined definedAdded ptr calls =
        (csiThreadDomListAppend list ⟨dom.uuid, .str dom.name, .str dom.xml⟩,
          asyncInd true calls .created) := by
      simp [csiDomainEventCb, csEventOf, hdom, updateList]
    rw [hcb]
    -- a new definition is appended and raises a creation
    exact ⟨hexact.append hlist hnew ⟨dom.name, dom.xml, true, _⟩, append_ne_freed hlist _,
      hcalls.asyncInd hcreated⟩
  | updated hevent hdetail hknown hname hxml =>
    subst hevent hdetail
    obtain ⟨old, hold⟩ := Option.ne_none_iff_exists'.mp hknown
    have hcb : csiDomainEventCb list .defined definedUpdated ptr calls =
        (list.set dom.uuid ⟨dom.uuid, .str dom.name, .str dom.xml⟩,
          asyncInd true calls .modified) := by
      simp [csiDomainEventCb, csEventOf, huuid, hexact.find hold, updateList, csiDomXmlSet, hname,
        hxml, HostDomain.entry, definedAdded, definedUpdated]
    -- a changed one overwrites its entry and raises a modification
    rw [hcb]
    refine ⟨hexact.set hknown ⟨dom.name, dom.xml, true, _⟩, ?_, hcalls.asyncInd hmodified⟩
    cases list with
    | null => simp [DomList.set]
    | live doms => simp [DomList.set]
    | freed => exact absurd rfl hlist
  | unchanged hevent hdetail hknown hsame =>
    obtain ⟨old, hold⟩ := Option.ne_none_iff_exists'.mp hknown
    -- no event but a removal raises a deletion, and this is none
    have hkind : csEventOf event detail = .modified := by
      cases event with
      | undefined => exact absurd rfl hevent
      | defined => exact if_neg (hdetail rfl).1
      | started | suspended | resumed | stopped | shutdown | pmsuspended | crashed => rfl
    -- the list is left alone by every event that changes no definition
    have hupdate : updateList list event detail ptr (old.entry dom.uuid) = list := by
      unfold updateList
      split
      · next hdefined =>
        obtain ⟨hadded, hupdated⟩ := hdetail hdefined
        have hremoved : detail ≠ undefinedRemoved := hadded
        rw [if_neg hadded, if_neg hupdated, if_neg hremoved]
      · rfl
    have hcb : csiDomainEventCb list event detail ptr calls =
        (list, asyncInd true calls .modified) := by
      simp [csiDomainEventCb, hkind, huuid, hexact.find hold, hupdate]
    rw [hcb, hkind]
    exact ⟨hexact.unchanged hsame, hlist, hcalls.asyncInd hmodified⟩

/-! ### Runs -/

/-- A step that meets the condition. -/
theorem eventsExact_step {ls : List EventLabel} {st st' : EventState} {l : EventLabel}
    (h : EventsExact ls st) (hguard : Faithful st l) (hstep : EventStep st l st') :
    EventsExact (ls ++ [l]) st' := by
  -- the labels of before keep their part, the new one has to be shown its own
  obtain ⟨hexact, hlist, hraised⟩ := h
  have hmore : ∀ l', RaisedOnce l' → ∀ l ∈ ls ++ [l'], RaisedOnce l := by
    intro l' hl' l hl
    rw [List.mem_append, List.mem_singleton] at hl
    obtain hold | rfl := hl
    · exact hraised l hold
    · exact hl'
  -- of the steps, only a start and an event touch the list
  cases hstep with
  | started ptrs freed list hidle hupdate =>
    -- the start reads the domains of the host, all of them or none
    obtain ⟨hnil, hcomplete⟩ := hguard
    rw [updateDomainList, listFree_of_nil hnil] at hupdate
    obtain ⟨hfreed, hok⟩ := appendDomains_spec hlist hupdate
    obtain ⟨hall, hentries⟩ := hok rfl
    rw [hnil, List.nil_append] at hentries
    refine ⟨fun _ => ?_, hfreed, hmore _ trivial⟩
    obtain ⟨ptr, hptr, hrefuses⟩ | hcomplete := hcomplete
    · exact absurd ((csiDomXmlNew_eq_none_iff ptr).mpr hrefuses) (hall ptr hptr)
    · exact hcomplete.listExact hentries
  | notStarted ptrs freed list hidle hupdate =>
    rw [updateDomainList, listFree_of_nil hguard.1] at hupdate
    -- a start that fails leaves the worker idle, of which nothing is claimed
    have hfreed := (appendDomains_spec hlist hupdate).1
    refine ⟨fun hrunning => ?_, ?_, hmore _ trivial⟩
    · rw [hidle] at hrunning
      cases hrunning
    · cases freed with
      | false => exact hfreed
      | true => simp [freeThreadData]
  | stop freed hrunning =>
    refine ⟨fun hrunning => ?_, ?_, hmore _ trivial⟩
    · cases hrunning
    · cases freed with
      | false => exact hlist
      | true => simp [freeThreadData]
  | enable enabled => exact ⟨hexact, hlist, hmore _ trivial⟩
  | filters active => exact ⟨hexact, hlist, hmore _ trivial⟩
  | handled event detail dom ptr calls hrunning =>
    -- in a faithful run the event is delivered, and to a worker that listens
    obtain ⟨henabled, hfilters, huuid, hcalls, hfollowed⟩ := hguard hrunning
    have hcb : st.callback event detail ptr calls =
        csiDomainEventCb st.domList event detail ptr calls := by
      have hawake : ¬ (st.lifecycleEnabled = false ∨ st.activeFilters ≤ 0) := by
        rw [henabled]
        simpa using hfilters
      exact if_neg hawake
    obtain ⟨hlist', hfreed, hraise⟩ :=
      csiDomainEventCb_exact hlist (hexact hrunning) huuid hcalls hfollowed
    rw [hcb]
    exact ⟨fun _ => hlist', hfreed, hmore _ hraise⟩
  | unseen event detail dom ptr calls hidle =>
    refine ⟨fun hrunning => ?_, hlist, hmore _ trivial⟩
    rw [hidle] at hrunning
    cases hrunning

/-- **The event-mode list is exact**, along every run whose steps meet the condition. -/
theorem eventsExact_of_faithful {ls : List EventLabel} {st : EventState}
    (hrun : Run (eventSystem.restrict Faithful) eventSystem.init ls st) : EventsExact ls st := by
  refine hrun.historyInvariant (I := EventsExact) ?_ ?_
  · rintro ls s l t hI ⟨hguard, hstep⟩
    exact eventsExact_step hI hguard hstep
  · refine ⟨fun hrunning => ?_, by simp [eventSystem], List.forall_mem_nil _⟩
    cases hrunning

/-! ### Two runs -/

/-- The uuid of a guest. -/
def eventGuestUuid : String := "4dea22b3-1d52-d8f3-2516-782e98ab3fa0"

/-- A guest with an XML. -/
def eventGuest (xml : String) : EventDomain := ⟨eventGuestUuid, "guest", xml⟩

/-- The answers of the guest. -/
def eventPtr (xml : String) : DomainPtr := ⟨some eventGuestUuid, some "guest", some xml⟩

/-- An indication that is raised. -/
def raisedCalls : IndCalls := ⟨true, .found, true, true⟩

theorem raisedCalls_succeed : raisedCalls.Succeed := ⟨rfl, .inl rfl, rfl⟩

/-- A worker that has seen a guest being defined. -/
def guestDefined : EventState where
  host := Host.after (fun _ => none) .defined (eventGuest "<domain/>")
  domList := .live [⟨eventGuestUuid, .str "guest", .str "<domain/>"⟩]
  running := true
  lifecycleEnabled := true
  activeFilters := 1

/-- The steps that lead there, each of which meets the condition. -/
theorem run_guestDefined : ∃ ls, Run (eventSystem.restrict Faithful) eventSystem.init ls
    guestDefined := by
  -- the worker is enabled, has a filter, starts on an empty host and gets the event
  have r₁ : Run (eventSystem.restrict Faithful) eventSystem.init _ _ :=
    (Run.nil eventSystem.init).snoc_restrict (EventStep.enable eventSystem.init true) trivial
  have r₂ := r₁.snoc_restrict (EventStep.filters _ 1) trivial
  have hempty : Complete (fun _ => none) [] := by
    refine ⟨List.nodup_nil, ?_⟩
    intro ptr
    simp
  have r₃ := r₂.snoc_restrict (EventStep.started _ [] true .null rfl rfl) ⟨rfl, .inr hempty⟩
  have hhandled : ∀ st : EventState, st.host = (fun _ => none) → st.lifecycleEnabled = true →
      st.activeFilters = 1 →
      Handled st .defined definedAdded (eventGuest "<domain/>") (eventPtr "<domain/>")
        raisedCalls := by
    intro st hhost henabled hfilters
    refine ⟨henabled, by rw [hfilters]; decide, rfl, raisedCalls_succeed, ?_⟩
    exact .added rfl rfl (congrFun hhost _) rfl rfl
  have r₄ := r₃.snoc_restrict
    (EventStep.handled _ .defined definedAdded (eventGuest "<domain/>") (eventPtr "<domain/>")
      raisedCalls rfl) fun _ => hhandled _ rfl rfl rfl
  exact ⟨_, r₄⟩

theorem eventsExact_guestDefined : ∃ ls, EventsExact ls guestDefined ∧
    ListExact guestDefined.host guestDefined.domList := by
  obtain ⟨ls, hrun⟩ := run_guestDefined
  have hexact := eventsExact_of_faithful hrun
  exact ⟨ls, hexact, hexact.1 rfl⟩

/-- **A guest that is undefined stays on the list.** -/
theorem not_eventsExact :
    ¬ ∀ ls st, Run eventSystem eventSystem.init ls st → EventsExact ls st := by
  intro h
  obtain ⟨ls, hrun⟩ := run_guestDefined
  have hundefined := hrun.of_restrict.snoc
    (EventStep.handled guestDefined .undefined undefinedRemoved (eventGuest "<domain/>")
      (eventPtr "<domain/>") raisedCalls rfl)
  have hexact : ListExact (Host.after guestDefined.host .undefined (eventGuest "<domain/>"))
      guestDefined.domList := (h _ _ hundefined).1 rfl
  -- the hypervisor has no domain of the uuid any more
  have hgone : Host.after guestDefined.host .undefined (eventGuest "<domain/>") eventGuestUuid =
      none := by
    simp [Host.after, guestDefined, eventGuest, HostDomain.after]
  apply hexact.uuid_not_mem hgone
  exact List.mem_cons_self

end LibvirtCim.Indication
