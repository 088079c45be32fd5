import LibvirtCim.Indication.Lifecycle
import Mathlib.Data.Option.Basic

/-!
# Soundness and completeness of the polling loop

`PollsExact` fails for the loop as it stands, in two ways (`not_pollsExact`).
`get_domain_list` reports a failed listing as a shorter list, so a domain that still
exists is reported deleted. And `async_ind_native` looks a modified domain up by the
name it had before, so of a domain that was renamed nothing is heard.

The loop meets it along the polls that it notices (`exact_of_noticed`): a poll either
succeeds, and then each of the differences it finds can be told (`ToldTruly`), or a
listed domain refuses its uuid or its XML, and then it is not the first.

`PollInv` carries the induction: the array the worker holds is the set of the
last successful poll. One turn of the loop is computed by `compareDomains_eq`,
which reads both `for` loops through the two sets as maps, and
`filter_compareDomains` counts its calls uuid by uuid; `raises_of_toldTruly` makes
each call the indication it asks for. `replayPoll_eq` is a fact about such counts
alone: indications that are exact for every uuid turn the old map into the new one.
-/

open Framework

namespace LibvirtCim.Indication

/-! ### What the calls of a poll amount to -/

/-- The array entry of a reported domain. -/
def Entry.toDomXml (e : Entry) : DomXml :=
  ⟨e.uuid, some e.xml, e.state⟩

theorem domsToXml_of_entries {doms : List Domain} {es : List Entry}
    (h : doms.mapM Domain.entry = some es) :
    domsToXml doms = (es.map Entry.toDomXml, true) := by
  -- one domain after the other, as doms_to_xml copies them
  induction doms generalizing es with
  | nil =>
    obtain rfl : [] = es := by simpa using h
    rfl
  | cons dom doms ih =>
    obtain ⟨uuid, xml, info⟩ := dom
    rw [List.mapM_cons] at h
    obtain _ | uuid := uuid
    · simp [Domain.entry] at h
    obtain _ | xml := xml
    · simp [Domain.entry] at h
    obtain _ | info := info
    · simp [Domain.entry] at h
    -- with every entry there, the rest is copied too
    cases hrest : doms.mapM Domain.entry with
    | none => simp [hrest] at h
    | some rest =>
      obtain rfl : _ = es := by simpa [hrest, Domain.entry] using h
      simp [domsToXml, ih hrest, Entry.toDomXml]

/-- `doms_to_xml` fails exactly when a listed domain refuses its uuid or its
XML. -/
theorem domsToXml_fails_iff (doms : List Domain) :
    (domsToXml doms).2 = false ↔ ∃ dom ∈ doms, dom.uuidString = none ∨ dom.xmlDesc = none := by
  induction doms with
  | nil => simp [domsToXml]
  | cons dom doms ih =>
    obtain ⟨uuid, xml, info⟩ := dom
    obtain _ | uuid := uuid
    · simp [domsToXml]
    obtain _ | xml := xml
    · simp [domsToXml]
    · simpa [domsToXml] using ih

private theorem mapM_filterMap_id {answers : List (Option Domain)} {es : List Entry}
    (h : (answers.mapM fun answer => answer.bind Domain.entry) = some es) :
    (answers.filterMap id).mapM Domain.entry = some es := by
  -- no answer is missing, so none is left out
  induction answers generalizing es with
  | nil => exact h
  | cons answer answers ih =>
    obtain _ | dom := answer
    · simp [List.mapM_cons] at h
    rw [List.mapM_cons] at h
    cases hrest : answers.mapM fun answer => answer.bind Domain.entry with
    | none => simp [hrest] at h
    | some rest =>
      have htail := ih hrest
      change (dom :: answers.filterMap id).mapM Domain.entry = some es
      rw [List.mapM_cons, htail]
      simpa [hrest] using h

/-- A poll in which every call succeeds builds the array of its entries. -/
theorem domsToXml_getDomainList {q : Listing} {es : List Entry} (h : q.entries = some es) :
    domsToXml (getDomainList q) = (es.map Entry.toDomXml, true) := by
  simp only [Listing.entries, Option.bind_eq_bind, Option.bind_eq_some_iff] at h
  obtain ⟨nNames, hn, nIds, hi, names, hnames, ids, hids, hmap⟩ := h
  refine domsToXml_of_entries ?_
  simp only [getDomainList, hn, hi, hnames, hids, ← List.filterMap_append]
  exact mapM_filterMap_id hmap

/-! ### One turn of the loop -/

theorem domInList_map (uuid : String) (es : List Entry) :
    domInList uuid (es.map Entry.toDomXml) = (entryOf es uuid).isSome := by
  induction es with
  | nil => rfl
  | cons e es ih =>
    rw [entryOf, lookupKey_cons]
    by_cases h : e.uuid = uuid
    · simp [domInList, Entry.toDomXml, h]
    · have hne : uuid ≠ e.uuid := Ne.symm h
      rw [if_neg h, ← ih]
      simp [domInList, Entry.toDomXml, hne]

theorem domChanged_map (p : Entry) (cur : List Entry) :
    domChanged p.toDomXml (cur.map Entry.toDomXml) =
      some (match entryOf cur p.uuid with
        | none => false
        | some c => p ≠ c) := by
  -- dom_changed looks for the first domain with the UUID
  induction cur with
  | nil => rfl
  | cons c cur ih =>
    rw [List.map_cons, domChanged, entryOf, lookupKey_cons]
    -- the one that is compared
    by_cases h : c.uuid = p.uuid
    · obtain ⟨uuid, xml, state⟩ := p
      obtain ⟨uuid', xml', state'⟩ := c
      obtain rfl : uuid' = uuid := h
      simp [Entry.toDomXml, eq_comm]
      by_cases hx : xml = xml' <;> by_cases hs : state = state' <;> simp [hx, hs]
    · simpa [Entry.toDomXml, h] using ih

/-- The second loop at one entry: the indication the two sets call for. -/
theorem prevIndication_map (p : Entry) (cur : List Entry) :
    prevIndication (cur.map Entry.toDomXml) p.toDomXml =
      some ((expected (some p) (entryOf cur p.uuid)).map (⟨·, p.toDomXml⟩)) := by
  have hin := domInList_map p.toDomXml.uuid cur
  rw [prevIndication, hin, domChanged_map]
  change (if (entryOf cur p.uuid).isSome then _ else _) = _
  cases entryOf cur p.uuid with
  | none => rfl
  | some c => by_cases h : p = c <;> simp [expected, h]

/-- The two loops on arrays that both come from successful polls. -/
theorem compareDomains_eq (prev cur : List Entry) :
    compareDomains (prev.map Entry.toDomXml) (cur.map Entry.toDomXml) =
      some (((cur.filter fun c => (entryOf prev c.uuid).isNone).map
          fun c => ⟨.created, c.toDomXml⟩) ++
        prev.filterMap fun p =>
          (expected (some p) (entryOf cur p.uuid)).map (⟨·, p.toDomXml⟩)) := by
  -- what the previous domains give, one by one
  have hprev : (prev.map Entry.toDomXml).mapM (prevIndication (cur.map Entry.toDomXml)) =
      some (prev.map fun p => (expected (some p) (entryOf cur p.uuid)).map (⟨·, p.toDomXml⟩)) := by
    rw [List.mapM_map]
    simp only [Function.comp_def, prevIndication_map]
    exact List.mapM_pure
  -- what is new are the domains without a previous one
  have hcreated : createdIndications (prev.map Entry.toDomXml) (cur.map Entry.toDomXml) =
      (cur.filter fun c => (entryOf prev c.uuid).isNone).map fun c => ⟨.created, c.toDomXml⟩ := by
    simp only [createdIndications, List.filter_map, List.map_map, Function.comp_def]
    congr 1
    refine List.filter_congr fun c _ => ?_
    rw [show c.toDomXml.uuid = c.uuid from rfl, domInList_map]
    cases entryOf prev c.uuid <;> rfl
  simp only [compareDomains, hprev, hcreated, Option.map_some, List.filterMap_map,
    Function.id_comp]

/-- The kinds the first loop reports for a uuid. -/
theorem kinds_created (prev cur : List Entry) (uuid : String) :
    (((cur.filter fun c => (entryOf prev c.uuid).isNone).map
        fun c => (⟨.created, c.toDomXml⟩ : AsyncInd)).filter
          fun ind => ind.dom.uuid = uuid).map AsyncInd.kind =
      ((cur.filter fun c => c.uuid = uuid).filter fun c => (entryOf prev c.uuid).isNone).map
        fun _ => .created := by
  simp only [List.filter_map, List.map_map, Function.comp_def, List.filter_filter]
  congr 1
  exact List.filter_congr fun c _ => Bool.and_comm _ _

/-- The kinds the second loop reports for a uuid. -/
theorem kinds_prev (prev cur : List Entry) (uuid : String) :
    ((prev.filterMap fun p =>
        (expected (some p) (entryOf cur p.uuid)).map
          fun kind => (⟨kind, p.toDomXml⟩ : AsyncInd)).filter
          fun ind => ind.dom.uuid = uuid).map AsyncInd.kind =
      (prev.filter fun p => p.uuid = uuid).filterMap
        fun p => expected (some p) (entryOf cur p.uuid) := by
  induction prev with
  | nil => rfl
  | cons p prev ih =>
    have huuid : p.toDomXml.uuid = p.uuid := rfl
    by_cases hp : p.uuid = uuid
    · subst hp
      cases hk : expected (some p) (entryOf cur p.uuid) <;> simp [hk, huuid, ih]
    · cases hk : expected (some p) (entryOf cur p.uuid) <;> simp [hk, huuid, hp, ih]

/-- **Exactly one indication for each change.** The indications of a turn that
concern a uuid are those the two sets call for there. -/
theorem filter_compareDomains {prev cur : List Entry} {inds : List AsyncInd}
    (hprev : (prev.map Entry.uuid).Nodup) (hcur : (cur.map Entry.uuid).Nodup)
    (h : compareDomains (prev.map Entry.toDomXml) (cur.map Entry.toDomXml) = some inds)
    (uuid : String) :
    (inds.filter fun ind => ind.dom.uuid = uuid).map AsyncInd.kind =
      (expected (entryOf prev uuid) (entryOf cur uuid)).toList := by
  rw [compareDomains_eq, Option.some.injEq] at h
  subst h
  -- among all, only the one entry with the UUID counts
  rw [List.filter_append, List.map_append, kinds_created, kinds_prev,
    filter_key_eq_toList Entry.uuid hcur, filter_key_eq_toList Entry.uuid hprev]
  -- in none, one or both of the two sets
  cases hp : lookupKey Entry.uuid prev uuid with
  | none =>
    cases hc : lookupKey Entry.uuid cur uuid with
    | none => simp [entryOf, hp, hc, expected]
    | some c =>
      have hcu := key_of_lookupKey Entry.uuid hc
      simp [entryOf, hp, hc, hcu, expected]
  | some p =>
    have hpu := key_of_lookupKey Entry.uuid hp
    cases hc : lookupKey Entry.uuid cur uuid with
    | none => simp [entryOf, hp, hc, hpu, expected]
    | some c =>
      have hcu := key_of_lookupKey Entry.uuid hc
      by_cases heq : p = c <;> simp [entryOf, hp, hc, hpu, hcu, expected, heq]

/-! ### The calls of a turn -/

/-- What calls for an indication: the differences between the array that is kept and the
domains of a poll, as the two loops look for them. -/
def Differs (prev : List DomXml) (cur : List Entry) (ind : AsyncInd) : Prop :=
  match ind.kind with
  | .created => ind.dom ∈ cur.map Entry.toDomXml ∧ domInList ind.dom.uuid prev = false
  | .deleted => ind.dom ∈ prev ∧ domInList ind.dom.uuid (cur.map Entry.toDomXml) = false
  | .modified => ind.dom ∈ prev ∧ domChanged ind.dom (cur.map Entry.toDomXml) = some true

/-- A turn makes its calls for differences only. -/
theorem differs_of_mem {prev cur : List Entry} {inds : List AsyncInd}
    (h : compareDomains (prev.map Entry.toDomXml) (cur.map Entry.toDomXml) = some inds)
    {ind : AsyncInd} (hind : ind ∈ inds) : Differs (prev.map Entry.toDomXml) cur ind := by
  rw [compareDomains_eq, Option.some.injEq] at h
  subst h
  obtain hcreated | hother := List.mem_append.mp hind
  · obtain ⟨c, hc, rfl⟩ := List.mem_map.mp hcreated
    obtain ⟨hmem, hnew⟩ := List.mem_filter.mp hc
    refine ⟨List.mem_map_of_mem hmem, (domInList_map _ _).trans ?_⟩
    exact Option.isSome_eq_false_iff.mpr hnew
  · obtain ⟨p, hp, hkind⟩ := List.mem_filterMap.mp hother
    obtain ⟨kind, hkind, rfl⟩ := Option.map_eq_some_iff.mp hkind
    have hmem : p.toDomXml ∈ prev.map Entry.toDomXml := List.mem_map_of_mem hp
    cases hcur : entryOf cur p.uuid with
    | none =>
      -- the entry has gone
      rw [hcur] at hkind
      obtain rfl : CsEvent.deleted = kind := by simpa [expected] using hkind
      refine ⟨hmem, (domInList_map p.uuid cur).trans ?_⟩
      rw [hcur]
      rfl
    | some c =>
      -- the entry is still there, and is another one
      rw [hcur] at hkind
      by_cases hpc : p = c
      · simp [expected, hpc] at hkind
      · obtain rfl : CsEvent.modified = kind := by simpa [expected, hpc] using hkind
        refine ⟨hmem, (domChanged_map p cur).trans ?_⟩
        simp [hcur, hpc]

/-- What a call should let a listener know: the domain of a creation or of a modification
as the poll found it. -/
def AsyncInd.shows (cur : List Entry) (ind : AsyncInd) : Option Entry :=
  match ind.kind with
  | .created | .modified => entryOf cur ind.dom.uuid
  | .deleted => none

/-- The steps of a call that are the same for every kind succeed, and the affected guest is
the right one. The name comes from the XML of the call, that of the poll before for a
modification, and the guest is the one that libvirt has under this name now. -/
structure ToldTruly (cur : List Entry) (l : Poll) (ind : AsyncInd) : Prop where
  enabled : l.lifecycleEnabled = true
  objectPath : (l.calls ind).objectPath = true
  affected : ∃ xml name, ind.dom.xml = some xml ∧ sysNameFromXml xml.toList = some name ∧
    match ind.kind with
    | .created | .modified =>
      ((l.calls ind).byName name).map (fun e => { e with uuid := ind.dom.uuid }) =
        entryOf cur ind.dom.uuid
    | .deleted => (l.calls ind).recreated = true
  indication : (l.calls ind).indication = true

/-- The indication that a call asks for. -/
structure Raises (cur : List Entry) (ind : AsyncInd) (raised : CsIndication) : Prop where
  kind : raised.kind = ind.kind
  uuid : raised.uuid = ind.dom.uuid
  effect : raised.effect = ind.shows cur

/-- A domain that a turn finds new or changed is one of the poll. -/
theorem isSome_of_differs {prev cur : List Entry} {ind : AsyncInd}
    (h : Differs (prev.map Entry.toDomXml) cur ind) (hkind : ind.kind ≠ .deleted) :
    (entryOf cur ind.dom.uuid).isSome := by
  obtain ⟨kind, dom⟩ := ind
  -- a created domain is in the new set, and a modified one was found there
  cases kind with
  | created =>
    rw [← domInList_map]
    exact List.any_eq_true.mpr ⟨dom, h.1, by simp⟩
  | modified =>
    obtain ⟨p, -, rfl⟩ := List.mem_map.mp h.1
    have hchanged := h.2
    rw [domChanged_map] at hchanged
    change (entryOf cur p.uuid).isSome
    cases hcur : entryOf cur p.uuid with
    | none => simp [hcur] at hchanged
    | some c => rfl
  | deleted => exact absurd rfl hkind

/-- **A call that can be told raises its indication.** -/
theorem raises_of_toldTruly {prev cur : List Entry} {l : Poll} {ind : AsyncInd}
    (hdiff : Differs (prev.map Entry.toDomXml) cur ind) (h : ToldTruly cur l ind) :
    ∃ raised, asyncIndNative l.lifecycleEnabled (l.calls ind) ind = some (some raised) ∧
      Raises cur ind raised := by
  have hsome := isSome_of_differs hdiff
  -- every call on the way has gone well
  obtain ⟨henabled, hop, ⟨xml, name, hxml, hname, haffected⟩, hsteps⟩ := h
  have hcall : ∀ guest, (l.calls ind).affected name ind.kind = some guest →
      asyncIndNative l.lifecycleEnabled (l.calls ind) ind =
        some (some ⟨ind.kind, name, ind.dom.uuid, guest⟩) := by
    intro guest hguest
    simp [asyncIndNative, henabled, hxml, hname, hop, hguest, hsteps]
  -- what is shown is what the look-up by name has found
  cases hkind : ind.kind with
  | deleted =>
    rw [hkind] at haffected hcall
    refine ⟨_, hcall none (if_pos haffected), ⟨hkind.symm, rfl, ?_⟩⟩
    rw [AsyncInd.shows, hkind]
    rfl
  | created | modified =>
    rw [hkind] at haffected hcall
    -- the domain that is looked up is there, since the poll found it
    obtain ⟨c, hc⟩ := Option.isSome_iff_exists.mp (hsome (by simp [hkind]))
    rw [hc] at haffected
    obtain ⟨guest, hguest, hshown⟩ := Option.map_eq_some_iff.mp haffected
    have hread := congrArg (Option.map some) hguest
    refine ⟨_, hcall (some guest) hread, ⟨hkind.symm, rfl, ?_⟩⟩
    simp only [AsyncInd.shows, hkind, hc, CsIndication.effect, Option.map_some, hshown]

/-- The same for the calls of a turn, one after the other. -/
theorem mapM_asyncIndNative {cur : List Entry} {l : Poll} {inds : List AsyncInd}
    (h : ∀ ind ∈ inds, ∃ raised,
      asyncIndNative l.lifecycleEnabled (l.calls ind) ind = some (some raised) ∧
        Raises cur ind raised) :
    ∃ raised : List CsIndication,
      (inds.mapM fun ind => asyncIndNative l.lifecycleEnabled (l.calls ind) ind) =
        some (raised.map some) ∧ List.Forall₂ (Raises cur) inds raised := by
  induction inds with
  | nil => exact ⟨[], rfl, .nil⟩
  | cons ind inds ih =>
    obtain ⟨e, he, hraises⟩ := h ind List.mem_cons_self
    obtain ⟨raised, hraised, hall⟩ := ih fun ind hind => h ind (List.mem_cons_of_mem _ hind)
    refine ⟨e :: raised, ?_, .cons hraises hall⟩
    rw [List.mapM_cons, he, hraised]
    rfl

/-- Indication by indication the kinds are those of the calls. -/
theorem kinds_raised {cur : List Entry} {inds : List AsyncInd} {raised : List CsIndication}
    (h : List.Forall₂ (Raises cur) inds raised) (uuid : String) :
    (raised.filter fun ind => ind.uuid = uuid).map CsIndication.kind =
      (inds.filter fun ind => ind.dom.uuid = uuid).map AsyncInd.kind := by
  induction h with
  | nil => rfl
  | @cons ind e inds raised hraises _ ih =>
    by_cases hu : ind.dom.uuid = uuid
    · simp [hraises.uuid, hraises.kind, hu, ih]
    · simp [hraises.uuid, hu, ih]

/-- What the indications of a turn show is what the poll found. -/
theorem effect_raised {cur : List Entry} {inds : List AsyncInd} {raised : List CsIndication}
    (h : List.Forall₂ (Raises cur) inds raised) {e : CsIndication} (he : e ∈ raised) :
    e.effect = if e.kind = .deleted then none else entryOf cur e.uuid := by
  induction h with
  | nil => cases he
  | @cons ind e' inds raised hraises _ ih =>
    obtain rfl | he := List.mem_cons.mp he
    · rw [hraises.effect, hraises.kind, hraises.uuid, AsyncInd.shows]
      cases ind.kind <;> rfl
    · exact ih he

/-! ### Replaying the indications -/

/-- Indications that are exact for every uuid turn the old map into the new. -/
theorem replayPoll_eq {prev cur : List Entry} {inds : List CsIndication}
    (h : ∀ uuid, (inds.filter fun ind => ind.uuid = uuid).map CsIndication.kind =
      (expected (entryOf prev uuid) (entryOf cur uuid)).toList)
    (heffect : ∀ ind ∈ inds,
      ind.effect = if ind.kind = .deleted then none else entryOf cur ind.uuid) :
    replayPoll (entryOf prev) inds = entryOf cur := by
  funext uuid
  have hu := h uuid
  rw [replayPoll, foldl_update_apply (fun ind : CsIndication => ind.uuid)
    (fun ind _ => ind.effect)]
  cases hk : expected (entryOf prev uuid) (entryOf cur uuid) with
  | none =>
    -- no indication: the two sets agree at the uuid
    rw [hk, Option.toList_none, List.map_eq_nil_iff] at hu
    rw [hu, List.foldl_nil]
    revert hk
    cases entryOf prev uuid <;> cases entryOf cur uuid <;> simp [expected]
  | some kind =>
    rw [hk, Option.toList_some, List.map_eq_singleton_iff] at hu
    obtain ⟨ind, hind, rfl⟩ := hu
    have hmem : ind ∈ inds.filter fun ind => ind.uuid = uuid := by simp [hind]
    obtain ⟨hmem, huuid⟩ := List.mem_filter.mp hmem
    rw [hind, List.foldl_cons, List.foldl_nil, heffect ind hmem, of_decide_eq_true huuid]
    by_cases hkind : ind.kind = .deleted
    · -- a deletion is called for only where the current set has no entry
      rw [if_pos hkind]
      rw [hkind] at hk
      -- nor are there two such entries
      revert hk
      cases entryOf prev uuid <;> cases entryOf cur uuid <;> simp [expected]
    · rw [if_neg hkind]

/-! ### Runs -/

theorem lastSuccess_append (ls : List Poll) (l : Poll) :
    lastSuccess (ls ++ [l]) = (l.answers.entries <|> lastSuccess ls) := by
  rw [lastSuccess, List.foldl_append]
  rfl

theorem replay_append (ls : List Poll) (l : Poll) :
    replay (ls ++ [l]) = match l.answers.entries, replay ls with
      | some _, some m => some (replayPoll m l.emitted)
      | some cur, none => some (entryOf cur)
      | none, m => m := by
  rw [replay, List.foldl_append]
  rfl

/-- The conditions under which the loop notices what happens to a poll: every call of the
listing succeeds and each difference from the array that is kept can be told, or, once the
loop is entered, one of the domains that are listed refuses its uuid or its XML. -/
def Noticed (st : LoopState) (l : Poll) : Prop :=
  (∃ cur, l.answers.entries = some cur ∧
    ∀ prev ind, st = .looping prev → Differs prev cur ind → ToldTruly cur l ind) ∨
  st ≠ .starting ∧
      ∃ dom ∈ getDomainList l.answers, dom.uuidString = none ∨ dom.xmlDesc = none

/-- A poll that succeeds refuses no uuid and no XML, so that it is the first half of
`Noticed` that holds of it. -/
theorem toldTruly_of_noticed {prev : List DomXml} {cur : List Entry} {l : Poll}
    (h : Noticed (.looping prev) l) (hcur : l.answers.entries = some cur) (ind : AsyncInd)
    (hind : Differs prev cur ind) : ToldTruly cur l ind := by
  obtain ⟨cur', hcur', htold⟩ | ⟨-, hrefused⟩ := h
  · obtain rfl : cur = cur' := Option.some.inj (hcur.symm.trans hcur')
    exact htold prev ind rfl hind
  · rw [← domsToXml_fails_iff, domsToXml_getDomainList hcur] at hrefused
    cases hrefused

/-- What the worker knows after the polls `ls`. -/
structure PollInv (ls : List Poll) (st : LoopState) : Prop where
  /-- the array kept is the set of the last successful poll -/
  state : (ls = [] ∧ st = .starting) ∨
    ∃ es, lastSuccess ls = some es ∧ (es.map Entry.uuid).Nodup ∧
      st = .looping (es.map Entry.toDomXml)
  exact : Along PollExact ls
  replayed : replay ls = (lastSuccess ls).map entryOf

namespace PollInv

theorem initial : PollInv [] pollSystem.init where
  state := .inl ⟨rfl, rfl⟩
  exact := Along.nil
  replayed := rfl

theorem step {ls : List Poll} {st st' : LoopState} {l : Poll} (h : PollInv ls st)
    (hnoticed : Noticed st l) (hstep : pollSystem.step st l st') :
    PollInv (ls ++ [l]) st' := by
  obtain ⟨hnodup, hrun⟩ := hstep
  have hreplay := replay_append ls l
  have hlast := lastSuccess_append ls l
  -- the first poll, or a later one
  obtain ⟨rfl, rfl⟩ | ⟨prev, hprev, hprevNodup, rfl⟩ := h.state
  · -- the first poll succeeds and emits nothing
    obtain ⟨cur, hcur, -⟩ := hnoticed.resolve_right fun h => h.1 rfl
    simp only [lifecycleThreadNative, domsToXml_getDomainList hcur, Prod.mk.injEq] at hrun
    obtain ⟨rfl, hemitted⟩ := hrun
    rw [hcur] at hlast hreplay
    refine ⟨.inr ⟨cur, hlast, hnodup _ hcur, rfl⟩, h.exact.snoc ?_, ?_⟩
    · simp [PollExact, hcur, lastSuccess, ← hemitted]
    · rw [hreplay, hlast]
      rfl
  -- a later poll that succeeds, or one that fails
  cases hcur : l.answers.entries with
  | some cur =>
    cases hinds : compareDomains (prev.map Entry.toDomXml) (cur.map Entry.toDomXml) with
    | none => simp [compareDomains_eq] at hinds
    | some inds =>
      have htold := toldTruly_of_noticed hnoticed hcur
      -- each difference raises its indication
      obtain ⟨raised, hraised, hall⟩ := mapM_asyncIndNative fun ind hind =>
        raises_of_toldTruly (differs_of_mem hinds hind) (htold ind (differs_of_mem hinds hind))
      simp only [lifecycleThreadNative, domsToXml_getDomainList hcur, hinds, Option.bind_some,
        hraised, List.filterMap_map, Function.id_comp, List.filterMap_some, Prod.mk.injEq] at hrun
      obtain ⟨rfl, rfl⟩ := hrun
      have hexact := fun uuid => (kinds_raised hall uuid).trans
        (filter_compareDomains hprevNodup (hnodup _ hcur) hinds uuid)
      rw [hcur] at hlast hreplay
      -- the set is kept as the next one to compare with
      refine ⟨.inr ⟨cur, hlast, hnodup _ hcur, rfl⟩, h.exact.snoc ?_, ?_⟩
      · simpa [PollExact, hcur, hprev] using hexact
      · have hm : replay ls = some (entryOf prev) := by rw [h.replayed, hprev]; rfl
        rw [hreplay, hm, hlast]
        exact congrArg some (replayPoll_eq hexact fun ind => effect_raised hall)
  | none =>
    -- the poll failed and the loop noticed it: nothing is emitted, the array stays
    have hfail : (domsToXml (getDomainList l.answers)).2 = false := by
      rw [domsToXml_fails_iff]
      simpa [Noticed, hcur] using hnoticed
    have hkeep : LoopState.looping (prev.map Entry.toDomXml) = st' ∧ [] = l.emitted := by
      rw [lifecycleThreadNative] at hrun
      generalize domsToXml (getDomainList l.answers) = res at hfail hrun
      obtain ⟨cur, s⟩ := res
      obtain rfl : s = false := hfail
      simpa using hrun
    obtain ⟨rfl, hemitted⟩ := hkeep
    rw [hcur] at hlast hreplay
    have hlast' : lastSuccess (ls ++ [l]) = lastSuccess ls := by simpa using hlast
    refine ⟨.inr ⟨prev, hlast'.trans hprev, hprevNodup, rfl⟩, h.exact.snoc ?_, ?_⟩
    · simp [PollExact, hcur, ← hemitted]
    · rw [hreplay, hlast']
      exact h.replayed

theorem run {ls : List Poll} {st : LoopState}
    (h : Run (pollSystem.restrict Noticed) pollSystem.init ls st) : PollInv ls st := by
  refine h.historyInvariant (fun ls s l t hI hst => ?_) initial
  exact step hI hst.1 hst.2

theorem not_crashed {ls : List Poll} {st : LoopState} (h : PollInv ls st) : st ≠ .crashed := by
  obtain ⟨-, rfl⟩ | ⟨es, -, -, rfl⟩ := h.state <;> simp

end PollInv

/-- **Polling is sound and complete along noticed polls.** `Noticed` is a condition on the answers
of one poll and on the array that is kept; that what was told so far is what the polls so far
should have told is the invariant of the run, and as long as it holds the loop has not crashed. -/
theorem exact_of_noticed {ls : List Poll} {st : LoopState}
    (hrun : Run (pollSystem.restrict Noticed) pollSystem.init ls st) : Exact ls st := by
  have h := PollInv.run hrun
  exact ⟨h.not_crashed, h.exact, h.replayed⟩

/-! ### A guest that comes and goes -/

/-- The guest `a` in a state. -/
def guestIn (state : DomState) : Entry :=
  ⟨"u", "<name>a</name>", state⟩

/-- A poll that finds the guest. -/
def oneGuest (state : VirDomainState) : Listing :=
  ⟨some 0, some 1, none, some [some ⟨some "u", some "<name>a</name>", some state⟩]⟩

/-- A poll that finds no guest. -/
def noGuest : Listing :=
  ⟨some 0, some 0, none, none⟩

/-- A poll that finds the guest, which refuses its XML. -/
def refusedGuest : Listing :=
  ⟨some 0, some 1, none, some [some ⟨some "u", none, none⟩]⟩

/-- The answers of `async_ind_native` when no step fails: libvirt has the domains `cur`,
each under the name in its XML. -/
def answersOf (cur : List Entry) (_ : AsyncInd) : NativeIndCalls :=
  ⟨true, fun name => cur.find? fun e => sysNameFromXml e.xml.toList = some name, true, true⟩

theorem distinctUuids_of_entries (es : List Entry) {q : Listing} (h : q.entries = some es)
    (hnodup : (es.map Entry.uuid).Nodup) : DistinctUuids q := by
  intro es' hes'
  obtain rfl := Option.some.inj (h.symm.trans hes')
  exact hnodup

/-- Whatever has happened to the guest can be told. -/
theorem toldTruly_guestIn {prev : List DomXml} {cur : List Entry} {ind : AsyncInd}
    (hprev : ∀ dom ∈ prev, ∃ state, dom = (guestIn state).toDomXml)
    (hcur : cur = [] ∨ ∃ state, cur = [guestIn state]) (h : Differs prev cur ind)
    (q : Listing) (raised : List CsIndication) :
    ToldTruly cur ⟨q, true, answersOf cur, raised⟩ ind := by
  -- the name is cut from the XML the guest has
  have hname : ∀ state, sysNameFromXml (guestIn state).xml.toList = some "a" := by
    intro state
    change sysNameFromXml "<name>a</name>".toList = some "a"
    decide +kernel
  obtain ⟨kind, dom⟩ := ind
  obtain rfl | ⟨now, rfl⟩ := hcur
  · -- nothing is found any more: the guest can only have gone
    cases kind with
    | created => cases h.1
    | modified => exact absurd h.2 (by simp [domChanged])
    | deleted =>
      obtain ⟨state, rfl⟩ := hprev _ h.1
      exact ⟨rfl, rfl, ⟨_, _, rfl, hname state, rfl⟩, rfl⟩
  -- the domain is the guest, as it is now or as it was
  · have hdom : ∃ state, dom = (guestIn state).toDomXml := by
      cases kind with
      | created => exact ⟨now, List.mem_singleton.mp h.1⟩
      | modified | deleted => exact hprev _ h.1
    obtain ⟨state, rfl⟩ := hdom
    have hfound : [guestIn now].find? (fun e => sysNameFromXml e.xml.toList = some "a") =
        some (guestIn now) := by
      rw [List.find?_cons_of_pos (by simp [hname])]
    refine ⟨rfl, rfl, ⟨_, _, rfl, hname state, ?_⟩, rfl⟩
    -- it is looked up by its name, unless it is deleted
    cases kind with
    | created | modified => exact congrArg (Option.map _) hfound
    | deleted => rfl

/-- A run whose polls are all noticed: a guest appears, refuses its XML once, is paused and
goes. -/
theorem exact_oneGuest :
    ∃ ls st, Exact ls st ∧ lastSuccess ls = some [] ∧
      (ls.flatMap Poll.emitted).map CsIndication.kind = [.created, .modified, .deleted] := by
  let running : List Entry := [guestIn .online]
  let paused : List Entry := [guestIn .paused]
  -- every poll of the five is noticed, the failed one included
  have hnoticed : ∀ (prev cur : List Entry) (q : Listing) (raised : List CsIndication),
      q.entries = some cur → (prev = [] ∨ ∃ state, prev = [guestIn state]) →
      (cur = [] ∨ ∃ state, cur = [guestIn state]) →
      Noticed (.looping (prev.map Entry.toDomXml)) ⟨q, true, answersOf cur, raised⟩ := by
    intro prev cur q raised hq hprev hcur
    refine .inl ⟨cur, hq, fun array ind harray hdiff => ?_⟩
    obtain rfl := LoopState.looping.inj harray
    refine toldTruly_guestIn (fun dom hdom => ?_) hcur hdiff q raised
    obtain rfl | ⟨state, rfl⟩ := hprev
    · cases hdom
    · exact ⟨state, List.mem_singleton.mp hdom⟩
  -- nothing there, then the guest, a refused poll, the guest paused, and nothing again
  have r₁ : Run (pollSystem.restrict Noticed) LoopState.starting _
      (.looping (([] : List Entry).map Entry.toDomXml)) :=
    Run.single (l := ⟨noGuest, true, answersOf [], []⟩)
      ⟨.inl ⟨[], rfl, fun _ _ h => nomatch h⟩, distinctUuids_of_entries [] rfl .nil, rfl⟩
  have r₂ : Run (pollSystem.restrict Noticed) LoopState.starting _
      (.looping (running.map Entry.toDomXml)) :=
    r₁.snoc (l := ⟨oneGuest .running, true, answersOf running,
        [⟨.created, "a", "u", some (guestIn .online)⟩]⟩)
      ⟨hnoticed [] running _ _ rfl (.inl rfl) (.inr ⟨_, rfl⟩),
        distinctUuids_of_entries running rfl (by decide), by decide +kernel⟩
  have r₃ : Run (pollSystem.restrict Noticed) LoopState.starting _
      (.looping (running.map Entry.toDomXml)) :=
    r₂.snoc (l := ⟨refusedGuest, true, answersOf running, []⟩)
      ⟨.inr ⟨by simp, _, .head _, .inr rfl⟩, fun _ hes => (nomatch hes), rfl⟩
  have r₄ : Run (pollSystem.restrict Noticed) LoopState.starting _
      (.looping (paused.map Entry.toDomXml)) :=
    r₃.snoc (l := ⟨oneGuest .paused, true, answersOf paused,
        [⟨.modified, "a", "u", some (guestIn .paused)⟩]⟩)
      ⟨hnoticed running paused _ _ rfl (.inr ⟨_, rfl⟩) (.inr ⟨_, rfl⟩),
        distinctUuids_of_entries paused rfl (by decide), by decide +kernel⟩
  have r₅ : Run (pollSystem.restrict Noticed) LoopState.starting _
      (.looping (([] : List Entry).map Entry.toDomXml)) :=
    r₄.snoc (l := ⟨noGuest, true, answersOf [], [⟨.deleted, "a", "u", none⟩]⟩)
      ⟨hnoticed paused [] _ _ rfl (.inr ⟨_, rfl⟩) (.inl rfl),
        distinctUuids_of_entries [] rfl .nil, by decide +kernel⟩
  exact ⟨_, _, exact_of_noticed r₅, rfl, rfl⟩

/-! ### What goes unnoticed -/

/-- A guest of another name and the uuid of the guest `a`. -/
def renamedGuest : Listing :=
  ⟨some 0, some 1, none, some [some ⟨some "u", some "<name>b</name>", some .running⟩]⟩

/-- **A guest that still exists is reported deleted, and a renamed one is not reported.** One
guest runs. The second poll counts it and fails to list it; or it succeeds, finds the guest
under a new name, and libvirt has none under the old one. -/
theorem not_pollsExact :
    ¬ PollsExact pollSystem ∧
      ¬ PollsExact (pollSystem.restrict fun _ l =>
        l.answers.entries.isSome ∧
          ∀ cur, l.answers.entries = some cur → l.calls = answersOf cur) := by
  have hone : DistinctUuids (oneGuest .running) :=
    distinctUuids_of_entries [guestIn .online] rfl (by decide)
  -- a poll that finds nothing by a failure, and a guest that has been renamed
  refine ⟨fun h => ?_, fun h => ?_⟩
  · let unlisted : Listing := ⟨some 0, some 1, none, none⟩
    have hunlisted : DistinctUuids unlisted := fun es hes => nomatch hes
    have r₁ : Run pollSystem LoopState.starting _ (.looping [(guestIn .online).toDomXml]) :=
      Run.single (l := ⟨oneGuest .running, true, answersOf [], []⟩) ⟨hone, rfl⟩
    have r₂ := r₁.snoc (l := ⟨unlisted, true, answersOf [], [⟨.deleted, "a", "u", none⟩]⟩)
      (u := .looping []) ⟨hunlisted, by decide +kernel⟩
    have hsilent : [(⟨.deleted, "a", "u", none⟩ : CsIndication)] = [] :=
      (h _ _ r₂).2.1 [⟨oneGuest .running, true, answersOf [], []⟩] _ [] rfl
    exact absurd hsilent (by simp)
  · let renamed : Entry := ⟨"u", "<name>b</name>", .online⟩
    let polls : Poll := ⟨oneGuest .running, true, answersOf [guestIn .online], []⟩
    -- the calls answer from the set itself
    have hentries : ∀ {q : Listing} {es : List Entry}, q.entries = some es →
        q.entries.isSome ∧ ∀ cur, q.entries = some cur → answersOf es = answersOf cur := by
      intro q es hq
      refine ⟨by rw [hq]; rfl, fun cur hcur => ?_⟩
      rw [Option.some.inj (hq.symm.trans hcur)]
    have r₁ : Run (pollSystem.restrict fun _ l => l.answers.entries.isSome ∧
          ∀ cur, l.answers.entries = some cur → l.calls = answersOf cur) LoopState.starting
        [polls] (.looping [(guestIn .online).toDomXml]) :=
      Run.single ⟨hentries rfl, hone, rfl⟩
    have r₂ := r₁.snoc (l := ⟨renamedGuest, true, answersOf [renamed], []⟩)
      (u := .looping [renamed.toDomXml])
      ⟨hentries rfl, distinctUuids_of_entries [renamed] rfl (by decide),
        by decide +kernel⟩
    -- the guest has changed, and nothing is said of it
    have hmodified := (h _ _ r₂).2.1 [polls] _ [] rfl "u"
    revert hmodified
    decide +kernel

end LibvirtCim.Indication
