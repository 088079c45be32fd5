import LibvirtCim.Framework.Count
import LibvirtCim.Framework.Effect
import Mathlib.Data.Int.Notation
import Mathlib.Data.List.Nodup
import Mathlib.Data.List.Pairwise

/-!
# Listing the domains of a host that changes

`get_domain_list` and `mempool_set_consumed` ask libvirt several times, and the host may change
from one call to the next. A `Course` gives the state of the host at the moment of each call and
whether the call fails.

* `fillList_cases` — the list is that of the look-ups that find a domain (`sightings`), if none of
  the calls that count and list fails;
* `listsExactly_iff` — when the list is what its callers take it for;
* `seenOnce_of_steady` — a domain that neither starts nor stops is found once.
-/

open Framework

namespace LibvirtCim.Enumeration

/-! ### The host -/

/-- A domain of a host. -/
structure Dom where
  name : String
  /-- the id, while it runs -/
  id : Option ℕ := none
  /-- `memory` of `virDomainGetInfo` -/
  memory : UInt64 := 0
  deriving DecidableEq, Repr

/-- The domains of a host, in the order libvirt lists them. -/
structure HostState where
  doms : List Dom
  names_nodup : (doms.map Dom.name).Nodup
  ids_nodup : (doms.filterMap Dom.id).Nodup

/-- The names of the domains that do not run. -/
def HostState.defined (h : HostState) : List String :=
  (h.doms.filter fun dom => dom.id.isNone).map Dom.name

/-- The ids of those that run. -/
def HostState.running (h : HostState) : List ℕ := h.doms.filterMap Dom.id

/-- `virDomainLookupByName`. -/
def HostState.byName (h : HostState) (name : String) : Option String :=
  (h.doms.find? fun dom => dom.name = name).map Dom.name

/-- `virDomainLookupByID`. -/
def HostState.byId (h : HostState) (id : ℕ) : Option String :=
  (h.doms.find? fun dom => dom.id = some id).map Dom.name

/-- `memory` of `virDomainGetInfo`, for the domain of a name. -/
def HostState.memory (h : HostState) (name : String) : Option UInt64 :=
  (h.doms.find? fun dom => dom.name = name).map Dom.memory

/-- What happens while libvirt is asked. -/
structure Course where
  /-- the host at the moment of a call -/
  host : ℕ → HostState
  /-- the call fails -/
  fails : ℕ → Bool

/-- The answer to a call. -/
def Course.answer {α : Type} (c : Course) (t : ℕ) (f : HostState → α) : Option α :=
  if c.fails t then none else some (f (c.host t))

/-! ### `get_domain_list` -/

/-- The moment of the next call, and the slots of the list that are filled. -/
structure ListState where
  moment : ℕ := 0
  list : List String := []

/-- How filling the list ends early. -/
inductive ListStop
  | out
  /-- a slot beyond the list -/
  | overflow
  deriving DecidableEq, Repr

section List

variable (c : Course)

/-- A call. -/
def ask {α : Type} (f : HostState → α) : Effect ListState ListStop (Option α) := fun s =>
  (.ok (c.answer s.moment f), { s with moment := s.moment + 1 })

/-- A call that has to succeed. -/
def askOrOut {α : Type} (f : HostState → α) : Effect ListState ListStop α := fun s =>
  match c.answer s.moment f with
  | none => (.error .out, { s with moment := s.moment + 1 })
  | some a => (.ok a, { s with moment := s.moment + 1 })

/-- The next slot of a list of `capacity` slots is filled. -/
def store (capacity : ℕ) (dom : String) : Effect ListState ListStop Unit := fun s =>
  if s.list.length < capacity then (.ok (), { s with list := s.list ++ [dom] })
  else (.error .overflow, s)

/-- A look-up, and the domain it finds. -/
def lookUp {κ : Type} (capacity : ℕ) (find : HostState → κ → Option String) (key : κ) :
    Effect ListState ListStop Unit := do
  let found ← ask c fun h => find h key
  match found.join with
  | none => pure ()
  | some dom => store capacity dom

/-- The domains that do not run, by their names. -/
def listDefined (nNames capacity : ℕ) : Effect ListState ListStop Unit :=
  if 0 < nNames then do
    let names ← askOrOut c fun h => h.defined.take nNames
    names.forM (lookUp c capacity HostState.byName)
  else pure ()

/-- Those that run, by their ids. -/
def listRunning (nIds capacity : ℕ) : Effect ListState ListStop Unit :=
  if 0 < nIds then do
    let ids ← askOrOut c fun h => h.running.take nIds
    ids.forM (lookUp c capacity HostState.byId)
  else pure ()

/-- `get_domain_list`, up to its label `out`. -/
def fillList : Effect ListState ListStop Unit := do
  let nNames ← ask c fun h => h.defined.length
  let nIds ← ask c fun h => h.running.length
  match nNames, nIds with
  | some nNames, some nIds => do
    listDefined c nNames (nNames + nIds)
    listRunning c nIds (nNames + nIds)
  | _, _ => .fail .out

/-- `get_domain_list`: the count it returns, and the list. -/
def getDomainList : ℤ × List String :=
  ((fillList c {}).2.list.length, (fillList c {}).2.list)

/-! ### What is looked up -/

/-- The answer of a look-up. -/
def found {κ : Type} (find : HostState → κ → Option String) (t : ℕ) (key : κ) : Option String :=
  (c.answer t fun h => find h key).join

/-- The domains that are found by look-ups from a moment on. -/
def sightings {κ : Type} (find : HostState → κ → Option String) (t : ℕ) (keys : List κ) :
    List String :=
  search (found c find) t keys

/-- The names that are looked up. -/
def Course.names : List String :=
  if 0 < (c.host 0).defined.length then (c.host 2).defined.take (c.host 0).defined.length else []

/-- The moment at which the ids are listed. -/
def Course.idsMoment : ℕ :=
  if 0 < (c.host 0).defined.length then 3 + c.names.length else 2

/-- The ids that are looked up. -/
def Course.ids : List ℕ :=
  if 0 < (c.host 1).running.length then (c.host c.idsMoment).running.take (c.host 1).running.length
  else []

/-- The number of calls. -/
def Course.calls : ℕ :=
  if 0 < (c.host 1).running.length then c.idsMoment + 1 + c.ids.length else c.idsMoment

/-- None of the calls that count and list fails. Names and ids are listed only where there are
some, and the moment of the second listing depends on how many names were looked up before it. -/
structure Untroubled : Prop where
  numOfDefinedDomains : c.fails 0 = false
  numOfDomains : c.fails 1 = false
  listDefinedDomains : 0 < (c.host 0).defined.length → c.fails 2 = false
  listDomains : 0 < (c.host 1).running.length → c.fails c.idsMoment = false

/-! ### The list that is filled -/

variable {c} {κ : Type} {find : HostState → κ → Option String}

/-- **What the look-ups add** to the list, if there are slots for them. -/
theorem lookUps_eq {capacity : ℕ} (keys : List κ) (s : ListState)
    (hroom : s.list.length + keys.length ≤ capacity) :
    keys.forM (lookUp c capacity find) s =
      (.ok (), { moment := s.moment + keys.length
                 list := s.list ++ sightings c find s.moment keys }) := by
  -- on the keys still to be looked up; every found domain takes one free entry
  induction keys generalizing s with
  | nil =>
    rw [sightings, search, List.append_nil]
    rfl
  | cons key keys ih =>
    rw [List.length_cons] at hroom
    have hfirst : lookUp c capacity find key s = (.ok (),
        { moment := s.moment + 1, list := s.list ++ (found c find s.moment key).toList }) := by
      rw [lookUp, Effect.bind_apply, ask, Effect.goOn_ok, ← found]
      cases found c find s.moment key with
      | none =>
        rw [Option.toList_none, List.append_nil]
        rfl
      | some dom => exact if_pos (show s.list.length < capacity by omega)
    -- a look-up adds at most one entry, which the capacity allows for
    have hone : (found c find s.moment key).toList.length ≤ 1 := by
      cases found c find s.moment key with
      | none => exact Nat.zero_le 1
      | some dom => exact Nat.le_refl 1
    rw [Effect.forM_cons_apply, hfirst, Effect.goOn_ok, ih]
    · rw [sightings, sightings, search, List.append_assoc, List.length_cons, Nat.add_assoc,
        Nat.add_comm 1]
    · rw [List.length_append]
      omega

theorem answer_of_not_fails {α : Type} {t : ℕ} (h : c.fails t = false) (f : HostState → α) :
    c.answer t f = some (f (c.host t)) :=
  if_neg (by rw [h]; exact Bool.false_ne_true)

theorem answer_of_fails {α : Type} {t : ℕ} (h : c.fails t = true) (f : HostState → α) :
    c.answer t f = none :=
  if_pos h

/-- A list of at most `n` keys is asked for, and they are looked up: the call fails, or the
look-ups add to the list what they find. -/
theorem listAndLookUp_eq {n capacity : ℕ} (keys : HostState → List κ) (s : ListState)
    (hroom : s.list.length + n ≤ capacity) :
    (do
      let keys ← askOrOut c fun h => (keys h).take n
      keys.forM (lookUp c capacity find)) s =
    if c.fails s.moment then (.error .out, { s with moment := s.moment + 1 })
    else (.ok (),
      { moment := s.moment + 1 + ((keys (c.host s.moment)).take n).length
        list := s.list ++ sightings c find (s.moment + 1) ((keys (c.host s.moment)).take n) }) := by
  -- the names are asked for first, and a failure there ends the whole enumeration
  rw [Effect.bind_apply, askOrOut]
  cases hfails : c.fails s.moment with
  | true =>
    rw [answer_of_fails hfails]
    rfl
  | false =>
    rw [answer_of_not_fails hfails]
    have hlength : ((keys (c.host s.moment)).take n).length ≤ n := List.length_take_le _ _
    exact lookUps_eq _ { s with moment := s.moment + 1 } (by dsimp only; omega)

/-- The two loops, after the counts. -/
theorem fillList_of_counts (h0 : c.fails 0 = false) (h1 : c.fails 1 = false) :
    fillList c {} = (do
      listDefined c (c.host 0).defined.length
        ((c.host 0).defined.length + (c.host 1).running.length)
      listRunning c (c.host 1).running.length
        ((c.host 0).defined.length + (c.host 1).running.length)) { moment := 2 } := by
  rw [fillList, Effect.bind_apply, ask, Effect.goOn_ok, Effect.bind_apply, ask, Effect.goOn_ok,
    answer_of_not_fails h0, answer_of_not_fails h1]

theorem length_names_le (c : Course) : c.names.length ≤ (c.host 0).defined.length := by
  unfold Course.names
  split
  · exact List.length_take_le _ _
  · exact Nat.zero_le _

/-- The first loop: it is left out, or its list fails, or it adds what it finds. -/
theorem listDefined_eq {capacity : ℕ} (hroom : (c.host 0).defined.length ≤ capacity) :
    listDefined c (c.host 0).defined.length capacity { moment := 2 } =
    if 0 < (c.host 0).defined.length ∧ c.fails 2 = true then (.error .out, { moment := 3 })
    else (.ok (), { moment := c.idsMoment, list := sightings c HostState.byName 3 c.names }) := by
  unfold listDefined Course.idsMoment Course.names
  by_cases hsome : 0 < (c.host 0).defined.length
  · rw [if_pos hsome, if_pos hsome, if_pos hsome]
    refine (listAndLookUp_eq HostState.defined { moment := 2 } (by simpa using hroom)).trans ?_
    simp only [hsome, true_and]
    rfl
  · rw [if_neg hsome, if_neg hsome, if_neg hsome, if_neg fun h => hsome h.1]
    rfl

/-- **How the list is filled**: no slot beyond it is, and if none of the calls that count and list
fails it has what the look-ups find. -/
theorem fillList_cases (c : Course) :
    ¬ Untroubled c ∧ (fillList c {}).1 = .error .out ∨
      Untroubled c ∧ (fillList c {}).1 = .ok () ∧
        (fillList c {}).2.list = sightings c HostState.byName 3 c.names ++
          sightings c HostState.byId (c.idsMoment + 1) c.ids := by
  -- the calls in their order: the two counts, the defined names, the ids
  cases h0 : c.fails 0 with
  | true =>
    refine .inl ⟨fun h => ?_, ?_⟩
    · rw [h.numOfDefinedDomains] at h0
      cases h0
    · rw [fillList, Effect.bind_apply, ask, Effect.goOn_ok, Effect.bind_apply, ask, Effect.goOn_ok,
        answer_of_fails h0]
      rfl
  | false =>
  cases h1 : c.fails 1 with
  | true =>
    refine .inl ⟨fun h => ?_, ?_⟩
    · rw [h.numOfDomains] at h1
      cases h1
    · rw [fillList, Effect.bind_apply, ask, Effect.goOn_ok, Effect.bind_apply, ask, Effect.goOn_ok,
        answer_of_not_fails h0, answer_of_fails h1]
      rfl
  | false =>
  rw [fillList_of_counts h0 h1, Effect.bind_apply, listDefined_eq (Nat.le_add_right _ _)]
  -- the names are listed only where the first count is positive
  by_cases h2 : 0 < (c.host 0).defined.length ∧ c.fails 2 = true
  · rw [if_pos h2, Effect.goOn_error]
    refine .inl ⟨fun h => ?_, rfl⟩
    rw [h.listDefinedDomains h2.1] at h2
    cases h2.2
  have hdefined (hsome : 0 < (c.host 0).defined.length) : c.fails 2 = false :=
    Bool.eq_false_iff.mpr fun hfails => h2 ⟨hsome, hfails⟩
  rw [if_neg h2, Effect.goOn_ok, listRunning]
  -- and the ids only where the second is
  by_cases hsome : 0 < (c.host 1).running.length
  -- what the first part found fits beside the running domains
  · have hroom : (sightings c HostState.byName 3 c.names).length + (c.host 1).running.length ≤
        (c.host 0).defined.length + (c.host 1).running.length :=
      Nat.add_le_add_right (Nat.le_trans (length_search_le 3 c.names) (length_names_le c)) _
    rw [if_pos hsome, listAndLookUp_eq HostState.running _ hroom]
    cases hfails : c.fails c.idsMoment with
    | true =>
      refine .inl ⟨fun h => ?_, rfl⟩
      rw [h.listDomains hsome] at hfails
      cases hfails
    | false =>
      refine .inr ⟨⟨h0, h1, hdefined, fun _ => hfails⟩, rfl, ?_⟩
      rw [Course.ids, if_pos hsome]
      rfl
  · rw [if_neg hsome]
    refine .inr ⟨⟨h0, h1, hdefined, fun h => absurd h hsome⟩, rfl, ?_⟩
    rw [Course.ids, if_neg hsome]
    exact (List.append_nil _).symm

/-! ### Each domain once -/

variable (c) in
/-- A domain is there at each call. -/
def Throughout (name : String) : Prop :=
  ∀ t < c.calls, ∃ dom ∈ (c.host t).doms, dom.name = name

variable (c) in
/-- **A domain is seen once**: one look-up finds it, by its name or by an id. A domain that is
started between the two listings can be met by both of them, and one that stops by neither. -/
def SeenOnce (name : String) : Prop :=
  (∃! i, Answers (found c HostState.byName) 3 c.names name i) ∧
      (∀ i, ¬ Answers (found c HostState.byId) (c.idsMoment + 1) c.ids name i) ∨
    (∀ i, ¬ Answers (found c HostState.byName) 3 c.names name i) ∧
      ∃! i, Answers (found c HostState.byId) (c.idsMoment + 1) c.ids name i

variable (c) in
/-- **What is asked of `get_domain_list`**: no slot beyond the list is filled and the count is that
of its entries; if libvirt lists the domains, each that stays is in the list once; if it fails, the
count is negative. -/
structure ListsExactly : Prop where
  noOverflow : (fillList c {}).1 ≠ .error .overflow
  noneBeyond : ∀ (i : ℕ) (name : String), (getDomainList c).2[i]? = some name →
    (i : ℤ) < (getDomainList c).1
  once : Untroubled c → ∀ name, Throughout c name → (getDomainList c).2.count name = 1
  negative : ¬ Untroubled c → (getDomainList c).1 < 0

/-- **The count is never negative**: the tests of `enum_domains` and `return_enum_vssd` for a
failure of the listing are never met. -/
theorem getDomainList_nonneg (c : Course) : 0 ≤ (getDomainList c).1 := Int.natCast_nonneg _

theorem count_getDomainList_eq_one_iff (h : Untroubled c) (name : String) :
    (getDomainList c).2.count name = 1 ↔ SeenOnce c name := by
  obtain ⟨hnot, _⟩ | ⟨_, _, hlist⟩ := fillList_cases c
  · exact absurd h hnot
  rw [getDomainList, hlist, SeenOnce, List.count_append, ← count_search_eq_one,
    ← count_search_eq_zero, ← count_search_eq_one, ← count_search_eq_zero, ← sightings, ← sightings]
  omega

/-- **When the list is what is asked**: no call that counts or lists fails, and each domain that
stays is seen once. -/
theorem listsExactly_iff (c : Course) :
    ListsExactly c ↔ Untroubled c ∧ ∀ name, Throughout c name → SeenOnce c name := by
  -- a failed listing has to be told by a negative number, and the number is never negative
  refine ⟨fun h => ?_, fun ⟨huntroubled, hseen⟩ => ?_⟩
  · have huntroubled : Untroubled c := by
      by_contra hnot
      exact absurd (h.negative hnot) (Int.not_lt.mpr (getDomainList_nonneg c))
    refine ⟨huntroubled, fun name hname => ?_⟩
    exact (count_getDomainList_eq_one_iff huntroubled name).mp (h.once huntroubled name hname)
  -- an untroubled enumeration gives a number, and that many entries
  · refine ⟨fun hoverflow => ?_, fun i name hi => ?_, fun _ name hname => ?_,
      fun hnot => absurd huntroubled hnot⟩
    · obtain ⟨hnot, _⟩ | ⟨_, hok, _⟩ := fillList_cases c
      · exact absurd huntroubled hnot
      · rw [hok] at hoverflow
        cases hoverflow
    · exact Int.ofNat_lt.mpr (List.getElem?_eq_some_iff.mp hi).1
    · exact (count_getDomainList_eq_one_iff huntroubled name).mpr (hseen name hname)

/-! ### A domain that neither starts nor stops -/

theorem found_eq_some {t : ℕ} {key : κ} {name : String} :
    found c find t key = some name ↔ c.fails t = false ∧ find (c.host t) key = some name := by
  unfold found Course.answer
  cases c.fails t with
  | true => exact iff_of_false (fun h => nomatch h) (fun h => nomatch h.1)
  | false => exact (and_iff_right rfl).symm

theorem HostState.eq_of_name {h : HostState} {a b : Dom} (ha : a ∈ h.doms) (hb : b ∈ h.doms)
    (hname : a.name = b.name) : a = b :=
  List.inj_on_of_nodup_map h.names_nodup ha hb hname

theorem HostState.eq_of_id {h : HostState} {a b : Dom} {id : ℕ} (ha : a ∈ h.doms)
    (hb : b ∈ h.doms) (haid : a.id = some id) (hbid : b.id = some id) : a = b := by
  by_contra hne
  have hdistinct := List.pairwise_filterMap.mp h.ids_nodup
  have : Std.Symm fun x y : Dom => ∀ i, x.id = some i → ∀ j, y.id = some j → i ≠ j :=
    ⟨fun x y hxy i hi j hj => (hxy j hj i hi).symm⟩
  exact hdistinct.forall ha hb hne id haid id hbid rfl

theorem HostState.byName_eq_some {h : HostState} {key name : String} :
    h.byName key = some name ↔ ∃ dom ∈ h.doms, dom.name = key ∧ dom.name = name :=
  map_find?_eq_some_iff fun _ _ _ _ ha hb => ha.trans hb.symm

theorem HostState.byId_eq_some {h : HostState} {id : ℕ} {name : String} :
    h.byId id = some name ↔ ∃ dom ∈ h.doms, dom.id = some id ∧ dom.name = name :=
  map_find?_eq_some_iff fun _ ha _ hb haid hbid =>
    congrArg Dom.name (HostState.eq_of_id ha hb haid hbid)

variable (c) in
/-- A domain has the same id, or none, at each call, and none of the calls about it is cut short. -/
structure Steady (name : String) (id : Option ℕ) : Prop where
  stays : ∀ t < c.calls, ∃ dom ∈ (c.host t).doms, dom.name = name ∧ dom.id = id
  noFailure : ∀ t < c.calls, c.fails t = false
  /-- the lists are not cut -/
  definedFit : (c.host 2).defined.length ≤ (c.host 0).defined.length
  runningFit : (c.host c.idsMoment).running.length ≤ (c.host 1).running.length

theorem HostState.mem_defined {h : HostState} {dom : Dom} (hmem : dom ∈ h.doms)
    (hid : dom.id = none) : dom.name ∈ h.defined :=
  List.mem_map_of_mem (List.mem_filter.mpr ⟨hmem, Option.isNone_iff_eq_none.mpr hid⟩)

theorem HostState.id_of_mem_defined {h : HostState} {dom : Dom} (hmem : dom ∈ h.doms)
    (hname : dom.name ∈ h.defined) : dom.id = none := by
  obtain ⟨other, hother, heq⟩ := List.mem_map.mp hname
  obtain ⟨hotherMem, hnone⟩ := List.mem_filter.mp hother
  rw [HostState.eq_of_name hmem hotherMem heq.symm]
  exact Option.isNone_iff_eq_none.mp hnone

theorem nodup_names (c : Course) : c.names.Nodup := by
  unfold Course.names
  split
  · exact ((c.host 2).names_nodup.sublist (List.filter_sublist.map _)).sublist
      (List.take_sublist _ _)
  · exact List.nodup_nil

theorem nodup_ids (c : Course) : c.ids.Nodup := by
  unfold Course.ids
  split
  · exact (c.host c.idsMoment).ids_nodup.sublist (List.take_sublist _ _)
  · exact List.nodup_nil

/-- A key is looked up at one place. -/
theorem existsUnique_answers {t : ℕ} {keys : List κ} {name : String} (hnodup : keys.Nodup)
    {key : κ} (hkey : key ∈ keys)
    (honly : ∀ i key', keys[i]? = some key' →
      (found c find (t + i) key' = some name ↔ key' = key)) :
    ∃! i, Answers (found c find) t keys name i := by
  obtain ⟨i, hi⟩ := List.mem_iff_getElem?.mp hkey
  refine ⟨i, ⟨key, hi, (honly i key hi).mpr rfl⟩, fun j ⟨key', hj, hfound⟩ => ?_⟩
  rw [(honly j key' hj).mp hfound, ← hi] at hj
  obtain ⟨hlt, _⟩ := List.getElem?_eq_some_iff.mp hi
  exact ((List.getElem?_inj hlt hnodup).mp hj.symm).symm

theorem two_le_idsMoment (c : Course) : 2 ≤ c.idsMoment := by
  unfold Course.idsMoment
  split
  · exact Nat.le_trans (by decide) (Nat.le_add_right 3 _)
  · exact Nat.le_refl 2

theorem idsMoment_le_calls (c : Course) : c.idsMoment ≤ c.calls := by
  unfold Course.calls
  split
  · exact Nat.le_trans (Nat.le_succ _) (Nat.le_add_right _ _)
  · exact Nat.le_refl _

/-- The look-ups by name come before the ids are listed. -/
theorem lookUp_name_lt {i : ℕ} {key : String} (h : c.names[i]? = some key) :
    0 < (c.host 0).defined.length ∧ 3 + i < c.calls := by
  have hlt := (List.getElem?_eq_some_iff.mp h).1
  have hle := idsMoment_le_calls c
  have hsome : 0 < (c.host 0).defined.length :=
    Nat.lt_of_lt_of_le (Nat.zero_lt_of_lt hlt) (length_names_le c)
  unfold Course.idsMoment at hle
  rw [if_pos hsome] at hle
  exact ⟨hsome, by omega⟩

theorem lookUp_id_lt {i k : ℕ} (h : c.ids[i]? = some k) : c.idsMoment + 1 + i < c.calls := by
  have hlt := (List.getElem?_eq_some_iff.mp h).1
  have hsome : 0 < (c.host 1).running.length := by
    by_contra hnone
    rw [Course.ids, if_neg hnone] at hlt
    exact absurd hlt (Nat.not_lt_zero i)
  rw [Course.calls, if_pos hsome]
  omega

/-- The id of a steady domain, whichever of its look-ups finds it. -/
theorem Steady.id_eq {name : String} {id : Option ℕ} (h : Steady c name id) {t : ℕ}
    (ht : t < c.calls) {dom : Dom} (hmem : dom ∈ (c.host t).doms) (hname : dom.name = name) :
    dom.id = id := by
  obtain ⟨other, hother, hotherName, hotherId⟩ := h.stays t ht
  rw [HostState.eq_of_name hmem hother (hname.trans hotherName.symm), hotherId]

/-- One that does not run is looked up by its name. -/
theorem Steady.mem_names {name : String} (h : Steady c name none) : name ∈ c.names := by
  have hcalls := Nat.le_trans (two_le_idsMoment c) (idsMoment_le_calls c)
  obtain ⟨first, hfirst, hfirstName, hfirstId⟩ := h.stays 0 (by omega)
  have hsome : 0 < (c.host 0).defined.length :=
    List.length_pos_of_mem (HostState.mem_defined hfirst hfirstId)
  have htwo : 2 < c.calls := by
    have hle := idsMoment_le_calls c
    rw [Course.idsMoment, if_pos hsome] at hle
    omega
  obtain ⟨dom, hdom, hdomName, hdomId⟩ := h.stays 2 htwo
  rw [Course.names, if_pos hsome, List.take_of_length_le h.definedFit, ← hdomName]
  exact HostState.mem_defined hdom hdomId

/-- One that runs is looked up by its id. -/
theorem Steady.mem_ids {name : String} {k : ℕ} (h : Steady c name (some k)) : k ∈ c.ids := by
  have hcalls := Nat.le_trans (two_le_idsMoment c) (idsMoment_le_calls c)
  obtain ⟨first, hfirst, hfirstName, hfirstId⟩ := h.stays 1 (by omega)
  have hsome : 0 < (c.host 1).running.length :=
    List.length_pos_of_mem (List.mem_filterMap.mpr ⟨first, hfirst, hfirstId⟩)
  have hlt : c.idsMoment < c.calls := by
    rw [Course.calls, if_pos hsome]
    omega
  obtain ⟨dom, hdom, hdomName, hdomId⟩ := h.stays c.idsMoment hlt
  rw [Course.ids, if_pos hsome, List.take_of_length_le h.runningFit]
  exact List.mem_filterMap.mpr ⟨dom, hdom, hdomId⟩

/-- **A domain that neither starts nor stops is seen once**, whatever the others do. -/
theorem seenOnce_of_steady {name : String} {id : Option ℕ} (h : Steady c name id) :
    SeenOnce c name := by
  -- a domain that does not run is seen by its name, one that runs by its id
  cases id with
  | none =>
    refine .inl ⟨existsUnique_answers (nodup_names c) h.mem_names fun i key hi => ?_, ?_⟩
    · obtain ⟨_, hlt⟩ := lookUp_name_lt hi
      rw [found_eq_some, HostState.byName_eq_some]
      refine ⟨fun ⟨_, dom, _, hkey, hname⟩ => hkey.symm.trans hname, fun hkey => ?_⟩
      obtain ⟨dom, hmem, hname, _⟩ := h.stays _ hlt
      exact ⟨h.noFailure _ hlt, dom, hmem, hname.trans hkey.symm, hname⟩
    · -- an id that is listed belongs to a domain that runs
      intro i ⟨k, hk, hfound⟩
      rw [found_eq_some, HostState.byId_eq_some] at hfound
      obtain ⟨_, dom, hmem, hdomId, hname⟩ := hfound
      rw [h.id_eq (lookUp_id_lt hk) hmem hname] at hdomId
      cases hdomId
  | some k =>
    refine .inr ⟨?_, existsUnique_answers (nodup_ids c) h.mem_ids fun i key hi => ?_⟩
    · -- a name that is listed belongs to a domain that does not run
      intro i ⟨key, hkey, hfound⟩
      obtain ⟨hsome, hlt⟩ := lookUp_name_lt hkey
      rw [found_eq_some, HostState.byName_eq_some] at hfound
      obtain ⟨_, _, _, hdomKey, hdomName⟩ := hfound
      have hlisted : name ∈ (c.host 2).defined := by
        have hnames := List.mem_of_getElem? hkey
        rw [Course.names, if_pos hsome, ← hdomKey, hdomName] at hnames
        exact List.mem_of_mem_take hnames
      obtain ⟨dom, hmem, hname, hid⟩ := h.stays 2 (by omega)
      rw [HostState.id_of_mem_defined hmem (hname.symm ▸ hlisted)] at hid
      cases hid
    · have hlt := lookUp_id_lt hi
      rw [found_eq_some, HostState.byId_eq_some]
      -- the id names the same domain at every later moment
      refine ⟨fun ⟨_, dom, hmem, hdomId, hname⟩ => ?_, fun hkey => ?_⟩
      · rw [h.id_eq hlt hmem hname] at hdomId
        exact (Option.some.inj hdomId).symm
      · obtain ⟨dom, hmem, hname, hid⟩ := h.stays _ hlt
        exact ⟨h.noFailure _ hlt, dom, hmem, by rw [hid, hkey], hname⟩

end List

end LibvirtCim.Enumeration
