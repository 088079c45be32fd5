import LibvirtCim.Framework.Effect
import LibvirtCim.Service.Classification

/-!
# The arrays behind the lists of devices

`classify_resources` with the arrays that `make_space` allocates: each list of a `struct domain`
is an array and a count, and a device is written to a slot. `classifySlots` stops where the code
would write beyond an array (`overflow`), and where it would say that there are no more slots.
`classified_classifySlots` says that it does neither: an array has as many free slots as there are
settings, and a round takes one of them at most (`Within`).

What counts of the arrays is what `classifyResources` has in its lists
(`classifyResources_of_classifySlots`).
-/

open Framework LibvirtCim.Device LibvirtCim.Rasd

namespace LibvirtCim.Service

/-! ### Arrays -/

/-- A list of devices of a `struct domain`: its array, and how many of the slots count. -/
structure Slots (α : Type) where
  slots : List (VirtDevice α)
  count : ℕ

/-- The devices that count. -/
def Slots.live {α : Type} (s : Slots α) : List (VirtDevice α) := s.slots.take s.count

/-- The arrays of a `struct domain`. -/
abbrev Arrays : Type := (kind : DevKind) → Slots kind.Dev

/-- How `classify_resources` ends without success. -/
inductive ClassifyStop
  /-- a slot beyond the end of an array -/
  | overflow
  /-- a comparison with a null string -/
  | crash
  /-- `Internal error: no more device slots` -/
  | noSlots
  | failed (e : RasdError)
  deriving DecidableEq, Repr

/-- A computation on the array of one type. -/
def onKind {α : Type} (kind : DevKind) (m : Effect (Slots kind.Dev) ClassifyStop α) :
    Effect Arrays ClassifyStop α := fun a =>
  ((m (a kind)).1, Function.update a kind (m (a kind)).2)

/-- `make_space`: an array that is longer by `new` cleared slots. -/
def makeSpace (alloc : Bool) (name : String) (new : ℕ) (kind : DevKind) :
    Effect (Slots kind.Dev) ClassifyStop Unit := fun s =>
  if alloc then
    (.ok (), { s with slots := s.live ++ List.replicate new { dev := kind.zero } })
  else (.error (.failed { msg := "Failed to alloc " ++ name ++ " list" }), s)

section Slots

variable {kind : DevKind}

/-- A device is written to a slot. -/
def writeSlot (i : ℕ) (dev : VirtDevice kind.Dev) : Effect (Slots kind.Dev) ClassifyStop Unit :=
  fun s => if i < s.slots.length then (.ok (), { s with slots := s.slots.set i dev })
    else (.error .overflow, s)

/-- The number of devices that count is set. -/
def setCount (count : ℕ) : Effect (Slots kind.Dev) ClassifyStop Unit := fun s =>
  (.ok (), { s with count })

/-- The targets that are compared are there. -/
def targetsSet : {kind : DevKind} → kind.Dev → kind.Dev → Bool
  | .disk, dev, dev' => dev.virtualDev.isSome && dev'.virtualDev.isSome
  | _, _, _ => true

/-- The loop of `add_device_nodup`: the slot of the first device with the id. -/
def findSlot (dev : VirtDevice kind.Dev) (i : ℕ) :
    List (VirtDevice kind.Dev) → Except ClassifyStop (Option ℕ)
  | [] => .ok none
  | ptr :: rest =>
    if !targetsSet ptr.dev dev.dev then .error .crash
    else if sameTarget ptr.dev dev.dev then .error (.failed
      { msg := "VirtualDevice property must be unique for each " ++
          "DiskResourceAllocationSettingData in a single guest" })
    else if ptr.id.isNone || dev.id.isNone then .error .crash
    else if sameId ptr.id dev.id then .ok (some i)
    else findSlot dev (i + 1) rest

/-- `add_device_nodup`, on the array. -/
def addDeviceNodupSlots (dev : VirtDevice kind.Dev) (max : ℕ) :
    Effect (Slots kind.Dev) ClassifyStop Unit := fun s =>
  match findSlot dev 0 s.live with
  | .error stop => (.error stop, s)
  | .ok (some i) => writeSlot i dev s
  | .ok none =>
    if s.count = max then (.error .noSlots, s)
    else (do
      writeSlot s.count dev
      setCount (s.count + 1)) s

/-- `rasd_to_vdev` into a slot of the array. -/
def translateSlot (host : Host) (domtype : DomainType) (inst : Instance) (i : ℕ) :
    Effect (Slots kind.Dev) ClassifyStop Unit := fun s =>
  match s.slots[i]? with
  | none => (.error .overflow, s)
  | some base =>
    match rasdToVdev host domtype inst kind base with
    | .error e => (.error (.failed e), s)
    | .ok dev => writeSlot i dev s

/-- One round of `classify_resources` on the array of a type, for one of `count` settings. -/
def classifySlot (host : Host) (domtype : DomainType) (count : ℕ) (inst : Instance) :
    Effect (Slots kind.Dev) ClassifyStop Unit := fun s =>
  if isSingle kind then (do
    setCount 1
    translateSlot host domtype inst 0) s
  else if kind = .console then (do
    translateSlot host domtype inst s.count
    setCount (s.count + 1)) s
  else
    match rasdToVdev host domtype inst kind { dev := kind.zero } with
    | .error e => (.error (.failed e), s)
    | .ok dev => addDeviceNodupSlots dev (count + s.count) s

end Slots

/-- The order in which the arrays are allocated. -/
def spaceOrder : List (DevKind × String) :=
  [(.disk, "disk"), (.proc, "vcpu"), (.mem, "mem"), (.net, "net"), (.graphics, "graphics"),
    (.console, "console"), (.input, "input"), (.controller, "controller")]

/-- Space for `new` settings in each array, in an order. -/
def makeSpaces (alloc : DevKind → Bool) (new : ℕ) (order : List (DevKind × String)) :
    Effect Arrays ClassifyStop Unit :=
  order.forM fun entry => onKind entry.1 (makeSpace (alloc entry.1) entry.2 new entry.1)

/-- The arrays of a domain before there is more space. -/
def arraysOf (domain : Domain) : Arrays := fun kind =>
  { slots := domain.list kind, count := (domain.list kind).length }

/-- The round for a setting. -/
def classifyItem (host : Host) (domtype : DomainType) (count : ℕ) (inst : Instance) :
    Effect Arrays ClassifyStop Unit :=
  match resTypeFromRasdClassname inst with
  | none => .fail (.failed { msg := "Unable to determine resource type" })
  | some .image => pure ()
  | some (.dev kind) => onKind kind (classifySlot host domtype count inst)

/-- `classify_resources`, on the arrays of a domain of a type. -/
def classifySlots (host : Host) (domtype : DomainType) (alloc : DevKind → Bool)
    (resources : List Instance) : Effect Arrays ClassifyStop Unit :=
  if resources = [] then .fail (.failed { msg := "No resources specified" })
  else do
    makeSpaces alloc resources.length spaceOrder
    resources.forM (classifyItem host domtype resources.length)

/-! ### A round stays within the array -/

/-- The stop is none that should not be. -/
def ClassifyStop.Regular : ClassifyStop → Prop
  | .overflow | .noSlots => False
  | .crash | .failed _ => True

/-- An array of a list that had `old` devices, with room for `total` settings, of which `done` for
the type have been met: those slots that count are among the used ones. -/
structure Within {α : Type} (old total done : ℕ) (s : Slots α) : Prop where
  length : s.slots.length = old + total
  count : s.count ≤ old + done

section Within

variable {kind : DevKind} {host : Host} {domtype : DomainType} {inst : Instance}
  {old total done : ℕ} {dev : VirtDevice kind.Dev}

/-- A device is written to a slot that is there. -/
theorem writeSlot_spec {i : ℕ} {s : Slots kind.Dev} (h : i < s.slots.length) :
    writeSlot i dev s = (.ok (), { s with slots := s.slots.set i dev }) :=
  if_pos h

/-- What was found is a slot that counts. -/
theorem findSlot_spec (dev : VirtDevice kind.Dev) (i : ℕ) (list : List (VirtDevice kind.Dev)) :
    (∀ stop, findSlot dev i list = .error stop → stop.Regular) ∧
      ∀ j, findSlot dev i list = .ok (some j) → i ≤ j ∧ j < i + list.length := by
  -- along the list, with the place where the search began
  induction list generalizing i with
  | nil => exact ⟨fun stop h => (by cases h), fun j h => (by cases h)⟩
  | cons ptr rest ih =>
    rw [findSlot]
    split_ifs
    · exact ⟨fun stop h => (by cases h; trivial), fun j h => (by cases h)⟩
    · exact ⟨fun stop h => (by cases h; trivial), fun j h => (by cases h)⟩
    · exact ⟨fun stop h => (by cases h; trivial), fun j h => (by cases h)⟩
    -- found here, at the place where it stands
    · refine ⟨fun stop h => (by cases h), fun j h => ?_⟩
      cases h
      simp
    · refine ⟨(ih (i + 1)).1, fun j h => ?_⟩
      obtain ⟨hle, hlt⟩ := (ih (i + 1)).2 j h
      rw [List.length_cons]
      omega

theorem translateSlot_spec (host : Host) (domtype : DomainType) (inst : Instance) {i : ℕ}
    {s : Slots kind.Dev} (hlt : i < s.slots.length) (h : Within old total done s) :
    Within old total done (translateSlot host domtype inst i s).2 ∧
      ∀ stop, (translateSlot host domtype inst i s).1 = .error stop → stop.Regular := by
  unfold translateSlot
  rw [List.getElem?_eq_getElem hlt]
  dsimp only
  split
  · exact ⟨h, fun stop hstop => by cases hstop; trivial⟩
  · rw [writeSlot_spec hlt]
    exact ⟨⟨by rw [← h.length]; exact List.length_set, h.count⟩, fun stop hstop => by cases hstop⟩

/-- **One round stays within the array**, whatever the setting is, as long as there is room for
it. -/
theorem within_classifySlot (host : Host) (domtype : DomainType) (inst : Instance)
    {s : Slots kind.Dev} (h : Within old total done s) (hroom : done < total) :
    Within old total (done + 1) (classifySlot host domtype total inst s).2 ∧
      ∀ stop, (classifySlot host domtype total inst s).1 = .error stop → stop.Regular := by
  -- the count never gets past what was there and what came, and the arrays have room for both
  have hcount := h.count
  have hlength := h.length
  unfold classifySlot
  split
  · -- the first slot is there, and the only one that counts
    have hone : Within old total (done + 1) { s with count := 1 } :=
      ⟨hlength, Nat.succ_le_of_lt (Nat.lt_add_left old (Nat.succ_pos done))⟩
    have hlt : 0 < s.slots.length := by omega
    exact translateSlot_spec host domtype inst hlt hone
  split
  -- a console: written behind the last one, and counted after
  · have hlt : s.count < s.slots.length := by omega
    have hmore : Within old total (done + 1) s := ⟨hlength, by omega⟩
    obtain ⟨hwithin, hstop⟩ := translateSlot_spec host domtype inst hlt hmore
    rw [Effect.bind_apply]
    generalize translateSlot host domtype inst s.count s = r at hwithin hstop ⊢
    obtain ⟨result, t⟩ := r
    cases result with
    | error stop => exact ⟨hwithin, hstop⟩
    | ok u =>
      refine ⟨⟨hwithin.length, ?_⟩, fun stop h => by cases h⟩
      show s.count + 1 ≤ old + (done + 1)
      omega
  -- the rest: translated on its own, then merged by its id
  split
  · exact ⟨⟨hlength, Nat.le_succ_of_le hcount⟩, fun stop hstop => by cases hstop; trivial⟩
  · next dev _ =>
    unfold addDeviceNodupSlots
    have hlive : s.live.length ≤ s.count := List.length_take_le _ _
    obtain ⟨herror, hfound⟩ := findSlot_spec dev 0 s.live
    cases hfind : findSlot dev 0 s.live with
    | error stop =>
      refine ⟨⟨hlength, Nat.le_succ_of_le hcount⟩, fun stop' hstop => ?_⟩
      cases hstop
      exact herror stop hfind
    -- replaced at the place where it was found, or put behind the last one
    | ok found =>
      cases found with
      | some i =>
        have hlt := (hfound i hfind).2
        dsimp only
        rw [writeSlot_spec (by omega)]
        exact ⟨⟨List.length_set.trans hlength, Nat.le_succ_of_le hcount⟩,
          fun stop h => by cases h⟩
      | none =>
        -- the bound of the loop grows with the count, and is out of reach
        dsimp only
        rw [if_neg (by omega), Effect.bind_apply, writeSlot_spec (by omega)]
        refine ⟨⟨List.length_set.trans hlength, ?_⟩, fun stop h => by cases h⟩
        show s.count + 1 ≤ old + (done + 1)
        omega

end Within

/-! ### All rounds -/

/-- The number of settings for a type. -/
def countOf (kind : DevKind) (resources : List Instance) : ℕ :=
  resources.countP (isOf kind)

theorem Within.mono {α : Type} {old total done done' : ℕ} {s : Slots α}
    (h : Within old total done s) (hle : done ≤ done') : Within old total done' s :=
  ⟨h.length, Nat.le_trans h.count (Nat.add_le_add_left hle old)⟩

theorem countOf_append_one (kind : DevKind) (done : List Instance) (inst : Instance) :
    countOf kind (done ++ [inst]) = countOf kind done + if isOf kind inst then 1 else 0 := by
  unfold countOf
  rw [List.countP_append, List.countP_singleton]

section Arrays

variable {old : DevKind → ℕ} {total : ℕ} (host : Host) (domtype : DomainType)

/-- The round for a setting stays within all arrays. -/
theorem within_classifyItem {done : List Instance} (inst : Instance) {a : Arrays}
    (h : ∀ kind, Within (old kind) total (countOf kind done) (a kind))
    (hroom : done.length < total) :
    (∀ kind, Within (old kind) total (countOf kind (done ++ [inst]))
        ((classifyItem host domtype total inst a).2 kind)) ∧
      ∀ stop, (classifyItem host domtype total inst a).1 = .error stop → stop.Regular := by
  -- what held before holds with one more setting seen
  have hmore (kind : DevKind) :
      Within (old kind) total (countOf kind (done ++ [inst])) (a kind) := by
    refine (h kind).mono ?_
    rw [countOf_append_one]
    exact Nat.le_add_right _ _
  cases htype : resTypeFromRasdClassname inst with
  | none =>
    rw [classifyItem, htype]
    exact ⟨hmore, fun stop hstop => by cases hstop; trivial⟩
  | some type =>
  cases type with
  | image =>
    rw [classifyItem, htype]
    exact ⟨hmore, fun stop hstop => by cases hstop⟩
  -- a device goes to the array of its kind, and the others stay
  | dev kind' =>
    rw [classifyItem, htype]
    have hkind : countOf kind' done < total :=
      Nat.lt_of_le_of_lt List.countP_le_length hroom
    obtain ⟨hwithin, hstop⟩ := within_classifySlot host domtype inst (h kind') hkind
    refine ⟨fun kind => ?_, hstop⟩
    by_cases hsame : kind = kind'
    · subst hsame
      have hof : isOf kind inst = true := decide_eq_true htype
      rw [countOf_append_one, if_pos hof]
      show Within _ _ _ (Function.update a kind _ kind)
      rw [Function.update_self]
      exact hwithin
    · show Within _ _ _ (Function.update a kind' _ kind)
      rw [Function.update_of_ne hsame]
      exact hmore kind

/-- **All rounds stay within the arrays**, wherever they end. -/
theorem within_classifyItems (rest done : List Instance) {a : Arrays}
    (h : ∀ kind, Within (old kind) total (countOf kind done) (a kind))
    (hroom : done.length + rest.length ≤ total) :
    (∀ kind, Within (old kind) total (countOf kind (done ++ rest))
        ((rest.forM (classifyItem host domtype total) a).2 kind)) ∧
      ∀ stop, (rest.forM (classifyItem host domtype total) a).1 = .error stop →
        stop.Regular := by
  -- the invariant of one setting, carried along the list
  induction rest generalizing done a with
  | nil =>
    rw [List.append_nil]
    exact ⟨h, fun stop hstop => by cases hstop⟩
  | cons inst rest ih =>
    rw [List.length_cons] at hroom
    obtain ⟨hwithin, hstop⟩ := within_classifyItem host domtype inst h (by omega)
    rw [Effect.forM_cons_apply]
    generalize classifyItem host domtype total inst a = r at hwithin hstop ⊢
    obtain ⟨result, b⟩ := r
    rw [List.append_cons]
    cases result with
    -- stopped here: the counts are those of the settings seen so far
    | error stop =>
      refine ⟨fun kind => (hwithin kind).mono ?_, hstop⟩
      exact (List.sublist_append_left (done ++ [inst]) rest).countP_le
    | ok u =>
      refine ih (done ++ [inst]) hwithin ?_
      rw [List.length_append, List.length_singleton]
      omega

end Arrays

/-- The arrays once there is space. -/
def spaced (new : ℕ) {kind : DevKind} (s : Slots kind.Dev) : Slots kind.Dev :=
  { s with slots := s.live ++ List.replicate new { dev := kind.zero } }

/-- The space that is made: the counts stay, and if there is memory each array of the order is
longer. -/
theorem makeSpaces_spec (alloc : DevKind → Bool) (new : ℕ) (order : List (DevKind × String))
    (hnodup : (order.map Prod.fst).Nodup) (a : Arrays) :
    (∀ kind, ((makeSpaces alloc new order a).2 kind).count = (a kind).count) ∧
      (∀ stop, (makeSpaces alloc new order a).1 = .error stop → stop.Regular) ∧
      ((makeSpaces alloc new order a).1 = .ok () → ∀ kind, (makeSpaces alloc new order a).2 kind =
        if kind ∈ order.map Prod.fst then spaced new (a kind) else a kind) := by
  induction order generalizing a with
  | nil =>
    refine ⟨fun kind => rfl, fun stop h => (by cases h), fun _ kind => ?_⟩
    rw [List.map_nil, if_neg List.not_mem_nil]
    rfl
  -- each kind has one array in the order, so that none is extended twice
  | cons entry order ih =>
    obtain ⟨kind', name⟩ := entry
    rw [List.map_cons, List.nodup_cons] at hnodup
    have hcons : makeSpaces alloc new ((kind', name) :: order) a =
        Effect.goOn (fun _ => makeSpaces alloc new order)
          (onKind kind' (makeSpace (alloc kind') name new kind') a) := rfl
    rw [hcons]
    cases halloc : alloc kind' with
    -- realloc fails, with the array and its count left as they were
    | false =>
      have hfirst : onKind kind' (makeSpace false name new kind') a =
          (.error (.failed { msg := "Failed to alloc " ++ name ++ " list" }), a) := by
        unfold onKind makeSpace
        rw [if_neg Bool.false_ne_true, Function.update_eq_self]
      rw [hfirst, Effect.goOn_error]
      exact ⟨fun kind => rfl, fun stop h => (by cases h; trivial), fun h => by cases h⟩
    -- the array gets the new slots behind the old ones
    | true =>
      have hfirst : onKind kind' (makeSpace true name new kind') a =
          (.ok (), Function.update a kind' (spaced new (a kind'))) := by
        unfold onKind makeSpace
        rw [if_pos rfl]
        rfl
      rw [hfirst, Effect.goOn_ok]
      obtain ⟨hcount, hstop, hspaced⟩ :=
        ih hnodup.2 (Function.update a kind' (spaced new (a kind')))
      refine ⟨fun kind => (hcount kind).trans ?_, hstop, fun hok kind => ?_⟩
      -- the counts are not touched by either
      · by_cases hkind : kind = kind'
        · subst hkind
          rw [Function.update_self]
          rfl
        · rw [Function.update_of_ne hkind]
      · refine (hspaced hok kind).trans ?_
        rw [List.map_cons]
        by_cases hkind : kind = kind'
        · subst hkind
          rw [if_neg hnodup.1, if_pos List.mem_cons_self, Function.update_self]
        · rw [Function.update_of_ne hkind]
          simp only [List.mem_cons, hkind, false_or]

theorem mem_spaceOrder (kind : DevKind) : kind ∈ spaceOrder.map Prod.fst := by
  cases kind <;> decide

/-- The arrays of a domain, with space. -/
theorem within_spaced (domain : Domain) (new : ℕ) (kind : DevKind) :
    Within (domain.list kind).length new 0 (spaced new (arraysOf domain kind)) where
  length := by simp [spaced, arraysOf, Slots.live]
  count := Nat.le_refl _

/-- **Sorting stays within the arrays.** No slot beyond an array is written, there are always
slots left, and no list grows by more than the settings for its type. -/
theorem within_classifySlots (host : Host) (domtype : DomainType) (alloc : DevKind → Bool)
    (resources : List Instance) (domain : Domain) :
    (∀ stop, (classifySlots host domtype alloc resources (arraysOf domain)).1 = .error stop →
        stop.Regular) ∧
      ∀ kind, ((classifySlots host domtype alloc resources (arraysOf domain)).2 kind).count ≤
        (domain.list kind).length + countOf kind resources := by
  unfold classifySlots
  -- an empty list of settings is an error of its own
  split
  · exact ⟨fun stop h => (by cases h; trivial), fun kind => Nat.le_add_right _ _⟩
  · rw [Effect.bind_apply]
    obtain ⟨hcount, hstop, hspaced⟩ :=
      makeSpaces_spec alloc resources.length spaceOrder (by decide) (arraysOf domain)
    generalize makeSpaces alloc resources.length spaceOrder (arraysOf domain) = r
      at hcount hstop hspaced ⊢
    obtain ⟨result, a⟩ := r
    -- some realloc has failed, and no device was added
    cases result with
    | error stop =>
      refine ⟨hstop, fun kind => ?_⟩
      exact (Nat.le_of_eq (hcount kind)).trans (Nat.le_add_right _ _)
    | ok u =>
      -- at first each array holds what the domain had, and room for every setting
      have hwithin (kind : DevKind) :
          Within (domain.list kind).length resources.length (countOf kind []) (a kind) := by
        rw [show a kind = spaced resources.length (arraysOf domain kind) from
          (hspaced rfl kind).trans (if_pos (mem_spaceOrder kind))]
        exact within_spaced domain resources.length kind
      obtain ⟨hall, hnone⟩ := within_classifyItems host domtype resources [] hwithin (by simp)
      exact ⟨hnone, fun kind => (hall kind).count⟩

/-! ### The lists behind the arrays -/

section Shows

variable {kind : DevKind} {host : Host} {domtype : DomainType} {total : ℕ} {inst : Instance}
  {s : Slots kind.Dev} {list : List (VirtDevice kind.Dev)} {dev : VirtDevice kind.Dev}

/-- An array shows a list: its devices that count are those of the list, and what is set up next
is the device at the front, where there is one of the type, or a cleared slot. -/
structure Shows (s : Slots kind.Dev) (list : List (VirtDevice kind.Dev)) : Prop where
  live : s.live = list
  count : s.count ≤ s.slots.length
  first : isSingle kind = true → s.slots[0]? = some (list.head?.getD { dev := kind.zero })
  rest : isSingle kind = false → ∀ slot ∈ s.slots.drop s.count, slot = { dev := kind.zero }

theorem Shows.length (h : Shows s list) : list.length = s.count := by
  rw [← h.live]
  exact List.length_take_of_le h.count

theorem shows_spaced {new : ℕ} (hnew : 0 < new) (list : List (VirtDevice kind.Dev)) :
    Shows (spaced new { slots := list, count := list.length }) list where
  live := by simp [spaced, Slots.live]
  count := by simp [spaced, Slots.live]
  -- the first slot is the first device, or an empty one when there is none
  first _ := by
    cases list with
    | nil =>
      obtain ⟨n, rfl⟩ := Nat.exists_eq_succ_of_ne_zero (Nat.ne_of_gt hnew)
      rfl
    | cons dev list => rfl
  rest _ slot hslot := by
    have hdrop : (spaced new { slots := list, count := list.length }).slots.drop list.length =
        List.replicate new ({ dev := kind.zero } : VirtDevice kind.Dev) := by
      simp [spaced, Slots.live]
    rw [show (spaced new { slots := list, count := list.length } : Slots kind.Dev).count =
      list.length from rfl, hdrop] at hslot
    exact List.eq_of_mem_replicate hslot

/-- A slot that counts is set. -/
theorem live_set (s : Slots kind.Dev) (i : ℕ) (dev : VirtDevice kind.Dev) :
    ({ s with slots := s.slots.set i dev } : Slots kind.Dev).live = s.live.set i dev :=
  List.take_set

/-- The next slot is set, and counts. -/
theorem live_set_succ (hlt : s.count < s.slots.length) (dev : VirtDevice kind.Dev) :
    ({ slots := s.slots.set s.count dev, count := s.count + 1 } : Slots kind.Dev).live =
      s.live ++ [dev] := by
  have hlength : s.count < (s.slots.set s.count dev).length := by
    rw [List.length_set]
    exact hlt
  show (s.slots.set s.count dev).take (s.count + 1) = s.slots.take s.count ++ [dev]
  rw [List.take_succ_eq_append_getElem hlength, List.getElem_set_self, List.take_set_of_le]
  exact Nat.le_refl _

/-- The next slot is set: the rest is cleared. -/
theorem Shows.append (h : Shows s list) (hsingle : isSingle kind = false)
    (hlt : s.count < s.slots.length) (dev : VirtDevice kind.Dev) :
    Shows { slots := s.slots.set s.count dev, count := s.count + 1 } (list ++ [dev]) where
  live := by rw [live_set_succ hlt, h.live]
  count := by
    rw [List.length_set]
    exact hlt
  first hone := by
    rw [hsingle] at hone
    cases hone
  rest _ slot hslot := by
    have hdrop : (s.slots.set s.count dev).drop (s.count + 1) = s.slots.drop (s.count + 1) :=
      List.drop_set_of_lt (Nat.lt_succ_self _)
    rw [hdrop, ← List.drop_drop] at hslot
    exact h.rest hsingle slot (List.mem_of_mem_drop hslot)

/-- What was found in the array is what is replaced in the list, or there is nothing. -/
theorem addDeviceNodup_of_findSlot {i : ℕ} {found : Option ℕ}
    (h : findSlot dev i list = .ok found) :
    addDeviceNodup dev list = .ok (found.elim (list ++ [dev]) fun j => list.set (j - i) dev) := by
  -- along the list: the merge of lists stops where the search of slots does
  induction list generalizing i with
  | nil =>
    cases h
    rfl
  | cons ptr rest ih =>
    rw [findSlot] at h
    rw [addDeviceNodup]
    split_ifs at h with htargets htarget hids hid
    · cases h
      rw [if_neg htarget, if_pos hid]
      simp
    -- not here, so both go on with the rest
    · rw [if_neg htarget, if_neg hid, ih h]
      cases hfound : found with
      | none => rfl
      -- the place is counted from where the search began
      | some j =>
        have hle : i + 1 ≤ j := by
          rw [hfound] at h
          exact ((findSlot_spec dev (i + 1) rest).2 j h).1
        obtain ⟨n, rfl⟩ := Nat.exists_eq_add_of_le hle
        have hsub : i + 1 + n - i = n + 1 := by omega
        have hsub' : i + 1 + n - (i + 1) = n := by omega
        rw [Option.elim_some, Option.elim_some, hsub, hsub', List.set_cons_succ]
        rfl

/-- A device that was written to a slot. -/
theorem translateSlot_ok {i : ℕ} (h : (translateSlot host domtype inst i s).1 = .ok ()) :
    ∃ base dev, s.slots[i]? = some base ∧ rasdToVdev host domtype inst kind base = .ok dev ∧
      i < s.slots.length ∧
      translateSlot host domtype inst i s = (.ok (), { s with slots := s.slots.set i dev }) := by
  unfold translateSlot at h ⊢
  cases hget : s.slots[i]? with
  | none =>
    -- the slot is read, translated and written back
    rw [hget] at h
    cases h
  | some base =>
    rw [hget] at h
    dsimp only at h ⊢
    cases hdev : rasdToVdev host domtype inst kind base with
    | error e =>
      rw [hdev] at h
      cases h
    | ok dev =>
      -- the slot was there to be read, so it can be written
      have hlt := (List.getElem?_eq_some_iff.mp hget).1
      exact ⟨base, dev, rfl, hdev, hlt, writeSlot_spec hlt⟩

/-- The only device of a type is set up again, from what it was. -/
theorem shows_translateFirst (h : Shows s list) (hsingle : isSingle kind = true)
    (hok : (translateSlot host domtype inst 0 { s with count := 1 }).1 = .ok ()) :
    ∃ dev, rasdToVdev host domtype inst kind (list.head?.getD { dev := kind.zero }) = .ok dev ∧
      Shows (translateSlot host domtype inst 0 { s with count := 1 }).2 [dev] := by
  obtain ⟨base, dev, hbase, hdev, hlt, heq⟩ := translateSlot_ok hok
  rw [h.first hsingle] at hbase
  obtain rfl := Option.some.inj hbase
  rw [heq]
  -- one slot is live, and it is the one that was written
  refine ⟨dev, hdev, ?_, ?_, fun _ => ?_, fun hnot => ?_⟩
  · rw [live_set]
    show (s.slots.take 1).set 0 dev = [dev]
    cases hslots : s.slots with
    | nil =>
      rw [hslots] at hlt
      exact absurd hlt (Nat.lt_irrefl 0)
    | cons slot slots => rfl
  · show 1 ≤ (s.slots.set 0 dev).length
    rw [List.length_set]
    exact hlt
  · exact List.getElem?_set_self hlt
  · rw [hsingle] at hnot
    cases hnot

/-- A device is set up behind those that count, in a slot that is cleared. -/
theorem shows_translateNext (h : Shows s list) (hsingle : isSingle kind = false)
    (hok : (translateSlot host domtype inst s.count s).1 = .ok ()) :
    ∃ dev, rasdToVdev host domtype inst kind { dev := kind.zero } = .ok dev ∧
      s.count < s.slots.length ∧ translateSlot host domtype inst s.count s =
        (.ok (), { s with slots := s.slots.set s.count dev }) := by
  obtain ⟨base, dev, hbase, hdev, hlt, heq⟩ := translateSlot_ok hok
  have hcleared : base = { dev := kind.zero } := by
    refine h.rest hsingle base (List.mem_of_getElem? (i := 0) ?_)
    rw [List.getElem?_drop]
    exact hbase
  rw [hcleared] at hdev
  exact ⟨dev, hdev, hlt, heq⟩

/-- A device takes the place of another in the array as in the list. -/
theorem Shows.set (h : Shows s list) (hsingle : isSingle kind = false) {i : ℕ} (hi : i < s.count)
    (dev : VirtDevice kind.Dev) :
    Shows { s with slots := s.slots.set i dev } (list.set i dev) where
  live := by rw [live_set, h.live]
  count := by
    rw [List.length_set]
    exact h.count
  first hone := by
    rw [hsingle] at hone
    cases hone
  rest _ slot hslot := by
    have hdrop : (s.slots.set i dev).drop s.count = s.slots.drop s.count :=
      List.drop_set_of_lt hi
    exact h.rest hsingle slot (hdrop ▸ hslot)

/-- **`add_device_nodup` on the array is that on the list.** -/
theorem shows_addDeviceNodup (h : Shows s list) (hsingle : isSingle kind = false) {max : ℕ}
    (hok : (addDeviceNodupSlots dev max s).1 = .ok ()) :
    ∃ list', addDeviceNodup dev list = .ok list' ∧
      Shows (addDeviceNodupSlots dev max s).2 list' := by
  cases hfind : findSlot dev 0 list with
  | error stop =>
    rw [addDeviceNodupSlots, h.live, hfind] at hok
    cases hok
  | ok found =>
    refine ⟨_, addDeviceNodup_of_findSlot hfind, ?_⟩
    cases found with
    | some i =>
      -- a slot that counts is written again
      have hi := ((findSlot_spec dev 0 list).2 i hfind).2
      have hcount := h.count
      rw [h.length] at hi
      have hrun : addDeviceNodupSlots dev max s = writeSlot i dev s := by
        rw [addDeviceNodupSlots, h.live, hfind]
      rw [hrun, writeSlot_spec (by omega)]
      exact h.set hsingle (by omega) dev
    | none =>
      -- the next slot is written, and counts
      have hrun : addDeviceNodupSlots dev max s =
          if s.count = max then (.error .noSlots, s)
          else (do
            writeSlot s.count dev
            setCount (s.count + 1)) s := by
        rw [addDeviceNodupSlots, h.live, hfind]
      rw [hrun] at hok ⊢
      by_cases hfull : s.count = max
      · rw [if_pos hfull] at hok
        cases hok
      rw [if_neg hfull] at hok ⊢
      have hlt : s.count < s.slots.length := by
        by_contra hnot
        rw [Effect.bind_apply, writeSlot, if_neg hnot] at hok
        cases hok
      rw [Effect.bind_apply, writeSlot_spec hlt]
      exact h.append hsingle hlt dev

/-- The round on the list for the only device of a type. -/
theorem classifyResource_single {domain : Domain} (hsingle : isSingle kind = true)
    (hdev : rasdToVdev host domain.type inst kind
      ((domain.list kind).head?.getD { dev := kind.zero }) = .ok dev) :
    classifyResource host domain inst kind = .ok (domain.setList kind [dev]) := by
  unfold classifyResource
  dsimp only
  rw [if_pos hsingle, hdev]
  rfl

/-- The round on the list for one device of several. -/
theorem classifyResource_several {domain : Domain} (hsingle : isSingle kind = false)
    {list' : List (VirtDevice kind.Dev)}
    (hdev : rasdToVdev host domain.type inst kind { dev := kind.zero } = .ok dev)
    (hadd : addDevice dev (domain.list kind) = .ok list') :
    classifyResource host domain inst kind = .ok (domain.setList kind list') := by
  unfold classifyResource
  dsimp only
  rw [if_neg (by rw [hsingle]; exact Bool.false_ne_true), hdev]
  show (do
    let list ← addDevice dev (domain.list kind)
    .ok (domain.setList kind list)) = _
  rw [hadd]
  rfl

/-- **A round on the array is the round on the list.** -/
theorem shows_classifySlot (h : Shows s list)
    (hok : (classifySlot host domtype total inst s).1 = .ok ()) :
    ∃ list', Shows (classifySlot host domtype total inst s).2 list' ∧
      ∀ domain : Domain, domain.type = domtype → domain.list kind = list →
        classifyResource host domain inst kind = .ok (domain.setList kind list') := by
  unfold classifySlot at hok ⊢
  cases hsingle : isSingle kind with
  -- the kinds with one device translate it over the first slot
  | true =>
    rw [hsingle, if_pos rfl] at hok
    rw [if_pos rfl]
    have hrun : (do setCount 1; translateSlot host domtype inst 0) s =
        translateSlot host domtype inst 0 { s with count := 1 } := rfl
    rw [hrun] at hok ⊢
    obtain ⟨dev, hdev, hshows⟩ := shows_translateFirst h hsingle hok
    -- as the list's own round does, over the device that is there or an empty one
    refine ⟨[dev], hshows, fun domain htype hlist => ?_⟩
    subst htype hlist
    exact classifyResource_single hsingle hdev
  | false =>
    rw [hsingle, if_neg Bool.false_ne_true] at hok
    rw [if_neg Bool.false_ne_true]
    by_cases hconsole : kind = .console
    · -- a console is added without a look at the others
      rw [if_pos hconsole] at hok ⊢
      rw [Effect.bind_apply] at hok ⊢
      -- counted only after the translation has succeeded
      have hfirst : (translateSlot host domtype inst s.count s).1 = .ok () := by
        generalize translateSlot host domtype inst s.count s = r at hok
        obtain ⟨result, t⟩ := r
        cases result with
        | error stop => cases hok
        | ok u => rfl
      obtain ⟨dev, hdev, hlt, heq⟩ := shows_translateNext h hsingle hfirst
      rw [heq]
      refine ⟨list ++ [dev], h.append hsingle hlt dev, fun domain htype hlist => ?_⟩
      subst htype hlist
      exact classifyResource_several hsingle hdev (if_pos hconsole)
    -- the other kinds go through the search for the same id
    · rw [if_neg hconsole] at hok ⊢
      cases hdev : rasdToVdev host domtype inst kind { dev := kind.zero } with
      | error e =>
        rw [hdev] at hok
        cases hok
      | ok dev =>
        rw [hdev] at hok
        obtain ⟨list', hadd, hshows⟩ := shows_addDeviceNodup h hsingle hok
        refine ⟨list', hshows, fun domain htype hlist => ?_⟩
        subst htype hlist
        exact classifyResource_several hsingle hdev ((if_neg hconsole).trans hadd)

end Shows

/-- The arrays show the lists of a domain of a type. -/
def ShowsAll (domtype : DomainType) (a : Arrays) (domain : Domain) : Prop :=
  domain.type = domtype ∧ ∀ kind, Shows (a kind) (domain.list kind)

section Lists

variable {host : Host} {domtype : DomainType} {total : ℕ}

/-- The step of `classify_resources` for a setting, on the lists. -/
def classifyStep (host : Host) (domain : Domain) (inst : Instance) : Except RasdError Domain :=
  match resTypeFromRasdClassname inst with
  | none => .error ("Unable to determine resource type" : String)
  | some .image => .ok domain
  | some (.dev kind) => classifyResource host domain inst kind

theorem showsAll_classifyItem {inst : Instance} {a : Arrays} {domain : Domain}
    (h : ShowsAll domtype a domain) (hok : (classifyItem host domtype total inst a).1 = .ok ()) :
    ∃ domain', classifyStep host domain inst = .ok domain' ∧
      ShowsAll domtype (classifyItem host domtype total inst a).2 domain' := by
  obtain ⟨htype, hshows⟩ := h
  -- by the type of the setting, as classify_resources tells them apart
  cases hres : resTypeFromRasdClassname inst with
  | none =>
    rw [classifyItem, hres] at hok
    cases hok
  | some type =>
  cases type with
  | image =>
    rw [classifyStep, classifyItem, hres]
    exact ⟨domain, rfl, htype, hshows⟩
  -- only the kind of the device has changed
  | dev kind =>
    rw [classifyItem, hres] at hok
    rw [classifyStep, classifyItem, hres]
    obtain ⟨list', hlist', hround⟩ := shows_classifySlot (hshows kind) hok
    refine ⟨domain.setList kind list', hround domain htype rfl, ?_, fun kind' => ?_⟩
    · rw [Domain.type_setList]
      exact htype
    · show Shows (Function.update a kind _ kind') _
      by_cases hsame : kind' = kind
      · subst hsame
        rw [Function.update_self, Domain.list_setList]
        exact hlist'
      · rw [Function.update_of_ne hsame, Domain.list_setList_of_ne domain hsame]
        exact hshows kind'

theorem showsAll_classifyItems (rest : List Instance) {a : Arrays} {domain : Domain}
    (h : ShowsAll domtype a domain)
    (hok : (rest.forM (classifyItem host domtype total) a).1 = .ok ()) :
    ∃ domain', rest.foldlM (classifyStep host) domain = .ok domain' ∧
      ShowsAll domtype (rest.forM (classifyItem host domtype total) a).2 domain' := by
  -- one setting after the other, each from what the one before has left
  induction rest generalizing a domain with
  | nil => exact ⟨domain, rfl, h⟩
  | cons inst rest ih =>
    rw [Effect.forM_cons_apply] at hok ⊢
    have hfirst (hok : (classifyItem host domtype total inst a).1 = .ok ()) :=
      showsAll_classifyItem h hok
    generalize classifyItem host domtype total inst a = r at hok hfirst ⊢
    obtain ⟨result, b⟩ := r
    cases result with
    | error stop => cases hok
    | ok u =>
      obtain ⟨next, hnext, hshows⟩ := hfirst rfl
      rw [Effect.goOn_ok] at hok ⊢
      obtain ⟨domain', hfold, hend⟩ := ih hshows hok
      refine ⟨domain', ?_, hend⟩
      rw [List.foldlM_cons, hnext]
      exact hfold

/-- **What counts of the arrays are the lists**, when sorting succeeds. -/
theorem classifyResources_of_classifySlots {alloc : DevKind → Bool} {resources : List Instance}
    {domain : Domain}
    (hok : (classifySlots host domain.type alloc resources (arraysOf domain)).1 = .ok ()) :
    ∃ domain', classifyResources host resources domain = .ok domain' ∧ ∀ kind,
      ((classifySlots host domain.type alloc resources (arraysOf domain)).2 kind).live =
        domain'.list kind := by
  unfold classifySlots at hok ⊢
  split at hok
  · cases hok
  -- the arrays were extended, so that they show the lists of the domain
  · next hne =>
    rw [if_neg hne]
    rw [Effect.bind_apply] at hok ⊢
    obtain ⟨-, -, hspaced⟩ :=
      makeSpaces_spec alloc resources.length spaceOrder (by decide) (arraysOf domain)
    generalize makeSpaces alloc resources.length spaceOrder (arraysOf domain) = r
      at hok hspaced ⊢
    obtain ⟨result, a⟩ := r
    cases result with
    | error stop => cases hok
    | ok u =>
      -- the new slots are behind the count, so they are not seen
      have hshows : ShowsAll domain.type a domain := by
        refine ⟨rfl, fun kind => ?_⟩
        rw [show a kind = spaced resources.length (arraysOf domain kind) from
          (hspaced rfl kind).trans (if_pos (mem_spaceOrder kind))]
        exact shows_spaced (List.length_pos_iff.mpr hne) _
      obtain ⟨domain', hfold, hend⟩ := showsAll_classifyItems resources hshows hok
      refine ⟨domain', ?_, fun kind => (hend.2 kind).live⟩
      unfold classifyResources
      rw [if_neg hne]
      exact hfold

end Lists

/-! ### Sorting the settings -/

/-- The settings that the lists represent: no two devices of a list have one id, no setting is
listed twice, and each is listed. -/
structure AllListed (host : Host) (resources : List Instance) (domain : Domain) (a : Arrays) :
    Prop where
  distinct : ∀ kind, hasIds kind = true → DistinctDevices (a kind).live
  listed : ∃ numbered : (kind : DevKind) → Numbered kind.Dev,
    (∀ kind, (numbered kind).map Prod.snd = (a kind).live ∧
      Numbering host domain.type kind (domain.list kind) resources (numbered kind)) ∧
    ∀ i < resources.length, ∃ kind dev, (some i, dev) ∈ numbered kind

/-- The settings that have a place of their own: the domain has no two devices with one id, none of
the settings is for a volume of a pool, and none takes the place of another. -/
structure Placed (host : Host) (resources : List Instance) (domain : Domain) : Prop where
  distinct : ∀ kind, hasIds kind = true → DistinctDevices (domain.list kind)
  device : ∀ inst ∈ resources, resTypeFromRasdClassname inst ≠ some .image
  own : ∀ kind i inst, resources[i]? = some inst → isOf kind inst = true →
    ¬ Superseded host domain.type kind resources i

section Placed

variable {host : Host} {resources : List Instance} {domain : Domain}

/-- A setting for a type of which there are several devices has one device. -/
theorem Translates.unique {domtype : DomainType} {kind : DevKind} (hsingle : isSingle kind = false)
    {done : List Instance} {i : ℕ} {dev dev' : VirtDevice kind.Dev}
    (h : Translates host domtype kind done i dev) (h' : Translates host domtype kind done i dev') :
    dev = dev' := by
  obtain ⟨inst, base, hget, -, hbase, hdev⟩ := h
  obtain ⟨inst', base', hget', -, hbase', hdev'⟩ := h'
  obtain rfl := Option.some.inj (hget.symm.trans hget')
  rw [hbase hsingle] at hdev
  rw [hbase' hsingle] at hdev'
  exact Except.ok.inj (hdev.symm.trans hdev')

/-- A setting is represented in the list of its type. -/
theorem mem_of_listed {numbered : (kind : DevKind) → Numbered kind.Dev}
    (hnumbering : ∀ kind,
      Numbering host domain.type kind (domain.list kind) resources (numbered kind))
    (hlisted : ∀ i < resources.length, ∃ kind dev, (some i, dev) ∈ numbered kind)
    {kind : DevKind} {i : ℕ} {inst : Instance} (hget : resources[i]? = some inst)
    (hof : isOf kind inst = true) : ∃ dev, (some i, dev) ∈ numbered kind := by
  obtain ⟨kind', dev, hmem⟩ := hlisted i (lt_of_getElem? hget)
  obtain ⟨inst', -, hget', hof', -⟩ := (hnumbering kind').translated i dev hmem
  obtain rfl := Option.some.inj (hget.symm.trans hget')
  have htypes := (of_decide_eq_true hof).symm.trans (of_decide_eq_true hof')
  obtain rfl : kind = kind' := RasdType.dev.inj (Option.some.inj htypes)
  exact ⟨dev, hmem⟩

/-- Two settings that are both listed do not supersede each other: a type with one device has one
entry, and entries of one list have different ids. -/
theorem AllListed.not_superseded {a : Arrays} (h : AllListed host resources domain a)
    (hsingle : ∀ kind, isSingle kind = true → (∃ inst ∈ resources, isOf kind inst) →
      (a kind).live.length = 1) {kind : DevKind} {i : ℕ} {inst : Instance}
    (hget : resources[i]? = some inst) (hof : isOf kind inst = true) :
    ¬ Superseded host domain.type kind resources i := by
  rintro ⟨j, hij, ⟨inst', hget', hof'⟩, hwhy⟩
  -- both settings have a device of their own in the list
  obtain ⟨numbered, hnumbered, hlisted⟩ := h.listed
  have hnumbering := fun kind => (hnumbered kind).2
  obtain ⟨dev, hdev⟩ := mem_of_listed hnumbering hlisted hget hof
  obtain ⟨dev', hdev'⟩ := mem_of_listed hnumbering hlisted hget' hof'
  have hne : ((some i, dev) : Option ℕ × VirtDevice kind.Dev) ≠ (some j, dev') :=
    fun heq => Nat.ne_of_lt hij (Option.some.inj (Prod.mk.inj heq).1)
  have hlive := (hnumbered kind).1
  -- a list with one device cannot hold both
  cases hone : isSingle kind with
  | true =>
    have hlength := hsingle kind hone ⟨inst, List.mem_of_getElem? hget, hof⟩
    rw [← hlive, List.length_map] at hlength
    obtain ⟨entry, hentry⟩ := List.length_eq_one_iff.mp hlength
    rw [hentry, List.mem_singleton] at hdev hdev'
    exact hne (hdev.trans hdev'.symm)
  -- with one id for both, the ids of the list would not be distinct
  | false =>
    obtain ⟨hdisk, hconsole, dev₁, dev₂, htrans₁, htrans₂, hid⟩ :=
      hwhy.resolve_left (by rw [hone]; exact Bool.false_ne_true)
    have hids : hasIds kind = true := by simp [hasIds, hone, hconsole]
    have hpair := h.distinct kind hids
    rw [← hlive, DistinctDevices, List.pairwise_map] at hpair
    have : Std.Symm fun x y : Option ℕ × VirtDevice kind.Dev => sameId x.2.id y.2.id = false :=
      ⟨fun x y hxy => Bool.eq_false_iff.mpr fun hyx => Bool.eq_false_iff.mp hxy (sameId_symm hyx)⟩
    -- what each of the two is listed as is what it translates to
    have hapart := hpair.forall hdev hdev' hne
    have h₁ := ((hnumbering kind).translated i dev hdev).unique hone htrans₁
    have h₂ := ((hnumbering kind).translated j dev' hdev').unique hone htrans₂
    rw [← h₁, ← h₂] at hid
    rw [hid] at hapart
    cases hapart

end Placed

/-- **Sorting the settings of a new system.** For every domain and every array of settings, no
device is written beyond the array for its type, there are always slots left, and no list grows
by more than the settings for its type. If sorting succeeds, the ids are apart and each setting is
listed, once, exactly when the ids of the domain were apart, no setting is for a volume of a pool,
and none takes the place of another: `add_device_nodup` overwrites a device with the same id
whether it was there before or comes from the array, and a domain has one processor, memory and
input device. -/
theorem classified_iff (host : Host) (alloc : DevKind → Bool) (resources : List Instance)
    (domain : Domain) :
    (∀ stop, (classifySlots host domain.type alloc resources (arraysOf domain)).1 = .error stop →
        stop.Regular) ∧
      (∀ kind, ((classifySlots host domain.type alloc resources (arraysOf domain)).2 kind).count ≤
        (domain.list kind).length + countOf kind resources) ∧
      ((classifySlots host domain.type alloc resources (arraysOf domain)).1 = .ok () →
        (AllListed host resources domain
            (classifySlots host domain.type alloc resources (arraysOf domain)).2 ↔
          Placed host resources domain)) := by
  -- the counts and the kinds of stop are those of every run
  obtain ⟨hregular, hcount⟩ := within_classifySlots host domain.type alloc resources domain
  refine ⟨hregular, hcount, fun hok => ?_⟩
  -- when it succeeds, the arrays show the lists that classify_resources makes
  obtain ⟨domain', hclassified, hlive⟩ := classifyResources_of_classifySlots hok
  have hsorted (kind : DevKind) : Sorted host kind domain resources domain' :=
    sorted_classifyResources hclassified
  constructor
  · intro h
    refine ⟨fun kind hids => ?_, fun inst hinst himage => ?_, fun kind i inst hget hof => ?_⟩
    · have hdistinct := h.distinct kind hids
      rw [hlive] at hdistinct
      -- the ids of the result are distinct when those of the start are
      exact ((hsorted kind).distinct hids).mp hdistinct
    · -- a volume of a pool is in no list
      obtain ⟨numbered, hnumbered, hlisted⟩ := h.listed
      obtain ⟨i, hi, hget⟩ := List.mem_iff_getElem.mp hinst
      obtain ⟨kind, dev, hmem⟩ := hlisted i hi
      obtain ⟨inst', -, hget', hof, -⟩ := (hnumbered kind).2.translated i dev hmem
      rw [List.getElem?_eq_getElem hi, hget] at hget'
      obtain rfl := Option.some.inj hget'
      have htype := of_decide_eq_true hof
      rw [himage] at htype
      cases htype
    · refine h.not_superseded (fun kind hsingle hmet => ?_) hget hof
      rw [hlive]
      exact (hsorted kind).single hsingle hmet
  -- and back: what the lists number, the arrays hold
  · rintro ⟨hdistinct, hdevice, hown⟩
    choose numbered hnumbered hlisting using fun kind => (hsorted kind).listing
    refine ⟨fun kind hids => ?_, numbered, fun kind => ⟨?_, (hlisting kind).toNumbering⟩, ?_⟩
    · rw [hlive]
      exact ((hsorted kind).distinct hids).mpr (hdistinct kind hids)
    · rw [hlive]
      exact hnumbered kind
    · intro i hi
      have hget := List.getElem?_eq_getElem hi
      have hmem := List.getElem_mem hi
      cases htype : resTypeFromRasdClassname resources[i] with
      | none => exact absurd htype ((hsorted .disk).typed _ hmem)
      | some type =>
        cases type with
        | image => exact absurd htype (hdevice _ hmem)
        -- each device is there, or a later one has taken its place
        | dev kind =>
          have hof : isOf kind resources[i] = true := decide_eq_true htype
          obtain ⟨dev, hdev⟩ :=
            ((hlisting kind).listed i _ hget hof).resolve_right (hown kind i _ hget hof)
          exact ⟨kind, dev, hdev⟩

/-! ### Settings without a place -/

/-- Settings for two input devices. -/
def twoInputs : List Instance :=
  ["mouse", "tablet"].map fun type =>
    { pfx := "KVM", base := "InputResourceAllocationSettingData"
      props := [("ResourceSubType", .string type)] }

/-- A setting for a volume of a pool. -/
def volume : List Instance :=
  [{ pfx := "KVM", base := "StorageVolumeResourceAllocationSettingData", props := [] }]

/-- Sorting the settings lists them all, once it succeeds. -/
def ListsAll (resources : List Instance) : Prop :=
  ∀ (host : Host) (alloc : DevKind → Bool) (domain : Domain),
    (classifySlots host domain.type alloc resources (arraysOf domain)).1 = .ok () →
      AllListed host resources domain
        (classifySlots host domain.type alloc resources (arraysOf domain)).2

/-- A domain has one input device, and the second of two settings takes the place of the first. A
setting for a volume of a pool is accepted and listed nowhere. -/
theorem not_allListed : ¬ ListsAll twoInputs ∧ ¬ ListsAll volume := by
  let host : Host :=
    { diskTypeFromFile := fun _ => .unknown, netRandMac := none, defaultNetwork := none }
  let sorted (resources : List Instance) :=
    classifySlots host .kvm (fun _ => true) resources (arraysOf { type := .kvm })
  refine ⟨fun hall => ?_, fun hall => ?_⟩
  -- two inputs make one device
  · have hok : (sorted twoInputs).1 = .ok () := by decide +kernel
    have hone : ((sorted twoInputs).2 .input).live.length = 1 := by decide +kernel
    obtain ⟨numbered, hnumbered, hlisted⟩ :=
      (hall host (fun _ => true) { type := .kvm } hok).listed
    obtain ⟨mouse, hmouse⟩ := @mem_of_listed _ _ _ _ (fun kind => (hnumbered kind).2) hlisted
      .input 0 _ rfl (by decide +kernel)
    obtain ⟨tablet, htablet⟩ := @mem_of_listed _ _ _ _ (fun kind => (hnumbered kind).2) hlisted
      .input 1 _ rfl (by decide +kernel)
    rw [← (hnumbered .input).1, List.length_map] at hone
    obtain ⟨entry, hentry⟩ := List.length_eq_one_iff.mp hone
    rw [hentry, List.mem_singleton] at hmouse htablet
    -- the one device has the numbers of both
    exact Nat.zero_ne_one (Option.some.inj (Prod.mk.inj (hmouse.trans htablet.symm)).1)
  -- a volume makes none
  · have hok : (sorted volume).1 = .ok () := by decide +kernel
    obtain ⟨numbered, hnumbered, hlisted⟩ :=
      (hall host (fun _ => true) { type := .kvm } hok).listed
    obtain ⟨kind, dev, hmem⟩ := hlisted 0 Nat.one_pos
    obtain ⟨inst, -, hget, hof, -⟩ := (hnumbered kind).2.translated 0 dev hmem
    obtain rfl := Option.some.inj hget
    revert hof
    cases kind <;> decide +kernel

end LibvirtCim.Service
