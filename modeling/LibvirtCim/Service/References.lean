import LibvirtCim.Service.DevicesKept

/-!
# References to settings

`rasd_refs_to_insts` makes an array of settings from an array of references to them, for
`RemoveResourceSettings`. Its status is set anew for each reference, so that the last one decides.

* `refsLoop_snd` — the array has a slot for each reference;
* `status_of_last` — the status is that of the last reference;
* `resolves_iff` — when the references are resolved as asked.
-/

open Framework LibvirtCim.Device LibvirtCim.Rasd

namespace LibvirtCim.Service

variable {Live : Type} {items : List (Item Live)} {item : Item Live}

/-! ### One reference -/

/-- A reference has an id and a type, and this is what becomes of looking for its setting. -/
def Sought (item : Item Live) (result : Except Failure Instance) : Prop :=
  ∃ id type, item.rasd.getStr "InstanceID" = some id ∧
    resTypeFromRasdClassname item.rasd = some type ∧ getRasdByName item.env id type = result

/-- A reference resolves to a setting. -/
def Resolves (item : Item Live) : Prop := ∃ inst, Sought item (.ok inst)

theorem rasdRefToInst_ok_iff {inst : Instance} :
    rasdRefToInst item.env item.rasd = .ok (some inst) ↔ Sought item (.ok inst) := by
  unfold rasdRefToInst Sought
  -- the id and the class name are read first; both directions end there when one is missing
  cases item.rasd.getStr "InstanceID" with
  | none => exact iff_of_false (fun h => nomatch h) fun ⟨_, _, h, _⟩ => nomatch h
  | some id =>
  cases resTypeFromRasdClassname item.rasd with
  | none => exact iff_of_false (fun h => nomatch h) fun ⟨_, _, _, h, _⟩ => nomatch h
  | some type =>
  dsimp only
  -- the setting read by name, whatever it is, is the answer
  refine ⟨fun h => ⟨id, type, rfl, rfl, ?_⟩, fun ⟨_, _, hid, htype, h⟩ => ?_⟩
  · obtain ⟨inst', hinst, hsome⟩ := map_eq_ok h
    cases hsome
    exact hinst
  · cases hid
    cases htype
    rw [h]
    rfl

theorem rasdRefToInst_error_iff {e : Failure} :
    rasdRefToInst item.env item.rasd = .error e ↔ Sought item (.error e) := by
  unfold rasdRefToInst Sought
  -- a missing id or class name is a status of its own
  cases item.rasd.getStr "InstanceID" with
  | none => exact iff_of_false (fun h => nomatch h) fun ⟨_, _, h, _⟩ => nomatch h
  | some id =>
  cases resTypeFromRasdClassname item.rasd with
  | none => exact iff_of_false (fun h => nomatch h) fun ⟨_, _, _, h, _⟩ => nomatch h
  | some type =>
  dsimp only
  refine ⟨fun h => ⟨id, type, rfl, rfl, ?_⟩, fun ⟨_, _, hid, htype, h⟩ => ?_⟩
  -- a failed read is passed on as it is
  · cases hread : getRasdByName item.env id type with
    | ok inst =>
      rw [hread] at h
      cases h
    | error e' =>
      rw [hread] at h
      cases h
      rfl
  · cases hid
    cases htype
    rw [h]
    rfl

/-! ### The loop -/

/-- The setting in the slot of a reference. -/
def slotOf (item : Item Live) : Option Instance :=
  (rasdRefToInst item.env item.rasd).toOption.join

/-- The status a reference leaves. -/
def statusOf (item : Item Live) : Except Failure Unit :=
  (rasdRefToInst item.env item.rasd).map fun _ => ()

/-- None of the references ends the process. -/
def Bearable (items : List (Item Live)) : Prop := ∀ item ∈ items, ¬ Sought item (.error .crash)

theorem refsLoop_cons (h : ¬ Sought item (.error .crash)) (rest : List (Item Live))
    (st : Except Failure Unit × List (Option Instance)) :
    refsLoop (item :: rest) st = refsLoop rest (statusOf item, st.2 ++ [slotOf item]) := by
  rw [← rasdRefToInst_error_iff] at h
  rw [refsLoop, statusOf, slotOf]
  cases hitem : rasdRefToInst item.env item.rasd with
  | ok inst => rfl
  | error e =>
    cases e with
    | crash => exact absurd hitem h
    | status rc msg => rfl

/-- The array has a slot for each reference. -/
theorem refsLoop_snd (h : Bearable items) (st : Except Failure Unit × List (Option Instance)) :
    (refsLoop items st).2 = st.2 ++ items.map slotOf := by
  induction items generalizing st with
  | nil => exact (List.append_nil _).symm
  | cons item rest ih =>
    rw [Bearable, List.forall_mem_cons] at h
    rw [refsLoop_cons h.1, ih h.2, List.append_assoc]
    rfl

/-- **The last reference decides.** -/
theorem status_of_last (h : Bearable items) (hlast : items.getLast? = some item)
    (st : Except Failure Unit × List (Option Instance)) :
    (refsLoop items st).1 = statusOf item := by
  induction items generalizing st with
  | nil => cases hlast
  | cons first rest ih =>
    rw [Bearable, List.forall_mem_cons] at h
    rw [refsLoop_cons h.1]
    cases rest with
    | nil =>
      cases hlast
      rfl
    | cons second rest =>
      rw [List.getLast?_cons_cons] at hlast
      exact ih h.2 hlast _

/-- A reference that ends the process does so at any place. -/
theorem status_of_crash (h : ¬ Bearable items)
    (st : Except Failure Unit × List (Option Instance)) :
    (refsLoop items st).1 = .error .crash := by
  induction items generalizing st with
  | nil => exact absurd (fun _ hitem => nomatch hitem) h
  | cons item rest ih =>
    by_cases hcrash : Sought item (.error .crash)
    · rw [refsLoop, rasdRefToInst_error_iff.mpr hcrash]
    · rw [refsLoop_cons hcrash]
      refine ih (fun hrest => h ?_) _
      rw [Bearable, List.forall_mem_cons]
      exact ⟨hcrash, hrest⟩

/-! ### What is asked -/

/-- The array `rasd_refs_to_insts` makes. -/
def resourceArr (items : List (Item Live)) : List (Option Instance) :=
  (refsLoop items (.ok (), [])).2

/-- **References are resolved**: with success if and only if each has a setting, then each setting
is in the slot of its reference, and a removal with a reference that has none is rejected and
changes nothing. -/
structure ReferencesResolved (items : List (Item Live)) : Prop where
  status : rasdRefsToInsts items = .ok () ↔ ∀ item ∈ items, Resolves item
  length : rasdRefsToInsts items = .ok () → (resourceArr items).length = items.length
  slots : rasdRefsToInsts items = .ok () → ∀ (i : ℕ) (item : Item Live), items[i]? = some item →
    ∃ inst, Sought item (.ok inst) ∧ (resourceArr items)[i]? = some (some inst)
  removal : (∃ item ∈ items, ¬ Resolves item) → ∀ (env : Env Live) (w : World Live),
    ∃ rc msg, rmResourceSettings env items w = (.error (.status rc msg), w)

theorem statusOf_of_resolves (h : Resolves item) : statusOf item = .ok () := by
  obtain ⟨inst, hinst⟩ := h
  rw [statusOf, rasdRefToInst_ok_iff.mpr hinst]
  rfl

theorem not_crash_of_resolves (h : Resolves item) : ¬ Sought item (.error .crash) := by
  obtain ⟨inst, hinst⟩ := h
  rw [← rasdRefToInst_error_iff, rasdRefToInst_ok_iff.mpr hinst]
  exact fun h => nomatch h

/-- Where all references have settings, nothing goes wrong. -/
theorem referencesResolved_of_all (h : ∀ item ∈ items, Resolves item) :
    ReferencesResolved items := by
  have hbearable : Bearable items := fun item hitem => not_crash_of_resolves (h item hitem)
  have hstatus : rasdRefsToInsts items = .ok () := by
    rw [rasdRefsToInsts]
    -- the status is that of the last reference
    cases hlast : items.getLast? with
    | none =>
      rw [List.getLast?_eq_none_iff.mp hlast]
      rfl
    | some item =>
      rw [status_of_last hbearable hlast]
      exact statusOf_of_resolves (h item (List.mem_of_getLast? hlast))
  have harr : resourceArr items = items.map slotOf := by
    rw [resourceArr, refsLoop_snd hbearable, List.nil_append]
  -- the status, the array and its entries, and no reference that fails
  refine ⟨iff_of_true hstatus h, fun _ => ?_, fun _ i item hi => ?_, ?_⟩
  · rw [harr, List.length_map]
  · obtain ⟨inst, hinst⟩ := h item (List.mem_of_getElem? hi)
    refine ⟨inst, hinst, ?_⟩
    rw [harr, List.getElem?_map, hi, Option.map_some, slotOf, rasdRefToInst_ok_iff.mpr hinst]
    rfl
  · intro ⟨item, hitem, hnot⟩
    exact absurd (h item hitem) hnot

/-- The end of the loop is that of the request, if it is an error. -/
theorem rmResourceSettings_of_error {e : Failure} (h : rasdRefsToInsts items = .error e)
    (env : Env Live) (w : World Live) : rmResourceSettings env items w = (.error e, w) := by
  rw [rmResourceSettings, h]
  rfl

/-- **When references are resolved as asked**: all have settings, or none ends the process and the
last is answered with an error. The loop goes on behind a failure, so the status is the one of the
last reference (`status_of_last`), and a failure before it is forgotten. -/
theorem resolves_iff (items : List (Item Live)) :
    ReferencesResolved items ↔
      (∀ item ∈ items, Resolves item) ∨
        Bearable items ∧ ∃ last rc msg, items.getLast? = some last ∧
          Sought last (.error (.status rc msg)) := by
  refine ⟨fun h => ?_, ?_⟩
  · by_cases hall : ∀ item ∈ items, Resolves item
    · exact .inl hall
    right
    -- some reference does not resolve, and the request must be refused
    obtain ⟨bad, hbad, hnot⟩ : ∃ item ∈ items, ¬ Resolves item := by
      simpa only [not_forall, exists_prop] using hall
    have hbearable : Bearable items := by
      by_contra hcrash
      -- the request is not answered at all
      obtain ⟨rc, msg, hrejected⟩ := h.removal ⟨bad, hbad, hnot⟩ bad.env fun _ => none
      have hcrash : rasdRefsToInsts items = .error .crash := status_of_crash hcrash _
      rw [rmResourceSettings_of_error hcrash] at hrejected
      cases hrejected
    -- the list is not empty, so it has a last reference
    obtain ⟨last, hlast⟩ := Option.ne_none_iff_exists'.mp fun h : items.getLast? = none =>
      List.ne_nil_of_mem hbad (List.getLast?_eq_none_iff.mp h)
    have hmem := List.mem_of_getLast? hlast
    have hstatus : statusOf last ≠ .ok () := by
      rw [← status_of_last hbearable hlast (.ok (), [])]
      exact fun hok => hall (h.status.mp hok)
    refine ⟨hbearable, last, ?_⟩
    -- the last one is the one whose failure is reported
    cases href : rasdRefToInst last.env last.rasd with
    | ok inst =>
      rw [statusOf, href] at hstatus
      exact absurd rfl hstatus
    | error e =>
      have hsought := rasdRefToInst_error_iff.mp href
      cases e with
      | crash => exact absurd hsought (hbearable last hmem)
      | status rc msg => exact ⟨rc, msg, hlast, hsought⟩
  -- everything resolves, or the last one fails and its status is reported
  · rintro (hall | ⟨hbearable, last, rc, msg, hlast, hsought⟩)
    · exact referencesResolved_of_all hall
    · have hstatus : rasdRefsToInsts items = .error (.status rc msg) := by
        rw [rasdRefsToInsts, status_of_last hbearable hlast, statusOf,
          rasdRefToInst_error_iff.mpr hsought]
        rfl
      have hnot : ¬ rasdRefsToInsts items = .ok () := by
        rw [hstatus]
        exact fun h => nomatch h
      refine ⟨iff_of_false hnot fun hall => ?_, fun hok => absurd hok hnot,
        fun hok => absurd hok hnot, fun _ env w => ⟨rc, msg, ?_⟩⟩
      · obtain ⟨inst, hinst⟩ := hall last (List.mem_of_getLast? hlast)
        rw [← rasdRefToInst_ok_iff, rasdRefToInst_error_iff.mpr hsought] at hinst
        cases hinst
      · exact rmResourceSettings_of_error hstatus env w

/-- A reference to a disk of a guest. -/
def diskRef (devid : String) : Item SimpleLive where
  env := simpleEnv (diskGuest (fileDisk "vda"))
  rasd :=
    { pfx := "KVM", base := "DiskResourceAllocationSettingData"
      props := [("InstanceID", .string ("guest/" ++ devid))] }

/-- **A bad reference before a good one** goes unnoticed. -/
theorem not_referencesResolved :
    ¬ ∀ items : List (Item SimpleLive), ReferencesResolved items := by
  intro h
  have hok : rasdRefsToInsts [diskRef "vdz", diskRef "vda"] = .ok () := by decide +kernel
  obtain ⟨inst, hinst⟩ := (h _).status.mp hok (diskRef "vdz") List.mem_cons_self
  have hmissing : rasdRefToInst (diskRef "vdz").env (diskRef "vdz").rasd =
      .error (.status .notFound "No such instance (guest/vdz)") := by decide +kernel
  rw [← rasdRefToInst_ok_iff, hmissing] at hinst
  cases hinst

end LibvirtCim.Service
