import LibvirtCim.Service.ProcessorSettings
import LibvirtCim.Service.StateChange

/-!
# Recorded scheduler parameters are the applied ones

A weight and a limit are set for a Xen domain, other requests follow, and then the domain is
started or reset by `RequestStateChange`. The scheduler should have been given what was set, or
the request should have reported an error. `applied_iff` says exactly when this is so.

What is recorded passes through the array of `xen_scheduler_params`, which has room for one
parameter (`matches_recorded_iff`): a weight and a limit together do not come out of it. A reset
gives the scheduler nothing.
-/

open Framework LibvirtCim.Infostore LibvirtCim.Rasd

namespace LibvirtCim.Service

variable {Live : Type}

/-! ### What is shown -/

/-- A parameter has a value, or is not there. -/
def ShowsField (params : List SchedParam) (field : String) : Option ℕ → Prop
  | none => ∀ p ∈ params, p.field ≠ field
  | some n => ∃ p ∈ params, p.field = field ∧ p.value.toNat = n

namespace Asked

/-- The parameters are the weight and the cap that were asked for, and no others of these names. -/
structure ShownBy (asked : Asked) (params : List SchedParam) : Prop where
  weight : ShowsField params "weight" (asked.weight.map UInt32.toNat)
  cap : ShowsField params "cap" (asked.limit.map UInt64.toNat)

/-- Neither a weight nor a limit is set. -/
def Nothing (asked : Asked) : Prop :=
  asked.weight = none ∧ asked.limit = none

/-- What is asked for passes through the array: not both a weight and a limit, no zero, and no
limit that needs more than 32 bits. -/
structure Fits (asked : Asked) : Prop where
  one : asked.weight = none ∨ asked.limit = none
  weight : asked.weight ≠ some 0
  limit : ∀ limit, asked.limit = some limit → limit ≠ 0 ∧ limit.toNat < UInt32.size

/-- A weight and a limit in the store come out of the array as what is asked for. -/
def Matches (asked : Asked) (weight limit : UInt64) : Prop :=
  asked.weight.map UInt32.toNat =
      (if weight ≠ 0 ∧ limit = 0 then some weight.toUInt32.toNat else none) ∧
    asked.limit.map UInt64.toNat = if limit ≠ 0 then some limit.toUInt32.toNat else none

end Asked

theorem showsField_nil_iff (field : String) (value : Option ℕ) :
    ShowsField [] field value ↔ value = none := by
  cases value <;> simp [ShowsField]

/-- No parameters show that nothing is set. -/
theorem shownBy_nil_iff (asked : Asked) : asked.ShownBy [] ↔ asked.Nothing := by
  constructor
  · intro h
    have hweight := (showsField_nil_iff _ _).mp h.weight
    have hcap := (showsField_nil_iff _ _).mp h.cap
    exact ⟨Option.map_eq_none_iff.mp hweight, Option.map_eq_none_iff.mp hcap⟩
  · rintro ⟨hweight, hlimit⟩
    refine ⟨?_, ?_⟩
    · rw [hweight]
      exact (showsField_nil_iff _ _).mpr rfl
    · rw [hlimit]
      exact (showsField_nil_iff _ _).mpr rfl

theorem showsField_cons_of_ne {p : SchedParam} {params : List SchedParam} {field : String}
    (h : p.field ≠ field) (value : Option ℕ) :
    ShowsField (p :: params) field value ↔ ShowsField params field value := by
  cases value <;> simp [ShowsField, h]

/-- One parameter of a name shows its value. -/
theorem showsField_cons_of_eq {p : SchedParam} {params : List SchedParam} {field : String}
    (h : p.field = field) (hnot : ∀ q ∈ params, q.field ≠ field) (value : Option ℕ) :
    ShowsField (p :: params) field value ↔ value = some p.value.toNat := by
  cases value with
  | none => simp [ShowsField, h]
  | some n =>
    rw [Option.some_inj]
    constructor
    · rintro ⟨q, hq, hfield, hvalue⟩
      obtain rfl | hq := List.mem_cons.mp hq
      · exact hvalue.symm
      · exact absurd hfield (hnot q hq)
    · rintro rfl
      exact ⟨p, List.mem_cons_self, h, rfl⟩

/-- **What the array of a Xen domain shows.** -/
theorem shownBy_xenSchedulerParams_iff (asked : Asked) (weight limit : UInt64) :
    asked.ShownBy (xenSchedulerParams weight limit) ↔ asked.Matches weight limit := by
  -- the two fields are read apart, each as the last of its name
  have hsplit (params : List SchedParam) : asked.ShownBy params ↔
      ShowsField params "weight" (asked.weight.map UInt32.toNat) ∧
        ShowsField params "cap" (asked.limit.map UInt64.toNat) :=
    ⟨fun h => ⟨h.weight, h.cap⟩, fun h => ⟨h.1, h.2⟩⟩
  -- the unused slot carries the empty field name, so it shows neither
  have hzero (field : String) (h : SchedParam.zero.field ≠ field) (value : Option ℕ) :
      ShowsField [SchedParam.zero] field value ↔ value = none := by
    rw [showsField_cons_of_ne h, showsField_nil_iff]
  have hcap (params : List SchedParam) (value : Option ℕ) (h : params ⊆ [SchedParam.zero]) :
      ShowsField (⟨"cap", schedFieldUint, limit.toUInt32⟩ :: params) "cap" value ↔
        value = some limit.toUInt32.toNat := by
    refine showsField_cons_of_eq rfl (fun q hq => ?_) value
    rw [List.mem_singleton.mp (h hq)]
    simp [SchedParam.zero]
  rw [hsplit, xenSchedulerParams_eq]
  unfold Asked.Matches
  by_cases hlimit : limit = 0
  -- no limit: slot 0 holds the weight or stays unused
  · rw [if_neg (not_not.mpr hlimit), if_neg (not_not.mpr hlimit)]
    by_cases hweight : weight = 0
    · have hhidden : ¬ (weight ≠ 0 ∧ limit = 0) := fun h => h.1 hweight
      rw [if_neg (not_not.mpr hweight), if_neg hhidden, showsField_nil_iff, showsField_nil_iff]
    · rw [if_pos hweight, if_pos ⟨hweight, hlimit⟩, showsField_cons_of_eq rfl (by simp),
        showsField_cons_of_ne (by simp), showsField_nil_iff]
  · -- the cap is first, and hides the weight
    have hhidden : ¬ (weight ≠ 0 ∧ limit = 0) := fun h => hlimit h.2
    rw [if_pos hlimit, if_pos hlimit, if_neg hhidden, showsField_cons_of_ne (by simp)]
    -- with a limit the weight only decides what the second slot holds
    by_cases hweight : weight = 0
    · rw [if_neg (not_not.mpr hweight), showsField_nil_iff, hcap [] _ (List.nil_subset _)]
    · rw [if_pos hweight, hzero "weight" (by simp [SchedParam.zero]),
        hcap _ _ (List.Subset.refl _)]

/-- **What is recorded passes through the array** if it fits. -/
theorem matches_recorded_iff (asked : Asked) :
    asked.Matches (asked.weight.getD 0).toUInt64 (asked.limit.getD 0) ↔ asked.Fits := by
  -- the stored number is 64 bits wide and the parameter 32: the weight survives, the limit may not
  have hwide (weight : UInt32) : weight.toUInt64.toUInt32 = weight := by simp
  have hzero (weight : UInt32) : weight.toUInt64 = 0 ↔ weight = 0 := by
    rw [← UInt64.toNat_inj, ← UInt32.toNat_inj]
    simp
  have hnarrow (limit : UInt64) :
      limit.toNat = limit.toNat % 4294967296 ↔ limit.toNat < UInt32.size :=
    ⟨fun h => h ▸ Nat.mod_lt _ (by decide), fun h => (Nat.mod_eq_of_lt h).symm⟩
  have hfits : asked.Fits ↔ (asked.weight = none ∨ asked.limit = none) ∧
      asked.weight ≠ some 0 ∧
      ∀ limit, asked.limit = some limit → limit ≠ 0 ∧ limit.toNat < UInt32.size :=
    ⟨fun h => ⟨h.one, h.weight, h.limit⟩, fun h => ⟨h.1, h.2.1, h.2.2⟩⟩
  rw [hfits]
  unfold Asked.Matches
  -- a request with both fields loses the weight, whatever the two values are
  match asked.weight, asked.limit with
  | none, none => simp
  | some weight, none => simp [hzero, hwide]
  | none, some limit =>
    by_cases hlimit : limit = 0 <;> simp [hlimit, hnarrow]
  | some weight, some limit =>
    by_cases hlimit : limit = 0 <;> simp [hlimit]

/-! ### What a start gives the scheduler -/

variable {calls : StateCalls} {guest : VirDomainState}

/-- The store is read, and the scheduler takes the array for a weight and a limit. -/
def StateCalls.SetsParams (calls : StateCalls) (weight limit : UInt64) : Prop :=
  calls.getConnect ∧ calls.infostore ∧ calls.alloc ∧
    calls.setScheduler (xenSchedulerParams weight limit)

theorem setSchedulerParams_xen (calls : StateCalls) {values : Values} {weight limit : UInt64}
    (h : StoredAs values weight limit) :
    (calls.SetsParams weight limit →
        setSchedulerParams calls .xen values = xenSchedulerParams weight limit) ∧
      (¬ calls.SetsParams weight limit → setSchedulerParams calls .xen values = []) := by
  have hxen : streqc ConnType.xen.text "xen" = true := by decide
  have hparams : schedulerParams calls.alloc .xen values =
      if calls.alloc then some (xenSchedulerParams weight limit) else none := by
    unfold schedulerParams
    rw [if_pos hxen, h.weight, h.limit]
  unfold setSchedulerParams StateCalls.SetsParams
  rw [hparams]
  -- one failing call leaves the parameters unset; there are four of them
  refine ⟨fun ⟨hconnect, hinfostore, halloc, hset⟩ => ?_, fun hnot => ?_⟩
  · rw [hconnect, hinfostore, halloc]
    exact if_pos hset
  -- the start passes nothing as soon as one of them fails
  · cases hconnect : calls.getConnect <;> cases hinfostore : calls.infostore <;>
      cases halloc : calls.alloc <;>
      cases hset : calls.setScheduler (xenSchedulerParams weight limit) <;>
      simp [hconnect, hinfostore, halloc, hset] at hnot ⊢

open Classical in
/-- **What is shown after a start** that succeeds. -/
theorem shownBy_of_starts {values : Values} {weight limit : UInt64}
    (h : StoredAs values weight limit) (hstarts : calls.Starts guest)
    (hsucceeds : calls.StartSucceeds) (asked : Asked) :
    asked.ShownBy (stateChange calls .xen guest values).2 ↔
      if calls.SetsParams weight limit then asked.Matches weight limit else asked.Nothing := by
  rw [passed_of_starts hstarts hsucceeds]
  obtain ⟨hset, hnot⟩ := setSchedulerParams_xen calls h
  split_ifs with hsets
  · rw [hset hsets, shownBy_xenSchedulerParams_iff]
  · rw [hnot hsets, shownBy_nil_iff]

/-! ### From the setting to the start -/

/-- **What was set is applied.** The processors are set, other requests follow, and the domain is
started or reset. -/
def Applied (r : SetRequest Live) (others : List (OtherChange Live)) (calls : StateCalls)
    (guest : VirDomainState) : Prop :=
  ∀ asked s, r.asked = some asked → r.run = (.ok (), some s) →
    calls.Starts guest ∨ calls.Resets .xen guest →
    (stateChange calls .xen guest (afterAll others s).2).1 = .ok →
    asked.ShownBy (stateChange calls .xen guest (afterAll others s).2).2

namespace SetRequest

variable (r : SetRequest Live) (asked : Asked) (zeroed : Bool)

/-- The weight in the store when the domain is started. -/
def weightKept : UInt64 :=
  if zeroed then 0
  else if r.recorded then (asked.weight.getD 0).toUInt64
  else storedU64 r.before weightKey

/-- The limit in the store when the domain is started. -/
def limitKept : UInt64 :=
  if zeroed then 0
  else if r.recorded then asked.limit.getD 0
  else storedU64 r.before limitKey

/-- What was asked for is in the store in a form that passes through the array: it was written
and fits; or zeros were written over it, and there was nothing; or it was not written, and what
was there before comes out the same. -/
def Passes : Prop :=
  if zeroed then asked.Nothing
  else if r.recorded then asked.Fits
  else asked.Matches (storedU64 r.before weightKey) (storedU64 r.before limitKey)

/-- **What is kept comes out of the array** as what was asked for. -/
theorem matches_kept_iff :
    asked.Matches (r.weightKept asked zeroed) (r.limitKept asked zeroed) ↔
      r.Passes asked zeroed := by
  unfold weightKept limitKept Passes
  cases zeroed with
  | true =>
    rw [if_pos rfl, if_pos rfl, if_pos rfl]
    unfold Asked.Matches Asked.Nothing
    simp
  | false =>
    rw [if_neg Bool.false_ne_true, if_neg Bool.false_ne_true, if_neg Bool.false_ne_true]
    cases r.recorded with
    | true => exact matches_recorded_iff asked
    | false => exact Iff.rfl

variable {r asked}

/-- What the store has after a request that succeeds and the requests that follow. -/
theorem stored_afterAll {s : Guest Live × Values} (hasked : r.asked = some asked)
    (hrun : r.run = (.ok (), some s)) (others : List (OtherChange Live)) :
    StoredAs (afterAll others s).2 (r.weightKept asked (overwritten others s))
      (r.limitKept asked (overwritten others s)) := by
  -- the guest and the store right after the request, before anything else changes the guest
  have hset : StoredAs s.2 (r.weightKept asked false) (r.limitKept asked false) := by
    obtain ⟨hrecorded, hnot⟩ := r.stored hasked hrun
    unfold weightKept limitKept
    rw [if_neg Bool.false_ne_true, if_neg Bool.false_ne_true]
    cases hr : r.recorded with
    | true => exact hrecorded hr
    | false =>
      rw [hnot hr]
      exact ⟨rfl, rfl⟩
  -- the other changes leave the two numbers or zero both of them
  obtain ⟨hkept, hzero⟩ := stored_otherChanges others s hset
  cases hover : overwritten others s with
  | true => exact hzero hover
  | false => exact hkept hover

end SetRequest

open Classical in
/-- What was asked for is what a request to start or reset the domain gives the scheduler. A start
reads the store and fills an array of one or two parameters, unless a call on the way fails; a
reset passes none; and neither does a request that is answered without a connection. -/
structure AppliedWhen (r : SetRequest Live) (asked : Asked) (zeroed : Bool) (calls : StateCalls)
    (guest : VirDomainState) : Prop where
  start : calls.Starts guest → calls.StartSucceeds →
    if calls.SetsParams (r.weightKept asked zeroed) (r.limitKept asked zeroed) then
      r.Passes asked zeroed
    else asked.Nothing
  reset : calls.Resets .xen guest → calls.ResetSucceeds → asked.Nothing
  unconnected : calls.Starts guest ∨ calls.Resets .xen guest → calls.Unconnected → asked.Nothing

/-- **Recorded scheduler parameters are the applied ones** when a start that succeeds finds them
in the store, in a form that passes through the array, and the scheduler takes them; when nothing
was set, and the domain is reset; and when a request without a connection has nothing to apply.
What the store has behind the later requests is `stored_afterAll`, and what a start shows of it
`shownBy_of_starts`. -/
theorem applied_iff (r : SetRequest Live) (others : List (OtherChange Live)) (calls : StateCalls)
    (guest : VirDomainState) :
    Applied r others calls guest ↔
      ∀ asked s, r.asked = some asked → r.run = (.ok (), some s) →
        AppliedWhen r asked (overwritten others s) calls guest := by
  -- three ways to be answered OK: a start that works, a reset that works, and no connection
  unfold Applied
  constructor
  · intro h asked s hasked hrun
    have hstored := SetRequest.stored_afterAll hasked hrun others
    refine ⟨fun hstarts hsucceeds => ?_, fun hresets hsucceeds => ?_, fun hrequest hnone => ?_⟩
    · have hshown := h asked s hasked hrun (.inl hstarts)
        ((stateChange_ok_iff_of_starts hstarts).mpr (.inl hsucceeds))
      rw [shownBy_of_starts hstored hstarts hsucceeds] at hshown
      rw [← SetRequest.matches_kept_iff]
      exact hshown
    -- a reset passes no parameter, so only the empty request is shown
    · obtain ⟨hok, hnil⟩ := stateChange_of_resets (afterAll others s).2 hresets
      have hshown := h asked s hasked hrun (.inr hresets) (hok.mpr (.inl hsucceeds))
      rw [hnil] at hshown
      -- without a connection the request is answered OK and nothing is passed
      exact (shownBy_nil_iff asked).mp hshown
    · have hok : (stateChange calls .xen guest (afterAll others s).2).1 = .ok := by
        obtain hstarts | hresets := hrequest
        · exact (stateChange_ok_iff_of_starts hstarts).mpr (.inr hnone)
        · exact (stateChange_of_resets _ hresets).1.mpr (.inr hnone)
      have hstate : calls.requestedState.isSome := by
        obtain hstarts | hresets := hrequest
        · exact isSome_requestedState hstarts.1
        · exact isSome_requestedState hresets.1
      have hshown := h asked s hasked hrun hrequest hok
      rw [passed_of_unconnected hstate hnone] at hshown
      exact (shownBy_nil_iff asked).mp hshown
  · intro h asked s hasked hrun hrequest hok
    have hstored := SetRequest.stored_afterAll hasked hrun others
    have hwhen := h asked s hasked hrun
    -- the same three ways, read the other way round
    obtain hstarts | hresets := hrequest
    · obtain hsucceeds | hnone := (stateChange_ok_iff_of_starts hstarts).mp hok
      · rw [shownBy_of_starts hstored hstarts hsucceeds, SetRequest.matches_kept_iff]
        exact hwhen.start hstarts hsucceeds
      · rw [passed_of_unconnected (isSome_requestedState hstarts.1) hnone]
        exact (shownBy_nil_iff asked).mpr (hwhen.unconnected (.inl hstarts) hnone)
    · obtain ⟨hiff, hnil⟩ := stateChange_of_resets (afterAll others s).2 hresets
      rw [hnil, shownBy_nil_iff]
      obtain hsucceeds | hnone := hiff.mp hok
      · exact hwhen.reset hresets hsucceeds
      · exact hwhen.unconnected (.inr hresets) hnone

/-! ### A guest with a weight and a limit -/

/-- A Xen guest with two processors and a disk. -/
def xenGuest : Node :=
  .elem "domain" [("type", "xen")]
    [.elem "name" [] [.text "guest"], .elem "vcpu" [] [.text "2"],
      .elem "os" [] [.elem "type" [] [.text "hvm"]], .elem "devices" [] [fileDisk "vda"]]

/-- Its host. -/
def xenHost : XenEnv SimpleLive where
  env :=
    let env := simpleEnv xenGuest
    { env with
      calls := { env.calls with qemu := false }
      info := { env.info with qemu := false }
      pfx := "Xen" }
  xen := rfl

/-- `ModifyResourceSettings` with a weight and a limit. -/
def weightAndLimit : SetRequest SimpleLive :=
  .modify xenHost (some "proc")
    { pfx := "Xen", base := "ProcResourceAllocationSettingData"
      props := [("Weight", .uint32 512), ("Limit", .uint64 50)] }
    ({ live := {}, config := xenGuest }, fun _ => none)

/-- A request to start the guest, in which every call succeeds. -/
def startGuest : StateCalls where
  requestedState := some 2
  name := some "guest"
  prevInstance := true
  connect := .ok ()
  lookup := true
  getInfo := true
  saveImage := false
  create := true
  resume := true
  destroy := true
  shutdown := true
  suspend := true
  reboot := true
  getConnect := true
  xmlDesc := true
  lookupAgain := true
  define := true
  infostore := true
  alloc := true
  setScheduler _ := true

/-- The scheduler of a guest with a weight and a limit is not given the weight. -/
theorem not_applied : ¬ ∀ (r : SetRequest SimpleLive) (others : List (OtherChange SimpleLive))
    (calls : StateCalls) (guest : VirDomainState), Applied r others calls guest := by
  -- the failing request asks for a weight and a limit at once
  intro h
  have hasked : weightAndLimit.asked = some ⟨some 512, some 50⟩ := by decide +kernel
  have hresult : weightAndLimit.run.1.toOption = some () := by decide +kernel
  have hrecorded : weightAndLimit.recorded = true := by decide +kernel
  obtain ⟨s, hs⟩ : ∃ s, weightAndLimit.run.2 = some s := ⟨_, rfl⟩
  have hrun : weightAndLimit.run = (.ok (), some s) :=
    Prod.ext (eq_ok_of_toOption hresult) hs
  have hstored := (weightAndLimit.stored hasked hrun).1 hrecorded
  -- the guest is off and every later call succeeds
  have hstarts : startGuest.Starts .shutoff := ⟨rfl, rfl⟩
  have hsucceeds : startGuest.StartSucceeds := by
    refine ⟨⟨rfl, rfl, rfl, rfl, rfl⟩, rfl, rfl⟩
  have hshown := h weightAndLimit [] startGuest .shutoff _ s hasked hrun (.inl hstarts)
    ((stateChange_ok_iff_of_starts hstarts).mpr (.inl hsucceeds))
  have hpassed : (stateChange startGuest .xen .shutoff (afterAll [] s).2).2 =
      xenSchedulerParams 512 50 := by
    rw [passed_of_starts hstarts hsucceeds]
    exact (setSchedulerParams_xen startGuest hstored).1 ⟨rfl, rfl, rfl, rfl⟩
  rw [hpassed] at hshown
  -- no element of the array is the weight
  obtain ⟨p, hmem, hfield, -⟩ := hshown.weight
  have hnone : ∀ p ∈ xenSchedulerParams 512 50, p.field ≠ "weight" := by decide
  exact hnone p hmem hfield

end LibvirtCim.Service
