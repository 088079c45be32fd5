import LibvirtCim.Enumeration.Systems
import LibvirtCim.Service.StateChange
import Mathlib.Data.List.Induction

/-!
# The states of a guest

What a client sees of the state of a guest, and what it can do about it: `EnabledState` and
`RequestedState`, which `set_state_from_dom` sets, against the requests for another state, which
`__state_change` takes or refuses. The client sees one of six states of CIM, libvirt has eight, and
an image that was saved counts as well.

* `granted_iff` — a request is granted by the state that is shown, with one exception: a guest
  that has crashed is shown as disabled, and cannot be enabled;
* `enabled_by_requests_iff` — which guests can be brought to run again by requests for a state,
  and that no call at all is made for the others;
* `shown_eq_tracked` — the states that are shown follow from the answers to the requests.

The calls that a request makes are `madeCalls`. What libvirt makes of a call that succeeds is a
parameter, of which `DomainEffect.Documented` is assumed.
-/

open LibvirtCim.Infostore

namespace LibvirtCim.Service

/-! ### Guests, and what is seen of them -/

theorem reqstateName_valid : isKeyName "reqstate".toList := by
  decide

/-- The key of the state that was last requested. -/
def reqstateKey : Key := ⟨"reqstate", reqstateName_valid⟩

/-- A guest: its state, whether there is an image of it, and what its store has. -/
structure VirtualSystem where
  state : VirDomainState
  image : Bool
  values : Values

/-- The host, of which only the type of the connection counts. -/
def hostOf (type : ConnType) : Enumeration.SystemHost where
  pfx := type.text
  xen := streqc type.text "Xen"

/-- What `set_state_from_dom` asks; the store can be opened or not. -/
def VirtualSystem.view (v : VirtualSystem) (opened : Bool) : Enumeration.SystemView where
  dominfo := none
  name := none
  uuid := none
  info := some v.state
  saveImage := v.image
  infostore := if opened then some (false, storedU64 v.values reqstateKey) else none

/-- The instance with the properties of `set_state_from_dom`. -/
def VirtualSystem.shown (type : ConnType) (v : VirtualSystem) (opened : Bool) :
    Enumeration.SystemInstance :=
  (Enumeration.setStateFromDom (hostOf type) (v.view opened)
    (Enumeration.newSystem (hostOf type))).2

/-- The states that are shown. -/
inductive CimState
  | unknown | enabled | disabled | shutdown | suspended | paused
  deriving DecidableEq, Repr

/-- `enum CIM_state`. -/
def CimState.number : CimState → UInt16
  | .unknown => 0
  | .enabled => 2
  | .disabled => 3
  | .shutdown => 4
  | .suspended => 6
  | .paused => 9

/-- A guest that is off, with an image or without. -/
def CimState.off (image : Bool) : CimState := if image then .suspended else .disabled

/-- The state of CIM that stands for one of libvirt. -/
def CimState.ofLibvirt (image : Bool) : VirDomainState → CimState
  | .running | .blocked => .enabled
  | .paused => .paused
  | .shutdown => .shutdown
  | .shutoff | .crashed => .off image
  | .nostate | .pmsuspended => .unknown

/-- The state of a guest in the eyes of a client. -/
def cimState (type : ConnType) (image : Bool) (state : VirDomainState) : CimState :=
  .ofLibvirt image (adjustStateXen type state)

/-- Both providers take a Xen guest without a state for one that runs. -/
theorem adjustStateXen_hostOf (type : ConnType) (state : VirDomainState) :
    Enumeration.adjustStateXen (hostOf type) state = adjustStateXen type state := by
  unfold Enumeration.adjustStateXen adjustStateXen
  by_cases hstate : state = .nostate
  · subst hstate
    simp [hostOf]
  · simp [hstate]

/-- A guest that is off is told apart by its image. -/
theorem adjustStateIfSaved_stateLvToCim (v : VirtualSystem) (opened : Bool)
    (state : VirDomainState) :
    Enumeration.adjustStateIfSaved (v.view opened) (Enumeration.stateLvToCim state) =
      (CimState.ofLibvirt v.image state).number := by
  obtain ⟨-, image, -⟩ := v
  cases state <;> cases image <;> rfl

/-- **What is shown as `EnabledState`.** -/
theorem enabledState_shown (type : ConnType) (v : VirtualSystem) (opened : Bool) :
    (v.shown type opened).enabledState = some (cimState type v.image v.state).number := by
  show some (Enumeration.adjustStateIfSaved (v.view opened) (Enumeration.stateLvToCim
    (Enumeration.adjustStateXen (hostOf type) v.state))) = _
  rw [adjustStateIfSaved_stateLvToCim, adjustStateXen_hostOf]
  rfl

/-- What is shown as `RequestedState`: without the store, an unknown state. -/
theorem requestedState_shown (type : ConnType) (v : VirtualSystem) (opened : Bool) :
    (v.shown type opened).requestedState =
      some (if opened then (storedU64 v.values reqstateKey).toUInt16 else 0) := by
  cases opened <;> rfl

/-! ### Requests -/

/-- `RequestedStatesSupported`, as `_get_elec` sets it. -/
def requestedStatesSupported : List UInt16 := [2, 3, 9, 10, 11]

/-- The states that can be requested are those that are said to be supported, and `SHUTDOWN`. -/
theorem state?_isSome_iff {calls : StateCalls} {number : UInt16}
    (h : calls.requestedState = some number) :
    calls.state?.isSome ↔ number ∈ requestedStatesSupported ∨ number = 4 := by
  have hlookup : (requestedStates.lookup number).isSome ↔
      number ∈ requestedStates.map Prod.fst := by
    simp only [requestedStates, List.lookup_cons, List.map_cons, List.map_nil, List.mem_cons,
      List.not_mem_nil, or_false, List.lookup_nil]
    repeat' split
    all_goals simp_all
  rw [StateCalls.state?, h, Option.bind_some, hlookup]
  simp only [requestedStates, requestedStatesSupported, List.map_cons, List.map_nil, List.mem_cons,
    List.not_mem_nil, or_false]
  constructor
  · rintro (h | h | h | h | h | h) <;> simp [h]
  · rintro ((h | h | h | h | h) | h) <;> simp [h]

/-- The requests that a state admits. -/
def CimState.grants : CimState → RequestedState → Bool
  | .disabled, .enabled => true
  | .paused, .enabled => true
  | .enabled, .disabled => true
  | .enabled, .shutdown => true
  | .enabled, .paused => true
  | .enabled, .reboot => true
  | .paused, .reboot => true
  | .enabled, .reset => true
  | .paused, .reset => true
  | _, _ => false

/-- The calls for a request succeed. -/
def StateCalls.Performs (calls : StateCalls) (state : VirDomainState) : RequestedState → Prop
  | .enabled => if state = .paused then calls.resume else calls.create
  | .disabled => calls.destroy
  | .shutdown => calls.shutdown
  | .paused => calls.suspend
  | .reboot => calls.reboot
  | .reset => calls.getConnect ∧ calls.xmlDesc ∧ calls.destroy ∧
      (calls.lookupAgain ∨ calls.define) ∧ calls.create

/-- A call in some states is made in these states only. -/
theorem inStates_eq_ok_iff {calls : StateCalls} {states : List VirDomainState} {call : Bool}
    {unable refusal : String} {state : VirDomainState} :
    inStates calls states call unable refusal state = .ok ↔ state ∈ states ∧ call := by
  unfold inStates
  split_ifs <;> simp_all

section
variable {calls : StateCalls} {type : ConnType} {image : Bool} {state : VirDomainState}

/-- A request for a state that is admitted where the guest runs. -/
theorem grants_of_running {request : RequestedState}
    (h : request = .disabled ∨ request = .shutdown ∨ request = .paused) :
    (cimState type image state).grants request ↔
      adjustStateXen type state ∈ [VirDomainState.running, .blocked] := by
  unfold cimState
  obtain rfl | rfl | rfl := h <;>
    (generalize adjustStateXen type state = adjusted
     cases adjusted <;> cases image <;> decide)

/-- A request for a state that is admitted where the guest runs or is paused. -/
theorem grants_of_active {request : RequestedState} (h : request = .reboot ∨ request = .reset) :
    (cimState type image state).grants request ↔
      adjustStateXen type state ∈ [VirDomainState.running, .blocked, .paused] := by
  unfold cimState
  obtain rfl | rfl := h <;>
    (generalize adjustStateXen type state = adjusted
     cases adjusted <;> cases image <;> decide)

/-- A guest is enabled where it is off without an image, or paused; one that has crashed is shown
as off. -/
theorem grants_enabled_iff :
    (cimState type image state).grants .enabled ∧ state ≠ .crashed ↔
      (state = .shutoff ∧ image = false) ∨ state = .paused := by
  cases type <;> cases state <;> cases image <;> decide

/-- The branch of a request, at the state it is for. -/
theorem changeState_eq_ok_iff (values : Values) (himage : calls.saveImage = image)
    (request : RequestedState) :
    (changeState calls type state values (some request)).1 = .ok ↔
      (cimState type image state).grants request ∧
        ¬ (request = .enabled ∧ state = .crashed) ∧ calls.Performs state request := by
  -- one handler for each request, each with its own states
  cases request with
  | enabled =>
    rw [← and_assoc, show ¬ (RequestedState.enabled = .enabled ∧ state = .crashed) ↔
      state ≠ .crashed by simp, grants_enabled_iff, ← himage]
    show (stateChangeEnable calls type values state).1 = .ok ↔ _
    -- enabling depends on the state libvirt gives, not on the one adjusted for Xen
    unfold StateCalls.Performs stateChangeEnable startDomain
    cases state <;> simp
    all_goals split_ifs <;> simp_all
  | disabled =>
    -- these four ask for one call from some of the states
    rw [grants_of_running (by simp)]
    show stateChangeDisable calls (adjustStateXen type state) = .ok ↔ _
    rw [stateChangeDisable, inStates_eq_ok_iff]
    simp [StateCalls.Performs]
  | shutdown =>
    rw [grants_of_running (by simp)]
    show stateChangeShutdown calls (adjustStateXen type state) = .ok ↔ _
    rw [stateChangeShutdown, inStates_eq_ok_iff]
    simp [StateCalls.Performs]
  | paused =>
    rw [grants_of_running (by simp)]
    show stateChangePause calls (adjustStateXen type state) = .ok ↔ _
    rw [stateChangePause, inStates_eq_ok_iff]
    simp [StateCalls.Performs]
  | reboot =>
    rw [grants_of_active (by simp)]
    show stateChangeReboot calls (adjustStateXen type state) = .ok ↔ _
    rw [stateChangeReboot, inStates_eq_ok_iff]
    simp [StateCalls.Performs]
  -- a reset makes several calls
  | reset =>
    rw [grants_of_active (by simp)]
    show stateChangeReset calls (adjustStateXen type state) = .ok ↔ _
    unfold stateChangeReset
    split_ifs with hactive
    · rw [domainReset_eq_ok_iff]
      simp [StateCalls.Performs, hactive]
    · simp [hactive]

end

/-- **When a request that gets to the guest is granted.** The state that is shown admits it, the
guest has not crashed, if it is to be enabled, and the calls succeed. A request that gets there is
`changeState` (`stateChange_cases`), and that has a branch for each state that can be requested.
-/
theorem granted_iff {calls : StateCalls} {type : ConnType} {v : VirtualSystem}
    (hnumber : calls.requestedState.isSome) (hreaches : calls.Reaches)
    (himage : calls.saveImage = v.image) :
    (stateChange calls type v.state v.values).1 = .ok ↔
      ∃ request, calls.state? = some request ∧
        (cimState type v.image v.state).grants request ∧
        ¬ (request = .enabled ∧ v.state = .crashed) ∧ calls.Performs v.state request := by
  obtain ⟨-, heq⟩ | ⟨hunconnected, -⟩ | ⟨hnot, -⟩ :=
    stateChange_cases type v.state v.values hnumber
  · rw [heq]
    -- a number that stands for no request is refused
    cases hstate : calls.state? with
    | none =>
      refine iff_of_false (fun h => ?_) (by simp)
      cases h
    | some request =>
      rw [changeState_eq_ok_iff v.values himage request]
      simp
  -- the connection is there
  · exact absurd hunconnected hreaches.not_unconnected
  · exact absurd hreaches hnot

/-! ### What a request changes -/

instance (calls : StateCalls) : Decidable calls.Reaches :=
  decidable_of_iff (calls.name.isSome ∧ calls.prevInstance ∧ calls.connect.toBool ∧ calls.lookup ∧
    calls.getInfo) (by
    unfold StateCalls.Reaches
    cases calls.connect <;> simp [Except.toBool])

/-- The calls of libvirt that are made on a guest for another state. -/
inductive DomainCall
  | create | resume | destroy | define | shutdown | suspend | reboot
  deriving DecidableEq, Repr

/-- A call that is made in some states. -/
def callIn (states : List VirDomainState) (call : DomainCall × Bool) (state : VirDomainState) :
    List (DomainCall × Bool) :=
  if state ∈ states then [call] else []

/-- The calls that `domain_reset` makes from `virDomainDestroy` on. -/
def resetCalls (calls : StateCalls) : List (DomainCall × Bool) :=
  (.destroy, calls.destroy) ::
    if calls.destroy then
      -- a guest that is still defined is not defined anew
      if calls.lookupAgain then [(.create, calls.create)]
      else (.define, calls.define) :: if calls.define then [(.create, calls.create)] else []
    else []

/-- **The calls that a request makes on the guest**, with whether they succeed. -/
def madeCalls (calls : StateCalls) (type : ConnType) (state : VirDomainState) :
    RequestedState → List (DomainCall × Bool)
  | .enabled =>
    match state with
    | .shutoff => if calls.saveImage then [] else [(.create, calls.create)]
    | .paused => [(.resume, calls.resume)]
    | _ => []
  | .disabled =>
    callIn [.running, .blocked] (.destroy, calls.destroy) (adjustStateXen type state)
  | .shutdown =>
    callIn [.running, .blocked] (.shutdown, calls.shutdown) (adjustStateXen type state)
  | .paused =>
    callIn [.running, .blocked] (.suspend, calls.suspend) (adjustStateXen type state)
  | .reboot =>
    callIn [.running, .blocked, .paused] (.reboot, calls.reboot) (adjustStateXen type state)
  | .reset =>
    if adjustStateXen type state ∈ [VirDomainState.running, .blocked, .paused] ∧
        calls.getConnect ∧ calls.xmlDesc then
      resetCalls calls
    else []

/-- A call in some states is granted if it is made and succeeds. -/
theorem inStates_eq_ok_iff_callIn (call : DomainCall) {calls : StateCalls}
    {states : List VirDomainState} {ok : Bool} {unable refusal : String}
    {state : VirDomainState} :
    inStates calls states ok unable refusal state = .ok ↔
      callIn states (call, ok) state ≠ [] ∧
        ∀ made ∈ callIn states (call, ok) state, made.2 = true := by
  rw [inStates_eq_ok_iff]
  unfold callIn
  split_ifs with hstate <;> simp [hstate]

/-- **A request is granted exactly if it makes a call and all its calls succeed.** This ties the
calls to the statuses of `__state_change`, branch by branch. -/
theorem changeState_eq_ok_iff_madeCalls (calls : StateCalls) (type : ConnType)
    (state : VirDomainState) (values : Values) (request : RequestedState) :
    (changeState calls type state values (some request)).1 = .ok ↔
      madeCalls calls type state request ≠ [] ∧
        ∀ call ∈ madeCalls calls type state request, call.2 = true := by
  -- by the request: the status is good when a call was made and every call went well
  cases request with
  | enabled =>
    show (stateChangeEnable calls type values state).1 = .ok ↔ _
    unfold stateChangeEnable startDomain madeCalls
    cases state <;> simp
    all_goals split_ifs <;> simp_all
  | disabled => exact inStates_eq_ok_iff_callIn .destroy
  | shutdown => exact inStates_eq_ok_iff_callIn .shutdown
  | paused => exact inStates_eq_ok_iff_callIn .suspend
  | reboot => exact inStates_eq_ok_iff_callIn .reboot
  -- for a reset, all of the calls of domain_reset
  | reset =>
    show stateChangeReset calls (adjustStateXen type state) = .ok ↔ _
    unfold stateChangeReset madeCalls resetCalls
    by_cases hactive : adjustStateXen type state ∈ [VirDomainState.running, .blocked, .paused]
    · rw [if_pos hactive, domainReset_eq_ok_iff]
      cases calls.getConnect <;> cases calls.xmlDesc <;> cases calls.destroy <;>
        cases calls.lookupAgain <;> cases calls.define <;> simp [hactive]
    · simp [hactive]

/-! ### What libvirt makes of it -/

/-- What a call that succeeds makes of the state of a guest. -/
abbrev DomainEffect := DomainCall → VirDomainState → VirDomainState

/-- The states of a guest that is on; a guest of Xen may have none. -/
def activeStates : List VirDomainState := [.running, .blocked, .paused, .nostate]

/-- What is documented of the calls: they have their effect at once. `virDomainShutdown` and
`virDomainReboot` only ask the guest, and what it makes of that is a change of its own. -/
structure DomainEffect.Documented (effect : DomainEffect) : Prop where
  create : effect .create .shutoff = .running
  resume : effect .resume .paused = .running
  destroy : ∀ state ∈ activeStates, effect .destroy state = .shutoff
  define : effect .define .shutoff = .shutoff
  suspend : ∀ state ∈ activeStates, effect .suspend state = .paused
  shutdown : ∀ state ∈ activeStates, effect .shutdown state = state
  reboot : ∀ state ∈ activeStates, effect .reboot state = state

/-- The state that calls leave: one that fails changes nothing. -/
def DomainEffect.after (effect : DomainEffect) (state : VirDomainState)
    (made : List (DomainCall × Bool)) : VirDomainState :=
  made.foldl (fun state call => if call.2 then effect call.1 state else state) state

@[simp] theorem after_nil (effect : DomainEffect) (state : VirDomainState) :
    effect.after state [] = state := rfl

@[simp] theorem after_cons (effect : DomainEffect) (state : VirDomainState)
    (call : DomainCall × Bool) (made : List (DomainCall × Bool)) :
    effect.after state (call :: made) =
      effect.after (if call.2 then effect call.1 state else state) made := rfl

/-- A guest that is on, with or without a state. -/
theorem mem_activeStates_of_adjusted {type : ConnType} {state : VirDomainState}
    (h : adjustStateXen type state ∈ [VirDomainState.running, .blocked, .paused]) :
    state ∈ activeStates := by
  revert h
  unfold adjustStateXen
  cases state <;> simp [activeStates]

/-- A request, and whether its state gets to the store: `infostore_open` behind it succeeds. -/
structure StateRequest where
  calls : StateCalls
  store : Bool

/-- The calls for a guest: `vsss_has_save_image` looks for its image. -/
def StateRequest.callsOn (r : StateRequest) (v : VirtualSystem) : StateCalls :=
  { r.calls with saveImage := v.image }

/-- The status of a request. -/
def StateRequest.status (r : StateRequest) (type : ConnType) (v : VirtualSystem) : CmpiStatus :=
  (stateChange (r.callsOn v) type v.state v.values).1

/-- The calls that are made on a guest. -/
def StateRequest.made (r : StateRequest) (type : ConnType) (v : VirtualSystem) :
    List (DomainCall × Bool) :=
  if r.calls.Reaches then r.calls.state?.elim [] (madeCalls (r.callsOn v) type v.state) else []

/-- The state that is kept in the store, of a request that gets to the guest. -/
def StateRequest.stored (r : StateRequest) : Option UInt16 :=
  if r.calls.Reaches ∧ r.store then r.calls.requestedState else none

/-- The values of the store behind a request. `__state_change` writes the state that was
requested, whether it was granted or not. -/
def StateRequest.record (r : StateRequest) (values : Values) : Values :=
  r.stored.elim values fun number =>
    Function.update values reqstateKey (some (.u64 number.toUInt64))

/-- What a request makes of a guest. -/
def VirtualSystem.requested (effect : DomainEffect) (type : ConnType) (v : VirtualSystem)
    (r : StateRequest) : VirtualSystem where
  state := effect.after v.state (r.made type v)
  image := v.image
  values := r.record v.values

/-! ### Guests that can be enabled -/

/-- All calls succeed. -/
def granting (number : UInt16) : StateRequest where
  calls :=
    { requestedState := some number, name := some "", prevInstance := true, connect := .ok ()
      lookup := true, getInfo := true, saveImage := false, create := true, resume := true
      destroy := true, shutdown := true, suspend := true, reboot := true, getConnect := true
      xmlDesc := true, lookupAgain := true, define := true, infostore := true, alloc := true
      setScheduler := fun _ => true }
  store := true

/-- The guest runs, or is paused, or is off without an image. In each of these states some request
leads on: `__state_change` starts a guest that is off only if it has no image, and has no branch
for one that crashed. -/
def VirtualSystem.Startable (type : ConnType) (v : VirtualSystem) : Prop :=
  adjustStateXen type v.state ∈ [VirDomainState.running, .blocked, .paused] ∨
    v.state = .shutoff ∧ v.image = false

/-- Nothing is called in a state that is none of those. -/
theorem callIn_of_not_mem {states : List VirDomainState} {call : DomainCall × Bool}
    {state : VirDomainState} (h : state ∉ states) : callIn states call state = [] := if_neg h

/-- **No call is made for any other guest**, whatever is requested. Each branch of
`__state_change` tests the state before its call, and `start_domain` looks for an image. -/
theorem made_of_not_startable {type : ConnType} {v : VirtualSystem} (h : ¬ v.Startable type)
    (r : StateRequest) : r.made type v = [] := by
  -- the guest is neither active, nor off without an image
  obtain ⟨hactive, hoff⟩ := not_or.mp h
  have hrunning : adjustStateXen type v.state ∉ [VirDomainState.running, .blocked] := by
    intro hmem
    refine hactive ?_
    simp only [List.mem_cons, List.not_mem_nil, or_false] at hmem ⊢
    exact hmem.elim .inl fun hblocked => .inr (.inl hblocked)
  -- no request makes a call in such a state
  have hnone (request : RequestedState) :
      madeCalls (r.callsOn v) type v.state request = [] := by
    cases request with
    | enabled =>
      unfold madeCalls
      cases hstate : v.state with
      | shutoff =>
        -- there is an image
        exact if_pos (Bool.of_not_eq_false fun himage => hoff ⟨hstate, himage⟩)
      | paused =>
        refine absurd ?_ hactive
        rw [hstate]
        simp [adjustStateXen]
      | _ => rfl
    | disabled => exact callIn_of_not_mem hrunning
    | shutdown => exact callIn_of_not_mem hrunning
    | paused => exact callIn_of_not_mem hrunning
    | reboot => exact callIn_of_not_mem hactive
    | reset => exact if_neg fun hreset => hactive hreset.1
  -- unless libvirt was reached, nothing is called at all
  unfold StateRequest.made
  split_ifs
  · cases r.calls.state? with
    | none => rfl
    | some request => exact hnone request
  · rfl

/-- Such a guest stays as it is but for the record of the request. -/
theorem requested_of_not_startable (effect : DomainEffect) {type : ConnType} {v : VirtualSystem}
    (h : ¬ v.Startable type) (r : StateRequest) :
    v.requested effect type r = { v with values := r.record v.values } := by
  unfold VirtualSystem.requested
  rw [made_of_not_startable h r, after_nil]

/-- A Xen guest without a state aside, the state is taken as it is. -/
theorem adjustStateXen_of_ne (type : ConnType) {state : VirDomainState} (h : state ≠ .nostate) :
    adjustStateXen type state = state := if_pos h

/-- A guest that runs is shown as enabled. -/
theorem cimState_running (type : ConnType) (image : Bool) :
    cimState type image .running = .enabled := by
  rw [cimState, adjustStateXen_of_ne type (by decide)]
  rfl

/-- One that is enabled does run. -/
theorem running_of_cimState {type : ConnType} {image : Bool} {state : VirDomainState}
    (h : cimState type image state = .enabled) :
    adjustStateXen type state ∈ [VirDomainState.running, .blocked] := by
  revert h
  unfold cimState
  cases adjustStateXen type state <;> cases image <;> decide

/-- A guest that is startable and not shown as enabled is paused, or off without an image. -/
theorem VirtualSystem.Startable.cases {type : ConnType} {v : VirtualSystem}
    (h : v.Startable type) :
    cimState type v.image v.state = .enabled ∨ v.state = .paused ∨
      v.state = .shutoff ∧ v.image = false := by
  obtain hactive | hoff := h
  · revert hactive
    unfold cimState adjustStateXen
    cases v.state <;> simp [CimState.ofLibvirt]
    -- a guest of Xen that has no state
    by_cases hxen : streqc type.text "Xen" <;> simp [hxen]
  · exact .inr (.inr hoff)

/-- **Which guests can be enabled by requests for a state.** Some sequence of requests leads to a
guest that is shown as enabled exactly if it is startable; of the effects of the calls this needs
that `virDomainCreate` and `virDomainResume` leave the guest running. For one that is shut off
with an image, has crashed, is about to shut down or is in no state that is known, no request
makes a call, and all that changes is the record of what was requested
(`made_of_not_startable`). -/
theorem enabled_by_requests_iff {effect : DomainEffect} (hdoc : effect.Documented)
    (type : ConnType) (v : VirtualSystem) (opened : Bool) :
    ((∃ requests : List StateRequest,
        ((requests.foldl (VirtualSystem.requested effect type) v).shown type opened).enabledState =
          some CimState.enabled.number) ↔ v.Startable type) ∧
      (¬ v.Startable type → ∀ r : StateRequest, r.made type v = [] ∧
        v.requested effect type r = { v with values := r.record v.values }) := by
  refine ⟨⟨?_, ?_⟩, fun hnot r =>
    ⟨made_of_not_startable hnot r, requested_of_not_startable effect hnot r⟩⟩
  -- whoever is enabled in the end was startable in the beginning
  · rintro ⟨requests, hshown⟩
    by_contra hnot
    -- nothing changes, so the guest was enabled before
    have hkept (requests : List StateRequest) :
        (requests.foldl (VirtualSystem.requested effect type) v).state = v.state ∧
          (requests.foldl (VirtualSystem.requested effect type) v).image = v.image := by
      induction requests using List.reverseRecOn with
      | nil => exact ⟨rfl, rfl⟩
      | append_singleton requests r ih =>
        have hagain :
            ¬ (requests.foldl (VirtualSystem.requested effect type) v).Startable type := by
          unfold VirtualSystem.Startable
          rw [ih.1, ih.2]
          exact hnot
        rw [List.foldl_append, List.foldl_cons, List.foldl_nil,
          requested_of_not_startable effect hagain r]
        exact ih
    -- the state shown is the one the guest has
    rw [enabledState_shown, (hkept requests).1, (hkept requests).2] at hshown
    have henabled : cimState type v.image v.state = .enabled := by
      revert hshown
      cases cimState type v.image v.state <;> decide
    have hrunning := running_of_cimState henabled
    refine hnot (.inl ?_)
    simp only [List.mem_cons, List.not_mem_nil, or_false] at hrunning ⊢
    exact hrunning.elim .inl fun hblocked => .inr (.inl hblocked)
  · intro hstartable
    -- a guest that is paused or off takes one request
    have hone (hstate : (v.requested effect type (granting 2)).state = .running) :
        ∃ requests : List StateRequest,
          ((requests.foldl (VirtualSystem.requested effect type) v).shown type
            opened).enabledState = some CimState.enabled.number := by
      refine ⟨[granting 2], ?_⟩
      rw [List.foldl_cons, List.foldl_nil, enabledState_shown, hstate, cimState_running]
    -- enabled already, paused, or off without an image
    obtain henabled | hpaused | ⟨hoff, himage⟩ := hstartable.cases
    · refine ⟨[], ?_⟩
      rw [List.foldl_nil, enabledState_shown, henabled]
    -- a paused guest is resumed
    · refine hone ?_
      show effect.after v.state (madeCalls _ type v.state .enabled) = .running
      rw [hpaused]
      exact hdoc.resume
    -- one that is off is created
    · refine hone ?_
      show effect.after v.state (madeCalls ((granting 2).callsOn v) type v.state .enabled) = _
      rw [hoff]
      show effect.after .shutoff (if v.image then _ else _) = _
      rw [himage]
      exact hdoc.create

/-- What libvirt does to a guest for which a call is made. -/
def promptEffect : DomainEffect
  | .create, _ | .resume, _ => .running
  | .destroy, _ => .shutoff
  | .suspend, _ => .paused
  | .define, state | .shutdown, state | .reboot, state => state

theorem promptEffect_documented : promptEffect.Documented where
  create := rfl
  resume := rfl
  destroy _ _ := rfl
  define := rfl
  suspend _ _ := rfl
  shutdown _ _ := rfl
  reboot _ _ := rfl

/-- A guest that has crashed. -/
def crashedGuest : VirtualSystem := ⟨.crashed, false, fun _ => none⟩

/-- No sequence of requests enables it, and none makes a call. -/
theorem not_enabled_crashedGuest :
    (¬ ∃ requests : List StateRequest,
        ((requests.foldl (VirtualSystem.requested promptEffect .qemu) crashedGuest).shown .qemu
          true).enabledState = some CimState.enabled.number) ∧
      ∀ r : StateRequest, r.made .qemu crashedGuest = [] := by
  have hnot : ¬ crashedGuest.Startable .qemu := by
    rintro (hactive | hoff)
    · exact absurd hactive (by decide)
    · exact VirDomainState.noConfusion hoff.1
  obtain ⟨hiff, hnone⟩ :=
    enabled_by_requests_iff promptEffect_documented .qemu crashedGuest true
  exact ⟨fun hshown => hnot (hiff.mp hshown), fun r => (hnone hnot r).1⟩

/-! ### What a client can tell from the answers -/

/-- The state a request is for, from the state before it. -/
def CimState.target (image : Bool) (before : CimState) : RequestedState → CimState
  | .enabled | .reset => .enabled
  | .disabled => .off image
  | .paused => .paused
  | .shutdown | .reboot => before

/-- What the messages of a reset begin with that has ended the guest and not started it again. -/
def resetFailures : List String := ["Unable to define domain: ", "Failed to start domain: "]

/-- An answer to a reset that has ended the guest and not started it again. -/
def CmpiStatus.endedByReset : CmpiStatus → Bool
  | .error .failed msg => resetFailures.any (startsWith msg ·)
  | _ => false

/-- What a client takes for the state behind an answer. -/
def CimState.tracked (image : Bool) (before : CimState) (request : Option RequestedState)
    (status : CmpiStatus) : CimState :=
  if status = .ok then request.elim before (before.target image)
  else if CmpiStatus.endedByReset status then .off image
  else before

/-- A request that has no connection is told so: the status of `connect_by_classname` is neither
fine, as it is where `virConnectOpen` fails, nor that of a reset. -/
def StateCalls.ConnectTells (calls : StateCalls) : Prop :=
  ∀ s, calls.connect = .error s → s ≠ .ok ∧ CmpiStatus.endedByReset s = false

theorem tracked_of_ok (image : Bool) (before : CimState) (request : RequestedState) :
    before.tracked image (some request) .ok = before.target image request := if_pos rfl

theorem tracked_of_refused {image : Bool} {before : CimState} {request : Option RequestedState}
    {status : CmpiStatus} (hok : status ≠ .ok)
    (hreset : CmpiStatus.endedByReset status = false) :
    before.tracked image request status = before := by
  rw [CimState.tracked, if_neg hok, hreset]
  exact if_neg Bool.false_ne_true

/-- A text that goes on begins with another only if one of both begins with the other. -/
theorem startsWith_append {a t pre : String} (h : startsWith (a ++ t) pre) :
    startsWith a pre ∨ startsWith pre a := by
  unfold startsWith at h ⊢
  rw [String.toList_append, List.isPrefixOf_iff_prefix] at h
  rw [List.isPrefixOf_iff_prefix, List.isPrefixOf_iff_prefix]
  exact List.prefix_or_prefix_of_prefix h (List.prefix_append _ _)

/-- A message is told from those of a reset whatever libvirt adds to it. -/
theorem endedByReset_virtSetStatus {msg : String} (lastError : Option String)
    (h : ∀ text ∈ resetFailures, startsWith (msg ++ ": ") text = false ∧
      startsWith text (msg ++ ": ") = false) :
    CmpiStatus.endedByReset (virtSetStatus .failed lastError msg) = false := by
  rw [virtSetStatus, CmpiStatus.endedByReset, List.any_eq_false]
  intro text htext hstarts
  obtain ⟨hafter, hbefore⟩ := h text htext
  obtain hstarts | hstarts := startsWith_append hstarts
  · exact Bool.eq_false_iff.mp hafter hstarts
  · exact Bool.eq_false_iff.mp hbefore hstarts

/-- The messages of a reset are known whatever libvirt adds to them. -/
theorem endedByReset_of_mem {msg : String} (lastError : Option String)
    (h : msg ++ ": " ∈ resetFailures) :
    CmpiStatus.endedByReset (virtSetStatus .failed lastError msg) = true := by
  rw [virtSetStatus, CmpiStatus.endedByReset, List.any_eq_true]
  refine ⟨_, h, ?_⟩
  generalize msg ++ ": " = text
  rw [startsWith, String.toList_append, List.isPrefixOf_iff_prefix]
  exact List.prefix_append _ _

section
variable {effect : DomainEffect} {calls : StateCalls} {type : ConnType} {image : Bool}
  {state : VirDomainState}

theorem cimState_shutoff (type : ConnType) (image : Bool) :
    cimState type image .shutoff = .off image := by
  rw [cimState, adjustStateXen_of_ne type (by decide)]
  rfl

theorem cimState_paused (type : ConnType) (image : Bool) :
    cimState type image .paused = .paused := by
  rw [cimState, adjustStateXen_of_ne type (by decide)]
  rfl

/-- A call that leads to a state where it is made and succeeds, and changes nothing otherwise. -/
theorem cimState_callIn {states : List VirDomainState} {call : DomainCall × Bool}
    {unable refusal : String} {request : RequestedState}
    (htarget : adjustStateXen type state ∈ states →
      cimState type image (effect call.1 state) =
        (cimState type image state).target image request)
    (hunable : ∀ text ∈ resetFailures, startsWith (unable ++ ": ") text = false ∧
      startsWith text (unable ++ ": ") = false)
    (hrefusal : CmpiStatus.endedByReset (.failed refusal) = false) :
    cimState type image (effect.after state (callIn states call (adjustStateXen type state))) =
      (cimState type image state).tracked image (some request)
        (inStates calls states call.2 unable refusal (adjustStateXen type state)) := by
  obtain ⟨call, ok⟩ := call
  unfold inStates callIn
  -- the call is made in one of the states, and answers or not
  by_cases hstate : adjustStateXen type state ∈ states
  · rw [if_pos hstate, if_pos hstate, after_cons, after_nil]
    cases ok with
    | true =>
      rw [if_pos rfl, if_pos rfl, tracked_of_ok]
      exact htarget hstate
    | false =>
      rw [if_neg Bool.false_ne_true, if_neg Bool.false_ne_true,
        tracked_of_refused (virtSetStatus_ne_ok _ _ _)
          (endedByReset_virtSetStatus calls.lastError hunable)]
  -- in any other state there is no call and a refusal
  · rw [if_neg hstate, if_neg hstate, after_nil,
      tracked_of_refused (fun h => CmpiStatus.noConfusion h) hrefusal]

/-- Enabling a guest. -/
theorem cimState_enabled (hdoc : effect.Documented) (values : Values) :
    cimState type image (effect.after state (madeCalls calls type state .enabled)) =
      (cimState type image state).tracked image (some .enabled)
        (stateChangeEnable calls type values state).1 := by
  have hinvalid : CmpiStatus.endedByReset (.failed "Invalid state transition") = false := by
    decide +kernel
  -- from off it is created, from a pause it is resumed, and from elsewhere nothing
  cases state with
  | shutoff =>
    show cimState type image (effect.after _ (if _ then _ else _)) =
      CimState.tracked _ _ _ (startDomain _ _ _).1
    unfold startDomain
    -- with a saved image libvirt is not asked
    cases calls.saveImage with
    | true =>
      rw [if_pos rfl, if_pos rfl,
        tracked_of_refused (fun h => CmpiStatus.noConfusion h) rfl, after_nil]
    | false =>
      rw [if_neg Bool.false_ne_true, if_neg Bool.false_ne_true, after_cons, after_nil]
      -- created, or refused with the guest still off
      cases calls.create with
      | true =>
        rw [if_pos rfl, hdoc.create, cimState_running]
        rfl
      | false =>
        rw [if_neg Bool.false_ne_true]
        exact (tracked_of_refused (virtSetStatus_ne_ok _ _ _)
          (endedByReset_virtSetStatus calls.lastError (by decide +kernel))).symm
  | paused =>
    show cimState type image (if _ then _ else _) = CimState.tracked _ _ _ (if _ then _ else _)
    split_ifs with hresume
    · rw [hdoc.resume, cimState_running]
      rfl
    · exact (tracked_of_refused (virtSetStatus_ne_ok _ _ _)
        (endedByReset_virtSetStatus calls.lastError (by decide +kernel))).symm
  | _ => exact (tracked_of_refused (fun h => CmpiStatus.noConfusion h) hinvalid).symm

/-- The calls of a reset: the guest is off behind the first, and on behind the last. -/
theorem cimState_resetCalls (hdoc : effect.Documented) (hstate : state ∈ activeStates)
    (hconnect : calls.getConnect) (hxml : calls.xmlDesc) :
    cimState type image (effect.after state (resetCalls calls)) =
      (cimState type image state).tracked image (some .reset) (domainReset calls) := by
  -- these messages tell that the guest has gone
  have hended {msg : String} (h : msg ++ ": " ∈ resetFailures) :
      (cimState type image state).tracked image (some .reset)
        (virtSetStatus .failed calls.lastError msg) = .off image := by
    rw [CimState.tracked, if_neg (virtSetStatus_ne_ok _ _ _), if_pos (endedByReset_of_mem _ h)]
  unfold resetCalls domainReset
  rw [hconnect, hxml, after_cons]
  -- a reset begins with a destroy
  cases calls.destroy with
  | false =>
    exact (tracked_of_refused (virtSetStatus_ne_ok _ _ _)
      (endedByReset_virtSetStatus calls.lastError (by decide +kernel))).symm
  | true =>
    have hstart : effect.after .shutoff [(.create, calls.create)] =
        if calls.create then .running else .shutoff := by
      rw [after_cons, after_nil, hdoc.create]
    -- both ways to a definition lead to the same start
    have hcreate : cimState type image (effect.after .shutoff [(.create, calls.create)]) =
        (cimState type image state).tracked image (some .reset)
          (if !calls.create then virtSetStatus .failed calls.lastError "Failed to start domain"
            else .ok) := by
      rw [hstart]
      cases calls.create with
      | true => exact cimState_running type image
      | false => exact (cimState_shutoff type image).trans (hended (by decide +kernel)).symm
    -- the guest is off now, whatever follows
    rw [if_pos rfl, if_pos rfl, hdoc.destroy state hstate]
    -- looked up again, or defined anew from what was read before
    cases calls.lookupAgain with
    | true => exact hcreate
    | false =>
      rw [if_neg Bool.false_ne_true, after_cons, hdoc.define, ite_self]
      cases calls.define with
      | true => exact hcreate
      | false => exact (cimState_shutoff type image).trans (hended (by decide +kernel)).symm

/-- Resetting a guest. -/
theorem cimState_reset (hdoc : effect.Documented) :
    cimState type image (effect.after state (madeCalls calls type state .reset)) =
      (cimState type image state).tracked image (some .reset)
        (stateChangeReset calls (adjustStateXen type state)) := by
  rw [madeCalls, stateChangeReset]
  -- a reset from the active states only
  by_cases hactive : adjustStateXen type state ∈ [VirDomainState.running, .blocked, .paused]
  · rw [if_pos hactive]
    by_cases hread : calls.getConnect ∧ calls.xmlDesc
    · rw [if_pos ⟨hactive, hread⟩]
      exact cimState_resetCalls hdoc (mem_activeStates_of_adjusted hactive) hread.1 hread.2
    · -- the definition is not to be had, and nothing is done
      rw [if_neg fun h => hread h.2, after_nil]
      refine (tracked_of_refused ?_ ?_).symm
      · rw [Ne, domainReset_eq_ok_iff]
        exact fun h => hread ⟨h.1, h.2.1⟩
      · unfold domainReset
        cases hconnect : calls.getConnect with
        | false =>
          show CmpiStatus.endedByReset (.failed "Unable to get domain connection") = false
          decide +kernel
        | true =>
          rw [Bool.eq_false_iff.mpr fun hxml => hread ⟨hconnect, hxml⟩]
          exact endedByReset_virtSetStatus calls.lastError (by decide +kernel)
  · rw [if_neg (fun h => hactive h.1), if_neg hactive,
      tracked_of_refused (fun h => CmpiStatus.noConfusion h) (by decide +kernel), after_nil]

/-- A guest that is asked, and stays as it is. -/
theorem mem_activeStates_of_running
    (h : adjustStateXen type state ∈ [VirDomainState.running, .blocked]) :
    state ∈ activeStates := by
  refine @mem_activeStates_of_adjusted type state ?_
  simp only [List.mem_cons, List.not_mem_nil, or_false] at h ⊢
  exact h.elim .inl fun hblocked => .inr (.inl hblocked)

/-- **The state behind a request that gets to the guest** is the one a client takes it for. -/
theorem cimState_after_madeCalls (hdoc : effect.Documented) (values : Values)
    (request : RequestedState) :
    cimState type image (effect.after state (madeCalls calls type state request)) =
      (cimState type image state).tracked image (some request)
        (changeState calls type state values (some request)).1 := by
  -- by the request, each with the effect libvirt documents for its call
  cases request with
  | enabled => exact cimState_enabled hdoc values
  | disabled =>
    refine cimState_callIn (fun hstate => ?_) (by decide +kernel) (by decide +kernel)
    rw [hdoc.destroy state (mem_activeStates_of_running hstate)]
    exact cimState_shutoff type image
  | shutdown =>
    refine cimState_callIn (fun hstate => ?_) (by decide +kernel) (by decide +kernel)
    rw [hdoc.shutdown state (mem_activeStates_of_running hstate)]
    rfl
  | paused =>
    refine cimState_callIn (fun hstate => ?_) (by decide +kernel) (by decide +kernel)
    rw [hdoc.suspend state (mem_activeStates_of_running hstate)]
    exact cimState_paused type image
  | reboot =>
    refine cimState_callIn (fun hstate => ?_) (by decide +kernel) (by decide +kernel)
    rw [hdoc.reboot state (mem_activeStates_of_adjusted hstate)]
    rfl
  | reset => exact cimState_reset hdoc

/-- A request that does not get to the guest is answered like none that does. -/
theorem status_of_not_reaches {values : Values} (hnumber : calls.requestedState.isSome)
    (htells : calls.ConnectTells) (hreaches : ¬ calls.Reaches) :
    (stateChange calls type state values).1 ≠ .ok ∧
      CmpiStatus.endedByReset (stateChange calls type state values).1 = false := by
  unfold StateCalls.Reaches at hreaches
  unfold stateChange
  -- the number is there, so the calls are what fails
  rw [if_neg (by simpa [Option.isSome_iff_ne_none] using hnumber)]
  cases hname : calls.name with
  | none =>
    have hmissing : CmpiStatus.endedByReset (.failed "Name key not specified") = false := by
      decide +kernel
    exact ⟨fun h => CmpiStatus.noConfusion h, hmissing⟩
  | some name =>
    cases hprev : calls.prevInstance with
    | false => exact ⟨fun h => CmpiStatus.noConfusion h, rfl⟩
    | true =>
      cases hconnect : calls.connect with
      | error s => exact htells s hconnect
      -- each of the later calls has a message of its own
      | ok _ =>
        cases hlookup : calls.lookup with
        | false =>
          exact ⟨virtSetStatus_ne_ok _ _ _,
            endedByReset_virtSetStatus calls.lastError (by decide +kernel)⟩
        | true =>
          cases hinfo : calls.getInfo with
          | false =>
            exact ⟨virtSetStatus_ne_ok _ _ _,
              endedByReset_virtSetStatus calls.lastError (by decide +kernel)⟩
          | true =>
            refine absurd ?_ hreaches
            rw [hname, hprev, hconnect, hlookup, hinfo]
            exact ⟨rfl, rfl, rfl, rfl, rfl⟩

end

/-- **One request.** What is shown behind it is what a client takes it for, from what was shown
before and the answer. A request that gets to the guest is `cimState_after_madeCalls`; any other
makes no call and is answered with an error. -/
theorem cimState_requested {effect : DomainEffect} (hdoc : effect.Documented) {type : ConnType}
    {v : VirtualSystem} {r : StateRequest} (htells : r.calls.ConnectTells) :
    cimState type v.image (v.requested effect type r).state =
      (cimState type v.image v.state).tracked v.image r.calls.state? (r.status type v) := by
  -- which calls are made decides what becomes of the guest
  show cimState type v.image (effect.after v.state (r.made type v)) = _
  unfold StateRequest.made
  cases hnumber : r.calls.requestedState with
  | none =>
    -- the argument is missing, and nothing is done
    have hstate : r.calls.state? = none := by
      rw [StateCalls.state?, hnumber]
      rfl
    have hstatus : r.status type v = .error .invalidParameter "Invalid RequestedState" := by
      show (stateChange (r.callsOn v) type v.state v.values).1 = _
      unfold stateChange
      rw [if_pos (show (r.callsOn v).requestedState.isNone by
        rw [show (r.callsOn v).requestedState = r.calls.requestedState from rfl, hnumber]; rfl)]
    rw [hstatus, tracked_of_refused (fun h => CmpiStatus.noConfusion h) rfl, hstate,
      Option.elim_none, ite_self, after_nil]
  | some number =>
    have hsome : (r.callsOn v).requestedState.isSome := by
      rw [show (r.callsOn v).requestedState = r.calls.requestedState from rfl, hnumber]
      rfl
    -- reached, or stopped by one of the calls before
    split_ifs with hreaches
    · obtain ⟨-, heq⟩ | ⟨hunconnected, -⟩ | ⟨hnot, -⟩ :=
        stateChange_cases type v.state v.values hsome
      · rw [StateRequest.status, heq]
        show _ = CimState.tracked _ _ _ (changeState _ type v.state v.values r.calls.state?).1
        cases hstate : r.calls.state? with
        | none => exact (tracked_of_refused (fun h => CmpiStatus.noConfusion h) rfl).symm
        | some request => exact cimState_after_madeCalls hdoc v.values request
      · exact absurd hunconnected (StateCalls.Reaches.not_unconnected hreaches)
      · exact absurd hreaches hnot
    · obtain ⟨hok, hreset⟩ :=
        @status_of_not_reaches (r.callsOn v) type v.state v.values hsome htells hreaches
      exact (tracked_of_refused hok hreset).symm

/-! ### Runs -/

/-- What happens to a guest: a request, or a change of its own, as when it shuts down, crashes or
is saved. -/
inductive GuestLabel
  | request (r : StateRequest)
  | own (state : VirDomainState) (image : Bool)

/-- What it leaves. -/
def VirtualSystem.step (effect : DomainEffect) (type : ConnType) (v : VirtualSystem) :
    GuestLabel → VirtualSystem
  | .request r => v.requested effect type r
  | .own state image => { v with state, image }

/-- What a client gets to see: the answer to a request, or the change. -/
inductive Observation
  | answered (request : Option RequestedState) (stored : Option UInt16) (status : CmpiStatus)
  | noticed (state : CimState) (image : Bool)

def VirtualSystem.observed (type : ConnType) (v : VirtualSystem) : GuestLabel → Observation
  | .request r => .answered r.calls.state? r.stored (r.status type v)
  | .own state image => .noticed (cimState type image state) image

/-- All that a client gets to see. -/
def observations (effect : DomainEffect) (type : ConnType) :
    VirtualSystem → List GuestLabel → List Observation
  | _, [] => []
  | v, l :: ls => v.observed type l :: observations effect type (v.step effect type l) ls

/-- What a client takes a guest for. -/
structure ClientView where
  state : CimState
  image : Bool
  requested : UInt16

def ClientView.see (c : ClientView) : Observation → ClientView
  | .answered request stored status =>
    { c with
      state := c.state.tracked c.image request status
      requested := stored.getD c.requested }
  | .noticed state image => { c with state, image }

/-- A client that has seen everything. -/
def VirtualSystem.seen (type : ConnType) (v : VirtualSystem) : ClientView where
  state := cimState type v.image v.state
  image := v.image
  requested := (storedU64 v.values reqstateKey).toUInt16

/-- The state that was requested is read back from the store. -/
theorem storedU64_record (r : StateRequest) (values : Values) :
    (storedU64 (r.record values) reqstateKey).toUInt16 =
      r.stored.getD (storedU64 values reqstateKey).toUInt16 := by
  unfold StateRequest.record
  cases r.stored with
  | none => rfl
  | some number =>
    rw [Option.elim_some, storedU64, Function.update_self]
    simp

/-- **One step**, and what is seen of it. -/
theorem seen_step {effect : DomainEffect} (hdoc : effect.Documented) {type : ConnType}
    {v : VirtualSystem} {l : GuestLabel}
    (h : ∀ r, l = .request r → r.calls.ConnectTells) :
    (v.step effect type l).seen type = (v.seen type).see (v.observed type l) := by
  cases l with
  | request r =>
    exact congrArg₂ (ClientView.mk · v.image ·) (cimState_requested hdoc (h r rfl))
      (storedU64_record r v.values)
  | own state image => rfl

/-- **What is shown of a guest follows from the answers.** Behind every run of requests, granted,
refused and failed ones in any order, and of changes that are noticed, `EnabledState` is the state
that follows from the answers, and `RequestedState`, as far as the store can be opened, the one of
the last request that got to the guest and to its store. This rests on `seen_step`, by induction
over the run, and on the effects that are documented; a request without a connection has to be
told so. -/
theorem shown_eq_tracked {effect : DomainEffect} (hdoc : effect.Documented) {type : ConnType}
    {v : VirtualSystem} {ls : List GuestLabel} (opened : Bool)
    (h : ∀ r, .request r ∈ ls → r.calls.ConnectTells) :
    ((ls.foldl (VirtualSystem.step effect type) v).shown type opened).enabledState =
        some ((observations effect type v ls).foldl ClientView.see (v.seen type)).state.number ∧
      ((ls.foldl (VirtualSystem.step effect type) v).shown type opened).requestedState =
        some (if opened then
          ((observations effect type v ls).foldl ClientView.see (v.seen type)).requested
          else 0) := by
  -- what a client has seen and what it is told go on side by side
  have hseen : (ls.foldl (VirtualSystem.step effect type) v).seen type =
      (observations effect type v ls).foldl ClientView.see (v.seen type) := by
    induction ls generalizing v with
    | nil => rfl
    | cons l ls ih =>
      rw [List.foldl_cons, observations, List.foldl_cons, ← seen_step hdoc]
      · exact ih fun r hr => h r (List.mem_cons_of_mem _ hr)
      · rintro r rfl
        exact h r List.mem_cons_self
  rw [← hseen, enabledState_shown, requestedState_shown]
  exact ⟨rfl, rfl⟩

/-- A guest that has crashed is shown as disabled, and is not enabled. -/
theorem not_granted_crashedGuest :
    (crashedGuest.shown .qemu true).enabledState = some CimState.disabled.number ∧
      (stateChange (granting 2).calls .qemu crashedGuest.state crashedGuest.values).1 ≠ .ok := by
  refine ⟨rfl, fun h => ?_⟩
  obtain ⟨request, hrequest, -, hnot, -⟩ :=
    (@granted_iff (granting 2).calls .qemu crashedGuest rfl ⟨rfl, rfl, rfl, rfl, rfl⟩ rfl).mp h
  obtain rfl := Option.some.inj hrequest
  exact hnot ⟨rfl, rfl⟩

/-- A guest that runs is paused, crashes, and is to be enabled, which is refused: it is shown as
disabled, and as requested to be enabled. -/
theorem shown_crashed :
    let ls := [.request (granting 9), .own .crashed false, .request (granting 2)]
    let v : VirtualSystem := ⟨.running, false, fun _ => none⟩
    ((ls.foldl (VirtualSystem.step promptEffect .qemu) v).shown .qemu true).enabledState =
        some 3 ∧
      ((ls.foldl (VirtualSystem.step promptEffect .qemu) v).shown .qemu true).requestedState =
        some 2 := by
  intro ls v
  have htells : ∀ r, .request r ∈ ls → r.calls.ConnectTells := by
    intro r hr s hs
    simp only [ls, List.mem_cons, GuestLabel.request.injEq, reduceCtorEq, false_or,
      List.not_mem_nil, or_false] at hr
    obtain rfl | rfl := hr <;> cases hs
  obtain ⟨hstate, hrequested⟩ :=
    @shown_eq_tracked promptEffect promptEffect_documented .qemu v ls true htells
  rw [hstate, hrequested]
  exact ⟨by decide +kernel, by decide +kernel⟩

end LibvirtCim.Service
