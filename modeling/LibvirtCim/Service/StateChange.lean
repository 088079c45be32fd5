import LibvirtCim.Service.SchedulingFrame

/-!
# Changing the state of a domain

`RequestStateChange` of `Virt_ComputerSystem.c`: `state_change` reads its arguments,
`__state_change` looks the domain up, and one function for each state that can be requested does
the rest. `start_domain` gives a domain that it has started the parameters that the information
store has for the scheduler (`set_scheduler_params`); `domain_reset` starts it anew without them.

What a request passes to the scheduler is `passed_of_starts` and `stateChange_of_resets`. For a Xen
domain the array of `xen_scheduler_params` has a place for the weight and one for the cap, but
both are written to the first (`xenSchedulerParams_eq`).
-/

open LibvirtCim.Infostore

namespace LibvirtCim.Service

/-! ### The parameters of the scheduler -/

/-- `VIR_DOMAIN_SCHED_FIELD_UINT`. -/
def schedFieldUint : ℕ := 2

/-- `virSchedParameter`, with a value that is an `unsigned int`. -/
structure SchedParam where
  field : String
  type : ℕ
  value : UInt32
  deriving DecidableEq, Repr

/-- What `calloc` gives. -/
def SchedParam.zero : SchedParam := ⟨"", 0, 0⟩

/-- `xen_scheduler_params`: the elements of the array that count. -/
def xenSchedulerParams (weight cap : UInt64) : List SchedParam :=
  let params := [SchedParam.zero, SchedParam.zero]
  let (params, nparams) :=
    if weight ≠ 0 then (params.set 0 ⟨"weight", schedFieldUint, weight.toUInt32⟩, 1)
    else (params, 0)
  let (params, nparams) :=
    if cap ≠ 0 then (params.set 0 ⟨"cap", schedFieldUint, cap.toUInt32⟩, nparams + 1)
    else (params, nparams)
  params.take nparams

/-- `lxc_scheduler_params`. -/
def lxcSchedulerParams (value : UInt64) : List SchedParam :=
  if value ≠ 0 then [⟨"cpu_shares", schedFieldUint, value.toUInt32⟩] else []

/-- The parameters for a type of connection, if there is memory for them. Those of a QEMU domain
are kept by libvirt. -/
def schedulerParams (alloc : Bool) (type : ConnType) (values : Values) :
    Option (List SchedParam) :=
  if streqc type.text "xen" then
    if alloc then
      some (xenSchedulerParams (storedU64 values weightKey) (storedU64 values limitKey))
    else none
  else if streqc type.text "lxc" then
    if alloc then some (lxcSchedulerParams (storedU64 values weightKey)) else none
  else some []

/-! ### Requests -/

/-- The arguments of a request, and what the calls it makes answer. -/
structure StateCalls where
  requestedState : Option UInt16
  /-- the key `Name` of the reference -/
  name : Option String
  /-- `get_domain_by_name`: there is an instance of the domain -/
  prevInstance : Bool
  /-- `connect_by_classname`, which may have no connection and a status that is fine -/
  connect : Except CmpiStatus Unit
  /-- `virDomainLookupByName` -/
  lookup : Bool
  /-- `virDomainGetInfo` -/
  getInfo : Bool
  /-- `vsss_has_save_image` -/
  saveImage : Bool
  /-- `virDomainCreate` -/
  create : Bool
  /-- `virDomainResume` -/
  resume : Bool
  /-- `virDomainDestroy` -/
  destroy : Bool
  /-- `virDomainShutdown` -/
  shutdown : Bool
  /-- `virDomainSuspend` -/
  suspend : Bool
  /-- `virDomainReboot` -/
  reboot : Bool
  /-- `virDomainGetConnect` -/
  getConnect : Bool
  /-- `virDomainGetXMLDesc` -/
  xmlDesc : Bool
  /-- `virDomainLookupByName` for a domain that was destroyed, and may be gone -/
  lookupAgain : Bool
  /-- `virDomainDefineXML` -/
  define : Bool
  /-- `infostore_open` in `set_scheduler_params` -/
  infostore : Bool
  /-- `calloc` -/
  alloc : Bool
  /-- `virDomainSetSchedulerParameters` -/
  setScheduler : List SchedParam → Bool
  /-- the text of the last error of the connection, which `virt_set_status` appends -/
  lastError : Option String := none

variable (calls : StateCalls)

/-- `set_scheduler_params`: what the scheduler has been given. Nothing is said of a failure. -/
def setSchedulerParams (type : ConnType) (values : Values) : List SchedParam :=
  if calls.getConnect && calls.infostore then
    match schedulerParams calls.alloc type values with
    | none => []
    | some params => if calls.setScheduler params then params else []
  else []

/-- `domain_reset`. -/
def domainReset : CmpiStatus :=
  if !calls.getConnect then .failed "Unable to get domain connection"
  else if !calls.xmlDesc then
    virtSetStatus .failed calls.lastError "Unable to get domain definition"
  else if !calls.destroy then virtSetStatus .failed calls.lastError "Unable to destroy domain"
  else if !(calls.lookupAgain || calls.define) then
    virtSetStatus .failed calls.lastError "Unable to define domain"
  else if !calls.create then virtSetStatus .failed calls.lastError "Failed to start domain"
  else .ok

/-- `start_domain`: the status, and what the scheduler has been given. -/
def startDomain (type : ConnType) (values : Values) : CmpiStatus × List SchedParam :=
  if calls.saveImage then (.error .notSupported "Domain has a snapshot", [])
  else if !calls.create then
    (virtSetStatus .failed calls.lastError "Unable to start domain", [])
  else (.ok, setSchedulerParams calls type values)

/-- `adjust_state_xen`. -/
def adjustStateXen (type : ConnType) (state : VirDomainState) : VirDomainState :=
  if state ≠ .nostate then state
  else if streqc type.text "Xen" then .running
  else state

/-- A call that is made in some states, and refused in the others. -/
def inStates (states : List VirDomainState) (call : Bool) (unable refusal : String)
    (state : VirDomainState) : CmpiStatus :=
  if state ∈ states then
    if call then .ok else virtSetStatus .failed calls.lastError unable
  else .failed refusal

/-- `state_change_enable`. -/
def stateChangeEnable (type : ConnType) (values : Values) :
    VirDomainState → CmpiStatus × List SchedParam
  | .shutoff => startDomain calls type values
  | .paused =>
    (if calls.resume then .ok
      else virtSetStatus .failed calls.lastError "Unable to unpause domain", [])
  | _ => (.failed "Invalid state transition", [])

/-- `state_change_disable`. -/
def stateChangeDisable : VirDomainState → CmpiStatus :=
  inStates calls [.running, .blocked] calls.destroy "Unable to disable domain"
    "Invalid state transition"

/-- `state_change_shutdown`. -/
def stateChangeShutdown : VirDomainState → CmpiStatus :=
  inStates calls [.running, .blocked] calls.shutdown "Unable to shutdown domain"
    "Invalid state transition"

/-- `state_change_pause`. -/
def stateChangePause : VirDomainState → CmpiStatus :=
  inStates calls [.running, .blocked] calls.suspend "Unable to pause domain" "Domain not running"

/-- `state_change_reboot`. -/
def stateChangeReboot : VirDomainState → CmpiStatus :=
  inStates calls [.running, .blocked, .paused] calls.reboot "Unable to reboot domain"
    "Domain not running"

/-- `state_change_reset`. -/
def stateChangeReset (state : VirDomainState) : CmpiStatus :=
  if state ∈ [VirDomainState.running, .blocked, .paused] then domainReset calls
  else .failed "Domain not running"

/-- The states that can be requested, with their numbers. -/
inductive RequestedState
  | enabled | disabled | shutdown | paused | reboot | reset
  deriving DecidableEq, Repr

/-- `enum CIM_state`, as far as it is known to `__state_change`. -/
def requestedStates : List (UInt16 × RequestedState) :=
  [(2, .enabled), (3, .disabled), (4, .shutdown), (9, .paused), (10, .reboot), (11, .reset)]

/-- The state a request is for. -/
def StateCalls.state? : Option RequestedState :=
  calls.requestedState.bind fun state => requestedStates.lookup state

/-- The branches of `__state_change`. -/
def changeState (type : ConnType) (guest : VirDomainState) (values : Values) :
    Option RequestedState → CmpiStatus × List SchedParam
  | some .enabled => stateChangeEnable calls type values guest
  | some .disabled => (stateChangeDisable calls (adjustStateXen type guest), [])
  | some .shutdown => (stateChangeShutdown calls (adjustStateXen type guest), [])
  | some .paused => (stateChangePause calls (adjustStateXen type guest), [])
  | some .reboot => (stateChangeReboot calls (adjustStateXen type guest), [])
  | some .reset => (stateChangeReset calls (adjustStateXen type guest), [])
  | none => (.error .notSupported "State not supported", [])

/-- `state_change` with `__state_change`, for a domain in a state and with the values of its
store: the status, and what the scheduler has been given. -/
def stateChange (type : ConnType) (guest : VirDomainState) (values : Values) :
    CmpiStatus × List SchedParam :=
  if calls.requestedState.isNone then (.error .invalidParameter "Invalid RequestedState", [])
  else
    match calls.name with
    | none => (.failed "Name key not specified", [])
    | some name =>
      if !calls.prevInstance then
        (.error .invalidParameter s!"Unable to get instance for guest '{name}'", [])
      else
        match calls.connect with
        | .error s => (s, [])
        | .ok () =>
          if !calls.lookup then
            (virtSetStatus .failed calls.lastError "Domain not found", [])
          else if !calls.getInfo then
            (virtSetStatus .failed calls.lastError "Unable to get current state", [])
          else changeState calls type guest values calls.state?

/-! ### What a request passes on -/

/-- The request gets to the domain: the arguments name it, the previous instance can be made, and
libvirt is connected to, finds it and says how it is. -/
def StateCalls.Reaches : Prop :=
  calls.name.isSome ∧ calls.prevInstance ∧ calls.connect = .ok () ∧ calls.lookup ∧ calls.getInfo

/-- There is no connection, and nothing is wrong. -/
def StateCalls.Unconnected : Prop :=
  calls.name.isSome ∧ calls.prevInstance ∧ calls.connect = .error .ok

/-- The request is to start a domain that is shut off. -/
def StateCalls.Starts (guest : VirDomainState) : Prop :=
  calls.state? = some .enabled ∧ guest = .shutoff

/-- The request is to reset a domain that runs. -/
def StateCalls.Resets (type : ConnType) (guest : VirDomainState) : Prop :=
  calls.state? = some .reset ∧
    adjustStateXen type guest ∈ [VirDomainState.running, .blocked, .paused]

/-- `virDomainCreate` is called for a domain that was shut off, and succeeds. -/
def StateCalls.StartSucceeds : Prop :=
  calls.Reaches ∧ calls.saveImage = false ∧ calls.create

/-- A domain that runs is destroyed, defined if that is needed, and started. -/
def StateCalls.ResetSucceeds : Prop :=
  calls.Reaches ∧ calls.getConnect ∧ calls.xmlDesc ∧ calls.destroy ∧
    (calls.lookupAgain ∨ calls.define) ∧ calls.create

variable {calls} {type : ConnType} {guest : VirDomainState} {values : Values}

/-- **How far a request gets.** To the domain; or there is no connection and nothing is wrong; or
it ends with an error. -/
theorem stateChange_cases (type : ConnType) (guest : VirDomainState) (values : Values)
    (h : calls.requestedState.isSome) :
    calls.Reaches ∧ stateChange calls type guest values =
        changeState calls type guest values calls.state? ∨
      calls.Unconnected ∧ stateChange calls type guest values = (.ok, []) ∨
      ¬ calls.Reaches ∧ ¬ calls.Unconnected ∧ (stateChange calls type guest values).1 ≠ .ok ∧
        (stateChange calls type guest values).2 = [] := by
  unfold stateChange StateCalls.Reaches StateCalls.Unconnected
  rw [if_neg (by simpa [Option.isSome_iff_ne_none] using h)]
  match calls.name, calls.prevInstance, calls.connect, calls.lookup, calls.getInfo with
  | none, _, _, _, _ => exact .inr (.inr (by simp))
  | some name, false, _, _, _ => exact .inr (.inr (by simp))
  | some name, true, .error .ok, _, _ => exact .inr (.inl (by simp))
  | some name, true, .error (.error rc msg), _, _ => exact .inr (.inr (by simp))
  | some name, true, .ok (), false, _ => exact .inr (.inr (by simp))
  | some name, true, .ok (), true, false => exact .inr (.inr (by simp))
  | some name, true, .ok (), true, true => exact .inl (by simp)

theorem isSome_requestedState {state : RequestedState} (h : calls.state? = some state) :
    calls.requestedState.isSome := by
  obtain ⟨number, hnumber, -⟩ := Option.bind_eq_some_iff.mp h
  rw [hnumber]
  rfl

theorem StateCalls.Reaches.not_unconnected (h : calls.Reaches) : ¬ calls.Unconnected := by
  intro hunconnected
  have hconnect := hunconnected.2.2
  rw [h.2.2.1] at hconnect
  cases hconnect

/-- A start is answered with a status that is fine if it succeeds, or if nothing is done. -/
theorem stateChange_ok_iff_of_starts (h : calls.Starts guest) :
    (stateChange calls type guest values).1 = .ok ↔ calls.StartSucceeds ∨ calls.Unconnected := by
  obtain ⟨hstate, rfl⟩ := h
  unfold StateCalls.StartSucceeds
  obtain ⟨hreaches, heq⟩ | ⟨hunconnected, heq⟩ | ⟨hnot, hnot', hne, -⟩ :=
    stateChange_cases type .shutoff values (isSome_requestedState hstate)
  · rw [heq, hstate]
    show (startDomain calls type values).1 = .ok ↔ _
    unfold startDomain
    cases calls.saveImage <;> cases calls.create <;> simp [hreaches, hreaches.not_unconnected]
  · rw [heq]
    exact iff_of_true rfl (.inr hunconnected)
  · exact iff_of_false hne fun h => h.elim (fun h => hnot h.1) hnot'

/-- **What a start passes on** when it succeeds is what `set_scheduler_params` sets. -/
theorem passed_of_starts (h : calls.Starts guest) (hsucceeds : calls.StartSucceeds) :
    (stateChange calls type guest values).2 = setSchedulerParams calls type values := by
  obtain ⟨hstate, rfl⟩ := h
  obtain ⟨hreaches, hsave, hcreate⟩ := hsucceeds
  obtain ⟨-, heq⟩ | ⟨hunconnected, -⟩ | ⟨hnot, -⟩ :=
    stateChange_cases type .shutoff values (isSome_requestedState hstate)
  · rw [heq, hstate]
    show (startDomain calls type values).2 = _
    unfold startDomain
    rw [hsave, hcreate]
    rfl
  · exact absurd hunconnected hreaches.not_unconnected
  · exact absurd hreaches hnot

/-- A request that has no connection passes nothing on. -/
theorem passed_of_unconnected (h : calls.requestedState.isSome)
    (hunconnected : calls.Unconnected) : (stateChange calls type guest values).2 = [] := by
  obtain ⟨hreaches, -⟩ | ⟨-, heq⟩ | ⟨-, hnot, -⟩ := stateChange_cases type guest values h
  · exact absurd hunconnected hreaches.not_unconnected
  · rw [heq]
  · exact absurd hunconnected hnot

theorem domainReset_eq_ok_iff :
    domainReset calls = .ok ↔ calls.getConnect ∧ calls.xmlDesc ∧ calls.destroy ∧
      (calls.lookupAgain ∨ calls.define) ∧ calls.create := by
  unfold domainReset
  cases calls.lookupAgain <;> cases calls.define <;> split_ifs <;> simp_all

/-- A reset is answered with a status that is fine if it succeeds, or if nothing is done, and
**a reset passes nothing on**. -/
theorem stateChange_of_resets (values : Values) (h : calls.Resets type guest) :
    ((stateChange calls type guest values).1 = .ok ↔
        calls.ResetSucceeds ∨ calls.Unconnected) ∧
      (stateChange calls type guest values).2 = [] := by
  obtain ⟨hstate, hrunning⟩ := h
  unfold StateCalls.ResetSucceeds
  have hnumber := isSome_requestedState hstate
  obtain ⟨hreaches, heq⟩ | ⟨hunconnected, heq⟩ | ⟨hnot, hnot', hne, hnil⟩ :=
    stateChange_cases type guest values hnumber
  · rw [heq, hstate]
    refine ⟨?_, rfl⟩
    show stateChangeReset calls (adjustStateXen type guest) = .ok ↔ _
    unfold stateChangeReset
    rw [if_pos hrunning, domainReset_eq_ok_iff]
    simp only [hreaches, hreaches.not_unconnected, true_and, or_false]
  · rw [heq]
    exact ⟨iff_of_true rfl (.inr hunconnected), rfl⟩
  · exact ⟨iff_of_false hne fun h => h.elim (fun h => hnot h.1) hnot', hnil⟩

/-! ### The array of a Xen domain -/

/-- **The array of `xen_scheduler_params`.** The cap takes the place of the weight, and the place
behind it stays as it was made. -/
theorem xenSchedulerParams_eq (weight cap : UInt64) :
    xenSchedulerParams weight cap =
      if cap ≠ 0 then
        ⟨"cap", schedFieldUint, cap.toUInt32⟩ :: if weight ≠ 0 then [SchedParam.zero] else []
      else if weight ≠ 0 then [⟨"weight", schedFieldUint, weight.toUInt32⟩] else [] := by
  unfold xenSchedulerParams
  split_ifs <;> rfl

end LibvirtCim.Service
