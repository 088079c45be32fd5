import LibvirtCim.Device.Parse
import LibvirtCim.Framework.Gather

/-!
# Enumerating the systems

`enum_domains` and `return_enum_domains` of `Virt_ComputerSystem.c`. What libvirt and the broker
tell of a domain is a `SystemView`; the functions that set the properties of an instance work on a
`SystemInstance` that has some of them. A failure is reported with the last error of the
connection, which a domain leaves there for those behind it, so that the loop carries it along.

* `systemFromDom_of_failure`, `systemFromDom_of_described` — what becomes of one domain;
* `status_returnEnumDomains` — the domain that comes last decides, with the last error of all;
* `systems_iff` — when the enumeration does not depend on the order and is exact.
-/

open Framework LibvirtCim.Device

namespace LibvirtCim.Enumeration

/-! ### Domains and instances -/

/-- The host: `connect_by_classname`, and what is asked of the connection. -/
structure SystemHost where
  connect : CmpiStatus := .ok
  /-- `pfx_from_conn` -/
  pfx : String
  /-- `virConnectGetType` says `Xen` -/
  xen : Bool := false
  /-- `gethostname` -/
  hostname : Option String := none

/-- What the calls about a domain answer. -/
structure SystemView where
  /-- `get_typed_instance` -/
  initialised : Bool := true
  /-- `get_dominfo` -/
  dominfo : Option Domain
  /-- `virDomainGetName` -/
  name : Option String
  /-- `virDomainGetUUIDString` -/
  uuid : Option String
  /-- the state of `virDomainGetInfo` -/
  info : Option VirDomainState
  /-- `vsss_has_save_image` -/
  saveImage : Bool := false
  /-- `infostore_open`, with `migrating` and `reqstate` -/
  infostore : Option (Bool × UInt64) := none
  /-- the array for `OperationalStatus` -/
  statusArray : Bool := true
  /-- the arrays for `OtherIdentifyingInfo` and `IdentifyingDescriptions` -/
  idArrays : Bool := true
  /-- what `virConnGetLastError` says after these calls, if one of them has left an error -/
  error : Option String := none

/-- An instance of `ComputerSystem`, with the properties that are set. -/
structure SystemInstance where
  classname : String
  creationClassName : Option String := none
  name : Option String := none
  elementName : Option String := none
  uuid : Option String := none
  caption : Option String := none
  description : Option String := none
  enabledState : Option UInt16 := none
  healthState : Option UInt16 := none
  operationalStatus : Option (List UInt16) := none
  operatingStatus : Option UInt16 := none
  requestedState : Option UInt16 := none
  otherIdentifyingInfo : Option (List String) := none
  identifyingDescriptions : Option (List String) := none
  deriving DecidableEq, Repr

/-! ### The states -/

/-- `state_lv_to_cim`. -/
def stateLvToCim : VirDomainState → UInt16
  | .nostate => 0
  | .running | .blocked => 2
  | .paused => 9
  | .shutdown => 4
  | .shutoff | .crashed => 3
  | .pmsuspended => 0

/-- `state_lv_to_cim_health`. -/
def stateLvToCimHealth : VirDomainState → UInt16
  | .nostate | .shutdown | .shutoff => 0
  | .crashed => 20
  | .running | .blocked | .paused => 5
  | .pmsuspended => 0

/-- `state_lv_to_cim_oings`. -/
def stateLvToCimOings (migrating : Bool) (state : VirDomainState) : UInt16 :=
  if migrating then 9
  else match state with
    | .nostate | .shutdown | .shutoff => 5
    | .crashed => 6
    | .running => 32768
    | .blocked | .paused => 7
    | .pmsuspended => 0

/-- `state_lv_to_cim_os`. -/
def stateLvToCimOs : VirDomainState → UInt16
  | .nostate | .shutdown | .shutoff => 15
  | .crashed => 6
  | .running | .blocked | .paused => 2
  | .pmsuspended => 0

section Systems

variable (host : SystemHost) (v : SystemView)

/-- `adjust_state_xen`. -/
def adjustStateXen (state : VirDomainState) : VirDomainState :=
  if state = .nostate ∧ host.xen then .running else state

/-- `adjust_state_if_saved`. -/
def adjustStateIfSaved (state : UInt16) : UInt16 :=
  if state = 3 ∧ v.saveImage then 6 else state

/-! ### The properties -/

/-- The caption of `set_capdesc_from_dominfo`. -/
def captionOf (domain : Domain) : String :=
  match domain.devGraphics with
  | [] => "Virtual System (No console)"
  | dev :: _ =>
    "Virtual System (Console on " ++ formatStr dev.dev.type ++ "://" ++
      host.hostname.getD "localhost" ++ ":" ++ formatStr dev.dev.port ++ ")"

/-- `set_capdesc_from_dominfo`. -/
def setCapdescFromDominfo (domain : Domain) (inst : SystemInstance) : SystemInstance :=
  { inst with caption := some (captionOf host domain), description := some "Virtual System" }

/-- `set_state_from_dom`, and whether it succeeds. -/
def setStateFromDom (inst : SystemInstance) : Bool × SystemInstance :=
  match v.info with
  | none => (false, inst)
  | some info =>
    let state := adjustStateXen host info
    let inst := { inst with
      enabledState := some (adjustStateIfSaved v (stateLvToCim state))
      healthState := some (stateLvToCimHealth state) }
    if v.statusArray then
      (true, { inst with
        operationalStatus := some [stateLvToCimOs state]
        operatingStatus :=
          some (stateLvToCimOings ((v.infostore.map Prod.fst).getD false) state)
        requestedState := some ((v.infostore.map fun values => values.2.toUInt16).getD 0) })
    else (false, inst)

/-- `set_creation_class`. -/
def setCreationClass (inst : SystemInstance) : SystemInstance :=
  { inst with creationClassName := some inst.classname }

/-- The values of `OtherIdentifyingInfo`. -/
def idInfo (uuid : String) : List String :=
  ["Virtual System", host.pfx ++ " Virtual System", uuid]

/-- `set_other_id_info`, and whether it succeeds. -/
def setOtherIdInfo (uuid : String) (inst : SystemInstance) : Bool × SystemInstance :=
  if v.idArrays then
    (true, { inst with
      otherIdentifyingInfo := some (idInfo host uuid)
      identifyingDescriptions := some ["Type", "Model", "UUID"] })
  else (false, inst)

/-- `set_properties`. `CMGetObjectPath` has left an OK in the status, which stays where no text
is set. -/
def setProperties (connError : Option String) (inst : SystemInstance) :
    CmpiStatus × SystemInstance :=
  match v.dominfo with
  | none => (virtSetStatus .failed connError "Unable to get domain information", inst)
  | some domain =>
  match v.name with
  | none => (virtSetStatus .failed connError "Unable to get domain name", inst)
  | some name =>
  let inst := { inst with name := some name, elementName := some name }
  match v.uuid with
  | none => (virtSetStatus .failed connError "Unable to get domain UUID", inst)
  | some uuid =>
  let inst := { inst with uuid := some uuid }
  let inst := setCapdescFromDominfo host domain inst
  match setStateFromDom host v inst with
  | (false, inst) => (virtSetStatus .failed connError "Unable to get domain info", inst)
  | (true, inst) => (.ok, (setOtherIdInfo host v uuid (setCreationClass inst)).2)

/-- An instance fresh from `get_typed_instance`. -/
def newSystem : SystemInstance :=
  { classname := host.pfx ++ "_ComputerSystem"
    creationClassName := some (host.pfx ++ "_ComputerSystem") }

/-- `instance_from_dom` of the systems. -/
def systemFromDom (connError : Option String) : CmpiStatus × Option SystemInstance :=
  if v.initialised then
    match setProperties host v connError (newSystem host) with
    | (.ok, inst) => (.ok, some inst)
    | (s, _) => (s, none)
  else (.failed "Unable to init ComputerSystem instance", none)

/-! ### The enumeration -/

/-- The loop of `enum_domains`: what it has gathered, and the last error of the connection. -/
structure SystemLoop where
  gathered : Gathered CmpiStatus SystemInstance
  connError : Option String

/-- A domain in the loop. -/
def systemStep (st : SystemLoop) (v : SystemView) : SystemLoop :=
  let connError := v.error.or st.connError
  let result := systemFromDom host v connError
  ⟨⟨result.1, st.gathered.items ++ result.2.toList⟩, connError⟩

/-- The loop, on a new connection. -/
def systemLoop (doms : List SystemView) : SystemLoop :=
  doms.foldl (systemStep host) ⟨⟨.ok, []⟩, none⟩

/-- `enum_domains`, for the domains that `get_domain_list` gives. Its count is that of the list
(`getDomainList_nonneg`), so the test for a failure is left out. -/
def enumDomains (doms : List SystemView) : Gathered CmpiStatus SystemInstance :=
  if host.connect = .ok then (systemLoop host doms).gathered else ⟨host.connect, []⟩

/-- `return_enum_domains`. -/
def returnEnumDomains (doms : List SystemView) : Gathered CmpiStatus SystemInstance :=
  (enumDomains host doms).keepIf (· = .ok)

/-! ### What is asked -/

/-- The instance of a domain, with all its properties. -/
def completeSystem (domain : Domain) (name uuid : String) (info : VirDomainState) :
    SystemInstance where
  classname := host.pfx ++ "_ComputerSystem"
  creationClassName := some (host.pfx ++ "_ComputerSystem")
  name := some name
  elementName := some name
  uuid := some uuid
  caption := some (captionOf host domain)
  description := some "Virtual System"
  enabledState := some (adjustStateIfSaved v (stateLvToCim (adjustStateXen host info)))
  healthState := some (stateLvToCimHealth (adjustStateXen host info))
  operationalStatus := some [stateLvToCimOs (adjustStateXen host info)]
  operatingStatus := some
    (stateLvToCimOings ((v.infostore.map Prod.fst).getD false) (adjustStateXen host info))
  requestedState := some ((v.infostore.map fun values => values.2.toUInt16).getD 0)
  otherIdentifyingInfo := some (idInfo host uuid)
  identifyingDescriptions := some ["Type", "Model", "UUID"]

/-- One complete instance for a domain of which everything is told, and none for another. -/
def describedSystem : List SystemInstance :=
  match v.dominfo, v.name, v.uuid, v.info with
  | some domain, some name, some uuid, some info =>
    if v.initialised ∧ v.statusArray ∧ v.idArrays then
      [completeSystem host v domain name uuid info]
    else []
  | _, _, _, _ => []

/-- The steps at which a domain may fail to be described. -/
inductive SystemFailure
  | init | dominfo | name | uuid | info
  deriving DecidableEq, Repr

/-- The text of a failure. -/
def SystemFailure.text : SystemFailure → String
  | .init => "Unable to init ComputerSystem instance"
  | .dominfo => "Unable to get domain information"
  | .name => "Unable to get domain name"
  | .uuid => "Unable to get domain UUID"
  | .info => "Unable to get domain info"

/-- The status of a failure. It was libvirt that failed, if there was an instance to fill. -/
def SystemFailure.status (connError : Option String) (failure : SystemFailure) : CmpiStatus :=
  if failure = .init then .failed failure.text else virtSetStatus .failed connError failure.text

/-- The failure to describe a domain. -/
def SystemView.failure : Option SystemFailure :=
  if v.initialised = false then some .init
  else if v.dominfo.isNone then some .dominfo
  else if v.name.isNone then some .name
  else if v.uuid.isNone then some .uuid
  else if v.info.isNone ∨ v.statusArray = false then some .info
  else none

/-- The failures of two domains read alike: they are the same, and if they are libvirt's, the two
leave no different errors on the connection. -/
structure FailAlike (v w : SystemView) : Prop where
  failure : v.failure = w.failure
  error : v.failure ≠ none → v.failure ≠ some .init →
    ∀ e ∈ v.error, ∀ e' ∈ w.error, e = e'

end Systems

/-! ### One domain -/

section Step

variable {host : SystemHost} {v : SystemView}

/-- The status of a domain, with the error that the connection has then. -/
def SystemView.status (v : SystemView) (connError : Option String) : CmpiStatus :=
  v.failure.elim .ok (SystemFailure.status connError)

/-- A domain that is not described has no instance. -/
theorem systemFromDom_of_failure (host : SystemHost) (connError : Option String)
    {failure : SystemFailure} (h : v.failure = some failure) :
    systemFromDom host v connError = (failure.status connError, none) ∧
      describedSystem host v = [] := by
  unfold SystemView.failure at h
  -- in the order of the calls: the first one that fails decides, and nothing is returned
  unfold systemFromDom setProperties setStateFromDom describedSystem
  cases hinit : v.initialised with
  | false =>
    rw [if_pos hinit] at h
    cases h
    refine ⟨rfl, ?_⟩
    split
    · exact if_neg fun hall => nomatch hall.1
    · rfl
  | true =>
  rw [if_neg (by rw [hinit]; exact Bool.false_ne_true.symm)] at h
  cases hdominfo : v.dominfo with
  | none =>
    rw [if_pos (by rw [hdominfo]; rfl)] at h
    cases h
    exact ⟨rfl, rfl⟩
  | some domain =>
  rw [if_neg (by rw [hdominfo]; exact Bool.false_ne_true)] at h
  cases hname : v.name with
  | none =>
    rw [if_pos (by rw [hname]; rfl)] at h
    cases h
    exact ⟨rfl, rfl⟩
  | some name =>
  rw [if_neg (by rw [hname]; exact Bool.false_ne_true)] at h
  cases huuid : v.uuid with
  | none =>
    rw [if_pos (by rw [huuid]; rfl)] at h
    cases h
    exact ⟨rfl, rfl⟩
  | some uuid =>
  rw [if_neg (by rw [huuid]; exact Bool.false_ne_true)] at h
  cases hinfo : v.info with
  | none =>
    rw [if_pos (.inl (by rw [hinfo]; rfl))] at h
    cases h
    exact ⟨rfl, rfl⟩
  | some info =>
  cases harray : v.statusArray with
  | false =>
    rw [if_pos (.inr harray)] at h
    cases h
    exact ⟨rfl, if_neg fun hall => nomatch hall.2.1⟩
  | true =>
    rw [if_neg (by rw [hinfo, harray]; exact fun hor => nomatch hor)] at h
    cases h

/-- What is told of a domain that is described. -/
theorem told_of_described (h : v.failure = none) :
    v.initialised = true ∧ v.statusArray = true ∧ ∃ domain name uuid info,
      v.dominfo = some domain ∧ v.name = some name ∧ v.uuid = some uuid ∧ v.info = some info := by
  unfold SystemView.failure at h
  -- the tests in their order, each of them passed
  split at h
  · cases h
  split at h
  · cases h
  split at h
  · cases h
  split at h
  · cases h
  split at h
  · cases h
  rename_i hinit hdominfo hname huuid hinfo
  rw [Option.isNone_iff_eq_none] at hdominfo hname huuid
  rw [not_or, Option.isNone_iff_eq_none] at hinfo
  obtain ⟨domain, hdomain⟩ := Option.ne_none_iff_exists'.mp hdominfo
  obtain ⟨name, hname⟩ := Option.ne_none_iff_exists'.mp hname
  obtain ⟨uuid, huuid⟩ := Option.ne_none_iff_exists'.mp huuid
  obtain ⟨info, hsome⟩ := Option.ne_none_iff_exists'.mp hinfo.1
  exact ⟨eq_true_of_ne_false hinit, eq_true_of_ne_false hinfo.2, domain, name, uuid, info,
    hdomain, hname, huuid, hsome⟩

/-- One that is described has one, which is complete if the last arrays can be made. Nothing of it
depends on the errors of others. -/
theorem systemFromDom_of_described (host : SystemHost) (h : v.failure = none) :
    ∃ inst, (∀ connError, systemFromDom host v connError = (.ok, some inst)) ∧
      describedSystem host v = if v.idArrays then [inst] else [] := by
  obtain ⟨hinit, harray, domain, name, uuid, info, hdominfo, hname, huuid, hinfo⟩ :=
    told_of_described h
  unfold systemFromDom setProperties setStateFromDom describedSystem setOtherIdInfo
  rw [hinit, harray, hdominfo, hname, huuid, hinfo]
  cases v.idArrays with
  | true => exact ⟨completeSystem host v domain name uuid info, fun _ => rfl, rfl⟩
  | false => exact ⟨_, fun _ => rfl, rfl⟩

/-- The status of one domain. -/
theorem systemFromDom_status (host : SystemHost) (v : SystemView) (connError : Option String) :
    (systemFromDom host v connError).1 = v.status connError := by
  unfold SystemView.status
  cases hfailure : v.failure with
  | none =>
    obtain ⟨inst, hinst, -⟩ := systemFromDom_of_described host hfailure
    rw [hinst]
    rfl
  | some failure =>
    rw [(systemFromDom_of_failure host connError hfailure).1]
    rfl

/-- The instance of one domain. -/
def systemItems (host : SystemHost) (v : SystemView) : List SystemInstance :=
  (systemFromDom host v none).2.toList

theorem systemFromDom_items (host : SystemHost) (v : SystemView) (connError : Option String) :
    (systemFromDom host v connError).2.toList = systemItems host v := by
  unfold systemItems
  cases hfailure : v.failure with
  | none =>
    obtain ⟨inst, hinst, -⟩ := systemFromDom_of_described host hfailure
    rw [hinst, hinst]
  | some failure =>
    rw [(systemFromDom_of_failure host connError hfailure).1,
      (systemFromDom_of_failure host none hfailure).1]

/-- The instance of a domain is left out of the complete ones if its last arrays cannot be made. -/
theorem describedSystem_sublist : (describedSystem host v).Sublist (systemItems host v) := by
  unfold systemItems
  cases hfailure : v.failure with
  | none =>
    obtain ⟨inst, hinst, hdescribed⟩ := systemFromDom_of_described host hfailure
    rw [hinst, hdescribed]
    split
    · exact List.Sublist.refl _
    · exact List.nil_sublist _
  | some failure =>
    rw [(systemFromDom_of_failure host none hfailure).2]
    exact List.nil_sublist _

theorem describedSystem_eq_iff :
    describedSystem host v = systemItems host v ↔ (v.failure = none → v.idArrays = true) := by
  unfold systemItems
  cases hfailure : v.failure with
  | none =>
    obtain ⟨inst, hinst, hdescribed⟩ := systemFromDom_of_described host hfailure
    rw [hinst, hdescribed]
    cases v.idArrays with
    | true => exact iff_of_true rfl fun _ => rfl
    | false => exact iff_of_false (fun h => nomatch h) fun h => nomatch h rfl
  | some failure =>
    obtain ⟨hstep, hdescribed⟩ := systemFromDom_of_failure host none hfailure
    rw [hstep, hdescribed]
    exact iff_of_true rfl fun h => nomatch h

end Step

/-! ### Statuses -/

/-- No text of a failure, with its colon, is the beginning of another. -/
theorem failure_eq_of_texts {f g : SystemFailure} {e e' : String}
    (h : f.text ++ ": " ++ e = g.text ++ ": " ++ e') : f = g ∧ e = e' := by
  have hbegins : ∀ f g : SystemFailure,
      (f.text ++ ": ").toList.isPrefixOf (g.text ++ ": ").toList = true → f = g := by
    intro f g
    cases f <;> cases g <;> decide +kernel
  have hlists : (f.text ++ ": ").toList ++ e.toList = (g.text ++ ": ").toList ++ e'.toList := by
    rw [← String.toList_append, ← String.toList_append, h]
  have hf : (f.text ++ ": ").toList <+: (g.text ++ ": ").toList ++ e'.toList :=
    hlists ▸ List.prefix_append _ _
  obtain rfl : f = g := by
    obtain hfg | hgf := List.prefix_or_prefix_of_prefix hf (List.prefix_append _ _)
    · exact hbegins f g (List.isPrefixOf_iff_prefix.mpr hfg)
    · exact (hbegins g f (List.isPrefixOf_iff_prefix.mpr hgf)).symm
  exact ⟨rfl, String.toList_injective (List.append_cancel_left hlists)⟩

/-- A failure of libvirt does not read like one of the broker. -/
theorem status_ne_init {g : SystemFailure} (hg : g ≠ .init) (e e' : Option String) :
    SystemFailure.status e .init ≠ g.status e' := by
  -- the status of init has its text alone, without what libvirt says
  intro h
  rw [SystemFailure.status, SystemFailure.status, if_pos rfl, if_neg hg] at h
  have htext : SystemFailure.init.text = g.text ++ ": " ++ e'.getD "(none)" := by
    injection h
  have hlists : SystemFailure.init.text.toList =
      (g.text ++ ": ").toList ++ (e'.getD "(none)").toList := by
    rw [← String.toList_append, ← htext]
  have hbegins : (g.text ++ ": ").toList.isPrefixOf SystemFailure.init.text.toList = true := by
    rw [List.isPrefixOf_iff_prefix, hlists]
    exact List.prefix_append _ _
  revert hbegins
  cases g with
  | init => exact absurd rfl hg
  -- no text of the others is the start of it
  | _ => decide +kernel

/-- The statuses of two failures, each with its error, are the same. -/
theorem failure_status_eq_iff {f g : SystemFailure} {e e' : Option String} :
    f.status e = g.status e' ↔ f = g ∧ (f ≠ .init → e.getD "(none)" = e'.getD "(none)") := by
  -- the failure of init is compared by itself, the others by text and error
  by_cases hf : f = .init
  · subst hf
    by_cases hg : g = .init
    · subst hg
      exact iff_of_true rfl ⟨rfl, fun h => absurd rfl h⟩
    · exact iff_of_false (status_ne_init hg e e') fun h => hg h.1.symm
  · by_cases hg : g = .init
    · subst hg
      exact iff_of_false (status_ne_init hf e' e).symm fun h => hf h.1
    -- two of the others: the fixed parts have to agree, and then the rest does
    · rw [SystemFailure.status, SystemFailure.status, if_neg hf, if_neg hg]
      refine ⟨fun h => ?_, fun ⟨hsame, herror⟩ => ?_⟩
      · have htext : f.text ++ ": " ++ e.getD "(none)" = g.text ++ ": " ++ e'.getD "(none)" := by
          injection h
        exact (failure_eq_of_texts htext).imp_right fun h _ => h
      · subst hsame
        rw [virtSetStatus, virtSetStatus, herror hf]

/-- The statuses of two domains, each with its error, are the same. -/
theorem status_eq_iff {v w : SystemView} {e e' : Option String} :
    v.status e = w.status e' ↔ v.failure = w.failure ∧
      (v.failure ≠ none → v.failure ≠ some .init → e.getD "(none)" = e'.getD "(none)") := by
  -- a view without a failure has a status that no failure has
  unfold SystemView.status
  cases v.failure with
  | none =>
    cases w.failure with
    | none => exact iff_of_true rfl ⟨rfl, fun h => absurd rfl h⟩
    | some g =>
      refine iff_of_false (fun h => ?_) fun h => nomatch h.1
      cases g <;> cases h
  | some f =>
    cases w.failure with
    | none =>
      refine iff_of_false (fun h => ?_) fun h => nomatch h.1
      cases f <;> cases h
    | some g =>
      refine failure_status_eq_iff.trans ?_
      simp only [Option.some.injEq, ne_eq, reduceCtorEq, not_false_eq_true, forall_true_left]

theorem status_ok_iff {v : SystemView} (e : Option String) :
    v.status e = .ok ↔ v.failure = none := by
  unfold SystemView.status
  cases v.failure with
  | none => exact iff_of_true rfl rfl
  | some f =>
    refine iff_of_false (fun h => ?_) fun h => nomatch h
    cases f <;> cases h

/-! ### The loop -/

/-- The last error that domains leave on the connection. -/
def lastError (doms : List SystemView) : Option String :=
  doms.foldl (fun connError v => v.error.or connError) none

theorem lastError_append (doms : List SystemView) (v : SystemView) :
    lastError (doms ++ [v]) = v.error.or (lastError doms) := by
  rw [lastError, List.foldl_append]
  rfl

/-- It is the error of one of them. -/
theorem mem_of_lastError {doms : List SystemView} {e : String} (h : lastError doms = some e) :
    ∃ v ∈ doms, v.error = some e := by
  induction doms using List.reverseRecOn with
  | nil => cases h
  | append_singleton doms v ih =>
    rw [lastError_append] at h
    cases herror : v.error with
    | some e' =>
      rw [herror, Option.some_or] at h
      exact ⟨v, List.mem_append_right _ (List.mem_singleton_self v), herror.trans h⟩
    | none =>
      rw [herror, Option.none_or] at h
      obtain ⟨w, hw, herror⟩ := ih h
      exact ⟨w, List.mem_append_left _ hw, herror⟩

/-- An error of a domain is not forgotten. -/
theorem lastError_isSome {doms : List SystemView} {v : SystemView} (hv : v ∈ doms)
    (h : v.error.isSome) : (lastError doms).isSome := by
  induction doms using List.reverseRecOn with
  | nil => cases hv
  | append_singleton doms w ih =>
    rw [lastError_append, Option.isSome_or, Bool.or_eq_true]
    obtain hv | hv := List.mem_append.mp hv
    · exact .inr (ih hv)
    · obtain rfl := List.mem_singleton.mp hv
      exact .inl h

/-- **Errors that do not differ** leave the same one in every order. -/
theorem lastError_perm {doms doms' : List SystemView} (hperm : doms'.Perm doms)
    (h : ∀ v ∈ doms, ∀ w ∈ doms, ∀ e ∈ v.error, ∀ e' ∈ w.error, e = e') :
    lastError doms' = lastError doms := by
  -- the last error is that of some domain, in whatever order they come
  cases hlast : lastError doms with
  | some e =>
    obtain ⟨v, hv, herror⟩ := mem_of_lastError hlast
    obtain ⟨e', hlast'⟩ := Option.isSome_iff_exists.mp
      (lastError_isSome (hperm.mem_iff.mpr hv) (by rw [herror]; rfl))
    obtain ⟨w, hw, herror'⟩ := mem_of_lastError hlast'
    rw [hlast', h v hv w (hperm.subset hw) e herror e' herror']
  -- no domain has an error, so none has one after reordering
  | none =>
    cases hlast' : lastError doms' with
    | none => rfl
    | some e =>
      obtain ⟨v, hv, herror⟩ := mem_of_lastError hlast'
      have hsome := lastError_isSome (hperm.subset hv) (by rw [herror]; rfl)
      rw [hlast] at hsome
      cases hsome

theorem systemLoop_append (host : SystemHost) (doms : List SystemView) (v : SystemView) :
    systemLoop host (doms ++ [v]) = systemStep host (systemLoop host doms) v := by
  rw [systemLoop, List.foldl_append]
  rfl

theorem connError_systemLoop (host : SystemHost) (doms : List SystemView) :
    (systemLoop host doms).connError = lastError doms := by
  induction doms using List.reverseRecOn with
  | nil => rfl
  | append_singleton doms v ih => rw [systemLoop_append, lastError_append, systemStep, ih]

/-- All instances are kept. -/
theorem items_systemLoop (host : SystemHost) (doms : List SystemView) :
    (systemLoop host doms).gathered.items = doms.flatMap (systemItems host) := by
  induction doms using List.reverseRecOn with
  | nil => rfl
  | append_singleton doms v ih =>
    rw [systemLoop_append, systemStep, ih, systemFromDom_items, List.flatMap_append,
      List.flatMap_singleton]

/-- **The domain that comes last decides**, and reports the last error of all. -/
theorem status_systemLoop (host : SystemHost) (doms : List SystemView) (v : SystemView) :
    (systemLoop host (doms ++ [v])).gathered.status = v.status (lastError (doms ++ [v])) := by
  rw [systemLoop_append, systemStep, lastError_append, connError_systemLoop]
  exact systemFromDom_status host v _

/-! ### The systems of a host -/

variable {host : SystemHost} {doms : List SystemView}

theorem returnEnumDomains_of_connect (h : host.connect = .ok) (doms : List SystemView) :
    returnEnumDomains host doms = (systemLoop host doms).gathered.keepIf (· = .ok) := by
  rw [returnEnumDomains, enumDomains, if_pos h]

theorem returnEnumDomains_of_not_connect (h : host.connect ≠ .ok) (doms : List SystemView) :
    returnEnumDomains host doms = ⟨host.connect, []⟩ := by
  rw [returnEnumDomains, enumDomains, if_neg h, Gathered.keepIf, if_neg h]

/-- Failures that read alike give one status, whichever domain comes last. -/
theorem status_of_failAlike (hsame : ∀ v ∈ doms, ∀ w ∈ doms, FailAlike v w)
    {doms' : List SystemView} (hperm : doms'.Perm doms) :
    (systemLoop host doms').gathered.status = (systemLoop host doms).gathered.status := by
  -- the status is that of the last domain of each order
  obtain rfl | ⟨before, v, rfl⟩ := List.eq_nil_or_concat' doms
  · rw [hperm.eq_nil]
  obtain rfl | ⟨before', w, rfl⟩ := List.eq_nil_or_concat' doms'
  · exact absurd hperm.nil_eq (by simp)
  have hv : v ∈ before ++ [v] := List.mem_append_right _ (List.mem_singleton_self v)
  have hw : w ∈ before ++ [v] :=
    hperm.subset (List.mem_append_right _ (List.mem_singleton_self w))
  -- the two domains fail alike, and so do the errors that stand at their turns
  rw [status_systemLoop, status_systemLoop, status_eq_iff]
  refine ⟨(hsame w hw v hv).failure, fun hfails hinit => ?_⟩
  rw [lastError_perm hperm fun x hx y hy => (hsame x hx y hy).error ?_ ?_]
  · rw [(hsame x hx w hw).failure]
    exact hfails
  · rw [(hsame x hx w hw).failure]
    exact hinit

/-- Each domain comes last in some order, and reports its own error then. -/
theorem failAlike_of_orderFree (hconnect : host.connect = .ok)
    (h : OrderFree (returnEnumDomains host) doms) :
    ∀ v ∈ doms, ∀ w ∈ doms, FailAlike v w := by
  -- each domain can be put last, and the status is then its own
  have hlast (v : SystemView) (hv : v ∈ doms) :
      ∃ e, (v.error.isSome → e = v.error) ∧
        v.status e = (returnEnumDomains host doms).status := by
    obtain ⟨before, hperm⟩ := exists_perm_append_singleton hv
    refine ⟨lastError (before ++ [v]), fun hsome => ?_, ?_⟩
    · obtain ⟨e, herror⟩ := Option.isSome_iff_exists.mp hsome
      rw [lastError_append, herror, Option.some_or]
    · rw [← (h _ hperm).1, returnEnumDomains_of_connect hconnect, status_keepIf, status_systemLoop]
  intro v hv w hw
  -- both domains put last give the same status
  obtain ⟨e, he, hstatus⟩ := hlast v hv
  obtain ⟨e', he', hstatus'⟩ := hlast w hw
  obtain ⟨hfailure, herrors⟩ := status_eq_iff.mp (hstatus.trans hstatus'.symm)
  refine ⟨hfailure, fun hfails hinit x hx y hy => ?_⟩
  have hsame := herrors hfails hinit
  rw [he (by rw [Option.mem_def.mp hx]; rfl), he' (by rw [Option.mem_def.mp hy]; rfl),
    Option.mem_def.mp hx, Option.mem_def.mp hy] at hsame
  exact hsame

/-- **When the systems are enumerated as asked**: the descriptions of all domains end alike, with
failures that read alike, and if they are good, none lacks its last arrays. The status of a failure
holds what libvirt says, which may name the domain. -/
theorem systems_iff (host : SystemHost) (doms : List SystemView) :
    OrderFree (returnEnumDomains host) doms ∧
        Exact (· = .ok) (describedSystem host) doms (returnEnumDomains host doms) ↔
      (host.connect = .ok → (∀ v ∈ doms, ∀ w ∈ doms, FailAlike v w) ∧
        ((∀ v ∈ doms, v.failure = none) → ∀ v ∈ doms, v.idArrays = true)) := by
  by_cases hconnect : host.connect = .ok
  -- without a connection there is nothing to enumerate, in any order
  swap
  · refine iff_of_true ⟨fun doms' _ => ?_, fun hok => ?_⟩ fun h => absurd h hconnect
    · rw [returnEnumDomains_of_not_connect hconnect, returnEnumDomains_of_not_connect hconnect]
      exact ⟨rfl, List.Perm.refl []⟩
    · rw [returnEnumDomains_of_not_connect hconnect] at hok
      exact absurd hok hconnect
  -- a domain is told in full if its arrays could be made
  have hitems : (doms.flatMap (systemItems host)).Perm (doms.flatMap (describedSystem host)) ↔
      ∀ v ∈ doms, v.failure = none → v.idArrays = true := by
    rw [List.perm_comm, flatMap_perm_iff fun v _ => describedSystem_sublist]
    simp only [describedSystem_eq_iff]
  rw [forall_prop_of_true hconnect]
  constructor
  · rintro ⟨hfree, hexact⟩
    refine ⟨failAlike_of_orderFree hconnect hfree, fun hall v hv => ?_⟩
    -- no failure: the status is good, and what is kept is complete
    obtain rfl | ⟨before, w, rfl⟩ := List.eq_nil_or_concat' doms
    · cases hv
    have hok : (systemLoop host (before ++ [w])).gathered.status = .ok := by
      rw [status_systemLoop, status_ok_iff]
      exact hall w (List.mem_append_right _ (List.mem_singleton_self w))
    rw [returnEnumDomains_of_connect hconnect, Gathered.keepIf, if_pos hok] at hexact
    have hperm := hexact hok
    rw [items_systemLoop] at hperm
    exact hitems.mp hperm v hv (hall v hv)
  -- the domains fail alike: the status does not depend on the order, nor do the items
  · rintro ⟨hsame, harrays⟩
    refine ⟨fun doms' hperm => ?_, fun hok => ?_⟩
    · have hstatus := @status_of_failAlike host _ hsame _ hperm
      rw [returnEnumDomains_of_connect hconnect, returnEnumDomains_of_connect hconnect,
        status_keepIf, status_keepIf]
      refine ⟨hstatus, ?_⟩
      unfold Gathered.keepIf
      rw [hstatus]
      split
      · rw [items_systemLoop, items_systemLoop]
        exact hperm.flatMap_right _
      · exact List.Perm.refl []
    · rw [returnEnumDomains_of_connect hconnect, status_keepIf] at hok
      rw [returnEnumDomains_of_connect hconnect, Gathered.keepIf, if_pos hok, items_systemLoop]
      refine hitems.mpr fun v hv hnone => harrays (fun w hw => ?_) v hv
      exact (hsame w hw v hv).failure.trans hnone

end LibvirtCim.Enumeration
