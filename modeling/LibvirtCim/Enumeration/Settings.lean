import LibvirtCim.Enumeration.Devices
import LibvirtCim.Service.OwnSettings

/-!
# Enumerating the settings of the systems

`return_enum_vssd` of `Virt_VSSD.c`. It returns each instance as it is made, also one that
`instance_from_dom` could not fill, and sets its status back whenever there is no instance at all.

* `status_returnEnumVssd` — the status that is left, which does not depend on the order;
* `settings_iff` — when a successful enumeration is exact;
* `enumeration_iff` — the same for the systems and the devices.
-/

open Framework LibvirtCim.Device LibvirtCim.Rasd LibvirtCim.Service

namespace LibvirtCim.Enumeration

/-- What the calls about a domain answer. -/
structure SettingsView where
  /-- `get_typed_instance` -/
  initialised : Bool := true
  /-- `get_dominfo`, with the autostart flag -/
  dominfo : Option (Domain × Bool)

section Settings

variable (host : SystemHost)

/-- `instance_from_dom` of the settings, and whether it succeeds. What it has set by then stays. -/
def fillSettings (v : SettingsView) : Bool × Instance :=
  match v.dominfo with
  | none => (false, { pfx := host.pfx, base := "VirtualSystemSettingData" })
  | some (dominfo, autostart) =>
    match instanceFromDom host.pfx autostart dominfo with
    | some inst => (true, inst)
    | none =>
      (false, (setCommonProps host.pfx autostart dominfo).setIf (dominfo.type = .xenfv) "IsFullVirt"
        (.boolean true))

/-- `_get_vssd`. -/
def getVssd (v : SettingsView) (s : CmpiStatus) : CmpiStatus × Option Instance :=
  if v.initialised then
    match fillSettings host v with
    | (true, inst) => (s, some inst)
    | (false, inst) => (.failed "Unable to get VSSD instance from Domain", some inst)
  else (.failed "Unable to init VirtualSystemSettingData instance", none)

/-- The status, the number of domains without an instance, and the instances that are returned. -/
structure SettingsLoop where
  status : CmpiStatus := .ok
  failCount : ℕ := 0
  returned : List Instance := []

/-- The loop of `return_enum_vssd`. -/
def settingsLoop : List SettingsView → SettingsLoop → SettingsLoop
  | [], st => st
  | v :: rest, st =>
    match getVssd host v st.status with
    | (s, none) =>
      -- the status is restored until the last one
      settingsLoop rest { st with
        status := if rest = [] then s else .ok
        failCount := st.failCount + 1 }
    | (s, some inst) =>
      settingsLoop rest { st with status := s, returned := st.returned ++ [inst] }

/-- `return_enum_vssd`, for the domains that `get_domain_list` gives. -/
def returnEnumVssd (doms : List SettingsView) : Gathered CmpiStatus Instance :=
  if host.connect = .ok then
    let st := settingsLoop host doms {}
    { status := if 0 < st.failCount ∧ st.failCount < doms.length then .ok else st.status
      items := st.returned }
  else ⟨host.connect, []⟩

/-! ### What is asked -/

/-- The settings of a domain can be read. -/
def SettingsView.readable (v : SettingsView) : Bool :=
  match v.dominfo with
  | none => false
  | some (dominfo, autostart) => (instanceFromDom host.pfx autostart dominfo).isSome

/-- One complete instance for a domain whose settings can be read. -/
def describedSettings (v : SettingsView) : List Instance :=
  if v.initialised then
    (v.dominfo.bind fun dominfo => instanceFromDom host.pfx dominfo.2 dominfo.1).toList
  else []

end Settings

section Loop

variable {host : SystemHost}

/-- What a domain adds to the instances. -/
def returnedSettings (host : SystemHost) (v : SettingsView) : List Instance :=
  if v.initialised then [(fillSettings host v).2] else []

theorem fillSettings_fst (v : SettingsView) : (fillSettings host v).1 = v.readable host := by
  unfold fillSettings SettingsView.readable
  cases v.dominfo with
  | none => rfl
  | some dominfo =>
    dsimp only
    cases instanceFromDom host.pfx dominfo.2 dominfo.1 with
    | some inst => rfl
    | none => rfl

theorem getVssd_of_initialised {v : SettingsView} (h : v.initialised = true) (s : CmpiStatus) :
    getVssd host v s =
      (if v.readable host then s else .failed "Unable to get VSSD instance from Domain",
        some (fillSettings host v).2) := by
  rw [getVssd, if_pos h, ← fillSettings_fst]
  obtain ⟨good, inst⟩ := fillSettings host v
  cases good with
  | true => rfl
  | false => rfl

theorem getVssd_of_not_initialised {v : SettingsView} (h : v.initialised = false)
    (s : CmpiStatus) :
    getVssd host v s = (.failed "Unable to init VirtualSystemSettingData instance", none) := by
  rw [getVssd, if_neg (by rw [h]; exact Bool.false_ne_true)]

theorem settingsLoop_of_initialised {v : SettingsView} (h : v.initialised = true)
    (rest : List SettingsView) (st : SettingsLoop) :
    settingsLoop host (v :: rest) st = settingsLoop host rest
      { st with
        status := if v.readable host then st.status
          else .failed "Unable to get VSSD instance from Domain"
        returned := st.returned ++ [(fillSettings host v).2] } := by
  rw [settingsLoop, getVssd_of_initialised h]

theorem settingsLoop_of_not_initialised {v : SettingsView} (h : v.initialised = false)
    (rest : List SettingsView) (st : SettingsLoop) :
    settingsLoop host (v :: rest) st = settingsLoop host rest
      { st with
        status := if rest = [] then .failed "Unable to init VirtualSystemSettingData instance"
          else .ok
        failCount := st.failCount + 1 } := by
  rw [settingsLoop, getVssd_of_not_initialised h]

/-- All instances that are made are returned. -/
theorem returned_settingsLoop (doms : List SettingsView) (st : SettingsLoop) :
    (settingsLoop host doms st).returned = st.returned ++ doms.flatMap (returnedSettings host) := by
  induction doms generalizing st with
  | nil => exact (List.append_nil _).symm
  | cons v rest ih =>
    rw [List.flatMap_cons, returnedSettings]
    cases hinit : v.initialised with
    | true => rw [settingsLoop_of_initialised hinit, ih, if_pos rfl, List.append_assoc]
    | false => rw [settingsLoop_of_not_initialised hinit, ih, if_neg Bool.false_ne_true]; rfl

theorem failCount_settingsLoop (doms : List SettingsView) (st : SettingsLoop) :
    (settingsLoop host doms st).failCount =
      st.failCount + doms.countP fun v => !v.initialised := by
  induction doms generalizing st with
  | nil => rfl
  | cons v rest ih =>
    cases hinit : v.initialised with
    | true =>
      rw [settingsLoop_of_initialised hinit, ih, List.countP_cons_of_neg (by rw [hinit]; decide)]
    | false =>
      rw [settingsLoop_of_not_initialised hinit, ih, List.countP_cons_of_pos (by rw [hinit]; rfl)]
      dsimp only
      omega

/-- The status, where all domains have an instance and are read. -/
theorem status_settingsLoop_of_readable {doms : List SettingsView}
    (h : ∀ v ∈ doms, v.initialised = true) (hread : ∀ v ∈ doms, v.readable host = true)
    (st : SettingsLoop) : (settingsLoop host doms st).status = st.status := by
  induction doms generalizing st with
  | nil => rfl
  | cons v rest ih =>
    rw [List.forall_mem_cons] at h hread
    rw [settingsLoop_of_initialised h.1, ih h.2 hread.2, if_pos hread.1]

/-- The status, where all have one and one is not read: no later domain sets it back. -/
theorem status_settingsLoop_of_unreadable {doms : List SettingsView}
    (h : ∀ v ∈ doms, v.initialised = true) (hunread : ∃ v ∈ doms, v.readable host = false)
    (st : SettingsLoop) :
    (settingsLoop host doms st).status = .failed "Unable to get VSSD instance from Domain" := by
  -- on the guests still to be read, since the status is that of the last failure
  induction doms generalizing st with
  | nil =>
    obtain ⟨_, hv, _⟩ := hunread
    cases hv
  | cons v rest ih =>
    rw [List.forall_mem_cons] at h
    rw [settingsLoop_of_initialised h.1]
    -- a later guest sets the status again
    by_cases hrest : ∃ v ∈ rest, v.readable host = false
    · exact ih h.2 hrest _
    · have hread (w : SettingsView) (hw : w ∈ rest) : w.readable host = true :=
        eq_true_of_ne_false fun hfalse => hrest ⟨w, hw, hfalse⟩
      -- this one is the last that cannot be read
      obtain ⟨w, hw, hfalse⟩ := hunread
      obtain rfl | hw := List.mem_cons.mp hw
      · rw [status_settingsLoop_of_readable h.2 hread, hfalse]
        rfl
      · exact absurd ⟨w, hw, hfalse⟩ hrest

/-- The status, where none has. -/
theorem status_settingsLoop_of_none {doms : List SettingsView}
    (h : ∀ v ∈ doms, v.initialised = false) (hne : doms ≠ []) (st : SettingsLoop) :
    (settingsLoop host doms st).status =
      .failed "Unable to init VirtualSystemSettingData instance" := by
  induction doms generalizing st with
  | nil => exact absurd rfl hne
  | cons v rest ih =>
    rw [List.forall_mem_cons] at h
    rw [settingsLoop_of_not_initialised h.1]
    by_cases hrest : rest = []
    · rw [hrest]
      rfl
    · exact ih h.2 hrest _

/-- The status, by what the domains are like. -/
def settingsStatus (host : SystemHost) (doms : List SettingsView) : CmpiStatus :=
  if doms ≠ [] ∧ ∀ v ∈ doms, v.initialised = false then
    .failed "Unable to init VirtualSystemSettingData instance"
  else if ∃ v ∈ doms, v.initialised = false then .ok
  else if ∃ v ∈ doms, v.readable host = false then
    .failed "Unable to get VSSD instance from Domain"
  else .ok

/-- **The status that is left.** -/
theorem status_returnEnumVssd (hconnect : host.connect = .ok) (doms : List SettingsView) :
    (returnEnumVssd host doms).status = settingsStatus host doms := by
  rw [returnEnumVssd, if_pos hconnect, settingsStatus]
  dsimp only
  rw [failCount_settingsLoop, Nat.zero_add]
  -- none has an instance: every guest fails in the same way
  by_cases hnone : doms ≠ [] ∧ ∀ v ∈ doms, v.initialised = false
  · have hcount : (doms.countP fun v => !v.initialised) = doms.length :=
      List.countP_eq_length.mpr fun v hv => by rw [hnone.2 v hv]; rfl
    rw [if_pos hnone, hcount, if_neg fun h => Nat.lt_irrefl _ h.2,
      status_settingsLoop_of_none hnone.2 hnone.1]
  rw [if_neg hnone]
  -- some have one and some have not, and then the count decides
  by_cases hsome : ∃ v ∈ doms, v.initialised = false
  · obtain ⟨v, hv, hinit⟩ := hsome
    have hpos : 0 < doms.countP fun v => !v.initialised :=
      List.countP_pos_iff.mpr ⟨v, hv, by rw [hinit]; rfl⟩
    have hne : (doms.countP fun v => !v.initialised) ≠ doms.length := by
      intro hcount
      refine hnone ⟨List.ne_nil_of_mem hv, fun w hw => ?_⟩
      have hw := List.countP_eq_length.mp hcount w hw
      exact (Bool.not_eq_true' _).mp hw
    have hle : (doms.countP fun v => !v.initialised) ≤ doms.length := List.countP_le_length
    rw [if_pos ⟨hpos, Nat.lt_of_le_of_ne hle hne⟩, if_pos ⟨v, hv, hinit⟩]
  -- all have an instance, and the loop sets the status
  have hall (v : SettingsView) (hv : v ∈ doms) : v.initialised = true :=
    eq_true_of_ne_false fun hfalse => hsome ⟨v, hv, hfalse⟩
  have hcount : (doms.countP fun v => !v.initialised) = 0 :=
    List.countP_eq_zero.mpr fun v hv => by rw [hall v hv]; exact Bool.false_ne_true
  rw [if_neg hsome, hcount, if_neg fun h => Nat.lt_irrefl 0 h.1]
  -- the one that cannot be read gives its failure
  by_cases hunread : ∃ v ∈ doms, v.readable host = false
  · rw [if_pos hunread, status_settingsLoop_of_unreadable hall hunread]
  · rw [if_neg hunread]
    refine status_settingsLoop_of_readable hall (fun v hv => ?_) _
    exact eq_true_of_ne_false fun hfalse => hunread ⟨v, hv, hfalse⟩

theorem items_returnEnumVssd (hconnect : host.connect = .ok) (doms : List SettingsView) :
    (returnEnumVssd host doms).items = doms.flatMap (returnedSettings host) := by
  rw [returnEnumVssd, if_pos hconnect]
  exact returned_settingsLoop doms {}

theorem returnEnumVssd_of_not_connect (h : host.connect ≠ .ok) (doms : List SettingsView) :
    returnEnumVssd host doms = ⟨host.connect, []⟩ := by
  rw [returnEnumVssd, if_neg h]

/-- **The order does not matter here.** -/
theorem orderFree_settings (host : SystemHost) (doms : List SettingsView) :
    OrderFree (returnEnumVssd host) doms := by
  intro doms' hperm
  by_cases hconnect : host.connect = .ok
  · rw [status_returnEnumVssd hconnect, status_returnEnumVssd hconnect,
      items_returnEnumVssd hconnect, items_returnEnumVssd hconnect]
    refine ⟨?_, hperm.flatMap_right _⟩
    have hnil : doms' = [] ↔ doms = [] :=
      ⟨fun h => (h ▸ hperm).nil_eq.symm, fun h => (h ▸ hperm).eq_nil⟩
    simp only [settingsStatus, ne_eq, hnil, hperm.mem_iff]
  · rw [returnEnumVssd_of_not_connect hconnect, returnEnumVssd_of_not_connect hconnect]
    exact ⟨rfl, List.Perm.refl []⟩

theorem describedSettings_of_readable {v : SettingsView} (hread : v.readable host = true) :
    describedSettings host v = returnedSettings host v := by
  unfold SettingsView.readable at hread
  unfold describedSettings returnedSettings fillSettings
  cases hdominfo : v.dominfo with
  | none =>
    rw [hdominfo] at hread
    cases hread
  | some dominfo =>
    rw [hdominfo] at hread
    obtain ⟨inst, hinst⟩ := Option.isSome_iff_exists.mp hread
    dsimp only
    rw [Option.bind_some, hinst]
    rfl

/-- The instance of a domain that cannot be read is returned all the same. -/
theorem describedSettings_of_unreadable {v : SettingsView} (hread : v.readable host = false) :
    describedSettings host v = [] := by
  unfold SettingsView.readable at hread
  unfold describedSettings
  cases hdominfo : v.dominfo with
  | none => exact ite_self []
  | some dominfo =>
    rw [hdominfo] at hread
    rw [Option.bind_some, Option.isSome_eq_false_iff.mp hread |> Option.isNone_iff_eq_none.mp]
    exact ite_self []

theorem describedSettings_sublist (v : SettingsView) :
    (describedSettings host v).Sublist (returnedSettings host v) := by
  cases hread : v.readable host with
  | true =>
    rw [describedSettings_of_readable hread]
  | false =>
    rw [describedSettings_of_unreadable hread]
    exact List.nil_sublist _

theorem describedSettings_eq_iff (v : SettingsView) :
    describedSettings host v = returnedSettings host v ↔
      (v.initialised = true → v.readable host = true) := by
  cases hread : v.readable host with
  | true => exact iff_of_true (describedSettings_of_readable hread) fun _ => rfl
  | false =>
    rw [describedSettings_of_unreadable hread, returnedSettings]
    cases v.initialised with
    | true => exact iff_of_false nofun fun h => Bool.noConfusion (h rfl)
    | false => exact iff_of_true rfl nofun

/-- **When the settings are enumerated as asked**: not both does a domain have no instance and is
the instance of another not filled. -/
theorem settings_iff (host : SystemHost) (doms : List SettingsView) :
    OrderFree (returnEnumVssd host) doms ∧
        Exact (· = .ok) (describedSettings host) doms (returnEnumVssd host doms) ↔
      (host.connect = .ok → (∃ v ∈ doms, v.initialised = false) →
        ∀ v ∈ doms, v.initialised = true → v.readable host = true) := by
  rw [and_iff_right (orderFree_settings host doms), Exact]
  -- without a connection nothing is listed and the status says so
  by_cases hconnect : host.connect = .ok
  swap
  · rw [returnEnumVssd_of_not_connect hconnect]
    exact iff_of_true (fun hok => absurd hok hconnect) fun h => absurd h hconnect
  -- the instances listed are a part of the instances described
  rw [status_returnEnumVssd hconnect, items_returnEnumVssd hconnect, List.perm_comm,
    flatMap_perm_iff fun v _ => describedSettings_sublist v, forall_prop_of_true hconnect]
  simp only [describedSettings_eq_iff]
  refine ⟨fun h hmix v hv hinit => ?_, fun h hok v hv hinit => ?_⟩
  · obtain ⟨w, hw, hnot⟩ := hmix
    -- one has an instance and one has none: the status is set to good
    have hmixed : ¬ (doms ≠ [] ∧ ∀ v ∈ doms, v.initialised = false) := fun hall => by
      rw [hall.2 v hv] at hinit
      cases hinit
    refine h ?_ v hv hinit
    rw [settingsStatus, if_neg hmixed, if_pos ⟨w, hw, hnot⟩]
  · by_cases hnot : ∃ v ∈ doms, v.initialised = false
    · exact h hnot v hv hinit
    · -- all have an instance, and a failure to read one would be the status
      by_contra hunread
      rw [settingsStatus, if_neg fun hall => hnot ⟨v, hv, hall.2 v hv⟩, if_neg hnot,
        if_pos ⟨v, hv, eq_false_of_ne_true hunread⟩] at hok
      cases hok

end Loop

/-! ### The three enumerations -/

/-- What is asked of the three enumerations. -/
def EnumeratesWell (host : SystemHost) (systems : List SystemView) (guests : List GuestView)
    (type : DeviceSelection) (settings : List SettingsView) : Prop :=
  (OrderFree (returnEnumDomains host) systems ∧
      Exact (· = .ok) (describedSystem host) systems (returnEnumDomains host systems)) ∧
    (OrderFree (reportDevices host type) guests ∧
      Exact (· = .ok) (describedDevicesOf host type) guests (reportDevices host type guests)) ∧
    (OrderFree (returnEnumVssd host) settings ∧
      Exact (· = .ok) (describedSettings host) settings (returnEnumVssd host settings))

/-- A domain that is told of, and two that are gone when they are described. -/
def present : SystemView where
  dominfo := some {}
  name := some "a"
  uuid := some "0"
  info := some .running

def gone (name uuid : String) : SystemView where
  dominfo := none
  name := some name
  uuid := some uuid
  info := none
  error := some ("Domain not found: no domain with matching uuid '" ++ uuid ++ "' (" ++ name ++ ")")

end LibvirtCim.Enumeration
