import LibvirtCim.Service.Steps
import LibvirtCim.Service.System

/-!
# What a failed request leaves behind

No request undoes a call it made. A request for one setting changes the running domain
first, then generates the document and defines it; what the calls before the failing one
changed stays. `LiveResidue` and `ConfigResidue` say what that can be, for the running
domain and for the definition, and `residue_of_error` that there is nothing else.
-/

open Framework LibvirtCim.Device LibvirtCim.Rasd

namespace LibvirtCim.Service

variable {Live : Type}

/-! ### Requests for one setting -/

/-- `AddResourceSettings`, `RemoveResourceSettings` or `ModifyResourceSettings` with one
setting. The first is about a domain of a name, the others find theirs in the setting. -/
def singleRequest (action : ResourceAction) (env : Env Live) (domain : String)
    (item : Item Live) : HostRequest Live Unit :=
  match action with
  | .add => addResourceSettings env domain [item]
  | .del => rmResourceSettings env [item]
  | .mod => modResourceSettings env [item]

/-- The domain and the device a request is about, and the setting it works with. -/
inductive Addressed (domain : String) (item : Item Live) :
    ResourceAction → String → Option String → Instance → Prop
  | add : Addressed domain item .add domain none item.rasd
  | del {name devid : String} {rasd : Instance}
      (href : rasdRefToInst item.env item.rasd = .ok (some rasd))
      (hid : getInstanceid rasd = .ok (name, devid)) :
      Addressed domain item .del name (some devid) rasd
  | mod {name devid : String} (hid : getInstanceid item.rasd = .ok (name, devid)) :
      Addressed domain item .mod name (some devid) item.rasd

/-- The change of a world that `updateResourcesFor` makes, if it is reached. -/
def Reached (action : ResourceAction) (domain : String) (item : Item Live) (w : World Live)
    (r : Except Failure Unit × World Live) : Prop :=
  (r.2 = w ∧ ∃ e, r.1 = .error e) ∨ ∃ name devid rasd g,
    Addressed domain item action name devid rasd ∧ w name = some g ∧
    r.1 = (updateResourcesFor item.env action devid rasd g).1 ∧
    r.2 = Function.update w name (some (updateResourcesFor item.env action devid rasd g).2)

theorem reached_updateItem {action : ResourceAction} {domain name : String}
    {devid : Option String} {item : Item Live} {rasd : Instance}
    (h : Addressed domain item action name devid rasd) (w : World Live) :
    Reached action domain item w (updateItem item.env action name devid rasd w) := by
  unfold updateItem
  rw [Effect.bind_apply]
  cases item.env.calls.lookup .request with
  | false => exact .inl ⟨rfl, _, rfl⟩
  | true =>
    change Reached action domain item w (onDomain name (noSuchDomain name) _ w)
    unfold onDomain
    cases hw : w name with
    | none => exact .inl ⟨rfl, _, rfl⟩
    | some g => exact .inr ⟨name, devid, rasd, g, h, hw, rfl, rfl⟩

/-- **A request for one setting** fails before anything is done, or is the work on one
domain. -/
theorem reached_singleRequest (action : ResourceAction) (env : Env Live) (domain : String)
    (item : Item Live) (w : World Live) :
    Reached action domain item w (singleRequest action env domain item w) := by
  -- the only setting of a list
  have hone (m : Item Live → HostRequest Live Unit) (w : World Live) :
      [item].forM m w = m item w := by
    change Effect.goOn _ (m item w) = m item w
    obtain ⟨r, t⟩ := m item w
    cases r <;> rfl
  -- a request that fails before its step has changed nothing
  have hfail (e : Failure) : Reached action domain item w (.error e, w) := .inl ⟨rfl, e, rfl⟩
  -- each request connects first and then takes its settings one by one
  have hconnect (m : Item Live → HostRequest Live Unit)
      (hm : Reached action domain item w (m item w)) :
      Reached action domain item w ((do
        Effect.require ((connectByClassname env .request env.refcn).toOption.getD false)
          (.failed "Unable to connect to hypervisor")
        [item].forM m : HostRequest Live Unit) w) := by
    rw [Effect.bind_apply]
    cases (connectByClassname env .request env.refcn).toOption.getD false with
    | false => exact hfail _
    | true =>
      change Reached action domain item w ([item].forM m w)
      rw [hone]
      exact hm
  -- adding takes the setting as it is, deleting the one it refers to, modifying the one it names
  cases action with
  | add => exact hconnect _ (reached_updateItem .add w)
  | del =>
    -- the references are resolved before the connection is made
    change Reached .del domain item w (Effect.goOn _ (rasdRefsToInsts [item], w))
    cases hrefs : rasdRefsToInsts [item] with
    | error e => exact hfail e
    | ok u =>
      refine hconnect _ ?_
      cases href : rasdRefToInst item.env item.rasd with
      | error e => exact hfail _
      | ok ref =>
        cases ref with
        | none => exact hfail _
        | some rasd =>
          change Reached .del domain item w (Effect.goOn _ (getInstanceid rasd, w))
          cases hid : getInstanceid rasd with
          | error e => exact hfail e
          | ok names => exact reached_updateItem (.del href hid) w
  | mod =>
    -- the name and the id are taken from the setting itself
    refine hconnect _ ?_
    change Reached .mod domain item w (Effect.goOn _ (getInstanceid item.rasd, w))
    cases hid : getInstanceid item.rasd with
    | error e => exact hfail e
    | ok names => exact reached_updateItem (.mod hid) w

/-! ### Changes that fail halfway -/

/-- A change of the running domain of which the first call was made, and the second failed
or was left out. -/
inductive HalfMade (lv : Libvirt Live) (live live' : Live) :
    (kind : DevKind) → VirtDevice kind.Dev → Prop
  | memory {dev : VirtDevice MemDevice} (hset : lv.setMemory dev.dev.size live = some live')
      (hmax : lv.setMaxMemory dev.dev.maxsize live' = none) : HalfMade lv live live' .mem dev
  | vcpus {dev : VirtDevice VcpuDevice} (hweight : dev.dev.weight ≠ 0)
      (hset : lv.setSchedulerParameters dev.dev.weight.toUInt64 live = some live')
      (hcount : dev.dev.quantity = 0 ∨ lv.setVcpus dev.dev.quantity live' = none) :
      HalfMade lv live live' .proc dev

theorem applied_eq_false {α : Type} {old new : α} {x : Option α}
    (h : applied old x = (false, new)) :
    x = none ∧ new = old := by
  cases x with
  | none =>
    cases h
    exact ⟨rfl, rfl⟩
  | some a => cases h

theorem eq_of_withDeviceXml {env : Env Live} {kind : DevKind} {dev : VirtDevice kind.Dev}
    {f : Node → Live → Option Live} {live live' : Live}
    (h : withDeviceXml env kind dev f live = some (false, live')) : live' = live := by
  unfold withDeviceXml at h
  split at h
  · cases h
  · cases h
    rfl
  · exact (applied_eq_false (Option.some.inj h)).2

theorem eq_of_plugDevice {env : Env Live} {kind : DevKind} {dev : VirtDevice kind.Dev}
    {f : Node → Live → Option Live} {live live' : Live}
    (h : plugDevice env f kind dev live = some (false, live')) : live' = live := by
  cases kind with
  | disk | net => exact eq_of_withDeviceXml h
  | mem | proc | graphics | input | console | controller =>
    cases h
    rfl

theorem halfMade_of_changeMemory {lv : Libvirt Live} {dev : VirtDevice MemDevice}
    {live live' : Live} (h : changeMemory lv dev.dev live = (false, live')) :
    live' = live ∨ HalfMade lv live live' .mem dev := by
  unfold changeMemory at h
  split at h
  · cases h
    exact .inl rfl
  · next hset =>
    obtain ⟨hmax, rfl⟩ := applied_eq_false h
    exact .inr (.memory hset hmax)

theorem eq_of_setVcpuCount {lv : Libvirt Live} {dev : VcpuDevice} {live live' : Live}
    (h : setVcpuCount lv dev live = (false, live')) :
    live' = live ∧ (dev.quantity = 0 ∨ lv.setVcpus dev.quantity live = none) := by
  unfold setVcpuCount at h
  split at h
  · next hzero =>
    cases h
    exact ⟨rfl, .inl hzero⟩
  · obtain ⟨hcount, rfl⟩ := applied_eq_false h
    exact ⟨rfl, .inr hcount⟩

theorem halfMade_of_changeVcpus {lv : Libvirt Live} {dev : VirtDevice VcpuDevice}
    {live live' : Live} (h : changeVcpus lv dev.dev live = (false, live')) :
    live' = live ∨ HalfMade lv live live' .proc dev := by
  unfold changeVcpus at h
  split at h
  · exact .inl (eq_of_setVcpuCount h).1
  · next hweight =>
    split at h
    · cases h
      exact .inl rfl
    · next hset =>
      obtain ⟨rfl, hcount⟩ := eq_of_setVcpuCount h
      exact .inr (.vcpus hweight hset hcount)

/-- A change that fails leaves the running domain alone, but for the two changes that take
two calls. -/
theorem halfMade_of_changeLive {env : Env Live} {action : ResourceAction} {kind : DevKind}
    {dev : VirtDevice kind.Dev} {live live' : Live}
    (h : changeLive env action kind dev live = some (false, live')) :
    live' = live ∨ action = .mod ∧ HalfMade env.lv live live' kind dev := by
  -- plugging and unplugging either succeed or leave the guest; a modification may stop half-way
  cases action with
  | add => exact .inl (eq_of_plugDevice h)
  | del => exact .inl (eq_of_plugDevice h)
  | mod =>
    cases kind with
    | mem =>
      have hmemory := halfMade_of_changeMemory (Option.some.inj h)
      exact hmemory.imp_right fun hhalf => ⟨rfl, hhalf⟩
    | proc =>
      have hvcpus := halfMade_of_changeVcpus (Option.some.inj h)
      exact hvcpus.imp_right fun hhalf => ⟨rfl, hhalf⟩
    | disk => exact .inl (eq_of_withDeviceXml h)
    -- these kinds cannot be modified while the guest runs
    | net | graphics | input | console | controller =>
      cases h
      exact .inl rfl

/-! ### What is left -/

variable (env : Env Live)

/-- The parsed domain with the change a request asks for. -/
def Requested (action : ResourceAction) (devid : Option String) (rasd : Instance)
    (config : Node) (dominfo' : Domain) : Prop :=
  ∃ dominfo kind rasd', getDominfoFromXml config = .ok dominfo ∧
    resTypeFromRasdClassname rasd = some (.dev kind) ∧
    mergedRasd env action dominfo rasd (.dev kind) devid = .ok rasd' ∧
    Changed env.host dominfo rasd' kind action devid dominfo'

/-- The document of a domain is not defined, or it is and the new system is not found. -/
def NotCreated (dominfo : Domain) : Prop :=
  (∃ e, connectByClassname env .create env.refcn = .error e) ∨
    (∃ msg, systemToXml env.nodeContent env.newUuid dominfo = .error msg) ∨
    (∃ doc, systemToXml env.nodeContent env.newUuid dominfo = .ok doc ∧
      env.lv.defineXML doc = none) ∨
    env.calls.getDomainByName = false

/-- What a failed request leaves of the running domain. -/
inductive LiveResidue (action : ResourceAction) (devid : Option String) (rasd : Instance)
    (g : Guest Live) (live' : Live) : Prop
  /-- nothing was changed -/
  | untouched (hlive : live' = g.live)
  /-- the second of two calls failed, to change the memory or the processors -/
  | half {kind : DevKind} {dev : VirtDevice kind.Dev} (haction : action = .mod)
      (htype : resTypeFromRasdClassname rasd = some (.dev kind)) (honline : env.calls.online)
      (hhalf : HalfMade env.lv g.live live' kind dev)
  /-- the change was made, but the changed domain was not defined -/
  | whole {kind : DevKind} {dev : VirtDevice kind.Dev} {dominfo' : Domain}
      (htype : resTypeFromRasdClassname rasd = some (.dev kind)) (hkind : isStatic kind = false)
      (honline : env.calls.online)
      (hchange : changeLive env action kind dev g.live = some (true, live'))
      (hrequest : Requested env action devid rasd g.config dominfo')
      (hcreate : NotCreated env dominfo')

/-- What a failed request leaves of the definition. -/
inductive ConfigResidue (action : ResourceAction) (devid : Option String) (rasd : Instance)
    (g : Guest Live) (config' : Node) : Prop
  /-- nothing was changed -/
  | untouched (hconfig : config' = g.config)
  /-- the weight of the processors was set -/
  | weight {seen : Domain} {refcn : String} {weight : UInt64}
      (hseen : getDominfoFromXml g.config = .ok seen ∨
        action = .mod ∧ Requested env action devid rasd g.config seen)
      (hweight : configWeight env seen refcn = some weight)
      (hset : env.lv.setConfigSchedulerParameters weight g.config = some config')
  /-- the changed domain was defined, but not found afterwards -/
  | defined {dominfo' : Domain} {doc : Node}
      (hrequest : Requested env action devid rasd g.config dominfo')
      (hdoc : systemToXml env.nodeContent env.newUuid dominfo' = .ok doc)
      (hdefine : env.lv.defineXML doc = some config') (hlookup : env.calls.getDomainByName = false)

theorem Stepped.configResidue {action : ResourceAction} {devid : Option String}
    {rasd rasd' : Instance} {type : RasdType} {dominfo dominfo' : Domain} {ok : Bool}
    {g s : Guest Live} (hparse : getDominfoFromXml g.config = .ok dominfo)
    (hchanged : dominfo' = dominfo ∨ Requested env action devid rasd g.config dominfo')
    (hstep : Stepped env action (seenBy action dominfo dominfo') rasd'.classname type ok g s) :
    ConfigResidue env action devid rasd g s.config := by
  -- the definition changes on the way only through the weight of the scheduler
  obtain hsame | ⟨weight, hweight, hset⟩ := hstep.config
  · exact .untouched hsame
  refine .weight ?_ hweight hset
  cases action with
  | add => exact .inl hparse
  | del => exact .inl hparse
  | mod =>
    -- what is seen of the domain is the old definition or the requested one
    obtain rfl | hrequest := hchanged
    · exact .inl hparse
    · exact .inr ⟨rfl, hrequest⟩

/-- **What a failed request can leave of a domain.** -/
theorem residue_of_failed {action : ResourceAction} {devid : Option String} {rasd : Instance}
    {g s : Guest Live} (h : Failed env action devid rasd g s) :
    LiveResidue env action devid rasd g s.live ∧
      ConfigResidue env action devid rasd g s.config := by
  -- the three ends: before the step, in the step, and in the definition after it
  cases h with
  | early => exact ⟨.untouched rfl, .untouched rfl⟩
  | step hparse htype hrasd hfailed =>
    obtain ⟨dominfo', hchanged, hstep⟩ := hfailed
    constructor
    · obtain hsame | ⟨kind, dev, rfl, -, honline, hchange⟩ := hstep.live
      · exact .untouched hsame
      · obtain hsame | ⟨haction, hhalf⟩ := halfMade_of_changeLive hchange
        · exact .untouched hsame
        · exact .half haction htype honline hhalf
    · refine hstep.configResidue env hparse (hchanged.imp_right ?_)
      rintro ⟨kind, rfl, hto⟩
      exact ⟨_, kind, _, hparse, htype, hrasd, hto⟩
  | late hparse htype hrasd hchanged hstep hdoc hcreated =>
    rename_i dominfo dominfo' rasd' kind doc mid
    have hrequest : Requested env action devid rasd g.config dominfo' :=
      ⟨_, kind, _, hparse, htype, hrasd, hchanged⟩
    -- the definition fails for want of a connection, a document, a definition or a look-up
    have hcreate : NotCreated env dominfo' := by
      obtain huri | hdefine | hlookup := hcreated.failed rfl
      · exact .inl huri
      · cases hxml : systemToXml env.nodeContent env.newUuid dominfo' with
        | error msg => exact .inr (.inl ⟨msg, hxml⟩)
        | ok root =>
          rw [hdoc, hxml] at hdefine
          exact .inr (.inr (.inl ⟨root, hxml, hdefine⟩))
      · exact .inr (.inr (.inr hlookup))
    -- the guest has been changed, and the failure leaves it so
    constructor
    · rw [hcreated.live]
      obtain hsame | ⟨kind', dev, htype', hkind, honline, hchange⟩ := hstep.live
      · exact .untouched hsame
      · cases htype'
        exact .whole htype hkind honline hchange hrequest hcreate
    -- the definition: the one before, or the one that was stored before the look-up failed
    · obtain hsame | ⟨root, hroot, hdefine, hlookup⟩ := hcreated.config
      · rw [hsame]
        exact hstep.configResidue env hparse (.inr hrequest)
      · rw [hdoc] at hroot
        exact .defined hrequest (eq_ok_of_toOption hroot) hdefine (hlookup rfl)

/-- **Failed requests.** A request for one setting that returns an error leaves all domains alone
but the one it is about, and leaves of that one no more than `LiveResidue` and `ConfigResidue`
say. A request for one setting fails early or is the work on one domain (`reached_singleRequest`);
`updateResourcesFor_spec` lists where that work fails, and `residue_of_failed` what is left there.
-/
theorem residue_of_error {action : ResourceAction} {domain : String} {item : Item Live}
    {w : World Live} {e : Failure} (h : (singleRequest action env domain item w).1 = .error e) :
    (singleRequest action env domain item w).2 = w ∨
      ∃ name devid rasd g s, Addressed domain item action name devid rasd ∧ w name = some g ∧
        (singleRequest action env domain item w).2 = Function.update w name (some s) ∧
        LiveResidue item.env action devid rasd g s.live ∧
        ConfigResidue item.env action devid rasd g s.config := by
  obtain ⟨hsame, -⟩ | ⟨name, devid, rasd, g, haddr, hw, hres, hworld⟩ :=
    reached_singleRequest action env domain item w
  · exact .inl hsame
  · rw [hres] at h
    have hfailed := (updateResourcesFor_spec item.env action devid rasd g g rfl).2 e h
    exact .inr ⟨name, devid, rasd, g, _, haddr, hw, hworld,
      residue_of_failed item.env hfailed⟩

/-- A host that changes running domains, but defines none. -/
def noDefineEnv : Env SimpleLive :=
  { simpleEnv (diskGuest (fileDisk "vda")) with
    lv := { simpleLibvirt with defineXML := fun _ => none } }

/-- A second disk. -/
def secondDisk : Item SimpleLive where
  env := noDefineEnv
  rasd :=
    { pfx := "KVM", base := "DiskResourceAllocationSettingData"
      props := [("VirtualDevice", .string "vdb"), ("Address", .string "/var/lib/data.img")] }

/-- A host with one running domain. -/
def oneGuest : World SimpleLive := fun name =>
  if name = "guest" then some { live := {}, config := diskGuest (fileDisk "vda") } else none

/-- A disk that cannot be added. -/
theorem residue_of_error_secondDisk :
    (singleRequest .add noDefineEnv "guest" secondDisk oneGuest).2 = oneGuest ∨
      ∃ name devid rasd g s, Addressed "guest" secondDisk .add name devid rasd ∧
        oneGuest name = some g ∧
        (singleRequest .add noDefineEnv "guest" secondDisk oneGuest).2 =
          Function.update oneGuest name (some s) ∧
        LiveResidue noDefineEnv .add devid rasd g s.live ∧
        ConfigResidue noDefineEnv .add devid rasd g s.config :=
  residue_of_error noDefineEnv (e := .failed "Failed to define domain") rfl

/-- **A disk stays attached** when the changed domain cannot be defined. -/
theorem not_unchanged_of_error :
    ¬ ∀ (action : ResourceAction) (env : Env SimpleLive) (domain : String)
        (item : Item SimpleLive) (w : World SimpleLive) (e : Failure),
      (singleRequest action env domain item w).1 = .error e →
      ∀ name, ((singleRequest action env domain item w).2 name).map
          (fun g => (g.live.devices, g.live.memory, g.live.vcpus, g.config)) =
        (w name).map fun g => (g.live.devices, g.live.memory, g.live.vcpus, g.config) := by
  intro h
  have hguest := h .add noDefineEnv "guest" secondDisk oneGuest _ rfl "guest"
  obtain ⟨hdevices, -⟩ := Prod.mk.inj (Option.some.inj hguest)
  exact absurd (congrArg List.length hdevices) Nat.one_ne_zero

end LibvirtCim.Service
