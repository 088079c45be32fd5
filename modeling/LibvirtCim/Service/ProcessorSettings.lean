import LibvirtCim.Service.CloneIdentity
import LibvirtCim.Service.DefineSystem
import LibvirtCim.Service.SchedulingFrame
import Mathlib.Data.List.Induction

/-!
# Setting the weight and the limit of the processors

A weight and a limit are set with the setting of the processors, by `ModifyResourceSettings` or
by `DefineSystem`. Both put them into the device of the parsed domain (`proc_rasd_to_vdev`), from
where `update_dominfo` takes them to the information store of a Xen domain. What a request that
succeeds leaves in the store is `SetRequest.stored`: what was asked for, if `update_dominfo` got
to the store, and what was there otherwise, since its status is dropped.

Requests for other devices go through `update_dominfo` as well, and write zero
(`stored_otherChanges`).
-/

open Framework LibvirtCim.Device LibvirtCim.Infostore LibvirtCim.Rasd

namespace LibvirtCim.Service

variable {Live : Type}

/-! ### What is asked for -/

/-- A weight and a limit, as far as they are set. -/
structure Asked where
  weight : Option UInt32
  limit : Option UInt64
  deriving DecidableEq, Repr

/-- What a setting asks for: a weight that it does not have is the one of its class, if the class
has one. -/
def Asked.ofRasd (inst : Instance) : Asked where
  weight := (inst.getU32 "Weight").or
    (if startsWith inst.classname "Xen" || startsWith inst.classname "QEMU" then some 1024
      else none)
  limit := inst.getU64 "Limit"

/-- `proc_rasd_to_vdev` puts what is asked for in the device, and zero for what is not. -/
theorem asked_of_procRasdToVdev {inst : Instance} {dev dev' : VirtDevice VcpuDevice}
    (h : procRasdToVdev inst dev = .ok dev') :
    dev'.dev.weight = (Asked.ofRasd inst).weight.getD 0 ∧
      dev'.dev.limit = (Asked.ofRasd inst).limit.getD 0 := by
  unfold procRasdToVdev at h
  split at h
  · cases h
  · obtain rfl := Except.ok.inj h
    refine ⟨?_, rfl⟩
    unfold Asked.ofRasd
    cases inst.getU32 "Weight" with
    | some weight => rfl
    | none =>
      cases startsWith inst.classname "Xen" <;> cases startsWith inst.classname "QEMU" <;> rfl

/-- The device of a processor that is set has what the setting asks for. -/
theorem asked_of_rasdToVdev {host : Host} {domtype : DomainType} (hlxc : domtype ≠ .lxc)
    {inst : Instance} {dev dev' : VirtDevice VcpuDevice}
    (h : rasdToVdev host domtype inst .proc dev = .ok dev') :
    dev'.dev.weight = (Asked.ofRasd inst).weight.getD 0 ∧
      dev'.dev.limit = (Asked.ofRasd inst).limit.getD 0 := by
  obtain ⟨set, hset, rfl⟩ := rasdToVdev_ok h
  rw [if_neg hlxc] at hset
  have hproc : procRasdToVdev inst dev = .ok set := hset
  have hasked := asked_of_procRasdToVdev hproc
  exact hasked

/-- The setting is that of the processors. -/
def isProc (rasd : Instance) : Bool :=
  resTypeFromRasdClassname rasd = some (.dev .proc)

/-- The setting of the processors that counts: each one replaces the one before. -/
def lastProc (resources : List Instance) : Option Instance :=
  (resources.filter isProc).getLast?

/-! ### A Xen host -/

/-- What a request to a Xen host depends on. -/
structure XenEnv (Live : Type) where
  env : Env Live
  xen : env.calls.qemu = false

/-- What is in the store for a weight and a limit. -/
structure StoredAs (values : Values) (weight limit : UInt64) : Prop where
  weight : storedU64 values weightKey = weight
  limit : storedU64 values limitKey = limit

/-- **What `update_dominfo` records for a Xen domain.** -/
theorem updateDominfoStored_xen (env : XenEnv Live) (dominfo : Domain) (refcn : String)
    (s : Guest Live × Values) :
    ∃ values, updateDominfoStored env.env dominfo refcn s = (.ok (), s.1, values) ∧
      (records env.env dominfo refcn = true → ∃ vcpu, dominfo.devVcpu = [vcpu] ∧
        StoredAs values vcpu.dev.weight.toUInt64 vcpu.dev.limit) ∧
      (records env.env dominfo refcn = false → values = s.2) := by
  -- with Xen both values go to the store, when they are recorded at all
  match hrecords : records env.env dominfo refcn with
  | false =>
    rw [updateDominfoStored_of_not hrecords]
    exact ⟨s.2, rfl, by simp, fun _ => rfl⟩
  | true =>
    obtain ⟨vcpu, hmem, heq⟩ := updateDominfoStored_of_records hrecords
    -- there is exactly one processor entry
    have hsingle : dominfo.devVcpu = [vcpu] := by
      unfold records at hrecords
      simp only [Bool.and_eq_true, beq_iff_eq] at hrecords
      obtain ⟨only, honly⟩ := List.length_eq_one_iff.mp hrecords.1.1.1
      rw [honly] at hmem ⊢
      rw [List.mem_singleton.mp hmem]
    have hne : weightKey ≠ limitKey := by decide
    rw [heq, env.xen]
    refine ⟨_, rfl, fun _ => ⟨vcpu, hsingle, ?_, ?_⟩, by simp⟩
    · simp [storedU64, Function.update_of_ne hne]
    · simp [storedU64]

/-! ### Modifying the processors -/

section Modify

variable (env : Env Live) (devid : Option String) (rasd : Instance)

/-- The setting of the processors that a modification results in. -/
def processorSetting (root : Node) : Option Instance := do
  let dominfo ← (parsedDominfo env (.failed "Internal error (getting domain info)") root).toOption
  if isProc rasd ∧ dominfo.type ≠ .lxc then
    (mergedRasd env .mod dominfo rasd (.dev .proc) devid).toOption
  else none

variable {env devid rasd}

/-- The plan of a modification of the processors: the device has what is asked for. -/
theorem plan_of_processorSetting {root : Node} {setting : Instance}
    (hsetting : processorSetting env devid rasd root = some setting) {p : Plan} {refcn : String}
    (h : prepare env .mod devid rasd root = .ok (p, refcn)) :
    isStatic p.kind = false ∧ ∀ vcpu, p.seen.devVcpu = [vcpu] →
      vcpu.dev.weight = (Asked.ofRasd setting).weight.getD 0 ∧
        vcpu.dev.limit = (Asked.ofRasd setting).limit.getD 0 := by
  unfold processorSetting at hsetting
  unfold prepare at h
  obtain ⟨dominfo, hdominfo, h⟩ := bind_eq_ok h
  rw [hdominfo] at hsetting
  -- the request is a processor setting and the guest is no container
  have hguard : isProc rasd ∧ dominfo.type ≠ .lxc := by
    by_contra hnot
    rw [Except.toOption, Option.bind_eq_bind, Option.bind_some, if_neg hnot] at hsetting
    cases hsetting
  rw [Except.toOption, Option.bind_eq_bind, Option.bind_some, if_pos hguard] at hsetting
  -- so the plan is about that device
  have htype : resTypeFromRasdClassname rasd = some (.dev .proc) := of_decide_eq_true hguard.1
  rw [htype] at h
  dsimp only at h
  obtain ⟨merged, hmerged, h⟩ := bind_eq_ok h
  obtain ⟨p', hplan, h⟩ := bind_eq_ok h
  obtain ⟨rfl, -⟩ := Prod.mk.inj (Except.ok.inj h)
  rw [hmerged] at hsetting
  obtain rfl := Option.some.inj hsetting
  unfold plan at hplan
  dsimp only at hplan
  -- the device is found by its id, and set from the merged setting
  split at hplan
  next => cases hplan
  next =>
    split at hplan
    next => cases hplan
    next before dev after hfound =>
      split at hplan
      next => cases hplan
      next dev' hdev' =>
        obtain rfl := Except.ok.inj hplan
        refine ⟨rfl, fun vcpu hvcpu => ?_⟩
        -- the device that is set is the only one
        have hlist : (before ++ dev' :: after : List (VirtDevice VcpuDevice)) = [vcpu] := hvcpu
        have hmem : dev' ∈ [vcpu] := by
          rw [← hlist]
          exact List.mem_append_right _ List.mem_cons_self
        rw [← List.mem_singleton.mp hmem]
        exact asked_of_rasdToVdev hguard.2 hdev'

/-- What a request for a device leaves in the store is what `update_dominfo` writes. -/
theorem values_carried (env : Env Live) (action : ResourceAction) (p : Plan) (refcn : String)
    (s : Guest Live × Values) :
    (carried env action p refcn s).2.2 =
      if isStatic p.kind then s.2 else (updateDominfoStored env p.seen refcn s).2.2 := by
  -- only the record before the running change writes values
  have hchange : (changeRunningStored env p.seen action p.kind p.dev refcn s).2.2 =
      if isStatic p.kind then s.2 else (updateDominfoStored env p.seen refcn s).2.2 := by
    unfold changeRunningStored
    split
    · rfl
    · rw [Effect.bind_apply]
      obtain ⟨result, t⟩ := updateDominfoStored env p.seen refcn s
      cases result with
      | error e => rfl
      | ok u => rfl
  -- neither the running change nor the definition does
  rw [← hchange]
  unfold carried
  rw [Effect.bind_apply]
  obtain ⟨result, t⟩ := changeRunningStored env p.seen action p.kind p.dev refcn s
  cases result with
  | error e => rfl
  | ok u =>
    rw [Effect.goOn_ok]
    cases systemToXml env.nodeContent env.newUuid p.result with
    | error msg => rfl
    | ok doc =>
      dsimp only
      rw [Effect.bind_pure_snd]
      rfl

end Modify

/-! ### Other changes -/

/-- A change that is not of the processors, on a Xen host. -/
structure OtherChange (Live : Type) where
  env : XenEnv Live
  change : SettingsChange
  noProcessor : change.NoProcessor

/-- What the change leaves, whatever it answers. -/
def OtherChange.after (other : OtherChange Live) (s : Guest Live × Values) :
    Guest Live × Values :=
  (other.change.run other.env.env s).2

/-- `update_dominfo` writes what the parser has read of the processors, which is nothing. -/
def OtherChange.overwrites (other : OtherChange Live) (s : Guest Live × Values) : Bool :=
  match other.change with
  | .system _ _ => false
  | .resource action devid rasd =>
    match prepare other.env.env action devid rasd s.1.config with
    | .error _ => false
    | .ok (p, refcn) => !isStatic p.kind && records other.env.env p.seen refcn

/-- What a list of changes leaves. -/
def afterAll (others : List (OtherChange Live)) (s : Guest Live × Values) : Guest Live × Values :=
  others.foldl (fun s other => other.after s) s

/-- One of the changes writes zeros. -/
def overwritten : List (OtherChange Live) → Guest Live × Values → Bool
  | [], _ => false
  | other :: rest, s => other.overwrites s || overwritten rest (other.after s)

/-- One change leaves the weight and the limit in the store, or writes zeros. -/
theorem stored_otherChange (other : OtherChange Live) (s : Guest Live × Values)
    {weight limit : UInt64} (h : StoredAs s.2 weight limit) :
    (other.overwrites s = false → StoredAs (other.after s).2 weight limit) ∧
      (other.overwrites s = true → StoredAs (other.after s).2 0 0) := by
  obtain ⟨env, change, hproc⟩ := other
  -- settings of the system are not recorded
  cases change with
  | system sys vssd => exact ⟨fun _ => h, fun hnot => by cases hnot⟩
  | resource action devid rasd =>
    -- a resource that is not a processor
    have hafter : OtherChange.after ⟨env, .resource action devid rasd, hproc⟩ s =
        (updateResourcesForStored env.env action devid rasd s).2 := rfl
    have hoverwrites : OtherChange.overwrites ⟨env, .resource action devid rasd, hproc⟩ s =
        match prepare env.env action devid rasd s.1.config with
        | .error _ => false
        | .ok (p, refcn) => !isStatic p.kind && records env.env p.seen refcn := rfl
    rw [hafter, hoverwrites]
    -- refused, or carried out with a record of what was read
    obtain ⟨e, hprepare, heq⟩ | ⟨p, refcn, hprepare, heq⟩ :=
      @updateResourcesForStored_eq _ env.env action devid rasd s
    · rw [heq, hprepare]
      exact ⟨fun _ => h, fun hnot => by cases hnot⟩
    · rw [heq, hprepare, values_carried]
      dsimp only
      obtain ⟨values, hvalues, hrecorded, hnot⟩ :=
        updateDominfoStored_xen env p.seen refcn s
      rw [hvalues]
      -- static devices are not recorded, and others only when the calls answer
      match hstatic : isStatic p.kind, hrecords : records env.env p.seen refcn with
      | true, _ => exact ⟨fun _ => h, fun hfalse => by cases hfalse⟩
      | false, false =>
        rw [hnot hrecords]
        exact ⟨fun _ => h, fun hfalse => by cases hfalse⟩
      | false, true =>
        -- the parser has read no weight and no limit
        obtain ⟨vcpu, hsingle, hstored⟩ := hrecorded hrecords
        have hidle := (idle_of_prepare hprepare hproc).1 vcpu (by rw [hsingle]; simp)
        rw [hidle.1, hidle.2] at hstored
        exact ⟨fun hfalse => (by cases hfalse), fun _ => hstored⟩

/-- **What other changes leave in the store**: what was there, or zeros. -/
theorem stored_otherChanges (others : List (OtherChange Live)) (s : Guest Live × Values)
    {weight limit : UInt64} (h : StoredAs s.2 weight limit) :
    (overwritten others s = false → StoredAs (afterAll others s).2 weight limit) ∧
      (overwritten others s = true → StoredAs (afterAll others s).2 0 0) := by
  -- once there are zeros, the rest leaves them or writes them again
  induction others generalizing s weight limit with
  | nil => exact ⟨fun _ => h, fun hnot => by cases hnot⟩
  | cons other rest ih =>
    have hone := stored_otherChange other s h
    show (overwritten (other :: rest) s = false → StoredAs (afterAll rest (other.after s)).2 _ _) ∧
      (overwritten (other :: rest) s = true → StoredAs (afterAll rest (other.after s)).2 0 0)
    rw [overwritten]
    match hfirst : other.overwrites s with
    | false =>
      rw [Bool.false_or]
      exact ih (other.after s) (hone.1 hfirst)
    | true =>
      have hzero := ih (other.after s) (hone.2 hfirst)
      refine ⟨fun hnot => (by cases hnot), fun _ => ?_⟩
      match hrest : overwritten rest (other.after s) with
      | false => exact hzero.1 hrest
      | true => exact hzero.2 hrest

/-! ### Defining a system -/

section Define

/-- One round of `classify_resources`: a setting of the processors replaces them, and any other
leaves them. -/
theorem devVcpu_of_round {host : Host} {domain domain' : Domain} {inst : Instance}
    (h : (match resTypeFromRasdClassname inst with
      | none => .error ("Unable to determine resource type" : String)
      | some .image => .ok domain
      | some (.dev kind) => classifyResource host domain inst kind :
        Except RasdError Domain) = .ok domain') :
    domain'.type = domain.type ∧ (isProc inst = false → domain'.devVcpu = domain.devVcpu) ∧
      (isProc inst = true → ∃ base dev, rasdToVdev host domain.type inst .proc base = .ok dev ∧
        domain'.devVcpu = [dev]) := by
  -- the type of the domain is another member
  have hset (kind : DevKind) (list : List (VirtDevice kind.Dev)) :
      (domain.setList kind list).type = domain.type := by
    cases kind <;> rfl
  unfold isProc
  -- by the type of the setting
  split at h
  next => cases h
  next htype =>
    rw [← Except.ok.inj h, htype]
    exact ⟨rfl, fun _ => rfl, by simp⟩
  next kind htype =>
    rw [htype]
    unfold classifyResource at h
    dsimp only at h
    -- processors are set over the one entry there is
    by_cases hkind : kind = .proc
    · subst hkind
      rw [if_pos (by rfl)] at h
      obtain ⟨dev, hdev, h⟩ := bind_eq_ok h
      rw [← Except.ok.inj h]
      exact ⟨rfl, by simp, fun _ => ⟨_, dev, hdev, rfl⟩⟩
    -- the list of another kind is another member
    · have hother (list : List (VirtDevice kind.Dev)) :
          (domain.setList kind list).devVcpu = domain.devVcpu :=
        domain.list_setList_of_ne (Ne.symm hkind) list
      split at h
      · obtain ⟨dev, -, h⟩ := bind_eq_ok h
        rw [← Except.ok.inj h]
        exact ⟨hset kind _, fun _ => hother _, by simp [hkind]⟩
      · obtain ⟨dev, -, h⟩ := bind_eq_ok h
        obtain ⟨list, -, h⟩ := bind_eq_ok h
        rw [← Except.ok.inj h]
        exact ⟨hset kind _, fun _ => hother _, by simp [hkind]⟩

theorem lastProc_append (resources : List Instance) (inst : Instance) :
    lastProc (resources ++ [inst]) = if isProc inst then some inst else lastProc resources := by
  unfold lastProc
  rw [List.filter_append]
  cases hproc : isProc inst <;> simp [hproc]

/-- **The processors of a domain whose resources are sorted** are those of the last setting, if
there is one. -/
theorem devVcpu_of_classify {host : Host} {resources : List Instance} {domain domain' : Domain}
    (h : classifyResources host resources domain = .ok domain') :
    domain'.type = domain.type ∧ ∀ setting, lastProc resources = some setting →
      ∃ base dev, rasdToVdev host domain.type setting .proc base = .ok dev ∧
        domain'.devVcpu = [dev] := by
  unfold classifyResources at h
  split at h
  · cases h
  clear * - h
  -- from the back: the last round either sets the processors or leaves them
  induction resources using List.reverseRecOn generalizing domain' with
  | nil =>
    rw [← Except.ok.inj h]
    exact ⟨rfl, fun setting hnone => by cases hnone⟩
  | append_singleton resources inst ih =>
    -- the rounds before the last, then the last
    rw [List.foldlM_append] at h
    obtain ⟨next, hnext, h⟩ := bind_eq_ok h
    rw [List.foldlM_cons] at h
    obtain ⟨last, hlast, h⟩ := bind_eq_ok h
    obtain rfl := Except.ok.inj h
    obtain ⟨htype, hearlier⟩ := ih hnext
    obtain ⟨hsame, hother, hproc⟩ := devVcpu_of_round hlast
    refine ⟨hsame.trans htype, fun setting hsetting => ?_⟩
    rw [lastProc_append] at hsetting
    -- the last processor setting wins
    split_ifs at hsetting with hcase
    · obtain rfl := Option.some.inj hsetting
      rw [htype] at hproc
      exact hproc hcase
    · rw [hother (by simpa using hcase)]
      exact hearlier setting hsetting

theorem devVcpu_addDefaultDevs (domain : Domain) :
    (addDefaultDevs domain).devVcpu = domain.devVcpu ∧
      (addDefaultDevs domain).type = domain.type := by
  obtain ⟨graphics, console, input, heq⟩ := addDefaultDevs_eq domain
  rw [heq]
  exact ⟨rfl, rfl⟩

variable (env : Env Live) (sys : SystemHost)

/-- A request on the domain of a name and its store. -/
def onDomainStored (name : String) (missing : Failure) (m : StoredRequest Live Unit) :
    Effect (Recorded Live × Values) Failure Unit := fun s =>
  match s.1.1 name with
  | none => (.error missing, s)
  | some g =>
    ((m (g, s.2)).1, (Function.update s.1.1 name (some (m (g, s.2)).2.1), s.1.2),
      (m (g, s.2)).2.2)

/-- `create_system`, with the store of the domain. -/
def createSystemStored (stopped : Live) (guestOfUuid : Option String → Option String)
    (vssd : Instance) (resources : List Instance) (refconf : Option RefConf) :
    Effect (Recorded Live × Values) Failure Bool := do
  let domain ← .onFst (.onFst (domainToStart env refconf))
  let domain ← .ofExcept (newDomain env sys guestOfUuid vssd resources domain)
  let name := domain.name.getD ""
  let created ← .onFst (createRecorded env stopped name
    (systemToXml env.nodeContent env.newUuid domain).toOption)
  if created then
    onDomainStored name (noSuchDomain name) (updateDominfoStored env domain env.refcn)
  pure created

/-- `define_system`, with the store of the domain. -/
def defineSystemStored (stopped : Live) (guestOfUuid : Option String → Option String)
    (objectPath : Option CmpiErr) (args : DefineArgs) :
    Effect (Recorded Live × Values) Failure Unit := do
  let (vssd, res, refconf) ← .ofExcept args.parse
  let created ← createSystemStored env sys stopped guestOfUuid vssd res refconf
  if created then
    match objectPath with
    | none => pure ()
    | some rc => .fail (.status rc "")

variable {env sys}

theorem erases_onDomainStored (name : String) (missing : Failure) {m : StoredRequest Live Unit}
    {m' : Request Live Unit} (h : Erases m m') :
    Erases (onDomainStored name missing m) (.onFst (onDomain name missing m')) := by
  intro s
  unfold onDomainStored
  rw [Effect.onFst_apply]
  unfold onDomain
  cases s.1.1 name with
  | none => exact ⟨rfl, rfl⟩
  | some g =>
    obtain ⟨hresult, hguest⟩ := h (g, s.2)
    dsimp only
    rw [hresult, hguest]
    exact ⟨rfl, rfl⟩

/-- **The store is all that is added to `DefineSystem`.** -/
theorem erases_defineSystemStored (stopped : Live) (guestOfUuid : Option String → Option String)
    (objectPath : Option CmpiErr) (args : DefineArgs) :
    Erases (defineSystemStored env sys stopped guestOfUuid objectPath args)
      (defineSystemMethod env sys stopped guestOfUuid objectPath args) := by
  unfold defineSystemStored defineSystemMethod
  -- the arguments are only parsed
  refine .bind (.of_ofExcept _) fun parsed => ?_
  obtain ⟨vssd, res, refconf⟩ := parsed
  refine .bind ?_ fun created => ?_
  -- each part of create_system, with what it records
  · unfold createSystemStored createSystem
    refine .bind (.of_onFst _) fun start => .bind (.of_ofExcept _) fun domain => ?_
    refine .bind (.of_onFst _) fun created => ?_
    cases created with
    | false => exact .of_pure false
    | true =>
      refine .bind ?_ fun _ => .of_pure true
      exact erases_onDomainStored _ _ (erases_updateDominfoStored env domain env.refcn)
  -- the object path comes last, and may fail on its own
  · cases created with
    | false => exact .of_pure ()
    | true =>
      cases objectPath with
      | none => exact .of_pure ()
      | some rc => exact .of_fail _

/-- What a domain of a name has in the store when `update_dominfo` was called for it. -/
theorem values_onDomainStored (xenv : XenEnv Live) (name : String) (missing : Failure)
    (domain : Domain) (refcn : String) {s : Recorded Live × Values} {u : Unit}
    (h : (onDomainStored name missing (updateDominfoStored xenv.env domain refcn) s).1 = .ok u) :
    let values := (onDomainStored name missing (updateDominfoStored xenv.env domain refcn) s).2.2
    (records xenv.env domain refcn = true → ∃ vcpu, domain.devVcpu = [vcpu] ∧
        StoredAs values vcpu.dev.weight.toUInt64 vcpu.dev.limit) ∧
      (records xenv.env domain refcn = false → values = s.2) := by
  unfold onDomainStored at h ⊢
  -- the guest is there, and its values are those of the record
  cases hguest : s.1.1 name with
  | none =>
    rw [hguest] at h
    cases h
  | some g =>
    obtain ⟨values, heq, hrecorded, hnot⟩ := updateDominfoStored_xen xenv domain refcn (g, s.2)
    dsimp only
    rw [heq]
    exact ⟨hrecorded, hnot⟩

theorem createRecorded_created {stopped : Live} {name : String} {doc : Option Node}
    {w : Recorded Live} {created : Bool}
    (h : (createRecorded env stopped name doc w).1 = .ok created) :
    created = (connectByClassname env .create env.refcn).toOption.getD false := by
  -- a request that created nothing had no connection
  unfold createRecorded at h
  rw [Effect.bind_apply, Effect.ofExcept_apply] at h
  cases hconnect : connectByClassname env .create env.refcn with
  | error e =>
    rw [hconnect] at h
    cases h
  | ok connected =>
    rw [hconnect, Effect.goOn_ok] at h
    cases connected with
    | false => exact (Except.ok.inj h).symm
    | true =>
      -- the definition and the look-up of it have both succeeded
      rw [if_pos rfl, Effect.bind_apply] at h
      generalize defineRecorded env stopped name doc w = made at h
      obtain ⟨result, w'⟩ := made
      cases result with
      | error e => cases h
      | ok defined =>
        rw [Effect.goOn_ok] at h
        cases defined <;> cases hfound : env.calls.getDomainByName <;>
          simp [Effect.bind_apply, hfound, Effect.require] at h
        exact h

/-- **What `create_system` leaves in the store** of the domain it has created. -/
theorem values_createSystemStored (xenv : XenEnv Live) {stopped : Live}
    {guestOfUuid : Option String → Option String} {vssd : Instance} {resources : List Instance}
    {refconf : Option RefConf} {s : Recorded Live × Values} {created : Bool}
    (h : (createSystemStored xenv.env sys stopped guestOfUuid vssd resources refconf s).1 =
      .ok created) :
    ∃ start domain, (domainToStart xenv.env refconf s.1.1).1 = .ok start ∧
      newDomain xenv.env sys guestOfUuid vssd resources start = .ok domain ∧
      created = (connectByClassname xenv.env .create xenv.env.refcn).toOption.getD false ∧
      ((created && records xenv.env domain xenv.env.refcn) = true →
        ∃ vcpu, domain.devVcpu = [vcpu] ∧ StoredAs
          (createSystemStored xenv.env sys stopped guestOfUuid vssd resources refconf s).2.2
          vcpu.dev.weight.toUInt64 vcpu.dev.limit) ∧
      ((created && records xenv.env domain xenv.env.refcn) = false →
        (createSystemStored xenv.env sys stopped guestOfUuid vssd resources refconf s).2.2 =
          s.2) := by
  unfold createSystemStored at h ⊢
  -- the domain to start from is read first
  rw [Effect.bind_apply, Effect.onFst_apply, Effect.onFst_apply] at h ⊢
  generalize domainToStart xenv.env refconf s.1.1 = started at h ⊢
  obtain ⟨start, w⟩ := started
  cases start with
  | error e => cases h
  | ok start =>
    dsimp only at h ⊢
    rw [Effect.goOn_ok, Effect.bind_apply, Effect.ofExcept_apply] at h ⊢
    -- then what is to be created is put together from it
    cases hnew : newDomain xenv.env sys guestOfUuid vssd resources start with
    | error e =>
      rw [hnew] at h
      cases h
    | ok domain =>
      rw [hnew] at h
      rw [Effect.goOn_ok, Effect.bind_apply, Effect.onFst_apply] at h ⊢
      refine ⟨start, domain, rfl, hnew, ?_⟩
      -- what was created decides whether there is a record
      have hcreated (b : Bool)
          (hmade : (createRecorded xenv.env stopped (domain.name.getD "")
            (systemToXml xenv.env.nodeContent xenv.env.newUuid domain).toOption
            (w, s.1.2)).1 = .ok b) := createRecorded_created hmade
      generalize createRecorded xenv.env stopped _ _ (w, s.1.2) = made at h hcreated ⊢
      obtain ⟨result, w'⟩ := made
      cases result with
      | error e => cases h
      | ok connected =>
        rw [Effect.goOn_ok] at h ⊢
        -- the record is made with the domain that was defined
        have hconnected := hcreated connected rfl
        cases connected with
        | false =>
          obtain rfl := Except.ok.inj h
          exact ⟨hconnected, fun hnot => (by cases hnot), fun _ => rfl⟩
        | true =>
          dsimp only at h ⊢
          -- the guest that was defined is found again under its name
          rw [if_pos rfl, Effect.bind_apply] at h ⊢
          have hvalues (u : Unit) := values_onDomainStored xenv (domain.name.getD "")
            (noSuchDomain (domain.name.getD "")) domain xenv.env.refcn (s := (w', s.2)) (u := u)
          generalize onDomainStored _ _ _ (w', s.2) = ended at h hvalues ⊢
          obtain ⟨result, w''⟩ := ended
          cases result with
          | error e => cases h
          | ok u =>
            obtain rfl := Except.ok.inj h
            rw [Effect.goOn_ok, Bool.true_and]
            exact ⟨hconnected, hvalues u rfl⟩

end Define

/-! ### Requests that set the processors -/

/-- A request that sets the processors of a Xen domain: a setting of `ModifyResourceSettings` on
a domain, or `DefineSystem` on a host, with what the store has for the name. -/
inductive SetRequest (Live : Type)
  | modify (env : XenEnv Live) (devid : Option String) (rasd : Instance)
      (s : Guest Live × Values)
  | define (env : XenEnv Live) (sys : SystemHost) (stopped : Live)
      (guestOfUuid : Option String → Option String) (objectPath : Option CmpiErr)
      (args : DefineArgs) (w : Recorded Live) (values : Values)

namespace SetRequest

/-- The name of the domain that is defined. -/
def definedName (args : DefineArgs) : String :=
  (args.systemSettings.bind (·.getStr "VirtualSystemIdentifier")).getD ""

/-- The result of a request, and the domain with its store behind it. -/
def run : SetRequest Live → Except Failure Unit × Option (Guest Live × Values)
  | .modify env devid rasd s =>
    let r := updateResourcesForStored env.env .mod devid rasd s
    (r.1, some r.2)
  | .define env sys stopped guestOfUuid objectPath args w values =>
    let r := defineSystemStored env.env sys stopped guestOfUuid objectPath args (w, values)
    (r.1, (r.2.1.1 (definedName args)).map fun g => (g, r.2.2))

/-- The domain that `DefineSystem` writes. -/
def described (env : Env Live) (sys : SystemHost) (guestOfUuid : Option String → Option String)
    (args : DefineArgs) (w : World Live) : Option (Domain × List Instance) := do
  let (vssd, res, refconf) ← args.parse.toOption
  let start ← (domainToStart env refconf w).1.toOption
  let domain ← (newDomain env sys guestOfUuid vssd res start).toOption
  some (domain, res)

/-- What a request asks for, if it is about the processors. -/
def asked : SetRequest Live → Option Asked
  | .modify env devid rasd s => (processorSetting env.env devid rasd s.1.config).map Asked.ofRasd
  | .define env sys _ guestOfUuid _ args w _ =>
    match described env.env sys guestOfUuid args w.1 with
    | none => none
    | some (domain, res) =>
      if domain.type = .lxc then none else (lastProc res).map Asked.ofRasd

/-- The request gets to the store. -/
def recorded : SetRequest Live → Bool
  | .modify env devid rasd s =>
    match prepare env.env .mod devid rasd s.1.config with
    | .error _ => false
    | .ok (p, refcn) => records env.env p.seen refcn
  | .define env sys _ guestOfUuid _ args w _ =>
    match described env.env sys guestOfUuid args w.1 with
    | none => false
    | some (domain, _) =>
      (connectByClassname env.env .create env.env.refcn).toOption.getD false &&
        records env.env domain env.env.refcn

/-- What the store had before. -/
def before : SetRequest Live → Values
  | .modify _ _ _ s => s.2
  | .define _ _ _ _ _ _ _ values => values

theorem recorded_modify {env : XenEnv Live} {devid : Option String} {rasd : Instance}
    {s : Guest Live × Values} {p : Plan} {refcn : String}
    (h : prepare env.env .mod devid rasd s.1.config = .ok (p, refcn)) :
    (modify env devid rasd s).recorded = records env.env p.seen refcn := by
  simp only [recorded, h]

theorem stored_modify {env : XenEnv Live} {devid : Option String} {rasd : Instance}
    {t : Guest Live × Values} {asked : Asked} {s : Guest Live × Values}
    (hasked : (modify env devid rasd t).asked = some asked)
    (hrun : (modify env devid rasd t).run = (.ok (), some s)) :
    ((modify env devid rasd t).recorded = true →
        StoredAs s.2 (asked.weight.getD 0).toUInt64 (asked.limit.getD 0)) ∧
      ((modify env devid rasd t).recorded = false → s.2 = t.2) := by
  -- the setting asked for is the one of the processor
  obtain ⟨setting, hsetting, rfl⟩ := Option.map_eq_some_iff.mp hasked
  obtain ⟨hresult, hstate⟩ := Prod.mk.inj hrun
  obtain rfl := Option.some.inj hstate
  -- refused, or carried out as planned
  obtain ⟨e, -, heq⟩ | ⟨p, refcn, hprepare, heq⟩ :=
    @updateResourcesForStored_eq _ env.env .mod devid rasd t
  · rw [heq] at hresult
    cases hresult
  -- the device of the plan has the weight and limit that the setting asks for
  · obtain ⟨hstatic, hset⟩ := plan_of_processorSetting hsetting hprepare
    obtain ⟨values, hvalues, hrecorded, hnot⟩ := updateDominfoStored_xen env p.seen refcn t
    rw [heq, recorded_modify hprepare, values_carried, hstatic, hvalues]
    refine ⟨fun h => ?_, hnot⟩
    obtain ⟨vcpu, hsingle, hstored⟩ := hrecorded h
    obtain ⟨hweight, hlimit⟩ := hset vcpu hsingle
    rw [hweight, hlimit] at hstored
    exact hstored

section

variable {env : XenEnv Live} {sys : SystemHost} {stopped : Live}
  {guestOfUuid : Option String → Option String} {objectPath : Option CmpiErr} {args : DefineArgs}
  {w : Recorded Live} {values : Values}

theorem recorded_define {domain : Domain} {res : List Instance}
    (h : described env.env sys guestOfUuid args w.1 = some (domain, res)) :
    (define env sys stopped guestOfUuid objectPath args w values).recorded =
      ((connectByClassname env.env .create env.env.refcn).toOption.getD false &&
        records env.env domain env.env.refcn) := by
  simp only [recorded, h]

/-- The processors of the domain that `DefineSystem` writes have what is asked for. -/
theorem devVcpu_of_described {domain : Domain} {res : List Instance} {setting : Instance}
    (h : described env.env sys guestOfUuid args w.1 = some (domain, res))
    (hlxc : domain.type ≠ .lxc) (hlast : lastProc res = some setting) {vcpu : VirtDevice VcpuDevice}
    (hsingle : domain.devVcpu = [vcpu]) :
    vcpu.dev.weight = (Asked.ofRasd setting).weight.getD 0 ∧
      vcpu.dev.limit = (Asked.ofRasd setting).limit.getD 0 := by
  -- the description is the domain that the resources were put into
  obtain ⟨⟨vssd, res', refconf⟩, -, h⟩ := Option.bind_eq_some_iff.mp h
  obtain ⟨start, -, h⟩ := Option.bind_eq_some_iff.mp h
  obtain ⟨domain', hnew, h⟩ := Option.bind_eq_some_iff.mp h
  obtain ⟨rfl, rfl⟩ := Prod.mk.inj (Option.some.inj h)
  obtain ⟨set, classified, -, -, hclassify, rfl⟩ :=
    newDomain_ok env.env sys (eq_ok_of_toOption hnew)
  -- default devices are no processors
  obtain ⟨hvcpu, htype⟩ := devVcpu_addDefaultDevs classified
  obtain ⟨hset, hproc⟩ := devVcpu_of_classify hclassify
  obtain ⟨base, dev, hdev, hlist⟩ := hproc setting hlast
  rw [htype, hset] at hlxc
  rw [hvcpu, hlist] at hsingle
  -- the last processor setting is the one entry
  obtain rfl := List.singleton_inj.mp hsingle
  exact asked_of_rasdToVdev hlxc hdev

/-- `DefineSystem` leaves in the store what `create_system` does. -/
theorem values_defineSystemStored {vssd : Instance} {res : List Instance}
    {refconf : Option RefConf} (hparse : args.parse = .ok (vssd, res, refconf))
    {s : Recorded Live × Values} {u : Unit}
    (h : (defineSystemStored env.env sys stopped guestOfUuid objectPath args s).1 = .ok u) :
    ∃ created,
      (createSystemStored env.env sys stopped guestOfUuid vssd res refconf s).1 = .ok created ∧
      (defineSystemStored env.env sys stopped guestOfUuid objectPath args s).2 =
        (createSystemStored env.env sys stopped guestOfUuid vssd res refconf s).2 := by
  -- the arguments are those that were described
  unfold defineSystemStored at h ⊢
  rw [hparse, Effect.bind_apply, Effect.ofExcept_apply, Effect.goOn_ok] at h ⊢
  dsimp only at h ⊢
  rw [Effect.bind_apply] at h ⊢
  generalize createSystemStored env.env sys stopped guestOfUuid vssd res refconf s = made at h ⊢
  obtain ⟨result, t⟩ := made
  cases result with
  | error e => cases h
  -- the path of the new system has no influence on the values
  | ok created =>
    refine ⟨created, rfl, ?_⟩
    cases created with
    | false => rfl
    | true => cases objectPath <;> rfl

theorem stored_define {asked : Asked} {s : Guest Live × Values}
    (hasked : (define env sys stopped guestOfUuid objectPath args w values).asked = some asked)
    (hrun : (define env sys stopped guestOfUuid objectPath args w values).run =
      (.ok (), some s)) :
    ((define env sys stopped guestOfUuid objectPath args w values).recorded = true →
        StoredAs s.2 (asked.weight.getD 0).toUInt64 (asked.limit.getD 0)) ∧
      ((define env sys stopped guestOfUuid objectPath args w values).recorded = false →
        s.2 = values) := by
  -- the request has stored what the description gives
  obtain ⟨hresult, hstate⟩ := Prod.mk.inj hrun
  obtain ⟨g, -, hs⟩ := Option.map_eq_some_iff.mp hstate
  rw [← hs]
  unfold SetRequest.asked at hasked
  dsimp only at hasked
  cases hdescribed : described env.env sys guestOfUuid args w.1 with
  | none =>
    rw [hdescribed] at hasked
    cases hasked
  | some found =>
    obtain ⟨domain, res⟩ := found
    rw [hdescribed] at hasked
    dsimp only at hasked
    -- the setting is the last one for the processors of a guest that is no container
    split_ifs at hasked with hlxc
    obtain ⟨setting, hlast, rfl⟩ := Option.map_eq_some_iff.mp hasked
    have hset {vcpu : VirtDevice VcpuDevice} (hsingle : domain.devVcpu = [vcpu]) :=
      devVcpu_of_described hdescribed hlxc hlast hsingle
    rw [recorded_define hdescribed]
    obtain ⟨⟨vssd, res', refconf⟩, hparse, hdescribed⟩ := Option.bind_eq_some_iff.mp hdescribed
    obtain ⟨start, hstart, hdescribed⟩ := Option.bind_eq_some_iff.mp hdescribed
    obtain ⟨domain', hnew, hdescribed⟩ := Option.bind_eq_some_iff.mp hdescribed
    obtain ⟨rfl, rfl⟩ := Prod.mk.inj (Option.some.inj hdescribed)
    obtain ⟨created, hcreate, hend⟩ :=
      values_defineSystemStored (eq_ok_of_toOption hparse) hresult
    obtain ⟨start', domain'', hstart', hnew', hconnected, hrecorded, hnot⟩ :=
      values_createSystemStored env hcreate
    -- the domain that is described is the one that was put together
    obtain rfl : start = start' := Except.ok.inj ((eq_ok_of_toOption hstart).symm.trans hstart')
    obtain rfl : domain' = domain'' := Except.ok.inj ((eq_ok_of_toOption hnew).symm.trans hnew')
    dsimp only
    rw [hend, ← hconnected]
    -- recorded with one processor, whose values are the ones asked for
    refine ⟨fun h => ?_, hnot⟩
    obtain ⟨vcpu, hsingle, hstored⟩ := hrecorded h
    obtain ⟨hweight, hlimit⟩ := hset hsingle
    rw [hweight, hlimit] at hstored
    exact hstored

end

/-- **What a request that succeeds leaves in the store**: what was asked for, if it got to the
store, and what was there if it did not. -/
theorem stored {r : SetRequest Live} {asked : Asked} {s : Guest Live × Values}
    (hasked : r.asked = some asked) (hrun : r.run = (.ok (), some s)) :
    (r.recorded = true →
        StoredAs s.2 (asked.weight.getD 0).toUInt64 (asked.limit.getD 0)) ∧
      (r.recorded = false → s.2 = r.before) := by
  cases r with
  | modify env devid rasd t => exact stored_modify hasked hrun
  | define env sys stopped guestOfUuid objectPath args w values =>
    exact stored_define hasked hrun

end SetRequest

end LibvirtCim.Service
