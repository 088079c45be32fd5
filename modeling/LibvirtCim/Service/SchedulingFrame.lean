import LibvirtCim.Device.Regenerate
import LibvirtCim.Service.DevicesKept
import LibvirtCim.Service.Scheduling

/-!
# What a request does to the weight and the limit of the processors

A change of the settings of a system, or of a device that is no processor, says nothing about
the weight and the limit of the processors. But the parser reads neither of them, so that the
parsed domain has zero for both, and that is what every such request writes: into the
definition as the shares of `cputune` whenever the domain is defined anew, and through
`update_dominfo` for a device that can be changed on a running domain.

`schedulingKept_iff` is the exact condition under which they stay: what is written was there.
-/

open Framework LibvirtCim.Device LibvirtCim.Infostore LibvirtCim.Rasd

namespace LibvirtCim.Service

variable {Live : Type} (env : Env Live)

/-! ### The weight and the limit of a domain -/

/-- The shares in a definition. -/
def sharesOf (root : Node) : Option String :=
  (root.child "cputune").bind fun cputune => cputune.childText "shares"

/-- `infostore_get_u64`, on the values. -/
def storedU64 (values : Values) (k : Key) : UInt64 :=
  match values k with
  | some (.u64 n) => n
  | _ => 0

/-- The weight and the limit in the store and the shares in the definition are the same. The first
two are what a Xen guest is started with, the shares are what libvirt applies itself. -/
structure SchedulingKept (s s' : Guest Live × Values) : Prop where
  weight : storedU64 s'.2 weightKey = storedU64 s.2 weightKey
  limit : storedU64 s'.2 limitKey = storedU64 s.2 limitKey
  shares : sharesOf s'.1.config = sharesOf s.1.config

/-- What libvirt says of the shares: a definition keeps those of its document, and the ones
that are set are those of the definition. -/
structure SharesDocumented (lv : Libvirt Live) : Prop where
  defineXML : ∀ doc config, lv.defineXML doc = some config → sharesOf config = sharesOf doc
  setConfig : ∀ shares config config',
    lv.setConfigSchedulerParameters shares config = some config' →
    sharesOf config' = some (toString shares.toNat)

/-- A request that is not about processors. -/
inductive SettingsChange
  /-- `ModifySystemSettings` -/
  | system (sys : SystemHost) (vssd : Instance)
  /-- `AddResourceSettings`, `ModifyResourceSettings` or `RemoveResourceSettings`, for one
  setting -/
  | resource (action : ResourceAction) (devid : Option String) (rasd : Instance)

/-- The request, with the store: the settings of a system do not touch it. -/
def SettingsChange.run : SettingsChange → StoredRequest Live Unit
  | .system sys vssd => .onFst (updateSystemSettings env sys vssd)
  | .resource action devid rasd => updateResourcesForStored env action devid rasd

/-- The setting is not that of a processor. -/
def SettingsChange.NoProcessor : SettingsChange → Prop
  | .system _ _ => True
  | .resource _ _ rasd => resTypeFromRasdClassname rasd ≠ some (.dev .proc)

/-! ### How far a request gets -/

/-- `get_dominfo`, on a description. -/
def parsedDominfo (e : Failure) (root : Node) : Except Failure Domain :=
  if env.calls.xmlDesc then
    match getDominfoFromXml root with
    | .error _ => .error .crash
    | .ok dominfo => if env.calls.autostart then .ok dominfo else .error e
  else .error e

/-- The part of a request for a resource before anything is changed. -/
def prepare (action : ResourceAction) (devid : Option String) (rasd : Instance) (root : Node) :
    Except Failure (Plan × String) := do
  let dominfo ← parsedDominfo env (.failed "Internal error (getting domain info)") root
  match resTypeFromRasdClassname rasd with
  | none => .error (.failed "Unable to determine RASD type")
  | some type => do
    let rasd ← mergedRasd env action dominfo rasd type devid
    let p ← plan env.host dominfo rasd type devid action
    .ok (p, rasd.classname)

/-- The domain that is defined anew with the settings of a system. -/
def resettled (sys : SystemHost) (vssd : Instance) (root : Node) : Option Domain := do
  let name ← vssd.getStr "VirtualSystemIdentifier"
  if (connectByClassname env .request env.refcn).toOption = some true ∧
      env.calls.lookup .request = true then
    let dominfo ← (parsedDominfo env
      (.failed ("Unable to find existing domain `" ++ name ++ "' to modify")) root).toOption
    (updatedDomain env sys vssd name dominfo).toOption
  else none

/-- `update_dominfo` gets to the store. -/
def records (dominfo : Domain) (refcn : String) : Bool :=
  dominfo.devVcpu.length == 1 &&
    (connectByClassname env .updateDominfo refcn).toOption.getD false &&
    env.calls.lookup .updateDominfo && env.calls.infostore

/-- The change on the running domain is not refused. -/
def accepts (action : ResourceAction) (p : Plan) (refcn : String) (live : Live) : Bool :=
  isStatic p.kind ||
    match connectByClassname env .dynamic refcn with
    | .error _ => false
    | .ok connected => !connected || (env.calls.lookup .dynamic &&
        (!env.calls.online ||
          ((changeLive env action p.kind p.dev live).map Prod.fst).getD false))

/-- The definition that a domain is given. -/
def redefinition (dominfo : Domain) : Option Node :=
  match systemToXml env.nodeContent env.newUuid dominfo with
  | .error _ => none
  | .ok doc =>
    if (connectByClassname env .create env.refcn).toOption = some true then env.lv.defineXML doc
    else none

/-! ### The exact condition -/

/-- The shares that a domain without a weight is written with. -/
def idleShares (dominfo : Domain) : Option String :=
  dominfo.devVcpu.head?.map fun _ => "0"

/-- What a request for a resource writes was there. -/
structure ResourceHarmless (action : ResourceAction) (p : Plan) (refcn : String)
    (s : Guest Live × Values) : Prop where
  /-- the weight goes to the store for hypervisors other than QEMU -/
  weight : isStatic p.kind = false → records env p.seen refcn = true → env.calls.qemu = false →
    storedU64 s.2 weightKey = 0
  /-- the limit goes there unless the shares were refused -/
  limit : isStatic p.kind = false → records env p.seen refcn = true →
    (env.calls.qemu = true → (env.lv.setConfigSchedulerParameters 0 s.1.config).isSome) →
    storedU64 s.2 limitKey = 0
  /-- the domain is defined anew -/
  defined : accepts env action p refcn s.1.live = true → (redefinition env p.result).isSome →
    sharesOf s.1.config = idleShares p.result
  /-- the shares are set, and the domain is not defined anew -/
  shares : isStatic p.kind = false → records env p.seen refcn = true → env.calls.qemu = true →
    (env.lv.setConfigSchedulerParameters 0 s.1.config).isSome →
    ¬ (accepts env action p refcn s.1.live = true ∧ (redefinition env p.result).isSome) →
    sharesOf s.1.config = some "0"

/-- What a request writes was there, as far as it gets. -/
def Harmless (s : Guest Live × Values) : SettingsChange → Prop
  | .system sys vssd => ∀ dominfo, resettled env sys vssd s.1.config = some dominfo →
      (redefinition env dominfo).isSome → sharesOf s.1.config = idleShares dominfo
  | .resource action devid rasd => ∀ p refcn,
      prepare env action devid rasd s.1.config = .ok (p, refcn) →
        ResourceHarmless env action p refcn s

variable {env}

/-! ### What is written for a parsed domain -/

/-- The processors have no weight and no limit. -/
def Idle (dominfo : Domain) : Prop :=
  ∀ vcpu ∈ dominfo.devVcpu, vcpu.dev.weight = 0 ∧ vcpu.dev.limit = 0

/-- **The parser reads no weight and no limit.** -/
theorem idle_of_parsed {root : Node} {dominfo : Domain}
    (h : getDominfoFromXml root = .ok dominfo) : Idle dominfo := by
  intro vcpu hmem
  have hparse : parseDevices root .proc = .ok dominfo.devVcpu := list_getDominfoFromXml h (by simp)
  obtain ⟨node, -, hnode⟩ := exists_node_of_mem hparse hmem
  cases hnode
  exact ⟨rfl, rfl⟩

/-- The first child of a name is the first element of it. -/
theorem child_eq_head (node : Node) (key : String) :
    node.child key = (elems [key] node.children).head? := by
  unfold Node.child elems
  rw [List.head?_filter]
  simp

/-- The shares of a document that is written for a domain without a weight. -/
theorem sharesOf_systemToXml {nodeContent : String → List Node}
    (hdoc : ContentDocumented nodeContent) {newUuid : String} {dominfo : Domain} {doc : Node}
    (hidle : Idle dominfo) (h : systemToXml nodeContent newUuid dominfo = .ok doc) :
    sharesOf doc = idleShares dominfo := by
  -- cputune is the only element of the document with this name
  obtain ⟨os, hos, h⟩ := bind_eq_ok h
  obtain ⟨devices, hdevices, h⟩ := bind_eq_ok h
  obtain ⟨written, -, rfl⟩ := devicesElementXml_ok nodeContent hdevices
  rw [← Except.ok.inj h, sharesOf, child_eq_head, Node.children_elem]
  simp only [elems_append]
  rw [(named_systemXml nodeContent dominfo _).elems_eq_nil (by simp [settingNames]),
    (named_osXml nodeContent hos).elems_eq_nil (by simp [settingNames]),
    (named_memXml nodeContent dominfo).elems_eq_nil (by simp),
    (named_vcpuXml nodeContent dominfo).elems_eq_nil (by simp),
    (named_cputuneXml nodeContent dominfo).elems_eq_self]
  -- what is written there is the weight of the first processor, which is 0
  unfold cputuneXml idleShares
  cases hvcpu : dominfo.devVcpu.head? with
  | none => rfl
  | some vcpu =>
    have hweight : vcpu.dev.weight = 0 := (hidle vcpu (List.mem_of_head? hvcpu)).1
    have hprint : toString vcpu.dev.weight.toInt32.toInt = "0" := by
      rw [hweight]
      rfl
    show some (contentText nodeContent (toString vcpu.dev.weight.toInt32.toInt)) = some "0"
    rw [hprint]
    exact congrArg some (contentText_repr hdoc 0)

/-! ### The steps of a request -/

section Steps

variable {dominfo : Domain} {refcn : String}

/-- What is recorded for a domain with a processor, when every call before the store answers. -/
theorem updateDominfoStored_of_records (h : records env dominfo refcn = true) :
    ∃ vcpu ∈ dominfo.devVcpu, updateDominfoStored env dominfo refcn =
      if env.calls.qemu then (do
        let kept ← .onFst (onConfig (env.lv.setConfigSchedulerParameters vcpu.dev.weight.toUInt64))
        if kept then setStored limitKey vcpu.dev.limit else pure ())
      else (do
        setStored weightKey vcpu.dev.weight.toUInt64
        setStored limitKey vcpu.dev.limit) := by
  unfold records at h
  simp only [Bool.and_eq_true, beq_iff_eq] at h
  obtain ⟨⟨⟨hlength, hconnect⟩, hlookup⟩, hstore⟩ := h
  obtain ⟨vcpu, hvcpu⟩ := List.length_eq_one_iff.mp hlength
  -- a connection that is not there would have ended it
  have hconnected : connectByClassname env .updateDominfo refcn = .ok true := by
    cases hresult : connectByClassname env .updateDominfo refcn with
    | error e =>
      rw [hresult] at hconnect
      cases hconnect
    | ok connected =>
      rw [hresult] at hconnect
      exact congrArg Except.ok hconnect
  -- the record is that of the one processor
  refine ⟨vcpu, by rw [hvcpu]; exact List.mem_singleton_self vcpu, ?_⟩
  unfold updateDominfoStored
  rw [hvcpu, hconnected, hlookup, hstore]
  rfl

theorem updateDominfoStored_of_not (h : records env dominfo refcn = false) :
    updateDominfoStored env dominfo refcn = pure () := by
  unfold updateDominfoStored
  split
  · next vcpu hvcpu hconnect =>
    have hrecords : records env dominfo refcn =
        (env.calls.lookup .updateDominfo && env.calls.infostore) := by
      simp [records, hvcpu, hconnect, Except.toOption]
    rw [← hrecords, h]
    rfl
  · rfl

/-- What `update_dominfo` leaves of a domain without a weight. -/
theorem updateDominfoStored_idle (hidle : Idle dominfo) (s : Guest Live × Values) :
    ∃ config values,
      updateDominfoStored env dominfo refcn s = (.ok (), ⟨s.1.live, config⟩, values) ∧
      config = (if records env dominfo refcn = true ∧ env.calls.qemu = true then
          (env.lv.setConfigSchedulerParameters 0 s.1.config).getD s.1.config else s.1.config) ∧
      storedU64 values weightKey = (if records env dominfo refcn = true ∧ env.calls.qemu = false
        then 0 else storedU64 s.2 weightKey) ∧
      storedU64 values limitKey = (if records env dominfo refcn = true ∧ (env.calls.qemu = true →
          (env.lv.setConfigSchedulerParameters 0 s.1.config).isSome) then 0
        else storedU64 s.2 limitKey) := by
  cases hrecords : records env dominfo refcn with
  | false =>
    rw [updateDominfoStored_of_not hrecords]
    exact ⟨_, _, rfl, by simp, by simp, by simp⟩
  | true =>
    -- an idle processor asks for weight 0 and limit 0
    obtain ⟨vcpu, hmem, heq⟩ := updateDominfoStored_of_records hrecords
    obtain ⟨hweight, hlimit⟩ := hidle vcpu hmem
    rw [heq, hweight, hlimit]
    have hne : weightKey ≠ limitKey := by decide
    -- QEMU keeps the weight in the definition, the others in the store
    cases hqemu : env.calls.qemu with
    | true =>
      cases hset : env.lv.setConfigSchedulerParameters 0 s.1.config with
      | none =>
        -- the definition is refused, and then the limit is not stored either
        refine ⟨s.1.config, s.2, ?_, by simp, by simp, by simp⟩
        simp [Effect.bind_apply, onConfig, hset]
      | some config =>
        -- the two keys are different, so the weight stays what it was
        refine ⟨config, Function.update s.2 limitKey (some (.u64 0)), ?_, by simp, ?_, ?_⟩
        · simp [Effect.bind_apply, onConfig, hset, setStored]
        · simp [storedU64, Function.update_of_ne hne]
        · simp [storedU64]
    | false =>
      refine ⟨s.1.config, Function.update (Function.update s.2 weightKey (some (.u64 0))) limitKey
        (some (.u64 0)), ?_, by simp, ?_, ?_⟩
      · rfl
      · simp [storedU64, Function.update_of_ne hne]
      · simp [storedU64]

/-- The running domain is changed, and the definition is not. -/
theorem dynamicChange_spec {action : ResourceAction} {p : Plan} (hstatic : isStatic p.kind = false)
    (g : Guest Live) :
    (dynamicChange env p.seen action p.kind p.dev refcn g).2.config = g.config ∧
      (dynamicChange env p.seen action p.kind p.dev refcn g).1.toOption.isSome =
        accepts env action p refcn g.live := by
  -- each call on the way to the running domain may fail
  unfold dynamicChange accepts
  rw [hstatic, Bool.false_or]
  cases connectByClassname env .dynamic refcn with
  | error e => exact ⟨rfl, rfl⟩
  | ok connected =>
    cases connected with
    | false => exact ⟨rfl, rfl⟩
    | true =>
      cases hlookup : env.calls.lookup .dynamic with
      | false => exact ⟨rfl, rfl⟩
      | true =>
        cases honline : env.calls.online with
        | false => exact ⟨rfl, rfl⟩
        | true =>
          -- whatever the change does, it does to the running domain
          simp only [Effect.bind_apply, Effect.ofExcept_apply, Effect.goOn_ok, if_true,
            Effect.require_true_apply, onLive]
          cases changeLive env action p.kind p.dev g.live with
          | none => exact ⟨rfl, rfl⟩
          | some changed =>
            obtain ⟨ok, live⟩ := changed
            cases ok with
            | false => exact ⟨rfl, rfl⟩
            | true => exact ⟨rfl, rfl⟩

/-- The definition is the new one, if there is one. -/
theorem connectAndCreate_config (doc : Node) (g : Guest Live) :
    (connectAndCreate env (some doc) g).2.config =
      (if (connectByClassname env .create env.refcn).toOption = some true then
        env.lv.defineXML doc else none).getD g.config := by
  -- the definition changes only when libvirt takes the document
  unfold connectAndCreate
  cases connectByClassname env .create env.refcn with
  | error e => rfl
  | ok connected =>
    cases connected with
    | false => rfl
    | true =>
      simp only [Effect.bind_apply, Effect.ofExcept_apply, Effect.goOn_ok, if_true, onConfig,
        Effect.call_apply, Option.bind_some, Except.toOption]
      cases env.lv.defineXML doc with
      | none => rfl
      -- looking up what was defined comes after
      | some config => cases env.calls.getDomainByName <;> rfl

/-- The second half of a request for a resource. -/
def carried (env : Env Live) (action : ResourceAction) (p : Plan) (refcn : String) :
    StoredRequest Live Unit := do
  changeRunningStored env p.seen action p.kind p.dev refcn
  match systemToXml env.nodeContent env.newUuid p.result with
  | .error _ => .fail (.failed "Internal error (xml generation failed)")
  | .ok doc => do
    let _ ← .onFst (connectAndCreate env (some doc))
    pure ()

/-- What `update_dominfo` has left when a device of a plan was changed. -/
structure Noted (env : Env Live) (p : Plan) (refcn : String) (s : Guest Live × Values)
    (config : Node) (values : Values) : Prop where
  config : config = if isStatic p.kind = false ∧ records env p.seen refcn = true ∧
      env.calls.qemu = true then
    (env.lv.setConfigSchedulerParameters 0 s.1.config).getD s.1.config else s.1.config
  weight : storedU64 values weightKey = if isStatic p.kind = false ∧
      records env p.seen refcn = true ∧ env.calls.qemu = false then 0
    else storedU64 s.2 weightKey
  limit : storedU64 values limitKey = if isStatic p.kind = false ∧
      records env p.seen refcn = true ∧ (env.calls.qemu = true →
        (env.lv.setConfigSchedulerParameters 0 s.1.config).isSome) then 0
    else storedU64 s.2 limitKey

theorem changeRunningStored_spec {action : ResourceAction} {p : Plan} (hidle : Idle p.seen)
    (s : Guest Live × Values) :
    ((changeRunningStored env p.seen action p.kind p.dev refcn s).1.toOption.isSome =
        accepts env action p refcn s.1.live) ∧
      Noted env p refcn s (changeRunningStored env p.seen action p.kind p.dev refcn s).2.1.config
        (changeRunningStored env p.seen action p.kind p.dev refcn s).2.2 := by
  unfold changeRunningStored
  -- a static device goes without a change to the running domain
  cases hstatic : isStatic p.kind with
  | true =>
    refine ⟨?_, ⟨?_, ?_, ?_⟩⟩
    · rw [accepts, hstatic]
      rfl
    · simp [hstatic]
    · simp [hstatic]
    · simp [hstatic]
  | false =>
    -- the record is made first, then the running domain is changed
    obtain ⟨config, values, heq, hconfig, hweight, hlimit⟩ := updateDominfoStored_idle hidle s
    obtain ⟨hdynamic, hok⟩ := dynamicChange_spec hstatic ⟨s.1.live, config⟩
    rw [if_neg (by simp), Effect.bind_apply, heq, Effect.goOn_ok, Effect.onFst_apply]
    refine ⟨hok, ⟨?_, ?_, ?_⟩⟩
    · rw [hdynamic, hconfig]
      simp [hstatic]
    · rw [hweight]
      simp [hstatic]
    · rw [hlimit]
      simp [hstatic]

/-- **What a request for a resource leaves.** -/
theorem carried_spec {action : ResourceAction} {p : Plan} (hidle : Idle p.seen)
    (s : Guest Live × Values) :
    ∃ config, Noted env p refcn s config (carried env action p refcn s).2.2 ∧
      (carried env action p refcn s).2.1.config =
        (if accepts env action p refcn s.1.live = true then redefinition env p.result
          else none).getD config := by
  -- what has been noted before stays, and the new definition comes over it
  obtain ⟨hok, hnoted⟩ := changeRunningStored_spec hidle s
  unfold carried
  rw [Effect.bind_apply]
  generalize changeRunningStored env p.seen action p.kind p.dev refcn s = r at hok hnoted ⊢
  obtain ⟨result, mid, values⟩ := r
  refine ⟨mid.config, ?_⟩
  -- the change has failed, so nothing is defined
  cases result with
  | error e =>
    rw [← hok]
    exact ⟨hnoted, rfl⟩
  | ok u =>
    rw [← hok, Effect.goOn_ok]
    unfold redefinition
    cases systemToXml env.nodeContent env.newUuid p.result with
    | error msg => exact ⟨hnoted, rfl⟩
    | ok doc =>
      -- the status of the definition is dropped
      have hcreate := @connectAndCreate_config _ env doc mid
      show Noted env p refcn s mid.config
        (((Effect.onFst (connectAndCreate env (some doc)) : StoredRequest Live Bool) >>= fun _ =>
          pure ()) (mid, values)).2.2 ∧ _
      rw [Effect.bind_pure_snd, Effect.onFst_apply]
      exact ⟨hnoted, hcreate⟩

theorem getDominfo_apply (e : Failure) (g : Guest Live) :
    getDominfo env e g = (parsedDominfo env e g.config, g) := by
  unfold getDominfo parsedDominfo
  simp only [Effect.bind_apply, Effect.read_apply, Effect.goOn_ok]
  cases env.calls.xmlDesc with
  | false => rfl
  | true =>
    cases getDominfoFromXml g.config with
    | error stop => rfl
    | ok dominfo => cases env.calls.autostart <;> rfl

theorem idle_of_parsedDominfo {e : Failure} {root : Node}
    (h : parsedDominfo env e root = .ok dominfo) : Idle dominfo := by
  unfold parsedDominfo at h
  split at h
  · split at h
    · cases h
    · next hparse =>
      split at h
      · cases h
        exact idle_of_parsed hparse
      · cases h
  · cases h

/-- A request is its two halves. -/
theorem updateResourcesForStored_eq (action : ResourceAction) (devid : Option String)
    (rasd : Instance) (s : Guest Live × Values) :
    (∃ e, prepare env action devid rasd s.1.config = .error e ∧
      updateResourcesForStored env action devid rasd s = (.error e, s)) ∨
    ∃ p refcn, prepare env action devid rasd s.1.config = .ok (p, refcn) ∧
      updateResourcesForStored env action devid rasd s = carried env action p refcn s := by
  -- each step before the plan ends the request with nothing done
  unfold updateResourcesForStored prepare
  rw [Effect.bind_apply, Effect.onFst_apply, getDominfo_apply]
  cases parsedDominfo env (.failed "Internal error (getting domain info)") s.1.config with
  | error e => exact .inl ⟨e, rfl, rfl⟩
  | ok dominfo =>
    rw [Effect.goOn_ok]
    cases resTypeFromRasdClassname rasd with
    | none => exact .inl ⟨_, rfl, rfl⟩
    | some type =>
      -- preparing is a function of the definition alone
      have hpure : (do
            let rasd ← mergedRasd env action dominfo rasd type devid
            let p ← plan env.host dominfo rasd type devid action
            Except.ok (p, rasd.classname)) = (do
          let dominfo ← Except.ok dominfo
          let rasd ← mergedRasd env action dominfo rasd type devid
          let p ← plan env.host dominfo rasd type devid action
          Except.ok (p, rasd.classname)) := rfl
      dsimp only
      rw [← hpure, Effect.bind_apply, Effect.ofExcept_apply]
      cases mergedRasd env action dominfo rasd type devid with
      | error e => exact .inl ⟨e, rfl, rfl⟩
      | ok rasd' =>
        rw [Effect.goOn_ok]
        cases hplan : plan env.host dominfo rasd' type devid action with
        | error e =>
          refine .inl ⟨e, ?_, rfl⟩
          show (plan env.host dominfo rasd' type devid action >>= _) = _
          rw [hplan]
          rfl
        | ok p =>
          refine .inr ⟨p, rasd'.classname, ?_, ?_⟩
          · show (plan env.host dominfo rasd' type devid action >>= _) = _
            rw [hplan]
            rfl
          -- the plan is carried out with the class the setting was sent under
          · rw [carryOut_ok]
            unfold carried
            rw [Effect.bind_apply, Effect.bind_apply, Effect.bind_apply]
            obtain ⟨result, mid⟩ := changeRunningStored env p.seen action p.kind p.dev
              rasd'.classname s
            cases result <;> rfl

/-- The plan of a request is made for a parsed domain. -/
theorem idle_of_prepare {action : ResourceAction} {devid : Option String} {rasd : Instance}
    {root : Node} {p : Plan} (h : prepare env action devid rasd root = .ok (p, refcn))
    (hproc : resTypeFromRasdClassname rasd ≠ some (.dev .proc)) :
    Idle p.seen ∧ Idle p.result := by
  obtain ⟨dominfo, hdominfo, h⟩ := bind_eq_ok h
  -- the processors just parsed are idle, and only a processor setting changes them
  have hidle : Idle dominfo := idle_of_parsedDominfo hdominfo
  cases htype : resTypeFromRasdClassname rasd with
  | none =>
    rw [htype] at h
    cases h
  | some type =>
    rw [htype] at h hproc
    obtain ⟨rasd', -, h⟩ := bind_eq_ok h
    obtain ⟨p', hplan, h⟩ := bind_eq_ok h
    cases h
    obtain ⟨hseen, hresult⟩ := devVcpu_plan hplan fun heq => hproc (congrArg some heq)
    unfold Idle
    rw [hseen, hresult]
    exact ⟨hidle, hidle⟩

/-- What the settings of a system leave of the definition. -/
theorem updateSystemSettings_config (sys : SystemHost) (vssd : Instance) (g : Guest Live) :
    (updateSystemSettings env sys vssd g).2.config =
      ((resettled env sys vssd g.config).bind (redefinition env)).getD g.config := by
  -- up to the new definition the guest is only read
  unfold updateSystemSettings resettled
  cases vssd.getStr "VirtualSystemIdentifier" with
  | none => rfl
  | some name =>
    cases connectByClassname env .request env.refcn with
    | error e => rfl
    | ok connected =>
      cases connected with
      | false => rfl
      | true =>
        cases env.calls.lookup .request with
        | false => rfl
        | true =>
          simp only [Effect.bind_apply, Effect.ofExcept_apply, Effect.goOn_ok, if_true,
            Effect.require_true_apply, getDominfo_apply]
          show _ = (((parsedDominfo env _ g.config).toOption.bind fun dominfo =>
            (updatedDomain env sys vssd name dominfo).toOption).bind
              fun dominfo => redefinition env dominfo).getD g.config
          cases parsedDominfo env _ g.config with
          | error e => rfl
          | ok dominfo =>
            rw [Effect.goOn_ok, Effect.bind_apply, Effect.ofExcept_apply]
            show _ = ((updatedDomain env sys vssd name dominfo).toOption.bind
              fun dominfo => redefinition env dominfo).getD g.config
            cases updatedDomain env sys vssd name dominfo with
            -- the document made of the updated domain is the one that is defined
            | error e => rfl
            | ok dominfo' =>
              rw [Effect.goOn_ok]
              show _ = (redefinition env dominfo').getD g.config
              unfold redefinition
              cases systemToXml env.nodeContent env.newUuid dominfo' with
              | error msg => rfl
              | ok doc =>
                have hcreate := @connectAndCreate_config _ env doc g
                dsimp only
                rw [Effect.bind_pure_snd, hcreate]

theorem idle_of_resettled {sys : SystemHost} {vssd : Instance} {root : Node}
    (h : resettled env sys vssd root = some dominfo) : Idle dominfo := by
  obtain ⟨name, -, h⟩ := Option.bind_eq_some_iff.mp h
  split at h
  · obtain ⟨parsed, hparsed, h⟩ := Option.bind_eq_some_iff.mp h
    have hidle : Idle parsed := idle_of_parsedDominfo (eq_ok_of_toOption hparsed)
    have hsame : dominfo.devVcpu = parsed.devVcpu :=
      sameDevices_updatedDomain env sys (eq_ok_of_toOption h) .proc
    unfold Idle
    rw [hsame]
    exact hidle
  · cases h

end Steps

/-! ### The frame -/

/-- A definition that is replaced by that of an idle domain keeps its shares exactly when they
were the same. -/
theorem sharesOf_redefinition (hdoc : ContentDocumented env.nodeContent)
    (hlv : SharesDocumented env.lv) {dominfo : Domain} (hidle : Idle dominfo) {config : Node}
    (h : redefinition env dominfo = some config) : sharesOf config = idleShares dominfo := by
  unfold redefinition at h
  cases hxml : systemToXml env.nodeContent env.newUuid dominfo with
  | error msg =>
    rw [hxml] at h
    cases h
  | ok doc =>
    rw [hxml] at h
    dsimp only at h
    split at h
    · rw [hlv.defineXML doc config h, sharesOf_systemToXml hdoc hidle hxml]
    · cases h

/-- The second half of a request keeps the weight and the limit exactly when what it writes
was there. -/
theorem carried_kept_iff (hdoc : ContentDocumented env.nodeContent)
    (hlv : SharesDocumented env.lv) {action : ResourceAction} {p : Plan} {refcn : String}
    (hseen : Idle p.seen) (hresult : Idle p.result) (s : Guest Live × Values) :
    SchedulingKept s (carried env action p refcn s).2 ↔ ResourceHarmless env action p refcn s := by
  obtain ⟨config, hnoted, hconfig⟩ := @carried_spec _ env refcn action p hseen s
  -- the two values of the store and the shares are followed one by one
  have hweight : storedU64 (carried env action p refcn s).2.2 weightKey = storedU64 s.2 weightKey ↔
      (isStatic p.kind = false → records env p.seen refcn = true → env.calls.qemu = false →
        storedU64 s.2 weightKey = 0) := by
    rw [hnoted.weight, ite_eq_right_iff]
    simp only [and_imp, @eq_comm _ (0 : UInt64)]
  have hlimit : storedU64 (carried env action p refcn s).2.2 limitKey = storedU64 s.2 limitKey ↔
      (isStatic p.kind = false → records env p.seen refcn = true →
        (env.calls.qemu = true →
          (env.lv.setConfigSchedulerParameters 0 s.1.config).isSome) →
        storedU64 s.2 limitKey = 0) := by
    rw [hnoted.limit, ite_eq_right_iff]
    simp only [and_imp, @eq_comm _ (0 : UInt64)]
  -- the shares are those of the definition that is there at the end
  have hshares : sharesOf (carried env action p refcn s).2.1.config = sharesOf s.1.config ↔
      (accepts env action p refcn s.1.live = true → (redefinition env p.result).isSome →
        sharesOf s.1.config = idleShares p.result) ∧
      (isStatic p.kind = false → records env p.seen refcn = true → env.calls.qemu = true →
        (env.lv.setConfigSchedulerParameters 0 s.1.config).isSome →
        ¬ (accepts env action p refcn s.1.live = true ∧ (redefinition env p.result).isSome) →
        sharesOf s.1.config = some "0") := by
    rw [hconfig]
    cases hnew : if accepts env action p refcn s.1.live = true then redefinition env p.result
      else none with
    | some new =>
      -- the domain is defined anew, and the shares are those of its document
      obtain ⟨haccepts, hnew⟩ := Option.ite_none_right_eq_some.mp hnew
      rw [Option.getD_some, sharesOf_redefinition hdoc hlv hresult hnew]
      have hsome : (redefinition env p.result).isSome := by
        rw [hnew]
        rfl
      exact ⟨fun heq => ⟨fun _ _ => heq.symm, fun _ _ _ _ hnot => absurd ⟨haccepts, hsome⟩ hnot⟩,
        fun h => (h.1 haccepts hsome).symm⟩
    -- it is not defined anew, so only the record can have changed the shares
    | none =>
      have hdefined : ¬ (accepts env action p refcn s.1.live = true ∧
          (redefinition env p.result).isSome) := by
        rintro ⟨haccepts, hsome⟩
        rw [if_pos haccepts] at hnew
        rw [hnew] at hsome
        cases hsome
      have hvacuous : accepts env action p refcn s.1.live = true →
          (redefinition env p.result).isSome → sharesOf s.1.config = idleShares p.result :=
        fun haccepts hsome => absurd ⟨haccepts, hsome⟩ hdefined
      rw [Option.getD_none, hnoted.config]
      split
      · next hset =>
        cases hconfig' : env.lv.setConfigSchedulerParameters 0 s.1.config with
        | none => exact ⟨fun _ => ⟨hvacuous, fun _ _ _ hsome => by cases hsome⟩, fun _ => rfl⟩
        | some config' =>
          -- the shares are set to the weight of the parsed domain
          have hzero : sharesOf config' = some "0" := hlv.setConfig 0 s.1.config config' hconfig'
          rw [Option.getD_some, hzero]
          exact ⟨fun heq => ⟨hvacuous, fun _ _ _ _ _ => heq.symm⟩,
            fun h => (h.2 hset.1 hset.2.1 hset.2.2 rfl hdefined).symm⟩
      · next hset =>
        exact ⟨fun _ => ⟨hvacuous, fun hstatic hrecords hqemu =>
          absurd ⟨hstatic, hrecords, hqemu⟩ hset⟩, fun _ => rfl⟩
  -- together, the three values are kept or not
  constructor
  · intro hkept
    obtain ⟨hdefined, hset⟩ := hshares.mp hkept.shares
    exact ⟨hweight.mp hkept.weight, hlimit.mp hkept.limit, hdefined, hset⟩
  · intro hharmless
    exact ⟨hweight.mpr hharmless.weight, hlimit.mpr hharmless.limit,
      hshares.mpr ⟨hharmless.defined, hharmless.shares⟩⟩

/-- **The weight and the limit stay** exactly when everything that the request writes was there
already. A definition is written without its shares, so a request on the system can only keep
those that an idle domain has (`sharesOf_redefinition`); a request on a resource writes to the
store and to the scheduler besides (`carried_kept_iff`). Of libvirt it is assumed that it stores
the shares it is given. -/
theorem schedulingKept_iff (hdoc : ContentDocumented env.nodeContent)
    (hlv : SharesDocumented env.lv) (change : SettingsChange) (hproc : change.NoProcessor)
    (s : Guest Live × Values) :
    SchedulingKept s (change.run env s).2 ↔ Harmless env s change := by
  -- new settings of the system, or of one of its resources
  cases change with
  | system sys vssd =>
    have hconfig : ((SettingsChange.system sys vssd).run env s).2.1.config = _ :=
      updateSystemSettings_config sys vssd s.1
    constructor
    -- the document has the shares of an idle domain
    · intro hkept dominfo hdominfo hdefined
      obtain ⟨config, hnew⟩ := Option.isSome_iff_exists.mp hdefined
      rw [← hkept.shares, hconfig, hdominfo, Option.bind_some, hnew, Option.getD_some]
      exact sharesOf_redefinition hdoc hlv (idle_of_resettled hdominfo) hnew
    · intro hharmless
      refine ⟨rfl, rfl, ?_⟩
      rw [hconfig]
      cases hdominfo : resettled env sys vssd s.1.config with
      | none => rfl
      | some dominfo =>
        rw [Option.bind_some]
        cases hnew : redefinition env dominfo with
        | none => rfl
        | some config =>
          rw [Option.getD_some, hharmless dominfo hdominfo (by rw [hnew]; rfl)]
          exact sharesOf_redefinition hdoc hlv (idle_of_resettled hdominfo) hnew
  -- one resource: refused before anything is done, or carried out
  | resource action devid rasd =>
    obtain ⟨e, hprepare, hrun⟩ | ⟨p, refcn, hprepare, hrun⟩ :=
      updateResourcesForStored_eq action devid rasd s
    · have hrun : ((SettingsChange.resource action devid rasd).run env s).2 = s :=
        congrArg Prod.snd hrun
      rw [hrun]
      refine ⟨fun _ p refcn hok => ?_, fun _ => ⟨rfl, rfl, rfl⟩⟩
      rw [hprepare] at hok
      cases hok
    -- the domain that is seen and the one that results have idle processors
    · obtain ⟨hseen, hresult⟩ := idle_of_prepare hprepare hproc
      have hiff : SchedulingKept s (carried env action p refcn s).2 ↔
          ResourceHarmless env action p refcn s := carried_kept_iff hdoc hlv hseen hresult s
      have hrun : ((SettingsChange.resource action devid rasd).run env s).2 = _ :=
        congrArg Prod.snd hrun
      rw [hrun, hiff]
      constructor
      · intro hharmless p' refcn' hok
        rw [hprepare] at hok
        cases hok
        exact hharmless
      · intro hharmless
        exact hharmless p refcn hprepare

/-! ### A guest with shares -/

/-- A libvirt that accepts everything and keeps a document as it is. -/
def tunedLibvirt : Libvirt SimpleLive :=
  { simpleLibvirt with
    setConfigSchedulerParameters := fun shares config =>
      match config with
      | .elem name attrs children => some ((Node.elem name attrs children).setChild "cputune"
          [.elem "shares" [] [.text (toString shares.toNat)]])
      | _ => none }

theorem sharesDocumented_tunedLibvirt : SharesDocumented tunedLibvirt where
  defineXML doc config h := by
    cases h
    rfl
  setConfig shares config config' h := by
    -- the element is set where it is, or put in
    cases config with
    | elem name attrs children =>
      cases h
      obtain ⟨cputune, hfind, hchildren⟩ := Node.exists_child_setChildren "cputune"
        [.elem "shares" [] [.text (toString shares.toNat)]] children
      have hchild : ((Node.elem name attrs children).setChild "cputune"
          [.elem "shares" [] [.text (toString shares.toNat)]]).child "cputune" =
        some cputune := hfind
      rw [sharesOf, hchild, Option.bind_some, Node.childText, Node.child, hchildren]
      simp [Node.textValue, Node.textValue.textValues]
    | _ => cases h

/-- A guest with two processors and a disk. -/
def tunedGuest (shares : String) : Node :=
  .elem "domain" [("type", "kvm")]
    [.elem "name" [] [.text "guest"], .elem "vcpu" [] [.text "2"],
      .elem "cputune" [] [.elem "shares" [] [.text shares]],
      .elem "os" [] [.elem "type" [] [.text "hvm"]], .elem "devices" [] [fileDisk "vda"]]

/-- Its host. -/
def tunedEnv (shares : String) : Env SimpleLive :=
  { simpleEnv (tunedGuest shares) with lv := tunedLibvirt, nodeContent := textNodes }

/-- `RemoveResourceSettings` for its disk. -/
def removeDisk : SettingsChange :=
  .resource .del (some "vda") { pfx := "KVM", base := "DiskResourceAllocationSettingData" }

theorem noProcessor_removeDisk : removeDisk.NoProcessor := by
  show resTypeFromRasdClassname _ ≠ _
  decide

/-- The guest with a limit in the store. -/
def tunedState (shares : String) (limit : UInt64) : Guest SimpleLive × Values :=
  (⟨{}, tunedGuest shares⟩, Function.update (fun _ => none) limitKey (some (.u64 limit)))

/-- A guest that never had a weight or a limit keeps it so. -/
theorem schedulingKept_idle :
    SchedulingKept (tunedState "0" 0) (removeDisk.run (tunedEnv "0") (tunedState "0" 0)).2 :=
  (schedulingKept_iff (fun _ _ => rfl) sharesDocumented_tunedLibvirt removeDisk
    noProcessor_removeDisk (tunedState "0" 0)).mpr fun p refcn h => by
      have hshares : (prepare (tunedEnv "0") .del (some "vda")
          { pfx := "KVM", base := "DiskResourceAllocationSettingData" } (tunedGuest "0")).map
          (fun prepared => idleShares prepared.1.result) = .ok (some "0") := by
        decide +kernel
      -- the plan is the one that was prepared
      have hresult : idleShares p.result = some "0" := by
        rw [show prepare (tunedEnv "0") .del (some "vda")
          { pfx := "KVM", base := "DiskResourceAllocationSettingData" } (tunedGuest "0") =
            .ok (p, refcn) from h] at hshares
        exact Except.ok.inj hshares
      exact ⟨fun _ _ _ => by decide, fun _ _ _ => by decide, fun _ _ => by
        rw [hresult]
        decide, fun _ _ _ _ _ => by decide⟩

/-- Removing a disk takes the shares and the limit of the processors with it. -/
theorem not_schedulingKept : ¬ ∀ (env : Env SimpleLive) (change : SettingsChange)
    (s : Guest SimpleLive × Values), ContentDocumented env.nodeContent →
    SharesDocumented env.lv → change.NoProcessor → SchedulingKept s (change.run env s).2 := by
  intro h
  have hkept := h (tunedEnv "2048") removeDisk (tunedState "2048" 50) (fun _ _ => rfl)
    sharesDocumented_tunedLibvirt noProcessor_removeDisk
  have hshares : sharesOf (removeDisk.run (tunedEnv "2048") (tunedState "2048" 50)).2.1.config =
      some "0" := by
    decide +kernel
  exact absurd (hshares.symm.trans hkept.shares) (by decide +kernel)

end LibvirtCim.Service
