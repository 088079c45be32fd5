import LibvirtCim.Infostore.Laws
import LibvirtCim.Service.System

/-!
# Requests with the information store beside them

`update_dominfo` keeps the weight and the limit of the processors of the domain it is given:
the weight in the definition for QEMU and in the information store for other hypervisors, the
limit always in the information store. `_resource_dynamic` calls it for every change of a
device that can be made on a running domain, whatever the device is.

The requests of `Resources` leave the store out. Here they are with the values the store has
for the domain beside the domain, and without them they are those requests
(`erases_updateResourcesForStored`). What `resource_add`, `resource_mod` and `resource_del`
make of the parsed domain depends on no call, so that it is taken out of them as `plan`.
-/

open Framework LibvirtCim.Device LibvirtCim.Infostore LibvirtCim.Rasd

namespace LibvirtCim.Service

theorem limitName_valid : isKeyName "limit".toList := by
  decide

/-- The key of the limit; that of the weight is `weightKey`. -/
def limitKey : Key := ⟨"limit", limitName_valid⟩

/-- The values the store has for the domain. -/
abbrev Values : Type := Key → Option Value

variable {Live : Type} (env : Env Live)

/-- A request on one domain and its values. -/
abbrev StoredRequest (Live α : Type) : Type := Effect (Guest Live × Values) Failure α

/-- `infostore_set_u64`. -/
def setStored (k : Key) (n : UInt64) : StoredRequest Live Unit := do
  let _ ← .call fun s => (true, s.1, Function.update s.2 k (some (.u64 n)))
  pure ()

/-- `update_dominfo`, whose status its callers drop. -/
def updateDominfoStored (dominfo : Domain) (refcn : String) : StoredRequest Live Unit :=
  match dominfo.devVcpu, connectByClassname env .updateDominfo refcn with
  | [vcpu], .ok true =>
    if env.calls.lookup .updateDominfo && env.calls.infostore then
      if env.calls.qemu then do
        let kept ← .onFst (onConfig (env.lv.setConfigSchedulerParameters vcpu.dev.weight.toUInt64))
        if kept then setStored limitKey vcpu.dev.limit else pure ()
      else do
        setStored weightKey vcpu.dev.weight.toUInt64
        setStored limitKey vcpu.dev.limit
    else pure ()
  | _, _ => pure ()

/-- What `_resource_dynamic` does behind `update_dominfo`. -/
def dynamicChange (dominfo : Domain) (action : ResourceAction) (kind : DevKind)
    (dev : VirtDevice kind.Dev) (refcn : String) : Request Live Unit := do
  let connected ← .ofExcept (connectByClassname env .dynamic refcn)
  if connected then
    .require (env.calls.lookup .dynamic) (.status .notFound
      ("Virtual System `" ++ formatStr dominfo.name ++ "' not found"))
    if env.calls.online then
      let changed ← onLive (changeLive env action kind dev)
      .require changed (.failed ("Unable to change (" ++ action.number ++ ") device"))

theorem resourceDynamic_eq (dominfo : Domain) (action : ResourceAction) (kind : DevKind)
    (dev : VirtDevice kind.Dev) (refcn : String) :
    resourceDynamic env dominfo action kind dev refcn = (do
      updateDominfo env dominfo refcn
      dynamicChange env dominfo action kind dev refcn) := rfl

/-- The change on the running domain, which is left out for some types. -/
def changeRunningStored (dominfo : Domain) (action : ResourceAction) (kind : DevKind)
    (dev : VirtDevice kind.Dev) (refcn : String) : StoredRequest Live Unit :=
  if isStatic kind then pure ()
  else do
    updateDominfoStored env dominfo refcn
    .onFst (dynamicChange env dominfo action kind dev refcn)

/-! ### What becomes of the parsed domain -/

/-- The outcome of `resource_add`, `resource_mod` or `resource_del` on the parsed domain: the
device that is changed, the domain the change on the running domain reads, and the one that
is written. -/
structure Plan where
  kind : DevKind
  dev : VirtDevice kind.Dev
  seen : Domain
  result : Domain

/-- The three functions up to the change on the running domain. -/
def plan (host : Host) (dominfo : Domain) (rasd : Instance) (type : RasdType)
    (devid : Option String) : ResourceAction → Except Failure Plan
  | .add =>
    match type with
    | .image | .dev .mem | .dev .proc => .error (wrongType "add" type)
    | .dev kind =>
      match rasdToVdev host dominfo.type rasd kind { dev := kind.zero } with
      | .error e =>
        .error (.failed ("Add resource failed: " ++ e.msg ++ ", " ++ formatStr e.detail))
      | .ok dev =>
        if kind = .controller ∧ dev.id = none then
          .error (.failed "Add resource failed: Index property is required.")
        else .ok ⟨kind, dev, dominfo, dominfo.setList kind (dominfo.list kind ++ [dev])⟩
  | .del =>
    match devid with
    | none => .error (.status .invalidParameter "Missing or incomplete InstanceID")
    | some devid =>
      match type with
      | .image => .error .crash
      | .dev .mem | .dev .proc => .error (wrongType "delete" type)
      | .dev kind =>
        if dominfo.list kind = [] then .error (wrongType "delete" type)
        else
          match splitAtFirst (hasId devid) (dominfo.list kind) with
          | none => .error (.failed ("Device `" ++ devid ++ "' not found"))
          | some (before, dev, after) =>
            .ok ⟨kind, dev, dominfo,
              dominfo.setList kind (before ++ { dev with type := .unknown } :: after)⟩
  | .mod =>
    match devid with
    | none => .error (.status .invalidParameter "Missing or incomplete InstanceID")
    | some devid =>
      match type with
      | .image => .error (wrongType "modify" type)
      | .dev kind =>
        match splitAtFirst (hasId devid) (dominfo.list kind) with
        | none => .error (.failed ("Device `" ++ devid ++ "' not found"))
        | some (before, dev, after) =>
          match rasdToVdev host dominfo.type rasd kind dev with
          | .error e => .error (.failed ("Modify resource failed: " ++ e.msg))
          | .ok dev' =>
            let changed := dominfo.setList kind (before ++ dev' :: after)
            .ok ⟨kind, dev', changed, changed⟩

/-- A function of the three carried out, with a change on the running domain. -/
def carryOut {σ : Type}
    (change : Domain → (kind : DevKind) → VirtDevice kind.Dev → Effect σ Failure Unit)
    (x : Except Failure Plan) : Effect σ Failure Domain := do
  let p ← .ofExcept x
  change p.seen p.kind p.dev
  pure p.result

theorem carryOut_ok {σ : Type}
    (change : Domain → (kind : DevKind) → VirtDevice kind.Dev → Effect σ Failure Unit)
    (p : Plan) : carryOut change (.ok p) = (do
      change p.seen p.kind p.dev
      pure p.result) := rfl

/-- **The three functions are their plan, carried out.** -/
theorem resourceFn_eq (action : ResourceAction) (dominfo : Domain) (rasd : Instance)
    (type : RasdType) (devid : Option String) :
    resourceFn env action dominfo rasd type devid =
      carryOut (fun seen kind dev => changeRunning env seen action kind dev rasd.classname)
        (plan env.host dominfo rasd type devid action) := by
  -- each of the three is its plan carried out: the branches end alike
  cases action with
  | add =>
    change resourceAdd env dominfo rasd type = carryOut _ _
    cases type with
    | image => rfl
    | dev kind =>
      cases kind with
      | mem => rfl
      | proc => rfl
      -- the translation, then the duplicate, then the change
      | _ =>
        unfold resourceAdd plan
        dsimp only
        generalize rasdToVdev env.host dominfo.type rasd _ _ = read
        cases read with
        | error e => rfl
        | ok dev =>
          dsimp only
          split <;> rfl
  | del =>
    change resourceDel env dominfo rasd type devid = carryOut _ _
    cases devid with
    | none => rfl
    | some devid =>
      cases type with
      -- what is removed is looked up first
      | image => rfl
      | dev kind =>
        cases kind with
        | mem => rfl
        | proc => rfl
        | _ =>
          unfold resourceDel plan
          dsimp only
          generalize splitAtFirst (hasId devid) (dominfo.list _) = found
          split
          · rfl
          · cases found with
            | none => rfl
            | some parts => rfl
  | mod =>
    change resourceMod env dominfo rasd type devid = carryOut _ _
    cases devid with
    | none => rfl
    | some devid =>
      cases type with
      | image => rfl
      -- what is modified is looked up, then translated over what is there
      | dev kind =>
        unfold resourceMod plan
        dsimp only
        generalize splitAtFirst (hasId devid) (dominfo.list kind) = found
        cases found with
        | none => rfl
        | some parts =>
          obtain ⟨before, dev, after⟩ := parts
          dsimp only
          generalize rasdToVdev env.host dominfo.type rasd kind dev = read
          cases read with
          | error e => rfl
          | ok dev' => rfl

/-- A plan for another type leaves the processors alone. -/
theorem devVcpu_plan {host : Host} {dominfo : Domain} {rasd : Instance} {type : RasdType}
    {devid : Option String} {action : ResourceAction} {p : Plan}
    (h : plan host dominfo rasd type devid action = .ok p) (hproc : type ≠ .dev .proc) :
    p.seen.devVcpu = dominfo.devVcpu ∧ p.result.devVcpu = dominfo.devVcpu := by
  -- no list but that of the kind is set
  have hlist {kind : DevKind} (hkind : RasdType.dev kind ≠ .dev .proc)
      (devs : List (VirtDevice kind.Dev)) :
      (dominfo.setList kind devs).devVcpu = dominfo.devVcpu := by
    refine @Domain.list_setList_of_ne dominfo kind .proc ?_ devs
    rintro rfl
    exact hkind rfl
  -- of every plan, only the last branch has a result
  unfold plan at h
  cases action with
  | add =>
    dsimp only at h
    split at h
    · cases h
    · cases h
    · cases h
    split at h
    · cases h
    split at h
    · cases h
    · cases h
      exact ⟨rfl, hlist hproc _⟩
  | del =>
    dsimp only at h
    split at h
    · cases h
    split at h
    · cases h
    · cases h
    · cases h
    split at h
    · cases h
    split at h
    · cases h
    · cases h
      exact ⟨rfl, hlist hproc _⟩
  | mod =>
    dsimp only at h
    split at h
    · cases h
    split at h
    · cases h
    split at h
    · cases h
    split at h
    · cases h
    · cases h
      exact ⟨hlist hproc _, hlist hproc _⟩

/-! ### Requests -/

/-- `_update_resources_for`, with the store. -/
def updateResourcesForStored (action : ResourceAction) (devid : Option String)
    (rasd : Instance) : StoredRequest Live Unit := do
  let dominfo ← .onFst (getDominfo env (.failed "Internal error (getting domain info)"))
  match resTypeFromRasdClassname rasd with
  | none => .fail (.failed "Unable to determine RASD type")
  | some type => do
    let rasd ← .ofExcept (mergedRasd env action dominfo rasd type devid)
    let dominfo ← carryOut
      (fun seen kind dev => changeRunningStored env seen action kind dev rasd.classname)
      (plan env.host dominfo rasd type devid action)
    match systemToXml env.nodeContent env.newUuid dominfo with
    | .error _ => .fail (.failed "Internal error (xml generation failed)")
    | .ok doc => do
      let _ ← .onFst (connectAndCreate env (some doc))
      pure ()

theorem erases_setStored (k : Key) (n : UInt64) :
    Erases (setStored k n : StoredRequest Live Unit) (pure ()) := fun _ => ⟨rfl, rfl⟩

theorem erases_updateDominfoStored (dominfo : Domain) (refcn : String) :
    Erases (updateDominfoStored env dominfo refcn) (updateDominfo env dominfo refcn) := by
  unfold updateDominfoStored updateDominfo
  -- the weight is stored under the same conditions under which it is set
  split
  · next vcpu hvcpu hconnect =>
    have hweight : configWeight env dominfo refcn =
        if env.calls.lookup .updateDominfo && env.calls.infostore && env.calls.qemu then
          some vcpu.dev.weight.toUInt64 else none := by
      unfold configWeight
      rw [hvcpu, hconnect]
    rw [hweight]
    cases env.calls.lookup .updateDominfo && env.calls.infostore with
    | false => exact .of_pure ()
    | true =>
      cases env.calls.qemu with
      | true =>
        refine .bind (.of_onFst _) fun kept => ?_
        cases kept with
        | true => exact erases_setStored _ _
        | false => exact .of_pure ()
      | false => exact fun _ => ⟨rfl, rfl⟩
  -- no processor or no connection: neither happens
  · next hnone =>
    have hweight : configWeight env dominfo refcn = none := by
      unfold configWeight
      split
      · next vcpu hvcpu hconnect => exact absurd hconnect (hnone vcpu hvcpu)
      · rfl
    rw [hweight]
    exact .of_pure ()

theorem erases_carryOut {σ τ : Type}
    {change : Domain → (kind : DevKind) → VirtDevice kind.Dev → Effect (σ × τ) Failure Unit}
    {change' : Domain → (kind : DevKind) → VirtDevice kind.Dev → Effect σ Failure Unit}
    (h : ∀ seen kind dev, Erases (change seen kind dev) (change' seen kind dev))
    (x : Except Failure Plan) : Erases (carryOut change x) (carryOut change' x) :=
  .bind (.of_ofExcept x) fun p => .bind (h p.seen p.kind p.dev) fun _ => .of_pure p.result

/-- **The values are all that is added to the requests for resources.** -/
theorem erases_updateResourcesForStored (action : ResourceAction) (devid : Option String)
    (rasd : Instance) :
    Erases (updateResourcesForStored env action devid rasd)
      (updateResourcesFor env action devid rasd) := by
  -- the change of a running guest is the weight, then the call of libvirt
  have hchange (seen : Domain) (kind : DevKind) (dev : VirtDevice kind.Dev) (refcn : String) :
      Erases (changeRunningStored env seen action kind dev refcn)
        (changeRunning env seen action kind dev refcn) := by
    unfold changeRunningStored changeRunning
    split
    · exact .of_pure ()
    · rw [resourceDynamic_eq]
      exact .bind (erases_updateDominfoStored env seen refcn) fun _ => .of_onFst _
  -- step by step the two requests do the same, one of them with the store beside
  unfold updateResourcesForStored updateResourcesFor
  refine .bind (.of_onFst _) fun dominfo => ?_
  cases resTypeFromRasdClassname rasd with
  | none => exact .of_fail _
  | some type =>
    refine .bind (.of_ofExcept _) fun rasd' => ?_
    rw [resourceFn_eq]
    refine .bind (erases_carryOut (fun seen kind dev => hchange seen kind dev _) _) fun d => ?_
    cases systemToXml env.nodeContent env.newUuid d with
    | error msg => exact .of_fail _
    | ok doc => exact .bind (.of_onFst _) fun _ => .of_pure ()

end LibvirtCim.Service
