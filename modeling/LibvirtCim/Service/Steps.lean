import LibvirtCim.Service.Resources

/-!
# What a request can do

For each function of the service what it can have done to the domain when it returns, with
a result or with an error. `updateResourcesFor_spec` puts them together; the results about
requests are read off it.
-/

open Framework LibvirtCim.Device LibvirtCim.Rasd

namespace LibvirtCim.Service

variable {Live : Type} (env : Env Live)

/-- The definition before and after `update_dominfo`: at most the weight of the processors
was set. -/
def WeightKept (dominfo : Domain) (refcn : String) (config config' : Node) : Prop :=
  config' = config ∨ ∃ weight, configWeight env dominfo refcn = some weight ∧
    env.lv.setConfigSchedulerParameters weight config = some config'

/-- The running domain before and after one change: untouched, or left as the change did,
which succeeded or not. -/
def LiveChanged (action : ResourceAction) (type : RasdType) (live live' : Live) (ok : Bool) :
    Prop :=
  live' = live ∨ ∃ kind dev, type = .dev kind ∧ isStatic kind = false ∧ env.calls.online ∧
    changeLive env action kind dev live = some (ok, live')

/-- What the first half of a request did: the step on the running domain. -/
structure Stepped (action : ResourceAction) (dominfo : Domain) (refcn : String)
    (type : RasdType) (ok : Bool) (g s : Guest Live) : Prop where
  config : WeightKept env dominfo refcn g.config s.config
  live : LiveChanged env action type g.live s.live ok

theorem Stepped.refl {action : ResourceAction} {dominfo : Domain} {refcn : String}
    {type : RasdType} {ok : Bool} (g : Guest Live) : Stepped env action dominfo refcn type ok g g :=
  ⟨.inl rfl, .inl rfl⟩

/-! ### The parts -/

/-- A call on the running domain changes nothing else, and nothing when the process crashes. -/
theorem onLive_spec {f : Live → Option (Bool × Live)} {P : Guest Live → Prop}
    {Q : Bool → Guest Live → Prop} {E : Failure → Guest Live → Prop}
    (hok : ∀ ok s live', f s.live = some (ok, live') → P s → Q ok { s with live := live' })
    (hcrash : ∀ s, P s → E .crash s) : Triple P (onLive f) Q E := by
  intro s hs
  unfold onLive
  -- a call that crashes leaves no state, any other changes the running domain alone
  cases hf : f s.live with
  | none =>
    constructor
    · rintro ok ⟨⟩
    · rintro e ⟨⟩
      exact hcrash s hs
  | some changed =>
    obtain ⟨ok, live'⟩ := changed
    constructor
    · rintro ok' ⟨⟩
      exact hok ok s live' hf hs
    · rintro e ⟨⟩

theorem updateDominfo_spec (dominfo : Domain) (refcn : String) (g : Guest Live) :
    Triple (· = g) (updateDominfo env dominfo refcn)
      (fun _ s => WeightKept env dominfo refcn g.config s.config ∧ s.live = g.live)
      (fun _ _ => False) := by
  unfold updateDominfo
  -- the weight is set only for the processors of a domain that is running
  cases hweight : configWeight env dominfo refcn with
  | none =>
    refine Triple.of_pure fun s hs => ?_
    rw [hs]
    exact ⟨.inl rfl, rfl⟩
  | some weight =>
    refine Triple.bind (Q := fun _ s => WeightKept env dominfo refcn g.config s.config ∧
      s.live = g.live) (Triple.of_call fun s hs => ?_) fun _ => Triple.of_pure fun s hs => hs
    rw [hs]
    refine ⟨?_, rfl⟩
    -- whether libvirt takes the weight is not looked at
    cases hset : env.lv.setConfigSchedulerParameters weight g.config with
    | none => exact .inl rfl
    | some config => exact .inr ⟨weight, hweight, hset⟩

theorem resourceDynamic_spec (dominfo : Domain) (action : ResourceAction) {kind : DevKind}
    (hkind : isStatic kind = false) (dev : VirtDevice kind.Dev) (refcn : String)
    (g : Guest Live) :
    Triple (· = g) (resourceDynamic env dominfo action kind dev refcn)
      (fun _ s => Stepped env action dominfo refcn (.dev kind) true g s)
      (fun _ s => Stepped env action dominfo refcn (.dev kind) false g s) := by
  -- up to the change itself the running domain is what it was
  let Before : Guest Live → Prop := fun s =>
    WeightKept env dominfo refcn g.config s.config ∧ s.live = g.live
  have hbefore (ok : Bool) (s : Guest Live) (h : Before s) :
      Stepped env action dominfo refcn (.dev kind) ok g s := ⟨h.1, .inl h.2⟩
  unfold resourceDynamic
  refine Triple.bind ((updateDominfo_spec env dominfo refcn g).weaken (fun _ h => h)
    (fun _ s h => h) fun _ _ h => h.elim) fun _ => ?_
  -- a connection that fails without an error ends the call with success
  refine Triple.bind (Q := fun _ => Before) (Triple.of_ofExcept (fun _ _ s h => h)
    fun _ _ s h => hbefore false s h) fun connected => ?_
  cases connected with
  | false => exact Triple.of_pure fun s h => hbefore true s h
  | true =>
    refine Triple.bind (Q := fun _ => Before) (Triple.of_require (fun _ s h => h)
      fun _ s h => hbefore false s h) fun _ => ?_
    split
    -- a domain that runs is changed, one that does not is left as it is
    · next honline =>
      refine Triple.bind (Q := fun ok s => Stepped env action dominfo refcn (.dev kind) ok g s)
        (onLive_spec (fun ok s live' hchange h => ?_) fun s h => hbefore false s h) fun ok => ?_
      · refine ⟨h.1, .inr ⟨kind, dev, rfl, hkind, honline, ?_⟩⟩
        rw [← hchange, h.2]
      -- the change is in effect whatever the call returned
      · cases ok with
        | true => exact Triple.of_pure fun s h => h
        | false => exact Triple.of_fail fun s h => h
    · exact Triple.of_pure fun s h => hbefore true s h

/-- What the three functions make of the parsed domain. -/
inductive Changed (host : Host) (dominfo : Domain) (rasd : Instance) (kind : DevKind) :
    ResourceAction → Option String → Domain → Prop
  | add {dev : VirtDevice kind.Dev} (devid : Option String)
      (hdev : rasdToVdev host dominfo.type rasd kind { dev := kind.zero } = .ok dev) :
      Changed host dominfo rasd kind .add devid
        (dominfo.setList kind (dominfo.list kind ++ [dev]))
  | del {devid : String} {before after : List (VirtDevice kind.Dev)} {dev : VirtDevice kind.Dev}
      (hlist : splitAtFirst (hasId devid) (dominfo.list kind) = some (before, dev, after)) :
      Changed host dominfo rasd kind .del devid
        (dominfo.setList kind (before ++ { dev with type := .unknown } :: after))
  | mod {devid : String} {before after : List (VirtDevice kind.Dev)}
      {dev dev' : VirtDevice kind.Dev}
      (hlist : splitAtFirst (hasId devid) (dominfo.list kind) = some (before, dev, after))
      (hdev : rasdToVdev host dominfo.type rasd kind dev = .ok dev') :
      Changed host dominfo rasd kind .mod devid
        (dominfo.setList kind (before ++ dev' :: after))

/-- The domain that the change of the running domain reads: a device that is modified is
changed in its place before. -/
def seenBy : ResourceAction → Domain → Domain → Domain
  | .mod, _, dominfo' => dominfo'
  | _, dominfo, _ => dominfo

theorem changeRunning_spec (dominfo : Domain) (action : ResourceAction) {kind : DevKind}
    (dev : VirtDevice kind.Dev) (refcn : String) (g : Guest Live) :
    Triple (· = g) (changeRunning env dominfo action kind dev refcn)
      (fun _ s => Stepped env action dominfo refcn (.dev kind) true g s)
      (fun _ s => Stepped env action dominfo refcn (.dev kind) false g s) := by
  unfold changeRunning
  split
  · refine Triple.of_pure fun s hs => ?_
    rw [hs]
    exact .refl env g
  · next hkind => exact resourceDynamic_spec env dominfo action (by simpa using hkind) dev refcn g

/-- What the three functions make of the parsed domain, for the type of the setting. -/
def ChangedTo (host : Host) (dominfo : Domain) (rasd : Instance) (type : RasdType)
    (action : ResourceAction) (devid : Option String) (dominfo' : Domain) : Prop :=
  ∃ kind, type = .dev kind ∧ Changed host dominfo rasd kind action devid dominfo'

/-- What is left when one of the three functions fails. -/
def StepFailed (action : ResourceAction) (dominfo : Domain) (rasd : Instance) (type : RasdType)
    (devid : Option String) (g s : Guest Live) : Prop :=
  ∃ dominfo', (dominfo' = dominfo ∨ ChangedTo env.host dominfo rasd type action devid dominfo') ∧
    Stepped env action (seenBy action dominfo dominfo') rasd.classname type false g s

/-- A change on the running domain before the parsed domain is given back. -/
theorem changed_spec {dominfo dominfo' seen : Domain} {action : ResourceAction} {kind : DevKind}
    {rasd : Instance} {devid : Option String} (dev : VirtDevice kind.Dev) (g : Guest Live)
    (h : Changed env.host dominfo rasd kind action devid dominfo')
    (hseen : seenBy action dominfo dominfo' = seen) :
    Triple (· = g) (do
        changeRunning env seen action kind dev rasd.classname
        pure dominfo')
      (fun d s => ChangedTo env.host dominfo rasd (.dev kind) action devid d ∧
        Stepped env action (seenBy action dominfo d) rasd.classname (.dev kind) true g s)
      (fun _ s => StepFailed env action dominfo rasd (.dev kind) devid g s) := by
  subst hseen
  have hto : ChangedTo env.host dominfo rasd (.dev kind) action devid dominfo' := ⟨kind, rfl, h⟩
  refine Triple.bind ((changeRunning_spec env _ action dev rasd.classname g).weaken
    (fun _ hs => hs) (fun _ _ hs => hs) fun _ s hs => ⟨dominfo', .inr hto, hs⟩) fun _ => ?_
  exact Triple.of_pure fun s hs => ⟨hto, hs⟩

theorem resourceFn_spec (action : ResourceAction) (dominfo : Domain) (rasd : Instance)
    (type : RasdType) (devid : Option String) (g : Guest Live) :
    Triple (· = g) (resourceFn env action dominfo rasd type devid)
      (fun dominfo' s => ChangedTo env.host dominfo rasd type action devid dominfo' ∧
        Stepped env action (seenBy action dominfo dominfo') rasd.classname type true g s)
      (fun _ s => StepFailed env action dominfo rasd type devid g s) := by
  -- before the devices are changed, a failure has changed nothing
  have hfail (e : Failure) {Q : Domain → Guest Live → Prop} :
      Triple (· = g) (.fail e : Request Live Domain) Q
        (fun _ s => StepFailed env action dominfo rasd type devid g s) := by
    refine Triple.of_fail fun s hs => ?_
    rw [hs]
    exact ⟨dominfo, .inl rfl, .refl env g⟩
  -- the three functions in turn, each to the point where the list is changed
  cases action with
  | add =>
    change Triple _ (resourceAdd env dominfo rasd type) _ _
    unfold resourceAdd
    split
    · exact hfail _
    · exact hfail _
    · exact hfail _
    -- the duplicate is looked for after the translation, before the running domain is touched
    · next kind _ _ =>
      split
      · exact hfail _
      · next dev hdev =>
        split
        · exact hfail _
        · exact changed_spec env dev g (.add devid hdev) rfl
  | del =>
    change Triple _ (resourceDel env dominfo rasd type devid) _ _
    unfold resourceDel
    split
    · exact hfail _
    split
    · exact hfail _
    · exact hfail _
    · exact hfail _
    -- the id is looked up in the list of the kind
    · next kind _ _ =>
      split
      · exact hfail _
      split
      · exact hfail _
      · next before dev after hlist => exact changed_spec env dev g (.del hlist) rfl
  | mod =>
    change Triple _ (resourceMod env dominfo rasd type devid) _ _
    unfold resourceMod
    split
    · exact hfail _
    split
    · exact hfail _
    -- the device that is there is what the setting is translated over
    · next kind =>
      split
      · exact hfail _
      · next before dev after hlist =>
        split
        · exact hfail _
        · next dev' hdev => exact changed_spec env dev' g (.mod hlist hdev) rfl

/-- What a definition did: nothing without a connection; else the document was defined,
though the new system may not have been found. -/
structure Created (doc : Option Node) (ok : Bool) (g s : Guest Live) : Prop where
  live : s.live = g.live
  config : s.config = g.config ∨ ∃ root, doc = some root ∧
    env.lv.defineXML root = some s.config ∧ (ok = false → env.calls.getDomainByName = false)
  failed : ok = false → (∃ e, connectByClassname env .create env.refcn = .error e) ∨
    doc.bind env.lv.defineXML = none ∨ env.calls.getDomainByName = false

theorem connectAndCreate_spec (doc : Option Node) (g : Guest Live) :
    Triple (· = g) (connectAndCreate env doc) (fun _ s => Created env doc true g s)
      (fun _ s => Created env doc false g s) := by
  -- up to the definition the guest is as it was
  have hnothing {s : Guest Live} (hs : s = g) {ok : Bool}
      (hfailed : ok = false → (∃ e, connectByClassname env .create env.refcn = .error e) ∨
        doc.bind env.lv.defineXML = none ∨ env.calls.getDomainByName = false) :
      Created env doc ok g s := by
    rw [hs]
    exact ⟨rfl, .inl rfl, hfailed⟩
  unfold connectAndCreate
  refine Triple.bind (Q := fun _ s => s = g) (Triple.of_ofExcept (fun _ _ s hs => hs)
    fun e he s hs => hnothing hs fun _ => .inl ⟨e, he⟩) fun connected => ?_
  cases connected with
  | false => exact Triple.of_pure fun s hs => hnothing hs nofun
  | true =>
    -- the call went through, and the definition is what libvirt made of the document
    let Defined : Guest Live → Prop := fun s => s.live = g.live ∧
      ∃ root, doc = some root ∧ env.lv.defineXML root = some s.config
    refine Triple.bind (Q := fun ok s => if ok then Defined s
      else doc.bind env.lv.defineXML = none ∧ s = g) (Triple.of_call fun s hs => ?_)
      fun defined => ?_
    · rw [hs]
      cases hdoc : doc.bind env.lv.defineXML with
      | none => exact ⟨rfl, rfl⟩
      | some config =>
        obtain ⟨root, hroot, hdefine⟩ := Option.bind_eq_some_iff.mp hdoc
        exact ⟨rfl, root, hroot, hdefine⟩
    refine Triple.bind (Q := fun _ => Defined) (Triple.of_require ?_ ?_) fun _ => ?_
    · rintro rfl s hs
      exact hs
    · rintro rfl s hs
      exact hnothing hs.2 fun _ => .inr (.inl hs.1)
    -- the look-up is after the definition, so its failure comes too late
    refine Triple.bind (Q := fun _ => Defined) (Triple.of_require (fun _ s hs => hs) ?_) fun _ => ?_
    · rintro hlookup s ⟨hlive, root, hroot, hdefine⟩
      exact ⟨hlive, .inr ⟨root, hroot, hdefine, fun _ => hlookup⟩, fun _ => .inr (.inr hlookup)⟩
    · refine Triple.of_pure fun s hs => ?_
      obtain ⟨hlive, root, hroot, hdefine⟩ := hs
      exact ⟨hlive, .inr ⟨root, hroot, hdefine, nofun⟩, nofun⟩

/-! ### The request -/

/-- A request that succeeds: which domain was parsed, what became of it, and what was done
to the running domain and to the definition. -/
inductive Performed (action : ResourceAction) (devid : Option String) (rasd : Instance)
    (g s : Guest Live) : Prop
  | intro {dominfo dominfo' : Domain} {rasd' : Instance} {kind : DevKind} {doc : Node}
      {mid : Guest Live} (hparse : getDominfoFromXml g.config = .ok dominfo)
      (htype : resTypeFromRasdClassname rasd = some (.dev kind))
      (hrasd : mergedRasd env action dominfo rasd (.dev kind) devid = .ok rasd')
      (hchanged : Changed env.host dominfo rasd' kind action devid dominfo')
      (hstep : Stepped env action (seenBy action dominfo dominfo') rasd'.classname (.dev kind) true
        g mid)
      (hdoc : systemToXml env.nodeContent env.newUuid dominfo' = .ok doc)
      (hcreated : Created env (some doc) true mid s) : Performed action devid rasd g s

/-- A request that fails: before anything was done, with the change of the running domain,
or after it. -/
inductive Failed (action : ResourceAction) (devid : Option String) (rasd : Instance)
    (g : Guest Live) : Guest Live → Prop
  | early : Failed action devid rasd g g
  | step {dominfo : Domain} {rasd' : Instance} {type : RasdType} {s : Guest Live}
      (hparse : getDominfoFromXml g.config = .ok dominfo)
      (htype : resTypeFromRasdClassname rasd = some type)
      (hrasd : mergedRasd env action dominfo rasd type devid = .ok rasd')
      (hstep : StepFailed env action dominfo rasd' type devid g s) :
      Failed action devid rasd g s
  | late {dominfo dominfo' : Domain} {rasd' : Instance} {kind : DevKind} {doc : Option Node}
      {mid s : Guest Live} (hparse : getDominfoFromXml g.config = .ok dominfo)
      (htype : resTypeFromRasdClassname rasd = some (.dev kind))
      (hrasd : mergedRasd env action dominfo rasd (.dev kind) devid = .ok rasd')
      (hchanged : Changed env.host dominfo rasd' kind action devid dominfo')
      (hstep : Stepped env action (seenBy action dominfo dominfo') rasd'.classname (.dev kind) true
        g mid)
      (hdoc : doc = (systemToXml env.nodeContent env.newUuid dominfo').toOption)
      (hcreated : Created env doc false mid s) : Failed action devid rasd g s

theorem getDominfo_spec (e : Failure) (g : Guest Live) :
    Triple (· = g) (getDominfo env e)
      (fun dominfo s => getDominfoFromXml g.config = .ok dominfo ∧ s = g) (fun _ s => s = g) := by
  unfold getDominfo
  -- the definition is read, then parsed, and nothing is changed by either
  refine Triple.bind (Q := fun root s => root = g.config ∧ s = g)
    (Triple.of_read fun s hs => ⟨by rw [hs], hs⟩) fun root => ?_
  refine Triple.bind (Q := fun _ s => root = g.config ∧ s = g)
    (Triple.of_require (fun _ s hs => hs) fun _ s hs => hs.2) fun _ => ?_
  refine Triple.bind (Q := fun dominfo s => getDominfoFromXml g.config = .ok dominfo ∧ s = g)
    (Triple.of_ofExcept (fun dominfo hd s hs => ?_) fun _ _ s hs => hs.2) fun dominfo => ?_
  · obtain ⟨rfl, hs⟩ := hs
    cases hparse : getDominfoFromXml g.config with
    | ok dominfo' =>
      rw [hparse] at hd
      cases hd
      exact ⟨rfl, hs⟩
    | error stop =>
      rw [hparse] at hd
      cases hd
  refine Triple.bind (Q := fun _ s => getDominfoFromXml g.config = .ok dominfo ∧ s = g)
    (Triple.of_require (fun _ s hs => hs) fun _ s hs => hs.2) fun _ => ?_
  exact Triple.of_pure fun s hs => hs

/-- **What a request can do.** -/
theorem updateResourcesFor_spec (action : ResourceAction) (devid : Option String)
    (rasd : Instance) (g : Guest Live) :
    Triple (· = g) (updateResourcesFor env action devid rasd)
      (fun _ s => Performed env action devid rasd g s)
      (fun _ s => Failed env action devid rasd g s) := by
  -- the failures before the devices are found change nothing
  have hearly {s : Guest Live} (hs : s = g) : Failed env action devid rasd g s := by
    rw [hs]
    exact .early
  unfold updateResourcesFor
  refine Triple.bind ((getDominfo_spec env _ g).weaken (fun _ h => h) (fun _ _ h => h)
    fun _ _ hs => hearly hs) fun dominfo => ?_
  -- the type of the setting, then the setting that is merged for a modification
  cases htype : resTypeFromRasdClassname rasd with
  | none => exact Triple.of_fail fun s hs => hearly hs.2
  | some type =>
    refine Triple.bind (Q := fun rasd' s => getDominfoFromXml g.config = .ok dominfo ∧
        mergedRasd env action dominfo rasd type devid = .ok rasd' ∧ s = g)
      (Triple.of_ofExcept (fun rasd' hr s hs => ⟨hs.1, hr, hs.2⟩) fun _ _ s hs => hearly hs.2)
      fun rasd' => ?_
    refine Triple.bind (Q := fun dominfo' s => getDominfoFromXml g.config = .ok dominfo ∧
        mergedRasd env action dominfo rasd type devid = .ok rasd' ∧
        ChangedTo env.host dominfo rasd' type action devid dominfo' ∧
        Stepped env action (seenBy action dominfo dominfo') rasd'.classname type true g s)
      -- the devices are changed, and with them the running domain
      ?_ fun dominfo' => ?_
    · rintro s ⟨hparse, hrasd, rfl⟩
      have hfn := resourceFn_spec env action dominfo rasd' type devid s s rfl
      exact ⟨fun d hd => ⟨hparse, hrasd, hfn.1 d hd⟩,
        fun e he => .step hparse htype hrasd (hfn.2 e he)⟩
    -- what is left is the document and its definition, which may fail each
    · rintro mid ⟨hparse, hrasd, ⟨kind, rfl, hchanged⟩, hstep⟩
      cases hdoc : systemToXml env.nodeContent env.newUuid dominfo' with
      | error msg =>
        refine ⟨nofun, fun e he => ?_⟩
        refine .late hparse htype hrasd hchanged hstep rfl ?_
        rw [hdoc]
        exact ⟨rfl, .inl rfl, fun _ => .inr (.inl rfl)⟩
      | ok doc =>
        have hcreate : Triple (· = mid) (do
            let _ ← connectAndCreate env (some doc)
            pure ()) (fun _ s => Performed env action devid rasd g s)
            (fun _ s => Failed env action devid rasd g s) := by
          refine Triple.bind ((connectAndCreate_spec env (some doc) mid).weaken (fun _ h => h)
            (fun _ s h => Performed.intro hparse htype hrasd hchanged hstep hdoc h)
            fun _ s h => ?_) fun _ => Triple.of_pure fun s h => h
          refine .late hparse htype hrasd hchanged hstep rfl ?_
          rw [hdoc]
          exact h
        exact hcreate mid rfl

end LibvirtCim.Service
