import LibvirtCim.Indication.FilterSpec
import LibvirtCim.Service.Steps
import LibvirtCim.Service.System

/-!
# Defining a system, or failing to

`DefineSystem` as the method is called: its arguments are read, the reference configuration
is looked up, the new domain is put together, and the document of it is given to
`virDomainDefineXML`. What is called after that can still fail, and so does the method then,
with the domain defined; without a connection nothing is defined, and nothing fails.

To tell whether a domain was defined, the documents that `virDomainDefineXML` accepted are
kept beside the domains of the host. Only `defineRecorded` touches them, and no step reads them.
-/

open Framework LibvirtCim.Device LibvirtCim.Rasd

namespace LibvirtCim.Service

variable {Live : Type} (env : Env Live) (sys : SystemHost)

/-! ### The reference configuration -/

/-- `ReferenceConfiguration`: a reference to the settings of a system. -/
structure RefConf where
  classname : String
  /-- the key `InstanceID` -/
  instanceId : Option String

/-- `match_prefixes`. -/
def matchPrefixes (a b : String) : Except Failure Unit :=
  match Indication.classPrefixName a, Indication.classPrefixName b with
  | some pfx1, some pfx2 =>
    if pfx1 = pfx2 then .ok ()
    else .error (.status .invalidClass "ReferenceConfiguration domain is not compatible")
  | _, _ => .error (.failed "Unable compare ReferenceConfiguration prefix")

/-- `parse_id`, for the name. -/
def parseId (id : String) : Option String := do
  let (_, rest) ← scanUpTo ':' id.toList
  let (name, _) ← scanUpTo '\n' (← scanLit [':'] rest)
  some name

/-- The name of the domain that a reference is about. -/
def RefConf.domainName (refconf : RefConf) : Except Failure String :=
  match refconf.instanceId with
  | none => .error (.status .invalidParameter "Missing `InstanceID' from ReferenceConfiguration")
  | some iid =>
    match parseId iid with
    | none =>
      .error (.status .invalidParameter "Invalid `InstanceID' from ReferenceConfiguration")
    | some name => .ok name

/-- `get_reference_domain`. -/
def referenceDomain (refconf : RefConf) : HostRequest Live Domain := do
  .ofExcept (matchPrefixes env.refcn refconf.classname)
  let connected ← .ofExcept (connectByClassname env .previous refconf.classname)
  .require connected (.failed "Unable to connect to libvirt")
  let name ← .ofExcept refconf.domainName
  .require (env.calls.lookup .previous) (noSuchDomain name)
  let domain ← onDomain name (noSuchDomain name)
    (getDominfo env (.failed "Error getting referenced configuration"))
  .ofExcept (scrub name env.host.netRandMac domain)

/-- The domain that `create_system` starts from. -/
def domainToStart (refconf : Option RefConf) : HostRequest Live Domain :=
  match refconf with
  | none => pure {}
  | some refconf => referenceDomain env refconf

/-! ### The method -/

/-- The domains of a host, and the documents that `virDomainDefineXML` has accepted. -/
abbrev Recorded (Live : Type) : Type := World Live × List Node

/-- A definition, with the document kept if it is accepted. -/
def defineRecorded (stopped : Live) (name : String) (doc : Option Node) :
    Effect (Recorded Live) Failure Bool := do
  let defined ← .onFst (defineDomain env stopped name doc)
  if defined then
    let _ ← .call fun s => (true, s.1, s.2 ++ doc.toList)
    pure true
  else pure false

/-- `connect_and_create`, for a domain of a name. -/
def createRecorded (stopped : Live) (name : String) (doc : Option Node) :
    Effect (Recorded Live) Failure Bool := do
  let connected ← .ofExcept (connectByClassname env .create env.refcn)
  if connected then
    let defined ← defineRecorded env stopped name doc
    .require defined (.failed "Failed to define domain")
    .require env.calls.getDomainByName (.failed "Failed to lookup resulting system")
    pure true
  else pure false

/-- `create_system`: whether there is an instance of the new system. The statuses of
`set_autostart`, of `enum_rasds` and of the indication are not kept. -/
def createSystem (stopped : Live) (guestOfUuid : Option String → Option String)
    (vssd : Instance) (resources : List Instance) (refconf : Option RefConf) :
    Effect (Recorded Live) Failure Bool := do
  let domain ← .onFst (domainToStart env refconf)
  let domain ← .ofExcept (newDomain env sys guestOfUuid vssd resources domain)
  let name := domain.name.getD ""
  let created ← createRecorded env stopped name
    (systemToXml env.nodeContent env.newUuid domain).toOption
  if created then
    .onFst (onDomain name (noSuchDomain name) (updateDominfo env domain env.refcn))
  pure created

/-- The arguments of `DefineSystem`. -/
structure DefineArgs where
  systemSettings : Option Instance
  resourceSettings : Option (List Instance)
  referenceConfiguration : Option RefConf

/-- `define_system_parse_args`. -/
def DefineArgs.parse (args : DefineArgs) :
    Except Failure (Instance × List Instance × Option RefConf) :=
  match args.systemSettings, args.resourceSettings with
  | none, _ => .error (.status .invalidParameter "Missing argument `SystemSettings'")
  | _, none => .error (.status .invalidParameter "Missing argument `ResourceSettings'")
  | some vssd, some res => .ok (vssd, res, args.referenceConfiguration)

/-- `define_system`. `objectPath` is the error of `CMGetObjectPath` for the new system, if
there is one: its status is the last that is written. -/
def defineSystemMethod (stopped : Live) (guestOfUuid : Option String → Option String)
    (objectPath : Option CmpiErr) (args : DefineArgs) :
    Effect (Recorded Live) Failure Unit := do
  let (vssd, res, refconf) ← .ofExcept args.parse
  let created ← createSystem env sys stopped guestOfUuid vssd res refconf
  if created then
    match objectPath with
    | none => pure ()
    | some rc => .fail (.status rc "")

/-! ### What the steps leave -/

/-- `get_dominfo` changes nothing. -/
theorem getDominfo_snd (e : Failure) (g : Guest Live) : (getDominfo env e g).2 = g := by
  have hspec := getDominfo_spec env e g g rfl
  cases hres : (getDominfo env e g).1 with
  | ok dominfo => exact (hspec.1 dominfo hres).2
  | error err => exact hspec.2 err hres

theorem onDomain_getDominfo_snd (name : String) (missing e : Failure) (w : World Live) :
    (onDomain name missing (getDominfo env e) w).2 = w := by
  unfold onDomain
  cases hw : w name with
  | none => rfl
  | some g =>
    show Function.update w name (some (getDominfo env e g).2) = w
    rw [getDominfo_snd, ← hw, Function.update_eq_self]

/-- A step that leaves the state leaves it to the next one. -/
theorem bind_snd_eq {σ ε α β : Type} {m : Effect σ ε α} {k : α → Effect σ ε β} {s : σ}
    (hm : (m s).2 = s) (hk : ∀ a, (k a s).2 = s) : ((m >>= k) s).2 = s := by
  rw [Effect.bind_apply]
  generalize m s = end_ at hm ⊢
  obtain ⟨r, t⟩ := end_
  dsimp only at hm
  rw [hm]
  cases r with
  | ok a => exact hk a
  | error e => rfl

theorem require_snd {σ ε : Type} (b : Bool) (e : ε) (s : σ) :
    ((Effect.require b e : Effect σ ε Unit) s).2 = s := by
  cases b <;> rfl

/-- **Nothing is changed to find out what to start from.** -/
theorem domainToStart_snd (refconf : Option RefConf) (w : World Live) :
    (domainToStart env refconf w).2 = w := by
  cases refconf with
  | none => rfl
  | some refconf =>
    refine bind_snd_eq rfl fun _ => ?_
    refine bind_snd_eq rfl fun connected => ?_
    refine bind_snd_eq (require_snd _ _ _) fun _ => ?_
    refine bind_snd_eq rfl fun name => ?_
    refine bind_snd_eq (require_snd _ _ _) fun _ => ?_
    exact bind_snd_eq (onDomain_getDominfo_snd env name _ _ w) fun domain => rfl

/-- The call that `update_dominfo` makes may fail, and it does not. -/
theorem updateDominfo_fst (dominfo : Domain) (refcn : String) (g : Guest Live) :
    (updateDominfo env dominfo refcn g).1 = .ok () := by
  unfold updateDominfo
  cases configWeight env dominfo refcn with
  | none => rfl
  | some weight => rfl

/-- A class that the UUID was looked up with has a connection, or none and no error. -/
theorem connectByClassname_of_checkUuidInUse {guestOfUuid : Option String → Option String}
    {domain : Domain} (h : checkUuidInUse env guestOfUuid domain = .ok ()) (site : Site) :
    connectByClassname env site env.refcn = .ok (env.calls.connect site) := by
  unfold checkUuidInUse at h
  have hclass : (startsWith env.refcn "Xen" || startsWith env.refcn "KVM" ||
      startsWith env.refcn "LXC") = true := by
    by_contra hnot
    rw [connectByClassname, if_neg hnot] at h
    cases h
  rw [connectByClassname, if_pos hclass]

theorem checkUuidInUse_of_newDomain {guestOfUuid : Option String → Option String}
    {vssd : Instance} {resources : List Instance} {start domain : Domain}
    (h : newDomain env sys guestOfUuid vssd resources start = .ok domain) :
    ∃ domain', checkUuidInUse env guestOfUuid domain' = .ok () := by
  unfold newDomain at h
  split at h
  · cases h
  · next domain' _ =>
    refine ⟨domain', ?_⟩
    cases hcheck : checkUuidInUse env guestOfUuid domain' with
    | ok u => rfl
    | error e =>
      rw [hcheck] at h
      cases h

/-! ### Atomicity -/

section

variable (stopped : Live) (guestOfUuid : Option String → Option String)

/-- The domain that the arguments describe. -/
def Described (args : DefineArgs) (w : World Live) (domain : Domain) : Prop :=
  ∃ vssd res refconf start, args.parse = .ok (vssd, res, refconf) ∧
    (domainToStart env refconf w).1 = .ok start ∧
    newDomain env sys guestOfUuid vssd res start = .ok domain

/-- A domain that the arguments describe was defined, and nothing else. -/
def DefinedOnce (args : DefineArgs) (w : World Live) (accepted : List Node) : Prop :=
  ∃ domain doc, Described env sys guestOfUuid args w domain ∧
    systemToXml env.nodeContent env.newUuid domain = .ok doc ∧
    (env.lv.defineXML doc).isSome ∧ accepted = [doc]

/-- `DefineSystem` succeeds if and only if it defined a domain that the request describes,
and leaves everything as it was if it returns an error. -/
def DefineAtomic (objectPath : Option CmpiErr) (args : DefineArgs) (w : World Live) : Prop :=
  let r := defineSystemMethod env sys stopped guestOfUuid objectPath args (w, [])
  (r.1 = .ok () ↔ DefinedOnce env sys guestOfUuid args w r.2.2) ∧
    ∀ rc msg, r.1 = .error (.status rc msg) → r.2 = (w, [])

/-- Once a domain is described, there is a connection to define it with, and a domain that is
accepted is found and has an object path. -/
def DefineFollowed (objectPath : Option CmpiErr) (args : DefineArgs) (w : World Live) : Prop :=
  ∀ domain, Described env sys guestOfUuid args w domain →
    env.calls.connect .create = true ∧
    ∀ doc, systemToXml env.nodeContent env.newUuid domain = .ok doc →
      (env.lv.defineXML doc).isSome → env.calls.getDomainByName = true ∧ objectPath = none

/-- The arguments describe one domain. -/
theorem Described.unique {args : DefineArgs} {w : World Live} {domain domain' : Domain}
    (h : Described env sys guestOfUuid args w domain)
    (h' : Described env sys guestOfUuid args w domain') : domain = domain' := by
  obtain ⟨vssd, res, refconf, start, hparse, hstart, hnew⟩ := h
  obtain ⟨vssd', res', refconf', start', hparse', hstart', hnew'⟩ := h'
  rw [hparse] at hparse'
  cases hparse'
  rw [hstart] at hstart'
  cases hstart'
  rw [hnew] at hnew'
  exact Except.ok.inj hnew'

/-- What a definition does. -/
theorem defineRecorded_cases (name : String) (doc : Option Node) (s : Recorded Live) :
    (doc.bind env.lv.defineXML = none ∧
      defineRecorded env stopped name doc s = (.ok false, s)) ∨
    ∃ root w' g, doc = some root ∧ (env.lv.defineXML root).isSome ∧ w' name = some g ∧
      defineRecorded env stopped name doc s = (.ok true, w', s.2 ++ [root]) := by
  unfold defineRecorded defineDomain
  rw [Effect.bind_apply, Effect.onFst_apply, Effect.call_apply]
  cases doc with
  | none => exact .inl ⟨rfl, rfl⟩
  | some root =>
    dsimp only [Option.bind_some]
    cases hdefine : env.lv.defineXML root with
    | none => exact .inl ⟨rfl, rfl⟩
    | some config =>
      exact .inr ⟨root, _, _, rfl, by rw [hdefine]; rfl, Function.update_self .., rfl⟩

/-- What `connect_and_create` does: there is no connection; or the document is not accepted;
or it is, and then the result is looked up. -/
theorem createRecorded_cases
    (hconnect : connectByClassname env .create env.refcn = .ok (env.calls.connect .create))
    (name : String) (doc : Option Node) (s : Recorded Live) :
    (env.calls.connect .create = false ∧
      createRecorded env stopped name doc s = (.ok false, s)) ∨
    (env.calls.connect .create = true ∧ doc.bind env.lv.defineXML = none ∧
      createRecorded env stopped name doc s = (.error (.failed "Failed to define domain"), s)) ∨
    (env.calls.connect .create = true ∧ ∃ root w' g, doc = some root ∧
      (env.lv.defineXML root).isSome ∧ w' name = some g ∧
      createRecorded env stopped name doc s =
        (if env.calls.getDomainByName then .ok true
          else .error (.failed "Failed to lookup resulting system"), w', s.2 ++ [root])) := by
  -- the connection, the definition and the look-up, in the order of the calls
  unfold createRecorded
  rw [Effect.bind_apply, Effect.ofExcept_apply, hconnect, Effect.goOn_ok]
  cases env.calls.connect .create with
  | false => exact .inl ⟨rfl, rfl⟩
  | true =>
    rw [if_pos rfl, Effect.bind_apply]
    obtain ⟨hnone, hrun⟩ | ⟨root, w', g, hdoc, haccepted, hw', hrun⟩ :=
      -- libvirt refuses the document, or takes it into its record
      defineRecorded_cases env stopped name doc s
    · rw [hrun]
      exact .inr (.inl ⟨rfl, hnone, rfl⟩)
    · rw [hrun]
      -- the domain that was made is looked up by its name, which can fail after all
      refine .inr (.inr ⟨rfl, root, w', g, hdoc, haccepted, hw', ?_⟩)
      cases env.calls.getDomainByName with
      | false => rfl
      | true => rfl

/-- Setting the weight of a domain that is there fails for no reason. -/
theorem onDomain_updateDominfo_fst {name : String} {missing : Failure} {dominfo : Domain}
    {refcn : String} {w : World Live} {g : Guest Live} (hw : w name = some g) :
    (onDomain name missing (updateDominfo env dominfo refcn) w).1 = .ok () := by
  unfold onDomain
  rw [hw]
  exact updateDominfo_fst env dominfo refcn g

/-- **`create_system` of a domain that is described** ends as `connect_and_create` does. -/
theorem createSystem_cases {vssd : Instance} {res : List Instance} {refconf : Option RefConf}
    {s : Recorded Live} {start domain : Domain}
    (hstart : (domainToStart env refconf s.1).1 = .ok start)
    (hnew : newDomain env sys guestOfUuid vssd res start = .ok domain) :
    let r := createSystem env sys stopped guestOfUuid vssd res refconf s
    let doc := (systemToXml env.nodeContent env.newUuid domain).toOption
    (env.calls.connect .create = false ∧ r = (.ok false, s)) ∨
    (env.calls.connect .create = true ∧ doc.bind env.lv.defineXML = none ∧
      r = (.error (.failed "Failed to define domain"), s)) ∨
    (env.calls.connect .create = true ∧ ∃ root, doc = some root ∧
      (env.lv.defineXML root).isSome ∧ r.2.2 = s.2 ++ [root] ∧
      r.1 = if env.calls.getDomainByName then .ok true
        else .error (.failed "Failed to lookup resulting system")) := by
  intro r doc
  -- a domain that can be made has passed the check of its uuid
  obtain ⟨domain', hcheck⟩ := checkUuidInUse_of_newDomain env sys hnew
  have hcases := createRecorded_cases env stopped
    (connectByClassname_of_checkUuidInUse env hcheck .create) (domain.name.getD "") doc s
  have hr : r = (createRecorded env stopped (domain.name.getD "") doc >>= fun created => do
      if created then
        .onFst (onDomain (domain.name.getD "") (noSuchDomain (domain.name.getD ""))
          (updateDominfo env domain env.refcn))
      pure created) s := by
    -- what comes before leaves the state as it is
    show createSystem env sys stopped guestOfUuid vssd res refconf s = _
    unfold createSystem
    rw [Effect.bind_apply, Effect.onFst_apply, hstart, domainToStart_snd, Effect.goOn_ok,
      Effect.bind_apply, Effect.ofExcept_apply, hnew, Effect.goOn_ok]
  rw [Effect.bind_apply] at hr
  obtain ⟨hconnect, hrun⟩ | ⟨hconnect, hnone, hrun⟩ |
    ⟨hconnect, root, w', g, hroot, haccepted, hw', hrun⟩ := hcases
  -- each of the three ends carries over, the last one with the look-up behind it
  · rw [hrun] at hr
    exact .inl ⟨hconnect, hr⟩
  · rw [hrun] at hr
    exact .inr (.inl ⟨hconnect, hnone, hr⟩)
  · rw [hrun] at hr
    refine .inr (.inr ⟨hconnect, root, hroot, haccepted, ?_⟩)
    cases hfound : env.calls.getDomainByName with
    | false =>
      rw [hfound] at hr
      rw [hr]
      exact ⟨rfl, rfl⟩
    -- the settings that are kept beside the domain change nothing of the status
    | true =>
      rw [hfound, if_pos rfl, Effect.goOn_ok, if_pos rfl, Effect.bind_apply,
        Effect.onFst_apply] at hr
      dsimp only at hr
      rw [onDomain_updateDominfo_fst env hw', Effect.goOn_ok] at hr
      rw [hr]
      exact ⟨rfl, rfl⟩

/-- Arguments that describe no domain are an error, and nothing is done. -/
theorem defineSystemMethod_of_not_described (objectPath : Option CmpiErr) {args : DefineArgs}
    {w : World Live} (h : ∀ domain, ¬ Described env sys guestOfUuid args w domain) :
    ∃ e, defineSystemMethod env sys stopped guestOfUuid objectPath args (w, []) =
      (.error e, w, []) := by
  unfold defineSystemMethod
  rw [Effect.bind_apply, Effect.ofExcept_apply]
  -- the arguments, the domain to start from and the new domain, each may fail
  cases hparse : args.parse with
  | error e => exact ⟨e, rfl⟩
  | ok parsed =>
    obtain ⟨vssd, res, refconf⟩ := parsed
    rw [Effect.goOn_ok]
    dsimp only
    rw [Effect.bind_apply]
    unfold createSystem
    rw [Effect.bind_apply, Effect.onFst_apply, domainToStart_snd]
    cases hstart : (domainToStart env refconf w).1 with
    | error e => exact ⟨e, rfl⟩
    | ok start =>
      rw [Effect.goOn_ok, Effect.bind_apply, Effect.ofExcept_apply]
      cases hnew : newDomain env sys guestOfUuid vssd res start with
      | error e => exact ⟨e, rfl⟩
      | ok domain => exact absurd ⟨vssd, res, refconf, start, hparse, hstart, hnew⟩ (h domain)

/-- The ways `DefineSystem` ends for a domain that is described. -/
theorem defineSystemMethod_cases (objectPath : Option CmpiErr) {args : DefineArgs}
    {w : World Live} {domain : Domain} (h : Described env sys guestOfUuid args w domain) :
    let r := defineSystemMethod env sys stopped guestOfUuid objectPath args (w, [])
    let doc := (systemToXml env.nodeContent env.newUuid domain).toOption
    (env.calls.connect .create = false ∧ r = (.ok (), w, [])) ∨
    (env.calls.connect .create = true ∧ doc.bind env.lv.defineXML = none ∧
      r = (.error (.failed "Failed to define domain"), w, [])) ∨
    (env.calls.connect .create = true ∧ ∃ root, doc = some root ∧
      (env.lv.defineXML root).isSome ∧ r.2.2 = [root] ∧
      (r.1 = .ok () ↔ env.calls.getDomainByName = true ∧ objectPath = none) ∧
      (r.1 = .ok () ∨ ∃ rc msg, r.1 = .error (.status rc msg))) := by
  intro r doc
  -- the three are there, so the rest of the request is run on what they give
  obtain ⟨vssd, res, refconf, start, hparse, hstart, hnew⟩ := h
  have hcases := createSystem_cases env sys stopped guestOfUuid (s := (w, [])) hstart hnew
  have hr : r = (createSystem env sys stopped guestOfUuid vssd res refconf >>= fun created =>
      if created then
        match objectPath with
        | none => pure ()
        | some rc => .fail (.status rc "")
      else pure ()) (w, []) := by
    show defineSystemMethod env sys stopped guestOfUuid objectPath args (w, []) = _
    unfold defineSystemMethod
    rw [Effect.bind_apply, Effect.ofExcept_apply, hparse, Effect.goOn_ok]
  rw [Effect.bind_apply] at hr
  dsimp only at hcases
  obtain ⟨hconnect, hrun⟩ | ⟨hconnect, hnone, hrun⟩ |
    ⟨hconnect, root, hroot, haccepted, hlog, hres⟩ := hcases
  -- a missing connection, a refused document and a domain made, in turn
  · rw [hrun] at hr
    exact .inl ⟨hconnect, hr⟩
  · rw [hrun] at hr
    exact .inr (.inl ⟨hconnect, hnone, hr⟩)
  · refine .inr (.inr ⟨hconnect, root, hroot, haccepted, ?_⟩)
    generalize createSystem env sys stopped guestOfUuid vssd res refconf (w, []) = made at *
    obtain ⟨result, w', accepted⟩ := made
    dsimp only at hlog hres
    rw [hlog, hres] at hr
    -- the domain that cannot be looked up is defined all the same
    cases hfound : env.calls.getDomainByName with
    | false =>
      rw [hfound] at hr
      rw [hr]
      exact ⟨rfl, by simp, .inr ⟨_, _, rfl⟩⟩
    | true =>
      rw [hfound] at hr
      rw [hr]
      cases objectPath with
      | none => exact ⟨rfl, by simp, .inl rfl⟩
      | some rc => exact ⟨rfl, by simp, .inr ⟨_, _, rfl⟩⟩

end

/-! ### A guest that is defined and not found -/

/-- A request for a guest with one disk. -/
def diskGuestArgs : DefineArgs where
  systemSettings := some
    { pfx := "KVM", base := "VirtualSystemSettingData"
      props := [("VirtualSystemIdentifier", .string "guest")] }
  resourceSettings := some
    [{ pfx := "KVM", base := "DiskResourceAllocationSettingData"
       props := [("VirtualDevice", .string "vda"), ("Address", .string "/var/lib/disk.img")] }]
  referenceConfiguration := none

/-- A host on which every call succeeds, but, where it is asked for, the connection to define
a domain with or the look-up of it. -/
def createEnv (connect found : Bool) : Env SimpleLive :=
  let env := simpleEnv (.elem "domain" [] [])
  { env with calls :=
    { env.calls with connect := fun site => site ≠ .create || connect, getDomainByName := found } }

end LibvirtCim.Service
