import LibvirtCim.Service.System

/-!
# The indications that requests raise

`AddResourceSettings`, `ModifyResourceSettings` and `RemoveResourceSettings` raise an
indication for each setting, `ModifySystemSettings` one for the system. What is kept here of a
request, beside what it does, is a `Report` for each setting: whether the new definition was
stored, and the indication that was raised.

The indication for a setting is raised after `connect_and_create`, whatever that returned.
For a modification the previous instance is a pointer to the instance that the new properties
were merged into.
-/

open Framework LibvirtCim.Device LibvirtCim.Rasd

namespace LibvirtCim.Service

/-- An indication. -/
inductive Indication
  /-- `raise_rasd_indication`: its type, `PreviousInstance` and `SourceInstance` -/
  | rasd (type : String) (previous : Option Instance) (source : Instance)
  /-- `trigger_indication` -/
  | system (type : String)

/-- What a request did for one setting. -/
structure Report where
  /-- `virDomainDefineXML` has succeeded -/
  stored : Bool := false
  /-- the indication that was raised -/
  raised : Option Indication := none
  /-- for a modification, the setting before the request, and with the changes of the request -/
  change : Option (Instance × Instance) := none

variable {Live : Type} (env : Env Live) (sys : SystemHost)

/-! ### One setting -/

/-- `RASD_IND_*`. -/
def rasdIndication : ResourceAction → String
  | .add => "ResourceAllocationSettingDataCreatedIndication"
  | .del => "ResourceAllocationSettingDataDeletedIndication"
  | .mod => "ResourceAllocationSettingDataModifiedIndication"

/-- The setting of the device as it is, which a modification starts from. -/
def originalRasd (action : ResourceAction) (dominfo : Domain) (type : RasdType)
    (devid : Option String) : Except Failure (Option Instance) :=
  match action with
  | .add | .del => .ok none
  | .mod =>
    some <$> getRasdByName env (formatStr dominfo.name ++ "/" ++ formatStr devid) type

/-- The setting that is worked on. -/
def workingRasd (rasd : Instance) (orig : Option Instance) : Instance :=
  match orig with
  | none => rasd
  | some orig => rasd.merge orig

/-- `_update_resources_for` up to the document: the original setting, the one that is worked
on, and the document. -/
def preparedUpdate (action : ResourceAction) (devid : Option String) (rasd : Instance) :
    Request Live (Option Instance × Instance × Node) := do
  let dominfo ← getDominfo env (.failed "Internal error (getting domain info)")
  match resTypeFromRasdClassname rasd with
  | none => .fail (.failed "Unable to determine RASD type")
  | some type => do
    let orig ← .ofExcept (originalRasd env action dominfo type devid)
    let working := workingRasd rasd orig
    let dominfo ← resourceFn env action dominfo working type devid
    match systemToXml env.nodeContent env.newUuid dominfo with
    | .error _ => .fail (.failed "Internal error (xml generation failed)")
    | .ok doc => pure (orig, working, doc)

/-- `connect_and_create`, with a note of the definition. -/
def connectAndCreateNoted (doc : Option Node) : Effect (Guest Live × Report) Failure Bool := do
  let connected ← .ofExcept (connectByClassname env .create env.refcn)
  if connected then
    let defined ← .onFst (onConfig fun _ => doc.bind env.lv.defineXML)
    .require defined (.failed "Failed to define domain")
    let _ ← .call fun s => (true, s.1, { s.2 with stored := true })
    .require env.calls.getDomainByName (.failed "Failed to lookup resulting system")
    pure true
  else pure false

/-- The indication for a system. -/
def systemModified : Indication := .system "ComputerSystemModifiedIndication"

/-- An indication is raised; what becomes of it is nobody's concern. -/
def raiseIndication (ind : Indication) : Effect (Guest Live × Report) Failure Unit := do
  let _ ← .call fun s => (true, s.1, { s.2 with raised := some ind })
  pure ()

/-- `_update_resources_for`. The previous instance of a modification is the instance that is
worked on: the pointer to it was kept when the changes were merged into it. -/
def updateResourcesForNoted (action : ResourceAction) (devid : Option String)
    (rasd : Instance) : Effect (Guest Live × Report) Failure Unit := do
  let (orig, working, doc) ← .onFst (preparedUpdate env action devid rasd)
  let _ ← .call fun s => (true, s.1, { s.2 with
    change := orig.map fun orig => (orig, rasd.merge orig) })
  let s ← .attempt (connectAndCreateNoted env (some doc))
  raiseIndication (.rasd (rasdIndication action) (orig.map fun _ => working) working)
  .ofExcept (s.map fun _ => ())

/-! ### The requests without the reports -/

theorem mergedRasd_eq (action : ResourceAction) (dominfo : Domain) (rasd : Instance)
    (type : RasdType) (devid : Option String) :
    mergedRasd env action dominfo rasd type devid =
      (originalRasd env action dominfo type devid).map (workingRasd rasd) := by
  cases action with
  | add => rfl
  | del => rfl
  | mod =>
    unfold mergedRasd originalRasd
    cases getRasdByName env (formatStr dominfo.name ++ "/" ++ formatStr devid) type with
    | error e => rfl
    | ok orig => rfl

/-- `_update_resources_for` is what comes before the document, and what is done with it. -/
theorem updateResourcesFor_eq (action : ResourceAction) (devid : Option String)
    (rasd : Instance) (g : Guest Live) :
    updateResourcesFor env action devid rasd g =
      (preparedUpdate env action devid rasd >>= fun prepared => do
        let _ ← connectAndCreate env (some prepared.2.2)
        pure ()) g := by
  unfold updateResourcesFor preparedUpdate
  rw [Effect.bind_apply, Effect.bind_apply, Effect.bind_apply]
  generalize getDominfo env (.failed "Internal error (getting domain info)") g = read
  obtain ⟨result, g'⟩ := read
  -- the definition is read, or the request ends
  cases result with
  | error e => rfl
  | ok dominfo =>
    rw [Effect.goOn_ok, Effect.goOn_ok]
    -- the setting has to be one of a device
    cases resTypeFromRasdClassname rasd with
    | none => rfl
    | some type =>
      dsimp only
      rw [Effect.bind_apply, Effect.bind_apply, Effect.ofExcept_apply, Effect.ofExcept_apply,
        mergedRasd_eq]
      -- the original setting is read for a deletion and a modification only
      cases originalRasd env action dominfo type devid with
      | error e => rfl
      | ok orig =>
        dsimp only [Except.map]
        rw [Effect.goOn_ok, Effect.goOn_ok, Effect.bind_apply, Effect.bind_apply]
        generalize resourceFn env action dominfo (workingRasd rasd orig) type devid g' = changed
        obtain ⟨result, g''⟩ := changed
        -- the device is changed, and the domain defined anew
        cases result with
        | error e => rfl
        | ok dominfo' =>
          rw [Effect.goOn_ok, Effect.goOn_ok]
          cases systemToXml env.nodeContent env.newUuid dominfo' with
          | error msg => rfl
          | ok doc => rfl

theorem erases_connectAndCreateNoted (doc : Option Node) :
    Erases (connectAndCreateNoted env doc) (connectAndCreate env doc) := by
  refine .bind (.of_ofExcept _) fun connected => ?_
  cases connected with
  | false => exact .of_pure false
  | true =>
    refine .bind (.of_onFst _) fun defined => ?_
    refine .bind (.of_require _ _) fun _ => ?_
    refine .note _ ?_
    exact .bind (.of_require _ _) fun _ => .of_pure true

/-- **The report is all that is added to `_update_resources_for`.** -/
theorem erases_updateResourcesForNoted (action : ResourceAction) (devid : Option String)
    (rasd : Instance) :
    Erases (updateResourcesForNoted env action devid rasd)
      (updateResourcesFor env action devid rasd) := by
  have heq : updateResourcesFor env action devid rasd = (do
      let prepared ← preparedUpdate env action devid rasd
      let _ ← connectAndCreate env (some prepared.2.2)
      pure ()) := funext (updateResourcesFor_eq env action devid rasd)
  rw [heq]
  refine .bind (.of_onFst _) fun prepared => ?_
  refine .note _ ?_
  exact .attempt _ (fun _ => ()) (erases_connectAndCreateNoted env _)

/-! ### All settings of a request -/

/-- The domains of a host, and the reports of a request. -/
abbrev Reported (Live : Type) : Type := World Live × List Report

/-- A request on the domain of a name, with its report. -/
def onDomainNoted (name : String) (missing : Failure)
    (m : Effect (Guest Live × Report) Failure Unit) : Effect (Reported Live) Failure Unit :=
  fun s =>
    match s.1 name with
    | none => (.error missing, s)
    | some g =>
      let r := m (g, {})
      (r.1, Function.update s.1 name (some r.2.1), s.2 ++ [r.2.2])

/-- The domain and the device a setting is for, and the setting itself. -/
def addressed (action : ResourceAction) (domain : String) (item : Item Live) :
    Except Failure (String × Option String × Instance) :=
  match action with
  | .add => .ok (domain, none, item.rasd)
  | .mod => do
    let (name, devid) ← getInstanceid item.rasd
    .ok (name, some devid, item.rasd)
  | .del =>
    match rasdRefToInst item.env item.rasd with
    | .ok (some rasd) => do
      let (name, devid) ← getInstanceid rasd
      .ok (name, some devid, rasd)
    | _ => .error .crash

/-- One round of `_update_resource_settings`. -/
def updateItemNoted (action : ResourceAction) (domain : String) (item : Item Live) :
    Effect (Reported Live) Failure Unit := do
  let (name, devid, rasd) ← .ofExcept (addressed action domain item)
  .require (item.env.calls.lookup .request) (noSuchDomain name)
  onDomainNoted name (noSuchDomain name) (updateResourcesForNoted item.env action devid rasd)

/-- `add_resource_settings`, `mod_resource_settings` or `rm_resource_settings`. -/
def updateResourceSettingsNoted (action : ResourceAction) (domain : String)
    (items : List (Item Live)) : Effect (Reported Live) Failure Unit := do
  .ofExcept (if action = .del then rasdRefsToInsts items else .ok ())
  .require ((connectByClassname env .request env.refcn).toOption.getD false)
    (.failed "Unable to connect to hypervisor")
  items.forM (updateItemNoted action domain)

theorem erases_onDomainNoted {name : String} {missing : Failure}
    {m : Effect (Guest Live × Report) Failure Unit} {m' : Request Live Unit} (hm : Erases m m') :
    Erases (onDomainNoted name missing m) (onDomain name missing m') := by
  intro s
  unfold onDomainNoted onDomain
  cases s.1 name with
  | none => exact ⟨rfl, rfl⟩
  | some g =>
    obtain ⟨hresult, hguest⟩ := hm (g, {})
    dsimp only at hresult hguest ⊢
    rw [hresult, hguest]
    exact ⟨rfl, rfl⟩

/-- The request without the reports. -/
def updateResourceSettings (action : ResourceAction) (domain : String)
    (items : List (Item Live)) : HostRequest Live Unit :=
  match action with
  | .add => addResourceSettings env domain items
  | .mod => modResourceSettings env items
  | .del => rmResourceSettings env items

/-- **The reports are all that is added to the requests for settings.** -/
theorem erases_updateResourceSettingsNoted (action : ResourceAction) (domain : String)
    (items : List (Item Live)) :
    Erases (updateResourceSettingsNoted env action domain items)
      (updateResourceSettings env action domain items) := by
  have hitem (name : String) (devid : Option String) (rasd : Instance) (item : Item Live) :
      Erases (do
          Effect.require (item.env.calls.lookup .request) (noSuchDomain name)
          onDomainNoted name (noSuchDomain name)
            (updateResourcesForNoted item.env action devid rasd))
        (updateItem item.env action name devid rasd) :=
    .bind (.of_require _ _) fun _ =>
      erases_onDomainNoted (erases_updateResourcesForNoted item.env action devid rasd)
  -- the loop, once there is a connection
  have hloop {step : Item Live → HostRequest Live Unit}
      (hstep : ∀ item, Erases (updateItemNoted action domain item) (step item)) :
      Erases (do
          Effect.require ((connectByClassname env .request env.refcn).toOption.getD false)
            (.failed "Unable to connect to hypervisor")
          items.forM (updateItemNoted action domain)) (do
          Effect.require ((connectByClassname env .request env.refcn).toOption.getD false)
            (.failed "Unable to connect to hypervisor")
          items.forM step) :=
    .bind (.of_require _ _) fun _ => .forM hstep items
  unfold updateResourceSettingsNoted
  cases action with
  -- an addition has no id to look for
  | add => exact fun s => hloop (fun item s => hitem domain none item.rasd item s) s
  | mod =>
    refine fun s => hloop (fun item s => ?_) s
    -- a modification takes it from the setting, a deletion from the one referred to
    unfold updateItemNoted addressed
    cases getInstanceid item.rasd with
    | error e => exact ⟨rfl, rfl⟩
    | ok names => exact hitem names.1 (some names.2) item.rasd item s
  | del =>
    refine .bind (.of_ofExcept _) fun _ => hloop fun item s => ?_
    unfold updateItemNoted addressed
    cases rasdRefToInst item.env item.rasd with
    | error e => exact ⟨rfl, rfl⟩
    | ok ref =>
      cases ref with
      | none => exact ⟨rfl, rfl⟩
      | some rasd =>
        dsimp only
        cases getInstanceid rasd with
        | error e => exact ⟨rfl, rfl⟩
        | ok names => exact hitem names.1 (some names.2) rasd item s

/-! ### The settings of a system -/

/-- `update_system_settings`, once the domain has been looked up. If no document can be
generated the status stays as it was, which is that of a request that succeeds. -/
def resettleNoted (name : String) (vssd : Instance) :
    Effect (Guest Live × Report) Failure Unit := do
  let dominfo ← .onFst (getDominfo env
    (.failed ("Unable to find existing domain `" ++ name ++ "' to modify")))
  let dominfo ← .ofExcept (updatedDomain env sys vssd name dominfo)
  let s ←
    match systemToXml env.nodeContent env.newUuid dominfo with
    | .error _ => pure (.ok false)
    | .ok doc => .attempt (connectAndCreateNoted env (some doc))
  .ofExcept (s.map fun _ => ())
  raiseIndication systemModified

/-- `update_system_settings`. Without a connection nothing is done, and nothing is wrong. -/
def updateSystemSettingsNoted (vssd : Instance) : Effect (Reported Live) Failure Unit :=
  match vssd.getStr "VirtualSystemIdentifier" with
  | none => .fail (.status .noSuchProperty "Missing VirtualSystemIdentifier")
  | some name => do
    let connected ← .ofExcept (connectByClassname env .request env.refcn)
    if connected then
      .require (env.calls.lookup .request) (noSuchDomain name)
      onDomainNoted name (noSuchDomain name) (resettleNoted env sys name vssd)

/-! ### Requests -/

/-- A request that changes settings. -/
inductive SettingsRequest (Live : Type)
  /-- `AddResourceSettings`, `ModifyResourceSettings` or `RemoveResourceSettings` -/
  | resources (action : ResourceAction) (domain : String) (items : List (Item Live))
  /-- `ModifySystemSettings` -/
  | system (vssd : Instance)

/-- The request, and what it did. -/
def SettingsRequest.run (request : SettingsRequest Live) : Effect (Reported Live) Failure Unit :=
  match request with
  | .resources action domain items => updateResourceSettingsNoted env action domain items
  | .system vssd => updateSystemSettingsNoted env sys vssd

/-- The number of definitions a request asks for. -/
def SettingsRequest.count : SettingsRequest Live → ℕ
  | .resources _ _ items => items.length
  | .system _ => 1

end LibvirtCim.Service
