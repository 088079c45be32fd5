import LibvirtCim.Framework.Keyed
import LibvirtCim.Service.Libvirt

/-!
# Adding, modifying and removing resources

`AddResourceSettings`, `ModifyResourceSettings` and `RemoveResourceSettings`, for one
setting and one domain: the parsed domain is changed by `resource_add`, `resource_mod` or
`resource_del`, which also change the running domain, and the document generated from it
is defined.
-/

open Framework LibvirtCim.Device LibvirtCim.Rasd

namespace LibvirtCim.Service

variable {Live : Type} (env : Env Live)

/-- The devices that cannot be changed on a running domain; a change to them is no error. -/
def isStatic : DevKind → Bool
  | .graphics | .input | .console => true
  | _ => false

/-- `parse_fq_devid`: the domain and the device. -/
def parseFqDevid (devid : String) : Option (String × String) := do
  let (host, rest) ← scanUpTo '/' devid.toList
  let rest ← scanLit ['/'] rest
  let (device, _) ← scanUpTo '\n' rest
  some (host, device)

/-- `get_devices`, on a description. -/
def getDevices (root : Node) : (kind : DevKind) → Except Stop (List (VirtDevice kind.Dev))
  | .mem => getMemDevice <$> parseDevices root .mem
  | .proc => List.take 1 <$> parseDevices root .proc
  | kind => parseDevices root kind

/-- The device has the id. -/
def hasId {kind : DevKind} (devid : String) (dev : VirtDevice kind.Dev) : Bool :=
  dev.id = some devid

/-- `find_dev`, in the description of the running domain. -/
def findDev (kind : DevKind) (devid : String) : Except Failure (Option (VirtDevice kind.Dev)) :=
  if env.calls.lookup .previous then
    match env.calls.liveDesc with
    | none => .ok none
    | some root =>
      match getDevices root kind with
      | .error _ => .error .crash
      | .ok devs => .ok (devs.find? (hasId devid))
  else .ok none

/-- `get_rasd_by_name`. -/
def getRasdByName (name : String) (type : RasdType) : Except Failure Instance := do
  let .ok true := connectByClassname env .previous env.refcn
    | .error (.status .notFound "No such instance")
  let notFound : Failure := .status .notFound ("No such instance (" ++ name ++ ")")
  let some (host, devid) := parseFqDevid name | .error notFound
  match type with
  | .image => .error notFound
  | .dev kind => do
    let some dev ← findDev env kind devid | .error notFound
    let some inst := rasdFromVdev env.info env.pfx host kind dev
      | .error (.failed "Failed to set instance properties")
    .ok inst

/-! ### Changing the parsed domain -/

/-- The change on the running domain, which is left out for some types. -/
def changeRunning (dominfo : Domain) (action : ResourceAction) (kind : DevKind)
    (dev : VirtDevice kind.Dev) (refcn : String) : Request Live Unit :=
  if isStatic kind then pure () else resourceDynamic env dominfo action kind dev refcn

/-- The status for a type that a function does not handle. -/
def wrongType (verb : String) (type : RasdType) : Failure :=
  .failed ("Cannot " ++ verb ++ " resources of type " ++ toString type.number)

/-- `resource_add`: the domain with the new device at the end of its list. -/
def resourceAdd (dominfo : Domain) (rasd : Instance) (type : RasdType) : Request Live Domain :=
  match type with
  | .image | .dev .mem | .dev .proc => .fail (wrongType "add" type)
  | .dev kind =>
    match rasdToVdev env.host dominfo.type rasd kind { dev := kind.zero } with
    | .error e => .fail (.failed ("Add resource failed: " ++ e.msg ++ ", " ++ formatStr e.detail))
    | .ok dev =>
      if kind = .controller ∧ dev.id = none then
        .fail (.failed "Add resource failed: Index property is required.")
      else do
        changeRunning env dominfo .add kind dev rasd.classname
        pure (dominfo.setList kind (dominfo.list kind ++ [dev]))

/-- `resource_del`: the domain with the first device of the id marked as removed. -/
def resourceDel (dominfo : Domain) (rasd : Instance) (type : RasdType) (devid : Option String) :
    Request Live Domain :=
  match devid with
  | none => .fail (.status .invalidParameter "Missing or incomplete InstanceID")
  | some devid =>
    match type with
    | .image => .fail .crash
    | .dev .mem | .dev .proc => .fail (wrongType "delete" type)
    | .dev kind =>
      if dominfo.list kind = [] then .fail (wrongType "delete" type)
      else
        match splitAtFirst (hasId devid) (dominfo.list kind) with
        | none => .fail (.failed ("Device `" ++ devid ++ "' not found"))
        | some (before, dev, after) => do
          changeRunning env dominfo .del kind dev rasd.classname
          pure (dominfo.setList kind (before ++ { dev with type := .unknown } :: after))

/-- `resource_mod`: the domain with the first device of the id set up from the setting. -/
def resourceMod (dominfo : Domain) (rasd : Instance) (type : RasdType) (devid : Option String) :
    Request Live Domain :=
  match devid with
  | none => .fail (.status .invalidParameter "Missing or incomplete InstanceID")
  | some devid =>
    match type with
    | .image => .fail (wrongType "modify" type)
    | .dev kind =>
      match splitAtFirst (hasId devid) (dominfo.list kind) with
      | none => .fail (.failed ("Device `" ++ devid ++ "' not found"))
      | some (before, dev, after) =>
        match rasdToVdev env.host dominfo.type rasd kind dev with
        | .error e => .fail (.failed ("Modify resource failed: " ++ e.msg))
        | .ok dev' => do
          -- the device is changed in its place before the change on the running domain
          let dominfo := dominfo.setList kind (before ++ dev' :: after)
          changeRunning env dominfo .mod kind dev' rasd.classname
          pure dominfo

/-- One of the three functions. -/
def resourceFn (action : ResourceAction) (dominfo : Domain) (rasd : Instance) (type : RasdType)
    (devid : Option String) : Request Live Domain :=
  match action with
  | .add => resourceAdd env dominfo rasd type
  | .del => resourceDel env dominfo rasd type devid
  | .mod => resourceMod env dominfo rasd type devid

/-- The setting that is worked on: a modification is merged into the setting of the
device as it is. -/
def mergedRasd (action : ResourceAction) (dominfo : Domain) (rasd : Instance) (type : RasdType)
    (devid : Option String) : Except Failure Instance :=
  match action with
  | .add | .del => .ok rasd
  | .mod =>
    rasd.merge <$> getRasdByName env (formatStr dominfo.name ++ "/" ++ formatStr devid) type

/-- `_update_resources_for`. -/
def updateResourcesFor (action : ResourceAction) (devid : Option String) (rasd : Instance) :
    Request Live Unit := do
  let dominfo ← getDominfo env (.failed "Internal error (getting domain info)")
  match resTypeFromRasdClassname rasd with
  | none => .fail (.failed "Unable to determine RASD type")
  | some type => do
    let rasd ← .ofExcept (mergedRasd env action dominfo rasd type devid)
    let dominfo ← resourceFn env action dominfo rasd type devid
    match systemToXml env.nodeContent env.newUuid dominfo with
    | .error _ => .fail (.failed "Internal error (xml generation failed)")
    | .ok doc => do
      let _ ← connectAndCreate env (some doc)
      pure ()

end LibvirtCim.Service
