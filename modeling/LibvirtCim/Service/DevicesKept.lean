import LibvirtCim.Device.Kept
import LibvirtCim.Service.Steps
import LibvirtCim.Service.System

/-!
# Requests and the devices they are not about

Every request parses the definition of a domain, changes what was parsed and defines the
document written from it. `devices_kept` says what that does to the device elements a
request is not about: each one that the parsers accept is written again, in its order.
The elements the parsers skip are lost with every request (`devices_lost`).
-/

open Framework LibvirtCim.Device LibvirtCim.Rasd

namespace LibvirtCim.Service

variable {Live : Type} (env : Env Live) (sys : SystemHost)

/-! ### The settings of a system leave the devices alone -/

/-- Two domains with the same devices. -/
def SameDevices (domain domain' : Domain) : Prop :=
  ∀ kind, domain'.list kind = domain.list kind

theorem sameDevices_fvSetEmulator (domain : Domain) (emu : Option String) :
    SameDevices domain (fvSetEmulator sys domain emu) := by
  intro kind
  unfold fvSetEmulator
  split <;> cases kind <;> rfl

theorem SameDevices.trans {domain domain' domain'' : Domain} (h : SameDevices domain domain')
    (h' : SameDevices domain' domain'') : SameDevices domain domain'' :=
  fun kind => (h' kind).trans (h kind)

/-- The lists of devices are fields of their own. -/
theorem sameDevices_of_fields {domain domain' : Domain} (hnet : domain'.devNet = domain.devNet)
    (hdisk : domain'.devDisk = domain.devDisk) (hmem : domain'.devMem = domain.devMem)
    (hvcpu : domain'.devVcpu = domain.devVcpu)
    (hgraphics : domain'.devGraphics = domain.devGraphics)
    (hinput : domain'.devInput = domain.devInput)
    (hconsole : domain'.devConsole = domain.devConsole)
    (hcontroller : domain'.devController = domain.devController) :
    SameDevices domain domain' := by
  intro kind
  cases kind with
  | net => exact hnet
  | disk => exact hdisk
  | mem => exact hmem
  | proc => exact hvcpu
  | graphics => exact hgraphics
  | input => exact hinput
  | console => exact hconsole
  | controller => exact hcontroller

theorem sameDevices_fvVssdToDomain {inst : Instance} {domain domain' : Domain}
    (h : fvVssdToDomain env sys inst domain = some domain') : SameDevices domain domain' := by
  unfold fvVssdToDomain at h
  obtain ⟨⟨type, domtype⟩, -, h⟩ := Option.bind_eq_some_iff.mp h
  obtain ⟨bootlist, -, h⟩ := Option.bind_eq_some_iff.mp h
  dsimp only at h
  split at h
  · cases h
  · cases h
    exact (sameDevices_of_fields rfl rfl rfl rfl rfl rfl rfl rfl).trans
      (sameDevices_fvSetEmulator sys _ _)

theorem sameDevices_vssdToDomain {inst : Instance} {domain domain' : Domain}
    (h : vssdToDomain env sys inst domain = some domain') : SameDevices domain domain' := by
  -- no branch of the translation touches a device list
  unfold vssdToDomain at h
  split at h
  · cases h
    exact fun kind => rfl
  · next name _ =>
    have hcommon : SameDevices domain (commonVssdToDomain inst name domain) :=
      sameDevices_of_fields rfl rfl rfl rfl rfl rfl rfl rfl
    -- the clock is set first, then what the type of the domain has
    obtain ⟨clocked, hclock, h⟩ := Option.bind_eq_some_iff.mp h
    have hclocked : SameDevices domain clocked := by
      unfold clockVssdToDomain at hclock
      split at hclock
      · cases hclock
        exact hcommon
      · obtain ⟨clock, -, rfl⟩ := Option.map_eq_some_iff.mp hclock
        exact hcommon.trans (sameDevices_of_fields rfl rfl rfl rfl rfl rfl rfl rfl)
    -- only a fully virtual guest has settings that can fail
    split at h
    · split at h
      · exact hclocked.trans (sameDevices_fvVssdToDomain env sys h)
      · cases h
    split at h
    · cases h
      exact hclocked.trans (sameDevices_of_fields rfl rfl rfl rfl rfl rfl rfl rfl)
    split at h
    · cases h
      exact hclocked.trans (sameDevices_of_fields rfl rfl rfl rfl rfl rfl rfl rfl)
    split at h
    · cases h
      exact hclocked
    · cases h

theorem sameDevices_updatedDomain {vssd : Instance} {name : String} {dominfo dominfo' : Domain}
    (h : updatedDomain env sys vssd name dominfo = .ok dominfo') :
    SameDevices dominfo dominfo' := by
  unfold updatedDomain at h
  split at h
  · cases h
  split at h
  · cases h
  · next uuid _ _ changed hchanged =>
    refine (sameDevices_vssdToDomain env sys hchanged).trans ?_
    -- the uuid is put back, or made, and is no device
    unfold keepUuid at h
    split at h
    · cases h
      exact sameDevices_of_fields rfl rfl rfl rfl rfl rfl rfl rfl
    split at h
    · cases h
      exact sameDevices_of_fields rfl rfl rfl rfl rfl rfl rfl rfl
    split at h
    · cases h
      exact fun kind => rfl
    · cases h

/-- The definition after a change of the system settings: the old one, or that of a
document with the same devices. -/
def Resettled (g s : Guest Live) : Prop :=
  s.config = g.config ∨ ∃ dominfo dominfo' doc,
    getDominfoFromXml g.config = .ok dominfo ∧ SameDevices dominfo dominfo' ∧
    systemToXml env.nodeContent env.newUuid dominfo' = .ok doc ∧
    env.lv.defineXML doc = some s.config

/-- **What a change of the system settings can do.** -/
theorem updateSystemSettings_spec (vssd : Instance) (g : Guest Live) :
    Triple (· = g) (updateSystemSettings env sys vssd) (fun _ s => Resettled env g s)
      (fun _ s => Resettled env g s) := by
  have hsame {s : Guest Live} (hs : s = g) : Resettled env g s := by
    rw [hs]
    exact .inl rfl
  unfold updateSystemSettings
  -- up to the definition a failure leaves the guest as it was
  split
  · exact Triple.of_fail fun s hs => hsame hs
  · next name _ =>
    refine Triple.bind (Q := fun _ s => s = g) (Triple.of_ofExcept (fun _ _ s hs => hs)
      fun _ _ s hs => hsame hs) fun connected => ?_
    cases connected with
    | false => exact Triple.of_pure fun s hs => hsame hs
    | true =>
      refine Triple.bind (Q := fun _ s => s = g) (Triple.of_require (fun _ s hs => hs)
        fun _ s hs => hsame hs) fun _ => ?_
      refine Triple.bind ((getDominfo_spec env _ g).weaken (fun _ h => h) (fun _ _ h => h)
        fun _ _ hs => hsame hs) fun dominfo => ?_
      -- what is defined has the devices that were read
      refine Triple.bind (Q := fun dominfo' s => getDominfoFromXml g.config = .ok dominfo ∧
          SameDevices dominfo dominfo' ∧ s = g)
        (Triple.of_ofExcept (fun dominfo' hd s hs =>
          ⟨hs.1, sameDevices_updatedDomain env sys hd, hs.2⟩) fun _ _ s hs => hsame hs.2)
        fun dominfo' => ?_
      cases hdoc : systemToXml env.nodeContent env.newUuid dominfo' with
      | error msg => exact Triple.of_pure fun s hs => hsame hs.2.2
      | ok doc =>
        rintro s ⟨hparse, hdevs, rfl⟩
        -- a document that libvirt took is that of the same devices
        have hcreated {ok : Bool} {t : Guest Live} (h : Created env (some doc) ok s t) :
            Resettled env s t := by
          obtain hconfig | ⟨root, hroot, hdefine, -⟩ := h.config
          · exact .inl hconfig
          · cases hroot
            exact .inr ⟨dominfo, dominfo', doc, hparse, hdevs, hdoc, hdefine⟩
        have hcreate : Triple (· = s) (do
            let _ ← connectAndCreate env (some doc)
            pure ()) (fun _ t => Resettled env s t) (fun _ t => Resettled env s t) :=
          Triple.bind ((connectAndCreate_spec env (some doc) s).weaken (fun _ h => h)
            (fun _ _ h => hcreated h) fun _ _ h => hcreated h) fun _ => Triple.of_pure fun _ h => h
        exact hcreate s rfl

/-! ### Requests -/

/-- The elements a request leaves alone: all, or all but the one with the device of an id. -/
def LeftAlone (kind : DevKind) (touched : Option String) (nodes nodes' : List Node) : Prop :=
  match touched with
  | none => nodes' = nodes
  | some devid => ∃ before node after dev, nodes = before ++ node :: after ∧
      nodes' = before ++ after ∧ doRealParse kind node = .ok dev ∧ dev.id = some devid

/-- The device of a type that a request on a resource is about. -/
def touchedBy (action : ResourceAction) (rasd : Instance) (devid : Option String)
    (kind : DevKind) : Option String :=
  if action ≠ .add ∧ resTypeFromRasdClassname rasd = some (.dev kind) then devid else none

/-- Every device element that is left alone, and that its parser accepts, is written again,
in its order. -/
def KeepsDevices (root doc : Node) (touched : DevKind → Option String) : Prop :=
  ∃ domtype, ∀ kind, ∀ name ∈ writtenNames kind, ∃ nodes,
    LeftAlone kind (touched kind) (xpathNodes root kind) nodes ∧
    KeptIn domtype kind name nodes (devicesXPath doc [name])

theorem keepsDevices_of_sameDevices {root doc : Node} {dominfo dominfo' : Domain}
    (hparse : getDominfoFromXml root = .ok dominfo) (hsame : SameDevices dominfo dominfo')
    (hdoc : systemToXml env.nodeContent env.newUuid dominfo' = .ok doc) :
    KeepsDevices root doc fun _ => none := by
  refine ⟨dominfo'.type, fun kind name hname => ⟨xpathNodes root kind, rfl, ?_⟩⟩
  have hmem : kind ≠ .mem := by
    rintro rfl
    exact absurd hname List.not_mem_nil
  refine keptIn_systemToXml hdoc hname (list_getDominfoFromXml hparse hmem) ?_
  rw [hsame kind]

/-- What is left of a parsed list when one device is taken out of it. -/
theorem leftAlone_of_split {kind : DevKind} {nodes : List Node} {devid : String}
    {devs before after : List (VirtDevice kind.Dev)} {dev : VirtDevice kind.Dev}
    (hparse : doParse (doRealParse kind) nodes = .ok devs)
    (hsplit : splitAtFirst (hasId devid) devs = some (before, dev, after)) :
    ∃ nodes', LeftAlone kind (some devid) nodes nodes' ∧
      ∃ devs', doParse (doRealParse kind) nodes' = .ok devs' ∧
        ∀ dev', devs'.Sublist (before ++ dev' :: after) := by
  obtain ⟨rfl, hid, -⟩ := splitAtFirst_eq_some hsplit
  obtain ⟨nb, node, na, rfl, hb, hnode, ha⟩ := doParse_split hparse
  refine ⟨nb ++ na, ⟨nb, node, na, dev, rfl, rfl, hnode, by simpa [hasId] using hid⟩,
    before ++ after, doParse_append hb ha, fun dev' => ?_⟩
  exact (List.sublist_cons_self dev' after).append_left before

theorem keepsDevices_of_changed {root doc : Node} {dominfo dominfo' : Domain} {host : Host}
    {rasd rasd' : Instance} {kind : DevKind} {action : ResourceAction} {devid : Option String}
    (hparse : getDominfoFromXml root = .ok dominfo)
    (htype : resTypeFromRasdClassname rasd = some (.dev kind))
    (hchanged : Changed host dominfo rasd' kind action devid dominfo')
    (hdoc : systemToXml env.nodeContent env.newUuid dominfo' = .ok doc) :
    KeepsDevices root doc (touchedBy action rasd devid) := by
  -- one list is touched, the others are written as they were read
  refine ⟨dominfo'.type, fun kind' name hname => ?_⟩
  have hmem : kind' ≠ .mem := by
    rintro rfl
    exact absurd hname List.not_mem_nil
  have hlist := list_getDominfoFromXml hparse hmem
  by_cases hkind : kind' = kind
  · subst hkind
    -- of the touched list, the rest of the devices stays in order
    cases hchanged with
    | add devid hdev =>
      refine ⟨xpathNodes root kind', rfl, keptIn_systemToXml hdoc hname hlist ?_⟩
      rw [Domain.list_setList]
      exact List.sublist_append_left _ _
    -- the device goes out, the ones around it are left alone
    | del hsplit =>
      obtain ⟨nodes, hleft, devs, hdevs, hsub⟩ := leftAlone_of_split hlist hsplit
      refine ⟨nodes, ?_, keptIn_systemToXml hdoc hname hdevs ?_⟩
      · rw [touchedBy, if_pos ⟨nofun, htype⟩]
        exact hleft
      · rw [Domain.list_setList]
        exact hsub _
    | mod hsplit hdev =>
      obtain ⟨nodes, hleft, devs, hdevs, hsub⟩ := leftAlone_of_split hlist hsplit
      refine ⟨nodes, ?_, keptIn_systemToXml hdoc hname hdevs ?_⟩
      · rw [touchedBy, if_pos ⟨nofun, htype⟩]
        exact hleft
      · rw [Domain.list_setList]
        exact hsub _
  -- a list of another kind has lost no node
  · have htouched : touchedBy action rasd devid kind' = none := by
      rw [touchedBy, if_neg]
      rintro ⟨-, htype'⟩
      rw [htype] at htype'
      cases htype'
      exact hkind rfl
    refine ⟨xpathNodes root kind', ?_, keptIn_systemToXml hdoc hname hlist ?_⟩
    · rw [htouched]
      rfl
    · cases hchanged <;> rw [Domain.list_setList_of_ne dominfo hkind]

/-- The definition after a request on a resource: the old one, at most with a new weight, or
that of a document that keeps the devices the request is not about. -/
def Redefined (action : ResourceAction) (devid : Option String) (rasd : Instance)
    (g s : Guest Live) : Prop :=
  s.config = g.config ∨
    (∃ weight, env.lv.setConfigSchedulerParameters weight g.config = some s.config) ∨
    ∃ doc, env.lv.defineXML doc = some s.config ∧
      KeepsDevices g.config doc (touchedBy action rasd devid)

theorem Stepped.redefined {action : ResourceAction} {devid : Option String} {rasd : Instance}
    {dominfo : Domain} {refcn : String} {type : RasdType} {ok : Bool} {g mid s : Guest Live}
    (hstep : Stepped env action dominfo refcn type ok g mid) (hconfig : s.config = mid.config) :
    Redefined env action devid rasd g s := by
  rw [Redefined, hconfig]
  obtain hsame | ⟨weight, -, hset⟩ := hstep.config
  · exact .inl hsame
  · exact .inr (.inl ⟨weight, hset⟩)

theorem updateResourcesFor_redefined (action : ResourceAction) (devid : Option String)
    (rasd : Instance) (g : Guest Live) :
    Redefined env action devid rasd g (updateResourcesFor env action devid rasd g).2 := by
  -- the request ends well or not, and in each case the step says what was defined
  obtain ⟨hok, herror⟩ := updateResourcesFor_spec env action devid rasd g g rfl
  generalize (updateResourcesFor env action devid rasd g).2 = s at hok herror
  cases hres : (updateResourcesFor env action devid rasd g).1 with
  | ok a =>
    obtain ⟨hparse, htype, -, hchanged, hstep, hdoc, hcreated⟩ := hok a hres
    -- the definition is the one before, or that of the changed list
    obtain hconfig | ⟨root, hroot, hdefine, -⟩ := hcreated.config
    · exact hstep.redefined env hconfig
    · cases hroot
      exact .inr (.inr ⟨_, hdefine, keepsDevices_of_changed env hparse htype hchanged hdoc⟩)
  -- a failure is early, at the step itself or behind it
  | error e =>
    obtain _ | ⟨-, -, -, dominfo', -, hstep⟩ |
        ⟨hparse, htype, -, hchanged, hstep, hdoc, hcreated⟩ := herror e hres
    · exact .inl rfl
    · exact hstep.redefined env rfl
    · obtain hconfig | ⟨root, hroot, hdefine, -⟩ := hcreated.config
      · exact hstep.redefined env hconfig
      · rw [hdoc] at hroot
        have hxml := eq_ok_of_toOption hroot
        exact .inr (.inr ⟨root, hdefine, keepsDevices_of_changed env hparse htype hchanged hxml⟩)

/-- **Devices that a request is not about.** Whenever a domain is parsed and written, by itself or
by one of the requests, the document that is defined has an element for every device element that
the parsers accept and the request is not about, in its order. Without a change of the devices
this is `keepsDevices_of_sameDevices`, which also serves a request on the system; a request on
resources changes one list, at the device it names. -/
theorem devices_kept :
    (∀ root dominfo doc, getDominfoFromXml root = .ok dominfo →
      systemToXml env.nodeContent env.newUuid dominfo = .ok doc →
      KeepsDevices root doc fun _ => none) ∧
    (∀ vssd g, ((updateSystemSettings env sys vssd g).2).config = g.config ∨
      ∃ doc, env.lv.defineXML doc = some ((updateSystemSettings env sys vssd g).2).config ∧
        KeepsDevices g.config doc fun _ => none) ∧
    ∀ action devid rasd g,
      ((updateResourcesFor env action devid rasd g).2).config = g.config ∨
      (∃ weight, env.lv.setConfigSchedulerParameters weight g.config =
        some ((updateResourcesFor env action devid rasd g).2).config) ∨
      ∃ doc, env.lv.defineXML doc = some ((updateResourcesFor env action devid rasd g).2).config ∧
        KeepsDevices g.config doc (touchedBy action rasd devid) := by
  refine ⟨fun root dominfo doc hparse hdoc => ?_, fun vssd g => ?_, fun action devid rasd g => ?_⟩
  -- nothing is changed on the way through the program
  · exact keepsDevices_of_sameDevices env hparse (fun kind => rfl) hdoc
  · have hspec : Resettled env g (updateSystemSettings env sys vssd g).2 := by
      obtain ⟨hok, herror⟩ := updateSystemSettings_spec env sys vssd g g rfl
      cases hres : (updateSystemSettings env sys vssd g).1 with
      | ok a => exact hok a hres
      | error e => exact herror e hres
    obtain hconfig | ⟨dominfo, dominfo', doc, hparse, hsame, hdoc, hdefine⟩ := hspec
    · exact .inl hconfig
    · exact .inr ⟨doc, hdefine, keepsDevices_of_sameDevices env hparse hsame hdoc⟩
  · exact updateResourcesFor_redefined env action devid rasd g

/-- A disk in a file is kept. -/
theorem devices_kept_fileDisk :
    ∃ dominfo doc, getDominfoFromXml (diskGuest (fileDisk "vda")) = .ok dominfo ∧
      systemToXml (fun s => [.text s]) "3f5a6d3e-0000-4000-8000-000000000000" dominfo = .ok doc ∧
      KeepsDevices (diskGuest (fileDisk "vda")) doc fun _ => none :=
  ⟨_, _, rfl, rfl,
    (devices_kept (simpleEnv (diskGuest (fileDisk "vda"))) simpleSystemHost).1 _ _ _ rfl rfl⟩

/-- A disk that is reached over the network. -/
def rbdDisk : Node :=
  .elem "disk" [("type", "network"), ("device", "disk")]
    [.elem "source" [("protocol", "rbd"), ("name", "pool/image")] [],
      .elem "target" [("dev", "vda")] []]

/-- **A disk that is reached over the network is lost**, without an error. -/
theorem devices_lost :
    ¬ ∀ (nodeContent : String → List Node) (newUuid : String) (root doc : Node)
        (dominfo : Domain), getDominfoFromXml root = .ok dominfo →
      systemToXml nodeContent newUuid dominfo = .ok doc →
      ∀ kind, ∀ name ∈ writtenNames kind,
        List.SublistForall₂ (fun node node' => node'.name = node.name)
          (devicesXPath root [name]) (devicesXPath doc [name]) := by
  intro h
  have hdisk := h (fun s => [.text s]) "uuid" (diskGuest rbdDisk) _ _ rfl rfl .disk "disk"
    (by simp [writtenNames])
  change List.SublistForall₂ _ [rbdDisk] [] at hdisk
  cases hdisk

end LibvirtCim.Service
