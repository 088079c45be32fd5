import LibvirtCim.Association.IdCodec
import LibvirtCim.Rasd.DiskSentBack
import LibvirtCim.Rasd.DisplaySentBack
import LibvirtCim.Rasd.NetSentBack
import LibvirtCim.Service.PreciseRemoval

/-!
# A modification that carries no change
-/

open Framework LibvirtCim.Device LibvirtCim.Rasd LibvirtCim.Association

namespace LibvirtCim.Service

/-- A translation reads the properties of a setting, and the first half of its class name. -/
theorem rasdToVdev_congr {host : Host} {domtype : DomainType} {inst inst' : Instance}
    (hpfx : inst'.classname = inst.classname) (hget : ∀ prop, inst'.get prop = inst.get prop)
    (kind : DevKind) (dev : VirtDevice kind.Dev) :
    rasdToVdev host domtype inst' kind dev = rasdToVdev host domtype inst kind dev := by
  -- a translator reads properties by one of six accessors
  have hstr (prop : String) : inst'.getStr prop = inst.getStr prop := by
    rw [Instance.getStr, Instance.getStr, hget]
  have hu16 (prop : String) : inst'.getU16 prop = inst.getU16 prop := by
    rw [Instance.getU16, Instance.getU16, hget]
  have hu32 (prop : String) : inst'.getU32 prop = inst.getU32 prop := by
    rw [Instance.getU32, Instance.getU32, hget]
  have hu64 (prop : String) : inst'.getU64 prop = inst.getU64 prop := by
    rw [Instance.getU64, Instance.getU64, hget]
  have hbool (prop : String) : inst'.getBool prop = inst.getBool prop := by
    rw [Instance.getBool, Instance.getBool, hget]
  have harray (prop : String) : inst'.getArray prop = inst.getArray prop := by
    rw [Instance.getArray, Instance.getArray, hget]
  -- the address is read the same for every kind
  have haddress (addr : DeviceAddress) :
      rasdToDeviceAddress inst' addr = rasdToDeviceAddress inst addr := by
    simp only [rasdToDeviceAddress, harray]
  have hnet : netRasdToVdev host inst' = netRasdToVdev host inst := by
    simp only [netRasdToVdev, netSourceOfRasd, vsiOfRasd, hstr, hu64, haddress]
  have hmem (dev : VirtDevice MemDevice) : memRasdToVdev inst' dev = memRasdToVdev inst dev := by
    simp only [memRasdToVdev, hstr, hu64, hbool]
  have hcontroller (dev : VirtDevice ControllerDevice) :
      controllerRasdToVdev inst' dev = controllerRasdToVdev inst dev := by
    simp only [controllerRasdToVdev, hstr, hu64, haddress]
  have hinput (dev : VirtDevice InputDevice) : inputRasdToVdev inst' dev =
      inputRasdToVdev inst dev := by
    simp only [inputRasdToVdev, hstr]
  -- then the tables of translators agree, entry by entry
  have hcontainer (kind : DevKind) (dev : VirtDevice kind.Dev) :
      containerRasdToVdev host inst' kind dev = containerRasdToVdev host inst kind dev := by
    cases kind with
    | disk => simp only [containerRasdToVdev, lxcDiskRasdToVdev, hstr]
    | net => exact hnet
    | mem => exact hmem dev
    | proc => simp only [containerRasdToVdev, lxcProcRasdToVdev, hu64, hu32]
    | controller => exact hcontroller dev
    | input => exact congrArg Except.ok (hinput dev)
    | graphics | console => rfl
  have hsysvirt (kind : DevKind) (dev : VirtDevice kind.Dev) :
      sysvirtRasdToVdev host inst' kind dev = sysvirtRasdToVdev host inst kind dev := by
    cases kind with
    | disk => simp only [sysvirtRasdToVdev, diskRasdToVdev, hstr, hu16, hbool, haddress]
    | net => exact hnet
    | mem => exact hmem dev
    -- the processor's translator also looks at the class, to ask for a Xen guest
    | proc => simp only [sysvirtRasdToVdev, procRasdToVdev, hpfx, hu64, hu32]
    | controller => exact hcontroller dev
    | input => exact congrArg Except.ok (hinput dev)
    | graphics => simp only [sysvirtRasdToVdev, graphicsRasdToVdev, graphicsOfRasd, hstr, hbool]
    | console =>
      simp only [sysvirtRasdToVdev, consoleRasdToVdev, consoleSourceOfRasd, pathOfRasd,
        unixsockConsoleRasdToVdev, udpConsoleRasdToVdev, tcpConsoleRasdToVdev, urlOfRasd, hstr,
        hu16]
  unfold rasdToVdev
  rw [hcontainer, hsysvirt]

/-! ### Devices of a parsed domain -/

/-- **The devices that come back from their settings**, by type. -/
def Fits (info : DomainInfo) (host : Host) (domtype : DomainType) (pfx : String) :
    (kind : DevKind) → kind.Dev → Prop
  | .disk, dev => domtype ≠ .lxc ∧ DiskFits host dev
  | .net, dev => NetFits host dev
  | .mem, _ | .input, _ => True
  | .proc, dev => domtype ≠ .lxc ∧ procCount info dev = some dev.quantity ∧ dev.quantity ≠ 0 ∧
      (procShares info dev).getD (defaultWeight pfx) = 0
  | .graphics, dev => domtype ≠ .lxc ∧ GraphicsFits info dev
  | .console, dev => domtype ≠ .lxc ∧ SourceKept dev.sourceDev dev.sourceType
  | .controller, dev => dev.address = []

/-- Memory is of its type once it was merged. -/
theorem type_of_mem_getMemDevice {mdevs : List (VirtDevice MemDevice)} {dev : VirtDevice MemDevice}
    (h : dev ∈ getMemDevice mdevs) : dev.type = .mem := by
  unfold getMemDevice at h
  split at h
  · cases h
  · rw [List.mem_singleton.mp h]
  · rw [List.mem_singleton.mp h]

/-- The type of a device of a parsed domain. -/
theorem type_of_mem_list {root : Node} {d : Domain} (hparse : getDominfoFromXml root = .ok d)
    {kind : DevKind} {dev : VirtDevice kind.Dev} (hdev : dev ∈ d.list kind) :
    dev.type = kind.resType := by
  -- memory is merged, and the other kinds come from a node each
  by_cases hmem : kind = .mem
  · subst hmem
    obtain ⟨-, mdevs, -, -, -, hdevs, -⟩ := getDominfoFromXml_ok hparse
    have hmerged : dev ∈ getMemDevice mdevs := by
      rw [← hdevs]
      exact hdev
    exact type_of_mem_getMemDevice hmerged
  · obtain ⟨node, -, hread⟩ := (mem_doParse (list_getDominfoFromXml hparse hmem)).mp hdev
    -- every parser sets the type of its kind
    cases kind with
    | disk =>
      obtain ⟨-, hread⟩ | ⟨-, hread⟩ := parseDiskDevice_ok hread
      · exact (parseBlockDevice_ok hread).2.1
      · exact (parseFsDevice_ok hread).2.1
    | net => exact (parseNetDevice_ok hread).1
    | mem => exact absurd rfl hmem
    | proc =>
      cases hread
      rfl
    | graphics => exact (parseGraphicsDevice_ok hread).1
    | input => exact (parseInputDevice_ok hread).1
    | console => exact (parseConsoleDevice_ok hread).1
    | controller => exact (parseControllerDevice_ok hread).1

/-- **A device of a parsed domain that is sent back** is written as before exactly if it fits. -/
theorem unmodified_iff_fits {root : Node} {d : Domain} (hparse : getDominfoFromXml root = .ok d)
    {kind : DevKind} {dev : VirtDevice kind.Dev} (hdev : dev ∈ d.list kind) (info : DomainInfo)
    (host : Host) (pfx name : String) :
    Unmodified info host d.type pfx name kind dev ↔ Fits info host d.type pfx kind dev.dev := by
  -- what was merged comes back without a condition
  by_cases hmem : kind = .mem
  · subst hmem
    obtain ⟨-, mdevs, -, -, -, hdevs, -⟩ := getDominfoFromXml_ok hparse
    have hmerged : dev ∈ getMemDevice mdevs := by
      rw [← hdevs]
      exact hdev
    exact iff_of_true (mem_unmodified info host d.type pfx name (type_of_mem_getMemDevice hmerged))
      trivial
  · obtain ⟨node, hnode, hread⟩ := (mem_doParse (list_getDominfoFromXml hparse hmem)).mp hdev
    -- for the other kinds, what each of them must meet
    cases kind with
    | disk => exact disk_unmodified_iff info host d.type pfx name hread
    | net => exact net_unmodified_iff info host d.type pfx name hread
    | mem => exact absurd rfl hmem
    | proc => exact proc_unmodified_iff info host d.type pfx name hread
    | graphics =>
      exact graphics_unmodified_iff info host d.type pfx name (name_of_mem_xpathNodes hnode) hread
    | input => exact iff_of_true (input_unmodified info host d.type pfx name hread) trivial
    | console => exact console_unmodified_iff info host d.type pfx name hread
    | controller => exact controller_unmodified_iff info host d.type pfx name hread

/-! ### The document -/

/-- A device that is exchanged for one that is written alike. -/
theorem devicesXml_replace {α : Type} {xml : α → Except String (List Node)}
    {before after : List (VirtDevice α)} {dev dev' : VirtDevice α}
    (hsame : xml dev'.dev = xml dev.dev)
    (htype : dev'.type = dev.type) :
    devicesXml xml (before ++ dev' :: after) = devicesXml xml (before ++ dev :: after) := by
  induction before with
  | nil => rw [List.nil_append, List.nil_append, devicesXml, devicesXml, htype, hsame]
  | cons d before ih => rw [List.cons_append, List.cons_append, devicesXml, devicesXml, ih]

/-- **The document of a domain** with a device exchanged for one that is written alike. -/
theorem systemToXml_replace (nodeContent : String → List Node) (newUuid : String) (d : Domain)
    {kind : DevKind} {before after : List (VirtDevice kind.Dev)} {dev dev' : VirtDevice kind.Dev}
    (hsame : SameXml d.type kind dev.dev dev'.dev) (htype : dev'.type = dev.type) :
    systemToXml nodeContent newUuid (d.setList kind (before ++ dev' :: after)) =
      systemToXml nodeContent newUuid (d.setList kind (before ++ dev :: after)) := by
  -- the list of one kind is written by one generator; the others do not see it
  cases kind with
  | disk =>
    have hxml : diskXml (d.setList .disk (before ++ dev' :: after)) =
        diskXml (d.setList .disk (before ++ dev :: after)) := devicesXml_replace hsame htype
    unfold systemToXml devicesElementXml
    rw [hxml]
    rfl
  | net =>
    have hxml : netXml (d.setList .net (before ++ dev' :: after)) =
        netXml (d.setList .net (before ++ dev :: after)) := devicesXml_replace hsame htype
    unfold systemToXml devicesElementXml
    rw [hxml]
    rfl
  | console =>
    have hxml : consoleXml (d.setList .console (before ++ dev' :: after)) =
        consoleXml (d.setList .console (before ++ dev :: after)) := devicesXml_replace hsame htype
    unfold systemToXml devicesElementXml
    rw [hxml]
    rfl
  | graphics =>
    have hxml : graphicsXml (d.setList .graphics (before ++ dev' :: after)) =
        graphicsXml (d.setList .graphics (before ++ dev :: after)) := devicesXml_replace hsame htype
    unfold systemToXml devicesElementXml
    rw [hxml]
    rfl
  | input =>
    have hxml : inputXml (d.setList .input (before ++ dev' :: after)) =
        inputXml (d.setList .input (before ++ dev :: after)) := devicesXml_replace hsame htype
    unfold systemToXml devicesElementXml
    rw [hxml]
    rfl
  | controller =>
    have hxml : controllerXml (d.setList .controller (before ++ dev' :: after)) =
        controllerXml (d.setList .controller (before ++ dev :: after)) :=
      devicesXml_replace hsame htype
    unfold systemToXml devicesElementXml
    rw [hxml]
    rfl
  -- of memory only the first entry is written
  | mem =>
    have hxml : memXml nodeContent (d.setList .mem (before ++ dev' :: after)) =
        memXml nodeContent (d.setList .mem (before ++ dev :: after)) := by
      -- the entry that is replaced is the first, or it is not written at all
      cases before with
      | nil =>
        have hdev : dev'.dev = dev.dev := hsame
        have hread (dev : VirtDevice MemDevice) :
            memXml nodeContent (d.setList .mem ([] ++ dev :: after)) =
              [xmlNewChild nodeContent "currentMemory" (some (toString dev.dev.size.toNat)),
                .elem "memory" (dumpCoreProp dev.dev.dumpCore)
                  (nodeContent (toString dev.dev.maxsize.toNat))] := rfl
        rw [hread, hread, hdev]
      | cons first before => rfl
    unfold systemToXml
    rw [hxml]
    rfl
  -- of the processors the first entry is written in two places
  | proc =>
    have hboth : vcpuXml nodeContent (d.setList .proc (before ++ dev' :: after)) =
          vcpuXml nodeContent (d.setList .proc (before ++ dev :: after)) ∧
        cputuneXml nodeContent (d.setList .proc (before ++ dev' :: after)) =
          cputuneXml nodeContent (d.setList .proc (before ++ dev :: after)) := by
      cases before with
      | nil =>
        obtain ⟨hquantity, hweight⟩ : dev'.dev.quantity = dev.dev.quantity ∧
            dev'.dev.weight = dev.dev.weight := hsame
        have hvcpu (dev : VirtDevice VcpuDevice) :
            vcpuXml nodeContent (d.setList .proc ([] ++ dev :: after)) =
              [xmlNewChild nodeContent "vcpu" (some (toString dev.dev.quantity.toNat))] := rfl
        have hcputune (dev : VirtDevice VcpuDevice) :
            cputuneXml nodeContent (d.setList .proc ([] ++ dev :: after)) =
              [.elem "cputune" [] [xmlNewChild nodeContent "shares"
                (some (toString dev.dev.weight.toInt32.toInt))]] := rfl
        rw [hvcpu, hvcpu, hcputune, hcputune, hquantity, hweight]
        exact ⟨rfl, rfl⟩
      | cons first before => exact ⟨rfl, rfl⟩
    unfold systemToXml
    rw [hboth.1, hboth.2]
    rfl

/-! ### The request -/

variable {Live : Type} (env : Env Live)

/-- A request that succeeds: the device that was set up, and what was stored. -/
structure ModificationPerformed (devid : String) (rasd : Instance) (d : Domain) (kind : DevKind)
    (g s : Guest Live) : Prop where
  stored : ∃ inst before after dev dev' doc mid,
    mergedRasd env .mod d rasd (.dev kind) (some devid) = .ok inst ∧
    splitAtFirst (hasId devid) (d.list kind) = some (before, dev, after) ∧
    rasdToVdev env.host d.type inst kind dev = .ok dev' ∧
    systemToXml env.nodeContent env.newUuid (d.setList kind (before ++ dev' :: after)) = .ok doc ∧
    WeightKept env (d.setList kind (before ++ dev' :: after)) inst.classname g.config mid.config ∧
    Stored env doc mid s

/-- What `resource_mod` makes of the parsed domain. -/
theorem resourceMod_spec (d : Domain) (inst : Instance) (kind : DevKind) (devid : String)
    (g : Guest Live) :
    Triple (· = g) (resourceMod env d inst (.dev kind) (some devid))
      (fun d' s => ∃ before after dev dev',
        splitAtFirst (hasId devid) (d.list kind) = some (before, dev, after) ∧
        rasdToVdev env.host d.type inst kind dev = .ok dev' ∧
        d' = d.setList kind (before ++ dev' :: after) ∧
        WeightKept env d' inst.classname g.config s.config)
      (fun _ _ => True) := by
  -- the device is found by the id and translated over what it was
  unfold resourceMod
  dsimp only
  split
  · exact Triple.of_fail fun _ _ => trivial
  · next before dev after hlist =>
    split
    · exact Triple.of_fail fun _ _ => trivial
    · next dev' hdev =>
      -- the running domain is told before the list is put together
      refine Triple.bind ((changeRunning_spec env _ .mod dev' inst.classname g).weaken
        (fun _ hs => hs) (fun _ _ hs => hs) fun _ _ _ => trivial) fun _ => ?_
      exact Triple.of_pure fun s hs => ⟨before, after, dev, dev', hlist, hdev, rfl, hs.config⟩

/-- **What a modification does.** -/
theorem modification_spec {devid : String} {rasd : Instance} {d : Domain} {kind : DevKind}
    {g : Guest Live} (hparse : getDominfoFromXml g.config = .ok d)
    (htype : resTypeFromRasdClassname rasd = some (.dev kind)) :
    Triple (· = g) (updateResourcesFor env .mod (some devid) rasd)
      (fun _ s => ModificationPerformed env devid rasd d kind g s) (fun _ _ => True) := by
  unfold updateResourcesFor
  -- the domain is read, the setting merged, and the device replaced
  refine Triple.bind ((getDominfo_spec env _ g).weaken (fun _ h => h) (fun _ _ h => h)
    fun _ _ _ => trivial) fun d' => ?_
  rw [htype]
  refine Triple.bind (Q := fun inst s => d' = d ∧
      mergedRasd env .mod d rasd (.dev kind) (some devid) = .ok inst ∧ s = g)
    (Triple.of_ofExcept (fun inst hr s hs => ?_) fun _ _ _ _ => trivial) fun inst => ?_
  · have hd : d' = d := Except.ok.inj (hs.1.symm.trans hparse)
    exact ⟨hd, hd ▸ hr, hs.2⟩
  rintro s ⟨rfl, hinst, rfl⟩
  refine Triple.bind (resourceMod_spec env d' inst kind devid s) (fun changed => ?_) s rfl
  rintro mid ⟨before, after, dev, dev', hlist, hdev, rfl, hweight⟩
  -- the document is written, and stored as far as libvirt takes it
  cases hdoc : systemToXml env.nodeContent env.newUuid
      (d'.setList kind (before ++ dev' :: after)) with
  | error msg =>
    refine ⟨?_, fun _ _ => trivial⟩
    rintro _ ⟨⟩
  | ok doc =>
    refine Triple.bind (connectAndCreate_stored env doc mid)
      (fun _ => Triple.of_pure fun t ht => ?_)
      mid rfl
    exact ⟨inst, before, after, dev, dev', doc, mid, hinst, hlist, hdev, hdoc, hweight, ht⟩

/-- A request with no property other than the setting has it. -/
def CarriesNoChange (rasd inst : Instance) : Prop :=
  ∀ prop value, rasd.get prop = some value → inst.get prop = some value

/-- Nothing is changed by merging such a request into the setting. -/
theorem get_merge {rasd inst : Instance} (h : CarriesNoChange rasd inst) (prop : String) :
    (rasd.merge inst).get prop = inst.get prop := by
  have hget : (rasd.merge inst).get prop = (rasd.get prop).or (inst.get prop) := by
    unfold Instance.merge Instance.get
    exact List.lookup_append
  rw [hget]
  cases hrasd : rasd.get prop with
  | none => rfl
  | some value => exact (h prop value hrasd).symm

/-- The setting that is looked up by the name of a device is made of the device that is found. -/
theorem rasdFromVdev_of_getRasdByName {d : Domain} {kind : DevKind} {dev : VirtDevice kind.Dev}
    {name devid : String} (hname : d.name = some name) (hhost : name ≠ "")
    (hslash : '/' ∉ name.toList) (hdevid : devid ≠ "") (hline : '\n' ∉ devid.toList)
    (hlive : findDev env kind devid = .ok (some dev)) {inst : Instance}
    (h : getRasdByName env (formatStr d.name ++ "/" ++ formatStr (some devid)) (.dev kind) =
      .ok inst) : rasdFromVdev env.info env.pfx name kind dev = some inst := by
  -- the id names the guest and the device
  have hparse : parseFqDevid (formatStr d.name ++ "/" ++ formatStr (some devid)) =
      some (name, devid) := by
    rw [hname]
    exact parseFqDevid_of_line hhost hslash hdevid hline
  unfold getRasdByName at h
  rw [hparse] at h
  -- the setting is built from the running device
  split at h
  · dsimp only at h
    rw [hlive] at h
    dsimp only [bind, Except.bind] at h
    split at h
    · next inst' hinst =>
      rw [hinst]
      exact congrArg some (Except.ok.inj h)
    · cases h
  · cases h

theorem setList_list (d : Domain) (kind : DevKind) : d.setList kind (d.list kind) = d := by
  cases kind <;> rfl

/-- What is stored is the document of the domain as it was parsed, if there was a connection to
define it. -/
def RegeneratedOnly (d : Domain) (s : Guest Live) : Prop :=
  ∃ doc, systemToXml env.nodeContent env.newUuid d = .ok doc ∧
    (env.calls.connect .create → env.lv.defineXML doc = some s.config)

/-- **Modifying nothing changes nothing.** A `ModifyResourceSettings` request with properties that
the device already has, on a device that fits and is the same in the running domain, defines the
document that is generated from the domain as it was. The merged setting has the properties of the
one that was read (`get_merge`), so the device is one that is sent back, and is written as before
exactly if it fits (`unmodified_iff_fits`). -/
theorem unchanged_modification {g : Guest Live} {d : Domain}
    (hparse : getDominfoFromXml g.config = .ok d) {kind : DevKind} {dev : VirtDevice kind.Dev}
    {name devid : String} (hname : d.name = some name) (hhost : name ≠ "")
    (hslash : '/' ∉ name.toList) (hdevid : devid ≠ "") (hline : '\n' ∉ devid.toList)
    (hfirst : (d.list kind).find? (hasId devid) = some dev)
    (hlive : findDev env kind devid = .ok (some dev))
    (hfits : Fits env.info env.host d.type env.pfx kind dev.dev) {rasd : Instance}
    (htype : resTypeFromRasdClassname rasd = some (.dev kind))
    (hsame : ∀ inst, rasdFromVdev env.info env.pfx name kind dev = some inst →
      CarriesNoChange rasd inst)
    (hok : (updateResourcesFor env .mod (some devid) rasd g).1 = .ok ()) :
    RegeneratedOnly env d (updateResourcesFor env .mod (some devid) rasd g).2 := by
  have hperformed := (modification_spec env hparse htype g rfl).1 () hok
  obtain ⟨inst, before, after, dev₀, dev', doc, mid, hmerged, hlist, hread, hdoc, -, hstored⟩ :=
    hperformed.stored
  -- the setting that was worked on is that of the device, with nothing new
  obtain ⟨orig, horig, rfl⟩ := map_eq_ok hmerged
  have horig : rasdFromVdev env.info env.pfx name kind dev = some orig :=
    rasdFromVdev_of_getRasdByName env hname hhost hslash hdevid hline hlive horig
  have hread : rasdToVdev env.host d.type orig kind dev₀ = .ok dev' := by
    have hget : ∀ prop, (rasd.merge orig).get prop = orig.get prop := get_merge (hsame orig horig)
    have hclass : (rasd.merge orig).classname = orig.classname := rfl
    rw [← hread, rasdToVdev_congr hclass hget]
  -- the device under the id is the first in the list
  obtain ⟨hsplit, hid, hbefore⟩ := splitAtFirst_eq_some hlist
  have hdev : dev₀ = dev := by
    rw [hsplit, List.find?_append, List.find?_eq_none.mpr hbefore, Option.none_or,
      List.find?_cons_of_pos hid] at hfirst
    exact Option.some.inj hfirst
  subst hdev
  have hmem : dev₀ ∈ d.list kind := by
    rw [hsplit]
    simp
  -- it fits, so it comes back with the same XML
  have hunmodified := (unmodified_iff_fits hparse hmem env.info env.host env.pfx name).mpr hfits
  obtain ⟨inst', read, hinst', hread', hxml⟩ := hunmodified
  rw [horig] at hinst'
  obtain rfl := Option.some.inj hinst'
  rw [hread] at hread'
  obtain rfl := Except.ok.inj hread'
  -- nor does its type change
  obtain ⟨set, -, hset⟩ := rasdToVdev_ok hread
  have htypes : dev'.type = dev₀.type := by
    rw [hset, type_of_mem_list hparse hmem]
  rw [systemToXml_replace _ _ _ hxml htypes, ← hsplit, setList_list] at hdoc
  refine ⟨doc, hdoc, fun hconnect => ?_⟩
  rw [Stored, if_pos hconnect] at hstored
  exact hstored

/-- A disk that is modified by a request with its class name only. -/
theorem unchanged_modification_disk :
    RegeneratedOnly (typedEnv [fileDisk "vda", fileDisk "vdb"]) twoDiskDomain
      (updateResourcesFor (typedEnv [fileDisk "vda", fileDisk "vdb"]) .mod (some "vda")
        (settingOf "DiskResourceAllocationSettingData")
        ⟨{}, guestWith [fileDisk "vda", fileDisk "vdb"]⟩).2 := by
  have hparse : getDominfoFromXml (guestWith [fileDisk "vda", fileDisk "vdb"]) =
      .ok twoDiskDomain := by
    rfl
  have hfirst : (twoDiskDomain.list .disk).find? (hasId "vda") = some (parsedDisk "vda") := by
    decide
  have hlive : findDev (typedEnv [fileDisk "vda", fileDisk "vdb"]) .disk "vda" =
      .ok (some (parsedDisk "vda")) := by
    rfl
  -- the file is there, and the bus is known
  have hfits : DiskFits (typedEnv [fileDisk "vda", fileDisk "vdb"]).host (parsedDisk "vda").dev :=
    ⟨"/var/lib/disk.img", rfl, by decide, by decide⟩
  exact @unchanged_modification _ (typedEnv [fileDisk "vda", fileDisk "vdb"])
    ⟨{}, guestWith [fileDisk "vda", fileDisk "vdb"]⟩ twoDiskDomain hparse .disk (parsedDisk "vda")
    "guest" "vda" rfl (by decide) (by decide) (by decide) (by decide) hfirst hlive
    ⟨by decide, hfits⟩ (settingOf "DiskResourceAllocationSettingData") (by decide)
    (fun _ _ _ _ h => nomatch h) (by decide +kernel)

end LibvirtCim.Service
