import LibvirtCim.Capability.Templates

/-!
# What a template is a template of

The kind of a template is told to a client by the reference to it, and `make_ref_valuerole`
guesses it from the words in its `InstanceID`. The guess is right for every template
(`allocCapToRasd_blocks`): an answer consists of four blocks in a fixed order, one for each
kind, and all four have the same templates, which differ in their amounts only.

`allocCapToRasd_succeeds_iff` says which requests are answered at all.
-/

open Framework Framework.Listing LibvirtCim.Device LibvirtCim.Pool LibvirtCim.Rasd

namespace LibvirtCim.SettingsDefineCapabilities

/-! ### Templates that correspond -/

/-- The properties in which the kinds of a template differ. -/
def amountNames : List String :=
  ["InstanceID", "VirtualQuantity", "Reservation", "Limit", "AllocationUnits", "Weight",
    "Autostart"]

/-- Templates of the same thing: they differ in their amounts only. -/
structure SameTemplate (inst inst' : Instance) : Prop where
  pfx : inst.pfx = inst'.pfx
  base : inst.base = inst'.base
  props : ∀ name ∉ amountNames, inst.get name = inst'.get name

namespace SameTemplate

variable {inst inst' : Instance}

theorem refl (inst : Instance) : SameTemplate inst inst :=
  ⟨rfl, rfl, fun _ _ => rfl⟩

/-- The same value is set in both. -/
theorem set (h : SameTemplate inst inst') (name : String) (value : CmpiValue) :
    SameTemplate (inst.set name value) (inst'.set name value) := by
  refine ⟨h.pfx, h.base, ?_⟩
  intro name' hname'
  rw [Instance.get_set, Instance.get_set, h.props name' hname']

/-- An amount is set. -/
theorem amount (h : SameTemplate inst inst') {name : String} (hname : name ∈ amountNames)
    (value value' : CmpiValue) : SameTemplate (inst.set name value) (inst'.set name value') := by
  refine ⟨h.pfx, h.base, ?_⟩
  intro name' hname'
  have hne : name' ≠ name := by
    rintro rfl
    exact hname' hname
  rw [Instance.get_set, Instance.get_set, if_neg hne, if_neg hne, h.props name' hname']

theorem setChars (h : SameTemplate inst inst') (name : String) (value : Option String) :
    SameTemplate (inst.setChars name value) (inst'.setChars name value) := by
  cases value with
  | none => exact h
  | some s => exact h.set name (.string s)

theorem setIf (h : SameTemplate inst inst') (cond : Bool) (name : String) (value : CmpiValue) :
    SameTemplate (inst.setIf cond name value) (inst'.setIf cond name value) := by
  cases cond with
  | false => exact h
  | true => exact h.set name value

/-- An amount is set in one of them, or in both. -/
theorem amountIf (h : SameTemplate inst inst') {name : String} (hname : name ∈ amountNames)
    (cond cond' : Bool) (value value' : CmpiValue) :
    SameTemplate (inst.setIf cond name value) (inst'.setIf cond' name value') := by
  -- a property that is no amount is left alone, whether the amount is set or not
  have hget (cond : Bool) (inst : Instance) (value : CmpiValue) {name' : String}
      (hname' : name' ∉ amountNames) : (inst.setIf cond name value).get name' = inst.get name' := by
    have hne : name' ≠ name := by
      rintro rfl
      exact hname' hname
    rw [Instance.get_setIf, if_neg fun both => hne both.2]
  -- the class of the instance is never touched
  have hclass (cond : Bool) (inst : Instance) (value : CmpiValue) :
      (inst.setIf cond name value).pfx = inst.pfx ∧
        (inst.setIf cond name value).base = inst.base := by
    cases cond with
    | false => exact ⟨rfl, rfl⟩
    | true => exact ⟨rfl, rfl⟩
  refine ⟨?_, ?_, ?_⟩
  · rw [(hclass cond inst value).1, (hclass cond' inst' value').1, h.pfx]
  · rw [(hclass cond inst value).2, (hclass cond' inst' value').2, h.base]
  · intro name' hname'
    rw [hget cond inst value hname', hget cond' inst' value' hname', h.props name' hname']

end SameTemplate

section Same

variable (host : SdcHost) (pfx : String) (t t' : SdcRasdType)

theorem sameTemplate_mem : SameTemplate (memTemplate host pfx t) (memTemplate host pfx t') := by
  unfold memTemplate
  refine .amount ?_ (by decide) _ _
  refine .amount ?_ (by decide) _ _
  refine .set ?_ _ _
  exact .amount (.refl _) (by decide) _ _

theorem sameTemplate_proc : SameTemplate (procTemplate host pfx t) (procTemplate host pfx t') := by
  -- the amount that is always set; the others are set for a role and left out for another
  have hbase : SameTemplate
      (((deviceInst pfx .proc).set "InstanceID" (.string t.id)).set "AllocationUnits"
        (.string "Processors") |>.set "VirtualQuantity" (.uint64 (numProcs host t)))
      (((deviceInst pfx .proc).set "InstanceID" (.string t'.id)).set "AllocationUnits"
        (.string "Processors") |>.set "VirtualQuantity" (.uint64 (numProcs host t'))) := by
    refine .amount ?_ (by decide) _ _
    refine .set ?_ _ _
    -- the id is an amount as well: it has the role in it
    exact .amount (.refl _) (by decide) _ _
  unfold procTemplate
  dsimp only
  split_ifs
  · refine .amount ?_ (by decide) _ _
    exact hbase.amount (by decide) _ _
  · exact hbase.amount (by decide) _ _
  · exact hbase

theorem sameTemplate_net (amounts amounts' : NetAmounts) (props : NetProps) :
    SameTemplate (setNetProps pfx t amounts props) (setNetProps pfx t' amounts' props) := by
  unfold setNetProps
  iterate 10 refine .setChars ?_ _ _
  iterate 3 refine .amountIf ?_ (by decide) _ _ _ _
  iterate 2 refine .amount ?_ (by decide) _ _
  refine .setChars ?_ _ _
  exact .set (.refl _) _ _

theorem sameTemplate_netPool (forwardMode : UInt16) (forwardDevice : Bool) :
    SameTemplate (netPoolProps pfx t forwardMode forwardDevice)
      (netPoolProps pfx t' forwardMode forwardDevice) := by
  unfold netPoolProps
  refine .setIf ?_ _ _ _
  iterate 5 refine .set ?_ _ _
  exact .amount (.refl _) (by decide) _ _

theorem sameTemplate_disk (domtype : DomainType) (id id' diskPath : String)
    (diskSize diskSize' : UInt64) (emuType : UInt16) (readonly shareable : Bool) (cache : String) :
    SameTemplate (setDiskProps pfx domtype id diskPath diskSize emuType readonly shareable cache)
      (setDiskProps pfx domtype id' diskPath diskSize' emuType readonly shareable cache) := by
  -- the properties that containers have too
  have hbase : SameTemplate
      (((deviceInst pfx .disk).set "InstanceID" (.string id)).set "AllocationQuantity"
        (.string "MegaBytes") |>.set "Address" (.string diskPath))
      (((deviceInst pfx .disk).set "InstanceID" (.string id')).set "AllocationQuantity"
        (.string "MegaBytes") |>.set "Address" (.string diskPath)) := by
    iterate 2 refine .set ?_ _ _
    exact .amount (.refl _) (by decide) _ _
  unfold setDiskProps
  dsimp only
  by_cases hlxc : domtype = .lxc
  · rw [if_pos hlxc, if_pos hlxc]
    exact hbase.set _ _
  · rw [if_neg hlxc, if_neg hlxc]
    refine .set ?_ _ _
    -- the emulated type and the caching mode do not depend on the role
    iterate 2 refine .setIf ?_ _ _ _
    iterate 2 refine .set ?_ _ _
    -- the size is an amount
    refine .amountIf ?_ (by decide) _ _ _ _
    iterate 2 refine .setIf ?_ _ _ _
    exact hbase

theorem sameTemplate_newVolume (path units : Option String) :
    SameTemplate (newVolumeInst pfx t path units) (newVolumeInst pfx t' path units) := by
  unfold newVolumeInst
  refine .setChars ?_ _ _
  iterate 2 refine .set ?_ _ _
  refine .setChars ?_ _ _
  iterate 2 refine .set ?_ _ _
  exact .amount (.refl _) (by decide) _ _

theorem sameTemplate_diskPool (props : DiskPoolProps) :
    SameTemplate (setDiskPoolProps pfx t props) (setDiskPoolProps pfx t' props) := by
  have hbase : SameTemplate ((poolInst pfx .disk).set "InstanceID" (.string t.id))
      ((poolInst pfx .disk).set "InstanceID" (.string t'.id)) :=
    .amount (.refl _) (by decide) _ _
  unfold setDiskPoolProps
  dsimp only
  refine .amount ?_ (by decide) _ _
  iterate 2 refine .set ?_ _ _
  iterate 5 refine .setChars ?_ _ _
  cases props.devPath with
  | none => exact hbase
  | some devPath => exact hbase.set _ _

theorem sameTemplate_graphics (type : String) (addr : Option String) :
    SameTemplate (setGraphicsProps pfx t type addr) (setGraphicsProps pfx t' type addr) := by
  unfold setGraphicsProps
  refine .set ?_ _ _
  refine .setIf ?_ _ _ _
  refine .setChars ?_ _ _
  exact .amount (.refl _) (by decide) _ _

theorem sameTemplate_input (type bus : String) (caption : Option String) :
    SameTemplate (setInputProps pfx t type bus caption)
      (setInputProps pfx t' type bus caption) := by
  unfold setInputProps
  iterate 3 refine .set ?_ _ _
  exact .amount (.refl _) (by decide) _ _

/-! ### Blocks that correspond -/

theorem alike_cdromOrFloppy (emuType : UInt16) :
    Alike SameTemplate (cdromOrFloppyTemplate pfx t emuType)
      (cdromOrFloppyTemplate pfx t' emuType) := by
  unfold cdromOrFloppyTemplate
  dsimp only
  cases diskDomains pfx with
  | some domtypes =>
    refine alike_add (forall₂_map_map_iff.mpr ?_)
    intro domtype _
    exact sameTemplate_disk _ _ _ _ _ _ _ _ _ _ _
  | none =>
    dsimp only
    split_ifs
    · exact alike_add .nil
    · exact alike_fail _ _

theorem alike_newVolume (storage : StorageView) (units : Option String) :
    Alike SameTemplate (newVolumeTemplateOf pfx t storage units)
      (newVolumeTemplateOf pfx t' storage units) := by
  unfold newVolumeTemplateOf
  cases storage.config with
  | none => exact alike_fail _ _
  | some pool =>
    dsimp only
    split_ifs
    · exact alike_add (.cons (sameTemplate_newVolume _ _ _ _ _) .nil)
    · exact alike_add .nil

theorem alike_volume (storage : StorageView) (volname : String) :
    Alike SameTemplate (volumeTemplate pfx t storage volname)
      (volumeTemplate pfx t' storage volname) := by
  unfold volumeTemplate availVolumeTemplate
  -- a volume that is not found, or has no information, is the same for both roles
  cases storage.volumeNamed volname with
  | none => exact alike_fail _ _
  | some volume =>
    dsimp only
    cases volume.info with
    | none => exact alike_add .nil
    | some sizes =>
      dsimp only
      cases volume.path with
      | none => exact alike_fail _ _
      | some volPath =>
        dsimp only
        cases diskDomains pfx with
        | none => exact alike_fail _ _
        | some domtypes =>
          -- one setting for each type of domain, and the types are those of the prefix
          refine alike_add (forall₂_map_map_iff.mpr ?_)
          intro domtype _
          exact sameTemplate_disk _ _ _ _ _ _ _ _ _ _ _

/-- All four blocks of a storage pool correspond, also where they end early. -/
theorem alike_disk (instid : String) :
    Alike SameTemplate (diskTemplate host pfx t instid) (diskTemplate host pfx t' instid) := by
  unfold diskTemplate
  -- a container has one file system
  split_ifs
  · exact alike_add (.cons (sameTemplate_disk _ _ _ _ _ _ _ _ _ _ _) .nil)
  · cases scanPoolName instid with
    | none => exact alike_fail _ _
    | some poolname =>
      dsimp only
      cases host.storageNamed poolname with
      | none => exact alike_fail _ _
      | some storage =>
        unfold storageTemplate newVolumeTemplate
        -- two images that are to be made, then the volumes of the pool, then the drives
        refine .andThen (.andThen (alike_newVolume _ _ _ _ _) (alike_newVolume _ _ _ _ _)) ?_
        cases volumeNames storage poolname with
        | error e => exact alike_fail _ _
        | ok names =>
          refine .andThen (alike_forEach ?_)
            (.andThen (alike_cdromOrFloppy _ _ _ _) (alike_cdromOrFloppy _ _ _ _))
          intro volname _
          exact alike_volume _ _ _ _ _

/-- Only networks may fail for one kind and not for another: the largest number of interfaces
may be unknown. -/
theorem sameTemplate_netTemplate (h : (netTemplate host pfx t).error = none)
    (h' : (netTemplate host pfx t').error = none) :
    List.Forall₂ SameTemplate (netTemplate host pfx t).items (netTemplate host pfx t').items := by
  unfold netTemplate at h h' ⊢
  -- the amounts depend on the role, and so does whether they are found
  cases hamounts : netAmounts host pfx t with
  | error e =>
    rw [hamounts] at h
    cases h
  | ok amounts =>
    cases hamounts' : netAmounts host pfx t' with
    | error e =>
      rw [hamounts'] at h'
      cases h'
    | ok amounts' =>
      refine forall₂_map_map_iff.mpr ?_
      intro props _
      exact sameTemplate_net _ _ _ _ _ _

theorem sameTemplate_netPoolTemplate :
    List.Forall₂ SameTemplate (netPoolTemplate pfx t).items (netPoolTemplate pfx t').items := by
  have hmode (forwardMode : UInt16) :
      List.Forall₂ SameTemplate (setNetPoolProps pfx t forwardMode)
        (setNetPoolProps pfx t' forwardMode) := by
    unfold setNetPoolProps
    split_ifs
    · exact .cons (sameTemplate_netPool _ _ _ _ _) .nil
    · exact .cons (sameTemplate_netPool _ _ _ _ _) (.cons (sameTemplate_netPool _ _ _ _ _) .nil)
  change List.Forall₂ SameTemplate (([0, 1, 2] : List UInt16).flatMap _)
    (([0, 1, 2] : List UInt16).flatMap _)
  simp only [List.flatMap_cons, List.flatMap_nil]
  exact List.rel_append (hmode 0) (List.rel_append (hmode 1) (List.rel_append (hmode 2) .nil))

/-- **Two blocks have the same templates.** -/
theorem sameTemplate_templatesOf {id : String} {kind : DevKind}
    (h : (templatesOf host pfx id kind t).error = none)
    (h' : (templatesOf host pfx id kind t').error = none) :
    List.Forall₂ SameTemplate (templatesOf host pfx id kind t).items
      (templatesOf host pfx id kind t').items := by
  -- one case for each list of templates; the lists have the same length for every role
  cases kind with
  | mem => exact .cons (sameTemplate_mem _ _ _ _) .nil
  | proc => exact .cons (sameTemplate_proc _ _ _ _) .nil
  | net =>
    change (netDevOrPoolTemplate host pfx t id).error = none at h
    change (netDevOrPoolTemplate host pfx t' id).error = none at h'
    change List.Forall₂ SameTemplate (netDevOrPoolTemplate host pfx t id).items
      (netDevOrPoolTemplate host pfx t' id).items
    unfold netDevOrPoolTemplate at h h' ⊢
    -- a pool that is found decides between its networks and its interfaces
    cases hpool : getPoolByName host.view id with
    | none =>
      rw [hpool] at h
      cases h
    | some pool =>
      rw [hpool] at h h'
      dsimp only at h h' ⊢
      split_ifs at h h' ⊢
      · exact sameTemplate_netPoolTemplate _ _ _
      · exact sameTemplate_netTemplate _ _ _ _ h h'
  | disk =>
    change List.Forall₂ SameTemplate (diskResTemplate host pfx t id).items
      (diskResTemplate host pfx t' id).items
    unfold diskResTemplate
    cases getPoolByName host.view id with
    | none => exact .nil
    | some pool =>
      dsimp only
      -- a primordial pool offers pools, another one disks
      split_ifs
      · refine forall₂_map_map_iff.mpr ?_
        intro props _
        exact sameTemplate_diskPool _ _ _ _
      · exact (alike_disk _ _ _ _ _).items
  | graphics =>
    change List.Forall₂ SameTemplate (List.flatMap _ _) (List.flatMap _ _)
    -- the addresses of VNC first, then SDL
    simp only [List.flatMap_cons, List.flatMap_nil, List.append_nil]
    refine List.rel_append (forall₂_map_map_iff.mpr ?_) (forall₂_map_map_iff.mpr ?_)
    · intro j _
      exact sameTemplate_graphics _ _ _ _ _
    · intro j _
      exact sameTemplate_graphics _ _ _ _ _
  | input =>
    change List.Forall₂ SameTemplate (inputTemplate pfx t).items (inputTemplate pfx t').items
    unfold inputTemplate
    -- the platforms offer other input devices, but the same ones for every role
    cases inputsOf pfx with
    | none => exact .nil
    | some inputs =>
      refine forall₂_map_map_iff.mpr ?_
      rintro ⟨type, bus, caption⟩ _
      exact sameTemplate_input _ _ _ _ _ _
  | controller => exact .nil
  | console => exact .nil

end Same

/-! ### What the client is told -/

@[simp] theorem base_deviceInst (pfx : String) (kind : DevKind) :
    (deviceInst pfx kind).base = baseOfKind kind := rfl

@[simp] theorem base_poolInst (pfx : String) (kind : DevKind) :
    (poolInst pfx kind).base = poolBase kind := rfl

@[simp] theorem get_deviceInst (pfx : String) (kind : DevKind) :
    (deviceInst pfx kind).get "ResourceType" = some (.uint16 (UInt16.ofNat kind.number)) := rfl

@[simp] theorem get_poolInst (pfx : String) (kind : DevKind) :
    (poolInst pfx kind).get "ResourceType" = some (.uint16 (UInt16.ofNat kind.number)) := rfl

/-- The ids of the templates of a kind. -/
def SdcRasdType.ids (t : SdcRasdType) : List String :=
  [t.id, t.id ++ " " ++ "CDROM", t.id ++ " " ++ "floppy", "New Storage Volume " ++ t.id]

/-- A template is labelled as what it is: a template of its kind, of a resource of the pool. -/
structure Labelled (kind : DevKind) (t : SdcRasdType) (inst : Instance) : Prop where
  role : makeRefValuerole inst = some t.valueRole
  type : ∃ type, resTypeFromRasdClassname inst = some type ∧
    inst.get "ResourceType" = some (.uint16 (UInt16.ofNat type.number)) ∧
    (type = .dev kind ∨ type = .image ∧ kind = .disk)

/-- **The guess is right** for all words that are used. -/
theorem makeRefValuerole_of_id {t : SdcRasdType} {inst : Instance} {id : String}
    (hid : id ∈ t.ids) (h : inst.get "InstanceID" = some (.string id)) :
    makeRefValuerole inst = some t.valueRole := by
  have hwords : ∀ t : SdcRasdType, ∀ id ∈ t.ids,
      makeRefValuerole { pfx := "", base := "", props := [("InstanceID", .string id)] } =
        some t.valueRole := by
    intro t
    cases t <;> decide +kernel
  rw [← hwords t id hid]
  unfold makeRefValuerole Instance.getStr
  rw [h]
  rfl

theorem resTypeFromRasdClassname_device {kind : DevKind} {inst : Instance}
    (h : inst.base = baseOfKind kind) : resTypeFromRasdClassname inst = some (.dev kind) := by
  unfold resTypeFromRasdClassname
  rw [h]
  cases kind <;> rfl

theorem resTypeFromRasdClassname_pool {kind : DevKind} (hkind : kind = .disk ∨ kind = .net)
    {inst : Instance} (h : inst.base = poolBase kind) :
    resTypeFromRasdClassname inst = some (.dev kind) := by
  unfold resTypeFromRasdClassname
  rw [h]
  obtain rfl | rfl := hkind
  · rfl
  · rfl

theorem Labelled.of_device {kind : DevKind} {t : SdcRasdType} {inst : Instance} {id : String}
    (hid : id ∈ t.ids) (hget : inst.get "InstanceID" = some (.string id))
    (hbase : inst.base = baseOfKind kind)
    (htype : inst.get "ResourceType" = some (.uint16 (UInt16.ofNat kind.number))) :
    Labelled kind t inst :=
  ⟨makeRefValuerole_of_id hid hget, .dev kind, resTypeFromRasdClassname_device hbase, htype,
    .inl rfl⟩

theorem Labelled.of_pool {kind : DevKind} {t : SdcRasdType} {inst : Instance} {id : String}
    (hkind : kind = .disk ∨ kind = .net) (hid : id ∈ t.ids)
    (hget : inst.get "InstanceID" = some (.string id)) (hbase : inst.base = poolBase kind)
    (htype : inst.get "ResourceType" = some (.uint16 (UInt16.ofNat kind.number))) :
    Labelled kind t inst :=
  ⟨makeRefValuerole_of_id hid hget, .dev kind, resTypeFromRasdClassname_pool hkind hbase, htype,
    .inl rfl⟩

section Labels

variable (host : SdcHost) (pfx : String) (t : SdcRasdType)

theorem id_mem_ids : t.id ∈ t.ids := List.mem_cons_self

theorem labelled_mem : Labelled .mem t (memTemplate host pfx t) :=
  .of_device (id_mem_ids t) (by simp [memTemplate]) rfl (by simp [memTemplate])

theorem labelled_proc : Labelled .proc t (procTemplate host pfx t) := by
  refine .of_device (id_mem_ids t) ?_ ?_ ?_
  · unfold procTemplate
    dsimp only
    split_ifs <;> simp
  · unfold procTemplate
    dsimp only
    split_ifs <;> rfl
  · unfold procTemplate
    dsimp only
    split_ifs <;> simp

theorem labelled_net (amounts : NetAmounts) (props : NetProps) :
    Labelled .net t (setNetProps pfx t amounts props) :=
  .of_device (id_mem_ids t) (by simp [setNetProps]) (by simp [setNetProps])
    (by simp [setNetProps])

theorem labelled_netPool (forwardMode : UInt16) (forwardDevice : Bool) :
    Labelled .net t (netPoolProps pfx t forwardMode forwardDevice) :=
  .of_pool (.inr rfl) (id_mem_ids t) (by simp [netPoolProps]) (by simp [netPoolProps])
    (by simp [netPoolProps])

theorem labelled_disk (domtype : DomainType) {id : String} (hid : id ∈ t.ids) (diskPath : String)
    (diskSize : UInt64) (emuType : UInt16) (readonly shareable : Bool) (cache : String) :
    Labelled .disk t
      (setDiskProps pfx domtype id diskPath diskSize emuType readonly shareable cache) := by
  refine .of_device hid ?_ ?_ ?_
  · unfold setDiskProps
    by_cases hlxc : domtype = .lxc <;> simp [hlxc]
  · unfold setDiskProps
    by_cases hlxc : domtype = .lxc <;> simp [hlxc]
  · unfold setDiskProps
    by_cases hlxc : domtype = .lxc <;> simp [hlxc]

theorem labelled_newVolume (path units : Option String) :
    Labelled .disk t (newVolumeInst pfx t path units) := by
  have hid : "New Storage Volume " ++ t.id ∈ t.ids := by simp [SdcRasdType.ids]
  refine ⟨makeRefValuerole_of_id hid ?_, .image, ?_, ?_, .inr ⟨rfl, rfl⟩⟩
  · simp [newVolumeInst]
  · unfold resTypeFromRasdClassname newVolumeInst
    simp only [Instance.base_set, Instance.base_setChars]
    rfl
  · simp only [newVolumeInst, Instance.get_set, Instance.get_setChars, String.reduceEq, if_false]
    rfl

theorem labelled_diskPool (props : DiskPoolProps) :
    Labelled .disk t (setDiskPoolProps pfx t props) := by
  refine .of_pool (.inl rfl) (id_mem_ids t) ?_ ?_ ?_
  · unfold setDiskPoolProps
    cases props.devPath <;> simp
  · unfold setDiskPoolProps
    cases props.devPath <;> simp
  · unfold setDiskPoolProps
    cases props.devPath <;> simp

theorem labelled_graphics (type : String) (addr : Option String) :
    Labelled .graphics t (setGraphicsProps pfx t type addr) :=
  .of_device (id_mem_ids t) (by simp [setGraphicsProps]) (by simp [setGraphicsProps])
    (by simp [setGraphicsProps])

theorem labelled_input (type bus : String) (caption : Option String) :
    Labelled .input t (setInputProps pfx t type bus caption) :=
  .of_device (id_mem_ids t) (by simp [setInputProps]) (by simp [setInputProps])
    (by simp [setInputProps])

theorem labelled_cdromOrFloppy {emuType : UInt16} {inst : Instance}
    (h : inst ∈ (cdromOrFloppyTemplate pfx t emuType).items) : Labelled .disk t inst := by
  unfold cdromOrFloppyTemplate at h
  dsimp only at h
  cases hdomains : diskDomains pfx with
  | some domtypes =>
    rw [hdomains] at h
    obtain ⟨domtype, -, rfl⟩ := List.mem_map.mp h
    refine labelled_disk pfx t _ ?_ _ _ _ _ _ _
    -- a drive is read only or not, with the ids of the role in both cases
    split_ifs
    · simp [SdcRasdType.ids]
    · simp [SdcRasdType.ids]
  | none =>
    rw [hdomains] at h
    dsimp only at h
    split_ifs at h
    · cases h
    · cases h

theorem labelled_newVolumeTemplateOf {storage : StorageView} {units : Option String}
    {inst : Instance} (h : inst ∈ (newVolumeTemplateOf pfx t storage units).items) :
    Labelled .disk t inst := by
  unfold newVolumeTemplateOf at h
  cases hconfig : storage.config with
  | none =>
    rw [hconfig] at h
    cases h
  | some pool =>
    rw [hconfig] at h
    dsimp only at h
    split_ifs at h
    · rw [List.mem_singleton.mp h]
      exact labelled_newVolume pfx t _ _
    · cases h

theorem labelled_volume {storage : StorageView} {volname : String} {inst : Instance}
    (h : inst ∈ (volumeTemplate pfx t storage volname).items) : Labelled .disk t inst := by
  unfold volumeTemplate availVolumeTemplate at h
  split at h
  · cases h
  · split at h
    · cases h
    · split at h
      · cases h
      · split at h
        · obtain ⟨domtype, -, rfl⟩ := List.mem_map.mp h
          exact labelled_disk pfx t _ (id_mem_ids t) _ _ _ _ _ _
        · cases h

theorem labelled_storage {storage : StorageView} {poolname : String} {inst : Instance}
    (h : inst ∈ (storageTemplate pfx t storage poolname).items) : Labelled .disk t inst := by
  unfold storageTemplate newVolumeTemplate at h
  obtain hnew | hrest := mem_items_andThen h
  · obtain hplain | hunits := mem_items_andThen hnew
    · exact labelled_newVolumeTemplateOf pfx t hplain
    · exact labelled_newVolumeTemplateOf pfx t hunits
  · split at hrest
    · cases hrest
    · obtain hvolumes | hdrives := mem_items_andThen hrest
      · obtain ⟨volname, -, hvolume⟩ := exists_of_mem_forEach hvolumes
        exact labelled_volume pfx t hvolume
      · obtain hcdrom | hfloppy := mem_items_andThen hdrives
        · exact labelled_cdromOrFloppy pfx t hcdrom
        · exact labelled_cdromOrFloppy pfx t hfloppy

theorem labelled_diskTemplate {instid : String} {inst : Instance}
    (h : inst ∈ (diskTemplate host pfx t instid).items) : Labelled .disk t inst := by
  unfold diskTemplate at h
  split at h
  · rw [List.mem_singleton.mp h]
    exact labelled_disk pfx t _ (id_mem_ids t) _ _ _ _ _ _
  · split at h
    · cases h
    · split at h
      · cases h
      · exact labelled_storage pfx t h

theorem labelled_netDevOrPool {id : String} {inst : Instance}
    (h : inst ∈ (netDevOrPoolTemplate host pfx t id).items) : Labelled .net t inst := by
  unfold netDevOrPoolTemplate netPoolTemplate netTemplate at h
  split at h
  -- the parent pool offers pools, any other one interfaces
  · cases h
  · split at h
    · obtain ⟨forwardMode, -, hinst⟩ := List.mem_flatMap.mp h
      unfold setNetPoolProps at hinst
      split at hinst
      · rw [List.mem_singleton.mp hinst]
        exact labelled_netPool pfx t _ _
      · obtain hinst | hinst := List.mem_pair.mp hinst
        -- with and without a forward device
        · rw [hinst]
          exact labelled_netPool pfx t _ _
        · rw [hinst]
          exact labelled_netPool pfx t _ _
    · split at h
      · cases h
      · obtain ⟨props, -, rfl⟩ := List.mem_map.mp h
        exact labelled_net pfx t _ _

/-- **Every template is labelled as what it is.** -/
theorem labelled_templatesOf {id : String} {kind : DevKind} {inst : Instance}
    (h : inst ∈ (templatesOf host pfx id kind t).items) : Labelled kind t inst := by
  -- by the kind of the pool, as sdc_rasds_for_type chooses
  cases kind with
  | mem =>
    rw [List.mem_singleton.mp h]
    exact labelled_mem host pfx t
  | proc =>
    rw [List.mem_singleton.mp h]
    exact labelled_proc host pfx t
  | net => exact labelled_netDevOrPool host pfx t h
  | disk =>
    change inst ∈ (diskResTemplate host pfx t id).items at h
    unfold diskResTemplate at h
    -- a disk pool's own templates, or those of what lies in it
    split at h
    · cases h
    · split at h
      · obtain ⟨props, -, rfl⟩ := List.mem_map.mp h
        exact labelled_diskPool pfx t _
      · exact labelled_diskTemplate host pfx t h
  | graphics =>
    obtain ⟨⟨type, i, js⟩, -, hinst⟩ := List.mem_flatMap.mp h
    obtain ⟨j, -, rfl⟩ := List.mem_map.mp hinst
    exact labelled_graphics pfx t _ _
  | input =>
    change inst ∈ (inputTemplate pfx t).items at h
    unfold inputTemplate at h
    split at h
    · obtain ⟨⟨type, bus, caption⟩, -, rfl⟩ := List.mem_map.mp h
      exact labelled_input pfx t _ _ _
    · cases h
  | controller => cases h
  | console => cases h

end Labels

/-! ### Answers -/

section Answers

variable {host : SdcHost} {pfx id : String}

/-- What an answer has of the kind `t`. -/
def block (host : SdcHost) (pfx id : String) (kind : DevKind) (t : SdcRasdType) : List Instance :=
  (templatesOf host pfx id kind t).items.map (·.set "PoolID" (.string id))

theorem getPoolByName_of_getAllocCapById {pool : PoolInstance}
    (h : getAllocCapById host id = some pool) : getPoolByName host.view id = some pool := by
  unfold getAllocCapById at h
  obtain ⟨found, hfound, hvalid⟩ := Option.bind_eq_some_iff.mp h
  split_ifs at hvalid
  rw [hfound, hvalid]

theorem kind_and_name_of_getPoolByName {pool : PoolInstance}
    (h : getPoolByName host.view id = some pool) :
    resTypeFromPoolId id = some pool.kind ∧ scanPoolName id = some pool.name := by
  rw [getPoolByName_eq] at h
  obtain ⟨kind, hkind, hnamed⟩ := Option.bind_eq_some_iff.mp h
  obtain ⟨name, hname, hnamed⟩ := Option.bind_eq_some_iff.mp hnamed
  obtain ⟨rfl, rfl, -⟩ := kind_and_name_of_poolNamed hnamed
  exact ⟨hkind, hname⟩

/-- A request that is answered is one for a pool that is there. -/
theorem allocCapToRasd_of_none (h : (allocCapToRasd host pfx id).error = none) :
    ∃ pool, getAllocCapById host id = some pool ∧ resTypeFromPoolId id = some pool.kind ∧
      (∀ t, (templatesOf host pfx id pool.kind t).error = none) ∧
      (allocCapToRasd host pfx id).items =
        sdcRasdTypes.flatMap (block host pfx id pool.kind) := by
  unfold allocCapToRasd at h ⊢
  -- no templates at all are made for an unknown id
  cases hcap : getAllocCapById host id with
  | none =>
    rw [hcap] at h
    cases h
  | some pool =>
    rw [hcap] at h
    dsimp only at h ⊢
    have hkind := (kind_and_name_of_getPoolByName (getPoolByName_of_getAllocCapById hcap)).1
    rw [hkind] at h ⊢
    dsimp only [error_map, items_map, sdcRasdsForType] at h ⊢
    -- no label has failed, each of the four in turn
    rw [error_forEach_eq_none_iff] at h
    have hall (t : SdcRasdType) : (templatesOf host pfx id pool.kind t).error = none := by
      apply h
      cases t <;> decide
    refine ⟨pool, rfl, rfl, hall, ?_⟩
    rw [items_forEach h, List.map_flatMap]
    rfl

/-- What the id of the pool is added to stays what it is. -/
theorem Labelled.setPool {kind : DevKind} {t : SdcRasdType} {inst : Instance}
    (h : Labelled kind t inst) (id : String) :
    Labelled kind t (inst.set "PoolID" (.string id)) := by
  obtain ⟨type, htype, hnumber, hkind⟩ := h.type
  refine ⟨?_, type, htype, ?_, hkind⟩
  · rw [← h.role]
    unfold makeRefValuerole Instance.getStr
    rw [Instance.get_set, if_neg (by decide)]
  · rw [Instance.get_set, if_neg (by decide), hnumber]

/-- **An answer has a block for each kind of template**, in a fixed order. All that is in a block
is labelled as a template of its kind, of a resource of the pool, with the id of the pool; and the
blocks have the same templates, with other amounts. Every producer labels what it makes
(`labelled_templatesOf`), and the id of the pool is set behind all of them. -/
theorem allocCapToRasd_blocks (host : SdcHost) (pfx id : String)
    (h : (allocCapToRasd host pfx id).error = none) :
    ∃ kind, resTypeFromPoolId id = some kind ∧
      (allocCapToRasd host pfx id).items = sdcRasdTypes.flatMap (block host pfx id kind) ∧
      (∀ t, ∀ inst ∈ block host pfx id kind t,
        Labelled kind t inst ∧ inst.getStr "PoolID" = some id) ∧
      ∀ t t', List.Forall₂ SameTemplate (block host pfx id kind t)
        (block host pfx id kind t') := by
  obtain ⟨pool, -, hkind, hall, hitems⟩ := allocCapToRasd_of_none h
  -- the id of the pool is set last, over whatever the template has
  refine ⟨pool.kind, hkind, hitems, ?_, ?_⟩
  · intro t inst hinst
    obtain ⟨inst, hmem, rfl⟩ := List.mem_map.mp hinst
    refine ⟨(labelled_templatesOf host pfx t hmem).setPool id, ?_⟩
    unfold Instance.getStr
    rw [Instance.get_set, if_pos rfl]
  · intro t t'
    -- blocks are mapped from templates that differ in their label only
    unfold block
    rw [List.forall₂_map_left_iff, List.forall₂_map_right_iff]
    refine (sameTemplate_templatesOf host pfx t t' (hall t) (hall t')).imp ?_
    intro inst inst' hsame
    exact hsame.set "PoolID" (.string id)

/-- A host with a storage pool of one volume, of which a tenth is written. -/
def imagesHost : SdcHost where
  view :=
    { networkNamed := fun name => name = "default"
      activeNetworks := some ["default"]
      activeStorage := some ["images"] }
  storageNamed name :=
    if name = "images" then some
      { config := some { poolType := .dir, path := some "/srv/images" }
        numOfVolumes := some 1
        listVolumes := fun n => some (["guest.img"].take n)
        volumeNamed := fun _ => some
          { info := some (10000, 1000), path := some "/srv/images/guest.img" } }
    else none
  maxVcpus := some 16
  version := some 4000000
  maxMem := (4 : UInt64) <<< 20
  xenMaxNics := 8
  kvmMaxNics := 8
  validateRef key key' := key = key'

theorem allocCapToRasd_blocks_images :
    ∃ kind, resTypeFromPoolId "DiskPool/images" = some kind ∧
      (allocCapToRasd imagesHost "KVM" "DiskPool/images").items =
        sdcRasdTypes.flatMap (block imagesHost "KVM" "DiskPool/images" kind) ∧
      (∀ t, ∀ inst ∈ block imagesHost "KVM" "DiskPool/images" kind t,
        Labelled kind t inst ∧ inst.getStr "PoolID" = some "DiskPool/images") ∧
      ∀ t t', List.Forall₂ SameTemplate (block imagesHost "KVM" "DiskPool/images" kind t)
        (block imagesHost "KVM" "DiskPool/images" kind t') :=
  allocCapToRasd_blocks imagesHost "KVM" "DiskPool/images" (by decide +kernel)

end Answers

/-! ### Requests that are answered -/

/-- A storage pool of which everything can be read. A volume without information is passed over,
any other one needs a path. -/
structure Readable (storage : StorageView) : Prop where
  config : storage.config.isSome
  volumes : ∃ numvols names, storage.numOfVolumes = some numvols ∧
    storage.listVolumes numvols = some names ∧
    ∀ name ∈ names, ∃ volume, storage.volumeNamed name = some volume ∧
      (volume.info.isSome → volume.path.isSome)

/-- A pool there are templates for. The parents of networks and storage pools stand for all of
them and need nothing more; a network needs the largest number of interfaces the host gives, a
storage pool that its volumes can be read. -/
def Offered (host : SdcHost) (pfx : String) (pool : PoolInstance) : Prop :=
  match pool.kind with
  | .mem | .proc | .graphics => True
  | .input => (inputsOf pfx).isSome
  | .net => pool.primordial ∨ ∃ nics, getMaxNics host pfx = .ok nics
  | .disk => pool.primordial ∨ pfx = "LXC" ∨
      (diskDomains pfx).isSome ∧ ∃ storage, host.storageNamed pool.name = some storage ∧
        Readable storage
  | .controller | .console => False

section Offers

variable {host : SdcHost} {pfx id : String} {pool : PoolInstance}

/-- The largest number of interfaces is what may be missing. -/
theorem netTemplate_offered_iff :
    (∀ t, (netTemplate host pfx t).error = none) ↔ ∃ nics, getMaxNics host pfx = .ok nics := by
  constructor
  -- the number of interfaces is only asked for the maximum
  · intro h
    have hmax := h .max
    unfold netTemplate netAmounts at hmax
    cases hnics : getMaxNics host pfx with
    | error e =>
      rw [hnics] at hmax
      cases hmax
    | ok nics => exact ⟨nics, rfl⟩
  · rintro ⟨nics, hnics⟩ t
    unfold netTemplate netAmounts
    cases t with
    | max =>
      rw [hnics]
      rfl
    | _ => rfl

theorem cdromOrFloppy_offered_iff (hlxc : pfx ≠ "LXC") (t : SdcRasdType) (emuType : UInt16) :
    (cdromOrFloppyTemplate pfx t emuType).error = none ↔ (diskDomains pfx).isSome := by
  unfold cdromOrFloppyTemplate
  cases diskDomains pfx with
  | some domtypes => exact iff_of_true rfl rfl
  | none =>
    dsimp only
    rw [if_neg hlxc]
    simp

theorem newVolume_offered_iff (t : SdcRasdType) (storage : StorageView) (units : Option String) :
    (newVolumeTemplateOf pfx t storage units).error = none ↔ storage.config.isSome := by
  unfold newVolumeTemplateOf
  cases storage.config with
  | none => simp
  | some pool =>
    dsimp only
    split_ifs <;> simp

theorem volume_offered_iff (hdomains : (diskDomains pfx).isSome) (t : SdcRasdType)
    (storage : StorageView) (volname : String) :
    (volumeTemplate pfx t storage volname).error = none ↔
      ∃ volume, storage.volumeNamed volname = some volume ∧
        (volume.info.isSome → volume.path.isSome) := by
  obtain ⟨domtypes, hdomains⟩ := Option.isSome_iff_exists.mp hdomains
  unfold volumeTemplate availVolumeTemplate
  rw [hdomains]
  cases storage.volumeNamed volname with
  -- a volume that is not found is an error; one without sizes is left out
  | none => simp
  | some volume =>
    dsimp only
    cases hinfo : volume.info with
    | none => simp [hinfo]
    | some sizes =>
      dsimp only
      -- the path is only wanted after the sizes were read
      cases hpath : volume.path with
      | none => simp [hinfo, hpath]
      | some volPath => simp [hpath]

theorem storage_offered_iff (hlxc : pfx ≠ "LXC") (t : SdcRasdType) (storage : StorageView)
    (poolname : String) :
    (storageTemplate pfx t storage poolname).error = none ↔
      (diskDomains pfx).isSome ∧ Readable storage := by
  unfold storageTemplate newVolumeTemplate
  rw [error_andThen_eq_none_iff, error_andThen_eq_none_iff, newVolume_offered_iff,
    newVolume_offered_iff, and_self]
  unfold volumeNames
  -- each step fails on its own, so that all of them have succeeded
  constructor
  · rintro ⟨hconfig, hrest⟩
    cases hnum : storage.numOfVolumes with
    | none =>
      rw [hnum] at hrest
      cases hrest
    | some numvols =>
      rw [hnum] at hrest
      dsimp only at hrest
      cases hnames : storage.listVolumes numvols with
      | none =>
        rw [hnames] at hrest
        cases hrest
      | some names =>
        rw [hnames] at hrest
        dsimp only at hrest
        rw [error_andThen_eq_none_iff, error_forEach_eq_none_iff, error_andThen_eq_none_iff,
          cdromOrFloppy_offered_iff hlxc] at hrest
        obtain ⟨hvolumes, hdomains, -⟩ := hrest
        refine ⟨hdomains, hconfig, numvols, names, hnum, hnames, ?_⟩
        -- every volume that libvirt lists, whatever its name
        intro name hname
        exact (volume_offered_iff hdomains t storage name).mp (hvolumes name hname)
  · rintro ⟨hdomains, hconfig, numvols, names, hnum, hnames, hvolumes⟩
    refine ⟨hconfig, ?_⟩
    rw [hnum]
    dsimp only
    rw [hnames]
    dsimp only
    rw [error_andThen_eq_none_iff, error_forEach_eq_none_iff, error_andThen_eq_none_iff,
      cdromOrFloppy_offered_iff hlxc, cdromOrFloppy_offered_iff hlxc]
    refine ⟨?_, hdomains, hdomains⟩
    intro name hname
    exact (volume_offered_iff hdomains t storage name).mpr (hvolumes name hname)

theorem diskTemplate_offered_iff (hname : scanPoolName id = some pool.name) (t : SdcRasdType) :
    (diskTemplate host pfx t id).error = none ↔ pfx = "LXC" ∨
      (diskDomains pfx).isSome ∧ ∃ storage, host.storageNamed pool.name = some storage ∧
        Readable storage := by
  unfold diskTemplate
  -- a container's pool needs nothing of the storage
  by_cases hlxc : pfx = "LXC"
  · rw [if_pos hlxc]
    exact iff_of_true rfl (.inl hlxc)
  · rw [if_neg hlxc, hname, or_iff_right hlxc]
    dsimp only
    cases host.storageNamed pool.name with
    | none => simp
    | some storage =>
      dsimp only
      rw [storage_offered_iff hlxc]
      simp

/-- **When all blocks can be made.** -/
theorem templatesOf_offered_iff (h : getPoolByName host.view id = some pool) :
    (∀ t, (templatesOf host pfx id pool.kind t).error = none) ↔ Offered host pfx pool := by
  obtain ⟨-, hname⟩ := kind_and_name_of_getPoolByName h
  unfold Offered
  -- by the kind of the pool, as sdc_rasds_for_type chooses
  cases hkind : pool.kind with
  | mem => exact iff_of_true (fun _ => rfl) trivial
  | proc => exact iff_of_true (fun _ => rfl) trivial
  | graphics => exact iff_of_true (fun _ => rfl) trivial
  | controller =>
    refine iff_of_false ?_ not_false
    -- these two kinds are unknown to it
    intro hall
    cases hall .min
  | console =>
    refine iff_of_false ?_ not_false
    intro hall
    cases hall .min
  | input =>
    change (∀ t, (inputTemplate pfx t).error = none) ↔ (inputsOf pfx).isSome
    -- the inputs are fixed by the prefix
    unfold inputTemplate
    cases inputsOf pfx with
    | none =>
      refine iff_of_false ?_ (by simp)
      intro hall
      cases hall .min
    | some inputs => simp
  | net =>
    change (∀ t, (netDevOrPoolTemplate host pfx t id).error = none) ↔ _
    unfold netDevOrPoolTemplate
    rw [h]
    dsimp only
    -- the parent pool only offers pools, which never fails
    by_cases hprimordial : pool.primordial
    · simp only [hprimordial, if_true, true_or, iff_true]
      exact fun _ => rfl
    · simp only [hprimordial, Bool.false_eq_true, if_false, false_or]
      exact netTemplate_offered_iff
  | disk =>
    change (∀ t, (diskResTemplate host pfx t id).error = none) ↔ _
    unfold diskResTemplate
    rw [h]
    dsimp only
    by_cases hprimordial : pool.primordial
    · simp only [hprimordial, if_true, true_or, iff_true]
      exact fun _ => rfl
    · simp only [hprimordial, Bool.false_eq_true, if_false, false_or]
      -- the disk templates fail alike under every label
      constructor
      · intro hall
        exact (diskTemplate_offered_iff hname .min).mp (hall .min)
      · intro hoffered t
        exact (diskTemplate_offered_iff hname t).mpr hoffered

/-- **A request is answered** if and only if the pool is there and offered: never for controllers,
for networks not without the largest number of interfaces, and for a storage pool only if all of
it can be read. A loop of templates succeeds if all its rounds do (`error_forEach_eq_none_iff`),
and what a round asks of the host is in `Offered`. -/
theorem allocCapToRasd_succeeds_iff (host : SdcHost) (pfx id : String) :
    (allocCapToRasd host pfx id).error = none ↔
      ∃ pool, getAllocCapById host id = some pool ∧ Offered host pfx pool := by
  constructor
  · intro h
    obtain ⟨pool, hcap, -, hall, -⟩ := allocCapToRasd_of_none h
    exact ⟨pool, hcap, (templatesOf_offered_iff (getPoolByName_of_getAllocCapById hcap)).mp hall⟩
  · rintro ⟨pool, hcap, hoffered⟩
    have hall := (templatesOf_offered_iff (getPoolByName_of_getAllocCapById hcap)).mpr hoffered
    unfold allocCapToRasd
    rw [hcap]
    dsimp only
    rw [(kind_and_name_of_getPoolByName (getPoolByName_of_getAllocCapById hcap)).1]
    dsimp only [error_map, sdcRasdsForType]
    rw [error_forEach_eq_none_iff]
    intro t _
    exact hall t

end Offers

end LibvirtCim.SettingsDefineCapabilities
