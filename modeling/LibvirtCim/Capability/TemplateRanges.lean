import LibvirtCim.Capability.ValueRoles

/-!
# Ranges of the templates

A client takes the templates of a resource as a range with a default in it. This module says when
they are one: the quantities of the smallest templates are at most those of the largest ones for
all resources but a host's memory (`allocCapToRasd_range_iff`), and the defaults lie between
them under a condition on what the host has. The default of a volume is what is allocated of it, so
that it is below the smallest one for a volume that is mostly empty.
-/

open Framework Framework.Listing LibvirtCim.Device LibvirtCim.Pool LibvirtCim.Rasd

namespace LibvirtCim.SettingsDefineCapabilities

/-- Where two templates both have a quantity, the first one is at most the other. -/
def QuantityLe (inst inst' : Instance) : Prop :=
  ∀ q ∈ inst.getU64 "VirtualQuantity", ∀ q' ∈ inst'.getU64 "VirtualQuantity", q ≤ q'

/-- Two blocks are in order: the quantities place by place. -/
def InOrder (l l' : List Instance) : Prop :=
  List.Forall₂ QuantityLe l l'

theorem quantityLe_iff {inst inst' : Instance} {q q' : UInt64}
    (h : inst.get "VirtualQuantity" = some (.uint64 q))
    (h' : inst'.get "VirtualQuantity" = some (.uint64 q')) : QuantityLe inst inst' ↔ q ≤ q' := by
  unfold QuantityLe Instance.getU64
  rw [h, h']
  simp

theorem quantityLe_of_none {inst inst' : Instance} (h : inst.get "VirtualQuantity" = none) :
    QuantityLe inst inst' := by
  unfold QuantityLe Instance.getU64
  rw [h]
  simp

theorem quantityLe_set_iff {inst inst' : Instance} (value : CmpiValue) :
    QuantityLe (inst.set "PoolID" value) (inst'.set "PoolID" value) ↔ QuantityLe inst inst' := by
  unfold QuantityLe Instance.getU64
  rw [Instance.get_set, Instance.get_set, if_neg (by decide), if_neg (by decide)]

section Order

variable {host : SdcHost} {pfx id : String} {pool : PoolInstance} {t t' : SdcRasdType}

/-- The volumes of a storage pool are in order. -/
def VolumesInOrder (storage : StorageView) (t t' : SdcRasdType) : Prop :=
  ∀ numvols names, storage.numOfVolumes = some numvols → storage.listVolumes numvols = some names →
    ∀ name ∈ names, ∀ volume, storage.volumeNamed name = some volume →
      ∀ capacity allocation, volume.info = some (capacity, allocation) →
        volSize capacity allocation t ≤ volSize capacity allocation t'

/-- What it takes for the blocks of two kinds to be in order. -/
def Ordered (host : SdcHost) (pfx : String) (pool : PoolInstance) (t t' : SdcRasdType) : Prop :=
  match pool.kind with
  | .mem => memSize host t ≤ memSize host t'
  | .proc => numProcs host t ≤ numProcs host t'
  | .net => pool.primordial ∨ ∀ amounts amounts', netAmounts host pfx t = .ok amounts →
      netAmounts host pfx t' = .ok amounts' → amounts.numNics ≤ amounts'.numNics
  | .disk => pool.primordial ∨ pfx = "LXC" ∨
      ∀ storage, host.storageNamed pool.name = some storage → VolumesInOrder storage t t'
  | .graphics | .input | .controller | .console => True

theorem get_setDiskProps (pfx : String) {domtype : DomainType} (hlxc : domtype ≠ .lxc)
    (id diskPath : String) (diskSize : UInt64)
    (emuType : UInt16) (readonly shareable : Bool) (cache : String) :
    (setDiskProps pfx domtype id diskPath diskSize emuType readonly shareable cache).get
      "VirtualQuantity" = if emuType = 0 ∨ emuType = 4 then some (.uint64 diskSize) else none := by
  unfold setDiskProps
  dsimp only
  rw [if_neg hlxc]
  by_cases hdisk : emuType = 0 ∨ emuType = 4
  · simp [hdisk]
  · simp [hdisk]
    rfl

theorem get_setNetProps (pfx : String) (t : SdcRasdType) (amounts : NetAmounts) (props : NetProps) :
    (setNetProps pfx t amounts props).get "VirtualQuantity" =
      some (.uint64 amounts.numNics) := by
  simp [setNetProps]

theorem diskDomains_ne_lxc {domtypes : List DomainType} (h : diskDomains pfx = some domtypes) :
    domtypes ≠ [] ∧ ∀ domtype ∈ domtypes, domtype ≠ .lxc := by
  unfold diskDomains at h
  split_ifs at h
  · cases h
    decide
  · cases h
    decide

theorem inOrder_volume_iff (hdomains : (diskDomains pfx).isSome) {storage : StorageView}
    {volname : String} {volume : VolumeView} (hvolume : storage.volumeNamed volname = some volume)
    (hpath : volume.info.isSome → volume.path.isSome) :
    InOrder (volumeTemplate pfx t storage volname).items
        (volumeTemplate pfx t' storage volname).items ↔
      ∀ capacity allocation, volume.info = some (capacity, allocation) →
        volSize capacity allocation t ≤ volSize capacity allocation t' := by
  -- without domains for disks there would be no template
  obtain ⟨domtypes, hdomains⟩ := Option.isSome_iff_exists.mp hdomains
  obtain ⟨hne, hlxc⟩ := diskDomains_ne_lxc hdomains
  unfold InOrder volumeTemplate availVolumeTemplate
  rw [hvolume]
  dsimp only
  -- a volume without sizes is left out under both labels
  cases hinfo : volume.info with
  | none => simp
  | some sizes =>
    obtain ⟨capacity, allocation⟩ := sizes
    rw [hinfo] at hpath
    obtain ⟨volPath, hpath⟩ := Option.isSome_iff_exists.mp (hpath rfl)
    rw [hpath, hdomains]
    dsimp only [items_add]
    rw [forall₂_map_map_iff]
    -- the amounts are the sizes that the label chooses
    have hle {domtype : DomainType} (hdomtype : domtype ∈ domtypes) :=
      quantityLe_iff
        (get_setDiskProps pfx (hlxc domtype hdomtype) t.id volPath
          (volSize capacity allocation t) 0 false false "none")
        (get_setDiskProps pfx (hlxc domtype hdomtype) t'.id volPath
          (volSize capacity allocation t') 0 false false "none")
    -- some domain has a template, and its amount is everyone's
    constructor
    · intro h capacity' allocation' heq
      cases heq
      obtain ⟨domtype, hdomtype⟩ := List.exists_mem_of_ne_nil _ hne
      exact (hle hdomtype).mp (h domtype hdomtype)
    · intro h domtype hdomtype
      exact (hle hdomtype).mpr (h capacity allocation rfl)

/-- Images that are made anew have no quantity. -/
theorem inOrder_newVolume (storage : StorageView) (units : Option String) :
    InOrder (newVolumeTemplateOf pfx t storage units).items
      (newVolumeTemplateOf pfx t' storage units).items := by
  unfold InOrder newVolumeTemplateOf
  cases storage.config with
  | none => exact .nil
  | some pool =>
    dsimp only
    split_ifs
    · exact .cons (quantityLe_of_none (by simp [newVolumeInst]; rfl)) .nil
    · exact .nil

/-- Drives have none. -/
theorem inOrder_cdromOrFloppy {emuType : UInt16} (hemu : ¬(emuType = 0 ∨ emuType = 4)) :
    InOrder (cdromOrFloppyTemplate pfx t emuType).items
      (cdromOrFloppyTemplate pfx t' emuType).items := by
  unfold InOrder cdromOrFloppyTemplate
  dsimp only
  -- drives have no amount
  cases hdomains : diskDomains pfx with
  | some domtypes =>
    refine forall₂_map_map_iff.mpr ?_
    intro domtype hdomtype
    apply quantityLe_of_none
    rw [get_setDiskProps pfx ((diskDomains_ne_lxc hdomains).2 domtype hdomtype), if_neg hemu]
  | none =>
    dsimp only
    split_ifs
    · exact .nil
    · exact .nil

theorem inOrder_storage_iff (hlxc : pfx ≠ "LXC") (hdomains : (diskDomains pfx).isSome)
    {storage : StorageView} (hreadable : Readable storage) (poolname : String) :
    InOrder (storageTemplate pfx t storage poolname).items
        (storageTemplate pfx t' storage poolname).items ↔ VolumesInOrder storage t t' := by
  obtain ⟨numvols, names, hnum, hnames, hvolumes⟩ := hreadable.volumes
  -- nothing has failed, so the parts follow one another
  have hnew (t : SdcRasdType) (units : Option String) :
      (newVolumeTemplateOf pfx t storage units).error = none :=
    (newVolume_offered_iff t storage units).mpr hreadable.config
  have hok (t : SdcRasdType) (name : String) (hname : name ∈ names) :
      (volumeTemplate pfx t storage name).error = none :=
    (volume_offered_iff hdomains t storage name).mpr (hvolumes name hname)
  have hdrives (t : SdcRasdType) : (cdromOrFloppyTemplate pfx t 1).error = none :=
    (cdromOrFloppy_offered_iff hlxc t 1).mpr hdomains
  -- the new volumes, the volumes, the drives
  have hsplit (t : SdcRasdType) : (storageTemplate pfx t storage poolname).items =
      ((newVolumeTemplateOf pfx t storage none).items ++
        (newVolumeTemplateOf pfx t storage (some "G")).items) ++
      ((names.flatMap fun name => (volumeTemplate pfx t storage name).items) ++
        ((cdromOrFloppyTemplate pfx t 1).items ++ (cdromOrFloppyTemplate pfx t 2).items)) := by
    unfold storageTemplate newVolumeTemplate volumeNames
    rw [hnum]
    dsimp only
    rw [hnames]
    dsimp only
    rw [andThen_of_none ((error_andThen_eq_none_iff _ _).mpr ⟨hnew t none, hnew t (some "G")⟩),
      andThen_of_none (hnew t none),
      andThen_of_none ((error_forEach_eq_none_iff _ _).mpr (hok t)), andThen_of_none (hdrives t),
      items_overrule, items_overrule, items_overrule, items_overrule, items_forEach (hok t)]
  -- only the parts with amounts have to be compared
  unfold InOrder
  rw [hsplit t, hsplit t',
    forall₂_append_iff (List.rel_append (alike_newVolume pfx t t' storage none).items
      (alike_newVolume pfx t t' storage (some "G")).items).length_eq,
    and_iff_right (List.rel_append (inOrder_newVolume storage none)
      (inOrder_newVolume storage (some "G")))]
  -- each part has as many templates under one label as under the other
  have hlength (name : String) (_ : name ∈ names) :
      (volumeTemplate pfx t storage name).items.length =
        (volumeTemplate pfx t' storage name).items.length :=
    (alike_volume pfx t t' storage name).items.length_eq
  have hflat : (names.flatMap fun name => (volumeTemplate pfx t storage name).items).length =
      (names.flatMap fun name => (volumeTemplate pfx t' storage name).items).length := by
    rw [List.length_flatMap, List.length_flatMap, List.map_congr_left hlength]
  rw [forall₂_append_iff hflat, and_iff_left (List.rel_append
    (inOrder_cdromOrFloppy (by decide)) (inOrder_cdromOrFloppy (by decide))),
    forall₂_flatMap_iff hlength]
  unfold VolumesInOrder
  -- volume by volume, each under its name
  constructor
  · intro h numvols' names' hnum' hnames' name hname volume hvolume
    obtain rfl : numvols = numvols' := Option.some.inj (hnum.symm.trans hnum')
    obtain rfl : names = names' := Option.some.inj (hnames.symm.trans hnames')
    obtain ⟨found, hfound, hpath⟩ := hvolumes name hname
    obtain rfl : found = volume := Option.some.inj (hfound.symm.trans hvolume)
    exact (inOrder_volume_iff hdomains hvolume hpath).mp (h name hname)
  · intro h name hname
    obtain ⟨volume, hvolume, hpath⟩ := hvolumes name hname
    exact (inOrder_volume_iff hdomains hvolume hpath).mpr
      (h numvols names hnum hnames name hname volume hvolume)

theorem inOrder_netTemplate_iff (hnics : ∃ nics, getMaxNics host pfx = .ok nics) :
    InOrder (netTemplate host pfx t).items (netTemplate host pfx t').items ↔
      ∀ amounts amounts', netAmounts host pfx t = .ok amounts →
        netAmounts host pfx t' = .ok amounts' → amounts.numNics ≤ amounts'.numNics := by
  -- the amounts are there for every label
  have hamounts (t : SdcRasdType) : ∃ amounts, netAmounts host pfx t = .ok amounts := by
    obtain ⟨nics, hnics⟩ := hnics
    unfold netAmounts
    cases t with
    | max =>
      rw [hnics]
      exact ⟨_, rfl⟩
    | _ => exact ⟨_, rfl⟩
  obtain ⟨amounts, h⟩ := hamounts t
  obtain ⟨amounts', h'⟩ := hamounts t'
  unfold InOrder netTemplate
  rw [h, h']
  dsimp only [items_add]
  rw [forall₂_map_map_iff]
  have hle (props : NetProps) := quantityLe_iff (get_setNetProps pfx t amounts props)
    (get_setNetProps pfx t' amounts' props)
  -- every template has the same amount
  constructor
  · intro hall a a' ha ha'
    cases ha
    cases ha'
    exact (hle _).mp (hall _ List.mem_cons_self)
  · intro hall props _
    exact (hle props).mpr (hall amounts amounts' rfl rfl)

theorem inOrder_of_none {l l' : List Instance} (hlength : l.length = l'.length)
    (h : ∀ inst ∈ l, inst.get "VirtualQuantity" = none) : InOrder l l' := by
  refine List.forall₂_iff_zip.mpr ⟨hlength, ?_⟩
  intro inst inst' hmem
  exact quantityLe_of_none (h inst (List.of_mem_zip hmem).1)

theorem inOrder_netPool :
    InOrder (netPoolTemplate pfx t).items (netPoolTemplate pfx t').items := by
  refine inOrder_of_none (sameTemplate_netPoolTemplate pfx t t').length_eq ?_
  intro inst hinst
  obtain ⟨forwardMode, -, hinst⟩ := List.mem_flatMap.mp hinst
  -- pools of networks have no amount
  have hprops (forwardDevice : Bool) :
      (netPoolProps pfx t forwardMode forwardDevice).get "VirtualQuantity" = none := by
    simp [netPoolProps]
    rfl
  unfold setNetPoolProps at hinst
  split at hinst
  · rw [List.mem_singleton.mp hinst]
    exact hprops false
  · obtain hinst | hinst := List.mem_pair.mp hinst
    · rw [hinst]
      exact hprops false
    · rw [hinst]
      exact hprops true

theorem inOrder_diskPool :
    InOrder (diskPoolTemplate pfx t).items (diskPoolTemplate pfx t').items := by
  refine forall₂_map_map_iff.mpr ?_
  intro props _
  apply quantityLe_of_none
  unfold setDiskPoolProps
  cases props.devPath with
  | none =>
    simp
    rfl
  | some devPath =>
    simp
    rfl

theorem inOrder_disk_iff (h : Offered host pfx pool) (hkind : pool.kind = .disk)
    (hprimordial : ¬pool.primordial) (hname : scanPoolName id = some pool.name) :
    InOrder (diskTemplate host pfx t id).items (diskTemplate host pfx t' id).items ↔
      pfx = "LXC" ∨
        ∀ storage, host.storageNamed pool.name = some storage → VolumesInOrder storage t t' := by
  unfold Offered at h
  rw [hkind] at h
  dsimp only at h
  rw [or_iff_right hprimordial] at h
  unfold diskTemplate
  -- a container's disk has no amount
  by_cases hlxc : pfx = "LXC"
  · rw [if_pos hlxc, if_pos hlxc]
    refine iff_of_true (.cons (quantityLe_of_none ?_) .nil) (.inl hlxc)
    simp [setDiskProps]
    rfl
  · rw [or_iff_right hlxc] at h
    -- the storage is there, as nothing has failed
    obtain ⟨hdomains, storage, hstorage, hreadable⟩ := h
    rw [if_neg hlxc, if_neg hlxc, hname, or_iff_right hlxc]
    dsimp only
    rw [hstorage]
    dsimp only
    rw [inOrder_storage_iff hlxc hdomains hreadable]
    constructor
    · intro horder storage' hstorage'
      obtain rfl : storage = storage' := Option.some.inj hstorage'
      exact horder
    · intro horder
      exact horder storage rfl

/-- **When two blocks are in order.** -/
theorem inOrder_block_iff (hpool : getPoolByName host.view id = some pool)
    (h : Offered host pfx pool) :
    InOrder (block host pfx id pool.kind t) (block host pfx id pool.kind t') ↔
      Ordered host pfx pool t t' := by
  obtain ⟨-, hname⟩ := kind_and_name_of_getPoolByName hpool
  -- the pool id that is set last is not the amount
  have hset : InOrder (block host pfx id pool.kind t) (block host pfx id pool.kind t') ↔
      InOrder (templatesOf host pfx id pool.kind t).items
        (templatesOf host pfx id pool.kind t').items := by
    unfold InOrder block
    rw [List.forall₂_map_left_iff, List.forall₂_map_right_iff]
    simp only [quantityLe_set_iff]
  rw [hset]
  unfold Ordered
  -- by the kind of the pool
  cases hkind : pool.kind with
  -- one template, with the memory of the label
  | mem =>
    change List.Forall₂ _ [_] [_] ↔ _
    rw [List.forall₂_cons, and_iff_left List.Forall₂.nil]
    exact quantityLe_iff (by simp [memTemplate]) (by simp [memTemplate])
  -- one, with the number of processors
  | proc =>
    have hget (t : SdcRasdType) : (procTemplate host pfx t).get "VirtualQuantity" =
        some (.uint64 (numProcs host t)) := by
      unfold procTemplate
      dsimp only
      split_ifs <;> simp
    change List.Forall₂ _ [_] [_] ↔ _
    rw [List.forall₂_cons, and_iff_left List.Forall₂.nil]
    exact quantityLe_iff (hget t) (hget t')
  -- the parent pool has no amounts, and interfaces have the label's
  | net =>
    change InOrder (netDevOrPoolTemplate host pfx t id).items
      (netDevOrPoolTemplate host pfx t' id).items ↔ _
    unfold Offered at h
    rw [hkind] at h
    dsimp only at h
    unfold netDevOrPoolTemplate
    rw [hpool]
    dsimp only
    by_cases hprimordial : pool.primordial
    · rw [if_pos hprimordial, if_pos hprimordial]
      exact iff_of_true inOrder_netPool (.inl hprimordial)
    · rw [if_neg hprimordial, if_neg hprimordial, or_iff_right hprimordial]
      rw [or_iff_right hprimordial] at h
      exact inOrder_netTemplate_iff h
  -- nor has the parent pool of the disks
  | disk =>
    change InOrder (diskResTemplate host pfx t id).items
      (diskResTemplate host pfx t' id).items ↔ _
    unfold diskResTemplate
    rw [hpool]
    dsimp only
    by_cases hprimordial : pool.primordial
    · rw [if_pos hprimordial, if_pos hprimordial]
      exact iff_of_true inOrder_diskPool (.inl hprimordial)
    · rw [if_neg hprimordial, if_neg hprimordial, or_iff_right hprimordial]
      exact inOrder_disk_iff h hkind hprimordial hname
  | graphics =>
    refine iff_of_true (inOrder_of_none ?_ ?_) trivial
    · exact (sameTemplate_templatesOf host pfx t t' rfl rfl).length_eq
    · intro inst hinst
      obtain ⟨⟨type, i, js⟩, -, hinst⟩ := List.mem_flatMap.mp hinst
      obtain ⟨j, -, rfl⟩ := List.mem_map.mp hinst
      simp [setGraphicsProps]
      rfl
  -- the remaining templates have none
  | input =>
    change InOrder (inputTemplate pfx t).items (inputTemplate pfx t').items ↔ _
    unfold inputTemplate
    cases inputsOf pfx with
    | none => exact iff_of_true .nil trivial
    | some inputs =>
      refine iff_of_true (forall₂_map_map_iff.mpr ?_) trivial
      rintro ⟨type, bus, caption⟩ _
      apply quantityLe_of_none
      simp [setInputProps]
      rfl
  | controller => exact iff_of_true .nil trivial
  | console => exact iff_of_true .nil trivial

end Order

/-! ### Ranges -/

/-- The default lies between the smallest and the largest value. The defaults are constants, which
a small host does not reach, and for a volume the default is what is allocated of it. -/
def DefaultsFit (host : SdcHost) (pfx : String) (pool : PoolInstance) : Prop :=
  match pool.kind with
  | .mem => (256 : UInt64) <<< 10 ≤ host.maxMem
  | .proc => host.maxVcpus ≠ some 0
  | .net => pool.primordial ∨ getMaxNics host pfx ≠ .ok 0
  | .disk => pool.primordial ∨ pfx = "LXC" ∨
      ∀ storage, host.storageNamed pool.name = some storage →
        ∀ numvols names, storage.numOfVolumes = some numvols →
          storage.listVolumes numvols = some names →
          ∀ name ∈ names, ∀ volume, storage.volumeNamed name = some volume →
            ∀ capacity allocation, volume.info = some (capacity, allocation) →
              (2000 ≤ allocation ∨ capacity ≤ allocation) ∧ allocation ≤ capacity
  | .graphics | .input | .controller | .console => True

section Ranges

variable {host : SdcHost} {pfx id : String} {pool : PoolInstance}

theorem zero_le_uint64 (n : UInt64) : 0 ≤ n :=
  UInt64.le_iff_toNat_le.mpr (Nat.zero_le n.toNat)

theorem one_le_uint64_iff (n : UInt64) : 1 ≤ n ↔ n ≠ 0 := by
  rw [UInt64.le_iff_toNat_le, ne_eq, ← UInt64.toNat_inj]
  exact Nat.one_le_iff_ne_zero

/-- The smallest size of a volume is its capacity, if it is small. -/
theorem volSize_min_le (capacity allocation : UInt64) (n : UInt64) :
    volSize capacity allocation .min ≤ n ↔ 2000 ≤ n ∨ capacity ≤ n := by
  change (if 2000 > capacity then capacity else 2000) ≤ n ↔ _
  simp only [UInt64.le_iff_toNat_le, gt_iff_lt, UInt64.lt_iff_toNat_lt]
  split_ifs with hsmall
  · omega
  · omega

theorem ordered_min_max_iff (host : SdcHost) (pfx : String) (pool : PoolInstance) :
    Ordered host pfx pool .min .max ↔ (pool.kind = .mem → (64 : UInt64) <<< 10 ≤ host.maxMem) := by
  unfold Ordered
  -- the least is 0 for all but memory
  cases hkind : pool.kind with
  | mem => exact ⟨fun h _ => h, fun h => h rfl⟩
  | proc => exact iff_of_true (zero_le_uint64 _) (by simp)
  | net =>
    refine iff_of_true (.inr ?_) (by simp)
    intro amounts amounts' h _
    cases h
    exact zero_le_uint64 _
  -- a volume's least is never above its capacity
  | disk =>
    refine iff_of_true (.inr (.inr ?_)) (by simp)
    intro storage _ numvols names _ _ name _ volume _ capacity allocation _
    exact (volSize_min_le capacity allocation capacity).mpr (.inr UInt64.le_rfl)
  | _ => exact iff_of_true trivial (by simp)

theorem netAmounts_max_of_ok {nics : UInt64} (hnics : getMaxNics host pfx = .ok nics) :
    netAmounts host pfx .max = .ok { numNics := nics } := by
  unfold netAmounts
  rw [hnics]
  rfl

theorem ordered_default_iff (h : Offered host pfx pool) :
    Ordered host pfx pool .min .default ∧ Ordered host pfx pool .default .max ↔
      DefaultsFit host pfx pool := by
  unfold Offered at h
  unfold Ordered DefaultsFit
  -- the default lies between least and greatest when the host has that much
  cases hkind : pool.kind with
  | mem =>
    have hmin : (64 : UInt64) <<< 10 ≤ (256 : UInt64) <<< 10 := by decide
    exact and_iff_right hmin
  -- one processor is the default
  | proc =>
    change (0 : UInt64) ≤ 1 ∧ 1 ≤ host.maxVcpus.getD 1 ↔ _
    rw [and_iff_right (zero_le_uint64 _), one_le_uint64_iff]
    cases host.maxVcpus with
    | none => simp
    | some n => simp
  -- and one interface
  | net =>
    rw [hkind] at h
    dsimp only at h ⊢
    by_cases hprimordial : pool.primordial
    · simp [hprimordial]
    · rw [or_iff_right hprimordial] at h
      obtain ⟨nics, hnics⟩ := h
      rw [or_iff_right hprimordial, or_iff_right hprimordial, or_iff_right hprimordial, hnics]
      constructor
      · rintro ⟨-, hmax⟩ heq
        have hle := hmax _ _ rfl (netAmounts_max_of_ok hnics)
        exact (one_le_uint64_iff nics).mp hle (Except.ok.inj heq)
      · intro hne
        refine ⟨?_, ?_⟩
        · intro amounts amounts' hmin _
          cases hmin
          exact zero_le_uint64 _
        · intro amounts amounts' hdefault hmax
          rw [netAmounts_max_of_ok hnics] at hmax
          cases hdefault
          cases hmax
          refine (one_le_uint64_iff nics).mpr ?_
          rintro rfl
          exact hne rfl
  -- for a volume the default is its allocation
  | disk =>
    dsimp only
    by_cases hprimordial : pool.primordial
    · simp [hprimordial]
    by_cases hlxc : pfx = "LXC"
    · simp [hlxc]
    rw [or_iff_right hprimordial, or_iff_right hlxc, or_iff_right hprimordial, or_iff_right hlxc,
      or_iff_right hprimordial, or_iff_right hlxc]
    constructor
    · rintro ⟨hmin, hmax⟩ storage hstorage numvols names hnum hnames name hname volume hvolume
        capacity allocation hinfo
      refine ⟨(volSize_min_le capacity allocation allocation).mp ?_, ?_⟩
      · exact hmin storage hstorage numvols names hnum hnames name hname volume hvolume capacity
          allocation hinfo
      · exact hmax storage hstorage numvols names hnum hnames name hname volume hvolume capacity
          allocation hinfo
    -- and back, in the two comparisons
    · intro hfit
      refine ⟨?_, ?_⟩
      · intro storage hstorage numvols names hnum hnames name hname volume hvolume capacity
          allocation hinfo
        exact (volSize_min_le capacity allocation allocation).mpr (hfit storage hstorage numvols
          names hnum hnames name hname volume hvolume capacity allocation hinfo).1
      · intro storage hstorage numvols names hnum hnames name hname volume hvolume capacity
          allocation hinfo
        exact (hfit storage hstorage numvols names hnum hnames name hname volume hvolume capacity
          allocation hinfo).2
  | _ => exact iff_of_true ⟨trivial, trivial⟩ trivial

/-- **The templates of a resource as a range**: the smallest quantities are at most the largest
ones, save for memory on a host that allows hardly any, and the defaults lie between them if and
only if `DefaultsFit`. The blocks have the same templates in the same places, so they are compared
place by place (`inOrder_block_iff`). -/
theorem allocCapToRasd_range_iff (host : SdcHost) (pfx id : String)
    (h : (allocCapToRasd host pfx id).error = none) :
    ∃ pool, getPoolByName host.view id = some pool ∧
      (allocCapToRasd host pfx id).items = sdcRasdTypes.flatMap (block host pfx id pool.kind) ∧
      (InOrder (block host pfx id pool.kind .min) (block host pfx id pool.kind .max) ↔
        (pool.kind = .mem → (64 : UInt64) <<< 10 ≤ host.maxMem)) ∧
      (InOrder (block host pfx id pool.kind .min) (block host pfx id pool.kind .default) ∧
          InOrder (block host pfx id pool.kind .default) (block host pfx id pool.kind .max) ↔
        DefaultsFit host pfx pool) := by
  obtain ⟨pool, hcap, -, hall, hitems⟩ := allocCapToRasd_of_none h
  have hpool := getPoolByName_of_getAllocCapById hcap
  have hoffered := (templatesOf_offered_iff hpool).mp hall
  -- the blocks are compared place by place
  refine ⟨pool, hpool, hitems, ?_, ?_⟩
  · rw [inOrder_block_iff hpool hoffered, ordered_min_max_iff]
  · rw [inOrder_block_iff hpool hoffered, inOrder_block_iff hpool hoffered,
      ordered_default_iff hoffered]

/-- A volume of which a tenth is written: the smallest template is larger than the default. -/
theorem allocCapToRasd_range_images :
    ∃ pool, getPoolByName imagesHost.view "DiskPool/images" = some pool ∧
      (allocCapToRasd imagesHost "KVM" "DiskPool/images").items =
        sdcRasdTypes.flatMap (block imagesHost "KVM" "DiskPool/images" pool.kind) ∧
      (InOrder (block imagesHost "KVM" "DiskPool/images" pool.kind .min)
          (block imagesHost "KVM" "DiskPool/images" pool.kind .max) ↔
        (pool.kind = .mem → (64 : UInt64) <<< 10 ≤ imagesHost.maxMem)) ∧
      (InOrder (block imagesHost "KVM" "DiskPool/images" pool.kind .min)
            (block imagesHost "KVM" "DiskPool/images" pool.kind .default) ∧
          InOrder (block imagesHost "KVM" "DiskPool/images" pool.kind .default)
            (block imagesHost "KVM" "DiskPool/images" pool.kind .max) ↔
        DefaultsFit imagesHost "KVM" pool) :=
  allocCapToRasd_range_iff imagesHost "KVM" "DiskPool/images" (by decide +kernel)

end Ranges

end LibvirtCim.SettingsDefineCapabilities
