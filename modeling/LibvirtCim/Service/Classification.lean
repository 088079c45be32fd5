import LibvirtCim.Service.System

/-!
# Sorting the settings of a new system

What `classify_resources` makes of the devices of each type. A device that is listed comes from
one of the settings or was there before; `Listing` says which, by a list of devices with
the numbers of their settings. `sorted_classifyResources` follows the numbers through
the rounds: a setting stays represented until a later one takes its place, which happens to the
types of which there is one device and to those whose devices are told apart by their ids.
-/

open Framework LibvirtCim.Device LibvirtCim.Rasd

namespace LibvirtCim.Service

variable {host : Host} {domtype : DomainType} {kind : DevKind}

/-! ### The devices of a type -/

/-- The setting is for a device of the type. -/
def isOf (kind : DevKind) (inst : Instance) : Bool :=
  resTypeFromRasdClassname inst = some (.dev kind)

/-- No two devices of the list have one id. -/
def DistinctDevices {α : Type} (list : List (VirtDevice α)) : Prop :=
  list.Pairwise fun a b => sameId a.id b.id = false

/-- `rasd_to_vdev` makes the device of a setting: from nothing, unless there is one device of the
type. -/
def Translates (host : Host) (domtype : DomainType) (kind : DevKind) (done : List Instance) (i : ℕ)
    (dev : VirtDevice kind.Dev) : Prop :=
  ∃ inst base, done[i]? = some inst ∧ isOf kind inst ∧
    (isSingle kind = false → base = { dev := kind.zero }) ∧
    rasdToVdev host domtype inst kind base = .ok dev

/-- A later setting has taken the place of a setting: there is one device of the type, or the
later device has the id of the earlier one. Disks and consoles are not replaced. -/
def Superseded (host : Host) (domtype : DomainType) (kind : DevKind) (done : List Instance)
    (i : ℕ) : Prop :=
  ∃ j, i < j ∧ (∃ inst, done[j]? = some inst ∧ isOf kind inst) ∧
    (isSingle kind = true ∨ kind ≠ .disk ∧ kind ≠ .console ∧ ∃ dev dev',
      Translates host domtype kind done i dev ∧ Translates host domtype kind done j dev' ∧
        sameId dev.id dev'.id)

/-- Devices, those of a setting with its number. -/
abbrev Numbered (α : Type) : Type := List (Option ℕ × VirtDevice α)

/-- **The settings that a list represents.** No setting is listed twice, a device with a number is
that of its setting, and the others were there before. -/
structure Numbering (host : Host) (domtype : DomainType) (kind : DevKind)
    (old : List (VirtDevice kind.Dev)) (done : List Instance) (numbered : Numbered kind.Dev) :
    Prop where
  once : (numbered.filterMap Prod.fst).Nodup
  translated : ∀ i dev, (some i, dev) ∈ numbered → Translates host domtype kind done i dev
  kept : ∀ dev, (none, dev) ∈ numbered → dev ∈ old

/-- Besides, a setting that is not listed was superseded. -/
structure Listing (host : Host) (domtype : DomainType) (kind : DevKind)
    (old : List (VirtDevice kind.Dev)) (done : List Instance) (numbered : Numbered kind.Dev) :
    Prop extends Numbering host domtype kind old done numbered where
  listed : ∀ i inst, done[i]? = some inst → isOf kind inst →
    (∃ dev, (some i, dev) ∈ numbered) ∨ Superseded host domtype kind done i

/-! ### One more setting -/

section Step

variable {old : List (VirtDevice kind.Dev)} {done : List Instance} {inst : Instance}
  {numbered : Numbered kind.Dev}

theorem lt_of_getElem? {i : ℕ} {inst : Instance} (h : done[i]? = some inst) : i < done.length :=
  (List.getElem?_eq_some_iff.mp h).1

theorem getElem?_append_one {i : ℕ} {inst' : Instance} (h : done[i]? = some inst') :
    (done ++ [inst])[i]? = some inst' := by
  rw [List.getElem?_append_left (lt_of_getElem? h)]
  exact h

theorem Translates.append {i : ℕ} {dev : VirtDevice kind.Dev}
    (h : Translates host domtype kind done i dev) :
    Translates host domtype kind (done ++ [inst]) i dev := by
  obtain ⟨inst', base, hget, hof, hbase, hdev⟩ := h
  exact ⟨inst', base, getElem?_append_one hget, hof, hbase, hdev⟩

theorem Superseded.append {i : ℕ} (h : Superseded host domtype kind done i) :
    Superseded host domtype kind (done ++ [inst]) i := by
  obtain ⟨j, hij, ⟨inst', hget, hof⟩, hwhy⟩ := h
  refine ⟨j, hij, ⟨inst', getElem?_append_one hget, hof⟩, hwhy.imp_right ?_⟩
  rintro ⟨hdisk, hconsole, dev, dev', hdev, hdev', hid⟩
  exact ⟨hdisk, hconsole, dev, dev', hdev.append, hdev'.append, hid⟩

/-- The number of a setting that has been represented. -/
theorem Listing.lt_length (h : Listing host domtype kind old done numbered) {i : ℕ}
    {dev : VirtDevice kind.Dev} (hmem : (some i, dev) ∈ numbered) : i < done.length := by
  obtain ⟨inst, base, hget, -⟩ := h.translated i dev hmem
  exact lt_of_getElem? hget

/-- The next number is not in the list. -/
theorem Listing.length_not_mem (h : Listing host domtype kind old done numbered) :
    done.length ∉ numbered.filterMap Prod.fst := by
  intro hmem
  obtain ⟨⟨tag, dev⟩, hentry, htag⟩ := List.mem_filterMap.mp hmem
  cases htag
  exact Nat.lt_irrefl _ (h.lt_length hentry)

/-- A setting among the done and one more is one of the done, or the last. -/
theorem getElem?_append_cases {i : ℕ} {inst' : Instance}
    (h : (done ++ [inst])[i]? = some inst') :
    done[i]? = some inst' ∨ i = done.length ∧ inst' = inst := by
  obtain hlt | hge := Nat.lt_or_ge i done.length
  · rw [List.getElem?_append_left hlt] at h
    exact .inl h
  · rw [List.getElem?_append_right hge] at h
    obtain ⟨hzero, hinst⟩ := List.getElem?_eq_some_iff.mp h
    rw [List.length_singleton] at hzero
    have hi : i = done.length := by omega
    subst hi
    refine .inr ⟨rfl, ?_⟩
    simpa using hinst.symm

/-- A setting for another type changes nothing. -/
theorem Listing.other (h : Listing host domtype kind old done numbered)
    (hof : isOf kind inst = false) :
    Listing host domtype kind old (done ++ [inst]) numbered where
  once := h.once
  translated i dev hmem := (h.translated i dev hmem).append
  kept := h.kept
  listed i inst' hget hof' := by
    obtain hdone | ⟨-, rfl⟩ := getElem?_append_cases hget
    · exact (h.listed i inst' hdone hof').imp_right Superseded.append
    · rw [hof] at hof'
      cases hof'

/-- The device of the last setting. -/
theorem translates_last {base dev : VirtDevice kind.Dev} (hof : isOf kind inst)
    (hbase : isSingle kind = false → base = { dev := kind.zero })
    (hdev : rasdToVdev host domtype inst kind base = .ok dev) :
    Translates host domtype kind (done ++ [inst]) done.length dev :=
  ⟨inst, base, by simp, hof, hbase, hdev⟩

/-- The device of a setting becomes the only one. -/
theorem Listing.single (hsingle : isSingle kind = true) {base dev : VirtDevice kind.Dev}
    (hof : isOf kind inst) (hdev : rasdToVdev host domtype inst kind base = .ok dev) :
    Listing host domtype kind old (done ++ [inst]) [(some done.length, dev)] where
  once := by simp
  translated i dev' hmem := by
    obtain ⟨⟨⟩, rfl⟩ := Prod.mk.inj (List.mem_singleton.mp hmem)
    refine translates_last hof (fun hnot => ?_) hdev
    rw [hsingle] at hnot
    cases hnot
  kept dev' hmem := by
    obtain ⟨⟨⟩, -⟩ := Prod.mk.inj (List.mem_singleton.mp hmem)
  listed i inst' hget hof' := by
    obtain hdone | ⟨rfl, -⟩ := getElem?_append_cases hget
    · exact .inr ⟨done.length, lt_of_getElem? hdone, ⟨inst, by simp, hof⟩, .inl hsingle⟩
    · exact .inl ⟨dev, List.mem_singleton_self _⟩

/-- The device of a setting comes to the others. -/
theorem Listing.append (h : Listing host domtype kind old done numbered)
    {base dev : VirtDevice kind.Dev} (hof : isOf kind inst)
    (hbase : isSingle kind = false → base = { dev := kind.zero })
    (hdev : rasdToVdev host domtype inst kind base = .ok dev) :
    Listing host domtype kind old (done ++ [inst]) (numbered ++ [(some done.length, dev)]) where
  -- the new number is beyond all that were given
  once := by
    rw [List.filterMap_append, List.nodup_append]
    refine ⟨h.once, by simp, ?_⟩
    rintro i hi j hj rfl
    obtain rfl : i = done.length := by simpa using hj
    exact h.length_not_mem hi
  -- an entry of before is the translation of the same instance, the last one of the new
  translated i dev' hmem := by
    obtain hmem | hlast := List.mem_append.mp hmem
    · exact (h.translated i dev' hmem).append
    · obtain ⟨⟨⟩, rfl⟩ := Prod.mk.inj (List.mem_singleton.mp hlast)
      exact translates_last hof hbase hdev
  kept dev' hmem := by
    obtain hmem | hlast := List.mem_append.mp hmem
    · exact h.kept dev' hmem
    · obtain ⟨⟨⟩, -⟩ := Prod.mk.inj (List.mem_singleton.mp hlast)
  -- an instance of before stays listed, or is still superseded, the new one is the last entry
  listed i inst' hget hof' := by
    obtain hdone | ⟨rfl, -⟩ := getElem?_append_cases hget
    · refine (h.listed i inst' hdone hof').imp ?_ Superseded.append
      rintro ⟨dev', hmem⟩
      exact ⟨dev', List.mem_append_left _ hmem⟩
    · exact .inl ⟨dev, List.mem_append_right _ (List.mem_singleton_self _)⟩

/-- The device of a setting takes the place of one with its id. -/
theorem Listing.replace {before after : Numbered kind.Dev}
    {entry : Option ℕ × VirtDevice kind.Dev}
    (h : Listing host domtype kind old done (before ++ entry :: after))
    {dev : VirtDevice kind.Dev} (hof : isOf kind inst)
    (hdev : rasdToVdev host domtype inst kind { dev := kind.zero } = .ok dev)
    (hreplaces : ∀ i, entry.1 = some i →
      kind ≠ .disk ∧ kind ≠ .console ∧ sameId entry.2.id dev.id) :
    Listing host domtype kind old (done ++ [inst])
      (before ++ (some done.length, dev) :: after) where
  -- the number of the replaced entry goes out, the new one goes in at its place
  once := by
    have hnew := h.length_not_mem
    have honce := h.once
    rw [List.filterMap_append] at hnew honce ⊢
    rw [List.filterMap_cons_some
        (show Prod.fst (some done.length, dev) = some done.length from rfl),
      List.nodup_middle, List.nodup_cons]
    cases htag : entry.1 with
    | none =>
      rw [List.filterMap_cons_none htag] at hnew honce
      exact ⟨hnew, honce⟩
    | some i =>
      rw [List.filterMap_cons_some htag] at hnew honce
      rw [List.nodup_middle, List.nodup_cons] at honce
      refine ⟨fun hmem => hnew ?_, honce.2⟩
      obtain hmem | hmem := List.mem_append.mp hmem
      · exact List.mem_append_left _ hmem
      · exact List.mem_append_right _ (List.mem_cons_of_mem _ hmem)
  -- the new entry translates the new instance, all others are as they were
  translated i dev' hmem := by
    obtain hmem | hmem := List.mem_append.mp hmem
    · exact (h.translated i dev' (List.mem_append_left _ hmem)).append
    · obtain heq | hmem := List.mem_cons.mp hmem
      · obtain ⟨⟨⟩, rfl⟩ := Prod.mk.inj heq
        exact translates_last hof (fun _ => rfl) hdev
      · exact (h.translated i dev'
          (List.mem_append_right _ (List.mem_cons_of_mem _ hmem))).append
  kept dev' hmem := by
    obtain hmem | hmem := List.mem_append.mp hmem
    · exact h.kept dev' (List.mem_append_left _ hmem)
    · obtain heq | hmem := List.mem_cons.mp hmem
      · obtain ⟨⟨⟩, -⟩ := Prod.mk.inj heq
      · exact h.kept dev' (List.mem_append_right _ (List.mem_cons_of_mem _ hmem))
  -- of what was listed before, only the replaced entry is gone
  listed i inst' hget hof' := by
    have hlast : Translates host domtype kind (done ++ [inst]) done.length dev :=
      translates_last hof (fun _ => rfl) hdev
    obtain hdone | ⟨rfl, -⟩ := getElem?_append_cases hget
    · obtain ⟨dev', hmem⟩ | hsuper := h.listed i inst' hdone hof'
      · obtain hmem | hmem := List.mem_append.mp hmem
        · exact .inl ⟨dev', List.mem_append_left _ hmem⟩
        · obtain rfl | hmem := List.mem_cons.mp hmem
          · -- it is the one that is replaced
            obtain ⟨hdisk, hconsole, hid⟩ := hreplaces i rfl
            have hold : Translates host domtype kind (done ++ [inst]) i dev' :=
              (h.translated i dev' (List.mem_append_right _ List.mem_cons_self)).append
            exact .inr ⟨done.length, lt_of_getElem? hdone, ⟨inst, by simp, hof⟩,
              .inr ⟨hdisk, hconsole, dev', dev, hold, hlast, hid⟩⟩
          · exact .inl ⟨dev', List.mem_append_right _ (List.mem_cons_of_mem _ hmem)⟩
      · exact .inr hsuper.append
    · exact .inl ⟨dev, List.mem_append_right _ List.mem_cons_self⟩

end Step

/-! ### One round -/

/-- What `add_device_nodup` does: the device comes to others with other ids, or takes the place of
the first one with its id, which is on another target. -/
theorem addDeviceNodup_cases {dev : VirtDevice kind.Dev} {list list' : List (VirtDevice kind.Dev)}
    (h : addDeviceNodup dev list = .ok list') :
    (list' = list ++ [dev] ∧ ∀ ptr ∈ list, sameId ptr.id dev.id = false) ∨
      ∃ before ptr after, list = before ++ ptr :: after ∧ list' = before ++ dev :: after ∧
        sameTarget ptr.dev dev.dev = false ∧ sameId ptr.id dev.id = true := by
  -- the list is walked to the first entry that has the target or the id
  induction list generalizing list' with
  | nil =>
    cases h
    exact .inl ⟨rfl, by simp⟩
  | cons ptr list ih =>
    rw [addDeviceNodup] at h
    -- the same target is an error, whatever the ids say
    split at h
    · cases h
    · next htarget =>
      -- the same id replaces the entry in place
      split at h
      · next hid =>
        cases h
        exact .inr ⟨[], ptr, list, rfl, rfl, by simpa using htarget, hid⟩
      -- else the entry stays in front of what the rest becomes
      · next hid =>
        obtain ⟨rest, hrest, rfl⟩ := map_eq_ok h
        obtain ⟨rfl, hother⟩ | ⟨before, ptr', after, rfl, rfl, htarget', hid'⟩ := ih hrest
        · refine .inl ⟨rfl, ?_⟩
          rw [List.forall_mem_cons]
          exact ⟨by simpa using hid, hother⟩
        · exact .inr ⟨ptr :: before, ptr', after, rfl, rfl, htarget', hid'⟩

/-- A device that takes the place of one with its id changes nothing of which ids are apart. -/
theorem DistinctDevices.replace {before after : List (VirtDevice kind.Dev)}
    {ptr dev : VirtDevice kind.Dev} (hid : sameId ptr.id dev.id = true)
    (hdistinct : DistinctDevices (before ++ ptr :: after)) :
    DistinctDevices (before ++ dev :: after) := by
  -- what does not have the id of the old device does not have that of the new one
  have hleft (a : VirtDevice kind.Dev) (ha : sameId a.id ptr.id = false) :
      sameId a.id dev.id = false := by
    rw [Bool.eq_false_iff] at ha ⊢
    exact fun h => ha (sameId_trans h (sameId_symm hid))
  have hright (b : VirtDevice kind.Dev) (hb : sameId ptr.id b.id = false) :
      sameId dev.id b.id = false := by
    rw [Bool.eq_false_iff] at hb ⊢
    exact fun h => hb (sameId_trans hid h)
  obtain ⟨hbefore, hafter, hcross⟩ := List.pairwise_append.mp hdistinct
  obtain ⟨hptr, hafter⟩ := List.pairwise_cons.mp hafter
  refine List.pairwise_append.mpr ⟨hbefore, List.pairwise_cons.mpr ⟨fun b hb => ?_, hafter⟩, ?_⟩
  · exact hright b (hptr b hb)
  · intro a ha b hb
    obtain rfl | hb := List.mem_cons.mp hb
    · exact hleft a (hcross a ha ptr List.mem_cons_self)
    · exact hcross a ha b (List.mem_cons_of_mem _ hb)

/-- **A device that is added keeps the ids apart**, if they were, and mends nothing. -/
theorem distinctDevices_addDeviceNodup {dev : VirtDevice kind.Dev}
    {list list' : List (VirtDevice kind.Dev)} (h : addDeviceNodup dev list = .ok list') :
    DistinctDevices list' ↔ DistinctDevices list := by
  obtain ⟨rfl, hother⟩ | ⟨before, ptr, after, rfl, rfl, -, hid⟩ := addDeviceNodup_cases h
  · refine ⟨fun hdistinct => (List.pairwise_append.mp hdistinct).1, fun hdistinct => ?_⟩
    refine List.pairwise_append.mpr ⟨hdistinct, List.pairwise_singleton _ _, ?_⟩
    intro a ha b hb
    rw [List.mem_singleton.mp hb]
    exact hother a ha
  · exact ⟨DistinctDevices.replace (sameId_symm hid), DistinctDevices.replace hid⟩

/-- A disk has its target as its id. -/
theorem id_of_rasdToVdev_disk {inst : Instance} {base dev : VirtDevice DiskDevice}
    (h : rasdToVdev host domtype inst .disk base = .ok dev) : dev.id = dev.dev.virtualDev := by
  obtain ⟨set, hset, rfl⟩ := rasdToVdev_ok h
  -- a container's disk and a machine's disk are translated by different functions
  split at hset
  · have hlxc : lxcDiskRasdToVdev inst base = .ok set := hset
    unfold lxcDiskRasdToVdev at hlxc
    -- the errors of the translation give no disk
    split at hlxc
    · cases hlxc
    · split at hlxc
      · cases hlxc
      · cases hlxc
        rfl
  · have hdisk : diskRasdToVdev host inst = .ok set := hset
    unfold diskRasdToVdev at hdisk
    split at hdisk
    · cases hdisk
    -- the disk is named last, by the target it was given, after its source and address
    · obtain ⟨⟨source, diskType⟩, -, hdisk⟩ := bind_eq_ok hdisk
      dsimp only at hdisk
      split at hdisk
      · cases hdisk
      · obtain ⟨address, -, hdisk⟩ := bind_eq_ok hdisk
        cases hdisk
        rfl

/-- A disk that comes from a setting is not replaced: it would be on the target of the other. -/
theorem ne_disk_of_replaced {done : List Instance} {i : ℕ} {ptr dev : VirtDevice kind.Dev}
    {inst : Instance} {base : VirtDevice kind.Dev}
    (hptr : Translates host domtype kind done i ptr)
    (hdev : rasdToVdev host domtype inst kind base = .ok dev)
    (htarget : sameTarget ptr.dev dev.dev = false) (hid : sameId ptr.id dev.id = true) :
    kind ≠ .disk := by
  rintro rfl
  obtain ⟨inst', base', -, -, -, hptr⟩ := hptr
  rw [id_of_rasdToVdev_disk hptr, id_of_rasdToVdev_disk hdev] at hid
  have hsame : @sameTarget .disk ptr.dev dev.dev =
      sameId ptr.dev.virtualDev dev.dev.virtualDev := rfl
  rw [hsame, hid] at htarget
  cases htarget

/-- The devices of a type after one round. -/
theorem Listing.addDevice {old : List (VirtDevice kind.Dev)} {done : List Instance}
    {inst : Instance} {numbered : Numbered kind.Dev}
    (h : Listing host domtype kind old done numbered) {dev : VirtDevice kind.Dev}
    (hof : isOf kind inst)
    (hdev : rasdToVdev host domtype inst kind { dev := kind.zero } = .ok dev)
    {list' : List (VirtDevice kind.Dev)}
    (hadd : addDevice dev (numbered.map Prod.snd) = .ok list') :
    ∃ numbered', numbered'.map Prod.snd = list' ∧
      Listing host domtype kind old (done ++ [inst]) numbered' := by
  -- a new entry at the end is what every branch but the replacement comes to
  have hend : ∃ numbered', numbered'.map Prod.snd = numbered.map Prod.snd ++ [dev] ∧
      Listing host domtype kind old (done ++ [inst]) numbered' :=
    ⟨numbered ++ [(some done.length, dev)], by simp, h.append hof (fun _ => rfl) hdev⟩
  unfold LibvirtCim.Service.addDevice at hadd
  -- consoles are appended without a look at the list
  split at hadd
  · cases hadd
    exact hend
  · next hconsole =>
    obtain ⟨rfl, -⟩ | ⟨before, ptr, after, hlist, rfl, htarget, hid⟩ := addDeviceNodup_cases hadd
    · exact hend
    -- the entry replaced is named in the list, so it is named in the numbered one
    · obtain ⟨before', rest, rfl, rfl, hrest⟩ := List.map_eq_append_iff.mp hlist
      obtain ⟨entry, after', rfl, rfl, rfl⟩ := List.map_eq_cons_iff.mp hrest
      refine ⟨before' ++ (some done.length, dev) :: after', by simp, h.replace hof hdev ?_⟩
      intro i hi
      have hmem : (some i, entry.2) ∈ before' ++ entry :: after' := by
        rw [← hi]
        exact List.mem_append_right _ List.mem_cons_self
      exact ⟨ne_disk_of_replaced (h.translated i entry.2 hmem) hdev htarget hid, hconsole, hid⟩

/-! ### All rounds -/

/-- The types whose devices are told apart by their ids. -/
def hasIds (kind : DevKind) : Bool :=
  !isSingle kind && kind ≠ .console

/-- What one round of `classify_resources` does to the devices of a type. -/
theorem classifyResource_list {domain domain' : Domain} {inst : Instance} {kind' : DevKind}
    (h : classifyResource host domain inst kind' = .ok domain') :
    domain'.type = domain.type ∧ (∀ kind, kind ≠ kind' → domain'.list kind = domain.list kind) ∧
      (isSingle kind' = true → ∃ base dev,
        rasdToVdev host domain.type inst kind' base = .ok dev ∧ domain'.list kind' = [dev]) ∧
      (isSingle kind' = false → ∃ dev,
        rasdToVdev host domain.type inst kind' { dev := kind'.zero } = .ok dev ∧
          addDevice dev (domain.list kind') = .ok (domain'.list kind')) := by
  -- a single device is overwritten, a listed one is added
  unfold classifyResource at h
  dsimp only at h
  split at h
  · next hsingle =>
    obtain ⟨dev, hdev, h⟩ := bind_eq_ok h
    -- the fields of the domain apart from the list are those of before
    cases h
    refine ⟨domain.type_setList kind' _, fun kind hne => domain.list_setList_of_ne hne _,
      fun _ => ⟨_, dev, hdev, domain.list_setList kind' _⟩, fun hnot => ?_⟩
    rw [hsingle] at hnot
    cases hnot
  · next hsingle =>
    obtain ⟨dev, hdev, h⟩ := bind_eq_ok h
    obtain ⟨list, hlist, h⟩ := bind_eq_ok h
    cases h
    refine ⟨domain.type_setList kind' _, fun kind hne => domain.list_setList_of_ne hne _,
      fun h => absurd h hsingle, fun _ => ⟨dev, hdev, ?_⟩⟩
    rw [domain.list_setList kind' list]
    exact hlist

/-- What holds of the devices of a type after some of the settings. -/
structure Sorted (host : Host) (kind : DevKind) (old : Domain) (done : List Instance)
    (domain : Domain) : Prop where
  type : domain.type = old.type
  listing : ∃ numbered, numbered.map Prod.snd = domain.list kind ∧
    Listing host old.type kind (old.list kind) done numbered
  distinct : hasIds kind = true →
    (DistinctDevices (domain.list kind) ↔ DistinctDevices (old.list kind))
  single : isSingle kind = true → (∃ inst ∈ done, isOf kind inst) → (domain.list kind).length = 1
  typed : ∀ inst ∈ done, resTypeFromRasdClassname inst ≠ none

/-- Before the first setting the devices are those that were there. -/
theorem Sorted.start (host : Host) (kind : DevKind) (old : Domain) :
    Sorted host kind old [] old where
  type := rfl
  listing := by
    -- the devices that were there carry no number
    refine ⟨(old.list kind).map fun dev => (none, dev), ?_, ⟨?_, ?_, ?_⟩, ?_⟩
    · rw [List.map_map]
      exact List.map_id _
    · have hnone : ((old.list kind).map fun dev => ((none : Option ℕ), dev)).filterMap Prod.fst =
          [] := by
        rw [List.filterMap_map]
        exact List.filterMap_eq_nil_iff.mpr fun _ _ => rfl
      rw [hnone]
      exact List.nodup_nil
    · intro i dev hmem
      obtain ⟨_, -, heq⟩ := List.mem_map.mp hmem
      cases heq
    · intro dev hmem
      obtain ⟨dev', hdev', heq⟩ := List.mem_map.mp hmem
      cases heq
      exact hdev'
    · intro i inst hget
      cases hget
  distinct _ := Iff.rfl
  single _ h := by
    -- nothing was classified, so no single device is due
    obtain ⟨inst, hinst, -⟩ := h
    cases hinst
  typed inst hinst := by cases hinst

theorem Sorted.round {old domain domain' : Domain} {done : List Instance} {inst : Instance}
    (h : Sorted host kind old done domain) {kind' : DevKind}
    (htype : resTypeFromRasdClassname inst = some (.dev kind'))
    (hround : classifyResource host domain inst kind' = .ok domain') :
    Sorted host kind old (done ++ [inst]) domain' := by
  obtain ⟨hsame, hother, hsingle, hadd⟩ := classifyResource_list hround
  obtain ⟨numbered, hnumbered, hlisting⟩ := h.listing
  rw [h.type] at hsame hsingle hadd
  -- the new instance is typed, as the ones before it
  have htyped : ∀ inst' ∈ done ++ [inst], resTypeFromRasdClassname inst' ≠ none := by
    intro inst' hmem
    obtain hmem | hlast := List.mem_append.mp hmem
    · exact h.typed inst' hmem
    · rw [List.mem_singleton.mp hlast, htype]
      exact Option.some_ne_none _
  by_cases hkind : kind = kind'
  · subst hkind
    have hof : isOf kind inst = true := decide_eq_true htype
    -- one slot is overwritten by each instance, a list takes them all in
    cases hone : isSingle kind with
    | true =>
      obtain ⟨base, dev, hdev, hlist⟩ := hsingle hone
      refine ⟨hsame, ⟨[(some done.length, dev)], hlist.symm, .single hone hof hdev⟩, ?_,
        fun _ _ => by rw [hlist, List.length_singleton], htyped⟩
      -- a single device has no id to repeat
      intro hids
      rw [hasIds, hone] at hids
      cases hids
    | false =>
      obtain ⟨dev, hdev, hlist⟩ := hadd hone
      -- the entry is added, or it replaces the one of its id, the distinctness goes with it
      refine ⟨hsame, ?_, fun hids => ?_, fun hsingle => ?_, htyped⟩
      · rw [← hnumbered] at hlist
        exact hlisting.addDevice hof hdev hlist
      · unfold addDevice at hlist
        rw [if_neg (by simpa [hasIds, hone] using hids)] at hlist
        exact (distinctDevices_addDeviceNodup hlist).trans (h.distinct hids)
      · rw [hone] at hsingle
        cases hsingle
  -- an instance of another kind leaves this list as it was
  · have hof : isOf kind inst = false := by
      refine decide_eq_false fun heq => hkind ?_
      rw [htype] at heq
      exact (RasdType.dev.inj (Option.some.inj heq)).symm
    rw [← hother kind hkind] at hnumbered
    refine ⟨hsame, ⟨numbered, hnumbered, hlisting.other hof⟩, ?_, fun hsingle hmet => ?_, htyped⟩
    · rw [hother kind hkind]
      exact h.distinct
    · rw [hother kind hkind]
      obtain ⟨inst', hmem, hof'⟩ := hmet
      obtain hmem | hlast := List.mem_append.mp hmem
      · exact h.single hsingle ⟨inst', hmem, hof'⟩
      · rw [List.mem_singleton.mp hlast, hof] at hof'
        cases hof'

/-- **The devices after all settings**, for a domain with any devices and any array of settings. -/
theorem sorted_classifyResources {resources : List Instance} {domain domain' : Domain}
    (h : classifyResources host resources domain = .ok domain') :
    Sorted host kind domain resources domain' := by
  -- the empty array is refused, else the instances are taken in order
  unfold classifyResources at h
  split at h
  · cases h
  · have hrun := foldlM_history (I := fun done current => Sorted host kind domain done current)
      ?_ (.start host kind domain) h
    · exact hrun
    · intro done current inst next hsorted hround
      split at hround
      · cases hround
      · next himage =>
        -- the volume of a pool is no device
        cases hround
        have hof : isOf kind inst = false := decide_eq_false (by rw [himage]; simp)
        obtain ⟨numbered, hnumbered, hlisting⟩ := hsorted.listing
        refine ⟨hsorted.type, ⟨numbered, hnumbered, hlisting.other hof⟩, hsorted.distinct,
          fun hsingle hmet => ?_, fun inst' hmem => ?_⟩
        · obtain ⟨inst', hmem, hof'⟩ := hmet
          obtain hmem | hlast := List.mem_append.mp hmem
          · exact hsorted.single hsingle ⟨inst', hmem, hof'⟩
          · rw [List.mem_singleton.mp hlast, hof] at hof'
            cases hof'
        · obtain hmem | hlast := List.mem_append.mp hmem
          · exact hsorted.typed inst' hmem
          · rw [List.mem_singleton.mp hlast, himage]
            exact Option.some_ne_none _
      · next kind' htype => exact hsorted.round htype hround

end LibvirtCim.Service
