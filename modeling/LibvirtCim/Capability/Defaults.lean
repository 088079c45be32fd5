import LibvirtCim.Common.Basic
import LibvirtCim.Framework.Partial

/-!
# Defaults of the capabilities

`capability_parsing.c`: what libvirt gives for an architecture as a whole goes into each of its
domains, and the lookups take the first entry that matches.

`extendDefaultsCapGuests_yields` says what becomes of the structure, `findDomainInfo_yields` and
the lemmas after it what the lookups find. A name may be a null pointer here, and a comparison
with one crashes: a function without a result. `Named` is the structure without such names, and
there all of it goes through.
-/

open Framework

namespace LibvirtCim.CapabilityParsing

/-- `struct cap_machine`. -/
structure CapMachine where
  name : Option String
  canonicalName : Option String := none
  deriving DecidableEq, Repr

/-- `struct cap_domain_info`. -/
structure CapDomainInfo where
  emulator : Option String := none
  loader : Option String := none
  machines : List CapMachine := []
  deriving DecidableEq, Repr

/-- `struct cap_domain`. -/
structure CapDomain where
  typestr : Option String
  guestDomainInfo : CapDomainInfo := {}
  deriving DecidableEq, Repr

/-- `struct cap_arch`; its `wordsize` is read by nothing here. -/
structure CapArch where
  name : Option String
  defaultDomainInfo : CapDomainInfo := {}
  domains : List CapDomain := []
  deriving DecidableEq, Repr

/-- `struct cap_guest`. -/
structure CapGuest where
  ostype : Option String
  arch : CapArch
  deriving DecidableEq, Repr

/-- `struct capabilities`, with the member of `struct cap_host`. -/
structure Capabilities where
  cpuArch : Option String := none
  guests : List CapGuest := []
  deriving DecidableEq, Repr

/-! ### Defaults into the domains -/

/-- `STREQC` of two pointers, which crashes on a null one. -/
def streqcPtr : Option String → Option String → Option Bool
  | some a, some b => some (streqc a b)
  | _, _ => none

/-- `extend_cap_machines`. -/
def CapDomainInfo.extendCapMachines (info : CapDomainInfo) (name canonicalName : Option String) :
    CapDomainInfo :=
  { info with machines := info.machines ++ [{ name, canonicalName }] }

/-- The inner loop of `compare_copy_domain_info_machines`. It goes on behind a match. -/
def foundAmong (machine : CapMachine) (own : List CapMachine) : Option Bool :=
  own.foldlM (fun found m => do
    let same ← streqcPtr machine.name m.name
    return if same then true else found) false

/-- `compare_copy_domain_info_machines`: each default machine against the first `org_l`
entries of the list, which grows at its end meanwhile. -/
def compareCopyDomainInfoMachines (defaults info : CapDomainInfo) : Option CapDomainInfo :=
  let orgL := info.machines.length
  defaults.machines.foldlM (fun info machine => do
    let found ← foundAmong machine (info.machines.take orgL)
    return if found then info else info.extendCapMachines machine.name machine.canonicalName) info

/-- The body of `extend_defaults_cap_guests` for a domain. -/
def CapDomain.extendDefaults (defaults : CapDomainInfo) (domain : CapDomain) :
    Option CapDomain := do
  let info := domain.guestDomainInfo
  let info :=
    if info.emulator.isNone && defaults.emulator.isSome then
      { info with emulator := defaults.emulator }
    else info
  let info :=
    if info.loader.isNone && defaults.loader.isSome then
      { info with loader := defaults.loader }
    else info
  let info ← compareCopyDomainInfoMachines defaults info
  return { domain with guestDomainInfo := info }

def CapGuest.extendDefaults (guest : CapGuest) : Option CapGuest := do
  let domains ← guest.arch.domains.mapM (CapDomain.extendDefaults guest.arch.defaultDomainInfo)
  return { guest with arch := { guest.arch with domains := domains } }

/-- `extend_defaults_cap_guests`. -/
def extendDefaultsCapGuests (caps : Capabilities) : Option Capabilities := do
  let guests ← caps.guests.mapM CapGuest.extendDefaults
  return { caps with guests := guests }

/-! ### Lookups -/

/-- A criterion that may not be given, against a name. -/
def meetsPtr (criterion name : Option String) : Option Bool :=
  if criterion.isNone then some true else streqcPtr name criterion

/-- `findDomainInfo`. -/
def findDomainInfo (caps : Capabilities) (osType arch domainType : Option String) :
    Option (Option CapDomainInfo) :=
  caps.guests.findSomeM? fun guest => do
    if ← meetsPtr osType guest.ostype then
      if ← meetsPtr arch guest.arch.name then
        let domain ← guest.arch.domains.findM? fun domain => meetsPtr domainType domain.typestr
        return domain.map CapDomain.guestDomainInfo
      else return none
    else return none

/-- `_findDefArch`: the guest whose architecture is returned. -/
def findDefArch (caps : Capabilities) (osType : String) (hostArch : Option String) :
    Option (Option String) := do
  let guest ← caps.guests.findM? fun guest => do
    if ← streqcPtr guest.ostype (some osType) then meetsPtr hostArch guest.arch.name
    else return false
  return guest.bind (·.arch.name)

/-- `get_default_arch`: the architecture of the host first, then any. -/
def getDefaultArch (caps : Option Capabilities) (osType : Option String) :
    Option (Option String) :=
  match caps, osType with
  | some caps, some osType => do
    let arch ← findDefArch caps osType caps.cpuArch
    if arch.isNone then findDefArch caps osType none else return arch
  | _, _ => some none

/-- `get_default_machine`: the first machine, by its canonical name if it has one. -/
def getDefaultMachine (caps : Option Capabilities) (osType arch domainType : Option String) :
    Option (Option String) :=
  match caps with
  | none => some none
  | some caps => do
    let di ← findDomainInfo caps osType arch domainType
    return di.bind fun di => di.machines.head?.bind fun m => m.canonicalName.or m.name

/-- `get_default_emulator`. -/
def getDefaultEmulator (caps : Option Capabilities) (osType arch domainType : Option String) :
    Option (Option String) :=
  match caps with
  | none => some none
  | some caps => do
    let di ← findDomainInfo caps osType arch domainType
    return di.bind CapDomainInfo.emulator

/-- `host_supports_kvm`. -/
def hostSupportsKvm (caps : Option Capabilities) : Option Bool :=
  match caps with
  | none => some false
  | some caps => (findDomainInfo caps none none (some "kvm")).map Option.isSome

/-- `use_kvm`, with the setting of `get_disable_kvm`. -/
def useKvm (caps : Option Capabilities) (disableKvm : Bool) : Option Bool :=
  (hostSupportsKvm caps).map fun kvm => kvm && !disableKvm

/-! ### What the defaults come to -/

/-- Two names that are there and equal up to case. -/
def sameName (a b : Option String) : Bool :=
  a.any fun a => b.any (streqc a)

/-- A list with the entries of another that it has no counterpart of, in their order. -/
def fillUp {α : Type} (same : α → α → Bool) (own defaults : List α) : List α :=
  own ++ defaults.filter fun d => !own.any (same d)

/-- A list that was filled up has nothing to be filled up with. -/
theorem fillUp_fillUp {α : Type} {same : α → α → Bool} {defaults : List α}
    (hrefl : ∀ d ∈ defaults, same d d) (own : List α) :
    fillUp same (fillUp same own defaults) defaults = fillUp same own defaults := by
  have hnone : defaults.filter (fun d => !(fillUp same own defaults).any (same d)) = [] := by
    rw [List.filter_eq_nil_iff]
    intro d hd
    rw [Bool.not_eq_true, Bool.not_eq_false', fillUp, List.any_append, Bool.or_eq_true]
    by_cases hown : own.any (same d) = true
    · exact .inl hown
    · -- the default itself was put in
      right
      rw [List.any_eq_true]
      exact ⟨d, List.mem_filter.mpr ⟨hd, by simpa using hown⟩, hrefl d hd⟩
  rw [fillUp, hnone, List.append_nil]

/-- The information of a domain, filled up from that of its architecture. -/
def CapDomainInfo.filled (defaults info : CapDomainInfo) : CapDomainInfo where
  emulator := info.emulator.or defaults.emulator
  loader := info.loader.or defaults.loader
  machines := fillUp (fun m own => sameName m.name own.name) info.machines defaults.machines

def CapDomain.filled (defaults : CapDomainInfo) (domain : CapDomain) : CapDomain :=
  { domain with guestDomainInfo := defaults.filled domain.guestDomainInfo }

def CapGuest.filled (guest : CapGuest) : CapGuest :=
  { guest with arch :=
    { guest.arch with
      domains := guest.arch.domains.map (CapDomain.filled guest.arch.defaultDomainInfo) } }

/-- The structure with each domain filled up. -/
def Capabilities.filled (caps : Capabilities) : Capabilities :=
  { caps with guests := caps.guests.map CapGuest.filled }

theorem streqcPtr_yields (a b : Option String) : Yields (streqcPtr a b) (sameName a b) := by
  cases a with
  | none => exact .none _
  | some a =>
    cases b with
    | none => exact .none _
    | some b => exact .some _

theorem streqcPtr_isSome {a b : Option String} (ha : a.isSome) (hb : b.isSome) :
    (streqcPtr a b).isSome := by
  obtain ⟨a, rfl⟩ := Option.isSome_iff_exists.mp ha
  obtain ⟨b, rfl⟩ := Option.isSome_iff_exists.mp hb
  rfl

theorem sameName_refl {a : Option String} (h : a.isSome) : sameName a a := by
  obtain ⟨a, rfl⟩ := Option.isSome_iff_exists.mp h
  exact streqc_refl a

theorem foldl_any {α : Type} (p : α → Bool) (l : List α) (found : Bool) :
    l.foldl (fun found a => if p a then true else found) found = (found || l.any p) := by
  induction l generalizing found with
  | nil => simp
  | cons a l ih =>
    rw [List.foldl_cons, ih, List.any_cons]
    cases p a <;> simp

theorem foundAmong_yields (machine : CapMachine) (own : List CapMachine) :
    Yields (foundAmong machine own) (own.any fun m => sameName machine.name m.name) := by
  rw [← Bool.false_or (own.any _), ← foldl_any]
  apply Yields.foldlM
  intro found m _
  exact (streqcPtr_yields _ _).bind (.some _)

theorem foundAmong_isSome {machine : CapMachine} {own : List CapMachine}
    (hmachine : machine.name.isSome) (hown : ∀ m ∈ own, m.name.isSome) :
    (foundAmong machine own).isSome := by
  apply isSome_foldlM (I := fun _ => True)
  · intro found m hm _
    exact isSome_bind (streqcPtr_isSome hmachine (hown m hm)) fun _ _ => rfl
  · intros
    trivial
  · trivial

/-- One turn of the loop over the default machines, without the crash. -/
def CapDomainInfo.copyMissing (orgL : ℕ) (info : CapDomainInfo) (machine : CapMachine) :
    CapDomainInfo :=
  if (info.machines.take orgL).any fun m => sameName machine.name m.name then info
  else info.extendCapMachines machine.name machine.canonicalName

/-- The machines put in behind the own ones are not compared with. -/
theorem foldl_copyMissing (defaults : List CapMachine) (info : CapDomainInfo)
    (own added : List CapMachine) :
    defaults.foldl (CapDomainInfo.copyMissing own.length)
        { info with machines := own ++ added } =
      { info with
        machines := own ++ (added ++
          defaults.filter fun d => !own.any fun m => sameName d.name m.name) } := by
  induction defaults generalizing added with
  | nil => simp
  | cons d defaults ih =>
    have htake : (own ++ added).take own.length = own := List.take_left' rfl
    rw [List.foldl_cons, CapDomainInfo.copyMissing, htake]
    by_cases hown : own.any (fun m => sameName d.name m.name) = true
    · rw [if_pos hown, ih added, List.filter_cons_of_neg (by simpa using hown)]
    · rw [if_neg hown, List.filter_cons_of_pos (by simpa using hown)]
      -- the entry that is put in is the default machine itself
      have hstep : CapDomainInfo.extendCapMachines { info with machines := own ++ added } d.name
          d.canonicalName = { info with machines := own ++ (added ++ [d]) } := by
        rw [CapDomainInfo.extendCapMachines, List.append_assoc]
      rw [hstep, ih (added ++ [d]), List.append_assoc]
      rfl

theorem compareCopyDomainInfoMachines_yields (defaults info : CapDomainInfo) :
    Yields (compareCopyDomainInfoMachines defaults info)
      { info with
        machines := fillUp (fun m own => sameName m.name own.name) info.machines
          defaults.machines } := by
  have hfold := foldl_copyMissing defaults.machines info info.machines []
  rw [List.append_nil, List.nil_append] at hfold
  rw [fillUp, ← hfold]
  apply Yields.foldlM
  intro t machine _
  exact (foundAmong_yields _ _).bind (.some _)

theorem compareCopyDomainInfoMachines_isSome {defaults info : CapDomainInfo}
    (hdefaults : ∀ m ∈ defaults.machines, m.name.isSome)
    (hown : ∀ m ∈ info.machines, m.name.isSome) :
    (compareCopyDomainInfoMachines defaults info).isSome := by
  -- the entries compared with stay the own ones while the list grows behind them
  apply isSome_foldlM (I := fun t : CapDomainInfo =>
    t.machines.take info.machines.length = info.machines)
  · intro t d hd ht
    apply isSome_bind
    · rw [ht]
      exact foundAmong_isSome (hdefaults d hd) hown
    · intros
      rfl
  · intro t d t' ht hstep
    obtain ⟨found, -, hstep⟩ := Option.bind_eq_some_iff.mp hstep
    -- an entry that is found is dropped, another one is appended behind
    rw [← Option.some.inj hstep]
    cases found with
    | true => exact ht
    | false =>
      have hle : info.machines.length ≤ t.machines.length := by
        have hlength := congrArg List.length ht
        rw [List.length_take] at hlength
        omega
      exact (List.take_append_of_le_length hle).trans ht
  · exact List.take_length

theorem emulator_of_null (info : CapDomainInfo) (d : Option String) :
    (if info.emulator.isNone && d.isSome then { info with emulator := d } else info) =
      { info with emulator := info.emulator.or d } := by
  obtain ⟨emulator, loader, machines⟩ := info
  cases emulator <;> cases d <;> rfl

theorem loader_of_null (info : CapDomainInfo) (d : Option String) :
    (if info.loader.isNone && d.isSome then { info with loader := d } else info) =
      { info with loader := info.loader.or d } := by
  obtain ⟨emulator, loader, machines⟩ := info
  cases loader <;> cases d <;> rfl

/-- `extend_defaults_cap_guests` for a domain, with its two assignments told as one value. -/
theorem CapDomain.extendDefaults_eq (defaults : CapDomainInfo) (domain : CapDomain) :
    domain.extendDefaults defaults =
      (compareCopyDomainInfoMachines defaults
        { domain.guestDomainInfo with
          emulator := domain.guestDomainInfo.emulator.or defaults.emulator
          loader := domain.guestDomainInfo.loader.or defaults.loader }).map
        fun info => { domain with guestDomainInfo := info } := by
  rw [CapDomain.extendDefaults, emulator_of_null, Option.map_eq_bind]
  have hloader := loader_of_null
    { domain.guestDomainInfo with
      emulator := domain.guestDomainInfo.emulator.or defaults.emulator } defaults.loader
  exact congrArg (fun info => (compareCopyDomainInfoMachines defaults info).bind _) hloader

theorem CapDomain.extendDefaults_yields (defaults : CapDomainInfo) (domain : CapDomain) :
    Yields (domain.extendDefaults defaults) (domain.filled defaults) := by
  rw [CapDomain.extendDefaults_eq]
  exact (compareCopyDomainInfoMachines_yields _ _).map _

theorem CapGuest.extendDefaults_yields (guest : CapGuest) :
    Yields guest.extendDefaults guest.filled := by
  apply Yields.bind (Yields.mapM fun domain _ => domain.extendDefaults_yields _)
  exact .some _

/-- **What becomes of the structure.** -/
theorem extendDefaultsCapGuests_yields (caps : Capabilities) :
    Yields (extendDefaultsCapGuests caps) caps.filled := by
  apply Yields.bind (Yields.mapM fun guest _ => guest.extendDefaults_yields)
  exact .some _

/-! ### Structures without null names -/

/-- Each name that is ever compared is there: `STREQC` crashes on a null one, and the parser
leaves the name of a missing attribute null. -/
structure Capabilities.Named (caps : Capabilities) : Prop where
  ostype : ∀ guest ∈ caps.guests, guest.ostype.isSome
  arch : ∀ guest ∈ caps.guests, guest.arch.name.isSome
  defaults : ∀ guest ∈ caps.guests, ∀ m ∈ guest.arch.defaultDomainInfo.machines, m.name.isSome
  typestr : ∀ guest ∈ caps.guests, ∀ domain ∈ guest.arch.domains, domain.typestr.isSome
  machines : ∀ guest ∈ caps.guests, ∀ domain ∈ guest.arch.domains,
    ∀ m ∈ domain.guestDomainInfo.machines, m.name.isSome

theorem extendDefaultsCapGuests_isSome {caps : Capabilities} (h : caps.Named) :
    (extendDefaultsCapGuests caps).isSome := by
  apply isSome_bind
  · apply isSome_mapM
    intro guest hguest
    apply isSome_bind
    · apply isSome_mapM
      intro domain hdomain
      rw [CapDomain.extendDefaults_eq, Option.isSome_map]
      exact compareCopyDomainInfoMachines_isSome (h.defaults guest hguest)
        (h.machines guest hguest domain hdomain)
    · intros
      rfl
  · intros
    rfl

/-- What the defaults put in has names where the defaults have them. -/
theorem Capabilities.Named.filled {caps : Capabilities} (h : caps.Named) : caps.filled.Named where
  -- filling touches only the machines of each domain, so the other four names stay
  ostype := by
    intro guest hguest
    obtain ⟨guest, hmem, rfl⟩ := List.mem_map.mp hguest
    exact h.ostype guest hmem
  arch := by
    intro guest hguest
    obtain ⟨guest, hmem, rfl⟩ := List.mem_map.mp hguest
    exact h.arch guest hmem
  defaults := by
    intro guest hguest
    obtain ⟨guest, hmem, rfl⟩ := List.mem_map.mp hguest
    exact h.defaults guest hmem
  typestr := by
    intro guest hguest domain hdomain
    obtain ⟨guest, hmem, rfl⟩ := List.mem_map.mp hguest
    obtain ⟨domain, hin, rfl⟩ := List.mem_map.mp hdomain
    exact h.typestr guest hmem domain hin
  machines := by
    intro guest hguest domain hdomain m hm
    obtain ⟨guest, hmem, rfl⟩ := List.mem_map.mp hguest
    obtain ⟨domain, hin, rfl⟩ := List.mem_map.mp hdomain
    -- a machine of a filled domain is an own one or a default added to them
    rcases List.mem_append.mp hm with hown | hdefault
    · exact h.machines guest hmem domain hin m hown
    · exact h.defaults guest hmem m (List.mem_filter.mp hdefault).1

theorem CapDomainInfo.filled_filled {defaults : CapDomainInfo}
    (h : ∀ m ∈ defaults.machines, m.name.isSome) (info : CapDomainInfo) :
    defaults.filled (defaults.filled info) = defaults.filled info := by
  have hmachines := @fillUp_fillUp _ (fun m own : CapMachine => sameName m.name own.name)
    defaults.machines (fun d hd => sameName_refl (h d hd)) info.machines
  rw [CapDomainInfo.filled, CapDomainInfo.mk.injEq]
  refine ⟨?_, ?_, hmachines⟩
  · rw [CapDomainInfo.filled, Option.or_assoc, Option.or_self]
  · rw [CapDomainInfo.filled, Option.or_assoc, Option.or_self]

/-- **Once is enough.** A structure that was filled up is not changed any more. -/
theorem Capabilities.filled_filled {caps : Capabilities} (h : caps.Named) :
    caps.filled.filled = caps.filled := by
  -- the defaults of an architecture are not filled, so a second pass adds nothing
  have hguest : ∀ guest ∈ caps.guests, guest.filled.filled = guest.filled := by
    intro guest hguest
    have hdomains : (guest.arch.domains.map
          (CapDomain.filled guest.arch.defaultDomainInfo)).map
          (CapDomain.filled guest.arch.defaultDomainInfo) =
        guest.arch.domains.map (CapDomain.filled guest.arch.defaultDomainInfo) := by
      rw [List.map_map]
      apply List.map_congr_left
      intro domain _
      rw [Function.comp_apply, CapDomain.filled, CapDomain.filled,
        CapDomainInfo.filled_filled (h.defaults guest hguest)]
    simp only [CapGuest.filled, hdomains]
  simp only [Capabilities.filled, List.map_map]
  congr 1
  exact List.map_congr_left hguest

/-! ### The first entry that matches -/

/-- A criterion that may not be given. -/
def nameMeets (criterion name : Option String) : Bool :=
  criterion.all fun wanted => sameName name (some wanted)

/-- The domains with their guests, in the order of the structure. -/
def Capabilities.entries (caps : Capabilities) : List (CapGuest × CapDomain) :=
  caps.guests.flatMap fun guest => guest.arch.domains.map (Prod.mk guest)

/-- The first entry for an os type, an architecture and a domain type, each possibly not
given. -/
def Capabilities.firstEntry (caps : Capabilities) (osType arch domainType : Option String) :
    Option CapDomainInfo :=
  (caps.entries.find? fun entry =>
    nameMeets osType entry.1.ostype && nameMeets arch entry.1.arch.name &&
      nameMeets domainType entry.2.typestr).map (·.2.guestDomainInfo)

/-- The first guest of an os type and an architecture, the latter possibly not given. -/
def Capabilities.firstGuest (caps : Capabilities) (osType : String) (arch : Option String) :
    Option CapGuest :=
  caps.guests.find? fun guest =>
    sameName guest.ostype (some osType) && nameMeets arch guest.arch.name

theorem meetsPtr_yields (criterion name : Option String) :
    Yields (meetsPtr criterion name) (nameMeets criterion name) := by
  cases criterion with
  | none => exact .some _
  | some wanted => exact streqcPtr_yields name (some wanted)

theorem meetsPtr_isSome {name : Option String} (h : name.isSome) (criterion : Option String) :
    (meetsPtr criterion name).isSome := by
  cases criterion with
  | none => rfl
  | some wanted => exact streqcPtr_isSome h rfl

/-- The search by guests and then by domains is one over the entries. -/
theorem firstEntry_eq (caps : Capabilities) (osType arch domainType : Option String) :
    caps.firstEntry osType arch domainType =
      caps.guests.findSome? fun guest =>
        if nameMeets osType guest.ostype then
          if nameMeets arch guest.arch.name then
            (guest.arch.domains.find? fun domain => nameMeets domainType domain.typestr).map
              CapDomain.guestDomainInfo
          else none
        else none := by
  rw [Capabilities.firstEntry, Capabilities.entries, List.find?_flatMap, List.map_findSome?]
  congr 1
  ext guest : 1
  rw [Function.comp_apply, List.find?_map, Option.map_map]
  -- the three names are compared one after the other, and the first mismatch ends it
  cases hos : nameMeets osType guest.ostype with
  | false => simp [Function.comp_def, hos]
  | true =>
    cases harch : nameMeets arch guest.arch.name with
    | false => simp [Function.comp_def, harch]
    | true => simp [Function.comp_def, hos, harch]

theorem findDomainInfo_yields (caps : Capabilities) (osType arch domainType : Option String) :
    Yields (findDomainInfo caps osType arch domainType)
      (caps.firstEntry osType arch domainType) := by
  rw [firstEntry_eq]
  apply Yields.findSomeM?
  intro guest _
  -- the search computes what the specification says, name by name
  apply (meetsPtr_yields _ _).bind
  cases nameMeets osType guest.ostype with
  | false => exact .some _
  | true =>
    apply (meetsPtr_yields _ _).bind
    cases nameMeets arch guest.arch.name with
    | false => exact .some _
    | true =>
      apply Yields.bind (Yields.findM? fun domain _ => meetsPtr_yields _ _)
      exact .some _

theorem findDomainInfo_isSome {caps : Capabilities} (h : caps.Named)
    (osType arch domainType : Option String) :
    (findDomainInfo caps osType arch domainType).isSome := by
  apply isSome_findSomeM?
  intro guest hguest
  -- no comparison meets a null name
  apply isSome_bind (meetsPtr_isSome (h.ostype guest hguest) osType)
  intro os _
  cases os with
  | false => rfl
  | true =>
    apply isSome_bind (meetsPtr_isSome (h.arch guest hguest) arch)
    intro same _
    cases same with
    | false => rfl
    | true =>
      apply isSome_bind
      · apply isSome_findM?
        intro domain hdomain
        exact meetsPtr_isSome (h.typestr guest hguest domain hdomain) domainType
      · intros
        rfl

/-- **`findDomainInfo` finds the first entry.** -/
theorem findDomainInfo_eq {caps : Capabilities} (h : caps.Named)
    (osType arch domainType : Option String) :
    findDomainInfo caps osType arch domainType =
      some (caps.firstEntry osType arch domainType) :=
  (findDomainInfo_yields caps osType arch domainType).eq_some
    (findDomainInfo_isSome h osType arch domainType)

theorem findDefArch_yields (caps : Capabilities) (osType : String) (hostArch : Option String) :
    Yields (findDefArch caps osType hostArch)
      ((caps.firstGuest osType hostArch).bind (·.arch.name)) := by
  refine Yields.bind (Yields.findM? ?_) (.some _)
  intro guest _
  apply (streqcPtr_yields _ _).bind
  cases sameName guest.ostype (some osType) with
  | false => exact .some _
  | true => exact meetsPtr_yields _ _

theorem findDefArch_isSome {caps : Capabilities} (h : caps.Named) (osType : String)
    (hostArch : Option String) : (findDefArch caps osType hostArch).isSome := by
  apply isSome_bind
  · apply isSome_findM?
    intro guest hguest
    apply isSome_bind (streqcPtr_isSome (h.ostype guest hguest) rfl)
    intro os _
    cases os with
    | false => rfl
    | true => exact meetsPtr_isSome (h.arch guest hguest) hostArch
  · intros
    rfl

theorem findDefArch_eq {caps : Capabilities} (h : caps.Named) (osType : String)
    (hostArch : Option String) :
    findDefArch caps osType hostArch =
      some ((caps.firstGuest osType hostArch).bind (·.arch.name)) :=
  (findDefArch_yields caps osType hostArch).eq_some (findDefArch_isSome h osType hostArch)

/-- What a search for a guest finds has a name for its architecture. -/
theorem arch_name_isSome {caps : Capabilities} (h : caps.Named) {osType : String}
    {arch : Option String} {guest : CapGuest} (hguest : caps.firstGuest osType arch = some guest) :
    guest.arch.name.isSome :=
  h.arch guest (List.mem_of_find?_eq_some hguest)

/-- **`get_default_arch` prefers the architecture of the host.** -/
theorem getDefaultArch_eq {caps : Capabilities} (h : caps.Named) (osType : String) :
    getDefaultArch (some caps) (some osType) =
      some (((caps.firstGuest osType caps.cpuArch).or (caps.firstGuest osType none)).bind
        (·.arch.name)) := by
  rw [getDefaultArch, findDefArch_eq h, findDefArch_eq h]
  cases hfirst : caps.firstGuest osType caps.cpuArch with
  | none => rfl
  | some guest =>
    obtain ⟨name, hname⟩ := Option.isSome_iff_exists.mp (arch_name_isSome h hfirst)
    simp [hname]

theorem getDefaultMachine_eq {caps : Capabilities} (h : caps.Named)
    (osType arch domainType : Option String) :
    getDefaultMachine (some caps) osType arch domainType =
      some ((caps.firstEntry osType arch domainType).bind fun di =>
        di.machines.head?.bind fun m => m.canonicalName.or m.name) := by
  rw [getDefaultMachine, findDomainInfo_eq h]
  rfl

theorem getDefaultEmulator_eq {caps : Capabilities} (h : caps.Named)
    (osType arch domainType : Option String) :
    getDefaultEmulator (some caps) osType arch domainType =
      some ((caps.firstEntry osType arch domainType).bind CapDomainInfo.emulator) := by
  rw [getDefaultEmulator, findDomainInfo_eq h]
  rfl

/-! ### The lookups of the services -/

/-- Capabilities none of whose names is missing, as `get_caps_from_xml` makes them of a document
of libvirt (`named_readCaps`). -/
structure NamedCapabilities where
  caps : Capabilities
  named : caps.Named

/-- The structure, or the null pointer of `get_capabilities`. -/
def NamedCapabilities.pointer (caps : Option NamedCapabilities) : Option Capabilities :=
  caps.map NamedCapabilities.caps

/-- No lookup in such capabilities crashes. -/
theorem isSome_findDomainInfo (caps : NamedCapabilities)
    (osType arch domainType : Option String) :
    (findDomainInfo caps.caps osType arch domainType).isSome := by
  rw [findDomainInfo_eq caps.named]
  rfl

theorem isSome_getDefaultArch (caps : Option NamedCapabilities) (osType : String) :
    (getDefaultArch (NamedCapabilities.pointer caps) (some osType)).isSome := by
  cases caps with
  | none => rfl
  | some caps =>
    show (getDefaultArch (some caps.caps) _).isSome
    rw [getDefaultArch_eq caps.named]
    rfl

theorem isSome_getDefaultMachine (caps : Option NamedCapabilities)
    (osType arch domainType : Option String) :
    (getDefaultMachine (NamedCapabilities.pointer caps) osType arch domainType).isSome := by
  cases caps with
  | none => rfl
  | some caps =>
    show (getDefaultMachine (some caps.caps) _ _ _).isSome
    rw [getDefaultMachine_eq caps.named]
    rfl

theorem isSome_getDefaultEmulator (caps : Option NamedCapabilities)
    (osType arch domainType : Option String) :
    (getDefaultEmulator (NamedCapabilities.pointer caps) osType arch domainType).isSome := by
  cases caps with
  | none => rfl
  | some caps =>
    show (getDefaultEmulator (some caps.caps) _ _ _).isSome
    rw [getDefaultEmulator_eq caps.named]
    rfl

theorem isSome_useKvm (caps : Option NamedCapabilities) (disableKvm : Bool) :
    (useKvm (NamedCapabilities.pointer caps) disableKvm).isSome := by
  cases caps with
  | none => rfl
  | some caps =>
    show (useKvm (some caps.caps) disableKvm).isSome
    rw [useKvm, hostSupportsKvm, Option.isSome_map, Option.isSome_map]
    exact isSome_findDomainInfo caps _ _ _

/-! ### A preference for the host -/

/-- The first entry, one of the host's architecture before the others when none is given. -/
def Capabilities.hostEntry (caps : Capabilities) (osType arch domainType : Option String) :
    Option CapDomainInfo :=
  (caps.firstEntry osType (arch.or caps.cpuArch) domainType).or
    (caps.firstEntry osType arch domainType)

/-- The extension comes to the own machines and the missing defaults, a second one to nothing,
and the search prefers the host. -/
def PrefersHost (caps : Capabilities) : Prop :=
  extendDefaultsCapGuests caps = some caps.filled ∧
    extendDefaultsCapGuests caps.filled = some caps.filled ∧
    ∀ osType arch domainType, findDomainInfo caps osType arch domainType =
      some (caps.hostEntry osType arch domainType)

/-- A host of 64 bits that lists its guests of 32 bits first. -/
def twoArches : Capabilities where
  cpuArch := some "x86_64"
  guests := [
    { ostype := some "hvm"
      arch := { name := some "i686", domains := [{ typestr := some "kvm" }] } },
    { ostype := some "hvm"
      arch :=
        { name := some "x86_64"
          domains := [{
            typestr := some "kvm"
            guestDomainInfo := { machines := [{ name := some "pc" }] } }] } }]

/-- A default machine without a name, and a domain with one. -/
def namelessMachine : Capabilities where
  guests := [
    { ostype := some "hvm"
      arch :=
        { name := some "i686"
          defaultDomainInfo := { machines := [{ name := none }] }
          domains := [{
            typestr := some "kvm"
            guestDomainInfo := { machines := [{ name := some "pc" }] } }] } }]

/-- The search takes the guest of 32 bits, and a name that is missing crashes the extension. -/
theorem not_prefersHost : ¬ PrefersHost twoArches ∧ ¬ PrefersHost namelessMachine := by
  constructor
  · intro h
    have hfound := h.2.2 (some "hvm") none (some "kvm")
    revert hfound
    decide +kernel
  · intro h
    have hextended := h.1
    revert hextended
    decide +kernel

/-- **The defaults of the capabilities.** Without null names, each domain ends up with its own
machines and the defaults that they lack, a second extension changes nothing, and the lookups take
the first entry that matches. What the loops yield if they meet no null name, and that they meet
none, are shown apart (`extendDefaultsCapGuests_yields`, `extendDefaultsCapGuests_isSome`). -/
theorem capabilityDefaults {caps : Capabilities} (h : caps.Named) :
    extendDefaultsCapGuests caps = some caps.filled ∧
      extendDefaultsCapGuests caps.filled = some caps.filled ∧
      ∀ osType arch domainType,
        findDomainInfo caps osType arch domainType =
            some (caps.firstEntry osType arch domainType) ∧
          getDefaultMachine (some caps) osType arch domainType =
            some ((caps.firstEntry osType arch domainType).bind fun di =>
              di.machines.head?.bind fun m => m.canonicalName.or m.name) ∧
          getDefaultEmulator (some caps) osType arch domainType =
            some ((caps.firstEntry osType arch domainType).bind CapDomainInfo.emulator) ∧
          getDefaultArch (some caps) osType =
            some (osType.bind fun osType =>
              ((caps.firstGuest osType caps.cpuArch).or (caps.firstGuest osType none)).bind
                (·.arch.name)) := by
  -- the second reading starts from capabilities that are already filled
  have hagain := (extendDefaultsCapGuests_yields caps.filled).eq_some
    (extendDefaultsCapGuests_isSome h.filled)
  rw [Capabilities.filled_filled h] at hagain
  refine ⟨(extendDefaultsCapGuests_yields caps).eq_some (extendDefaultsCapGuests_isSome h),
    hagain, ?_⟩
  intro osType arch domainType
  refine ⟨findDomainInfo_eq h _ _ _, getDefaultMachine_eq h _ _ _,
    getDefaultEmulator_eq h _ _ _, ?_⟩
  cases osType with
  | none => rfl
  | some osType => exact getDefaultArch_eq h osType

/-- The two architectures, with the machine of the second found when it is asked for. -/
theorem capabilityDefaults_twoArches :
    twoArches.Named ∧ getDefaultArch (some twoArches) (some "hvm") = some (some "x86_64") ∧
      getDefaultMachine (some twoArches) (some "hvm") (some "x86_64") none =
        some (some "pc") := by
  have hnamed : twoArches.Named := by
    constructor <;> decide
  obtain ⟨-, -, h⟩ := capabilityDefaults hnamed
  obtain ⟨-, hmachine, -, harch⟩ := h (some "hvm") (some "x86_64") none
  refine ⟨hnamed, harch.trans ?_, hmachine.trans ?_⟩
  · decide +kernel
  · decide +kernel

end LibvirtCim.CapabilityParsing
