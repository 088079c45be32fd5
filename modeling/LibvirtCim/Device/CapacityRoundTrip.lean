import LibvirtCim.Device.Reread

/-!
# Memory and processors through the generator and back

The sizes of the memory are printed and scanned as unsigned 64-bit numbers, and the merge of
the two elements puts them together again. The count of the processors is printed as such a
number too, but scanned as a signed one of 32 bits with the largest count of 64 bits as the
one that saturates back to itself. Their weight is written and never read.
-/

open Framework

namespace LibvirtCim.Device

/-! ### Numbers -/

/-- A decimal notation has no markup. -/
theorem contentText_repr {nodeContent : String → List Node} (hdoc : ContentDocumented nodeContent)
    (n : ℕ) : contentText nodeContent n.repr = n.repr := by
  apply hdoc.survives
  intro hmem
  have hdigit : '&'.isDigit = true := isDigit_of_mem_repr hmem
  revert hdigit
  decide

/-- The count that is scanned where a 64-bit number was printed. -/
def scannedCount (quantity : UInt64) : UInt64 :=
  UInt64.ofInt (Int32.ofInt (min (quantity.toNat : ℤ) Int64.maxValue.toInt)).toInt

/-- A number comes back from the 32 bits if it fits into 31 of them, or is the one with all
64 bits set. -/
theorem scannedCount_eq_iff (quantity : UInt64) :
    scannedCount quantity = quantity ↔ quantity.toNat < 2 ^ 31 ∨ quantity = -1 := by
  have hlt : quantity.toNat < 2 ^ 64 := quantity.toNat_lt
  have hones : quantity = -1 ↔ quantity.toNat = 2 ^ 64 - 1 := by
    rw [← UInt64.toNat_inj]
    rfl
  have hcount : (scannedCount quantity).toNat =
      ((min (quantity.toNat : ℤ) (2 ^ 63 - 1)).bmod (2 ^ 32) % 2 ^ 64).toNat % 2 ^ 64 := by
    rw [scannedCount, UInt64.ofInt, UInt64.toNat_ofNat', Int32.toInt_ofInt, Int64.toInt_maxValue]
    rfl
  rw [← UInt64.toNat_inj, hcount, hones, Int.bmod_def]
  generalize quantity.toNat = n at hlt
  omega

/-! ### The devices that are read -/

theorem u64_max_zero (n : UInt64) : max n 0 = n := by
  show (if n ≤ 0 then 0 else n) = n
  split
  · next h => exact (UInt64.le_zero_iff.mp h).symm
  · rfl

theorem u64_zero_max (n : UInt64) : max 0 n = n := by
  show (if 0 ≤ n then n else 0) = n
  exact if_pos UInt64.zero_le

section Document

variable {nodeContent : String → List Node} {newUuid : String} {d : Domain} {doc : Node}

/-- **The memory comes back.** The first of its elements has the size and the second one
the rest, and their merge loses nothing. -/
theorem parseDevices_mem (hdoc : ContentDocumented nodeContent)
    (h : systemToXml nodeContent newUuid d = .ok doc) {mem : VirtDevice MemDevice}
    (hmem : d.devMem.head? = some mem) :
    ∃ mdevs, parseDevices doc .mem = .ok mdevs ∧
      getMemDevice mdevs = [{ type := .mem, dev := mem.dev, id := some "mem" }] := by
  obtain ⟨_, ⟨size, maxsize, dumpCore⟩, _⟩ := mem
  -- of the two elements one has the size and the other the limit
  have hcurrent : parseMemDevice
      (xmlNewChild nodeContent "currentMemory" (some (toString size.toNat))) =
      .ok { dev := { size } } := by
    simp [parseMemDevice, contentText_repr hdoc]
  have hmemory : parseMemDevice (.elem "memory" (dumpCoreProp dumpCore)
      (nodeContent (toString maxsize.toNat))) = .ok { dev := { maxsize, dumpCore } } := by
    cases dumpCore <;> simp [parseMemDevice, contentText_repr hdoc, dumpCoreProp, streqc]
  -- the two devices that are read are merged into one
  refine ⟨[{ dev := { size } }, { dev := { maxsize, dumpCore } }], ?_, ?_⟩
  · show doParse parseMemDevice (xpathNodes doc .mem) = _
    rw [(xpathNodes_capacities h).1, memXml, hmem]
    dsimp only
    rw [doParse, hcurrent, doParse, hmemory]
    rfl
  · simp [getMemDevice, u64_max_zero, u64_zero_max]

/-- The processors that are read: their count after the scan, and no weight. -/
theorem parseDevices_proc (hdoc : ContentDocumented nodeContent)
    (h : systemToXml nodeContent newUuid d = .ok doc) {vcpu : VirtDevice VcpuDevice}
    (hvcpu : d.devVcpu.head? = some vcpu) :
    parseDevices doc .proc = .ok
      [{ type := .proc, dev := { quantity := scannedCount vcpu.dev.quantity }
         id := some "proc" }] := by
  show doParse parseVcpuDevice (xpathNodes doc .proc) = _
  rw [(xpathNodes_capacities h).2, vcpuXml, hvcpu]
  simp [doParse, parseVcpuDevice, contentText_repr hdoc, scanI32_repr, scannedCount]

/-! ### The round trip -/

/-- The document is read as these capacities: one device for the memory and one for the
processors. The processors are compared without what belongs to a running guest. -/
def CapacityComesBack (doc : Node) (mem : MemDevice) (vcpu : VcpuDevice) : Prop :=
  ∃ mdevs mem' vcpu', parseDevices doc .mem = .ok mdevs ∧ getMemDevice mdevs = [mem'] ∧
    parseDevices doc .proc = .ok [vcpu'] ∧ mem'.dev = mem ∧
    vcpu'.dev.quantity = vcpu.quantity ∧ vcpu'.dev.weight = vcpu.weight

/-- **Memory and processors through the generator and back.** They come back if and only if the
count of the processors fits into 31 bits or has all 64 bits set, and their weight is zero. The
document has one element for either (`parseDevices_mem`, `parseDevices_proc`); the count is read
with `%i`, which is what limits it (`scannedCount_eq_iff`), and a weight is not read at all. -/
theorem capacity_comesBack_iff (hdoc : ContentDocumented nodeContent)
    (h : systemToXml nodeContent newUuid d = .ok doc) {mem : VirtDevice MemDevice}
    {vcpu : VirtDevice VcpuDevice} (hmem : d.devMem.head? = some mem)
    (hvcpu : d.devVcpu.head? = some vcpu) :
    CapacityComesBack doc mem.dev vcpu.dev ↔
      (vcpu.dev.quantity.toNat < 2 ^ 31 ∨ vcpu.dev.quantity = -1) ∧ vcpu.dev.weight = 0 := by
  obtain ⟨mdevs, hmdevs, hmerged⟩ := parseDevices_mem hdoc h hmem
  have hproc := parseDevices_proc hdoc h hvcpu
  rw [← scannedCount_eq_iff]
  constructor
  -- what is read of the processors is one device, whose count has been scanned
  · rintro ⟨_, _, vcpu', -, -, hvcpu', -, hquantity, hweight⟩
    rw [hproc] at hvcpu'
    cases hvcpu'
    exact ⟨hquantity, hweight.symm⟩
  · rintro ⟨hquantity, hweight⟩
    exact ⟨mdevs, _, _, hmdevs, hmerged, hproc, rfl, hquantity, hweight.symm⟩

end Document

/-- A guest with some processors. -/
def smpDomain (vcpu : VcpuDevice) : Domain where
  type := .kvm
  name := some "guest"
  typestr := some "kvm"
  osInfo := { type := some "hvm", bootlist := [some "hd"] }
  devMem := [{ type := .mem, dev := { size := 524288, maxsize := 1048576, dumpCore := .off } }]
  devVcpu := [{ type := .proc, dev := vcpu }]

theorem capacity_comesBack_smpDomain :
    ∃ doc, systemToXml textNodes "" (smpDomain { quantity := 4 }) = .ok doc ∧
      (CapacityComesBack doc { size := 524288, maxsize := 1048576, dumpCore := .off }
          { quantity := 4 } ↔
        ((4 : UInt64).toNat < 2 ^ 31 ∨ (4 : UInt64) = -1) ∧ (0 : UInt32) = 0) := by
  have hdoc : ContentDocumented textNodes := fun _ _ => rfl
  obtain ⟨doc, h⟩ : ∃ doc, systemToXml textNodes "" (smpDomain { quantity := 4 }) = .ok doc :=
    ⟨_, rfl⟩
  exact ⟨doc, h, capacity_comesBack_iff hdoc h rfl rfl⟩

/-- The processors come back from every document that is written for them. -/
def CapacityRoundTrip (vcpu : VcpuDevice) : Prop :=
  ∀ doc, systemToXml textNodes "" (smpDomain vcpu) = .ok doc →
    CapacityComesBack doc { size := 524288, maxsize := 1048576, dumpCore := .off } vcpu

/-- A count of 32 bits does not come back, nor does the weight a KVM guest has by default. -/
theorem not_capacity_roundTrip :
    ¬ CapacityRoundTrip { quantity := 2147483648 } ∧
    ¬ CapacityRoundTrip { quantity := 1, weight := 1024 } := by
  have hdoc : ContentDocumented textNodes := fun _ _ => rfl
  refine ⟨fun h => ?_, fun h => ?_⟩
  · obtain ⟨doc, hxml⟩ : ∃ doc,
        systemToXml textNodes "" (smpDomain { quantity := 2147483648 }) = .ok doc := ⟨_, rfl⟩
    obtain ⟨_, _, vcpu', -, -, hvcpu', -, hquantity, -⟩ := h doc hxml
    rw [parseDevices_proc hdoc hxml rfl] at hvcpu'
    cases hvcpu'
    exact absurd ((scannedCount_eq_iff 2147483648).mp hquantity) (by decide)
  · obtain ⟨doc, hxml⟩ : ∃ doc,
        systemToXml textNodes "" (smpDomain { quantity := 1, weight := 1024 }) = .ok doc := ⟨_, rfl⟩
    obtain ⟨_, _, vcpu', -, -, hvcpu', -, -, hweight⟩ := h doc hxml
    rw [parseDevices_proc hdoc hxml rfl] at hvcpu'
    cases hvcpu'
    exact absurd hweight (by decide)

end LibvirtCim.Device
