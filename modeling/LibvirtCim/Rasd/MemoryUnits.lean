import LibvirtCim.Rasd.ToVdev

/-!
# Units of memory

`mem_rasd_to_vdev` turns the unit of a setting into a shift of its 64-bit values. What the values
stand for is a number of bytes, and the device should get it in KiB.

* `memShift_cases` — what the shift of a unit makes of a value;
* `convertsExactly_iff` — when the sizes of the device are those of the setting.
-/

open LibvirtCim.Device

namespace LibvirtCim.Rasd

/-- The bytes of a unit. -/
def unitBytes (units : String) : Option ℕ :=
  if streqc units "Bytes" then some 1
  else if streqc units "KiloBytes" then some 1024
  else if streqc units "MegaBytes" then some (1024 * 1024)
  else if streqc units "GigaBytes" then some (1024 * 1024 * 1024)
  else none

/-- The KiB of a value, rounded down. -/
def kibOf (value : UInt64) (bytes : ℕ) : ℕ := value.toNat * bytes / 1024

/-- The size a setting asks for. -/
def requestedSize (inst : Instance) : Option UInt64 :=
  (inst.getU64 "VirtualQuantity").or (inst.getU64 "Reservation")

/-- The limit it asks for, which is the size if there is none. -/
def requestedLimit (inst : Instance) (size : UInt64) : UInt64 := (inst.getU64 "Limit").getD size

/-- The unit it is given in. -/
def requestedUnits (inst : Instance) : String := (inst.getStr "AllocationUnits").getD "Bytes"

/-- **What is asked of `mem_rasd_to_vdev`**: the setting is rejected, or the sizes of the device are
the KiB it stands for, in the order of the setting. -/
def ConvertsExactly (inst : Instance) (dev : VirtDevice MemDevice) : Prop :=
  (∃ e, memRasdToVdev inst dev = .error e) ∨
    ∃ dev' size bytes, memRasdToVdev inst dev = .ok dev' ∧ requestedSize inst = some size ∧
      unitBytes (requestedUnits inst) = some bytes ∧
      dev'.dev.size.toNat = kibOf size bytes ∧
      dev'.dev.maxsize.toNat = kibOf (requestedLimit inst size) bytes ∧
      (size ≤ requestedLimit inst size → dev'.dev.size ≤ dev'.dev.maxsize)

variable {inst : Instance} {dev : VirtDevice MemDevice}

/-! ### The shifts -/

theorem toNat_shiftRight_ten (value : UInt64) :
    (value >>> 10).toNat = kibOf value 1 % 2 ^ 64 := by
  have hlt := value.toNat_lt
  rw [kibOf, Nat.mul_one, UInt64.toNat_shiftRight, Nat.shiftRight_eq_div_pow]
  exact (Nat.mod_eq_of_lt (Nat.lt_of_le_of_lt (Nat.div_le_self _ _) hlt)).symm

theorem toNat_id (value : UInt64) : value.toNat = kibOf value 1024 % 2 ^ 64 := by
  rw [kibOf, Nat.mul_div_cancel _ (by decide), Nat.mod_eq_of_lt value.toNat_lt]

theorem toNat_shiftLeft_ten (value : UInt64) :
    (value <<< 10).toNat = kibOf value (1024 * 1024) % 2 ^ 64 := by
  rw [kibOf, ← Nat.mul_assoc, Nat.mul_div_cancel _ (by decide), UInt64.toNat_shiftLeft,
    Nat.shiftLeft_eq]
  rfl

theorem toNat_shiftLeft_twenty (value : UInt64) :
    (value <<< 20).toNat = kibOf value (1024 * 1024 * 1024) % 2 ^ 64 := by
  rw [kibOf, ← Nat.mul_assoc, Nat.mul_div_cancel _ (by decide), UInt64.toNat_shiftLeft,
    Nat.shiftLeft_eq]
  rfl

/-- **What a unit makes of a value**: its KiB, modulo the width of the value. There is a shift for
the units that are known. -/
theorem memShift_cases (units : String) :
    memShift units = none ∧ unitBytes units = none ∨
      ∃ shift bytes, memShift units = some shift ∧ unitBytes units = some bytes ∧
        ∀ value, (shift value).toNat = kibOf value bytes % 2 ^ 64 := by
  unfold memShift unitBytes
  -- the units in the order of the code, each with its shift
  by_cases hbytes : streqc units "Bytes"
  · rw [if_pos hbytes, if_pos hbytes]
    exact .inr ⟨_, _, rfl, rfl, toNat_shiftRight_ten⟩
  rw [if_neg hbytes, if_neg hbytes]
  by_cases hkilo : streqc units "KiloBytes"
  · rw [if_pos hkilo, if_pos hkilo]
    exact .inr ⟨_, _, rfl, rfl, toNat_id⟩
  rw [if_neg hkilo, if_neg hkilo]
  by_cases hmega : streqc units "MegaBytes"
  · rw [if_pos hmega, if_pos hmega]
    exact .inr ⟨_, _, rfl, rfl, toNat_shiftLeft_ten⟩
  rw [if_neg hmega, if_neg hmega]
  by_cases hgiga : streqc units "GigaBytes"
  · rw [if_pos hgiga, if_pos hgiga]
    exact .inr ⟨_, _, rfl, rfl, toNat_shiftLeft_twenty⟩
  · rw [if_neg hgiga, if_neg hgiga]
    exact .inl ⟨rfl, rfl⟩

/-! ### The sizes -/

/-- A setting that is rejected: it has no size, or a unit that is not known. -/
theorem memRasdToVdev_error_iff :
    (∃ e, memRasdToVdev inst dev = .error e) ↔
      requestedSize inst = none ∨ unitBytes (requestedUnits inst) = none := by
  rw [memRasdToVdev, ← requestedSize, ← requestedUnits]
  cases requestedSize inst with
  | none => exact iff_of_true ⟨_, rfl⟩ (.inl rfl)
  | some size =>
    obtain ⟨hshift, hbytes⟩ | ⟨shift, bytes, hshift, hbytes, _⟩ :=
      memShift_cases (requestedUnits inst)
    · dsimp only
      rw [hshift, hbytes]
      exact iff_of_true ⟨_, rfl⟩ (.inr rfl)
    · dsimp only
      rw [hshift, hbytes]
      exact iff_of_false (fun ⟨_, h⟩ => nomatch h) fun h => h.elim (nomatch ·) (nomatch ·)

/-- The device of a setting that is not. -/
theorem memRasdToVdev_ok {size : UInt64} {bytes : ℕ} (hsize : requestedSize inst = some size)
    (hbytes : unitBytes (requestedUnits inst) = some bytes) :
    ∃ dev', memRasdToVdev inst dev = .ok dev' ∧
      dev'.dev.size.toNat = kibOf size bytes % 2 ^ 64 ∧
      dev'.dev.maxsize.toNat = kibOf (requestedLimit inst size) bytes % 2 ^ 64 := by
  rw [memRasdToVdev, ← requestedSize, ← requestedUnits, hsize]
  obtain ⟨_, hnone⟩ | ⟨shift, bytes', hshift, hbytes', hvalue⟩ :=
    memShift_cases (requestedUnits inst)
  · rw [hbytes] at hnone
    cases hnone
  · rw [hbytes] at hbytes'
    cases hbytes'
    dsimp only
    rw [hshift]
    exact ⟨_, rfl, hvalue size, hvalue (requestedLimit inst size)⟩

theorem kibOf_mono {a b : UInt64} (h : a ≤ b) (bytes : ℕ) : kibOf a bytes ≤ kibOf b bytes :=
  Nat.div_le_div_right (Nat.mul_le_mul_right bytes (UInt64.le_iff_toNat_le.mp h))

/-- **When memory is converted exactly**: the setting is rejected, or neither its size nor its
limit has more KiB than 64 bits hold. The device has the KiB of the request modulo `2 ^ 64`
(`memRasdToVdev_ok`), which loses nothing exactly below that bound. -/
theorem convertsExactly_iff (inst : Instance) (dev : VirtDevice MemDevice) :
    ConvertsExactly inst dev ↔
      ∀ size bytes, requestedSize inst = some size →
        unitBytes (requestedUnits inst) = some bytes →
        kibOf size bytes < 2 ^ 64 ∧ kibOf (requestedLimit inst size) bytes < 2 ^ 64 := by
  rw [ConvertsExactly, memRasdToVdev_error_iff]
  refine ⟨?_, fun h => ?_⟩
  -- what was converted is a number of 64 bits, so the exact one has no more
  · rintro (hrejected | ⟨dev', size', bytes', _, hsize', hbytes', hdev, hmax, _⟩) size bytes hsize
      hbytes
    · rw [hsize, hbytes] at hrejected
      exact hrejected.elim (nomatch ·) (nomatch ·)
    · rw [hsize] at hsize'
      rw [hbytes] at hbytes'
      cases hsize'
      cases hbytes'
      rw [← hdev, ← hmax]
      exact ⟨dev'.dev.size.toNat_lt, dev'.dev.maxsize.toNat_lt⟩
  -- a rejected setting asks for nothing
  · by_cases hrejected : requestedSize inst = none ∨ unitBytes (requestedUnits inst) = none
    · exact .inl hrejected
    right
    obtain ⟨size, hsize⟩ := Option.ne_none_iff_exists'.mp fun h => hrejected (.inl h)
    obtain ⟨bytes, hbytes⟩ := Option.ne_none_iff_exists'.mp fun h => hrejected (.inr h)
    obtain ⟨hfits, hlimitFits⟩ := h size bytes hsize hbytes
    obtain ⟨dev', hdev', hdev, hmax⟩ := memRasdToVdev_ok hsize hbytes
    -- below the bound nothing is lost, and the order of size and limit is kept
    rw [Nat.mod_eq_of_lt hfits] at hdev
    rw [Nat.mod_eq_of_lt hlimitFits] at hmax
    refine ⟨dev', size, bytes, hdev', hsize, hbytes, hdev, hmax, fun hle => ?_⟩
    rw [UInt64.le_iff_toNat_le, hdev, hmax]
    exact kibOf_mono hle bytes

/-- A setting of more gigabytes than 64 bits hold KiB. -/
def hugeMemory : Instance where
  pfx := "KVM"
  base := "MemResourceAllocationSettingData"
  props := [("VirtualQuantity", .uint64 17592186044416), ("AllocationUnits", .string "GigaBytes")]

/-- The device gets no memory at all. -/
theorem not_convertsExactly :
    ¬ ∀ (inst : Instance) (dev : VirtDevice MemDevice), ConvertsExactly inst dev := by
  intro h
  -- 2 ^ 44 GiB are 0 KiB in 64 bits
  have hrun : memRasdToVdev hugeMemory { dev := {} } = .ok { dev := {} } := by decide
  have hsize : requestedSize hugeMemory = some 17592186044416 := by decide
  have hbytes : unitBytes (requestedUnits hugeMemory) = some (1024 * 1024 * 1024) := by decide
  obtain ⟨e, he⟩ | ⟨dev', size, bytes, hdev', hsize', hbytes', hexact, _⟩ :=
    h hugeMemory { dev := {} }
  · rw [hrun] at he
    cases he
  · rw [hrun] at hdev'
    rw [hsize] at hsize'
    rw [hbytes] at hbytes'
    cases hdev'
    cases hsize'
    cases hbytes'
    exact absurd hexact (by decide)

end LibvirtCim.Rasd
