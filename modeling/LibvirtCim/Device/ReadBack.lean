import LibvirtCim.Device.XmlGen
import LibvirtCim.Framework.Fold

/-!
# Reading generated elements

What the loops of the parsers make of the parts that several generators write: a child
with one attribute, when it has a value, and an address.
-/

open Framework

namespace LibvirtCim.Device

/-- The address as it is read back: each key with the first of its values. -/
def readBack (addr : DeviceAddress) : DeviceAddress :=
  addr.map fun entry => (entry.1, (addr.lookup entry.1).getD "")

/-- An address with distinct keys is read back as it is. -/
theorem readBack_of_nodup {addr : DeviceAddress} (h : (addr.map Prod.fst).Nodup) :
    readBack addr = addr := by
  induction addr with
  | nil => rfl
  | cons entry addr ih =>
    obtain ⟨k, v⟩ := entry
    rw [List.map_cons, List.nodup_cons] at h
    have htail : addr.map (fun entry => (entry.1, (List.lookup entry.1 ((k, v) :: addr)).getD ""))
        = readBack addr := by
      refine List.map_congr_left fun entry hmem => ?_
      have hne : entry.1 ≠ k := by
        rintro rfl
        have hkey := List.mem_map_of_mem (f := Prod.fst) hmem
        exact h.1 hkey
      rw [List.lookup_cons, beq_eq_false_iff_ne.mpr hne]
    rw [readBack, List.map_cons, htail, ih h.2, List.lookup_cons_self]
    rfl

theorem lookup_map_of_key (f : String → String) (l : List (String × String)) (k : String) :
    (l.map fun entry => (entry.1, f entry.1)).lookup k = (l.lookup k).map fun _ => f k := by
  induction l with
  | nil => rfl
  | cons entry l ih =>
    obtain ⟨key, value⟩ := entry
    rw [List.map_cons, List.lookup_cons, List.lookup_cons]
    by_cases hkey : k = key
    · rw [hkey]
      simp
    · rw [beq_eq_false_iff_ne.mpr hkey]
      exact ih

/-- What has been read back once does not change any more. -/
theorem readBack_readBack (addr : DeviceAddress) : readBack (readBack addr) = readBack addr := by
  show (readBack addr).map (fun entry => (entry.1, ((readBack addr).lookup entry.1).getD "")) = _
  have hlookup (k : String) :
      ((readBack addr).lookup k).getD "" = (addr.lookup k).getD "" := by
    rw [readBack, lookup_map_of_key fun key => (addr.lookup key).getD ""]
    cases addr.lookup k <;> rfl
  simp only [hlookup]
  rw [readBack, List.map_map]
  rfl

variable {ε σ : Type} {f : σ → Node → Except ε σ} {s : σ}

/-- A child that is written when it has a value sets that value. -/
theorem foldlM_optional {child : String → Node} (set : Option String → σ)
    (hchild : ∀ v, f s (child v) = .ok (set (some v))) (hnone : set none = s)
    (value : Option String) : (value.toList.map child).foldlM f s = .ok (set value) := by
  cases value with
  | none =>
    rw [hnone]
    rfl
  | some v =>
    show (f s (child v)).bind _ = _
    rw [hchild v]
    rfl

/-- An `address` child is added to the address. -/
theorem foldlM_deviceAddressXml {set : DeviceAddress → σ} {old : DeviceAddress}
    (hchild : ∀ child, child.name = "address" →
      f s child = .ok (set (parseDeviceAddress child old))) (hold : old = []) (hnone : set old = s)
    (addr : DeviceAddress) : (deviceAddressXml addr).foldlM f s = .ok (set (readBack addr)) := by
  subst hold
  unfold deviceAddressXml
  split
  · next hnil =>
    rw [hnil, readBack, List.map_nil, hnone]
    rfl
  · rw [List.foldlM_cons, hchild _ rfl]
    rfl

end LibvirtCim.Device
