import LibvirtCim.Framework.OwnedStrings
import Mathlib.Data.Finset.Lattice.Fold
import Mathlib.Order.Lattice.Nat

/-!
# The boot order of a domain

`bootord_vssd_to_domain` replaces the boot list of a domain by the strings of the property
`BootDevices`. The list is an array of strings and a count, so the model has the heap they are in.

On the way out of an error the count and the array are what they were before, while the strings of
the list were given back and the array was moved or given back too. `bootListKept_iff` says when the
domain is left with a list that it owns. The translation of settings needs no more than the list
that comes out, `BootDevices.replace`; that this is what the function on the heap makes is
`bootordVssdToDomain_replace`.
-/

open Framework

namespace LibvirtCim.Service

/-! ### The code -/

/-- An element of an array property: null, a string, whose characters may not be available, or a
value of another type. -/
inductive BootElem where
  | null
  | string (chars : Option String)
  | other
  deriving DecidableEq, Repr

/-- The property `BootDevices`, as `cu_get_array_prop` and `CMGetArrayCount` read it: none, or null;
an array without a size; an array. -/
inductive BootDevices where
  | absent
  | unsized
  | array (elems : List BootElem)
  deriving DecidableEq, Repr

/-- The boot list of `struct fv_os_info`. -/
structure BootList where
  bootlist : ℕ
  bootlistCt : ℕ
  deriving DecidableEq, Repr

/-- What `bootord_vssd_to_domain` returns, and the heap and the domain it leaves. -/
structure BootResult where
  ret : Bool
  heap : Heap
  boot : BootList

/-- The elements are copied into `tmp_str_arr`. An element that is not a string is read as one, and
nothing is known after that. -/
def copyElements (mem : Allocator) (tmpStrArr : ℕ) :
    List BootElem → ℕ → Heap → Option (Except Heap Heap)
  | [], _, h => some (.ok h)
  | .null :: _, _, h => (h.free tmpStrArr).map .error
  | .string none :: _, _, h => (h.free tmpStrArr).map .error
  | .string (some str) :: elems, i, h =>
    match (h.strdup mem str).store tmpStrArr i (h.fresh mem) with
    | none => none
    | some h => copyElements mem tmpStrArr elems (i + 1) h
  | .other :: _, _, _ => none

/-- The part of `bootord_vssd_to_domain` that takes the elements of the array. -/
def takeElements (mem : Allocator) (how : Resized) (elems : List BootElem) (h : Heap)
    (domain : BootList) : Option BootResult := do
  let r ← h.realloc mem how domain.bootlist elems.length
  if r.2 = 0 then some { ret := false, heap := r.1, boot := domain }
  else
    match ← copyElements mem r.2 elems 0 r.1 with
    | .error h => some { ret := false, heap := h, boot := domain }
    | .ok h =>
      some { ret := true, heap := h, boot := { bootlist := r.2, bootlistCt := elems.length } }

/-- `bootord_vssd_to_domain`. -/
def bootordVssdToDomain (mem : Allocator) (how : Resized) (inst : BootDevices) (h : Heap)
    (domain : BootList) : Option BootResult := do
  let h ← Heap.freeEntries domain.bootlist h (List.range domain.bootlistCt)
  match inst with
  | .absent => some { ret := true, heap := h, boot := { domain with bootlistCt := 0 } }
  | .unsized => some { ret := false, heap := h, boot := domain }
  | .array elems => takeElements mem how elems h domain

/-- `cleanup_bootlist`. -/
def cleanupBootlist (h : Heap) (domain : BootList) : Option Heap := do
  let h ← Heap.freeEntries domain.bootlist h (List.range domain.bootlistCt).reverse
  h.free domain.bootlist

/-- The boot list that `_xenfv_os_xml` and `_kvm_os_xml` set where there is none. -/
def defaultBootlist (mem : Allocator) (h : Heap) (domain : BootList) : Option (Heap × BootList) :=
  if domain.bootlistCt = 0 then
    let array := h.newArray mem 1
    ((array.strdup mem "hd").store (h.fresh mem) 0 (array.fresh mem)).map fun h' =>
      (h', { bootlist := h.fresh mem, bootlistCt := 1 })
  else some (h, domain)

/-- The attributes `dev` that `_fv_bootlist_xml` writes for the list. -/
def bootDevs (mem : Allocator) (h : Heap) (domain : BootList) : Option (List (Option String)) := do
  let r ← defaultBootlist mem h domain
  r.1.strings r.2.bootlist r.2.bootlistCt

/-! ### Lists that are owned, and lists that are replaced -/

/-- The strings that are given. -/
def BootElem.chars : BootElem → Option String
  | .string chars => chars
  | _ => none

def BootDevices.strings : BootDevices → Option (List String)
  | .absent => some []
  | .unsized => none
  | .array elems => elems.mapM BootElem.chars

/-- The list that `bootord_vssd_to_domain` makes of one. An array without elements is refused
where there was a list: `realloc` gives the array back and returns no other one. -/
def BootDevices.replace (inst : BootDevices) (bootlist : List (Option String)) :
    Option (List (Option String)) :=
  match inst with
  | .absent => some []
  | .unsized => none
  | .array elems =>
    if elems = [] ∧ bootlist ≠ [] then none
    else (elems.mapM BootElem.chars).map fun strs => strs.map some

/-- The domain owns its list, and a clean-up or the next document goes through. -/
structure BootListOwned (mem : Allocator) (h : Heap) (domain : BootList) : Prop where
  owned : Owned h domain.bootlist domain.bootlistCt
  cleanup : (cleanupBootlist h domain).isSome
  xml : (bootDevs mem h domain).isSome

/-- The call returns, the list is owned, and where it succeeds it is what was given. A call that
does not return has followed a pointer to a string that was given back or never there. -/
def BootListKept (mem : Allocator) (how : Resized) (inst : BootDevices) (h : Heap)
    (domain : BootList) : Prop :=
  ∃ r, bootordVssdToDomain mem how inst h domain = some r ∧ BootListOwned mem r.heap r.boot ∧
    (r.ret = true → ∃ strs, inst.strings = some strs ∧
      r.heap.strings r.boot.bootlist r.boot.bootlistCt = some (strs.map some))

/-- The first element that is no string. -/
def firstOdd (elems : List BootElem) : Option BootElem :=
  elems.find? fun elem => elem.chars.isNone

/-- When the list is kept. Settings without the property leave it alone. Where the array cannot be
used, or there is no memory, the old strings are gone and there must have been none; an empty
array has the list freed while the domain still points to it; an element of another type ends the
process; and behind a null one the list is kept only if there was none before. -/
def BootListFits (how : Resized) (inst : BootDevices) (h : Heap) (domain : BootList) : Prop :=
  match inst with
  | .absent => True
  | .unsized => ∀ i < domain.bootlistCt, h.entry domain.bootlist i = 0
  | .array elems =>
    if elems = [] ∧ domain.bootlist ≠ 0 then False
    else if how.memory = false then ∀ i < domain.bootlistCt, h.entry domain.bootlist i = 0
    else
      match firstOdd elems with
      | none => True
      | some .other => False
      | some _ => domain.bootlist = 0

/-! ### A list that is owned -/

theorem cleanupBootlist_of_owned {h : Heap} {domain : BootList}
    (ho : Owned h domain.bootlist domain.bootlistCt) : (cleanupBootlist h domain).isSome := by
  have hlt : ∀ i ∈ (List.range domain.bootlistCt).reverse, i < domain.bootlistCt :=
    fun i hi => List.mem_range.mp (List.mem_reverse.mp hi)
  obtain ⟨h', h'', hfree, hfree'⟩ := ho.free hlt (List.nodup_reverse.mpr List.nodup_range)
  rw [cleanupBootlist, hfree]
  simp only [Option.bind_eq_bind, Option.bind_some, hfree', Option.isSome_some]

theorem bootDevs_of_owned (mem : Allocator) {h : Heap} {domain : BootList}
    (ho : Owned h domain.bootlist domain.bootlistCt) : (bootDevs mem h domain).isSome := by
  by_cases hct : domain.bootlistCt = 0
  · -- the default is an array of its own
    have hprefix : OwnsPrefix (h.newArray mem 1) (h.fresh mem) 0 :=
      ⟨.inr ⟨Finset.mem_insert_self _ _, Nat.zero_le _⟩, fun _ hi => absurd hi (Nat.not_lt_zero _),
        fun _ hi => absurd hi (Nat.not_lt_zero _)⟩
    have hsize : 0 < (h.newArray mem 1).size (h.fresh mem) := by
      rw [show (h.newArray mem 1).size (h.fresh mem) = 1 from Function.update_self _ _ _]
      exact Nat.one_pos
    obtain ⟨h', hstore, hprefix', -⟩ :=
      hprefix.push (Finset.mem_insert_self _ _) hsize mem "hd"
    rw [bootDevs, defaultBootlist, if_pos hct]
    simp only [hstore, Option.map_some, Option.bind_eq_bind, Option.bind_some]
    rw [hprefix'.strings]
    rfl
  -- a list that is there is read from its own strings
  · rw [bootDevs, defaultBootlist, if_neg hct, Option.bind_eq_bind, Option.bind_some, ho.strings]
    rfl

/-- **An owned list can be cleaned up and written.** -/
theorem bootListOwned_iff (mem : Allocator) (h : Heap) (domain : BootList) :
    BootListOwned mem h domain ↔ Owned h domain.bootlist domain.bootlistCt :=
  ⟨BootListOwned.owned, fun ho => ⟨ho, cleanupBootlist_of_owned ho, bootDevs_of_owned mem ho⟩⟩

/-! ### The steps of the function -/

/-- There is an element, or no array yet. -/
theorem length_ne_zero_or {elems : List BootElem} {a : ℕ} (h : ¬ (elems = [] ∧ a ≠ 0)) :
    elems.length ≠ 0 ∨ a = 0 := by
  by_contra hnot
  rw [not_or, not_ne_iff, List.length_eq_zero_iff] at hnot
  exact h hnot

/-- With an element that is no string there are no strings. -/
theorem mapM_chars_of_firstOdd {elems : List BootElem} {elem : BootElem}
    (h : firstOdd elems = some elem) : elems.mapM BootElem.chars = none := by
  induction elems with
  | nil => cases h
  | cons first elems ih =>
    rw [List.mapM_cons]
    cases hchars : first.chars with
    | none => rfl
    | some str =>
      have hrest : firstOdd elems = some elem := by
        rw [← h, firstOdd, firstOdd, List.find?_cons, hchars]
        rfl
      rw [ih hrest]
      rfl

/-- What the loop over the elements leaves, by the first of them that is no string. -/
theorem copyElements_cases (mem : Allocator) {tmp : ℕ} (elems : List BootElem) {k : ℕ} {h : Heap}
    (ho : OwnsPrefix h tmp k) (ha : tmp ∈ h.arrays) (hsize : k + elems.length ≤ h.size tmp) :
    (firstOdd elems = none ∧ ∃ h' strs, copyElements mem tmp elems k h = some (.ok h') ∧
      OwnsPrefix h' tmp (k + elems.length) ∧ tmp ∈ h'.arrays ∧ h'.size = h.size ∧
      elems.mapM BootElem.chars = some strs ∧
      h'.strings tmp (k + elems.length) = (h.strings tmp k).map (· ++ strs.map some)) ∨
    (firstOdd elems = some .other ∧ copyElements mem tmp elems k h = none) ∨
    ∃ elem h', firstOdd elems = some elem ∧ elem ≠ .other ∧
      copyElements mem tmp elems k h = some (.error h') ∧ h'.arrays = h.arrays.erase tmp := by
  induction elems generalizing k h with
  -- nothing is left to copy, and what was copied is owned
  | nil =>
    refine .inl ⟨rfl, h, [], rfl, ho, ha, rfl, rfl, ?_⟩
    rw [ho.strings, Option.map_some, List.map_nil, List.append_nil]
    exact ho.strings
  | cons elem elems ih =>
    -- every failure gives the array back
    obtain ⟨h', hfree, -, harrays, -⟩ := Heap.free_array ha
    cases elem with
    -- a null element, an element that is no string and a null string, in the order of the tests
    | null =>
      exact .inr (.inr
        ⟨.null, h', rfl, BootElem.noConfusion, by rw [copyElements, hfree]; rfl, harrays⟩)
    | other => exact .inr (.inl ⟨rfl, rfl⟩)
    | string chars =>
      cases chars with
      | none =>
        exact .inr (.inr ⟨.string none, h', rfl, BootElem.noConfusion,
          by rw [copyElements, hfree]; rfl, harrays⟩)
      | some str =>
        rw [List.length_cons] at hsize
        -- the string is copied, which extends the owned prefix by one
        obtain ⟨h₁, hstore, ho₁, harrays₁, hsize₁, hstrings₁⟩ :=
          ho.push ha (by omega) mem str
        have hodd : firstOdd (.string (some str) :: elems) = firstOdd elems := rfl
        have hcopy : copyElements mem tmp (.string (some str) :: elems) k h =
            copyElements mem tmp elems (k + 1) h₁ := by
          rw [copyElements, hstore]
        rw [hodd, hcopy, List.length_cons, Nat.add_comm elems.length 1, ← Nat.add_assoc]
        rcases ih ho₁ (harrays₁ ▸ ha) (by rw [hsize₁]; omega) with
          ⟨hnone, h₂, strs, hok, ho₂, ha₂, hsize₂, hchars, hstrings₂⟩ | hother |
          ⟨e, h₂, he, hne, herr, harr⟩
        -- the rest is copied as well, with this string in front
        · refine .inl ⟨hnone, h₂, str :: strs, hok, ho₂, ha₂, hsize₂.trans hsize₁, ?_, ?_⟩
          · rw [List.mapM_cons, hchars]
            rfl
          · rw [hstrings₂, hstrings₁, ho.strings, Option.map_some, Option.map_some, Option.map_some,
              List.append_assoc]
            rfl
        · exact .inr (.inl hother)
        · exact .inr (.inr ⟨e, h₂, he, hne, herr, harr.trans (by rw [harrays₁])⟩)

section Kept

variable {mem : Allocator} {how : Resized} {h h₁ : Heap} {domain : BootList}

/-- The list is owned after its strings were given back, if it has none. -/
theorem owned_freed_iff (ho : Owned h domain.bootlist domain.bootlistCt)
    (hstrs : ∀ b, b ∈ h₁.strs ↔
      b ∈ h.strs ∧ ∀ i ∈ List.range domain.bootlistCt, b ≠ h.entry domain.bootlist i)
    (harrays : h₁.arrays = h.arrays) (hsize : h₁.size = h.size) (hentry : h₁.entry = h.entry) :
    Owned h₁ domain.bootlist domain.bootlistCt ↔
      ∀ i < domain.bootlistCt, h.entry domain.bootlist i = 0 := by
  -- a null entry is owned whatever became of the strings
  refine ⟨fun ho₁ i hi => ?_, fun hnull => ⟨⟨?_, ?_, ?_⟩, ?_⟩⟩
  · -- a string of the list is not in use any more
    refine (ho₁.entries i hi).elim (fun h0 => hentry ▸ h0) fun hmem => ?_
    rw [hentry, hstrs] at hmem
    exact absurd rfl (hmem.2 i (List.mem_range.mpr hi))
  · rw [harrays, hsize]
    exact ho.array
  · intro i hi
    rw [hentry]
    exact .inl (hnull i hi)
  · intro i hi j _ _ h0
    rw [hentry] at h0
    exact absurd (hnull i hi) h0
  -- behind the list nothing is in use, before and after
  · intro h0 i hi hlt hmem
    rw [hentry, hstrs] at hmem
    exact ho.rest h0 i hi (hsize ▸ hlt) hmem.1

/-- The list of no entries is owned after the strings were given back. -/
theorem owned_zero (ho : Owned h domain.bootlist domain.bootlistCt)
    (hstrs : ∀ b, b ∈ h₁.strs ↔
      b ∈ h.strs ∧ ∀ i ∈ List.range domain.bootlistCt, b ≠ h.entry domain.bootlist i)
    (harrays : h₁.arrays = h.arrays) (hsize : h₁.size = h.size) (hentry : h₁.entry = h.entry) :
    Owned h₁ domain.bootlist 0 := by
  refine ⟨⟨?_, fun _ hi => absurd hi (Nat.not_lt_zero _),
    fun _ hi => absurd hi (Nat.not_lt_zero _)⟩, ?_⟩
  · rw [harrays]
    exact ho.array.imp (fun h => ⟨h.1, rfl⟩) fun h => ⟨h.1, Nat.zero_le _⟩
  · intro h0 i _ hlt hmem
    rw [hentry, hstrs] at hmem
    rcases Nat.lt_or_ge i domain.bootlistCt with hi | hi
    · exact hmem.2 i (List.mem_range.mpr hi) rfl
    · exact ho.rest h0 i hi (hsize ▸ hlt) hmem.1

/-- A list that is not null and no array is not owned. -/
theorem not_owned_of_not_mem {a n : ℕ} (h0 : a ≠ 0) (ha : a ∉ h.arrays) : ¬ Owned h a n :=
  fun ho => ho.array.elim (fun h => h0 h.1) fun h => ha h.1

/-- **The three ways to take the elements**, with memory and an array to be had: all are strings,
one is no string at all, or one has no characters and the new array is given back. -/
theorem takeElements_cases (mem : Allocator) (hmem : how.memory = true)
    (ha : domain.bootlist = 0 ∨ domain.bootlist ∈ h.arrays) {elems : List BootElem}
    (hn : elems.length ≠ 0 ∨ domain.bootlist = 0) :
    (firstOdd elems = none ∧ ∃ r strs, takeElements mem how elems h domain = some r ∧
      r.ret = true ∧ elems.mapM BootElem.chars = some strs ∧
      r.heap.strings r.boot.bootlist r.boot.bootlistCt = some (strs.map some) ∧
      Owned r.heap r.boot.bootlist r.boot.bootlistCt) ∨
    (firstOdd elems = some .other ∧ takeElements mem how elems h domain = none) ∨
    ∃ elem r, firstOdd elems = some elem ∧ elem ≠ .other ∧
      takeElements mem how elems h domain = some r ∧ r.ret = false ∧ r.boot = domain ∧
      (domain.bootlist ≠ 0 → domain.bootlist ∉ r.heap.arrays) := by
  -- the array is moved, or is made, and nothing of it is owned yet
  obtain ⟨h', q, hrealloc, hq, hqsize, hmoved, -⟩ := @realloc_eq _ mem _ _ _ hn hmem ha
  have hprefix : OwnsPrefix h' q 0 := ⟨.inr ⟨hq, Nat.zero_le _⟩,
    fun _ hi => absurd hi (Nat.not_lt_zero _), fun _ hi => absurd hi (Nat.not_lt_zero _)⟩
  have htake : takeElements mem how elems h domain = (copyElements mem q elems 0 h').bind fun
      | .error h => some { ret := false, heap := h, boot := domain }
      | .ok h => some
          { ret := true, heap := h, boot := { bootlist := q, bootlistCt := elems.length } } := by
    simp only [takeElements, hrealloc, Option.bind_eq_bind, Option.bind_some,
      if_neg (Heap.array_ne_zero hq)]
  rcases copyElements_cases mem elems hprefix hq (by rw [hqsize, Nat.zero_add]) with
    ⟨hodd, h'', strs, hcopy, hprefix', hq', hsize', hchars, hstrings⟩ | ⟨hodd, hcopy⟩ |
    ⟨elem, h'', hodd, hother, hcopy, harrays'⟩
  -- every element was copied, so the new array is the list
  · rw [hcopy] at htake
    refine .inl ⟨hodd, _, strs, htake, rfl, hchars, ?_, ?_, ?_⟩
    · rw [Nat.zero_add, hprefix.strings] at hstrings
      exact hstrings
    · rw [← Nat.zero_add elems.length]
      exact hprefix'
    · intro _ i hi hlt
      rw [hsize', hqsize] at hlt
      exact absurd hlt (Nat.not_lt.mpr hi)
  -- an element that is no string stops the run
  · rw [hcopy] at htake
    exact .inr (.inl ⟨hodd, htake⟩)
  · rw [hcopy] at htake
    refine .inr (.inr ⟨elem, _, hodd, hother, htake, rfl, rfl, fun h0 hmem' => ?_⟩)
    -- the array is the one that was given back, or was given back when it was moved
    rw [harrays', Finset.mem_erase] at hmem'
    exact hmem'.1 (hmoved h0 hmem'.2).symm

/-- **When the domain is left with a list that it owns.** The strings of the old list are given
back first, and their entries still point to them: the list is then owned only if it had none
(`owned_freed_iff`). So each way out before the new strings are in place needs that, and an empty
array needs that there was no list. -/
theorem bootListKept_iff (mem : Allocator) (how : Resized) (inst : BootDevices)
    (ho : Owned h domain.bootlist domain.bootlistCt) :
    BootListKept mem how inst h domain ↔ BootListFits how inst h domain := by
  -- the strings of the old list are freed first, whatever follows
  obtain ⟨h₁, hfree, hstrs, harrays, -, hsize, hentry⟩ := ho.freeEntries
    (fun i hi => List.mem_range.mp hi) (List.nodup_range (n := domain.bootlistCt))
  have hfreed := owned_freed_iff ho hstrs harrays hsize hentry
  unfold BootListKept
  simp only [bootListOwned_iff, bootordVssdToDomain, hfree, Option.bind_eq_bind, Option.bind_some]
  cases inst with
  -- no property: the list is emptied, and keeps its array
  | absent =>
    have hzero := owned_zero ho hstrs harrays hsize hentry
    exact ⟨fun _ => trivial, fun _ => ⟨_, rfl, hzero, fun _ => ⟨[], rfl, rfl⟩⟩⟩
  -- no size: the call fails with the strings freed and their addresses still there
  | unsized =>
    simp only [BootListFits, Option.some.injEq, exists_eq_left', Bool.false_eq_true, false_imp_iff,
      and_true]
    exact hfreed
  | array elems =>
    have ha : domain.bootlist = 0 ∨ domain.bootlist ∈ h₁.arrays :=
      ho.array.imp And.left fun h => harrays ▸ h.1
    rw [BootListFits]
    by_cases hz : elems = [] ∧ domain.bootlist ≠ 0
    · -- the array was given back, and is still the one of the domain
      obtain ⟨h', hrealloc, harrays'⟩ := @realloc_zero _ mem how _ (ha.resolve_left hz.2)
      rw [if_pos hz, iff_false]
      rintro ⟨r, hr, ho', -⟩
      simp only [takeElements, hz.1, List.length_nil, hrealloc, Option.bind_eq_bind,
        Option.bind_some,
        if_true, Option.some.injEq] at hr
      subst hr
      exact not_owned_of_not_mem hz.2 (by rw [harrays']; exact Finset.notMem_erase _ _) ho'
    rw [if_neg hz]
    dsimp only
    have hn := length_ne_zero_or hz
    -- no memory: the same as without a size
    by_cases hmem : how.memory = false
    · rw [if_pos hmem]
      simp only [takeElements, realloc_no_memory hn hmem, Option.bind_eq_bind, Option.bind_some,
        if_true, Option.some.injEq, exists_eq_left', Bool.false_eq_true, false_imp_iff, and_true]
      exact hfreed
    rw [if_neg hmem]
    -- the array is there, so it is the elements that decide
    rcases takeElements_cases mem (Bool.eq_true_of_not_eq_false hmem) ha hn with
      ⟨hodd, r, strs, htake, -, hchars, hstrings, howned⟩ | ⟨hodd, htake⟩ |
      ⟨elem, r, hodd, hother, htake, hret, hboot, hgone⟩
    · rw [hodd]
      exact ⟨fun _ => trivial, fun _ => ⟨r, htake, howned, fun _ => ⟨strs, hchars, hstrings⟩⟩⟩
    · rw [hodd, htake, iff_false]
      rintro ⟨r, hr, -⟩
      cases hr
    -- on a failure the domain keeps the old address, and only a null one is owned
    · have howned : Owned r.heap domain.bootlist domain.bootlistCt ↔ domain.bootlist = 0 := by
        by_cases h0 : domain.bootlist = 0
        · have hct : domain.bootlistCt = 0 :=
            ho.array.elim And.right fun h => absurd h0 (Heap.array_ne_zero h.1)
          rw [h0, hct]
          exact ⟨fun _ => rfl, fun _ => Owned.null r.heap⟩
        · exact ⟨fun ho' => absurd ho' (not_owned_of_not_mem h0 (hgone h0)), fun h => absurd h h0⟩
      rw [hodd, htake]
      simp only [Option.some.injEq, exists_eq_left', hret, hboot, Bool.false_eq_true,
        false_imp_iff, and_true, howned]

/-- **The list that comes out.** With memory, and elements that are strings or null, the function
returns; it succeeds exactly when there is a list to replace the old one, and that is the list the
domain has then. -/
theorem bootordVssdToDomain_replace (mem : Allocator) (hmem : how.memory = true)
    {inst : BootDevices} (ho : Owned h domain.bootlist domain.bootlistCt)
    {bootlist : List (Option String)} (hlist : domain.bootlist = 0 ↔ bootlist = [])
    (hstring : ∀ elems, inst = .array elems → firstOdd elems ≠ some .other) :
    ∃ r, bootordVssdToDomain mem how inst h domain = some r ∧
      (r.ret = true ↔ (inst.replace bootlist).isSome) ∧
      ∀ list, inst.replace bootlist = some list →
        r.heap.strings r.boot.bootlist r.boot.bootlistCt = some list := by
  -- the strings are freed, then the property decides as in the statement before
  obtain ⟨h₁, hfree, -, harrays, -⟩ := ho.freeEntries
    (fun i hi => List.mem_range.mp hi) (List.nodup_range (n := domain.bootlistCt))
  simp only [bootordVssdToDomain, hfree, Option.bind_eq_bind, Option.bind_some]
  cases inst with
  | absent =>
    refine ⟨_, rfl, iff_of_true rfl rfl, ?_⟩
    rintro _ ⟨⟩
    rfl
  | unsized =>
    refine ⟨_, rfl, iff_of_false Bool.false_ne_true Bool.false_ne_true, ?_⟩
    rintro _ ⟨⟩
  | array elems =>
    have ha : domain.bootlist = 0 ∨ domain.bootlist ∈ h₁.arrays :=
      ho.array.imp And.left fun h => harrays ▸ h.1
    -- an empty property over a list gives the array back and fails
    by_cases hz : elems = [] ∧ domain.bootlist ≠ 0
    · have hnone : (BootDevices.array elems).replace bootlist = none :=
        if_pos ⟨hz.1, fun hnil => hz.2 (hlist.mpr hnil)⟩
      obtain ⟨h', hrealloc, -⟩ := @realloc_zero _ mem how _ (ha.resolve_left hz.2)
      refine ⟨{ ret := false, heap := h', boot := domain }, ?_, ?_, ?_⟩
      · simp only [takeElements, hz.1, List.length_nil, hrealloc, Option.bind_eq_bind,
          Option.bind_some, if_true]
      · rw [hnone]
        exact iff_of_false Bool.false_ne_true Bool.false_ne_true
      · rw [hnone]
        rintro _ ⟨⟩
    -- else the strings of the elements are the new list
    have hreplace : (BootDevices.array elems).replace bootlist =
        (elems.mapM BootElem.chars).map fun strs => strs.map some :=
      if_neg fun both => hz ⟨both.1, fun h0 => both.2 (hlist.mp h0)⟩
    rw [hreplace]
    rcases takeElements_cases mem hmem ha (length_ne_zero_or hz) with
      ⟨hodd, r, strs, htake, hret, hchars, hstrings, -⟩ | ⟨hodd, -⟩ |
      ⟨elem, r, hodd, -, htake, hret, -, -⟩
    · rw [hchars]
      refine ⟨r, htake, iff_of_true hret rfl, ?_⟩
      rintro _ ⟨⟩
      exact hstrings
    · exact absurd hodd (hstring elems rfl)
    · rw [mapM_chars_of_firstOdd hodd]
      refine ⟨r, htake, ?_, ?_⟩
      · rw [hret]
        exact iff_of_false Bool.false_ne_true Bool.false_ne_true
      · rintro _ ⟨⟩

end Kept

/-! ### A list with one entry -/

/-- An allocator that goes on from the highest address. -/
def nextAddress : Allocator where
  malloc used := used.sup id + 1
  malloc_ne_zero _ := Nat.succ_ne_zero _
  malloc_fresh _ hmem := absurd (Finset.le_sup (f := id) hmem) (Nat.not_succ_le_self _)

/-- The list `hd`: an array at 8, its string at 16. -/
def hdHeap : Heap where
  strs := {16}
  arrays := {8}
  null_strs h := absurd (Finset.mem_singleton.mp h) (Nat.succ_ne_zero 15).symm
  null_arrays h := absurd (Finset.mem_singleton.mp h) (Nat.succ_ne_zero 7).symm
  disjoint := Finset.disjoint_singleton.mpr
    (Nat.succ_ne_succ_iff.mpr (Nat.succ_ne_succ_iff.mpr nofun))
  text _ := "hd"
  size _ := 1
  entry _ _ := 16

def hdList : BootList := { bootlist := 8, bootlistCt := 1 }

theorem owned_hdList : Owned hdHeap hdList.bootlist hdList.bootlistCt where
  array := .inr ⟨Finset.mem_singleton_self 8, Nat.le_refl 1⟩
  entries _ _ := .inr (Finset.mem_singleton_self 16)
  distinct i hi j hj _ _ := by
    rw [Nat.lt_one_iff.mp hi, Nat.lt_one_iff.mp hj]
  rest _ _ hle hlt := absurd hlt (Nat.not_lt.mpr hle)

/-- The list is replaced by two strings. -/
theorem bootListKept_two :
    BootListKept nextAddress { memory := true, inPlace := false }
      (.array [.string (some "cdrom"), .string (some "hd")]) hdHeap hdList :=
  (bootListKept_iff nextAddress _ _ owned_hdList).mpr
    (by simp [BootListFits, firstOdd, BootElem.chars])

/-- A null element is reported as a failure, and leaves the domain with an array that was given
back. -/
theorem not_bootListKept_null :
    Owned hdHeap hdList.bootlist hdList.bootlistCt ∧
      ¬ BootListKept nextAddress { memory := true, inPlace := true } (.array [.null])
        hdHeap hdList := by
  refine ⟨owned_hdList, ?_⟩
  rintro ⟨r, hr, howned, -⟩
  have hrun : (bootordVssdToDomain nextAddress { memory := true, inPlace := true } (.array [.null])
      hdHeap hdList).map (fun r => (r.ret, r.boot, decide (8 ∈ r.heap.arrays))) =
        some (false, hdList, false) := by decide
  rw [hr, Option.map_some, Option.some.injEq, Prod.mk.injEq, Prod.mk.injEq] at hrun
  obtain ⟨-, hboot, harray⟩ := hrun
  rw [hboot] at howned
  exact not_owned_of_not_mem (Nat.succ_ne_zero 7) (of_decide_eq_false harray) howned.owned

end LibvirtCim.Service
