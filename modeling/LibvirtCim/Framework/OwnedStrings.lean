import LibvirtCim.Framework.Fold
import Mathlib.Data.Finset.Basic
import Mathlib.Data.Finset.Disjoint
import Mathlib.Logic.Function.Basic

/-!
# Arrays of owned strings

A heap of blocks that hold a string or an array of pointers, as `malloc`, `realloc` and `free` leave
it. `Owned h a n` says that the array `a` owns its first `n` entries: each of them is null or a
string that is in use and that no other entry points at, and there is none behind them.

An array that owns its entries can be given back entry by entry (`OwnsPrefix.freeEntries`), its
strings can be read (`OwnsPrefix.strings`), and a copy of a string can be put behind them
(`OwnsPrefix.push`).
-/

namespace Framework

/-- The blocks in use, what the strings read and what the arrays hold. Zero is the null pointer. -/
structure Heap where
  strs : Finset ℕ
  arrays : Finset ℕ
  null_strs : 0 ∉ strs
  null_arrays : 0 ∉ arrays
  disjoint : Disjoint strs arrays
  text : ℕ → String
  size : ℕ → ℕ
  entry : ℕ → ℕ → ℕ

/-- What the allocator returns: an address that is not in use. -/
structure Allocator where
  malloc : Finset ℕ → ℕ
  malloc_ne_zero : ∀ used, malloc used ≠ 0
  malloc_fresh : ∀ used, malloc used ∉ used

/-- What `realloc` does: whether there is memory, and whether the block stays where it is. -/
structure Resized where
  memory : Bool
  inPlace : Bool

namespace Heap

/-- The address of the next block. -/
def fresh (h : Heap) (mem : Allocator) : ℕ := mem.malloc (h.strs ∪ h.arrays)

theorem fresh_ne_zero (h : Heap) (mem : Allocator) : h.fresh mem ≠ 0 := mem.malloc_ne_zero _

theorem fresh_strs (h : Heap) (mem : Allocator) : h.fresh mem ∉ h.strs :=
  fun hmem => mem.malloc_fresh _ (Finset.mem_union_left _ hmem)

theorem fresh_arrays (h : Heap) (mem : Allocator) : h.fresh mem ∉ h.arrays :=
  fun hmem => mem.malloc_fresh _ (Finset.mem_union_right _ hmem)

theorem str_ne_zero {h : Heap} {a : ℕ} (ha : a ∈ h.strs) : a ≠ 0 :=
  fun h0 => h.null_strs (h0 ▸ ha)

theorem array_ne_zero {h : Heap} {a : ℕ} (ha : a ∈ h.arrays) : a ≠ 0 :=
  fun h0 => h.null_arrays (h0 ▸ ha)

/-- `free`. Nothing is known after a block is given back twice. -/
def free (h : Heap) (a : ℕ) : Option Heap :=
  if a = 0 then some h
  else if a ∈ h.strs ∪ h.arrays then
    some { h with
      strs := h.strs.erase a
      arrays := h.arrays.erase a
      null_strs := fun hmem => h.null_strs (Finset.mem_of_mem_erase hmem)
      null_arrays := fun hmem => h.null_arrays (Finset.mem_of_mem_erase hmem)
      disjoint := h.disjoint.mono (Finset.erase_subset _ _) (Finset.erase_subset _ _) }
  else none

/-- An entry of an array is read. -/
def load (h : Heap) (a i : ℕ) : Option ℕ :=
  if a ∈ h.arrays ∧ i < h.size a then some (h.entry a i) else none

/-- An entry of an array is written. -/
def store (h : Heap) (a i p : ℕ) : Option Heap :=
  if a ∈ h.arrays ∧ i < h.size a then
    some { h with entry := Function.update h.entry a (Function.update (h.entry a) i p) }
  else none

/-- The string behind a pointer, which may be null. -/
def chars (h : Heap) (p : ℕ) : Option (Option String) :=
  if p = 0 then some none else if p ∈ h.strs then some (some (h.text p)) else none

/-- `strdup`, to `h.fresh mem`. -/
def strdup (h : Heap) (mem : Allocator) (s : String) : Heap :=
  { h with
    strs := insert (h.fresh mem) h.strs
    null_strs := fun hmem => (Finset.mem_insert.mp hmem).elim
      (fun h0 => h.fresh_ne_zero mem h0.symm) h.null_strs
    disjoint := Finset.disjoint_insert_left.mpr ⟨h.fresh_arrays mem, h.disjoint⟩
    text := Function.update h.text (h.fresh mem) s }

/-- An array of `n` entries, at `h.fresh mem`. -/
def newArray (h : Heap) (mem : Allocator) (n : ℕ) : Heap :=
  { h with
    arrays := insert (h.fresh mem) h.arrays
    null_arrays := fun hmem => (Finset.mem_insert.mp hmem).elim
      (fun h0 => h.fresh_ne_zero mem h0.symm) h.null_arrays
    disjoint := Finset.disjoint_insert_right.mpr ⟨h.fresh_strs mem, h.disjoint⟩
    size := Function.update h.size (h.fresh mem) n }

/-- `realloc` of an array: the heap and the address. A block that is resized to nothing is given
back; the entries behind the old ones are what they happen to be. -/
def realloc (h : Heap) (mem : Allocator) (how : Resized) (a n : ℕ) : Option (Heap × ℕ) :=
  if n = 0 ∧ a ≠ 0 then (h.free a).map (·, 0)
  else if how.memory = false then some (h, 0)
  else if a = 0 then some (h.newArray mem n, h.fresh mem)
  else if a ∈ h.arrays then
    if how.inPlace = true then some ({ h with size := Function.update h.size a n }, a)
    else
      let moved := { h.newArray mem n with
        entry := Function.update h.entry (h.fresh mem) (h.entry a) }
      (moved.free a).map (·, h.fresh mem)
  else none

/-- The entries of an array are given back, in the order of `is`. -/
def freeEntries (a : ℕ) (h : Heap) (is : List ℕ) : Option Heap :=
  is.foldlM (fun h i => do
    let p ← h.load a i
    h.free p) h

/-- The strings of an array. -/
def strings (h : Heap) (a n : ℕ) : Option (List (Option String)) :=
  (List.range n).mapM fun i => do
    let p ← h.load a i
    h.chars p

theorem load_of {h : Heap} {a i : ℕ} (ha : a ∈ h.arrays) (hi : i < h.size a) :
    h.load a i = some (h.entry a i) :=
  if_pos ⟨ha, hi⟩

/-- What is left in use when a string is given back. -/
theorem free_str {h : Heap} {p : ℕ} (hp : p = 0 ∨ p ∈ h.strs) :
    ∃ h', h.free p = some h' ∧ (∀ b, b ∈ h'.strs ↔ b ∈ h.strs ∧ b ≠ p) ∧
      h'.arrays = h.arrays ∧ h'.text = h.text ∧ h'.size = h.size ∧ h'.entry = h.entry := by
  by_cases h0 : p = 0
  · subst h0
    exact ⟨h, if_pos rfl, fun b => ⟨fun hb => ⟨hb, str_ne_zero hb⟩, And.left⟩, rfl, rfl, rfl, rfl⟩
  · have hmem := hp.resolve_left h0
    refine ⟨_, (if_neg h0).trans (if_pos (Finset.mem_union_left _ hmem)),
      fun b => ?_, ?_, rfl, rfl, rfl⟩
    · rw [Finset.mem_erase, and_comm]
    · exact Finset.erase_eq_of_notMem (Finset.disjoint_left.mp h.disjoint hmem)

/-- What is left in use when an array is given back. -/
theorem free_array {h : Heap} {a : ℕ} (ha : a ∈ h.arrays) :
    ∃ h', h.free a = some h' ∧ h'.strs = h.strs ∧ h'.arrays = h.arrays.erase a ∧
      h'.text = h.text ∧ h'.size = h.size ∧ h'.entry = h.entry :=
  ⟨_, (if_neg (array_ne_zero ha)).trans (if_pos (Finset.mem_union_right _ ha)),
    Finset.erase_eq_of_notMem (Finset.disjoint_right.mp h.disjoint ha), rfl, rfl, rfl, rfl⟩

end Heap

/-- The array `a` owns its first `n` entries. -/
structure OwnsPrefix (h : Heap) (a n : ℕ) : Prop where
  array : a = 0 ∧ n = 0 ∨ a ∈ h.arrays ∧ n ≤ h.size a
  entries : ∀ i < n, h.entry a i = 0 ∨ h.entry a i ∈ h.strs
  distinct : ∀ i < n, ∀ j < n, h.entry a i = h.entry a j → h.entry a i ≠ 0 → i = j

/-- The array `a` owns its first `n` entries, and no other. -/
structure Owned (h : Heap) (a n : ℕ) : Prop extends OwnsPrefix h a n where
  rest : a ≠ 0 → ∀ i, n ≤ i → i < h.size a → h.entry a i ∉ h.strs

/-- The null array owns nothing. -/
theorem Owned.null (h : Heap) : Owned h 0 0 where
  array := .inl ⟨rfl, rfl⟩
  entries _ hi := absurd hi (Nat.not_lt_zero _)
  distinct _ hi := absurd hi (Nat.not_lt_zero _)
  rest h0 := absurd rfl h0

namespace OwnsPrefix

variable {h : Heap} {a n : ℕ}

/-- The array of an entry. -/
theorem mem_arrays (ho : OwnsPrefix h a n) {i : ℕ} (hi : i < n) : a ∈ h.arrays ∧ i < h.size a := by
  rcases ho.array with ⟨-, rfl⟩ | ⟨ha, hsize⟩
  · exact absurd hi (Nat.not_lt_zero i)
  · exact ⟨ha, by omega⟩

/-- **The entries are given back**, each once, in any order. -/
theorem freeEntries (ho : OwnsPrefix h a n) {is : List ℕ} (hlt : ∀ i ∈ is, i < n)
    (hnodup : is.Nodup) :
    ∃ h', Heap.freeEntries a h is = some h' ∧
      (∀ b, b ∈ h'.strs ↔ b ∈ h.strs ∧ ∀ i ∈ is, b ≠ h.entry a i) ∧
      h'.arrays = h.arrays ∧ h'.text = h.text ∧ h'.size = h.size ∧ h'.entry = h.entry := by
  -- over the heaps on the way, which have lost strings only
  suffices hsome : ∀ (is : List ℕ) (h' : Heap), (∀ i ∈ is, i < n) → is.Nodup →
      h'.arrays = h.arrays → h'.size = h.size → h'.entry = h.entry →
      (∀ i ∈ is, h.entry a i = 0 ∨ h.entry a i ∈ h'.strs) →
      ∃ h'', Heap.freeEntries a h' is = some h'' ∧
        (∀ b, b ∈ h''.strs ↔ b ∈ h'.strs ∧ ∀ i ∈ is, b ≠ h.entry a i) ∧
        h''.arrays = h'.arrays ∧ h''.text = h'.text ∧ h''.size = h'.size ∧ h''.entry = h'.entry from
    hsome is h hlt hnodup rfl rfl rfl fun i hi => ho.entries i (hlt i hi)
  clear hlt hnodup is
  intro is
  induction is with
  | nil =>
    intro h' _ _ _ _ _ _
    exact ⟨h', rfl, fun b => by simp, rfl, rfl, rfl, rfl⟩
  | cons i is ih =>
    intro h' hlt hnodup harrays hsize hentry hlive
    obtain ⟨hi, hlt⟩ := List.forall_mem_cons.mp hlt
    obtain ⟨hni, hnodup⟩ := List.nodup_cons.mp hnodup
    obtain ⟨hlivei, hlive⟩ := List.forall_mem_cons.mp hlive
    have hload : h'.load a i = some (h.entry a i) := by
      rw [← hentry]
      exact Heap.load_of (harrays ▸ (ho.mem_arrays hi).1) (hsize ▸ (ho.mem_arrays hi).2)
    obtain ⟨h₁, hfree, hstrs, harrays₁, htext₁, hsize₁, hentry₁⟩ := Heap.free_str hlivei
    obtain ⟨h₂, hrest, hstrs₂, harrays₂, htext₂, hsize₂, hentry₂⟩ := ih h₁ hlt hnodup
      (harrays₁.trans harrays) (hsize₁.trans hsize) (hentry₁.trans hentry) (by
        intro j hj
        by_cases h0 : h.entry a j = 0
        · exact .inl h0
        · refine .inr ((hstrs _).mpr ⟨(hlive j hj).resolve_left h0, fun heq => ?_⟩)
          -- two entries that are the same string
          obtain rfl := ho.distinct j (hlt j hj) i hi heq h0
          exact hni hj)
    refine ⟨h₂, ?_, fun b => ?_, harrays₂.trans harrays₁, htext₂.trans htext₁,
      hsize₂.trans hsize₁, hentry₂.trans hentry₁⟩
    · rw [Heap.freeEntries, List.foldlM_cons, hload]
      simp only [Option.bind_eq_bind, Option.bind_some, hfree]
      exact hrest
    · rw [hstrs₂, hstrs, List.forall_mem_cons, and_assoc]

/-- **Everything is given back.** -/
theorem free (ho : OwnsPrefix h a n) {is : List ℕ} (hlt : ∀ i ∈ is, i < n) (hnodup : is.Nodup) :
    ∃ h' h'', Heap.freeEntries a h is = some h' ∧ h'.free a = some h'' := by
  obtain ⟨h', hfree, -, harrays, -⟩ := ho.freeEntries hlt hnodup
  rcases ho.array with ⟨rfl, -⟩ | ⟨ha, -⟩
  · exact ⟨h', h', hfree, if_pos rfl⟩
  · obtain ⟨h'', hfree', -⟩ := Heap.free_array (harrays ▸ ha)
    exact ⟨h', h'', hfree, hfree'⟩

/-- **The strings can be read.** -/
theorem strings (ho : OwnsPrefix h a n) :
    h.strings a n = some ((List.range n).map fun i =>
      if h.entry a i = 0 then none else some (h.text (h.entry a i))) := by
  refine mapM_eq_some_map fun i hi => ?_
  have hi := List.mem_range.mp hi
  obtain ⟨ha, hsize⟩ := ho.mem_arrays hi
  simp only [Heap.load_of ha hsize, Option.bind_eq_bind, Option.bind_some, Heap.chars]
  by_cases h0 : h.entry a i = 0
  · rw [if_pos h0, if_pos h0]
  · rw [if_neg h0, if_neg h0, if_pos ((ho.entries i hi).resolve_left h0)]

/-- **A copy of a string is put behind the entries.** -/
theorem push (ho : OwnsPrefix h a n) (ha : a ∈ h.arrays) (hn : n < h.size a) (mem : Allocator)
    (s : String) :
    ∃ h', (h.strdup mem s).store a n (h.fresh mem) = some h' ∧ OwnsPrefix h' a (n + 1) ∧
      h'.arrays = h.arrays ∧ h'.size = h.size ∧
      h'.strings a (n + 1) = (h.strings a n).map (· ++ [some s]) := by
  have hne0 := h.fresh_ne_zero mem
  have hfresh : ∀ b ∈ h.strs, b ≠ h.fresh mem := fun b hb heq => h.fresh_strs mem (heq ▸ hb)
  have hentry : ∀ i, i ≠ n →
      Function.update h.entry a (Function.update (h.entry a) n (h.fresh mem)) a i =
        h.entry a i := by
    intro i hi
    rw [Function.update_self, Function.update_of_ne hi]
  have hlast : Function.update h.entry a (Function.update (h.entry a) n (h.fresh mem)) a n =
      h.fresh mem := by
    rw [Function.update_self, Function.update_self]
  have hprefix : OwnsPrefix { h.strdup mem s with
      entry := Function.update h.entry a (Function.update (h.entry a) n (h.fresh mem)) }
      a (n + 1) := by
    refine ⟨.inr ⟨ha, hn⟩, ?_, ?_⟩
    · intro i hi
      simp only
      rcases Nat.lt_succ_iff_lt_or_eq.mp hi with hi | rfl
      · rw [hentry i (by omega)]
        exact (ho.entries i hi).imp_right fun h => Finset.mem_insert_of_mem h
      · rw [hlast]
        exact .inr (Finset.mem_insert_self _ _)
    · intro i hi j hj
      simp only
      rcases Nat.lt_succ_iff_lt_or_eq.mp hi with hi | rfl <;>
        rcases Nat.lt_succ_iff_lt_or_eq.mp hj with hj | rfl
      · rw [hentry i (by omega), hentry j (by omega)]
        exact ho.distinct i hi j hj
      · rw [hentry i (by omega), hlast]
        intro heq h0
        exact absurd heq (hfresh _ ((ho.entries i hi).resolve_left h0))
      · rw [hentry j (by omega), hlast]
        intro heq _
        exact absurd heq.symm (hfresh _ ((ho.entries j hj).resolve_left (heq ▸ hne0)))
      · exact fun _ _ => rfl
  refine ⟨_, if_pos ⟨ha, hn⟩, hprefix, rfl, rfl, ?_⟩
  refine hprefix.strings.trans ?_
  rw [ho.strings, Option.map_some, List.range_succ, List.map_append, List.map_singleton]
  simp only [hlast, if_neg hne0, Heap.strdup, Function.update_self]
  refine congrArg (fun l => some (l ++ [some s])) (List.map_congr_left fun i hi => ?_)
  have hi := List.mem_range.mp hi
  rw [Function.update_of_ne (by omega)]
  by_cases h0 : h.entry a i = 0
  · rw [if_pos h0, if_pos h0]
  · rw [if_neg h0, if_neg h0, Function.update_of_ne (hfresh _ ((ho.entries i hi).resolve_left h0))]

end OwnsPrefix

/-! ### Resizing -/

section Realloc

variable {h : Heap} {mem : Allocator} {how : Resized} {a n : ℕ}

/-- A block that is resized to nothing is given back. -/
theorem realloc_zero (ha : a ∈ h.arrays) :
    ∃ h', h.realloc mem how a 0 = some (h', 0) ∧ h'.arrays = h.arrays.erase a := by
  obtain ⟨h', hfree, -, harrays, -⟩ := Heap.free_array ha
  exact ⟨h', by rw [Heap.realloc, if_pos ⟨rfl, Heap.array_ne_zero ha⟩, hfree]; rfl, harrays⟩

/-- Without memory everything stays as it is. -/
theorem realloc_no_memory (hn : n ≠ 0 ∨ a = 0) (hmem : how.memory = false) :
    h.realloc mem how a n = some (h, 0) := by
  rw [Heap.realloc, if_neg (fun h => hn.elim (· h.1) (h.2 ·)), if_pos hmem]

/-- **An array of another size**, in its place or moved there. -/
theorem realloc_eq (hn : n ≠ 0 ∨ a = 0) (hmem : how.memory = true) (ha : a = 0 ∨ a ∈ h.arrays) :
    ∃ h' q, h.realloc mem how a n = some (h', q) ∧ q ∈ h'.arrays ∧ h'.size q = n ∧
      (a ≠ 0 → a ∈ h'.arrays → q = a) ∧ h'.strs = h.strs := by
  rw [Heap.realloc, if_neg (fun h => hn.elim (· h.1) (h.2 ·)),
    if_neg (by rw [hmem]; exact Bool.noConfusion)]
  by_cases h0 : a = 0
  · rw [if_pos h0]
    exact ⟨_, _, rfl, Finset.mem_insert_self _ _, Function.update_self _ _ _,
      fun h => absurd h0 h, rfl⟩
  · have ha := ha.resolve_left h0
    rw [if_neg h0, if_pos ha]
    by_cases hplace : how.inPlace = true
    · rw [if_pos hplace]
      exact ⟨_, _, rfl, ha, Function.update_self _ _ _, fun _ _ => rfl, rfl⟩
    · rw [if_neg hplace]
      have hne : h.fresh mem ≠ a := fun heq => h.fresh_arrays mem (heq ▸ ha)
      obtain ⟨h', hfree, hstrs, harrays, -, hsize, -⟩ := Heap.free_array
        (h := { h.newArray mem n with entry := Function.update h.entry (h.fresh mem) (h.entry a) })
        (Finset.mem_insert_of_mem ha)
      refine ⟨h', _, congrArg (Option.map (·, h.fresh mem)) hfree, ?_, ?_, fun _ hmem => ?_, hstrs⟩
      · rw [harrays]
        exact Finset.mem_erase.mpr ⟨hne, Finset.mem_insert_self _ _⟩
      · rw [hsize]
        exact Function.update_self _ _ _
      · rw [harrays] at hmem
        exact absurd rfl (Finset.mem_erase.mp hmem).1

end Realloc

end Framework
