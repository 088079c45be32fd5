import LibvirtCim.Framework.Ring
import Mathlib.Data.Int.Notation

/-!
# The lists of `list_util.c`

A list is a counter and the head of a ring of nodes (`ListT`). `Represents` says which sequence of
nodes and data it stands for; every function of the file that reads or changes a list has one lemma
under it, and none of them reads a node that was given back or fails to return.

The nodes come from `calloc`, so a function that takes memory is given the address it gets, null
where there is none.
-/

open Framework

namespace LibvirtCim.ListUtil

variable {D U S : Type}

/-! ### The functions -/

/-- `struct _list_t`, with the heap of its nodes and the data that was handed to `free_cb`. -/
structure ListT (D U : Type) where
  heap : RingHeap D
  count : UInt32
  head : ℕ
  freeCb : Bool
  cmpCb : Option (D → U → ℤ)
  freed : List D

/-- `list_new`. -/
def listNew (heap : RingHeap D) (freeCb : Bool) (cmpCb : Option (D → U → ℤ)) : ListT D U :=
  { heap := heap, count := 0, head := 0, freeCb := freeCb, cmpCb := cmpCb, freed := [] }

/-- `list_append`. `n` is what `calloc` returns. -/
def listAppend (n : ℕ) (data : D) (list : ListT D U) : Option (ListT D U) :=
  if n = 0 then some list
  else do
    let heap := list.heap.alloc n { prev := 0, next := 0, data := data }
    if list.head = 0 then
      let heap ← heap.modify n fun node => { node with prev := n }
      let heap ← heap.modify n fun node => { node with next := n }
      some { list with heap := heap, head := n, count := list.count + 1 }
    else
      let heap ← heap.modify n fun node => { node with next := list.head }
      let head ← heap.get list.head
      let heap ← heap.modify n fun node => { node with prev := head.prev }
      let head ← heap.get list.head
      let heap ← heap.modify head.prev fun node => { node with next := n }
      let heap ← heap.modify list.head fun node => { node with prev := n }
      some { list with heap := heap, count := list.count + 1 }

/-- `list_prepend`: the new node is the last one, and the one in front of the head. -/
def listPrepend (n : ℕ) (data : D) (list : ListT D U) : Option (ListT D U) := do
  let list ← listAppend n data list
  let head ← list.heap.get list.head
  some { list with head := head.prev }

/-- `do … while (n != list->head)`. -/
def doWhile {ρ σ : Type} (list : ListT D U) (body : σ → ℕ → RingNode D → Except ρ σ) (s : σ) :
    Option (Except ρ σ) :=
  list.heap.doWhile list.head body list.heap.used.length list.head s

/-- `list_find_node`. -/
def listFindNode (userData : U) (list : ListT D U) : Option ℕ :=
  if list.head = 0 then some 0
  else
    match list.cmpCb with
    | none => some 0
    | some cmp =>
      match doWhile list (fun (_ : Unit) n node =>
        if cmp node.data userData = 0 then .error n else .ok ()) () with
      | none => none
      | some (.error n) => some n
      | some (.ok ()) => some 0

/-- `list_node_data_get`. -/
def listNodeDataGet (list : ListT D U) (node : ℕ) : Option (Option D) :=
  if node = 0 then some none else (list.heap.get node).map fun n => some n.data

/-- `list_node_next_node`. -/
def listNodeNextNode (list : ListT D U) (node : ℕ) : Option ℕ :=
  if node = 0 then some 0 else (list.heap.get node).map RingNode.next

/-- `list_node_prev_node`. -/
def listNodePrevNode (list : ListT D U) (node : ℕ) : Option ℕ :=
  if node = 0 then some 0 else (list.heap.get node).map RingNode.prev

/-- `list_find`. -/
def listFind (userData : U) (list : ListT D U) : Option (Option D) := do
  let n ← listFindNode userData list
  listNodeDataGet list n

/-- The node is taken out of the ring, where it is not the only one. -/
def unlink (node : ℕ) (list : ListT D U) : Option (ListT D U) := do
  let n ← list.heap.get node
  let head := if node = list.head then n.next else list.head
  let heap ← list.heap.modify n.prev fun p => { p with next := n.next }
  let n ← heap.get node
  let heap ← heap.modify n.next fun s => { s with prev := n.prev }
  some { list with heap := heap, head := head }

/-- `list_remove_node`. -/
def listRemoveNode (node : ℕ) (list : ListT D U) : Option (ListT D U) :=
  if list.head = 0 ∨ node = 0 then some list
  else do
    let n ← list.heap.get node
    let list ← if n.next = node then some { list with head := 0 } else unlink node list
    let n ← list.heap.get node
    some { list with
      heap := list.heap.free node
      freed := if list.freeCb then list.freed ++ [n.data] else list.freed
      count := list.count - 1 }

/-- `list_remove`. -/
def listRemove (userData : U) (list : ListT D U) : Option (ListT D U) := do
  let n ← listFindNode userData list
  listRemoveNode n list

/-- `list_foreach`. The callback keeps its own state. -/
def listForeach (cb : D → S → Bool × S) (s : S) (list : ListT D U) : Option (Bool × S) :=
  if list.head = 0 then some (true, s)
  else
    match doWhile list (fun s _ node =>
      if (cb node.data s).1 = false then .error (cb node.data s).2
      else .ok (cb node.data s).2) s with
    | none => none
    | some (.error s) => some (false, s)
    | some (.ok s) => some (true, s)

/-- `list_count`. -/
def listCount (list : ListT D U) : UInt32 := list.count

/-- The nodes from the head on, as the loops go through them. -/
def listNodes (list : ListT D U) : Option (List ℕ) :=
  if list.head = 0 then some []
  else
    match doWhile list (fun ns n _ => .ok (ns ++ [n])) [] with
    | some (.ok ns) => some ns
    | some (.error e) => Empty.elim e
    | none => none

/-! ### The sequence a list stands for -/

/-- The list stands for the data `xs`, each with the address of its node. -/
structure Represents (list : ListT D U) (xs : List (ℕ × D)) : Prop where
  ring : IsRing list.heap list.head (xs.map Prod.fst)
  data : ∀ x ∈ xs, (list.heap.node x.1).data = x.2
  count : list.count = UInt32.ofNat xs.length

/-- The element that is searched for. -/
def meets (cmpCb : Option (D → U → ℤ)) (userData : U) (x : ℕ × D) : Bool :=
  cmpCb.elim false fun cmp => cmp x.2 userData = 0

/-- A callback for each element in order, up to one that asks to stop. -/
def visit (cb : D → S → Bool × S) : List D → S → Bool × S
  | [], s => (true, s)
  | d :: ds, s => if (cb d s).1 = false then (false, (cb d s).2) else visit cb ds (cb d s).2

namespace Represents

variable {list : ListT D U} {xs : List (ℕ × D)}

theorem new (heap : RingHeap D) (freeCb : Bool) (cmpCb : Option (D → U → ℤ)) :
    Represents (listNew heap freeCb cmpCb) [] where
  ring := IsRing.nil heap
  data _ hx := absurd hx List.not_mem_nil
  count := rfl

/-- **A node at the end.** -/
theorem append (hrep : Represents list xs) {n : ℕ} (hn0 : n ≠ 0) (hn : n ∉ list.heap.used) (d : D) :
    ∃ list', listAppend n d list = some list' ∧ Represents list' (xs ++ [(n, d)]) ∧
      list'.cmpCb = list.cmpCb ∧ list'.heap.used = n :: list.heap.used := by
  -- the new node is no node of the ring, so what it overwrites was free
  have hnodes : n ∉ xs.map Prod.fst := fun h => hn (hrep.ring.used n h)
  have hkept : ∀ x ∈ xs, x.1 ≠ n := fun x hx h => hnodes (h ▸ List.mem_map_of_mem hx)
  rw [listAppend, if_neg hn0]
  by_cases hhead : list.head = 0
  · -- the node is alone, and its own neighbour
    obtain rfl : xs = [] := List.map_eq_nil_iff.mp (hrep.ring.eq_nil_iff.mp hhead)
    simp only [hhead, RingHeap.alloc, RingHeap.modify, List.mem_cons, true_or, if_true,
      Option.bind_eq_bind, Option.bind_some]
    refine ⟨_, rfl, ⟨?_, ?_, ?_⟩, rfl, rfl⟩
    · exact IsRing.singleton hn0 List.mem_cons_self (by simp [Linked])
    · intro x hx
      obtain rfl := List.mem_singleton.mp hx
      simp
    · simp [hrep.count]
  -- the last node is the one before the head, and the new one goes behind it
  · have hne : xs.map Prod.fst ≠ [] := fun h => hhead (hrep.ring.eq_nil_iff.mpr h)
    have hmem : list.head ∈ xs.map Prod.fst := by
      rw [hrep.ring.head_eq_head hne]
      exact List.head_mem hne
    have hlast : (list.heap.node list.head).prev = (xs.map Prod.fst).getLast hne := by
      have hclose := (hrep.ring.close hne).2
      rwa [← hrep.ring.head_eq_head hne] at hclose
    have hmemlast := List.getLast_mem hne
    have hheadn : list.head ≠ n := fun h => hnodes (h ▸ hmem)
    have hlastn : (xs.map Prod.fst).getLast hne ≠ n := fun h => hnodes (h ▸ hmemlast)
    have hused := hrep.ring.used
    simp only [hhead, RingHeap.alloc, RingHeap.modify, RingHeap.get, List.mem_cons, true_or,
      if_true,
      if_false, Option.bind_eq_bind, Option.bind_some, hused _ hmem, or_true,
      Function.update_of_ne hheadn, hlast,
      hused _ hmemlast]
    -- the ring, the data and the count, each with the new node at the end
    refine ⟨_, rfl, ⟨?_, ?_, ?_⟩, rfl, rfl⟩
    · rw [List.map_append]
      refine hrep.ring.append hne hnodes hn0 ?_ ?_ ?_
      · intro a ha
        rw [List.mem_cons]
        exact ha.imp_right (hused a)
      · intro a
        simp only [Function.update_apply]
        grind
      · intro a
        simp only [Function.update_apply]
        grind
    · intro x hx
      rw [List.mem_append, List.mem_singleton] at hx
      simp only [Function.update_apply]
      grind [hrep.data]
    · rw [hrep.count, List.length_append, List.length_singleton, UInt32.ofNat_add]
      rfl

/-- **A node in front.** -/
theorem prepend (hrep : Represents list xs) {n : ℕ} (hn0 : n ≠ 0) (hn : n ∉ list.heap.used)
    (d : D) :
    ∃ list', listPrepend n d list = some list' ∧ Represents list' ((n, d) :: xs) ∧
      list'.cmpCb = list.cmpCb := by
  obtain ⟨list', happend, hrep', hcmp, -⟩ := hrep.append hn0 hn d
  -- the node is appended first, and the head is then moved back to it
  have hring := hrep'.ring
  rw [List.map_append, List.map_singleton] at hring
  have hne : xs.map Prod.fst ++ [n] ≠ [] :=
    List.append_ne_nil_of_right_ne_nil _ (List.cons_ne_nil _ _)
  have hused : list'.head ∈ list'.heap.used := by
    rw [hring.head_eq_head hne]
    exact hring.used _ (List.head_mem hne)
  -- the node in front of the head is the one behind the last
  have hprev : (list'.heap.node list'.head).prev = n := by
    have hclose := (hring.close hne).2
    rwa [← hring.head_eq_head hne, List.getLast_append_singleton] at hclose
  refine ⟨{ list' with head := n }, ?_, ⟨?_, ?_, ?_⟩, hcmp⟩
  · rw [listPrepend, happend]
    simp only [Option.bind_eq_bind, Option.bind_some, RingHeap.get_of_mem hused, hprev]
  · exact hring.rotate
  · intro x hx
    apply hrep'.data
    rw [List.mem_append, List.mem_singleton]
    exact (List.mem_cons.mp hx).symm
  · rw [hrep'.count, List.length_append, List.length_singleton, List.length_cons]

/-- A node of the list. -/
theorem get (hrep : Represents list xs) {x : ℕ × D} (hx : x ∈ xs) :
    list.heap.get x.1 = some (list.heap.node x.1) :=
  RingHeap.get_of_mem (hrep.ring.used _ (List.mem_map_of_mem hx))

theorem ne_zero (hrep : Represents list xs) {x : ℕ × D} (hx : x ∈ xs) : x.1 ≠ 0 :=
  fun h => hrep.ring.null (h ▸ List.mem_map_of_mem hx)

theorem head_eq_zero_iff (hrep : Represents list xs) : list.head = 0 ↔ xs = [] :=
  hrep.ring.eq_nil_iff.trans List.map_eq_nil_iff

/-- **The loops are folds over the elements.** -/
theorem doWhile_eq {ρ σ : Type} (hrep : Represents list xs) (hne : list.head ≠ 0)
    {body : σ → ℕ → RingNode D → Except ρ σ} {f : σ → ℕ × D → Except ρ σ}
    (hbody : ∀ s n (node : RingNode D), body s n node = f s (n, node.data)) (s : σ) :
    doWhile list body s = some (xs.foldlM f s) := by
  rw [doWhile, hrep.ring.doWhile_eq (fun h => hne (hrep.ring.eq_nil_iff.mpr h)), List.foldlM_map]
  refine congrArg some (foldlM_congr_of_mem (fun x hx s => ?_) s)
  rw [hbody, hrep.data x hx]

/-- **The node of the first element that is searched for.** -/
theorem findNode (hrep : Represents list xs) (userData : U) :
    listFindNode userData list =
      some ((xs.find? (meets list.cmpCb userData)).elim 0 Prod.fst) := by
  rw [listFindNode]
  -- a null head means an empty list, where no loop runs
  by_cases hhead : list.head = 0
  · rw [if_pos hhead, hrep.head_eq_zero_iff.mp hhead]
    rfl
  · rw [if_neg hhead]
    -- without a comparison no node is found
    cases hcmp : list.cmpCb with
    | none =>
      rw [List.find?_eq_none.mpr (fun _ _ => by simp [meets])]
      rfl
    | some cmp =>
      have hloop := hrep.doWhile_eq hhead (fun _ _ _ => rfl) ()
        (f := fun _ x => if cmp x.2 userData = 0 then Except.error x.1 else .ok ())
      rw [foldlM_find (fun x : ℕ × D => cmp x.2 userData = 0) Prod.fst] at hloop
      have hmeets : meets (some cmp) userData =
          fun x : ℕ × D => decide (cmp x.2 userData = 0) := rfl
      simp only [hloop, hmeets]
      cases xs.find? fun x => decide (cmp x.2 userData = 0) <;> rfl

/-- **The data of the first element that is searched for.** -/
theorem find (hrep : Represents list xs) (userData : U) :
    listFind userData list = some ((xs.find? (meets list.cmpCb userData)).map Prod.snd) := by
  rw [listFind, hrep.findNode, Option.bind_eq_bind, Option.bind_some]
  cases hfind : xs.find? (meets list.cmpCb userData) with
  | none => rfl
  | some x =>
    have hx := List.mem_of_find?_eq_some hfind
    rw [Option.elim_some, listNodeDataGet, if_neg (hrep.ne_zero hx), hrep.get hx, Option.map_some,
      Option.map_some, hrep.data x hx]

/-- **A callback for each element, in order.** -/
theorem foreach (hrep : Represents list xs) (cb : D → S → Bool × S) (s : S) :
    listForeach cb s list = some (visit cb (xs.map Prod.snd) s) := by
  rw [listForeach]
  by_cases hhead : list.head = 0
  · rw [if_pos hhead, hrep.head_eq_zero_iff.mp hhead]
    rfl
  -- the loop visits the nodes in order and stops where the callback says so
  · have hloop := hrep.doWhile_eq hhead (fun _ _ _ => rfl) s
      (f := fun s x => if (cb x.2 s).1 = false then Except.error (cb x.2 s).2 else .ok (cb x.2 s).2)
    simp only [if_neg hhead, hloop]
    clear hloop hhead hrep
    induction xs generalizing s with
    | nil => rfl
    | cons x xs ih =>
      rw [List.foldlM_cons, List.map_cons, visit]
      by_cases hstop : (cb x.2 s).1 = false
      · simp only [if_pos hstop]
        rfl
      · simp only [if_neg hstop]
        exact ih _

/-- The nodes, as they are read from the head on. -/
theorem nodes (hrep : Represents list xs) : listNodes list = some (xs.map Prod.fst) := by
  rw [listNodes]
  by_cases hhead : list.head = 0
  · rw [if_pos hhead, hrep.head_eq_zero_iff.mp hhead]
    rfl
  · have hloop := hrep.doWhile_eq hhead (fun _ _ _ => rfl) []
      (f := fun ns x => (.ok (ns ++ [x.1]) : Except Empty (List ℕ)))
    -- the numbers of the nodes are collected from the front
    have hfold : ∀ (l : List (ℕ × D)) (ns : List ℕ),
        l.foldlM (fun ns x => (Except.ok (ns ++ [x.1]) : Except Empty _)) ns =
          .ok (ns ++ l.map Prod.fst) := by
      intro l
      induction l with
      | nil => exact fun ns => congrArg _ (List.append_nil ns).symm
      | cons x l ih =>
        intro ns
        rw [List.foldlM_cons, List.map_cons]
        exact (ih _).trans (by rw [List.append_assoc]; rfl)
    simp only [if_neg hhead, hloop, hfold, List.nil_append]

/-- **A node is removed.** Its data is what `free_cb` is called with. -/
theorem removeNode (hrep : Represents list xs) {k : ℕ} (hk : k < xs.length) :
    ∃ list', listRemoveNode xs[k].1 list = some list' ∧ Represents list' (xs.eraseIdx k) ∧
      list'.cmpCb = list.cmpCb ∧
      list'.freed = if list.freeCb then list.freed ++ [xs[k].2] else list.freed := by
  have hx : xs[k] ∈ xs := List.getElem_mem hk
  have hne : xs.map Prod.fst ≠ [] := List.ne_nil_of_length_pos (by rw [List.length_map]; omega)
  have hk' : k < (xs.map Prod.fst).length := by rw [List.length_map]; exact hk
  have hkey : (xs.map Prod.fst)[k] = xs[k].1 := List.getElem_map _
  -- neither the head nor the node is null, so the function goes on
  have hhead : ¬ (list.head = 0 ∨ xs[k].1 = 0) :=
    fun h => h.elim (hrep.ring.head_ne_zero hne) (hrep.ne_zero hx)
  -- the count goes down with the length, also where it has wrapped
  have hcount : list.count - 1 = UInt32.ofNat (xs.eraseIdx k).length := by
    rw [hrep.count, List.length_eraseIdx_of_lt hk]
    obtain ⟨n, hn⟩ := Nat.exists_eq_add_of_lt hk
    rw [hn, Nat.add_sub_cancel, UInt32.ofNat_add]
    exact UInt32.add_sub_cancel _ _
  rw [listRemoveNode, if_neg hhead, hrep.get hx]
  obtain ⟨s, hs, hnext, hpos⟩ := hrep.ring.exists_next hk'
  rw [hkey] at hnext
  have hlen : (xs.map Prod.fst).length = xs.length := List.length_map _
  by_cases hone : xs.length = 1
  · -- the only node
    have hself : (list.heap.node xs[k].1).next = xs[k].1 := by
      obtain rfl : s = k := by omega
      rw [hnext, hkey]
    simp only [Option.bind_eq_bind, Option.bind_some, if_pos hself, hrep.get hx, hrep.data _ hx]
    have hnil : xs.eraseIdx k = [] := by
      rw [List.eq_nil_iff_length_eq_zero, List.length_eraseIdx_of_lt hk]
      omega
    refine ⟨_, rfl, ⟨?_, ?_, hcount⟩, rfl, rfl⟩
    · rw [hnil]
      exact IsRing.nil _
    · rw [hnil]
      exact fun _ hy => absurd hy List.not_mem_nil
  -- the neighbours are two other nodes, or one, but never the node itself
  · obtain ⟨p, hp, hprev, hqos⟩ := hrep.ring.exists_prev hk'
    rw [hkey] at hprev
    have hother : ∀ (j : ℕ) (hj : j < (xs.map Prod.fst).length), j ≠ k →
        (xs.map Prod.fst)[j] ≠ xs[k].1 := by
      intro j hj hjk h
      rw [← hkey, hrep.ring.getElem_eq_iff] at h
      exact hjk h
    have hself : (list.heap.node xs[k].1).next ≠ xs[k].1 := by
      rw [hnext]
      exact hother s _ (by omega)
    have hselfprev : (list.heap.node xs[k].1).prev ≠ xs[k].1 := by
      rw [hprev]
      exact hother p _ (by omega)
    have husedp : (list.heap.node xs[k].1).prev ∈ list.heap.used := by
      rw [hprev]
      exact hrep.ring.used _ (List.getElem_mem _)
    have huseds : (list.heap.node xs[k].1).next ∈ list.heap.used := by
      rw [hnext]
      exact hrep.ring.used _ (List.getElem_mem _)
    have husedx : xs[k].1 ∈ list.heap.used := hrep.ring.used _ (List.mem_map_of_mem hx)
    simp only [Option.bind_eq_bind, Option.bind_some, if_neg hself, unlink, RingHeap.get,
      RingHeap.modify, husedp, huseds, husedx, if_true, Function.update_of_ne hselfprev.symm]
    -- the ring without the node, the data of the rest, the count and what was freed
    refine ⟨_, rfl, ⟨?_, ?_, hcount⟩, rfl, ?_⟩
    · rw [← List.eraseIdx_map, ← hkey]
      refine hrep.ring.eraseIdx hk' (by omega) ?_ ?_ ?_
      · intro a ha hne
        rw [hkey] at hne ⊢
        exact (List.mem_erase_of_ne hne).mpr (hrep.ring.used a ha)
      · intro a
        rw [hkey]
        simp only [RingHeap.free, Function.update_apply]
        grind
      · intro a
        rw [hkey]
        simp only [RingHeap.free, Function.update_apply]
        grind
    · intro y hy
      rw [← hrep.data y (List.mem_of_mem_eraseIdx hy)]
      simp only [RingHeap.free, Function.update_apply]
      grind
    · simp only [Function.update_of_ne hself.symm, Function.update_of_ne hselfprev.symm,
        hrep.data _ hx]

theorem removeNode_null (list : ListT D U) : listRemoveNode 0 list = some list := by
  rw [listRemoveNode, if_pos (.inr rfl)]

/-- **The first element that has a property is removed**, given its node, or null where there is
none. -/
theorem removeFirst (hrep : Represents list xs) (p : ℕ × D → Bool) :
    ∃ list', listRemoveNode ((xs.find? p).elim 0 Prod.fst) list = some list' ∧
      Represents list' (xs.eraseP p) ∧ list'.cmpCb = list.cmpCb := by
  rw [List.eraseP_eq_eraseIdx]
  cases hfind : xs.findIdx? p with
  -- nothing meets the predicate: the null node is removed, which does nothing
  | none =>
    rw [List.findIdx?_eq_none_iff] at hfind
    rw [List.find?_eq_none.mpr (fun x hx => by rw [hfind x hx]; exact Bool.false_ne_true)]
    exact ⟨list, removeNode_null list, hrep, rfl⟩
  -- the node found is the first that meets it, which is the one erased
  | some k =>
    obtain ⟨hk, hpk, hbefore⟩ := List.findIdx?_eq_some_iff_getElem.mp hfind
    have hsome : xs.find? p = some xs[k] := by
      rw [List.find?_eq_some_iff_getElem]
      exact ⟨hpk, k, hk, rfl, fun j hj => by simpa using hbefore j hj⟩
    rw [hsome]
    obtain ⟨list', hremove, hrep', hcmp, -⟩ := hrep.removeNode hk
    exact ⟨list', hremove, hrep', hcmp⟩

/-- **The first element that is searched for is removed.** -/
theorem remove (hrep : Represents list xs) (userData : U) :
    ∃ list', listRemove userData list = some list' ∧
      Represents list' (xs.eraseP (meets list.cmpCb userData)) ∧ list'.cmpCb = list.cmpCb := by
  obtain ⟨list', hremove, hrest⟩ := hrep.removeFirst (meets list.cmpCb userData)
  refine ⟨list', ?_, hrest⟩
  rw [listRemove, hrep.findNode]
  exact hremove

/-- The element with a node. -/
theorem find?_key (hrep : Represents list xs) {x : ℕ × D} (hx : x ∈ xs) :
    xs.find? (fun y => y.1 = x.1) = some x := by
  have hnodup : (xs.map Prod.fst).Nodup := hrep.ring.nodup
  cases hfind : xs.find? (fun y => y.1 = x.1) with
  | none =>
    rw [List.find?_eq_none] at hfind
    exact absurd (decide_eq_true rfl) (hfind x hx)
  | some y =>
    have hy : y.1 = x.1 := by simpa using List.find?_some hfind
    rw [List.inj_on_of_nodup_map hnodup (List.mem_of_find?_eq_some hfind) hx hy]

/-- The data of a node, null for the null node. -/
theorem nodeData (hrep : Represents list xs) {node : ℕ}
    (hnode : node = 0 ∨ node ∈ xs.map Prod.fst) :
    listNodeDataGet list node = some ((xs.find? fun x => x.1 = node).map Prod.snd) := by
  rcases hnode with rfl | hnode
  · rw [List.find?_eq_none.mpr (fun x hx => by simpa using hrep.ne_zero hx)]
    rfl
  · obtain ⟨x, hx, rfl⟩ := List.mem_map.mp hnode
    rw [hrep.find?_key hx, listNodeDataGet, if_neg (hrep.ne_zero hx), hrep.get hx, Option.map_some,
      Option.map_some, hrep.data x hx]

/-- A node is removed, or nothing for the null node. -/
theorem removeKey (hrep : Represents list xs) {node : ℕ}
    (hnode : node = 0 ∨ node ∈ xs.map Prod.fst) :
    ∃ list', listRemoveNode node list = some list' ∧
      Represents list' (xs.eraseP fun x => x.1 = node) ∧ list'.cmpCb = list.cmpCb := by
  have hkey : (xs.find? fun x => x.1 = node).elim 0 Prod.fst = node := by
    rcases hnode with rfl | hnode
    · rw [List.find?_eq_none.mpr (fun x hx => by simpa using hrep.ne_zero hx)]
      rfl
    · obtain ⟨x, hx, rfl⟩ := List.mem_map.mp hnode
      rw [hrep.find?_key hx]
      rfl
  have hremove := hrep.removeFirst fun x => x.1 = node
  rwa [hkey] at hremove

theorem nextNode (hrep : Represents list xs) {node : ℕ} (hnode : node ∈ xs.map Prod.fst) :
    listNodeNextNode list node = some (list.heap.node node).next := by
  have hne : node ≠ 0 := fun h => hrep.ring.null (h ▸ hnode)
  rw [listNodeNextNode, if_neg hne, RingHeap.get_of_mem (hrep.ring.used _ hnode), Option.map_some]

theorem prevNode (hrep : Represents list xs) {node : ℕ} (hnode : node ∈ xs.map Prod.fst) :
    listNodePrevNode list node = some (list.heap.node node).prev := by
  have hne : node ≠ 0 := fun h => hrep.ring.null (h ▸ hnode)
  rw [listNodePrevNode, if_neg hne, RingHeap.get_of_mem (hrep.ring.used _ hnode), Option.map_some]

/-- **Next and previous are inverse.** -/
theorem next_prev (hrep : Represents list xs) {node : ℕ} (hnode : node ∈ xs.map Prod.fst) :
    (listNodePrevNode list node).bind (listNodeNextNode list) = some node := by
  obtain ⟨hmem, hback⟩ := hrep.ring.next_prev hnode
  rw [hrep.prevNode hnode, Option.bind_some, hrep.nextNode hmem, hback]

theorem prev_next (hrep : Represents list xs) {node : ℕ} (hnode : node ∈ xs.map Prod.fst) :
    (listNodeNextNode list node).bind (listNodePrevNode list) = some node := by
  obtain ⟨hmem, hback⟩ := hrep.ring.prev_next hnode
  rw [hrep.nextNode hnode, Option.bind_some, hrep.prevNode hmem, hback]

end Represents

end LibvirtCim.ListUtil
