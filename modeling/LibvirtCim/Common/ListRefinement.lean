import LibvirtCim.Common.ListUtil
import LibvirtCim.Framework.Run

/-!
# Histories of a list

Any sequence of calls of `list_util.c` is a run of `listSystem`; the same calls on a sequence of
elements are a run of `sequenceSystem`. `listSystem_refines` says that the list behaves like the
sequence, over every run: it gives the same answers, it is the sequence when it is read from the
head, and no call gets stuck.

The counter is an `unsigned int`, so it counts modulo `2 ^ 32` (`not_count_eq_length`).
-/

open Framework

namespace LibvirtCim.ListUtil

variable {D U S : Type}

/-- A call, with the address it gets from `calloc` where it asks for memory. -/
inductive Op (D U S : Type) where
  | append (n : ℕ) (data : D)
  | prepend (n : ℕ) (data : D)
  | find (userData : U)
  | findNode (userData : U)
  | remove (userData : U)
  | removeNode (node : ℕ)
  | nodeData (node : ℕ)
  | foreach (cb : D → S → Bool × S) (s : S)

/-- What a call returns. -/
inductive Output (D S : Type) where
  | done
  | data (d : Option D)
  | node (n : ℕ)
  | visited (finished : Bool) (s : S)
  deriving DecidableEq

/-- A call of a function of the file. -/
def listStep (list : ListT D U) : Op D U S → Option (ListT D U × Output D S)
  | .append n data => (listAppend n data list).map (·, .done)
  | .prepend n data => (listPrepend n data list).map (·, .done)
  | .find userData => (listFind userData list).map fun d => (list, .data d)
  | .findNode userData => (listFindNode userData list).map fun n => (list, .node n)
  | .remove userData => (listRemove userData list).map (·, .done)
  | .removeNode node => (listRemoveNode node list).map (·, .done)
  | .nodeData node => (listNodeDataGet list node).map fun d => (list, .data d)
  | .foreach cb s => (listForeach cb s list).map fun r => (list, .visited r.1 r.2)

/-- What a caller and the allocator keep to: memory is null or was not in use, there is memory for
`list_prepend`, which reads the head without a check, and a node is null or one of the list. -/
def Admissible (list : ListT D U) : Op D U S → Prop
  | .append n _ => n = 0 ∨ n ∉ list.heap.used
  | .prepend n _ => n ≠ 0 ∧ n ∉ list.heap.used
  | .removeNode node | .nodeData node =>
    node = 0 ∨ ∃ nodes, listNodes list = some nodes ∧ node ∈ nodes
  | .find _ | .findNode _ | .remove _ | .foreach _ _ => True

/-- The calls on a list. -/
def listSystem (S : Type) (heap : RingHeap D) (freeCb : Bool) (cmpCb : Option (D → U → ℤ)) :
    System (ListT D U) (Op D U S × Output D S) where
  init := listNew heap freeCb cmpCb
  step list call list' := Admissible list call.1 ∧ listStep list call.1 = some (list', call.2)

/-- The same calls on a sequence. The elements carry their nodes, for the calls that are about
nodes; an append that gets no memory leaves the sequence as it is. -/
def sequenceStep (cmpCb : Option (D → U → ℤ)) (xs : List (ℕ × D)) :
    Op D U S → List (ℕ × D) × Output D S
  | .append n data => (if n = 0 then xs else xs ++ [(n, data)], .done)
  | .prepend n data => ((n, data) :: xs, .done)
  | .find userData => (xs, .data ((xs.find? (meets cmpCb userData)).map Prod.snd))
  | .findNode userData => (xs, .node ((xs.find? (meets cmpCb userData)).elim 0 Prod.fst))
  | .remove userData => (xs.eraseP (meets cmpCb userData), .done)
  | .removeNode node => (xs.eraseP fun x => x.1 = node, .done)
  | .nodeData node => (xs, .data ((xs.find? fun x => x.1 = node).map Prod.snd))
  | .foreach cb s =>
    (xs, .visited (visit cb (xs.map Prod.snd) s).1 (visit cb (xs.map Prod.snd) s).2)

/-- The calls on a sequence. -/
def sequenceSystem (S : Type) (cmpCb : Option (D → U → ℤ)) :
    System (List (ℕ × D)) (Op D U S × Output D S) where
  init := []
  step xs call xs' := sequenceStep cmpCb xs call.1 = (xs', call.2)

/-- **A call does to the list what it does to the sequence.** -/
theorem Represents.step {list : ListT D U} {xs : List (ℕ × D)} (hrep : Represents list xs)
    {op : Op D U S} (hadm : Admissible list op) :
    ∃ list', listStep list op = some (list', (sequenceStep list.cmpCb xs op).2) ∧
      Represents list' (sequenceStep list.cmpCb xs op).1 ∧ list'.cmpCb = list.cmpCb := by
  -- a node handed in is null or one of the list's own
  have hnode : ∀ node, (node = 0 ∨ ∃ nodes, listNodes list = some nodes ∧ node ∈ nodes) →
      node = 0 ∨ node ∈ xs.map Prod.fst := by
    rintro node (h0 | ⟨nodes, hnodes, hmem⟩)
    · exact .inl h0
    · rw [hrep.nodes] at hnodes
      exact .inr (Option.some.inj hnodes ▸ hmem)
  -- each call has its lemma about the heap; what is left is to put the results together
  cases op with
  | append n data =>
    -- without memory for the node, both sides stay as they are
    by_cases hn0 : n = 0
    · refine ⟨list, ?_, ?_, rfl⟩
      · rw [listStep, listAppend, if_pos hn0]
        rfl
      · rw [sequenceStep, if_pos hn0]
        exact hrep
    · obtain ⟨list', happend, hrep', hcmp, -⟩ := hrep.append hn0 (hadm.resolve_left hn0) data
      refine ⟨list', ?_, ?_, hcmp⟩
      · rw [listStep, happend]
        rfl
      · rw [sequenceStep, if_neg hn0]
        exact hrep'
  | prepend n data =>
    obtain ⟨list', hprepend, hrest⟩ := hrep.prepend hadm.1 hadm.2 data
    exact ⟨list', by rw [listStep, hprepend]; rfl, hrest⟩
  | find userData => exact ⟨list, by rw [listStep, hrep.find]; rfl, hrep, rfl⟩
  | findNode userData => exact ⟨list, by rw [listStep, hrep.findNode]; rfl, hrep, rfl⟩
  | remove userData =>
    obtain ⟨list', hremove, hrest⟩ := hrep.remove userData
    exact ⟨list', by rw [listStep, hremove]; rfl, hrest⟩
  | removeNode node =>
    obtain ⟨list', hremove, hrest⟩ := hrep.removeKey (hnode node hadm)
    exact ⟨list', by rw [listStep, hremove]; rfl, hrest⟩
  | nodeData node =>
    exact ⟨list, by rw [listStep, hrep.nodeData (hnode node hadm)]; rfl, hrep, rfl⟩
  | foreach cb s => exact ⟨list, by rw [listStep, hrep.foreach]; rfl, hrep, rfl⟩

/-- A run of the list is a run of the sequence. -/
theorem run_represents {heap : RingHeap D} {freeCb : Bool} {cmpCb : Option (D → U → ℤ)}
    {calls : List (Op D U S × Output D S)} {list : ListT D U}
    (h : Run (listSystem S heap freeCb cmpCb) (listNew heap freeCb cmpCb) calls list) :
    ∃ xs, Run (sequenceSystem S cmpCb) [] calls xs ∧ Represents list xs ∧ list.cmpCb = cmpCb := by
  refine h.historyInvariant (I := fun calls list => ∃ xs, Run (sequenceSystem S cmpCb) [] calls xs ∧
    Represents list xs ∧ list.cmpCb = cmpCb) ?_ ⟨[], .nil _, Represents.new heap freeCb cmpCb, rfl⟩
  rintro calls list ⟨op, out⟩ list' ⟨xs, hrun, hrep, hcmp⟩ ⟨hadm, hstep⟩
  obtain ⟨list'', hstep', hrep', hcmp'⟩ := hrep.step hadm
  obtain ⟨rfl, hout⟩ := Prod.mk.inj (Option.some.inj (hstep.symm.trans hstep'))
  rw [hcmp] at hrep' hcmp' hout
  exact ⟨_, hrun.snoc (Prod.ext rfl hout.symm), hrep', hcmp'⟩

/-- A heap without nodes. -/
def emptyHeap : RingHeap ℕ := { used := [], node := fun _ => { prev := 0, next := 0, data := 0 } }

/-- **A list behaves like the sequence it stands for**, whatever is done with it: a run of calls
on the ring of nodes is a run on a sequence with the same answers, and the next call goes through.
`Represents` says which sequence the heap stands for, and every operation keeps it
(`Represents.step`); the other parts are read off it in the state reached. -/
theorem listSystem_refines {heap : RingHeap D} {freeCb : Bool} {cmpCb : Option (D → U → ℤ)}
    {calls : List (Op D U S × Output D S)} {list : ListT D U}
    (h : Run (listSystem S heap freeCb cmpCb) (listNew heap freeCb cmpCb) calls list) :
    ∃ xs, Run (sequenceSystem S cmpCb) [] calls xs ∧
      listNodes list = some (xs.map Prod.fst) ∧
      (∀ x ∈ xs, listNodeDataGet list x.1 = some (some x.2)) ∧
      (∀ x ∈ xs, (listNodePrevNode list x.1).bind (listNodeNextNode list) = some x.1 ∧
        (listNodeNextNode list x.1).bind (listNodePrevNode list) = some x.1) ∧
      (listCount list).toNat = xs.length % UInt32.size ∧
      ∀ op : Op D U S, Admissible list op → ∃ list' out, listStep list op = some (list', out) := by
  obtain ⟨xs, hrun, hrep, -⟩ := run_represents h
  refine ⟨xs, hrun, hrep.nodes, ?_, ?_, ?_, ?_⟩
  -- what a caller can read of the state reached, part by part
  · intro x hx
    rw [listNodeDataGet, if_neg (hrep.ne_zero hx), hrep.get hx, Option.map_some, hrep.data x hx]
  · intro x hx
    have hnode : x.1 ∈ xs.map Prod.fst := List.mem_map_of_mem hx
    exact ⟨hrep.next_prev hnode, hrep.prev_next hnode⟩
  · rw [listCount, hrep.count]
    exact UInt32.toNat_ofNat'
  · intro op hadm
    obtain ⟨list', hstep, -⟩ := hrep.step hadm
    exact ⟨list', _, hstep⟩

/-- Numbers, compared as they are. -/
def numbers : Option (ℕ → ℕ → ℤ) := some fun d u => d - u

/-- The head and then the only element are removed. -/
theorem listSystem_refines_removals :
    ∃ (list : ListT ℕ ℕ) (xs : List (ℕ × ℕ)),
      Run (sequenceSystem Unit numbers) [] [(.append 8 1, .done), (.prepend 16 2, .done),
        (.remove 2, .done), (.remove 1, .done)] xs ∧
      listNodes list = some (xs.map Prod.fst) := by
  obtain ⟨list, hrun⟩ : ∃ list,
      Run (listSystem Unit emptyHeap false numbers) (listNew emptyHeap false numbers)
      ([] ++ [(.append 8 1, .done)] ++ [(.prepend 16 2, .done)] ++ [(.remove 2, .done)] ++
        [(.remove 1, .done)]) list := by
    apply Exists.intro
    iterate 4 apply Run.snoc
    · exact Run.nil _
    · exact ⟨.inr (by decide), rfl⟩
    · exact ⟨⟨by decide, by decide⟩, rfl⟩
    · exact ⟨trivial, rfl⟩
    · exact ⟨trivial, rfl⟩
  obtain ⟨xs, hseq, hnodes, -⟩ := listSystem_refines hrun
  exact ⟨_, xs, hseq, hnodes⟩

/-- Elements are appended, at the addresses from one on. -/
def appends (m : ℕ) : List (Op ℕ ℕ Unit × Output ℕ Unit) :=
  (List.range m).map fun i => (.append (i + 1) 0, .done)

theorem run_appends (m : ℕ) :
    ∃ (list : ListT ℕ ℕ) (xs : List (ℕ × ℕ)),
      Run (listSystem Unit emptyHeap false numbers) (listNew emptyHeap false numbers)
          (appends m) list ∧
        Represents list xs ∧ xs.length = m ∧ ∀ a ∈ list.heap.used, a ≤ m := by
  -- each append takes the next address, which is fresh
  induction m with
  | zero =>
    exact ⟨_, [], .nil _, Represents.new emptyHeap false numbers, rfl,
      fun _ ha => absurd ha List.not_mem_nil⟩
  | succ m ih =>
    obtain ⟨list, xs, hrun, hrep, hlen, hused⟩ := ih
    have hfresh : m + 1 ∉ list.heap.used := fun h => absurd (hused _ h) (by omega)
    obtain ⟨list', happend, hrep', -, hused'⟩ := hrep.append (Nat.succ_ne_zero m) hfresh 0
    refine ⟨list', _, ?_, hrep', ?_, ?_⟩
    · rw [appends, List.range_succ, List.map_append]
      exact hrun.snoc ⟨.inr hfresh, by rw [listStep, happend]; rfl⟩
    · rw [List.length_append, hlen, List.length_singleton]
    · intro a ha
      rw [hused', List.mem_cons] at ha
      rcases ha with rfl | ha
      · exact Nat.le_refl _
      · exact Nat.le_succ_of_le (hused a ha)

/-- A list of `2 ^ 32` elements counts none. -/
theorem not_count_eq_length :
    ¬ ∀ (calls : List (Op ℕ ℕ Unit × Output ℕ Unit)) (list : ListT ℕ ℕ) (nodes : List ℕ),
      Run (listSystem Unit emptyHeap false numbers) (listNew emptyHeap false numbers) calls list →
        listNodes list = some nodes → (listCount list).toNat = nodes.length := by
  intro h
  obtain ⟨list, xs, hrun, hrep, hlen, -⟩ := run_appends (2 ^ 32)
  have hcount := h _ _ _ hrun hrep.nodes
  rw [List.length_map, listCount, hrep.count, UInt32.toNat_ofNat', hlen, Nat.mod_self] at hcount
  exact absurd hcount (by omega)

end LibvirtCim.ListUtil
