import Mathlib.Data.List.Nodup
import Mathlib.Data.List.Perm.Subperm
import Mathlib.Logic.Function.Basic
import Mathlib.Data.Nat.Notation

/-!
# Rings of nodes in a heap

A circular doubly linked list is a set of nodes in a heap that point at each other. `IsRing` says
which sequence of addresses such a structure stands for: each node points at the one behind it and
back, and the last one at the first.

Two rearrangements of pointers keep it: `IsRing.append` puts a node between the last and the first,
`IsRing.eraseIdx` takes one out. `IsRing.rotate` reads the same ring from the last node on.

`RingHeap.doWhile` is the loop that follows the pointers until it is back at the head. On a ring it
is a fold over the nodes (`IsRing.doWhile_eq`), so it ends and goes once to each of them, in order.
-/

namespace Framework

/-- A node. -/
structure RingNode (α : Type) where
  prev : ℕ
  next : ℕ
  data : α
  deriving DecidableEq, Repr

/-- A heap of nodes: the addresses in use and what is there. Zero is the null address. -/
structure RingHeap (α : Type) where
  used : List ℕ
  node : ℕ → RingNode α

namespace RingHeap

variable {α : Type}

/-- What an address points at, unless it is null or no longer in use. -/
def get (h : RingHeap α) (a : ℕ) : Option (RingNode α) :=
  if a ∈ h.used then some (h.node a) else none

/-- The fields of a node are assigned, where an address is in use. -/
def modify (h : RingHeap α) (a : ℕ) (f : RingNode α → RingNode α) : Option (RingHeap α) :=
  if a ∈ h.used then some { h with node := Function.update h.node a (f (h.node a)) } else none

/-- A node at an address that was not in use. -/
def alloc (h : RingHeap α) (a : ℕ) (n : RingNode α) : RingHeap α :=
  { used := a :: h.used, node := Function.update h.node a n }

/-- An address is given back. -/
def free (h : RingHeap α) (a : ℕ) : RingHeap α :=
  { h with used := h.used.erase a }

theorem get_of_mem {h : RingHeap α} {a : ℕ} (ha : a ∈ h.used) : h.get a = some (h.node a) :=
  if_pos ha

/-- `do body while (n != head)`, from `n` on: the body of the loop may leave it with `throw`. `none`
is a read of an address that is not in use, or a loop that takes more than `fuel` turns. -/
def doWhile {ρ σ : Type} (h : RingHeap α) (head : ℕ) (body : σ → ℕ → RingNode α → Except ρ σ) :
    ℕ → ℕ → σ → Option (Except ρ σ)
  | 0, _, _ => none
  | fuel + 1, n, s =>
    match h.get n with
    | none => none
    | some node =>
      match body s n node with
      | .error r => some (.error r)
      | .ok s => if node.next = head then some (.ok s) else doWhile h head body fuel node.next s

end RingHeap

/-- Two nodes that follow each other. -/
def Linked {α : Type} (h : RingHeap α) (a b : ℕ) : Prop :=
  (h.node a).next = b ∧ (h.node b).prev = a

/-- The ring that is read from `head` on as `nodes`. -/
structure IsRing {α : Type} (h : RingHeap α) (head : ℕ) (nodes : List ℕ) : Prop where
  nodup : nodes.Nodup
  null : 0 ∉ nodes
  used : ∀ a ∈ nodes, a ∈ h.used
  head_eq : head = nodes.headD 0
  link : ∀ (i : ℕ) (hi : i + 1 < nodes.length), Linked h nodes[i] nodes[i + 1]
  close : ∀ hne : nodes ≠ [], Linked h (nodes.getLast hne) (nodes.head hne)

namespace IsRing

variable {α : Type} {h h' : RingHeap α} {head : ℕ} {nodes : List ℕ}

theorem nil (h : RingHeap α) : IsRing h 0 [] where
  nodup := List.nodup_nil
  null := List.not_mem_nil
  used _ ha := absurd ha List.not_mem_nil
  head_eq := rfl
  link _ hi := absurd hi (Nat.not_lt_zero _)
  close hne := absurd rfl hne

theorem head_ne_zero (hr : IsRing h head nodes) (hne : nodes ≠ []) : head ≠ 0 := by
  intro hzero
  apply hr.null
  obtain ⟨a, nodes, rfl⟩ := List.exists_cons_of_ne_nil hne
  rw [← hzero, hr.head_eq]
  exact List.mem_cons_self

theorem eq_nil_iff (hr : IsRing h head nodes) : head = 0 ↔ nodes = [] := by
  refine ⟨fun hzero => ?_, fun hnil => ?_⟩
  · by_contra hne
    exact hr.head_ne_zero hne hzero
  · rw [hr.head_eq, hnil]
    rfl

theorem head_eq_head (hr : IsRing h head nodes) (hne : nodes ≠ []) : head = nodes.head hne := by
  obtain ⟨a, nodes, rfl⟩ := List.exists_cons_of_ne_nil hne
  exact hr.head_eq

/-- A node by itself. -/
theorem singleton {a : ℕ} (ha : a ≠ 0) (hused : a ∈ h.used) (hlink : Linked h a a) :
    IsRing h a [a] where
  nodup := List.nodup_singleton a
  null := by simpa using ha.symm
  used b hb := List.mem_singleton.mp hb ▸ hused
  head_eq := rfl
  link i hi := absurd hi (by simp)
  close _ := hlink

theorem getElem_eq_iff (hr : IsRing h head nodes) {i j : ℕ} {hi : i < nodes.length}
    {hj : j < nodes.length} : nodes[i] = nodes[j] ↔ i = j :=
  hr.nodup.getElem_inj_iff

/-- **A node is put between the last and the first.** -/
theorem append (hr : IsRing h head nodes) (hne : nodes ≠ []) {n : ℕ} (hn : n ∉ nodes) (hn0 : n ≠ 0)
    (hused : ∀ a, a = n ∨ a ∈ nodes → a ∈ h'.used)
    (hnext : ∀ a, (h'.node a).next =
      if a = nodes.getLast hne then n else if a = n then head else (h.node a).next)
    (hprev : ∀ a, (h'.node a).prev =
      if a = head then n else if a = n then nodes.getLast hne else (h.node a).prev) :
    IsRing h' head (nodes ++ [n]) := by
  have hhead := hr.head_eq_head hne
  have hlast : nodes.getLast hne ∈ nodes := List.getLast_mem hne
  have hfirst : nodes.head hne ∈ nodes := List.head_mem hne
  -- the six clauses of a ring, with the node at the end
  refine ⟨?_, ?_, ?_, ?_, ?_, ?_⟩
  · exact List.nodup_append.mpr ⟨hr.nodup, List.nodup_singleton n, fun a ha b hb => by
      rw [List.mem_singleton.mp hb]
      rintro rfl
      exact hn ha⟩
  · rw [List.mem_append, List.mem_singleton]
    exact fun h => h.elim hr.null fun h => hn0 h.symm
  · intro a ha
    rw [List.mem_append, List.mem_singleton] at ha
    exact hused a ha.symm
  · rw [hr.head_eq]
    obtain ⟨a, nodes, rfl⟩ := List.exists_cons_of_ne_nil hne
    rfl
  · intro i hi
    rw [List.length_append, List.length_singleton] at hi
    have hi' : i < nodes.length := by omega
    rw [List.getElem_append_left hi']
    -- between two nodes of before, neither end is touched
    by_cases hlt : i + 1 < nodes.length
    · obtain ⟨hnext', hprev'⟩ := hr.link i hlt
      rw [List.getElem_append_left hlt]
      refine ⟨?_, ?_⟩
      · rw [hnext, if_neg, if_neg, hnext']
        · exact fun h => hn (h ▸ List.getElem_mem hi')
        · rw [List.getLast_eq_getElem, hr.getElem_eq_iff]
          omega
      · rw [hprev, if_neg, if_neg, hprev']
        · exact fun h => hn (h ▸ List.getElem_mem hlt)
        · rw [hhead, List.head_eq_getElem, hr.getElem_eq_iff]
          omega
    · -- the last node, and the one behind it now
      obtain rfl : i = nodes.length - 1 := by omega
      rw [List.getElem_append_right (by omega), List.getElem_singleton,
        ← List.getLast_eq_getElem hne]
      refine ⟨?_, ?_⟩
      · rw [hnext, if_pos rfl]
      · rw [hprev, if_neg, if_pos rfl]
        rintro rfl
        exact hn (hhead ▸ hfirst)
  -- behind the new node comes the head again
  · intro hne'
    rw [List.getLast_append_singleton, List.head_append_of_ne_nil hne, ← hhead]
    refine ⟨?_, ?_⟩
    · rw [hnext, if_neg, if_pos rfl]
      rintro rfl
      exact hn hlast
    · rw [hprev, if_pos rfl]

/-- **The ring from its last node on.** -/
theorem rotate {n : ℕ} (hr : IsRing h head (nodes ++ [n])) : IsRing h n (n :: nodes) := by
  have hperm : (nodes ++ [n]).Perm (n :: nodes) := List.perm_append_singleton n nodes
  refine ⟨hperm.nodup_iff.mp hr.nodup, fun h0 => hr.null (hperm.mem_iff.mpr h0),
    fun a ha => hr.used a (hperm.mem_iff.mpr ha), rfl, ?_, ?_⟩
  -- the first link is the one that closed the ring, the others move up by one
  · intro i hi
    cases i with
    | zero =>
      have hne : nodes ≠ [] := by
        rintro rfl
        simp at hi
      have hclose := hr.close (by simp)
      rw [List.getLast_append_singleton, List.head_append_of_ne_nil hne,
        List.head_eq_getElem] at hclose
      exact hclose
    | succ i =>
      rw [List.length_cons] at hi
      have hlink := hr.link i (by rw [List.length_append, List.length_singleton]; omega)
      rw [List.getElem_append_left, List.getElem_append_left] at hlink
      exact hlink
  -- the last node is the one that stood before the head was added
  · intro _
    rcases List.eq_nil_or_concat nodes with rfl | ⟨nodes, a, rfl⟩
    · exact hr.close (by simp)
    · have hlink := hr.link nodes.length (by simp)
      simpa using hlink

/-- The node in front of a node, by its position. -/
theorem exists_prev (hr : IsRing h head nodes) {k : ℕ} (hk : k < nodes.length) :
    ∃ (i : ℕ) (hi : i < nodes.length), (h.node nodes[k]).prev = nodes[i] ∧
      (k = 0 ∧ i + 1 = nodes.length ∨ i + 1 = k) := by
  cases k with
  | zero =>
    have hclose := (hr.close (List.ne_nil_of_length_pos hk)).2
    rw [List.head_eq_getElem, List.getLast_eq_getElem] at hclose
    exact ⟨nodes.length - 1, by omega, hclose, .inl ⟨rfl, by omega⟩⟩
  | succ k => exact ⟨k, by omega, (hr.link k hk).2, .inr rfl⟩

/-- The node behind a node, by its position. -/
theorem exists_next (hr : IsRing h head nodes) {k : ℕ} (hk : k < nodes.length) :
    ∃ (i : ℕ) (hi : i < nodes.length), (h.node nodes[k]).next = nodes[i] ∧
      (k + 1 = nodes.length ∧ i = 0 ∨ i = k + 1) := by
  by_cases hlt : k + 1 < nodes.length
  · exact ⟨k + 1, hlt, (hr.link k hlt).1, .inr rfl⟩
  · have hclose := (hr.close (List.ne_nil_of_length_pos (by omega))).1
    rw [List.head_eq_getElem, List.getLast_eq_getElem] at hclose
    obtain rfl : k = nodes.length - 1 := by omega
    exact ⟨0, by omega, hclose, .inl ⟨by omega, rfl⟩⟩

/-- **The node in front of the node behind.** -/
theorem prev_next (hr : IsRing h head nodes) {a : ℕ} (ha : a ∈ nodes) :
    (h.node a).next ∈ nodes ∧ (h.node (h.node a).next).prev = a := by
  obtain ⟨k, hk, rfl⟩ := List.getElem_of_mem ha
  obtain ⟨s, hs, hnext, hpos⟩ := hr.exists_next hk
  obtain ⟨p, hp, hprev, hqos⟩ := hr.exists_prev hs
  rw [hnext, hprev, hr.getElem_eq_iff]
  exact ⟨List.getElem_mem hs, by omega⟩

/-- **The node behind the node in front.** -/
theorem next_prev (hr : IsRing h head nodes) {a : ℕ} (ha : a ∈ nodes) :
    (h.node a).prev ∈ nodes ∧ (h.node (h.node a).prev).next = a := by
  obtain ⟨k, hk, rfl⟩ := List.getElem_of_mem ha
  obtain ⟨p, hp, hprev, hpos⟩ := hr.exists_prev hk
  obtain ⟨s, hs, hnext, hqos⟩ := hr.exists_next hp
  rw [hprev, hnext, hr.getElem_eq_iff]
  exact ⟨List.getElem_mem hp, by omega⟩

/-- **A node is taken out.** -/
theorem eraseIdx (hr : IsRing h head nodes) {k : ℕ} (hk : k < nodes.length)
    (hlen : 2 ≤ nodes.length)
    (hused : ∀ a ∈ nodes, a ≠ nodes[k] → a ∈ h'.used)
    (hnext : ∀ a, (h'.node a).next =
      if a = (h.node nodes[k]).prev then (h.node nodes[k]).next else (h.node a).next)
    (hprev : ∀ a, (h'.node a).prev =
      if a = (h.node nodes[k]).next then (h.node nodes[k]).prev else (h.node a).prev) :
    IsRing h' (if nodes[k] = head then (h.node nodes[k]).next else head) (nodes.eraseIdx k) := by
  have hlen' : (nodes.eraseIdx k).length = nodes.length - 1 := List.length_eraseIdx_of_lt hk
  have hsub : ∀ a ∈ nodes.eraseIdx k, a ∈ nodes := fun a ha => List.mem_of_mem_eraseIdx ha
  -- the neighbours of the node that goes out, by their places
  obtain ⟨p, hp, hpk, hpos⟩ := hr.exists_prev hk
  obtain ⟨s, hs, hsk, hsos⟩ := hr.exists_next hk
  rw [hpk, hsk] at hnext hprev
  -- what the assignments leave, by position
  have hlinked : ∀ (i j : ℕ) (hi : i < nodes.length) (hj : j < nodes.length),
      (i = p ∧ j = s ∨ i ≠ p ∧ j ≠ s ∧ Linked h nodes[i] nodes[j]) →
        Linked h' nodes[i] nodes[j] := by
    rintro i j hi hj (⟨rfl, rfl⟩ | ⟨hip, hjs, hl⟩)
    · exact ⟨by rw [hnext, if_pos rfl], by rw [hprev, if_pos rfl]⟩
    · refine ⟨?_, ?_⟩
      · rw [hnext, if_neg (fun h => hip (hr.getElem_eq_iff.mp h)), hl.1]
      · rw [hprev, if_neg (fun h => hjs (hr.getElem_eq_iff.mp h)), hl.2]
  refine ⟨hr.nodup.sublist (List.eraseIdx_sublist _ _),
    fun h0 => hr.null (hsub 0 h0), ?_, ?_, ?_, ?_⟩
  · intro a ha
    refine hused a (hsub a ha) fun heq => ?_
    obtain ⟨j, hj, hjk, rfl⟩ := List.mem_eraseIdx_iff_getElem.mp ha
    exact hjk (hr.getElem_eq_iff.mp heq)
  -- the head moves on if it was the node that goes out
  · have hne : nodes ≠ [] := List.ne_nil_of_length_pos (by omega)
    have hne' : nodes.eraseIdx k ≠ [] := List.ne_nil_of_length_pos (by omega)
    rw [List.headD_eq_head?_getD, List.head?_eq_some_head hne', Option.getD_some,
      List.head_eq_getElem, List.getElem_eraseIdx, hsk]
    have hzero : head = nodes[0] := (hr.head_eq_head hne).trans (List.head_eq_getElem hne)
    have hiff : nodes[k] = head ↔ k = 0 := by rw [hzero, hr.getElem_eq_iff]
    by_cases h0 : k = 0
    · rw [if_pos (hiff.mpr h0), dif_neg (by omega), hr.getElem_eq_iff]
      omega
    · rw [if_neg (fun h => h0 (hiff.mp h)), dif_pos (by omega), hzero]
  -- before, at and behind the gap
  · intro i hi
    rw [hlen'] at hi
    rw [List.getElem_eraseIdx, List.getElem_eraseIdx]
    by_cases h1 : i + 1 < k
    · rw [dif_pos (by omega), dif_pos h1]
      exact hlinked i (i + 1) (by omega) (by omega)
        (.inr ⟨by omega, by omega, hr.link i (by omega)⟩)
    · rw [dif_neg h1]
      by_cases h2 : i < k
      · rw [dif_pos h2]
        exact hlinked i (i + 1 + 1) (by omega) (by omega) (.inl ⟨by omega, by omega⟩)
      · rw [dif_neg h2]
        exact hlinked (i + 1) (i + 1 + 1) (by omega) (by omega)
          (.inr ⟨by omega, by omega, hr.link (i + 1) (by omega)⟩)
  -- the last and the first are neighbours, over the gap if that is where they meet
  · intro hne
    rw [List.getLast_eq_getElem, List.head_eq_getElem, List.getElem_eraseIdx, List.getElem_eraseIdx]
    have hclose := hr.close (List.ne_nil_of_length_pos (by omega))
    rw [List.getLast_eq_getElem, List.head_eq_getElem] at hclose
    by_cases h0 : 0 < k
    · rw [dif_pos h0]
      by_cases hlast : k + 1 = nodes.length
      · rw [dif_pos (by omega)]
        exact hlinked _ 0 (by omega) (by omega) (.inl ⟨by omega, by omega⟩)
      · rw [dif_neg (by omega)]
        have hidx : (nodes.eraseIdx k).length - 1 + 1 = nodes.length - 1 := by omega
        simp only [hidx]
        exact hlinked _ 0 (by omega) (by omega) (.inr ⟨by omega, by omega, hclose⟩)
    · rw [dif_neg h0, dif_neg (by omega)]
      exact hlinked _ 1 (by omega) (by omega) (.inl ⟨by omega, by omega⟩)

/-! ### The loop -/

/-- There are no more nodes in a ring than addresses in use. -/
theorem length_le (hr : IsRing h head nodes) : nodes.length ≤ h.used.length :=
  (hr.nodup.subperm hr.used).length_le

theorem doWhile_getElem {ρ σ : Type} (hr : IsRing h head nodes)
    (body : σ → ℕ → RingNode α → Except ρ σ) {k : ℕ} (hk : k < nodes.length) (fuel : ℕ)
    (hfuel : nodes.length - k ≤ fuel) (s : σ) :
    h.doWhile head body fuel nodes[k] s =
      some ((nodes.drop k).foldlM (fun s a => body s a (h.node a)) s) := by
  induction fuel generalizing k s with
  | zero => omega
  -- one round of the loop is one step of the fold
  | succ fuel ih =>
    have hne : nodes ≠ [] := List.ne_nil_of_length_pos (by omega)
    have hhead : head = nodes[0] := (hr.head_eq_head hne).trans (List.head_eq_getElem hne)
    rw [List.drop_eq_getElem_cons hk, List.foldlM_cons, RingHeap.doWhile,
      RingHeap.get_of_mem (hr.used _ (List.getElem_mem hk))]
    cases hbody : body s nodes[k] (h.node nodes[k]) with
    | error r => simp only [hbody]; rfl
    | ok s' =>
      simp only [hbody]
      obtain ⟨i, hi, hnext, ⟨hlast, rfl⟩ | rfl⟩ := hr.exists_next hk
      · -- back at the head
        rw [if_pos (hnext.trans hhead.symm), List.drop_of_length_le (by omega)]
        rfl
      · rw [if_neg, hnext, ih hi (by omega)]
        · rfl
        · rw [hnext, hhead, hr.getElem_eq_iff]
          omega

/-- **The loop is a fold over the nodes.** -/
theorem doWhile_eq {ρ σ : Type} (hr : IsRing h head nodes) (hne : nodes ≠ [])
    (body : σ → ℕ → RingNode α → Except ρ σ) (s : σ) :
    h.doWhile head body h.used.length head s =
      some (nodes.foldlM (fun s a => body s a (h.node a)) s) := by
  have hpos : 0 < nodes.length := List.length_pos_of_ne_nil hne
  have hloop := hr.doWhile_getElem body hpos h.used.length hr.length_le s
  rw [← List.head_eq_getElem hne, ← hr.head_eq_head hne] at hloop
  exact hloop

end IsRing

/-! ### Folds that may be left -/

/-- Two bodies that agree on the elements of a list. -/
theorem foldlM_congr_of_mem {β ρ σ : Type} {f g : σ → β → Except ρ σ} {l : List β}
    (h : ∀ b ∈ l, ∀ s, f s b = g s b) (s : σ) : l.foldlM f s = l.foldlM g s := by
  induction l generalizing s with
  | nil => rfl
  | cons b l ih =>
    rw [List.foldlM_cons, List.foldlM_cons, h b List.mem_cons_self]
    exact congrArg _ (funext fun s' => ih (fun b hb => h b (List.mem_cons_of_mem _ hb)) s')

/-- A loop that is left at the first element with a property. -/
theorem foldlM_find {β ρ : Type} (p : β → Prop) [DecidablePred p] (f : β → ρ) (l : List β) :
    l.foldlM (fun (_ : Unit) b => if p b then Except.error (f b) else .ok ()) () =
      (l.find? fun b => p b).elim (.ok ()) fun b => .error (f b) := by
  induction l with
  | nil => rfl
  | cons b l ih =>
    rw [List.foldlM_cons, List.find?_cons]
    by_cases h : p b
    · rw [if_pos h, decide_eq_true h]
      rfl
    · rw [if_neg h, decide_eq_false h]
      exact ih

end Framework
