import LibvirtCim.Enumeration.DomainList
import Mathlib.Algebra.Ring.Nat

/-!
# The memory the domains consume

`mempool_set_consumed` lists the running domains by their ids and adds up what libvirt tells of
the memory of each. The array of ids has as many slots as domains were counted; the slots that are
not filled stay 0 and are looked up like the others.

* `memory_eq` — what is added, modulo the width of the sum;
* `memoryExact_iff` — when it is the memory of the listed domains;
* `listing_iff` — this, and when the list of the domains is exact.
-/

open Framework

namespace LibvirtCim.Enumeration

/-! ### `mempool_set_consumed` -/

/-- The properties that are set, and the result. -/
structure Consumed where
  reserved : UInt64
  currentlyConsumedResource : UInt64
  result : Bool
  deriving DecidableEq, Repr

/-- The moment of the next call, and the memory of the domains so far. -/
structure SumState where
  moment : ℕ
  memory : UInt64 := 0

section Memory

variable (c : Course)

/-- The memory of one more domain: a look-up and, if it finds a domain, `virDomainGetInfo`. -/
def addMemory (s : SumState) (id : ℕ) : SumState :=
  match found c HostState.byId s.moment id with
  | none => { s with moment := s.moment + 1 }
  | some dom =>
    match (c.answer (s.moment + 1) fun h => h.memory dom).join with
    | none => { s with moment := s.moment + 2 }
    | some memory => { moment := s.moment + 2, memory := s.memory + memory }

/-- The loop over the array of ids, of `count` slots. -/
def sumMemory (count : ℕ) : UInt64 :=
  match c.answer 1 fun h => h.running.take count with
  | none => 0
  | some ids =>
    -- `calloc` has zeroed the slots that are not filled
    ((ids ++ List.replicate (count - ids.length) 0).foldl (addMemory c) { moment := 2 }).memory

/-- `mempool_set_consumed`, in the variant that is compiled. -/
def mempoolSetConsumed : Consumed :=
  let memory :=
    match c.answer 0 fun h => h.running.length with
    | none => 0
    | some count => if count = 0 then 0 else sumMemory c count
  { reserved := memory, currentlyConsumedResource := memory, result := memory != 0 }

/-! ### What is looked up -/

/-- The ids libvirt lists. -/
def Course.listed : List ℕ :=
  if c.fails 0 || c.fails 1 then [] else (c.host 1).running.take (c.host 0).running.length

/-- The slots that are not filled. -/
def Course.surplus : List ℕ :=
  if c.fails 0 || c.fails 1 then []
  else List.replicate ((c.host 0).running.length - c.listed.length) 0

/-- The moment after a look-up, and `virDomainGetInfo` if it is called. -/
def Course.next (t id : ℕ) : ℕ :=
  if (found c HostState.byId t id).isSome then t + 2 else t + 1

/-- The look-ups of a list of ids, with their moments. -/
def Course.asked : ℕ → List ℕ → List (ℕ × ℕ)
  | _, [] => []
  | t, id :: ids => (t, id) :: Course.asked (c.next t id) ids

/-- The moment after a list of ids. -/
def Course.after (t : ℕ) (ids : List ℕ) : ℕ := ids.foldl c.next t

/-- The memory of the domain that runs with an id when it is looked up, at the moment after. -/
def Course.memoryOf (lookUp : ℕ × ℕ) : ℕ :=
  ((((c.host lookUp.1).byId lookUp.2).bind (c.host (lookUp.1 + 1)).memory).getD 0).toNat

/-- The calls about a domain do not fail. -/
def Course.reached (lookUp : ℕ × ℕ) : Bool := !c.fails lookUp.1 && !c.fails (lookUp.1 + 1)

/-- The memory of the domains that libvirt lists. -/
def Course.listedMemory : ℕ := ((c.asked 2 c.listed).map c.memoryOf).sum

/-- What the calls that fail leave out. -/
def Course.missedMemory : ℕ :=
  (((c.asked 2 c.listed).filter fun lookUp => !c.reached lookUp).map c.memoryOf).sum

/-- What the slots add that are not filled. -/
def Course.surplusMemory : ℕ :=
  (((c.asked (c.after 2 c.listed) c.surplus).filter c.reached).map c.memoryOf).sum

/-- **What is asked of `mempool_set_consumed`**: both properties are the memory of the domains that
libvirt lists. -/
def MemoryExact : Prop :=
  (mempoolSetConsumed c).reserved.toNat = c.listedMemory ∧
    (mempoolSetConsumed c).currentlyConsumedResource.toNat = c.listedMemory

/-! ### The sum -/

variable {c}

theorem asked_append (t : ℕ) (ids more : List ℕ) :
    c.asked t (ids ++ more) = c.asked t ids ++ c.asked (c.after t ids) more := by
  induction ids generalizing t with
  | nil => rfl
  | cons id ids ih =>
    rw [List.cons_append, Course.asked, Course.asked, ih, List.cons_append]
    rfl

/-- What the calls tell of one domain. -/
def Course.told (c : Course) (lookUp : ℕ × ℕ) : ℕ :=
  if c.reached lookUp then c.memoryOf lookUp else 0

theorem told_of_found {t id : ℕ} {dom : String} (h : found c HostState.byId t id = some dom) :
    c.told (t, id) = (((c.answer (t + 1) fun h => h.memory dom).join).getD 0).toNat := by
  obtain ⟨hfails, hdom⟩ := found_eq_some.mp h
  rw [Course.told, Course.reached, Course.memoryOf, hfails, hdom, Option.bind_some]
  cases hinfo : c.fails (t + 1) with
  | true =>
    rw [answer_of_fails hinfo]
    rfl
  | false =>
    rw [answer_of_not_fails hinfo]
    rfl

theorem told_of_not_found {t id : ℕ} (h : found c HostState.byId t id = none) :
    c.told (t, id) = 0 := by
  rw [Course.told, Course.reached, Course.memoryOf]
  cases hfails : c.fails t with
  | true => rfl
  | false =>
    rw [found, answer_of_not_fails hfails] at h
    rw [show (c.host t).byId id = none from h]
    exact ite_self 0

/-- One slot. -/
theorem addMemory_eq (s : SumState) (id : ℕ) :
    (addMemory c s id).moment = c.next s.moment id ∧
      (addMemory c s id).memory.toNat = (s.memory.toNat + c.told (s.moment, id)) % 2 ^ 64 := by
  rw [addMemory, Course.next]
  cases hfound : found c HostState.byId s.moment id with
  | none =>
    rw [told_of_not_found hfound]
    exact ⟨rfl, (Nat.mod_eq_of_lt s.memory.toNat_lt).symm⟩
  | some dom =>
    rw [told_of_found hfound]
    dsimp only
    cases (c.answer (s.moment + 1) fun h => h.memory dom).join with
    | none => exact ⟨rfl, (Nat.mod_eq_of_lt s.memory.toNat_lt).symm⟩
    | some memory => exact ⟨rfl, UInt64.toNat_add _ _⟩

/-- **What the loop adds.** -/
theorem memory_eq (ids : List ℕ) (s : SumState) :
    (ids.foldl (addMemory c) s).memory.toNat =
      (s.memory.toNat + ((c.asked s.moment ids).map c.told).sum) % 2 ^ 64 := by
  induction ids generalizing s with
  | nil => exact (Nat.mod_eq_of_lt s.memory.toNat_lt).symm
  | cons id ids ih =>
    obtain ⟨hmoment, hmemory⟩ := addMemory_eq (c := c) s id
    rw [List.foldl_cons, ih, hmoment, hmemory, Course.asked, List.map_cons, List.sum_cons,
      Nat.mod_add_mod, Nat.add_assoc]

/-- The sum is that of the loop over the ids that are listed and the slots that are not filled. -/
theorem mempoolSetConsumed_eq_foldl (c : Course) :
    (mempoolSetConsumed c).currentlyConsumedResource =
      ((c.listed ++ c.surplus).foldl (addMemory c) { moment := 2 }).memory := by
  unfold mempoolSetConsumed Course.surplus Course.listed sumMemory
  cases h0 : c.fails 0 with
  | true =>
    rw [answer_of_fails h0]
    rfl
  | false =>
  rw [answer_of_not_fails h0]
  dsimp only
  cases h1 : c.fails 1 with
  | true =>
    rw [answer_of_fails h1]
    exact ite_self 0
  | false =>
  rw [answer_of_not_fails h1]
  by_cases hnone : (c.host 0).running.length = 0
  · rw [if_pos hnone, hnone]
    rfl
  · rw [if_neg hnone]
    rfl

/-- What the sum is. -/
theorem mempoolSetConsumed_memory (c : Course) :
    (mempoolSetConsumed c).currentlyConsumedResource.toNat =
      (((c.asked 2 c.listed).map c.told).sum +
        ((c.asked (c.after 2 c.listed) c.surplus).map c.told).sum) % 2 ^ 64 := by
  rw [mempoolSetConsumed_eq_foldl, memory_eq, asked_append, List.map_append, List.sum_append]
  exact congrArg (· % 2 ^ 64) (Nat.zero_add _)

theorem sum_told (lookUps : List (ℕ × ℕ)) :
    (lookUps.map c.told).sum = ((lookUps.filter c.reached).map c.memoryOf).sum := by
  induction lookUps with
  | nil => rfl
  | cons lookUp lookUps ih =>
    rw [List.map_cons, List.sum_cons, ih, Course.told]
    by_cases hreached : c.reached lookUp
    · rw [if_pos hreached, List.filter_cons_of_pos hreached, List.map_cons, List.sum_cons]
    · rw [if_neg hreached, List.filter_cons_of_neg hreached, Nat.zero_add]

/-- The memory of the domains libvirt lists is what is told of them and what is left out. -/
theorem listedMemory_eq (c : Course) :
    c.listedMemory = ((c.asked 2 c.listed).map c.told).sum + c.missedMemory := by
  rw [Course.listedMemory, Course.missedMemory]
  induction c.asked 2 c.listed with
  | nil => rfl
  | cons lookUp lookUps ih =>
    rw [List.map_cons, List.sum_cons, ih, List.map_cons, List.sum_cons, Course.told]
    cases hreached : c.reached lookUp with
    | true =>
      rw [if_pos rfl, List.filter_cons_of_neg (by rw [hreached]; exact Bool.false_ne_true),
        Nat.add_assoc]
    | false =>
      rw [if_neg Bool.false_ne_true, List.filter_cons_of_pos (by rw [hreached]; rfl),
        List.map_cons, List.sum_cons]
      omega

/-- **When the sum is the memory of the listed domains**: it fits the property, and what the slots
add that are not filled is what the calls that fail leave out. -/
theorem memoryExact_iff (c : Course) :
    MemoryExact c ↔
      c.listedMemory < 2 ^ 64 ∧ c.surplusMemory % 2 ^ 64 = c.missedMemory % 2 ^ 64 := by
  have hsum := mempoolSetConsumed_memory c
  rw [sum_told (c.asked (c.after 2 c.listed) c.surplus)] at hsum
  have hlisted := listedMemory_eq c
  have hboth : (mempoolSetConsumed c).reserved = (mempoolSetConsumed c).currentlyConsumedResource :=
    rfl
  rw [MemoryExact, hboth, and_self_iff, hsum, ← Course.surplusMemory]
  omega

/-- The slots that are not filled add nothing where no domain has the id 0. -/
theorem surplusMemory_eq_zero (h : ∀ t, (c.host t).byId 0 = none) : c.surplusMemory = 0 := by
  have hzero : ∀ id ∈ c.surplus, id = 0 := by
    unfold Course.surplus
    split
    · exact fun _ hid => nomatch hid
    · exact fun _ hid => List.eq_of_mem_replicate hid
  rw [Course.surplusMemory, ← sum_told]
  generalize c.after 2 c.listed = t
  generalize c.surplus = slots at hzero ⊢
  induction slots generalizing t with
  | nil => rfl
  | cons id ids ih =>
    rw [List.forall_mem_cons] at hzero
    have hnone : found c HostState.byId t id = none := by
      rw [hzero.1, found]
      cases hfails : c.fails t with
      | true => rw [answer_of_fails hfails, Option.join_none]
      | false => rw [answer_of_not_fails hfails, h t, Option.join_some]
    rw [Course.asked, List.map_cons, List.sum_cons, told_of_not_found hnone, ih _ hzero.2]

end Memory

/-! ### Both listings -/

/-- **When the domains are listed and their memory is summed exactly.** The host changes between
the calls, so each condition speaks of the course it takes: no call that counts or lists fails, a
domain that stays is seen once (`listsExactly_iff`), and the slots that are not filled add what
the failing calls leave out (`memoryExact_iff`). -/
theorem listing_iff (c : Course) :
    (ListsExactly c ↔ Untroubled c ∧ ∀ name, Throughout c name → SeenOnce c name) ∧
      (MemoryExact c ↔
        c.listedMemory < 2 ^ 64 ∧ c.surplusMemory % 2 ^ 64 = c.missedMemory % 2 ^ 64) :=
  ⟨listsExactly_iff c, memoryExact_iff c⟩

/-- A host without domains, of which libvirt cannot count those that do not run. -/
def uncounted : Course where
  host := fun _ => ⟨[], List.nodup_nil, List.nodup_nil⟩
  fails := fun t => t == 0

/-- The count is then 0, like that of a host without domains. -/
theorem not_listsExactly : ¬ ∀ c, ListsExactly c ∧ MemoryExact c := by
  intro h
  have hnot : ¬ Untroubled uncounted := fun huntroubled =>
    absurd huntroubled.numOfDefinedDomains (by decide)
  exact absurd ((h uncounted).1.negative hnot) (Int.not_lt.mpr (getDomainList_nonneg uncounted))

end LibvirtCim.Enumeration
