import LibvirtCim.Indication.FilterSpec
import Mathlib.Tactic.Common

/-!
# Safety of the filter bookkeeping

`NeverLost` fails for the provider as it stands, in two ways. The worker tests
the counter and resets the record in two critical sections, so a filter
activated between them is counted, finds a thread id, starts no worker, and is
wiped by the reset (`reset_forgets`, `not_neverLost`). And a worker whose connect
fails resets the counter of the very filters it was created for
(`failed_start_leaves`).

It holds for the runs whose steps are all `Careful`: no filter is activated while
the platform's worker is on its way out, a worker with filters to serve gets
into its loop, and only an active filter is deactivated
(`subscribed_of_careful`).

The proof is one invariant per platform, `SlotInv`, on the record, the worker and
the two numbers counted off the history. Two of its clauses do the work: a
platform without a worker, and a platform whose worker is leaving, have no active
filter. They are what the reset needs in order to change nothing, and what turns
a positive counter into a worker that stays.
-/

open Framework

namespace LibvirtCim.Indication

/-! ### Counting along a run -/

theorem activations_append (p : Platform) (ls : List Event) (l : Event) :
    activations p (ls ++ [l]) = activations p ls + if l.activates p then 1 else 0 := by
  rw [activations, List.countP_append, List.countP_singleton]
  rfl

theorem deactivations_append (p : Platform) (ls : List Event) (l : Event) :
    deactivations p (ls ++ [l]) = deactivations p ls + if l.deactivates p then 1 else 0 := by
  rw [deactivations, List.countP_append, List.countP_singleton]
  rfl

/-! ### What each critical section does -/

/-- What an activation does to its platform when `newThread` returns a thread:
it fails and changes nothing, or it counts the filter, and then it creates a
worker exactly when the record named none. -/
theorem activateSlot_cases (thread : Slot) (cn : String) (prep : Prepare) {tid : ℕ}
    (htid : tid ≠ 0) :
    (∃ msg, activateSlot thread cn prep tid = (thread, .failed msg)) ∨
    (0 < thread.data.id ∧ activateSlot thread cn prep tid =
      ({ thread with data := { thread.data with
          activeFilters := thread.data.activeFilters + 1 } }, .ok)) ∨
    (thread.data.id = 0 ∧ activateSlot thread cn prep tid =
      (⟨⟨tid, thread.data.activeFilters + 1, some cn⟩, some .created⟩, .ok)) := by
  unfold activateSlot
  by_cases hid : 0 < thread.data.id
  · exact .inr (.inl ⟨hid, by simp [hid]⟩)
  · cases prep with
    | noArgs => exact .inl ⟨"Unable to allocate ind_args", by simp [hid]⟩
    | noContext => exact .inl ⟨"Unable to create thread context", by simp [hid]⟩
    | ready => exact .inr (.inr ⟨by omega, by simp [hid, htid]⟩)

/-- The head of the loop leaves the record alone, and leaves the loop exactly
when no filter is active. -/
theorem loopHead_cases (thread : Slot) :
    (thread.data.activeFilters ≤ 0 ∧
      loopHead thread = { thread with worker := some .exiting }) ∨
    (0 < thread.data.activeFilters ∧
      loopHead thread = { thread with worker := some .waiting }) := by
  unfold loopHead
  by_cases h : thread.data.activeFilters ≤ 0
  · exact .inl ⟨h, if_pos h⟩
  · exact .inr ⟨by omega, if_neg h⟩

/-- A worker that does not get into its loop leaves, whatever the counter. -/
theorem failed_start_leaves (thread : Slot) {connected : Bool}
    (h : entersLoop thread connected = false) :
    lifecycleThreadStart thread connected = { thread with worker := some .exiting } := by
  simp [lifecycleThreadStart, h]

/-- **The lost activation.** An activation while the worker is on its way out
succeeds and starts no worker; the reset that follows leaves the platform with no
active filter and no worker. -/
theorem reset_forgets {thread : Slot} (hid : 0 < thread.data.id)
    (cn : String) (prep : Prepare) (tid : ℕ) :
    (activateSlot thread cn prep tid).2 = .ok ∧
    (activateSlot thread cn prep tid).1.worker = thread.worker ∧
    (lifecycleThreadReset (activateSlot thread cn prep tid).1).data.activeFilters = 0 ∧
    (lifecycleThreadReset (activateSlot thread cn prep tid).1).worker = none := by
  simp [activateSlot, hid, lifecycleThreadReset]

/-! ### The steps that keep every subscription -/

/-- The conditions under which a step keeps every subscription, read off the
state before it:

* a filter is activated while the worker of its platform is not between its exit
  test and its reset;
* a filter is deactivated only while the platform has an active one;
* a worker that starts with filters to serve gets into its loop. -/
def Careful (st : FilterState) : Event → Prop
  | .activate (some cn) _ =>
    ∀ p, platformFromClass cn = some p → (st p).worker ≠ some .exiting
  | .deactivate cn _ =>
    ∀ p, platformFromClass cn = some p → 0 < (st p).data.activeFilters
  | .start p connected =>
    entersLoop (st p) connected ∨ (st p).data.activeFilters ≤ 0
  | _ => True

/-! ### The invariant of a platform -/

/-- What a platform satisfies after `acts` activations and `deacts`
deactivations. -/
structure SlotInv (acts deacts : ℕ) (thread : Slot) : Prop where
  /-- the counter is the balance of the history -/
  counter : thread.data.activeFilters = (acts : ℤ) - deacts
  nonneg : 0 ≤ thread.data.activeFilters
  /-- the record names a thread exactly while the worker exists: `newThread` is
  never called beside a living worker -/
  single : thread.data.id = 0 ↔ thread.worker = none
  idle : thread.worker = none → thread.data.activeFilters = 0
  leaving : thread.worker = some .exiting → thread.data.activeFilters = 0

namespace SlotInv

variable {acts deacts : ℕ} {thread : Slot}

theorem initial : SlotInv 0 0 ⟨⟨0, 0, none⟩, none⟩ where
  counter := rfl
  nonneg := Int.le_refl 0
  single := by simp
  idle _ := rfl
  leaving := nofun

/-- A platform with an active filter is served. -/
theorem served (h : SlotInv acts deacts thread) (hlt : deacts < acts) : Served thread := by
  have hpos : 0 < thread.data.activeFilters := by
    have := h.counter
    omega
  cases hw : thread.worker with
  | none => exact absurd (h.idle hw) (by omega)
  | some phase =>
    cases phase with
    | created => exact .inl hw
    | waiting => exact .inr hw
    | exiting => exact absurd (h.leaving hw) (by omega)

theorem activate (h : SlotInv acts deacts thread) (hw : thread.worker ≠ some .exiting)
    (cn : String) (prep : Prepare) {tid : ℕ} (htid : tid ≠ 0) :
    SlotInv (acts + if (activateSlot thread cn prep tid).2 = .ok then 1 else 0) deacts
      (activateSlot thread cn prep tid).1 := by
  have hc := h.counter
  have hn := h.nonneg
  -- a failure, a worker that is there already, or a worker that is made now
  obtain ⟨msg, heq⟩ | ⟨hid, heq⟩ | ⟨hid, heq⟩ := activateSlot_cases thread cn prep htid
  · rw [heq]
    simpa using h
  · -- the worker that exists is not leaving, so it will see the new filter
    have hne : thread.worker ≠ none := fun hnone => absurd (h.single.mpr hnone) (by omega)
    rw [heq]
    refine ⟨?_, ?_, h.single, fun hnone => absurd hnone hne, fun hex => absurd hex hw⟩
    · simp only [if_true]
      omega
    · change 0 ≤ thread.data.activeFilters + 1
      omega
  -- a new worker: one filter is active and the thread's id is set
  · rw [heq]
    refine ⟨?_, ?_, ?_, nofun, nofun⟩
    · simp only [if_true]
      omega
    · change 0 ≤ thread.data.activeFilters + 1
      omega
    · simpa using htid

theorem deactivate (h : SlotInv acts deacts thread) (hpos : 0 < thread.data.activeFilters) :
    SlotInv acts (deacts + 1) { thread with data := { thread.data with
      activeFilters := thread.data.activeFilters - 1 } } where
  counter := by
    have := h.counter
    simp only
    omega
  nonneg := by
    simp only
    omega
  single := h.single
  -- a positive counter rules both phases out before the step
  idle hw := absurd (h.idle hw) (by omega)
  leaving hw := absurd (h.leaving hw) (by omega)

theorem loopHead (h : SlotInv acts deacts thread) (hw : thread.worker ≠ none) :
    SlotInv acts deacts (loopHead thread) := by
  have hid : thread.data.id ≠ 0 := fun h0 => hw (h.single.mp h0)
  obtain ⟨hle, heq⟩ | ⟨hpos, heq⟩ := loopHead_cases thread
  · rw [heq]
    have h0 : thread.data.activeFilters = 0 := Int.le_antisymm hle h.nonneg
    exact ⟨h.counter, h.nonneg, by simpa using hid, nofun, fun _ => h0⟩
  · rw [heq]
    exact ⟨h.counter, h.nonneg, by simpa using hid, nofun, nofun⟩

theorem start (h : SlotInv acts deacts thread) (hw : thread.worker = some .created)
    {connected : Bool}
    (hcare : entersLoop thread connected ∨ thread.data.activeFilters ≤ 0) :
    SlotInv acts deacts (lifecycleThreadStart thread connected) := by
  have hne : thread.worker ≠ none := by simp [hw]
  cases hin : entersLoop thread connected with
  | true =>
    simp only [lifecycleThreadStart, hin, if_true]
    exact h.loopHead hne
  | false =>
    have hle : thread.data.activeFilters ≤ 0 := by simpa [hin] using hcare
    have hid : thread.data.id ≠ 0 := fun h0 => hne (h.single.mp h0)
    rw [failed_start_leaves thread hin]
    exact ⟨h.counter, h.nonneg, by simpa using hid, nofun,
      fun _ => Int.le_antisymm hle h.nonneg⟩

theorem reset (h : SlotInv acts deacts thread) (hw : thread.worker = some .exiting) :
    SlotInv acts deacts (lifecycleThreadReset thread) where
  counter := by
    have h0 := h.leaving hw
    have hc := h.counter
    simp only [lifecycleThreadReset]
    omega
  nonneg := Int.le_refl 0
  single := by simp [lifecycleThreadReset]
  idle _ := rfl
  leaving := nofun

end SlotInv

/-! ### The invariant along a run -/

/-- Every platform satisfies its invariant at the counts of the history. -/
def FilterInv (ls : List Event) (st : FilterState) : Prop :=
  ∀ p, SlotInv (activations p ls) (deactivations p ls) (st p)

theorem FilterInv.initial : FilterInv [] filterSystem.init :=
  fun _ => SlotInv.initial

/-- An update of one platform keeps the invariant when the new slot satisfies it
and the event counts for no other platform. -/
theorem FilterInv.update {ls : List Event} {st : FilterState} (h : FilterInv ls st)
    {l : Event} {p : Platform} {thread : Slot}
    (hp : SlotInv (activations p (ls ++ [l])) (deactivations p (ls ++ [l])) thread)
    (hother : ∀ q, q ≠ p → l.activates q = false ∧ l.deactivates q = false) :
    FilterInv (ls ++ [l]) (Function.update st p thread) := by
  intro q
  by_cases hq : q = p
  · subst hq
    rwa [Function.update_self]
  · rw [Function.update_of_ne hq, activations_append, deactivations_append,
      (hother q hq).1, (hother q hq).2]
    simpa using h q

/-- An event that counts for no platform and changes no state. -/
theorem FilterInv.stutter {ls : List Event} {st : FilterState} (h : FilterInv ls st)
    {l : Event} (hl : ∀ q, l.activates q = false ∧ l.deactivates q = false) :
    FilterInv (ls ++ [l]) st := by
  intro q
  rw [activations_append, deactivations_append, (hl q).1, (hl q).2]
  simpa using h q

theorem FilterInv.step {ls : List Event} {st st' : FilterState} {l : Event}
    (h : FilterInv ls st) (hcare : Careful st l) (hstep : FilterStep st l st') :
    FilterInv (ls ++ [l]) st' := by
  -- one case for each kind of event, each of which touches one platform only
  cases hstep with
  | activate op prep tid htid =>
    cases op with
    | none => exact h.stutter fun q => ⟨rfl, rfl⟩
    | some cn =>
      -- a class that belongs to no platform changes nothing
      cases hp : platformFromClass cn with
      | none =>
        simp only [activateFilter, hp]
        exact h.stutter fun q => ⟨rfl, rfl⟩
      | some p =>
        -- the worker is not leaving, by the hypothesis
        have hw : (st p).worker ≠ some .exiting := hcare p hp
        have hslot := (h p).activate hw cn prep htid
        simp only [activateFilter, hp]
        refine h.update ?_ fun q hq => ?_
        · rw [activations_append, deactivations_append]
          generalize (activateSlot (st p) cn prep tid).2 = s at hslot ⊢
          -- the activation counts only when it is answered OK
          cases s with
          | ok => simpa [Event.activates, Event.deactivates, hp] using hslot
          | error rc msg => simpa [Event.activates, Event.deactivates] using hslot
        · generalize (activateSlot (st p) cn prep tid).2 = s
          cases s <;> simp [Event.activates, Event.deactivates, hp, Ne.symm hq]
  | deactivate cn =>
    cases hp : platformFromClass cn with
    | none =>
      simp only [deactivateFilter, hp]
      exact h.stutter fun q => ⟨rfl, by simp [Event.deactivates, hp]⟩
    | some p =>
      -- the counter of this platform goes down
      simp only [deactivateFilter, hp]
      refine h.update ?_ fun q hq => ⟨rfl, by simp [Event.deactivates, hp, Ne.symm hq]⟩
      rw [activations_append, deactivations_append]
      simpa [Event.activates, Event.deactivates, hp] using (h p).deactivate (hcare p hp)
  | start p connected hw =>
    refine h.update ?_ fun q _ => ⟨rfl, rfl⟩
    rw [activations_append, deactivations_append]
    exact (h p).start hw hcare
  | wake p hw =>
    refine h.update ?_ fun q _ => ⟨rfl, rfl⟩
    rw [activations_append, deactivations_append]
    exact (h p).loopHead (by simp [hw])
  | reset p hw =>
    refine h.update ?_ fun q _ => ⟨rfl, rfl⟩
    rw [activations_append, deactivations_append]
    exact (h p).reset hw

theorem FilterInv.run {ls : List Event} {st : FilterState}
    (h : Run (filterSystem.restrict Careful) filterSystem.init ls st) : FilterInv ls st := by
  refine h.historyInvariant (fun ls s l t hI hst => ?_) FilterInv.initial
  exact FilterInv.step hI hst.1 hst.2

/-! ### The safety theorem -/

/-- **No subscription is lost along careful steps.** `FilterInv` ties the counter of a platform,
its worker and the id of its thread together, and every careful step keeps it (`FilterInv.step`).
`Careful` leaves nothing out that could stay: a step that is not careful breaks what the
subscribers rely on (`FilterInv.not_kept_of_careless`). -/
theorem subscribed_of_careful {ls : List Event} {st : FilterState}
    (hrun : Run (filterSystem.restrict Careful) filterSystem.init ls st) (p : Platform) :
    Subscribed (filterSystem.restrict Careful) ls st p := by
  have hI := FilterInv.run hrun p
  refine ⟨hI.counter, hI.nonneg, fun hlt => ⟨hI.served hlt, ?_⟩⟩
  intro ls' st' hrun' hd
  -- the balance at `st'` is at least the one at `st`
  have hI' := FilterInv.run (hrun.append hrun') p
  refine hI'.served ?_
  simp only [activations, deactivations, List.countP_append] at hd hlt ⊢
  omega

/-! ### The conditions are needed -/

/-- `NeverLost` at one state, without the continuations. -/
def Kept (ls : List Event) (st : FilterState) : Prop :=
  ∀ p, (st p).data.activeFilters = (activations p ls : ℤ) - deactivations p ls ∧
    0 ≤ (st p).data.activeFilters ∧
    (deactivations p ls < activations p ls → Served (st p))

theorem FilterInv.kept {ls : List Event} {st : FilterState} (h : FilterInv ls st) :
    Kept ls st :=
  fun p => ⟨(h p).counter, (h p).nonneg, (h p).served⟩

/-- **Each condition is needed.** The first careless step of a run leads to a
state that breaks `NeverLost`. -/
theorem FilterInv.not_kept_of_careless {ls : List Event} {st st' : FilterState} {l : Event}
    (h : FilterInv ls st) (hbad : ¬ Careful st l) (hstep : FilterStep st l st') :
    ¬ Kept (ls ++ [l]) st' := by
  intro hkept
  -- the careless event decides which promise breaks
  cases hstep with
  | activate op prep tid htid =>
    cases op with
    | none => exact hbad trivial
    | some cn =>
      simp only [Careful, not_forall, not_not] at hbad
      obtain ⟨p, hp, hw⟩ := hbad
      have hid : 0 < (st p).data.id :=
        Nat.pos_of_ne_zero fun h0 => by simp [(h p).single.mp h0] at hw
      obtain ⟨hok, hsame, -⟩ := reset_forgets hid cn prep tid
      obtain ⟨-, -, hserved⟩ := hkept p
      rw [activations_append, deactivations_append] at hserved
      simp only [activateFilter, hp, hok, Event.activates, Event.deactivates,
        Function.update_self] at hserved
      -- the leaving worker had no filter, so the new one is one too many
      have h0 := (h p).leaving hw
      have hc := (h p).counter
      have : Served (activateSlot (st p) cn prep tid).1 := hserved (by simp; omega)
      simp [Served, hsame, hw] at this
  | deactivate cn =>
    simp only [Careful, not_forall] at hbad
    -- more filters are taken away than there are
    obtain ⟨p, hp, hle⟩ := hbad
    obtain ⟨-, hnn, -⟩ := hkept p
    simp only [deactivateFilter, hp, Function.update_self] at hnn
    omega
  -- the worker leaves at once although a filter is active
  | start p connected hw =>
    simp only [Careful, not_or, Bool.not_eq_true, Int.not_le] at hbad
    obtain ⟨-, -, hserved⟩ := hkept p
    rw [activations_append, deactivations_append, Function.update_self,
      failed_start_leaves _ hbad.1] at hserved
    have hc := (h p).counter
    have hpos := hbad.2
    have : Served { st p with worker := some .exiting } :=
      hserved (by simp [Event.activates, Event.deactivates]; omega)
    simp [Served] at this
  | wake p hw => exact hbad trivial
  | reset p hw => exact hbad trivial

/-! ### The lost subscription -/

/-- The step of a successful activation. -/
theorem FilterStep.activated (st : FilterState) (op : Option String) (tid : ℕ) (htid : tid ≠ 0)
    (hs : (activateFilter st op .ready tid).2 = .ok) :
    FilterStep st (.activate op .ok) (activateFilter st op .ready tid).1 :=
  hs ▸ .activate st op .ready tid htid

/-- The step of a successful deactivation. -/
theorem FilterStep.deactivated (st : FilterState) (cn : String)
    (hs : (deactivateFilter st cn).2 = .ok) :
    FilterStep st (.deactivate cn .ok) (deactivateFilter st cn).1 :=
  hs ▸ .deactivate st cn

/-- A platform that is subscribed: a KVM filter is activated and its worker starts. -/
theorem subscribed_started :
    ∃ ls st, Subscribed (filterSystem.restrict Careful) ls st .kvm ∧
      activations .kvm ls = 1 ∧ deactivations .kvm ls = 0 := by
  let cn := "KVM_ComputerSystemCreatedIndication"
  have hcare : Careful FilterState.init (.activate (some cn) .ok) := by
    intro p _
    simp [FilterState.init]
  let st₁ := (activateFilter FilterState.init (some cn) .ready 1).1
  have hcare' : Careful st₁ (.start .kvm true) := .inl (by decide)
  have r₁ : Run (filterSystem.restrict Careful) FilterState.init _ st₁ :=
    Run.single ⟨hcare, FilterStep.activated _ (some cn) 1 (by decide) (by decide)⟩
  have r₂ := r₁.snoc ⟨hcare', FilterStep.start st₁ .kvm true (by decide)⟩
  exact ⟨_, _, subscribed_of_careful r₂ .kvm, by decide, by decide⟩

/-- The provider loses a subscription: a KVM filter is activated and deactivated;
its worker wakes up and leaves the loop; the filter is activated once more; the
worker resets the record. -/
theorem not_neverLost : ¬ NeverLost filterSystem := by
  intro h
  let cn := "KVM_ComputerSystemCreatedIndication"
  have r₁ : Run filterSystem FilterState.init _ _ :=
    Run.single (FilterStep.activated _ (some cn) 1 (by decide) (by decide))
  have r₂ := r₁.snoc (FilterStep.start _ .kvm true (by decide))
  have r₃ := r₂.snoc (FilterStep.deactivated _ cn (by decide))
  have r₄ := r₃.snoc (FilterStep.wake _ .kvm (by decide))
  have r₅ := r₄.snoc (FilterStep.activated _ (some cn) 2 (by decide) (by decide))
  have r₆ := r₅.snoc (FilterStep.reset _ .kvm (by decide))
  obtain ⟨-, -, hkept⟩ := h _ _ r₆ .kvm
  obtain ⟨hserved, -⟩ := hkept (by decide)
  exact absurd hserved (by decide)

end LibvirtCim.Indication
