import Mathlib.Data.List.Basic

/-!
# Folds that may stop

A left fold in `Except` is how a loop reads that updates a record and may leave early.
`foldlM_invariant` is its induction rule, `foldlM_append_ok` its composition. `filterExcept` is
the loop that keeps some entries.
-/

namespace Framework

variable {ε σ α : Type} {f : σ → α → Except ε σ}

/-- A sequence of two computations that succeeds, taken apart. -/
theorem bind_eq_ok {τ υ : Type} {x : Except ε τ} {k : τ → Except ε υ} {r : υ}
    (h : (x >>= k) = .ok r) : ∃ a, x = .ok a ∧ k a = .ok r := by
  cases x with
  | error e => exact nomatch h
  | ok a => exact ⟨a, rfl, h⟩

/-- A sequence of two computations that fails does so in one of them. -/
theorem bind_eq_error {τ υ : Type} {x : Except ε τ} {k : τ → Except ε υ} {e : ε}
    (h : (x >>= k) = .error e) : x = .error e ∨ ∃ a, x = .ok a ∧ k a = .error e := by
  cases x with
  | error e' =>
    cases h
    exact .inl rfl
  | ok a => exact .inr ⟨a, rfl, h⟩

/-- A result that is worked on behind a computation, taken apart. -/
theorem map_eq_ok {τ υ : Type} {x : Except ε τ} {g : τ → υ} {r : υ}
    (h : x.map g = .ok r) : ∃ a, x = .ok a ∧ g a = r := by
  cases x with
  | error e => exact nomatch h
  | ok a => exact ⟨a, rfl, Except.ok.inj h⟩

/-- The result behind an optional one. -/
theorem eq_ok_of_toOption {x : Except ε α} {a : α} (h : x.toOption = some a) : x = .ok a := by
  cases x with
  | ok b =>
    cases h
    rfl
  | error e => cases h

/-- **Loop invariants.** What the step for each entry keeps holds of the result. -/
theorem foldlM_invariant_mem {I : σ → Prop} {l : List α}
    (hf : ∀ a ∈ l, ∀ s t, I s → f s a = .ok t → I t) {s t : σ} (hs : I s)
    (h : l.foldlM f s = .ok t) : I t := by
  -- on the list, from the front
  induction l generalizing s with
  | nil =>
    cases h
    exact hs
  | cons a l ih =>
    rw [List.forall_mem_cons] at hf
    rw [List.foldlM_cons] at h
    cases hstep : f s a with
    | error e =>
      rw [hstep] at h
      exact nomatch h
    | ok s' =>
      rw [hstep] at h
      exact ih hf.2 (hf.1 s s' hs hstep) h

/-- The rule for steps that keep it whatever the entry is. -/
theorem foldlM_invariant {I : σ → Prop} (hf : ∀ s a t, I s → f s a = .ok t → I t)
    {l : List α} {s t : σ} (hs : I s) (h : l.foldlM f s = .ok t) : I t :=
  foldlM_invariant_mem (fun a _ s t => hf s a t) hs h

/-- **Loop invariants over what is done.** The invariant may speak of the entries behind the
current one. -/
theorem foldlM_history {I : List α → σ → Prop}
    (hf : ∀ done s a t, I done s → f s a = .ok t → I (done ++ [a]) t) {l done : List α} {s t : σ}
    (hs : I done s) (h : l.foldlM f s = .ok t) : I (done ++ l) t := by
  induction l generalizing done s with
  | nil =>
    cases h
    rw [List.append_nil]
    exact hs
  | cons a l ih =>
    rw [List.foldlM_cons] at h
    obtain ⟨s', hstep, hrest⟩ := bind_eq_ok h
    rw [List.append_cons]
    exact ih (hf done s a s' hs hstep) hrest

/-- The rule of `foldlM_invariant` for a loop that may only stop without a reason. -/
theorem foldlM_some_invariant {g : σ → α → Option σ} {I : σ → Prop}
    (hg : ∀ s a t, g s a = some t → I s → I t) {l : List α} {s t : σ}
    (h : l.foldlM g s = some t) (hs : I s) : I t := by
  induction l generalizing s with
  | nil =>
    rw [← Option.some.inj h]
    exact hs
  | cons a l ih =>
    rw [List.foldlM_cons] at h
    obtain ⟨s', hstep, hrest⟩ := Option.bind_eq_some_iff.mp h
    exact ih hrest (hg s a s' hstep hs)

/-- A loop ends with an error of one of its steps. -/
theorem foldlM_error {P : ε → Prop} (hf : ∀ s a e, f s a = .error e → P e) {l : List α} {s : σ}
    {e : ε} (h : l.foldlM f s = .error e) : P e := by
  induction l generalizing s with
  | nil => cases h
  | cons a l ih =>
    rw [List.foldlM_cons] at h
    cases hstep : f s a with
    | error e' =>
      rw [hstep] at h
      cases h
      exact hf s a e hstep
    | ok s' =>
      rw [hstep] at h
      exact ih h

/-- Two loops one after the other. -/
theorem foldlM_append_ok {l l' : List α} {s t u : σ} (h : l.foldlM f s = .ok t)
    (h' : l'.foldlM f t = .ok u) : (l ++ l').foldlM f s = .ok u := by
  rw [List.foldlM_append, h]
  exact h'

/-- Steps that leave the state alone. -/
theorem foldlM_skip {l : List α} {s : σ} (h : ∀ a ∈ l, f s a = .ok s) : l.foldlM f s = .ok s := by
  induction l with
  | nil => rfl
  | cons a l ih =>
    rw [List.forall_mem_cons] at h
    rw [List.foldlM_cons, h.1]
    exact ih h.2

/-- A reading of the state that no step changes. -/
theorem foldl_eq_of_step {τ : Type} {g : σ → α → σ} {read : σ → τ}
    (hg : ∀ s a, read (g s a) = read s) (l : List α) (s : σ) : read (l.foldl g s) = read s := by
  induction l generalizing s with
  | nil => rfl
  | cons a l ih => rw [List.foldl_cons, ih, hg]

/-- A loop that has a result for each entry of a list. -/
theorem mapM_eq_some_map {β γ : Type} {f : β → Option γ} {g : β → γ} {l : List β}
    (h : ∀ a ∈ l, f a = some (g a)) : l.mapM f = some (l.map g) := by
  induction l with
  | nil => rfl
  | cons a l ih =>
    rw [List.forall_mem_cons] at h
    rw [List.mapM_cons, h.1, ih h.2]
    rfl

/-- The entries of a list that a test accepts, where the test may fail. -/
def filterExcept {β : Type} (test : β → Except ε Bool) : List β → Except ε (List β)
  | [] => .ok []
  | b :: bs => do
    let accepted ← test b
    let rest ← filterExcept test bs
    .ok (if accepted then b :: rest else rest)

/-- It ends with a list if and only if every test ends. -/
theorem filterExcept_eq_ok_iff {β : Type} {test : β → Except ε Bool} {l r : List β} :
    filterExcept test l = .ok r ↔
      (∀ b ∈ l, (test b).isOk) ∧ r = l.filter fun b => (test b).toOption = some true := by
  -- on the list; a test that fails ends the filter
  induction l generalizing r with
  | nil =>
    simp only [filterExcept, Except.ok.injEq, List.not_mem_nil, false_imp_iff, implies_true,
      true_and, List.filter_nil]
    exact eq_comm
  | cons b l ih =>
    rw [List.forall_mem_cons, filterExcept]
    cases htest : test b with
    | error e =>
      constructor
      · rintro ⟨⟩
      · rintro ⟨⟨hok, -⟩, -⟩
        cases hok
    | ok accepted =>
      rw [List.filter_cons, htest]
      constructor
      · intro h
        obtain ⟨rest, hrest, hr⟩ := bind_eq_ok (show (filterExcept test l >>= _) = .ok r from h)
        obtain ⟨hall, rfl⟩ := ih.mp hrest
        refine ⟨⟨rfl, hall⟩, ?_⟩
        rw [← Except.ok.inj hr]
        cases accepted <;> rfl
      · rintro ⟨⟨-, hall⟩, rfl⟩
        show (filterExcept test l >>= _) = _
        rw [ih.mpr ⟨hall, rfl⟩]
        cases accepted <;> rfl

end Framework
