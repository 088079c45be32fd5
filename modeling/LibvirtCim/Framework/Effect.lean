import Mathlib.Logic.Basic

/-!
# Computations that fail halfway

A computation on a state that may end with an error; what it did to the state by then
stays. `Triple P m Q E` says that from a state in `P` it ends in `Q` with a result or in
`E` with an error. The rules follow the ways computations are put together:
`Triple.bind` for a sequence, `Triple.of_fail`, `Triple.of_pure`, `Triple.of_call` for the
parts, `Triple.weaken` to adapt what is promised.
-/

namespace Framework

/-- A computation on `σ` that gives an `α` or fails with an `ε`. -/
def Effect (σ ε α : Type) : Type := σ → Except ε α × σ

namespace Effect

variable {σ ε α β : Type}

/-- Go on with a result; an error ends it. -/
def goOn (k : α → Effect σ ε β) : Except ε α × σ → Except ε β × σ
  | (.ok a, t) => k a t
  | (.error e, t) => (.error e, t)

instance : Monad (Effect σ ε) where
  pure a := fun s => (.ok a, s)
  bind m k := fun s => goOn k (m s)

/-- Give up. -/
def fail (e : ε) : Effect σ ε α := fun s => (.error e, s)

/-- A result that is already there. -/
def ofExcept (x : Except ε α) : Effect σ ε α := fun s => (x, s)

/-- A reading of the state. -/
def read (f : σ → α) : Effect σ ε α := fun s => (.ok (f s), s)

/-- A change of the state that says whether it was made. -/
def call (f : σ → Bool × σ) : Effect σ ε Bool := fun s => (.ok (f s).1, (f s).2)

/-- Give up unless a condition holds. -/
def require (b : Bool) (e : ε) : Effect σ ε Unit := if b then pure () else fail e

/-- A computation on the first half of a state; the other half stays. -/
def onFst {τ : Type} (m : Effect σ ε α) : Effect (σ × τ) ε α := fun s =>
  ((m s.1).1, (m s.1).2, s.2)

/-- The way a computation ended, as a result. -/
def attempt (m : Effect σ ε α) : Effect σ ε (Except ε α) := fun s => (.ok (m s).1, (m s).2)

@[simp] theorem pure_apply (a : α) (s : σ) : (pure a : Effect σ ε α) s = (.ok a, s) := rfl

theorem bind_apply (m : Effect σ ε α) (k : α → Effect σ ε β) (s : σ) :
    (m >>= k) s = goOn k (m s) := rfl

@[simp] theorem fail_apply (e : ε) (s : σ) : (fail e : Effect σ ε α) s = (.error e, s) := rfl

@[simp] theorem ofExcept_apply (x : Except ε α) (s : σ) :
    (ofExcept x : Effect σ ε α) s = (x, s) := rfl

@[simp] theorem read_apply (f : σ → α) (s : σ) :
    (read f : Effect σ ε α) s = (.ok (f s), s) := rfl

@[simp] theorem call_apply (f : σ → Bool × σ) (s : σ) :
    (call f : Effect σ ε Bool) s = (.ok (f s).1, (f s).2) := rfl

@[simp] theorem onFst_apply {τ : Type} (m : Effect σ ε α) (s : σ × τ) :
    onFst m s = ((m s.1).1, (m s.1).2, s.2) := rfl

@[simp] theorem attempt_apply (m : Effect σ ε α) (s : σ) :
    attempt m s = (.ok (m s).1, (m s).2) := rfl

@[simp] theorem require_true_apply (e : ε) (s : σ) : require true e s = (.ok (), s) := rfl

@[simp] theorem require_false_apply (e : ε) (s : σ) : require false e s = (.error e, s) := rfl

@[simp] theorem goOn_ok (k : α → Effect σ ε β) (a : α) (s : σ) :
    goOn k (.ok a, s) = k a s := rfl

/-- What a computation leaves does not depend on the result that is given for it. -/
theorem bind_pure_snd (m : Effect σ ε α) (b : β) (s : σ) :
    ((m >>= fun _ => pure b) s).2 = (m s).2 := by
  rw [bind_apply]
  obtain ⟨result, t⟩ := m s
  cases result with
  | ok a => rfl
  | error e => rfl

/-- A loop over a list goes on with the rest. -/
theorem forM_cons_apply (f : β → Effect σ ε PUnit) (b : β) (l : List β) (s : σ) :
    (b :: l).forM f s = goOn (fun _ => l.forM f) (f b s) := rfl

@[simp] theorem goOn_error (k : α → Effect σ ε β) (e : ε) (s : σ) :
    goOn k (.error e, s) = (.error e, s) := rfl

end Effect

/-- From a state in `P`, the computation ends in `Q` with a result or in `E` with an
error. -/
def Triple {σ ε α : Type} (P : σ → Prop) (m : Effect σ ε α) (Q : α → σ → Prop)
    (E : ε → σ → Prop) : Prop :=
  ∀ s, P s → (∀ a, (m s).1 = .ok a → Q a (m s).2) ∧ ∀ e, (m s).1 = .error e → E e (m s).2

namespace Triple

variable {σ ε α β : Type} {P : σ → Prop} {Q : α → σ → Prop} {E : ε → σ → Prop}
  {m : Effect σ ε α}

/-- What a computation that succeeds ends in. -/
theorem of_ok (h : Triple P m Q E) {s : σ} (hs : P s) {a : α} (hm : (m s).1 = .ok a) :
    Q a (m s).2 :=
  (h s hs).1 a hm

/-- What a computation that fails ends in. -/
theorem of_error (h : Triple P m Q E) {s : σ} (hs : P s) {e : ε} (hm : (m s).1 = .error e) :
    E e (m s).2 :=
  (h s hs).2 e hm

/-- **Consequence.** -/
theorem weaken {P' : σ → Prop} {Q' : α → σ → Prop} {E' : ε → σ → Prop} (h : Triple P m Q E)
    (hP : ∀ s, P' s → P s) (hQ : ∀ a s, Q a s → Q' a s) (hE : ∀ e s, E e s → E' e s) :
    Triple P' m Q' E' := by
  intro s hs
  exact ⟨fun a hm => hQ a _ (h.of_ok (hP s hs) hm), fun e hm => hE e _ (h.of_error (hP s hs) hm)⟩

/-- **Sequence.** An error of the first part is an error of the whole. -/
theorem bind {R : β → σ → Prop} {k : α → Effect σ ε β} (hm : Triple P m Q E)
    (hk : ∀ a, Triple (Q a) (k a) R E) : Triple P (m >>= k) R E := by
  intro s hs
  rw [Effect.bind_apply]
  have h := hm s hs
  revert h
  obtain ⟨r, t⟩ := m s
  rintro ⟨hok, herr⟩
  cases r with
  | ok a => exact hk a t (hok a rfl)
  | error e =>
    constructor
    · rintro b ⟨⟩
    · rintro e' ⟨⟩
      exact herr e rfl

theorem of_pure {a : α} (h : ∀ s, P s → Q a s) : Triple P (pure a : Effect σ ε α) Q E := by
  intro s hs
  constructor
  · rintro b ⟨⟩
    exact h s hs
  · rintro e ⟨⟩

theorem of_fail {e : ε} (h : ∀ s, P s → E e s) : Triple P (Effect.fail e : Effect σ ε α) Q E := by
  intro s hs
  constructor
  · rintro b ⟨⟩
  · rintro e' ⟨⟩
    exact h s hs

theorem of_ofExcept {x : Except ε α} (hok : ∀ a, x = .ok a → ∀ s, P s → Q a s)
    (herr : ∀ e, x = .error e → ∀ s, P s → E e s) :
    Triple P (Effect.ofExcept x : Effect σ ε α) Q E := by
  intro s hs
  exact ⟨fun a ha => hok a ha s hs, fun e he => herr e he s hs⟩

theorem of_read {f : σ → α} (h : ∀ s, P s → Q (f s) s) :
    Triple P (Effect.read f : Effect σ ε α) Q E := by
  intro s hs
  constructor
  · rintro a ⟨⟩
    exact h s hs
  · rintro e ⟨⟩

theorem of_call {f : σ → Bool × σ} {Q : Bool → σ → Prop} (h : ∀ s, P s → Q (f s).1 (f s).2) :
    Triple P (Effect.call f : Effect σ ε Bool) Q E := by
  intro s hs
  constructor
  · rintro a ⟨⟩
    exact h s hs
  · rintro e ⟨⟩

theorem of_require {b : Bool} {e : ε} {Q : Unit → σ → Prop} (hok : b = true → ∀ s, P s → Q () s)
    (herr : b = false → ∀ s, P s → E e s) : Triple P (Effect.require b e) Q E := by
  cases b with
  | true => exact of_pure (hok rfl)
  | false => exact of_fail (herr rfl)

end Triple

/-! ### Notes beside a computation -/

/-- Where the second half of the state is a record that nothing reads, `m` is `m'`. -/
def Erases {σ τ ε α : Type} (m : Effect (σ × τ) ε α) (m' : Effect σ ε α) : Prop :=
  ∀ s, (m s).1 = (m' s.1).1 ∧ (m s).2.1 = (m' s.1).2

namespace Erases

variable {σ τ ε α β : Type} {m : Effect (σ × τ) ε α} {m' : Effect σ ε α}

theorem of_onFst (m : Effect σ ε α) : Erases (.onFst m : Effect (σ × τ) ε α) m :=
  fun _ => ⟨rfl, rfl⟩

theorem of_pure (a : α) : Erases (pure a : Effect (σ × τ) ε α) (pure a) := fun _ => ⟨rfl, rfl⟩

theorem of_fail (e : ε) : Erases (.fail e : Effect (σ × τ) ε α) (.fail e) :=
  fun _ => ⟨rfl, rfl⟩

theorem of_ofExcept (x : Except ε α) : Erases (.ofExcept x : Effect (σ × τ) ε α) (.ofExcept x) :=
  fun _ => ⟨rfl, rfl⟩

theorem of_require (b : Bool) (e : ε) :
    Erases (.require b e : Effect (σ × τ) ε Unit) (.require b e) := by
  cases b with
  | true => exact of_pure ()
  | false => exact of_fail e

/-- **Sequence.** -/
theorem bind {k : α → Effect (σ × τ) ε β} {k' : α → Effect σ ε β} (hm : Erases m m')
    (hk : ∀ a, Erases (k a) (k' a)) : Erases (m >>= k) (m' >>= k') := by
  intro s
  obtain ⟨hresult, hstate⟩ := hm s
  rw [Effect.bind_apply, Effect.bind_apply]
  generalize m s = r at hresult hstate ⊢
  generalize m' s.1 = r' at hresult hstate ⊢
  obtain ⟨result, t⟩ := r
  obtain ⟨result', t'⟩ := r'
  dsimp only at hresult hstate
  rw [hresult, ← hstate]
  cases result' with
  | ok a => exact hk a t
  | error e => exact ⟨rfl, rfl⟩

/-- A note is taken first. -/
theorem note (f : σ × τ → τ) (hm : Erases m m') :
    Erases (do let _ ← Effect.call fun s => (true, s.1, f s); m) m' :=
  fun s => hm (s.1, f s)

/-- A note is taken of a computation however that ended. -/
theorem attempt (f : σ × τ → τ) (g : α → β) (hm : Erases m m') :
    Erases (do
      let r ← Effect.attempt m
      let _ ← Effect.call fun s => (true, s.1, f s)
      Effect.ofExcept (r.map g)) (do
      let a ← m'
      pure (g a)) := by
  intro s
  obtain ⟨hresult, hstate⟩ := hm s
  show ((m s).1.map g) = ((m' >>= fun a => pure (g a)) s.1).1 ∧
    (m s).2.1 = ((m' >>= fun a => pure (g a)) s.1).2
  rw [hresult, hstate, Effect.bind_apply]
  obtain ⟨result, t⟩ := m' s.1
  cases result with
  | ok a => exact ⟨rfl, rfl⟩
  | error e => exact ⟨rfl, rfl⟩

/-- **Loops.** -/
theorem forM {f : β → Effect (σ × τ) ε PUnit} {f' : β → Effect σ ε PUnit}
    (hf : ∀ b, Erases (f b) (f' b)) (l : List β) : Erases (l.forM f) (l.forM f') := by
  induction l with
  | nil => exact of_pure _
  | cons b l ih => exact bind (hf b) fun _ => ih

end Erases

end Framework
