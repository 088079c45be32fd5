import Mathlib.Data.List.Basic

/-!
# Loops of steps that may crash

A computation in `Option` that stops without a result is how code reads that would follow a
null pointer. `Yields` says what the result is when there is one, and `isSome` that there is
one; each kind of loop has a rule for either.
-/

namespace Framework

variable {σ α β : Type}

/-- A computation that has no result other than `a`. -/
def Yields (x : Option α) (a : α) : Prop :=
  ∀ r, x = some r → r = a

theorem Yields.of_eq {x : Option α} {a : α} (h : x = some a) : Yields x a := by
  intro r hr
  rw [h] at hr
  exact (Option.some.inj hr).symm

theorem Yields.some (a : α) : Yields (some a) a :=
  .of_eq rfl

theorem Yields.none (a : α) : Yields none a := by
  intro r hr
  cases hr

theorem Yields.eq_some {x : Option α} {a : α} (h : Yields x a) (hx : x.isSome) :
    x = Option.some a := by
  obtain ⟨r, hr⟩ := Option.isSome_iff_exists.mp hx
  rw [hr, h r hr]

theorem Yields.bind {x : Option α} {f : α → Option β} {a : α} {b : β} (hx : Yields x a)
    (hf : Yields (f a) b) : Yields (x >>= f) b := by
  intro r hr
  obtain ⟨a', ha', hr⟩ := Option.bind_eq_some_iff.mp hr
  rw [hx a' ha'] at hr
  exact hf r hr

theorem Yields.map {x : Option α} {a : α} (hx : Yields x a) (f : α → β) :
    Yields (x.map f) (f a) := by
  intro r hr
  obtain ⟨a', ha', rfl⟩ := Option.map_eq_some_iff.mp hr
  rw [hx a' ha']

theorem isSome_bind {x : Option α} {f : α → Option β} (hx : x.isSome)
    (hf : ∀ a, x = some a → (f a).isSome) : (x >>= f).isSome := by
  obtain ⟨a, ha⟩ := Option.isSome_iff_exists.mp hx
  rw [ha]
  exact hf a ha

section Fold

variable {f : σ → α → Option σ}

/-- A loop with a state, by what each of its steps yields. -/
theorem Yields.foldlM {g : σ → α → σ} {l : List α} (h : ∀ s, ∀ a ∈ l, Yields (f s a) (g s a))
    (s : σ) : Yields (l.foldlM f s) (l.foldl g s) := by
  induction l generalizing s with
  | nil => exact .some s
  | cons a l ih =>
    rw [List.foldlM_cons, List.foldl_cons]
    apply Yields.bind (h s a (List.mem_cons_self ..))
    exact ih (fun s b hb => h s b (List.mem_cons_of_mem a hb)) (g s a)

/-- A loop goes through when its steps do from the states that they lead to. -/
theorem isSome_foldlM {I : σ → Prop} {l : List α} (hstep : ∀ s, ∀ a ∈ l, I s → (f s a).isSome)
    (hkeep : ∀ s a t, I s → f s a = some t → I t) {s : σ} (hs : I s) : (l.foldlM f s).isSome := by
  induction l generalizing s with
  | nil => rfl
  | cons a l ih =>
    rw [List.foldlM_cons]
    apply isSome_bind (hstep s a (List.mem_cons_self ..) hs)
    intro t ht
    exact ih (fun s b hb => hstep s b (List.mem_cons_of_mem a hb)) (hkeep s a t hs ht)

end Fold

/-- A loop with a result for each entry. -/
theorem Yields.mapM {f : α → Option β} {g : α → β} {l : List α}
    (h : ∀ a ∈ l, Yields (f a) (g a)) : Yields (l.mapM f) (l.map g) := by
  induction l with
  | nil => exact .some []
  | cons a l ih =>
    rw [List.forall_mem_cons] at h
    rw [List.mapM_cons, List.map_cons]
    exact h.1.bind ((ih h.2).bind (.some _))

theorem isSome_mapM {f : α → Option β} {l : List α} (h : ∀ a ∈ l, (f a).isSome) :
    (l.mapM f).isSome := by
  induction l with
  | nil => rfl
  | cons a l ih =>
    rw [List.forall_mem_cons] at h
    rw [List.mapM_cons]
    exact isSome_bind h.1 fun _ _ => isSome_bind (ih h.2) fun _ _ => rfl

/-- A search that stops at the first entry with a result. -/
theorem Yields.findSomeM? {f : α → Option (Option β)} {g : α → Option β} {l : List α}
    (h : ∀ a ∈ l, Yields (f a) (g a)) : Yields (l.findSomeM? f) (l.findSome? g) := by
  induction l with
  | nil => exact .some _
  | cons a l ih =>
    rw [List.forall_mem_cons] at h
    rw [List.findSomeM?, List.findSome?_cons]
    apply h.1.bind
    cases g a with
    | none => exact ih h.2
    | some b => exact .some _

theorem isSome_findSomeM? {f : α → Option (Option β)} {l : List α}
    (h : ∀ a ∈ l, (f a).isSome) : (l.findSomeM? f).isSome := by
  induction l with
  | nil => rfl
  | cons a l ih =>
    rw [List.forall_mem_cons] at h
    rw [List.findSomeM?]
    apply isSome_bind h.1
    intro found _
    cases found with
    | none => exact ih h.2
    | some b => rfl

/-- A search that stops at the first entry that passes a test. -/
theorem Yields.findM? {p : α → Option Bool} {q : α → Bool} {l : List α}
    (h : ∀ a ∈ l, Yields (p a) (q a)) : Yields (l.findM? p) (l.find? q) := by
  induction l with
  | nil => exact .some _
  | cons a l ih =>
    rw [List.forall_mem_cons] at h
    rw [List.findM?, List.find?_cons]
    apply h.1.bind
    cases q a with
    | false => exact ih h.2
    | true => exact .some _

theorem isSome_findM? {p : α → Option Bool} {l : List α} (h : ∀ a ∈ l, (p a).isSome) :
    (l.findM? p).isSome := by
  induction l with
  | nil => rfl
  | cons a l ih =>
    rw [List.forall_mem_cons] at h
    rw [List.findM?]
    apply isSome_bind h.1
    intro found _
    cases found with
    | false => exact ih h.2
    | true => rfl

end Framework
