import Mathlib.Data.List.Forall2
import Mathlib.Logic.Basic

/-!
# Functions that add to a list

A function is given a list, adds items at its end, and returns a status. Such a function never
looks at what is in the list, so that it is described by what it adds and by how it ends: a
`Listing`. There are three ways to put them together.

* `Listing.andThen` — the second part runs only if the first one succeeds.
* `Listing.overrule` — the second part runs in any case, and its status is the one that counts.
* `forEach` — a loop that stops at the first failure.

`Alike R` relates two runs of one function: they end in the same way, and the items stand in
the relation `R` place by place. It goes through all three constructions, so that two runs with
different arguments are compared piece by piece.
-/

namespace Framework

/-- What a function adds to a list, and how it ends. -/
structure Listing (ε α : Type) where
  items : List α
  error : Option ε := none
  deriving DecidableEq, Repr

namespace Listing

variable {ε α β γ : Type}

/-- Add, and succeed. -/
def add (items : List α) : Listing ε α := { items }

/-- Add nothing, and fail. -/
def fail (e : ε) : Listing ε α := { items := [], error := some e }

/-- Go on after a success. -/
def andThen (l k : Listing ε α) : Listing ε α :=
  match l.error with
  | none => { items := l.items ++ k.items, error := k.error }
  | some _ => l

/-- Go on in any case. -/
def overrule (l k : Listing ε α) : Listing ε α :=
  { items := l.items ++ k.items, error := k.error }

/-- A loop that stops at the first failure. -/
def forEach (f : β → Listing ε α) : List β → Listing ε α
  | [] => add []
  | b :: bs => (f b).andThen (forEach f bs)

/-- A property is set on all that is there in the end. -/
def map (g : α → γ) (l : Listing ε α) : Listing ε γ :=
  { items := l.items.map g, error := l.error }

@[simp] theorem items_add (items : List α) : (add items : Listing ε α).items = items := rfl

@[simp] theorem error_add (items : List α) : (add items : Listing ε α).error = none := rfl

@[simp] theorem items_fail (e : ε) : (fail e : Listing ε α).items = [] := rfl

@[simp] theorem error_fail (e : ε) : (fail e : Listing ε α).error = some e := rfl

@[simp] theorem items_overrule (l k : Listing ε α) :
    (l.overrule k).items = l.items ++ k.items := rfl

@[simp] theorem error_overrule (l k : Listing ε α) : (l.overrule k).error = k.error := rfl

@[simp] theorem items_map (g : α → γ) (l : Listing ε α) : (l.map g).items = l.items.map g := rfl

@[simp] theorem error_map (g : α → γ) (l : Listing ε α) : (l.map g).error = l.error := rfl

theorem andThen_of_none {l : Listing ε α} (h : l.error = none) (k : Listing ε α) :
    l.andThen k = l.overrule k := by
  unfold andThen overrule
  rw [h]

theorem andThen_of_ne {l : Listing ε α} (h : l.error ≠ none) (k : Listing ε α) :
    l.andThen k = l := by
  unfold andThen
  cases herror : l.error with
  | none => exact absurd herror h
  | some e => rfl

/-! ### What is there -/

/-- Both parts succeed. -/
@[simp] theorem error_andThen_eq_none_iff (l k : Listing ε α) :
    (l.andThen k).error = none ↔ l.error = none ∧ k.error = none := by
  by_cases h : l.error = none
  · rw [andThen_of_none h, and_iff_right h]
    rfl
  · rw [andThen_of_ne h]
    exact iff_of_false h fun both => h both.1

theorem mem_items_andThen {l k : Listing ε α} {a : α} (h : a ∈ (l.andThen k).items) :
    a ∈ l.items ∨ a ∈ k.items := by
  by_cases herror : l.error = none
  · rw [andThen_of_none herror] at h
    exact List.mem_append.mp h
  · rw [andThen_of_ne herror] at h
    exact .inl h

/-- A loop succeeds if all its rounds do. -/
theorem error_forEach_eq_none_iff (f : β → Listing ε α) (bs : List β) :
    (forEach f bs).error = none ↔ ∀ b ∈ bs, (f b).error = none := by
  induction bs with
  | nil => simp [forEach]
  | cons b bs ih => rw [forEach, error_andThen_eq_none_iff, ih, List.forall_mem_cons]

/-- A loop that succeeds adds what all its rounds add. -/
theorem items_forEach {f : β → Listing ε α} {bs : List β} (h : ∀ b ∈ bs, (f b).error = none) :
    (forEach f bs).items = bs.flatMap fun b => (f b).items := by
  induction bs with
  | nil => rfl
  | cons b bs ih =>
    rw [List.forall_mem_cons] at h
    rw [forEach, andThen_of_none h.1, items_overrule, ih h.2, List.flatMap_cons]

theorem exists_of_mem_forEach {f : β → Listing ε α} {bs : List β} {a : α}
    (h : a ∈ (forEach f bs).items) : ∃ b ∈ bs, a ∈ (f b).items := by
  induction bs with
  | nil => simp [forEach] at h
  | cons b bs ih =>
    obtain hfirst | hrest := mem_items_andThen h
    · exact ⟨b, List.mem_cons_self, hfirst⟩
    · obtain ⟨b', hb', ha⟩ := ih hrest
      exact ⟨b', List.mem_cons_of_mem b hb', ha⟩

/-! ### Two runs -/

/-- Two runs end alike, and what they add corresponds place by place. -/
structure Alike (R : α → γ → Prop) (l : Listing ε α) (l' : Listing ε γ) : Prop where
  items : List.Forall₂ R l.items l'.items
  error : l.error = l'.error

variable {R : α → γ → Prop}

theorem alike_add {items : List α} {items' : List γ} (h : List.Forall₂ R items items') :
    Alike R (add items : Listing ε α) (add items') :=
  ⟨h, rfl⟩

theorem alike_fail (R : α → γ → Prop) (e : ε) : Alike R (fail e) (fail e) :=
  ⟨.nil, rfl⟩

theorem Alike.overrule {l k : Listing ε α} {l' k' : Listing ε γ} (hl : Alike R l l')
    (hk : Alike R k k') : Alike R (l.overrule k) (l'.overrule k') :=
  ⟨List.rel_append hl.items hk.items, hk.error⟩

theorem Alike.andThen {l k : Listing ε α} {l' k' : Listing ε γ} (hl : Alike R l l')
    (hk : Alike R k k') : Alike R (l.andThen k) (l'.andThen k') := by
  by_cases h : l.error = none
  · rw [andThen_of_none h, andThen_of_none (hl.error.symm.trans h)]
    exact hl.overrule hk
  · have h' : l'.error ≠ none := by
      rw [← hl.error]
      exact h
    rw [andThen_of_ne h, andThen_of_ne h']
    exact hl

theorem alike_forEach {f : β → Listing ε α} {f' : β → Listing ε γ} {bs : List β}
    (h : ∀ b ∈ bs, Alike R (f b) (f' b)) : Alike R (forEach f bs) (forEach f' bs) := by
  induction bs with
  | nil => exact alike_add .nil
  | cons b bs ih =>
    rw [List.forall_mem_cons] at h
    exact h.1.andThen (ih h.2)

end Listing

/-! ### Correspondence place by place -/

section Places

variable {α β γ : Type} {R : α → γ → Prop}

theorem forall₂_append_iff {l k : List α} {l' k' : List γ} (h : l.length = l'.length) :
    List.Forall₂ R (l ++ k) (l' ++ k') ↔ List.Forall₂ R l l' ∧ List.Forall₂ R k k' := by
  induction l generalizing l' with
  | nil =>
    rw [List.eq_nil_of_length_eq_zero h.symm]
    simp
  | cons a l ih =>
    cases l' with
    | nil => cases h
    | cons c l' =>
      rw [List.cons_append, List.cons_append, List.forall₂_cons, List.forall₂_cons,
        ih (Nat.succ.inj h), and_assoc]

theorem forall₂_map_map_iff {f : β → α} {g : β → γ} {l : List β} :
    List.Forall₂ R (l.map f) (l.map g) ↔ ∀ b ∈ l, R (f b) (g b) := by
  rw [List.forall₂_map_left_iff, List.forall₂_map_right_iff, List.forall₂_same]

theorem forall₂_flatMap_iff {f : β → List α} {g : β → List γ} {l : List β}
    (h : ∀ b ∈ l, (f b).length = (g b).length) :
    List.Forall₂ R (l.flatMap f) (l.flatMap g) ↔ ∀ b ∈ l, List.Forall₂ R (f b) (g b) := by
  induction l with
  | nil => simp
  | cons b l ih =>
    rw [List.forall_mem_cons] at h
    rw [List.flatMap_cons, List.flatMap_cons, forall₂_append_iff h.1, ih h.2,
      List.forall_mem_cons]

end Places

end Framework
