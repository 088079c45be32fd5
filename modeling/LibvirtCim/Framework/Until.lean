import Mathlib.Data.List.Basic
import Mathlib.Data.Option.Basic

/-!
# Reading a list until the first failure

`mapUntil f l` reads the elements of a list in their order and stops at the first one that
cannot be read. Reading all that can be read is `List.filterMap f l`. Both are the same exactly
when nothing that can be read stands behind something that cannot (`mapUntil_eq_filterMap_iff`).
-/

namespace Framework

variable {α β : Type} (f : α → Option β)

/-- The results on the elements before the first one without a result. -/
def mapUntil : List α → List β
  | [] => []
  | a :: l =>
    match f a with
    | none => []
    | some b => b :: mapUntil l

@[simp] theorem mapUntil_nil : mapUntil f [] = [] := rfl

theorem mapUntil_cons_none {a : α} (l : List α) (h : f a = none) : mapUntil f (a :: l) = [] := by
  rw [mapUntil, h]

theorem mapUntil_cons_some {a : α} {b : β} (l : List α) (h : f a = some b) :
    mapUntil f (a :: l) = b :: mapUntil f l := by
  rw [mapUntil, h]

/-- Nothing that has a result stands behind something without one. -/
def Unhidden (l : List α) : Prop :=
  l.Pairwise fun a b => f a = none → f b = none

/-- **Everything that can be read is read before the first failure if and only if no failure
hides anything.** -/
theorem mapUntil_eq_filterMap_iff (l : List α) :
    mapUntil f l = l.filterMap f ↔ Unhidden f l := by
  induction l with
  | nil => exact ⟨fun _ => List.Pairwise.nil, fun _ => rfl⟩
  | cons a l ih =>
    rw [Unhidden, List.pairwise_cons]
    cases h : f a with
    | none =>
      -- nothing is read any more, so nothing may be left to read
      rw [mapUntil_cons_none f l h, List.filterMap_cons_none h]
      constructor
      · intro hnil
        have hnone : ∀ b ∈ l, f b = none := List.filterMap_eq_nil_iff.mp hnil.symm
        refine ⟨fun b hb _ => hnone b hb, ?_⟩
        rw [List.pairwise_iff_forall_sublist]
        intro b c hsub _
        apply hnone c
        apply hsub.subset
        simp
      · intro hall
        symm
        exact List.filterMap_eq_nil_iff.mpr fun b hb => hall.1 b hb rfl
    | some b =>
      rw [mapUntil_cons_some f l h, List.filterMap_cons_some h, List.cons_inj_right, ih]
      constructor
      · intro hl
        exact ⟨fun _ _ hnone => (Option.some_ne_none b hnone).elim, hl⟩
      · exact fun hall => hall.2

end Framework
