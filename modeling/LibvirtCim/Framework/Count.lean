import Mathlib.Data.List.Basic
import Mathlib.Logic.ExistsUnique

/-!
# Searches that find something once

A list is searched entry by entry, with an answer that depends on the place of the entry. A result
is found once if exactly one place answers with it.
-/

namespace Framework

/-- Exactly one number has a property: 0 and no later one, or a later one and not 0. -/
theorem existsUnique_nat_iff {P : ℕ → Prop} :
    (∃! i, P i) ↔ P 0 ∧ (∀ i, ¬ P (i + 1)) ∨ ¬ P 0 ∧ ∃! i, P (i + 1) := by
  refine ⟨fun ⟨i, hi, hunique⟩ => ?_, ?_⟩
  · cases i with
    | zero => exact .inl ⟨hi, fun j hj => Nat.succ_ne_zero j (hunique (j + 1) hj)⟩
    | succ i =>
      refine .inr ⟨fun h0 => Nat.succ_ne_zero i (hunique 0 h0).symm, i, hi, fun j hj => ?_⟩
      exact Nat.succ.inj (hunique (j + 1) hj)
  · rintro (⟨h0, hlater⟩ | ⟨h0, i, hi, hunique⟩)
    · refine ⟨0, h0, fun j hj => ?_⟩
      cases j with
      | zero => rfl
      | succ j => exact absurd hj (hlater j)
    · refine ⟨i + 1, hi, fun j hj => ?_⟩
      cases j with
      | zero => exact absurd hj h0
      | succ j => rw [hunique j hj]

section Search

variable {α β : Type} (answer : ℕ → α → Option β)

/-- What a search finds, if the first entry has the place `t`. -/
def search : ℕ → List α → List β
  | _, [] => []
  | t, a :: l => (answer t a).toList ++ search (t + 1) l

/-- The entry at a place answers with `b`. -/
def Answers (t : ℕ) (l : List α) (b : β) (i : ℕ) : Prop :=
  ∃ a, l[i]? = some a ∧ answer (t + i) a = some b

variable {answer} {b : β}

theorem answers_zero {t : ℕ} {a : α} {l : List α} :
    Answers answer t (a :: l) b 0 ↔ answer t a = some b :=
  ⟨fun ⟨_, ha, h⟩ => Option.some.inj ha ▸ h, fun h => ⟨a, rfl, h⟩⟩

theorem answers_succ {t : ℕ} {a : α} {l : List α} {i : ℕ} :
    Answers answer t (a :: l) b (i + 1) ↔ Answers answer (t + 1) l b i := by
  rw [Answers, Answers, List.getElem?_cons_succ, Nat.add_right_comm t 1 i, ← Nat.add_assoc t i 1]

theorem length_search_le (t : ℕ) (l : List α) : (search answer t l).length ≤ l.length := by
  induction l generalizing t with
  | nil => exact Nat.le_refl 0
  | cons a l ih =>
    rw [search, List.length_append, List.length_cons]
    have hone : (answer t a).toList.length ≤ 1 := by
      cases answer t a with
      | none => exact Nat.zero_le 1
      | some b => exact Nat.le_refl 1
    have hrest := ih (t + 1)
    omega

variable [DecidableEq β]

theorem count_toList (o : Option β) : o.toList.count b = if o = some b then 1 else 0 := by
  cases o with
  | none => rfl
  | some c =>
    rw [Option.toList_some, List.count_singleton]
    simp only [beq_iff_eq, Option.some.injEq]

theorem count_search_eq_zero {t : ℕ} {l : List α} :
    (search answer t l).count b = 0 ↔ ∀ i, ¬ Answers answer t l b i := by
  induction l generalizing t with
  | nil => exact iff_of_true rfl fun i ⟨_, ha, _⟩ => by cases ha
  | cons a l ih =>
    rw [search, List.count_append, count_toList, Nat.add_eq_zero_iff, ih]
    refine ⟨fun ⟨hfirst, hrest⟩ i => ?_, fun h => ⟨?_, fun i hi => h (i + 1) (answers_succ.mpr hi)⟩⟩
    · cases i with
      | zero =>
        intro h0
        rw [if_pos (answers_zero.mp h0)] at hfirst
        exact Nat.one_ne_zero hfirst
      | succ i => exact fun hi => hrest i (answers_succ.mp hi)
    · exact if_neg fun ha => h 0 (answers_zero.mpr ha)

/-- **A search finds something once** if and only if exactly one place answers with it. -/
theorem count_search_eq_one {t : ℕ} {l : List α} :
    (search answer t l).count b = 1 ↔ ∃! i, Answers answer t l b i := by
  induction l generalizing t with
  | nil => exact iff_of_false Nat.zero_ne_one fun ⟨_, ⟨_, ha, _⟩, _⟩ => by cases ha
  | cons a l ih =>
    rw [search, List.count_append, count_toList, existsUnique_nat_iff]
    simp only [answers_zero, answers_succ]
    rw [← ih, ← count_search_eq_zero]
    by_cases ha : answer t a = some b
    · rw [if_pos ha]
      simp only [ha, true_and, not_true, false_and, or_false]
      omega
    · rw [if_neg ha]
      simp only [ha, false_and, not_false_iff, true_and, false_or]
      omega

end Search

/-- The value of the first entry with a property, if all that have it agree on the value. -/
theorem map_find?_eq_some_iff {α β : Type} {l : List α} {p : α → Prop} [DecidablePred p]
    {f : α → β} (hagree : ∀ a ∈ l, ∀ a' ∈ l, p a → p a' → f a = f a') {b : β} :
    (l.find? fun a => decide (p a)).map f = some b ↔ ∃ a ∈ l, p a ∧ f a = b := by
  rw [Option.map_eq_some_iff]
  refine ⟨fun ⟨a, ha, hb⟩ => ?_, fun ⟨a, hmem, ha, hb⟩ => ?_⟩
  · have hp := List.find?_some ha
    exact ⟨a, List.mem_of_find?_eq_some ha, of_decide_eq_true hp, hb⟩
  · have hsome : (l.find? fun a => decide (p a)).isSome := by
      rw [List.find?_isSome]
      exact ⟨a, hmem, decide_eq_true ha⟩
    obtain ⟨a', ha'⟩ := Option.isSome_iff_exists.mp hsome
    have hp' := List.find?_some ha'
    refine ⟨a', ha', ?_⟩
    rw [hagree a' (List.mem_of_find?_eq_some ha') a hmem (of_decide_eq_true hp') ha, hb]

end Framework
