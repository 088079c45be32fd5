import Mathlib.Data.List.Nodup
import Mathlib.Logic.Function.Basic

/-!
# Lists of keyed records

A list whose records carry a key, read as a finite map: `lookupKey key l k` is
the first record with key `k`. When no key occurs twice the list and the map
determine each other key by key (`filter_key_eq_toList`), and folding pointwise
updates over a list can be computed one key at a time
(`foldl_update_apply`).
-/

namespace Framework

variable {α β κ : Type} [DecidableEq κ] (key : α → κ)

/-- The first record with key `k`. -/
def lookupKey (l : List α) (k : κ) : Option α :=
  l.find? fun a => key a = k

@[simp] theorem lookupKey_nil (k : κ) : lookupKey key [] k = none := rfl

theorem lookupKey_cons (a : α) (l : List α) (k : κ) :
    lookupKey key (a :: l) k = if key a = k then some a else lookupKey key l k := by
  by_cases h : key a = k <;> simp [lookupKey, h]

theorem mem_of_lookupKey {l : List α} {k : κ} {a : α} (h : lookupKey key l k = some a) :
    a ∈ l :=
  List.mem_of_find?_eq_some h

theorem key_of_lookupKey {l : List α} {k : κ} {a : α} (h : lookupKey key l k = some a) :
    key a = k := by
  simpa using List.find?_some h

/-- A list with distinct keys holds at most one record of each key. -/
theorem filter_key_eq_toList {l : List α} (h : (l.map key).Nodup) (k : κ) :
    (l.filter fun a => key a = k) = (lookupKey key l k).toList := by
  induction l with
  | nil => rfl
  | cons a l ih =>
    rw [List.map_cons, List.nodup_cons] at h
    rw [lookupKey_cons]
    by_cases hk : key a = k
    · -- the head has the key, so nothing behind it has
      have hrest : (l.filter fun b => key b = k) = [] := by
        refine List.filter_eq_nil_iff.mpr fun b hb hbk => h.1 ?_
        rw [hk, ← of_decide_eq_true hbk]
        exact List.mem_map_of_mem hb
      simp [hk, hrest]
    · simp [hk, ih h.2]

/-- In a list with distinct keys a record is found under its own key. -/
theorem lookupKey_of_mem {l : List α} (h : (l.map key).Nodup) {a : α} (ha : a ∈ l) :
    lookupKey key l (key a) = some a := by
  have hmem : a ∈ l.filter fun b => key b = key a :=
    List.mem_filter.mpr ⟨ha, by simp⟩
  rw [filter_key_eq_toList key h] at hmem
  simpa using hmem

/-- Pointwise updates of a map, folded over a list, act on each key through the
records of that key alone. -/
theorem foldl_update_apply (f : α → β → β) (l : List α) (m : κ → β) (k : κ) :
    l.foldl (fun m a => Function.update m (key a) (f a (m (key a)))) m k =
      (l.filter fun a => key a = k).foldl (fun v a => f a v) (m k) := by
  induction l generalizing m with
  | nil => rfl
  | cons a l ih =>
    rw [List.foldl_cons, ih]
    by_cases hk : key a = k
    · subst hk
      simp
    · simp [hk, Function.update_of_ne (Ne.symm hk)]

/-- The first entry that passes a test, with the entries before and behind it. -/
def splitAtFirst (p : α → Bool) : List α → Option (List α × α × List α)
  | [] => none
  | a :: l =>
    if p a then some ([], a, l)
    else (splitAtFirst p l).map fun (before, b, after) => (a :: before, b, after)

theorem splitAtFirst_eq_some {p : α → Bool} {l before after : List α} {a : α}
    (h : splitAtFirst p l = some (before, a, after)) :
    l = before ++ a :: after ∧ p a ∧ ∀ b ∈ before, ¬p b := by
  induction l generalizing before with
  | nil => exact nomatch h
  | cons c l ih =>
    rw [splitAtFirst] at h
    by_cases hc : p c = true
    · rw [if_pos hc] at h
      obtain ⟨⟨⟩⟩ := h
      exact ⟨rfl, hc, by simp⟩
    · rw [if_neg hc, Option.map_eq_some_iff] at h
      obtain ⟨⟨before', b, after'⟩, hrest, ⟨⟩⟩ := h
      obtain ⟨rfl, hb, hbefore⟩ := ih hrest
      exact ⟨rfl, hb, List.forall_mem_cons.mpr ⟨hc, hbefore⟩⟩

/-- Every entry of a list without repetitions is found by itself if and only if no entry finds
an earlier one. -/
theorem find_self_iff {r : α → α → Bool} {l : List α} (hrefl : ∀ a ∈ l, r a a = true)
    (hnodup : l.Nodup) :
    (∀ a ∈ l, l.find? (r a) = some a) ↔ l.Pairwise fun a b => ¬ r b a = true := by
  induction l with
  | nil => simp
  | cons c l ih =>
    obtain ⟨hnot, hnodup⟩ := List.nodup_cons.mp hnodup
    obtain ⟨hc, hrefl⟩ := List.forall_mem_cons.mp hrefl
    rw [List.forall_mem_cons, List.pairwise_cons, ← ih hrefl hnodup, List.find?_cons, hc]
    simp only [true_and]
    rw [← forall₂_and]
    refine forall₂_congr fun a ha => ?_
    rw [List.find?_cons]
    cases hac : r a c with
    | true =>
      -- the first entry is found instead
      have hne : c ≠ a := by
        rintro rfl
        exact hnot ha
      simp [hne]
    | false => simp

/-- Every entry of a list finds itself and no other if and only if no two entries find each
other. -/
theorem filter_self_iff {r : α → α → Bool} {l : List α} (hrefl : ∀ a ∈ l, r a a = true)
    (hsymm : ∀ a b, r a b = r b a) :
    (∀ a ∈ l, l.filter (r a) = [a]) ↔ l.Pairwise fun a b => ¬ r a b = true := by
  induction l with
  | nil => simp
  | cons c l ih =>
    obtain ⟨hc, hrefl⟩ := List.forall_mem_cons.mp hrefl
    rw [List.forall_mem_cons, List.pairwise_cons, ← ih hrefl, List.filter_cons_of_pos hc]
    have hfirst : c :: l.filter (r c) = [c] ↔ ∀ b ∈ l, ¬ r c b = true := by
      rw [List.cons_eq_cons, List.filter_eq_nil_iff]
      exact and_iff_right rfl
    rw [hfirst]
    refine and_congr_right fun hnone => forall₂_congr fun a ha => ?_
    have hother : ¬ r a c = true := by
      rw [hsymm]
      exact hnone a ha
    rw [List.filter_cons_of_neg hother]

/-- Put an entry in the place of the first one that passes a test, or behind all of them. -/
def upsertBy (p : α → Bool) (x : α) : List α → List α
  | [] => [x]
  | a :: l => if p a then x :: l else a :: upsertBy p x l

theorem mem_upsertBy_self (p : α → Bool) (x : α) (l : List α) : x ∈ upsertBy p x l := by
  induction l with
  | nil => exact List.mem_cons_self
  | cons a l ih =>
    rw [upsertBy]
    split
    · exact List.mem_cons_self
    · exact List.mem_cons_of_mem a ih

theorem eq_or_mem_of_mem_upsertBy {p : α → Bool} {x z : α} {l : List α}
    (h : z ∈ upsertBy p x l) : z = x ∨ z ∈ l := by
  induction l with
  | nil => exact .inl (List.mem_singleton.mp h)
  | cons a l ih =>
    rw [upsertBy] at h
    split at h
    · exact (List.mem_cons.mp h).imp_right (List.mem_cons_of_mem a)
    · obtain rfl | hrest := List.mem_cons.mp h
      · exact .inr List.mem_cons_self
      · exact (ih hrest).imp_right (List.mem_cons_of_mem a)

/-- An entry is still there, or it passed the test. -/
theorem mem_upsertBy_or {p : α → Bool} {z : α} {l : List α} (h : z ∈ l) (x : α) :
    z ∈ upsertBy p x l ∨ p z := by
  induction l with
  | nil => exact absurd h List.not_mem_nil
  | cons a l ih =>
    rw [upsertBy]
    split
    · next ha =>
      obtain rfl | hrest := List.mem_cons.mp h
      · exact .inr ha
      · exact .inl (List.mem_cons_of_mem x hrest)
    · obtain rfl | hrest := List.mem_cons.mp h
      · exact .inl List.mem_cons_self
      · exact (ih hrest).imp_left (List.mem_cons_of_mem a)

end Framework
