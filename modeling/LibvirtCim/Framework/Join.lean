import Mathlib.Data.List.Perm.Basic

/-!
# Joining two lists

A program that goes over rows and, for each of them, over keys finds every pair that matches,
and looks afterwards for the keys that no row matched. `outerJoin` is the same thing told key by
key; `innerJoin_append_perm` says that the two give the same results, in another order.
-/

namespace Framework

variable {ρ κ β : Type} (fits : ρ → κ → Bool) (pair : ρ → κ → β) (alone : κ → β)

/-- The pairs of a row and a key that fit, row by row. -/
def innerJoin (rows : List ρ) (keys : List κ) : List β :=
  rows.flatMap fun r => (keys.filter (fits r)).map (pair r)

/-- The keys without a row. -/
def unmatched (rows : List ρ) (keys : List κ) : List κ :=
  keys.filter fun k => !rows.any (fits · k)

/-- What a key has in the rows. -/
def joined (rows : List ρ) (k : κ) : List β :=
  if rows.any (fits · k) then (rows.filter (fits · k)).map (pair · k) else [alone k]

/-- For each key its pairs, or the key alone when there are none. -/
def outerJoin (rows : List ρ) (keys : List κ) : List β :=
  keys.flatMap (joined fits pair alone rows)

@[simp] theorem innerJoin_nil_keys (rows : List ρ) : innerJoin fits pair rows [] = [] := by
  induction rows with
  | nil => rfl
  | cons r rows ih => exact ih

theorem innerJoin_append (rows rows' : List ρ) (keys : List κ) :
    innerJoin fits pair (rows ++ rows') keys =
      innerJoin fits pair rows keys ++ innerJoin fits pair rows' keys :=
  List.flatMap_append

/-- What is done to the keys without changing what they fit or give does not change the pairs. -/
theorem innerJoin_map_keys {fits : ρ → κ → Bool} {pair : ρ → κ → β} {t : κ → κ}
    (hfits : ∀ r k, fits r (t k) = fits r k) (hpair : ∀ r k, pair r (t k) = pair r k)
    (rows : List ρ) (keys : List κ) :
    innerJoin fits pair rows (keys.map t) = innerJoin fits pair rows keys := by
  rw [innerJoin, innerJoin]
  congr 1
  ext r : 1
  rw [List.filter_map, List.map_map]
  have hfits' : fits r ∘ t = fits r := funext (hfits r)
  have hpair' : pair r ∘ t = pair r := funext (hpair r)
  rw [hfits', hpair']

theorem innerJoin_map_rows {ρ' : Type} (read : ρ' → ρ) (rows : List ρ') (keys : List κ) :
    innerJoin fits pair (rows.map read) keys =
      innerJoin (fun r => fits (read r)) (fun r => pair (read r)) rows keys :=
  List.flatMap_map _ _ rows

theorem unmatched_map_rows {ρ' : Type} (read : ρ' → ρ) (rows : List ρ') (keys : List κ) :
    unmatched fits (rows.map read) keys = unmatched (fun r => fits (read r)) rows keys := by
  simp only [unmatched, List.any_map, Function.comp_def]

theorem innerJoin_cons (r : ρ) (rows : List ρ) (keys : List κ) :
    innerJoin fits pair (r :: rows) keys =
      (keys.filter (fits r)).map (pair r) ++ innerJoin fits pair rows keys :=
  List.flatMap_cons

/-- The pairs with one key come out of the join of all. -/
theorem innerJoin_cons_perm (rows : List ρ) (k : κ) (keys : List κ) :
    (innerJoin fits pair rows (k :: keys)).Perm
      ((rows.filter (fits · k)).map (pair · k) ++ innerJoin fits pair rows keys) := by
  induction rows with
  | nil => exact .refl _
  | cons r rows ih =>
    -- the pairs of this row with the other keys go behind those of the key
    have hswap : ((keys.filter (fits r)).map (pair r) ++ innerJoin fits pair rows (k :: keys)).Perm
        ((rows.filter (fits · k)).map (pair · k) ++
          ((keys.filter (fits r)).map (pair r) ++ innerJoin fits pair rows keys)) := by
      apply (ih.append_left _).trans
      rw [← List.append_assoc, ← List.append_assoc]
      exact List.perm_append_comm.append_right _
    rw [innerJoin_cons, innerJoin_cons]
    by_cases hfit : fits r k = true
    · rw [List.filter_cons_of_pos hfit, @List.filter_cons_of_pos _ (fits · k) r rows hfit]
      exact hswap.cons _
    · rw [List.filter_cons_of_neg hfit, @List.filter_cons_of_neg _ (fits · k) r rows hfit]
      exact hswap

/-- **Row by row or key by key.** -/
theorem innerJoin_append_perm (rows : List ρ) (keys : List κ) :
    (innerJoin fits pair rows keys ++ (unmatched fits rows keys).map alone).Perm
      (outerJoin fits pair alone rows keys) := by
  induction keys with
  | nil =>
    rw [innerJoin_nil_keys]
    exact .refl _
  | cons k keys ih =>
    rw [outerJoin, List.flatMap_cons, ← outerJoin, joined]
    apply ((innerJoin_cons_perm fits pair rows k keys).append_right _).trans
    rw [List.append_assoc]
    by_cases hmatch : rows.any (fits · k) = true
    · rw [if_pos hmatch, unmatched, List.filter_cons_of_neg (by simpa using hmatch)]
      exact ih.append_left _
    · rw [if_neg hmatch, unmatched, List.filter_cons_of_pos (by simpa using hmatch),
        List.map_cons]
      have hnone : rows.filter (fits · k) = [] := by
        rw [List.filter_eq_nil_iff]
        intro r hr hfit
        exact hmatch (List.any_eq_true.mpr ⟨r, hr, hfit⟩)
      rw [hnone, List.map_nil, List.nil_append]
      exact List.perm_middle.trans (ih.cons _)

end Framework
