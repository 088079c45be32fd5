import Mathlib.Data.List.Induction
import Mathlib.Data.List.Perm.Basic

/-!
# Loops that gather items and keep one status

A loop goes through a list; each entry yields items, which are all kept, and a status, which
replaces that of the entry before. In the end the items may be dropped, depending on the status
that is left.

* `OrderFree` — status and items are the same for each order of the list, `orderFree_gather_iff`
  when they are;
* `Exact` — if the status is good, the items are those of a specification for each entry,
  `orderFree_and_exact_iff` when they are besides.
-/

namespace Framework

/-- What is left of a loop. -/
structure Gathered (σ β : Type) where
  status : σ
  items : List β
  deriving DecidableEq, Repr

variable {α β σ : Type} {step : α → σ × List β} {initial : σ} {l : List α}

/-- The loop. -/
def gather (step : α → σ × List β) (initial : σ) (l : List α) : Gathered σ β :=
  l.foldl (fun g a => ⟨(step a).1, g.items ++ (step a).2⟩) ⟨initial, []⟩

/-- The items are dropped unless the status is good. -/
def Gathered.keepIf (good : σ → Prop) [DecidablePred good] (g : Gathered σ β) : Gathered σ β :=
  if good g.status then g else { g with items := [] }

/-- An enumeration that does not depend on the order of the list: it has the same status and,
up to their order, the same items. -/
def OrderFree (enumerate : List α → Gathered σ β) (l : List α) : Prop :=
  ∀ l', l'.Perm l → (enumerate l').status = (enumerate l).status ∧
    (enumerate l').items.Perm (enumerate l).items

/-- An enumeration whose items are those of a specification, if it succeeds. -/
def Exact (good : σ → Prop) (spec : α → List β) (l : List α) (g : Gathered σ β) : Prop :=
  good g.status → g.items.Perm (l.flatMap spec)

theorem gather_append (l : List α) (a : α) :
    gather step initial (l ++ [a]) =
      ⟨(step a).1, (gather step initial l).items ++ (step a).2⟩ := by
  rw [gather, List.foldl_append, ← gather]
  rfl

/-- All items are kept. -/
theorem items_gather (l : List α) :
    (gather step initial l).items = l.flatMap fun a => (step a).2 := by
  induction l using List.reverseRecOn with
  | nil => rfl
  | append_singleton l a ih =>
    rw [gather_append, ih, List.flatMap_append, List.flatMap_singleton]

/-- The status is that of one of the entries. -/
theorem status_gather_mem (step : α → σ × List β) (initial : σ) (hne : l ≠ []) :
    ∃ a ∈ l, (gather step initial l).status = (step a).1 := by
  obtain ⟨l', a, rfl⟩ := List.eq_nil_or_concat' l |>.resolve_left hne
  rw [gather_append]
  exact ⟨a, List.mem_append_right l' (List.mem_singleton_self a), rfl⟩

/-- In some order each entry comes last. -/
theorem exists_perm_append_singleton {a : α} (ha : a ∈ l) : ∃ l', (l' ++ [a]).Perm l := by
  obtain ⟨before, after, rfl⟩ := List.append_of_mem ha
  refine ⟨before ++ after, ?_⟩
  rw [List.append_assoc]
  have hlast : (after ++ [a]).Perm ([a] ++ after) := List.perm_append_comm
  exact hlast.append_left before

section Keep

variable {good : σ → Prop} [DecidablePred good]

@[simp] theorem status_keepIf (g : Gathered σ β) : (g.keepIf good).status = g.status := by
  unfold Gathered.keepIf
  split
  · rfl
  · rfl

/-- The items of entries that all have one status. -/
theorem perm_items_keepIf {l' : List α} (hperm : l'.Perm l)
    (hstatus : (gather step initial l').status = (gather step initial l).status) :
    ((gather step initial l').keepIf good).items.Perm
      ((gather step initial l).keepIf good).items := by
  unfold Gathered.keepIf
  rw [hstatus]
  split
  · rw [items_gather, items_gather]
    exact hperm.flatMap_right _
  · exact List.Perm.refl []

/-- **When the order does not matter**: all entries have one status. -/
theorem orderFree_gather_iff :
    OrderFree (fun l => (gather step initial l).keepIf good) l ↔
      ∀ a ∈ l, ∀ b ∈ l, (step a).1 = (step b).1 := by
  refine ⟨fun h => ?_, fun h l' hperm => ?_⟩
  · -- each entry decides in the order in which it comes last
    have hlast (a : α) (ha : a ∈ l) : (step a).1 = (gather step initial l).status := by
      obtain ⟨l', hperm⟩ := exists_perm_append_singleton ha
      have hstatus := (h _ hperm).1
      rw [status_keepIf, status_keepIf, gather_append] at hstatus
      exact hstatus
    intro a ha b hb
    rw [hlast a ha, hlast b hb]
  -- the status is that of some entry, and all entries have the same one
  · have hstatus : (gather step initial l').status = (gather step initial l).status := by
      by_cases hne : l = []
      · rw [hne] at hperm
        rw [hperm.eq_nil, hne]
      · have hne' : l' ≠ [] := fun hnil => hne (hnil ▸ hperm).nil_eq.symm
        obtain ⟨a, ha, hstatusA⟩ := status_gather_mem step initial hne
        obtain ⟨b, hb, hstatusB⟩ := status_gather_mem step initial hne'
        rw [hstatusA, hstatusB]
        exact h b (hperm.subset hb) a ha
    refine ⟨?_, perm_items_keepIf hperm hstatus⟩
    rw [status_keepIf, status_keepIf, hstatus]

/-- **When the order does not matter and the items are those of a specification**: all entries
have one status, and if it is good, each yields what the specification says. -/
theorem orderFree_and_exact_iff {spec : α → List β}
    (hitems : (l.flatMap fun a => (step a).2).Perm (l.flatMap spec) ↔
      ∀ a ∈ l, (step a).2 = spec a) :
    OrderFree (fun l => (gather step initial l).keepIf good) l ∧
        Exact good spec l ((gather step initial l).keepIf good) ↔
      (∀ a ∈ l, ∀ b ∈ l, (step a).1 = (step b).1) ∧
        ((∀ a ∈ l, good (step a).1) → ∀ a ∈ l, (step a).2 = spec a) := by
  rw [orderFree_gather_iff, Exact, status_keepIf, Gathered.keepIf]
  refine and_congr_right fun hsame => ?_
  -- without entries the initial status is left
  by_cases hne : l = []
  · rw [hne]
    refine iff_of_true (fun _ => ?_) fun _ _ ha => nomatch ha
    split
    · exact List.Perm.refl []
    · exact List.Perm.refl []
  · obtain ⟨a, ha, hlast⟩ := status_gather_mem step initial hne
    -- the last entry decides, and all are as good as it
    by_cases hgood : good (gather step initial l).status
    · have hall (b : α) (hb : b ∈ l) : good (step b).1 := by
        rw [hsame b hb a ha, ← hlast]
        exact hgood
      rw [if_pos hgood, items_gather, hitems, forall_prop_of_true hgood, forall_prop_of_true hall]
    · exact iff_of_true (fun h => absurd h hgood) fun hall => absurd (hlast ▸ hall a ha) hgood

end Keep

theorem flatMap_sublist {f g : α → List β} (h : ∀ a ∈ l, (f a).Sublist (g a)) :
    (l.flatMap f).Sublist (l.flatMap g) := by
  induction l with
  | nil => exact List.Sublist.refl []
  | cons a l ih =>
    rw [List.forall_mem_cons] at h
    rw [List.flatMap_cons, List.flatMap_cons]
    exact h.1.append (ih h.2)

/-- **Items entry by entry**: if none of the entries yields more than another function of it, then
up to the order both yield the same only where they do so for each entry. -/
theorem flatMap_perm_iff {f g : α → List β} (h : ∀ a ∈ l, (f a).Sublist (g a)) :
    (l.flatMap f).Perm (l.flatMap g) ↔ ∀ a ∈ l, f a = g a := by
  -- entry by entry: none can make up for one that is shorter than it should be
  induction l with
  | nil => exact iff_of_true (List.Perm.refl []) fun _ ha => nomatch ha
  | cons a l ih =>
    rw [List.forall_mem_cons] at h ⊢
    rw [List.flatMap_cons, List.flatMap_cons, ← ih h.2]
    refine ⟨fun hperm => ?_, fun ⟨hfirst, hrest⟩ => ?_⟩
    · have hrest := (flatMap_sublist h.2).length_le
      have hlength := hperm.length_eq
      rw [List.length_append, List.length_append] at hlength
      have hfirst : f a = g a := h.1.eq_of_length_le (by omega)
      rw [hfirst] at hperm
      exact ⟨hfirst, (List.perm_append_left_iff _).mp hperm⟩
    · rw [hfirst]
      exact hrest.append_left _

end Framework
