import Mathlib.Data.List.Basic

/-!
# Labelled systems and their finite runs

A system is an initial state and a labelled step relation; a run is a finite
sequence of steps, indexed by the list of its labels. Two induction rules serve
the developments built on top:

* `Run.invariantOn` — a state predicate kept by every step with a label of some
  class holds at the end of every run of such labels that starts in it;
* `Run.historyInvariant` — the same for all labels and a predicate that also reads
  those seen so far.

`Along P ls` says that every label of a history satisfies `P` at the labels before
it. `System.restrict` keeps only the steps that meet a guard on the state before the
step and its label. Every run of `sys.restrict G` is a run of `sys`
(`Run.of_restrict`), so a statement about "every run whose steps all meet a
condition" is a statement about the restricted system.
-/

namespace Framework

/-- A labelled transition system with one initial state. -/
structure System (State Label : Type) where
  init : State
  step : State → Label → State → Prop

variable {State Label : Type} {sys : System State Label}

/-- `Run sys s ls t`: the steps labelled `ls` lead from `s` to `t`. -/
inductive Run (sys : System State Label) : State → List Label → State → Prop
  | nil (s : State) : Run sys s [] s
  | snoc {s t u : State} {ls : List Label} {l : Label} :
      Run sys s ls t → sys.step t l u → Run sys s (ls ++ [l]) u

namespace Run

/-- A run of one step. -/
theorem single {s t : State} {l : Label} (h : sys.step s l t) : Run sys s [l] t :=
  snoc (nil s) h

/-- Runs compose. -/
theorem append {s t u : State} {ls ls' : List Label}
    (h : Run sys s ls t) (h' : Run sys t ls' u) : Run sys s (ls ++ ls') u := by
  induction h' with
  | nil => simpa using h
  | snoc _ hstep ih =>
    rw [← List.append_assoc]
    exact snoc ih hstep

/-- A step followed by a run. -/
theorem cons {s t u : State} {l : Label} {ls : List Label}
    (h : sys.step s l t) (h' : Run sys t ls u) : Run sys s (l :: ls) u :=
  (single h).append h'

/-- A run of two histories passes a state between them. -/
theorem exists_between {s t : State} {ls ls' : List Label} (h : Run sys s (ls ++ ls') t) :
    ∃ u, Run sys s ls u ∧ Run sys u ls' t := by
  generalize hall : ls ++ ls' = all at h
  induction h generalizing ls' with
  | nil =>
    obtain ⟨rfl, rfl⟩ := List.append_eq_nil_iff.mp hall
    exact ⟨s, nil s, nil s⟩
  | @snoc t u front l hrun hlast ih =>
    obtain rfl | ⟨mid, last, rfl⟩ := ls'.eq_nil_or_concat
    · rw [List.append_nil] at hall
      exact ⟨u, hall ▸ snoc hrun hlast, nil u⟩
    · rw [List.concat_eq_append, ← List.append_assoc] at hall
      obtain ⟨hfront, hl⟩ := List.append_inj' hall rfl
      obtain rfl : last = l := by simpa using hl
      obtain ⟨v, hleft, hright⟩ := ih hfront
      rw [List.concat_eq_append]
      exact ⟨v, hleft, snoc hright hlast⟩

/-- A label of a history is that of a step, with the run before it and the run behind it. -/
theorem exists_step {s t : State} {pre post : List Label} {l : Label}
    (h : Run sys s (pre ++ l :: post) t) :
    ∃ u v, Run sys s pre u ∧ sys.step u l v ∧ Run sys v post t := by
  rw [List.append_cons] at h
  obtain ⟨v, hfront, hback⟩ := h.exists_between
  generalize hall : pre ++ [l] = front at hfront
  cases hfront with
  | nil => exact absurd hall (by simp)
  | @snoc u _ front l' hbefore hstep =>
    obtain ⟨rfl, hl⟩ := List.append_inj' hall rfl
    obtain rfl : l = l' := by simpa using hl
    exact ⟨u, v, hbefore, hstep, hback⟩

/-- Steps that are taken one after the other are a run. -/
theorem of_foldlM {step? : State → Label → Option State}
    (hstep : ∀ s l t, step? s l = some t → sys.step s l t) {s t : State} {ls : List Label}
    (h : ls.foldlM step? s = some t) : Run sys s ls t := by
  induction ls generalizing s with
  | nil =>
    obtain rfl := Option.some.inj h
    exact nil s
  | cons l ls ih =>
    rw [List.foldlM_cons] at h
    obtain ⟨u, hfirst, hrest⟩ := Option.bind_eq_some_iff.mp h
    exact cons (hstep s l u hfirst) (ih hrest)

/-- **State invariants**, along a class of labels. Only the steps whose label is
in `P` have to keep the predicate, when the run uses no other label. -/
theorem invariantOn {I : State → Prop} {P : Label → Prop}
    (hstep : ∀ s l t, P l → I s → sys.step s l t → I t)
    {s t : State} {ls : List Label} (h : Run sys s ls t) (hP : ∀ l ∈ ls, P l)
    (hs : I s) : I t := by
  induction h with
  | nil => exact hs
  | snoc _ hst ih =>
    refine hstep _ _ _ (hP _ (by simp)) (ih fun l hl => hP l ?_) hst
    exact List.mem_append_left _ hl

/-- **History invariants.** A predicate on the labels seen so far and the
current state that holds at the start and is kept by every step holds at the end
of every run. -/
theorem historyInvariant {I : List Label → State → Prop}
    (hstep : ∀ ls s l t, I ls s → sys.step s l t → I (ls ++ [l]) t)
    {s t : State} {ls : List Label} (h : Run sys s ls t) (hs : I [] s) : I ls t := by
  induction h with
  | nil => exact hs
  | snoc _ hst ih => exact hstep _ _ _ _ ih hst

end Run

/-! ### Properties of each label of a history -/

/-- Every label of a history has a property that may read the labels before it. -/
def Along (P : List Label → Label → Prop) (ls : List Label) : Prop :=
  ∀ pre l post, ls = pre ++ l :: post → P pre l

theorem Along.nil {P : List Label → Label → Prop} : Along P [] := by
  intro pre l post h
  simp at h

theorem Along.snoc {P : List Label → Label → Prop} {ls : List Label} {l : Label}
    (h : Along P ls) (hl : P ls l) : Along P (ls ++ [l]) := by
  intro pre l' post heq
  obtain rfl | ⟨post', last, rfl⟩ := post.eq_nil_or_concat
  · -- the newest label
    obtain ⟨rfl, hlast⟩ := List.append_inj' heq rfl
    obtain rfl : l = l' := by simpa using hlast
    exact hl
  · rw [List.concat_eq_append, ← List.cons_append, ← List.append_assoc] at heq
    exact h pre l' post' (List.append_inj' heq rfl).1

/-- The property holds along what a history begins with. -/
theorem Along.of_append {P : List Label → Label → Prop} {ls ls' : List Label}
    (h : Along P (ls ++ ls')) : Along P ls := by
  intro pre l post heq
  refine h pre l (post ++ ls') ?_
  rw [heq, List.append_assoc, List.cons_append]

/-- The newest label has the property. -/
theorem Along.last {P : List Label → Label → Prop} {ls : List Label} {l : Label}
    (h : Along P (ls ++ [l])) : P ls l :=
  h ls l [] rfl

/-! ### Runs under a condition -/

/-- The system that takes only the steps of `sys` meeting the guard `G`. -/
def System.restrict (sys : System State Label) (G : State → Label → Prop) :
    System State Label where
  init := sys.init
  step s l t := G s l ∧ sys.step s l t

@[simp] theorem restrict_init (G : State → Label → Prop) :
    (sys.restrict G).init = sys.init := rfl

@[simp] theorem restrict_step (G : State → Label → Prop) (s : State) (l : Label) (t : State) :
    (sys.restrict G).step s l t ↔ G s l ∧ sys.step s l t := Iff.rfl

/-- A run of the restricted system goes on with a step that meets the guard. -/
theorem Run.snoc_restrict {G : State → Label → Prop} {s t u : State} {ls : List Label}
    {l : Label} (h : Run (sys.restrict G) s ls t) (hstep : sys.step t l u) (hG : G t l) :
    Run (sys.restrict G) s (ls ++ [l]) u :=
  h.snoc ⟨hG, hstep⟩

/-- A run of the restricted system is a run of the system. -/
theorem Run.of_restrict {G : State → Label → Prop} {s t : State} {ls : List Label}
    (h : Run (sys.restrict G) s ls t) : Run sys s ls t := by
  induction h with
  | nil => exact nil _
  | snoc _ hst ih => exact snoc ih hst.2

end Framework
