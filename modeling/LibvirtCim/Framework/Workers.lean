import Mathlib.Data.List.Induction
import LibvirtCim.Framework.Run

/-!
# Workers that follow one program

A program says where a worker begins and where each act takes it; it has no say in what an act
does to the state the workers share. A system is `Staffed` when its steps either give one of the
workers an act, or leave all of them where they are and may add new ones.

In every interleaving a worker has followed its program along its own acts (`Staffed.follows`), so
that what is known of the program alone is known of it in any company. `exists_lastOwn` finds the
last act of a worker in a history. What the workers share is a program as well, which every act of
theirs drives (`Program.follow_of_run`).
-/

namespace Framework

/-- Where a worker begins, and where an act takes it, if it is waiting for the act. -/
structure Program (Task Pos Act : Type) where
  start : Task → Pos
  next : Pos → Act → Option Pos

variable {Task Pos Act State Label : Type}

/-- Where a list of acts takes a worker. -/
def Program.follow (prog : Program Task Pos Act) (pos : Pos) : List Act → Option Pos
  | [] => some pos
  | act :: acts => (prog.next pos act).bind fun pos => prog.follow pos acts

/-- A program is followed act by act. -/
theorem Program.follow_append (prog : Program Task Pos Act) (pos : Pos) (acts acts' : List Act) :
    prog.follow pos (acts ++ acts') =
      (prog.follow pos acts).bind fun pos => prog.follow pos acts' := by
  induction acts generalizing pos with
  | nil => rfl
  | cons act acts ih =>
    rw [List.cons_append, Program.follow, Program.follow, Option.bind_assoc]
    refine congrArg _ (funext fun pos => ?_)
    exact ih pos

/-- **What the program keeps** is kept along every list of acts. -/
theorem Program.follow_invariant (prog : Program Task Pos Act) {I : List Act → Pos → Prop}
    (hnext : ∀ acts pos act pos', I acts pos → prog.next pos act = some pos' →
      I (acts ++ [act]) pos') {start pos : Pos} {acts : List Act} (hstart : I [] start)
    (h : prog.follow start acts = some pos) : I acts pos := by
  -- from the right: the last act is the one that leads to the position
  induction acts using List.reverseRecOn generalizing pos with
  | nil =>
    obtain rfl := Option.some.inj h
    exact hstart
  | append_singleton acts act ih =>
    rw [Program.follow_append] at h
    obtain ⟨before, hbefore, hlast⟩ := Option.bind_eq_some_iff.mp h
    obtain ⟨after, hafter, hend⟩ := Option.bind_eq_some_iff.mp hlast
    obtain rfl := Option.some.inj hend
    exact hnext acts before act after (ih hbefore) hafter

/-! ### In a system -/

/-- **A view of a system** that every step changes as a program does is changed so by every run:
the acts of the program are the part of the history it sees. -/
theorem Program.follow_of_run {prog : Program Task Pos Act} {sys : System State Label}
    (view : State → Pos) (act? : Label → Option Act)
    (hstep : ∀ s l t, sys.step s l t → prog.follow (view s) (act? l).toList = some (view t))
    {s t : State} {ls : List Label} (hrun : Run sys s ls t) :
    prog.follow (view s) (ls.filterMap act?) = some (view t) := by
  induction hrun with
  | nil => rfl
  | @snoc t u ls l hrun hlast ih =>
    have hsingle : [l].filterMap act? = (act? l).toList := by
      cases h : act? l <;> simp [h]
    rw [List.filterMap_append, Program.follow_append, ih, Option.bind_some, hsingle]
    exact hstep t l u hlast

variable (act? : Label → Option (ℕ × Act))

/-- The acts of one worker in a history. -/
def ownActs (i : ℕ) (ls : List Label) : List Act :=
  ls.filterMap fun l => (act? l).bind fun own => if own.1 = i then some own.2 else none

variable {act?}

theorem ownActs_append (i : ℕ) (ls ls' : List Label) :
    ownActs act? i (ls ++ ls') = ownActs act? i ls ++ ownActs act? i ls' :=
  List.filterMap_append

theorem ownActs_singleton_self {i : ℕ} {act : Act} {l : Label} (h : act? l = some (i, act)) :
    ownActs act? i [l] = [act] := by
  simp [ownActs, h]

theorem ownActs_singleton_of_ne {i j : ℕ} {act : Act} {l : Label} (h : act? l = some (j, act))
    (hne : j ≠ i) : ownActs act? i [l] = [] := by
  simp [ownActs, h, hne]

theorem ownActs_singleton_of_none {i : ℕ} {l : Label} (h : act? l = none) :
    ownActs act? i [l] = [] := by
  simp [ownActs, h]

/-- The acts of a worker end with one that stands in the history, with none of its own behind
it. -/
theorem exists_lastOwn {i : ℕ} {ls : List Label} {acts : List Act} {act : Act}
    (h : ownActs act? i ls = acts ++ [act]) :
    ∃ pre l post, ls = pre ++ l :: post ∧ act? l = some (i, act) ∧
      ∀ l' ∈ post, ∀ act', act? l' ≠ some (i, act') := by
  obtain ⟨front, back, rfl, -, hback⟩ := List.filterMap_eq_append_iff.mp h
  obtain ⟨mid, l, post, rfl, -, hl, hpost⟩ := List.filterMap_eq_cons_iff.mp hback
  refine ⟨front ++ mid, l, post, (List.append_assoc front mid (l :: post)).symm, ?_, ?_⟩
  · obtain ⟨⟨j, act'⟩, hact, hown⟩ := Option.bind_eq_some_iff.mp hl
    dsimp only at hown
    split_ifs at hown with hj
    rw [hact, hj, Option.some.inj hown]
  · intro l' hl' act' hact
    have hnone := List.filterMap_eq_nil_iff.mp hpost l' hl'
    rw [hact] at hnone
    simp at hnone

/-- A step gives one worker an act, or adds workers at their start. -/
structure Staffed (prog : Program Task Pos Act) (act? : Label → Option (ℕ × Act))
    (sys : System State Label) (workers : State → List Pos) : Prop where
  acts : ∀ s l t i act, sys.step s l t → act? l = some (i, act) →
    ∃ pos pos', (workers s)[i]? = some pos ∧ prog.next pos act = some pos' ∧
      workers t = (workers s).set i pos'
  begins : ∀ s l t, sys.step s l t → act? l = none →
    ∃ tasks : List Task, workers t = workers s ++ tasks.map prog.start

/-- **Every worker follows its program**, whatever the others do in between. -/
theorem Staffed.follows {prog : Program Task Pos Act} {sys : System State Label}
    {workers : State → List Pos} (h : Staffed prog act? sys workers) {s t : State}
    {ls : List Label} (hrun : Run sys s ls t) (hs : workers s = []) {i : ℕ} {pos : Pos}
    (hpos : (workers t)[i]? = some pos) :
    (∃ task, prog.follow (prog.start task) (ownActs act? i ls) = some pos) := by
  -- a worker that is not there yet has not acted
  have hboth : (∀ i, (workers t).length ≤ i → ownActs act? i ls = []) ∧
      ∀ i pos, (workers t)[i]? = some pos →
        ∃ task, prog.follow (prog.start task) (ownActs act? i ls) = some pos := by
    clear hpos
    induction hrun with
    | nil =>
      refine ⟨fun i _ => rfl, ?_⟩
      intro i pos hpos
      rw [hs, List.getElem?_nil] at hpos
      cases hpos
    | @snoc t u ls l hrun hstep ih =>
      obtain ⟨hnone, hsome⟩ := ih
      cases hact : act? l with
      | none =>
        obtain ⟨tasks, hworkers⟩ := h.begins t l u hstep hact
        constructor
        · intro i hi
          rw [hworkers, List.length_append] at hi
          rw [ownActs_append, ownActs_singleton_of_none hact, List.append_nil]
          exact hnone i (by omega)
        · intro i pos hpos
          rw [ownActs_append, ownActs_singleton_of_none hact, List.append_nil]
          rw [hworkers, List.getElem?_append] at hpos
          split_ifs at hpos with hi
          · exact hsome i pos hpos
          · rw [hnone i (by omega)]
            rw [List.getElem?_map] at hpos
            obtain ⟨task, -, rfl⟩ := Option.map_eq_some_iff.mp hpos
            exact ⟨task, rfl⟩
      | some own =>
        obtain ⟨j, act⟩ := own
        obtain ⟨before, after, hbefore, hnext, hworkers⟩ := h.acts t l u j act hstep hact
        have hj : j < (workers t).length := (List.getElem?_eq_some_iff.mp hbefore).1
        constructor
        · intro i hi
          rw [hworkers, List.length_set] at hi
          rw [ownActs_append, ownActs_singleton_of_ne hact (by omega), List.append_nil]
          exact hnone i hi
        · intro i pos hpos
          rw [hworkers, List.getElem?_set] at hpos
          split_ifs at hpos with hji
          · subst hji
            obtain rfl := Option.some.inj hpos
            obtain ⟨task, htask⟩ := hsome j before hbefore
            refine ⟨task, ?_⟩
            rw [ownActs_append, ownActs_singleton_self hact, Program.follow_append, htask,
              Option.bind_some, Program.follow, hnext]
            rfl
          · rw [ownActs_append, ownActs_singleton_of_ne hact hji, List.append_nil]
            exact hsome i pos hpos
  exact hboth.2 i pos hpos

end Framework
