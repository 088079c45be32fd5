import Mathlib.Data.List.Basic

/-!
# A text, line by line

`getline` reads a text line by line, `fgets` in pieces that end with a line or when the buffer is
full. `fgets_eq_lines` says that the pieces are the lines where each line fits into the buffer.
-/

namespace Framework

variable {α : Type} [DecidableEq α]

/-- The pieces of a text: each ends behind a newline, or where it is full. `acc` is the piece that
was begun. -/
def piecesFrom (newline : α) (full : List α → Bool) : List α → List α → List (List α)
  | acc, [] => if acc = [] then [] else [acc]
  | acc, c :: cs =>
    if c = newline ∨ full (acc ++ [c]) = true then
      (acc ++ [c]) :: piecesFrom newline full [] cs
    else piecesFrom newline full (acc ++ [c]) cs

/-- The lines of a text, as `getline` reads them: with their newlines. -/
def lines (newline : α) (s : List α) : List (List α) := piecesFrom newline (fun _ => false) [] s

/-- What `fgets` reads into a buffer of `size`, which also holds the end of the string. -/
def fgets (newline : α) (size : ℕ) (s : List α) : List (List α) :=
  piecesFrom newline (fun acc => acc.length + 1 = size) [] s

variable {newline : α}

theorem piecesFrom_eq_nil_iff (full : List α → Bool) (s : List α) :
    piecesFrom newline full [] s = [] ↔ s = [] := by
  -- a character gives a piece, at the end of the line or at the end of the text
  cases s with
  | nil => exact iff_of_true rfl rfl
  | cons c cs =>
    refine iff_of_false ?_ (List.cons_ne_nil _ _)
    suffices h : ∀ (acc s : List α), acc ≠ [] → piecesFrom newline full acc s ≠ [] by
      rw [piecesFrom]
      split
      · exact List.cons_ne_nil _ _
      · exact h _ _ (List.append_ne_nil_of_right_ne_nil _ (List.cons_ne_nil _ _))
    -- a piece that is begun is never lost
    intro acc s
    induction s generalizing acc with
    | nil =>
      intro hacc
      rw [piecesFrom, if_neg hacc]
      exact List.cons_ne_nil _ _
    | cons c cs ih =>
      intro _
      rw [piecesFrom]
      split
      · exact List.cons_ne_nil _ _
      · exact ih _ (List.append_ne_nil_of_right_ne_nil _ (List.cons_ne_nil _ _))

/-- **The first line** ends at the first newline. -/
theorem lines_append_newline {line : List α} (h : newline ∉ line) (rest : List α) :
    lines newline (line ++ newline :: rest) = (line ++ [newline]) :: lines newline rest := by
  suffices hacc : ∀ acc, piecesFrom newline (fun _ => false) acc (line ++ newline :: rest) =
      (acc ++ (line ++ [newline])) :: lines newline rest from hacc []
  -- on the line; the newline ends the piece that is being read
  induction line with
  | nil =>
    intro acc
    rw [List.nil_append, piecesFrom, if_pos (.inl rfl)]
    rfl
  | cons c line ih =>
    rw [List.mem_cons, not_or] at h
    intro acc
    have hc : ¬ (c = newline ∨ false = true) := by
      rintro (rfl | hfalse)
      · exact h.1 rfl
      · cases hfalse
    rw [List.cons_append, piecesFrom, if_neg hc, ih h.2, List.append_assoc]
    rfl

/-- A line that was begun goes on with the text. -/
theorem exists_longer_line (acc : List α) (c : α) (cs : List α) :
    ∃ line ∈ piecesFrom newline (fun _ => false) acc (c :: cs), acc.length < line.length := by
  -- on what follows; the piece begun is at least one longer
  induction cs generalizing acc c with
  | nil =>
    refine ⟨acc ++ [c], ?_, by rw [List.length_append, List.length_singleton]; omega⟩
    rw [piecesFrom]
    split
    · exact List.mem_cons_self
    · rw [piecesFrom, if_neg (List.append_ne_nil_of_right_ne_nil _ (List.cons_ne_nil _ _))]
      exact List.mem_cons_self
  | cons d cs ih =>
    rw [piecesFrom]
    split
    · exact ⟨acc ++ [c], List.mem_cons_self, by
        rw [List.length_append, List.length_singleton]; omega⟩
    · obtain ⟨line, hline, hlen⟩ := ih (acc ++ [c]) d
      rw [List.length_append, List.length_singleton] at hlen
      exact ⟨line, hline, by omega⟩

/-- **The pieces are the lines**, where every line fits into the buffer. -/
theorem fgets_eq_lines {size : ℕ} {s : List α} (h : ∀ line ∈ lines newline s, line.length < size) :
    fgets newline size s = lines newline s := by
  unfold fgets lines at *
  generalize hacc : ([] : List α) = acc at *
  clear hacc
  -- on the text, with the piece that is being read
  induction s generalizing acc with
  | nil => rfl
  | cons c cs ih =>
    by_cases hc : c = newline
    · rw [piecesFrom, if_pos (.inl hc)] at h ⊢
      rw [piecesFrom, if_pos (.inl hc),
        ih [] fun line hline => h line (List.mem_cons_of_mem _ hline)]
    have hline : ¬ (c = newline ∨ false = true) := fun h => h.elim hc Bool.noConfusion
    rw [piecesFrom, if_neg hline] at h
    rw [piecesFrom, piecesFrom, if_neg hline]
    by_cases hfull : (acc ++ [c]).length + 1 = size
    · -- the buffer is full, so the text ends here
      rw [if_pos (.inr (decide_eq_true hfull))]
      cases cs with
      | nil => rw [piecesFrom, if_pos rfl, piecesFrom,
          if_neg (List.append_ne_nil_of_right_ne_nil _ (List.cons_ne_nil _ _))]
      | cons d ds =>
        obtain ⟨line, hmem, hlen⟩ := @exists_longer_line _ _ newline (acc ++ [c]) d ds
        have := h line hmem
        omega
    · rw [if_neg (fun h => h.elim hc fun h => hfull (of_decide_eq_true h)), ih _ h]

end Framework
