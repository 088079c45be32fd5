import LibvirtCim.Framework.Lines
import Mathlib.Data.List.Basic

/-!
# The support of VSI

`check_vsi_support` runs `lldptool` and looks for the search strings of the configuration in its
output. The search strings are kept in an array of eight, of which the last one ends the others;
lines are counted, not search strings, and the array is searched up to its end mark, which a full
array does not have.

`vsiDetected_iff` says when the answer is the one that is asked for: that every search string is
found, without a look behind the array. `vsiFits_of_separate` is the case it was written for.
-/

open Framework

namespace LibvirtCim.Service

/-- The bytes of a text. -/
def bytes (s : String) : List UInt8 := s.toUTF8.data.toList

/-- `MAX_LEN`. -/
def maxLen : ℕ := 512

/-- The search strings that are used when none are configured. -/
def defaultKeyString : List UInt8 :=
  bytes ("\x7b\tsupported forwarding mode: (0x40) reflective relay," ++
    "\tsupported capabilities: (0x7) RTE ECP VDP\x7d")

/-- The newline. -/
def newline : UInt8 := 10

/-- What separates the search strings: an opening brace, a closing brace or a comma. -/
def isDelim (c : UInt8) : Bool := c = 123 || c = 125 || c = 44

/-- What `strtok_r` finds, call by call. -/
def tokens (s : List UInt8) : List (List UInt8) := (s.splitOnP isDelim).filter (· ≠ [])

/-- The entries that are written into `searchStr`, and `count`: the loop over the tokens that are
still to come. -/
def fillSearchStr : List (List UInt8) → ℕ → List (Option (List UInt8)) × ℕ
  | [], count => ([none], count)
  | tok :: toks, count =>
    if count ≥ 7 then ([some tok], count)
    else (some tok :: (fillSearchStr toks (count + 1)).1, (fillSearchStr toks (count + 1)).2)

/-- The comparison of a line with a search string, without the last byte of the latter. -/
def begins (buff tok : List UInt8) : Bool := tok.dropLast.isPrefixOf buff

/-- The loop over `searchStr` for a line: whether it matches. Nothing is known of the entries behind
those that were written. -/
def matchLine (buff : List UInt8) : List (Option (List UInt8)) → Option Bool
  | [] => none
  | none :: _ => some false
  | some tok :: rest => if begins buff tok then some true else matchLine buff rest

/-- The loop over the output: whether VSI is supported. -/
def readOutput (searchStr : List (Option (List UInt8))) (count : ℕ) :
    List (List UInt8) → ℕ → Option Bool
  | [], _ => some false
  | buff :: rest, matched =>
    match matchLine buff searchStr with
    | none => none
    | some hit =>
      let matched := if hit then matched + 1 else matched
      if matched = count then some true else readOutput searchStr count rest matched

/-- What `check_vsi_support` reports. -/
inductive VsiStatus where
  | supported
  | noVsiSupport
  | noPipe
  deriving DecidableEq, Repr

/-- `check_vsi_support`: the configured key string, and the output of the command where it could be
run. -/
def checkVsiSupport (userSettings : Option (List UInt8)) (stream : Option (List UInt8)) :
    Option VsiStatus :=
  match stream with
  | none => some .noPipe
  | some output =>
    let filled := fillSearchStr (tokens (userSettings.getD defaultKeyString)) 0
    (readOutput filled.1 filled.2 (fgets newline maxLen output) 0).map fun supported =>
      if supported then .supported else .noVsiSupport

/-! ### What is asked for -/

/-- Every search string is found in a line of the output. -/
def AllFound (toks : List (List UInt8)) (output : List UInt8) : Prop :=
  ∀ tok ∈ toks, ∃ line ∈ lines newline output, begins line tok = true

/-- The array is not written behind its end, and the check comes to an end without reading there
and tells whether every search string is found. -/
def VsiDetected (userSettings : Option (List UInt8)) (output : List UInt8) : Prop :=
  (fillSearchStr (tokens (userSettings.getD defaultKeyString)) 0).1.length ≤ 8 ∧
  ∃ status, checkVsiSupport userSettings (some output) = some status ∧
    (status = .supported ↔ AllFound (tokens (userSettings.getD defaultKeyString)) output)

/-- A piece of the output begins with one of the search strings. -/
def hits (toks : List (List UInt8)) (piece : List UInt8) : Bool := toks.any (begins piece)

/-- When the check is right. The pieces are what is read at once, the lines where these are not
longer than the buffer. -/
def VsiFits (toks : List (List UInt8)) (output : List UInt8) : Prop :=
  let pieces := fgets newline maxLen output
  if toks.length = 0 then output ≠ []
  else if toks.length < 8 then
    -- a line with two of the search strings, and a search string in two lines
    (AllFound toks output → toks.length ≤ pieces.countP (hits toks)) ∧
    (¬ AllFound toks output → pieces.countP (hits toks) < toks.length)
  else
    (∀ piece ∈ pieces.take 7, hits (toks.take 8) piece = true) ∧
    (AllFound toks output ↔ 7 ≤ pieces.length)

/-! ### The loops -/

/-- The array is not written behind its end. -/
theorem length_fillSearchStr (toks : List (List UInt8)) {count : ℕ} (h : count ≤ 7) :
    (fillSearchStr toks count).1.length ≤ 8 - count := by
  induction toks generalizing count with
  | nil =>
    rw [fillSearchStr, List.length_singleton]
    omega
  | cons tok toks ih =>
    rw [fillSearchStr]
    split
    · rw [List.length_singleton]
      omega
    · have := @ih (count + 1) (by omega)
      rw [List.length_cons]
      omega

/-- Up to seven search strings are followed by the end mark. -/
theorem fillSearchStr_of_lt (toks : List (List UInt8)) {count : ℕ} (h : count + toks.length < 8) :
    fillSearchStr toks count = (toks.map some ++ [none], count + toks.length) := by
  induction toks generalizing count with
  | nil => rfl
  | cons tok toks ih =>
    rw [List.length_cons] at h
    rw [fillSearchStr, if_neg (by omega), ih (by omega), List.map_cons, List.cons_append,
      List.length_cons, Nat.add_right_comm, Nat.add_assoc]

/-- Eight and more fill the array. -/
theorem fillSearchStr_of_le (toks : List (List UInt8)) {count : ℕ} (hc : count ≤ 7)
    (h : 8 ≤ count + toks.length) :
    fillSearchStr toks count = ((toks.take (8 - count)).map some, 7) := by
  -- on the items; the eighth slot is the last one and the count stops at seven
  induction toks generalizing count with
  | nil =>
    rw [List.length_nil] at h
    omega
  | cons tok toks ih =>
    rw [List.length_cons] at h
    rw [fillSearchStr]
    split
    · obtain rfl : count = 7 := by omega
      rfl
    · rw [ih (by omega) (by omega),
        show 8 - count = 8 - (count + 1) + 1 by omega, List.take_succ_cons]
      rfl

theorem matchLine_ended (buff : List UInt8) (toks : List (List UInt8)) :
    matchLine buff (toks.map some ++ [none]) = some (hits toks buff) := by
  induction toks with
  | nil => rfl
  | cons tok toks ih =>
    rw [List.map_cons, List.cons_append, matchLine, ih, hits, hits, List.any_cons]
    cases begins buff tok <;> rfl

theorem matchLine_full (buff : List UInt8) (toks : List (List UInt8)) :
    matchLine buff (toks.map some) = if hits toks buff then some true else none := by
  induction toks with
  | nil => rfl
  | cons tok toks ih =>
    rw [List.map_cons, matchLine, ih, hits, hits, List.any_cons]
    cases begins buff tok <;> rfl

/-- **Lines are counted.** -/
theorem readOutput_ended {toks : List (List UInt8)} {count : ℕ} (pieces : List (List UInt8)) {m : ℕ}
    (hm : m < count) :
    readOutput (toks.map some ++ [none]) count pieces m =
      some (decide (count ≤ m + pieces.countP (hits toks))) := by
  -- on what is read; the terminator is found, so the strings are searched one by one
  induction pieces generalizing m with
  | nil =>
    rw [readOutput, List.countP_nil, decide_eq_false (by omega)]
  | cons piece pieces ih =>
    rw [readOutput, matchLine_ended, List.countP_cons]
    cases hhit : hits toks piece with
    | true =>
      simp only [if_true]
      -- the last match ends the loop before the next line is read
      by_cases hlast : m + 1 = count
      · rw [if_pos hlast, decide_eq_true (by omega)]
      · rw [if_neg hlast, ih (by omega), Nat.add_right_comm m 1, Nat.add_assoc m]
    | false =>
      simp only [Bool.false_eq_true, if_false, Nat.add_zero]
      rw [if_neg (by omega), ih hm]

/-- Without a search string every line will do. -/
theorem readOutput_nil (pieces : List (List UInt8)) :
    readOutput [none] 0 pieces 0 = some (decide (pieces ≠ [])) := by
  cases pieces <;> rfl

/-- **Without the end mark** every line has to match, up to the seventh. -/
theorem readOutput_full {toks : List (List UInt8)} (pieces : List (List UInt8)) {m : ℕ}
    (hm : m < 7) :
    readOutput (toks.map some) 7 pieces m =
      if (pieces.take (7 - m)).all (hits toks) then some (decide (7 ≤ m + pieces.length))
      else none := by
  -- on what is read; no terminator, so a piece that no item begins runs past the array
  induction pieces generalizing m with
  | nil =>
    rw [readOutput, List.take_nil, List.length_nil, decide_eq_false (by omega)]
    rfl
  | cons piece pieces ih =>
    rw [readOutput, matchLine_full, show 7 - m = 7 - (m + 1) + 1 by omega, List.take_succ_cons,
      List.length_cons, List.all_cons]
    cases hhit : hits toks piece with
    | false => rfl
    | true =>
      simp only [if_true, Bool.true_and]
      by_cases hlast : m + 1 = 7
      · rw [if_pos hlast, hlast, Nat.sub_self, List.take_zero, decide_eq_true (by omega)]
        rfl
      · rw [if_neg hlast, ih (by omega), Nat.add_assoc m, Nat.add_comm 1]

theorem fgets_eq_nil_iff (output : List UInt8) : fgets newline maxLen output = [] ↔ output = [] :=
  piecesFrom_eq_nil_iff _ output

/-- **When the check tells whether VSI is supported.** The program counts the lines that begin
with one of the keys. Fewer than eight keys are ended by a null, and the count is compared with
their number (`readOutput_ended`); from eight on there is no null, and a line that none of them
begins makes the search run off the array (`readOutput_full`). -/
theorem vsiDetected_iff (userSettings : Option (List UInt8)) (output : List UInt8) :
    VsiDetected userSettings output ↔
      VsiFits (tokens (userSettings.getD defaultKeyString)) output := by
  rw [VsiDetected, and_iff_right (length_fillSearchStr _ (Nat.zero_le 7))]
  unfold checkVsiSupport VsiFits
  generalize tokens (userSettings.getD defaultKeyString) = toks
  have hstatus : ∀ (c : Prop) [Decidable c],
      (if c then VsiStatus.supported else .noVsiSupport) = .supported ↔ c := by
    intro c _
    split <;> simp [*]
  -- three kinds of list: empty, shorter than the array, and one that fills it
  simp only
  by_cases hzero : toks.length = 0
  · -- no search string
    obtain rfl : toks = [] := List.eq_nil_of_length_eq_zero hzero
    rw [if_pos hzero, fillSearchStr, readOutput_nil]
    simp [AllFound, fgets_eq_nil_iff]
  rw [if_neg hzero]
  by_cases hlt : toks.length < 8
  · rw [if_pos hlt, fillSearchStr_of_lt toks (by omega), Nat.zero_add,
      readOutput_ended _ (by omega), Nat.zero_add]
    simp only [Option.map_some, Option.some.injEq, exists_eq_left', hstatus, decide_eq_true_eq]
    rw [← Nat.not_le]
    tauto
  -- a full array: the seven first pieces have to match before anything else is looked at
  · rw [if_neg hlt, fillSearchStr_of_le toks (by omega) (by omega), readOutput_full _ (by omega),
      Nat.sub_zero, ← List.all_eq_true]
    by_cases hfull : ((fgets newline maxLen output).take 7).all (hits (toks.take 8)) = true
    · rw [Nat.sub_zero, if_pos hfull, Nat.zero_add]
      simp only [Option.map_some, Option.some.injEq, exists_eq_left', hstatus, decide_eq_true_eq]
      exact ⟨fun h => ⟨hfull, h.symm⟩, fun h => h.2.symm⟩
    · rw [Nat.sub_zero, if_neg hfull]
      refine ⟨?_, fun h => absurd h.1 hfull⟩
      rintro ⟨_, h, -⟩
      exact absurd h (Option.some_ne_none _).symm

/-- A line that is repeated counts for a search string that is not found. -/
theorem not_vsiDetected :
    ¬ VsiDetected (some (bytes "\x7bab,cd\x7d")) (bytes "ab\nab\n") := by
  rintro ⟨-, status, hrun, hstatus⟩
  have hsupported : checkVsiSupport (some (bytes "\x7bab,cd\x7d")) (some (bytes "ab\nab\n")) =
      some .supported := by decide +kernel
  have hfound : ¬ AllFound (tokens (bytes "\x7bab,cd\x7d")) (bytes "ab\nab\n") := by
    unfold AllFound
    decide +kernel
  rw [hsupported, Option.some.injEq] at hrun
  exact hfound (hstatus.mp hrun.symm)

/-! ### Where it is right -/

/-- A search string that is in one line at most, and never in a line with another. -/
theorem countP_hits_cons {tok : List UInt8} {toks ls : List (List UInt8)}
    (hother : ∀ line ∈ ls, ∀ tok' ∈ toks, ¬ (begins line tok ∧ begins line tok'))
    (hone : ls.Pairwise fun line line' => ¬ (begins line tok ∧ begins line' tok)) :
    ls.countP (hits (tok :: toks)) =
      ls.countP (hits toks) + if ls.any (fun line => begins line tok) then 1 else 0 := by
  -- on the lines; a line that one item begins is begun by no other, and no later line by that item
  induction ls with
  | nil => rfl
  | cons line ls ih =>
    obtain ⟨hother, hrest⟩ := List.forall_mem_cons.mp hother
    obtain ⟨hone, hpairs⟩ := List.pairwise_cons.mp hone
    rw [List.countP_cons, List.countP_cons, ih hrest hpairs, List.any_cons, hits, List.any_cons]
    cases hbegins : begins line tok with
    | true =>
      have hhits : hits toks line = false := by
        rw [hits, List.any_eq_false]
        exact fun tok' htok' h => hother tok' htok' ⟨hbegins, h⟩
      have hany : ls.any (fun line => begins line tok) = false := by
        rw [List.any_eq_false]
        exact fun line' hline' h => hone line' hline' ⟨hbegins, h⟩
      rw [hhits, hany]
      rfl
    | false =>
      rw [Bool.false_or, Bool.false_or, Nat.add_right_comm]
      rfl

/-- Each line begins with one search string at most, and each search string is in one line at
most: then there are as many lines with a search string as search strings that are found. -/
theorem countP_hits {toks ls : List (List UInt8)}
    (hline : ∀ line ∈ ls, toks.Pairwise fun tok tok' => ¬ (begins line tok ∧ begins line tok'))
    (htok : ∀ tok ∈ toks, ls.Pairwise fun line line' => ¬ (begins line tok ∧ begins line' tok)) :
    ls.countP (hits toks) = toks.countP fun tok => ls.any fun line => begins line tok := by
  induction toks with
  | nil =>
    rw [List.countP_nil, List.countP_eq_zero]
    exact fun _ _ => Bool.false_ne_true
  | cons tok toks ih =>
    obtain ⟨hone, htok⟩ := List.forall_mem_cons.mp htok
    have hline' := fun line hmem => List.pairwise_cons.mp (hline line hmem)
    rw [List.countP_cons, ← ih (fun line hmem => (hline' line hmem).2) htok]
    exact countP_hits_cons (fun line hmem => (hline' line hmem).1) hone

/-- **The check is right** for up to seven search strings and lines that fit into the buffer, where
no line begins with two of the search strings and no two lines with the same one. -/
theorem vsiFits_of_separate {toks : List (List UInt8)} {output : List UInt8}
    (hpos : toks ≠ []) (hlt : toks.length < 8)
    (hshort : ∀ line ∈ lines newline output, line.length < maxLen)
    (hline : ∀ line ∈ lines newline output,
      toks.Pairwise fun tok tok' => ¬ (begins line tok ∧ begins line tok'))
    (htok : ∀ tok ∈ toks,
      (lines newline output).Pairwise fun line line' => ¬ (begins line tok ∧ begins line' tok)) :
    VsiFits toks output := by
  -- with separate items the number of matching lines is the number of items found
  have hfound : AllFound toks output ↔ toks.length ≤ (lines newline output).countP (hits toks) := by
    rw [countP_hits hline htok]
    refine ⟨fun h =>
      Nat.le_of_eq (List.countP_eq_length.mpr fun tok hmem => ?_).symm, fun h tok hmem => ?_⟩
    · exact List.any_eq_true.mpr (h tok hmem)
    · have hall := List.countP_eq_length.mp (Nat.le_antisymm List.countP_le_length h)
      exact List.any_eq_true.mp (hall tok hmem)
  have hzero : toks.length ≠ 0 := fun h => hpos (List.eq_nil_of_length_eq_zero h)
  -- the lines are short, so no line is read in two pieces
  simp only [VsiFits, fgets_eq_lines hshort, if_neg hzero, if_pos hlt]
  exact ⟨hfound.mp, fun h => Nat.lt_of_not_le fun hle => h (hfound.mpr hle)⟩

end LibvirtCim.Service
