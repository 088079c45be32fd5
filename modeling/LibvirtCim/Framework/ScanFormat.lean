import LibvirtCim.Framework.Hexadecimal
import Mathlib.Data.Int.Notation

/-!
# Conversions of a format

The conversions `%d` and `%*[^c]` of `sscanf` with what they leave of the text, for formats that
go on behind them. `scanD_print` says that a number is read back from its `%d` notation.
-/

namespace Framework

/-- `%d` of `printf`. -/
def printD (n : Int32) : String := toString n.toInt

/-- `%d` of `sscanf`: the number is held in 64 bits, where it saturates, and 32 are kept. -/
def scanD (cs : List Char) : Option (Int32 × List Char) :=
  let (neg, cs) := scanSign (cs.dropWhile isSpace)
  (scanDigits cs).map fun (n : ℕ) =>
    let long := if neg then max (-(n : ℤ)) Int64.minValue.toInt else min n Int64.maxValue.toInt
    (Int32.ofInt long, cs.dropWhile Char.isDigit)

/-- `%X`, as far as it goes on. -/
def scanHex (cs : List Char) : Option (UInt32 × List Char) :=
  match scanX cs with
  | .number value rest => some (value, rest)
  | .mismatch => none
  | .endOfInput => none

/-- A literal character. -/
def scanChar (c : Char) : List Char → Option (List Char)
  | [] => none
  | d :: rest => if d = c then some rest else none

/-- `%*[^c]c`: at least one other character, and the `c` behind them. -/
def skipField (c : Char) (cs : List Char) : Option (List Char) :=
  if cs.takeWhile (· ≠ c) = [] then none else scanChar c (cs.dropWhile (· ≠ c))

theorem skipField_append {c : Char} {field : List Char} (hne : field ≠ []) (hc : c ∉ field)
    (rest : List Char) : skipField c (field ++ c :: rest) = some rest := by
  have hfield : ∀ d ∈ field, decide (d ≠ c) = true := by
    intro d hd
    rw [decide_eq_true_eq]
    rintro rfl
    exact hc hd
  have htake : (field ++ c :: rest).takeWhile (· ≠ c) = field := by
    rw [List.takeWhile_append_of_pos hfield, List.takeWhile_cons_of_neg (by simp),
      List.append_nil]
  have hdrop : (field ++ c :: rest).dropWhile (· ≠ c) = c :: rest := by
    rw [List.dropWhile_append_of_pos hfield, List.dropWhile_cons_of_neg (by simp)]
  rw [skipField, htake, if_neg hne, hdrop, scanChar, if_pos rfl]

theorem scanHex_of_digits {ds rest : List Char} (hne : ds ≠ [])
    (hds : ∀ c ∈ ds, isHexDigit c = true) (hlen : ds.length ≤ 16) (hrest : Ends rest) :
    scanHex (ds ++ rest) = some (UInt32.ofNat (ofHexDigits ds), rest) := by
  have hlt : ofHexDigits ds < UInt64.size := by
    calc ofHexDigits ds < 16 ^ ds.length := ofHexDigits_lt ds
      _ ≤ 16 ^ 16 := Nat.pow_le_pow_right (by omega) hlen
      _ = UInt64.size := rfl
  rw [scanHex, scanX_of_digits hne hds hrest]
  show some (storeU32 false (ofHexDigits ds), rest) = _
  rw [storeU32_of_lt hlt]

/-! ### `%d` there and back -/

/-- The digits of a number, and what follows them. -/
theorem dropWhile_repr (n : ℕ) {rest : List Char} (hrest : ∀ c ∈ rest.head?, c.isDigit = false) :
    (n.repr.toList ++ rest).dropWhile Char.isDigit = rest := by
  rw [List.dropWhile_append_of_pos fun c hc => isDigit_of_mem_repr hc]
  cases rest with
  | nil => rfl
  | cons c rest => rw [List.dropWhile_cons_of_neg (by rw [hrest c rfl]; exact Bool.false_ne_true)]

/-- A number without a sign, behind blanks. -/
theorem scanD_repr {blanks : List Char} (hblanks : ∀ c ∈ blanks, isSpace c = true) (n : ℕ)
    {rest : List Char} (hrest : ∀ c ∈ rest.head?, c.isDigit = false) :
    scanD (blanks ++ (n.repr.toList ++ rest)) =
      some (Int32.ofInt (min (n : ℤ) Int64.maxValue.toInt), rest) := by
  obtain ⟨d, ds, hds, hd⟩ := exists_digit_repr n
  have hdrop : (blanks ++ (n.repr.toList ++ rest)).dropWhile isSpace = n.repr.toList ++ rest := by
    rw [List.dropWhile_append_of_pos hblanks, hds, List.cons_append, List.dropWhile_cons,
      isSpace_eq_false_of_isDigit hd, if_neg Bool.false_ne_true]
  have hsign : scanSign (n.repr.toList ++ rest) = (false, n.repr.toList ++ rest) := by
    rw [hds, List.cons_append, scanSign_of_isDigit hd]
  rw [scanD, hdrop, hsign]
  dsimp only
  rw [scanDigits_repr n hrest, dropWhile_repr n hrest]
  rfl

/-- A number with a minus. -/
theorem scanD_neg (n : ℕ) {rest : List Char} (hrest : ∀ c ∈ rest.head?, c.isDigit = false) :
    scanD ('-' :: (n.repr.toList ++ rest)) =
      some (Int32.ofInt (max (-(n : ℤ)) Int64.minValue.toInt), rest) := by
  have hsign : scanSign (('-' :: (n.repr.toList ++ rest)).dropWhile isSpace) =
      (true, n.repr.toList ++ rest) := rfl
  rw [scanD, hsign]
  dsimp only
  rw [scanDigits_repr n hrest, dropWhile_repr n hrest]
  rfl

theorem toInt_bounds (n : Int32) : -2147483648 ≤ n.toInt ∧ n.toInt ≤ 2147483647 :=
  ⟨n.le_toInt, n.toInt_le⟩

/-- **A number is read back from its notation**, whatever follows that is no digit. -/
theorem scanD_print (n : Int32) {rest : List Char} (hrest : ∀ c ∈ rest.head?, c.isDigit = false) :
    scanD ((printD n).toList ++ rest) = some (n, rest) := by
  obtain ⟨hlo, hhi⟩ := toInt_bounds n
  have hmax : Int64.maxValue.toInt = 9223372036854775807 := rfl
  have hmin : Int64.minValue.toInt = -9223372036854775808 := rfl
  cases hn : n.toInt with
  | ofNat m =>
    rw [hn, Int.ofNat_eq_natCast] at hhi
    have hscan := @scanD_repr [] (fun c hc => absurd hc List.not_mem_nil) m rest hrest
    rw [printD, hn]
    show scanD (m.repr.toList ++ rest) = _
    rw [List.nil_append] at hscan
    rw [hscan, hmax, min_eq_left (by omega), ← Int.ofNat_eq_natCast, ← hn, Int32.ofInt_toInt]
  | negSucc m =>
    rw [hn] at hlo
    rw [printD, hn]
    have htext : (toString (Int.negSucc m)).toList = '-' :: (m + 1).repr.toList := by
      show ("-" ++ (m + 1).repr).toList = _
      rw [String.toList_append]
      rfl
    rw [htext, List.cons_append, scanD_neg (m + 1) hrest, hmin, max_eq_left (by omega)]
    have hvalue : -((m + 1 : ℕ) : ℤ) = n.toInt := by
      rw [hn]
      omega
    rw [hvalue, Int32.ofInt_toInt]

end Framework
