import Mathlib.Data.List.TakeWhile
import Mathlib.Data.Int.Notation
import Mathlib.Tactic.IntervalCases
import Mathlib.Data.Nat.Notation

/-!
# Scanning decimal numbers

What the `scanf` family does with a decimal conversion, and that it inverts the
decimal notation of a number. `scanDigits` reads the digits at the head of a text;
`scanU64` is the unsigned 64-bit conversion with its white space, sign and
saturation, and `scanI32` the signed one that also reads octal and hexadecimal.
-/

namespace Framework

/-- The number whose digits stand at the head of a text, if there is one. -/
def scanDigits (cs : List Char) : Option ℕ :=
  let ds := cs.takeWhile Char.isDigit
  if ds = [] then none else some (Nat.ofDigitChars 10 ds 0)

/-- `isspace` in the C locale. -/
def isSpace (c : Char) : Bool :=
  c = ' ' || (9 ≤ c.toNat && c.toNat ≤ 13)

/-- An optional sign: whether it is a minus, and what follows it. -/
def scanSign : List Char → Bool × List Char
  | '-' :: cs => (true, cs)
  | '+' :: cs => (false, cs)
  | cs => (false, cs)

/-- The unsigned 64-bit conversion: white space is skipped, a minus negates modulo
`2 ^ 64`, a number that does not fit gives the largest value. -/
def scanU64 (s : String) : Option UInt64 :=
  let (neg, cs) := scanSign (s.toList.dropWhile isSpace)
  (scanDigits cs).map fun n =>
    if n < UInt64.size then if neg then -UInt64.ofNat n else UInt64.ofNat n
    else UInt64.ofNat (UInt64.size - 1)

/-- The digits of a base at the head of a text, as a number. -/
def scanBase (base : ℕ) (cs : List Char) : Option ℕ :=
  let value (c : Char) : Option ℕ :=
    if c.isDigit then some (c.toNat - '0'.toNat)
    else if 'a' ≤ c.toLower ∧ c.toLower ≤ 'f' then some (c.toLower.toNat - 'a'.toNat + 10)
    else none
  let ds := (cs.takeWhile fun c => (value c).any (· < base)).filterMap value
  if ds = [] then none else some (ds.foldl (fun n d => base * n + d) 0)

/-- The signed conversion with a base prefix, into a 32-bit integer: the number is
held in 64 bits first, where it saturates. -/
def scanI32 (s : String) : Option ℤ :=
  let (neg, cs) := scanSign (s.toList.dropWhile isSpace)
  let n? := match cs with
    | '0' :: x :: cs' => if x.toLower = 'x' then scanBase 16 cs' else scanBase 8 cs
    | _ => scanBase 10 cs
  n?.map fun n =>
    let long := if neg then max (-(n : ℤ)) Int64.minValue.toInt else min n Int64.maxValue.toInt
    (Int32.ofInt long).toInt

/-- `atoi`: a number as `strtol` reads it in base ten, of which 32 bits are kept. -/
def atoi (s : String) : ℤ :=
  let (neg, cs) := scanSign (s.toList.dropWhile isSpace)
  let n : ℤ := (scanDigits cs).getD 0
  let long := if neg then max (-n) Int64.minValue.toInt else min n Int64.maxValue.toInt
  (Int32.ofInt long).toInt

theorem isDigit_of_mem_repr {n : ℕ} {c : Char} (h : c ∈ n.repr.toList) : c.isDigit = true := by
  rw [Nat.toList_repr] at h
  exact Nat.isDigit_of_mem_toDigits (by decide) (by decide) h

/-- The digits of a number are read back, whatever non-digit follows. -/
theorem scanDigits_repr (n : ℕ) {rest : List Char}
    (hrest : ∀ c ∈ rest.head?, c.isDigit = false) :
    scanDigits (n.repr.toList ++ rest) = some n := by
  have htake : (n.repr.toList ++ rest).takeWhile Char.isDigit = Nat.toDigits 10 n := by
    rw [List.takeWhile_append_of_pos fun c hc => isDigit_of_mem_repr hc, Nat.toList_repr]
    cases rest with
    | nil => simp
    | cons c rest => simp [hrest c rfl]
  rw [scanDigits, htake, if_neg Nat.toDigits_ne_nil, Nat.ofDigitChars_ten_toDigits]

/-- A digit is neither white space nor a sign. -/
theorem isSpace_eq_false_of_isDigit {c : Char} (h : c.isDigit = true) : isSpace c = false := by
  have hc : 48 ≤ c.toNat ∧ c.toNat ≤ 57 := by
    simp only [Char.isDigit, Bool.and_eq_true, decide_eq_true_eq] at h
    exact ⟨UInt32.le_iff_toNat_le.mp h.1, UInt32.le_iff_toNat_le.mp h.2⟩
  have hne : c ≠ ' ' := by
    rintro rfl
    exact absurd hc.1 (by decide)
  simp [isSpace, hne]
  omega

theorem scanSign_of_isDigit {c : Char} {cs : List Char} (h : c.isDigit = true) :
    scanSign (c :: cs) = (false, c :: cs) := by
  unfold scanSign
  split
  · next heq =>
    obtain ⟨rfl, -⟩ := List.cons.inj heq
    exact absurd h (by decide)
  · next heq =>
    obtain ⟨rfl, -⟩ := List.cons.inj heq
    exact absurd h (by decide)
  · rfl

/-- The notation of a number starts with a digit. -/
theorem exists_digit_repr (n : ℕ) : ∃ d ds, n.repr.toList = d :: ds ∧ d.isDigit = true := by
  have hcons : ∃ d ds, n.repr.toList = d :: ds := by
    rw [Nat.toList_repr]
    exact List.exists_cons_of_ne_nil Nat.toDigits_ne_nil
  obtain ⟨d, ds, hds⟩ := hcons
  exact ⟨d, ds, hds, isDigit_of_mem_repr (n := n) (by simp [hds])⟩

/-- **Every 64-bit value survives its decimal notation.** -/
theorem scanU64_toString (n : UInt64) : scanU64 (toString n.toNat) = some n := by
  obtain ⟨d, ds, hds, hd⟩ := exists_digit_repr n.toNat
  have hscan : scanDigits (d :: ds) = some n.toNat := by
    rw [← hds, ← List.append_nil n.toNat.repr.toList]
    exact scanDigits_repr n.toNat (by simp)
  have hlt : n.toNat < UInt64.size := n.toNat_lt
  change scanU64 n.toNat.repr = some n
  rw [scanU64, hds, List.dropWhile_cons, isSpace_eq_false_of_isDigit hd, if_neg Bool.false_ne_true,
    scanSign_of_isDigit hd]
  dsimp only
  rw [hscan, Option.map_some, if_pos hlt, if_neg Bool.false_ne_true, UInt64.ofNat_toNat]

@[simp] theorem scanU64_repr (n : UInt64) : scanU64 n.toNat.repr = some n :=
  scanU64_toString n

/-! ### The signed conversion -/

/-- Digits of a number that fits are converted to it. -/
theorem atoi_of_digits {s : String} (hne : s ≠ "") (hdigits : ∀ c ∈ s.toList, c.isDigit = true)
    (hfits : Nat.ofDigitChars 10 s.toList 0 < 2 ^ 31) :
    atoi s = Nat.ofDigitChars 10 s.toList 0 := by
  obtain ⟨n, hn⟩ : ∃ n, Nat.ofDigitChars 10 s.toList 0 = n := ⟨_, rfl⟩
  obtain ⟨d, ds, hds⟩ : ∃ d ds, s.toList = d :: ds := by
    apply List.exists_cons_of_ne_nil
    intro hnil
    exact hne (String.toList_inj.mp hnil)
  have hd : d.isDigit = true := hdigits d (by rw [hds]; exact List.mem_cons_self)
  have hscan : scanDigits (d :: ds) = some n := by
    rw [← hds, scanDigits, List.takeWhile_eq_self_iff.mpr hdigits, hds, if_neg (by simp), ← hds, hn]
  rw [hn] at hfits ⊢
  unfold atoi
  rw [hds, List.dropWhile_cons, isSpace_eq_false_of_isDigit hd, if_neg Bool.false_ne_true,
    scanSign_of_isDigit hd]
  dsimp only
  rw [hscan, if_neg Bool.false_ne_true, Option.getD_some]
  have hmax : Int64.maxValue.toInt = 9223372036854775807 := rfl
  rw [min_eq_left (by omega), Int32.toInt_ofInt_of_le (by omega) (by omega)]

/-- No digit stands behind a leading zero: such a number would not be octal. -/
theorem toDigits_ne_zero_cons (n : ℕ) (x : Char) (cs : List Char) :
    Nat.toDigits 10 n ≠ '0' :: x :: cs := by
  have hhead : ∀ n, 0 < n → (Nat.toDigits 10 n).head? ≠ some '0' := by
    intro n hpos
    induction n using Nat.strong_induction_on with
    | _ n ih =>
      rw [Nat.toDigits_eq_if (by decide)]
      split
      · next hlt =>
        have hdigit : n.digitChar ≠ '0' := by
          interval_cases n <;> decide
        simpa using hdigit
      · next hle =>
        -- the last digit is not the first one
        have hfirst := ih (n / 10) (by omega) (by omega)
        obtain ⟨d, ds, hds⟩ :=
          List.exists_cons_of_ne_nil (Nat.toDigits_ne_nil (b := 10) (n := n / 10))
        rw [hds] at hfirst ⊢
        exact hfirst
  intro h
  by_cases hpos : 0 < n
  · apply hhead n hpos
    rw [h]
    rfl
  · obtain rfl : n = 0 := by omega
    rw [Nat.toDigits_zero] at h
    cases h

/-- A filter that keeps every element. -/
theorem filterMap_eq_map_of_some {α β : Type} {f : α → Option β} {g : α → β} {l : List α}
    (h : ∀ a ∈ l, f a = some (g a)) : l.filterMap f = l.map g := by
  induction l with
  | nil => rfl
  | cons a l ih =>
    rw [List.forall_mem_cons] at h
    rw [List.filterMap_cons, h.1, ih h.2, List.map_cons]

/-- The number that digits make in base ten. -/
theorem scanBase_digits {cs : List Char} (hne : cs ≠ []) (hdigit : ∀ c ∈ cs, c.isDigit = true) :
    scanBase 10 cs = some (Nat.ofDigitChars 10 cs 0) := by
  have hvalue : ∀ c ∈ cs, c.toNat - '0'.toNat < 10 := by
    intro c hc
    have hrange := hdigit c hc
    simp only [Char.isDigit, Bool.and_eq_true, decide_eq_true_eq] at hrange
    have hle : c.toNat ≤ 57 := UInt32.le_iff_toNat_le.mp hrange.2
    show c.toNat - 48 < 10
    omega
  unfold scanBase
  dsimp only
  rw [List.takeWhile_eq_self_iff.mpr]
  · have hmap : cs.filterMap (fun c : Char =>
        if c.isDigit then some (c.toNat - '0'.toNat)
        else if 'a' ≤ c.toLower ∧ c.toLower ≤ 'f' then some (c.toLower.toNat - 'a'.toNat + 10)
        else none) = cs.map fun c => c.toNat - '0'.toNat := by
      apply filterMap_eq_map_of_some
      intro c hc
      rw [if_pos (hdigit c hc)]
    rw [hmap, if_neg (by simpa using hne), List.foldl_map]
    rfl
  · intro c hc
    rw [if_pos (hdigit c hc)]
    simpa using hvalue c hc

/-- **What the signed conversion makes of a decimal notation**: a number beyond 64 bits is
cut to the largest one, and what is left to 32 bits. -/
theorem scanI32_repr (n : ℕ) :
    scanI32 n.repr = some (Int32.ofInt (min (n : ℤ) Int64.maxValue.toInt)).toInt := by
  obtain ⟨d, ds, hds, hd⟩ := exists_digit_repr n
  have hbase : scanBase 10 (d :: ds) = some n := by
    rw [← hds, scanBase_digits (by simp [hds]) fun c => isDigit_of_mem_repr, Nat.toList_repr,
      Nat.ofDigitChars_ten_toDigits]
  rw [scanI32, hds, List.dropWhile_cons, isSpace_eq_false_of_isDigit hd, if_neg Bool.false_ne_true,
    scanSign_of_isDigit hd]
  simp only [Bool.false_eq_true, if_false]
  split
  · next x cs heq =>
    -- a leading zero would start an octal or a hexadecimal number
    rw [← hds, Nat.toList_repr] at heq
    exact absurd heq (toDigits_ne_zero_cons n x cs)
  · rw [hbase]
    rfl

end Framework
