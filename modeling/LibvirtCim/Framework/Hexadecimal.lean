import LibvirtCim.Framework.Decimal
import Mathlib.Data.Option.Basic
import Mathlib.Data.List.Induction

/-!
# Scanning hexadecimal numbers

The `%x` conversion of `sscanf`, and a row of them with a literal `:` between each two, as it is
written in a format such as `"%x:%x:%x"`.

The conversion accepts more than digits: blanks before the number, a sign, the prefix `0x`, and
digits without end, of which the number is stored in 32 bits. `scanX_of_digits` is the case
without any of these, and `scanHexFields_intercalate` a whole row of it.
-/

namespace Framework

/-! ### Digits -/

/-- The value of a hexadecimal digit. -/
def hexDigit (c : Char) : Option ℕ :=
  if c.isDigit then some (c.toNat - '0'.toNat)
  else if 'a' ≤ c.toLower ∧ c.toLower ≤ 'f' then some (c.toLower.toNat - 'a'.toNat + 10)
  else none

/-- The number the hexadecimal digits of a text stand for. -/
def ofHexDigits (ds : List Char) : ℕ :=
  (ds.filterMap hexDigit).foldl (fun n d => 16 * n + d) 0

theorem hexDigit_lt {c : Char} {d : ℕ} (h : hexDigit c = some d) : d < 16 := by
  unfold hexDigit at h
  split_ifs at h with hdigit hletter
  · obtain rfl := Option.some.inj h
    simp only [Char.isDigit, Bool.and_eq_true, decide_eq_true_eq] at hdigit
    have hle : c.toNat ≤ 57 := UInt32.le_iff_toNat_le.mp hdigit.2
    have hzero : '0'.toNat = 48 := rfl
    omega
  · obtain rfl := Option.some.inj h
    have hle : c.toLower.toNat ≤ 102 := UInt32.le_iff_toNat_le.mp hletter.2
    have ha : 'a'.toNat = 97 := rfl
    omega

theorem ofHexDigits_append (ds : List Char) (c : Char) :
    ofHexDigits (ds ++ [c]) =
      ((hexDigit c).map (16 * ofHexDigits ds + ·)).getD (ofHexDigits ds) := by
  unfold ofHexDigits
  rw [List.filterMap_append, List.foldl_append]
  cases hc : hexDigit c with
  | none => rw [List.filterMap_cons_none hc]; rfl
  | some d => rw [List.filterMap_cons_some hc]; rfl

/-- Digits stand for a number of so many digits. -/
theorem ofHexDigits_lt (ds : List Char) : ofHexDigits ds < 16 ^ ds.length := by
  induction ds using List.reverseRecOn with
  | nil => exact Nat.one_pos
  | append_singleton ds c ih =>
    rw [ofHexDigits_append, List.length_append, List.length_singleton, Nat.pow_succ]
    cases hc : hexDigit c with
    | none => exact ih.trans_le (Nat.le_mul_of_pos_right _ (by omega))
    | some d =>
      have hd : d < 16 := hexDigit_lt hc
      change 16 * ofHexDigits ds + d < 16 ^ ds.length * 16
      omega

/-! ### `%x` -/

/-- What a conversion finds: a number and what follows it, something else, or nothing. -/
inductive Scanned
  | number (value : UInt32) (rest : List Char)
  | mismatch
  | endOfInput
  deriving DecidableEq, Repr

/-- The prefix of a hexadecimal number: whether it is there, and what follows it. -/
def scanHexPrefix : List Char → Bool × List Char
  | '0' :: x :: cs => if x.toLower = 'x' then (true, cs) else (false, '0' :: x :: cs)
  | cs => (false, cs)

/-- A number as it is stored: `strtoul` holds it in 64 bits, where it saturates. -/
def storeU32 (neg : Bool) (n : ℕ) : UInt32 :=
  UInt64.toUInt32 <|
    if n < UInt64.size then if neg then -UInt64.ofNat n else UInt64.ofNat n
    else UInt64.ofNat (UInt64.size - 1)

/-- `isxdigit`. -/
def isHexDigit (c : Char) : Bool := (hexDigit c).isSome

/-- `%x`. A prefix without digits is the number zero. -/
def scanX (cs : List Char) : Scanned :=
  if cs.all isSpace then .endOfInput
  else
    let (neg, unsigned) := scanSign (cs.dropWhile isSpace)
    let (based, digits) := scanHexPrefix unsigned
    let ds := digits.takeWhile isHexDigit
    if ds = [] ∧ based = false then .mismatch
    else .number (storeU32 neg (ofHexDigits ds)) (digits.dropWhile isHexDigit)

/-- The numbers that a row of `%x` reads, with a `:` before each but the first. -/
def scanHexFields : ℕ → List Char → List UInt32
  | 0, _ => []
  | k + 1, cs =>
    match scanX cs with
    | .number value (':' :: rest) => value :: scanHexFields k rest
    | .number value _ => [value]
    | .mismatch => []
    | .endOfInput => []

theorem length_scanHexFields_le (k : ℕ) (cs : List Char) : (scanHexFields k cs).length ≤ k := by
  induction k generalizing cs with
  | zero => exact Nat.le_refl 0
  | succ k ih =>
    unfold scanHexFields
    split
    · exact Nat.succ_le_succ (ih _)
    · exact Nat.succ_le_succ (Nat.zero_le k)
    · exact Nat.zero_le _
    · exact Nat.zero_le _

/-! ### Digits and what is none -/

theorem toNat_le_of_isHexDigit {c : Char} (h : isHexDigit c = true) : c.toNat ≤ 102 := by
  unfold isHexDigit hexDigit at h
  split_ifs at h with hdigit hletter
  · simp only [Char.isDigit, Bool.and_eq_true, decide_eq_true_eq] at hdigit
    exact (UInt32.le_iff_toNat_le.mp hdigit.2).trans (by decide)
  · have hlow : c.toLower.toNat ≤ 102 := UInt32.le_iff_toNat_le.mp hletter.2
    unfold Char.toLower at hlow
    split at hlow
    · next hupper =>
      have hc : c.toNat ≤ 90 := UInt32.le_iff_toNat_le.mp hupper.2
      omega
    · exact hlow
  · cases h

/-- A hexadecimal digit is no blank, no sign and no `x`. -/
theorem plain_of_isHexDigit {c : Char} (h : isHexDigit c = true) :
    isSpace c = false ∧ c ≠ '-' ∧ c ≠ '+' ∧ c.toLower ≠ 'x' := by
  have hall : ∀ n : Fin 103, isHexDigit (Char.ofNat n) = true →
      isSpace (Char.ofNat n) = false ∧ Char.ofNat n ≠ '-' ∧ Char.ofNat n ≠ '+' ∧
        (Char.ofNat n).toLower ≠ 'x' := by decide +kernel
  have hc := hall ⟨c.toNat, Nat.lt_succ_of_le (toNat_le_of_isHexDigit h)⟩
  dsimp only at hc
  rw [Char.ofNat_toNat] at hc
  exact hc h

/-- What cannot follow a number without being part of it. -/
def Ends (rest : List Char) : Prop :=
  ∀ c ∈ rest.head?, isHexDigit c = false ∧ c.toLower ≠ 'x'

theorem takeWhile_digits {ds rest : List Char} (hds : ∀ c ∈ ds, isHexDigit c = true)
    (hrest : Ends rest) :
    (ds ++ rest).takeWhile isHexDigit = ds ∧ (ds ++ rest).dropWhile isHexDigit = rest := by
  rw [List.takeWhile_append_of_pos hds, List.dropWhile_append_of_pos hds]
  cases rest with
  | nil => simp
  | cons c rest =>
    rw [List.takeWhile_cons, List.dropWhile_cons, (hrest c rfl).1]
    simp

/-! ### What a number is -/

/-- The texts that `%x` reads: blanks, a sign and a prefix may stand before the digits, which only
a prefix can do without. -/
def HexNumber (text : List Char) : Prop :=
  ∃ blanks sign pre ds, text = blanks ++ (sign ++ (pre ++ ds)) ∧
    (∀ c ∈ blanks, isSpace c = true) ∧ (sign = [] ∨ sign = ['-'] ∨ sign = ['+']) ∧
    (pre = [] ∧ ds ≠ [] ∨ ∃ x, x.toLower = 'x' ∧ pre = ['0', x]) ∧
    ∀ c ∈ ds, isHexDigit c = true

theorem scanSign_spec (cs : List Char) :
    ∃ sign, cs = sign ++ (scanSign cs).2 ∧ (sign = [] ∨ sign = ['-'] ∨ sign = ['+']) := by
  unfold scanSign
  split
  · exact ⟨['-'], rfl, .inr (.inl rfl)⟩
  · exact ⟨['+'], rfl, .inr (.inr rfl)⟩
  · exact ⟨[], rfl, .inl rfl⟩

theorem scanHexPrefix_spec (cs : List Char) :
    ∃ pre, cs = pre ++ (scanHexPrefix cs).2 ∧
      ((scanHexPrefix cs).1 = false ∧ pre = [] ∨
        (scanHexPrefix cs).1 = true ∧ ∃ x, x.toLower = 'x' ∧ pre = ['0', x]) := by
  unfold scanHexPrefix
  split
  · next x cs =>
    split_ifs with hx
    · exact ⟨['0', x], rfl, .inr ⟨rfl, x, hx, rfl⟩⟩
    · exact ⟨[], rfl, .inl ⟨rfl, rfl⟩⟩
  · exact ⟨[], rfl, .inl ⟨rfl, rfl⟩⟩

/-- A number that is found is the text before what follows it. -/
theorem hexNumber_of_scanX {cs rest : List Char} {value : UInt32}
    (h : scanX cs = .number value rest) : ∃ text, cs = text ++ rest ∧ HexNumber text := by
  unfold scanX at h
  split_ifs at h
  -- what `%x` reads: blanks, a sign, a prefix, then the digits
  obtain ⟨sign, hsign, hsign'⟩ := scanSign_spec (cs.dropWhile isSpace)
  obtain ⟨pre, hpre, hpre'⟩ := scanHexPrefix_spec (scanSign (cs.dropWhile isSpace)).2
  dsimp only at h
  split_ifs at h with hdigits
  obtain ⟨-, rfl⟩ := Scanned.number.inj h
  generalize (scanHexPrefix (scanSign (cs.dropWhile isSpace)).2).2 = digits at *
  -- the number is what stands before the first character that is no digit
  refine ⟨cs.takeWhile isSpace ++ (sign ++ (pre ++ digits.takeWhile isHexDigit)), ?_, _, sign, pre,
    _, rfl, fun c => List.mem_takeWhile_imp, hsign', ?_, fun c => List.mem_takeWhile_imp⟩
  · calc cs = cs.takeWhile isSpace ++ cs.dropWhile isSpace := List.takeWhile_append_dropWhile.symm
      _ = cs.takeWhile isSpace ++ (sign ++ (pre ++ digits)) := by rw [← hpre, ← hsign]
      _ = _ := by simp only [List.append_assoc, List.takeWhile_append_dropWhile]
  · obtain ⟨hbased, hnil⟩ | ⟨-, hx⟩ := hpre'
    -- without a prefix at least one digit was read
    · exact .inl ⟨hnil, fun hds => hdigits ⟨hds, hbased⟩⟩
    · exact .inr hx

/-- Blanks and a sign before a digit. -/
theorem scanX_of_digit {blanks sign unsigned : List Char} (hblanks : ∀ c ∈ blanks, isSpace c = true)
    (hsign : sign = [] ∨ sign = ['-'] ∨ sign = ['+'])
    (hdigit : ∃ u us, unsigned = u :: us ∧ isHexDigit u = true) :
    scanX (blanks ++ (sign ++ unsigned)) =
      .number (storeU32 (sign = ['-'])
          (ofHexDigits ((scanHexPrefix unsigned).2.takeWhile isHexDigit)))
        ((scanHexPrefix unsigned).2.dropWhile isHexDigit) := by
  obtain ⟨u, us, hunsigned, hu⟩ := hdigit
  obtain ⟨hspace, hminus, hplus, -⟩ := plain_of_isHexDigit hu
  -- the first character that is no blank
  obtain ⟨c, cs, hcons, hc⟩ : ∃ c cs, sign ++ unsigned = c :: cs ∧ isSpace c = false := by
    rw [hunsigned]
    obtain rfl | rfl | rfl := hsign
    · exact ⟨u, us, rfl, hspace⟩
    · exact ⟨'-', u :: us, rfl, rfl⟩
    · exact ⟨'+', u :: us, rfl, rfl⟩
  have hall : (blanks ++ (sign ++ unsigned)).all isSpace = false := by
    rw [List.all_append, hcons, List.all_cons, hc, Bool.false_and, Bool.and_false]
  have hdrop : (blanks ++ (sign ++ unsigned)).dropWhile isSpace = sign ++ unsigned := by
    rw [List.dropWhile_append_of_pos hblanks, hcons, List.dropWhile_cons, hc,
      if_neg Bool.false_ne_true]
  have hscan : scanSign (sign ++ unsigned) = (decide (sign = ['-']), unsigned) := by
    -- a sign is taken off, and a digit is none
    obtain rfl | rfl | rfl := hsign
    · rw [List.nil_append, hunsigned]
      unfold scanSign
      split
      · next heq => exact absurd (List.cons.inj heq).1 hminus
      · next heq => exact absurd (List.cons.inj heq).1 hplus
      · rfl
    · rfl
    · rfl
  -- without a prefix the first digit is still there
  have hfound : ¬ ((scanHexPrefix unsigned).2.takeWhile isHexDigit = [] ∧
      (scanHexPrefix unsigned).1 = false) := by
    rintro ⟨hnil, hbased⟩
    obtain ⟨pre, hpre, ⟨-, rfl⟩ | ⟨htrue, -⟩⟩ := scanHexPrefix_spec unsigned
    · rw [← List.nil_append (scanHexPrefix unsigned).2, ← hpre, hunsigned, List.takeWhile_cons, hu,
        if_pos rfl] at hnil
      cases hnil
    · rw [hbased] at htrue
      cases htrue
  unfold scanX
  -- the branches of the scan: not at the end, and a number was found
  rw [hall, hdrop, hscan, if_neg Bool.false_ne_true]
  dsimp only
  rw [if_neg hfound]

/-- Digits have no prefix. -/
theorem scanHexPrefix_of_digits {ds rest : List Char} (hne : ds ≠ [])
    (hds : ∀ c ∈ ds, isHexDigit c = true) (hrest : Ends rest) :
    scanHexPrefix (ds ++ rest) = (false, ds ++ rest) := by
  unfold scanHexPrefix
  split
  · next x cs heq =>
    -- what follows a leading zero is another digit, or ends the digits
    have hx : x.toLower ≠ 'x' := by
      obtain ⟨d, ds, rfl⟩ := List.exists_cons_of_ne_nil hne
      obtain ⟨-, htail⟩ := List.cons.inj heq
      cases ds with
      | nil =>
        apply (hrest x _).2
        rw [show rest = x :: cs from htail]
        rfl
      | cons d' ds =>
        obtain ⟨rfl, -⟩ := List.cons.inj htail
        exact (plain_of_isHexDigit (hds d' (by simp))).2.2.2
    rw [if_neg hx, heq]
  · rfl

/-- **Digits are read as their number.** -/
theorem scanX_of_digits {ds rest : List Char} (hne : ds ≠ [])
    (hds : ∀ c ∈ ds, isHexDigit c = true) (hrest : Ends rest) :
    scanX (ds ++ rest) = .number (storeU32 false (ofHexDigits ds)) rest := by
  obtain ⟨htake, hdrop⟩ := takeWhile_digits hds hrest
  have hdigit : ∃ u us, ds ++ rest = u :: us ∧ isHexDigit u = true := by
    obtain ⟨d, ds, rfl⟩ := List.exists_cons_of_ne_nil hne
    exact ⟨d, ds ++ rest, rfl, hds d List.mem_cons_self⟩
  have hscan := scanX_of_digit (fun c hc => absurd hc List.not_mem_nil) (.inl rfl) hdigit
  rw [scanHexPrefix_of_digits hne hds hrest] at hscan
  rw [htake, hdrop] at hscan
  exact hscan

/-- **A number is read, whatever follows it**, and it ends before what is no part of a number. -/
theorem scanX_of_hexNumber {text : List Char} (h : HexNumber text) (rest : List Char) :
    ∃ value rest', scanX (text ++ rest) = .number value rest' ∧ (Ends rest → rest' = rest) := by
  obtain ⟨blanks, sign, pre, ds, rfl, hblanks, hsign, hpre, hds⟩ := h
  -- a number shows a digit after its sign: its own first one, or the zero of the prefix
  have hdigit : ∃ u us, pre ++ (ds ++ rest) = u :: us ∧ isHexDigit u = true := by
    obtain ⟨rfl, hne⟩ | ⟨x, -, rfl⟩ := hpre
    · obtain ⟨d, ds, rfl⟩ := List.exists_cons_of_ne_nil hne
      exact ⟨d, ds ++ rest, rfl, hds d List.mem_cons_self⟩
    · exact ⟨'0', x :: (ds ++ rest), rfl, rfl⟩
  rw [List.append_assoc, List.append_assoc, List.append_assoc]
  refine ⟨_, _, scanX_of_digit hblanks hsign hdigit, fun hrest => ?_⟩
  -- the prefix is taken off, whichever form the number has
  have hafter : (scanHexPrefix (pre ++ (ds ++ rest))).2 = ds ++ rest := by
    obtain ⟨rfl, hne⟩ | ⟨x, hx, rfl⟩ := hpre
    · rw [List.nil_append, scanHexPrefix_of_digits hne hds hrest]
    · show (if x.toLower = 'x' then (true, ds ++ rest) else (false, _)).2 = _
      rw [if_pos hx]
  rw [hafter, (takeWhile_digits hds hrest).2]

/-- A number of 64 bits is stored by its last 32. -/
theorem storeU32_of_lt {n : ℕ} (h : n < UInt64.size) : storeU32 false n = UInt32.ofNat n := by
  unfold storeU32
  rw [if_pos h, if_neg Bool.false_ne_true]
  exact UInt64.toUInt32_ofNat' n

/-- Blanks, and nothing else, are the end of the input. -/
theorem scanX_eq_endOfInput_iff {cs : List Char} :
    scanX cs = .endOfInput ↔ ∀ c ∈ cs, isSpace c = true := by
  rw [← List.all_eq_true]
  unfold scanX
  split_ifs with hall
  · exact iff_of_true rfl hall
  · refine iff_of_false ?_ hall
    dsimp only
    split_ifs
    · exact fun h => nomatch h
    · exact fun h => nomatch h

/-! ### Rows -/

/-- What separates the numbers of a row ends each. -/
theorem ends_colon (rest : List Char) : Ends (':' :: rest) := by
  intro c hc
  cases hc
  exact ⟨rfl, by decide⟩

theorem ends_nil : Ends [] := fun _ h => nomatch h

theorem intercalate_row (ds ds' : List Char) (fields : List (List Char)) :
    [':'].intercalate (ds :: ds' :: fields) = ds ++ ':' :: [':'].intercalate (ds' :: fields) := by
  rw [List.intercalate_cons_cons, List.append_assoc]
  rfl

theorem scanHexFields_of_colon {k : ℕ} {cs rest : List Char} {value : UInt32}
    (h : scanX cs = .number value (':' :: rest)) :
    scanHexFields (k + 1) cs = value :: scanHexFields k rest := by
  rw [scanHexFields, h]
  rfl

/-- **A row of numbers is read as it is written**, if each is nothing but digits. -/
theorem scanHexFields_intercalate {fields : List (List Char)} (hne : ∀ ds ∈ fields, ds ≠ [])
    (hds : ∀ ds ∈ fields, ∀ c ∈ ds, isHexDigit c = true) :
    scanHexFields fields.length ([':'].intercalate fields) =
      fields.map fun ds => storeU32 false (ofHexDigits ds) := by
  -- on the fields: each but the last is followed by a colon
  induction fields with
  | nil => rfl
  | cons ds fields ih =>
    have hfirst : ds ≠ [] := hne ds List.mem_cons_self
    have hdigits := hds ds List.mem_cons_self
    rw [List.length_cons, List.map_cons]
    cases fields with
    | nil =>
      have hscan := scanX_of_digits hfirst hdigits ends_nil
      rw [List.append_nil] at hscan
      rw [List.intercalate_singleton, scanHexFields, hscan]
      rfl
    | cons ds' fields =>
      rw [intercalate_row, scanHexFields_of_colon (scanX_of_digits hfirst hdigits (ends_colon _)),
        ih (fun ds hmem => hne ds (List.mem_cons_of_mem _ hmem))
          fun ds hmem => hds ds (List.mem_cons_of_mem _ hmem)]

/-- One number is read, or more if a colon follows it. -/
theorem length_scanHexFields_cases (k : ℕ) (cs : List Char) :
    (∃ value rest, scanX cs = .number value (':' :: rest) ∧
        (scanHexFields (k + 1) cs).length = (scanHexFields k rest).length + 1) ∨
      (∃ value rest, scanX cs = .number value rest) ∧ (scanHexFields (k + 1) cs).length = 1 ∨
      (∀ value rest, scanX cs ≠ .number value rest) ∧ (scanHexFields (k + 1) cs).length = 0 := by
  rw [scanHexFields]
  split
  · next value rest hscan => exact .inl ⟨value, rest, hscan, rfl⟩
  · next value rest _ hscan => exact .inr (.inl ⟨⟨value, rest, hscan⟩, rfl⟩)
  · next hscan =>
    rw [hscan]
    exact .inr (.inr ⟨fun _ _ h => (nomatch h), rfl⟩)
  · next hscan =>
    rw [hscan]
    exact .inr (.inr ⟨fun _ _ h => (nomatch h), rfl⟩)

/-- **When a whole row is read**: the text starts with so many numbers. -/
theorem length_scanHexFields_eq_iff (k : ℕ) (cs : List Char) :
    (scanHexFields (k + 1) cs).length = k + 1 ↔
      ∃ fields : List (List Char), fields.length = k + 1 ∧ (∀ text ∈ fields, HexNumber text) ∧
        [':'].intercalate fields <+: cs := by
  refine ⟨fun h => ?_, ?_⟩
  -- each direction by induction on the colons still to come
  · induction k generalizing cs with
    | zero =>
      -- the last number may be followed by anything
      obtain ⟨value, rest, hscan⟩ : ∃ value rest, scanX cs = .number value rest := by
        obtain ⟨value, rest, hscan, -⟩ | ⟨hscan, -⟩ | ⟨-, hlen⟩ := length_scanHexFields_cases 0 cs
        · exact ⟨value, _, hscan⟩
        · exact hscan
        · omega
      obtain ⟨text, rfl, htext⟩ := hexNumber_of_scanX hscan
      refine ⟨[text], rfl, fun t ht => List.mem_singleton.mp ht ▸ htext, ?_⟩
      rw [List.intercalate_singleton]
      exact List.prefix_append text rest
    | succ k ih =>
      obtain ⟨value, rest, hscan, hlen⟩ : ∃ value rest, scanX cs = .number value (':' :: rest) ∧
          (scanHexFields (k + 1) rest).length = k + 1 := by
        obtain ⟨value, rest, hscan, hlen⟩ | ⟨-, hlen⟩ | ⟨-, hlen⟩ :=
          length_scanHexFields_cases (k + 1) cs
        · exact ⟨value, rest, hscan, by omega⟩
        · omega
        · omega
      obtain ⟨text, rfl, htext⟩ := hexNumber_of_scanX hscan
      obtain ⟨fields, hfields, hnumbers, t, rfl⟩ := ih rest hlen
      obtain ⟨text', fields, rfl⟩ := List.exists_cons_of_length_eq_add_one hfields
      refine ⟨text :: text' :: fields, congrArg (· + 1) hfields, ?_, t, ?_⟩
      · exact List.forall_mem_cons.mpr ⟨htext, hnumbers⟩
      · rw [intercalate_row, List.append_assoc, List.cons_append]
  · rintro ⟨fields, hfields, hnumbers, t, rfl⟩
    induction k generalizing fields with
    | zero =>
      obtain ⟨text, rfl⟩ := List.length_eq_one_iff.mp hfields
      rw [List.intercalate_singleton]
      obtain ⟨value, rest, hscan, -⟩ := scanX_of_hexNumber (hnumbers text List.mem_cons_self) t
      obtain ⟨_, rest', -, hlen⟩ | ⟨-, hlen⟩ | ⟨hnot, -⟩ := length_scanHexFields_cases 0 (text ++ t)
      · exact hlen
      · exact hlen
      · exact absurd hscan (hnot value rest)
    | succ k ih =>
      obtain ⟨text, fields, rfl⟩ := List.exists_cons_of_length_eq_add_one hfields
      obtain ⟨text', fields, rfl⟩ :=
        List.exists_cons_of_length_eq_add_one (Nat.succ.inj hfields)
      obtain ⟨htext, hnumbers⟩ := List.forall_mem_cons.mp hnumbers
      rw [intercalate_row, List.append_assoc, List.cons_append]
      obtain ⟨value, rest, hscan, hrest⟩ := scanX_of_hexNumber htext
        (':' :: ([':'].intercalate (text' :: fields) ++ t))
      rw [hrest (ends_colon _)] at hscan
      rw [scanHexFields_of_colon hscan, List.length_cons, ih _ (Nat.succ.inj hfields) hnumbers]

end Framework
