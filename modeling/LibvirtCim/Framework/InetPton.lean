import LibvirtCim.Framework.Hexadecimal

/-!
# Internet addresses in text

`inet_pton` for both families, by what it accepts and the octets it stores in network order:

* `inetPton4` — four decimal octets with a `.` between each two, none with a leading zero;
* `inetPton6` — eight groups of one to four hexadecimal digits with a `:` between each two, of which
  the last two may be written as an IPv4 address, and `::` may stand for one group or more, once.

The texts of the two families are told apart by the `:` (`not_mem_of_inetPton4`,
`mem_of_inetPton6`). `prefixMask` is the mask of a prefix length.
-/

namespace Framework

/-! ### IPv4 -/

/-- One octet in decimal notation. -/
def decimalOctet (ds : List Char) : Option UInt8 :=
  if ds ≠ [] ∧ ds.all Char.isDigit = true ∧ (ds.head? = some '0' → ds.length = 1) ∧
      Nat.ofDigitChars 10 ds 0 ≤ 255 then
    some (UInt8.ofNat (Nat.ofDigitChars 10 ds 0))
  else none

/-- `inet_pton` of `AF_INET`. -/
def inetPton4 (s : List Char) : Option (List UInt8) :=
  ((s.splitOn '.').mapM decimalOctet).filter fun octets => octets.length = 4

/-! ### IPv6 -/

/-- One group: the two octets of a number in hexadecimal notation. -/
def hextet (ds : List Char) : Option (List UInt8) :=
  if ds ≠ [] ∧ ds.length ≤ 4 ∧ ds.all isHexDigit = true then
    some [UInt8.ofNat (ofHexDigits ds / 256), UInt8.ofNat (ofHexDigits ds)]
  else none

/-- Groups, of which the last may be an IPv4 address. -/
def groups : List (List Char) → Option (List UInt8)
  | [] => some []
  | [last] => (hextet last).or (inetPton4 last)
  | group :: rest => (hextet group).bind fun octets => (groups rest).map (octets ++ ·)

/-- What stands before and after the first `::`. -/
def splitGap : List Char → Option (List Char × List Char)
  | ':' :: ':' :: after => some ([], after)
  | c :: cs => (splitGap cs).map fun (before, after) => (c :: before, after)
  | [] => none

/-- One side of a `::`. -/
def beside (read : List (List Char) → Option (List UInt8)) (side : List Char) :
    Option (List UInt8) :=
  if side = [] then some [] else read (side.splitOn ':')

/-- `inet_pton` of `AF_INET6`. -/
def inetPton6 (s : List Char) : Option (List UInt8) :=
  Option.filter (fun octets => octets.length = 16) <|
    match splitGap s with
    | none => groups (s.splitOn ':')
    | some (before, after) =>
      (beside (fun gs => (gs.mapM hextet).map List.flatten) before).bind fun high =>
        (beside groups after).map fun low =>
          -- one group is the least that `::` stands for
          high ++ List.replicate (max 2 (16 - high.length - low.length)) 0 ++ low

/-! ### Lengths -/

theorem length_of_inetPton4 {s : List Char} {octets : List UInt8} (h : inetPton4 s = some octets) :
    octets.length = 4 := by
  obtain ⟨-, hlen⟩ := Option.filter_eq_some_iff.mp h
  exact of_decide_eq_true hlen

theorem length_of_inetPton6 {s : List Char} {octets : List UInt8} (h : inetPton6 s = some octets) :
    octets.length = 16 := by
  obtain ⟨-, hlen⟩ := Option.filter_eq_some_iff.mp h
  exact of_decide_eq_true hlen

theorem length_of_hextet {ds : List Char} {octets : List UInt8} (h : hextet ds = some octets) :
    octets.length = 2 := by
  unfold hextet at h
  split_ifs at h
  obtain rfl := Option.some.inj h
  rfl

/-! ### Numbers written out -/

/-- A number of one octet is read back. -/
theorem decimalOctet_toDigits {n : ℕ} (h : n ≤ 255) :
    decimalOctet (Nat.toDigits 10 n) = some (UInt8.ofNat n) := by
  have hdigits : (Nat.toDigits 10 n).all Char.isDigit = true :=
    List.all_eq_true.mpr fun c hc => Nat.isDigit_of_mem_toDigits (by decide) (by decide) hc
  have hhead : (Nat.toDigits 10 n).head? = some '0' → (Nat.toDigits 10 n).length = 1 := by
    intro hzero
    cases hdigits : Nat.toDigits 10 n with
    | nil => exact absurd hdigits Nat.toDigits_ne_nil
    | cons c cs =>
      rw [hdigits, List.head?_cons] at hzero
      obtain rfl := Option.some.inj hzero
      cases cs with
      | nil => rfl
      | cons x cs => exact absurd hdigits (toDigits_ne_zero_cons n x cs)
  rw [decimalOctet, Nat.ofDigitChars_ten_toDigits,
    if_pos ⟨Nat.toDigits_ne_nil, hdigits, hhead, h⟩]

/-- So are four of them with a dot between each two. -/
theorem inetPton4_repr {a b c d : ℕ} (ha : a ≤ 255) (hb : b ≤ 255) (hc : c ≤ 255)
    (hd : d ≤ 255) :
    inetPton4 (a.repr ++ "." ++ b.repr ++ "." ++ c.repr ++ "." ++ d.repr).toList =
      some [UInt8.ofNat a, UInt8.ofNat b, UInt8.ofNat c, UInt8.ofNat d] := by
  have htext : (a.repr ++ "." ++ b.repr ++ "." ++ c.repr ++ "." ++ d.repr).toList =
      ['.'].intercalate [Nat.toDigits 10 a, Nat.toDigits 10 b, Nat.toDigits 10 c,
        Nat.toDigits 10 d] := by
    simp [List.intercalate, Nat.toList_repr]
  have hdot : ∀ ds ∈ [Nat.toDigits 10 a, Nat.toDigits 10 b, Nat.toDigits 10 c,
      Nat.toDigits 10 d], '.' ∉ ds := by
    have hnot (n : ℕ) : '.' ∉ Nat.toDigits 10 n := fun h =>
      absurd (Nat.isDigit_of_mem_toDigits (by decide) (by decide) h) (by decide)
    simp [hnot]
  rw [inetPton4, htext, List.splitOn_intercalate '.' hdot (List.cons_ne_nil _ _)]
  simp [decimalOctet_toDigits ha, decimalOctet_toDigits hb, decimalOctet_toDigits hc,
    decimalOctet_toDigits hd]

/-! ### The separators of the families -/

/-- What is split at a separator is made of it and of the parts. -/
theorem mem_splitOn (sep : Char) {c : Char} {s : List Char} (h : c ∈ s) :
    c = sep ∨ ∃ part ∈ s.splitOn sep, c ∈ part := by
  have hmem : ∀ parts : List (List Char), c ∈ [sep].intercalate parts →
      c = sep ∨ ∃ part ∈ parts, c ∈ part := by
    intro parts
    induction parts with
    | nil => exact fun h => nomatch h
    | cons part parts ih =>
      intro hc
      cases parts with
      | nil =>
        rw [List.intercalate_singleton] at hc
        exact .inr ⟨part, List.mem_cons_self, hc⟩
      | cons part' parts =>
        rw [List.intercalate_cons_cons, List.append_assoc, List.mem_append, List.mem_append,
          List.mem_singleton] at hc
        obtain hc | hc | hc := hc
        · exact .inr ⟨part, List.mem_cons_self, hc⟩
        · exact .inl hc
        · exact (ih hc).imp id fun ⟨part, hpart, hc⟩ => ⟨part, List.mem_cons_of_mem _ hpart, hc⟩
  apply hmem
  rw [List.intercalate_splitOn]
  exact h

/-- Each of the elements is converted. -/
theorem map_eq_of_mapM {f : α → Option β} {xs : List α} {ys : List β} (h : xs.mapM f = some ys) :
    xs.map f = ys.map some := by
  induction xs generalizing ys with
  | nil =>
    obtain rfl := Option.some.inj h
    rfl
  | cons x xs ih =>
    rw [List.mapM_cons] at h
    obtain ⟨y, hy, h⟩ := Option.bind_eq_some_iff.mp h
    obtain ⟨ys', hys, h⟩ := Option.bind_eq_some_iff.mp h
    obtain rfl := Option.some.inj h
    rw [List.map_cons, hy, ih hys, List.map_cons]

theorem isSome_of_mem_mapM {f : α → Option β} {xs : List α} {ys : List β}
    (h : xs.mapM f = some ys) {x : α} (hx : x ∈ xs) : (f x).isSome := by
  have hmem : f x ∈ ys.map some := by
    rw [← map_eq_of_mapM h]
    exact List.mem_map_of_mem hx
  obtain ⟨y, -, hy⟩ := List.mem_map.mp hmem
  exact Option.isSome_of_eq_some hy.symm

theorem isDigit_of_decimalOctet {ds : List Char} (h : (decimalOctet ds).isSome) {c : Char}
    (hc : c ∈ ds) : c.isDigit = true := by
  unfold decimalOctet at h
  split_ifs at h with hds
  · exact List.all_eq_true.mp hds.2.1 c hc
  · cases h

/-- An IPv4 address has no colon. -/
theorem not_mem_of_inetPton4 {s : List Char} (h : (inetPton4 s).isSome) : ':' ∉ s := by
  intro hcolon
  obtain ⟨octets, hoctets⟩ := Option.isSome_iff_exists.mp h
  obtain ⟨hparts, -⟩ := Option.filter_eq_some_iff.mp hoctets
  obtain hdot | ⟨part, hpart, hmem⟩ := mem_splitOn '.' hcolon
  · cases hdot
  · have hdigit := isDigit_of_decimalOctet (isSome_of_mem_mapM hparts hpart) hmem
    cases hdigit

theorem mem_of_splitGap {s : List Char} (h : (splitGap s).isSome) : ':' ∈ s := by
  fun_induction splitGap s with
  | case1 after => exact List.mem_cons_self
  | case2 c cs _ ih =>
    rw [Option.isSome_map] at h
    exact List.mem_cons_of_mem _ (ih h)
  | case3 => cases h

/-- An IPv6 address has a colon. -/
theorem mem_of_inetPton6 {s : List Char} (h : (inetPton6 s).isSome) : ':' ∈ s := by
  by_contra hcolon
  obtain ⟨octets, hoctets⟩ := Option.isSome_iff_exists.mp h
  have hgap : splitGap s = none := by
    rw [← Option.not_isSome_iff_eq_none]
    exact fun hgap => hcolon (mem_of_splitGap hgap)
  have hlen := length_of_inetPton6 hoctets
  obtain ⟨hgroups, -⟩ := Option.filter_eq_some_iff.mp hoctets
  rw [hgap, List.splitOn_eq_singleton hcolon] at hgroups
  -- a single part has two octets, or four
  obtain hone | ⟨-, hfour⟩ := Option.or_eq_some_iff.mp hgroups
  · rw [length_of_hextet hone] at hlen
    cases hlen
  · rw [length_of_inetPton4 hfour] at hlen
    cases hlen

/-! ### Masks -/

/-- The octet of a mask of which the first `k` bits are set. -/
def maskOctet (k : ℕ) : UInt8 := UInt8.ofNat (256 - 2 ^ (8 - k))

/-- The mask of `width` octets that a prefix length denotes. -/
def prefixMask (width len : ℕ) : List UInt8 :=
  (List.range width).map fun i => maskOctet (len - 8 * i)

example : inetPton4 "192.0.2.1".toList = some [192, 0, 2, 1] := rfl

example : inetPton6 "fe80::1".toList =
    some [0xfe, 0x80, 0, 0, 0, 0, 0, 0, 0, 0, 0, 0, 0, 0, 0, 1] := rfl

example : inetPton6 "::ffff:192.0.2.1".toList =
    some [0, 0, 0, 0, 0, 0, 0, 0, 0, 0, 0xff, 0xff, 192, 0, 2, 1] := rfl

example : prefixMask 4 20 = [255, 255, 240, 0] := rfl

end Framework
