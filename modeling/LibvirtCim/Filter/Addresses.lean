import LibvirtCim.Framework.InetPton

/-!
# The addresses of a rule

`Virt_FilterEntry.c` converts the addresses of a rule to octets: `octets_from_mac` with `sscanf`,
`octets_from_ip` with `inet_pton`, and a mask that is a prefix length with `cidr_to_str` first. A
string that starts with `$` is a variable of a filter and is copied as it is.

* `macExact_iff`, `ipExact_iff`, `maskExact_iff` — when each of the conversions is exact;
* `addresses_iff` — the three of them, for every string that is no variable.
-/

open Framework

namespace LibvirtCim.Filter

/-! ### The conversions -/

/-- What an address is converted to: the result, and what is written into the buffer. -/
structure Octets where
  n : UInt32
  buffer : List UInt8
  deriving DecidableEq, Repr

/-- The size of the buffers of the callers, which zero them before. -/
def bufferSize : ℕ := 48

/-- The variable of a filter. -/
def IsVariable (s : String) : Prop := s.toList.head? = some '$'

instance (s : String) : Decidable (IsVariable s) := inferInstanceAs (Decidable (_ = _))

/-- A variable is copied. -/
def copyOctets (s : String) : Octets :=
  let octets := s.toUTF8.data.toList.take bufferSize
  { n := UInt32.ofNat octets.length, buffer := octets }

/-- `octets_from_mac`. `stack` is the memory that is read for the numbers that are not stored,
those of `_buffer` and those behind it. -/
def octetsFromMac (stack : ℕ → UInt32) (s : Option String) : Octets :=
  match s with
  | none => { n := 0, buffer := [] }
  | some s =>
    if s = "" then { n := 0, buffer := [] }
    else if IsVariable s then copyOctets s
    else
      let fields := scanHexFields 6 s.toList
      -- at the end of the input `sscanf` returns `EOF`
      let n := if scanX s.toList = .endOfInput then -1 else UInt32.ofNat fields.length
      { n := n
        buffer := (List.range (min n.toNat bufferSize)).map fun i =>
          (fields.getD i (stack i)).toUInt8 }

/-- `octets_from_ip`. -/
def octetsFromIp (s : Option String) : Octets :=
  match s with
  | none => { n := 0, buffer := [] }
  | some s =>
    if s = "" then { n := 0, buffer := [] }
    else if IsVariable s then copyOctets s
    else
      let n := if ':' ∈ s.toList then 16 else 4
      match if ':' ∈ s.toList then inetPton6 s.toList else inetPton4 s.toList with
      -- the result is that of an address all the same
      | none => { n := n, buffer := [] }
      | some addr => { n := n, buffer := addr.take n.toNat }

/-- `octets_to_cmpi`. The size is signed, and no array of a negative size is made. -/
def octetsToCmpi (o : Octets) : Option (List UInt8) :=
  if o.n = 0 ∨ o.n.toInt32 < 0 then none
  else some ((o.buffer ++ List.replicate bufferSize 0).take o.n.toNat)

/-- `cidr_to_str`, from the length as a number on. -/
def lengthToStr (val : ℤ) : Option String :=
  if val < 0 ∨ val > 32 then none
  else if val = 0 then some "0.0.0.0"
  else if val = 32 then some "255.255.255.255"
  else
    let shift := UInt32.ofNat (32 - val.toNat)
    let bits : UInt32 := (0xffffffff >>> shift) <<< shift
    let o1 := (bits &&& 0xff000000) >>> 24
    let o2 := (bits &&& 0x00ff0000) >>> 16
    let o3 := (bits &&& 0x0000ff00) >>> 8
    let o4 := bits &&& 0x000000ff
    some (o1.toNat.repr ++ "." ++ o2.toNat.repr ++ "." ++ o3.toNat.repr ++ "." ++ o4.toNat.repr)

/-- `cidr_to_str`. -/
def cidrToStr (cidr : String) : Option String :=
  if cidr = "" then none else lengthToStr (atoi cidr)

/-- The mask that the callers of `cidr_to_str` convert: without a dot it is taken for a length. -/
def netmask (mask : String) : Option String :=
  if '.' ∈ mask.toList then some mask else cidrToStr mask

/-- What is set for a mask. -/
def maskToCmpi (mask : String) : Option (List UInt8) :=
  octetsToCmpi (octetsFromIp (netmask mask))

/-! ### What they are to be -/

/-- One octet of a MAC address. -/
def macOctet (ds : List Char) : Option UInt8 :=
  if ds ≠ [] ∧ ds.length ≤ 2 ∧ ds.all isHexDigit = true then
    some (UInt8.ofNat (ofHexDigits ds))
  else none

/-- A MAC address: six hexadecimal octets. -/
def macOctets (s : String) : Option (List UInt8) :=
  ((s.toList.splitOn ':').mapM macOctet).filter fun octets => octets.length = 6

/-- An address of either family. -/
def ipOctets (s : String) : Option (List UInt8) :=
  (inetPton4 s.toList).or (inetPton6 s.toList)

/-- A prefix length: nothing but digits. -/
def prefixLength (s : String) : Option ℕ :=
  if s ≠ "" ∧ s.toList.all Char.isDigit = true then some (Nat.ofDigitChars 10 s.toList 0) else none

/-- The IP version of a rule. -/
inductive IpVersion
  | v4 | v6
  deriving DecidableEq, Repr

/-- The octets of an address. -/
def IpVersion.width : IpVersion → ℕ
  | .v4 => 4
  | .v6 => 16

/-- **What is asked of `octets_from_mac`**: it writes no more than its buffer holds, counts no
more octets than it has read, counts six exactly for an address, and has read the octets of that.
-/
structure MacExact (stack : ℕ → UInt32) (s : String) : Prop where
  written : (octetsFromMac stack (some s)).buffer.length ≤ 6
  read : (octetsFromMac stack (some s)).n.toNat ≤ (scanHexFields 6 s.toList).length
  six_iff : (octetsFromMac stack (some s)).n = 6 ↔ (macOctets s).isSome
  octets : ∀ octets, macOctets s = some octets → (octetsFromMac stack (some s)).buffer = octets

/-- **What is asked of `octets_from_ip`**: it accepts addresses only, and an address gives its
octets, four or sixteen of them. -/
structure IpExact (s : String) : Prop where
  valid : (octetsFromIp (some s)).n ≠ 0 → (ipOctets s).isSome
  octets : ∀ octets, ipOctets s = some octets →
    (octetsFromIp (some s)).n.toNat = octets.length ∧ (octetsFromIp (some s)).buffer = octets

/-- **What is asked of a mask** that is written as a prefix length: what is set denotes it. -/
def MaskExact (version : IpVersion) (mask : String) : Prop :=
  '.' ∉ mask.toList → ∀ octets, maskToCmpi mask = some octets →
    ∃ len, prefixLength mask = some len ∧ len ≤ 8 * version.width ∧
      octets = prefixMask version.width len

/-! ### MAC addresses -/

section Mac

variable {stack : ℕ → UInt32} {s : String}

theorem toNat_count (cs : List Char) :
    (UInt32.ofNat (scanHexFields 6 cs).length).toNat = (scanHexFields 6 cs).length :=
  UInt32.toNat_ofNat_of_lt' ((length_scanHexFields_le 6 cs).trans_lt (by decide))

/-- The numbers at the start of a text are all that is written. -/
theorem octetsFromMac_of_text (hne : s ≠ "") (hvar : ¬ IsVariable s)
    (htext : scanX s.toList ≠ .endOfInput) :
    octetsFromMac stack (some s) =
      { n := UInt32.ofNat (scanHexFields 6 s.toList).length
        buffer := (scanHexFields 6 s.toList).map UInt32.toUInt8 } := by
  have hn : min (UInt32.ofNat (scanHexFields 6 s.toList).length).toNat bufferSize =
      (scanHexFields 6 s.toList).length := by
    rw [toNat_count]
    exact min_eq_left ((length_scanHexFields_le 6 s.toList).trans (by decide))
  unfold octetsFromMac
  dsimp only
  rw [if_neg hne, if_neg hvar, if_neg htext, hn]
  congr 1
  -- none of them is beyond the numbers that are stored
  apply List.ext_getElem
  · rw [List.length_map, List.length_map, List.length_range]
  · intro i hi _
    rw [List.length_map, List.length_range] at hi
    rw [List.getElem_map, List.getElem_range, List.getElem_map, List.getD_eq_getElem?_getD,
      List.getElem?_eq_getElem hi, Option.getD_some]

theorem n_octetsFromMac_of_blank (hne : s ≠ "") (hvar : ¬ IsVariable s)
    (hblank : scanX s.toList = .endOfInput) : (octetsFromMac stack (some s)).n = -1 := by
  unfold octetsFromMac
  dsimp only
  rw [if_neg hne, if_neg hvar, if_pos hblank]

/-- A MAC address is read octet by octet. -/
theorem scanHexFields_of_macOctets {octets : List UInt8} (h : macOctets s = some octets) :
    (scanHexFields 6 s.toList).map UInt32.toUInt8 = octets ∧
      (scanHexFields 6 s.toList).length = 6 := by
  obtain ⟨hparts, hlen⟩ := Option.filter_eq_some_iff.mp h
  have hmap := map_eq_of_mapM hparts
  -- each part is one or two hexadecimal digits, so it fits an octet
  have hpart : ∀ ds ∈ s.toList.splitOn ':', ds ≠ [] ∧ (∀ c ∈ ds, isHexDigit c = true) ∧
      macOctet ds = some (storeU32 false (ofHexDigits ds)).toUInt8 := by
    intro ds hds
    have hsome := isSome_of_mem_mapM hparts hds
    unfold macOctet at hsome ⊢
    split_ifs at hsome ⊢ with hoctet
    · obtain ⟨hne, hle, hdigits⟩ := hoctet
      refine ⟨hne, List.all_eq_true.mp hdigits, ?_⟩
      have hlt : ofHexDigits ds < UInt64.size := by
        calc ofHexDigits ds < 16 ^ ds.length := ofHexDigits_lt ds
          _ ≤ 16 ^ 2 := Nat.pow_le_pow_right (by decide) hle
          _ < UInt64.size := by decide
      rw [storeU32_of_lt hlt, UInt32.toUInt8_ofNat']
    · cases hsome
  -- there are six parts, so six fields are read
  have hcount : (s.toList.splitOn ':').length = 6 := by
    rw [← List.length_map macOctet, hmap, List.length_map]
    exact of_decide_eq_true hlen
  -- the row of fields is read part by part, with the colons between
  have hrow := scanHexFields_intercalate (fun ds hds => (hpart ds hds).1)
    fun ds hds => (hpart ds hds).2.1
  rw [hcount, List.intercalate_splitOn] at hrow
  refine ⟨?_, by rw [hrow, List.length_map, hcount]⟩
  apply (List.map_inj_right fun _ _ h => Option.some.inj h).mp
  rw [← hmap, hrow, List.map_map, List.map_map]
  exact List.map_congr_left fun ds hds => ((hpart ds hds).2.2).symm

/-- Six hexadecimal numbers, as `sscanf` reads them, stand at the start of a text. The numbers may
have blanks, signs and prefixes, which no address has, and more text may follow. -/
def StartsWithSix (s : String) : Prop :=
  ∃ numbers : List (List Char), numbers.length = 6 ∧ (∀ text ∈ numbers, HexNumber text) ∧
    [':'].intercalate numbers <+: s.toList

theorem startsWithSix_iff : StartsWithSix s ↔ (scanHexFields 6 s.toList).length = 6 :=
  (length_scanHexFields_eq_iff 5 s.toList).symm

/-- **When a MAC address is converted exactly**: the string has more than blanks, and one that
starts with six numbers is a MAC address. -/
theorem macExact_iff (stack : ℕ → UInt32) (hvar : ¬ IsVariable s) :
    MacExact stack s ↔
      s = "" ∨ (∃ c ∈ s.toList, isSpace c = false) ∧
        (StartsWithSix s → (macOctets s).isSome) := by
  -- the empty text has neither octets nor an address
  by_cases hne : s = ""
  · refine iff_of_true ?_ (.inl hne)
    subst hne
    have hnone : macOctets "" = none := rfl
    refine ⟨Nat.zero_le _, Nat.zero_le _, ?_, fun octets h => ?_⟩
    · rw [hnone]
      exact iff_of_false (fun h => nomatch h) (fun h => nomatch h)
    · rw [hnone] at h
      cases h
  rw [or_iff_right hne, startsWithSix_iff]
  -- a text of spaces alone ends the scan before it begins
  have hblank : (∃ c ∈ s.toList, isSpace c = false) ↔ scanX s.toList ≠ .endOfInput := by
    rw [Ne, scanX_eq_endOfInput_iff]
    simp
  rw [hblank]
  have hlen := length_scanHexFields_le 6 s.toList
  -- six octets are read from a text that starts with six fields
  refine ⟨fun h => ?_, ?_⟩
  · have htext : scanX s.toList ≠ .endOfInput := by
      intro hend
      have hread := h.read
      rw [n_octetsFromMac_of_blank hne hvar hend] at hread
      exact absurd (hread.trans hlen) (by decide)
    refine ⟨htext, fun hsix => h.six_iff.mp ?_⟩
    rw [octetsFromMac_of_text hne hvar htext]
    dsimp only
    rw [hsix]
    rfl
  -- the fields read are at most six, and the octets are those of the address
  · rintro ⟨htext, hsix⟩
    refine ⟨?_, ?_, ?_, fun octets hoctets => ?_⟩
    · rw [octetsFromMac_of_text hne hvar htext, List.length_map]
      exact hlen
    · rw [octetsFromMac_of_text hne hvar htext]
      exact (toNat_count s.toList).le
    · rw [octetsFromMac_of_text hne hvar htext]
      refine ⟨fun h => hsix ?_, fun h => ?_⟩
      · rw [← toNat_count]
        exact congrArg UInt32.toNat h
      · obtain ⟨octets, hoctets⟩ := Option.isSome_iff_exists.mp h
        rw [(scanHexFields_of_macOctets hoctets).2]
        rfl
    · rw [octetsFromMac_of_text hne hvar htext]
      exact (scanHexFields_of_macOctets hoctets).1

end Mac

/-! ### IP addresses -/

/-- The family is told by the colon, so that an address is converted by its own. -/
theorem octetsFromIp_of_ipOctets {s : String} {octets : List UInt8} (hne : s ≠ "")
    (hvar : ¬ IsVariable s) (h : ipOctets s = some octets) :
    (octetsFromIp (some s)).n.toNat = octets.length ∧ (octetsFromIp (some s)).buffer = octets := by
  unfold octetsFromIp
  dsimp only
  rw [if_neg hne, if_neg hvar]
  obtain h4 | ⟨-, h6⟩ := Option.or_eq_some_iff.mp h
  · have hcolon := not_mem_of_inetPton4 (Option.isSome_of_eq_some h4)
    have hlen := length_of_inetPton4 h4
    rw [if_neg hcolon, if_neg hcolon, h4]
    exact ⟨hlen.symm, List.take_of_length_le hlen.le⟩
  · have hcolon := mem_of_inetPton6 (Option.isSome_of_eq_some h6)
    have hlen := length_of_inetPton6 h6
    rw [if_pos hcolon, if_pos hcolon, h6]
    exact ⟨hlen.symm, List.take_of_length_le hlen.le⟩

theorem n_octetsFromIp_ne_zero {s : String} (hne : s ≠ "") (hvar : ¬ IsVariable s) :
    (octetsFromIp (some s)).n ≠ 0 := by
  unfold octetsFromIp
  dsimp only
  rw [if_neg hne, if_neg hvar]
  have h16 : (16 : UInt32) ≠ 0 := by decide
  have h4 : (4 : UInt32) ≠ 0 := by decide
  split_ifs
  · split
    · exact h16
    · exact h16
  · split
    · exact h4
    · exact h4

/-- **When an IP address is converted exactly**: when it is one. -/
theorem ipExact_iff {s : String} (hvar : ¬ IsVariable s) :
    IpExact s ↔ s = "" ∨ (ipOctets s).isSome := by
  by_cases hne : s = ""
  · refine iff_of_true ?_ (.inl hne)
    subst hne
    refine ⟨fun h => absurd rfl h, fun octets h => ?_⟩
    have hnone : ipOctets "" = none := rfl
    rw [hnone] at h
    cases h
  rw [or_iff_right hne]
  refine ⟨fun h => h.valid (n_octetsFromIp_ne_zero hne hvar), fun h => ⟨fun _ => h, ?_⟩⟩
  exact fun octets hoctets => octetsFromIp_of_ipOctets hne hvar hoctets

/-! ### Masks -/

/-- Four numbers with dots between them are converted to these octets. -/
theorem octetsToCmpi_repr {a b c d : ℕ} (ha : a ≤ 255) (hb : b ≤ 255) (hc : c ≤ 255)
    (hd : d ≤ 255) :
    octetsToCmpi (octetsFromIp
        (some (a.repr ++ "." ++ b.repr ++ "." ++ c.repr ++ "." ++ d.repr))) =
      some [UInt8.ofNat a, UInt8.ofNat b, UInt8.ofNat c, UInt8.ofNat d] := by
  have hread := inetPton4_repr ha hb hc hd
  -- the text begins with a digit, so it is neither empty nor a variable
  obtain ⟨digit, digits, hdigits, hdigit⟩ := exists_digit_repr a
  have hhead : (a.repr ++ "." ++ b.repr ++ "." ++ c.repr ++ "." ++ d.repr).toList.head? =
      some digit := by
    simp [hdigits]
  generalize a.repr ++ "." ++ b.repr ++ "." ++ c.repr ++ "." ++ d.repr = s at hread hhead
  have hne : s ≠ "" := by
    rintro rfl
    cases hhead
  have hvar : ¬ IsVariable s := by
    intro h
    rw [IsVariable, hhead] at h
    rw [Option.some.inj h] at hdigit
    exact absurd hdigit (by decide)
  -- there is no colon in it, so it is read as an address of version 4
  have hcolon := not_mem_of_inetPton4 (Option.isSome_of_eq_some hread)
  unfold octetsFromIp
  dsimp only
  rw [if_neg hne, if_neg hvar, if_neg hcolon, if_neg hcolon, hread]
  rfl

/-- A length is written as four numbers, which are the octets of its mask. -/
theorem exists_text_of_length (n : ℕ) (h : n ≤ 32) :
    ∃ a b c d : ℕ, a ≤ 255 ∧ b ≤ 255 ∧ c ≤ 255 ∧ d ≤ 255 ∧
      lengthToStr n =
        some (a.repr ++ "." ++ b.repr ++ "." ++ c.repr ++ "." ++ d.repr) ∧
      [UInt8.ofNat a, UInt8.ofNat b, UInt8.ofNat c, UInt8.ofNat d] = prefixMask 4 n := by
  -- the two ends of the range are written without shifting
  by_cases hzero : n = 0
  · subst hzero
    exact ⟨0, 0, 0, 0, by decide, by decide, by decide, by decide, rfl, rfl⟩
  by_cases hall : n = 32
  · subst hall
    exact ⟨255, 255, 255, 255, by decide, by decide, by decide, by decide, rfl, rfl⟩
  -- the lengths between are shifted out of all bits
  have hoctets : ∀ n : Fin 32, n.val ≠ 0 →
      let shift := UInt32.ofNat (32 - n.val)
      let bits : UInt32 := (0xffffffff >>> shift) <<< shift
      ((bits &&& 0xff000000) >>> 24).toNat ≤ 255 ∧ ((bits &&& 0x00ff0000) >>> 16).toNat ≤ 255 ∧
        ((bits &&& 0x0000ff00) >>> 8).toNat ≤ 255 ∧ (bits &&& 0x000000ff).toNat ≤ 255 ∧
        [UInt8.ofNat ((bits &&& 0xff000000) >>> 24).toNat,
          UInt8.ofNat ((bits &&& 0x00ff0000) >>> 16).toNat,
          UInt8.ofNat ((bits &&& 0x0000ff00) >>> 8).toNat,
          UInt8.ofNat (bits &&& 0x000000ff).toNat] = prefixMask 4 n := by
    decide
  obtain ⟨ha, hb, hc, hd, hmask⟩ := hoctets ⟨n, by omega⟩ hzero
  refine ⟨_, _, _, _, ha, hb, hc, hd, ?_, hmask⟩
  rw [lengthToStr, if_neg (by omega), if_neg (by omega), if_neg (by omega)]
  rfl

/-- What is made of a length is the IPv4 mask of it. -/
theorem mask_of_length (n : ℕ) (h : n ≤ 32) :
    octetsToCmpi (octetsFromIp (lengthToStr n)) = some (prefixMask 4 n) := by
  obtain ⟨a, b, c, d, ha, hb, hc, hd, htext, hmask⟩ := exists_text_of_length n h
  rw [htext, octetsToCmpi_repr ha hb hc hd, hmask]

theorem maskToCmpi_of_length {mask : String} (hdot : '.' ∉ mask.toList) (hne : mask ≠ "") {n : ℕ}
    (hval : atoi mask = n) (hle : n ≤ 32) : maskToCmpi mask = some (prefixMask 4 n) := by
  rw [maskToCmpi, netmask, if_neg hdot, cidrToStr, if_neg hne, hval, mask_of_length n hle]

theorem maskToCmpi_of_out_of_range {mask : String} (hdot : '.' ∉ mask.toList) (hne : mask ≠ "")
    (hval : atoi mask < 0 ∨ atoi mask > 32) : maskToCmpi mask = none := by
  rw [maskToCmpi, netmask, if_neg hdot, cidrToStr, if_neg hne, lengthToStr, if_pos hval]
  rfl

theorem length_prefixMask (width len : ℕ) : (prefixMask width len).length = width := by
  rw [prefixMask, List.length_map, List.length_range]

/-- A prefix length that fits is what `atoi` makes of it. -/
theorem atoi_of_prefixLength {mask : String} {len : ℕ} (h : prefixLength mask = some len)
    (hle : len ≤ 32) : atoi mask = len := by
  unfold prefixLength at h
  split_ifs at h with hdigits
  obtain rfl := Option.some.inj h
  exact atoi_of_digits hdigits.1 (List.all_eq_true.mp hdigits.2) (hle.trans_lt (by decide))

/-- **When a mask is exact**: it is written with dots or not at all, it is taken for no length, or
it is a length of an IPv4 address in an IPv4 rule. -/
theorem maskExact_iff (version : IpVersion) (mask : String) :
    MaskExact version mask ↔
      '.' ∈ mask.toList ∨ mask = "" ∨ (atoi mask < 0 ∨ atoi mask > 32) ∨
        version = .v4 ∧ ∃ len, prefixLength mask = some len ∧ len ≤ 32 := by
  -- a mask with dots is no length, and is left to the address
  by_cases hdot : '.' ∈ mask.toList
  · exact iff_of_true (fun h => absurd hdot h) (.inl hdot)
  by_cases hne : mask = ""
  · subst hne
    exact iff_of_true (fun _ octets h => nomatch h) (.inr (.inl rfl))
  -- a length out of range is no mask
  by_cases hval : atoi mask < 0 ∨ atoi mask > 32
  · refine iff_of_true (fun _ octets h => ?_) (.inr (.inr (.inl hval)))
    rw [maskToCmpi_of_out_of_range hdot hne hval] at h
    cases h
  rw [or_iff_right hdot, or_iff_right hne, or_iff_right hval]
  obtain ⟨n, hn⟩ : ∃ n : ℕ, atoi mask = n := Int.eq_ofNat_of_zero_le (by omega)
  have hle : n ≤ 32 := by omega
  -- the rest are the lengths of version 4
  have hmask := maskToCmpi_of_length hdot hne hn hle
  refine ⟨fun h => ?_, ?_⟩
  -- a mask of another width would have more octets
  · obtain ⟨len, hlen, hwidth, heq⟩ := h hdot _ hmask
    have hversion : version = .v4 := by
      have hsame := congrArg List.length heq
      rw [length_prefixMask, length_prefixMask] at hsame
      cases version with
      | v4 => rfl
      | v6 => exact absurd hsame (by decide)
    subst hversion
    exact ⟨rfl, len, hlen, hwidth⟩
  · rintro ⟨rfl, len, hlen, hwidth⟩ _ octets hoctets
    refine ⟨len, hlen, hwidth, ?_⟩
    have hsame : (n : ℤ) = len := hn ▸ atoi_of_prefixLength hlen hwidth
    rw [hmask] at hoctets
    rw [← Option.some.inj hoctets, Int.ofNat_inj.mp hsame]
    rfl

/-! ### All conversions -/

/-- **When the addresses of a rule are converted as they are to be**, for every string that is no
variable: MAC addresses, IP addresses and masks. What `sscanf` and `inet_pton` accept is described
in `Framework`, character by character, so that each of the three conditions can be read off the
string (`macExact_iff`, `ipExact_iff`, `maskExact_iff`). -/
theorem addresses_iff (stack : ℕ → UInt32) (s : String) (hvar : ¬ IsVariable s) :
    (MacExact stack s ↔
      s = "" ∨ (∃ c ∈ s.toList, isSpace c = false) ∧
        (StartsWithSix s → (macOctets s).isSome)) ∧
    (IpExact s ↔ s = "" ∨ (ipOctets s).isSome) ∧
    ∀ version, MaskExact version s ↔
      '.' ∈ s.toList ∨ s = "" ∨ (atoi s < 0 ∨ atoi s > 32) ∨
        version = .v4 ∧ ∃ len, prefixLength s = some len ∧ len ≤ 32 :=
  ⟨macExact_iff stack hvar, ipExact_iff hvar, fun version => maskExact_iff version s⟩

/-- The loopback address. -/
theorem addresses_iff_loopback :
    (MacExact (fun _ => 0) "::1" ↔
      "::1" = "" ∨ (∃ c ∈ "::1".toList, isSpace c = false) ∧
        (StartsWithSix "::1" → (macOctets "::1").isSome)) ∧
    (IpExact "::1" ↔ "::1" = "" ∨ (ipOctets "::1").isSome) ∧
    ∀ version, MaskExact version "::1" ↔
      '.' ∈ "::1".toList ∨ "::1" = "" ∨ (atoi "::1" < 0 ∨ atoi "::1" > 32) ∨
        version = .v4 ∧ ∃ len, prefixLength "::1" = some len ∧ len ≤ 32 :=
  addresses_iff (fun _ => 0) "::1" (by decide)

/-- Seven octets are taken for a MAC address, a string that is no address is one of four octets,
and a short IPv6 prefix is an IPv4 mask. -/
theorem not_addressesExact :
    ¬ (∀ (stack : ℕ → UInt32) (s : String), ¬ IsVariable s → MacExact stack s) ∧
    ¬ (∀ s, ¬ IsVariable s → IpExact s) ∧
    ¬ (∀ s, ¬ IsVariable s → ∀ version, MaskExact version s) := by
  -- one group too many, an octet too large, a length for version 6
  refine ⟨fun h => ?_, fun h => ?_, fun h => ?_⟩
  · have hsix := (h (fun _ => 0) "00:11:22:33:44:55:66" (by decide)).six_iff.mp (by decide +kernel)
    have hnone : (macOctets "00:11:22:33:44:55:66").isSome = false := by decide +kernel
    rw [hnone] at hsix
    cases hsix
  · have hvalid := (h "10.0.0.256" (by decide)).valid (by decide +kernel)
    have hnone : (ipOctets "10.0.0.256").isSome = false := by decide +kernel
    rw [hnone] at hvalid
    cases hvalid
  · obtain ⟨len, -, -, heq⟩ := h "24" (by decide) .v6 (by decide) [255, 255, 255, 0]
      (by decide +kernel)
    have hlen := congrArg List.length heq
    rw [length_prefixMask] at hlen
    cases hlen

end LibvirtCim.Filter
