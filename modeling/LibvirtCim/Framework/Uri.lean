import LibvirtCim.Framework.InetPton
import Mathlib.Data.List.Basic
import Mathlib.Data.List.TakeWhile

/-!
# The parts of a URI

`splitUri` takes a URI apart at its delimiters: the scheme up to the first colon, the authority
behind the two slashes, the path, and the query behind a question mark; a number sign ends all of
them. The authority is a host with, perhaps, a user in front of an `@` and a port behind a colon;
an address with colons of its own stands in brackets. A text that is none of this has no parts.

In each part a character that is not allowed there is written as `%` with two digits, which
`percentDecode` reads. `splitHierarchy_joined` says what is read from a URI that was put together,
and `eq_of_host` which authority is nothing but a host.
-/

namespace Framework

/-! ### Characters -/

/-- A character that stands for itself in every part. -/
def isUnreserved (c : Char) : Bool := c.isAlphanum || "-._~".toList.contains c

/-- A character that may separate the pieces of a part. -/
def isSubDelim (c : Char) : Bool := "!$&'()*+,;=".toList.contains c

/-- A text of a part: such characters, those that the part has besides, and characters written as
`%` with two digits. -/
def uriText (extra : Char → Bool) : List Char → Bool
  | [] => true
  | '%' :: a :: b :: cs => isHexDigit a && isHexDigit b && uriText extra cs
  | c :: cs => c ≠ '%' && (isUnreserved c || isSubDelim c || extra c) && uriText extra cs

/-- What a part says. -/
def percentDecode : List Char → List Char
  | [] => []
  | '%' :: a :: b :: cs =>
    if isHexDigit a && isHexDigit b then Char.ofNat (ofHexDigits [a, b]) :: percentDecode cs
    else '%' :: percentDecode (a :: b :: cs)
  | c :: cs => c :: percentDecode cs

/-- A character of an authority. -/
def isAuthorityChar (c : Char) : Bool := c ≠ '/' && c ≠ '?' && c ≠ '#'

/-- A character of a path. -/
def isPathChar (c : Char) : Bool := c ≠ '?' && c ≠ '#'

/-- A character of a query. -/
def isQueryChar (c : Char) : Bool := c ≠ '#'

/-- What a path has besides. -/
def isPathExtra (c : Char) : Bool := ":@/".toList.contains c

/-- What a query has besides, and what follows it. -/
def isQueryExtra (c : Char) : Bool := ":@/?".toList.contains c

/-! ### Authorities -/

/-- An authority. -/
structure Authority where
  user : Option (List Char)
  host : List Char
  port : Option (List Char)
  deriving DecidableEq, Repr

/-- An address of a version to come. -/
def isFutureAddress : List Char → Bool
  | c :: cs =>
    c.toLower = 'v' && cs.takeWhile isHexDigit ≠ [] &&
      match cs.dropWhile isHexDigit with
      | '.' :: rest => rest ≠ []
      | _ => false
  | [] => false

/-- What stands between brackets. -/
def isAddress (cs : List Char) : Bool :=
  uriText (· = ':') cs && ((inetPton6 cs).isSome || isFutureAddress cs)

/-- A host: an address in brackets, or a name. -/
def isHost : List Char → Bool
  | '[' :: cs => isAddress (cs.takeWhile (· ≠ ']')) && cs.dropWhile (· ≠ ']') = [']']
  | cs => uriText (fun _ => false) cs

/-- The host at the beginning of a text, up to the closing bracket or to the first colon. -/
def splitHost : List Char → List Char × List Char
  | '[' :: cs =>
    ('[' :: (cs.takeWhile (· ≠ ']') ++ (cs.dropWhile (· ≠ ']')).take 1),
      (cs.dropWhile (· ≠ ']')).drop 1)
  | cs => (cs.takeWhile (· ≠ ':'), cs.dropWhile (· ≠ ':'))

/-- The port behind a host. -/
def splitPort : List Char → Option (Option (List Char))
  | [] => some none
  | ':' :: ds => if ds.all Char.isDigit then some (some ds) else none
  | _ => none

/-- The host and the port of an authority. -/
def splitHostPort (user : Option (List Char)) (s : List Char) : Option Authority :=
  (splitPort (splitHost s).2).bind fun port =>
    if isHost (splitHost s).1 then some ⟨user, (splitHost s).1, port⟩ else none

/-- An authority is taken apart. -/
def splitAuthority (s : List Char) : Option Authority :=
  match s.dropWhile (· ≠ '@') with
  | '@' :: cs =>
    if uriText (· = ':') (s.takeWhile (· ≠ '@')) then
      splitHostPort (some (s.takeWhile (· ≠ '@'))) cs
    else none
  | _ => splitHostPort none s

/-! ### URIs -/

/-- The parts of a URI, as they are written. -/
structure UriParts where
  scheme : List Char
  authority : Authority
  path : List Char
  query : Option (List Char)
  deriving DecidableEq, Repr

/-- What follows a query. -/
def isFragment : List Char → Bool
  | [] => true
  | _ :: cs => uriText isQueryExtra cs

/-- The query behind a path, if there is one. -/
def splitQuery : List Char → Option (Option (List Char))
  | '?' :: cs =>
    if uriText isQueryExtra (cs.takeWhile isQueryChar) && isFragment (cs.dropWhile isQueryChar) then
      some (some (cs.takeWhile isQueryChar))
    else none
  | cs => if isFragment cs then some none else none

/-- The part of a URI behind the two slashes. -/
def splitHierarchy (scheme cs : List Char) : Option UriParts := do
  let authority ← splitAuthority (cs.takeWhile isAuthorityChar)
  let behind := cs.dropWhile isAuthorityChar
  guard (uriText isPathExtra (behind.takeWhile isPathChar))
  let query ← splitQuery (behind.dropWhile isPathChar)
  some ⟨scheme, authority, behind.takeWhile isPathChar, query⟩

/-- A URI is taken apart. -/
def splitUri (s : List Char) : Option UriParts :=
  match s.dropWhile (· ≠ ':') with
  | ':' :: '/' :: '/' :: cs => splitHierarchy (s.takeWhile (· ≠ ':')) cs
  | _ => none

/-- The host of a URI. -/
def UriParts.host (uri : UriParts) : List Char :=
  percentDecode uri.authority.host

/-- The parameters of a query. -/
def UriParts.params (uri : UriParts) : List (List Char) :=
  uri.query.elim [] fun query => (query.splitOn '&').map percentDecode

/-! ### Texts of a part -/

section Texts

variable {extra : Char → Bool} {s : List Char}

theorem uriText_cons {c : Char} (hc : c ≠ '%') (cs : List Char) :
    uriText extra (c :: cs) =
      ((isUnreserved c || isSubDelim c || extra c) && uriText extra cs) := by
  rw [uriText, decide_eq_true hc, Bool.true_and]
  rintro _ _ _ h -
  exact hc h

/-- A digit is one of the characters that stand for themselves. -/
theorem isUnreserved_of_isHexDigit {c : Char} (h : isHexDigit c = true) :
    isUnreserved c = true := by
  have hall : ∀ n : Fin 103, isHexDigit (Char.ofNat n) = true →
      isUnreserved (Char.ofNat n) = true := by decide +kernel
  have hc := hall ⟨c.toNat, Nat.lt_succ_of_le (toNat_le_of_isHexDigit h)⟩
  rw [Char.ofNat_toNat] at hc
  exact hc h

/-- The characters of a text. -/
theorem allowed_of_uriText (h : uriText extra s = true) :
    ∀ c ∈ s, c = '%' ∨ (isUnreserved c || isSubDelim c || extra c) = true := by
  fun_induction uriText extra s with
  | case1 => exact fun _ hc => nomatch hc
  | case2 a b cs ih =>
    simp only [Bool.and_eq_true] at h
    intro c hc
    -- the escape, its two hexadecimal digits, or something after it
    simp only [List.mem_cons] at hc
    obtain rfl | rfl | rfl | hc := hc
    · exact .inl rfl
    · exact .inr (by rw [isUnreserved_of_isHexDigit h.1.1]; rfl)
    · exact .inr (by rw [isUnreserved_of_isHexDigit h.1.2]; rfl)
    · exact ih h.2 c hc
  | case3 c cs _ ih =>
    simp only [Bool.and_eq_true] at h
    intro x hx
    obtain rfl | hx := List.mem_cons.mp hx
    · exact .inr h.1.2
    · exact ih h.2 x hx

/-- A character that is allowed nowhere is not in a text. -/
theorem not_mem_of_uriText (h : uriText extra s = true) {c : Char} (hpercent : c ≠ '%')
    (hc : (isUnreserved c || isSubDelim c || extra c) = false) : c ∉ s := by
  intro hmem
  obtain heq | hallowed := allowed_of_uriText h c hmem
  · exact hpercent heq
  · rw [hc] at hallowed
    cases hallowed

theorem uriText_mono {extra' : Char → Bool} (hle : ∀ c, extra c = true → extra' c = true)
    (h : uriText extra s = true) : uriText extra' s = true := by
  fun_induction uriText extra s with
  | case1 => rfl
  | case2 a b cs ih =>
    rw [Bool.and_eq_true] at h
    rw [uriText, h.1, ih h.2]
    rfl
  | case3 c cs hc ih =>
    simp only [Bool.and_eq_true, decide_eq_true_eq] at h
    rw [uriText_cons h.1.1, ih h.2, Bool.and_true]
    have hallowed := h.1.2
    rw [Bool.or_eq_true] at hallowed ⊢
    exact hallowed.imp_right (hle c)

/-- Texts are put together. -/
theorem uriText_append {a b : List Char} (ha : uriText extra a = true) :
    uriText extra (a ++ b) = uriText extra b := by
  fun_induction uriText extra a with
  | case1 => rfl
  | case2 x y cs ih =>
    rw [Bool.and_eq_true] at ha
    simp only [List.cons_append]
    rw [uriText, ha.1, ih ha.2]
    rfl
  | case3 c cs hc ih =>
    simp only [Bool.and_eq_true, decide_eq_true_eq] at ha
    rw [List.cons_append, uriText_cons ha.1.1, ha.1.2, ih ha.2, Bool.true_and]

/-- A text without `%` says what is written. -/
theorem percentDecode_of_plain (h : '%' ∉ s) : percentDecode s = s := by
  fun_induction percentDecode s with
  | case1 => rfl
  | case2 a b cs => exact absurd List.mem_cons_self h
  | case3 a b cs => exact absurd List.mem_cons_self h
  | case4 c cs _ ih => rw [ih (List.not_mem_of_not_mem_cons h)]

theorem length_percentDecode_le (s : List Char) : (percentDecode s).length ≤ s.length := by
  fun_induction percentDecode s with
  | case1 => exact le_rfl
  | case2 a b cs hhex ih => simp only [List.length_cons]; omega
  | case3 a b cs hhex ih => simpa using ih
  | case4 c cs _ ih => simpa using ih

/-- A text of a part with a `%` says something shorter. -/
theorem length_percentDecode_lt (h : uriText extra s = true) (hmem : '%' ∈ s) :
    (percentDecode s).length < s.length := by
  fun_induction uriText extra s with
  | case1 => cases hmem
  | case2 a b cs =>
    -- an escape: three characters become one
    rw [Bool.and_eq_true] at h
    rw [percentDecode, if_pos h.1]
    have hle := length_percentDecode_le cs
    simp only [List.length_cons]
    omega
  | case3 c cs hc ih =>
    -- a plain character: the escape is further on
    simp only [Bool.and_eq_true, decide_eq_true_eq] at h
    have hrest := ih h.2 ((List.mem_cons.mp hmem).resolve_left (Ne.symm h.1.1))
    rw [percentDecode]
    · simpa using hrest
    · exact hc

/-- A text that does not get shorter has no `%`. -/
theorem plain_of_le_length (h : uriText extra s = true)
    (hlen : s.length ≤ (percentDecode s).length) : '%' ∉ s := fun hmem =>
  absurd hlen (length_percentDecode_lt h hmem).not_ge

end Texts

/-! ### Hosts -/

/-- What a host has besides: the brackets, and the colons between them. -/
def isHostExtra (c : Char) : Bool := ":[]".toList.contains c

theorem uriText_of_isHost {s : List Char} (h : isHost s = true) :
    uriText isHostExtra s = true := by
  unfold isHost at h
  split at h
  · next cs =>
    -- a bracketed host: the brackets are host characters, what is between them an address
    simp only [Bool.and_eq_true, decide_eq_true_eq, isAddress] at h
    obtain ⟨⟨haddress, -⟩, hclose⟩ := h
    -- the closing bracket is the last character
    have hsplit : cs = cs.takeWhile (· ≠ ']') ++ [']'] := by
      conv_lhs => rw [← List.takeWhile_append_dropWhile (p := (· ≠ ']')) (l := cs), hclose]
    have hinner : uriText isHostExtra (cs.takeWhile (· ≠ ']')) = true := by
      refine uriText_mono (fun c hc => ?_) haddress
      rw [of_decide_eq_true hc]
      decide
    rw [uriText_cons (by decide), hsplit, uriText_append hinner]
    decide
  · exact uriText_mono (fun _ h => Bool.noConfusion h) h

/-- A host is all that is taken for one. -/
theorem splitHost_of_isHost {s : List Char} (h : isHost s = true) : splitHost s = (s, []) := by
  unfold isHost at h
  split at h
  · next cs =>
    simp only [Bool.and_eq_true, decide_eq_true_eq] at h
    rw [splitHost, h.2]
    simp only [List.take_succ_cons, List.take_zero, List.drop_succ_cons, List.drop_zero]
    rw [← h.2, List.takeWhile_append_dropWhile]
  · next hbracket =>
    have hcolon := not_mem_of_uriText h (c := ':') (by decide) (by decide)
    have hall : ∀ c ∈ s, decide (c ≠ ':') = true :=
      fun c hc => decide_eq_true fun heq => hcolon (heq ▸ hc)
    rw [splitHost]
    · rw [List.takeWhile_eq_self_iff.mpr hall, List.dropWhile_eq_nil_iff.mpr hall]
    · exact hbracket

theorem splitAuthority_of_isHost {s : List Char} (h : isHost s = true) :
    splitAuthority s = some ⟨none, s, none⟩ := by
  have hat := not_mem_of_uriText (uriText_of_isHost h) (c := '@') (by decide) (by decide)
  have hnil : s.dropWhile (· ≠ '@') = [] :=
    List.dropWhile_eq_nil_iff.mpr fun c hc => decide_eq_true fun heq => hat (heq ▸ hc)
  rw [splitAuthority, hnil]
  simp [splitHostPort, splitHost_of_isHost h, splitPort, h]

/-- Nothing of an authority is lost behind its user. -/
theorem splitHost_append (s : List Char) : (splitHost s).1 ++ (splitHost s).2 = s := by
  unfold splitHost
  split
  · next cs =>
    simp only [List.cons_append, List.append_assoc, List.take_append_drop,
      List.takeWhile_append_dropWhile]
  · exact List.takeWhile_append_dropWhile

theorem splitHostPort_spec {user : Option (List Char)} {s : List Char} {authority : Authority}
    (h : splitHostPort user s = some authority) :
    authority.host = (splitHost s).1 ∧ isHost authority.host = true := by
  obtain ⟨port, -, h⟩ := Option.bind_eq_some_iff.mp h
  split at h
  · next hhost =>
    obtain rfl := Option.some.inj h
    exact ⟨rfl, hhost⟩
  · cases h

/-- **An authority that says its host and nothing else** is that host, written without `%`. -/
theorem eq_of_host {s : List Char} {authority : Authority}
    (h : splitAuthority s = some authority)
    (hlen : s.length ≤ (percentDecode authority.host).length) :
    authority.host = s ∧ isHost s = true ∧ '%' ∉ s := by
  have hle := length_percentDecode_le authority.host
  -- the authority has no user part, for else the host would be shorter than it
  have hwhole : splitHostPort none s = some authority := by
    unfold splitAuthority at h
    split at h
    · next cs hat =>
      -- a user and its delimiter make the authority longer than the host
      split at h
      · have hhost := (splitHostPort_spec h).1
        have hcs := congrArg List.length (splitHost_append cs)
        have hs := congrArg List.length (List.takeWhile_append_dropWhile (p := (· ≠ '@')) (l := s))
        rw [hat] at hs
        rw [← hhost] at hcs
        simp only [List.length_append, List.length_cons] at hcs hs
        omega
      · cases h
    · exact h
  obtain ⟨hhost, hvalid⟩ := splitHostPort_spec hwhole
  have hcs := congrArg List.length (splitHost_append s)
  rw [List.length_append, ← hhost] at hcs
  -- nor a port, by the same count
  have hsame : authority.host = s := by
    have hrest : (splitHost s).2 = [] := List.length_eq_zero_iff.mp (by omega)
    rw [hhost, ← List.append_nil (splitHost s).1, ← hrest, splitHost_append]
  rw [hsame] at hvalid hlen
  exact ⟨hsame, hvalid, plain_of_le_length (uriText_of_isHost hvalid) hlen⟩

/-! ### What is read back -/

section TakeWhile

variable {α : Type} {p : α → Bool} {a b : List α}

/-- A part up to a delimiter. -/
theorem takeWhile_joined (ha : ∀ c ∈ a, p c = true) (hb : ∀ c ∈ b.head?, p c = false) :
    (a ++ b).takeWhile p = a := by
  rw [List.takeWhile_append_of_pos ha]
  cases b with
  | nil => rw [List.takeWhile_nil, List.append_nil]
  | cons c b =>
    rw [List.takeWhile_cons_of_neg (by rw [hb c rfl]; exact Bool.false_ne_true), List.append_nil]

theorem dropWhile_joined (ha : ∀ c ∈ a, p c = true) (hb : ∀ c ∈ b.head?, p c = false) :
    (a ++ b).dropWhile p = b := by
  rw [List.dropWhile_append_of_pos ha]
  cases b with
  | nil => rfl
  | cons c b => rw [List.dropWhile_cons_of_neg (by rw [hb c rfl]; exact Bool.false_ne_true)]

end TakeWhile

/-- The scheme of a URI. -/
theorem splitUri_scheme {scheme cs : List Char} (h : ':' ∉ scheme) :
    splitUri (scheme ++ ':' :: '/' :: '/' :: cs) = splitHierarchy scheme cs := by
  have hscheme : ∀ c ∈ scheme, decide (c ≠ ':') = true :=
    fun c hc => decide_eq_true fun heq => h (heq ▸ hc)
  have hcolon : ∀ c ∈ (':' :: '/' :: '/' :: cs).head?, decide (c ≠ ':') = false := by
    intro c hc
    obtain rfl : ':' = c := Option.some.inj hc
    rfl
  rw [splitUri, dropWhile_joined hscheme hcolon, takeWhile_joined hscheme hcolon]
  rfl

/-- **The parts that a URI was put together of.** -/
theorem splitHierarchy_joined {scheme host path tail : List Char} (hhost : isHost host = true)
    (hstop : ∀ c ∈ (path ++ tail).head?, isAuthorityChar c = false)
    (hpath : ∀ c ∈ path, isPathChar c = true) (htext : uriText isPathExtra path = true)
    (htail : ∀ c ∈ tail.head?, isPathChar c = false) :
    splitHierarchy scheme (host ++ (path ++ tail)) =
      (splitQuery tail).map fun query => ⟨scheme, ⟨none, host, none⟩, path, query⟩ := by
  have hchars : ∀ c ∈ host, isAuthorityChar c = true := by
    -- none of the three characters that end an authority can stand in a host
    intro c hc
    have hnot {x : Char} (hx : x ≠ '%')
        (h : (isUnreserved x || isSubDelim x || isHostExtra x) = false) : c ≠ x :=
      fun heq => not_mem_of_uriText (uriText_of_isHost hhost) hx h (heq ▸ hc)
    simp only [isAuthorityChar, Bool.and_eq_true, decide_eq_true_eq]
    exact ⟨⟨hnot (by decide) (by decide), hnot (by decide) (by decide)⟩,
      hnot (by decide) (by decide)⟩
  simp only [splitHierarchy, takeWhile_joined hchars hstop, dropWhile_joined hchars hstop,
    takeWhile_joined hpath htail, dropWhile_joined hpath htail, splitAuthority_of_isHost hhost,
    htext]
  cases splitQuery tail <;> rfl

/-- Whatever follows it, what is read as the host is a host written without `%`, if it is all of
the text up to a delimiter. -/
theorem isHost_of_splitHierarchy {scheme host rest : List Char} {parts : UriParts}
    (hstop : ∀ c ∈ rest.head?, isAuthorityChar c = false)
    (h : splitHierarchy scheme (host ++ rest) = some parts) (hhost : parts.host = host) :
    isHost host = true ∧ '%' ∉ host := by
  -- the authority read is no longer than the host that stands in the text
  have hlen : ((host ++ rest).takeWhile isAuthorityChar).length ≤ host.length := by
    by_cases hall : ∀ c ∈ host, isAuthorityChar c = true
    · rw [takeWhile_joined hall hstop]
    · rw [List.takeWhile_append, if_neg fun h => hall (List.takeWhile_eq_self_iff.mp
        ((List.takeWhile_prefix _).eq_of_length h))]
      exact (List.takeWhile_prefix _).length_le
  simp only [splitHierarchy, Option.bind_eq_bind, Option.bind_eq_some_iff] at h
  obtain ⟨authority, hauthority, -, -, query, -, h⟩ := h
  obtain rfl := Option.some.inj h
  have hsays : percentDecode authority.host = host := hhost
  obtain ⟨hsame, hvalid, hplain⟩ := eq_of_host hauthority (hlen.trans_eq (congrArg _ hsays.symm))
  rw [hsame, percentDecode_of_plain hplain] at hsays
  rw [← hsays]
  exact ⟨hvalid, hplain⟩

/-! ### Queries -/

/-- A query that is read is the text up to the fragment. -/
theorem splitQuery_eq_some {cs : List Char} {query : Option (List Char)}
    (h : splitQuery ('?' :: cs) = some query) :
    query = some (cs.takeWhile isQueryChar) ∧
      uriText isQueryExtra (cs.takeWhile isQueryChar) = true := by
  rw [splitQuery] at h
  split at h
  · next hvalid =>
    rw [Bool.and_eq_true] at hvalid
    exact ⟨(Option.some.inj h).symm, hvalid.1⟩
  · cases h

/-- A text that may be a query is one. -/
theorem splitQuery_of_text {cs : List Char} (h : uriText isQueryExtra cs = true) :
    splitQuery ('?' :: cs) = some (some cs) := by
  have hsharp := not_mem_of_uriText h (c := '#') (by decide) (by decide)
  have hall : ∀ c ∈ cs, isQueryChar c = true :=
    fun c hc => decide_eq_true fun heq => hsharp (heq ▸ hc)
  rw [splitQuery, List.takeWhile_eq_self_iff.mpr hall, List.dropWhile_eq_nil_iff.mpr hall, h]
  rfl

/-! ### Parameters -/

/-- A part has no separator. -/
theorem not_mem_of_mem_splitOn {α : Type} [DecidableEq α] {sep : α} {s part : List α}
    (h : part ∈ s.splitOn sep) : sep ∉ part := by
  -- on the text; a separator starts a new part, any other character extends the first
  induction s generalizing part with
  | nil =>
    rw [List.splitOn_nil, List.mem_singleton] at h
    exact h ▸ List.not_mem_nil
  | cons c s ih =>
    rw [List.splitOn_cons_eq_if_modifyHead] at h
    split at h
    · rcases List.mem_cons.mp h with rfl | h
      · exact List.not_mem_nil
      · exact ih h
    -- the character is put in front of the first part of the rest
    · next hc =>
      obtain ⟨first, rest, hsplit⟩ := List.exists_cons_of_ne_nil (List.splitOn_ne_nil sep s)
      rw [hsplit, List.modifyHead_cons] at h
      rcases List.mem_cons.mp h with rfl | h
      · intro hmem
        rcases List.mem_cons.mp hmem with heq | hmem
        · exact hc (beq_iff_eq.mpr heq.symm)
        · exact ih (hsplit ▸ List.mem_cons_self) hmem
      · exact ih (hsplit ▸ List.mem_cons_of_mem _ h)

/-- The separators are lost. -/
theorem sum_length_splitOn {α : Type} [DecidableEq α] (sep : α) (s : List α) :
    ((s.splitOn sep).map List.length).sum + (s.splitOn sep).length = s.length + 1 := by
  induction s with
  | nil => rfl
  | cons c s ih =>
    rw [List.splitOn_cons_eq_if_modifyHead]
    split
    · simp only [List.map_cons, List.length_nil, List.sum_cons, List.length_cons]
      omega
    · obtain ⟨first, rest, hsplit⟩ := List.exists_cons_of_ne_nil (List.splitOn_ne_nil sep s)
      rw [hsplit] at ih ⊢
      simp only [List.modifyHead_cons, List.map_cons, List.sum_cons, List.length_cons] at ih ⊢
      omega

section Parameters

variable {s p q : List Char}

/-- **A single parameter** that is not longer than the query is said by it when it is the query,
with no `%` to decode and no separator. -/
theorem params_perm_singleton_iff {extra : Char → Bool} (h : uriText extra s = true)
    (hlen : s.length ≤ p.length) :
    ((s.splitOn '&').map percentDecode).Perm [p] ↔ s = p ∧ '%' ∉ p ∧ '&' ∉ p := by
  rw [List.perm_singleton]
  refine ⟨fun hparams => ?_, fun ⟨hs, hpercent, hsep⟩ => ?_⟩
  -- one parameter only: nothing was split off and nothing decoded
  · obtain ⟨part, hpart, hsays⟩ := List.map_eq_singleton_iff.mp hparams
    have hjoin : ['&'].intercalate (s.splitOn '&') = s := List.intercalate_splitOn '&'
    rw [hpart, List.intercalate_singleton] at hjoin
    subst hjoin
    have hsep := not_mem_of_mem_splitOn (hpart ▸ List.mem_singleton_self part)
    have hplain := plain_of_le_length h (hlen.trans_eq (congrArg _ hsays.symm))
    rw [percentDecode_of_plain hplain] at hsays
    subst hsays
    exact ⟨rfl, hplain, hsep⟩
  · subst hs
    rw [List.splitOn_eq_singleton hsep, List.map_singleton, percentDecode_of_plain hpercent]

/-- Two parameters need a separator between them. -/
theorem not_params_perm_pair (hlen : s.length ≤ p.length + q.length) :
    ¬ ((s.splitOn '&').map percentDecode).Perm [p, q] := by
  intro hparams
  have hcount : (s.splitOn '&').length = 2 := by simpa using hparams.length_eq
  obtain ⟨a, b, hparts⟩ := List.length_eq_two.mp hcount
  have hsum := sum_length_splitOn '&' s
  have htotal := (hparams.map List.length).sum_nat
  rw [hparts] at hsum htotal
  have ha := length_percentDecode_le a
  have hb := length_percentDecode_le b
  simp only [List.map_cons, List.map_nil, List.sum_cons, List.sum_nil, List.length_cons,
    List.length_nil] at hsum htotal
  omega

end Parameters

end Framework
