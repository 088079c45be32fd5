import LibvirtCim.Framework.Hexadecimal
import LibvirtCim.Framework.Xml

/-!
# Documents as they are written

A document is a text and a tree. `Item` is what both can be read off: the text with its
references, comments and blanks in tags (`Item.write`), and the tree that a parser builds from it
(`Item.nodes`).

`afterFirst` is the search of a text for a pattern. A pattern that starts with the character that
starts markup, and has it nowhere else, is not found across the beginning of markup
(`afterFirst_append_of_none`).
-/

namespace Framework

/-! ### The first occurrence -/

section Search

variable {α : Type} [DecidableEq α]

/-- What follows the first occurrence of a pattern that is not empty. -/
def afterFirst (pat : List α) : List α → Option (List α)
  | [] => none
  | c :: cs =>
    if pat.isPrefixOf (c :: cs) then some ((c :: cs).drop pat.length) else afterFirst pat cs

variable {m : α} {p : List α}

theorem length_le_of_afterFirst {pat s r : List α} (h : afterFirst pat s = some r) :
    pat.length ≤ s.length := by
  induction s with
  | nil => cases h
  | cons c cs ih =>
    rw [afterFirst] at h
    split at h
    · next hpre => exact (List.isPrefixOf_iff_prefix.mp hpre).length_le
    · exact (ih h).trans (Nat.le_succ _)

/-- An occurrence is still the first one when the text goes on. -/
theorem afterFirst_append_of_some {pat a r : List α} (h : afterFirst pat a = some r)
    (b : List α) : afterFirst pat (a ++ b) = some (r ++ b) := by
  -- on the text in front of the match
  induction a with
  | nil => cases h
  | cons c cs ih =>
    have hlen := length_le_of_afterFirst h
    rw [afterFirst] at h
    rw [List.cons_append, afterFirst]
    split at h
    · next hpre =>
      -- the match is at the front, and the rest grows behind it
      have hle := List.isPrefixOf_iff_prefix.mp hpre
      have hpre' : pat.isPrefixOf (c :: (cs ++ b)) = true :=
        List.isPrefixOf_iff_prefix.mpr (hle.trans (List.prefix_append (c :: cs) b))
      rw [if_pos hpre', ← Option.some.inj h, ← List.cons_append,
        List.drop_append_of_le_length hlen]
    · next hpre =>
      -- what begins here would have to end in `a`, where something begins later
      have hpre' : ¬ pat.isPrefixOf (c :: (cs ++ b)) = true := by
        intro hlong
        apply hpre
        apply List.isPrefixOf_iff_prefix.mpr
        exact List.prefix_of_prefix_length_le (List.isPrefixOf_iff_prefix.mp hlong)
          (List.prefix_append (c :: cs) b) hlen
      rw [if_neg hpre', ih h]

/-- What is not in the text before markup begins is not across that beginning. -/
theorem afterFirst_append_of_none (hm : m ∉ p) {a : List α} (h : afterFirst (m :: p) a = none)
    (b : List α) : afterFirst (m :: p) (a ++ m :: b) = afterFirst (m :: p) (m :: b) := by
  -- on the text in front of the mark
  induction a with
  | nil => rfl
  | cons c cs ih =>
    rw [afterFirst] at h
    split at h
    · cases h
    · next hpre =>
      have hpre' : ¬ (m :: p).isPrefixOf (c :: (cs ++ m :: b)) = true := by
        intro hlong
        rw [List.isPrefixOf_iff_prefix, List.cons_prefix_cons] at hlong
        rw [List.isPrefixOf_iff_prefix, List.cons_prefix_cons] at hpre
        refine hpre ⟨hlong.1, ?_⟩
        by_cases hlen : p.length ≤ cs.length
        · exact List.prefix_of_prefix_length_le hlong.2 (List.prefix_append cs _) hlen
        · -- the pattern would have the character of markup once more
          exfalso
          apply hm
          have hshort : (cs ++ [m]) <+: p := by
            apply List.prefix_of_prefix_length_le _ hlong.2
            · rw [List.length_append, List.length_singleton]
              omega
            · exact ⟨b, by rw [List.append_assoc, List.singleton_append]⟩
          exact hshort.subset (List.mem_append_right cs (List.mem_singleton_self m))
      rw [List.cons_append, afterFirst, if_neg hpre', ih h]

theorem afterFirst_append_of_notMem {a : List α} (h : m ∉ a) (b : List α) :
    afterFirst (m :: p) (a ++ b) = afterFirst (m :: p) b := by
  induction a with
  | nil => rfl
  | cons c cs ih =>
    rw [List.mem_cons, not_or] at h
    have hpre : ¬ (m :: p).isPrefixOf (c :: (cs ++ b)) = true := by
      intro hpre
      rw [List.isPrefixOf_iff_prefix, List.cons_prefix_cons] at hpre
      exact h.1 hpre.1
    rw [List.cons_append, afterFirst, if_neg hpre, ih h.2]

theorem afterFirst_self (pat b : List α) (hpat : pat ≠ []) :
    afterFirst pat (pat ++ b) = some b := by
  obtain ⟨c, cs, rfl⟩ := List.exists_cons_of_ne_nil hpat
  rw [List.cons_append, afterFirst, ← List.cons_append,
    if_pos (List.isPrefixOf_iff_prefix.mpr (List.prefix_append _ _)), List.drop_left]

/-- The text up to a character, where the character comes. -/
theorem takeWhile_append_cons (r b : List α) :
    (r ++ m :: b).takeWhile (· ≠ m) = r.takeWhile (· ≠ m) := by
  induction r with
  | nil => rw [List.nil_append, List.takeWhile_cons_of_neg (by simp)]; rfl
  | cons c cs ih =>
    rw [List.cons_append, List.takeWhile_cons, List.takeWhile_cons, ih]

end Search

theorem textValues_append (ns ns' : List Node) :
    Node.textValue.textValues (ns ++ ns') =
      Node.textValue.textValues ns ++ Node.textValue.textValues ns' := by
  induction ns with
  | nil => exact String.empty_append.symm
  | cons n ns ih =>
    rw [List.cons_append, Node.textValue.textValues, Node.textValue.textValues, ih,
      String.append_assoc]

/-! ### Character data -/

/-- What a reference stands for: one of the predefined entities, or a character by its number. -/
def refValue (name : List Char) : Option Char :=
  if name = "amp".toList then some '&'
  else if name = "lt".toList then some '<'
  else if name = "gt".toList then some '>'
  else if name = "quot".toList then some '"'
  else if name = "apos".toList then some '\''
  else
    match name with
    | '#' :: 'x' :: ds =>
      if ds ≠ [] ∧ ds.all isHexDigit then some (Char.ofNat (ofHexDigits ds)) else none
    | '#' :: ds =>
      if ds ≠ [] ∧ ds.all Char.isDigit then some (Char.ofNat (Nat.ofDigitChars 10 ds 0)) else none
    | _ => none

/-- A character as it is written: by itself, as the end of a line of another system, or by a
reference. -/
inductive Piece
  | plain (c : Char) (noMarkup : c ≠ '<' ∧ c ≠ '&' ∧ c ≠ '\r')
  | lineEnd (crlf : Bool)
  | reference (name : List Char) (value : Char) (stands : refValue name = some value)

namespace Piece

def written : Piece → List Char
  | .plain c _ => [c]
  | .lineEnd true => ['\r', '\n']
  | .lineEnd false => ['\r']
  | .reference name _ _ => '&' :: (name ++ [';'])

/-- The character that a parser reads. -/
def value : Piece → Char
  | .plain c _ => c
  | .lineEnd _ => '\n'
  | .reference _ value _ => value

/-- The same in the value of an attribute, where blanks are spaces. -/
def attrValue : Piece → Char
  | .plain c _ => if c = '\n' ∨ c = '\t' then ' ' else c
  | .lineEnd _ => ' '
  | .reference _ value _ => value

def isPlain : Piece → Bool
  | .plain _ _ => true
  | .lineEnd _ => false
  | .reference _ _ _ => false

end Piece

theorem notMem_of_refValue {name : List Char} {value : Char} (h : refValue name = some value) :
    '<' ∉ name := by
  intro hmem
  -- the names are the five predefined ones and the two numeric forms
  unfold refValue at h
  split_ifs at h with hamp hlt hgt hquot hapos
  · exact absurd (hamp ▸ hmem) (by decide)
  · exact absurd (hlt ▸ hmem) (by decide)
  · exact absurd (hgt ▸ hmem) (by decide)
  · exact absurd (hquot ▸ hmem) (by decide)
  · exact absurd (hapos ▸ hmem) (by decide)
  -- what stands behind `#` is made of digits
  · split at h
    · next ds =>
      split_ifs at h with hds
      have hin : '<' ∈ ds := by simpa using hmem
      exact absurd (List.all_eq_true.mp hds.2 _ hin) (by decide)
    · next ds _ =>
      split_ifs at h with hds
      have hin : '<' ∈ ds := by simpa using hmem
      exact absurd (List.all_eq_true.mp hds.2 _ hin) (by decide)
    · cases h

/-- Character data begins no markup. -/
theorem notMem_written (piece : Piece) : '<' ∉ piece.written := by
  cases piece with
  | plain c hc =>
    rw [Piece.written, List.mem_singleton]
    exact Ne.symm hc.1
  | lineEnd crlf => cases crlf <;> decide
  | reference name value h =>
    have hname := notMem_of_refValue h
    simp [Piece.written, hname]

theorem length_map_value_le (pieces : List Piece) :
    (pieces.map Piece.value).length ≤ (pieces.flatMap Piece.written).length := by
  induction pieces with
  | nil => exact Nat.le_refl 0
  | cons piece pieces ih =>
    rw [List.map_cons, List.flatMap_cons, List.length_cons, List.length_append]
    have hone : 1 ≤ piece.written.length := by
      cases piece with
      | plain c hc => exact Nat.le_refl 1
      | lineEnd crlf => cases crlf <;> simp [Piece.written]
      | reference name value h => simp [Piece.written]
    omega

/-- **What is written is what is read** only where nothing is written by other characters. -/
theorem written_eq_value_iff (pieces : List Piece) :
    pieces.flatMap Piece.written = pieces.map Piece.value ↔
      ∀ piece ∈ pieces, piece.isPlain = true := by
  induction pieces with
  | nil => exact iff_of_true rfl fun _ h => nomatch h
  | cons piece pieces ih =>
    rw [List.forall_mem_cons, List.flatMap_cons, List.map_cons]
    cases piece with
    | plain c hc =>
      rw [and_iff_right (by rfl), ← ih]
      exact ⟨fun h => (List.cons.inj h).2, fun h => congrArg (c :: ·) h⟩
    | lineEnd crlf =>
      refine iff_of_false (fun h => ?_) (fun h => nomatch h.1)
      cases crlf <;> exact absurd (List.cons.inj h).1 (by decide)
    | reference name value h =>
      refine iff_of_false (fun heq => ?_) (fun h => nomatch h.1)
      -- a reference to `&` itself is still longer than what it stands for
      have hlen := congrArg List.length heq
      have hle := length_map_value_le pieces
      simp only [Piece.written, List.length_append, List.length_cons, List.length_nil] at hlen
      omega

/-! ### Markup -/

/-- White space in a tag. -/
inductive Space
  | space | tab | newline | ret
  deriving DecidableEq, Repr

def Space.char : Space → Char
  | .space => ' '
  | .tab => '\t'
  | .newline => '\n'
  | .ret => '\r'

/-- An attribute with the blanks before it. -/
structure Attribute where
  gap : Space × List Space := (.space, [])
  name : String
  value : List Piece
  doubleQuoted : Bool := false
  notMem_name : '<' ∉ name.toList

def Attribute.quote (attr : Attribute) : Char := if attr.doubleQuoted then '"' else '\''

def Attribute.write (attr : Attribute) : List Char :=
  attr.gap.1.char :: (attr.gap.2.map Space.char ++ (attr.name.toList ++
    '=' :: attr.quote :: (attr.value.flatMap Piece.written ++ [attr.quote])))

/-- The attribute as a parser reads it. -/
def Attribute.pair (attr : Attribute) : String × String :=
  (attr.name, String.ofList (attr.value.map Piece.attrValue))

/-- What the content of an element is made of. Of the grammar this is more than can be parsed,
as names and the bodies of comments are not restricted. -/
inductive Item
  | text (pieces : List Piece)
  | comment (body : List Char)
  | pi (target : String) (body : List Char)
  | elem (name : String) (attrs : List Attribute) (gap : List Space) (content : List Item)
    (endGap : List Space)
  | empty (name : String) (attrs : List Attribute) (gap : List Space)

/-- The inside of a start tag behind the name. -/
def writeTag (attrs : List Attribute) (gap : List Space) : List Char :=
  attrs.flatMap Attribute.write ++ gap.map Space.char

namespace Item

/-- The text of an item. -/
def write : Item → List Char
  | .text pieces => pieces.flatMap Piece.written
  | .comment body => "<!--".toList ++ body ++ "-->".toList
  | .pi target body => "<?".toList ++ target.toList ++ ' ' :: body ++ "?>".toList
  | .elem name attrs gap content endGap =>
    '<' :: (name.toList ++ (writeTag attrs gap ++ '>' :: (writeAll content ++
      '<' :: '/' :: (name.toList ++ (endGap.map Space.char ++ ['>'])))))
  | .empty name attrs gap => '<' :: (name.toList ++ (writeTag attrs gap ++ ['/', '>']))
where
  /-- The text of a content. -/
  writeAll : List Item → List Char
    | [] => []
    | item :: items => write item ++ writeAll items

/-- The nodes of an item. -/
def nodes : Item → List Node
  | .text pieces => textNodes (String.ofList (pieces.map Piece.value))
  | .comment body => [.comment (String.ofList body)]
  | .pi target body => [.pi target (String.ofList body)]
  | .elem name attrs _ content _ => [.elem name (attrs.map Attribute.pair) (nodesAll content)]
  | .empty name attrs _ => [.elem name (attrs.map Attribute.pair) []]
where
  /-- The nodes of a content. -/
  nodesAll : List Item → List Node
    | [] => []
    | item :: items => nodes item ++ nodesAll items

/-- The character data that a content begins with. -/
def leadingText : List Item → List Piece
  | .text pieces :: items => pieces ++ leadingText items
  | _ => []

/-- What stands behind that character data. -/
def behindText : List Item → List Item
  | .text _ :: items => behindText items
  | items => items

end Item

/-- The text of a content begins with its leading character data. -/
theorem textValues_nodesAll (items : List Item) :
    Node.textValue.textValues (Item.nodes.nodesAll items) =
      String.ofList ((Item.leadingText items).map Piece.value) ++
        Node.textValue.textValues (Item.nodes.nodesAll (Item.behindText items)) := by
  -- on the items; only text at the front is kept, and it is kept piece by piece
  induction items with
  | nil => rfl
  | cons item items ih =>
    cases item with
    | text pieces =>
      rw [Item.nodes.nodesAll, Item.nodes, textValues_append, textValues_textNodes, ih,
        Item.leadingText, Item.behindText, List.map_append, String.ofList_append,
        String.append_assoc]
    | comment body => exact String.empty_append.symm
    | pi target body => exact String.empty_append.symm
    | elem name attrs gap content endGap => exact String.empty_append.symm
    | empty name attrs gap => exact String.empty_append.symm

theorem flatMap_written_eq_nil_iff (pieces : List Piece) :
    pieces.flatMap Piece.written = [] ↔ pieces = [] := by
  refine ⟨fun h => ?_, fun h => by rw [h]; rfl⟩
  have hle := length_map_value_le pieces
  rw [h, List.length_map, List.length_nil] at hle
  exact List.eq_nil_of_length_eq_zero (Nat.le_zero.mp hle)

theorem notMem_space (s : Space) : '<' ≠ s.char := by
  cases s <;> decide

theorem notMem_writeTag (attrs : List Attribute) (gap : List Space) : '<' ∉ writeTag attrs gap := by
  -- no part of an attribute is a `<`: white space, name, quote or value
  have hgap : ∀ spaces : List Space, '<' ∉ spaces.map Space.char := by
    intro spaces hmem
    obtain ⟨s, -, hs⟩ := List.mem_map.mp hmem
    exact notMem_space s hs.symm
  have hattr : ∀ attr : Attribute, '<' ∉ attr.write := by
    intro attr
    have hvalue : '<' ∉ attr.value.flatMap Piece.written := by
      intro hmem
      obtain ⟨piece, -, hpiece⟩ := List.mem_flatMap.mp hmem
      exact notMem_written piece hpiece
    have hquote : '<' ≠ attr.quote := by
      unfold Attribute.quote
      split <;> decide
    -- the attribute part by part, in the order it is written
    simp only [Attribute.write, List.mem_cons, List.mem_append, not_or]
    exact ⟨notMem_space _, hgap _, attr.notMem_name, by decide, hquote, hvalue, hquote,
      List.not_mem_nil⟩
  rw [writeTag, List.mem_append, not_or]
  refine ⟨fun hmem => ?_, hgap gap⟩
  obtain ⟨attr, -, hmem⟩ := List.mem_flatMap.mp hmem
  exact hattr attr hmem

/-- A tag that holds more than its name goes on with a blank. -/
theorem exists_space_writeTag {attrs : List Attribute} {gap : List Space}
    (h : writeTag attrs gap ≠ []) : ∃ s cs, writeTag attrs gap = Space.char s :: cs := by
  cases attrs with
  | cons attr attrs => exact ⟨attr.gap.1, _, rfl⟩
  | nil =>
    cases gap with
    | cons s gap => exact ⟨s, _, rfl⟩
    | nil => exact absurd rfl h

/-- **The text up to the first markup** is the leading character data. -/
theorem takeWhile_writeAll (items : List Item) (b : List Char) :
    (Item.write.writeAll items ++ '<' :: b).takeWhile (· ≠ '<') =
      (Item.leadingText items).flatMap Piece.written := by
  -- on the items; text is written without `<`, anything else begins with it
  induction items with
  | nil => exact List.takeWhile_cons_of_neg (by simp)
  | cons item items ih =>
    rw [Item.write.writeAll, List.append_assoc]
    cases item with
    | text pieces =>
      have hplain : ∀ c ∈ pieces.flatMap Piece.written, decide (c ≠ '<') = true := by
        intro c hc
        obtain ⟨piece, -, hpiece⟩ := List.mem_flatMap.mp hc
        rw [decide_eq_true_eq]
        rintro rfl
        exact notMem_written piece hpiece
      rw [Item.write, List.takeWhile_append_of_pos hplain, ih, Item.leadingText,
        List.flatMap_append]
    | comment body => rfl
    | pi target body => rfl
    | elem name attrs gap content endGap => rfl
    | empty name attrs gap => rfl

end Framework
