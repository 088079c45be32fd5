import LibvirtCim.Framework.Xml
import Mathlib.Tactic.Tauto

/-!
# Well-formed trees

A tree is well formed when a serializer can write it: every text is made of characters
that XML can represent, names are XML names, no element has two attributes of a name, and
no entity is referred to, since none is declared. A serializer escapes whatever is markup
in a text or in the value of an attribute, so that nothing more is asked of them.
-/

namespace Framework

/-- A text of XML characters. -/
def XmlText (s : String) : Prop :=
  ∀ c ∈ s.toList, isXmlChar c = true

instance (s : String) : Decidable (XmlText s) :=
  List.decidableBAll _ s.toList

theorem plainText_iff {s : String} : PlainText s ↔ XmlText s ∧ '&' ∉ s.toList := by
  constructor
  · intro h
    refine ⟨fun c hc => (h c hc).1, fun hamp => ?_⟩
    exact (h '&' hamp).2 rfl
  · rintro ⟨htext, hamp⟩ c hc
    refine ⟨htext c hc, ?_⟩
    rintro rfl
    exact hamp hc

/-- The ranges of the characters that start a name, beside those of ASCII. -/
def nameStartRanges : List (Nat × Nat) :=
  [(0xC0, 0xD6), (0xD8, 0xF6), (0xF8, 0x2FF), (0x370, 0x37D), (0x37F, 0x1FFF), (0x200C, 0x200D),
    (0x2070, 0x218F), (0x2C00, 0x2FEF), (0x3001, 0xD7FF), (0xF900, 0xFDCF), (0xFDF0, 0xFFFD),
    (0x10000, 0xEFFFF)]

/-- A character a name can start with. -/
def isNameStartChar (c : Char) : Bool :=
  c.isAlpha || c = ':' || c = '_' ||
    nameStartRanges.any fun (first, last) => first ≤ c.toNat && c.toNat ≤ last

/-- A character of a name. -/
def isNameChar (c : Char) : Bool :=
  isNameStartChar c || c.isDigit || c = '-' || c = '.' || c.toNat = 0xB7 ||
    [(0x300, 0x36F), (0x203F, 0x2040)].any fun (first, last) =>
      first ≤ c.toNat && c.toNat ≤ last

/-- The characters are those of a name. -/
def isXmlName : List Char → Bool
  | [] => false
  | c :: cs => isNameStartChar c && cs.all isNameChar

/-- A name of XML. -/
def XmlName (s : String) : Prop :=
  isXmlName s.toList = true

instance (s : String) : Decidable (XmlName s) :=
  inferInstanceAs (Decidable (isXmlName s.toList = true))

/-- The keys of attributes. -/
def keys (attrs : List (String × String)) : List String :=
  attrs.map Prod.fst

@[simp] theorem keys_nil : keys [] = [] := rfl

@[simp] theorem keys_cons (key value : String) (attrs : List (String × String)) :
    keys ((key, value) :: attrs) = key :: keys attrs := rfl

@[simp] theorem keys_append (attrs attrs' : List (String × String)) :
    keys (attrs ++ attrs') = keys attrs ++ keys attrs' :=
  List.map_append

/-- Attributes that can be written: names of XML, no two of them the same, with texts. -/
def AttrsWellFormed (attrs : List (String × String)) : Prop :=
  (∀ attr ∈ attrs, XmlName attr.1 ∧ XmlText attr.2) ∧ (keys attrs).Nodup

instance (attrs : List (String × String)) : Decidable (AttrsWellFormed attrs) :=
  @instDecidableAnd _ _ (List.decidableBAll _ attrs) (List.nodupDecidable _)

theorem attrsWellFormed_nil : AttrsWellFormed [] :=
  ⟨nofun, List.nodup_nil⟩

theorem attrsWellFormed_cons {key value : String} {attrs : List (String × String)} :
    AttrsWellFormed ((key, value) :: attrs) ↔
      XmlName key ∧ XmlText value ∧ key ∉ keys attrs ∧ AttrsWellFormed attrs := by
  simp only [AttrsWellFormed, List.forall_mem_cons, keys, List.map_cons, List.nodup_cons]
  tauto

namespace Node

/-- The tree can be written. -/
def WellFormed : Node → Prop
  | .elem name attrs children => XmlName name ∧ AttrsWellFormed attrs ∧ AllWellFormed children
  | .text content => XmlText content
  -- a comment ends at two hyphens
  | .comment content =>
    XmlText content ∧ ¬ ['-', '-'] <:+: content.toList ∧ ¬ ['-'] <:+ content.toList
  | .pi target content =>
    XmlName target ∧ target.map Char.toLower ≠ "xml" ∧ XmlText content ∧
      ¬ ['?', '>'] <:+: content.toList
  | .entityRef _ => False
where
  /-- The trees can be written. -/
  AllWellFormed : List Node → Prop
    | [] => True
    | n :: ns => WellFormed n ∧ AllWellFormed ns

theorem allWellFormed_iff {nodes : List Node} :
    WellFormed.AllWellFormed nodes ↔ ∀ node ∈ nodes, node.WellFormed := by
  induction nodes with
  | nil => simp [WellFormed.AllWellFormed]
  | cons node nodes ih => simp [WellFormed.AllWellFormed, ih]

theorem wellFormed_elem {name : String} {attrs : List (String × String)} {children : List Node} :
    (elem name attrs children).WellFormed ↔
      XmlName name ∧ AttrsWellFormed attrs ∧ ∀ child ∈ children, child.WellFormed := by
  rw [WellFormed, allWellFormed_iff]

end Node

/-- The nodes of a text can be written if its characters can. -/
theorem wellFormed_textNodes {s : String} :
    (∀ node ∈ textNodes s, node.WellFormed) ↔ XmlText s := by
  unfold textNodes
  split
  · next h =>
    rw [h]
    simp [XmlText]
  · simp [Node.WellFormed]

end Framework
