import LibvirtCim.Device.Dominfo
import LibvirtCim.Framework.Fold
import LibvirtCim.Indication.Lifecycle

/-!
# The name in an indication

The polling worker takes the name of a system from the text of its domain (`sys_name_from_xml`):
what stands between the first `<name>` and the next `<`. Everyone else takes it from the tree.

`namesAgree_iff` says when the two are the same. The text knows neither comments nor other
elements of the name, and takes a reference for the characters it is written with.
-/

open Framework LibvirtCim.Device

namespace LibvirtCim.Indication

/-! ### Documents of domains -/

/-- A document: a root `domain` with a name. Of several names the last one counts, so that none
comes behind it. There are no sections of character data and no document type, and the name is
no empty tag. -/
structure DomainDoc where
  prolog : List Item := []
  attrs : List Attribute := []
  gap : List Space := []
  before : List Item
  nameAttrs : List Attribute := []
  nameGap : List Space := []
  content : List Item
  nameEndGap : List Space := []
  behind : List Item
  endGap : List Space := []
  epilog : List Item := []
  last_name : ∀ node ∈ Item.nodes.nodesAll behind, node.name ≠ "name"

namespace DomainDoc

variable (doc : DomainDoc)

/-- The root. -/
def tree : Node :=
  .elem "domain" (doc.attrs.map Attribute.pair)
    (Item.nodes.nodesAll doc.before ++
      .elem "name" (doc.nameAttrs.map Attribute.pair) (Item.nodes.nodesAll doc.content) ::
        Item.nodes.nodesAll doc.behind)

/-- The name of the tree. -/
def name : String := Node.textValue.textValues (Item.nodes.nodesAll doc.content)

/-- What stands before the name. -/
def head : List Char :=
  Item.write.writeAll doc.prolog ++ ("<domain".toList ++ (writeTag doc.attrs doc.gap ++
    '>' :: Item.write.writeAll doc.before))

/-- What stands behind the name's start tag. -/
def rest : List Char :=
  Item.write.writeAll doc.content ++ '<' :: '/' :: ("name".toList ++
    (doc.nameEndGap.map Space.char ++ '>' :: (Item.write.writeAll doc.behind ++
      ("</domain".toList ++ (doc.endGap.map Space.char ++
        '>' :: Item.write.writeAll doc.epilog)))))

/-- The whole text. -/
def text : List Char :=
  doc.head ++ '<' :: ("name".toList ++ (writeTag doc.nameAttrs doc.nameGap ++ '>' :: doc.rest))

/-- The name's start tag is the one that is searched for. -/
def plainTag : Bool := writeTag doc.nameAttrs doc.nameGap = []

end DomainDoc

/-! ### The reader of the tree -/

/-- Only a child of the name changes the name. -/
theorem name_parseDomainChild {s t : Device.Domain} {child : Node} (hchild : child.name ≠ "name")
    (h : parseDomainChild s child = .ok t) : t.name = s.name := by
  unfold parseDomainChild at h
  rw [if_neg hchild] at h
  -- no other child sets the name; the operating system is the one that may be refused
  split_ifs at h
  · cases h; rfl
  · cases h; rfl
  · cases h; rfl
  · unfold parseOs at h
    dsimp only at h
    split at h
    · cases h; rfl
    · cases h
  · cases h; rfl
  · cases h; rfl
  · cases h; rfl
  · cases h; rfl
  · cases h; rfl
  · cases h; rfl

/-- **The tree parser reads the last name.** -/
theorem name_of_tree {doc : DomainDoc} {dominfo : Device.Domain}
    (h : getDominfoFromXml doc.tree = .ok dominfo) : dominfo.name = some doc.name := by
  obtain ⟨settings, mdevs, hsettings, -, -, -, hdominfo⟩ := getDominfoFromXml_ok h
  have hname : settings.name = some doc.name := by
    rw [parseDomain, if_pos (by rfl), DomainDoc.tree, Node.children_elem, List.foldlM_append]
      at hsettings
    obtain ⟨s, -, hsettings⟩ := bind_eq_ok hsettings
    rw [List.foldlM_cons] at hsettings
    obtain ⟨s', hown, hsettings⟩ := bind_eq_ok hsettings
    have hread : s'.name = some doc.name := by
      cases hown
      rfl
    -- what comes behind has other names
    exact foldlM_invariant_mem (I := fun s => s.name = some doc.name)
      (fun child hchild s t hs hstep =>
        (name_parseDomainChild (doc.last_name child hchild) hstep).trans hs) hread hsettings
  rw [hdominfo]
  exact hname

/-! ### Where the text reader looks -/

/-- The place of the first `<name>` in the text: the name itself, or something else with the
characters that follow it up to the next `<`, or there is none. -/
inductive FirstName
  | own
  | other (follows : List Char)
  | nowhere

/-- The first `<name>` of a document: before the name, at the name, or inside and behind it when
the name's tag is not written in this way. -/
def DomainDoc.firstName (doc : DomainDoc) : FirstName :=
  match afterFirst nameTag doc.head with
  | some follows => .other (follows.takeWhile (· ≠ '<'))
  | none =>
    if doc.plainTag then .own
    else
      match afterFirst nameTag doc.rest with
      | some follows => .other (follows.takeWhile (· ≠ '<'))
      | none => .nowhere

/-- The characters that are taken for the name. -/
def DomainDoc.found (doc : DomainDoc) : FirstName → Option (List Char)
  | .own => some ((Item.leadingText doc.content).flatMap Piece.written)
  | .other follows => some follows
  | .nowhere => none

/-- A start tag of the name that is written otherwise is passed over. -/
theorem afterFirst_otherTag {attrs : List Attribute} {gap : List Space} (rest : List Char)
    (h : writeTag attrs gap ≠ []) :
    afterFirst ('<' :: "name>".toList)
        ('<' :: ("name".toList ++ (writeTag attrs gap ++ '>' :: rest))) =
      afterFirst ('<' :: "name>".toList) rest := by
  -- a tag with attributes has a space where the search expects `>`
  obtain ⟨s, cs, hcs⟩ := exists_space_writeTag h
  have hpre : ¬ ('<' :: "name>".toList).isPrefixOf
      ('<' :: ("name".toList ++ (writeTag attrs gap ++ '>' :: rest))) = true := by
    rw [hcs]
    cases s <;> exact Bool.false_ne_true
  -- and no other tag begins before it ends
  have hnotMem : '<' ∉ "name".toList ++ (writeTag attrs gap ++ ['>']) := by
    simp [notMem_writeTag]
  have htail : "name".toList ++ (writeTag attrs gap ++ '>' :: rest) =
      "name".toList ++ (writeTag attrs gap ++ ['>']) ++ rest := by
    simp only [List.append_assoc, List.singleton_append]
  rw [afterFirst, if_neg hpre, htail, afterFirst_append_of_notMem hnotMem]

/-- **What the text reader finds.** -/
theorem sysNameFromXml_text (doc : DomainDoc) :
    sysNameFromXml doc.text =
      (doc.found doc.firstName).bind fun name =>
        if name = [] then none else some (String.ofList name) := by
  have hname : nameTag = '<' :: "name>".toList := rfl
  unfold DomainDoc.firstName sysNameFromXml DomainDoc.text
  -- the name is searched from the front of the document, the name's own tag last
  cases hhead : afterFirst nameTag doc.head with
  | some follows =>
    -- the name's own tag ends what follows, if nothing else does
    rw [afterFirst_append_of_some hhead, Option.bind_some]
    dsimp only
    rw [takeWhile_append_cons]
    rfl
  | none =>
    -- nothing in front of it, so its own tag is next
    dsimp only
    rw [hname] at hhead
    rw [hname, afterFirst_append_of_none (by decide) hhead, ← hname]
    by_cases hplain : doc.plainTag = true
    · have htag : '<' :: ("name".toList ++
          (writeTag doc.nameAttrs doc.nameGap ++ '>' :: doc.rest)) =
          nameTag ++ doc.rest := by
        rw [of_decide_eq_true hplain]
        rfl
      rw [if_pos hplain, htag, afterFirst_self _ _ (by decide), Option.bind_some, DomainDoc.rest,
        takeWhile_writeAll]
      rfl
    -- its own tag is passed over, and what follows is searched
    · rw [if_neg hplain, hname, afterFirst_otherTag _ (fun h => hplain (decide_eq_true h)), ← hname]
      cases hrest : afterFirst nameTag doc.rest with
      | some follows => rfl
      | none => rfl

/-! ### When the readers agree -/

/-- What the text reader takes for the name is the name, if it takes anything. -/
def NamesAgree (doc : DomainDoc) : Prop :=
  ∀ dominfo, getDominfoFromXml doc.tree = .ok dominfo →
    ∀ name, sysNameFromXml doc.text = some name → dominfo.name = some name

/-- When the characters behind the first `<name>` are the name, or there are none. At the name
itself each character must be written as it is, unless text behind further markup makes up for
the difference. -/
def DomainDoc.NameReadable (doc : DomainDoc) : Prop :=
  match doc.firstName with
  | .own =>
    let leading := Item.leadingText doc.content
    let behind := Node.textValue.textValues (Item.nodes.nodesAll (Item.behindText doc.content))
    leading = [] ∨
      if behind = "" then ∀ piece ∈ leading, piece.isPlain = true
      else leading.flatMap Piece.written = leading.map Piece.value ++ behind.toList
  | .other follows => follows = [] ∨ follows = doc.name.toList
  | .nowhere => True

/-- The text of the name, in the character data it begins with and what stands behind. -/
theorem toList_name (doc : DomainDoc) :
    doc.name.toList = (Item.leadingText doc.content).map Piece.value ++
      (Node.textValue.textValues (Item.nodes.nodesAll (Item.behindText doc.content))).toList := by
  rw [DomainDoc.name, textValues_nodesAll, String.toList_append, String.toList_ofList]

theorem nameReadable_iff (doc : DomainDoc) :
    doc.NameReadable ↔
      ∀ found, doc.found doc.firstName = some found → found = [] ∨ found = doc.name.toList := by
  unfold DomainDoc.NameReadable
  -- what the search comes to: nothing, another text, or the element of the name
  cases doc.firstName with
  | nowhere => exact iff_of_true trivial fun _ h => nomatch h
  | other follows =>
    refine ⟨fun h found hfound => ?_, fun h => h follows rfl⟩
    rw [← Option.some.inj hfound]
    exact h
  | own =>
    -- the text up to the first `<`, as it is written
    have hfound : (∀ found, doc.found .own = some found → found = [] ∨ found = doc.name.toList) ↔
        ((Item.leadingText doc.content).flatMap Piece.written = [] ∨
          (Item.leadingText doc.content).flatMap Piece.written = doc.name.toList) := by
      refine ⟨fun h => h _ rfl, fun h found hfound => ?_⟩
      rw [← Option.some.inj hfound]
      exact h
    rw [hfound, flatMap_written_eq_nil_iff, toList_name]
    dsimp only
    refine or_congr_right ?_
    split
    · next hbehind => rw [hbehind, String.toList_empty, List.append_nil, written_eq_value_iff]
    · exact Iff.rfl

/-- A name that is not written in its characters: `R&amp;D`. -/
def ampersandName : List Item :=
  [.text [.plain 'R' (by decide), .reference "amp".toList '&' rfl, .plain 'D' (by decide)]]

/-- A domain of that name. -/
def ampersandDoc : DomainDoc where
  before := []
  content := ampersandName
  behind := []
  last_name := by simp [Item.nodes.nodesAll]

/-- A domain `b` with an old name in a comment before the name. -/
def commentDoc : DomainDoc where
  before := [.comment " <name>a</name> ".toList]
  content := [.text [.plain 'b' (by decide)]]
  behind := []
  last_name := by simp [Item.nodes.nodesAll]

/-- The first name is read with the reference, the second one from the comment. -/
theorem not_namesAgree : ¬ NamesAgree ampersandDoc ∧ ¬ NamesAgree commentDoc := by
  refine ⟨fun h => ?_, fun h => ?_⟩
  · obtain ⟨dominfo, hdominfo⟩ : ∃ d, getDominfoFromXml ampersandDoc.tree = .ok d := ⟨_, rfl⟩
    have hread : sysNameFromXml ampersandDoc.text = some "R&amp;D" := by decide +kernel
    have hname := (name_of_tree hdominfo).symm.trans (h dominfo hdominfo _ hread)
    revert hname
    decide +kernel
  · obtain ⟨dominfo, hdominfo⟩ : ∃ d, getDominfoFromXml commentDoc.tree = .ok d := ⟨_, rfl⟩
    have hread : sysNameFromXml commentDoc.text = some "a" := by decide +kernel
    have hname := (name_of_tree hdominfo).symm.trans (h dominfo hdominfo _ hread)
    revert hname
    decide +kernel

/-- **When the name in an indication is the name of the domain.** The text reader takes what
stands between the first `<name>` and the next `<` (`sysNameFromXml_text`); the parser takes the
content of the element, with its entities and without its comments (`name_of_tree`). They can
differ only where something else is found first, or the content is not written as it is. -/
theorem namesAgree_iff (doc : DomainDoc) :
    NamesAgree doc ↔
      (∀ dominfo, getDominfoFromXml doc.tree ≠ .ok dominfo) ∨ doc.NameReadable := by
  rw [nameReadable_iff]
  -- the parser has to accept the document before the two can disagree
  refine ⟨fun h => ?_, fun h dominfo hdominfo name hname => ?_⟩
  · by_cases htree : ∀ dominfo, getDominfoFromXml doc.tree ≠ .ok dominfo
    · exact .inl htree
    · right
      push Not at htree
      obtain ⟨dominfo, hdominfo⟩ := htree
      intro found hfound
      by_cases hnil : found = []
      · exact .inl hnil
      · right
        have hread : sysNameFromXml doc.text = some (String.ofList found) := by
          rw [sysNameFromXml_text, hfound, Option.bind_some, if_neg hnil]
        have hname := h dominfo hdominfo _ hread
        rw [name_of_tree hdominfo, Option.some.injEq] at hname
        rw [hname, String.toList_ofList]
  -- what is found is empty, and then there is no name, or is the name
  · obtain htree | hreadable := h
    · exact absurd hdominfo (htree dominfo)
    · rw [sysNameFromXml_text] at hname
      obtain ⟨found, hfound, hname⟩ := Option.bind_eq_some_iff.mp hname
      split at hname
      · cases hname
      · next hnil =>
        have hsame := (hreadable found hfound).resolve_left hnil
        rw [name_of_tree hdominfo, ← Option.some.inj hname, hsame, String.ofList_toList]

end LibvirtCim.Indication
