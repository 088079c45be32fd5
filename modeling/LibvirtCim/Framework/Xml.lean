import Mathlib.Data.List.Basic

/-!
# XML trees

The trees a DOM library builds, with the readings that consumers make of them:
the name of a node, an attribute of an element, the text of a subtree, the first
child element of a name, and the replacement of that child's content.

Every kind of node has a name. Text and comment nodes have fixed ones, a
processing instruction is named by its target and a reference by its entity; only
elements carry attributes. A consumer that walks the children of an element and
compares names therefore sees non-elements too. No entity is declared, so that a
reference has no text.

An element whose child elements have distinct names works as a record of texts:
`childText_setChild` and `childText_setChild_of_ne` are the two laws.
-/

namespace Framework

/-- The first entry of a key. -/
@[simp] theorem lookup_cons_ite (k k' v : String) (attrs : List (String × String)) :
    ((k, v) :: attrs).lookup k' = if k' = k then some v else attrs.lookup k' := by
  rw [List.lookup_cons]
  by_cases h : k' = k
  · rw [if_pos h, beq_iff_eq.mpr h]
  · rw [if_neg h, beq_eq_false_iff_ne.mpr h]

/-- A node of an XML tree. Attributes are kept in document order. -/
inductive Node where
  | elem (name : String) (attrs : List (String × String)) (children : List Node)
  | text (content : String)
  | comment (content : String)
  | pi (target : String) (content : String)
  | entityRef (entity : String)
  deriving Repr

namespace Node

/-- The name of a node. -/
def name : Node → String
  | .elem name _ _ => name
  | .text _ => "text"
  | .comment _ => "comment"
  | .pi target _ => target
  | .entityRef entity => entity

/-- The attributes of a node; only elements have any. -/
def attrs : Node → List (String × String)
  | .elem _ attrs _ => attrs
  | _ => []

/-- The children of a node; only elements have any. -/
def children : Node → List Node
  | .elem _ _ children => children
  | _ => []

/-- The value of an attribute: the first one of the name. -/
def attr (n : Node) (key : String) : Option String :=
  n.attrs.lookup key

/-- The same element with one more attribute. -/
def addAttr (key value : String) : Node → Node
  | .elem name attrs children => .elem name ((key, value) :: attrs) children
  | n => n

/-- The node is an element of the given name. -/
def isElem (key : String) : Node → Bool
  | .elem name _ _ => name = key
  | _ => false

/-- The text of a subtree, comments and processing instructions left out. -/
def textValue : Node → String
  | .elem _ _ children => textValues children
  | .text content => content
  | .comment _ => ""
  | .pi _ _ => ""
  | .entityRef _ => ""
where
  /-- The texts of a list of subtrees, one after the other. -/
  textValues : List Node → String
    | [] => ""
    | n :: ns => textValue n ++ textValues ns

@[simp] theorem attr_elem (n : String) (as : List (String × String)) (cs : List Node)
    (key : String) : (elem n as cs).attr key = as.lookup key := rfl

@[simp] theorem name_elem (n : String) (as : List (String × String)) (cs : List Node) :
    (elem n as cs).name = n := rfl

@[simp] theorem children_elem (n : String) (as : List (String × String)) (cs : List Node) :
    (elem n as cs).children = cs := rfl

@[simp] theorem attrs_elem (n : String) (as : List (String × String)) (cs : List Node) :
    (elem n as cs).attrs = as := rfl

@[simp] theorem isElem_elem (key n : String) (as : List (String × String)) (cs : List Node) :
    (elem n as cs).isElem key = decide (n = key) := rfl

/-! ### Child elements as a record -/

/-- The first child element of a name. -/
def child (n : Node) (key : String) : Option Node :=
  n.children.find? (isElem key)

/-- The text of the first child element of a name. -/
def childText (n : Node) (key : String) : Option String :=
  (n.child key).map textValue

/-- The same node with another content. -/
def withChildren (content : List Node) : Node → Node
  | .elem name attrs _ => .elem name attrs content
  | n => n

/-- Give the first child element of a name a new content, or append such an
element. -/
def setChildren (key : String) (content : List Node) : List Node → List Node
  | [] => [.elem key [] content]
  | n :: ns =>
    if n.isElem key then n.withChildren content :: ns
    else n :: setChildren key content ns

/-- `setChildren` on the children of an element. -/
def setChild (n : Node) (key : String) (content : List Node) : Node :=
  n.withChildren (setChildren key content n.children)

@[simp] theorem name_withChildren (n : Node) (content : List Node) :
    (n.withChildren content).name = n.name := by
  cases n <;> rfl

@[simp] theorem isElem_withChildren (n : Node) (key : String) (content : List Node) :
    (n.withChildren content).isElem key = n.isElem key := by
  cases n <;> rfl

@[simp] theorem name_setChild (n : Node) (key : String) (content : List Node) :
    (n.setChild key content).name = n.name := by
  simp [setChild]

theorem find_setChildren (key : String) (content ns : List Node) :
    ((setChildren key content ns).find? (isElem key)).map textValue =
      some (textValue.textValues content) := by
  induction ns with
  | nil => simp [setChildren, textValue]
  | cons n ns ih =>
    rw [setChildren]
    cases h : n.isElem key with
    | true =>
      cases n with
      | elem name as cs => simp_all [withChildren, textValue]
      | text c => simp [isElem] at h
      | comment c => simp [isElem] at h
      | pi t c => simp [isElem] at h
      | entityRef e => simp [isElem] at h
    | false => simpa [h] using ih

theorem find_setChildren_of_ne {key key' : String} (hne : key' ≠ key)
    (content ns : List Node) :
    (setChildren key content ns).find? (isElem key') = ns.find? (isElem key') := by
  induction ns with
  | nil => simp [setChildren, Ne.symm hne]
  | cons n ns ih =>
    rw [setChildren]
    cases h : n.isElem key with
    | true =>
      -- the element that is rewritten does not have the other name
      cases n with
      | elem name as cs =>
        obtain rfl : name = key := by simpa using h
        simp [withChildren, Ne.symm hne]
      | text c => simp [isElem] at h
      | comment c => simp [isElem] at h
      | pi t c => simp [isElem] at h
      | entityRef e => simp [isElem] at h
    | false => simp [List.find?_cons, ih]

/-- The first child of a name is the one that was set. -/
theorem exists_child_setChildren (key : String) (content ns : List Node) :
    ∃ n, (setChildren key content ns).find? (isElem key) = some n ∧ n.children = content := by
  induction ns with
  | nil => exact ⟨.elem key [] content, by simp [setChildren], rfl⟩
  | cons n ns ih =>
    rw [setChildren]
    cases h : n.isElem key with
    | true =>
      cases n with
      | elem name as cs =>
        refine ⟨.elem name as content, ?_, rfl⟩
        rw [if_pos rfl, List.find?_cons, isElem_withChildren, h]
        rfl
      | _ => simp [isElem] at h
    | false =>
      obtain ⟨n', hfind, hchildren⟩ := ih
      refine ⟨n', ?_, hchildren⟩
      rw [if_neg (by simp), List.find?_cons, h]
      exact hfind

/-- **Reading back what was set.** -/
theorem childText_setChild (name : String) (as : List (String × String)) (cs : List Node)
    (key : String) (content : List Node) :
    ((elem name as cs).setChild key content).childText key =
      some (textValue.textValues content) :=
  find_setChildren key content cs

/-- **Frame.** Setting one child leaves the others alone. -/
theorem childText_setChild_of_ne {key key' : String} (hne : key' ≠ key) (name : String)
    (as : List (String × String)) (cs content : List Node) :
    ((elem name as cs).setChild key content).childText key' =
      (elem name as cs).childText key' :=
  congrArg (Option.map textValue) (find_setChildren_of_ne hne content cs)

/-- A property of child elements survives when the new content gives an element
that has it, whatever attributes the rewritten element keeps. -/
theorem forall_setChildren {P : Node → Prop} {key : String} {content ns : List Node}
    (hnew : P (elem key [] content)) (hold : ∀ n, P n → n.isElem key → P (n.withChildren content))
    (h : ∀ n ∈ ns, P n) : ∀ n ∈ setChildren key content ns, P n := by
  induction ns with
  | nil => simpa [setChildren] using hnew
  | cons n ns ih =>
    rw [List.forall_mem_cons] at h
    rw [setChildren]
    split
    · next hk => exact List.forall_mem_cons.mpr ⟨hold n h.1 hk, h.2⟩
    · exact List.forall_mem_cons.mpr ⟨h.1, ih h.2⟩

end Node

/-! ### Texts -/

/-- A character XML can represent. -/
def isXmlChar (c : Char) : Bool :=
  c = '\t' || c = '\n' || c = '\r' ||
    (32 ≤ c.toNat && c.toNat ≠ 0xFFFE && c.toNat ≠ 0xFFFF)

/-- A text of XML characters with no `&`, the one character that starts markup in
a node content. -/
def PlainText (s : String) : Prop :=
  ∀ c ∈ s.toList, isXmlChar c = true ∧ c ≠ '&'

instance (s : String) : Decidable (PlainText s) :=
  List.decidableBAll _ s.toList

/-- The nodes of a text: an empty text has none. -/
def textNodes (s : String) : List Node :=
  if s = "" then [] else [.text s]

/-- The nodes of a text have that text. -/
@[simp] theorem textValues_textNodes (s : String) :
    Node.textValue.textValues (textNodes s) = s := by
  unfold textNodes
  split
  · next h => rw [h]; rfl
  · exact String.append_empty

end Framework
