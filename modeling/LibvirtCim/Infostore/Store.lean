import LibvirtCim.Common.Basic
import LibvirtCim.Framework.Decimal
import LibvirtCim.Framework.Run
import LibvirtCim.Framework.Xml
import Mathlib.Logic.Function.Basic

/-!
# The domain information store

`infostore.c`: one XML file for each hypervisor type and domain name, stamped with
the uuid of the domain. `infostore_open` reads the file, compares the stamp with
the domain's uuid and starts afresh when they differ; the setters and getters work
on the tree in memory; `infostore_close` writes it back.

The store uses libxml2 for three things the code relies on without doing them
itself: giving a node a text content, writing a tree and reading it back. They are
the parameter `Libxml`, and `Libxml.Documented` is what its documentation promises:
a content without markup characters becomes that text, and a tree that was written
is read back. What happens to other contents is left open.

`Spec` is not translated from the source. It is the store as its callers think of
it: for each domain the uuid it belongs to and a map from keys to values.
-/

open Framework

namespace LibvirtCim.Infostore

/-! ### Keys, texts and file names -/

/-- The names that are used as keys: letters, digits and underscores, of which no digit comes
first. -/
def isKeyName : List Char → Bool
  | [] => false
  | c :: cs => (c.isAlpha || c = '_') && cs.all fun c => c.isAlphanum || c = '_'

/-- A key is a name, so that it is an element name and an XPath step. -/
structure Key where
  name : String
  valid : isKeyName name.toList

instance : DecidableEq Key := fun k k' =>
  decidable_of_iff (k.name = k'.name)
    ⟨fun h => by cases k; cases k'; cases h; rfl, fun h => congrArg Key.name h⟩

/-- The key of the stamp. -/
def uuidKey : Key := ⟨"uuid", by decide⟩

/-- A uuid in the notation of `virDomainGetUUIDString`. -/
structure Uuid where
  text : String
  plain : PlainText text

instance : DecidableEq Uuid := fun u u' =>
  decidable_of_iff (u.text = u'.text)
    ⟨fun h => by cases u; cases u'; cases h; rfl, fun h => congrArg Uuid.text h⟩

/-- The results of `virConnectGetType`. -/
inductive ConnType
  | xen | qemu | lxc
  deriving DecidableEq, Repr

def ConnType.text : ConnType → String
  | .xen => "Xen"
  | .qemu => "QEMU"
  | .lxc => "LXC"

/-- What `infostore_open` reads off a `virDomainPtr` to find the file. -/
structure Dom where
  type : ConnType
  name : String
  deriving DecidableEq, Repr

/-- `INFO_STORE`, as configured by default. -/
def infoStore : String := "/etc/libvirt/cim"

/-- `make_filename`. -/
def makeFilename (dom : Dom) : String :=
  infoStore ++ "/" ++ dom.type.text ++ "_" ++ dom.name

/-! ### The tree in memory -/

/-- The calls of libxml2 the store rests on. -/
structure Libxml where
  /-- `xmlNodeSetContent`: the children it gives a node -/
  nodeContent : String → List Node
  /-- `xmlCtxtReadFd` on what `xmlSaveDoc` wrote -/
  reread : Node → Option Node

/-- A tree the store builds: `dominfo` over elements of plain texts. -/
def IsRecord (root : Node) : Prop :=
  ∃ cs, root = .elem "dominfo" [] cs ∧
    ∀ c ∈ cs, ∃ (k : Key) (s : String), PlainText s ∧ c = .elem k.name [] (textNodes s)

/-- What the documentation of libxml2 promises of the calls the store relies on: a text without
markup becomes content that reads as it, and a document of the form the store writes, which names
its elements by its keys, is read again as it was saved. -/
structure Libxml.Documented (x : Libxml) : Prop where
  nodeContent : ∀ s, PlainText s → x.nodeContent s = textNodes s
  reread : ∀ root, IsRecord root → x.reread root = some root

/-- `new_xml`. -/
def newXml : Node := .elem "dominfo" [] []

/-- `xpath_query_string`, on `/dominfo/key[1]`. -/
def xpathQueryString (root : Node) (key : String) : Option String :=
  root.childText key

/-- `xpath_set_string`. -/
def xpathSetString (x : Libxml) (root : Node) (key val : String) : Node :=
  root.setChild key (x.nodeContent val)

/-- `infostore_set_str`. -/
def infostoreSetStr (x : Libxml) (root : Node) (key val : String) : Node :=
  xpathSetString x root key val

/-- `infostore_set_u64`. -/
def infostoreSetU64 (x : Libxml) (root : Node) (key : String) (val : UInt64) : Node :=
  xpathSetString x root key (toString val.toNat)

/-- `infostore_set_bool`. -/
def infostoreSetBool (x : Libxml) (root : Node) (key : String) (val : Bool) : Node :=
  if val then xpathSetString x root key "true" else xpathSetString x root key "false"

/-- `infostore_get_str`. -/
def infostoreGetStr (root : Node) (key : String) : Option String :=
  xpathQueryString root key

/-- `infostore_get_u64`: a missing or unreadable value is `0`. -/
def infostoreGetU64 (root : Node) (key : String) : UInt64 :=
  ((xpathQueryString root key).bind scanU64).getD 0

/-- `infostore_get_bool`: a missing value is false. -/
def infostoreGetBool (root : Node) (key : String) : Bool :=
  match xpathQueryString root key with
  | none => false
  | some sval => streqc sval "true"

/-! ### Files and sessions -/

/-- What stands in a file. An absent file and an empty one are opened alike. -/
inductive File
  | empty
  | saved (root : Node)
  /-- a write that stopped halfway: no XML -/
  | broken

/-- How `save_xml` ends: only in the first case the file holds the tree. -/
inductive SaveResult
  | ok
  /-- truncated, nothing written -/
  | lost
  /-- partly written -/
  | cut
  deriving DecidableEq, Repr

/-- `save_xml`. -/
def saveXml (result : SaveResult) (root : Node) : File :=
  match result with
  | .ok => .saved root
  | .lost => .empty
  | .cut => .broken

/-- The answers of the calls `infostore_open` makes. -/
structure OpenCalls where
  /-- `open`, `flock` and `fstat` all succeed -/
  openFile : Bool
  /-- `virDomainGetUUIDString` -/
  uuid : Option Uuid
  /-- the save of the `infostore_close` before the file is deleted -/
  save : SaveResult
  unlink : Bool
  /-- the second `_infostore_open` -/
  reopenFile : Bool
  deriving DecidableEq

/-- `_infostore_open` on a file: the tree of the session. -/
def openStore (x : Libxml) (file : File) (ok : Bool) : Option Node :=
  if !ok then none
  else
    let doc := match file with
      | .empty => some newXml
      | .saved root => x.reread root
      | .broken => none
    doc.filter fun root => root.name = "dominfo"

/-- `infostore_close` and `delete_and_open`: the file they leave and the tree of
the new session. -/
def deleteAndOpen (x : Libxml) (root : Node) (calls : OpenCalls) : File × Option Node :=
  let file := if calls.unlink then .empty else saveXml calls.save root
  (file, openStore x file calls.reopenFile)

/-- The result of `infostore_open`. -/
inductive Opened
  | session (root : Node)
  | refused
  /-- a null session was handed to `infostore_set_str` -/
  | crashed

/-- `infostore_open` on the file of its domain. -/
def infostoreOpen (x : Libxml) (file : File) (calls : OpenCalls) : File × Opened :=
  match openStore x file calls.openFile with
  | none => (file, .refused)
  | some root =>
    match calls.uuid with
    | none =>
      -- no uuid to compare with: a fresh file, which stays without a stamp
      match deleteAndOpen x root calls with
      | (file, none) => (file, .refused)
      | (file, some root) => (file, .session root)
    | some uuid =>
      match infostoreGetStr root "uuid" with
      | none => (file, .session (infostoreSetStr x root "uuid" uuid.text))
      | some stamp =>
        if stamp = uuid.text then (file, .session (infostoreSetStr x root "uuid" uuid.text))
        else
          match deleteAndOpen x root calls with
          | (file, none) => (file, .crashed)
          | (file, some root) => (file, .session (infostoreSetStr x root "uuid" uuid.text))

/-- `struct infostore_ctx`: the tree, and the file it was read from. The file is
`linked` until its name is deleted. -/
structure Session where
  path : String
  root : Node
  linked : Bool

/-- The store directory and the sessions that are open, by handle. -/
structure State where
  files : String → File
  sessions : ℕ → Option Session

/-- An empty directory. -/
def State.init : State := ⟨fun _ => .empty, fun _ => none⟩

/-! ### Operations -/

/-- A value of one of the three types. -/
inductive Value
  | str (s : String)
  | u64 (n : UInt64)
  | bool (b : Bool)
  deriving DecidableEq

/-- The setter of the value's type. -/
def infostoreSet (x : Libxml) (root : Node) (key : String) : Value → Node
  | .str s => infostoreSetStr x root key s
  | .u64 n => infostoreSetU64 x root key n
  | .bool b => infostoreSetBool x root key b

/-- An operation of the store's interface with its result. -/
inductive Op
  | open_ (h : ℕ) (dom : Dom) (calls : OpenCalls)
  | set (h : ℕ) (k : Key) (v : Value)
  | getStr (h : ℕ) (k : Key) (r : Option String)
  | getU64 (h : ℕ) (k : Key) (r : UInt64)
  | getBool (h : ℕ) (k : Key) (r : Bool)
  | close (h : ℕ) (save : SaveResult)
  /-- `infostore_delete` -/
  | delete (dom : Dom)

/-- The state after `infostore_open`. A crash ends the process and its sessions. -/
def State.open_ (x : Libxml) (st : State) (h : ℕ) (dom : Dom) (calls : OpenCalls) : State :=
  let path := makeFilename dom
  match infostoreOpen x (st.files path) calls with
  | (file, .session root) =>
    ⟨Function.update st.files path file,
      Function.update st.sessions h (some ⟨path, root, true⟩)⟩
  | (file, .refused) => { st with files := Function.update st.files path file }
  | (file, .crashed) => ⟨Function.update st.files path file, fun _ => none⟩

/-- The state after `infostore_close`; an unlinked file is written in vain. -/
def State.close (st : State) (h : ℕ) (s : Session) (save : SaveResult) : State where
  files := if s.linked then Function.update st.files s.path (saveXml save s.root) else st.files
  sessions := Function.update st.sessions h none

/-- The state after `infostore_delete`. -/
def State.delete (st : State) (dom : Dom) : State where
  files := Function.update st.files (makeFilename dom) .empty
  sessions h := (st.sessions h).map fun s =>
    if s.path = makeFilename dom then { s with linked := false } else s

/-- One operation. A file that is open is locked, and opening it blocks. -/
inductive StoreStep (x : Libxml) : State → Op → State → Prop
  | open_ (st : State) (h : ℕ) (dom : Dom) (calls : OpenCalls)
      (hfree : st.sessions h = none)
      (hunlocked : ∀ h' s, st.sessions h' = some s → s.linked → s.path ≠ makeFilename dom) :
      StoreStep x st (.open_ h dom calls) (st.open_ x h dom calls)
  | set (st : State) (h : ℕ) (s : Session) (k : Key) (v : Value)
      (hs : st.sessions h = some s) :
      StoreStep x st (.set h k v) { st with
        sessions := Function.update st.sessions h
          (some { s with root := infostoreSet x s.root k.name v }) }
  | getStr (st : State) (h : ℕ) (s : Session) (k : Key) (hs : st.sessions h = some s) :
      StoreStep x st (.getStr h k (infostoreGetStr s.root k.name)) st
  | getU64 (st : State) (h : ℕ) (s : Session) (k : Key) (hs : st.sessions h = some s) :
      StoreStep x st (.getU64 h k (infostoreGetU64 s.root k.name)) st
  | getBool (st : State) (h : ℕ) (s : Session) (k : Key) (hs : st.sessions h = some s) :
      StoreStep x st (.getBool h k (infostoreGetBool s.root k.name)) st
  | close (st : State) (h : ℕ) (s : Session) (save : SaveResult) (hs : st.sessions h = some s) :
      StoreStep x st (.close h save) (st.close h s save)
  | delete (st : State) (dom : Dom) : StoreStep x st (.delete dom) (st.delete dom)

/-- The store. -/
def storeSystem (x : Libxml) : System State Op where
  init := State.init
  step := StoreStep x

/-! ### What the callers rely on -/

/-- A domain's values, and the uuid they belong to. -/
structure Content where
  uuid : Uuid
  values : Key → Option Value

/-- The store as a map, and the domain each handle was opened on. -/
structure Spec where
  contents : Dom → Option Content
  handles : ℕ → Option Dom

def Spec.init : Spec := ⟨fun _ => none, fun _ => none⟩

/-- The content a domain of the given uuid finds: its own, or an empty one. -/
def Content.claim (uuid : Uuid) : Option Content → Content
  | some content => if content.uuid = uuid then content else ⟨uuid, fun _ => none⟩
  | none => ⟨uuid, fun _ => none⟩

/-- What an operation means. -/
def Spec.step (σ : Spec) : Op → Spec
  | .open_ h dom calls =>
    match calls.openFile, calls.uuid with
    | true, some uuid =>
      ⟨Function.update σ.contents dom (some (Content.claim uuid (σ.contents dom))),
        Function.update σ.handles h (some dom)⟩
    | _, _ => σ
  | .set h k v =>
    match σ.handles h with
    | none => σ
    | some dom => { σ with
        contents := Function.update σ.contents dom ((σ.contents dom).map fun content =>
          { content with values := Function.update content.values k (some v) }) }
  | .close h _ => { σ with handles := Function.update σ.handles h none }
  | .delete dom => { σ with contents := Function.update σ.contents dom none }
  | .getStr _ _ _ | .getU64 _ _ _ | .getBool _ _ _ => σ

/-- The store after a history. -/
def Spec.run (ls : List Op) : Spec :=
  ls.foldl Spec.step Spec.init

/-- The value last set for a key of the domain a handle is open on. -/
def Spec.lookup (σ : Spec) (h : ℕ) (k : Key) : Option Value := do
  let dom ← σ.handles h
  let content ← σ.contents dom
  content.values k

/-- The text of a value. -/
def Value.text : Value → String
  | .str s => s
  | .u64 n => toString n.toNat
  | .bool b => if b then "true" else "false"

/-- The operation returns what it should: a value is read as it was set, a text
also when it was set as a number or a truth value, and a missing value is the
default of the getter. -/
def Returns (σ : Spec) : Op → Prop
  | .getStr h k r => r = (σ.lookup h k).map Value.text
  | .getU64 h k r => match σ.lookup h k with
    | none => r = 0
    | some (.u64 n) => r = n
    | some _ => True
  | .getBool h k r => match σ.lookup h k with
    | none => r = false
    | some (.bool b) => r = b
    | some _ => True
  | _ => True

/-- **The infostore law** for a history: every get in it returns what it should
after the operations before it. -/
def Lawful (ls : List Op) : Prop :=
  Along (fun pre l => Returns (Spec.run pre) l) ls

end LibvirtCim.Infostore
