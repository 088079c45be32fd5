import LibvirtCim.Infostore.Store

/-!
# Concurrent sessions on the store

`infostore_open` and `infostore_close` call by call, for any number of clients.
The file system is a map from paths to inodes, the content of each inode and the
owner of each inode's lock (`flock` locks what was opened, not the path). Every
file system call is one step:

* `open` finds the inode of the path or creates one, and a client that has opened
  a file waits for its lock;
* holding the lock it reads the file and compares the stamp. If the stamp is its
  uuid, or there is none, the session is open;
* if the stamp is another one it writes the file back, closes it and with that
  gives up the lock, unlinks the path and opens it again. The file it then locks it
  takes as it is, without a second comparison.

All calls succeed here; what their failures do is the subject of the sequential
store. A document is its stamp and its values: the tree is the subject of the
sequential store too.
-/

open Framework

namespace LibvirtCim.Infostore

/-! ### Documents and clients -/

/-- The document of a store file. -/
structure Doc where
  stamp : Option Uuid
  values : Key → Option String

/-- `new_xml`, which is also what an empty file gives. -/
def Doc.new : Doc := ⟨none, fun _ => none⟩

/-- The last line of `infostore_open`. -/
def Doc.setUuid (doc : Doc) (uuid : Uuid) : Doc :=
  { doc with stamp := some uuid }

/-- `infostore_set_str` and the other setters. -/
def Doc.set (doc : Doc) (k : Key) (v : String) : Doc :=
  { doc with values := Function.update doc.values k (some v) }

/-- What a client is working on: the path, the uuid of its domain, and the inode
behind its file descriptor. -/
structure Handle where
  path : String
  uuid : Uuid
  ino : ℕ

/-- Where a client stands between two calls. `again` is true from the second open
on, after a mismatch. -/
inductive Phase
  | idle
  /-- waiting for the lock -/
  | opened (again : Bool) (s : Handle)
  | locked (again : Bool) (s : Handle)
  | loaded (again : Bool) (s : Handle) (doc : Doc)
  /-- the stamp is another domain's -/
  | mismatch (s : Handle) (doc : Doc)
  /-- the stale file is written back -/
  | written (s : Handle)
  /-- the stale file is closed and its lock given up -/
  | released (s : Handle)
  | unlinked (s : Handle)
  /-- `infostore_open` has returned -/
  | active (s : Handle) (doc : Doc)
  /-- `save_xml` is done, the file not closed -/
  | saved (s : Handle)

/-- The file system and the clients. -/
structure World where
  dir : String → Option ℕ
  content : ℕ → Doc
  lock : ℕ → Option ℕ
  /-- the inodes from here on are unused -/
  next : ℕ
  client : ℕ → Phase

/-- An empty directory and no client. -/
def World.init : World := ⟨fun _ => none, fun _ => .new, fun _ => none, 0, fun _ => .idle⟩

namespace World

def setPhase (w : World) (c : ℕ) (ph : Phase) : World :=
  { w with client := Function.update w.client c ph }

/-- `open` with `O_CREAT`: the inode of the path, made when there is none. -/
def openFile (w : World) (path : String) : World × ℕ :=
  match w.dir path with
  | some ino => (w, ino)
  | none =>
    ({ w with
        dir := Function.update w.dir path (some w.next)
        content := Function.update w.content w.next .new
        lock := Function.update w.lock w.next none
        next := w.next + 1 }, w.next)

def setLock (w : World) (ino : ℕ) (owner : Option ℕ) : World :=
  { w with lock := Function.update w.lock ino owner }

def write (w : World) (ino : ℕ) (doc : Doc) : World :=
  { w with content := Function.update w.content ino doc }

def unlink (w : World) (path : String) : World :=
  { w with dir := Function.update w.dir path none }

end World

/-! ### Steps -/

/-- One call of a client, with what a session reads and writes. -/
inductive Call
  | open_ (c : ℕ) (path : String) (uuid : Uuid)
  | flock (c : ℕ)
  | read (c : ℕ)
  /-- `infostore_open` returns a session on the document -/
  | activate (c : ℕ) (path : String) (uuid : Uuid) (doc : Doc)
  | compare (c : ℕ)
  | writeBack (c : ℕ)
  | release (c : ℕ)
  | unlink (c : ℕ)
  | reopen (c : ℕ)
  | set (c : ℕ) (k : Key) (v : String)
  /-- `save_xml` of a session writes the document -/
  | save (c : ℕ) (path : String) (uuid : Uuid) (doc : Doc)
  | close (c : ℕ)
  /-- `infostore_delete` -/
  | delete (path : String)

/-- The steps of `infostore_open`, of a session, of `infostore_close` and of
`infostore_delete`. -/
inductive SessionStep : World → Call → World → Prop
  | open_ (w : World) (c : ℕ) (path : String) (uuid : Uuid) (h : w.client c = .idle) :
      SessionStep w (.open_ c path uuid)
        ((w.openFile path).1.setPhase c (.opened false ⟨path, uuid, (w.openFile path).2⟩))
  | flock (w : World) (c : ℕ) (again : Bool) (s : Handle) (h : w.client c = .opened again s)
      (hfree : w.lock s.ino = none) :
      SessionStep w (.flock c) ((w.setLock s.ino (some c)).setPhase c (.locked again s))
  | read (w : World) (c : ℕ) (again : Bool) (s : Handle) (h : w.client c = .locked again s) :
      SessionStep w (.read c) (w.setPhase c (.loaded again s (w.content s.ino)))
  /-- the stamp is compared only the first time -/
  | activate (w : World) (c : ℕ) (again : Bool) (s : Handle) (doc : Doc)
      (h : w.client c = .loaded again s doc)
      (hstamp : again = false → doc.stamp = none ∨ doc.stamp = some s.uuid) :
      SessionStep w (.activate c s.path s.uuid (doc.setUuid s.uuid))
        (w.setPhase c (.active s (doc.setUuid s.uuid)))
  | compare (w : World) (c : ℕ) (s : Handle) (doc : Doc) (stamp : Uuid)
      (h : w.client c = .loaded false s doc) (hstamp : doc.stamp = some stamp)
      (hne : stamp ≠ s.uuid) :
      SessionStep w (.compare c) (w.setPhase c (.mismatch s doc))
  | writeBack (w : World) (c : ℕ) (s : Handle) (doc : Doc) (h : w.client c = .mismatch s doc) :
      SessionStep w (.writeBack c) ((w.write s.ino doc).setPhase c (.written s))
  | release (w : World) (c : ℕ) (s : Handle) (h : w.client c = .written s) :
      SessionStep w (.release c) ((w.setLock s.ino none).setPhase c (.released s))
  | unlink (w : World) (c : ℕ) (s : Handle) (h : w.client c = .released s) :
      SessionStep w (.unlink c) ((w.unlink s.path).setPhase c (.unlinked s))
  | reopen (w : World) (c : ℕ) (s : Handle) (h : w.client c = .unlinked s) :
      SessionStep w (.reopen c)
        ((w.openFile s.path).1.setPhase c (.opened true { s with ino := (w.openFile s.path).2 }))
  | set (w : World) (c : ℕ) (s : Handle) (doc : Doc) (k : Key) (v : String)
      (h : w.client c = .active s doc) :
      SessionStep w (.set c k v) (w.setPhase c (.active s (doc.set k v)))
  | save (w : World) (c : ℕ) (s : Handle) (doc : Doc) (h : w.client c = .active s doc) :
      SessionStep w (.save c s.path s.uuid doc) ((w.write s.ino doc).setPhase c (.saved s))
  | close (w : World) (c : ℕ) (s : Handle) (h : w.client c = .saved s) :
      SessionStep w (.close c) ((w.setLock s.ino none).setPhase c .idle)
  | delete (w : World) (path : String) : SessionStep w (.delete path) (w.unlink path)

/-- The clients of the store. -/
def sessionSystem : System World Call where
  init := World.init
  step := SessionStep

/-! ### What sessions rely on -/

/-- The path a client believes to hold: its session is open. -/
def Phase.holding : Phase → Option Handle
  | .active s _ | .saved s => some s
  | _ => none

/-- How a call changes what was last saved on each path. A session of another uuid
takes the store over. -/
def Call.record (last : String → Option (Uuid × Doc)) : Call → String → Option (Uuid × Doc)
  | .save _ path uuid doc => Function.update last path (some (uuid, doc))
  | .delete path => Function.update last path none
  | .activate _ path uuid _ =>
    Function.update last path ((last path).filter fun saved => saved.1 = uuid)
  | _ => last

/-- The document last saved on each path and its uuid, as long as the next session
should find it. -/
def lastSaved (ls : List Call) : String → Option (Uuid × Doc) :=
  ls.foldl Call.record fun _ => none

/-- A session that is opened finds the document last saved for its uuid. -/
def FindsSaved (ls : List Call) : Call → Prop
  | .activate _ path uuid doc => ∀ saved, lastSaved ls path = some (uuid, saved) → doc = saved
  | _ => True

/-- **Serialised sessions**, for a history and the state it leads to. No two
clients hold the same path; the file a session will save to is the one its path
names; and every session found what was last saved. -/
def Serialised (ls : List Call) (w : World) : Prop :=
  (∀ c c' s s', (w.client c).holding = some s → (w.client c').holding = some s' →
    s.path = s'.path → c = c') ∧
  (∀ c s, (w.client c).holding = some s → w.dir s.path = some s.ino) ∧
  Along FindsSaved ls

end LibvirtCim.Infostore
