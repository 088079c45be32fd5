import LibvirtCim.Infostore.Laws

/-!
# What is recorded for a domain

The values a domain finds in its file, and what a session does to them that only reads: it
opens the file, which stamps it or starts it afresh, and writes back what it has. Such a
session keeps all values or loses all of them (`recorded_readSession`), and a process that
crashes loses none.
-/

open Framework

namespace LibvirtCim.Infostore

variable (x : Libxml)

/-- The values that a file has for the domain of a uuid. A file with another stamp has none,
and one without a stamp belongs to the domain that opens it. -/
def recorded (uuid : Uuid) (file : File) (k : Key) : Option String :=
  match openStore x file true with
  | none => none
  | some root =>
    if (infostoreGetStr root "uuid").all (· = uuid.text) ∧ k ≠ uuidKey then
      infostoreGetStr root k.name
    else none

/-- A file of the store: what stands in it, if it is a tree at all, is a record. -/
def FileRecord (file : File) : Prop :=
  ∀ root, file = .saved root → IsRecord root

/-- A session that reads values, with the save of its `infostore_close`: the file it leaves,
and whether the process is still there. -/
def readSession (file : File) (calls : OpenCalls) (save : SaveResult) : File × Bool :=
  match infostoreOpen x file calls with
  | (_, .session root) => (saveXml save root, true)
  | (file, .refused) => (file, true)
  | (file, .crashed) => (file, false)

/-- The session keeps what the file has for its domain: it is refused the file, or it writes
back what it has read. Where the uuid of the domain cannot be read, that is only so when the
file cannot be deleted either. -/
def SessionKeeps (calls : OpenCalls) (save : SaveResult) : Prop :=
  calls.openFile = false ∨
    match calls.uuid with
    | some _ => save = .ok
    | none => calls.unlink = false ∧ calls.save = .ok ∧ (calls.reopenFile = false ∨ save = .ok)

instance (calls : OpenCalls) (save : SaveResult) : Decidable (SessionKeeps calls save) := by
  unfold SessionKeeps
  cases calls.uuid <;> infer_instance

variable {x} {uuid : Uuid} {file : File}

/-- The session takes a file over: it has another stamp, the session cannot delete it, and
stamps and saves it as the domain's own. -/
structure TakesOver (uuid : Uuid) (file : File) (calls : OpenCalls) (save : SaveResult) :
    Prop where
  stale : Stale file uuid
  uuid : calls.uuid ≠ none
  openFile : calls.openFile = true
  unlink : calls.unlink = false
  saved : calls.save = .ok
  reopenFile : calls.reopenFile = true
  save : save = .ok

/-- A value stands in the file, whatever domain it belongs to. -/
def HasValues (file : File) : Prop :=
  ∃ root k, file = .saved root ∧ k ≠ uuidKey ∧ infostoreGetStr root k.name ≠ none

/-! ### Files without values -/

/-- Nothing is recorded in the file. -/
def Blank (x : Libxml) (uuid : Uuid) (file : File) : Prop :=
  recorded x uuid file = fun _ => none

theorem blank_empty : Blank x uuid .empty := by
  funext k
  unfold recorded
  rw [openStore_empty]
  have hget : infostoreGetStr newXml k.name = none := rfl
  simp [hget]

theorem blank_broken : Blank x uuid .broken := by
  funext k
  rfl

theorem blank_saveXml {save : SaveResult} (h : save ≠ .ok) (root : Node) :
    Blank x uuid (saveXml save root) := by
  cases save with
  | ok => exact absurd rfl h
  | lost => exact blank_empty
  | cut => exact blank_broken

/-! ### Records -/

/-- What is recorded in a record. -/
theorem recorded_saved (hx : x.Documented) {root : Node} (h : IsRecord root) (k : Key) :
    recorded x uuid (.saved root) k =
      if (infostoreGetStr root "uuid").all (· = uuid.text) ∧ k ≠ uuidKey then
        infostoreGetStr root k.name
      else none := by
  unfold recorded
  rw [openStore_saved hx h]

/-- The stamp of a record is put on without a change to what is recorded, when the record
belongs to the domain. -/
theorem recorded_stamped (hx : x.Documented) {root : Node} (h : IsRecord root)
    (hstamp : (infostoreGetStr root "uuid").all (· = uuid.text) = true) :
    recorded x uuid (.saved (infostoreSetStr x root "uuid" uuid.text)) =
      recorded x uuid (.saved root) := by
  funext k
  have hset : IsRecord (infostoreSetStr x root "uuid" uuid.text) := h.set hx uuidKey uuid.plain
  have hget : infostoreGetStr (infostoreSetStr x root "uuid" uuid.text) "uuid" = some uuid.text :=
    getStr_set hx h "uuid" uuid.plain
  rw [recorded_saved hx hset, recorded_saved hx h, hget, hstamp]
  by_cases hk : k = uuidKey
  · simp [hk]
  · have hne : k.name ≠ "uuid" := fun heq => hk (Key.name_injective heq)
    have hother : infostoreGetStr (infostoreSetStr x root "uuid" uuid.text) k.name =
        infostoreGetStr root k.name := getStr_set_of_ne h hne uuid.text
    simp [hother]

/-- A record of another domain has nothing for this one. -/
theorem blank_of_stale (hx : x.Documented) {root : Node} (h : IsRecord root)
    (hstamp : (infostoreGetStr root "uuid").all (· = uuid.text) = false) :
    Blank x uuid (.saved root) := by
  funext k
  rw [recorded_saved hx h, hstamp]
  simp

/-- A fresh store that is stamped and saved has nothing. -/
theorem blank_fresh (hx : x.Documented) :
    Blank x uuid (.saved (infostoreSetStr x newXml "uuid" uuid.text)) := by
  rw [Blank, recorded_stamped hx isRecord_newXml rfl]
  funext k
  rw [recorded_saved hx isRecord_newXml]
  have hget : infostoreGetStr newXml k.name = none := rfl
  simp [hget]

theorem blank_newXml (hx : x.Documented) : Blank x uuid (.saved newXml) := by
  rw [Blank, ← recorded_stamped hx isRecord_newXml rfl]
  exact blank_fresh hx

/-! ### Sessions -/

/-- Opening a file that was saved gives the record back, or is refused. -/
theorem openStore_saveXml (hx : x.Documented) {root : Node} (h : IsRecord root)
    (save : SaveResult) (ok : Bool) :
    openStore x (saveXml save root) ok = none ∨
      openStore x (saveXml save root) ok = some newXml ∧ save ≠ .ok ∨
      openStore x (saveXml save root) ok = some root ∧ save = .ok ∧ ok = true := by
  cases ok with
  | false => exact .inl rfl
  | true =>
    cases save with
    | ok => exact .inr (.inr ⟨openStore_saved hx h, rfl, rfl⟩)
    | lost => exact .inr (.inl ⟨rfl, by simp⟩)
    | cut => exact .inl rfl

/-- A file that was deleted is like one whose save was lost. -/
theorem deleteAndOpen_eq (root : Node) (calls : OpenCalls) :
    deleteAndOpen x root calls =
      (saveXml (if calls.unlink then .lost else calls.save) root,
        openStore x (saveXml (if calls.unlink then .lost else calls.save) root)
          calls.reopenFile) := by
  unfold deleteAndOpen
  cases calls.unlink <;> rfl

/-- A session that is refused its file leaves it. -/
theorem readSession_of_not_open {calls : OpenCalls} (h : openStore x file calls.openFile = none)
    (save : SaveResult) : readSession x file calls save = (file, true) := by
  unfold readSession infostoreOpen
  rw [h]

/-- A session that cannot read the uuid works on what is left when the file was deleted. -/
theorem readSession_of_no_uuid {calls : OpenCalls} {root : Node} {save : SaveResult}
    (h : openStore x file calls.openFile = some root) (huuid : calls.uuid = none) :
    readSession x file calls save =
      match (deleteAndOpen x root calls).2 with
      | none => ((deleteAndOpen x root calls).1, true)
      | some root' => (saveXml save root', true) := by
  unfold readSession infostoreOpen
  rw [h, huuid]
  dsimp only
  rcases deleteAndOpen x root calls with ⟨file', _ | root'⟩ <;> rfl

/-- A session on the file of its domain stamps it. -/
theorem readSession_of_own {calls : OpenCalls} {root : Node} {save : SaveResult}
    (h : openStore x file calls.openFile = some root) (huuid : calls.uuid = some uuid)
    (hstamp : (infostoreGetStr root "uuid").all (· = uuid.text) = true) :
    readSession x file calls save =
      (saveXml save (infostoreSetStr x root "uuid" uuid.text), true) := by
  unfold readSession infostoreOpen
  rw [h, huuid]
  dsimp only
  cases hget : infostoreGetStr root "uuid" with
  | none => rfl
  | some stamp =>
    rw [hget] at hstamp
    have heq : stamp = uuid.text := by simpa using hstamp
    dsimp only
    rw [if_pos heq]

/-- A session on the file of another domain stamps what is left when it was deleted. -/
theorem readSession_of_stale {calls : OpenCalls} {root : Node} {save : SaveResult}
    (h : openStore x file calls.openFile = some root) (huuid : calls.uuid = some uuid)
    (hstamp : (infostoreGetStr root "uuid").all (· = uuid.text) = false) :
    readSession x file calls save =
      match (deleteAndOpen x root calls).2 with
      | none => ((deleteAndOpen x root calls).1, false)
      | some root' => (saveXml save (infostoreSetStr x root' "uuid" uuid.text), true) := by
  unfold readSession infostoreOpen
  rw [h, huuid]
  dsimp only
  -- a stamp is there, and it is not the uuid: the store is deleted and opened anew
  cases hget : infostoreGetStr root "uuid" with
  | none =>
    rw [hget] at hstamp
    cases hstamp
  | some stamp =>
    rw [hget] at hstamp
    have hne : stamp ≠ uuid.text := by simpa using hstamp
    dsimp only
    rw [if_neg hne]
    rcases deleteAndOpen x root calls with ⟨file', _ | root'⟩ <;> rfl

/-- A fresh store has nothing, however it is saved. -/
theorem blank_saveXml_newXml (hx : x.Documented) (save : SaveResult) :
    Blank x uuid (saveXml save newXml) := by
  by_cases hsave : save = .ok
  · rw [hsave]
    exact blank_newXml hx
  · exact blank_saveXml hsave newXml

/-- Where nothing is left, what was recorded is kept if it was nothing. -/
theorem Blank.kept_iff {file' : File} (h : Blank x uuid file') :
    recorded x uuid file' = recorded x uuid file ↔ Blank x uuid file := by
  rw [h]
  exact eq_comm

section Record

variable {root : Node} {calls : OpenCalls} {save : SaveResult}

/-- A record that is saved is kept if it reaches the file, or has nothing. -/
theorem recorded_saveXml_iff :
    recorded x uuid (saveXml save root) = recorded x uuid (.saved root) ↔
      Blank x uuid (.saved root) ∨ save = .ok := by
  by_cases hsave : save = .ok
  · subst hsave
    simp [saveXml]
  · rw [(blank_saveXml hsave root).kept_iff]
    simp [hsave]

/-- A session without the uuid of its domain. -/
theorem recorded_readSession_no_uuid (hx : x.Documented) (h : IsRecord root)
    (hopen : calls.openFile = true) (huuid : calls.uuid = none) :
    recorded x uuid (readSession x (.saved root) calls save).1 = recorded x uuid (.saved root) ↔
      Blank x uuid (.saved root) ∨ SessionKeeps calls save := by
  have hread : openStore x (.saved root) calls.openFile = some root := by
    rw [hopen, openStore_saved hx h]
  have hkeeps : SessionKeeps calls save ↔
      calls.unlink = false ∧ calls.save = .ok ∧ (calls.reopenFile = false ∨ save = .ok) := by
    simp [SessionKeeps, hopen, huuid]
  -- without the uuid the store is always replaced, so three of the calls decide
  rw [readSession_of_no_uuid hread huuid, hkeeps, deleteAndOpen]
  cases hunlink : calls.unlink with
  | true =>
    -- the file is gone, and what is made in its place is empty
    simp only [if_true, Bool.true_eq_false, false_and, or_false]
    cases hreopen : calls.reopenFile with
    | false => exact blank_empty.kept_iff
    | true => exact (blank_saveXml_newXml hx save).kept_iff
  | false =>
    simp only [Bool.false_eq_true, if_false, true_and]
    obtain hnone | ⟨hnew, hlost⟩ | ⟨hroot, hsaved, hreopen⟩ :=
      openStore_saveXml hx h calls.save calls.reopenFile
    · -- the file cannot be opened again, and stays as the first save left it
      rw [hnone]
      refine recorded_saveXml_iff.trans (or_congr_right ?_)
      constructor
      · intro hsaved
        refine ⟨hsaved, .inl ?_⟩
        cases hreopen : calls.reopenFile with
        | false => rfl
        | true =>
          rw [hsaved, hreopen] at hnone
          rw [saveXml, openStore_saved hx h] at hnone
          cases hnone
      · exact fun hsaved => hsaved.1
    · rw [hnew]
      rw [(blank_saveXml_newXml hx save).kept_iff]
      -- what is opened is a fresh store, the first save having lost the record
      simp [hlost]
    · rw [hroot]
      refine recorded_saveXml_iff.trans (or_congr_right ?_)
      -- the record is opened again and saved once more
      simp [hsaved, hreopen]

/-- A session on the file of its domain. -/
theorem recorded_readSession_own (hx : x.Documented) (h : IsRecord root)
    (hopen : calls.openFile = true) (huuid : calls.uuid = some uuid)
    (hstamp : (infostoreGetStr root "uuid").all (· = uuid.text) = true) :
    recorded x uuid (readSession x (.saved root) calls save).1 = recorded x uuid (.saved root) ↔
      Blank x uuid (.saved root) ∨ SessionKeeps calls save := by
  have hread : openStore x (.saved root) calls.openFile = some root := by
    rw [hopen, openStore_saved hx h]
  have hkeeps : SessionKeeps calls save ↔ save = .ok := by
    simp [SessionKeeps, hopen, huuid]
  have hsame := recorded_stamped hx h hstamp
  have hblank : Blank x uuid (.saved root) ↔
      Blank x uuid (.saved (infostoreSetStr x root "uuid" uuid.text)) := by
    rw [Blank, Blank, hsame]
  rw [readSession_of_own hread huuid hstamp, hkeeps, ← hsame, hblank]
  exact recorded_saveXml_iff

/-- What is recorded in a file that was taken over: the values of the other domain. -/
theorem recorded_takenOver (hx : x.Documented) (h : IsRecord root) (k : Key) :
    recorded x uuid (.saved (infostoreSetStr x root "uuid" uuid.text)) k =
      if k ≠ uuidKey then infostoreGetStr root k.name else none := by
  have hset : IsRecord (infostoreSetStr x root "uuid" uuid.text) := h.set hx uuidKey uuid.plain
  have hget : infostoreGetStr (infostoreSetStr x root "uuid" uuid.text) "uuid" = some uuid.text :=
    getStr_set hx h "uuid" uuid.plain
  rw [recorded_saved hx hset, hget]
  by_cases hk : k = uuidKey
  · simp [hk]
  · have hne : k.name ≠ "uuid" := fun heq => hk (Key.name_injective heq)
    have hother : infostoreGetStr (infostoreSetStr x root "uuid" uuid.text) k.name =
        infostoreGetStr root k.name := getStr_set_of_ne h hne uuid.text
    simp [hk, hother]

/-- A session on the file of another domain, which has nothing for this one. -/
theorem recorded_readSession_stale (hx : x.Documented) (h : IsRecord root)
    (hopen : calls.openFile = true) (huuid : calls.uuid = some uuid)
    (hstamp : (infostoreGetStr root "uuid").all (· = uuid.text) = false) :
    recorded x uuid (readSession x (.saved root) calls save).1 = recorded x uuid (.saved root) ↔
      (TakesOver uuid (.saved root) calls save → ¬ HasValues (.saved root)) := by
  have hread : openStore x (.saved root) calls.openFile = some root := by
    rw [hopen, openStore_saved hx h]
  -- another domain's stamp, so nothing is recorded of this one
  have hblank := blank_of_stale hx h hstamp
  have hfresh (save : SaveResult) :
      Blank x uuid (saveXml save (infostoreSetStr x newXml "uuid" uuid.text)) := by
    by_cases hsave : save = .ok
    · rw [hsave]
      exact blank_fresh hx
    · exact blank_saveXml hsave _
  rw [readSession_of_stale hread huuid hstamp, deleteAndOpen]
  cases hunlink : calls.unlink with
  | true =>
    -- the old file is gone, and nothing is taken over
    have hnot : ¬ TakesOver uuid (.saved root) calls save := by
      intro htakes
      rw [htakes.unlink] at hunlink
      cases hunlink
    simp only [if_true, hnot, false_implies, iff_true]
    rw [hblank]
    cases hreopen : calls.reopenFile with
    | false => exact blank_empty
    | true => exact hfresh save
  | false =>
    simp only [Bool.false_eq_true, if_false]
    obtain hnone | ⟨hnew, hlost⟩ | ⟨hroot, hsaved, hreopen⟩ :=
      openStore_saveXml hx h calls.save calls.reopenFile
    -- the file cannot be opened again, so what was in it was not taken over
    · have hnot : ¬ TakesOver uuid (.saved root) calls save := by
        intro htakes
        rw [htakes.saved, htakes.reopenFile, saveXml, openStore_saved hx h] at hnone
        cases hnone
      rw [hnone]
      simp only [hnot, false_implies, iff_true]
      exact recorded_saveXml_iff.mpr (.inl hblank)
    -- the first save lost the file, so what is stamped is fresh
    · have hnot : ¬ TakesOver uuid (.saved root) calls save := fun htakes => hlost htakes.saved
      rw [hnew]
      simp only [hnot, false_implies, iff_true]
      rw [hblank]
      exact hfresh save
    · rw [hroot]
      dsimp only
      by_cases hsave : save = .ok
      · -- the file is taken over: its values are those of the other domain
        have htakes : TakesOver uuid (.saved root) calls save := by
          cases hget : infostoreGetStr root "uuid" with
          | none =>
            rw [hget] at hstamp
            cases hstamp
          | some stamp =>
            rw [hget] at hstamp
            have hne : stamp ≠ uuid.text := by simpa using hstamp
            have hsome : calls.uuid ≠ none := by simp [huuid]
            exact ⟨⟨root, stamp, rfl, hget, hne⟩, hsome, hopen, hunlink, hsaved, hreopen, hsave⟩
        rw [hblank, hsave]
        simp only [← hsave, htakes, forall_const]
        -- the values that are found are those of the other domain
        rw [hsave, saveXml, funext_iff]
        constructor
        · rintro hnothing ⟨_, k, heq, hk, hvalue⟩
          obtain rfl := File.saved.inj heq
          have hrec := hnothing k
          rw [recorded_takenOver hx h, if_pos hk] at hrec
          exact hvalue hrec
        · intro hvalues k
          rw [recorded_takenOver hx h]
          split
          · next hk =>
            by_contra hvalue
            exact hvalues ⟨root, k, rfl, hk, hvalue⟩
          · rfl
      -- the second save fails, and the file has nothing of this domain
      · have hnot : ¬ TakesOver uuid (.saved root) calls save := fun htakes => hsave htakes.save
        simp only [hnot, false_implies, iff_true]
        rw [hblank]
        exact blank_saveXml hsave _

end Record

/-- **What a session that only reads keeps.** The values of the domain stay as they are if and
only if there are none or the session keeps them, and it takes none over from another domain. -/
theorem recorded_readSession_iff (hx : x.Documented) (hfile : FileRecord file)
    {calls : OpenCalls} {save : SaveResult} (huuid : ∀ u, calls.uuid = some u → u = uuid) :
    recorded x uuid (readSession x file calls save).1 = recorded x uuid file ↔
      (Blank x uuid file ∨ SessionKeeps calls save) ∧
        (TakesOver uuid file calls save → ¬ HasValues file) := by
  cases hopen : calls.openFile with
  -- a file that cannot be opened is left as it is
  | false =>
    have hsession : readSession x file calls save = (file, true) := by
      apply readSession_of_not_open
      rw [hopen]
      rfl
    have hnot : ¬ TakesOver uuid file calls save := by
      intro htakes
      rw [htakes.openFile] at hopen
      cases hopen
    rw [hsession]
    simp [SessionKeeps, hopen, hnot]
  | true =>
    cases file with
    | empty =>
      -- a fresh store has nothing to keep
      have hread : openStore x .empty calls.openFile = some newXml := by rw [hopen, openStore_empty]
      have hnot : ¬ TakesOver uuid .empty calls save := by
        rintro ⟨⟨root, stamp, heq, -⟩, -⟩
        cases heq
      have hsession : Blank x uuid (readSession x .empty calls save).1 := by
        cases hcalls : calls.uuid with
        | none =>
          rw [readSession_of_no_uuid hread hcalls, deleteAndOpen_eq]
          dsimp only
          obtain hnone | ⟨hnew, -⟩ | ⟨hnew, -⟩ :=
            openStore_saveXml hx isRecord_newXml (if calls.unlink then .lost else calls.save)
              calls.reopenFile
          · rw [hnone]
            exact blank_saveXml_newXml hx _
          · rw [hnew]
            exact blank_saveXml_newXml hx save
          · rw [hnew]
            exact blank_saveXml_newXml hx save
        -- the stamp is the domain's own, so the session saves what it read
        | some u =>
          obtain rfl := huuid u hcalls
          rw [readSession_of_own hread hcalls rfl]
          by_cases hsave : save = .ok
          · rw [hsave]
            exact blank_fresh hx
          · exact blank_saveXml hsave _
      rw [hsession.kept_iff]
      simp [blank_empty, hnot]
    -- a broken file is never opened as a store
    | broken =>
      have hsession : readSession x .broken calls save = (.broken, true) := by
        apply readSession_of_not_open
        rw [hopen]
        rfl
      have hnot : ¬ TakesOver uuid .broken calls save := by
        rintro ⟨⟨root, stamp, heq, -⟩, -⟩
        cases heq
      rw [hsession]
      simp [blank_broken, hnot]
    -- of a saved record, the uuid and the stamp decide which of the three sessions it is
    | saved root =>
      have hrecord := hfile root rfl
      cases hcalls : calls.uuid with
      | none =>
        have hnot : ¬ TakesOver uuid (.saved root) calls save := fun htakes => htakes.uuid hcalls
        rw [recorded_readSession_no_uuid hx hrecord hopen hcalls]
        simp [hnot]
      | some u =>
        obtain rfl := huuid u hcalls
        cases hstamp : (infostoreGetStr root "uuid").all (· = u.text) with
        | true =>
          have hnot : ¬ TakesOver u (.saved root) calls save := by
            rintro ⟨⟨root', stamp, heq, hget, hne⟩, -⟩
            obtain rfl := File.saved.inj heq
            rw [hget] at hstamp
            exact hne (by simpa using hstamp)
          rw [recorded_readSession_own hx hrecord hopen hcalls hstamp]
          simp [hnot]
        | false =>
          rw [recorded_readSession_stale hx hrecord hopen hcalls hstamp]
          simp [blank_of_stale hx hrecord hstamp]

/-- A process that crashes does so on the file of another domain, and leaves it without a
value for its own. -/
theorem blank_of_crashed (hx : x.Documented) (hfile : FileRecord file) {calls : OpenCalls}
    {save : SaveResult} (huuid : ∀ u, calls.uuid = some u → u = uuid)
    (hcrash : (readSession x file calls save).2 = false) :
    Blank x uuid file ∧ Blank x uuid (readSession x file calls save).1 := by
  -- a session that could not begin has not crashed
  cases hread : openStore x file calls.openFile with
  | none =>
    rw [readSession_of_not_open hread] at hcrash
    cases hcrash
  | some root =>
    cases hcalls : calls.uuid with
    | none =>
      rw [readSession_of_no_uuid hread hcalls] at hcrash
      split at hcrash <;> cases hcrash
    | some u =>
      obtain rfl := huuid u hcalls
      cases hstamp : (infostoreGetStr root "uuid").all (· = u.text) with
      | true =>
        rw [readSession_of_own hread hcalls hstamp] at hcrash
        cases hcrash
      | false =>
        -- the record that was opened is the one in the file
        have hrecord : file = .saved root ∧ IsRecord root := by
          cases hopen : calls.openFile with
          | false =>
            rw [hopen] at hread
            cases hread
          | true =>
            rw [hopen] at hread
            cases file with
            | empty =>
              obtain rfl := Option.some.inj hread
              cases hstamp
            | broken => cases hread
            | saved root' =>
              have hroot := hfile root' rfl
              rw [openStore_saved hx hroot] at hread
              obtain rfl := Option.some.inj hread
              exact ⟨rfl, hroot⟩
        obtain ⟨rfl, hroot⟩ := hrecord
        have hblank := blank_of_stale hx hroot hstamp
        refine ⟨hblank, ?_⟩
        -- the crash comes of a file that could not be opened again
        rw [readSession_of_stale hread hcalls hstamp, deleteAndOpen_eq] at hcrash ⊢
        dsimp only at hcrash ⊢
        split at hcrash
        · exact (recorded_saveXml_iff.mpr (.inl hblank)).trans hblank
        · cases hcrash

end LibvirtCim.Infostore
