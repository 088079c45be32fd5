import LibvirtCim.Infostore.Recorded

/-!
# Flags

A truth value in the file of a domain, and the sessions that set and clear it. A flag is looked
at in two ways: the domain of a uuid finds it (`FlagSet`), or the file has it, whatever domain it
belongs to (`EntryFlag`). What a session leaves depends on whether `infostore_open` gives one
(`flagSet_flagSession_iff`, `entryFlag_flagSession_iff`); on a file whose domain finds the flag,
what the calls answer decides whether it is kept (`flagSet_readSession_iff`) or cleared
(`entryFlag_clear_iff`).
-/

open Framework

namespace LibvirtCim.Infostore

/-- A session that sets a truth value, with the save of its `infostore_close`: the file it
leaves, and whether the process is still there. -/
def flagSession (x : Libxml) (key : Key) (value : Bool) (file : File) (calls : OpenCalls)
    (save : SaveResult) : File × Bool :=
  match infostoreOpen x file calls with
  | (_, .session root) => (saveXml save (infostoreSetBool x root key.name value), true)
  | (file, .refused) => (file, true)
  | (file, .crashed) => (file, false)

/-- The file has the flag set, whatever domain it belongs to. -/
def EntryFlag (x : Libxml) (key : Key) (file : File) : Prop :=
  ∃ root, openStore x file true = some root ∧ infostoreGetBool root key.name = true

/-- The domain of a uuid finds the flag set: the file is its own, or has no stamp yet. -/
def FlagSet (x : Libxml) (key : Key) (uuid : Uuid) (file : File) : Prop :=
  ∃ root, openStore x file true = some root ∧
    (infostoreGetStr root "uuid").all (· = uuid.text) = true ∧
      infostoreGetBool root key.name = true

/-- What holds behind `infostore_open`: one thing of the session if there is one, another of the
file that is left if there is none. -/
def AfterOpen (session : Node → Prop) (left : File → Prop) : File × Opened → Prop
  | (_, .session root) => session root
  | (file, .refused) => left file
  | (file, .crashed) => left file

variable {x : Libxml} {key : Key} {uuid : Uuid} {file : File}

theorem FlagSet.entryFlag (h : FlagSet x key uuid file) : EntryFlag x key file := by
  obtain ⟨root, hopen, -, hflag⟩ := h
  exact ⟨root, hopen, hflag⟩

/-! ### Files -/

theorem not_entryFlag_empty : ¬ EntryFlag x key .empty := by
  rintro ⟨root, hopen, hflag⟩
  rw [openStore_empty] at hopen
  obtain rfl := Option.some.inj hopen
  cases hflag

theorem not_entryFlag_broken : ¬ EntryFlag x key .broken := by
  rintro ⟨root, hopen, -⟩
  cases hopen

theorem entryFlag_saved_iff (hx : x.Documented) {root : Node} (h : IsRecord root) :
    EntryFlag x key (.saved root) ↔ infostoreGetBool root key.name = true := by
  unfold EntryFlag
  rw [openStore_saved hx h]
  simp

theorem flagSet_saved_iff (hx : x.Documented) {root : Node} (h : IsRecord root) :
    FlagSet x key uuid (.saved root) ↔
      (infostoreGetStr root "uuid").all (· = uuid.text) = true ∧
        infostoreGetBool root key.name = true := by
  unfold FlagSet
  rw [openStore_saved hx h]
  simp

theorem entryFlag_saveXml_iff (hx : x.Documented) {root : Node} (h : IsRecord root)
    (save : SaveResult) :
    EntryFlag x key (saveXml save root) ↔ save = .ok ∧ infostoreGetBool root key.name = true := by
  cases save with
  | ok => simp [saveXml, entryFlag_saved_iff hx h]
  | lost => simp [saveXml, not_entryFlag_empty]
  | cut => simp [saveXml, not_entryFlag_broken]

theorem not_entryFlag_newXml (hx : x.Documented) (save : SaveResult) :
    ¬ EntryFlag x key (saveXml save newXml) := by
  intro h
  obtain ⟨-, hflag⟩ := (entryFlag_saveXml_iff hx isRecord_newXml save).mp h
  cases hflag

theorem flagSet_saveXml_iff (hx : x.Documented) {root : Node} (h : IsRecord root)
    (save : SaveResult) :
    FlagSet x key uuid (saveXml save root) ↔
      save = .ok ∧ (infostoreGetStr root "uuid").all (· = uuid.text) = true ∧
        infostoreGetBool root key.name = true := by
  by_cases hsave : save = .ok
  · subst hsave
    simp [saveXml, flagSet_saved_iff hx h]
  · refine iff_of_false ?_ (fun hall => hsave hall.1)
    intro hset
    exact hsave ((entryFlag_saveXml_iff hx h save).mp hset.entryFlag).1

/-- A file whose domain finds a flag is a record with the domain's stamp, or none. -/
theorem FlagSet.exists_root (hfile : FileRecord file) (h : FlagSet x key uuid file) :
    ∃ root, file = .saved root ∧ IsRecord root := by
  match file with
  | .empty => exact absurd h.entryFlag not_entryFlag_empty
  | .broken => exact absurd h.entryFlag not_entryFlag_broken
  | .saved root => exact ⟨root, rfl, hfile root rfl⟩

/-! ### Records -/

theorem fileRecord_empty : FileRecord .empty := by
  intro root h
  cases h

theorem fileRecord_saveXml {root : Node} (h : IsRecord root) (save : SaveResult) :
    FileRecord (saveXml save root) := by
  intro root' hsaved
  cases save with
  | ok => exact File.saved.inj hsaved ▸ h
  | lost => cases hsaved
  | cut => cases hsaved

/-- What is opened is a record. -/
theorem isRecord_of_openStore (hx : x.Documented) (hfile : FileRecord file) {ok : Bool}
    {root : Node} (h : openStore x file ok = some root) : IsRecord root := by
  match ok, file, hfile, h with
  | true, .empty, _, h => exact Option.some.inj (openStore_empty.symm.trans h) ▸ isRecord_newXml
  | true, .saved root', hfile, h =>
    rw [openStore_saved hx (hfile root' rfl)] at h
    exact Option.some.inj h ▸ hfile root' rfl

theorem isRecord_setUuid (hx : x.Documented) {root : Node} (h : IsRecord root) (uuid : Uuid) :
    IsRecord (infostoreSetStr x root "uuid" uuid.text) :=
  h.set hx uuidKey uuid.plain

theorem infostoreSetBool_eq (root : Node) (key : String) (value : Bool) :
    infostoreSetBool x root key value = xpathSetString x root key (Value.bool value).text :=
  infostoreSet_eq root key (.bool value)

theorem isRecord_setBool (hx : x.Documented) {root : Node} (h : IsRecord root) (key : Key)
    (value : Bool) : IsRecord (infostoreSetBool x root key.name value) := by
  rw [infostoreSetBool_eq]
  exact h.set hx key (plainText_text fun s hs => by cases hs)

/-- What is set is found. -/
theorem getBool_setBool (hx : x.Documented) {root : Node} (h : IsRecord root) (key : Key)
    (value : Bool) :
    infostoreGetBool (infostoreSetBool x root key.name value) key.name = value := by
  have hget : xpathQueryString (infostoreSetBool x root key.name value) key.name =
      some (Value.bool value).text := by
    rw [infostoreSetBool_eq]
    exact getStr_set hx h key.name (plainText_text fun s hs => by cases hs)
  unfold infostoreGetBool
  rw [hget]
  cases value <;> decide

/-- A flag has no part in the stamp. -/
theorem getUuid_setBool {root : Node} (h : IsRecord root) (hkey : key ≠ uuidKey) (value : Bool) :
    infostoreGetStr (infostoreSetBool x root key.name value) "uuid" =
      infostoreGetStr root "uuid" := by
  rw [infostoreSetBool_eq]
  exact getStr_set_of_ne h (fun heq => hkey (Key.name_injective heq.symm)) _

/-- The stamp has no part in a flag. -/
theorem getBool_setUuid {root : Node} (h : IsRecord root) (hkey : key ≠ uuidKey) (uuid : Uuid) :
    infostoreGetBool (infostoreSetStr x root "uuid" uuid.text) key.name =
      infostoreGetBool root key.name := by
  have hget : xpathQueryString (infostoreSetStr x root "uuid" uuid.text) key.name =
      xpathQueryString root key.name :=
    getStr_set_of_ne h (fun heq => hkey (Key.name_injective heq)) _
  unfold infostoreGetBool
  rw [hget]

/-! ### Opening -/

/-- A file that is deleted, or rewritten, is a record or nothing, and so is what is opened in
its place. -/
theorem deleteAndOpen_record (hx : x.Documented) {root : Node} (h : IsRecord root)
    (calls : OpenCalls) :
    FileRecord (deleteAndOpen x root calls).1 ∧
      ∀ root', (deleteAndOpen x root calls).2 = some root' → IsRecord root' := by
  rw [deleteAndOpen_eq]
  have hfile := fileRecord_saveXml h (if calls.unlink then .lost else calls.save)
  exact ⟨hfile, fun root' hopen => isRecord_of_openStore hx hfile hopen⟩

/-- **Opening keeps records.** -/
theorem infostoreOpen_record (hx : x.Documented) (hfile : FileRecord file) (calls : OpenCalls) :
    FileRecord (infostoreOpen x file calls).1 ∧
      ∀ root, (infostoreOpen x file calls).2 = .session root → IsRecord root := by
  unfold infostoreOpen
  -- the file that cannot be opened, the uuid that is missing, the stamp that differs or not
  split
  next => exact ⟨hfile, fun root h => by cases h⟩
  next root hopen =>
    have hroot : IsRecord root := isRecord_of_openStore hx hfile hopen
    have hagain := deleteAndOpen_record hx hroot calls
    split
    next =>
      split
      next left hleft =>
        rw [hleft] at hagain
        exact ⟨hagain.1, fun root h => by cases h⟩
      next left root' hleft =>
        rw [hleft] at hagain
        exact ⟨hagain.1, fun root'' h => Opened.session.inj h ▸ hagain.2 root' rfl⟩
    -- the stamp of the domain is put on whatever is opened
    next uuid huuid =>
      have hstamped : ∀ root'', Opened.session (infostoreSetStr x root "uuid" uuid.text) =
          .session root'' → IsRecord root'' :=
        fun root'' h => Opened.session.inj h ▸ isRecord_setUuid hx hroot uuid
      split
      next => exact ⟨hfile, hstamped⟩
      next =>
        split_ifs
        · exact ⟨hfile, hstamped⟩
        · split
          next left hleft =>
            rw [hleft] at hagain
            exact ⟨hagain.1, fun root h => by cases h⟩
          next left root' hleft =>
            rw [hleft] at hagain
            refine ⟨hagain.1, fun root'' h => ?_⟩
            exact Opened.session.inj h ▸ isRecord_setUuid hx (hagain.2 root' rfl) uuid

/-- A session on the file of its domain goes on with what is there. -/
theorem infostoreOpen_of_own (hx : x.Documented) {root : Node} (h : IsRecord root)
    {calls : OpenCalls} (hopen : calls.openFile = true) (huuid : calls.uuid = some uuid)
    (hstamp : (infostoreGetStr root "uuid").all (· = uuid.text) = true) :
    infostoreOpen x (.saved root) calls =
      (.saved root, .session (infostoreSetStr x root "uuid" uuid.text)) := by
  unfold infostoreOpen
  rw [hopen, openStore_saved hx h, huuid]
  dsimp only
  split
  next => rfl
  next stamp hget =>
    rw [hget] at hstamp
    rw [if_pos (by simpa using hstamp)]

/-- The session on a tree, if there is one. -/
def Opened.ofTree : Option Node → Opened
  | none => .refused
  | some root => .session root

/-- A session without the uuid of its domain deletes the file first. -/
theorem infostoreOpen_of_no_uuid (hx : x.Documented) {root : Node} (h : IsRecord root)
    {calls : OpenCalls} (hopen : calls.openFile = true) (huuid : calls.uuid = none) :
    infostoreOpen x (.saved root) calls =
      ((deleteAndOpen x root calls).1, .ofTree (deleteAndOpen x root calls).2) := by
  unfold infostoreOpen
  rw [hopen, openStore_saved hx h, huuid]
  dsimp only
  rcases deleteAndOpen x root calls with ⟨file, _ | root'⟩ <;> rfl

theorem Uuid.text_injective {u u' : Uuid} (h : u.text = u'.text) : u = u' := by
  cases u
  cases u'
  cases h
  rfl

/-- A session that reads a uuid works on a tree that is stamped with it. -/
theorem getUuid_of_session (hx : x.Documented) (hfile : FileRecord file) {calls : OpenCalls}
    {left : File} {root : Node} (huuid : calls.uuid = some uuid)
    (h : infostoreOpen x file calls = (left, .session root)) :
    infostoreGetStr root "uuid" = some uuid.text := by
  -- a stamp that was set is read back as the text of the uuid
  have hstamped {root : Node} (hroot : IsRecord root) :
      infostoreGetStr (infostoreSetStr x root "uuid" uuid.text) "uuid" = some uuid.text :=
    getStr_set hx hroot "uuid" uuid.plain
  unfold infostoreOpen at h
  rw [huuid] at h
  -- however the session came about, the stamp was set last
  split at h
  next => cases h
  next root' hopen =>
    have hroot' : IsRecord root' := isRecord_of_openStore hx hfile hopen
    dsimp only at h
    split at h
    next =>
      obtain rfl := Opened.session.inj (Prod.mk.inj h).2
      exact hstamped hroot'
    next =>
      split_ifs at h
      · obtain rfl := Opened.session.inj (Prod.mk.inj h).2
        exact hstamped hroot'
      · split at h
        next => cases (Prod.mk.inj h).2
        next left' root'' hleft =>
          have hagain := (deleteAndOpen_record hx hroot' calls).2 root'' (by rw [hleft])
          obtain rfl := Opened.session.inj (Prod.mk.inj h).2
          exact hstamped hagain

/-! ### Sessions -/

section Session

variable {calls : OpenCalls} {save : SaveResult}

theorem fileRecord_flagSession (hx : x.Documented) (hfile : FileRecord file) (value : Bool) :
    FileRecord (flagSession x key value file calls save).1 := by
  have hopened := infostoreOpen_record hx hfile calls
  unfold flagSession
  split
  next left root hres =>
    rw [hres] at hopened
    exact fileRecord_saveXml (isRecord_setBool hx (hopened.2 root rfl) key value) save
  next left hres =>
    rw [hres] at hopened
    exact hopened.1
  next left hres =>
    rw [hres] at hopened
    exact hopened.1

theorem fileRecord_readSession (hx : x.Documented) (hfile : FileRecord file) :
    FileRecord (readSession x file calls save).1 := by
  have hopened := infostoreOpen_record hx hfile calls
  unfold readSession
  split
  next left root hres =>
    rw [hres] at hopened
    exact fileRecord_saveXml (hopened.2 root rfl) save
  next left hres =>
    rw [hres] at hopened
    exact hopened.1
  next left hres =>
    rw [hres] at hopened
    exact hopened.1

/-- **What a session leaves of the flag.** If it is opened, what it has set counts, once it is
saved; if not, what `infostore_open` has left. -/
theorem entryFlag_flagSession_iff (hx : x.Documented) (hfile : FileRecord file) (value : Bool) :
    EntryFlag x key (flagSession x key value file calls save).1 ↔
      AfterOpen (fun _ => save = .ok ∧ value = true) (EntryFlag x key)
        (infostoreOpen x file calls) := by
  have hopened := infostoreOpen_record hx hfile calls
  unfold flagSession
  split
  next left root hres =>
    rw [hres] at hopened
    have hroot := hopened.2 root rfl
    rw [hres, AfterOpen, entryFlag_saveXml_iff hx (isRecord_setBool hx hroot key value),
      getBool_setBool hx hroot]
  next left hres => rw [hres, AfterOpen]
  next left hres => rw [hres, AfterOpen]

/-- What a session leaves of the flag for the domain of a uuid: the session's file must be
stamped for it too. -/
theorem flagSet_flagSession_iff (hx : x.Documented) (hfile : FileRecord file)
    (hkey : key ≠ uuidKey) (value : Bool) :
    FlagSet x key uuid (flagSession x key value file calls save).1 ↔
      AfterOpen
        (fun root => save = .ok ∧
          (infostoreGetStr root "uuid").all (· = uuid.text) = true ∧ value = true)
        (FlagSet x key uuid) (infostoreOpen x file calls) := by
  have hopened := infostoreOpen_record hx hfile calls
  unfold flagSession
  -- only a session can change the flag, a refusal or a crash leaves what is there
  split
  next left root hres =>
    rw [hres] at hopened
    have hroot := hopened.2 root rfl
    rw [hres, AfterOpen, flagSet_saveXml_iff hx (isRecord_setBool hx hroot key value),
      getBool_setBool hx hroot, getUuid_setBool hroot hkey]
  next left hres => rw [hres, AfterOpen]
  next left hres => rw [hres, AfterOpen]

/-- **A reader keeps a flag** that its domain finds exactly if it keeps what is recorded. -/
theorem flagSet_readSession_iff (hx : x.Documented) (hfile : FileRecord file)
    (hkey : key ≠ uuidKey) (huuid : ∀ u, calls.uuid = some u → u = uuid)
    (hflag : FlagSet x key uuid file) :
    FlagSet x key uuid (readSession x file calls save).1 ↔ SessionKeeps calls save := by
  -- the flag is in a record with the stamp of the domain
  obtain ⟨root, rfl, hroot⟩ := hflag.exists_root hfile
  obtain ⟨hstamp, hset⟩ := (flagSet_saved_iff hx hroot).mp hflag
  -- the session reads only if the file is opened, and saves what it read
  cases hopen : calls.openFile with
  | false =>
    have hread : readSession x (.saved root) calls save = (.saved root, true) := by
      apply readSession_of_not_open
      rw [hopen]
      rfl
    rw [hread]
    exact iff_of_true hflag (.inl hopen)
  | true =>
    have hread : openStore x (.saved root) calls.openFile = some root := by
      rw [hopen, openStore_saved hx hroot]
    cases hcalls : calls.uuid with
    | some u =>
      obtain rfl := huuid u hcalls
      have hstamped : (infostoreGetStr (infostoreSetStr x root "uuid" u.text) "uuid").all
          (· = u.text) = true := by
        rw [infostoreSetStr, getStr_set hx hroot "uuid" u.plain]
        simp
      rw [readSession_of_own hread hcalls hstamp,
        flagSet_saveXml_iff hx (isRecord_setUuid hx hroot u), getBool_setUuid hroot hkey]
      simp [SessionKeeps, hopen, hcalls, hstamped, hset]
    | none =>
      have hkeeps : SessionKeeps calls save ↔
          calls.unlink = false ∧ calls.save = .ok ∧ (calls.reopenFile = false ∨ save = .ok) := by
        simp [SessionKeeps, hopen, hcalls]
      -- a fresh store has no flag at all
      have hnew : ¬ FlagSet x key uuid (saveXml save newXml) := fun h =>
        not_entryFlag_newXml hx save h.entryFlag
      rw [readSession_of_no_uuid hread hcalls, hkeeps, deleteAndOpen]
      cases hunlink : calls.unlink with
      | true =>
        -- the file is gone, and the flag with it
        refine iff_of_false ?_ (fun h => by cases h.1)
        cases calls.reopenFile with
        | false => exact fun h => not_entryFlag_empty h.entryFlag
        | true => exact hnew
      | false =>
        obtain hnone | ⟨hfresh, hlost⟩ | ⟨hagain, hsaved, hreopen⟩ :=
          openStore_saveXml hx hroot calls.save calls.reopenFile
        -- the file cannot be opened again, so the record is as the first save left it
        · simp only [Bool.false_eq_true, if_false, hnone]
          rw [flagSet_saveXml_iff hx hroot]
          have hreopen : calls.save = .ok → calls.reopenFile = false := by
            intro hsaved
            by_contra hne
            rw [Bool.not_eq_false] at hne
            rw [hsaved, hne, saveXml, openStore_saved hx hroot] at hnone
            cases hnone
          simp only [hstamp, hset, and_self, and_true, true_and]
          exact ⟨fun hsaved => ⟨hsaved, .inl (hreopen hsaved)⟩, fun h => h.1⟩
        · simp only [Bool.false_eq_true, if_false, hfresh]
          exact iff_of_false hnew fun h => hlost h.2.1
        · simp only [Bool.false_eq_true, if_false, hagain]
          rw [flagSet_saveXml_iff hx hroot]
          simp [hstamp, hset, hsaved, hreopen]

/-- The session that clears a flag reaches the file: it is opened, and where the uuid of the
domain cannot be read, the file is deleted, or lost, or opened again. -/
def OpenCalls.Clears (calls : OpenCalls) : Prop :=
  calls.openFile = true ∧
    (calls.uuid = none → calls.unlink = false → calls.save = .ok → calls.reopenFile = true)

/-- **A flag is cleared** exactly if its session reaches the file, however that is saved. -/
theorem entryFlag_clear_iff (hx : x.Documented) (hfile : FileRecord file)
    (huuid : ∀ u, calls.uuid = some u → u = uuid) (hflag : FlagSet x key uuid file) :
    EntryFlag x key (flagSession x key false file calls save).1 ↔ ¬ calls.Clears := by
  rw [entryFlag_flagSession_iff hx hfile]
  obtain ⟨root, rfl, hroot⟩ := hflag.exists_root hfile
  obtain ⟨hstamp, hset⟩ := (flagSet_saved_iff hx hroot).mp hflag
  -- the session that goes on to the end writes the flag off
  have hcleared : ¬ (save = .ok ∧ false = true) := fun h => by cases h.2
  cases hopen : calls.openFile with
  | false =>
    -- a file that cannot be opened is not written either
    have hrefused : infostoreOpen x (.saved root) calls = (.saved root, .refused) := by
      unfold infostoreOpen
      rw [hopen]
      rfl
    rw [hrefused]
    refine iff_of_true hflag.entryFlag fun h => ?_
    rw [h.1] at hopen
    cases hopen
  | true =>
    cases hcalls : calls.uuid with
    | some u =>
      obtain rfl := huuid u hcalls
      rw [infostoreOpen_of_own hx hroot hopen hcalls hstamp]
      -- with its uuid the session is the domain's own, and clears the flag
      refine iff_of_false hcleared (not_not.mpr ⟨hopen, fun hnone => ?_⟩)
      rw [hcalls] at hnone
      cases hnone
    | none =>
      rw [infostoreOpen_of_no_uuid hx hroot hopen hcalls, deleteAndOpen]
      cases hunlink : calls.unlink with
      | true =>
        have hclears : calls.Clears := by
          refine ⟨hopen, fun _ hnot => ?_⟩
          rw [hunlink] at hnot
          cases hnot
        refine iff_of_false ?_ (not_not.mpr hclears)
        cases calls.reopenFile with
        | false => exact not_entryFlag_empty
        | true => exact hcleared
      | false =>
        have hclears : calls.Clears ↔ (calls.save = .ok → calls.reopenFile = true) := by
          simp [OpenCalls.Clears, hopen, hcalls, hunlink]
        -- the store is opened anew, and the flag is gone unless that fails
        simp only [Bool.false_eq_true, if_false, hclears]
        obtain hnone | ⟨hfresh, hlost⟩ | ⟨hagain, -, hreopen⟩ :=
          openStore_saveXml hx hroot calls.save calls.reopenFile
        · rw [hnone]
          show EntryFlag x key (saveXml calls.save root) ↔ _
          rw [entryFlag_saveXml_iff hx hroot]
          simp only [hset, and_true, Classical.not_imp]
          refine ⟨fun hsaved => ⟨hsaved, fun hreopen => ?_⟩, fun h => h.1⟩
          rw [hsaved, hreopen, saveXml, openStore_saved hx hroot] at hnone
          cases hnone
        · rw [hfresh]
          exact iff_of_false (fun h => h.2) fun h => h fun hsaved => absurd hsaved hlost
        · rw [hagain]
          exact iff_of_false (fun h => h.2) fun h => h fun _ => hreopen

end Session

end LibvirtCim.Infostore
