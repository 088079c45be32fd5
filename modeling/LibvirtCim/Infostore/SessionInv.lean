import LibvirtCim.Infostore.Sessions

/-!
# The file system under the sessions

`Exclusive` is the condition under which the steps of the clients do not get into
each other's way: a client unlinks a stale file only while nobody else has the path
open and while the path still names the file it compared; from then on no client of
another uuid takes the lock of the new file before it does; and `infostore_delete`
finds the path closed.

`SessionInv` is the invariant of the file system under these conditions
(`SessionInv.step`). Its clause `linked` says that an open file descriptor belongs to
the inode its path names. Together with the locks that gives exclusion, and it is
what an unlink would break.

Each step puts its client to sleep, makes one change to the file system and wakes
the client in its next phase; the invariant has one lemma for each change
(`SessionInv.openFile`, `.acquire`, `.giveUp`, `.write`, `.unlink`) and one for the
phase (`SessionInv.setPhase`).
-/

open Framework

namespace LibvirtCim.Infostore

/-! ### Reading a phase -/

/-- The document is no other uuid's. -/
def Doc.Free (doc : Doc) (uuid : Uuid) : Prop :=
  doc.stamp = none ∨ doc.stamp = some uuid

namespace Phase

/-- The client has the file open. -/
def fd : Phase → Option Handle
  | .opened _ s | .locked _ s | .loaded _ s _ | .mismatch s _ | .written s | .active s _
  | .saved s => some s
  | .idle | .released _ | .unlinked _ => none

/-- The client holds the lock of the file. -/
def owns : Phase → Option Handle
  | .locked _ s | .loaded _ s _ | .mismatch s _ | .written s | .active s _ | .saved s => some s
  | .idle | .opened _ _ | .released _ | .unlinked _ => none

/-- The client has unlinked a stale file and not locked the new one. -/
def replacing : Phase → Option Handle
  | .unlinked s | .opened true s => some s
  | _ => none

/-- The client is on its way from the unlink of a stale file to its session. -/
def resets : Phase → Option Handle
  | .unlinked s | .opened true s | .locked true s | .loaded true s _ => some s
  | _ => none

/-- What the owner of a lock knows of the content of the file. -/
def Knows : Phase → Doc → Prop
  | .locked again s, content => again = true → content.Free s.uuid
  | .loaded again s doc, content => doc = content ∧ (again = true → content.Free s.uuid)
  | .mismatch s doc, content => doc = content ∧ ∃ u, content.stamp = some u ∧ u ≠ s.uuid
  | .written s, content => ∃ u, content.stamp = some u ∧ u ≠ s.uuid
  | .active s doc, content => doc.stamp = some s.uuid ∧ content.Free s.uuid
  | _, _ => True

theorem fd_of_owns {ph : Phase} {s : Handle} (h : ph.owns = some s) : ph.fd = some s := by
  cases ph <;> first | exact h | exact absurd h (by simp [owns])

theorem owns_of_holding {ph : Phase} {s : Handle} (h : ph.holding = some s) :
    ph.owns = some s := by
  cases ph <;> first | exact h | exact absurd h (by simp [holding])

theorem owns_of_replacing {ph : Phase} {s : Handle} (h : ph.replacing = some s) :
    ph.owns = none := by
  cases ph <;> first | rfl | exact absurd h (by simp [replacing])

theorem replacing_or_owns_of_resets {ph : Phase} {s : Handle} (h : ph.resets = some s) :
    ph.replacing = some s ∨ ph.owns = some s := by
  cases ph with
  | opened again s' => cases again <;> exact .inl h
  | locked again s' =>
    cases again with
    | false => exact nomatch h
    | true => exact .inr h
  | loaded again s' doc =>
    cases again with
    | false => exact nomatch h
    | true => exact .inr h
  | unlinked s' => exact .inl h
  | _ => exact nomatch h

end Phase

/-! ### The conditions -/

/-- The conditions under which a step keeps sessions serialised, read off the
state before it. -/
def Exclusive (w : World) : Call → Prop
  | .flock c => ∀ again s, w.client c = .opened again s →
    ∀ c' s', c' ≠ c → (w.client c').replacing = some s' → s'.path = s.path → s'.uuid = s.uuid
  | .unlink c => ∀ s, w.client c = .released s →
    (∀ c' s', c' ≠ c → (w.client c').fd = some s' → s'.path ≠ s.path) ∧
    (w.dir s.path = some s.ino ∨ w.dir s.path = none)
  | .delete path => ∀ c s, (w.client c).fd = some s → s.path ≠ path
  | _ => True

/-! ### The invariant of the file system -/

/-- What the file system and the clients satisfy. -/
structure SessionInv (w : World) : Prop where
  /-- an open file descriptor belongs to the inode its path names -/
  linked : ∀ c s, (w.client c).fd = some s → w.dir s.path = some s.ino
  locked : ∀ c s, (w.client c).owns = some s → w.lock s.ino = some c
  knows : ∀ c s, (w.client c).owns = some s → (w.client c).Knows (w.content s.ino)
  /-- until a replacing client locks the new file, that has no other stamp than its own -/
  replaced : ∀ c s, (w.client c).replacing = some s → ∀ i, w.dir s.path = some i →
    (w.content i).Free s.uuid
  /-- and only clients of the same uuid have it locked -/
  admitted : ∀ c s c' s', (w.client c).replacing = some s → (w.client c').owns = some s' →
    s.path = s'.path → s.uuid = s'.uuid
  /-- the file a client found stale stays so while the path names it -/
  stale : ∀ c s, w.client c = .released s → s.ino < w.next ∧
    (w.dir s.path = some s.ino → ∃ u, (w.content s.ino).stamp = some u ∧ u ≠ s.uuid)
  bound : ∀ p i, w.dir p = some i → i < w.next
  inj : ∀ p p' i, w.dir p = some i → w.dir p' = some i → p = p'

/-- Another client's phase is not touched. -/
theorem World.client_setPhase_of_ne {w : World} {c c' : ℕ} (ph : Phase) (h : c' ≠ c) :
    (w.setPhase c ph).client c' = w.client c' :=
  Function.update_of_ne h ..

@[simp] theorem World.client_setPhase {w : World} (c : ℕ) (ph : Phase) :
    (w.setPhase c ph).client c = ph :=
  Function.update_self ..

theorem World.client_openFile (w : World) (path : String) :
    (w.openFile path).1.client = w.client := by
  unfold World.openFile
  split <;> rfl

/-- A client may sleep while it changes a lock or writes a file. -/
theorem World.setLock_wake (w : World) (c ino : ℕ) (o : Option ℕ) (ph ph' : Phase) :
    ((w.setPhase c ph).setLock ino o).setPhase c ph' = (w.setLock ino o).setPhase c ph' := by
  simp only [World.setPhase, World.setLock, Function.update_idem]

theorem World.write_wake (w : World) (c ino : ℕ) (doc : Doc) (ph ph' : Phase) :
    ((w.setPhase c ph).write ino doc).setPhase c ph' = (w.write ino doc).setPhase c ph' := by
  simp only [World.setPhase, World.write, Function.update_idem]

/-- A client that sleeps has no file. -/
theorem World.ne_of_sleeping {w : World} {c c' : ℕ} {s : Handle}
    (h : ((w.setPhase c .idle).client c').replacing = some s) :
    c' ≠ c ∧ (w.client c').replacing = some s := by
  by_cases hc : c' = c
  · rw [hc, World.client_setPhase] at h
    exact nomatch h
  · rw [World.client_setPhase_of_ne _ hc] at h
    exact ⟨hc, h⟩

namespace SessionInv

variable {w : World}

theorem initial : SessionInv World.init where
  linked _ _ h := nomatch h
  locked _ _ h := nomatch h
  knows _ _ h := nomatch h
  replaced _ _ h := nomatch h
  admitted _ _ _ _ h := nomatch h
  stale _ _ h := nomatch h
  bound _ _ h := nomatch h
  inj _ _ _ h := nomatch h

/-- One client changes its phase. -/
theorem setPhase (h : SessionInv w) (c : ℕ) (ph : Phase)
    (hlinked : ∀ s, ph.fd = some s → w.dir s.path = some s.ino)
    (hlocked : ∀ s, ph.owns = some s → w.lock s.ino = some c ∧ ph.Knows (w.content s.ino) ∧
      ∀ c' s', c' ≠ c → (w.client c').replacing = some s' → s'.path = s.path → s'.uuid = s.uuid)
    (hreplaced : ∀ s, ph.replacing = some s →
      (∀ i, w.dir s.path = some i → (w.content i).Free s.uuid) ∧
      ∀ c' s', c' ≠ c → (w.client c').owns = some s' → s.path = s'.path → s.uuid = s'.uuid)
    (hstale : ∀ s, ph = .released s → s.ino < w.next ∧
      (w.dir s.path = some s.ino → ∃ u, (w.content s.ino).stamp = some u ∧ u ≠ s.uuid)) :
    SessionInv (w.setPhase c ph) := by
  have hself : (w.setPhase c ph).client c = ph := World.client_setPhase c ph
  have hother : ∀ c', c' ≠ c → (w.setPhase c ph).client c' = w.client c' :=
    fun c' hc => World.client_setPhase_of_ne ph hc
  -- clause by clause, the phase set is that of client c alone
  refine ⟨fun c' s hs => ?_, fun c' s hs => ?_, fun c' s hs => ?_, fun c' s hs => ?_,
    fun c' s c'' s' hs hs' hp => ?_, fun c' s hs => ?_, h.bound, h.inj⟩
  · by_cases hc : c' = c
    · subst hc
      exact hlinked s (hself ▸ hs)
    · exact h.linked c' s (hother c' hc ▸ hs)
  · by_cases hc : c' = c
    · subst hc
      exact (hlocked s (hself ▸ hs)).1
    · exact h.locked c' s (hother c' hc ▸ hs)
  · by_cases hc : c' = c
    · subst hc
      rw [hself] at hs ⊢
      exact (hlocked s hs).2.1
    · rw [hother c' hc] at hs ⊢
      exact h.knows c' s hs
  -- what is being replaced is asked of c by the hypothesis, of others by the invariant
  · by_cases hc : c' = c
    · subst hc
      exact (hreplaced s (hself ▸ hs)).1
    · exact h.replaced c' s (hother c' hc ▸ hs)
  · by_cases hc : c' = c <;> by_cases hc' : c'' = c
    · -- no phase both replaces a file and owns its lock
      rw [hc, hself] at hs
      rw [hc', hself] at hs'
      exact absurd hs' (by rw [Phase.owns_of_replacing hs]; simp)
    · subst hc
      exact (hreplaced s (hself ▸ hs)).2 c'' s' hc' (hother c'' hc' ▸ hs') hp
    · subst hc'
      exact (hlocked s' (hself ▸ hs')).2.2 c' s hc (hother c' hc ▸ hs) hp
    · exact h.admitted c' s c'' s' (hother c' hc ▸ hs) (hother c'' hc' ▸ hs') hp
  -- the file a client let go of, stale still
  · by_cases hc : c' = c
    · subst hc
      exact hstale s (hself ▸ hs)
    · exact h.stale c' s (hother c' hc ▸ hs)

/-- A client goes to sleep. -/
theorem sleep (h : SessionInv w) (c : ℕ) : SessionInv (w.setPhase c .idle) :=
  h.setPhase c .idle nofun nofun nofun nofun

/-- `open` finds the inode of the path or makes a new one. -/
theorem openFile (h : SessionInv w) (path : String) :
    SessionInv (w.openFile path).1 ∧ (w.openFile path).1.dir path = some (w.openFile path).2 := by
  unfold World.openFile
  -- a name that is taken is opened as it is, else a new inode is made
  cases hdir : w.dir path with
  | some ino => exact ⟨h, hdir⟩
  | none =>
    dsimp only
    refine ⟨?_, Function.update_self ..⟩
    -- what was there before is neither the new name nor the new inode
    have hpath : ∀ p i, w.dir p = some i → p ≠ path := fun p i hp heq => by
      rw [heq, hdir] at hp
      exact nomatch hp
    have hino : ∀ i, i < w.next → i ≠ w.next := fun i hi => Nat.ne_of_lt hi
    refine ⟨fun c s hs => ?_, fun c s hs => ?_, fun c s hs => ?_, fun c s hs i hi => ?_,
      h.admitted, fun c s hs => ?_, fun p i hp => ?_, fun p p' i hp hp' => ?_⟩
    -- the open files have names of before, so their inodes are the same
    · have hl := h.linked c s hs
      exact (Function.update_of_ne (hpath _ _ hl) ..).trans hl
    · have hl := h.linked c s (Phase.fd_of_owns hs)
      exact (Function.update_of_ne (hino _ (h.bound _ _ hl)) ..).trans (h.locked c s hs)
    · have hl := h.linked c s (Phase.fd_of_owns hs)
      dsimp only
      rw [Function.update_of_ne (hino _ (h.bound _ _ hl))]
      exact h.knows c s hs
    · dsimp only at hi ⊢
      by_cases hp : s.path = path
      · rw [hp, Function.update_self, Option.some.injEq] at hi
        subst hi
        rw [Function.update_self]
        exact .inl rfl
      · rw [Function.update_of_ne hp] at hi
        have hne := hino _ (h.bound _ _ hi)
        rw [Function.update_of_ne hne]
        exact h.replaced c s hs i hi
    -- the inode that was compared is older than the new one
    · obtain ⟨hlt, hst⟩ := h.stale c s hs
      have hne := hino _ hlt
      dsimp only
      refine ⟨by omega, fun hp => ?_⟩
      rw [Function.update_of_ne hne]
      by_cases hpp : s.path = path
      · -- the path now names the new inode, not the one that was compared
        rw [hpp, Function.update_self, Option.some.injEq] at hp
        exact absurd hp.symm hne
      · rw [Function.update_of_ne hpp] at hp
        exact hst hp
    · dsimp only at hp ⊢
      by_cases hpp : p = path
      · rw [hpp, Function.update_self, Option.some.injEq] at hp
        omega
      · rw [Function.update_of_ne hpp] at hp
        have := h.bound _ _ hp
        omega
    -- two names of one inode would both be the new one
    · dsimp only at hp hp'
      by_cases hpp : p = path <;> by_cases hpp' : p' = path
      · rw [hpp, hpp']
      · rw [hpp, Function.update_self, Option.some.injEq] at hp
        rw [Function.update_of_ne hpp', ← hp] at hp'
        exact absurd (h.bound _ _ hp') (Nat.lt_irrefl _)
      · rw [hpp', Function.update_self, Option.some.injEq] at hp'
        rw [Function.update_of_ne hpp, ← hp'] at hp
        exact absurd (h.bound _ _ hp) (Nat.lt_irrefl _)
      · rw [Function.update_of_ne hpp] at hp
        rw [Function.update_of_ne hpp'] at hp'
        exact h.inj p p' i hp hp'

/-- `flock` succeeds: nobody has the lock. -/
theorem acquire (h : SessionInv w) {ino : ℕ} (c : ℕ) (hfree : w.lock ino = none) :
    SessionInv (w.setLock ino (some c)) := by
  refine ⟨h.linked, fun c' s hs => ?_, h.knows, h.replaced, h.admitted, h.stale, h.bound, h.inj⟩
  have hl := h.locked c' s hs
  have hne : s.ino ≠ ino := fun heq => by
    rw [heq, hfree] at hl
    exact nomatch hl
  exact (Function.update_of_ne hne ..).trans hl

/-- The owner of a lock sleeps, so no phase claims the file. -/
theorem ino_ne_of_sleeping (h : SessionInv w) {ino c : ℕ} (hlock : w.lock ino = some c)
    (hc : (w.client c).owns = none) {c' : ℕ} {s : Handle} (hs : (w.client c').owns = some s) :
    s.ino ≠ ino := fun heq => by
  have hl := h.locked c' s hs
  rw [heq, hlock, Option.some.injEq] at hl
  subst hl
  rw [hc] at hs
  exact nomatch hs

/-- The owner of a lock, in no phase that claims it, gives it up. -/
theorem giveUp (h : SessionInv w) {ino c : ℕ} (hlock : w.lock ino = some c)
    (hc : (w.client c).owns = none) : SessionInv (w.setLock ino none) := by
  refine ⟨h.linked, fun c' s hs => ?_, h.knows, h.replaced, h.admitted, h.stale, h.bound, h.inj⟩
  exact (Function.update_of_ne (h.ino_ne_of_sleeping hlock hc hs) ..).trans (h.locked c' s hs)

/-- The owner of a lock writes the file, keeping its stamp if it has one. -/
theorem write (h : SessionInv w) {ino c : ℕ} {doc : Doc} (hlock : w.lock ino = some c)
    (hc : (w.client c).owns = none)
    (hstamp : ∀ u, (w.content ino).stamp = some u → doc.stamp = some u)
    (hfree : ∀ c' s, (w.client c').replacing = some s → w.dir s.path = some ino →
      doc.Free s.uuid) : SessionInv (w.write ino doc) := by
  refine ⟨h.linked, h.locked, fun c' s hs => ?_, fun c' s hs i hi => ?_, h.admitted,
    fun c' s hs => ?_, h.bound, h.inj⟩
  -- the writer owns nothing, so no owner's document is changed
  · dsimp only [World.write]
    rw [Function.update_of_ne (h.ino_ne_of_sleeping hlock hc hs)]
    exact h.knows c' s hs
  -- a client that waits to replace the file still finds it free
  · dsimp only [World.write]
    by_cases hne : i = ino
    · subst hne
      rw [Function.update_self]
      exact hfree c' s hs hi
    · rw [Function.update_of_ne hne]
      exact h.replaced c' s hs i hi
  -- the stamp of a stale file is not taken off by the write
  · obtain ⟨hlt, hst⟩ := h.stale c' s hs
    refine ⟨hlt, fun hp => ?_⟩
    obtain ⟨u, hu, hne⟩ := hst hp
    refine ⟨u, ?_, hne⟩
    dsimp only [World.write]
    by_cases hi : s.ino = ino
    · rw [hi, Function.update_self]
      exact hstamp u (hi ▸ hu)
    · rwa [Function.update_of_ne hi]

/-- A path nobody has open is unlinked. -/
theorem unlink (h : SessionInv w) {path : String}
    (hno : ∀ c s, (w.client c).fd = some s → s.path ≠ path) : SessionInv (w.unlink path) := by
  -- a name that is left was there before
  have hback : ∀ p i, (w.unlink path).dir p = some i → w.dir p = some i := by
    intro p i hp
    dsimp only [World.unlink] at hp
    by_cases hpp : p = path
    · rw [hpp, Function.update_self] at hp
      exact nomatch hp
    · rwa [Function.update_of_ne hpp] at hp
  refine ⟨fun c s hs => ?_, h.locked, h.knows,
    fun c s hs i hi => h.replaced c s hs i (hback _ _ hi), h.admitted,
    fun c s hs => ⟨(h.stale c s hs).1, fun hp => (h.stale c s hs).2 (hback _ _ hp)⟩,
    fun p i hp => h.bound p i (hback p i hp),
    fun p p' i hp hp' => h.inj p p' i (hback p i hp) (hback p' i hp')⟩
  exact (Function.update_of_ne (hno c s hs) ..).trans (h.linked c s hs)

/-- Two owners of locks on one path are one client. -/
theorem owner_unique (h : SessionInv w) {c c' : ℕ} {s s' : Handle}
    (hs : (w.client c).owns = some s) (hs' : (w.client c').owns = some s')
    (hp : s.path = s'.path) : c = c' := by
  have hl := h.linked c s (Phase.fd_of_owns hs)
  have hl' := h.linked c' s' (Phase.fd_of_owns hs')
  rw [hp, hl', Option.some.injEq] at hl
  have hlock := h.locked c s hs
  rw [← hl, h.locked c' s' hs', Option.some.injEq] at hlock
  exact hlock.symm

/-- A client goes to a phase that owns the lock it owned before. -/
theorem proceed (h : SessionInv w) {c : ℕ} {ph : Phase} {s : Handle}
    (hc : (w.client c).owns = some s) (hph : ph.owns = some s) (hfd : ph.fd = some s)
    (hknows : ph.Knows (w.content s.ino)) : SessionInv (w.setPhase c ph) := by
  refine h.setPhase c ph (fun s' hs => ?_) (fun s' hs => ?_) (fun s' hs => ?_) fun s' hs => ?_
  · rw [hfd, Option.some.injEq] at hs
    subst hs
    exact h.linked c s (Phase.fd_of_owns hc)
  · rw [hph, Option.some.injEq] at hs
    subst hs
    exact ⟨h.locked c s hc, hknows,
      fun c' s' _ hs' hp => h.admitted c' s' c s hs' hc hp⟩
  · exact absurd hph (by rw [Phase.owns_of_replacing hs]; simp)
  · rw [hs] at hfd
    exact nomatch hfd

/-- **The invariant of the file system is kept** by every step under its condition. -/
theorem step {w' : World} {l : Call} (h : SessionInv w) (hex : Exclusive w l)
    (hstep : SessionStep w l w') : SessionInv w' := by
  cases hstep with
  -- the file is opened before it is locked, so nothing is known of it yet
  | open_ c path uuid hc =>
    obtain ⟨h', hdir⟩ := h.openFile path
    exact h'.setPhase c _ (fun s hs => by cases hs; exact hdir) nofun nofun nofun
  -- the lock is free, and no client of another uuid is replacing the file
  | flock c again s hc hfree =>
    have hl := h.linked c s (by rw [hc]; rfl)
    have hno : ∀ c' s', c' ≠ c → (w.client c').replacing = some s' → s'.path = s.path →
        s'.uuid = s.uuid := hex again s hc
    rw [← World.setLock_wake w c s.ino (some c) .idle]
    refine ((h.sleep c).acquire c hfree).setPhase c (.locked again s) (fun s' hs => ?_)
      (fun s' hs => ?_) nofun nofun
    · cases hs
      exact hl
    · cases hs
      refine ⟨Function.update_self .., fun hag => ?_, fun c' s' hc' hs' hp => ?_⟩
      · subst hag
        exact h.replaced c s (by rw [hc]; rfl) s.ino hl
      · exact hno c' s' hc' (World.client_setPhase_of_ne .idle hc' ▸ hs') hp
  | read c again s hc =>
    have hk := h.knows c s (by rw [hc]; rfl)
    rw [hc] at hk
    exact h.proceed (by rw [hc]; rfl) rfl rfl ⟨rfl, hk⟩
  -- the stamp is the client's own, or the one it is given now
  | activate c again s doc hc hstamp =>
    have hk := h.knows c s (by rw [hc]; rfl)
    rw [hc] at hk
    obtain ⟨rfl, hnew⟩ := hk
    refine h.proceed (by rw [hc]; rfl) rfl rfl ⟨rfl, ?_⟩
    cases again with
    | false => exact hstamp rfl
    | true => exact hnew rfl
  -- the stamp is another's, so the file is one to be replaced
  | compare c s doc stamp hc hstamp hne =>
    have hk := h.knows c s (by rw [hc]; rfl)
    rw [hc] at hk
    obtain ⟨rfl, -⟩ := hk
    exact h.proceed (by rw [hc]; rfl) rfl rfl ⟨rfl, stamp, hstamp, hne⟩
  | writeBack c s doc hc =>
    have ho : (w.client c).owns = some s := by rw [hc]; rfl
    have hk := h.knows c s ho
    rw [hc] at hk
    obtain ⟨rfl, hst⟩ := hk
    -- the file is written back as it was
    have hsame : w.write s.ino (w.content s.ino) = w := by
      simp only [World.write, Function.update_eq_self]
    rw [hsame]
    exact h.proceed ho rfl rfl hst
  -- the lock is given up with the file still stale
  | release c s hc =>
    have ho : (w.client c).owns = some s := by rw [hc]; rfl
    have hl := h.linked c s (Phase.fd_of_owns ho)
    have hk := h.knows c s ho
    rw [hc] at hk
    rw [← World.setLock_wake w c s.ino none .idle]
    refine ((h.sleep c).giveUp (h.locked c s ho) (by simp [Phase.owns])).setPhase c _
      nofun nofun nofun fun s' hs => ?_
    cases hs
    exact ⟨h.bound _ _ hl, fun _ => hk⟩
  -- nobody else has the file open, so the name may go
  | unlink c s hc =>
    obtain ⟨hno, -⟩ := hex s hc
    have hclosed : ∀ c' s', (w.client c').fd = some s' → s'.path ≠ s.path := by
      intro c' s' hs
      by_cases hcc : c' = c
      · rw [hcc, hc] at hs
        exact nomatch hs
      · exact hno c' s' hcc hs
    refine (h.unlink hclosed).setPhase c _ nofun nofun (fun s' hs => ?_) nofun
    cases hs
    refine ⟨fun i hi => ?_, fun c' s' _ hs hp => absurd hp.symm ?_⟩
    · -- the path names nothing now
      have hgone : (w.unlink s.path).dir s.path = none := Function.update_self ..
      rw [hgone] at hi
      exact nomatch hi
    · exact hclosed c' s' (Phase.fd_of_owns hs)
  -- the file is made again under the name, and may be another client's
  | reopen c s hc =>
    have hre : (w.client c).replacing = some s := by rw [hc]; rfl
    obtain ⟨h', hdir⟩ := h.openFile s.path
    have hre' : ((w.openFile s.path).1.client c).replacing = some s := by
      rw [World.client_openFile, hre]
    refine h'.setPhase c _ (fun s' hs => ?_) nofun (fun s' hs => ?_) nofun <;> cases hs
    · exact hdir
    · exact ⟨h'.replaced c s hre', fun c' s' _ => h'.admitted c s c' s' hre'⟩
  -- the document in memory changes, the file does not
  | set c s doc k v hc =>
    have hk := h.knows c s (by rw [hc]; rfl)
    rw [hc] at hk
    exact h.proceed (by rw [hc]; rfl) rfl rfl hk
  | save c s doc hc =>
    have ho : (w.client c).owns = some s := by rw [hc]; rfl
    have hl := h.linked c s (Phase.fd_of_owns ho)
    have hk := h.knows c s ho
    rw [hc] at hk
    obtain ⟨hdoc, hfree⟩ := hk
    rw [← World.write_wake w c s.ino doc .idle]
    have hw : SessionInv ((w.setPhase c .idle).write s.ino doc) := by
      refine (h.sleep c).write (h.locked c s ho) (by simp [Phase.owns]) (fun u hu => ?_)
        fun c' s' hs hp => ?_
      · obtain hn | hn := hfree
        · have hu' : (w.content s.ino).stamp = some u := hu
          rw [hn] at hu'
          exact nomatch hu'
        · exact (hdoc.trans hn.symm).trans hu
      · -- a client that is replacing the file has the same uuid
        have huuid := h.admitted c' s' c s (World.ne_of_sleeping hs).2 ho (h.inj _ _ _ hp hl)
        exact .inr (huuid ▸ hdoc)
    refine hw.setPhase c _ (fun s' hs => ?_) (fun s' hs => ?_) nofun nofun <;> cases hs
    · exact hl
    · exact ⟨h.locked c s ho, trivial, fun c' s' _ hs hp =>
        h.admitted c' s' c s (World.ne_of_sleeping hs).2 ho hp⟩
  | close c s hc =>
    have ho : (w.client c).owns = some s := by rw [hc]; rfl
    rw [← World.setLock_wake w c s.ino none .idle]
    exact ((h.sleep c).giveUp (h.locked c s ho) (by simp [Phase.owns])).sleep c
  | delete path => exact h.unlink hex

end SessionInv

end LibvirtCim.Infostore
