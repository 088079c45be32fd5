import LibvirtCim.Infostore.SessionInv

/-!
# When sessions are serialised

`Serialised` fails for the store as it stands: the lock is on an inode, and a
client that replaces a stale file gives the lock up before it unlinks the path, so
another client can open a session on the file that is about to lose its name
(`not_serialised`). It holds along the runs whose steps are `Exclusive`
(`serialised_of_exclusive`).

`Recorded` relates the files to what was last saved: the file holds it, or a client
of another uuid is replacing the file and will be the next to open a session.
-/

open Framework

namespace LibvirtCim.Infostore

/-! ### What the files record -/

/-- The document last saved on a path for a uuid is in its file, or a client of another
uuid is on its way to take the store over. -/
def Kept (w : World) (path : String) (uuid : Uuid) (doc : Doc) : Prop :=
  (∃ i, w.dir path = some i ∧ w.content i = doc) ∨
  ∃ c s, (w.client c).resets = some s ∧ s.path = path ∧ s.uuid ≠ uuid

/-- Everything that was last saved is kept, under the stamp of its uuid. -/
def Recorded (last : String → Option (Uuid × Doc)) (w : World) : Prop :=
  ∀ path uuid doc, last path = some (uuid, doc) → doc.stamp = some uuid ∧ Kept w path uuid doc

section Kept

variable {w w' : World} {path : String} {uuid : Uuid} {doc : Doc}

/-- A client that goes on does not stop halfway through replacing the file. -/
theorem Kept.setPhase (h : Kept w path uuid doc) {c : ℕ} {ph : Phase}
    (hc : ∀ s, (w.client c).resets = some s → s.path = path → s.uuid ≠ uuid →
      ∃ s', ph.resets = some s' ∧ s'.path = s.path ∧ s'.uuid = s.uuid) :
    Kept (w.setPhase c ph) path uuid doc := by
  obtain hfile | ⟨c', s, hs, hp, hu⟩ := h
  · exact .inl hfile
  · by_cases hcc : c' = c
    · subst hcc
      obtain ⟨s', hs', hp', hu'⟩ := hc s hs hp hu
      refine .inr ⟨c', s', ?_, hp'.trans hp, hu' ▸ hu⟩
      rw [World.client_setPhase, hs']
    · refine .inr ⟨c', s, ?_, hp, hu⟩
      rw [World.client_setPhase_of_ne _ hcc, hs]

theorem Kept.goOn (h : Kept w path uuid doc) {c : ℕ} (hc : (w.client c).resets = none)
    (ph : Phase) : Kept (w.setPhase c ph) path uuid doc :=
  h.setPhase fun s hs => by
    rw [hc] at hs
    exact nomatch hs

theorem Kept.openFile (h : Kept w path uuid doc) (hinv : SessionInv w) (p : String) :
    Kept (w.openFile p).1 path uuid doc := by
  -- the document is in the file, or a client of another uuid is replacing it
  obtain ⟨i, hi, hdoc⟩ | ⟨c, s, hs, hp, hu⟩ := h
  · refine .inl ⟨i, ?_⟩
    unfold World.openFile
    cases hdir : w.dir p with
    | some ino => exact ⟨hi, hdoc⟩
    | none =>
      have hpath : path ≠ p := fun heq => by
        rw [heq, hdir] at hi
        exact nomatch hi
      have hino : i ≠ w.next := Nat.ne_of_lt (hinv.bound _ _ hi)
      exact ⟨(Function.update_of_ne hpath ..).trans hi,
        (Function.update_of_ne hino ..).trans hdoc⟩
  -- who is replacing the file still is after another one was opened
  · refine .inr ⟨c, s, ?_, hp, hu⟩
    rw [World.client_openFile, hs]

theorem Kept.write (h : Kept w path uuid doc) (hinv : SessionInv w) {c : ℕ} {s : Handle}
    (hc : (w.client c).owns = some s) (hp : s.path ≠ path) (doc' : Doc) :
    Kept (w.write s.ino doc') path uuid doc := by
  obtain ⟨i, hi, hdoc⟩ | hresets := h
  · have hino : i ≠ s.ino := fun heq =>
      hp (hinv.inj _ _ i (heq ▸ hinv.linked c s (Phase.fd_of_owns hc)) hi)
    exact .inl ⟨i, hi, (Function.update_of_ne hino ..).trans hdoc⟩
  · exact .inr hresets

theorem Kept.unlink (h : Kept w path uuid doc) {p : String} (hp : path ≠ p) :
    Kept (w.unlink p) path uuid doc := by
  obtain ⟨i, hi, hdoc⟩ | hresets := h
  · exact .inl ⟨i, (Function.update_of_ne hp ..).trans hi, hdoc⟩
  · exact .inr hresets

/-- A client that has the lock of a file and finds its stamp its own is not overtaken
by one that replaces the file. -/
theorem Kept.file (h : Kept w path uuid doc) (hinv : SessionInv w) {c : ℕ} {s : Handle}
    (hc : (w.client c).owns = some s) (hp : s.path = path) (hu : s.uuid = uuid) :
    w.content s.ino = doc := by
  -- the owner has the file open under the name
  have hl := hinv.linked c s (Phase.fd_of_owns hc)
  rw [hp] at hl
  obtain ⟨i, hi, hdoc⟩ | ⟨c', s', hs', hp', hu'⟩ := h
  -- the file under the name is the owner's, so the document is in it
  · rw [hi, Option.some.injEq] at hl
    rw [← hl, hdoc]
  -- a client of another uuid cannot be replacing what is owned
  · exfalso
    obtain hr | ho := Phase.replacing_or_owns_of_resets hs'
    · exact hu' ((hinv.admitted c' s' c s hr hc (hp'.trans hp.symm)).trans hu)
    · -- two owners are one client, whose uuid is the document's
      have heq := hinv.owner_unique ho hc (hp'.trans hp.symm)
      subst heq
      rw [ho, Option.some.injEq] at hc
      exact hu' (hc ▸ hu)

end Kept

/-- **The files keep what was last saved**, step by step, and a session that is opened
finds it. -/
theorem Recorded.step {last : String → Option (Uuid × Doc)} {w w' : World} {l : Call}
    (hrec : Recorded last w) (hinv : SessionInv w) (hex : Exclusive w l)
    (hstep : SessionStep w l w') : Recorded (l.record last) w' := by
  intro path uuid doc hlast
  -- call by call: what the call records, and what becomes of what was recorded
  cases hstep with
  | open_ c p u hc =>
    obtain ⟨hstamp, hkept⟩ := hrec path uuid doc hlast
    refine ⟨hstamp, (hkept.openFile hinv p).goOn ?_ _⟩
    rw [World.client_openFile, hc]
    rfl
  -- the lock does not change what any file holds
  | flock c again s hc hfree =>
    obtain ⟨hstamp, hkept⟩ := hrec path uuid doc hlast
    have hkept' : Kept (w.setLock s.ino (some c)) path uuid doc := hkept
    refine ⟨hstamp, hkept'.setPhase fun s' hs _ _ => ⟨s', ?_, rfl, rfl⟩⟩
    have hs' : (w.client c).resets = some s' := hs
    rw [hc] at hs'
    cases again <;> exact hs'
  | read c again s hc =>
    obtain ⟨hstamp, hkept⟩ := hrec path uuid doc hlast
    refine ⟨hstamp, hkept.setPhase fun s' hs _ _ => ⟨s', ?_, rfl, rfl⟩⟩
    rw [hc] at hs
    cases again <;> exact hs
  | activate c again s doc' hc hst =>
    -- nothing of another uuid is recorded on the path any more
    have hold : last path = some (uuid, doc) ∧ (s.path = path → s.uuid = uuid) := by
      -- the stamp is compared, and put on a store that has none
      by_cases hp : path = s.path
      · subst hp
        simp only [Call.record, Function.update_self] at hlast
        rw [Option.filter_eq_some_iff, decide_eq_true_eq] at hlast
        exact ⟨hlast.1, fun _ => hlast.2.symm⟩
      · simp only [Call.record, Function.update_of_ne hp] at hlast
        exact ⟨hlast, fun heq => absurd heq.symm hp⟩
    obtain ⟨hstamp, hkept⟩ := hrec path uuid doc hold.1
    refine ⟨hstamp, hkept.setPhase fun s' hs hp hu => ?_⟩
    rw [hc] at hs
    have hs' : s = s' := by cases again <;> cases hs; rfl
    exact absurd (hold.2 (hs' ▸ hp)) (hs' ▸ hu)
  | compare c s doc' stamp hc hst hne =>
    obtain ⟨hstamp, hkept⟩ := hrec path uuid doc hlast
    exact ⟨hstamp, hkept.goOn (by rw [hc]; rfl) _⟩
  | writeBack c s doc' hc =>
    obtain ⟨hstamp, hkept⟩ := hrec path uuid doc hlast
    have hk := hinv.knows c s (by rw [hc]; rfl)
    rw [hc] at hk
    obtain ⟨rfl, -⟩ := hk
    -- the document is written back as it was read
    have hsame : w.write s.ino (w.content s.ino) = w := by
      simp only [World.write, Function.update_eq_self]
    rw [hsame]
    exact ⟨hstamp, hkept.goOn (by rw [hc]; rfl) _⟩
  | release c s hc =>
    obtain ⟨hstamp, hkept⟩ := hrec path uuid doc hlast
    have hkept' : Kept (w.setLock s.ino none) path uuid doc := hkept
    have hnone : (w.client c).resets = none := by rw [hc]; rfl
    exact ⟨hstamp, hkept'.goOn hnone _⟩
  | unlink c s hc =>
    obtain ⟨hstamp, hkept⟩ := hrec path uuid doc hlast
    obtain ⟨-, hdir⟩ := hex s hc
    refine ⟨hstamp, ?_⟩
    -- only the file under the name is unlinked
    by_cases hp : path = s.path
    · subst hp
      obtain ⟨i, hi, hdoc⟩ | ⟨c', s', hs', hp', hu'⟩ := hkept
      · -- the file that is unlinked is the one compared, and another uuid's
        have hino : w.dir s.path = some s.ino := hdir.resolve_right (by rw [hi]; simp)
        rw [hi, Option.some.injEq] at hino
        subst hino
        obtain ⟨u, hu, hne⟩ := (hinv.stale c s hc).2 hi
        rw [hdoc, hstamp, Option.some.injEq] at hu
        exact .inr ⟨c, s, by rw [World.client_setPhase]; rfl, rfl, fun heq => hne (hu ▸ heq.symm)⟩
      -- another client is replacing the file already
      · refine .inr ⟨c', s', ?_, hp', hu'⟩
        have hcc : c' ≠ c := fun heq => by
          rw [heq, hc] at hs'
          cases hs'
        rw [World.client_setPhase_of_ne _ hcc]
        exact hs'
    · have hnone : (w.client c).resets = none := by rw [hc]; rfl
      exact (hkept.unlink hp).goOn hnone _
  -- a new file under the name, for the same client
  | reopen c s hc =>
    obtain ⟨hstamp, hkept⟩ := hrec path uuid doc hlast
    refine ⟨hstamp, (hkept.openFile hinv s.path).setPhase fun s' hs _ _ => ?_⟩
    rw [World.client_openFile, hc] at hs
    cases hs
    exact ⟨_, rfl, rfl, rfl⟩
  | set c s doc' k v hc =>
    obtain ⟨hstamp, hkept⟩ := hrec path uuid doc hlast
    exact ⟨hstamp, hkept.goOn (by rw [hc]; rfl) _⟩
  | save c s doc' hc =>
    have ho : (w.client c).owns = some s := by rw [hc]; rfl
    have hk := hinv.knows c s ho
    rw [hc] at hk
    -- the document saved is what is recorded from now on
    by_cases hp : path = s.path
    · subst hp
      simp only [Call.record, Function.update_self] at hlast
      cases hlast
      exact ⟨hk.1, .inl ⟨s.ino, hinv.linked c s (Phase.fd_of_owns ho), Function.update_self ..⟩⟩
    · simp only [Call.record, Function.update_of_ne hp] at hlast
      obtain ⟨hstamp, hkept⟩ := hrec path uuid doc hlast
      have hnone : (w.client c).resets = none := by rw [hc]; rfl
      exact ⟨hstamp, (hkept.write hinv ho (fun heq => hp heq.symm) doc').goOn hnone _⟩
  | close c s hc =>
    obtain ⟨hstamp, hkept⟩ := hrec path uuid doc hlast
    have hkept' : Kept (w.setLock s.ino none) path uuid doc := hkept
    have hnone : (w.client c).resets = none := by rw [hc]; rfl
    exact ⟨hstamp, hkept'.goOn hnone _⟩
  | delete p =>
    -- a file that is deleted has nothing recorded
    have hp : path ≠ p := fun heq => by
      subst heq
      simp only [Call.record, Function.update_self] at hlast
      cases hlast
    simp only [Call.record, Function.update_of_ne hp] at hlast
    obtain ⟨hstamp, hkept⟩ := hrec path uuid doc hlast
    exact ⟨hstamp, hkept.unlink hp⟩

/-- A session that is opened finds what was last saved. -/
theorem Recorded.finds {ls : List Call} {w w' : World} {l : Call}
    (hrec : Recorded (lastSaved ls) w) (hinv : SessionInv w) (hstep : SessionStep w l w') :
    FindsSaved ls l := by
  cases hstep with
  | activate c again s doc hc hst =>
    intro saved hlast
    obtain ⟨hstamp, hkept⟩ := hrec s.path s.uuid saved hlast
    have ho : (w.client c).owns = some s := by rw [hc]; rfl
    have hk := hinv.knows c s ho
    rw [hc] at hk
    obtain ⟨rfl, -⟩ := hk
    rw [hkept.file hinv ho rfl rfl, Doc.setUuid, ← hstamp]
  | _ => trivial

/-! ### Serialised sessions -/

/-- **Sessions are serialised along every exclusive run**: in every run whose steps all meet
`Exclusive`, no two clients hold one path, a session saves to the file its path names, and every
session found what was last saved for its uuid. The lock of an inode has one owner, and the path
of a session names the inode it has locked: that is `SessionInv`, which every exclusive step
keeps. -/
theorem serialised_of_exclusive {ls : List Call} {w : World}
    (h : Run (sessionSystem.restrict Exclusive) sessionSystem.init ls w) : Serialised ls w := by
  have hinv : SessionInv w ∧ Recorded (lastSaved ls) w ∧ Along FindsSaved ls := by
    refine h.historyInvariant (I := fun ls w => SessionInv w ∧ Recorded (lastSaved ls) w ∧
      Along FindsSaved ls) (fun ls w l w' hI hstep => ?_) ⟨.initial, nofun, .nil⟩
    obtain ⟨hex, hstep⟩ := hstep
    obtain ⟨hinv, hrec, halong⟩ := hI
    refine ⟨hinv.step hex hstep, ?_, halong.snoc (hrec.finds hinv hstep)⟩
    rw [lastSaved, List.foldl_append]
    exact hrec.step hinv hex hstep
  obtain ⟨hinv, -, halong⟩ := hinv
  refine ⟨fun c c' s s' hs hs' hp => ?_, fun c s hs => ?_, halong⟩
  · exact hinv.owner_unique (Phase.owns_of_holding hs) (Phase.owns_of_holding hs') hp
  · exact hinv.linked c s (Phase.fd_of_owns (Phase.owns_of_holding hs))

/-- Two domains that have the same name one after the other. -/
def aUuid : Uuid := ⟨"7d1b8c02-5f3e-44a6-9a6d-1c2f0b9e6a51", by decide⟩

def bUuid : Uuid := ⟨"c7a5fdbd-cdaf-9455-926a-d65c16db1809", by decide⟩

/-- The calls of a session that saves an empty store, and of one that finds its stamp
is another domain's and takes the store over. -/
def takeover : List Call :=
  [.open_ 0 "p" aUuid, .flock 0, .read 0, .activate 0 "p" aUuid (Doc.new.setUuid aUuid),
    .save 0 "p" aUuid (Doc.new.setUuid aUuid), .close 0,
    .open_ 1 "p" bUuid, .flock 1, .read 1, .compare 1, .writeBack 1, .release 1, .unlink 1,
    .reopen 1, .flock 1, .read 1, .activate 1 "p" bUuid (Doc.new.setUuid bUuid)]

/-- The client that makes a call. -/
def Call.client : Call → Option ℕ
  | .open_ c _ _ | .flock c | .read c | .activate c _ _ _ | .compare c | .writeBack c
  | .release c | .unlink c | .reopen c | .set c _ _ | .save c _ _ _ | .close c => some c
  | .delete _ => none

/-- A step leaves the other clients where they are. -/
theorem SessionStep.client_of_ne {w w' : World} {l : Call} {c : ℕ} (h : SessionStep w l w')
    (hc : l.client ≠ some c) : w'.client c = w.client c := by
  cases h with
  | delete path => rfl
  | open_ c' path uuid _ =>
    have hcc : c ≠ c' := fun heq => hc (congrArg some heq.symm)
    rw [World.client_setPhase_of_ne _ hcc, World.client_openFile]
  | reopen c' s _ =>
    have hcc : c ≠ c' := fun heq => hc (congrArg some heq.symm)
    rw [World.client_setPhase_of_ne _ hcc, World.client_openFile]
  | _ =>
    exact World.client_setPhase_of_ne _ fun heq => hc (congrArg some heq.symm)

/-- A client that makes no call is idle. -/
theorem idle_of_run {ls : List Call} {w : World} {c : ℕ}
    (h : Run (sessionSystem.restrict Exclusive) sessionSystem.init ls w)
    (hc : ∀ l ∈ ls, l.client ≠ some c) : w.client c = .idle :=
  h.of_restrict.invariantOn (I := fun w => w.client c = .idle) (P := fun l => l.client ≠ some c)
    (fun _ _ _ hl hI hstep => (SessionStep.client_of_ne hstep hl).trans hI) hc rfl

/-- A client next to idle ones meets the conditions. -/
theorem exclusive_flock_of_idle {w : World} {c : ℕ} (h : ∀ c', c' ≠ c → w.client c' = .idle) :
    Exclusive w (.flock c) := by
  intro again s _ c' s' hc hr
  rw [h c' hc] at hr
  exact nomatch hr

theorem exclusive_unlink_of_idle {w : World} {c : ℕ} {s : Handle}
    (hs : w.client c = .released s) (hdir : w.dir s.path = some s.ino)
    (h : ∀ c', c' ≠ c → w.client c' = .idle) : Exclusive w (.unlink c) := by
  intro s' hs'
  rw [hs] at hs'
  cases hs'
  refine ⟨fun c' s' hc hfd => ?_, .inl hdir⟩
  rw [h c' hc] at hfd
  exact nomatch hfd

theorem serialised_takeover :
    ∃ w, Run (sessionSystem.restrict Exclusive) sessionSystem.init takeover w ∧
      Serialised takeover w := by
  -- client 0 stores, client 1 finds the stamp of another domain and replaces the file
  have r₀ : Run (sessionSystem.restrict Exclusive) sessionSystem.init [] World.init := .nil _
  have r₁ := r₀.snoc_restrict (.open_ _ 0 "p" aUuid rfl) trivial
  have r₂ := r₁.snoc_restrict (.flock _ 0 false _ rfl rfl) (exclusive_flock_of_idle fun c' hc =>
    idle_of_run r₁ (by simpa [Call.client] using hc.symm))
  have r₃ := r₂.snoc_restrict (.read _ 0 false _ rfl) trivial
  have r₄ := r₃.snoc_restrict (.activate _ 0 false _ _ rfl fun _ => .inl rfl) trivial
  have r₅ := r₄.snoc_restrict (.save _ 0 _ _ rfl) trivial
  have r₆ := r₅.snoc_restrict (.close _ 0 _ rfl) trivial
  have r₇ := r₆.snoc_restrict (.open_ _ 1 "p" bUuid rfl) trivial
  have r₈ := r₇.snoc_restrict (.flock _ 1 false _ rfl rfl) (exclusive_flock_of_idle fun c' hc => by
    obtain rfl | h0 := eq_or_ne c' 0
    · rfl
    · exact idle_of_run r₇ (by simp [Call.client, hc.symm, h0.symm]))
  have r₉ := r₈.snoc_restrict (.read _ 1 false _ rfl) trivial
  have r₁₀ := r₉.snoc_restrict (.compare _ 1 _ _ aUuid rfl rfl (by decide)) trivial
  have r₁₁ := r₁₀.snoc_restrict (.writeBack _ 1 _ _ rfl) trivial
  have r₁₂ := r₁₁.snoc_restrict (.release _ 1 _ rfl) trivial
  have r₁₃ := r₁₂.snoc_restrict (.unlink _ 1 _ rfl)
    (exclusive_unlink_of_idle rfl rfl fun c' hc => by
    obtain rfl | h0 := eq_or_ne c' 0
    · rfl
    · exact idle_of_run r₁₂ (by simp [Call.client, hc.symm, h0.symm]))
  have r₁₄ := r₁₃.snoc_restrict (.reopen _ 1 _ rfl) trivial
  have r₁₅ := r₁₄.snoc_restrict (.flock _ 1 true _ rfl rfl) (exclusive_flock_of_idle fun c' hc => by
    obtain rfl | h0 := eq_or_ne c' 0
    · rfl
    · exact idle_of_run r₁₄ (by simp [Call.client, hc.symm, h0.symm]))
  have r₁₆ := r₁₅.snoc_restrict (.read _ 1 true _ rfl) trivial
  have r₁₇ := r₁₆.snoc_restrict (.activate _ 1 true _ _ rfl nofun) trivial
  exact ⟨_, r₁₇, serialised_of_exclusive r₁₇⟩

/-- A client that opened the stale file before it is unlinked gets a session on it,
next to the one on the new file. -/
theorem not_serialised :
    ¬ ∀ ls w, Run sessionSystem sessionSystem.init ls w → Serialised ls w := by
  intro h
  have r₀ : Run sessionSystem sessionSystem.init [] World.init := .nil _
  have r₁ := r₀.snoc (.open_ _ 0 "p" aUuid rfl)
  have r₂ := r₁.snoc (.flock _ 0 false _ rfl rfl)
  have r₃ := r₂.snoc (.read _ 0 false _ rfl)
  have r₄ := r₃.snoc (.activate _ 0 false _ _ rfl fun _ => .inl rfl)
  have r₅ := r₄.snoc (.save _ 0 _ _ rfl)
  have r₆ := r₅.snoc (.close _ 0 _ rfl)
  -- client 1 finds the stamp of another domain and gives the lock up
  have r₇ := r₆.snoc (.open_ _ 1 "p" bUuid rfl)
  have r₈ := r₇.snoc (.flock _ 1 false _ rfl rfl)
  have r₉ := r₈.snoc (.read _ 1 false _ rfl)
  have r₁₀ := r₉.snoc (.compare _ 1 _ _ aUuid rfl rfl (by decide))
  have r₁₁ := r₁₀.snoc (.writeBack _ 1 _ _ rfl)
  have r₁₂ := r₁₁.snoc (.release _ 1 _ rfl)
  -- before it unlinks the path, client 0 opens a session on the file
  have r₁₃ := r₁₂.snoc (.open_ _ 0 "p" aUuid rfl)
  have r₁₄ := r₁₃.snoc (.flock _ 0 false _ rfl rfl)
  have r₁₅ := r₁₄.snoc (.read _ 0 false _ rfl)
  have r₁₆ := r₁₅.snoc (.activate _ 0 false _ _ rfl fun _ => .inr rfl)
  -- client 1 goes on with a file of its own
  have r₁₇ := r₁₆.snoc (.unlink _ 1 _ rfl)
  have r₁₈ := r₁₇.snoc (.reopen _ 1 _ rfl)
  have r₁₉ := r₁₈.snoc (.flock _ 1 true _ rfl rfl)
  have r₂₀ := r₁₉.snoc (.read _ 1 true _ rfl)
  have r₂₁ := r₂₀.snoc (.activate _ 1 true _ _ rfl nofun)
  obtain ⟨hexcl, -, -⟩ := h _ _ r₂₁
  exact absurd (hexcl 0 1 _ _ rfl rfl rfl) (by decide)

end LibvirtCim.Infostore
