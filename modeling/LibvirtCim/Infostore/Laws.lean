import LibvirtCim.Infostore.Store

/-!
# The infostore law

Every get returns what was last set (`Lawful`), along the histories whose steps
are `Sound`: the text of a set has no markup and only characters XML can
represent, the key of the stamp is left to the store, a uuid is there to compare
with, a stale file can be deleted and made anew, a closing session can be saved,
and no name is deleted under an open session (`lawful_of_sound`). Without them the law
fails: where a stale file cannot be deleted, `infostore_open` puts the stamp of the new
guest over the values of the old one (`not_lawful`).

The proof refines `Spec`. `Represents` relates a tree to the content of a domain;
`StoreInv` says that every open session represents the content of its domain, and
that every file no session is open on holds it. Each operation has one lemma, on
trees (`Represents.set`, `Represents.stamp`) or on files (`infostoreOpen_spec`),
and `StoreInv.step` puts them together.
-/

open Framework

namespace LibvirtCim.Infostore

variable {x : Libxml}

/-! ### Texts -/

theorem plainText_of_forall {s : String} {p : Char → Bool} (hs : ∀ c ∈ s.toList, p c = true)
    (hp : ∀ c, p c = true → isXmlChar c = true ∧ c ≠ '&') : PlainText s :=
  fun c hc => hp c (hs c hc)

theorem plainText_toString (n : ℕ) : PlainText (toString n) := by
  refine plainText_of_forall (fun c hc => isDigit_of_mem_repr hc) fun c hc => ⟨?_, ?_⟩
  · have h48 : 48 ≤ c.toNat ∧ c.toNat ≤ 57 := by
      simp only [Char.isDigit, Bool.and_eq_true, decide_eq_true_eq] at hc
      exact ⟨UInt32.le_iff_toNat_le.mp hc.1, UInt32.le_iff_toNat_le.mp hc.2⟩
    simp only [isXmlChar, Bool.or_eq_true, Bool.and_eq_true, decide_eq_true_eq]
    right
    omega
  · rintro rfl
    exact absurd hc (by decide)

/-- The text of a number or a truth value is plain. -/
theorem plainText_text {v : Value} (h : ∀ s, v = .str s → PlainText s) : PlainText v.text := by
  cases v with
  | str s => exact h s rfl
  | u64 n => exact plainText_toString n.toNat
  | bool b => cases b <;> exact of_decide_eq_true rfl

/-- The three setters differ in the text they write only. -/
theorem infostoreSet_eq (root : Node) (key : String) (v : Value) :
    infostoreSet x root key v = xpathSetString x root key v.text := by
  cases v with
  | str s => rfl
  | u64 n => rfl
  | bool b => cases b <;> rfl

/-! ### Trees -/

/-- The tree carries the stamp and the values of a content. -/
structure Represents (root : Node) (content : Content) : Prop where
  record : IsRecord root
  stamp : infostoreGetStr root "uuid" = some content.uuid.text
  values : ∀ k, k ≠ uuidKey →
    infostoreGetStr root k.name = (content.values k).map Value.text

theorem isRecord_newXml : IsRecord newXml :=
  ⟨[], rfl, by simp⟩

theorem IsRecord.set (hx : x.Documented) {root : Node} (h : IsRecord root) (k : Key)
    {s : String} (hs : PlainText s) : IsRecord (xpathSetString x root k.name s) := by
  obtain ⟨cs, rfl, hcs⟩ := h
  rw [xpathSetString, hx.nodeContent s hs]
  refine ⟨Node.setChildren k.name (textNodes s) cs, rfl, ?_⟩
  refine Node.forall_setChildren ⟨k, s, hs, rfl⟩ ?_ hcs
  rintro n ⟨k', s', -, rfl⟩ -
  exact ⟨k', s, hs, rfl⟩

theorem getStr_set (hx : x.Documented) {root : Node} (h : IsRecord root) (key : String)
    {s : String} (hs : PlainText s) :
    infostoreGetStr (xpathSetString x root key s) key = some s := by
  obtain ⟨cs, rfl, -⟩ := h
  rw [infostoreGetStr, xpathQueryString, xpathSetString, hx.nodeContent s hs,
    Node.childText_setChild, textValues_textNodes]

theorem getStr_set_of_ne {root : Node} (h : IsRecord root) {key key' : String}
    (hne : key' ≠ key) (s : String) :
    infostoreGetStr (xpathSetString x root key s) key' = infostoreGetStr root key' := by
  obtain ⟨cs, rfl, -⟩ := h
  exact Node.childText_setChild_of_ne hne _ _ _ _

theorem Key.name_injective {k k' : Key} (h : k.name = k'.name) : k = k' := by
  cases k
  cases k'
  cases h
  rfl

/-- Stamping a tree that carries the values of a content gives the content. -/
theorem Represents.stamp_spec (hx : x.Documented) {root : Node} (content : Content)
    (hrecord : IsRecord root)
    (hvalues : ∀ k, k ≠ uuidKey →
      infostoreGetStr root k.name = (content.values k).map Value.text) :
    Represents (infostoreSetStr x root "uuid" content.uuid.text) content where
  record := hrecord.set hx uuidKey content.uuid.plain
  stamp := getStr_set hx hrecord _ content.uuid.plain
  values k hk := by
    have hne : k.name ≠ "uuid" := fun h => hk (Key.name_injective h)
    rw [infostoreSetStr, getStr_set_of_ne hrecord hne]
    exact hvalues k hk

/-- **Setting a key changes that key and no other.** -/
theorem Represents.set (hx : x.Documented) {root : Node} {content : Content}
    (h : Represents root content) {k : Key} (hk : k ≠ uuidKey) {v : Value}
    (hv : PlainText v.text) :
    Represents (infostoreSet x root k.name v)
      { content with values := Function.update content.values k (some v) } := by
  rw [infostoreSet_eq]
  -- the stamp has a name of its own, which is not the key's
  have hne : "uuid" ≠ k.name := fun h => hk (Key.name_injective h.symm)
  refine ⟨h.record.set hx k hv, ?_, fun k' hk' => ?_⟩
  -- every other key has another name, and so keeps its value
  · rw [getStr_set_of_ne h.record hne]
    exact h.stamp
  · by_cases hkk : k' = k
    · subst hkk
      rw [getStr_set hx h.record _ hv]
      simp
    · have hne' : k'.name ≠ k.name := fun h => hkk (Key.name_injective h)
      rw [getStr_set_of_ne h.record hne', h.values k' hk']
      simp [Function.update_of_ne hkk]

/-! ### Files -/

/-- A file holds a content: the tree of it, or nothing when there is none. -/
def Holds (file : File) : Option Content → Prop
  | none => file = .empty
  | some content => ∃ root, file = .saved root ∧ Represents root content

/-- The file carries another stamp than the domain. -/
def Stale (file : File) (uuid : Uuid) : Prop :=
  ∃ root stamp, file = .saved root ∧ infostoreGetStr root "uuid" = some stamp ∧
    stamp ≠ uuid.text

theorem openStore_empty : openStore x .empty true = some newXml := rfl

theorem openStore_saved (hx : x.Documented) {root : Node} (h : IsRecord root) :
    openStore x (.saved root) true = some root := by
  obtain ⟨cs, rfl, hcs⟩ := h
  have hread := hx.reread _ ⟨cs, rfl, hcs⟩
  simp [openStore, hread]

/-- A fresh session: the stamp and no values. -/
theorem represents_fresh (hx : x.Documented) (uuid : Uuid) :
    Represents (infostoreSetStr x newXml "uuid" uuid.text) ⟨uuid, fun _ => none⟩ :=
  Represents.stamp_spec hx ⟨uuid, fun _ => none⟩ isRecord_newXml fun _ _ => rfl

/-- **Opening a store.** On a file that holds the content of the domain,
`infostore_open` is refused, or gives a session on the content the domain may
claim: its own under the same uuid, an empty one otherwise. -/
theorem infostoreOpen_spec (hx : x.Documented) {file : File} {content : Option Content}
    (h : Holds file content) {calls : OpenCalls} {uuid : Uuid} (huuid : calls.uuid = some uuid)
    (hstale : calls.openFile = true → Stale file uuid →
      calls.unlink = true ∧ calls.reopenFile = true) :
    (calls.openFile = false ∧ infostoreOpen x file calls = (file, .refused)) ∨
    (calls.openFile = true ∧ ∃ file' root,
      infostoreOpen x file calls = (file', .session root) ∧
      Represents root (Content.claim uuid content)) := by
  cases hopen : calls.openFile with
  | false => exact .inl ⟨rfl, by simp [infostoreOpen, openStore, hopen]⟩
  | true =>
    refine .inr ⟨rfl, ?_⟩
    -- a file that was never written gets a fresh stamp
    cases content with
    | none =>
      obtain rfl : file = .empty := h
      refine ⟨.empty, _, ?_, represents_fresh hx uuid⟩
      have hnone : infostoreGetStr newXml "uuid" = none := rfl
      simp [infostoreOpen, hopen, openStore_empty, huuid, hnone]
    | some content =>
      obtain ⟨root, rfl, hrep⟩ := h
      have hread := openStore_saved hx hrep.record
      by_cases hsame : content.uuid = uuid
      · -- the stamp is the domain's: the session goes on with the values
        subst hsame
        refine ⟨.saved root, infostoreSetStr x root "uuid" content.uuid.text, ?_, ?_⟩
        · simp [infostoreOpen, hopen, hread, huuid, hrep.stamp]
        · simpa [Content.claim] using Represents.stamp_spec hx content hrep.record hrep.values
      · -- another domain's store: deleted, and a fresh one stamped
        -- the texts of the two uuids differ, so the stamp is found to be stale
        have hne : content.uuid.text ≠ uuid.text := by
          intro heq
          refine hsame ?_
          cases huu : content.uuid
          cases uuid
          simp_all
        obtain ⟨hunlink, hreopen⟩ := hstale hopen ⟨root, _, rfl, hrep.stamp, hne⟩
        refine ⟨.empty, infostoreSetStr x newXml "uuid" uuid.text, ?_, ?_⟩
        · simp [infostoreOpen, hopen, hread, huuid, hrep.stamp, hne, deleteAndOpen, hunlink,
            hreopen, openStore_empty]
        · simpa [Content.claim, hsame] using represents_fresh hx uuid

theorem makeFilename_toList (dom : Dom) : (makeFilename dom).toList =
    (infoStore ++ "/").toList ++ ((dom.type.text ++ "_").toList ++ dom.name.toList) := by
  simp [makeFilename, String.toList_append]

/-- A file belongs to one domain: no type is a prefix of another up to the
underscore. -/
theorem makeFilename_injective {dom dom' : Dom} (h : makeFilename dom = makeFilename dom') :
    dom = dom' := by
  have hl := congrArg String.toList h
  rw [makeFilename_toList, makeFilename_toList] at hl
  have hrest := List.append_cancel_left hl
  obtain ⟨type, name⟩ := dom
  obtain ⟨type', name'⟩ := dom'
  cases type <;> cases type' <;> simp [ConnType.text] at hrest ⊢ <;>
    exact String.toList_inj.mp hrest

/-! ### Histories -/

/-- The conditions under which an operation keeps the law, read off the state
before it. -/
def Sound (st : State) : Op → Prop
  | .open_ _ dom calls => ∃ uuid, calls.uuid = some uuid ∧
    (calls.openFile = true → Stale (st.files (makeFilename dom)) uuid →
      calls.unlink = true ∧ calls.reopenFile = true)
  | .set _ k v => k ≠ uuidKey ∧ ∀ s, v = .str s → PlainText s
  | .getStr _ k _ | .getU64 _ k _ | .getBool _ k _ => k ≠ uuidKey
  | .close _ save => save = .ok
  | .delete dom => ∀ h s, st.sessions h = some s → s.path ≠ makeFilename dom

/-- The store refines the map. -/
structure StoreInv (σ : Spec) (st : State) : Prop where
  closed : ∀ h, st.sessions h = none → σ.handles h = none
  /-- a session represents the content of the domain it was opened on -/
  opened : ∀ h s, st.sessions h = some s → s.linked = true ∧
    ∃ dom content, σ.handles h = some dom ∧ s.path = makeFilename dom ∧
      σ.contents dom = some content ∧ Represents s.root content
  exclusive : ∀ h h' s s', st.sessions h = some s → st.sessions h' = some s' →
    s.path = s'.path → h = h'
  /-- a file without a session holds the content of its domain -/
  stored : ∀ dom, (∀ h s, st.sessions h = some s → s.path ≠ makeFilename dom) →
    Holds (st.files (makeFilename dom)) (σ.contents dom)

namespace StoreInv

variable {σ : Spec} {st st' : State}

theorem initial : StoreInv Spec.init State.init where
  closed _ _ := rfl
  opened _ _ hs := nomatch hs
  exclusive _ _ _ _ hs := nomatch hs
  stored _ _ := rfl

/-- A get returns what the map says. -/
theorem getStr (h : StoreInv σ st) {n : ℕ} {s : Session} (hs : st.sessions n = some s)
    {k : Key} (hk : k ≠ uuidKey) :
    infostoreGetStr s.root k.name = (σ.lookup n k).map Value.text := by
  obtain ⟨-, dom, content, hh, -, hc, hrep⟩ := h.opened n s hs
  rw [hrep.values k hk]
  simp [Spec.lookup, hh, hc]

theorem returns (h : StoreInv σ st) {l : Op} (hsound : Sound st l)
    (hstep : StoreStep x st l st') : Returns σ l := by
  cases hstep with
  | open_ n dom calls hfree hunlocked => trivial
  | set n s k v hs => trivial
  | getStr n s k hs => exact h.getStr hs hsound
  -- a number is read back as the one that was written
  | getU64 n s k hs =>
    have hget : xpathQueryString s.root k.name = _ := h.getStr hs hsound
    simp only [Returns, infostoreGetU64, hget]
    cases σ.lookup n k with
    | none => rfl
    | some v =>
      cases v with
      | str t => trivial
      | u64 m =>
        rw [Option.map_some, Value.text, Option.bind_some, scanU64_toString]
        rfl
      | bool b => trivial
  -- a boolean is one of two texts, which the reader tells apart
  | getBool n s k hs =>
    have hget : xpathQueryString s.root k.name = _ := h.getStr hs hsound
    simp only [Returns, infostoreGetBool, hget]
    cases σ.lookup n k with
    | none => rfl
    | some v =>
      cases v with
      | str t => trivial
      | u64 m => trivial
      | bool b => cases b <;> decide
  | close n s save hs => trivial
  | delete dom => trivial

theorem open_ (hx : x.Documented) (h : StoreInv σ st) {n : ℕ} {dom : Dom} {calls : OpenCalls}
    (hfree : st.sessions n = none)
    (hunlocked : ∀ n' s, st.sessions n' = some s → s.linked → s.path ≠ makeFilename dom)
    (hsound : Sound st (.open_ n dom calls)) :
    StoreInv (σ.step (.open_ n dom calls)) (st.open_ x n dom calls) := by
  obtain ⟨uuid, huuid, hstale⟩ := hsound
  have hno : ∀ n' s, st.sessions n' = some s → s.path ≠ makeFilename dom :=
    fun n' s hs => hunlocked n' s hs (h.opened n' s hs).1
  obtain ⟨hopen, hres⟩ | ⟨hopen, file', root, hres, hrep⟩ :=
    infostoreOpen_spec hx (h.stored dom hno) huuid hstale
  · -- refused: nothing changes
    have hst : st.open_ x n dom calls = st := by
      simp [State.open_, hres]
    have hσ : σ.step (.open_ n dom calls) = σ := by
      simp [Spec.step, hopen]
    rw [hst, hσ]
    exact h
  · have hst : st.open_ x n dom calls =
        ⟨Function.update st.files (makeFilename dom) file',
          Function.update st.sessions n (some ⟨makeFilename dom, root, true⟩)⟩ := by
      simp [State.open_, hres]
    have hσ : σ.step (.open_ n dom calls) =
        ⟨Function.update σ.contents dom (some (Content.claim uuid (σ.contents dom))),
          Function.update σ.handles n (some dom)⟩ := by
      simp [Spec.step, hopen, huuid]
    rw [hst, hσ]
    -- the four clauses in their order: closed handles, open ones, paths, files at rest
    refine ⟨?_, ?_, ?_, ?_⟩
    · intro n' hn'
      have hne : n' ≠ n := by
        rintro rfl
        simp at hn'
      simp only [Function.update_of_ne hne] at hn' ⊢
      exact h.closed n' hn'
    · intro n' s hs
      by_cases hn : n' = n
      · subst hn
        obtain rfl : _ = s := by simpa using hs
        exact ⟨rfl, dom, _, by simp, rfl, by simp, hrep⟩
      · simp only [Function.update_of_ne hn] at hs ⊢
        obtain ⟨hl, dom', content, hh, hp, hc, hr⟩ := h.opened n' s hs
        -- its file is another one, so its domain is
        have hd : dom' ≠ dom := fun hd => hno n' s hs (hd ▸ hp)
        exact ⟨hl, dom', content, hh, hp, by rwa [Function.update_of_ne hd], hr⟩
    · intro n₁ n₂ s₁ s₂ h₁ h₂ hp
      -- two open handles on one path would be the one just opened and another on its file
      by_cases hn₁ : n₁ = n <;> by_cases hn₂ : n₂ = n
      · rw [hn₁, hn₂]
      · subst hn₁
        obtain rfl : _ = s₁ := by simpa using h₁
        simp only [Function.update_of_ne hn₂] at h₂
        exact absurd hp.symm (hno n₂ s₂ h₂)
      · subst hn₂
        obtain rfl : _ = s₂ := by simpa using h₂
        simp only [Function.update_of_ne hn₁] at h₁
        exact absurd hp (hno n₁ s₁ h₁)
      · simp only [Function.update_of_ne hn₁] at h₁
        simp only [Function.update_of_ne hn₂] at h₂
        exact h.exclusive n₁ n₂ s₁ s₂ h₁ h₂ hp
    · intro dom' hdom'
      -- a file at rest is not the one just opened
      have hp : makeFilename dom ≠ makeFilename dom' :=
        hdom' n ⟨makeFilename dom, root, true⟩ (by simp)
      have hd : dom' ≠ dom := fun hd => hp (hd ▸ rfl)
      simp only [Function.update_of_ne hd, Function.update_of_ne (Ne.symm hp)]
      refine h.stored dom' fun n' s hs => ?_
      have hn : n' ≠ n := by
        rintro rfl
        simp [hfree] at hs
      exact hdom' n' s (by simpa only [Function.update_of_ne hn] using hs)

theorem set (hx : x.Documented) (h : StoreInv σ st) {n : ℕ} {s : Session} {k : Key} {v : Value}
    (hs : st.sessions n = some s) (hk : k ≠ uuidKey) (hv : PlainText v.text) :
    StoreInv (σ.step (.set n k v)) { st with
      sessions := Function.update st.sessions n
        (some { s with root := infostoreSet x s.root k.name v }) } := by
  obtain ⟨hlinked, dom, content, hh, hp, hc, hrep⟩ := h.opened n s hs
  have hσ : σ.step (.set n k v) =
      ⟨Function.update σ.contents dom
        (some ⟨content.uuid, Function.update content.values k (some v)⟩), σ.handles⟩ := by
    simp [Spec.step, hh, hc]
  rw [hσ]
  -- the session keeps its path, so what holds of paths is unchanged
  have hback : ∀ n' s', Function.update st.sessions n
      (some { s with root := infostoreSet x s.root k.name v }) n' = some s' →
      ∃ s'', st.sessions n' = some s'' ∧ s''.path = s'.path := by
    intro n' s' hs'
    by_cases hn : n' = n
    · subst hn
      obtain rfl : _ = s' := by simpa using hs'
      exact ⟨s, hs, rfl⟩
    · rw [Function.update_of_ne hn] at hs'
      exact ⟨s', hs', rfl⟩
  refine ⟨?_, ?_, ?_, ?_⟩
  · intro n' hn'
    have hne : n' ≠ n := by
      rintro rfl
      simp at hn'
    simp only [Function.update_of_ne hne] at hn'
    exact h.closed n' hn'
  -- the session's own record takes the value, the other domains keep theirs
  · intro n' s' hs'
    by_cases hn : n' = n
    · subst hn
      obtain rfl : _ = s' := by simpa using hs'
      exact ⟨hlinked, dom, _, hh, hp, by simp, hrep.set hx hk hv⟩
    · simp only [Function.update_of_ne hn] at hs'
      obtain ⟨hl, dom', content', hh', hp', hc', hr'⟩ := h.opened n' s' hs'
      have hd : dom' ≠ dom := by
        -- a second session of the domain would share the path
        rintro rfl
        exact hn (h.exclusive n' n s' s hs' hs (hp'.trans hp.symm))
      exact ⟨hl, dom', content', hh', hp', by simpa only [Function.update_of_ne hd] using hc', hr'⟩
  · intro n₁ n₂ s₁ s₂ h₁ h₂ hpath
    obtain ⟨t₁, ht₁, hp₁⟩ := hback n₁ s₁ h₁
    obtain ⟨t₂, ht₂, hp₂⟩ := hback n₂ s₂ h₂
    exact h.exclusive n₁ n₂ t₁ t₂ ht₁ ht₂ (hp₁.trans (hpath.trans hp₂.symm))
  · intro dom' hdom'
    have hne : s.path ≠ makeFilename dom' :=
      hdom' n { s with root := infostoreSet x s.root k.name v } (by simp)
    have hd : dom' ≠ dom := fun hd => hne (hd ▸ hp)
    simp only [Function.update_of_ne hd]
    refine h.stored dom' fun n' s' hs' => ?_
    by_cases hn : n' = n
    · subst hn
      obtain rfl : s = s' := by simpa [hs] using hs'
      exact hne
    · exact hdom' n' s' (by simpa only [Function.update_of_ne hn] using hs')

theorem close (h : StoreInv σ st) {n : ℕ} {s : Session} (hs : st.sessions n = some s) :
    StoreInv (σ.step (.close n .ok)) (st.close n s .ok) := by
  obtain ⟨hlinked, dom, content, hh, hp, hc, hrep⟩ := h.opened n s hs
  have hst : st.close n s .ok =
      ⟨Function.update st.files (makeFilename dom) (.saved s.root),
        Function.update st.sessions n none⟩ := by
    simp [State.close, hlinked, hp, saveXml]
  rw [hst]
  -- the sessions that remain were open before
  have hback : ∀ n' s', Function.update st.sessions n none n' = some s' →
      n' ≠ n ∧ st.sessions n' = some s' := by
    intro n' s' hs'
    have hn : n' ≠ n := by
      rintro rfl
      simp at hs'
    rw [Function.update_of_ne hn] at hs'
    exact ⟨hn, hs'⟩
  refine ⟨?_, ?_, ?_, ?_⟩
  · intro n' hn'
    change Function.update σ.handles n none n' = none
    by_cases hn : n' = n
    · rw [hn, Function.update_self]
    · simp only [Function.update_of_ne hn] at hn' ⊢
      exact h.closed n' hn'
  -- the sessions that stay open have what they had
  · intro n' s' hs'
    obtain ⟨hn, hs'⟩ := hback n' s' hs'
    obtain ⟨hl, dom', content', hh', hp', hc', hr'⟩ := h.opened n' s' hs'
    refine ⟨hl, dom', content', ?_, hp', hc', hr'⟩
    change Function.update σ.handles n none n' = some dom'
    rwa [Function.update_of_ne hn]
  · intro n₁ n₂ s₁ s₂ h₁ h₂ hpath
    exact h.exclusive n₁ n₂ s₁ s₂ (hback n₁ s₁ h₁).2 (hback n₂ s₂ h₂).2 hpath
  · intro dom' hdom'
    change Holds _ (σ.contents dom')
    by_cases hd : dom' = dom
    · -- the file just written
      subst hd
      simp only [Function.update_self, hc]
      exact ⟨s.root, rfl, hrep⟩
    · have hpne : makeFilename dom' ≠ makeFilename dom := fun he => hd (makeFilename_injective he)
      simp only [Function.update_of_ne hpne]
      refine h.stored dom' fun n' s' hs' => ?_
      by_cases hn : n' = n
      -- a handle on another file would still be open after the close
      · subst hn
        obtain rfl : s = s' := by simpa [hs] using hs'
        rw [hp]
        exact Ne.symm hpne
      · exact hdom' n' s' (by simpa only [Function.update_of_ne hn] using hs')

theorem delete (h : StoreInv σ st) {dom : Dom}
    (hno : ∀ n s, st.sessions n = some s → s.path ≠ makeFilename dom) :
    StoreInv (σ.step (.delete dom)) (st.delete dom) := by
  have hst : st.delete dom =
      ⟨Function.update st.files (makeFilename dom) .empty, st.sessions⟩ := by
    -- no session is on the file, so none loses its link
    refine congrArg (State.mk _) (funext fun n => ?_)
    cases hs : st.sessions n with
    | none => rfl
    | some s => simp [hno n s hs]
  rw [hst]
  refine ⟨h.closed, ?_, h.exclusive, ?_⟩
  -- an open session is of another domain
  · intro n s hs
    obtain ⟨hl, dom', content, hh, hp, hc, hr⟩ := h.opened n s hs
    have hd : dom' ≠ dom := fun hd => hno n s hs (hd ▸ hp)
    refine ⟨hl, dom', content, hh, hp, ?_, hr⟩
    change Function.update σ.contents dom none dom' = some content
    rwa [Function.update_of_ne hd]
  -- the file of the domain is gone, every other is as it was
  · intro dom' hdom'
    change Holds _ (Function.update σ.contents dom none dom')
    by_cases hd : dom' = dom
    · subst hd
      simp [Holds]
    · have hpne : makeFilename dom' ≠ makeFilename dom := fun he => hd (makeFilename_injective he)
      simp only [Function.update_of_ne hpne, Function.update_of_ne hd]
      exact h.stored dom' hdom'

theorem step (hx : x.Documented) (h : StoreInv σ st) {l : Op} (hsound : Sound st l)
    (hstep : StoreStep x st l st') : StoreInv (σ.step l) st' := by
  cases hstep with
  | open_ n dom calls hfree hunlocked => exact h.open_ hx hfree hunlocked hsound
  | set n s k v hs => exact h.set hx hs hsound.1 (plainText_text hsound.2)
  | getStr n s k hs => exact h
  | getU64 n s k hs => exact h
  | getBool n s k hs => exact h
  | close n s save hs =>
    obtain rfl : save = .ok := hsound
    exact h.close hs
  | delete dom => exact h.delete hsound

end StoreInv

theorem Spec.run_append (ls : List Op) (l : Op) :
    Spec.run (ls ++ [l]) = (Spec.run ls).step l := by
  rw [Spec.run, List.foldl_append]
  rfl

/-- **The infostore law**, for every history of sound operations. It rests on `StoreInv`, that
sessions and files hold the content that the history gives each domain: every sound operation
keeps it and returns what it should. Of libxml2 it is assumed that it reads a document it has
written as it was. -/
theorem lawful_of_sound (hx : x.Documented) {ls : List Op} {st : State}
    (hrun : Run ((storeSystem x).restrict Sound) (storeSystem x).init ls st) : Lawful ls := by
  have h : Lawful ls ∧ StoreInv (Spec.run ls) st := by
    refine hrun.historyInvariant (I := fun ls st => Lawful ls ∧ StoreInv (Spec.run ls) st)
      (fun ls s l t hI hst => ?_) ⟨Along.nil, StoreInv.initial⟩
    obtain ⟨hlaw, hinv⟩ := hI
    obtain ⟨hsound, hstep⟩ := hst
    rw [Spec.run_append]
    exact ⟨hlaw.snoc (hinv.returns hsound hstep), hinv.step hx hsound hstep⟩
  exact h.1

/-! ### Two histories -/

/-- A libxml2 for contents that are plain or the text `a&lt;b`, whose entity
reference it expands. -/
def entityXml : Libxml where
  nodeContent s := if s = "a&lt;b" then [.text "a<b"] else textNodes s
  reread := some

theorem entityXml_documented : entityXml.Documented where
  nodeContent s hs := by
    have hne : s ≠ "a&lt;b" := by
      rintro rfl
      exact absurd hs (by decide)
    simp [entityXml, hne]
  reread _ _ := rfl

/-- A guest and its answers when every call succeeds. -/
def guestDom : Dom := ⟨.qemu, "guest"⟩

def guestCalls : OpenCalls where
  openFile := true
  uuid := some ⟨"4dea22b3-1d52-d8f3-2516-782e98ab3fa0", by decide⟩
  save := .ok
  unlink := true
  reopenFile := true

def weightKey : Key := ⟨"weight", by decide⟩

/-- The answers for another guest of the name, whose predecessor's file cannot be deleted. -/
def staleCalls : OpenCalls where
  openFile := true
  uuid := some ⟨"8f07fe28-753f-2729-d76d-bdbd892f949a", by decide⟩
  save := .ok
  unlink := false
  reopenFile := true

theorem guestCalls_sound (st : State) (h : ℕ) : Sound st (.open_ h guestDom guestCalls) :=
  ⟨_, rfl, fun _ _ => ⟨rfl, rfl⟩⟩

/-- A sound history: the largest value is set, and read in another session. -/
theorem lawful_reopened :
    ∃ ls r, Lawful (ls ++ [.getU64 0 weightKey r]) ∧ r = 18446744073709551615 := by
  have hkey : weightKey ≠ uuidKey := by decide
  have r₁ : Run ((storeSystem entityXml).restrict Sound) State.init _ _ :=
    (Run.nil State.init).snoc_restrict
      (StoreStep.open_ State.init 0 guestDom guestCalls rfl nofun) (guestCalls_sound _ 0)
  have r₂ := r₁.snoc_restrict
    (StoreStep.set _ 0 _ weightKey (.u64 18446744073709551615) rfl) ⟨hkey, nofun⟩
  have r₃ := r₂.snoc_restrict (StoreStep.close _ 0 _ .ok rfl) rfl
  have r₄ := r₃.snoc_restrict (StoreStep.open_ _ 0 guestDom guestCalls rfl
    (by rintro (_ | h') s hs <;> cases hs)) (guestCalls_sound _ 0)
  have r₅ := r₄.snoc_restrict (StoreStep.getU64 _ 0 _ weightKey rfl) hkey
  exact ⟨_, _, lawful_of_sound entityXml_documented r₅, by decide⟩

/-- **A guest reads what was set for another one of its name**: the file of the old guest carries
its uuid, but could not be deleted, and `infostore_open` goes on with its values. -/
theorem not_lawful :
    ¬ ∀ x : Libxml, x.Documented → ∀ ls st,
      Run (storeSystem x) (storeSystem x).init ls st → Lawful ls := by
  intro h
  have r₁ : Run (storeSystem entityXml) State.init _ _ :=
    Run.single (StoreStep.open_ State.init 0 guestDom guestCalls rfl nofun)
  have r₂ := r₁.snoc (StoreStep.set _ 0 _ weightKey (.u64 512) rfl)
  have r₃ := r₂.snoc (StoreStep.close _ 0 _ .ok rfl)
  -- the guest is made anew, with another uuid
  have r₄ := r₃.snoc (StoreStep.open_ _ 0 guestDom staleCalls rfl
    (by rintro (_ | h') s hs <;> cases hs))
  have r₅ := r₄.snoc (StoreStep.getU64 _ 0 _ weightKey rfl)
  -- nothing was set under this uuid, so zero is what the get should return
  have hget : infostoreGetU64 _ weightKey.name = 0 :=
    h entityXml entityXml_documented _ _ r₅ _ _ [] rfl
  exact absurd hget (by decide)

end LibvirtCim.Infostore
