import LibvirtCim.Service.Atomicity
import LibvirtCim.Service.Indications

/-!
# When indications tell the truth

An indication is true if it is raised for a definition that was stored, and says of a
modified setting what it was before and what it is now. `truthful_iff` says when all
indications of a request are, and when a request that succeeds has stored everything it was
asked for: no more than the steps up to the document may fail.

The proof follows the reports. A round of the loop adds at most one report
(`updateItemNoted_cases`), so the reports of a request are those of its first setting and
those of the rest (`forM_updateItemNoted`).
-/

open Framework LibvirtCim.Device LibvirtCim.Rasd

namespace LibvirtCim.Service

/-- Both instances have the same properties. -/
def SameProps (a b : Instance) : Prop := ∀ name, a.get name = b.get name

/-- The indication of a report is true. A client takes it for a change that was stored, and takes
the two instances in it for the setting before and after. -/
structure Report.Truthful (report : Report) : Prop where
  /-- it was raised if and only if the definition was stored -/
  raised : report.raised.isSome ↔ report.stored = true
  /-- it says what the setting was, and what it is -/
  instances : ∀ type previous source before after,
    report.raised = some (.rasd type previous source) → report.change = some (before, after) →
    (∃ inst, previous = some inst ∧ SameProps inst before) ∧ SameProps source after

variable {Live : Type} (env : Env Live) (sys : SystemHost)

/-- All indications of a request are true, and if it succeeds everything was stored. -/
def Truthful (request : SettingsRequest Live) (w : World Live) : Prop :=
  let r := request.run env sys (w, [])
  (∀ report ∈ r.2.2, report.Truthful) ∧
    (r.1 = .ok () → r.2.2.length = request.count ∧ ∀ report ∈ r.2.2, report.stored = true)

/-! ### When it is so -/

/-- The document is stored. -/
def Accepted (doc : Node) : Prop :=
  connectByClassname env .create env.refcn = .ok true ∧ (env.lv.defineXML doc).isSome

/-- Once there is a document for a setting it is stored, and a modification changes nothing. -/
def UpdateSound (action : ResourceAction) (devid : Option String) (rasd : Instance)
    (g : Guest Live) : Prop :=
  ∀ orig working doc, (preparedUpdate env action devid rasd g).1 = .ok (orig, working, doc) →
    Accepted env doc ∧ ∀ before ∈ orig, SameProps (rasd.merge before) before

/-- What holds for each setting that is processed. -/
def ItemsSound (action : ResourceAction) (domain : String) :
    List (Item Live) → World Live → Prop
  | [], _ => True
  | item :: items, w =>
    (∀ name devid rasd g, addressed action domain item = .ok (name, devid, rasd) →
      item.env.calls.lookup .request = true → w name = some g →
      UpdateSound item.env action devid rasd g) ∧
    ((updateItemNoted action domain item (w, [])).1 = .ok () →
      ItemsSound action domain items (updateItemNoted action domain item (w, [])).2.1)

/-- There is a document for the new settings of a system, and it can be stored; if it is, the
new system is found. -/
def ResettleSound (name : String) (vssd : Instance) (g : Guest Live) : Prop :=
  ∀ dominfo dominfo', (getDominfo env
      (.failed ("Unable to find existing domain `" ++ name ++ "' to modify")) g).1 = .ok dominfo →
    updatedDomain env sys vssd name dominfo = .ok dominfo' →
    connectByClassname env .create env.refcn = .ok true ∧
      ∃ doc, systemToXml env.nodeContent env.newUuid dominfo' = .ok doc ∧
        ((env.lv.defineXML doc).isSome → env.calls.getDomainByName = true)

/-- The condition of a request, on what the calls answer. A deletion resolves its references
first; without a connection, or without the domain, nothing is done and nothing is raised; else
every setting has to be sound, in the order in which they are taken. -/
def RequestSound (request : SettingsRequest Live) (w : World Live) : Prop :=
  match request with
  | .resources action domain items =>
    (action = .del → rasdRefsToInsts items = .ok ()) →
    connectByClassname env .request env.refcn = .ok true →
    ItemsSound action domain items w
  | .system vssd => ∀ name, vssd.getStr "VirtualSystemIdentifier" = some name →
    connectByClassname env .request env.refcn ≠ .ok false ∧
    (connectByClassname env .request env.refcn = .ok true →
      env.calls.lookup .request = true →
      ∀ g, w name = some g → ResettleSound env sys name vssd g)

/-! ### One setting -/

/-- What `connect_and_create` notes, and how it ends. -/
theorem connectAndCreateNoted_cases (doc : Node) (s : Guest Live × Report) :
    let r := connectAndCreateNoted env (some doc) s
    (¬ Accepted env doc ∧ r.2 = s ∧
      (connectByClassname env .create env.refcn = .ok true → ∃ e, r.1 = .error e) ∧
      (connectByClassname env .create env.refcn = .ok false → r.1 = .ok false) ∧
      (∀ e, connectByClassname env .create env.refcn = .error e → r.1 = .error e)) ∨
    (Accepted env doc ∧ r.2.2 = { s.2 with stored := true } ∧
      r.1 = if env.calls.getDomainByName then .ok true
        else .error (.failed "Failed to lookup resulting system")) := by
  intro r
  have hr : r = connectAndCreateNoted env (some doc) s := rfl
  unfold connectAndCreateNoted at hr
  rw [Effect.bind_apply, Effect.ofExcept_apply] at hr
  unfold Accepted
  -- without a connection nothing is given to libvirt
  cases hconnect : connectByClassname env .create env.refcn with
  | error e =>
    rw [hconnect] at hr
    rw [hr]
    left
    simp
  | ok connected =>
    rw [hconnect, Effect.goOn_ok] at hr
    cases connected with
    | false =>
      rw [hr]
      left
      simp
    | true =>
      rw [if_pos rfl, Effect.bind_apply, Effect.onFst_apply, onConfig, Effect.call_apply,
        Option.bind_some] at hr
      -- what libvirt makes of the document
      cases hdefine : env.lv.defineXML doc with
      | none =>
        rw [hdefine] at hr
        rw [hr]
        left
        exact ⟨by simp, rfl, fun _ => ⟨_, rfl⟩, by simp, by simp⟩
      | some config =>
        rw [hdefine] at hr
        rw [hr]
        right
        refine ⟨⟨rfl, rfl⟩, ?_⟩
        -- stored either way; only the look-up of the new definition can still fail
        cases env.calls.getDomainByName with
        | false => exact ⟨rfl, rfl⟩
        | true => exact ⟨rfl, rfl⟩

/-- The setting that is worked on is the original one with the new properties. -/
theorem preparedUpdate_working (action : ResourceAction) (devid : Option String)
    (rasd : Instance) :
    Triple (fun _ => True) (preparedUpdate env action devid rasd)
      (fun prepared _ => prepared.2.1 = workingRasd rasd prepared.1) (fun _ _ => True) := by
  -- of all but the last step nothing is asked
  have hany {α : Type} (m : Request Live α) :
      Triple (fun _ => True) m (fun _ _ => True) fun _ _ => True :=
    fun _ _ => ⟨fun _ _ => trivial, fun _ _ => trivial⟩
  unfold preparedUpdate
  refine Triple.bind (hany _) fun dominfo => ?_
  split
  · exact Triple.of_fail fun _ _ => trivial
  · refine Triple.bind (hany _) fun orig => ?_
    refine Triple.bind (hany _) fun dominfo => ?_
    split
    · exact Triple.of_fail fun _ _ => trivial
    -- the setting that goes on is the one merged into the original
    · exact Triple.of_pure fun _ _ => rfl

/-- What was raised is true if the definition was stored and the changes are none. -/
theorem truthful_iff_of_raised {report : Report} {rasd working : Instance}
    {orig : Option Instance} {type : String} (hworking : working = workingRasd rasd orig)
    (hraised : report.raised = some (.rasd type (orig.map fun _ => working) working))
    (hchange : report.change = orig.map fun orig => (orig, rasd.merge orig)) :
    report.Truthful ↔
      report.stored = true ∧ ∀ before ∈ orig, SameProps (rasd.merge before) before := by
  constructor
  · intro h
    -- the truth about the store, and then about the instances
    refine ⟨h.raised.mp (by rw [hraised]; rfl), ?_⟩
    rintro before hbefore
    -- what is sent as the previous setting is the merged one
    rw [Option.mem_def.mp hbefore] at hraised hchange hworking
    obtain ⟨⟨inst, hinst, hsame⟩, -⟩ := h.instances _ _ _ _ _ hraised hchange
    rw [Option.map_some] at hinst
    rw [← Option.some.inj hinst, hworking] at hsame
    exact hsame
  · rintro ⟨hstored, hsame⟩
    -- with equal properties the merged setting tells the same as the original
    refine ⟨by simp [hraised, hstored], ?_⟩
    intro type' previous source before after hraised' hchange'
    rw [hraised] at hraised'
    cases hraised'
    rw [hchange] at hchange'
    obtain ⟨orig, horig, heq⟩ := Option.map_eq_some_iff.mp hchange'
    cases heq
    rw [horig] at hworking
    subst hworking
    exact ⟨⟨_, by rw [horig]; rfl, hsame before horig⟩, fun _ => rfl⟩

/-- **One setting.** Without a document nothing is stored and nothing is raised. With one, the
indication is true if and only if the document is stored and a modification changes nothing;
and then the definition was stored. -/
theorem updateResourcesForNoted_cases (action : ResourceAction) (devid : Option String)
    (rasd : Instance) (g : Guest Live) :
    let r := updateResourcesForNoted env action devid rasd (g, {})
    (r.2.2.Truthful ↔ UpdateSound env action devid rasd g) ∧
      (r.1 = .ok () → r.2.2.Truthful → r.2.2.stored = true) := by
  intro r
  have hr : r = updateResourcesForNoted env action devid rasd (g, {}) := rfl
  unfold updateResourcesForNoted at hr
  rw [Effect.bind_apply, Effect.onFst_apply] at hr
  dsimp only at hr
  unfold UpdateSound
  have hworking := (preparedUpdate_working env action devid rasd g trivial).1
  generalize preparedUpdate env action devid rasd g = prepared at hr hworking ⊢
  -- the first failure leaves the report empty
  obtain ⟨result, g'⟩ := prepared
  cases result with
  | error e =>
    rw [Effect.goOn_error] at hr
    rw [hr]
    refine ⟨⟨fun _ => by simp, fun _ => ⟨by simp, by simp⟩⟩, by simp⟩
  | ok prepared =>
    obtain ⟨orig, working, doc⟩ := prepared
    have hworking : working = workingRasd rasd orig := hworking _ rfl
    -- the indication is raised whatever became of the document
    obtain ⟨status, t, ht, hr⟩ : ∃ status t,
        connectAndCreateNoted env (some doc)
          (g', { change := orig.map fun orig => (orig, rasd.merge orig) }) = (status, t) ∧
        r = (status.map fun _ => (), t.1, { t.2 with
          raised := some (.rasd (rasdIndication action) (orig.map fun _ => working) working) }) :=
      ⟨_, _, rfl, hr⟩
    have hcases := connectAndCreateNoted_cases env doc
      (g', { change := orig.map fun orig => (orig, rasd.merge orig) })
    rw [ht] at hcases
    -- the prepared document is the one that was accepted or not
    have hsound : (∀ orig' working' doc',
        (.ok (orig, working, doc) : Except Failure (Option Instance × Instance × Node)) =
          .ok (orig', working', doc') →
        Accepted env doc' ∧ ∀ before ∈ orig', SameProps (rasd.merge before) before) ↔
        Accepted env doc ∧ ∀ before ∈ orig, SameProps (rasd.merge before) before := by
      constructor
      · intro h
        exact h orig working doc rfl
      · rintro h _ _ _ ⟨⟩
        exact h
    dsimp only
    rw [hsound, hr]
    -- raised in both cases, stored only in the second
    obtain ⟨hnot, hsame, -⟩ | ⟨haccepted, hreport, -⟩ := hcases
    · dsimp only at hsame
      rw [hsame, truthful_iff_of_raised hworking rfl rfl]
      simp [hnot]
    · dsimp only at hreport
      rw [hreport, truthful_iff_of_raised hworking rfl rfl]
      simp [haccepted]

/-! ### All settings -/

theorem onDomainNoted_of_none {name : String} {missing : Failure}
    {m : Effect (Guest Live × Report) Failure Unit} {w : World Live} (hw : w name = none)
    (reports : List Report) :
    onDomainNoted name missing m (w, reports) = (.error missing, w, reports) := by
  simp only [onDomainNoted, hw]

theorem onDomainNoted_of_some {name : String} {missing : Failure}
    {m : Effect (Guest Live × Report) Failure Unit} {w : World Live} {g : Guest Live}
    (hw : w name = some g) (reports : List Report) :
    onDomainNoted name missing m (w, reports) =
      ((m (g, {})).1, Function.update w name (some (m (g, {})).2.1),
        reports ++ [(m (g, {})).2.2]) := by
  simp only [onDomainNoted, hw]

section

variable (action : ResourceAction) (domain : String)

/-- **A round of the loop**: it does not get to a domain, or it adds the report of one. -/
theorem updateItemNoted_cases (item : Item Live) (w : World Live) :
    ((∀ name devid rasd g, addressed action domain item = .ok (name, devid, rasd) →
        item.env.calls.lookup .request = true → w name ≠ some g) ∧
      ∃ e, ∀ reports, updateItemNoted action domain item (w, reports) =
        (.error e, w, reports)) ∨
    ∃ name devid rasd g, addressed action domain item = .ok (name, devid, rasd) ∧
      item.env.calls.lookup .request = true ∧ w name = some g ∧
      ∀ reports, updateItemNoted action domain item (w, reports) =
        let r := updateResourcesForNoted item.env action devid rasd (g, {})
        (r.1, Function.update w name (some r.2.1), reports ++ [r.2.2]) := by
  unfold updateItemNoted
  simp only [Effect.bind_apply, Effect.ofExcept_apply]
  -- a setting that addresses no guest is refused before anything is done
  cases haddressed : addressed action domain item with
  | error e => exact .inl ⟨by simp, e, fun _ => rfl⟩
  | ok names =>
    obtain ⟨name, devid, rasd⟩ := names
    simp only [Effect.goOn_ok, Effect.bind_apply]
    cases hlookup : item.env.calls.lookup .request with
    | false => exact .inl ⟨by simp, _, fun _ => rfl⟩
    | true =>
      simp only [Effect.require_true_apply, Effect.goOn_ok]
      -- nor is there anything to do without the guest
      cases hw : w name with
      | none =>
        refine .inl ⟨?_, _, onDomainNoted_of_none hw⟩
        rintro _ _ _ g ⟨⟩ -
        rw [hw]
        simp
      | some g => exact .inr ⟨name, devid, rasd, g, rfl, trivial, hw, onDomainNoted_of_some hw⟩

/-- The reports of the rest come after those there are. -/
theorem forM_updateItemNoted (items : List (Item Live)) (w : World Live)
    (reports : List Report) :
    items.forM (updateItemNoted action domain) (w, reports) =
      let r := items.forM (updateItemNoted action domain) (w, [])
      (r.1, r.2.1, reports ++ r.2.2) := by
  -- each item has its own report, so those before it only stand in front
  induction items generalizing w reports with
  | nil =>
    show (Except.ok (), w, reports) = (Except.ok (), w, reports ++ [])
    rw [List.append_nil]
  | cons item items ih =>
    rw [Effect.forM_cons_apply, Effect.forM_cons_apply]
    obtain ⟨-, e, hrun⟩ | ⟨name, devid, rasd, g, -, -, -, hrun⟩ :=
      -- refused, so no report is added
      updateItemNoted_cases action domain item w
    · rw [hrun, hrun, Effect.goOn_error, Effect.goOn_error]
      dsimp only
      rw [List.append_nil]
    -- processed: one report more, and the rest goes on from there
    · rw [hrun, hrun]
      obtain ⟨result, s, report⟩ := updateResourcesForNoted item.env action devid rasd (g, {})
      cases result with
      | error e => rfl
      | ok u =>
        dsimp only
        rw [Effect.goOn_ok, Effect.goOn_ok, ih _ (reports ++ [report]), ih _ ([] ++ [report])]
        dsimp only
        rw [List.append_assoc, List.append_assoc, List.nil_append]

/-- **The settings of a request.** All their indications are true if and only if each setting
that is processed is sound; then all that were processed without an error were stored. -/
theorem itemsTruthful_iff (items : List (Item Live)) (w : World Live) :
    let r := items.forM (updateItemNoted action domain) (w, [])
    ((∀ report ∈ r.2.2, report.Truthful) ↔ ItemsSound action domain items w) ∧
      (r.1 = .ok () → (∀ report ∈ r.2.2, report.Truthful) →
        r.2.2.length = items.length ∧ ∀ report ∈ r.2.2, report.stored = true) := by
  induction items generalizing w with
  | nil =>
    show ((∀ report ∈ ([] : List Report), report.Truthful) ↔ True) ∧ _
    exact ⟨by simp, fun _ _ => ⟨rfl, List.forall_mem_nil _⟩⟩
  | cons item items ih =>
    intro r
    have hr : r = (item :: items).forM (updateItemNoted action domain) (w, []) := rfl
    rw [Effect.forM_cons_apply] at hr
    rw [ItemsSound]
    obtain ⟨hnone, e, hrun⟩ | ⟨name, devid, rasd, g, haddressed, hlookup, hw, hrun⟩ :=
      updateItemNoted_cases action domain item w
    · -- the setting is not processed, and the loop ends
      rw [hrun, Effect.goOn_error] at hr
      rw [hr, hrun]
      refine ⟨⟨fun _ => ⟨?_, by simp⟩, fun _ => List.forall_mem_nil _⟩, by simp⟩
      intro name devid rasd g haddressed hlookup hw
      exact absurd hw (hnone name devid rasd g haddressed hlookup)
    · obtain ⟨htruthful, hstored⟩ :=
        updateResourcesForNoted_cases item.env action devid rasd g
      rw [hrun] at hr
      rw [hrun]
      -- the one guest that is addressed is this one
      have hfirst : (∀ name devid rasd g, addressed action domain item = .ok (name, devid, rasd) →
            item.env.calls.lookup .request = true → w name = some g →
            UpdateSound item.env action devid rasd g) ↔
          UpdateSound item.env action devid rasd g := by
        constructor
        · intro h
          exact h name devid rasd g haddressed hlookup hw
        · intro h name' devid' rasd' g' haddressed' _ hw'
          rw [haddressed] at haddressed'
          cases haddressed'
          rw [hw] at hw'
          rw [← Option.some.inj hw']
          exact h
      rw [hfirst, ← htruthful]
      generalize updateResourcesForNoted item.env action devid rasd (g, {}) = first at *
      obtain ⟨result, g', report⟩ := first
      dsimp only at hr hstored ⊢
      -- the loop ends at the first failure
      cases result with
      | error e =>
        rw [Effect.goOn_error] at hr
        rw [hr]
        simp
      | ok u =>
        -- the reports are this item's and those of the rest
        rw [Effect.goOn_ok, forM_updateItemNoted] at hr
        dsimp only at hr
        obtain ⟨hrest, hall⟩ := ih (Function.update w name (some g'))
        generalize items.forM (updateItemNoted action domain)
          (Function.update w name (some g'), []) = rest at *
        rw [hr]
        simp only [List.nil_append, List.singleton_append, List.forall_mem_cons,
          List.length_cons, forall_const]
        refine ⟨and_congr_right fun _ => hrest, ?_⟩
        rintro hok ⟨hreport, hreports⟩
        obtain ⟨hlength, hstoredAll⟩ := hall hok hreports
        exact ⟨by rw [hlength], hstored rfl hreport, hstoredAll⟩

end

/-! ### The settings of a system -/

/-- A report without an indication for a setting is true if the rest fits. -/
theorem truthful_iff_of_system {report : Report}
    (h : ∀ type previous source, report.raised ≠ some (.rasd type previous source)) :
    report.Truthful ↔ (report.raised.isSome ↔ report.stored = true) := by
  constructor
  · intro htruthful
    exact htruthful.raised
  · intro hraised
    exact ⟨hraised, fun type previous source _ _ heq => absurd heq (h type previous source)⟩

/-- **The settings of a system**, once the domain was looked up. -/
theorem resettleNoted_iff (name : String) (vssd : Instance) (g : Guest Live)
    (hclass : ∀ e, connectByClassname env .create env.refcn ≠ .error e) :
    let r := resettleNoted env sys name vssd (g, {})
    (r.2.2.Truthful ∧ (r.1 = .ok () → r.2.2.stored = true)) ↔
      ResettleSound env sys name vssd g := by
  intro r
  have hr : r = resettleNoted env sys name vssd (g, {}) := rfl
  unfold resettleNoted at hr
  rw [Effect.bind_apply, Effect.onFst_apply] at hr
  dsimp only at hr
  -- with no indication there is nothing to be wrong about
  have hquiet : Report.Truthful {} := (truthful_iff_of_system (by simp)).mpr (by simp)
  unfold ResettleSound
  generalize getDominfo env _ g = read at hr ⊢
  obtain ⟨result, g'⟩ := read
  cases result with
  | error e =>
    rw [Effect.goOn_error] at hr
    rw [hr]
    simp [hquiet]
  | ok dominfo =>
    -- the settings are put into the domain before a document is made
    rw [Effect.goOn_ok, Effect.bind_apply, Effect.ofExcept_apply] at hr
    cases hupdated : updatedDomain env sys vssd name dominfo with
    | error e =>
      rw [hupdated, Effect.goOn_error] at hr
      rw [hr]
      refine ⟨fun _ => ?_, fun _ => ⟨hquiet, by simp⟩⟩
      rintro _ _ ⟨⟩ hd'
      rw [hupdated] at hd'
      cases hd'
    | ok dominfo' =>
      rw [hupdated, Effect.goOn_ok] at hr
      -- the domain read and the one updated are fixed by what was found
      have hsound (P : Domain → Prop) : (∀ d d', (.ok dominfo : Except Failure Domain) = .ok d →
          updatedDomain env sys vssd name d = .ok d' → P d') ↔ P dominfo' := by
        constructor
        · intro h
          exact h dominfo dominfo' rfl hupdated
        · rintro h d d' ⟨⟩ hd'
          rw [hupdated] at hd'
          rw [← Except.ok.inj hd']
          exact h
      dsimp only
      rw [hsound fun d' => connectByClassname env .create env.refcn = .ok true ∧
        ∃ doc, systemToXml env.nodeContent env.newUuid d' = .ok doc ∧
          ((env.lv.defineXML doc).isSome → env.calls.getDomainByName = true)]
      cases hdoc : systemToXml env.nodeContent env.newUuid dominfo' with
      | error msg =>
        -- the indication is raised, and there was nothing to store
        rw [hdoc] at hr
        have hreport : r = (.ok (), g', { raised := some systemModified }) := hr
        rw [hreport, truthful_iff_of_system (by simp [systemModified])]
        simp
      | ok doc =>
        rw [hdoc] at hr
        have hcases := connectAndCreateNoted_cases env doc (g', {})
        dsimp only at hr hcases
        rw [Effect.bind_apply, Effect.attempt_apply, Effect.goOn_ok] at hr
        unfold Accepted at hcases
        -- there is one document
        have hfound : (∃ doc', (.ok doc : Except String Node) = .ok doc' ∧
              ((env.lv.defineXML doc').isSome → env.calls.getDomainByName = true)) ↔
            ((env.lv.defineXML doc).isSome → env.calls.getDomainByName = true) := by
          constructor
          · rintro ⟨doc', ⟨⟩, h⟩
            exact h
          · intro h
            exact ⟨doc, rfl, h⟩
        rw [hfound]
        generalize connectAndCreateNoted env (some doc) (g', {}) = made at hr hcases
        obtain ⟨status, t, report⟩ := made
        dsimp only at hr hcases
        -- refused or accepted, and without a connection neither
        obtain ⟨hnot, hsame, htrue, hfalse, -⟩ | ⟨⟨hconnect, hdefine⟩, hreport, hstatus⟩ := hcases
        · cases hconnect : connectByClassname env .create env.refcn with
          | error e => exact absurd hconnect (hclass e)
          | ok connected =>
            cases connected with
            | false =>
              rw [hfalse hconnect] at hr
              have hreport : r = (.ok (), t, { report with raised := some systemModified }) := hr
              rw [hreport, truthful_iff_of_system (by simp [systemModified]),
                (Prod.mk.inj hsame).2]
              simp
            | true =>
              obtain ⟨e, he⟩ := htrue hconnect
              rw [he] at hr
              have hreport : r = (.error e, t, report) := hr
              rw [hreport, (Prod.mk.inj hsame).2]
              simp only [hconnect, true_and] at hnot
              simp [hquiet, hnot]
        -- stored, and raised only when the new definition is found
        · rw [hconnect]
          cases hfind : env.calls.getDomainByName with
          | false =>
            rw [hfind] at hstatus
            rw [hstatus] at hr
            have hreport' : r = (.error (.failed "Failed to lookup resulting system"), t, report) :=
              hr
            rw [hreport', truthful_iff_of_system (by simp [hreport]), hreport]
            simp [hdefine]
          | true =>
            rw [hfind] at hstatus
            rw [hstatus] at hr
            have hreport' : r = (.ok (), t, { report with raised := some systemModified }) := hr
            rw [hreport', truthful_iff_of_system (by simp [systemModified]), hreport]
            simp

/-! ### Requests -/

/-- Whether a class has a URI does not depend on where it is asked. -/
theorem connectByClassname_ne_error {site : Site} {classname : String} {connected : Bool}
    (h : connectByClassname env site classname = .ok connected) (site' : Site) (e : Failure) :
    connectByClassname env site' classname ≠ .error e := by
  unfold connectByClassname at h ⊢
  split at h
  · next hclass =>
    rw [if_pos hclass]
    simp
  · cases h

/-- **Resource settings.** -/
theorem truthful_resources_iff (action : ResourceAction) (domain : String)
    (items : List (Item Live)) (w : World Live) :
    Truthful env sys (.resources action domain items) w ↔
      RequestSound env sys (.resources action domain items) w := by
  -- stopped before any report
  have hstop {e : Failure} : ((∀ report ∈ ([] : List Report), report.Truthful) ∧
      ((.error e : Except Failure Unit) = .ok () → ([] : List Report).length = items.length ∧
        ∀ report ∈ ([] : List Report), report.stored = true)) ↔ True := by
    simp
  unfold Truthful RequestSound
  dsimp only [SettingsRequest.run, SettingsRequest.count]
  -- deletions read the references of all items first
  unfold updateResourceSettingsNoted
  rw [Effect.bind_apply, Effect.ofExcept_apply]
  cases hrefs : (if action = .del then rasdRefsToInsts items else .ok ()) with
  | error e =>
    rw [Effect.goOn_error, hstop, true_iff]
    intro hdel
    by_cases haction : action = .del
    · rw [if_pos haction, hdel haction] at hrefs
      cases hrefs
    · rw [if_neg haction] at hrefs
      cases hrefs
  | ok u =>
    rw [Effect.goOn_ok, Effect.bind_apply]
    have hdel : action = .del → rasdRefsToInsts items = .ok () := by
      intro haction
      rw [if_pos haction] at hrefs
      exact hrefs
    -- a connection is wanted before the items are looked at
    cases hconnect : connectByClassname env .request env.refcn with
    | error e =>
      rw [show (Except.error e : Except Failure Bool).toOption.getD false = false from rfl,
        Effect.require_false_apply, Effect.goOn_error, hstop]
      simp
    | ok connected =>
      cases connected with
      | false =>
        rw [show (Except.ok false : Except Failure Bool).toOption.getD false = false from rfl,
          Effect.require_false_apply, Effect.goOn_error, hstop]
        simp
      | true =>
        rw [show (Except.ok true : Except Failure Bool).toOption.getD false = true from rfl,
          Effect.require_true_apply, Effect.goOn_ok]
        obtain ⟨hiff, hall⟩ := itemsTruthful_iff action domain items w
        -- the reports are the items' own
        constructor
        · rintro ⟨htruthful, -⟩ - -
          exact hiff.mp htruthful
        · intro h
          have htruthful := hiff.mpr (h hdel rfl)
          exact ⟨htruthful, fun hok => hall hok htruthful⟩

/-- **Settings of a system.** -/
theorem truthful_system_iff (vssd : Instance) (w : World Live) :
    Truthful env sys (.system vssd) w ↔ RequestSound env sys (.system vssd) w := by
  have hstop {e : Failure} : ((∀ report ∈ ([] : List Report), report.Truthful) ∧
      ((.error e : Except Failure Unit) = .ok () → ([] : List Report).length = 1 ∧
        ∀ report ∈ ([] : List Report), report.stored = true)) ↔ True := by
    simp
  unfold Truthful RequestSound
  dsimp only [SettingsRequest.run, SettingsRequest.count]
  unfold updateSystemSettingsNoted
  -- without the name of the guest nothing is done
  cases hvsid : vssd.getStr "VirtualSystemIdentifier" with
  | none =>
    dsimp only
    rw [Effect.fail_apply, hstop]
    simp
  | some name =>
    dsimp only
    rw [Effect.bind_apply, Effect.ofExcept_apply]
    -- no connection to a URI is an error, no connection to libvirt is not
    cases hconnect : connectByClassname env .request env.refcn with
    | error e =>
      rw [Effect.goOn_error, hstop]
      simp
    | ok connected =>
      rw [Effect.goOn_ok]
      cases connected with
      | false =>
        -- nothing is done, and the status is fine
        simp
      | true =>
        rw [if_pos rfl, Effect.bind_apply]
        -- the guest must be there when it is asked for and when it is changed
        cases hlookup : env.calls.lookup .request with
        | false =>
          rw [Effect.require_false_apply, Effect.goOn_error, hstop]
          simp
        | true =>
          rw [Effect.require_true_apply, Effect.goOn_ok]
          cases hw : w name with
          | none =>
            rw [onDomainNoted_of_none hw, hstop]
            simp [hw]
          | some g =>
            rw [onDomainNoted_of_some hw]
            have hiff := resettleNoted_iff env sys name vssd g
              (connectByClassname_ne_error env hconnect .create)
            dsimp only at hiff ⊢
            rw [List.nil_append, List.forall_mem_singleton, List.forall_mem_singleton]
            -- one request, one report
            constructor
            · rintro ⟨htruthful, hstored⟩ _ ⟨⟩
              refine ⟨by simp, fun _ _ g' hg' => ?_⟩
              rw [hw] at hg'
              rw [← Option.some.inj hg']
              exact hiff.mp ⟨htruthful, fun hok => (hstored hok).2⟩
            · intro h
              obtain ⟨htruthful, hstored⟩ := hiff.mpr ((h name rfl).2 rfl rfl g hw)
              exact ⟨htruthful, fun hok => ⟨rfl, hstored hok⟩⟩

/-- The previous instance of an indication. -/
def Indication.previous : Indication → Option Instance
  | .rasd _ previous _ => previous
  | .system _ => none

/-- A host where every call succeeds but, where it is asked for, the connection to define a
domain with. -/
def refusingEnv (connect : Bool) : Env SimpleLive :=
  let env := simpleEnv (diskGuest (fileDisk "vda"))
  { env with calls := { env.calls with connect := fun site => site ≠ .create || connect } }

/-- A disk that gets another file. -/
def otherFile : Item SimpleLive where
  env := refusingEnv true
  rasd :=
    { pfx := "KVM", base := "DiskResourceAllocationSettingData"
      props := [("InstanceID", .string "guest/vda"), ("Address", .string "/var/lib/new.img")] }

/-- A guest that is to be restarted when it crashes. -/
def restartSettings : Instance where
  pfx := "KVM"
  base := "VirtualSystemSettingData"
  props := [("VirtualSystemIdentifier", .string "guest"),
    ("AutomaticRecoveryAction", .uint16 3)]

/-- The same guest, with a UUID. -/
def settledGuest : World SimpleLive := fun name =>
  if name = "guest" then
    some
      { live := {}
        config := .elem "domain" [("type", "kvm")]
          [.elem "name" [] [.text "guest"],
            .elem "uuid" [] [.text "c7a5fdbd-cdaf-9455-926a-d65c16db1809"],
            .elem "os" [] [.elem "type" [] [.text "hvm"]],
            .elem "devices" [] [fileDisk "vda"]] }
  else none

end LibvirtCim.Service
