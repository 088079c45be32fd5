import LibvirtCim.Infostore.Recorded

/-!
# Destroying a system

`destroy_system`: the RASDs of the domain are enumerated, what is recorded for it is deleted,
and then the domain is destroyed and undefined.

The information goes first. When the domain can be neither destroyed for good nor undefined,
the request ends with an error, the domain is still there, and what was recorded for it is
gone (`destroySystem_intact_iff`).
-/

open Framework LibvirtCim.Infostore

namespace LibvirtCim.Service

/-- What the hypervisor has of the domain that is to be destroyed. -/
structure Presence where
  persistent : Bool
  active : Bool
  deriving DecidableEq, Repr

/-- The domain can be looked up. -/
def Presence.present (guest : Presence) : Bool :=
  guest.persistent || guest.active

/-- The answers `destroy_system` gets. A call on a domain that is not there fails in any
case, as does the undefine of a transient one. -/
structure DestroyCalls where
  connect : Bool
  /-- the argument `AffectedSystem`, and its key `Name` -/
  affectedSystem : Bool
  nameKey : Bool
  /-- the session of the infostore that the enumeration of the processor opens -/
  session : Option (OpenCalls × SaveResult)
  enumRasds : Bool
  lookup : Bool
  /-- the `unlink` of `infostore_delete` -/
  unlink : Bool
  destroy : Bool
  lookupAgain : Bool
  undefine : Bool
  deriving DecidableEq

/-- What a request leaves: its status, if the process is still there to give one, the domain
and the file that is recorded for it. -/
structure Destroyed where
  status : Option CmpiStatus
  guest : Presence
  file : File

/-- `virDomainDestroy`: a transient domain is gone with it. -/
def virDomainDestroy (calls : DestroyCalls) (guest : Presence) : Presence :=
  if calls.destroy then { guest with active := false } else guest

variable (x : Libxml)

/-- `enum_rasds`, as far as the file of the domain goes. -/
def enumSession (calls : DestroyCalls) (file : File) : File × Bool :=
  match calls.session with
  | none => (file, true)
  | some (opened, save) => readSession x file opened save

/-- `destroy_system`. -/
def destroySystem (calls : DestroyCalls) (guest : Presence) (file : File) : Destroyed :=
  if !calls.connect then
    ⟨some (.error .notFound "Unable to connect to libvirt"), guest, file⟩
  else if !calls.affectedSystem || !calls.nameKey then
    ⟨some (.error .notFound "Unable to retrieve domain name"), guest, file⟩
  else
    match enumSession x calls file with
    | (file, false) => ⟨none, guest, file⟩
    | (file, true) =>
      if !calls.enumRasds then
        ⟨some (.error .notFound "Unable to retrieve domain name"), guest, file⟩
      else if !(calls.lookup && guest.present) then
        ⟨some (.error .notFound "Referenced domain does not exist"), guest, file⟩
      else
        -- infostore_delete; it is not asked whether the unlink succeeds
        let file := if calls.unlink then .empty else file
        let guest := virDomainDestroy calls guest
        if !(calls.lookupAgain && guest.present) then ⟨some .ok, guest, file⟩
        else if calls.undefine && guest.persistent then
          ⟨some .ok, { guest with persistent := false }, file⟩
        else ⟨some (.error .notFound "Unable to retrieve domain name"), guest, file⟩

/-- **A failure leaves the system intact.** When the request ends with an error and the domain
is still there, what is recorded for it is what was before. -/
def IntactOnFailure (uuid : Uuid) (calls : DestroyCalls) (guest : Presence) (file : File) : Prop :=
  (∃ rc msg, (destroySystem x calls guest file).status = some (.error rc msg)) →
    (destroySystem x calls guest file).guest.present = true →
      recorded x uuid (destroySystem x calls guest file).file = recorded x uuid file

/-- The request ends before it gets to the domain: there is no connection, or the arguments do not
name a system. Nothing was opened or changed then. -/
def DestroyCalls.Refused (calls : DestroyCalls) : Prop :=
  calls.connect = false ∨ calls.affectedSystem = false ∨ calls.nameKey = false

/-- The request gets to the domain: what is recorded is deleted. The enumeration of the RASDs
comes first, and its failure ends the request as one to look the domain up does. -/
def DestroyCalls.Found (calls : DestroyCalls) (guest : Presence) : Prop :=
  calls.enumRasds = true ∧ calls.lookup = true ∧ guest.present = true

/-- The domain is gone once it was destroyed, as far as can be seen, or it is undefined. A second
look-up decides, so one that fails counts as a domain that is gone, and only a persistent one has
to be undefined. -/
def DestroyCalls.Removed (calls : DestroyCalls) (guest : Presence) : Prop :=
  calls.lookupAgain = false ∨ (virDomainDestroy calls guest).present = false ∨
    calls.undefine = true ∧ guest.persistent = true

variable {x}

/-- The session of the enumeration leaves the values of the domain as they are. It only reads, but
it writes back what it has opened: it must get back what it read, and a file of another domain
that it takes over must have no values. -/
def EnumKeeps (x : Libxml) (uuid : Uuid) (calls : DestroyCalls) (file : File) : Prop :=
  ∀ opened save, calls.session = some (opened, save) →
    (Blank x uuid file ∨ SessionKeeps opened save) ∧
      (TakesOver uuid file opened save → ¬ HasValues file)

section

variable {uuid : Uuid} {calls : DestroyCalls} {guest : Presence} {file : File}

/-- The uuid that is read in the session is that of the domain. -/
def DestroyCalls.OfDomain (calls : DestroyCalls) (uuid : Uuid) : Prop :=
  ∀ opened save u, calls.session = some (opened, save) → opened.uuid = some u → u = uuid

theorem recorded_enumSession_iff (hx : x.Documented) (hfile : FileRecord file)
    (huuid : calls.OfDomain uuid) :
    recorded x uuid (enumSession x calls file).1 = recorded x uuid file ↔
      EnumKeeps x uuid calls file := by
  unfold enumSession EnumKeeps
  cases hsession : calls.session with
  | none => simp
  | some session =>
    obtain ⟨opened, save⟩ := session
    dsimp only
    rw [recorded_readSession_iff hx hfile fun u => huuid opened save u hsession]
    constructor
    · rintro hkeeps opened' save' heq
      obtain ⟨rfl, rfl⟩ := Prod.mk.inj (Option.some.inj heq)
      exact hkeeps
    · intro h
      exact h opened save rfl

/-- A process that crashes had nothing recorded for the domain, and leaves it so. -/
theorem blank_of_enumSession_crashed (hx : x.Documented) (hfile : FileRecord file)
    (huuid : calls.OfDomain uuid) (hcrash : (enumSession x calls file).2 = false) :
    Blank x uuid file ∧ EnumKeeps x uuid calls file := by
  have hkeeps := recorded_enumSession_iff hx hfile huuid
  unfold enumSession at hcrash hkeeps
  cases hsession : calls.session with
  | none =>
    rw [hsession] at hcrash
    cases hcrash
  | some session =>
    obtain ⟨opened, save⟩ := session
    rw [hsession] at hcrash hkeeps
    obtain ⟨hbefore, hafter⟩ :=
      Infostore.blank_of_crashed hx hfile (fun u => huuid opened save u hsession) hcrash
    exact ⟨hbefore, hkeeps.mp (hafter.trans hbefore.symm)⟩

@[simp] theorem persistent_virDomainDestroy (calls : DestroyCalls) (guest : Presence) :
    (virDomainDestroy calls guest).persistent = guest.persistent := by
  unfold virDomainDestroy
  split <;> rfl

/-- Every request ends in one of these ways. -/
theorem destroySystem_cases (x : Libxml) (calls : DestroyCalls) (guest : Presence) (file : File) :
    (calls.Refused ∧ (destroySystem x calls guest file).file = file) ∨
    (¬ calls.Refused ∧ (enumSession x calls file).2 = false ∧
      (destroySystem x calls guest file).status = none) ∨
    (¬ calls.Refused ∧ (enumSession x calls file).2 = true ∧
      ((¬ calls.Found guest ∧
        (∃ rc msg, (destroySystem x calls guest file).status = some (.error rc msg)) ∧
        (destroySystem x calls guest file).guest = guest ∧
        (destroySystem x calls guest file).file = (enumSession x calls file).1) ∨
      (calls.Found guest ∧ calls.Removed guest ∧
        (destroySystem x calls guest file).status = some .ok) ∨
      (calls.Found guest ∧ ¬ calls.Removed guest ∧
        (∃ rc msg, (destroySystem x calls guest file).status = some (.error rc msg)) ∧
        (destroySystem x calls guest file).guest = virDomainDestroy calls guest ∧
        (destroySystem x calls guest file).file =
          if calls.unlink then .empty else (enumSession x calls file).1))) := by
  by_cases hrefused : calls.Refused
  -- refused before the reference is looked at
  · refine .inl ⟨hrefused, ?_⟩
    unfold destroySystem
    obtain h | h | h := hrefused
    · simp [h]
    · cases calls.connect <;> simp [h]
    · cases calls.connect <;> simp [h]
  · have hconnect : calls.connect = true ∧ calls.affectedSystem = true ∧ calls.nameKey = true := by
      simpa [DestroyCalls.Refused] using hrefused
    obtain ⟨hconnect, haffected, hname⟩ := hconnect
    unfold destroySystem
    simp only [hconnect, haffected, hname, Bool.not_true, Bool.or_self, Bool.false_eq_true,
      if_false]
    -- the enumeration of the resources may crash, and it touches the file
    obtain ⟨file', alive⟩ := enumSession x calls file
    cases alive with
    | false => exact .inr (.inl ⟨hrefused, rfl, rfl⟩)
    | true =>
      refine .inr (.inr ⟨hrefused, rfl, ?_⟩)
      dsimp only
      -- the reference names a domain, and its enumeration succeeds
      by_cases hfound : calls.Found guest
      · obtain ⟨henum, hlookup, hpresent⟩ := hfound
        simp only [henum, hlookup, hpresent, Bool.and_self, Bool.not_true, Bool.false_eq_true,
          if_false]
        by_cases hremoved : calls.Removed guest
        · refine .inr (.inl ⟨⟨henum, hlookup, hpresent⟩, hremoved, ?_⟩)
          -- it is gone, or it was undefined: the status is OK
          split
          · rfl
          · next hgone =>
            split
            · rfl
            · next hundefined =>
              -- it is there, and it was not undefined
              exfalso
              have hthere : calls.lookupAgain = true ∧
                  (virDomainDestroy calls guest).present = true := by simpa using hgone
              obtain hlost | hlost | hundef := hremoved
              · rw [hlost] at hthere
                cases hthere.1
              · rw [hlost] at hthere
                cases hthere.2
              · apply hundefined
                rw [persistent_virDomainDestroy, hundef.1, hundef.2]
                rfl
        · refine .inr (.inr ⟨⟨henum, hlookup, hpresent⟩, hremoved, ?_⟩)
          have hnot : calls.lookupAgain = true ∧ (virDomainDestroy calls guest).present = true ∧
              (calls.undefine = true → guest.persistent = false) := by
            simpa [DestroyCalls.Removed] using hremoved
          obtain ⟨hagain, hthere, hundefined⟩ := hnot
          -- neither worked
          have hkept : (calls.undefine && (virDomainDestroy calls guest).persistent) = false := by
            rw [persistent_virDomainDestroy]
            cases hcall : calls.undefine with
            | false => rfl
            | true => exact hundefined hcall
          simp only [hagain, hthere, hkept, Bool.and_self, Bool.not_true, Bool.false_eq_true,
            if_false]
          exact ⟨⟨_, _, rfl⟩, trivial, trivial⟩
      -- what was not found: the enumeration failed, or the domain is not there
      · refine .inl ⟨hfound, ?_⟩
        cases henum : calls.enumRasds with
        | false => simp
        | true =>
          have hlookup : (calls.lookup && guest.present) = false := by
            cases hl : calls.lookup with
            | false => rfl
            | true =>
              cases hp : guest.present with
              | false => rfl
              | true => exact absurd ⟨henum, hl, hp⟩ hfound
          simp [hlookup]

/-- **Destroying a system.** A failure leaves what is recorded for a domain that is still there
intact if and only if the request ends before it gets to the domain, and the enumeration of
its RASDs keeps the values; or the domain is removed; or nothing was recorded (or the file
could not be deleted). -/
theorem destroySystem_intact_iff (hx : x.Documented) (hfile : FileRecord file)
    (huuid : calls.OfDomain uuid) :
    IntactOnFailure x uuid calls guest file ↔
      guest.present = false ∨ calls.Refused ∨
        (calls.Found guest → calls.Removed guest ∨
          (calls.unlink = true → Blank x uuid file) ∧
            (calls.unlink = false → EnumKeeps x uuid calls file)) ∧
        (¬ calls.Found guest → EnumKeeps x uuid calls file) := by
  -- what the enumeration leaves of the record
  have hkeeps := recorded_enumSession_iff hx hfile huuid
  unfold IntactOnFailure
  obtain ⟨hrefused, hsame⟩ | ⟨-, hcrash, hstatus⟩ | ⟨hgoes, -, hrest⟩ :=
    destroySystem_cases x calls guest file
  -- a refused request changes nothing
  · rw [hsame]
    simp [hrefused]
  · -- no answer is given, and nothing was recorded
    obtain ⟨hblank, henum⟩ := blank_of_enumSession_crashed hx hfile huuid hcrash
    rw [hstatus]
    simp [hblank, henum]
  · obtain ⟨hnot, herror, hguest, hafter⟩ | ⟨hfound, hremoved, hstatus⟩ |
      ⟨hfound, hremoved, herror, hguest, hafter⟩ := hrest
    · -- the request ends with what the enumeration left
      rw [hguest, hafter, hkeeps]
      cases hpresent : guest.present with
      | false => simp
      | true => simp [herror, hnot, hgoes]
    -- it is removed, so the status is OK and nothing is asked
    · rw [hstatus]
      simp [hfound, hremoved]
    · -- what is recorded is deleted, and the domain is still there
      have hthere : (virDomainDestroy calls guest).present = true := by
        by_contra hgone
        exact hremoved (.inr (.inl (by simpa using hgone)))
      rw [hguest, hafter]
      simp only [herror, hthere, forall_const, hfound, hremoved, hgoes, hfound.2.2,
        Bool.true_eq_false, false_or, not_true_eq_false, false_implies, and_true]
      -- the file goes before the domain is looked up again
      cases calls.unlink with
      | true =>
        simp only [if_true, forall_const, Bool.true_eq_false, false_implies, and_true]
        exact blank_empty.kept_iff
      | false =>
        simp only [Bool.false_eq_true, if_false, false_implies, true_and, forall_const]
        exact hkeeps

end

/-! ### Two requests -/

theorem plainText_guestUuid : PlainText "4dea22b3-1d52-d8f3-2516-782e98ab3fa0" := by decide

/-- The uuid of a guest. -/
def guestUuid : Uuid := ⟨_, plainText_guestUuid⟩

/-- The file of the guest, with its weight. -/
def guestRoot : Node :=
  .elem "dominfo" []
    [.elem "uuid" [] (textNodes "4dea22b3-1d52-d8f3-2516-782e98ab3fa0"),
      .elem "weight" [] (textNodes "256")]

theorem isRecord_guestRoot : IsRecord guestRoot := by
  refine ⟨_, rfl, ?_⟩
  intro c hc
  rw [List.mem_cons, List.mem_singleton] at hc
  obtain rfl | rfl := hc
  · exact ⟨uuidKey, guestUuid.text, guestUuid.plain, rfl⟩
  · exact ⟨weightKey, "256", by decide, rfl⟩

/-- A request where every call succeeds but, where it is asked for, the undefine. -/
def guestRequest (undefine : Bool) : DestroyCalls where
  connect := true
  affectedSystem := true
  nameKey := true
  session := some (guestCalls, .ok)
  enumRasds := true
  lookup := true
  unlink := true
  destroy := true
  lookupAgain := true
  undefine := undefine

theorem intactOnFailure_undefined :
    IntactOnFailure entityXml guestUuid (guestRequest true) ⟨true, true⟩ (.saved guestRoot) := by
  have hfile : FileRecord (.saved guestRoot) := by
    intro root heq
    obtain rfl := File.saved.inj heq
    exact isRecord_guestRoot
  have huuid : (guestRequest true).OfDomain guestUuid := by
    intro opened save u hsession hopened
    obtain ⟨rfl, -⟩ := Prod.mk.inj (Option.some.inj hsession)
    exact (Option.some.inj hopened).symm
  refine (destroySystem_intact_iff entityXml_documented hfile huuid).mpr (.inr (.inr ⟨?_, ?_⟩))
  · intro _
    exact .inl (.inr (.inr ⟨rfl, rfl⟩))
  · intro hnot
    exact absurd ⟨rfl, rfl, rfl⟩ hnot

/-- A guest that cannot be undefined loses its weight. -/
theorem not_intactOnFailure :
    ¬ IntactOnFailure entityXml guestUuid (guestRequest false) ⟨true, true⟩
      (.saved guestRoot) := by
  intro h
  have hsame := h ⟨_, _, rfl⟩ rfl
  have hweight : recorded entityXml guestUuid (.saved guestRoot) weightKey = some "256" := by
    decide
  rw [← hsame] at hweight
  have hgone : recorded entityXml guestUuid .empty weightKey = none := by
    rw [blank_empty]
  exact absurd (hgone.symm.trans hweight) (by simp)

end LibvirtCim.Service
