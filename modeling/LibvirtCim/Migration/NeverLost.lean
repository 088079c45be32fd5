import LibvirtCim.Migration.MigrateVs

/-!
# When a migration keeps the guest

`NeverLoses` fails in three ways, each an outcome of the libvirt calls. The
destination refuses the definition after the source has dropped its own
(`not_neverLoses`); the source cannot be undefined, which the job logs and
reports as success; and a refused connection ends the job OK before it has done
anything. `neverLoses_iff` shows that these are all: `Keeps` says of the answers
that none of the three happens.

The steps before `complete_migrate` never touch a definition
(`migrateByType_defined`), so a run either ends with the definitions it started
from or is `completeMigrate` on them (`migrateVs_cases`).
-/

namespace LibvirtCim.Migration

variable (job : MigrationJob) (calls : Calls) (hosts : Hosts)

/-! ### The definitions a step leaves -/

@[simp] theorem undefine_source : (hosts.undefine .source).defined = false := by
  simp [Hosts.undefine]

@[simp] theorem undefine_destination : hosts.undefine .destination = hosts .destination := by
  simp [Hosts.undefine, Function.update_of_ne]

@[simp] theorem define_self (h : Host) : (hosts.define h h).defined = true := by
  simp [Hosts.define]

theorem define_of_ne {h h' : Host} (hne : h' ≠ h) : hosts.define h h' = hosts h' := by
  simp [Hosts.define, hne]

@[simp] theorem setActive_defined (h h' : Host) (active : Bool) :
    (hosts.setActive h active h').defined = (hosts h').defined := by
  by_cases hh : h' = h
  · subst hh
    simp [Hosts.setActive]
  · simp [Hosts.setActive, hh]

/-- The migration type's own step leaves both definitions alone. -/
theorem migrateByType_defined (h : Host) :
    ((migrateByType job calls hosts).1 h).defined = (hosts h).defined := by
  -- the migration moves the running guest, the definitions stay
  have hmigrate : ((handleMigrate job calls hosts).1 h).defined = (hosts h).defined := by
    unfold handleMigrate
    split
    · rfl
    · split
      · rfl
      · split <;> simp
  -- by type: offline, live, resume and restart, and a type that is unknown
  unfold migrateByType
  split
  · rfl
  · exact hmigrate
  · exact hmigrate
  · unfold handleRestartMigrate
    split
    · rfl
    · split <;> simp
  · rfl

/-! ### The answers that let a job go on -/

/-- The guest is seen offline at one of the polls. -/
def Stops : Prop :=
  ∃ i < migrateShutdownTimeout, calls.online i = false

/-- The source drops its definition within the turns of the loop: up to some turn
the guest is found every time, and at that turn the undefine succeeds. -/
def Undefines : Prop :=
  ∃ i < migrateShutdownTimeout, (∀ j ≤ i, (calls.attempt j).lookup = true) ∧
    (calls.attempt i).undefine = true

/-- The migration type's own step succeeds. -/
def Moves : Prop :=
  match job.type with
  | cimMigrateOther => calls.getInfo = some .shutoff
  | cimMigrateLive | cimMigrateResume =>
    (∃ state, calls.getInfo = some state ∧ state ≠ .shutoff) ∧ calls.migrate = true
  | cimMigrateRestart => calls.shutdown = true ∧ Stops calls
  | _ => False

/-- The job gets as far as `complete_migrate`. -/
def Reaches : Prop :=
  calls.connect = .connected ∧ (hosts .source).known = true ∧ calls.lookup = true ∧
  remoteExists job calls hosts = false ∧ calls.xmlDesc.isSome = true ∧ Moves job calls

variable {job calls hosts}

theorem pollOffline_iff (online : ℕ → Bool) (i fuel : ℕ) :
    pollOffline online i fuel = true ↔ ∃ j < fuel, online (i + j) = false := by
  induction fuel generalizing i with
  | zero => simp [pollOffline]
  | succ fuel ih =>
    rw [pollOffline]
    -- the first poll decides, or the rest of them does
    cases hi : online i with
    | false => simpa using ⟨0, by omega, hi⟩
    | true =>
      simp only [Bool.not_true, Bool.false_eq_true, if_false, ih]
      constructor
      · rintro ⟨j, hj, hoff⟩
        exact ⟨j + 1, by omega, by rwa [Nat.add_right_comm] at hoff⟩
      · rintro ⟨j, hj, hoff⟩
        cases j with
        | zero => simp [hi] at hoff
        | succ j => exact ⟨j, by omega, by rwa [Nat.add_right_comm]⟩

theorem undefineLoop_iff (attempt : ℕ → Attempt) (i fuel : ℕ) :
    undefineLoop attempt i fuel = true ↔
      ∃ j < fuel, (∀ k ≤ j, (attempt (i + k)).lookup = true) ∧
        (attempt (i + j)).undefine = true := by
  induction fuel generalizing i with
  | zero => simp [undefineLoop]
  | succ fuel ih =>
    rw [undefineLoop]
    -- the guest is looked up each time, and undefined if it is found
    cases hl : (attempt i).lookup with
    | false =>
      simp only [Bool.not_false, if_true, Bool.false_eq_true, false_iff]
      rintro ⟨j, -, hk, -⟩
      simpa [hl] using hk 0 (Nat.zero_le j)
    | true =>
      cases hu : (attempt i).undefine with
      | true =>
        simp only [Bool.not_true, Bool.false_eq_true, if_false, if_true, true_iff]
        exact ⟨0, by omega, fun k hk => by simpa [Nat.le_zero.mp hk] using hl, hu⟩
      -- a failed try is followed by the next
      | false =>
        simp only [Bool.not_true, Bool.false_eq_true, if_false, ih]
        constructor
        · rintro ⟨j, hj, hk, hundef⟩
          refine ⟨j + 1, by omega, fun k hkj => ?_, by rwa [Nat.add_right_comm] at hundef⟩
          cases k with
          | zero => exact hl
          | succ k =>
            have := hk k (by omega)
            rwa [Nat.add_right_comm] at this
        · rintro ⟨j, hj, hk, hundef⟩
          cases j with
          | zero => simp [hu] at hundef
          | succ j =>
            refine ⟨j, by omega, fun k hkj => ?_, by rwa [Nat.add_right_comm]⟩
            have := hk (k + 1) (by omega)
            rwa [Nat.add_right_comm]

theorem undefineLoop_eq_true_iff :
    undefineLoop calls.attempt 0 migrateShutdownTimeout = true ↔ Undefines calls := by
  simp [undefineLoop_iff, Undefines]

theorem handleMigrate_ok_iff :
    (handleMigrate job calls hosts).2 = .ok ↔
      (∃ state, calls.getInfo = some state ∧ state ≠ .shutoff) ∧ calls.migrate = true := by
  unfold handleMigrate
  cases hinfo : calls.getInfo with
  | none => simp
  | some state =>
    by_cases hs : state = .shutoff <;> cases hm : calls.migrate <;> simp [hs]

theorem handleRestartMigrate_ok_iff :
    (handleRestartMigrate calls hosts).2 = .ok ↔ calls.shutdown = true ∧ Stops calls := by
  have hpoll : pollOffline calls.online 0 migrateShutdownTimeout = true ↔ Stops calls := by
    simp [pollOffline_iff, Stops]
  unfold handleRestartMigrate
  rw [← hpoll]
  cases calls.shutdown <;> cases pollOffline calls.online 0 migrateShutdownTimeout <;> simp

theorem migrateByType_ok_iff :
    (migrateByType job calls hosts).2 = .ok ↔ Moves job calls := by
  obtain ⟨domain, type, host, conn⟩ := job
  obtain _ | _ | _ | _ | _ | type := type
  · simp [migrateByType, Moves]
  · change ensureDomOffline calls = .ok ↔ calls.getInfo = some .shutoff
    unfold ensureDomOffline
    cases calls.getInfo with
    | none => simp
    | some state => by_cases hs : state = .shutoff <;> simp [hs]
  · exact handleMigrate_ok_iff
  · exact handleMigrate_ok_iff
  · exact handleRestartMigrate_ok_iff
  · simp [migrateByType, Moves]

/-! ### What a run amounts to -/

/-- **A run of the job.** It ends OK at once when the connection is refused; it
fails with both definitions as they were; or it is `completeMigrate` from hosts
with the same definitions. -/
theorem migrateVs_cases (job : MigrationJob) (calls : Calls) (hosts : Hosts) :
    (calls.connect = .refused ∧ migrateVs job calls hosts = (hosts, .ok)) ∨
    (calls.connect ≠ .refused ∧ ¬ Reaches job calls hosts ∧
      (∀ h, ((migrateVs job calls hosts).1 h).defined = (hosts h).defined) ∧
      (migrateVs job calls hosts).2 ≠ .ok) ∨
    (Reaches job calls hosts ∧ ∃ moved : Hosts,
      (∀ h, (moved h).defined = (hosts h).defined) ∧
      migrateVs job calls hosts =
        completeMigrate job calls (job.type = cimMigrateRestart) moved) := by
  -- the checks of migrate_vs in their order, each an end of its own
  cases hc : calls.connect with
  | refused => exact .inl ⟨rfl, by simp [migrateVs, hc]⟩
  | unknownClass =>
    exact .inr (.inl ⟨by simp, by simp [Reaches, hc], by simp [migrateVs, hc],
      by simp [migrateVs, hc]⟩)
  | connected =>
    right
    -- the guest is looked up on the source
    cases hl : (hosts .source).known && calls.lookup with
    | false =>
      refine .inl ⟨by simp, ?_, by simp [migrateVs, hc, hl], by simp [migrateVs, hc, hl]⟩
      rintro ⟨-, hknown, hlookup, -⟩
      simp [hknown, hlookup] at hl
    | true =>
      -- a guest of that name on the other host ends the job
      cases hr : remoteExists job calls hosts with
      | true =>
        exact .inl ⟨by simp, by simp [Reaches, hr], by simp [migrateVs, hc, hl, hr],
          by simp [migrateVs, hc, hl, hr]⟩
      | false =>
        -- the description is read, or the job ends
        cases hx : calls.xmlDesc with
        | none =>
          exact .inl ⟨by simp, by simp [Reaches, hx], by simp [migrateVs, hc, hl, hr, hx],
            by simp [migrateVs, hc, hl, hr, hx]⟩
        | some xml =>
          have hdef := migrateByType_defined job calls hosts
          have hmoves : (migrateByType job calls hosts).2 = .ok ↔ Moves job calls :=
            migrateByType_ok_iff
          have hrun : migrateVs job calls hosts =
              thenComplete job calls (migrateByType job calls hosts) := by
            simp [migrateVs, hc, hl, hr, hx]
          rw [hrun]
          -- the move has succeeded, or the job ends with its error
          generalize migrateByType job calls hosts = res at hdef hmoves
          obtain ⟨moved, s⟩ := res
          cases s with
          | ok =>
            obtain ⟨hknown, hlookup⟩ : (hosts .source).known = true ∧ calls.lookup = true := by
              simpa using hl
            exact .inr ⟨⟨hc, hknown, hlookup, hr, by simp [hx], hmoves.mp rfl⟩, moved, hdef, rfl⟩
          | error rc msg =>
            have hstuck : ¬ Moves job calls := fun h => nomatch hmoves.mpr h
            exact .inl ⟨by simp, fun h => hstuck h.2.2.2.2.2, hdef, by simp [thenComplete]⟩

/-- The definitions and the status `complete_migrate` leaves. -/
theorem completeMigrate_spec (job : MigrationJob) (calls : Calls) (restart : Bool)
    (hosts : Hosts) :
    (∀ h, ((completeMigrate job calls restart hosts).1 h).defined = true ↔
      (calls.define = true ∧ h = job.conn) ∨
      ((hosts h).defined = true ∧ ¬ (h = .source ∧ Undefines calls))) ∧
    ((completeMigrate job calls restart hosts).2 = .ok ↔
      calls.define = true ∧ (restart = true → calls.create = true)) := by
  -- undefine first, then define, then create: each may fail
  rw [← undefineLoop_eq_true_iff]
  unfold completeMigrate
  generalize undefineLoop calls.attempt 0 migrateShutdownTimeout = undefined
  have hafter : ∀ h, ((if undefined then hosts.undefine else hosts) h).defined = true ↔
      (hosts h).defined = true ∧ ¬ (h = .source ∧ undefined = true) := by
    intro h
    cases undefined <;> cases h <;> simp
  generalize (if undefined then hosts.undefine else hosts) = after at hafter
  -- the guest is defined at the other end of the connection
  have hdefine : ∀ h, ((after.define job.conn) h).defined = true ↔
      h = job.conn ∨ (after h).defined = true := by
    intro h
    by_cases hh : h = job.conn
    · subst hh
      simp
    · simp [define_of_ne after hh, hh]
  -- the three answers of libvirt decide what is left
  cases calls.define <;> cases restart <;> cases calls.create <;> simp [hafter, hdefine]

/-! ### The exact condition -/

/-- The host the job migrates to is another one and has a definition already. -/
def DefinedElsewhere (job : MigrationJob) (hosts : Hosts) : Prop :=
  job.conn ≠ .source ∧ (hosts job.conn).defined = true

/-- None of the failures happens: a job to another host is not refused its
connection to the source, and a job that reaches `complete_migrate` does not drop
the only definition, and does not report success with the source still defined. -/
def Keeps (job : MigrationJob) (calls : Calls) (hosts : Hosts) : Prop :=
  (calls.connect = .refused → job.conn = .source) ∧
  (Reaches job calls hosts →
    (Undefines calls → calls.define = true ∨ DefinedElsewhere job hosts) ∧
    (calls.define = true → (job.type = cimMigrateRestart → calls.create = true) →
      job.conn ≠ .source → Undefines calls))

/-- **When a migration keeps the guest.** A job on a guest that the source defines
neither loses it nor misreports where it is, exactly when `Keeps` holds. Nothing is
assumed of the answers: the three ways a run can go are those of `migrateVs_cases`, and
only the last of them changes a definition. -/
theorem neverLoses_iff (job : MigrationJob) (calls : Calls) (hosts : Hosts)
    (hsource : (hosts .source).defined = true) :
    NeverLoses job calls hosts ↔ Keeps job calls hosts := by
  unfold NeverLoses Keeps DefinedElsewhere
  obtain ⟨hc, heq⟩ | ⟨hc, hreach, hsame, hs⟩ | ⟨hreach, moved, hmoved, heq⟩ :=
    migrateVs_cases job calls hosts
  · -- an OK job that left the source as it was
    have hnot : ¬ Reaches job calls hosts := fun h => by simp [Reaches, hc] at h
    rw [heq]
    cases hconn : job.conn <;> simp [hc, hnot, hsource]
  · -- a job that fails before `complete_migrate` has changed no definition
    simp [hc, hreach, hsame, hsource, hs]
  · -- a job that is completed: what is defined is read off `completeMigrate_spec`, host by host
    obtain ⟨hdef, hok⟩ := completeMigrate_spec job calls (job.type = cimMigrateRestart) moved
    have hc : calls.connect ≠ .refused := by simp [hreach.1]
    simp only [heq, hdef, hok, hmoved, hsource, hc, hreach, decide_eq_true_eq]
    cases hconn : job.conn <;> by_cases hu : Undefines calls <;>
      simp +contextual [hu, hsource]

/-- The guest that is lost: an offline migration whose source forgets the guest
before the destination refuses it. -/
def lostCalls : Calls where
  connect := .connected
  lookup := true
  remoteLookup := true
  xmlDesc := some "<domain/>"
  getInfo := some .shutoff
  migrate := true
  shutdown := true
  online _ := true
  attempt _ := ⟨true, true⟩
  define := false
  create := true

/-- A guest that only the source knows, defined and shut off. -/
def sourceOnly : Hosts
  | .source => ⟨true, false⟩
  | .destination => ⟨false, false⟩

theorem not_neverLoses :
    ¬ ∀ job calls (hosts : Hosts), (hosts .source).defined = true →
      NeverLoses job calls hosts := by
  intro h
  have hlost := h ⟨"guest", cimMigrateOther, "example", .destination⟩ lostCalls sourceOnly rfl
  exact absurd hlost (by decide)

/-- A job on which `neverLoses_iff` speaks: the destination takes the definition. -/
theorem neverLoses_define :
    NeverLoses ⟨"guest", cimMigrateOther, "example", .destination⟩
      { lostCalls with define := true } sourceOnly := by
  refine (neverLoses_iff _ _ sourceOnly rfl).mpr ⟨by simp [lostCalls], fun _ => ⟨?_, ?_⟩⟩
  · exact fun _ => .inl rfl
  · exact fun _ _ _ => ⟨0, by decide, fun _ _ => rfl, rfl⟩

end LibvirtCim.Migration
