import LibvirtCim.Infostore.Flag
import LibvirtCim.Migration.MigrateVs

/-!
# The migrating flag

What `MigrateVirtualSystemToHost` and `MigrateVirtualSystemToSystem` of
`Virt_VSMigrationService.c` do to the store file of the domain on the host they run on. The
method sets the flag and starts the job (`migrate_do`); the job clears it where it ends
(`migrate_vs`). In between other sessions of the domain read the file.

Both open the file through a domain. The method looks it up over `job->conn`, the connection to
the destination, the job over a connection of its own to the source. `flagKept_iff` says when the
flag is there as long as the job runs, and not behind it. To a destination that does not have the
domain, as the job demands of every other host, it never is (`not_flagKept_of_unknown`).
-/

open LibvirtCim.Infostore

namespace LibvirtCim.Migration

/-! ### Requests -/

/-- An error with its message. -/
abbrev Refusal := CmpiErr × String

/-- `CIM_SVPC_RETURN_JOB_STARTED`. -/
def jobStarted : UInt32 := 4096

/-- `"migrating"`. -/
def migratingKey : Key := ⟨"migrating", by decide⟩

/-- The two methods, with the name of the destination. -/
inductive MigrationMethod
  | toHost (dhost : String)
  /-- the key `Name` of `DestinationSystem` -/
  | toSystem (dname : Option String)

/-- A request: of `ComputerSystem` the key `Name`, and whether its class has the prefix of the
service. -/
structure MigrationRequest where
  method : MigrationMethod
  name : Option String
  refsMatch : Bool

/-- `migrate_vs_host` and `migrate_vs_system` up to `migrate_do`: the domain and the host. -/
def MigrationRequest.target (request : MigrationRequest) : Except Refusal (String × String) := do
  let host ← match request.method with
    | .toHost dhost => .ok dhost
    | .toSystem (some dname) => .ok dname
    | .toSystem none => .error (.failed, "Missing key (Name) in DestinationSystem")
  let some name := request.name
    | .error (.failed, "Missing key (Name) in ComputerSystem")
  if request.refsMatch then .ok (name, host)
  else .error (.failed, "Invalid REF in ComputerSystem")

/-- A session on the file of a domain, and how it is saved: the uuid that is read is the
domain's. -/
structure DomainSession (uuid : Uuid) where
  calls : OpenCalls
  save : SaveResult
  ofDomain : ∀ u, calls.uuid = some u → u = uuid

/-- How the steps of a request and of its job end. The uuids are those of the domains that have
the name on the two hosts. -/
structure MigrationSteps (uuid : Host → Uuid) where
  /-- `migrate_job_prepare` -/
  prepare : Bool
  /-- `get_msd_values`: the type of the migration -/
  msdValues : Except Refusal ℕ
  /-- where the connection leads that it opens, `job->conn` -/
  conn : Host
  /-- `migrate_create_job_instance` -/
  createJobInstance : CmpiStatus
  /-- `CBGetInstance` -/
  getInstance : Bool × CmpiStatus
  /-- `virDomainLookupByName` on `job->conn`, for a known guest -/
  setLookup : Bool
  /-- the session of `set_infstore_migration_flag` -/
  set : DomainSession (uuid conn)
  /-- `prepare_indication` -/
  indication : CmpiStatus
  /-- `newThread`: whether there is a thread -/
  newThread : Bool
  /-- the sessions of other providers while the job runs, on the domain of the source -/
  others : List (DomainSession (uuid .source))
  /-- the calls of the job -/
  calls : Calls
  /-- the session of `clear_infstore_migration_flag` -/
  clear : DomainSession (uuid .source)

variable (x : Libxml) {uuid : Host → Uuid} (steps : MigrationSteps uuid) (hosts : Hosts)

/-- The domain is found over `job->conn`. -/
def MigrationSteps.SetFound : Prop :=
  (hosts steps.conn).known ∧ steps.setLookup

instance : Decidable (steps.SetFound hosts) :=
  inferInstanceAs (Decidable (_ ∧ _))

/-- `set_infstore_migration_flag`: the file, and whether the process is still there. -/
def setInfstoreMigrationFlag (file : File) : File × Bool :=
  if steps.SetFound hosts then
    flagSession x migratingKey true file steps.set.calls steps.set.save
  else (file, true)

/-- What a request leaves: its status, if the process is still there to give one, its return
value, the job whose thread is started, and the file. -/
structure Requested where
  status : Option CmpiStatus
  retcode : UInt32
  job : Option MigrationJob
  file : File

/-- `migrate_do`. A flag that could not be set and a thread that is not there are not noticed. -/
def migrateDo (domain host : String) (file : File) : Requested :=
  if !steps.prepare then ⟨some (.failed "Unable to prepare migration job"), 1, none, file⟩
  else
    match steps.msdValues with
    | .error (rc, msg) => ⟨some (.error rc msg), 1, none, file⟩
    | .ok type =>
      match steps.createJobInstance with
      | .error rc msg => ⟨some (.error rc msg), 1, none, file⟩
      | .ok =>
        match steps.getInstance with
        | (true, .ok) =>
          match setInfstoreMigrationFlag x steps hosts file with
          | (file, false) => ⟨none, 1, none, file⟩
          | (file, true) =>
            ⟨some steps.indication, jobStarted,
              if steps.newThread then some ⟨domain, type, host, steps.conn⟩ else none, file⟩
        | (_, s) => ⟨some s, 1, none, file⟩

/-- A request. -/
def MigrationRequest.run (file : File) (request : MigrationRequest) : Requested :=
  match request.target with
  | .error (rc, msg) => ⟨some (.error rc msg), 1, none, file⟩
  | .ok (domain, host) => migrateDo x steps hosts domain host file

/-! ### The job -/

/-- `migrate_vs` finds the domain of the source: there is a `dom` to clear the flag with. -/
def MigrationSteps.FindsDomain : Prop :=
  steps.calls.connect = .connected ∧ (hosts .source).known ∧ steps.calls.lookup

instance : Decidable (steps.FindsDomain hosts) :=
  inferInstanceAs (Decidable (_ ∧ _))

/-- `clear_infstore_migration_flag`. A null domain has no connection, and so no file. -/
def clearInfstoreMigrationFlag (file : File) : File :=
  if steps.FindsDomain hosts then
    (flagSession x migratingKey false file steps.clear.calls steps.clear.save).1
  else file

/-- `migrate_vs` with its file: every exit goes through the one call that clears the flag. -/
def migrateVsFile (job : MigrationJob) (file : File) : (Hosts × CmpiStatus) × File :=
  (migrateVs job steps.calls hosts, clearInfstoreMigrationFlag x steps hosts file)

/-- The file behind a session that reads it. -/
def readBy {u : Uuid} (file : File) (session : DomainSession u) : File :=
  (readSession x file session.calls session.save).1

/-- The file while the job runs: at its start, and behind each session of another provider. -/
def whileRunning {u : Uuid} (file : File) : List (DomainSession u) → List File
  | [] => [file]
  | session :: rest => file :: whileRunning (readBy x file session) rest

/-- The file where the request and its job have ended. -/
def MigrationRequest.endFile (file : File) (request : MigrationRequest) : File :=
  match (request.run x steps hosts file).job with
  | none => (request.run x steps hosts file).file
  | some job =>
    (migrateVsFile x steps hosts job
      (steps.others.foldl (readBy x) (request.run x steps hosts file).file)).2

/-- **The flag is kept**: the domain of the source has it from before the job starts until it
ends, and behind the job, and a request without one, no domain of that name does. -/
structure FlagKept (request : MigrationRequest) (file : File) : Prop where
  running : ∀ job, (request.run x steps hosts file).job = some job →
    ∀ f ∈ whileRunning x (request.run x steps hosts file).file steps.others,
      FlagSet x migratingKey (uuid .source) f
  ended : ¬ EntryFlag x migratingKey (request.endFile x steps hosts file)

/-! ### When the flag is kept -/

/-- The request gets to the flag: its arguments are there, and its job instance. -/
def MigrationSteps.ReachesFlag (request : MigrationRequest) : Prop :=
  (∃ target, request.target = .ok target) ∧ steps.prepare ∧
    (∃ type, steps.msdValues = .ok type) ∧ steps.createJobInstance = .ok ∧
      steps.getInstance = (true, .ok)

/-- The job starts: the process survives the session of the flag, and there is a thread. -/
def MigrationSteps.Starts (file : File) : Prop :=
  (steps.SetFound hosts → (infostoreOpen x file steps.set.calls).2 ≠ .crashed) ∧ steps.newThread

/-- The domain of the source has the flag once it was set: the session is one on the file of
that domain, and saved. Where there was no session, the flag was there before. -/
def MigrationSteps.SetsFlag (file : File) : Prop :=
  if steps.SetFound hosts then
    AfterOpen
      (fun root => steps.set.save = .ok ∧
        (infostoreGetStr root "uuid").all (· = (uuid .source).text) = true)
      (FlagSet x migratingKey (uuid .source)) (infostoreOpen x file steps.set.calls)
  else FlagSet x migratingKey (uuid .source) file

/-- No domain has the flag though it was to be set. -/
def MigrationSteps.SetsNothing (file : File) : Prop :=
  if steps.SetFound hosts then
    AfterOpen (fun _ => steps.set.save ≠ .ok) (fun left => ¬ EntryFlag x migratingKey left)
      (infostoreOpen x file steps.set.calls)
  else ¬ EntryFlag x migratingKey file

/-- The steps keep the flag. A request that is refused must have found none; one without a job
must set none, since nobody would take it away again; and a job needs that it is set, that whoever
opens the file while it runs puts it back, and that its end finds the domain and can clear it. -/
structure MigrationSteps.KeepFlag (request : MigrationRequest) (file : File) : Prop where
  refused : ¬ steps.ReachesFlag request → ¬ EntryFlag x migratingKey file
  notStarted : steps.ReachesFlag request → ¬ steps.Starts x hosts file →
    steps.SetsNothing x hosts file
  started : steps.ReachesFlag request → steps.Starts x hosts file →
    steps.SetsFlag x hosts file ∧
      (∀ session ∈ steps.others, SessionKeeps session.calls session.save) ∧
        steps.FindsDomain hosts ∧ steps.clear.calls.Clears

variable {x steps hosts} {request : MigrationRequest} {file : File}

theorem migratingKey_ne_uuidKey : migratingKey ≠ uuidKey := by decide

/-! ### The method -/

/-- A request that does not get to the flag leaves the file. -/
theorem run_of_not_reaches (h : ¬ steps.ReachesFlag request) :
    (request.run x steps hosts file).job = none ∧
      (request.run x steps hosts file).file = file := by
  unfold MigrationRequest.run
  split
  next => exact ⟨rfl, rfl⟩
  -- the five tests in front of the flag, each of which ends the request
  next domain host htarget =>
    unfold migrateDo
    split
    next => exact ⟨rfl, rfl⟩
    next hprepare =>
      split
      next => exact ⟨rfl, rfl⟩
      next type hmsd =>
        split
        next => exact ⟨rfl, rfl⟩
        next hcreate =>
          split
          next hinst =>
            have hreaches : steps.ReachesFlag request :=
              ⟨⟨_, htarget⟩, by simpa using hprepare, ⟨type, hmsd⟩, hcreate, hinst⟩
            exact absurd hreaches h
          next => exact ⟨rfl, rfl⟩

/-- A request that gets to the flag leaves the file as the session of the flag does, and starts
its job if the process survives and there is a thread. -/
theorem run_of_reaches (h : steps.ReachesFlag request) :
    (request.run x steps hosts file).file = (setInfstoreMigrationFlag x steps hosts file).1 ∧
      ((request.run x steps hosts file).job.isSome ↔
        (setInfstoreMigrationFlag x steps hosts file).2 = true ∧ steps.newThread) := by
  obtain ⟨⟨⟨domain, host⟩, htarget⟩, hprepare, ⟨type, hmsd⟩, hcreate, hinst⟩ := h
  unfold MigrationRequest.run migrateDo
  simp only [htarget, hprepare, hmsd, hcreate, hinst, Bool.not_true, Bool.false_eq_true, if_false]
  split
  next left hset => simp [hset]
  next left hset =>
    rw [hset]
    refine ⟨rfl, ?_⟩
    split_ifs with hthread <;> simp [hthread]

/-- The process survives the session of the flag unless `infostore_open` crashes. -/
theorem setInfstoreMigrationFlag_survives_iff :
    (setInfstoreMigrationFlag x steps hosts file).2 = true ↔
      (steps.SetFound hosts → (infostoreOpen x file steps.set.calls).2 ≠ .crashed) := by
  unfold setInfstoreMigrationFlag
  split_ifs with hfound
  · unfold flagSession
    split
    next hres => simp [hfound, hres]
    next hres => simp [hfound, hres]
    next hres => simp [hfound, hres]
  · simp [hfound]

/-- A job is started exactly if the request gets to the flag and from there to its thread. -/
theorem isSome_job_iff :
    (request.run x steps hosts file).job.isSome ↔
      steps.ReachesFlag request ∧ steps.Starts x hosts file := by
  by_cases hreaches : steps.ReachesFlag request
  · rw [(run_of_reaches hreaches).2, setInfstoreMigrationFlag_survives_iff]
    exact ⟨fun h => ⟨hreaches, h⟩, fun h => h.2⟩
  · rw [(run_of_not_reaches hreaches).1]
    exact iff_of_false (by simp) fun h => hreaches h.1

/-- The last file of a job is one of those while it runs. -/
theorem foldl_readBy_mem {u : Uuid} (others : List (DomainSession u)) :
    others.foldl (readBy x) file ∈ whileRunning x file others := by
  induction others generalizing file with
  | nil => exact List.mem_singleton.mpr rfl
  | cons session rest ih => exact List.mem_cons_of_mem _ ih

section Record

variable (hx : x.Documented) (hfile : FileRecord file)
include hx hfile

theorem fileRecord_set : FileRecord (setInfstoreMigrationFlag x steps hosts file).1 := by
  unfold setInfstoreMigrationFlag
  split_ifs
  · exact fileRecord_flagSession hx hfile true
  · exact hfile

theorem flagSet_set_iff :
    FlagSet x migratingKey (uuid .source) (setInfstoreMigrationFlag x steps hosts file).1 ↔
      steps.SetsFlag x hosts file := by
  unfold setInfstoreMigrationFlag MigrationSteps.SetsFlag
  split_ifs
  · rw [flagSet_flagSession_iff hx hfile migratingKey_ne_uuidKey]
    simp only [and_true]
  · rfl

theorem entryFlag_set_iff :
    EntryFlag x migratingKey (setInfstoreMigrationFlag x steps hosts file).1 ↔
      ¬ steps.SetsNothing x hosts file := by
  unfold setInfstoreMigrationFlag MigrationSteps.SetsNothing
  split_ifs
  · rw [entryFlag_flagSession_iff hx hfile]
    unfold AfterOpen
    split <;> simp
  · rw [not_not]

/-! ### The job -/

theorem fileRecord_readBy {u : Uuid} (session : DomainSession u) :
    FileRecord (readBy x file session) :=
  fileRecord_readSession hx hfile

/-- **What the others leave.** The flag is there at every moment of the job exactly if it is
there at its start and every session keeps what is recorded. -/
theorem flagSet_whileRunning_iff {u : Uuid} (others : List (DomainSession u)) :
    (∀ f ∈ whileRunning x file others, FlagSet x migratingKey u f) ↔
      FlagSet x migratingKey u file ∧
        ∀ session ∈ others, SessionKeeps session.calls session.save := by
  -- the flag that a session is to keep is the one the sessions before it have kept
  induction others generalizing file with
  | nil => simp [whileRunning]
  | cons session rest ih =>
    rw [whileRunning, List.forall_mem_cons, List.forall_mem_cons,
      ih (fileRecord_readBy hx hfile session)]
    refine and_congr_right fun hflag => and_congr_left fun _ => ?_
    exact flagSet_readSession_iff hx hfile migratingKey_ne_uuidKey session.ofDomain hflag

theorem fileRecord_foldl {u : Uuid} (others : List (DomainSession u)) :
    FileRecord (others.foldl (readBy x) file) := by
  induction others generalizing file with
  | nil => exact hfile
  | cons session rest ih => exact ih (fileRecord_readBy hx hfile session)

/-- The job clears a flag that its domain has exactly if it finds the domain, and its session
reaches the file. -/
theorem entryFlag_clearInfstoreMigrationFlag_iff
    (hflag : FlagSet x migratingKey (uuid .source) file) :
    EntryFlag x migratingKey (clearInfstoreMigrationFlag x steps hosts file) ↔
      ¬ (steps.FindsDomain hosts ∧ steps.clear.calls.Clears) := by
  unfold clearInfstoreMigrationFlag
  split_ifs with hfound
  · rw [entryFlag_clear_iff hx hfile steps.clear.ofDomain hflag]
    simp [hfound]
  · exact iff_of_true hflag.entryFlag fun h => hfound h.1

end Record

/-- **The migrating flag is kept exactly if the steps keep it.** A request is refused, or sets the
flag and has no job, or has a job that runs to its end. In the last case the flag stays while
others open the file if each of their sessions keeps what is recorded
(`flagSet_whileRunning_iff`), and the end of the job clears it if it finds the domain. -/
theorem flagKept_iff (hx : x.Documented) (hfile : FileRecord file) :
    FlagKept x steps hosts request file ↔ steps.KeepFlag x hosts request file := by
  -- the three ends of a request: refused, no job, and a job that runs to its end
  by_cases hreaches : steps.ReachesFlag request
  · have hleft : (request.run x steps hosts file).file =
        (setInfstoreMigrationFlag x steps hosts file).1 := (run_of_reaches hreaches).1
    have hrecord : FileRecord (request.run x steps hosts file).file := by
      rw [hleft]
      exact fileRecord_set hx hfile
    by_cases hstarts : steps.Starts x hosts file
    · -- the job runs: what the method has set is what it starts with
      obtain ⟨job, hjob⟩ := Option.isSome_iff_exists.mp (isSome_job_iff.mpr ⟨hreaches, hstarts⟩)
      have hend : request.endFile x steps hosts file =
          clearInfstoreMigrationFlag x steps hosts
            (steps.others.foldl (readBy x) (request.run x steps hosts file).file) := by
        rw [MigrationRequest.endFile, hjob]
        rfl
      -- while it runs others open the file and write it back
      have hrunning := flagSet_whileRunning_iff hx hrecord steps.others
      rw [hleft, flagSet_set_iff hx hfile] at hrunning
      -- the end clears the flag of the domain that it finds
      have hcleared
          (hall : ∀ f ∈ whileRunning x (request.run x steps hosts file).file steps.others,
            FlagSet x migratingKey (uuid .source) f) :
          ¬ EntryFlag x migratingKey (request.endFile x steps hosts file) ↔
            steps.FindsDomain hosts ∧ steps.clear.calls.Clears := by
        rw [hend, entryFlag_clearInfstoreMigrationFlag_iff hx (fileRecord_foldl hx hrecord _)
          (hall _ (foldl_readBy_mem _)), not_not]
      constructor
      · intro h
        have hall := h.running job hjob
        refine ⟨fun hnot => absurd hreaches hnot, fun _ hnot => absurd hstarts hnot, fun _ _ => ?_⟩
        have hset := hrunning.mp (hleft ▸ hall)
        exact ⟨hset.1, hset.2, (hcleared hall).mp h.ended⟩
      · intro h
        obtain ⟨hsets, hothers, hfinds⟩ := h.started hreaches hstarts
        have hall := hrunning.mpr ⟨hsets, hothers⟩
        rw [← hleft] at hall
        exact ⟨fun _ _ => hall, (hcleared hall).mpr hfinds⟩
    · -- there is no job, and the flag that was set stays
      have hjob : (request.run x steps hosts file).job = none := by
        rw [← Option.not_isSome_iff_eq_none, isSome_job_iff]
        exact fun h => hstarts h.2
      have hend : request.endFile x steps hosts file =
          (setInfstoreMigrationFlag x steps hosts file).1 := by
        rw [MigrationRequest.endFile, hjob, hleft]
      -- the flag has to be gone, so nothing may have been set
      have hnothing : ¬ EntryFlag x migratingKey (setInfstoreMigrationFlag x steps hosts file).1 ↔
          steps.SetsNothing x hosts file := (entryFlag_set_iff hx hfile).not_left
      constructor
      · intro h
        refine ⟨fun hnot => absurd hreaches hnot, fun _ _ => ?_, fun _ h => absurd h hstarts⟩
        have hended := h.ended
        rw [hend] at hended
        exact hnothing.mp hended
      · intro h
        refine ⟨fun job hsome => ?_, ?_⟩
        · rw [hjob] at hsome
          cases hsome
        · rw [hend]
          exact hnothing.mpr (h.notStarted hreaches hstarts)
  · -- the request is refused, and the file is what it was
    obtain ⟨hjob, hleft⟩ : (request.run x steps hosts file).job = none ∧
        (request.run x steps hosts file).file = file := run_of_not_reaches hreaches
    have hend : request.endFile x steps hosts file = file := by
      unfold MigrationRequest.endFile
      rw [hjob, hleft]
    constructor
    · intro h
      refine ⟨fun _ => ?_, fun h => absurd h hreaches, fun h => absurd h hreaches⟩
      rw [← hend]
      exact h.ended
    · intro h
      refine ⟨fun job hsome => ?_, ?_⟩
      · rw [hjob] at hsome
        cases hsome
      · rw [hend]
        exact h.refused hreaches

/-! ### To another host -/

/-- A session that reads a uuid sets the flag for the domain of the source exactly if that has
this uuid, once it is saved. -/
theorem setsFlag_iff_of_uuid (hx : x.Documented) (hfile : FileRecord file) {u : Uuid}
    {left : File} {root : Framework.Node} (hfound : steps.SetFound hosts)
    (huuid : steps.set.calls.uuid = some u)
    (hsession : infostoreOpen x file steps.set.calls = (left, .session root)) :
    steps.SetsFlag x hosts file ↔ steps.set.save = .ok ∧ u = uuid .source := by
  have hstamp := getUuid_of_session hx hfile huuid hsession
  unfold MigrationSteps.SetsFlag
  rw [if_pos hfound, hsession, AfterOpen, hstamp]
  refine and_congr_right fun _ => ?_
  rw [Option.all_some, decide_eq_true_iff]
  exact ⟨fun h => Uuid.text_injective h, fun h => congrArg Uuid.text h⟩

/-- **A migration to a host without the domain** runs without the flag, unless that was set
before. -/
theorem not_flagKept_of_unknown (hx : x.Documented) (hfile : FileRecord file)
    (hunknown : (hosts steps.conn).known = false) (hbefore : ¬ EntryFlag x migratingKey file)
    (hreaches : steps.ReachesFlag request) (hthread : steps.newThread = true) :
    ¬ FlagKept x steps hosts request file := by
  rw [flagKept_iff hx hfile]
  intro h
  have hnot : ¬ steps.SetFound hosts := by
    intro hfound
    have hknown := hfound.1
    rw [hunknown] at hknown
    cases hknown
  have hsets := (h.started hreaches ⟨fun hfound => absurd hfound hnot, hthread⟩).1
  unfold MigrationSteps.SetsFlag at hsets
  rw [if_neg hnot] at hsets
  exact hbefore hsets.entryFlag

/-- The uuid of a guest that is migrated. -/
def movedUuid : Uuid := ⟨"2b1c9f4e-6d35-4c0e-8a57-0f3a9d2e7b46", by decide⟩

/-- A session that goes well. -/
def goodSession : DomainSession movedUuid where
  calls := {
    openFile := true, uuid := some movedUuid, save := .ok, unlink := true, reopenFile := true }
  save := .ok
  ofDomain _ h := (Option.some.inj h).symm

/-- The answers of a live migration that goes well. -/
def liveCalls : Calls where
  connect := .connected
  lookup := true
  remoteLookup := false
  xmlDesc := some "<domain/>"
  getInfo := some .running
  migrate := true
  shutdown := true
  online := fun _ => false
  attempt := fun _ => ⟨true, true⟩
  define := true
  create := true

/-- The steps of a live migration that goes well. -/
def liveSteps (conn : Host) : MigrationSteps fun _ => movedUuid where
  prepare := true
  msdValues := .ok cimMigrateLive
  conn := conn
  createJobInstance := .ok
  getInstance := (true, .ok)
  setLookup := true
  set := goodSession
  indication := .ok
  newThread := true
  others := [goodSession]
  calls := liveCalls
  clear := goodSession

/-- A running guest of the source. -/
def runningAtSource : Hosts
  | .source => ⟨true, true⟩
  | .destination => ⟨false, false⟩

/-- A request to migrate the guest. -/
def migrateTo (host : String) : MigrationRequest where
  method := .toHost host
  name := some "vm1"
  refsMatch := true

/-- Where the destination is the source itself, the flag is kept. -/
theorem flagKept_localhost :
    FlagKept entityXml (liveSteps .source) runningAtSource (migrateTo "localhost") .empty := by
  -- the request passes every test
  have hreaches : (liveSteps .source).ReachesFlag (migrateTo "localhost") :=
    ⟨⟨_, rfl⟩, rfl, ⟨_, rfl⟩, rfl, rfl⟩
  -- the file is created, and it names the domain
  have hopen : infostoreOpen entityXml .empty (liveSteps .source).set.calls =
      (.empty, .session (infostoreSetStr entityXml newXml "uuid" movedUuid.text)) := rfl
  -- the job starts
  have hstarts : (liveSteps .source).Starts entityXml runningAtSource .empty := by
    refine ⟨fun _ => ?_, rfl⟩
    rw [hopen]
    simp
  refine (flagKept_iff entityXml_documented fileRecord_empty).mpr
    ⟨fun h => absurd hreaches h, fun _ h => absurd hstarts h, fun _ _ => ⟨?_, ?_, ?_, ?_⟩⟩
  · exact ⟨rfl, by decide⟩
  · intro session hmem
    obtain rfl := List.mem_singleton.mp hmem
    exact .inr rfl
  · exact ⟨rfl, rfl, rfl⟩
  · exact ⟨rfl, fun h => by cases h⟩

/-- Where it is another host, the job runs without the flag. -/
theorem not_flagKept_remote :
    ¬ FlagKept entityXml (liveSteps .destination) runningAtSource (migrateTo "host2") .empty := by
  intro h
  have hset := h.running _ rfl .empty (List.mem_cons_self ..)
  exact not_entryFlag_empty hset.entryFlag

end LibvirtCim.Migration
