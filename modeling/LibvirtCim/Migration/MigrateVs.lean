import LibvirtCim.Common.Basic
import Mathlib.Logic.Function.Basic

/-!
# The migration job

`migrate_vs` of `Virt_VSMigrationService.c`, over the two hypervisors it talks to.
A host knows the guest by two independent facts, whether it is defined (its
configuration is stored) and whether it is active. The job reads the
configuration off the source, moves or stops the guest as the migration type asks
(`handle_migrate`, `handle_restart_migrate`, `ensure_dom_offline`), and then
`complete_migrate` removes the definition from the source and puts it on the
destination.

The outcome of every libvirt call is an answer in `Calls`; a run of the job is a
function of the job, the answers and the hosts. Sleeping between two polls and
the bookkeeping of the job instance are left out, and so is the libvirt error text
that `virt_set_status` appends to its messages.
-/

namespace LibvirtCim.Migration

/-- `MIGRATE_SHUTDOWN_TIMEOUT`. -/
def migrateShutdownTimeout : ℕ := 120

/-- `CIM_MIGRATE_OTHER`, an offline migration. -/
@[match_pattern] def cimMigrateOther : ℕ := 1

/-- `CIM_MIGRATE_LIVE`. -/
@[match_pattern] def cimMigrateLive : ℕ := 2

/-- `CIM_MIGRATE_RESUME`. -/
@[match_pattern] def cimMigrateResume : ℕ := 3

/-- `CIM_MIGRATE_RESTART`. -/
@[match_pattern] def cimMigrateRestart : ℕ := 4

/-! ### The hosts -/

inductive Host
  | source | destination
  deriving DecidableEq, Repr

/-- What a hypervisor holds of the guest that is migrated. -/
structure Guest where
  defined : Bool
  active : Bool
  deriving DecidableEq, Repr

abbrev Hosts := Host → Guest

/-- A lookup by name finds defined and active guests. -/
def Guest.known (g : Guest) : Bool :=
  g.defined || g.active

/-- A successful `virDomainUndefine` on the source. -/
def Hosts.undefine (hosts : Hosts) : Hosts :=
  Function.update hosts .source { hosts .source with defined := false }

/-- A successful `virDomainDefineXML`. -/
def Hosts.define (hosts : Hosts) (h : Host) : Hosts :=
  Function.update hosts h { hosts h with defined := true }

/-- The guest stops or starts running on a host. -/
def Hosts.setActive (hosts : Hosts) (h : Host) (active : Bool) : Hosts :=
  Function.update hosts h { hosts h with active := active }

/-! ### The job and the answers -/

/-- `struct migration_job`: of `host` the job only asks whether it is
`"localhost"`; `conn` is the hypervisor the connection to it leads to. -/
structure MigrationJob where
  domain : String
  type : ℕ
  host : String
  conn : Host
  deriving DecidableEq, Repr

/-- The results of `connect_by_classname`. Only an unknown class prefix sets its
status; a disabled hypervisor or a failed `virConnectOpen` returns a null
connection under an OK status. -/
inductive Connect
  | connected | unknownClass | refused
  deriving DecidableEq, Repr

/-- One turn of the undefine loop. -/
structure Attempt where
  /-- `virDomainLookupByName` on the source -/
  lookup : Bool
  /-- `virDomainUndefine` -/
  undefine : Bool
  deriving DecidableEq, Repr

/-- The answers of the libvirt calls of a job. -/
structure Calls where
  connect : Connect
  /-- `virDomainLookupByName` on the source, for a known guest -/
  lookup : Bool
  /-- the lookup of `domain_exists` on the destination, for a known guest -/
  remoteLookup : Bool
  xmlDesc : Option String
  getInfo : Option VirDomainState
  migrate : Bool
  shutdown : Bool
  /-- `domain_online`, poll by poll -/
  online : ℕ → Bool
  /-- the undefine loop, turn by turn -/
  attempt : ℕ → Attempt
  /-- `virDomainDefineXML` -/
  define : Bool
  /-- `virDomainCreate` -/
  create : Bool

/-! ### The job's steps -/

/-- `handle_migrate`. `virDomainMigrate` moves the running guest; the flags the
job passes leave both definitions alone. -/
def handleMigrate (job : MigrationJob) (calls : Calls) (hosts : Hosts) : Hosts × CmpiStatus :=
  match calls.getInfo with
  | none => (hosts, .failed "Error getting domain info")
  | some state =>
    if state = .shutoff then
      (hosts, .error .invalidParameter
        "Domain must be running for live or resume migration")
    else if calls.migrate then
      ((hosts.setActive .source false).setActive job.conn true, .ok)
    else (hosts, .failed "Migration Failed")

/-- The shutdown poll: whether `domain_online` is false at one of the polls
`i, …, i + fuel - 1`. -/
def pollOffline (online : ℕ → Bool) : ℕ → ℕ → Bool
  | _, 0 => false
  | i, fuel + 1 => if !online i then true else pollOffline online (i + 1) fuel

/-- `handle_restart_migrate`. -/
def handleRestartMigrate (calls : Calls) (hosts : Hosts) : Hosts × CmpiStatus :=
  if !calls.shutdown then (hosts, .failed "Unable to shutdown guest")
  else if pollOffline calls.online 0 migrateShutdownTimeout then
    (hosts.setActive .source false, .ok)
  else (hosts, .failed s!"Domain failed to shutdown in {migrateShutdownTimeout} seconds")

/-- `ensure_dom_offline`. -/
def ensureDomOffline (calls : Calls) : CmpiStatus :=
  match calls.getInfo with
  | none => .failed "Error getting domain info"
  | some state =>
    if state ≠ .shutoff then
      .error .invalidParameter "Domain must be shut off for offline migration"
    else .ok

/-- The loop of `complete_migrate` from turn `i` on: whether the source was
undefined. A failed lookup ends it, a failed undefine is tried again. -/
def undefineLoop (attempt : ℕ → Attempt) : ℕ → ℕ → Bool
  | _, 0 => false
  | i, fuel + 1 =>
    if !(attempt i).lookup then false
    else if (attempt i).undefine then true
    else undefineLoop attempt (i + 1) fuel

/-- `complete_migrate`. The result of the undefine loop is logged and not used. The
last message runs over a line end in the source and keeps the indentation. -/
def completeMigrate (job : MigrationJob) (calls : Calls) (restart : Bool) (hosts : Hosts) :
    Hosts × CmpiStatus :=
  let undefined :=
    if undefineLoop calls.attempt 0 migrateShutdownTimeout then hosts.undefine else hosts
  if !calls.define then (undefined, .failed "Failed to define domain")
  else
    let defined := undefined.define job.conn
    if !restart then (defined, .ok)
    else if calls.create then (defined.setActive job.conn true, .ok)
    else
      (defined,
        .failed "Failed to start domain on remote                                         host")

/-- The `switch` of `migrate_vs`. -/
def migrateByType (job : MigrationJob) (calls : Calls) (hosts : Hosts) : Hosts × CmpiStatus :=
  match job.type with
  | cimMigrateOther => (hosts, ensureDomOffline calls)
  | cimMigrateLive => handleMigrate job calls hosts
  | cimMigrateResume => handleMigrate job calls hosts
  | cimMigrateRestart => handleRestartMigrate calls hosts
  | type => (hosts, .failed s!"Unsupported migration type ({type})")

/-- The end of `migrate_vs`: a failed step ends the job, any other is completed. -/
def thenComplete (job : MigrationJob) (calls : Calls) : Hosts × CmpiStatus → Hosts × CmpiStatus
  | (hosts, .ok) => completeMigrate job calls (job.type = cimMigrateRestart) hosts
  | failure => failure

/-- `domain_exists` on the destination, under the guard of `migrate_vs`. -/
def remoteExists (job : MigrationJob) (calls : Calls) (hosts : Hosts) : Bool :=
  job.host ≠ "localhost" && (hosts job.conn).known && calls.remoteLookup

/-- `migrate_vs`: the hosts and the status the job ends with. -/
def migrateVs (job : MigrationJob) (calls : Calls) (hosts : Hosts) : Hosts × CmpiStatus :=
  match calls.connect with
  | .unknownClass => (hosts, .failed "Unable to generate URI from classname")
  | .refused => (hosts, .ok)
  | .connected =>
    if !((hosts .source).known && calls.lookup) then
      (hosts, .failed s!"Failed to lookup domain `{job.domain}'")
    else if remoteExists job calls hosts then
      (hosts, .failed s!"Remote already has domain `{job.domain}'")
    else
      match calls.xmlDesc with
      | none => (hosts, .failed "Unable to retrieve domain XML")
      | some _ => thenComplete job calls (migrateByType job calls hosts)

/-! ### What the job should keep -/

/-- **The guest is not lost.** When the job ends the guest is defined on the source or
on the host the job migrates to, which is the source again for a job to `localhost`; and
if it ends OK it is defined there, and no longer on the source unless the two are the
same. A guest of the same name on a host the job has nothing to do with does not count. -/
def NeverLoses (job : MigrationJob) (calls : Calls) (hosts : Hosts) : Prop :=
  let run := migrateVs job calls hosts
  ((run.1 .source).defined ∨ (run.1 job.conn).defined) ∧
  (run.2 = .ok →
    (run.1 job.conn).defined ∧ (job.conn ≠ .source → ¬ (run.1 .source).defined))

instance (job : MigrationJob) (calls : Calls) (hosts : Hosts) :
    Decidable (NeverLoses job calls hosts) :=
  inferInstanceAs (Decidable (_ ∧ _))

end LibvirtCim.Migration
