import LibvirtCim.Service.DefineSystem

/-!
# Snapshots

`CreateSnapshot`, `ApplySnapshot` and `DestroySnapshot` of
`Virt_VirtualSystemSnapshotService.c`. The first two start a job: an instance of
`CIM_ConcreteJob` is created at the broker, a worker thread is started with its context, and the
paths of the job and of the guest's settings are returned.

`start_snapshot_job` does not look at what `create_job` returned (`startSnapshotJob_status`), and
its callers answer that the request is completed whatever it returned. What they answer is
therefore true exactly if the job begins (`truthfulStart_iff`).
-/

open LibvirtCim.Service

namespace LibvirtCim.Snapshot

/-! ### What is created, and by what -/

/-- `VIR_VSSS_SNAPSHOT_MEM`. -/
def snapshotMem : UInt16 := 32768

/-- `VIR_VSSS_SNAPSHOT_MEMT`: the guest stays off. -/
def snapshotMemt : UInt16 := 32769

/-- `CIM_RETURN_COMPLETED`. -/
def returnCompleted : UInt32 := 0

/-- `CIM_RETURN_FAILED`. -/
def returnFailed : UInt32 := 2

/-- `struct snap_context`. -/
structure SnapContext where
  domain : String
  uuid : String
  savePath : String
  refNs : String
  refCn : String
  save : Bool
  restore : Bool
  deriving DecidableEq, Repr

/-- The instance of `CIM_ConcreteJob` that `create_job` builds. -/
structure JobInstance where
  instanceId : String
  name : String
  status : String
  deriving DecidableEq, Repr

/-- The path of a job. -/
structure JobPath where
  ns : String
  instanceId : String
  deriving DecidableEq, Repr

/-- The path of the service a request is sent to. -/
structure ServiceRef where
  ns : String
  classname : String

/-- What the requests leave behind: jobs at the broker and threads that run. -/
structure SnapshotHost where
  jobs : List (JobPath × JobInstance)
  threads : List SnapContext
  deriving DecidableEq, Repr

/-- What the steps of a request answer. A call of the broker that makes something returns it, or
nothing, and a status of its own. -/
structure SnapshotCalls where
  /-- `calloc` in `new_context` -/
  alloc : Bool
  /-- `asprintf` in `vsss_get_save_path` -/
  asprintf : Bool
  /-- `uuid_generate` -/
  uuid : String
  /-- `CMNewObjectPath`, `CMNewInstance` and `CMGetObjectPath` in `create_job` -/
  newObjectPath : Bool × CmpiStatus
  newInstance : Bool × CmpiStatus
  getObjectPath : Bool × CmpiStatus
  /-- `CBCreateInstance` -/
  createInstance : JobInstance → Option JobPath × CmpiStatus
  /-- `newThread`: whether there is a thread -/
  newThread : Bool
  /-- `connect_by_classname`, `virDomainLookupByName`, `get_typed_instance` and
  `instance_from_dom` in `get_vssd_by_name` -/
  vssdConnect : Bool
  vssdLookup : Bool
  vssdTyped : Bool
  vssdFromDom : Bool
  /-- `CMGetObjectPath` of the settings -/
  vssdPath : CmpiStatus
  /-- `unlink` -/
  unlink : Bool

variable (calls : SnapshotCalls)

/-- `vsss_get_save_path`. -/
def vsssGetSavePath (domname : String) : Option String :=
  if calls.asprintf then some s!"/var/lib/libvirt/{domname}.save" else none

/-! ### Starting a job -/

/-- What the variable `job` of `start_snapshot_job` holds. -/
inductive JobPointer
  | uninitialised
  | null
  | path (path : JobPath)
  deriving DecidableEq, Repr

/-- What an assignment leaves in `job`. -/
def JobPointer.assigned : Option JobPath → JobPointer
  | none => .null
  | some created => .path created

/-- `new_context`, with what `start_snapshot_job` and `create_job` set in it. -/
def newContext (ref : ServiceRef) (name : String) (type : UInt16) : Option SnapContext :=
  if calls.alloc then
    (vsssGetSavePath calls name).map fun savePath => {
      domain := name
      uuid := calls.uuid
      savePath
      refNs := ref.ns
      refCn := ref.classname
      save := type ≠ 0
      restore := type ≠ snapshotMemt }
  else none

/-- The instance of `create_job`. -/
def jobInstance : JobInstance where
  instanceId := calls.uuid
  name := "Snapshot"
  status := "Queued"

/-- The job is created. -/
def SnapshotHost.withJob (host : SnapshotHost) (path : JobPath) (job : JobInstance) :
    SnapshotHost :=
  { host with jobs := host.jobs ++ [(path, job)] }

/-- `newThread`: the worker is started, or it is not, and nothing is said. -/
def SnapshotHost.startThread (host : SnapshotHost) (ctx : SnapContext) : SnapshotHost :=
  if calls.newThread then { host with threads := host.threads ++ [ctx] } else host

/-- `create_job`: the status, what `job` points at, and what is created. -/
def createJob (ctx : SnapContext) (host : SnapshotHost) :
    CmpiStatus × JobPointer × SnapshotHost :=
  match calls.newObjectPath with
  | (true, .ok) =>
    match calls.newInstance with
    | (true, .ok) =>
      match calls.getObjectPath with
      | (true, .ok) =>
        match calls.createInstance (jobInstance calls) with
        | (some path, .ok) =>
          (.ok, .path path, (host.withJob path (jobInstance calls)).startThread calls ctx)
        | (path, s) => (s, .assigned path, host)
      | (_, s) => (s, .uninitialised, host)
    | (_, s) => (s, .uninitialised, host)
  | (_, s) => (s, .uninitialised, host)

/-- `get_vssd_by_name`. -/
def getVssdByName (name : String) : CmpiStatus :=
  if !calls.vssdConnect then .error .notFound "No such instance"
  else if !calls.vssdLookup then .error .notFound s!"No such instance ({name})"
  else if !calls.vssdTyped then .failed "Unable to init VirtualSystemSettingData instance"
  else if !calls.vssdFromDom then .failed "Unable to get VSSD instance from Domain"
  else .ok

/-- What a request for a job answers: its status, its return value, the argument `Job` that is
returned beside `ResultingSnapshot`, and what it leaves. -/
structure SnapshotAnswer where
  status : CmpiStatus
  retcode : UInt32
  job : Option JobPointer
  host : SnapshotHost
  deriving DecidableEq, Repr

/-- `start_snapshot_job`: the status, the argument `Job`, and what is created. -/
def startSnapshotJob (ref : ServiceRef) (name : String) (type : UInt16) (host : SnapshotHost) :
    CmpiStatus × Option JobPointer × SnapshotHost :=
  match newContext calls ref name type with
  | none => (.failed "Unable to create snapshot context", none, host)
  | some ctx =>
    -- the status of `create_job` is overwritten by that of `get_vssd_by_name`
    let (_, job, host) := createJob calls ctx host
    match getVssdByName calls name with
    | .error rc msg => (.error rc msg, none, host)
    | .ok =>
      match calls.vssdPath with
      | .error rc msg => (.error rc msg, none, host)
      | .ok => (.ok, some job, host)

/-! ### Requests -/

/-- The arguments of `CreateSnapshot`: of the reference to the system its key `Name`. -/
structure CreateSnapshotArgs where
  snapshotType : Option UInt16
  affectedSystem : Option (Option String)
  snapshotSettings : Option Unit

/-- The requests that start a job. `ApplySnapshot` has a reference to the snapshot, of which the
key `InstanceID` counts. -/
inductive SnapshotRequest
  | create (args : CreateSnapshotArgs)
  | apply (snapshot : Option (Option String))

/-- An error with its message. -/
abbrev Refusal := CmpiErr × String

/-- `create_snapshot` up to the job. -/
def createTarget (args : CreateSnapshotArgs) : Except Refusal (String × UInt16) := do
  let some type := args.snapshotType | .error (.invalidParameter, "Missing SnapshotType")
  if type ≠ snapshotMem ∧ type ≠ snapshotMemt then
    .error (.notSupported,
      s!"Only memory({snapshotMem.toNat},{snapshotMemt.toNat}) snapshots are supported")
  else
    let some system := args.affectedSystem
      | .error (.invalidParameter, "Missing AffectedSystem")
    let some _ := args.snapshotSettings
      | .error (.invalidParameter, "Missing SnapshotSettings")
    let some name := system
      | .error (.invalidParameter, "Missing Name property of AffectedSystem")
    .ok (name, type)

/-- The arguments of `ApplySnapshot` and `DestroySnapshot`: the domain of the snapshot. -/
def snapshotDomain (snapshot : Option (Option String)) : Except Refusal String := do
  let some snap := snapshot | .error (.invalidParameter, "Missing Snapshot")
  let some name := snap.bind parseId | .error (.failed, "Invalid InstanceID in Snapshot")
  .ok name

/-- The domain a request is about, and the type of the snapshot, zero to apply one. -/
def SnapshotRequest.target : SnapshotRequest → Except Refusal (String × UInt16)
  | .create args => createTarget args
  | .apply snapshot => (fun name => (name, 0)) <$> snapshotDomain snapshot

/-- `create_snapshot` and `apply_snapshot`. -/
def SnapshotRequest.run (ref : ServiceRef) (host : SnapshotHost) (request : SnapshotRequest) :
    SnapshotAnswer :=
  match request.target with
  | .error (rc, msg) => ⟨.error rc msg, returnFailed, none, host⟩
  | .ok (name, type) =>
    let (s, job, host) := startSnapshotJob calls ref name type host
    ⟨s, returnCompleted, job, host⟩

/-- `vsss_delete_snapshot`. -/
def vsssDeleteSnapshot (domname : String) : CmpiStatus :=
  match vsssGetSavePath calls domname with
  | none => .failed "Unable to get save_path"
  | some path => if calls.unlink then .ok else .failed s!"Unable to remove snapshot: {path}"

/-- `destroy_snapshot`: the status and the return value. -/
def destroySnapshot (snapshot : Option (Option String)) : CmpiStatus × UInt32 :=
  match snapshotDomain snapshot with
  | .error (rc, msg) => (.error rc msg, returnFailed)
  | .ok name =>
    let s := vsssDeleteSnapshot calls name
    (s, if s = .ok then returnCompleted else returnFailed)

/-! ### The worker -/

/-- `VIR_VSSS_ERR_*`. -/
inductive SnapshotError
  | saveFailed | restFailed | connFailed | noSuchDomain
  deriving DecidableEq, Repr

/-- What the worker writes in the job: it runs, it is completed, or it has failed. -/
inductive JobUpdate
  | running (status : String)
  | complete
  | failed (error : SnapshotError) (desc : String)
  deriving DecidableEq, Repr

/-- What libvirt answers the worker. -/
structure WorkerCalls where
  connect : Bool
  lookup : Bool
  save : Bool
  restore : Bool

/-- `do_snapshot`: what is written in the job. -/
def doSnapshot (worker : WorkerCalls) (ctx : SnapContext) : List JobUpdate :=
  -- where nothing was saved the image is removed behind the restore, which the job does not tell
  if ctx.save ∧ worker.save = false then [.failed .saveFailed "Save failed"]
  else
    (if ctx.save then [.running "Save finished"] else []) ++
      if ctx.restore ∧ worker.restore = false then [.failed .restFailed "Restore failed"]
      else (if ctx.restore then [.running "Restore finished"] else []) ++ [.complete]

/-- `snapshot_thread`. -/
def snapshotThread (worker : WorkerCalls) (ctx : SnapContext) : List JobUpdate :=
  .running "Running" ::
    if !worker.connect then [.failed .connFailed "Unable to connect to hypervisor"]
    else if !worker.lookup then [.failed .noSuchDomain "No such domain"]
    else doSnapshot worker ctx

/-! ### The truth -/

/-- The job has been created and its worker started. -/
def Begun (host after : SnapshotHost) : Prop :=
  ∃ path job ctx, ctx.uuid = job.instanceId ∧
    after.jobs = host.jobs ++ [(path, job)] ∧ after.threads = host.threads ++ [ctx]

/-- `create_job` gets to its end. -/
def SnapshotCalls.CreatesJob (path : JobPath) : Prop :=
  calls.newObjectPath = (true, .ok) ∧ calls.newInstance = (true, .ok) ∧
    calls.getObjectPath = (true, .ok) ∧
    calls.createInstance (jobInstance calls) = (some path, .ok)

/-- The job begins: there is a context, the job is created, and there is a thread. -/
def SnapshotCalls.Begins : Prop :=
  calls.alloc ∧ calls.asprintf ∧ (∃ path, calls.CreatesJob path) ∧ calls.newThread

/-- The settings of the guest are found. -/
def SnapshotCalls.FindsVssd : Prop :=
  calls.vssdConnect ∧ calls.vssdLookup ∧ calls.vssdTyped ∧ calls.vssdFromDom ∧
    calls.vssdPath = .ok

/-- **A request tells the truth about its job**: it is completed only if the job has been created
and its worker started, its status is fine only if no step has failed, and the job it returns is
the one it has created. -/
structure TruthfulStart (ref : ServiceRef) (host : SnapshotHost) (request : SnapshotRequest) :
    Prop where
  begun : (request.run calls ref host).retcode = returnCompleted →
    Begun host (request.run calls ref host).host
  failure : (request.run calls ref host).status = .ok →
    (∃ target, request.target = .ok target) ∧ calls.Begins ∧ calls.FindsVssd
  job : ∀ pointer, (request.run calls ref host).job = some pointer →
    ∃ path job, pointer = .path path ∧
      (request.run calls ref host).host.jobs = host.jobs ++ [(path, job)]

variable {calls}

/-! ### What the steps do -/

theorem newContext_isSome_iff (ref : ServiceRef) (name : String) (type : UInt16) :
    (newContext calls ref name type).isSome ↔ calls.alloc ∧ calls.asprintf := by
  unfold newContext vsssGetSavePath
  split_ifs with halloc hasprintf <;> simp [*]

/-- The context of a request carries the name the job will have. -/
theorem uuid_of_newContext {ref : ServiceRef} {name : String} {type : UInt16} {ctx : SnapContext}
    (h : newContext calls ref name type = some ctx) :
    ctx.uuid = (jobInstance calls).instanceId := by
  unfold newContext at h
  split_ifs at h
  obtain ⟨savePath, -, rfl⟩ := Option.map_eq_some_iff.mp h
  rfl

/-- A job that is created is returned, and its worker is started if there is a thread. -/
theorem createJob_of_createsJob {path : JobPath} (h : calls.CreatesJob path) (ctx : SnapContext)
    (host : SnapshotHost) :
    createJob calls ctx host =
      (.ok, .path path, (host.withJob path (jobInstance calls)).startThread calls ctx) := by
  obtain ⟨hop, hinst, hpath, hcreate⟩ := h
  simp only [createJob, hop, hinst, hpath, hcreate]

/-- A job that is not created has no worker either. -/
theorem createJob_host_of_not (h : ∀ path, ¬ calls.CreatesJob path) (ctx : SnapContext)
    (host : SnapshotHost) : (createJob calls ctx host).2.2 = host := by
  unfold createJob
  split
  next hop =>
    split
    next hinst =>
      split
      next hpath =>
        split
        next path hcreate => exact absurd ⟨hop, hinst, hpath, hcreate⟩ (h path)
        next => rfl
      next => rfl
    next => rfl
  next => rfl

theorem getVssdByName_eq_ok_iff (name : String) :
    getVssdByName calls name = .ok ↔
      calls.vssdConnect ∧ calls.vssdLookup ∧ calls.vssdTyped ∧ calls.vssdFromDom := by
  unfold getVssdByName
  split_ifs <;> simp_all

theorem findsVssd_iff (name : String) :
    calls.FindsVssd ↔ getVssdByName calls name = .ok ∧ calls.vssdPath = .ok := by
  unfold SnapshotCalls.FindsVssd
  rw [getVssdByName_eq_ok_iff, and_assoc, and_assoc, and_assoc]

section
variable {ref : ServiceRef} {name : String} {type : UInt16} {host : SnapshotHost}
  {ctx : SnapContext}

/-- **The status of a request is that of the settings**: with a context, whether a job was
created does not matter. -/
theorem startSnapshotJob_status (hctx : newContext calls ref name type = some ctx) :
    (startSnapshotJob calls ref name type host).1 = .ok ↔ calls.FindsVssd := by
  rw [startSnapshotJob, hctx, findsVssd_iff name]
  dsimp only
  split
  next hvssd => simp [hvssd]
  next hvssd =>
    split
    next hpath => simp [hpath]
    next hpath => simp [hvssd, hpath]

/-- The job that is returned is what `create_job` left in the variable. -/
theorem startSnapshotJob_job (hctx : newContext calls ref name type = some ctx)
    {pointer : JobPointer} (h : (startSnapshotJob calls ref name type host).2.1 = some pointer) :
    pointer = (createJob calls ctx host).2.1 := by
  rw [startSnapshotJob, hctx] at h
  dsimp only at h
  split at h
  · cases h
  · split at h
    · cases h
    · exact (Option.some.inj h).symm

/-- Whatever the status is, what `create_job` did is done. -/
theorem startSnapshotJob_host (hctx : newContext calls ref name type = some ctx) :
    (startSnapshotJob calls ref name type host).2.2 = (createJob calls ctx host).2.2 := by
  rw [startSnapshotJob, hctx]
  dsimp only
  split
  · rfl
  · split <;> rfl

end

/-! ### When the answer is true -/

/-- Something has begun only if there is a job more. -/
theorem not_begun_self (host : SnapshotHost) : ¬ Begun host host := by
  rintro ⟨path, job, ctx, -, hjobs, -⟩
  have hlength := congrArg List.length hjobs
  rw [List.length_append, List.length_singleton] at hlength
  omega

/-- A job that is created begins if there is a thread for its worker. -/
theorem begun_startThread_iff (host : SnapshotHost) {ctx : SnapContext} (path : JobPath)
    {job : JobInstance} (huuid : ctx.uuid = job.instanceId) :
    Begun host ((host.withJob path job).startThread calls ctx) ↔ calls.newThread := by
  unfold SnapshotHost.startThread
  split_ifs with hthread
  · exact iff_of_true ⟨path, job, ctx, huuid, rfl, rfl⟩ hthread
  · refine iff_of_false ?_ hthread
    rintro ⟨_, _, _, -, -, hthreads⟩
    have hlength : host.threads.length = host.threads.length + 1 := by
      simpa [SnapshotHost.withJob] using congrArg List.length hthreads
    omega

/-- **What is left behind a request that has its arguments** is a job that has begun exactly if
every step up to the thread went well. -/
theorem begun_startSnapshotJob_iff (ref : ServiceRef) (name : String) (type : UInt16)
    (host : SnapshotHost) :
    Begun host (startSnapshotJob calls ref name type host).2.2 ↔ calls.Begins := by
  have hcontext : (newContext calls ref name type).isSome ↔ calls.alloc ∧ calls.asprintf :=
    newContext_isSome_iff ref name type
  unfold SnapshotCalls.Begins
  rw [← and_assoc, ← hcontext]
  match hctx : newContext calls ref name type with
  | none =>
    have hsame : (startSnapshotJob calls ref name type host).2.2 = host := by
      rw [startSnapshotJob, hctx]
    rw [hsame]
    exact iff_of_false (not_begun_self host) (by simp)
  | some ctx =>
    rw [startSnapshotJob_host hctx]
    by_cases hcreates : ∃ path, calls.CreatesJob path
    · obtain ⟨path, hpath⟩ := hcreates
      rw [createJob_of_createsJob hpath, begun_startThread_iff host path (uuid_of_newContext hctx)]
      exact ⟨fun h => ⟨rfl, ⟨path, hpath⟩, h⟩, fun h => h.2.2⟩
    · rw [createJob_host_of_not fun path hpath => hcreates ⟨path, hpath⟩]
      exact iff_of_false (not_begun_self host) fun h => hcreates h.2.1

/-- A request without its arguments is refused, with nothing done. -/
theorem truthfulStart_of_refused (ref : ServiceRef) (host : SnapshotHost)
    {request : SnapshotRequest} {refusal : Refusal} (h : request.target = .error refusal) :
    TruthfulStart calls ref host request := by
  have hrun : request.run calls ref host =
      ⟨.error refusal.1 refusal.2, returnFailed, none, host⟩ := by
    rw [SnapshotRequest.run, h]
  have hcodes : returnFailed ≠ returnCompleted := by decide
  constructor <;> rw [hrun]
  · intro hret
    exact absurd hret hcodes
  · intro hok
    cases hok
  · intro pointer hjob
    cases hjob

/-- **A request tells the truth about its job exactly if the job begins**, when it has its
arguments: without a job the request is completed all the same. The status is that of the search
for the settings (`startSnapshotJob_status`), whatever became of the job; which calls have to
succeed for the job is `begun_startSnapshotJob_iff`. -/
theorem truthfulStart_iff (calls : SnapshotCalls) (ref : ServiceRef) (host : SnapshotHost)
    (request : SnapshotRequest) :
    TruthfulStart calls ref host request ↔
      ∀ target, request.target = .ok target → calls.Begins := by
  match htarget : request.target with
  | .error refusal =>
    have htrue : TruthfulStart calls ref host request := truthfulStart_of_refused ref host htarget
    refine iff_of_true htrue ?_
    intro target h
    cases h
  | .ok (name, type) =>
    have hrun : request.run calls ref host =
        ⟨(startSnapshotJob calls ref name type host).1, returnCompleted,
          (startSnapshotJob calls ref name type host).2.1,
          (startSnapshotJob calls ref name type host).2.2⟩ := by
      rw [SnapshotRequest.run, htarget]
    constructor
    · intro h target _
      have hbegun := h.begun (by rw [hrun])
      rw [hrun] at hbegun
      exact (begun_startSnapshotJob_iff ref name type host).mp hbegun
    · intro h
      have hbegins := h (name, type) rfl
      obtain ⟨halloc, hasprintf, ⟨path, hpath⟩, hthread⟩ := hbegins
      obtain ⟨ctx, hctx⟩ := Option.isSome_iff_exists.mp
        ((newContext_isSome_iff ref name type).mpr ⟨halloc, hasprintf⟩)
      constructor <;> rw [hrun] <;> dsimp only
      · intro _
        exact (begun_startSnapshotJob_iff ref name type host).mpr
          ⟨halloc, hasprintf, ⟨path, hpath⟩, hthread⟩
      · intro hok
        exact ⟨⟨(name, type), htarget⟩, ⟨halloc, hasprintf, ⟨path, hpath⟩, hthread⟩,
          (startSnapshotJob_status hctx).mp hok⟩
      · intro pointer hjob
        refine ⟨path, jobInstance calls, ?_, ?_⟩
        · rw [startSnapshotJob_job hctx hjob, createJob_of_createsJob hpath]
        · rw [startSnapshotJob_host hctx, createJob_of_createsJob hpath]
          unfold SnapshotHost.startThread
          rw [if_pos hthread]
          rfl

/-- A domain is snapshot, and the broker refuses the job. -/
def refusingBroker : SnapshotCalls where
  alloc := true
  asprintf := true
  uuid := "4d0f"
  newObjectPath := (true, .ok)
  newInstance := (true, .ok)
  getObjectPath := (true, .ok)
  createInstance := fun _ => (none, .failed "no space")
  newThread := true
  vssdConnect := true
  vssdLookup := true
  vssdTyped := true
  vssdFromDom := true
  vssdPath := .ok
  unlink := true

/-- The service the request is sent to. -/
def snapshotServiceRef : ServiceRef := ⟨"root/virt", "KVM_VirtualSystemSnapshotService"⟩

/-- A snapshot of the memory of a guest. -/
def memorySnapshot : SnapshotRequest :=
  .create { snapshotType := some 32768, affectedSystem := some (some "vm1"),
            snapshotSettings := some () }

/-- The request is completed with a status that is fine and no job. -/
theorem not_truthfulStart_refusingBroker :
    memorySnapshot.run refusingBroker snapshotServiceRef ⟨[], []⟩ =
        ⟨.ok, returnCompleted, some .null, ⟨[], []⟩⟩ ∧
      ¬ TruthfulStart refusingBroker snapshotServiceRef ⟨[], []⟩ memorySnapshot := by
  have hrun : memorySnapshot.run refusingBroker snapshotServiceRef ⟨[], []⟩ =
      ⟨.ok, returnCompleted, some .null, ⟨[], []⟩⟩ := by decide +kernel
  refine ⟨hrun, fun h => ?_⟩
  have hbegun := h.begun (by rw [hrun])
  rw [hrun] at hbegun
  exact not_begun_self ⟨[], []⟩ hbegun

/-! ### What the worker writes -/

/-- **A job is completed exactly if its steps succeed**: the guest is found, and saved and
restored as far as was asked. -/
theorem complete_mem_snapshotThread_iff (worker : WorkerCalls) (ctx : SnapContext) :
    JobUpdate.complete ∈ snapshotThread worker ctx ↔
      worker.connect ∧ worker.lookup ∧ (ctx.save → worker.save) ∧
        (ctx.restore → worker.restore) := by
  unfold snapshotThread doSnapshot
  split_ifs <;> simp_all

/-- A snapshot that is removed is gone before it is called completed. -/
theorem destroySnapshot_completed_iff (calls : SnapshotCalls)
    (snapshot : Option (Option String)) :
    (destroySnapshot calls snapshot).2 = returnCompleted ↔
      (destroySnapshot calls snapshot).1 = .ok := by
  have hcodes : returnFailed ≠ returnCompleted := by decide
  unfold destroySnapshot
  split
  next => simp [hcodes]
  next name _ =>
    dsimp only
    split_ifs with h
    · exact iff_of_true rfl h
    · exact iff_of_false hcodes h

end LibvirtCim.Snapshot
