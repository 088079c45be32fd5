import LibvirtCim.Framework.Workers
import LibvirtCim.Snapshot.SnapshotService

/-!
# Snapshot jobs side by side

Every job of the snapshot service has a thread of its own, and all jobs of a guest write, read and
remove the same image, `/var/lib/libvirt/<name>.save`. Nothing keeps one job from running between
two calls of another. `snapshotSystem` is the service with its workers, call by call in any order,
and the guests, which go on meanwhile.

* `written_eq_snapshotThread` — a worker writes into its job what `snapshot_thread` writes for the
  answers it got, whatever the others do;
* `memory_kept_iff_restoredLast` — when the memory of a guest that is on, or was saved, is never
  lost nor set back to an older one;
* `memory_kept_of_undisturbed` — it is kept if no job saves the guest between the restore of
  another and the removal of the image that follows.

What libvirt is documented to do is `GuestEvent.apply`: a guest that is saved was on and is off
afterwards, one that is restored was off, and the image stays until it is removed. A call that
fails changes nothing.
-/

open Framework LibvirtCim.Service

namespace LibvirtCim.Snapshot

/-! ### The worker, call by call -/

/-- The calls of `snapshot_thread` and `do_snapshot`; the last is `vsss_delete_snapshot`. -/
inductive WorkerCall
  | connect | lookup | save | restore | deleteSnapshot
  deriving DecidableEq, Repr

/-- A thread: its context, the call it waits for, if it has not ended, and what it has written in
its job. -/
structure Worker where
  ctx : SnapContext
  pending : Option WorkerCall
  written : List JobUpdate
  deriving DecidableEq, Repr

/-- `snapshot_thread` up to its first call. -/
def Worker.start (ctx : SnapContext) : Worker where
  ctx := ctx
  pending := some .connect
  written := [.running "Running"]

/-- The end of a job. -/
def toComplete : Option WorkerCall × List JobUpdate := (none, [.complete])

/-- `do_snapshot` from the restore on. -/
def toRestore (ctx : SnapContext) : Option WorkerCall × List JobUpdate :=
  if ctx.restore then (some .restore, []) else toComplete

/-- From one call to the next: the call that comes, and what is written before it. -/
def afterCall (ctx : SnapContext) : WorkerCall → Bool → Option WorkerCall × List JobUpdate
  | .connect, false => (none, [.failed .connFailed "Unable to connect to hypervisor"])
  | .connect, true => (some .lookup, [])
  | .lookup, false => (none, [.failed .noSuchDomain "No such domain"])
  | .lookup, true => if ctx.save then (some .save, []) else toRestore ctx
  | .save, false => (none, [.failed .saveFailed "Save failed"])
  | .save, true => ((toRestore ctx).1, .running "Save finished" :: (toRestore ctx).2)
  | .restore, false => (none, [.failed .restFailed "Restore failed"])
  | .restore, true =>
    if ctx.save then (none, [.running "Restore finished", .complete])
    else (some .deleteSnapshot, [.running "Restore finished"])
  -- the status of `vsss_delete_snapshot` is dropped
  | .deleteSnapshot, _ => toComplete

/-- The program of a worker. An act is a call with its answer. -/
def snapshotProgram : Program SnapContext Worker (WorkerCall × Bool) where
  start := Worker.start
  next worker act :=
    if worker.pending = some act.1 then
      some { worker with
        pending := (afterCall worker.ctx act.1 act.2).1
        written := worker.written ++ (afterCall worker.ctx act.1 act.2).2 }
    else none

/-! ### Guests -/

/-- The memory of a guest: of one that is on, and in the image. -/
structure GuestMemory (M : Type) where
  running : Option M
  image : Option M
  deriving DecidableEq, Repr

/-- What happens to a guest. -/
inductive GuestEvent (M : Type)
  /-- `virDomainSave` -/
  | saved
  /-- `virDomainRestore` -/
  | restored
  /-- `unlink` of the image -/
  | removed
  /-- the guest goes on, to another memory -/
  | ran (m : M)
  /-- `virDomainCreate` in `start_domain`, which refuses a guest with an image -/
  | booted (m : M)
  /-- `virDomainDestroy`, or an end of its own -/
  | ended
  /-- `domain_reset`: the guest is ended and booted, whether there is an image or not -/
  | reset (m : M)
  deriving DecidableEq, Repr

variable {M : Type}

/-- When an event can be, and what it changes. -/
def GuestEvent.apply (g : GuestMemory M) : GuestEvent M → Option (GuestMemory M)
  | .saved => g.running.map fun m => ⟨none, some m⟩
  | .restored => if g.running.isSome then none else g.image.map fun m => ⟨some m, some m⟩
  | .removed => g.image.map fun _ => ⟨g.running, none⟩
  | .ran m => g.running.map fun _ => ⟨some m, g.image⟩
  | .booted m => if g.running.isSome ∨ g.image.isSome then none else some ⟨some m, none⟩
  | .ended => g.running.map fun _ => ⟨none, g.image⟩
  | .reset m => g.running.map fun _ => ⟨some m, g.image⟩

/-- A guest, driven by what happens to it. -/
def guestProgram (M : Type) : Program (GuestMemory M) (GuestMemory M) (GuestEvent M) where
  start := id
  next := GuestEvent.apply

/-- What a call of a worker does to the guest, if it succeeds. -/
def WorkerCall.event? : WorkerCall → Bool → Option (GuestEvent M)
  | .save, true => some .saved
  | .restore, true => some .restored
  | .deleteSnapshot, true => some .removed
  | _, _ => none

/-! ### The service -/

/-- The jobs of the broker, the workers in the order they were started, and the guests by their
names. -/
structure ServiceState (M : Type) where
  jobs : List (JobPath × JobInstance)
  workers : List Worker
  guests : String → GuestMemory M

/-- What a request finds. -/
def ServiceState.host (s : ServiceState M) : SnapshotHost :=
  ⟨s.jobs, s.workers.map Worker.ctx⟩

/-- What a request leaves: a new thread has a worker. -/
def ServiceState.answered (s : ServiceState M) (host : SnapshotHost) : ServiceState M :=
  { s with
    jobs := host.jobs
    workers := s.workers ++ (host.threads.drop s.workers.length).map Worker.start }

/-- One guest changes. -/
def ServiceState.withGuest (s : ServiceState M) (domain : String) (g : GuestMemory M) :
    ServiceState M :=
  { s with guests := fun name => if name = domain then g else s.guests name }

/-- What happens in the service. -/
inductive ServiceLabel (M : Type)
  /-- `CreateSnapshot` or `ApplySnapshot` -/
  | request (ref : ServiceRef) (calls : SnapshotCalls) (request : SnapshotRequest)
  /-- `DestroySnapshot` -/
  | destroy (calls : SnapshotCalls) (snapshot : Option (Option String))
  /-- a call of one of the workers -/
  | worker (i : ℕ) (domain : String) (call : WorkerCall) (ok : Bool)
  /-- what does not come from the service -/
  | guest (domain : String) (event : GuestEvent M)

/-- The guest whose image `DestroySnapshot` removes. -/
def destroyedDomain (calls : SnapshotCalls) (snapshot : Option (Option String)) : Option String :=
  if (destroySnapshot calls snapshot).1 = .ok then (snapshotDomain snapshot).toOption else none

/-- What a step does to a guest. -/
def ServiceLabel.event? (domain : String) : ServiceLabel M → Option (GuestEvent M)
  | .request .. => none
  | .destroy calls snapshot =>
    if destroyedDomain calls snapshot = some domain then some .removed else none
  | .worker _ name call ok => if name = domain then call.event? ok else none
  | .guest name event => if name = domain then some event else none

/-- An event that does not come from the service. -/
def GuestEvent.own : GuestEvent M → Bool
  | .saved | .restored | .removed => false
  | .ran _ | .booted _ | .ended | .reset _ => true

/-- One step: a request at once, a worker one call, or a guest by itself. -/
def ServiceState.step? (s : ServiceState M) : ServiceLabel M → Option (ServiceState M)
  | .request ref calls request => some (s.answered (request.run calls ref s.host).host)
  | .destroy calls snapshot =>
    match destroyedDomain calls snapshot with
    | none => some s
    | some domain => (GuestEvent.removed.apply (s.guests domain)).map (s.withGuest domain)
  | .worker i domain call ok => do
    let worker ← s.workers[i]?
    let worker' ← snapshotProgram.next worker (call, ok)
    let g ← (guestProgram M).follow (s.guests domain) (call.event? ok).toList
    if worker.ctx.domain = domain then
      some { s.withGuest domain g with workers := s.workers.set i worker' }
    else none
  | .guest domain event =>
    if event.own then (event.apply (s.guests domain)).map (s.withGuest domain) else none

/-- What a step can do. -/
inductive ServiceStep : ServiceState M → ServiceLabel M → ServiceState M → Prop
  | request (s : ServiceState M) (ref : ServiceRef) (calls : SnapshotCalls)
      (request : SnapshotRequest) :
      ServiceStep s (.request ref calls request) (s.answered (request.run calls ref s.host).host)
  | destroyed {s : ServiceState M} {calls : SnapshotCalls} {snapshot : Option (Option String)}
      {domain : String} {g : GuestMemory M} (hdomain : destroyedDomain calls snapshot = some domain)
      (hguest : GuestEvent.removed.apply (s.guests domain) = some g) :
      ServiceStep s (.destroy calls snapshot) (s.withGuest domain g)
  | notDestroyed {s : ServiceState M} {calls : SnapshotCalls} {snapshot : Option (Option String)}
      (hnone : destroyedDomain calls snapshot = none) : ServiceStep s (.destroy calls snapshot) s
  | worker {s : ServiceState M} {i : ℕ} {worker worker' : Worker} {call : WorkerCall} {ok : Bool}
      {g : GuestMemory M} (hworker : s.workers[i]? = some worker)
      (hnext : snapshotProgram.next worker (call, ok) = some worker')
      (hguest : (guestProgram M).follow (s.guests worker.ctx.domain) (call.event? ok).toList =
        some g) :
      ServiceStep s (.worker i worker.ctx.domain call ok)
        { s.withGuest worker.ctx.domain g with workers := s.workers.set i worker' }
  | guest {s : ServiceState M} {domain : String} {event : GuestEvent M} {g : GuestMemory M}
      (hevent : event.own = true) (hguest : event.apply (s.guests domain) = some g) :
      ServiceStep s (.guest domain event) (s.withGuest domain g)

/-- **Every step is one of these.** -/
theorem serviceStep_of_step? {s t : ServiceState M} {l : ServiceLabel M}
    (h : s.step? l = some t) : ServiceStep s l t := by
  -- each check of the executable step is a premise of the relation
  cases l with
  | request ref calls request =>
    obtain rfl := Option.some.inj h
    exact .request s ref calls request
  | destroy calls snapshot =>
    rw [ServiceState.step?] at h
    split at h
    next hnone =>
      obtain rfl := Option.some.inj h
      exact .notDestroyed hnone
    next domain hdomain =>
      obtain ⟨g, hguest, rfl⟩ := Option.map_eq_some_iff.mp h
      exact .destroyed hdomain hguest
  | worker i domain call ok =>
    obtain ⟨worker, hworker, h⟩ := Option.bind_eq_some_iff.mp h
    obtain ⟨worker', hnext, h⟩ := Option.bind_eq_some_iff.mp h
    obtain ⟨g, hguest, h⟩ := Option.bind_eq_some_iff.mp h
    split_ifs at h with hdomain
    subst hdomain
    obtain rfl := Option.some.inj h
    exact .worker hworker hnext hguest
  | guest domain event =>
    rw [ServiceState.step?] at h
    split_ifs at h with hown
    obtain ⟨g, hguest, rfl⟩ := Option.map_eq_some_iff.mp h
    exact .guest hown hguest

/-- The service, which begins without jobs. -/
def snapshotSystem (guests : String → GuestMemory M) :
    System (ServiceState M) (ServiceLabel M) where
  init := ⟨[], [], guests⟩
  step s l t := s.step? l = some t

/-! ### What a worker has written -/

/-- What libvirt has answered, up to now. -/
def answersOf (acts : List (WorkerCall × Bool)) : WorkerCalls where
  connect := (WorkerCall.connect, true) ∈ acts
  lookup := (WorkerCall.lookup, true) ∈ acts
  save := (WorkerCall.save, true) ∈ acts
  restore := (WorkerCall.restore, true) ∈ acts

/-- What libvirt answers to a call. The answer to the removal is dropped. -/
def WorkerCalls.answer (worker : WorkerCalls) : WorkerCall → Option Bool
  | .connect => some worker.connect
  | .lookup => some worker.lookup
  | .save => some worker.save
  | .restore => some worker.restore
  | .deleteSnapshot => none

/-- What is still to be written, from a call on. -/
def remaining (worker : WorkerCalls) (ctx : SnapContext) : Option WorkerCall → List JobUpdate
  | none => []
  | some .connect =>
    if worker.connect then
      if worker.lookup then doSnapshot worker ctx else [.failed .noSuchDomain "No such domain"]
    else [.failed .connFailed "Unable to connect to hypervisor"]
  | some .lookup =>
    if worker.lookup then doSnapshot worker ctx else [.failed .noSuchDomain "No such domain"]
  | some .save => doSnapshot worker { ctx with save := true }
  | some .restore => doSnapshot worker { ctx with save := false, restore := true }
  | some .deleteSnapshot => [.complete]

/-- The answers of libvirt are those the worker got. -/
def Answers (worker : WorkerCalls) (acts : List (WorkerCall × Bool)) : Prop :=
  ∀ act ∈ acts, ∀ answer ∈ worker.answer act.1, answer = act.2

/-- From the restore on, nothing depends on whether the guest was saved. -/
theorem remaining_toRestore (worker : WorkerCalls) (ctx : SnapContext) :
    (toRestore ctx).2 ++ remaining worker ctx (toRestore ctx).1 =
      doSnapshot worker { ctx with save := false } := by
  unfold toRestore
  split_ifs with hrestore
  · show doSnapshot worker { ctx with save := false, restore := true } = _
    rw [← hrestore]
  · simp [toComplete, remaining, doSnapshot, hrestore]

/-- **One call.** What is written after it and what remains then is what remained before. -/
theorem remaining_afterCall {worker : WorkerCalls} (ctx : SnapContext) {call : WorkerCall}
    {ok : Bool} (h : Answers worker [(call, ok)]) :
    (afterCall ctx call ok).2 ++ remaining worker ctx (afterCall ctx call ok).1 =
      remaining worker ctx (some call) := by
  -- the answer the worker has had is the one it is given
  have hanswer : ∀ answer ∈ worker.answer call, answer = ok :=
    h (call, ok) (List.mem_singleton_self _)
  cases call with
  | connect =>
    obtain rfl : worker.connect = ok := hanswer _ rfl
    cases hconnect : worker.connect <;> simp [afterCall, remaining, hconnect]
  -- the look-up decides whether there is anything to save
  | lookup =>
    obtain rfl : worker.lookup = ok := hanswer _ rfl
    cases hlookup : worker.lookup with
    | false => simp [afterCall, remaining, hlookup]
    | true =>
      rw [remaining, if_pos hlookup, afterCall]
      split_ifs with hsave
      · show doSnapshot worker { ctx with save := true } = _
        rw [← hsave]
      · rw [remaining_toRestore]
        rw [show false = ctx.save from (Bool.eq_false_iff.mpr hsave).symm]
  | save =>
    obtain rfl : worker.save = ok := hanswer _ rfl
    cases hsave : worker.save with
    | false => simp [afterCall, remaining, doSnapshot, hsave]
    | true =>
      -- after the save, what is left is the restore
      show JobUpdate.running "Save finished" ::
        ((toRestore ctx).2 ++ remaining worker ctx (toRestore ctx).1) = _
      rw [remaining_toRestore]
      simp [remaining, doSnapshot, hsave]
  | restore =>
    obtain rfl : worker.restore = ok := hanswer _ rfl
    cases hrestore : worker.restore with
    | false => simp [afterCall, remaining, doSnapshot, hrestore]
    -- the image is only deleted when the job has made it
    | true =>
      rw [afterCall]
      split_ifs <;> simp [remaining, doSnapshot, hrestore]
  | deleteSnapshot => rfl

/-- The order of the calls. -/
def WorkerCall.rank : WorkerCall → ℕ
  | .connect => 0
  | .lookup => 1
  | .save => 2
  | .restore => 3
  | .deleteSnapshot => 4

/-- The next call comes behind the last one. -/
theorem rank_lt_of_afterCall {ctx : SnapContext} {call next : WorkerCall} {ok : Bool}
    (h : (afterCall ctx call ok).1 = some next) : call.rank < next.rank := by
  cases call <;> cases ok <;>
    simp only [afterCall, toRestore, toComplete] at h <;>
    (try split_ifs at h) <;> cases h <;> decide

/-- What a worker has been through: the calls came in order, and what it has written and what
remains make up what `snapshot_thread` writes. -/
structure WorkerInv (task : SnapContext) (acts : List (WorkerCall × Bool)) (worker : Worker) :
    Prop where
  ctx : worker.ctx = task
  /-- no call is made twice -/
  inOrder : (acts.map fun act => act.1.rank).Pairwise (· < ·)
  /-- the call that is waited for is a later one -/
  pending : ∀ call ∈ worker.pending, ∀ act ∈ acts, act.1.rank < call.rank
  written : ∀ answers, Answers answers acts →
    worker.written ++ remaining answers task worker.pending = snapshotThread answers task

theorem WorkerInv.start (task : SnapContext) : WorkerInv task [] (Worker.start task) where
  ctx := rfl
  inOrder := List.Pairwise.nil
  pending := by
    intro call _ act hact
    cases hact
  written := by
    intro answers _
    unfold snapshotThread
    show JobUpdate.running "Running" :: remaining answers task (some .connect) = _
    rw [remaining]
    cases answers.connect <;> cases answers.lookup <;> rfl

theorem WorkerInv.next {task : SnapContext} {acts : List (WorkerCall × Bool)}
    {worker worker' : Worker} {act : WorkerCall × Bool} (h : WorkerInv task acts worker)
    (hnext : snapshotProgram.next worker act = some worker') :
    WorkerInv task (acts ++ [act]) worker' := by
  obtain ⟨call, ok⟩ := act
  simp only [snapshotProgram] at hnext
  split_ifs at hnext with hpending
  obtain rfl := Option.some.inj hnext
  have hctx := h.ctx
  -- the calls keep their order, and what is left to write is what the body would write
  refine ⟨hctx, ?_, ?_, ?_⟩
  · rw [List.map_append, List.pairwise_append]
    refine ⟨h.inOrder, List.pairwise_singleton _ _, ?_⟩
    intro rank hrank last hlast
    obtain ⟨act, hact, rfl⟩ := List.mem_map.mp hrank
    obtain rfl := List.mem_singleton.mp hlast
    exact h.pending call hpending act hact
  · intro next hnext act hact
    have hlast : call.rank < next.rank := rank_lt_of_afterCall hnext
    obtain hact | hact := List.mem_append.mp hact
    · exact (h.pending call hpending act hact).trans hlast
    · obtain rfl := List.mem_singleton.mp hact
      exact hlast
  -- both the calls before and this one are answered alike
  · intro answers hanswers
    have hbefore : Answers answers acts := fun act hact =>
      hanswers act (List.mem_append_left _ hact)
    have hthis : Answers answers [(call, ok)] := fun act hact =>
      hanswers act (List.mem_append_right _ hact)
    rw [← h.written answers hbefore, hpending, List.append_assoc, hctx,
      remaining_afterCall task hthis]

/-- The answers a worker got are answers libvirt can give: no call has been answered twice. -/
theorem WorkerInv.answers {task : SnapContext} {acts : List (WorkerCall × Bool)} {worker : Worker}
    (h : WorkerInv task acts worker) : Answers (answersOf acts) acts := by
  have honce (call : WorkerCall) (ok : Bool) (hact : (call, ok) ∈ acts) :
      decide ((call, true) ∈ acts) = ok := by
    cases ok with
    | true => exact decide_eq_true hact
    | false =>
      refine decide_eq_false fun htrue => ?_
      -- two acts of the same rank are one act
      have hinj := List.inj_on_of_nodup_map
        (h.inOrder.imp fun hlt => Nat.ne_of_lt hlt) htrue hact rfl
      exact Bool.noConfusion (Prod.mk.inj hinj).2
  rintro ⟨call, ok⟩ hact answer hanswer
  cases call with
  | deleteSnapshot => cases hanswer
  | _ =>
    obtain rfl := Option.some.inj hanswer
    exact honce _ ok hact

/-- The acts of the workers in the service. -/
def ServiceLabel.act? : ServiceLabel M → Option (ℕ × (WorkerCall × Bool))
  | .worker i _ call ok => some (i, (call, ok))
  | _ => none

/-- The workers of the service follow their program. -/
theorem staffed (guests : String → GuestMemory M) :
    Staffed snapshotProgram ServiceLabel.act? (snapshotSystem guests) ServiceState.workers where
  acts := by
    intro s l t i act hstep hact
    cases serviceStep_of_step? hstep with
    | worker hworker hnext _ =>
      cases hact
      exact ⟨_, _, hworker, hnext, rfl⟩
    | _ => cases hact
  begins := by
    intro s l t hstep hact
    cases serviceStep_of_step? hstep with
    | request ref calls request => exact ⟨_, rfl⟩
    | worker => cases hact
    | _ => exact ⟨[], (List.append_nil _).symm⟩

/-- What every worker has been through. -/
theorem workerInv_of_run {guests : String → GuestMemory M} {s : ServiceState M}
    {ls : List (ServiceLabel M)}
    (hrun : Run (snapshotSystem guests) (snapshotSystem guests).init ls s) {i : ℕ}
    {worker : Worker} (hworker : s.workers[i]? = some worker) :
    WorkerInv worker.ctx (ownActs ServiceLabel.act? i ls) worker := by
  obtain ⟨task, hfollow⟩ := (staffed guests).follows hrun rfl hworker
  have hinv : WorkerInv task (ownActs ServiceLabel.act? i ls) worker :=
    snapshotProgram.follow_invariant (fun acts pos act pos' h hnext => h.next hnext)
      (WorkerInv.start task) hfollow
  rw [hinv.ctx]
  exact hinv

/-- **What a worker has written when it has ended** is what `snapshot_thread` writes for the
answers it got, in whatever order the workers of the service took their turns. By
`workerInv_of_run` what it has written and what is still left to it are the whole at every moment,
and a worker that has ended has nothing left. -/
theorem written_eq_snapshotThread {guests : String → GuestMemory M} {s : ServiceState M}
    {ls : List (ServiceLabel M)}
    (hrun : Run (snapshotSystem guests) (snapshotSystem guests).init ls s) {i : ℕ}
    {worker : Worker} (hworker : s.workers[i]? = some worker) (hended : worker.pending = none) :
    worker.written =
      snapshotThread (answersOf (ownActs ServiceLabel.act? i ls)) worker.ctx := by
  have hinv := workerInv_of_run hrun hworker
  rw [← hinv.written _ hinv.answers, hended, remaining, List.append_nil]

/-! ### The memory of a guest -/

/-- What happened to a guest. -/
def eventsOf (domain : String) (ls : List (ServiceLabel M)) : List (GuestEvent M) :=
  ls.filterMap (ServiceLabel.event? domain)

theorem eventsOf_append (domain : String) (ls ls' : List (ServiceLabel M)) :
    eventsOf domain (ls ++ ls') = eventsOf domain ls ++ eventsOf domain ls' :=
  List.filterMap_append

theorem eventsOf_singleton (domain : String) (l : ServiceLabel M) :
    eventsOf domain [l] = (l.event? domain).toList := by
  cases h : l.event? domain <;> simp [eventsOf, h]

/-- **A step changes a guest by its event**, and leaves every other one as it is. -/
theorem guest_of_step {s t : ServiceState M} {l : ServiceLabel M} (h : s.step? l = some t)
    (domain : String) :
    (guestProgram M).follow (s.guests domain) (l.event? domain).toList =
      some (t.guests domain) := by
  -- one event, to one guest
  have hone {name : String} {event? : Option (GuestEvent M)} {g : GuestMemory M}
      (hguest : (guestProgram M).follow (s.guests name) event?.toList = some g) :
      (guestProgram M).follow (s.guests domain)
          (if name = domain then event? else none).toList =
        some ((s.withGuest name g).guests domain) := by
    show _ = some (if domain = name then g else s.guests domain)
    by_cases hname : name = domain
    · subst hname
      rw [if_pos rfl, if_pos rfl]
      exact hguest
    · rw [if_neg hname, if_neg (Ne.symm hname)]
      rfl
  have hsingle {name : String} {event : GuestEvent M} {g : GuestMemory M}
      (hguest : event.apply (s.guests name) = some g) :
      (guestProgram M).follow (s.guests name) (some event).toList = some g := by
    show (event.apply (s.guests name)).bind _ = _
    rw [hguest]
    rfl
  -- by the step: a request starts a job and leaves the guests alone
  cases serviceStep_of_step? h with
  | request => rfl
  | @destroyed calls snapshot name g hdomain hguest =>
    show (guestProgram M).follow _ (if destroyedDomain calls snapshot = some domain
      then some GuestEvent.removed else none).toList = _
    rw [hdomain]
    simp only [Option.some.injEq]
    exact hone (hsingle hguest)
  | @notDestroyed calls snapshot hnone =>
    show (guestProgram M).follow _ (if destroyedDomain calls snapshot = some domain
      then some GuestEvent.removed else none).toList = _
    rw [hnone, if_neg (by simp)]
    rfl
  | worker hworker hnext hguest => exact hone hguest
  | guest hevent hguest => exact hone (hsingle hguest)

theorem guest_of_run {guests : String → GuestMemory M} {s t : ServiceState M}
    {ls : List (ServiceLabel M)} (hrun : Run (snapshotSystem guests) s ls t) (domain : String) :
    (guestProgram M).follow (s.guests domain) (eventsOf domain ls) = some (t.guests domain) :=
  Program.follow_of_run (fun s => s.guests domain) (ServiceLabel.event? domain)
    (fun _ _ _ hstep => guest_of_step hstep domain) hrun

/-- The memory is kept: the guest is on with it, or off with an image of it. -/
def KeptMemory (g : GuestMemory M) (m : M) : Prop :=
  g.running = some m ∨ g.running = none ∧ g.image = some m

/-- The memory that a guest has come to, seen from what happened. -/
def GuestEvent.memory (m : M) : GuestEvent M → M
  | .ran m' | .booted m' | .reset m' => m'
  | .saved | .restored | .removed | .ended => m

/-- The memory a guest has come to after all that happened. -/
def latest (m : M) (events : List (GuestEvent M)) : M :=
  events.foldl GuestEvent.memory m

/-- Whether the guest is on afterwards. -/
def GuestEvent.on (on : Bool) : GuestEvent M → Bool
  | .saved | .ended => false
  | .restored | .booted _ | .reset _ => true
  | .removed | .ran _ => on

/-- Whether the guest is on after all that happened: the last save, restore, start or end
decides. -/
def isOn (on : Bool) (events : List (GuestEvent M)) : Bool :=
  events.foldl GuestEvent.on on

/-- The memory is given up: the guest is ended, or reset. -/
def GuestEvent.Ends (event : GuestEvent M) : Prop :=
  event = .ended ∨ ∃ m, event = .reset m

theorem latest_append (m : M) (events events' : List (GuestEvent M)) :
    latest m (events ++ events') = latest (latest m events) events' :=
  List.foldl_append

theorem isOn_append (on : Bool) (events events' : List (GuestEvent M)) :
    isOn on (events ++ events') = isOn (isOn on events) events' :=
  List.foldl_append

/-- One event, and whether the guest is on. -/
theorem isSome_running_apply {event : GuestEvent M} {g g' : GuestMemory M}
    (h : event.apply g = some g') : g'.running.isSome = event.on g.running.isSome := by
  -- whether the guest is on follows from the event alone
  cases event with
  | saved =>
    obtain ⟨m, -, rfl⟩ := Option.map_eq_some_iff.mp h
    rfl
  | restored =>
    rw [GuestEvent.apply] at h
    split_ifs at h
    obtain ⟨m, -, rfl⟩ := Option.map_eq_some_iff.mp h
    rfl
  | removed =>
    obtain ⟨m, -, rfl⟩ := Option.map_eq_some_iff.mp h
    rfl
  | ran m' =>
    obtain ⟨m, hm, rfl⟩ := Option.map_eq_some_iff.mp h
    rw [hm]
    rfl
  | booted m' =>
    -- a boot needs a guest that is off
    rw [GuestEvent.apply] at h
    split_ifs at h
    obtain rfl := Option.some.inj h
    rfl
  | ended =>
    obtain ⟨m, -, rfl⟩ := Option.map_eq_some_iff.mp h
    rfl
  | reset m' =>
    obtain ⟨m, -, rfl⟩ := Option.map_eq_some_iff.mp h
    rfl

/-- **Whether a guest is on** is told by the history. -/
theorem isSome_running_of_run {guests : String → GuestMemory M} {s t : ServiceState M}
    {ls : List (ServiceLabel M)} (hrun : Run (snapshotSystem guests) s ls t) (domain : String) :
    (t.guests domain).running.isSome =
      isOn (s.guests domain).running.isSome (eventsOf domain ls) := by
  refine (guestProgram M).follow_invariant
    (I := fun events g => g.running.isSome = isOn (s.guests domain).running.isSome events)
    ?_ rfl (guest_of_run hrun domain)
  intro events g event g' hon hnext
  rw [isOn_append, ← hon]
  exact isSome_running_apply hnext

/-- **One event keeps the memory**, if the guest is on when the image is removed, and is not
ended. -/
theorem KeptMemory.apply {g g' : GuestMemory M} {m : M} {event : GuestEvent M}
    (h : KeptMemory g m) (happly : event.apply g = some g') (hends : ¬ event.Ends)
    (hremoved : event = .removed → g.running.isSome = true) :
    KeptMemory g' (event.memory m) := by
  cases event with
  -- saving moves the memory into the image
  | saved =>
    obtain ⟨m', hm', rfl⟩ := Option.map_eq_some_iff.mp happly
    obtain hon | ⟨hoff, -⟩ := h
    · rw [hm'] at hon
      exact .inr ⟨rfl, hon⟩
    · rw [hm'] at hoff
      cases hoff
  -- restoring moves it back, and needs a guest that is off
  | restored =>
    rw [GuestEvent.apply] at happly
    split_ifs at happly with hon
    obtain ⟨m', hm', rfl⟩ := Option.map_eq_some_iff.mp happly
    obtain hrunning | ⟨-, himage⟩ := h
    · rw [hrunning] at hon
      exact absurd rfl hon
    · rw [hm'] at himage
      exact .inl himage
  -- removing the image loses it unless the guest is on
  | removed =>
    obtain ⟨m', -, rfl⟩ := Option.map_eq_some_iff.mp happly
    obtain hon | ⟨hoff, -⟩ := h
    · exact .inl hon
    · have hsome := hremoved rfl
      rw [hoff] at hsome
      cases hsome
  -- what ran since is the memory now
  | ran m' =>
    obtain ⟨_, -, rfl⟩ := Option.map_eq_some_iff.mp happly
    exact .inl rfl
  | booted m' =>
    -- a guest that is off has an image, and is not booted
    rw [GuestEvent.apply] at happly
    split_ifs at happly with hnot
    obtain hon | ⟨-, himage⟩ := h
    · exact absurd (.inl (by rw [hon]; rfl)) hnot
    · exact absurd (.inr (by rw [himage]; rfl)) hnot
  | ended => exact absurd (.inl rfl) hends
  | reset m' => exact absurd (.inr ⟨m', rfl⟩) hends

/-- An image that is removed while the guest is off takes the memory with it. -/
theorem not_keptMemory_removed {g g' : GuestMemory M} (h : GuestEvent.removed.apply g = some g')
    (hoff : g.running.isSome = false) (m : M) : ¬ KeptMemory g' m := by
  obtain ⟨m', -, rfl⟩ := Option.map_eq_some_iff.mp h
  rintro (hon | ⟨-, himage⟩)
  · rw [show g.running = some m from hon] at hoff
    cases hoff
  · cases himage

/-- Each image is removed while the guest is on. -/
def RemovedWhileOn (domain : String) (on : Bool) (pre : List (ServiceLabel M))
    (l : ServiceLabel M) : Prop :=
  l.event? domain = some .removed → isOn on (eventsOf domain pre) = true

/-- The memory is kept if no image is removed while the guest is off. -/
theorem keptMemory_of_run {guests : String → GuestMemory M} {s t : ServiceState M}
    {ls : List (ServiceLabel M)} (hrun : Run (snapshotSystem guests) s ls t) {domain : String}
    {m : M} (hkept : KeptMemory (s.guests domain) m)
    (hends : ∀ event ∈ eventsOf domain ls, ¬ event.Ends)
    (halong : Along (RemovedWhileOn domain (s.guests domain).running.isSome) ls) :
    KeptMemory (t.guests domain) (latest m (eventsOf domain ls)) := by
  induction hrun with
  | nil => exact hkept
  | @snoc t u ls l hrun hstep ih =>
    rw [eventsOf_append, eventsOf_singleton] at hends ⊢
    have hbefore : KeptMemory (t.guests domain) (latest m (eventsOf domain ls)) :=
      ih (fun event hevent => hends event (List.mem_append_left _ hevent)) halong.of_append
    have hguest := guest_of_step hstep domain
    rw [latest_append]
    -- the last event is added to those before
    cases hevent : l.event? domain with
    -- a step of another guest
    | none =>
      rw [hevent] at hguest
      obtain hsame : t.guests domain = u.guests domain := Option.some.inj hguest
      rw [← hsame]
      exact hbefore
    -- an event of this guest, which keeps its memory under the condition
    | some event =>
      rw [hevent] at hguest hends
      obtain ⟨g, happly, hg⟩ := Option.bind_eq_some_iff.mp hguest
      obtain rfl : g = u.guests domain := Option.some.inj hg
      have hnot := hends event (List.mem_append_right _ (List.mem_singleton_self _))
      refine hbefore.apply happly hnot ?_
      rintro rfl
      rw [isSome_running_of_run hrun domain]
      exact halong.last hevent

/-- At every moment of a run the guest is on with the memory it has come to, or off with an image
of it. -/
def KeptThroughout (guests : String → GuestMemory M) (s : ServiceState M)
    (ls : List (ServiceLabel M)) (t : ServiceState M) (domain : String) (m : M) : Prop :=
  ∀ pre post u, ls = pre ++ post → Run (snapshotSystem guests) s pre u →
    Run (snapshotSystem guests) u post t →
    KeptMemory (u.guests domain) (latest m (eventsOf domain pre))

/-- The memory of a guest that is not ended is kept exactly if, whenever the image is removed, the
last save or restore of the guest was a restore. -/
theorem keptThroughout_iff_removedWhileOn {guests : String → GuestMemory M} {s t : ServiceState M}
    {ls : List (ServiceLabel M)} (hrun : Run (snapshotSystem guests) s ls t) {domain : String}
    {m : M} (hkept : KeptMemory (s.guests domain) m)
    (hends : ∀ event ∈ eventsOf domain ls, ¬ event.Ends) :
    KeptThroughout guests s ls t domain m ↔
      Along (RemovedWhileOn domain (s.guests domain).running.isSome) ls := by
  constructor
  -- a removal while the guest is off would be the end of both copies
  · rintro hall pre l post rfl hremoved
    obtain ⟨u, hbefore, hrest⟩ := hrun.exists_between
    obtain ⟨v, hthis, hafter⟩ := @Run.exists_between _ _ _ u t [l] post hrest
    have hkept' := hall (pre ++ [l]) post v (by simp) (hbefore.append hthis) hafter
    -- the step removes the image
    have hguest := guest_of_run hthis domain
    rw [eventsOf_singleton, hremoved] at hguest
    obtain ⟨g, happly, hg⟩ := Option.bind_eq_some_iff.mp hguest
    obtain rfl : g = v.guests domain := Option.some.inj hg
    rw [← isSome_running_of_run hbefore domain]
    by_contra hoff
    exact not_keptMemory_removed happly (Bool.eq_false_iff.mpr hoff) _ hkept'
  -- and back: up to each state of the run, the condition holds of the steps before
  · rintro halong pre post u rfl hbefore -
    refine keptMemory_of_run hbefore hkept ?_ halong.of_append
    intro event hevent
    refine hends event ?_
    rw [eventsOf_append]
    exact List.mem_append_left _ hevent

/-! ### Jobs that do not disturb each other -/

/-- A worker that is about to remove the image has just restored the guest. -/
theorem restored_of_pending_delete {task : SnapContext} {acts : List (WorkerCall × Bool)}
    {worker : Worker} (h : snapshotProgram.follow (Worker.start task) acts = some worker)
    (hpending : worker.pending = some .deleteSnapshot) :
    ∃ before, acts = before ++ [(.restore, true)] := by
  refine snapshotProgram.follow_invariant
    (I := fun acts worker => worker.pending = some .deleteSnapshot →
      ∃ before, acts = before ++ [(.restore, true)]) ?_ ?_ h hpending
  · rintro acts worker ⟨call, ok⟩ worker' - hnext hdelete
    simp only [snapshotProgram] at hnext
    split_ifs at hnext with hcall
    obtain rfl := Option.some.inj hnext
    refine ⟨acts, ?_⟩
    -- only the restore leads to the removal
    cases call <;> cases ok <;>
      simp only [afterCall, toRestore, toComplete] at hdelete <;>
      (try split_ifs at hdelete) <;> first | rfl | cases hdelete
  · intro hstart
    cases hstart

/-- A worker keeps its context. -/
theorem ctx_of_run {guests : String → GuestMemory M} {s t : ServiceState M}
    {ls : List (ServiceLabel M)} (hrun : Run (snapshotSystem guests) s ls t) {i : ℕ}
    {worker : Worker} (hworker : s.workers[i]? = some worker) :
    ∃ worker', t.workers[i]? = some worker' ∧ worker'.ctx = worker.ctx := by
  induction hrun with
  | nil => exact ⟨worker, hworker, rfl⟩
  | @snoc t u ls l hrun hstep ih =>
    obtain ⟨before, hbefore, hctx⟩ := ih
    cases hact : l.act? with
    -- a request adds a worker, and those there stay
    | none =>
      obtain ⟨tasks, hworkers⟩ := (staffed guests).begins t l u hstep hact
      have hi : i < t.workers.length := (List.getElem?_eq_some_iff.mp hbefore).1
      refine ⟨before, ?_, hctx⟩
      rw [hworkers, List.getElem?_append_left hi]
      exact hbefore
    -- the worker that acts keeps its context
    | some own =>
      obtain ⟨j, act⟩ := own
      obtain ⟨acting, acted, hacting, hnext, hworkers⟩ :=
        (staffed guests).acts t l u j act hstep hact
      rw [hworkers, List.getElem?_set]
      split_ifs with hj hlength
      · subst hj
        rw [hbefore] at hacting
        obtain rfl := Option.some.inj hacting
        refine ⟨acted, rfl, ?_⟩
        simp only [snapshotProgram] at hnext
        split_ifs at hnext
        obtain rfl := Option.some.inj hnext
        exact hctx
      · exact absurd (List.getElem?_eq_some_iff.mp (hj ▸ hbefore)).1 hlength
      · exact ⟨before, hbefore, hctx⟩

/-- No job saves the guest between the restore of another and the removal of the image that
follows. -/
def Undisturbed (domain : String) (ls : List (ServiceLabel M)) : Prop :=
  ∀ front i mid back, ls = front ++ .worker i domain .restore true :: mid ++
      .worker i domain .deleteSnapshot true :: back →
    ∀ l ∈ mid, l.event? domain ≠ some .saved

/-- No image of the guest is removed by `DestroySnapshot`. -/
def NotDestroyed (domain : String) (ls : List (ServiceLabel M)) : Prop :=
  ∀ calls snapshot, .destroy calls snapshot ∈ ls → destroyedDomain calls snapshot ≠ some domain

/-- A guest that is on stays on if it is neither saved nor ended. -/
theorem isOn_of_not_saved {events : List (GuestEvent M)}
    (h : ∀ event ∈ events, event ≠ .saved ∧ event ≠ .ended) : isOn true events = true := by
  induction events with
  | nil => rfl
  | cons event events ih =>
    have hon : event.on true = true := by
      obtain ⟨hsaved, hended⟩ := h event List.mem_cons_self
      cases event with
      | saved => exact absurd rfl hsaved
      | ended => exact absurd rfl hended
      | _ => rfl
    show isOn (event.on true) events = true
    rw [hon]
    exact ih fun event hevent => h event (List.mem_cons_of_mem _ hevent)

/-- **A job removes an image only behind a restore of its own.** No other step of the service
removes one, if `DestroySnapshot` does not. -/
theorem exists_restore_of_removed {guests : String → GuestMemory M} {t : ServiceState M}
    {pre post : List (ServiceLabel M)} {l : ServiceLabel M}
    (hrun : Run (snapshotSystem guests) (snapshotSystem guests).init (pre ++ l :: post) t)
    {domain : String} (hdestroy : NotDestroyed domain (pre ++ l :: post))
    (hremoved : l.event? domain = some .removed) :
    ∃ front i mid, pre = front ++ .worker i domain .restore true :: mid ∧
      l = .worker i domain .deleteSnapshot true := by
  obtain ⟨u, v, hbefore, hstep, -⟩ := hrun.exists_step
  cases serviceStep_of_step? hstep with
  -- of the steps only a worker's and a destruction remove an image
  | request => cases hremoved
  | @destroyed calls snapshot name g hdomain hguest =>
    have hmem : ServiceLabel.destroy calls snapshot ∈ pre ++ .destroy calls snapshot :: post :=
      List.mem_append_right _ List.mem_cons_self
    refine absurd ?_ (hdestroy calls snapshot hmem)
    by_contra hne
    rw [ServiceLabel.event?, if_neg hne] at hremoved
    cases hremoved
  | @notDestroyed calls snapshot hnone =>
    rw [ServiceLabel.event?, hnone, if_neg (by simp)] at hremoved
    cases hremoved
  | @guest name event g hevent hguest =>
    rw [ServiceLabel.event?] at hremoved
    split_ifs at hremoved
    obtain rfl := Option.some.inj hremoved
    cases hevent
  | @worker i worker worker' call ok g hworker hnext hguest =>
    rw [ServiceLabel.event?] at hremoved
    split_ifs at hremoved with hname
    -- the worker removes the image, so its last call was the restore
    have hcall : call = .deleteSnapshot ∧ ok = true := by
      cases call <;> cases ok <;> first | exact ⟨rfl, rfl⟩ | cases hremoved
    obtain ⟨rfl, rfl⟩ := hcall
    have hpending : worker.pending = some .deleteSnapshot := by
      simp only [snapshotProgram] at hnext
      split_ifs at hnext with hpending
      exact hpending
    obtain ⟨task, hfollow⟩ := (staffed guests).follows hbefore rfl hworker
    obtain ⟨acts, hacts⟩ := restored_of_pending_delete hfollow hpending
    obtain ⟨front, restore, mid, rfl, hrestore, -⟩ := exists_lastOwn hacts
    obtain ⟨name, rfl⟩ : ∃ name, restore = .worker i name .restore true := by
      cases restore with
      | worker j name call ok =>
        cases hrestore
        exact ⟨name, rfl⟩
      | _ => cases hrestore
    -- which was one of the same guest, as a worker keeps its context
    obtain ⟨r, r', -, hrestored, hmid⟩ := hbefore.exists_step
    have hsame : name = domain := by
      cases serviceStep_of_step? hrestored with
      | @worker _ restoring restored _ _ _ hrestoring hrestored' _ =>
        have hi : i < r.workers.length := (List.getElem?_eq_some_iff.mp hrestoring).1
        obtain ⟨found, hfound, hctx⟩ :=
          ctx_of_run hmid (List.getElem?_set_self (a := restored) hi)
        rw [hworker] at hfound
        obtain rfl := Option.some.inj hfound
        simp only [snapshotProgram] at hrestored'
        split_ifs at hrestored'
        obtain rfl := Option.some.inj hrestored'
        rw [← hname, hctx]
    subst hsame
    exact ⟨front, i, mid, rfl, by rw [hname]⟩

/-- Between the restore of a job and the removal of the image that follows it, the last save or
restore of the guest, if there is one, is a restore. -/
def RestoredLast (domain : String) (ls : List (ServiceLabel M)) : Prop :=
  ∀ front i mid back, ls = front ++ .worker i domain .restore true :: mid ++
      .worker i domain .deleteSnapshot true :: back →
    isOn true (eventsOf domain mid) = true

/-- A guest is on behind a restore, so what follows decides. -/
theorem isOn_restored (domain : String) (on : Bool) (front mid : List (ServiceLabel M)) (i : ℕ) :
    isOn on (eventsOf domain (front ++ .worker i domain .restore true :: mid)) =
      isOn true (eventsOf domain mid) := by
  have hrestore : eventsOf domain [ServiceLabel.worker (M := M) i domain .restore true] =
      [.restored] := by
    rw [eventsOf_singleton]
    show (if domain = domain then some GuestEvent.restored else none).toList = _
    rw [if_pos rfl]
    rfl
  rw [List.append_cons, eventsOf_append, eventsOf_append, hrestore, isOn_append, isOn_append]
  rfl

/-- Whenever a job removes the image the guest is on, exactly if it was restored last. -/
theorem removedWhileOn_iff_restoredLast {guests : String → GuestMemory M} {t : ServiceState M}
    {ls : List (ServiceLabel M)}
    (hrun : Run (snapshotSystem guests) (snapshotSystem guests).init ls t) {domain : String}
    (hdestroy : NotDestroyed domain ls) (on : Bool) :
    Along (RemovedWhileOn domain on) ls ↔ RestoredLast domain ls := by
  constructor
  -- the removal follows a restore, after which the guest is on
  · rintro halong front i mid back rfl
    rw [← isOn_restored domain on front mid i]
    refine halong (front ++ .worker i domain .restore true :: mid)
      (.worker i domain .deleteSnapshot true) back rfl ?_
    show (if domain = domain then some GuestEvent.removed else none) = _
    exact if_pos rfl
  -- and each removal is one of those
  · rintro hlast pre l post rfl hremoved
    obtain ⟨front, i, mid, rfl, rfl⟩ := exists_restore_of_removed hrun hdestroy hremoved
    rw [isOn_restored]
    exact hlast front i mid post rfl

/-- **When the memory of a guest is never lost nor set back.** In a run from the start of the
service, a guest that is on or saved, that nobody ends and whose image `DestroySnapshot` leaves
alone, is at every moment on with the memory it has come to, or off with an image of it, if and
only if no job removes the image while a save of another has come behind its restore, and no
restore behind that. Of the worker this needs that it removes the image only behind its own
restore (`exists_restore_of_removed`), so no other step can lose the memory. -/
theorem memory_kept_iff_restoredLast {guests : String → GuestMemory M} {t : ServiceState M}
    {ls : List (ServiceLabel M)}
    (hrun : Run (snapshotSystem guests) (snapshotSystem guests).init ls t) {domain : String}
    {m : M} (hkept : KeptMemory (guests domain) m)
    (hends : ∀ event ∈ eventsOf domain ls, ¬ event.Ends) (hdestroy : NotDestroyed domain ls) :
    KeptThroughout guests (snapshotSystem guests).init ls t domain m ↔
      RestoredLast domain ls :=
  (keptThroughout_iff_removedWhileOn hrun hkept hends).trans
    (removedWhileOn_iff_restoredLast hrun hdestroy _)

/-- A guest that is not saved behind a restore was restored last. -/
theorem restoredLast_of_undisturbed {domain : String} {ls : List (ServiceLabel M)}
    (hends : ∀ event ∈ eventsOf domain ls, ¬ event.Ends) (hundisturbed : Undisturbed domain ls) :
    RestoredLast domain ls := by
  rintro front i mid back rfl
  refine isOn_of_not_saved fun event hevent => ⟨?_, ?_⟩
  · rintro rfl
    obtain ⟨l, hl, hsaved⟩ := List.mem_filterMap.mp hevent
    exact hundisturbed front i mid back rfl l hl hsaved
  · rintro rfl
    obtain ⟨l, hl, hended⟩ := List.mem_filterMap.mp hevent
    refine hends .ended (List.mem_filterMap.mpr ⟨l, ?_, hended⟩) (.inl rfl)
    exact List.mem_append_left _ (List.mem_append_right _ (List.mem_cons_of_mem _ hl))

/-- **Jobs that do not disturb each other keep the memory.** A guest that is not ended, and whose
image `DestroySnapshot` leaves alone, keeps its memory through all its jobs, if none of them saves
it between the restore of another and the removal of the image that follows. It was restored last
when an image is removed (`restoredLast_of_undisturbed`), so it is on then, which is all that
`keptMemory_of_run` asks for. -/
theorem memory_kept_of_undisturbed {guests : String → GuestMemory M} {t : ServiceState M}
    {ls : List (ServiceLabel M)}
    (hrun : Run (snapshotSystem guests) (snapshotSystem guests).init ls t) {domain : String}
    {m : M} (hkept : KeptMemory (guests domain) m)
    (hends : ∀ event ∈ eventsOf domain ls, ¬ event.Ends) (hdestroy : NotDestroyed domain ls)
    (hundisturbed : Undisturbed domain ls) :
    KeptMemory (t.guests domain) (latest m (eventsOf domain ls)) :=
  keptMemory_of_run hrun hkept hends ((removedWhileOn_iff_restoredLast hrun hdestroy _).mpr
    (restoredLast_of_undisturbed hends hundisturbed))

/-! ### Two jobs of one guest -/

/-- A broker and a host on which everything goes well. -/
def grantingBroker : SnapshotCalls :=
  { refusingBroker with createInstance := fun job => (some ⟨"root/virt", job.instanceId⟩, .ok) }

/-- A guest that was saved. -/
def savedGuest : String → GuestMemory ℕ := fun _ => ⟨none, some 0⟩

/-- The snapshot of the guest is applied. -/
def snapshotApplied : List (ServiceLabel ℕ) :=
  [.request snapshotServiceRef grantingBroker (.apply (some (some "KVM:vm1"))),
    .worker 0 "vm1" .connect true, .worker 0 "vm1" .lookup true, .worker 0 "vm1" .restore true,
    .guest "vm1" (.ran 1), .worker 0 "vm1" .deleteSnapshot true]

/-- Another one is taken meanwhile, and saves the guest before the old image is removed. -/
def snapshotsOverlapping : List (ServiceLabel ℕ) :=
  [.request snapshotServiceRef grantingBroker (.apply (some (some "KVM:vm1"))),
    .request snapshotServiceRef grantingBroker memorySnapshot,
    .worker 0 "vm1" .connect true, .worker 0 "vm1" .lookup true,
    .worker 1 "vm1" .connect true, .worker 1 "vm1" .lookup true,
    .worker 0 "vm1" .restore true, .guest "vm1" (.ran 1), .worker 1 "vm1" .save true,
    .worker 0 "vm1" .deleteSnapshot true, .worker 1 "vm1" .restore false]

theorem exists_run_of_isSome (guests : String → GuestMemory M) (ls : List (ServiceLabel M))
    (h : (ls.foldlM ServiceState.step? (snapshotSystem guests).init).isSome = true) :
    ∃ t, ls.foldlM ServiceState.step? (snapshotSystem guests).init = some t ∧
      Run (snapshotSystem guests) (snapshotSystem guests).init ls t := by
  obtain ⟨t, ht⟩ := Option.isSome_iff_exists.mp h
  exact ⟨t, ht, Run.of_foldlM (fun _ _ _ hstep => hstep) ht⟩

/-- The worker of the snapshot that is applied ends with its job completed, although the other
job has taken its turns between the calls. -/
theorem written_snapshotsOverlapping : ∃ t worker,
    Run (snapshotSystem savedGuest) (snapshotSystem savedGuest).init snapshotsOverlapping t ∧
      t.workers[0]? = some worker ∧
      worker.written =
        snapshotThread (answersOf (ownActs ServiceLabel.act? 0 snapshotsOverlapping))
          worker.ctx := by
  obtain ⟨t, ht, hrun⟩ := exists_run_of_isSome savedGuest snapshotsOverlapping (by decide +kernel)
  have hended : ((snapshotsOverlapping.foldlM ServiceState.step?
      (snapshotSystem savedGuest).init).bind fun t => t.workers[0]?).map Worker.pending =
      some none := by
    decide +kernel
  rw [ht] at hended
  obtain ⟨worker, hworker, hpending⟩ := Option.map_eq_some_iff.mp hended
  exact ⟨t, worker, hrun, hworker, written_eq_snapshotThread hrun hworker hpending⟩

/-- **The memory of the guest is lost**: its new image is removed in place of the old one. -/
theorem memory_lost_overlapping : ∃ t,
    Run (snapshotSystem savedGuest) (snapshotSystem savedGuest).init snapshotsOverlapping t ∧
      ¬ KeptThroughout savedGuest (snapshotSystem savedGuest).init snapshotsOverlapping t
        "vm1" 0 := by
  obtain ⟨t, -, hrun⟩ := exists_run_of_isSome savedGuest snapshotsOverlapping
    (by decide +kernel)
  refine ⟨t, hrun, fun hall => ?_⟩
  have hends : ∀ event ∈ eventsOf "vm1" snapshotsOverlapping, ¬ event.Ends := by
    rw [show eventsOf "vm1" snapshotsOverlapping = [.restored, .ran 1, .saved, .removed] from by
      decide +kernel]
    simp [GuestEvent.Ends]
  have hdestroy : NotDestroyed "vm1" snapshotsOverlapping := by
    intro calls snapshot hmem
    simp [snapshotsOverlapping] at hmem
  have hlast := (memory_kept_iff_restoredLast hrun (.inr ⟨rfl, rfl⟩) hends hdestroy).mp hall
  -- the first job restores in the seventh step, and the second saves in the ninth
  have hon := hlast (snapshotsOverlapping.take 6) 0
    [.guest "vm1" (.ran 1), .worker 1 "vm1" .save true] [.worker 1 "vm1" .restore false] rfl
  exact absurd hon (by decide +kernel)

theorem memory_kept_snapshotApplied : ∃ t,
    Run (snapshotSystem savedGuest) (snapshotSystem savedGuest).init snapshotApplied t ∧
      KeptMemory (t.guests "vm1") (latest 0 (eventsOf "vm1" snapshotApplied)) := by
  obtain ⟨t, -, hrun⟩ := exists_run_of_isSome savedGuest snapshotApplied (by decide +kernel)
  have hevents : eventsOf "vm1" snapshotApplied = [.restored, .ran 1, .removed] := by
    decide +kernel
  -- the guest is saved at the start, and nobody saves it in between
  refine ⟨t, hrun, memory_kept_of_undisturbed hrun (.inr ⟨rfl, rfl⟩) ?_ ?_ ?_⟩
  · rw [hevents]
    simp [GuestEvent.Ends]
  · intro calls snapshot hmem
    simp [snapshotApplied] at hmem
  · intro front i mid back heq l hl hsaved
    have hmem : GuestEvent.saved ∈ eventsOf "vm1" snapshotApplied :=
      List.mem_filterMap.mpr ⟨l, by rw [heq]; simp [hl], hsaved⟩
    rw [hevents] at hmem
    simp at hmem

end LibvirtCim.Snapshot
