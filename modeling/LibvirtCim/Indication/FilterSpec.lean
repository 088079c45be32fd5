import LibvirtCim.Common.Basic
import LibvirtCim.Framework.Run
import Mathlib.Data.Int.Notation
import Mathlib.Logic.Function.Basic

/-!
# Indication filters and the lifecycle worker

The subscription bookkeeping of `Virt_ComputerSystemIndication.c`, built without
libvirt events. One `csi_thread_data_t` per platform counts the active filters
and names the worker thread that serves them. Three parties write it, each
under `lifecycle_mutex`:

* `ActivateFilter` (`activateFilter`) counts a filter and creates the worker
  when the record names none;
* `DeActivateFilter` (`deactivateFilter`) uncounts one;
* the worker, `lifecycle_thread_native`, tests the counter at the head of its
  loop and resets the record on its way out.

The worker's life is three kinds of critical section: the one it enters first,
which connects and runs into the loop until the first wait
(`lifecycleThreadStart`), one more for each wake-up (`lifecycleThreadWake`), and
the reset after `init_out:` (`lifecycleThreadReset`), which is a critical section
of its own. `FilterStep` interleaves all of them.

What the loop does between two tests of the counter does not touch the record,
and is the subject of the polling modules.
-/

open Framework

namespace LibvirtCim.Indication

/-! ### Classes and platforms -/

/-- `enum CSI_PLATFORMS`. -/
inductive Platform
  | xen | kvm | lxc
  deriving DecidableEq, Repr

/-- `platform_from_class`; `none` is the result `-1`. -/
def platformFromClass (cn : String) : Option Platform :=
  if startsWith cn "Xen" then some .xen
  else if startsWith cn "KVM" then some .kvm
  else if startsWith cn "LXC" then some .lxc
  else none

/-- `class_prefix_name`: what stands before the first underscore, if there is
one. -/
def classPrefixName (classname : String) : Option String :=
  if '_' ∈ classname.toList then
    some (String.ofList (classname.toList.takeWhile (· ≠ '_')))
  else none

/-! ### The shared record -/

/-- `csi_thread_data_t`. The thread id `0` stands for "no thread"; of
`struct ind_args` the bookkeeping reads the class name. -/
structure CsiThreadData where
  id : ℕ
  activeFilters : ℤ
  args : Option String
  deriving DecidableEq, Repr

/-- Where the worker of a platform stands between two of its critical
sections. -/
inductive Phase
  /-- `newThread` returned, the worker has not taken the mutex yet -/
  | created
  /-- inside `wait_for_event`; its next action tests the counter -/
  | waiting
  /-- past the loop (or past a failed start), before the reset -/
  | exiting
  deriving DecidableEq, Repr

/-- A platform: its record and its worker thread, if one exists. -/
structure Slot where
  data : CsiThreadData
  worker : Option Phase
  deriving DecidableEq, Repr

/-- `csi_thread_data`, with the workers. -/
abbrev FilterState := Platform → Slot

/-- The static initialiser `{{0}, {0}, {0}}`. -/
def FilterState.init : FilterState :=
  fun _ => ⟨⟨0, 0, none⟩, none⟩

/-! ### The provider's entry points -/

/-- How far `ActivateFilter` gets with the arguments of a new worker. -/
inductive Prepare
  /-- `malloc` fails -/
  | noArgs
  /-- `CBPrepareAttachThread` fails -/
  | noContext
  | ready
  deriving DecidableEq, Repr

/-- The part of `ActivateFilter` after the platform is known. `tid` is what
`newThread` would return, `0` for a failure; the source reports that failure with
the status it started from. -/
def activateSlot (thread : Slot) (cn : String) (prep : Prepare) (tid : ℕ) : Slot × CmpiStatus :=
  let counted := { thread.data with activeFilters := thread.data.activeFilters + 1 }
  if 0 < counted.id then
    ({ thread with data := counted }, .ok)
  else
    match prep with
    | .noArgs => (thread, .failed "Unable to allocate ind_args")
    | .noContext => (thread, .failed "Unable to create thread context")
    | .ready =>
      if tid = 0 then
        ({ thread with data := { thread.data with id := 0, args := some cn } }, .ok)
      else
        (⟨{ counted with id := tid, args := some cn }, some .created⟩, .ok)

/-- `ActivateFilter` on the class name of its object path (`none` for a null
object path). -/
def activateFilter (st : FilterState) (op : Option String) (prep : Prepare) (tid : ℕ) :
    FilterState × CmpiStatus :=
  match op with
  | none => (st, .failed "No ObjectPath given")
  | some cn =>
    match platformFromClass cn with
    | none => (st, .failed "Unknown platform")
    | some p =>
      let (thread, s) := activateSlot (st p) cn prep tid
      (Function.update st p thread, s)

/-- `DeActivateFilter`. -/
def deactivateFilter (st : FilterState) (cn : String) : FilterState × CmpiStatus :=
  match platformFromClass cn with
  | none => (st, .failed "Unknown platform")
  | some p =>
    let thread := st p
    let data := { thread.data with activeFilters := thread.data.activeFilters - 1 }
    (Function.update st p { thread with data := data }, .ok)

/-! ### The worker -/

/-- The head of the event loop: leave, or poll and wait again. -/
def loopHead (thread : Slot) : Slot :=
  if thread.data.activeFilters ≤ 0 then { thread with worker := some .exiting }
  else { thread with worker := some .waiting }

/-- The worker gets into its loop: its class name has a prefix and
`connect_by_classname` returns a connection. -/
def entersLoop (thread : Slot) (connected : Bool) : Bool :=
  (thread.data.args.bind classPrefixName).isSome && connected

/-- `lifecycle_thread_native` from its first line to its first wait. Without a
prefix it goes to `init_out`, without a connection to `conn_out`; both end in the
reset. -/
def lifecycleThreadStart (thread : Slot) (connected : Bool) : Slot :=
  if entersLoop thread connected then loopHead thread
  else { thread with worker := some .exiting }

/-- A wake-up from `wait_for_event`, signalled or timed out. -/
def lifecycleThreadWake (thread : Slot) : Slot :=
  loopHead thread

/-- The critical section after `init_out:`; the thread ends with it. -/
def lifecycleThreadReset (_thread : Slot) : Slot :=
  ⟨⟨0, 0, none⟩, none⟩

/-! ### The interleaving -/

/-- One critical section, with what a caller of the provider can observe of it. -/
inductive Event
  | activate (op : Option String) (s : CmpiStatus)
  | deactivate (cn : String) (s : CmpiStatus)
  | start (p : Platform) (connected : Bool)
  | wake (p : Platform)
  | reset (p : Platform)
  deriving DecidableEq, Repr

/-- The critical sections of the provider and of the workers. Thread creation
succeeds (`tid ≠ 0`); connecting may fail. -/
inductive FilterStep : FilterState → Event → FilterState → Prop
  | activate (st : FilterState) (op : Option String) (prep : Prepare) (tid : ℕ)
      (htid : tid ≠ 0) :
      FilterStep st (.activate op (activateFilter st op prep tid).2)
        (activateFilter st op prep tid).1
  | deactivate (st : FilterState) (cn : String) :
      FilterStep st (.deactivate cn (deactivateFilter st cn).2) (deactivateFilter st cn).1
  | start (st : FilterState) (p : Platform) (connected : Bool)
      (h : (st p).worker = some .created) :
      FilterStep st (.start p connected)
        (Function.update st p (lifecycleThreadStart (st p) connected))
  | wake (st : FilterState) (p : Platform) (h : (st p).worker = some .waiting) :
      FilterStep st (.wake p) (Function.update st p (lifecycleThreadWake (st p)))
  | reset (st : FilterState) (p : Platform) (h : (st p).worker = some .exiting) :
      FilterStep st (.reset p) (Function.update st p (lifecycleThreadReset (st p)))

/-- The provider: every interleaving of the entry points with the workers. -/
def filterSystem : System FilterState Event where
  init := FilterState.init
  step := FilterStep

/-! ### Counting what callers did -/

/-- The event is a successful activation of a filter of `p`. -/
def Event.activates (p : Platform) : Event → Bool
  | .activate (some cn) .ok => platformFromClass cn = some p
  | _ => false

/-- The event is a deactivation of a filter of `p`. -/
def Event.deactivates (p : Platform) : Event → Bool
  | .deactivate cn _ => platformFromClass cn = some p
  | _ => false

/-- Successful activations of `p` along a run. -/
def activations (p : Platform) (ls : List Event) : ℕ :=
  ls.countP (Event.activates p)

/-- Deactivations of `p` along a run. -/
def deactivations (p : Platform) (ls : List Event) : ℕ :=
  ls.countP (Event.deactivates p)

/-- A worker thread of the platform exists and has not decided to leave. -/
def Served (thread : Slot) : Prop :=
  thread.worker = some .created ∨ thread.worker = some .waiting

instance (thread : Slot) : Decidable (Served thread) :=
  inferInstanceAs (Decidable (_ ∨ _))

/-- What the subscribers of a platform rely on in a state reached by `ls`. The
counter is activations minus deactivations and not negative; and while the
platform has been activated more often than deactivated its worker is running,
and keeps running in every continuation that does not deactivate the platform. -/
def Subscribed (sys : System FilterState Event) (ls : List Event) (st : FilterState)
    (p : Platform) : Prop :=
  (st p).data.activeFilters = (activations p ls : ℤ) - deactivations p ls ∧
  0 ≤ (st p).data.activeFilters ∧
  (deactivations p ls < activations p ls →
    Served (st p) ∧
    ∀ ls' st', Run sys st ls' st' → deactivations p ls' = 0 → Served (st' p))

/-- **No subscription is lost**, in any reachable state. -/
def NeverLost (sys : System FilterState Event) : Prop :=
  ∀ ls st, Run sys sys.init ls st → ∀ p, Subscribed sys ls st p

end LibvirtCim.Indication
