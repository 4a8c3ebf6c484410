import Sockets.Foundation.Run
import Mathlib.Logic.Function.Basic

/-! `SocketWorker`: a controlling thread and the tasks that `StartWorker` creates, in steps on the
two atomics they share. Names, configuration and observers are left out; `Create` and `Current` of
the execution provider are the choice of a handle and the handle a thread was given. -/
namespace Sockets.Worker
open Foundation

variable {Handle : Type} [DecidableEq Handle]

/-- `_running` and `_executionHandle`; `none` is `InvalidExecutionHandle`. -/
structure Atomics (Handle : Type) where
  running : Bool := false
  executionHandle : Option Handle := none
  deriving DecidableEq

/-- The next step of a thread inside `StartWorker` or `StopWorker`. -/
inductive Call (Handle : Type) where
  | loadRunning
  | storeRunning
  | create
  | clearRunning
  | clearHandle
  | publish (handle : Handle)
  | exchangeRunning
  | loadHandle
  | awaitHandle
  deriving DecidableEq

/-- The thread is inside `StartWorker`. -/
def Call.Starts : Call Handle → Prop
  | .loadRunning | .storeRunning | .create | .clearRunning | .clearHandle | .publish _ => True
  | .exchangeRunning | .loadHandle | .awaitHandle => False

inductive Entry where
  | startWorker
  | stopWorker
  deriving DecidableEq

def Entry.first : Entry → Call Handle
  | .startWorker => .loadRunning
  | .stopWorker => .exchangeRunning

/-- One step of a call by the thread `current`; `created` is what `Create` returns. -/
def Call.next (current : Handle) (created : Option Handle) (m : Atomics Handle) :
    Call Handle → Option (Call Handle) × Atomics Handle
  | .loadRunning => if m.running then (none, m) else (some .storeRunning, m)
  | .storeRunning => (some .create, { m with running := true })
  | .create =>
    match created with
    | none => (some .clearRunning, m)
    | some handle => (some (.publish handle), m)
  | .clearRunning => (some .clearHandle, { m with running := false })
  | .clearHandle => (none, { m with executionHandle := none })
  | .publish handle => (none, { m with executionHandle := some handle })
  | .exchangeRunning => (some .loadHandle, { m with running := false })
  | .loadHandle =>
    if m.executionHandle = none ∨ m.executionHandle = some current then (none, m)
    else (some .awaitHandle, m)
  | .awaitHandle => if m.executionHandle = none then (none, m) else (some .awaitHandle, m)

/-- Where a task stands in `TaskEntry` and `Run`; an iteration may be inside a call. -/
inductive Phase (Handle : Type) where
  | created
  | checking
  | iterating (call : Option (Call Handle))
  | leaving
  | left
  deriving DecidableEq

structure Task (Handle : Type) where
  handle : Handle
  phase : Phase Handle := .created
  deriving DecidableEq

/-- The task has been created and has not yet done the last step of `Run`. -/
def Task.Pending (t : Task Handle) : Prop := t.phase ≠ .left

/-- The task is inside `Run`. -/
def Task.InRun (t : Task Handle) : Prop := t.phase ≠ .created ∧ t.phase ≠ .left

instance (t : Task Handle) : Decidable (Task.Pending t) := inferInstanceAs (Decidable (_ ≠ _))
instance (t : Task Handle) : Decidable (Task.InRun t) := inferInstanceAs (Decidable (_ ∧ _))

/-- `controller` is the call that the controlling thread is in; `task i` is the task created by
the `i`-th successful `Create`, as long as it is alive. -/
structure SocketWorker (Handle : Type) where
  controllerHandle : Handle
  atomics : Atomics Handle := {}
  controller : Option (Call Handle) := none
  task : ℕ → Option (Task Handle) := fun _ => none
  created : ℕ := 0

inductive Thread where
  | controller
  | task (i : ℕ)
  deriving DecidableEq

inductive Action (Handle : Type) where
  | enter (thread : Thread) (entry : Entry)
  | advance (thread : Thread) (created : Option Handle)
  | begin (i : ℕ)
  | check (i : ℕ)
  | finish (i : ℕ)
  | clear (i : ℕ)
  | destroy (i : ℕ)
  deriving DecidableEq

namespace SocketWorker

def setTask (i : ℕ) (t : Option (Task Handle)) (s : SocketWorker Handle) : SocketWorker Handle :=
  { s with task := Function.update s.task i t }

/-- The call a thread is in. -/
def call (s : SocketWorker Handle) : Thread → Option (Call Handle)
  | .controller => s.controller
  | .task i =>
    match s.task i with
    | some ⟨_, .iterating call⟩ => call
    | _ => none

/-- The thread is free to call: the controlling thread outside a call, a task in its iteration. -/
def free (s : SocketWorker Handle) : Thread → Bool
  | .controller => s.controller.isNone
  | .task i =>
    match s.task i with
    | some ⟨_, .iterating none⟩ => true
    | _ => false

def setCall (thread : Thread) (call : Option (Call Handle)) (s : SocketWorker Handle) :
    SocketWorker Handle :=
  match thread with
  | .controller => { s with controller := call }
  | .task i => s.setTask i ((s.task i).map fun t => { t with phase := .iterating call })

/-- `Current()` of a thread. -/
def current (s : SocketWorker Handle) : Thread → Handle
  | .controller => s.controllerHandle
  | .task i => ((s.task i).map Task.handle).getD s.controllerHandle

/-- A handle that `Create` may return: no living thread has it. -/
def Fresh (handle : Handle) (s : SocketWorker Handle) : Prop :=
  handle ≠ s.controllerHandle ∧ ∀ i < s.created, ∀ t ∈ s.task i, t.handle ≠ handle

instance (handle : Handle) (s : SocketWorker Handle) : Decidable (s.Fresh handle) :=
  inferInstanceAs (Decidable (_ ∧ _))

/-- The task that a successful `Create` leaves behind. -/
def addTask (handle : Handle) (s : SocketWorker Handle) : SocketWorker Handle :=
  { s.setTask s.created (some { handle }) with created := s.created + 1 }

/-- What happens besides the caller's own step: `Create` adds its task. -/
def spawn (call : Call Handle) (created : Option Handle) (s : SocketWorker Handle) :
    SocketWorker Handle :=
  match call, created with
  | .create, some handle => s.addTask handle
  | _, _ => s

def advance (thread : Thread) (created : Option Handle) (s : SocketWorker Handle) :
    SocketWorker Handle :=
  match s.call thread with
  | none => s
  | some call =>
    if call = .create ∧ ∃ handle ∈ created, ¬ s.Fresh handle then s
    else
      let r := call.next (s.current thread) created s.atomics
      { (s.spawn call created).setCall thread r.1 with atomics := r.2 }

/-- One step of one thread; a step that its thread is not at does nothing. -/
def step (s : SocketWorker Handle) : Action Handle → SocketWorker Handle
  | .enter thread entry => if s.free thread then s.setCall thread (some entry.first) else s
  | .advance thread created => s.advance thread created
  | .begin i =>
    match s.task i with
    | some ⟨handle, .created⟩ => s.setTask i (some ⟨handle, .checking⟩)
    | _ => s
  | .check i =>
    match s.task i with
    | some ⟨handle, .checking⟩ =>
      s.setTask i (some ⟨handle, if s.atomics.running then .iterating none else .leaving⟩)
    | _ => s
  | .finish i =>
    match s.task i with
    | some ⟨handle, .iterating none⟩ => s.setTask i (some ⟨handle, .checking⟩)
    | _ => s
  | .clear i =>
    match s.task i with
    | some ⟨handle, .leaving⟩ =>
      { s.setTask i (some ⟨handle, .left⟩) with
        atomics := { s.atomics with executionHandle := none } }
    | _ => s
  | .destroy i =>
    match s.task i with
    | some ⟨_, .left⟩ => s.setTask i none
    | _ => s

/-- A worker as it is constructed, owned by the controlling thread. -/
def start (controllerHandle : Handle) : SocketWorker Handle := { controllerHandle }

end SocketWorker
end Sockets.Worker
