import Mathlib.Data.Finmap
import AsyncForge.Lib.Channels

namespace AsyncForge.TaskForge

open AsyncForge.Channels

abbrev OpId := UInt64

inductive TaskState
  | running
  | closed
  deriving DecidableEq, Repr

structure ForgeTaskEnded (Output : Type) where
  output : Output
  id : OpId
  hasCleared : Bool
  deriving DecidableEq, Repr

inductive ForgeError
  | sendError (id : OpId)
  | receiveError
  | taskClosed (id : OpId)
  | taskCreationError (id : OpId)
  | cleaningNotifierError
  | taskAlreadyExists (id : OpId)
  | taskCreationSendingError (id : OpId)
  | failedToWaitCreation (id : OpId)
  | taskNotExist (id : OpId)
  | failedToOutput (id : OpId)
  deriving DecidableEq, Repr

abbrev ForgeResult (T : Type) := Except ForgeError T

/-- A sender is the place of its channel in the table of the channels of its type. The inbox of a
    task stands in the table of tasks, so an inbox sender also names the task `begin` started. -/
abbrev InboxSender := Nat
abbrev OutputSender := Nat
abbrev CreationSender := Nat
abbrev CleaningSender := Nat

/-- The state under the lock. `end_task_sender` is left out: it never changes, and every task
    interface sends through it into the one end-task channel. -/
structure WrappedTaskForge where
  forge : Finmap (fun _ : OpId => InboxSender)
  outputResultSenders : List OutputSender
  taskCreationSenders : Finmap (fun _ : OpId => List CreationSender)
  taskStates : Finmap (fun _ : OpId => TaskState)
  cleaningNotifier : Option (CleaningSender × Option Nat)

namespace WrappedTaskForge

def new : WrappedTaskForge := ⟨∅, [], ∅, ∅, none⟩

def isEmpty (f : WrappedTaskForge) : Bool := f.forge.keys.card == 0

def shouldClear (f : WrappedTaskForge) : Bool :=
  match f.cleaningNotifier with
  | some (_, awaited) =>
    let awaitedSatisfied := match awaited with
      | some awaited => f.taskStates.keys.card == awaited
      | none => true
    f.cleaningNotifier.isSome && f.isEmpty && awaitedSatisfied
  | none => false

/-- `handle_ending_task` once its guard has passed, up to `should_clear`. -/
def closeTask (f : WrappedTaskForge) (endingTask : OpId) : WrappedTaskForge :=
  { f with
    forge := f.forge.erase endingTask
    taskStates := f.taskStates.insert endingTask .closed }

/-- The clearing inside `handle_ending_task`; the notifier is taken. -/
def clearEnded (f : WrappedTaskForge) : WrappedTaskForge :=
  { f with taskStates := ∅, taskCreationSenders := ∅, cleaningNotifier := none }

/-- The clearing inside `clean`, which leaves the notifier alone. -/
def cleanEmpty (f : WrappedTaskForge) : WrappedTaskForge :=
  { f with taskCreationSenders := ∅, taskStates := ∅ }

def newTaskNotifReceiver (f : WrappedTaskForge) (id : OpId) (sender : CreationSender) :
    WrappedTaskForge :=
  match f.taskCreationSenders.lookup id with
  | some senders =>
    { f with taskCreationSenders := f.taskCreationSenders.insert id (senders ++ [sender]) }
  | none => { f with taskCreationSenders := f.taskCreationSenders.insert id [sender] }

def Running (f : WrappedTaskForge) (id : OpId) : Prop := f.taskStates.lookup id = some .running

instance (f : WrappedTaskForge) (id : OpId) : Decidable (f.Running id) :=
  inferInstanceAs (Decidable (_ = _))

theorem isEmpty_iff (f : WrappedTaskForge) : f.isEmpty = true ↔ ∀ id, f.forge.lookup id = none := by
  simp only [isEmpty, beq_iff_eq, Finset.card_eq_zero, Finset.eq_empty_iff_forall_notMem,
    Finmap.mem_keys, Finmap.lookup_eq_none]

theorem shouldClear_iff (f : WrappedTaskForge) :
    f.shouldClear = true ↔ ∃ notifier awaited, f.cleaningNotifier = some (notifier, awaited) ∧
      f.isEmpty = true ∧ ∀ n, awaited = some n → f.taskStates.keys.card = n := by
  unfold shouldClear
  rcases pending : f.cleaningNotifier with _ | ⟨notifier, awaited⟩
  · simp
  · cases awaited <;> simp

theorem newTaskNotifReceiver_eq (f : WrappedTaskForge) (id : OpId) (sender : CreationSender) :
    f.newTaskNotifReceiver id sender = { f with
      taskCreationSenders := f.taskCreationSenders.insert id
        ((f.taskCreationSenders.lookup id).getD [] ++ [sender]) } := by
  unfold newTaskNotifReceiver
  cases f.taskCreationSenders.lookup id <;> rfl

theorem insert_running_again {states : Finmap (fun _ : OpId => TaskState)} {id : OpId}
    (present : states.lookup id = some .running) : states.insert id .running = states := by
  apply Finmap.ext_lookup
  intro other
  by_cases same : other = id
  · subst same
    rw [Finmap.lookup_insert, present]
  · rw [Finmap.lookup_insert_of_ne _ same]

end WrappedTaskForge

end AsyncForge.TaskForge
