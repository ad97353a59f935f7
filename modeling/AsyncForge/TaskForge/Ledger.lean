import Mathlib.Data.Finset.SDiff
import AsyncForge.TaskForge.System

/-! What the forge is for, as one object without a lock: a ledger of the tasks by id, of those who
    wait for one, of the cleaning that is asked for, and of the redirections. -/

namespace AsyncForge.TaskForge

inductive Standing
  | running (task : InboxSender)
  | closed
  deriving DecidableEq

def Standing.state : Standing → TaskState
  | running _ => .running
  | closed => .closed

def Standing.isRunning : Standing → Bool
  | running _ => true
  | closed => false

structure Ledger where
  tasks : Finmap (fun _ : OpId => Standing)
  waiting : OpId → List CreationSender
  request : Option (CleaningSender × Option Nat)
  redirections : Finset OutputSender

/-- The names a call may give away. -/
structure Fresh where
  task : InboxSender
  waiter : CreationSender
  redirection : OutputSender
  request : CleaningSender

inductive Entry (Message : Type)
  | call (op : Op Message) (fresh : Fresh)
  -- An output for the id is handled.
  | finish (id : OpId)
  -- Redirections without a receiver are dropped.
  | forget (gone : Finset OutputSender)

namespace Ledger

variable {Message : Type}

def new : Ledger := ⟨∅, fun _ => [], none, ∅⟩

def Running (l : Ledger) (id : OpId) : Prop := ∃ task, l.tasks.lookup id = some (.running task)

theorem running_iff (l : Ledger) (id : OpId) :
    (l.tasks.lookup id).any Standing.isRunning = true ↔ l.Running id := by
  rw [Option.any_eq_true]
  constructor
  · intro given
    rcases given with ⟨standing, found, runs⟩
    cases standing with
    | running task => exact ⟨task, found⟩
    | closed => cases runs
  · intro running
    rcases running with ⟨task, found⟩
    exact ⟨.running task, found, rfl⟩

instance (l : Ledger) (id : OpId) : Decidable (l.Running id) :=
  decidable_of_iff _ (l.running_iff id)

def idle (l : Ledger) : Bool := l.tasks.keys.filter l.Running = ∅

/-- The cleaning that is asked for is due. -/
def due (l : Ledger) : Bool :=
  l.request.any fun request => l.idle && request.2.all fun n => l.tasks.keys.card == n

def wipe (l : Ledger) : Ledger := { l with tasks := ∅, waiting := fun _ => [] }

def close (l : Ledger) (id : OpId) : Ledger := { l with tasks := l.tasks.insert id .closed }

def settle (l : Ledger) : Ledger := if l.due then { l.wipe with request := none } else l

def post (l : Ledger) : Entry Message → Ledger
  | .call (.newTask id) fresh =>
    if l.Running id then l
    else
      { l with
        tasks := l.tasks.insert id (.running fresh.task)
        waiting := Function.update l.waiting id [] }
  | .call (.waitForTaskCreation id) fresh | .call (.waitAndSend id _) fresh =>
    match l.tasks.lookup id with
    | none => { l with waiting := Function.update l.waiting id (l.waiting id ++ [fresh.waiter]) }
    | some _ => l
  | .call .newResultRedirection fresh =>
    { l with redirections := insert fresh.redirection l.redirections }
  | .call .isEmpty _ | .call (.send _ _) _ => l
  | .call (.clean awaited) fresh =>
    if l.idle then l.wipe else { l with request := some (fresh.request, awaited) }
  | .finish id => if l.Running id then (l.close id).settle else l
  | .forget gone => { l with redirections := l.redirections \ gone }

def sendReply (l : Ledger) (id : OpId) (msg : Message) : Phase Message :=
  match l.tasks.lookup id with
  | some (.running task) => .sending id task msg
  | _ => .done (.result (.error (.taskNotExist id)))

/-- What a call gets from the ledger: its result, or what it goes on with. -/
def reply (l : Ledger) (fresh : Fresh) : Op Message → Phase Message
  | .newTask id =>
    if l.Running id then .done (.result (.error (.taskAlreadyExists id))) else .creating
  | .waitForTaskCreation id =>
    match l.tasks.lookup id with
    | none => .waiting id fresh.waiter
    | some (.running _) => .done (.result (.ok ()))
    | some .closed => .done (.result (.error (.taskClosed id)))
  | .waitAndSend id _ =>
    match l.tasks.lookup id with
    | none => .waiting id fresh.waiter
    | some (.running task) => .resuming (some task)
    | some .closed => .done (.result (.error (.taskClosed id)))
  | .newResultRedirection => .done (.redirection fresh.redirection)
  | .isEmpty => .done (.empty l.idle)
  | .send id msg => l.sendReply id msg
  | .clean _ => .done (.cleaning (if l.idle then none else some fresh.request))

variable {l : Ledger} {id : OpId}

theorem idle_iff : l.idle = true ↔ ∀ id, ¬ l.Running id := by
  simp only [idle, decide_eq_true_eq, Finset.filter_eq_empty_iff, Finmap.mem_keys]
  constructor
  · intro all id running
    rcases running with ⟨task, found⟩
    exact all (Finmap.mem_of_lookup_eq_some found) ⟨task, found⟩
  · intro all id _
    exact all id

theorem due_iff :
    l.due = true ↔ ∃ notifier awaited, l.request = some (notifier, awaited) ∧
      l.idle = true ∧ ∀ n, awaited = some n → l.tasks.keys.card = n := by
  simp only [due, Option.any_eq_true, Bool.and_eq_true, Option.all_eq_true, beq_iff_eq,
    Prod.exists]

theorem settle_due (due : l.due = true) : l.settle = { l.wipe with request := none } := by
  simp only [settle, due, ↓reduceIte]

theorem settle_not_due (due : l.due = false) : l.settle = l := by simp [settle, due]

end Ledger

end AsyncForge.TaskForge
