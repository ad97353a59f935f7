import AsyncForge.Lib.Removal
import AsyncForge.Lib.Runs
import AsyncForge.TaskForge.State

/-! The forge with its clones, its tasks and its listener, as one guarded step function. A step runs
    one party from one suspension point to the next. -/

namespace AsyncForge.TaskForge

open AsyncForge.Channels AsyncForge.Removal AsyncForge.Runs

inductive Op (Message : Type)
  | newTask (id : OpId)
  | waitForTaskCreation (id : OpId)
  | newResultRedirection
  | isEmpty
  | waitAndSend (id : OpId) (msg : Message)
  | send (id : OpId) (msg : Message)
  | clean (awaited : Option Nat)
  deriving DecidableEq, Repr

/-- What a call returns. A receiver is the place of its channel in the table of its type. -/
inductive Return
  | result (r : Except ForgeError Unit)
  | redirection (receiver : Nat)
  | empty (answer : Bool)
  | cleaning (receiver : Option Nat)
  deriving DecidableEq

inductive Phase (Message : Type)
  -- Waits for the guard of its first critical section.
  | locking
  -- `new_task` after its check: it holds the write guard.
  | creating
  -- In `receiver.recv()` of `wait_for_task_creation`.
  | waiting (id : OpId) (waiter : Nat)
  -- `wait_and_send` past its wait, about to take the read guard; `observed` is ghost: the task
  -- whose creation ended the wait.
  | resuming (observed : Option InboxSender)
  -- In `sender.send(msg)`: it holds the read guard.
  | sending (id : OpId) (inbox : InboxSender) (msg : Message)
  | done (ret : Return)
  | cancelled
  deriving DecidableEq

structure Call (Message : Type) where
  op : Op Message
  phase : Phase Message
  deriving DecidableEq

/-- A message of the end-task channel. `producer` is ghost: the code sends the id and the output. -/
structure TaskOutput (Output : Type) where
  id : OpId
  output : Output
  producer : InboxSender
  deriving DecidableEq, Repr

inductive Section (Output : Type)
  -- `new_task` of the call, with the waiters still to notify and the result so far.
  | creating (call : Nat) (id : OpId) (senders : List CreationSender) (result : ForgeResult Unit)
  -- The listener has closed the task and is about to evaluate `should_clear`.
  | closing (ended : TaskOutput Output)
  -- The broadcast loop of the listener, at the sender number `i`.
  | broadcasting (ended : TaskOutput Output) (hasCleared : Bool) (i : Nat)
      (sendersToRemove : List Nat)
  -- The listener is about to send an error.
  | reporting (e : ForgeError)
  deriving DecidableEq

def Section.ofListener {Output : Type} : Section Output → Bool
  | .creating .. => false
  | .closing .. | .broadcasting .. | .reporting .. => true

/-- A task `begin` started: the id of its interface and the inbox whose sender it returned, the only
    one of this inbox. -/
structure Task (Message : Type) where
  id : OpId
  inbox : Chan Message
  deriving DecidableEq

/-- `pulled` is the output the listener has received and not yet the write guard for; `outputs`
    are the calls of `TaskInterface::output` that wait for a slot. A message of a creation channel
    is the unit value, kept as the task whose creation it reports. -/
structure Config (Message Output : Type) where
  forge : WrappedTaskForge
  writer : Option (Section Output)
  pulled : Option (TaskOutput Output)
  endTasks : Chan (TaskOutput Output)
  outputs : List (TaskOutput Output)
  tasks : List (Task Message)
  results : List (Chan (ForgeTaskEnded Output))
  waiters : List (Chan InboxSender)
  cleanings : List (Chan Unit)
  errors : Chan ForgeError
  calls : List (Call Message)

inductive Act (Message Output : Type)
  -- A method is called on some clone.
  | call (op : Op Message)
  -- A call gets the guard it waits for and runs up to its next suspension point.
  | enter (i : Nat)
  -- `new_task` sends to its next waiter.
  | notify
  -- `new_task` begins the task and returns.
  | begin (capacity : Nat)
  -- `receiver.recv()` of a waiting call returns.
  | wake (i : Nat)
  -- `sender.send(msg)` of a sending call returns.
  | deliver (i : Nat)
  -- The future of a call that does not hold the write guard is dropped.
  | cancel (i : Nat)
  -- A task calls `TaskInterface::output`.
  | output (task : InboxSender) (out : Output)
  -- A waiting output gets a slot of the end-task channel.
  | enqueue (i : Nat)
  -- A task receives from its inbox, or closes it.
  | receive (task : InboxSender)
  | closeInbox (task : InboxSender)
  -- The listener receives an output,
  | take
  -- gets the write guard and runs `handle_ending_task` up to `should_clear`,
  | handle
  -- clears the forge if it is due and notifies the cleaner,
  | clearIfDue
  -- sends to its next redirection,
  | broadcast
  -- drops the closed redirections,
  | prune
  -- or sends the error of the iteration.
  | report
  -- The owners of the other receivers receive, or close them.
  | receiveResult (receiver : Nat)
  | closeResult (receiver : Nat)
  | receiveCleaning (receiver : Nat)
  | closeCleaning (receiver : Nat)
  | receiveError
  | closeErrors
  deriving DecidableEq

def channelSize : Nat := 100

def setPhase {Message : Type} (calls : List (Call Message)) (i : Nat) (phase : Phase Message) :
    List (Call Message) := calls.modify i fun c => { c with phase }

def Phase.isSending {Message : Type} : Phase Message → Bool
  | .sending .. => true
  | _ => false

namespace Config

variable {Message Output : Type}

def new : Config Message Output where
  forge := .new
  writer := none
  pulled := none
  endTasks := { capacity := channelSize }
  outputs := []
  tasks := []
  results := []
  waiters := []
  cleanings := []
  errors := { capacity := channelSize }
  calls := []

def unread (s : Config Message Output) : Bool := s.calls.all fun c => !c.phase.isSending

def notifying (s : Config Message Output) : List CreationSender :=
  match s.writer with
  | some (.creating _ _ senders _) => senders
  | _ => []

def Held (s : Config Message Output) (waiter : Nat) : Prop :=
  (∃ id ∈ s.forge.taskCreationSenders.keys,
    waiter ∈ (s.forge.taskCreationSenders.lookup id).getD []) ∨ waiter ∈ s.notifying

instance (s : Config Message Output) (waiter : Nat) : Decidable (s.Held waiter) :=
  inferInstanceAs (Decidable (_ ∨ _))

/-- A wait for a creation succeeded: `wait_and_send` goes on to send, the others return. -/
def created (s : Config Message Output) (i : Nat) (op : Op Message)
    (observed : Option InboxSender) : Config Message Output :=
  match op with
  | .waitAndSend _ _ => { s with calls := setPhase s.calls i (.resuming observed) }
  | _ => { s with calls := setPhase s.calls i (.done (.result (.ok ()))) }

def newTask (s : Config Message Output) (i : Nat) (id : OpId) : Config Message Output :=
  let forge := { s.forge with taskStates := s.forge.taskStates.insert id .running }
  if s.forge.taskStates.lookup id = some .running then
    { s with
      forge
      calls := setPhase s.calls i (.done (.result (.error (.taskAlreadyExists id)))) }
  else
    match forge.taskCreationSenders.lookup id with
    | some senders =>
      { s with
        forge := { forge with taskCreationSenders := forge.taskCreationSenders.erase id }
        writer := some (.creating i id senders (.ok ()))
        calls := setPhase s.calls i .creating }
    | none =>
      { s with
        forge
        writer := some (.creating i id [] (.ok ()))
        calls := setPhase s.calls i .creating }

/-- The loop of `new_task`: one `s.send(())`. -/
def notify (s : Config Message Output) : Option (Config Message Output) :=
  match s.writer with
  | some (.creating i id (sender :: senders) result) =>
    match s.waiters[sender]? with
    | some chan =>
      if chan.closed then
        let failed := .error (.taskCreationSendingError id)
        some { s with writer := some (.creating i id senders failed) }
      else if chan.full then none
      else
        some { s with
          waiters := s.waiters.modify sender (·.push s.tasks.length)
          writer := some (.creating i id senders result) }
    | none => none
  | _ => none

/-- The end of `new_task`: the task begins and its inbox sender enters the forge. What the task
    does between the two touches nothing under the lock, so it stands after this step. -/
def begin (s : Config Message Output) (capacity : Nat) : Option (Config Message Output) :=
  match s.writer with
  | some (.creating i id [] result) =>
    some { s with
      tasks := s.tasks ++ [⟨id, { capacity }⟩]
      forge := { s.forge with forge := s.forge.forge.insert id s.tasks.length }
      writer := none
      calls := setPhase s.calls i (.done (.result result)) }
  | _ => none

/-- The critical section of `wait_for_task_creation`. -/
def waitForTaskCreation (s : Config Message Output) (i : Nat) (op : Op Message) (id : OpId) :
    Config Message Output :=
  match s.forge.taskStates.lookup id with
  | none =>
    { s with
      waiters := s.waiters ++ [{ capacity := channelSize }]
      forge := s.forge.newTaskNotifReceiver id s.waiters.length
      calls := setPhase s.calls i (.waiting id s.waiters.length) }
  | some .running => s.created i op (s.forge.forge.lookup id)
  | some .closed =>
    { s with calls := setPhase s.calls i (.done (.result (.error (.taskClosed id)))) }

def wake (s : Config Message Output) (i : Nat) : Option (Config Message Output) :=
  match s.calls[i]? with
  | some ⟨op, .waiting id waiter⟩ =>
    match s.waiters[waiter]? with
    | some chan =>
      match chan.buffer with
      | task :: _ =>
        let received := { s with waiters := s.waiters.modify waiter Chan.pop }
        some (received.created i op (some task))
      | [] =>
        if s.Held waiter then none
        else
          let failed := .done (.result (.error (.failedToWaitCreation id)))
          some { s with calls := setPhase s.calls i failed }
    | none => none
  | _ => none

/-- `send` up to its suspension, under the read guard. -/
def send (s : Config Message Output) (i : Nat) (id : OpId) (msg : Message) :
    Config Message Output :=
  match s.forge.forge.lookup id with
  | some sender => { s with calls := setPhase s.calls i (.sending id sender msg) }
  | none =>
    { s with calls := setPhase s.calls i (.done (.result (.error (.taskNotExist id)))) }

/-- The rest of `send`: a bounded send waits while the inbox is full. -/
def deliver (s : Config Message Output) (i : Nat) : Option (Config Message Output) :=
  match s.calls[i]? with
  | some ⟨_, .sending id inbox msg⟩ =>
    match s.tasks[inbox]? with
    | some task =>
      if task.inbox.closed then
        some { s with calls := setPhase s.calls i (.done (.result (.error (.sendError id)))) }
      else if task.inbox.full then none
      else
        some { s with
          tasks := s.tasks.modify inbox fun t => { t with inbox := t.inbox.push msg }
          calls := setPhase s.calls i (.done (.result (.ok ()))) }
    | none => none
  | _ => none

def newResultRedirection (s : Config Message Output) (i : Nat) : Config Message Output :=
  { s with
    results := s.results ++ [{ capacity := channelSize }]
    forge := { s.forge with
      outputResultSenders := s.forge.outputResultSenders ++ [s.results.length] }
    calls := setPhase s.calls i (.done (.redirection s.results.length)) }

/-- `clean` creates its channel first; both ends are dropped when the forge is empty. -/
def clean (s : Config Message Output) (i : Nat) (awaited : Option Nat) : Config Message Output :=
  if s.forge.isEmpty then
    { s with
      cleanings := s.cleanings ++ [{ capacity := channelSize, closed := true }]
      forge := s.forge.cleanEmpty
      calls := setPhase s.calls i (.done (.cleaning none)) }
  else
    { s with
      cleanings := s.cleanings ++ [{ capacity := channelSize }]
      forge := { s.forge with cleaningNotifier := some (s.cleanings.length, awaited) }
      calls := setPhase s.calls i (.done (.cleaning (some s.cleanings.length))) }

/-- The guard is granted: a read guard when no write guard is held, a write guard when no guard
    is. -/
def enter (s : Config Message Output) (i : Nat) : Option (Config Message Output) :=
  if s.writer.isSome then none
  else
    match s.calls[i]? with
    | some ⟨.send id msg, .locking⟩ => some (s.send i id msg)
    | some ⟨.waitAndSend id msg, .resuming _⟩ => some (s.send i id msg)
    | some ⟨.isEmpty, .locking⟩ =>
      some { s with calls := setPhase s.calls i (.done (.empty s.forge.isEmpty)) }
    | some ⟨op, .locking⟩ =>
      if s.unread then
        match op with
        | .newTask id => some (s.newTask i id)
        | .waitForTaskCreation id | .waitAndSend id _ => some (s.waitForTaskCreation i op id)
        | .newResultRedirection => some (s.newResultRedirection i)
        | .clean awaited => some (s.clean i awaited)
        | .isEmpty | .send .. => none
      else none
    | _ => none

def cancel (s : Config Message Output) (i : Nat) : Option (Config Message Output) :=
  match s.calls[i]? with
  | some ⟨_, .waiting _ waiter⟩ =>
    some { s with
      waiters := s.waiters.modify waiter Chan.close
      calls := setPhase s.calls i .cancelled }
  | some ⟨_, .locking⟩ | some ⟨_, .resuming _⟩ | some ⟨_, .sending ..⟩ =>
    some { s with calls := setPhase s.calls i .cancelled }
  | _ => none

/-- `TaskInterface::output` up to its suspension; the end-task channel is never closed. The call is
    not dropped before it has its slot. -/
def output (s : Config Message Output) (task : InboxSender) (out : Output) :
    Option (Config Message Output) :=
  (s.tasks[task]?).map fun t => { s with outputs := s.outputs ++ [⟨t.id, out, task⟩] }

def enqueue (s : Config Message Output) (i : Nat) : Option (Config Message Output) :=
  match s.outputs[i]? with
  | some ended =>
    if s.endTasks.full then none
    else
      some { s with endTasks := s.endTasks.push ended, outputs := s.outputs.eraseIdx i }
  | none => none

def receive (s : Config Message Output) (task : InboxSender) : Option (Config Message Output) :=
  match s.tasks[task]? with
  | some t =>
    if t.inbox.buffer.isEmpty then none
    else
      some { s with tasks := s.tasks.modify task fun t => { t with inbox := t.inbox.pop } }
  | none => none

def listening (s : Config Message Output) : Bool :=
  s.pulled.isNone && !(s.writer.any Section.ofListener)

def take (s : Config Message Output) : Option (Config Message Output) :=
  if s.listening then
    match s.endTasks.buffer with
    | ended :: _ => some { s with endTasks := s.endTasks.pop, pulled := some ended }
    | [] => none
  else none

/-- The guard of `handle_ending_task` and the closing of the task. -/
def handle (s : Config Message Output) : Option (Config Message Output) :=
  match s.pulled with
  | some ended =>
    if s.writer.isSome || !s.unread then none
    else if s.forge.taskStates.lookup ended.id ≠ some .running then
      some { s with pulled := none, writer := some (.reporting (.taskClosed ended.id)) }
    else
      some { s with
        pulled := none
        forge := s.forge.closeTask ended.id
        writer := some (.closing ended) }
  | none => none

/-- The end of `handle_ending_task`. The notifier's channel has room for its only message. -/
def clearIfDue (s : Config Message Output) : Option (Config Message Output) :=
  match s.writer with
  | some (.closing ended) =>
    if s.forge.shouldClear then
      match s.forge.cleaningNotifier with
      | some (notifier, _) =>
        match s.cleanings[notifier]? with
        | some chan =>
          if chan.closed then
            some { s with
              forge := s.forge.clearEnded
              writer := some (.reporting .cleaningNotifierError) }
          else if chan.full then none
          else
            some { s with
              forge := s.forge.clearEnded
              cleanings := s.cleanings.modify notifier (·.push ())
              writer := some (.broadcasting ended true 0 []) }
        | none => none
      | none => none
    else some { s with writer := some (.broadcasting ended false 0 []) }
  | _ => none

/-- The loop over `output_result_senders`: one `sender.send(output)`. -/
def broadcast (s : Config Message Output) : Option (Config Message Output) :=
  match s.writer with
  | some (.broadcasting ended hasCleared i sendersToRemove) =>
    match s.forge.outputResultSenders[i]? with
    | some sender =>
      match s.results[sender]? with
      | some chan =>
        if chan.closed then
          let removing := .broadcasting ended hasCleared (i + 1) (sendersToRemove ++ [i])
          some { s with writer := some removing }
        else if chan.full then none
        else
          some { s with
            results := s.results.modify sender (·.push ⟨ended.output, ended.id, hasCleared⟩)
            writer := some (.broadcasting ended hasCleared (i + 1) sendersToRemove) }
      | none => none
    | none => none
  | _ => none

/-- The removal loop of `Vec::remove`s; a panic in it leaves the listener without a next step. -/
def prune (s : Config Message Output) : Option (Config Message Output) :=
  match s.writer with
  | some (.broadcasting _ _ i sendersToRemove) =>
    if i = s.forge.outputResultSenders.length then
      (sendersToRemove.reverse.foldlM remove? s.forge.outputResultSenders).map fun kept =>
        { s with forge := { s.forge with outputResultSenders := kept }, writer := none }
    else none
  | _ => none

/-- `error_sender.send(e)`; when its receiver is closed the listener only logs. -/
def report (s : Config Message Output) : Option (Config Message Output) :=
  match s.writer with
  | some (.reporting e) =>
    if s.errors.closed then some { s with writer := none }
    else if s.errors.full then none
    else some { s with errors := s.errors.push e, writer := none }
  | _ => none

/-- The step of every party; `none` where it cannot take the step now. -/
def step (s : Config Message Output) : Act Message Output → Option (Config Message Output)
  | .call op => some { s with calls := s.calls ++ [⟨op, .locking⟩] }
  | .enter i => s.enter i
  | .notify => s.notify
  | .begin capacity => s.begin capacity
  | .wake i => s.wake i
  | .deliver i => s.deliver i
  | .cancel i => s.cancel i
  | .output task out => s.output task out
  | .enqueue i => s.enqueue i
  | .receive task => s.receive task
  | .closeInbox task =>
    some { s with tasks := s.tasks.modify task fun t => { t with inbox := t.inbox.close } }
  | .take => s.take
  | .handle => s.handle
  | .clearIfDue => s.clearIfDue
  | .broadcast => s.broadcast
  | .prune => s.prune
  | .report => s.report
  | .receiveResult receiver =>
    (receiveAt s.results receiver).map fun results => { s with results }
  | .closeResult receiver => some { s with results := closeAt s.results receiver }
  | .receiveCleaning receiver =>
    (receiveAt s.cleanings receiver).map fun cleanings => { s with cleanings }
  | .closeCleaning receiver => some { s with cleanings := closeAt s.cleanings receiver }
  | .receiveError =>
    if s.errors.buffer.isEmpty then none else some { s with errors := s.errors.pop }
  | .closeErrors => some { s with errors := s.errors.close }

end Config

end AsyncForge.TaskForge
