import AsyncForge.Lib.Accounts
import AsyncForge.TaskForge.Delivery
import AsyncForge.TaskForge.Incarnations

/-! The way of an output: from the call of the task through the end-task channel to the listener,
    which broadcasts it or reports an error. -/

namespace AsyncForge.TaskForge

open AsyncForge.Accounts AsyncForge.Channels AsyncForge.Runs

variable {Message Output : Type}

namespace Config

variable {s s' : Config Message Output} {a : Act Message Output}

/-- The output a task calls with. -/
def issues (s : Config Message Output) : Act Message Output → List (TaskOutput Output)
  | .output k out => (s.tasks[k]?).toList.map fun t => ⟨t.id, out, k⟩
  | _ => []

/-- The output that gets a slot of the end-task channel. -/
def enqueues (s : Config Message Output) : Act Message Output → List (TaskOutput Output)
  | .enqueue i => (s.outputs[i]?).toList
  | _ => []

/-- The output whose iteration of the listener gets the write guard. -/
def handles (s : Config Message Output) : Act Message Output → List (TaskOutput Output)
  | .handle => s.pulled.toList
  | _ => []

theorem outputs_step (taken : s.step a = some s') :
    (s.outputs ++ s.issues a).Perm (s.enqueues a ++ s'.outputs) := by
  cases step_moves taken with
  | output out present => simp [issues, enqueues, present]
  | @enqueue i ended pending room =>
    rcases List.getElem?_eq_some_iff.mp pending with ⟨bound, rfl⟩
    simp only [issues, enqueues, pending, Option.toList, List.append_nil, List.singleton_append]
    exact (List.getElem_cons_eraseIdx_perm bound).symm
  | waitRunning | wakeCreated =>
    rw [created_eq]
    simp [issues, enqueues]
  | _ => simp [issues, enqueues, newResultRedirection]

theorem queue_step (taken : s.step a = some s') :
    s.queue ++ s.enqueues a = s.handles a ++ s'.queue := by
  cases step_moves taken with
  | enqueue pending room => simp [queue, enqueues, handles, pending, Chan.push]
  | take listening buffered =>
    simp [queue, enqueues, handles, pulled_of_listening listening, buffered, Chan.pop]
  | handleClosed pulled | handleRunning pulled => simp [queue, enqueues, handles, pulled]
  | waitRunning | wakeCreated =>
    rw [created_eq]
    simp [queue, enqueues, handles]
  | _ => simp [queue, enqueues, handles, newResultRedirection]

variable {trace : List (Config Message Output × Act Message Output)}

/-- No output is lost on its way to the listener, none is handled twice, and the listener handles
    them in the order in which they got their slots. A call of `output` waits until it has one. -/
theorem outputs_handled_in_order (run : Run step Config.new trace s) :
    (told issues trace).Perm (told enqueues trace ++ s.outputs) ∧
      told enqueues trace = told handles trace ++ s.queue := by
  constructor
  · simpa [Config.new] using balanced (fun _ _ _ taken => outputs_step taken) run
  · simpa [Config.new, queue] using queued (fun _ _ _ taken => queue_step taken) run

/-- The task answers twice; its second output finds it closed. -/
def endsTwice : List (Act Nat Nat) :=
  creates 0 1 ++ echoes 1 1 0 10 ++ echoes 2 1 0 20 ++ ends ++ [.take, .handle, .report]

theorem outputs_handled_in_order_of_two : ∃ s, exec step Config.new endsTwice = some s ∧
    told enqueues (traceOf step Config.new endsTwice) =
      told handles (traceOf step Config.new endsTwice) ++ s.queue := by
  obtain ⟨s, done⟩ : ∃ s : Config Nat Nat, exec step Config.new endsTwice = some s := ⟨_, rfl⟩
  exact ⟨s, done, (outputs_handled_in_order (run_of_exec _ done)).2⟩

/-- The error the listener is about to send. -/
def pendingError (s : Config Message Output) : List ForgeError :=
  match s.writer with
  | some (.reporting e) => [e]
  | _ => []

/-- The error with which an iteration of the listener fails by the step. -/
def fails (s : Config Message Output) : Act Message Output → List ForgeError
  | .handle =>
    (s.pulled.toList.filter fun ended => !decide (s.forge.Running ended.id)).map fun ended =>
      .taskClosed ended.id
  | .clearIfDue => if s.losesCleaner .clearIfDue then [.cleaningNotifierError] else []
  | _ => []

/-- An open error channel gets the errors as the iterations fail. -/
theorem errors_step (taken : s.step a = some s') (opened : s'.errors.closed = false) :
    s.errors.closed = false ∧
      s.errors.sent ++ s.pendingError ++ s.fails a = s'.errors.sent ++ s'.pendingError := by
  cases step_moves taken with
  | newTaskStart free =>
    exact ⟨opened, by simp [pendingError, fails, free]⟩
  | notifyClosed inside
  | notifyOpen inside
  | begin capacity inside
  | broadcastClosed inside
  | broadcastOpen inside
  | prune inside => exact ⟨opened, by simp [pendingError, fails, inside]⟩
  | handleClosed pulled free unread closed =>
    exact ⟨opened, by simp [pendingError, fails, free, pulled, closed]⟩
  | handleRunning pulled free unread running =>
    exact ⟨opened, by simp [pendingError, fails, free, pulled, running]⟩
  | notDue inside due =>
    exact ⟨opened, by simp [pendingError, fails, inside, losesCleaner, due]⟩
  | clearLost inside due pending present closed =>
    refine ⟨opened, ?_⟩
    simp [pendingError, fails, inside, losesCleaner, due, pending, present, closed]
  | clearNotified inside due pending present live =>
    exact ⟨opened, by simp [pendingError, fails, inside, losesCleaner, due, pending, present, live]⟩
  | reportLogged inside closed => cases opened.symm.trans closed
  | reportSent inside live => exact ⟨live, by simp [pendingError, fails, inside]⟩
  | receiveError => exact ⟨opened, by simp [pendingError, fails]⟩
  | closeErrors => cases opened
  | waitRunning | wakeCreated =>
    rw [created_eq] at opened ⊢
    exact ⟨opened, by simp [pendingError, fails]⟩
  | _ => exact ⟨opened, by simp [pendingError, fails, newResultRedirection]⟩

theorem errors_sent (taken : s.step a = some s') :
    s'.errors.sent = s.errors.sent ∨
      (s.errors.closed = false ∧ s'.errors.sent = s.errors.sent ++ s.pendingError) := by
  cases step_moves taken with
  | reportSent inside live => exact .inr ⟨live, by simp [pendingError, inside]⟩
  | receiveError => exact .inl (by simp)
  | waitRunning | wakeCreated =>
    rw [created_eq]
    exact .inl rfl
  | _ => exact .inl rfl

/-- The errors went into the channel in their order, as long as it was open. -/
structure Reported (s : Config Message Output) (failed : List ForgeError) : Prop where
  sent : s.errors.sent <+: failed
  whole : s.errors.closed = false → s.errors.sent ++ s.pendingError = failed

theorem Reported.step {failed : List ForgeError} (reported : s.Reported failed)
    (taken : s.step a = some s') : s'.Reported (failed ++ s.fails a) := by
  refine ⟨?_, fun opened => ?_⟩
  · rcases errors_sent taken with same | ⟨live, more⟩
    · rw [same]
      exact reported.sent.trans (List.prefix_append _ _)
    · rw [more, reported.whole live]
      exact List.prefix_append _ _
  · rcases errors_step taken opened with ⟨live, next⟩
    rw [← next, reported.whole live]

/-- The error receiver gets the errors of the failing iterations, in order and without a gap, until
    it is closed. -/
theorem errors_reported_in_order (run : Run step Config.new trace s) :
    s.errors.sent <+: told fails trace ∧
      (s.errors.closed = false → s.errors.sent ++ s.pendingError = told fails trace) := by
  have keep : ∀ (s : Config Message Output) a s', True → s.step a = some s' → True :=
    fun _ _ _ _ _ => True.intro
  have reported : s.Reported (told fails trace) := by
    refine gathers keep (fun s a s' failed _ before taken => before.step taken) run True.intro ?_
    constructor <;> simp [Config.new, Chan.sent, pendingError]
  exact ⟨reported.sent, reported.whole⟩

theorem errors_reported_in_order_once : ∃ s, exec step Config.new endsTwice = some s ∧
    s.errors.sent = [.taskClosed 1] ∧
      s.errors.sent <+: told fails (traceOf step Config.new endsTwice) := by
  obtain ⟨s, done, sent⟩ : ∃ s : Config Nat Nat,
    exec step Config.new endsTwice = some s ∧ s.errors.sent = [.taskClosed 1] := ⟨_, rfl, rfl⟩
  exact ⟨s, done, sent, (errors_reported_in_order (run_of_exec _ done)).1⟩

/-- The id for which `new_task` goes on to begin a task. -/
def starts (s : Config Message Output) : Act Message Output → List OpId
  | .enter i =>
    match s.calls[i]? with
    | some ⟨.newTask id, .locking⟩ => if s.forge.Running id then [] else [id]
    | _ => []
  | _ => []

/-- The id whose task is closed by the step. -/
def accepts (s : Config Message Output) : Act Message Output → List OpId
  | .handle => (s.pulled.toList.filter fun ended => decide (s.forge.Running ended.id)).map (·.id)
  | _ => []

/-- The ids of the tasks so far, with the one that `new_task` is about to begin. -/
def startedIds (s : Config Message Output) : List OpId :=
  s.tasks.map Task.id ++ s.creatingId.toList

def runs (s : Config Message Output) (id : OpId) : Nat := if s.forge.Running id then 1 else 0

theorem taskIds_modify (j : InboxSender) (f : Chan Message → Chan Message) :
    (s.tasks.modify j fun t => { t with inbox := f t.inbox }).map Task.id =
      s.tasks.map Task.id := by
  apply List.ext_getElem?
  intro i
  rw [List.getElem?_map, List.getElem?_map, List.getElem?_modify]
  cases s.tasks[i]? with
  | none => rfl
  | some t =>
    simp only [Option.map_eq_map, Option.map_some]
    split <;> rfl

theorem startedIds_same (ids : s'.tasks.map Task.id = s.tasks.map Task.id)
    (writer : s'.writer = s.writer) : s.startedIds = s'.startedIds := by
  simp only [startedIds, creatingId, ids, writer]

theorem startedIds_step (taken : s.step a = some s') :
    s.startedIds ++ s.starts a = s'.startedIds := by
  cases step_moves taken with
  | newTaskStart free unread called stopped =>
    simp [startedIds, creatingId, starts, free, called, stopped]
  | newTaskExists free unread called running =>
    simp [startedIds, creatingId, starts, called, running]
  | begin capacity inside => simp [startedIds, creatingId, starts, inside]
  | @deliverOpen i id op inbox msg =>
    exact (List.append_nil _).trans (startedIds_same (taskIds_modify inbox (·.push msg)) rfl)
  | @receive k =>
    exact (List.append_nil _).trans (startedIds_same (taskIds_modify k Chan.pop) rfl)
  | closeInbox k =>
    exact (List.append_nil _).trans (startedIds_same (taskIds_modify k Chan.close) rfl)
  | handleClosed pulled free | handleRunning pulled free =>
    simp [startedIds, creatingId, starts, free]
  | notifyClosed inside
  | notifyOpen inside
  | notDue inside
  | clearLost inside
  | clearNotified inside
  | broadcastClosed inside
  | broadcastOpen inside
  | prune inside
  | reportLogged inside
  | reportSent inside => simp [startedIds, creatingId, starts, inside]
  | sendStart free called sends | sendMissing free called sends =>
    rcases sends with rfl | ⟨k, rfl⟩ <;> simp [startedIds, creatingId, starts, called]
  | waitRegisters free unread called waits | waitClosed free unread called waits =>
    rcases waits with rfl | ⟨msg, rfl⟩ <;> simp [startedIds, creatingId, starts, called]
  | waitRunning free unread called waits =>
    rcases waits with rfl | ⟨msg, rfl⟩ <;> simp [startedIds, creatingId, starts, called, created]
  | redirect free unread called =>
    simp [startedIds, creatingId, starts, called, newResultRedirection]
  | asksEmpty free called => simp [startedIds, creatingId, starts, called]
  | cleanCleared free unread called => simp [startedIds, creatingId, starts, called]
  | cleanRequests free unread called => simp [startedIds, creatingId, starts, called]
  | wakeCreated =>
    rw [created_eq]
    simp [startedIds, creatingId, starts]
  | _ => simp [startedIds, creatingId, starts]

theorem runs_same {id : OpId} (same : s'.forge.Running id ↔ s.forge.Running id) :
    s'.runs id = s.runs id := by
  unfold runs
  exact if_congr same rfl rfl

theorem running_of_insert {id other : OpId} {state : TaskState}
    (states : s'.forge.taskStates = s.forge.taskStates.insert other state) :
    s'.forge.Running id ↔ (id = other ∧ state = .running) ∨ (id ≠ other ∧ s.forge.Running id) := by
  rw [WrappedTaskForge.Running, states]
  exact WrappedTaskForge.running_insert id state

theorem runs_started {other : OpId} (stopped : ¬ s.forge.Running other)
    (states : s'.forge.taskStates = s.forge.taskStates.insert other .running) (id : OpId) :
    s'.runs id = s.runs id + [other].count id := by
  by_cases same : id = other
  · subst same
    have after : s'.forge.Running id := (running_of_insert states).mpr (.inl ⟨rfl, rfl⟩)
    simp [runs, stopped, after]
  · have kept : s'.forge.Running id ↔ s.forge.Running id :=
      (running_of_insert states).trans (by simp [same])
    simp [runs_same kept, Ne.symm same]

theorem runs_ended {other : OpId} (running : s.forge.Running other)
    (states : s'.forge.taskStates = s.forge.taskStates.insert other .closed) (id : OpId) :
    s'.runs id + [other].count id = s.runs id := by
  by_cases same : id = other
  · subst same
    have after : ¬ s'.forge.Running id := mt (running_of_insert states).mp (by simp)
    simp [runs, running, after]
  · have kept : s'.forge.Running id ↔ s.forge.Running id :=
      (running_of_insert states).trans (by simp [same])
    simp [runs_same kept, Ne.symm same]

theorem runs_quiet {id : OpId} (unstarted : s.starts a = []) (unaccepted : s.accepts a = [])
    (same : s'.forge.Running id ↔ s.forge.Running id) :
    s'.runs id + (s.accepts a).count id = s.runs id + (s.starts a).count id := by
  rw [unstarted, unaccepted, runs_same same]

theorem running_cleared {id : OpId} (book : s.forge.Matches none) (empty : s.forge.isEmpty = true)
    (cleared : s'.forge.taskStates = ∅) : s'.forge.Running id ↔ s.forge.Running id := by
  have before : ¬ s.forge.Running id := book.not_running empty
  have after : ¬ s'.forge.Running id := by simp [WrappedTaskForge.Running, cleared]
  exact iff_of_false after before

/-- A task runs from its start to the ending that is accepted for its id. -/
theorem runs_step (book : s.Bookkeeping) (taken : s.step a = some s') (id : OpId) :
    s'.runs id + (s.accepts a).count id = s.runs id + (s.starts a).count id := by
  cases step_moves taken with
  | @newTaskStart i other free unread called stopped =>
    have started : s.starts (.enter i) = [other] := by simp [starts, called, stopped]
    rw [started, runs_started stopped rfl]
    rfl
  | newTaskExists free unread called running =>
    exact runs_quiet (by simp [starts, called, running]) rfl .rfl
  | @handleRunning ended pulled free unread running =>
    have accepted : s.accepts .handle = [ended.id] := by simp [accepts, pulled, running]
    rw [accepted, runs_ended running rfl]
    rfl
  | handleClosed pulled free unread closed =>
    exact runs_quiet rfl (by simp [accepts, pulled, closed]) .rfl
  | cleanCleared free unread called empty =>
    exact runs_quiet (by simp [starts, called]) rfl (running_cleared (book.free free) empty rfl)
  | clearLost inside due | clearNotified inside due =>
    have matched : s.forge.Matches none := by
      simpa only [Bookkeeping, creatingId, inside] using book
    exact runs_quiet rfl rfl (running_cleared matched (WrappedTaskForge.empty_of_due due) rfl)
  | sendStart free called sends | sendMissing free called sends =>
    rcases sends with rfl | ⟨k, rfl⟩ <;> exact runs_quiet (by simp [starts, called]) rfl .rfl
  | @waitRegisters i other op free unread called waits =>
    have same : (s.forge.newTaskNotifReceiver other s.waiters.length).Running id ↔
        s.forge.Running id := by
      rw [WrappedTaskForge.newTaskNotifReceiver_eq]
      rfl
    rcases waits with rfl | ⟨msg, rfl⟩ <;> exact runs_quiet (by simp [starts, called]) rfl same
  | waitClosed free unread called waits =>
    rcases waits with rfl | ⟨msg, rfl⟩ <;> exact runs_quiet (by simp [starts, called]) rfl .rfl
  | waitRunning free unread called waits =>
    rcases waits with rfl | ⟨msg, rfl⟩ <;> exact runs_quiet (by simp [starts, called]) rfl .rfl
  | redirect free unread called | cleanRequests free unread called | asksEmpty free called =>
    exact runs_quiet (by simp [starts, called]) rfl .rfl
  | wakeCreated =>
    rw [created_eq]
    exact runs_quiet rfl rfl .rfl
  | _ => exact runs_quiet rfl rfl .rfl

theorem startedIds_run (run : Run step Config.new trace s) :
    s.startedIds = told starts trace := by
  induction run with
  | nil => rfl
  | snoc before last ih => rw [told_snoc, ← ih, startedIds_step last]

theorem runs_run (run : Run step Config.new trace s) (id : OpId) :
    s.runs id + (told accepts trace).count id = (told starts trace).count id := by
  induction run with
  | nil => simp [runs, Config.new, WrappedTaskForge.new, WrappedTaskForge.Running]
  | snoc before last ih =>
    have now := runs_step (bookkeeping_reachable before.reachable) last id
    rw [told_snoc, told_snoc, List.count_append, List.count_append]
    omega

/-- The tasks begin in the order in which `new_task` started them, and between two of one id an
    ending is accepted. -/
theorem tasks_begun_and_ended (run : Run step Config.new trace s) :
    s.tasks.map Task.id ++ s.creatingId.toList = told starts trace ∧
      ∀ id, (told starts trace).count id =
        (told accepts trace).count id + if s.forge.Running id then 1 else 0 := by
  refine ⟨startedIds_run run, fun id => ?_⟩
  rw [← runs_run run id, Nat.add_comm]
  rfl

theorem tasks_begun_and_ended_once : ∃ s, exec step Config.new endsTwice = some s ∧
    s.tasks.map Task.id ++ s.creatingId.toList =
      told starts (traceOf step Config.new endsTwice) := by
  obtain ⟨s, done⟩ : ∃ s : Config Nat Nat, exec step Config.new endsTwice = some s := ⟨_, rfl⟩
  exact ⟨s, done, (tasks_begun_and_ended (run_of_exec _ done)).1⟩

end Config

end AsyncForge.TaskForge
