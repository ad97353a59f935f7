import AsyncForge.TaskForge.System

/-! What a step can do: one constructor for every way through a step, with its guards. Every
    invariant is proved by cases on it, and no later proof unfolds `Config.step`. -/

namespace AsyncForge.TaskForge

open AsyncForge.Channels AsyncForge.Removal

variable {Message Output : Type}

namespace Config

inductive Moves (s : Config Message Output) :
    Act Message Output → Config Message Output → Prop
  | call (op : Op Message) : Moves s (.call op) { s with calls := s.calls ++ [⟨op, .locking⟩] }
  | newTaskExists {i : Nat} {id : OpId} (free : s.writer = none) (unread : s.unread = true)
      (called : s.calls[i]? = some ⟨.newTask id, .locking⟩) (running : s.forge.Running id) :
      Moves s (.enter i) { s with
        calls := setPhase s.calls i (.done (.result (.error (.taskAlreadyExists id)))) }
  | newTaskStart {i : Nat} {id : OpId} (free : s.writer = none) (unread : s.unread = true)
      (called : s.calls[i]? = some ⟨.newTask id, .locking⟩) (running : ¬ s.forge.Running id) :
      Moves s (.enter i) { s with
        forge := { s.forge with
          taskStates := s.forge.taskStates.insert id .running
          taskCreationSenders := s.forge.taskCreationSenders.erase id }
        writer := some (.creating i id ((s.forge.taskCreationSenders.lookup id).getD []) (.ok ()))
        calls := setPhase s.calls i .creating }
  | waitRegisters {i : Nat} {id : OpId} {op : Op Message} (free : s.writer = none)
      (unread : s.unread = true) (called : s.calls[i]? = some ⟨op, .locking⟩)
      (waits : op = .waitForTaskCreation id ∨ ∃ msg, op = .waitAndSend id msg)
      (state : s.forge.taskStates.lookup id = none) :
      Moves s (.enter i) { s with
        waiters := s.waiters ++ [{ capacity := channelSize }]
        forge := s.forge.newTaskNotifReceiver id s.waiters.length
        calls := setPhase s.calls i (.waiting id s.waiters.length) }
  | waitRunning {i : Nat} {id : OpId} {op : Op Message} (free : s.writer = none)
      (unread : s.unread = true) (called : s.calls[i]? = some ⟨op, .locking⟩)
      (waits : op = .waitForTaskCreation id ∨ ∃ msg, op = .waitAndSend id msg)
      (state : s.forge.Running id) :
      Moves s (.enter i) (s.created i op (s.forge.forge.lookup id))
  | waitClosed {i : Nat} {id : OpId} {op : Op Message} (free : s.writer = none)
      (unread : s.unread = true) (called : s.calls[i]? = some ⟨op, .locking⟩)
      (waits : op = .waitForTaskCreation id ∨ ∃ msg, op = .waitAndSend id msg)
      (state : s.forge.taskStates.lookup id = some .closed) :
      Moves s (.enter i) { s with
        calls := setPhase s.calls i (.done (.result (.error (.taskClosed id)))) }
  | redirect {i : Nat} (free : s.writer = none) (unread : s.unread = true)
      (called : s.calls[i]? = some ⟨.newResultRedirection, .locking⟩) :
      Moves s (.enter i) (s.newResultRedirection i)
  | asksEmpty {i : Nat} (free : s.writer = none)
      (called : s.calls[i]? = some ⟨.isEmpty, .locking⟩) :
      Moves s (.enter i) { s with
        calls := setPhase s.calls i (.done (.empty s.forge.isEmpty)) }
  | cleanCleared {i : Nat} {awaited : Option Nat} (free : s.writer = none)
      (unread : s.unread = true) (called : s.calls[i]? = some ⟨.clean awaited, .locking⟩)
      (empty : s.forge.isEmpty = true) :
      Moves s (.enter i) { s with
        cleanings := s.cleanings ++ [{ capacity := channelSize, closed := true }]
        forge := s.forge.cleanEmpty
        calls := setPhase s.calls i (.done (.cleaning none)) }
  | cleanRequests {i : Nat} {awaited : Option Nat} (free : s.writer = none)
      (unread : s.unread = true) (called : s.calls[i]? = some ⟨.clean awaited, .locking⟩)
      (inhabited : s.forge.isEmpty = false) :
      Moves s (.enter i) { s with
        cleanings := s.cleanings ++ [{ capacity := channelSize }]
        forge := { s.forge with cleaningNotifier := some (s.cleanings.length, awaited) }
        calls := setPhase s.calls i (.done (.cleaning (some s.cleanings.length))) }
  | sendStart {i : Nat} {id : OpId} {msg : Message} {c : Call Message} {sender : InboxSender}
      (free : s.writer = none) (called : s.calls[i]? = some c)
      (sends : c = ⟨.send id msg, .locking⟩ ∨ ∃ k, c = ⟨.waitAndSend id msg, .resuming k⟩)
      (found : s.forge.forge.lookup id = some sender) :
      Moves s (.enter i) { s with calls := setPhase s.calls i (.sending id sender msg) }
  | sendMissing {i : Nat} {id : OpId} {msg : Message} {c : Call Message}
      (free : s.writer = none) (called : s.calls[i]? = some c)
      (sends : c = ⟨.send id msg, .locking⟩ ∨ ∃ k, c = ⟨.waitAndSend id msg, .resuming k⟩)
      (missing : s.forge.forge.lookup id = none) :
      Moves s (.enter i) { s with
        calls := setPhase s.calls i (.done (.result (.error (.taskNotExist id)))) }
  | notifyClosed {i : Nat} {id : OpId} {sender : CreationSender} {senders : List CreationSender}
      {result : ForgeResult Unit} {chan : Chan InboxSender}
      (inside : s.writer = some (.creating i id (sender :: senders) result))
      (present : s.waiters[sender]? = some chan) (closed : chan.closed = true) :
      Moves s .notify { s with
        writer := some (.creating i id senders (.error (.taskCreationSendingError id))) }
  | notifyOpen {i : Nat} {id : OpId} {sender : CreationSender} {senders : List CreationSender}
      {result : ForgeResult Unit} {chan : Chan InboxSender}
      (inside : s.writer = some (.creating i id (sender :: senders) result))
      (present : s.waiters[sender]? = some chan) (opened : chan.closed = false)
      (room : chan.full = false) :
      Moves s .notify { s with
        waiters := s.waiters.modify sender (·.push s.tasks.length)
        writer := some (.creating i id senders result) }
  | begin {i : Nat} {id : OpId} {result : ForgeResult Unit} (capacity : Nat)
      (inside : s.writer = some (.creating i id [] result)) :
      Moves s (.begin capacity) { s with
        tasks := s.tasks ++ [⟨id, { capacity }⟩]
        forge := { s.forge with forge := s.forge.forge.insert id s.tasks.length }
        writer := none
        calls := setPhase s.calls i (.done (.result result)) }
  | wakeCreated {i : Nat} {id : OpId} {op : Op Message} {waiter : Nat} {task : InboxSender}
      {chan : Chan InboxSender} {rest : List InboxSender}
      (called : s.calls[i]? = some ⟨op, .waiting id waiter⟩)
      (present : s.waiters[waiter]? = some chan) (buffered : chan.buffer = task :: rest) :
      Moves s (.wake i)
        ({ s with waiters := s.waiters.modify waiter Chan.pop }.created i op (some task))
  | wakeDropped {i : Nat} {id : OpId} {op : Op Message} {waiter : Nat} {chan : Chan InboxSender}
      (called : s.calls[i]? = some ⟨op, .waiting id waiter⟩)
      (present : s.waiters[waiter]? = some chan) (drained : chan.buffer = [])
      (dropped : ¬ s.Held waiter) :
      Moves s (.wake i) { s with
        calls := setPhase s.calls i (.done (.result (.error (.failedToWaitCreation id)))) }
  | deliverClosed {i : Nat} {id : OpId} {op : Op Message} {inbox : InboxSender} {msg : Message}
      {task : Task Message} (called : s.calls[i]? = some ⟨op, .sending id inbox msg⟩)
      (present : s.tasks[inbox]? = some task) (closed : task.inbox.closed = true) :
      Moves s (.deliver i) { s with
        calls := setPhase s.calls i (.done (.result (.error (.sendError id)))) }
  | deliverOpen {i : Nat} {id : OpId} {op : Op Message} {inbox : InboxSender} {msg : Message}
      {task : Task Message} (called : s.calls[i]? = some ⟨op, .sending id inbox msg⟩)
      (present : s.tasks[inbox]? = some task) (opened : task.inbox.closed = false)
      (room : task.inbox.full = false) :
      Moves s (.deliver i) { s with
        tasks := s.tasks.modify inbox fun t => { t with inbox := t.inbox.push msg }
        calls := setPhase s.calls i (.done (.result (.ok ()))) }
  | cancelWaiting {i : Nat} {id : OpId} {op : Op Message} {waiter : Nat}
      (called : s.calls[i]? = some ⟨op, .waiting id waiter⟩) :
      Moves s (.cancel i) { s with
        waiters := s.waiters.modify waiter Chan.close
        calls := setPhase s.calls i .cancelled }
  | cancel {i : Nat} {c : Call Message} (called : s.calls[i]? = some c)
      (droppable : c.phase = .locking ∨ (∃ k, c.phase = .resuming k) ∨
        ∃ id inbox msg, c.phase = .sending id inbox msg) :
      Moves s (.cancel i) { s with calls := setPhase s.calls i .cancelled }
  | output {k : InboxSender} {t : Task Message} (out : Output) (present : s.tasks[k]? = some t) :
      Moves s (.output k out) { s with outputs := s.outputs ++ [⟨t.id, out, k⟩] }
  | enqueue {i : Nat} {ended : TaskOutput Output} (pending : s.outputs[i]? = some ended)
      (room : s.endTasks.full = false) :
      Moves s (.enqueue i) { s with
        endTasks := s.endTasks.push ended, outputs := s.outputs.eraseIdx i }
  | receive {k : InboxSender} {t : Task Message} (present : s.tasks[k]? = some t)
      (buffered : t.inbox.buffer.isEmpty = false) :
      Moves s (.receive k) { s with
        tasks := s.tasks.modify k fun t => { t with inbox := t.inbox.pop } }
  | closeInbox (k : InboxSender) :
      Moves s (.closeInbox k) { s with
        tasks := s.tasks.modify k fun t => { t with inbox := t.inbox.close } }
  | take {ended : TaskOutput Output} {rest : List (TaskOutput Output)}
      (listening : s.listening = true) (buffered : s.endTasks.buffer = ended :: rest) :
      Moves s .take { s with endTasks := s.endTasks.pop, pulled := some ended }
  | handleClosed {ended : TaskOutput Output} (pulled : s.pulled = some ended)
      (free : s.writer = none) (unread : s.unread = true) (closed : ¬ s.forge.Running ended.id) :
      Moves s .handle { s with
        pulled := none, writer := some (.reporting (.taskClosed ended.id)) }
  | handleRunning {ended : TaskOutput Output} (pulled : s.pulled = some ended)
      (free : s.writer = none) (unread : s.unread = true) (running : s.forge.Running ended.id) :
      Moves s .handle { s with
        pulled := none
        forge := s.forge.closeTask ended.id
        writer := some (.closing ended) }
  | notDue {ended : TaskOutput Output} (inside : s.writer = some (.closing ended))
      (due : s.forge.shouldClear = false) :
      Moves s .clearIfDue { s with writer := some (.broadcasting ended false 0 []) }
  | clearLost {ended : TaskOutput Output} {notifier : CleaningSender} {awaited : Option Nat}
      {chan : Chan Unit} (inside : s.writer = some (.closing ended))
      (due : s.forge.shouldClear = true)
      (pending : s.forge.cleaningNotifier = some (notifier, awaited))
      (present : s.cleanings[notifier]? = some chan) (closed : chan.closed = true) :
      Moves s .clearIfDue { s with
        forge := s.forge.clearEnded, writer := some (.reporting .cleaningNotifierError) }
  | clearNotified {ended : TaskOutput Output} {notifier : CleaningSender} {awaited : Option Nat}
      {chan : Chan Unit} (inside : s.writer = some (.closing ended))
      (due : s.forge.shouldClear = true)
      (pending : s.forge.cleaningNotifier = some (notifier, awaited))
      (present : s.cleanings[notifier]? = some chan) (opened : chan.closed = false)
      (room : chan.full = false) :
      Moves s .clearIfDue { s with
        forge := s.forge.clearEnded
        cleanings := s.cleanings.modify notifier (·.push ())
        writer := some (.broadcasting ended true 0 []) }
  | broadcastClosed {ended : TaskOutput Output} {hasCleared : Bool} {i : Nat}
      {sendersToRemove : List Nat} {sender : OutputSender} {chan : Chan (ForgeTaskEnded Output)}
      (inside : s.writer = some (.broadcasting ended hasCleared i sendersToRemove))
      (current : s.forge.outputResultSenders[i]? = some sender)
      (present : s.results[sender]? = some chan) (closed : chan.closed = true) :
      Moves s .broadcast { s with
        writer := some (.broadcasting ended hasCleared (i + 1) (sendersToRemove ++ [i])) }
  | broadcastOpen {ended : TaskOutput Output} {hasCleared : Bool} {i : Nat}
      {sendersToRemove : List Nat} {sender : OutputSender} {chan : Chan (ForgeTaskEnded Output)}
      (inside : s.writer = some (.broadcasting ended hasCleared i sendersToRemove))
      (current : s.forge.outputResultSenders[i]? = some sender)
      (present : s.results[sender]? = some chan) (opened : chan.closed = false)
      (room : chan.full = false) :
      Moves s .broadcast { s with
        results := s.results.modify sender (·.push ⟨ended.output, ended.id, hasCleared⟩)
        writer := some (.broadcasting ended hasCleared (i + 1) sendersToRemove) }
  | prune {ended : TaskOutput Output} {hasCleared : Bool} {i : Nat} {sendersToRemove : List Nat}
      {kept : List OutputSender}
      (inside : s.writer = some (.broadcasting ended hasCleared i sendersToRemove))
      (ends : i = s.forge.outputResultSenders.length)
      (removed : sendersToRemove.reverse.foldlM remove? s.forge.outputResultSenders = some kept) :
      Moves s .prune { s with
        forge := { s.forge with outputResultSenders := kept }, writer := none }
  | reportLogged {e : ForgeError} (inside : s.writer = some (.reporting e))
      (closed : s.errors.closed = true) : Moves s .report { s with writer := none }
  | reportSent {e : ForgeError} (inside : s.writer = some (.reporting e))
      (opened : s.errors.closed = false) (room : s.errors.full = false) :
      Moves s .report { s with errors := s.errors.push e, writer := none }
  | receiveResult (receiver : Nat) : Moves s (.receiveResult receiver)
      { s with results := s.results.modify receiver Chan.pop }
  | closeResult (receiver : Nat) : Moves s (.closeResult receiver)
      { s with results := closeAt s.results receiver }
  | receiveCleaning (receiver : Nat) : Moves s (.receiveCleaning receiver)
      { s with cleanings := s.cleanings.modify receiver Chan.pop }
  | closeCleaning (receiver : Nat) : Moves s (.closeCleaning receiver)
      { s with cleanings := closeAt s.cleanings receiver }
  | receiveError : Moves s .receiveError { s with errors := s.errors.pop }
  | closeErrors : Moves s .closeErrors { s with errors := s.errors.close }

variable {s s' : Config Message Output}

/-- A wait that succeeds moves its own call only. -/
theorem created_eq (i : Nat) (op : Op Message) (observed : Option InboxSender) :
    s.created i op observed = { s with calls := (s.created i op observed).calls } := by
  cases op <;> rfl

@[simp] theorem created_forge (i : Nat) (op : Op Message) (observed : Option InboxSender) :
    (s.created i op observed).forge = s.forge := by cases op <;> rfl

@[simp] theorem created_writer (i : Nat) (op : Op Message) (observed : Option InboxSender) :
    (s.created i op observed).writer = s.writer := by cases op <;> rfl

theorem created_calls_length (i : Nat) (op : Op Message) (observed : Option InboxSender) :
    (s.created i op observed).calls.length = s.calls.length := by
  cases op <;> exact List.length_modify ..

theorem newTask_moves {i : Nat} {id : OpId} (free : s.writer = none) (unread : s.unread = true)
    (called : s.calls[i]? = some ⟨.newTask id, .locking⟩) :
    Moves s (.enter i) (s.newTask i id) := by
  unfold newTask
  by_cases running : s.forge.taskStates.lookup id = some .running
  · simp only [running, ↓reduceIte, WrappedTaskForge.insert_running_again running]
    exact .newTaskExists free unread called running
  · simp only [running, ↓reduceIte]
    have moves := Moves.newTaskStart free unread called running
    cases senders : s.forge.taskCreationSenders.lookup id with
    | some senders' => simpa only [senders, Option.getD_some] using moves
    | none =>
      have same : s.forge.taskCreationSenders.erase id = s.forge.taskCreationSenders := by
        apply Finmap.ext_lookup
        intro other
        by_cases equal : other = id
        · subst equal
          rw [Finmap.lookup_erase, senders]
        · rw [Finmap.lookup_erase_ne equal]
      simpa only [senders, Option.getD_none, same] using moves

theorem waitForTaskCreation_moves {i : Nat} {id : OpId} {op : Op Message}
    (free : s.writer = none) (unread : s.unread = true)
    (called : s.calls[i]? = some ⟨op, .locking⟩)
    (waits : op = .waitForTaskCreation id ∨ ∃ msg, op = .waitAndSend id msg) :
    Moves s (.enter i) (s.waitForTaskCreation i op id) := by
  unfold waitForTaskCreation
  rcases state : s.forge.taskStates.lookup id with _ | _ | _
  · exact .waitRegisters free unread called waits state
  · exact .waitRunning free unread called waits state
  · exact .waitClosed free unread called waits state

theorem send_moves {i : Nat} {id : OpId} {msg : Message} {c : Call Message}
    (free : s.writer = none) (called : s.calls[i]? = some c)
    (sends : c = ⟨.send id msg, .locking⟩ ∨ ∃ k, c = ⟨.waitAndSend id msg, .resuming k⟩) :
    Moves s (.enter i) (s.send i id msg) := by
  unfold send
  cases found : s.forge.forge.lookup id with
  | some sender => exact .sendStart free called sends found
  | none => exact .sendMissing free called sends found

theorem clean_moves {i : Nat} {awaited : Option Nat} (free : s.writer = none)
    (unread : s.unread = true) (called : s.calls[i]? = some ⟨.clean awaited, .locking⟩) :
    Moves s (.enter i) (s.clean i awaited) := by
  unfold clean
  split
  next empty => exact .cleanCleared free unread called empty
  next inhabited => exact .cleanRequests free unread called (by simpa using inhabited)

theorem enter_moves {i : Nat} (h : s.enter i = some s') : Moves s (.enter i) s' := by
  unfold enter at h
  split at h
  · cases h
  next held =>
    have free : s.writer = none := by simpa using held
    split at h
    next id msg called =>
      cases h
      exact send_moves free called (.inl rfl)
    next id msg observed called =>
      cases h
      exact send_moves free called (.inr ⟨observed, rfl⟩)
    next called =>
      cases h
      exact .asksEmpty free called
    next op _ _ called =>
      split at h
      next unread =>
        cases op with
        | newTask id => cases h; exact newTask_moves free unread called
        | waitForTaskCreation id =>
          cases h
          exact waitForTaskCreation_moves free unread called (.inl rfl)
        | newResultRedirection => cases h; exact .redirect free unread called
        | isEmpty => cases h
        | waitAndSend id msg =>
          cases h
          exact waitForTaskCreation_moves free unread called (.inr ⟨msg, rfl⟩)
        | send id msg => cases h
        | clean awaited => cases h; exact clean_moves free unread called
      · cases h
    · cases h

theorem notify_moves (h : s.notify = some s') : Moves s .notify s' := by
  unfold notify at h
  split at h
  next i id sender senders result inside =>
    split at h
    next chan present =>
      split at h
      next closed => cases h; exact .notifyClosed inside present closed
      next opened =>
        split at h
        · cases h
        next room =>
          cases h
          exact .notifyOpen inside present (by simpa using opened) (by simpa using room)
    · cases h
  · cases h

theorem begin_moves {capacity : Nat} (h : s.begin capacity = some s') :
    Moves s (.begin capacity) s' := by
  unfold begin at h
  split at h
  next inside => cases h; exact .begin capacity inside
  · cases h

theorem wake_moves {i : Nat} (h : s.wake i = some s') : Moves s (.wake i) s' := by
  unfold wake at h
  split at h
  next op id waiter called =>
    split at h
    next chan present =>
      split at h
      next task rest buffered => cases h; exact .wakeCreated called present buffered
      next drained =>
        split at h
        · cases h
        next dropped => cases h; exact .wakeDropped called present drained dropped
    · cases h
  · cases h

theorem deliver_moves {i : Nat} (h : s.deliver i = some s') : Moves s (.deliver i) s' := by
  unfold deliver at h
  split at h
  next op id inbox msg called =>
    split at h
    next task present =>
      split at h
      next closed => cases h; exact .deliverClosed called present closed
      next opened =>
        split at h
        · cases h
        next room =>
          cases h
          exact .deliverOpen called present (by simpa using opened) (by simpa using room)
    · cases h
  · cases h

theorem cancel_moves {i : Nat} (h : s.cancel i = some s') : Moves s (.cancel i) s' := by
  unfold cancel at h
  split at h
  next called => cases h; exact .cancelWaiting called
  next called => cases h; exact .cancel called (.inl rfl)
  next observed called => cases h; exact .cancel called (.inr (.inl ⟨observed, rfl⟩))
  next id inbox msg called => cases h; exact .cancel called (.inr (.inr ⟨id, inbox, msg, rfl⟩))
  · cases h

theorem handle_moves (h : s.handle = some s') : Moves s .handle s' := by
  unfold handle at h
  split at h
  next ended pulled =>
    split at h
    · cases h
    next held =>
      have free : s.writer = none := by simp at held; exact held.1
      have unread : s.unread = true := by simp at held; exact held.2
      split at h
      next closed => cases h; exact .handleClosed pulled free unread closed
      next running =>
        cases h
        exact .handleRunning pulled free unread (Decidable.not_not.mp running)
  · cases h

theorem clearIfDue_moves (h : s.clearIfDue = some s') : Moves s .clearIfDue s' := by
  unfold clearIfDue at h
  split at h
  next ended inside =>
    split at h
    next due =>
      split at h
      next notifier awaited pending =>
        split at h
        next chan present =>
          split at h
          next closed => cases h; exact .clearLost inside due pending present closed
          next opened =>
            split at h
            · cases h
            next room =>
              cases h
              exact .clearNotified inside due pending present (by simpa using opened)
                (by simpa using room)
        · cases h
      · cases h
    next due => cases h; exact .notDue inside (by simpa using due)
  · cases h

theorem broadcast_moves (h : s.broadcast = some s') : Moves s .broadcast s' := by
  unfold broadcast at h
  split at h
  next ended hasCleared i sendersToRemove inside =>
    split at h
    next sender current =>
      split at h
      next chan present =>
        split at h
        next closed => cases h; exact .broadcastClosed inside current present closed
        next opened =>
          split at h
          · cases h
          next room =>
            cases h
            exact .broadcastOpen inside current present (by simpa using opened)
              (by simpa using room)
      · cases h
    · cases h
  · cases h

theorem prune_moves (h : s.prune = some s') : Moves s .prune s' := by
  unfold prune at h
  split at h
  next ended hasCleared i sendersToRemove inside =>
    split at h
    next ends =>
      rcases Option.map_eq_some_iff.mp h with ⟨kept, removed, rfl⟩
      exact .prune inside ends removed
    · cases h
  · cases h

theorem report_moves (h : s.report = some s') : Moves s .report s' := by
  unfold report at h
  split at h
  next e inside =>
    split at h
    next closed => cases h; exact .reportLogged inside closed
    next opened =>
      split at h
      · cases h
      next room =>
        cases h
        exact .reportSent inside (by simpa using opened) (by simpa using room)
  · cases h

theorem enqueue_moves {i : Nat} (h : s.enqueue i = some s') : Moves s (.enqueue i) s' := by
  unfold enqueue at h
  split at h
  next ended pending =>
    split at h
    · cases h
    next room => cases h; exact .enqueue pending (by simpa using room)
  · cases h

theorem receive_moves {k : InboxSender} (h : s.receive k = some s') : Moves s (.receive k) s' := by
  unfold receive at h
  split at h
  next t present =>
    split at h
    · cases h
    next buffered => cases h; exact .receive present (by simpa using buffered)
  · cases h

theorem take_moves (h : s.take = some s') : Moves s .take s' := by
  unfold take at h
  split at h
  next listening =>
    split at h
    next ended rest buffered => cases h; exact .take listening buffered
    · cases h
  · cases h

theorem step_moves {a : Act Message Output} (h : s.step a = some s') : Moves s a s' := by
  cases a with
  | call op => cases h; exact .call op
  | enter i => exact enter_moves h
  | notify => exact notify_moves h
  | begin capacity => exact begin_moves h
  | wake i => exact wake_moves h
  | deliver i => exact deliver_moves h
  | cancel i => exact cancel_moves h
  | output k out =>
    rcases Option.map_eq_some_iff.mp h with ⟨t, present, rfl⟩
    exact .output out present
  | enqueue i => exact enqueue_moves h
  | receive k => exact receive_moves h
  | closeInbox k => cases h; exact .closeInbox k
  | take => exact take_moves h
  | handle => exact handle_moves h
  | clearIfDue => exact clearIfDue_moves h
  | broadcast => exact broadcast_moves h
  | prune => exact prune_moves h
  | report => exact report_moves h
  | receiveResult receiver =>
    rcases Option.map_eq_some_iff.mp h with ⟨results, received, rfl⟩
    obtain rfl := receiveAt_some received
    exact .receiveResult receiver
  | closeResult receiver => cases h; exact .closeResult receiver
  | receiveCleaning receiver =>
    rcases Option.map_eq_some_iff.mp h with ⟨cleanings, received, rfl⟩
    obtain rfl := receiveAt_some received
    exact .receiveCleaning receiver
  | closeCleaning receiver => cases h; exact .closeCleaning receiver
  | receiveError =>
    simp only [step] at h
    split at h
    · cases h
    · cases h; exact .receiveError
  | closeErrors => cases h; exact .closeErrors

end Config

end AsyncForge.TaskForge
