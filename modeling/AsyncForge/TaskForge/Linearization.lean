import AsyncForge.Lib.Refinement
import AsyncForge.TaskForge.Delivery
import AsyncForge.TaskForge.Ledger
import AsyncForge.TaskForge.WaitingCalls

/-! The forge is its ledger: the critical sections, in the order in which they get the lock, are
    entries of it, and every call gets the reply that the ledger has for it at its entry. -/

namespace AsyncForge.TaskForge

open AsyncForge.Accounts AsyncForge.Channels AsyncForge.Refinement AsyncForge.Removal
  AsyncForge.Runs

variable {Message Output : Type}

/-- The state under the lock keeps the ledger. -/
structure WrappedTaskForge.Keeps (f : WrappedTaskForge) (l : Ledger) : Prop where
  inboxes : ∀ id task, f.forge.lookup id = some task ↔ l.tasks.lookup id = some (.running task)
  states : ∀ id, f.taskStates.lookup id = (l.tasks.lookup id).map Standing.state
  waiting : ∀ id, (f.taskCreationSenders.lookup id).getD [] = l.waiting id
  request : f.cleaningNotifier = l.request
  redirections : f.outputResultSenders.toFinset = l.redirections

namespace WrappedTaskForge

variable {f : WrappedTaskForge} {l : Ledger} {id : OpId} {msg : Message}

theorem Keeps.running (keeps : f.Keeps l) : f.Running id ↔ l.Running id := by
  rw [Running, keeps.states]
  constructor
  · intro state
    rcases Option.map_eq_some_iff.mp state with ⟨standing, found, same⟩
    cases standing with
    | running task => exact ⟨task, found⟩
    | closed => cases same
  · intro running
    rcases running with ⟨task, found⟩
    rw [found]
    rfl

theorem Keeps.isEmpty (keeps : f.Keeps l) : f.isEmpty = l.idle := by
  rw [Bool.eq_iff_iff, isEmpty_iff, Ledger.idle_iff]
  constructor
  · intro none id running
    rcases running with ⟨task, found⟩
    cases (none id).symm.trans ((keeps.inboxes id task).mpr found)
  · intro idle id
    cases found : f.forge.lookup id with
    | none => rfl
    | some task => exact absurd ⟨task, (keeps.inboxes id task).mp found⟩ (idle id)

theorem Keeps.keys (keeps : f.Keeps l) : f.taskStates.keys = l.tasks.keys := by
  ext id
  rw [Finmap.mem_keys, Finmap.mem_keys, ← not_iff_not, ← Finmap.lookup_eq_none,
    ← Finmap.lookup_eq_none, keeps.states, Option.map_eq_none_iff]

theorem Keeps.shouldClear (keeps : f.Keeps l) : f.shouldClear = l.due := by
  rw [Bool.eq_iff_iff, shouldClear_iff, Ledger.due_iff, keeps.isEmpty, keeps.keys, keeps.request]

theorem keeps_new : WrappedTaskForge.new.Keeps .new := by
  constructor <;> simp [WrappedTaskForge.new, Ledger.new]

theorem Keeps.create (keeps : f.Keeps l) (task : InboxSender) :
    Keeps { f with
      forge := f.forge.insert id task
      taskStates := f.taskStates.insert id .running
      taskCreationSenders := f.taskCreationSenders.erase id }
      { l with
        tasks := l.tasks.insert id (.running task)
        waiting := Function.update l.waiting id [] } := by
  refine ⟨?_, ?_, ?_, keeps.request, keeps.redirections⟩
  · intro other task'
    by_cases same : other = id
    · subst same
      simp
    · simp only [Finmap.lookup_insert_of_ne _ same, keeps.inboxes]
  · intro other
    by_cases same : other = id
    · subst same
      simp [Standing.state]
    · simp only [Finmap.lookup_insert_of_ne _ same, keeps.states]
  · intro other
    by_cases same : other = id
    · subst same
      simp
    · simp only [Finmap.lookup_erase_ne same, Function.update_of_ne same, keeps.waiting]

theorem Keeps.register (keeps : f.Keeps l) (waiter : CreationSender) :
    (f.newTaskNotifReceiver id waiter).Keeps
      { l with waiting := Function.update l.waiting id (l.waiting id ++ [waiter]) } := by
  rw [newTaskNotifReceiver_eq]
  refine ⟨keeps.inboxes, keeps.states, ?_, keeps.request, keeps.redirections⟩
  intro other
  by_cases same : other = id
  · subst same
    simp [keeps.waiting]
  · simp only [Finmap.lookup_insert_of_ne _ same, Function.update_of_ne same, keeps.waiting]

theorem Keeps.close (keeps : f.Keeps l) : (f.closeTask id).Keeps (l.close id) := by
  refine ⟨?_, ?_, keeps.waiting, keeps.request, keeps.redirections⟩
  · intro other task
    by_cases same : other = id
    · subst same
      simp [closeTask, Ledger.close]
    · simp only [closeTask, Ledger.close, Finmap.lookup_erase_ne same,
        Finmap.lookup_insert_of_ne _ same, keeps.inboxes]
  · intro other
    by_cases same : other = id
    · subst same
      simp [closeTask, Ledger.close, Standing.state]
    · simp only [closeTask, Ledger.close, Finmap.lookup_insert_of_ne _ same, keeps.states]

/-- A clearing, which finds no inbox sender. -/
theorem Keeps.wipe (keeps : f.Keeps l) (empty : f.isEmpty = true)
    (notifier : Option (CleaningSender × Option Nat)) :
    Keeps { f with taskStates := ∅, taskCreationSenders := ∅, cleaningNotifier := notifier }
      { l.wipe with request := notifier } := by
  refine ⟨?_, ?_, ?_, rfl, keeps.redirections⟩
  · intro id task
    simp [(isEmpty_iff f).mp empty id, Ledger.wipe]
  · intro id
    rfl
  · intro id
    rfl

theorem Keeps.sendReply_found {sender : InboxSender} (keeps : f.Keeps l)
    (found : f.forge.lookup id = some sender) : l.sendReply id msg = .sending id sender msg := by
  simp only [Ledger.sendReply, (keeps.inboxes id sender).mp found]

theorem Keeps.sendReply_missing (keeps : f.Keeps l) (missing : f.forge.lookup id = none) :
    l.sendReply id msg = .done (.result (.error (.taskNotExist id))) := by
  unfold Ledger.sendReply
  split
  next task found => cases missing.symm.trans ((keeps.inboxes id task).mpr found)
  · rfl

end WrappedTaskForge

namespace Config

variable {s s' : Config Message Output} {a : Act Message Output} {l : Ledger} {order : List Nat}
  {i : Nat}

def fresh (s : Config Message Output) : Fresh where
  task := s.tasks.length
  waiter := s.waiters.length
  redirection := s.results.length
  request := s.cleanings.length

/-- What a step posts: a call its operation when it gets its first guard, the listener the end of a
    task when it gets its guard, and the redirections it drops. -/
def entries (s : Config Message Output) : Act Message Output → List (Entry Message)
  | .enter i =>
    match s.calls[i]? with
    | some ⟨op, .locking⟩ => [.call op s.fresh]
    | _ => []
  | .handle => s.pulled.toList.map fun ended => .finish ended.id
  | .prune =>
    match s.writer with
    | some (.broadcasting _ _ _ sendersToRemove) =>
      [.forget (sendersToRemove.filterMap fun i => s.forge.outputResultSenders[i]?).toFinset]
    | _ => []
  | _ => []

/-- The ledger is ahead of a section that holds the write guard. -/
def Agrees (s : Config Message Output) (l : Ledger) : Prop :=
  match s.writer with
  | some (.creating _ id _ _) =>
    WrappedTaskForge.Keeps { s.forge with forge := s.forge.forge.insert id s.tasks.length } l
  | some (.closing _) => ∃ l', s.forge.Keeps l' ∧ l = l'.settle
  | _ => s.forge.Keeps l

theorem Agrees.free (agrees : s.Agrees l) (free : s.writer = none) : s.forge.Keeps l := by
  simpa only [Agrees, free] using agrees

theorem agrees_free (free : s.writer = none) (keeps : s.forge.Keeps l) : s.Agrees l := by
  simpa only [Agrees, free] using keeps

theorem Agrees.of_same (agrees : s.Agrees l) (forge : s'.forge = s.forge)
    (writer : s'.writer = s.writer) (tasks : s'.tasks.length = s.tasks.length) : s'.Agrees l := by
  simpa only [Agrees, forge, writer, tasks] using agrees

theorem entries_locking {i : Nat} {op : Op Message} (called : s.calls[i]? = some ⟨op, .locking⟩) :
    s.entries (.enter i) = [.call op s.fresh] := by
  simp only [entries, called]

theorem entries_resuming {i : Nat} {op : Op Message} {observed : Option InboxSender}
    (called : s.calls[i]? = some ⟨op, .resuming observed⟩) : s.entries (.enter i) = [] := by
  simp only [entries, called]

theorem entries_handle {ended : TaskOutput Output} (pulled : s.pulled = some ended) :
    s.entries .handle = [.finish ended.id] := by
  simp only [entries, pulled, Option.toList, List.map]

theorem Agrees.create {i : Nat} {id : OpId} {senders : List CreationSender}
    {result : ForgeResult Unit} (keeps : s.forge.Keeps l) (stopped : ¬ s.forge.Running id)
    (writer : s'.writer = some (.creating i id senders result)) (tasks : s'.tasks = s.tasks)
    (forge : s'.forge = { s.forge with
      taskStates := s.forge.taskStates.insert id .running
      taskCreationSenders := s.forge.taskCreationSenders.erase id }) :
    s'.Agrees (l.post (.call (.newTask id : Op Message) s.fresh)) := by
  simp only [Agrees, writer, forge, tasks, Ledger.post, if_neg (mt keeps.running.mpr stopped)]
  exact keeps.create s.tasks.length

theorem Agrees.enter {i : Nat} {op : Op Message} (agrees : s.Agrees l)
    (called : s.calls[i]? = some ⟨op, .locking⟩) (taken : s.step (.enter i) = some s') :
    s'.Agrees (l.post (.call op s.fresh)) ∧ s'.calls[i]? = some ⟨op, l.reply s.fresh op⟩ := by
  have after := fun phase => getElem?_setPhase called phase
  cases step_moves taken with
  | @newTaskExists _ id free unread called' running =>
    cases called.symm.trans called'
    have keeps := agrees.free free
    have runs := keeps.running.mp running
    simp only [Ledger.post, Ledger.reply, if_pos runs]
    exact ⟨agrees_free free keeps, after _⟩
  | @newTaskStart _ id free unread called' stopped =>
    cases called.symm.trans called'
    have keeps := agrees.free free
    refine ⟨Agrees.create keeps stopped rfl rfl rfl, ?_⟩
    simp only [Ledger.reply, if_neg (mt keeps.running.mpr stopped)]
    exact after _
  | @waitRegisters _ id op' free unread called' waits state =>
    cases called.symm.trans called'
    have keeps := agrees.free free
    have absent : l.tasks.lookup id = none := by
      rw [keeps.states] at state
      exact Option.map_eq_none_iff.mp state
    rcases waits with rfl | ⟨msg, rfl⟩ <;> simp only [Ledger.post, Ledger.reply, absent]
    · exact ⟨agrees_free free (keeps.register _), after _⟩
    · exact ⟨agrees_free free (keeps.register _), after _⟩
  | @waitRunning _ id op' free unread called' waits running =>
    cases called.symm.trans called'
    have keeps := agrees.free free
    rcases keeps.running.mp running with ⟨task, found⟩
    have inbox := (keeps.inboxes id task).mpr found
    rcases waits with rfl | ⟨msg, rfl⟩ <;> simp only [Ledger.post, Ledger.reply, found, created]
    · exact ⟨agrees_free free keeps, after _⟩
    · exact ⟨agrees_free free keeps, inbox ▸ after _⟩
  | @waitClosed _ id op' free unread called' waits state =>
    cases called.symm.trans called'
    have keeps := agrees.free free
    have closed : l.tasks.lookup id = some .closed := by
      rw [keeps.states] at state
      rcases Option.map_eq_some_iff.mp state with ⟨standing, found, same⟩
      cases standing with
      | running task => cases same
      | closed => exact found
    rcases waits with rfl | ⟨msg, rfl⟩ <;> simp only [Ledger.post, Ledger.reply, closed]
    · exact ⟨agrees_free free keeps, after _⟩
    · exact ⟨agrees_free free keeps, after _⟩
  | redirect free unread called' =>
    cases called.symm.trans called'
    have keeps := agrees.free free
    refine ⟨agrees_free free ⟨keeps.inboxes, keeps.states, keeps.waiting, keeps.request, ?_⟩,
      after _⟩
    simp only [newResultRedirection, Ledger.post, fresh, List.toFinset_append, keeps.redirections]
    simp
  | asksEmpty free called' =>
    cases called.symm.trans called'
    have keeps := agrees.free free
    refine ⟨agrees_free free keeps, ?_⟩
    rw [Ledger.reply, ← keeps.isEmpty]
    exact after _
  | cleanCleared free unread called' empty =>
    cases called.symm.trans called'
    have keeps := agrees.free free
    have idle := keeps.isEmpty.symm.trans empty
    simp only [Ledger.post, Ledger.reply, idle, ↓reduceIte]
    have same : { l.wipe with request := s.forge.cleaningNotifier } = l.wipe := by
      rw [keeps.request]
      rfl
    have wiped := keeps.wipe empty s.forge.cleaningNotifier
    rw [same] at wiped
    exact ⟨agrees_free free wiped, after _⟩
  | cleanRequests free unread called' inhabited =>
    cases called.symm.trans called'
    have keeps := agrees.free free
    have busy := keeps.isEmpty.symm.trans inhabited
    simp only [Ledger.post, Ledger.reply, busy, Bool.false_eq_true, ↓reduceIte]
    exact ⟨agrees_free free ⟨keeps.inboxes, keeps.states, keeps.waiting, rfl, keeps.redirections⟩,
      after _⟩
  | sendStart free called' sends found =>
    cases called.symm.trans called'
    rcases sends with same | ⟨k, same⟩
    · cases same
      have keeps := agrees.free free
      refine ⟨agrees_free free keeps, ?_⟩
      rw [Ledger.reply, keeps.sendReply_found found]
      exact after _
    · cases same
  | sendMissing free called' sends missing =>
    cases called.symm.trans called'
    rcases sends with same | ⟨k, same⟩
    · cases same
      have keeps := agrees.free free
      exact ⟨agrees_free free keeps,
        by rw [Ledger.reply, keeps.sendReply_missing missing]; exact after _⟩
    · cases same

/-- The second section of `wait_and_send` sends by the ledger as it is then. -/
theorem Agrees.resume {i : Nat} {id : OpId} {msg : Message} {observed : Option InboxSender}
    (agrees : s.Agrees l) (called : s.calls[i]? = some ⟨.waitAndSend id msg, .resuming observed⟩)
    (taken : s.step (.enter i) = some s') :
    s'.Agrees l ∧ s'.calls[i]? = some ⟨.waitAndSend id msg, l.sendReply id msg⟩ := by
  have after := fun phase => getElem?_setPhase called phase
  cases step_moves taken with
  | sendStart free called' sends found =>
    cases called.symm.trans called'
    have keeps := agrees.free free
    rcases sends with same | ⟨k, same⟩
    · cases same
    · cases same
      exact ⟨agrees_free free keeps, by rw [keeps.sendReply_found found]; exact after _⟩
  | sendMissing free called' sends missing =>
    cases called.symm.trans called'
    have keeps := agrees.free free
    rcases sends with same | ⟨k, same⟩
    · cases same
    · cases same
      exact ⟨agrees_free free keeps, by rw [keeps.sendReply_missing missing]; exact after _⟩
  | asksEmpty free called'
  | redirect free unread called'
  | newTaskExists free unread called'
  | newTaskStart free unread called'
  | waitRegisters free unread called'
  | waitRunning free unread called'
  | waitClosed free unread called'
  | cleanCleared free unread called'
  | cleanRequests free unread called' => cases called.symm.trans called'

theorem Agrees.handled {ended : TaskOutput Output} (agrees : s.Agrees l)
    (pulled : s.pulled = some ended) (taken : s.step .handle = some s') :
    s'.Agrees (l.post (.finish ended.id : Entry Message)) ∧
      (s'.writer = some (.closing ended) ↔ l.Running ended.id) := by
  cases step_moves taken with
  | handleClosed pulled' free unread closed =>
    cases pulled.symm.trans pulled'
    have keeps := agrees.free free
    have stopped := mt keeps.running.mpr closed
    simp only [Ledger.post, if_neg stopped]
    exact ⟨keeps, by simp [stopped]⟩
  | handleRunning pulled' free unread running =>
    cases pulled.symm.trans pulled'
    have keeps := agrees.free free
    have runs := keeps.running.mp running
    simp only [Ledger.post, if_pos runs]
    exact ⟨⟨_, keeps.close, rfl⟩, by simp [runs]⟩

/-- The clearing of the code takes place in the step after the closing. -/
theorem Agrees.cleared (agrees : s.Agrees l) (taken : s.step .clearIfDue = some s') :
    s'.Agrees l := by
  cases step_moves taken with
  | notDue inside due =>
    simp only [Agrees, inside] at agrees
    rcases agrees with ⟨before, keeps, rfl⟩
    rw [Ledger.settle_not_due (keeps.shouldClear.symm.trans due)]
    exact keeps
  | clearLost inside due
  | clearNotified inside due =>
    simp only [Agrees, inside] at agrees
    rcases agrees with ⟨before, keeps, rfl⟩
    rw [Ledger.settle_due (keeps.shouldClear.symm.trans due)]
    exact keeps.wipe (WrappedTaskForge.empty_of_due due) none

theorem Agrees.pruned (agrees : s.Agrees l) (wired : s.Wired) (taken : s.step .prune = some s') :
    s'.Agrees ((s.entries .prune).foldl Ledger.post l) := by
  cases step_moves taken with
  | @prune ended hasCleared i places kept inside ends removed =>
    simp only [Agrees, inside] at agrees
    simp only [entries, inside, List.foldl, Ledger.post]
    refine ⟨agrees.inboxes, agrees.states, agrees.waiting, agrees.request, ?_⟩
    obtain rfl := wired.kept inside removed
    ext sender
    rw [List.mem_toFinset, mem_dropAt_of_nodup wired.distinct, ← agrees.redirections]
    simp only [Finset.mem_sdiff, List.mem_toFinset]

theorem Agrees.step (agrees : s.Agrees l) (wired : s.Wired) (taken : s.step a = some s') :
    s'.Agrees ((s.entries a).foldl Ledger.post l) := by
  cases step_moves taken with
  | newTaskExists free unread called
  | newTaskStart free unread called
  | waitRegisters free unread called
  | waitRunning free unread called
  | waitClosed free unread called
  | redirect free unread called
  | asksEmpty free called
  | cleanCleared free unread called
  | cleanRequests free unread called =>
    rw [entries_locking called, List.foldl_cons, List.foldl_nil]
    exact (agrees.enter called taken).1
  | sendStart free called sends | sendMissing free called sends =>
    rcases sends with rfl | ⟨observed, rfl⟩
    · rw [entries_locking called, List.foldl_cons, List.foldl_nil]
      exact (agrees.enter called taken).1
    · rw [entries_resuming called, List.foldl_nil]
      exact (agrees.resume called taken).1
  | handleClosed pulled | handleRunning pulled =>
    rw [entries_handle pulled, List.foldl_cons, List.foldl_nil]
    exact (agrees.handled pulled taken).1
  | notDue | clearLost | clearNotified => exact agrees.cleared taken
  | prune => exact agrees.pruned wired taken
  | notifyClosed inside present closed =>
    simp only [Agrees, inside] at agrees
    exact agrees
  | notifyOpen inside present opened room =>
    simp only [Agrees, inside] at agrees
    exact agrees
  | begin capacity inside =>
    simp only [Agrees, inside] at agrees
    exact agrees
  | broadcastClosed inside current present closed =>
    simp only [Agrees, inside] at agrees
    exact agrees
  | broadcastOpen inside current present opened room =>
    simp only [Agrees, inside] at agrees
    exact agrees
  | reportLogged inside closed =>
    simp only [Agrees, inside] at agrees
    exact agrees
  | reportSent inside opened room =>
    simp only [Agrees, inside] at agrees
    exact agrees
  | wakeCreated =>
    rw [created_eq]
    exact agrees.of_same rfl rfl rfl
  | deliverOpen => exact agrees.of_same rfl rfl (List.length_modify ..)
  | receive => exact agrees.of_same rfl rfl (List.length_modify ..)
  | closeInbox => exact agrees.of_same rfl rfl (List.length_modify ..)
  | _ => exact agrees.of_same rfl rfl rfl

/-- The call that posts its operation by the step. -/
def posts (s : Config Message Output) : Act Message Output → List Nat
  | .enter i =>
    match s.calls[i]? with
    | some ⟨_, .locking⟩ => [i]
    | _ => []
  | _ => []

theorem posts_locking {op : Op Message} (called : s.calls[i]? = some ⟨op, .locking⟩) :
    s.posts (.enter i) = [i] := by
  simp only [posts, called]

/-- Past its first guard, and not dropped. -/
def entered (s : Config Message Output) (i : Nat) : Prop :=
  ∃ c, s.calls[i]? = some c ∧ c.phase ≠ .locking ∧ c.phase ≠ .cancelled

def unlocked (s : Config Message Output) (i : Nat) : Prop :=
  ∃ c, s.calls[i]? = some c ∧ c.phase ≠ .locking

theorem unlocked_setPhase {j : Nat} {phase : Phase Message} (moved : phase ≠ .locking)
    (before : s.unlocked i) :
    ∃ c, (setPhase s.calls j phase)[i]? = some c ∧ c.phase ≠ .locking := by
  rcases before with ⟨c, called, unlocked⟩
  by_cases same : j = i
  · subst same
    exact ⟨_, getElem?_setPhase called phase, moved⟩
  · exact ⟨c, (List.getElem?_modify_ne _ _ same).trans called, unlocked⟩

theorem unlocked_step (taken : s.step a = some s') (before : s.unlocked i) : s'.unlocked i := by
  cases step_moves taken with
  | call op =>
    rcases before with ⟨c, called, unlocked⟩
    exact ⟨c, (List.getElem?_append_left (getElem?_lt called)).trans called, unlocked⟩
  | newTaskExists | newTaskStart | waitRegisters | waitClosed | redirect | asksEmpty | cleanCleared
  | cleanRequests | sendStart | sendMissing | begin | wakeDropped | deliverClosed | deliverOpen
  | cancelWaiting | cancel => exact unlocked_setPhase (by simp) before
  | @waitRunning j id op free unread called waits state =>
    cases op <;> exact unlocked_setPhase (by simp) before
  | @wakeCreated j id op waiter task chan rest called present buffered =>
    cases op <;> exact unlocked_setPhase (by simp) before
  | _ => exact before

/-- A call in another phase than the one it is set to was there before, and the one that is set was
    entered before or enters now. -/
theorem entered_setPhase {j : Nat} {c : Call Message} {phase : Phase Message}
    (called : s.calls[j]? = some c)
    (own : c.phase ≠ .locking ∧ c.phase ≠ .cancelled ∨ j ∈ s.posts a)
    (after : ∃ c, (setPhase s.calls j phase)[i]? = some c ∧ c.phase ≠ .locking ∧
      c.phase ≠ .cancelled) : s.entered i ∨ i ∈ s.posts a := by
  rcases after with ⟨c', found, entered⟩
  rcases setPhase_getElem? found with ⟨rfl, -⟩ | ⟨-, before⟩
  · rcases own with entered | posts
    · exact .inl ⟨c, called, entered⟩
    · exact .inr posts
  · exact .inl ⟨c', before, entered⟩

theorem entered_step (inv : s.CreatorCalled) (taken : s.step a = some s') (after : s'.entered i) :
    s.entered i ∨ i ∈ s.posts a := by
  cases step_moves taken with
  | call op =>
    rcases after with ⟨c, found, unlocked, live⟩
    simp only [getElem?_concat] at found
    split at found
    · cases found
      exact absurd rfl unlocked
    · exact .inl ⟨c, found, unlocked, live⟩
  | newTaskExists free unread called
  | newTaskStart free unread called
  | waitRegisters free unread called
  | waitClosed free unread called
  | redirect free unread called
  | asksEmpty free called
  | cleanCleared free unread called
  | cleanRequests free unread called =>
    exact entered_setPhase called (.inr (by simp [posts_locking called])) after
  | @waitRunning j id op free unread called waits state =>
    cases op <;> exact entered_setPhase called (.inr (by simp [posts_locking called])) after
  | sendStart free called sends | sendMissing free called sends =>
    rcases sends with rfl | ⟨k, rfl⟩
    · exact entered_setPhase called (.inr (by simp [posts_locking called])) after
    · exact entered_setPhase called (.inl (by simp)) after
  | begin capacity inside => exact entered_setPhase (inv _ _ _ _ inside) (.inl (by simp)) after
  | @wakeCreated j id op waiter task chan rest called present buffered =>
    cases op <;> exact entered_setPhase called (.inl (by simp)) after
  | wakeDropped called => exact entered_setPhase called (.inl (by simp)) after
  | deliverClosed called => exact entered_setPhase called (.inl (by simp)) after
  | deliverOpen called => exact entered_setPhase called (.inl (by simp)) after
  | cancelWaiting called => exact entered_setPhase called (.inl (by simp)) after
  | cancel called droppable =>
    rcases after with ⟨c', found, unlocked, live⟩
    rcases setPhase_getElem? found with ⟨-, before, -, rfl⟩ | ⟨-, before⟩
    · exact absurd rfl live
    · exact .inl ⟨c', before, unlocked, live⟩
  | _ => exact .inl after

theorem posts_of_mem (member : i ∈ s.posts a) :
    a = .enter i ∧ ∃ op, s.calls[i]? = some ⟨op, .locking⟩ := by
  unfold posts at member
  split at member
  next j =>
    split at member
    next op called =>
      obtain rfl := List.mem_singleton.mp member
      exact ⟨rfl, op, called⟩
    · cases member
  · cases member

theorem unlocked_of_enter (taken : s.step (.enter i) = some s') : s'.unlocked i := by
  cases step_moves taken with
  | newTaskExists free unread called
  | newTaskStart free unread called
  | waitRegisters free unread called
  | waitClosed free unread called
  | redirect free unread called
  | asksEmpty free called
  | cleanCleared free unread called
  | cleanRequests free unread called
  | sendStart free called
  | sendMissing free called => exact ⟨_, getElem?_setPhase called _, by simp⟩
  | @waitRunning _ id op free unread called =>
    cases op <;> exact ⟨_, getElem?_setPhase called _, by simp⟩

/-- Every call past its first guard has posted its operation, once. -/
structure Posted (s : Config Message Output) (order : List Nat) : Prop where
  once : order.Nodup
  moved : ∀ i ∈ order, s.unlocked i
  posted : ∀ i, s.entered i → i ∈ order

theorem Posted.step (inv : s.CreatorCalled) (posted : s.Posted order)
    (taken : s.step a = some s') : s'.Posted (order ++ s.posts a) := by
  refine ⟨?_, ?_, ?_⟩
  · refine List.nodup_append.mpr ⟨posted.once, ?_, ?_⟩
    · unfold posts
      split
      · split <;> simp
      · simp
    · intro i before j now same
      subst same
      rcases posted.moved i before with ⟨c, called, unlocked⟩
      rcases posts_of_mem now with ⟨-, op, locking⟩
      cases called.symm.trans locking
      exact unlocked rfl
  · intro i member
    rcases List.mem_append.mp member with before | now
    · exact unlocked_step taken (posted.moved i before)
    · obtain rfl := (posts_of_mem now).1
      exact unlocked_of_enter taken
  · intro i after
    rcases entered_step inv taken after with before | now
    · exact List.mem_append_left _ (posted.posted i before)
    · exact List.mem_append_right _ now

/-- The ledger after the entries of a run. -/
def ledger (trace : List (Config Message Output × Act Message Output)) : Ledger :=
  (told entries trace).foldl Ledger.post .new

variable {trace : List (Config Message Output × Act Message Output)}

theorem agrees_run (run : Run step Config.new trace s) : s.Agrees (ledger trace) := by
  have match_step : ∀ (s : Config Message Output) a s' l, s.Wired → s.Agrees l →
      s.step a = some s' → s'.Agrees ((s.entries a).foldl Ledger.post l) :=
    fun _ _ _ _ wired agrees taken => agrees.step wired taken
  have keep : ∀ (s : Config Message Output) a s', s.Wired → s.step a = some s' → s'.Wired :=
    fun _ _ _ wired taken => wired.step taken
  exact follows keep match_step run wired_new (agrees_free rfl WrappedTaskForge.keeps_new)

theorem posted_run (run : Run step Config.new trace s) : s.Posted (told posts trace) := by
  have gather : ∀ (s : Config Message Output) a s' l, s.CreatorCalled → s.Posted l →
      s.step a = some s' → s'.Posted (l ++ s.posts a) :=
    fun _ _ _ _ inv posted taken => posted.step inv taken
  have keep : ∀ (s : Config Message Output) a s', s.CreatorCalled → s.step a = some s' →
      s'.CreatorCalled := fun _ _ _ inv taken => inv.step taken
  refine gathers keep gather run (fun _ _ _ _ inside => by cases inside) ⟨.nil, by simp, ?_⟩
  intro i given
  rcases given with ⟨c, called, -⟩
  simp [Config.new] at called

theorem forge_linearizable (run : Run step Config.new trace s) :
    (s.writer = none → s.forge.Keeps (ledger trace)) ∧ s.Posted (told posts trace) ∧
      (∀ past t i later, trace = past ++ (t, .enter i) :: later →
        ∃ t', t.step (.enter i) = some t' ∧
          ((∃ op, t.calls[i]? = some ⟨op, .locking⟩ ∧
              t'.calls[i]? = some ⟨op, (ledger past).reply t.fresh op⟩) ∨
            ∃ id msg observed, t.calls[i]? = some ⟨.waitAndSend id msg, .resuming observed⟩ ∧
              t'.calls[i]? = some ⟨.waitAndSend id msg, (ledger past).sendReply id msg⟩)) ∧
      ∀ past t ended later, trace = past ++ (t, .handle) :: later → t.pulled = some ended →
        ∃ t', t.step .handle = some t' ∧
          (t'.writer = some (.closing ended) ↔ (ledger past).Running ended.id) := by
  refine ⟨fun free => (agrees_run run).free free, posted_run run, ?_, ?_⟩
  · intro past t i later cut
    subst cut
    rcases run.split with ⟨t', before, taken, -⟩
    have agrees := agrees_run before
    refine ⟨t', taken, ?_⟩
    rcases phase_of_enter taken with ⟨op, called | ⟨observed, called⟩⟩
    · exact .inl ⟨op, called, (agrees.enter called taken).2⟩
    · rcases resumed_step called taken with ⟨id, msg, rfl, -⟩
      exact .inr ⟨id, msg, observed, called, (agrees.resume called taken).2⟩
  · intro past t ended later cut pulled
    subst cut
    rcases run.split with ⟨t', before, taken, -⟩
    exact ⟨t', taken, ((agrees_run before).handled pulled taken).2⟩

def oneTask : List (Act Nat Nat) := creates 0 1 ++ echoes 1 1 0 10 ++ ends

theorem forge_linearizable_at_one_task : ∃ s : Config Nat Nat,
    exec step Config.new oneTask = some s ∧
      s.forge.Keeps (ledger (traceOf step Config.new oneTask)) := by
  obtain ⟨s, done, free⟩ : ∃ s : Config Nat Nat,
    exec step Config.new oneTask = some s ∧ s.writer = none := ⟨_, rfl, rfl⟩
  exact ⟨s, done, (forge_linearizable (run_of_exec _ done)).1 free⟩

end Config

end AsyncForge.TaskForge
