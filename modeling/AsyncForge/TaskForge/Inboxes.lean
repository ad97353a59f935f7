import AsyncForge.Lib.Accounts
import AsyncForge.TaskForge.Incarnations
import AsyncForge.TaskForge.WaitingCalls

/-! The messages to the tasks. A send holds the read guard from its lookup to the slot in the inbox,
    so no creation, ending or clearing stands between the two. -/

namespace AsyncForge.TaskForge

open AsyncForge.Accounts AsyncForge.Channels AsyncForge.Runs

variable {Message Output : Type}

def Sends (op : Op Message) (id : OpId) (msg : Message) : Prop :=
  op = .send id msg ∨ op = .waitAndSend id msg

theorem Sends.not_waitForTaskCreation {op : Op Message} {id other : OpId} {msg : Message}
    (sends : Sends op id msg) : op ≠ .waitForTaskCreation other := by
  rcases sends with rfl | rfl <;> simp

theorem Sends.message {op : Op Message} {id id' : OpId} {msg msg' : Message}
    (sends : Sends op id msg) (sends' : Sends op id' msg') : msg = msg' := by
  rcases sends with rfl | rfl <;> rcases sends' with same | same <;> cases same <;> rfl

namespace Config

variable {s s' : Config Message Output} {a : Act Message Output} {i : Nat} {op : Op Message}
  {id : OpId} {k : InboxSender} {msg : Message}

/-- A call that is sending holds the read guard, and its task is still the one under the id. -/
structure Reading (s : Config Message Output) (op : Op Message) (id : OpId) (k : InboxSender)
    (msg : Message) : Prop where
  free : s.writer = none
  found : s.forge.forge.lookup id = some k
  sends : Sends op id msg

def Readers (s : Config Message Output) : Prop :=
  ∀ (i : Nat) op id k msg, s.calls[i]? = some ⟨op, .sending id k msg⟩ → s.Reading op id k msg

theorem read_of_sending (called : s.calls[i]? = some ⟨op, .sending id k msg⟩) :
    s.unread = false := by
  simp only [unread, List.all_eq_false, Bool.not_eq_true', Bool.not_eq_false]
  exact ⟨_, List.mem_of_getElem? called, rfl⟩

/-- While a read guard is held, nobody writes. -/
theorem forge_read (read : s.unread = false) (free : s.writer = none)
    (taken : s.step a = some s') : s'.forge = s.forge ∧ s'.writer = none := by
  cases step_moves taken with
  | newTaskStart free' unread
  | waitRegisters free' unread
  | redirect free' unread
  | cleanCleared free' unread
  | cleanRequests free' unread
  | handleClosed pulled free' unread
  | handleRunning pulled free' unread => cases read.symm.trans unread
  | notifyClosed inside
  | notifyOpen inside
  | begin capacity inside
  | notDue inside
  | clearLost inside
  | clearNotified inside
  | broadcastClosed inside
  | broadcastOpen inside
  | prune inside
  | reportLogged inside
  | reportSent inside => cases free.symm.trans inside
  | waitRunning | wakeCreated =>
    rw [created_forge, created_writer]
    exact ⟨rfl, free⟩
  | _ => exact ⟨rfl, free⟩

theorem sending_step (taken : s.step a = some s')
    (after : s'.calls[i]? = some ⟨op, .sending id k msg⟩) :
    s.calls[i]? = some ⟨op, .sending id k msg⟩ ∨ s'.Reading op id k msg := by
  cases step_moves taken with
  | call op' =>
    simp only [getElem?_concat] at after
    split at after
    · cases after
    · exact .inl after
  | newTaskExists | newTaskStart | waitRegisters | waitClosed | redirect | asksEmpty | cleanCleared
  | cleanRequests | sendMissing | begin | wakeDropped | deliverClosed | deliverOpen | cancelWaiting
  | cancel =>
    rcases setPhase_getElem? after with ⟨-, _, -, same⟩ | ⟨-, before⟩
    · cases same
    · exact .inl before
  | @waitRunning _ _ op' | @wakeCreated _ _ op' =>
    cases op' <;>
    · rcases setPhase_getElem? after with ⟨-, _, -, same⟩ | ⟨-, before⟩
      · cases same
      · exact .inl before
  | sendStart free called sends found =>
    rcases setPhase_getElem? after with ⟨rfl, c, called', same⟩ | ⟨-, before⟩
    · cases called.symm.trans called'
      cases same
      rcases sends with rfl | ⟨k', rfl⟩
      · exact .inr ⟨free, found, .inl rfl⟩
      · exact .inr ⟨free, found, .inr rfl⟩
    · exact .inl before
  | _ => exact .inl after

theorem Readers.step (inv : s.Readers) (taken : s.step a = some s') : s'.Readers := by
  intro i op id k msg after
  rcases sending_step taken after with before | reading
  · have reading := inv i op id k msg before
    rcases forge_read (read_of_sending before) reading.free taken with ⟨forge, writer⟩
    exact ⟨writer, forge ▸ reading.found, reading.sends⟩
  · exact reading

theorem readers_new : (Config.new : Config Message Output).Readers := by
  intro i op id k msg called
  simp [Config.new] at called

/-- The sender under an id is that of a task that was begun for the id. -/
def Begun (s : Config Message Output) : Prop :=
  ∀ id k, s.forge.forge.lookup id = some k → ∃ task, s.tasks[k]? = some task ∧ task.id = id

theorem tasks_step (taken : s.step a = some s') {task : Task Message}
    (present : s.tasks[k]? = some task) :
    ∃ task', s'.tasks[k]? = some task' ∧ task'.id = task.id := by
  have modified : ∀ {j : Nat} {f : Task Message → Task Message}, (∀ t, (f t).id = t.id) →
      ∃ task', (s.tasks.modify j f)[k]? = some task' ∧ task'.id = task.id := by
    intro j f kept
    refine ⟨if j = k then f task else task, ?_, ?_⟩
    · rw [List.getElem?_modify, present]
      rfl
    · split
      · exact kept task
      · rfl
  cases step_moves taken with
  | begin capacity inside =>
    exact ⟨task, (List.getElem?_append_left (getElem?_lt present)).trans present, rfl⟩
  | deliverOpen | receive | closeInbox => exact modified fun t => rfl
  | waitRunning | wakeCreated =>
    rw [created_eq]
    exact ⟨task, present, rfl⟩
  | _ => exact ⟨task, present, rfl⟩

theorem lookup_step (taken : s.step a = some s') (found : s'.forge.forge.lookup id = some k) :
    s.forge.forge.lookup id = some k ∨ k = s.tasks.length ∧
      ∃ capacity, s'.tasks = s.tasks ++ [⟨id, { capacity }⟩] := by
  cases step_moves taken with
  | @begin j id' result capacity inside =>
    by_cases same : id = id'
    · subst same
      rw [Finmap.lookup_insert] at found
      exact .inr ⟨(Option.some.inj found).symm, capacity, rfl⟩
    · exact .inl ((Finmap.lookup_insert_of_ne _ same).symm.trans found)
  | @handleRunning ended pulled free unread running =>
    left
    by_cases same : id = ended.id
    · subst same
      simp [WrappedTaskForge.closeTask] at found
    · exact (Finmap.lookup_erase_ne same).symm.trans found
  | waitRegisters =>
    left
    simpa using found
  | waitRunning | wakeCreated =>
    rw [created_forge] at found
    exact .inl found
  | _ => exact .inl found

theorem Begun.step (inv : s.Begun) (taken : s.step a = some s') : s'.Begun := by
  intro id k found
  rcases lookup_step taken found with before | ⟨rfl, capacity, tasks⟩
  · rcases inv id k before with ⟨task, present, rfl⟩
    exact tasks_step taken present
  · exact ⟨⟨id, { capacity }⟩, by simp [tasks], rfl⟩

theorem begun_new : (Config.new : Config Message Output).Begun := by
  intro id k found
  simp [Config.new, WrappedTaskForge.new] at found

/-- What a step puts into an inbox: the call, the task and the message. -/
def delivers (s : Config Message Output) : Act Message Output → List (Nat × InboxSender × Message)
  | .deliver i =>
    match s.calls[i]? with
    | some ⟨_, .sending _ k msg⟩ =>
      if (s.tasks[k]?).any fun task => !task.inbox.closed then [(i, k, msg)] else []
    | _ => []
  | _ => []

theorem delivers_open {task : Task Message} (called : s.calls[i]? = some ⟨op, .sending id k msg⟩)
    (present : s.tasks[k]? = some task) (opened : task.inbox.closed = false) :
    s.delivers (.deliver i) = [(i, k, msg)] := by
  simp [delivers, called, present, opened]

theorem delivers_closed {task : Task Message} (called : s.calls[i]? = some ⟨op, .sending id k msg⟩)
    (present : s.tasks[k]? = some task) (closed : task.inbox.closed = true) :
    s.delivers (.deliver i) = [] := by
  simp [delivers, called, present, closed]

/-- The messages that the deliveries of a run put into the inbox of a task. -/
def addressed (k : InboxSender) (log : List (Nat × InboxSender × Message)) : List Message :=
  (log.filter fun e => e.2.1 == k).map fun e => e.2.2

theorem addressed_append (k : InboxSender) (log log' : List (Nat × InboxSender × Message)) :
    addressed k (log ++ log') = addressed k log ++ addressed k log' := by
  simp [addressed]

theorem sent_modify {j : InboxSender} {f : Task Message → Task Message}
    (kept : ∀ t, (f t).inbox.sent = t.inbox.sent) {task' : Task Message}
    (after : (s.tasks.modify j f)[k]? = some task') :
    ∃ task, s.tasks[k]? = some task ∧ task'.inbox.sent = task.inbox.sent := by
  rw [List.getElem?_modify] at after
  rcases Option.map_eq_some_iff.mp after with ⟨task, present, rfl⟩
  refine ⟨task, present, ?_⟩
  split
  · exact kept task
  · rfl

theorem inbox_step (taken : s.step a = some s') {task' : Task Message}
    (after : s'.tasks[k]? = some task') :
    (k = s.tasks.length ∧ task'.inbox.sent = [] ∧ s.delivers a = []) ∨
      ∃ task, s.tasks[k]? = some task ∧
        task'.inbox.sent = task.inbox.sent ++ addressed k (s.delivers a) := by
  cases step_moves taken with
  | begin capacity inside =>
    simp only [getElem?_concat] at after
    split at after
    next last =>
      cases after
      exact .inl ⟨last, rfl, rfl⟩
    · exact .inr ⟨task', after, by simp [delivers, addressed]⟩
  | deliverClosed called present closed =>
    rw [delivers_closed called present closed]
    exact .inr ⟨task', after, by simp [addressed]⟩
  | @deliverOpen i id op inbox msg task called present opened room =>
    rw [delivers_open called present opened]
    right
    rw [List.getElem?_modify] at after
    rcases Option.map_eq_some_iff.mp after with ⟨before, found, rfl⟩
    refine ⟨before, found, ?_⟩
    by_cases same : inbox = k
    · simp [same, addressed]
    · simp [same, addressed]
  | receive | closeInbox =>
    rcases sent_modify (fun t => by simp) after with ⟨task, present, same⟩
    exact .inr ⟨task, present, by simp [same, delivers, addressed]⟩
  | waitRunning | wakeCreated =>
    rw [created_eq] at after
    exact .inr ⟨task', after, by simp [delivers, addressed]⟩
  | _ => exact .inr ⟨task', after, by simp [delivers, addressed]⟩

/-- A send that returns `Ok` has put its message into an inbox. -/
theorem sentOk_step (creator : s.CreatorCalled) (waiters : s.Waiters) (readers : s.Readers)
    (sends : Sends op id msg) (taken : s.step a = some s')
    (after : s'.calls[i]? = some ⟨op, .done (.result (.ok ()))⟩) :
    s.calls[i]? = some ⟨op, .done (.result (.ok ()))⟩ ∨ ∃ k, (i, k, msg) ∈ s.delivers a := by
  cases step_moves taken with
  | call op' =>
    simp only [getElem?_concat] at after
    split at after
    · cases after
    · exact .inl after
  | newTaskExists | newTaskStart | waitRegisters | waitClosed | redirect | asksEmpty | cleanCleared
  | cleanRequests | sendStart | sendMissing | wakeDropped | deliverClosed | cancelWaiting
  | cancel =>
    rcases setPhase_getElem? after with ⟨-, _, -, same⟩ | ⟨-, before⟩
    · cases same
    · exact .inl before
  | begin capacity inside =>
    rcases setPhase_getElem? after with ⟨rfl, c, called, same⟩ | ⟨-, before⟩
    · cases called.symm.trans (creator _ _ _ _ inside)
      cases same
      rcases sends with absurd | absurd <;> cases absurd
    · exact .inl before
  | waitRunning free unread called waits =>
    rcases waits with rfl | ⟨msg', rfl⟩ <;>
      rcases setPhase_getElem? after with ⟨rfl, c, called', same⟩ | ⟨-, before⟩
    · cases called.symm.trans called'
      cases same
      exact absurd rfl sends.not_waitForTaskCreation
    · exact .inl before
    · cases same
    · exact .inl before
  | wakeCreated called present buffered =>
    rcases (waiters.bound _ _ _ _ called).2 with rfl | ⟨msg', rfl⟩ <;>
      rcases setPhase_getElem? after with ⟨rfl, c, called', same⟩ | ⟨-, before⟩
    · cases called.symm.trans called'
      cases same
      exact absurd rfl sends.not_waitForTaskCreation
    · exact .inl before
    · cases same
    · exact .inl before
  | @deliverOpen j op' id' inbox msg' task called present opened room =>
    rcases setPhase_getElem? after with ⟨rfl, c, called', same⟩ | ⟨-, before⟩
    · cases called.symm.trans called'
      cases same
      obtain rfl := sends.message (readers _ _ _ _ _ called).sends
      exact .inr ⟨inbox, by simp [delivers_open called present opened]⟩
    · exact .inl before
  | _ => exact .inl after

theorem delivers_of_mem {e : Nat × InboxSender × Message} (member : e ∈ s.delivers a) :
    a = .deliver e.1 ∧ ∃ op id task, s.calls[e.1]? = some ⟨op, .sending id e.2.1 e.2.2⟩ ∧
      s.tasks[e.2.1]? = some task ∧ task.inbox.closed = false := by
  unfold delivers at member
  split at member
  next j =>
    split at member
    next op id inbox msg called =>
      split at member
      next opened =>
        rcases (Option.any_eq_true _ _).mp opened with ⟨task, present, opened⟩
        obtain rfl := List.mem_singleton.mp member
        exact ⟨rfl, op, id, task, called, present, by simpa using opened⟩
      · cases member
    · cases member
  · cases member

/-- The inboxes and the returned sends, by what the steps so far have delivered. -/
structure Logged (s : Config Message Output) (log : List (Nat × InboxSender × Message)) :
    Prop where
  inboxes : ∀ (k : Nat) task, s.tasks[k]? = some task → task.inbox.sent = addressed k log
  known : ∀ e ∈ log, e.2.1 < s.tasks.length
  once : (log.map Prod.fst).Nodup
  returned : ∀ (i : Nat) op id msg, Sends op id msg →
    s.calls[i]? = some ⟨op, .done (.result (.ok ()))⟩ → ∃ k, (i, k, msg) ∈ log
  acknowledged : ∀ e ∈ log, ∃ op id, Sends op id e.2.2 ∧
    s.calls[e.1]? = some ⟨op, .done (.result (.ok ()))⟩

theorem addressed_unknown {log : List (Nat × InboxSender × Message)} {n : Nat}
    (known : ∀ e ∈ log, e.2.1 < n) : addressed n log = [] := by
  simp only [addressed, List.map_eq_nil_iff, List.filter_eq_nil_iff, beq_iff_eq]
  exact fun e member => Nat.ne_of_lt (known e member)

theorem tasks_grow (taken : s.step a = some s') : s.tasks.length ≤ s'.tasks.length := by
  cases step_moves taken with
  | begin | deliverOpen | receive | closeInbox => simp
  | waitRunning | wakeCreated =>
    rw [created_eq]
  | _ => exact Nat.le_refl _

theorem Logged.step {log : List (Nat × InboxSender × Message)} (logged : s.Logged log)
    (waiters : s.Waiters) (readers : s.Readers) (taken : s.step a = some s') :
    s'.Logged (log ++ s.delivers a) := by
  constructor
  · intro k task' after
    rw [addressed_append]
    rcases inbox_step taken after with ⟨rfl, empty, idle⟩ | ⟨task, present, sent⟩
    · rw [empty, idle, addressed_unknown logged.known]
      rfl
    · rw [sent, logged.inboxes k task present]
  · intro e member
    rcases List.mem_append.mp member with before | now
    · exact Nat.lt_of_lt_of_le (logged.known e before) (tasks_grow taken)
    · rcases delivers_of_mem now with ⟨-, op, id, task, -, present, -⟩
      exact Nat.lt_of_lt_of_le (getElem?_lt present) (tasks_grow taken)
  · rw [List.map_append]
    refine List.nodup_append.mpr ⟨logged.once, ?_, ?_⟩
    · unfold delivers
      split
      · split
        · split <;> simp
        · simp
      · simp
    · intro i before j now same
      subst same
      rcases List.mem_map.mp before with ⟨e, member, rfl⟩
      rcases List.mem_map.mp now with ⟨e', member', same⟩
      rcases delivers_of_mem member' with ⟨-, op, id, task, called, -⟩
      rcases logged.acknowledged e member with ⟨op', id', -, returned⟩
      rw [same, returned] at called
      cases called
  · intro i op id msg sends after
    rcases sentOk_step waiters.creator waiters readers sends taken after with before | ⟨k, now⟩
    · rcases logged.returned i op id msg sends before with ⟨k, member⟩
      exact ⟨k, List.mem_append_left _ member⟩
    · exact ⟨k, List.mem_append_right _ now⟩
  · intro e member
    rcases List.mem_append.mp member with before | now
    · rcases logged.acknowledged e before with ⟨op, id, sends, returned⟩
      exact ⟨op, id, sends, waiters.creator.over_stays taken returned (.inr ⟨_, rfl⟩)⟩
    · rcases delivers_of_mem now with ⟨rfl, op, id, task, called, present, opened⟩
      rcases sent_step called taken with ⟨task', present', ⟨-, -, done⟩ | ⟨closed, -⟩⟩
      · exact ⟨op, id, (readers _ _ _ _ _ called).sends, done⟩
      · cases present.symm.trans present'
        cases opened.symm.trans closed

variable {trace : List (Config Message Output × Act Message Output)}

theorem logged_run (run : Run step Config.new trace s) : s.Logged (told delivers trace) := by
  have keep : ∀ (s : Config Message Output) a s', s.Waiters ∧ s.Readers → s.step a = some s' →
      s'.Waiters ∧ s'.Readers := fun _ _ _ inv taken => ⟨inv.1.step taken, inv.2.step taken⟩
  refine gathers keep ?_ run ⟨waiters_new, readers_new⟩ ?_
  · exact fun s a s' log inv logged taken => logged.step inv.1 inv.2 taken
  · constructor <;> simp [Config.new]

theorem readers_reachable (reached : Reachable step Config.new s) : s.Readers :=
  reached.invariant (fun _ _ _ inv taken => inv.step taken) readers_new

theorem begun_reachable (reached : Reachable step Config.new s) : s.Begun :=
  reached.invariant (fun _ _ _ inv taken => inv.step taken) begun_new

/-- Every inbox got what the sends that returned `Ok` delivered, in order, and no message is
    delivered to a task that has ended. -/
theorem inboxes_exact (run : Run step Config.new trace s) :
    (∀ (k : Nat) task, s.tasks[k]? = some task →
        task.inbox.sent = addressed k (told delivers trace)) ∧
      ((told delivers trace).map Prod.fst).Nodup ∧
      (∀ (i : Nat) op phase id msg, Sends op id msg → s.calls[i]? = some ⟨op, phase⟩ →
        (phase = .done (.result (.ok ())) ↔ ∃ k, (i, k, msg) ∈ told delivers trace)) ∧
      ∀ past t i later, trace = past ++ (t, .deliver i) :: later →
        ∃ op id k msg task, t.calls[i]? = some ⟨op, .sending id k msg⟩ ∧ t.forge.Running id ∧
          t.forge.forge.lookup id = some k ∧ t.tasks[k]? = some task ∧ task.id = id := by
  have logged := logged_run run
  refine ⟨logged.inboxes, logged.once, ?_, ?_⟩
  · intro i op phase id msg sends called
    constructor
    · intro same
      subst same
      exact logged.returned i op id msg sends called
    · intro member
      rcases member with ⟨k, member⟩
      rcases logged.acknowledged _ member with ⟨op', id', -, returned⟩
      cases called.symm.trans returned
      rfl
  · intro past t i later cut
    subst cut
    rcases run.split with ⟨t', before, taken, -⟩
    rcases phase_of_deliver taken with ⟨op, id, k, msg, called⟩
    have reading := readers_reachable before.reachable i op id k msg called
    have book := (bookkeeping_reachable before.reachable).free reading.free
    rcases begun_reachable before.reachable id k reading.found with ⟨task, present, same⟩
    have running : t.forge.Running id :=
      (book.running id).mpr (.inl (Finmap.mem_of_lookup_eq_some reading.found))
    exact ⟨op, id, k, msg, task, called, running, reading.found, present, same⟩

def sendsTwice : List (Act Nat Nat) := creates 0 1 ++ echoes 1 1 0 10 ++ echoes 2 1 0 20

theorem inboxes_exact_for_two_sends : ∃ s task, exec step Config.new sendsTwice = some s ∧
    s.tasks[0]? = some task ∧
      task.inbox.sent = addressed 0 (told delivers (traceOf step Config.new sendsTwice)) := by
  obtain ⟨s, task, done, present⟩ : ∃ (s : Config Nat Nat) (task : Task Nat),
    exec step Config.new sendsTwice = some s ∧ s.tasks[0]? = some task := ⟨_, _, rfl, rfl⟩
  exact ⟨s, task, done, present, (inboxes_exact (run_of_exec _ done)).1 0 task present⟩

end Config

end AsyncForge.TaskForge
