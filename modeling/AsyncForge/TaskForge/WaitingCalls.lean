import AsyncForge.Lib.WaitingRoom
import AsyncForge.TaskForge.Bookkeeping

/-! The callers that wait for a creation. The creation channels form a waiting room whose keys are
    the ids: `new_task` serves its id and both clearings of the forge clear the room. -/

namespace AsyncForge.TaskForge

open AsyncForge.Channels AsyncForge.Runs AsyncForge.WaitingRoom

variable {Message Output : Type}

namespace Config

variable {s s' : Config Message Output} {a : Act Message Output}

def room (s : Config Message Output) : Room OpId InboxSender where
  registered id := (s.forge.taskCreationSenders.lookup id).getD []
  serving := s.notifying
  chans := s.waiters

def event (s : Config Message Output) : Act Message Output → Event OpId InboxSender
  | .enter i =>
    match s.calls[i]? with
    | some ⟨.newTask id, .locking⟩ => if s.forge.Running id then .idle else .serve id
    | some ⟨.waitForTaskCreation id, .locking⟩ | some ⟨.waitAndSend id _, .locking⟩ =>
      if s.forge.taskStates.lookup id = none then .register id else .idle
    | some ⟨.clean _, .locking⟩ => if s.forge.isEmpty then .clear else .idle
    | _ => .idle
  | .notify =>
    match s.writer with
    | some (.creating _ _ (waiter :: _) _) =>
      if (s.waiters[waiter]?).any Chan.closed then .skip else .answer s.tasks.length
    | _ => .idle
  | .wake i =>
    match s.calls[i]? with
    | some ⟨_, .waiting _ waiter⟩ =>
      if (s.waiters[waiter]?).any fun chan => !chan.buffer.isEmpty then .receive waiter else .idle
    | _ => .idle
  | .cancel i =>
    match s.calls[i]? with
    | some ⟨_, .waiting _ waiter⟩ => .leave waiter
    | _ => .idle
  | .clearIfDue => if s.forge.shouldClear then .clear else .idle
  | _ => .idle

def WaitsFor (op : Op Message) (id : OpId) : Prop :=
  op = .waitForTaskCreation id ∨ ∃ msg, op = .waitAndSend id msg

theorem WaitsFor.unique {op : Op Message} {id id' : OpId} (first : WaitsFor op id)
    (second : WaitsFor op id') : id = id' := by
  rcases first with rfl | ⟨msg, rfl⟩ <;> simpa [WaitsFor] using second

inductive Causes (s : Config Message Output) :
    Act Message Output → Event OpId InboxSender → Prop
  | idle (a : Act Message Output) : Causes s a .idle
  | register {i : Nat} {op : Op Message} {id : OpId} (called : s.calls[i]? = some ⟨op, .locking⟩)
      (waits : WaitsFor op id) (absent : s.forge.taskStates.lookup id = none) :
      Causes s (.enter i) (.register id)
  | serve {i : Nat} {id : OpId} (called : s.calls[i]? = some ⟨.newTask id, .locking⟩)
      (stopped : ¬ s.forge.Running id) : Causes s (.enter i) (.serve id)
  | skip : Causes s .notify .skip
  | answer : Causes s .notify (.answer s.tasks.length)
  | receive {i : Nat} {op : Op Message} {id : OpId} {waiter : Nat}
      (called : s.calls[i]? = some ⟨op, .waiting id waiter⟩) :
      Causes s (.wake i) (.receive waiter)
  | leave {i : Nat} {op : Op Message} {id : OpId} {waiter : Nat}
      (called : s.calls[i]? = some ⟨op, .waiting id waiter⟩) :
      Causes s (.cancel i) (.leave waiter)
  | clear {a : Act Message Output} (clears : s.Clears a) : Causes s a .clear

theorem causes_event (s : Config Message Output) (a : Act Message Output) :
    s.Causes a (s.event a) := by
  cases a with
  | enter i =>
    simp only [event]
    split
    next id called =>
      split
      · exact .idle _
      next stopped => exact .serve called stopped
    next id called =>
      split
      next absent => exact .register called (.inl rfl) absent
      · exact .idle _
    next id msg called =>
      split
      next absent => exact .register called (.inr ⟨msg, rfl⟩) absent
      · exact .idle _
    next awaited called =>
      split
      next empty => exact .clear ⟨⟨awaited, called⟩, empty⟩
      · exact .idle _
    · exact .idle _
  | notify =>
    simp only [event]
    split
    · split
      · exact .skip
      · exact .answer
    · exact .idle _
  | wake i =>
    simp only [event]
    split
    next called =>
      split
      · exact .receive called
      · exact .idle _
    · exact .idle _
  | cancel i =>
    simp only [event]
    split
    next called => exact .leave called
    · exact .idle _
  | clearIfDue =>
    simp only [event]
    split
    next due => exact .clear due
    · exact .idle _
  | _ => exact .idle _

theorem room_eq {t : Config Message Output}
    (senders : t.forge.taskCreationSenders = s.forge.taskCreationSenders)
    (notifying : t.notifying = s.notifying) (waiters : t.waiters = s.waiters) :
    t.room = s.room := by
  simp only [room, senders, notifying, waiters]

theorem registered_insert (senders : Finmap fun _ : OpId => List CreationSender) (id : OpId)
    (rows : List CreationSender) :
    (fun other => ((senders.insert id rows).lookup other).getD []) =
      Function.update (fun other => (senders.lookup other).getD []) id rows := by
  funext other
  by_cases same : other = id
  · subst same
    simp [Finmap.lookup_insert]
  · simp [Finmap.lookup_insert_of_ne _ same, Function.update_of_ne same]

theorem registered_erase (senders : Finmap fun _ : OpId => List CreationSender) (id : OpId) :
    (fun other => ((senders.erase id).lookup other).getD []) =
      Function.update (fun other => (senders.lookup other).getD []) id [] := by
  funext other
  by_cases same : other = id
  · subst same
    simp [Finmap.lookup_erase]
  · simp [Finmap.lookup_erase_ne same, Function.update_of_ne same]

theorem apply_of_idle (idle : s.event a = .idle) (same : s'.room = s.room) :
    s.room.apply channelSize (s.event a) = some s'.room := by
  rw [idle, same]
  rfl

/-- Every step of the forge is a step of the waiting room. -/
theorem room_step (taken : s.step a = some s') :
    s.room.apply channelSize (s.event a) = some s'.room := by
  cases step_moves taken with
  | newTaskExists free unread called running =>
    exact apply_of_idle (by simp [event, called, running]) rfl
  | newTaskStart free unread called stopped =>
    simp [event, called, stopped, Room.apply, room, registered_erase, notifying, free]
  | waitRegisters free unread called waits state =>
    rcases waits with rfl | ⟨msg, rfl⟩ <;>
      simp [event, called, state, Room.apply, room, WrappedTaskForge.newTaskNotifReceiver_eq,
        registered_insert, notifying]
  | waitRunning free unread called waits state =>
    rcases waits with rfl | ⟨msg, rfl⟩ <;>
      exact apply_of_idle (by simp [event, called, show _ = _ from state]) rfl
  | waitClosed free unread called waits state =>
    rcases waits with rfl | ⟨msg, rfl⟩ <;> exact apply_of_idle (by simp [event, called, state]) rfl
  | redirect free unread called => exact apply_of_idle (by simp [event, called]) rfl
  | asksEmpty free called => exact apply_of_idle (by simp [event, called]) rfl
  | cleanCleared free unread called empty =>
    simp [event, called, empty, Room.apply, room, WrappedTaskForge.cleanEmpty, notifying]
  | cleanRequests free unread called inhabited =>
    exact apply_of_idle (by simp [event, called, inhabited]) rfl
  | sendStart free called sends found =>
    rcases sends with rfl | ⟨k, rfl⟩ <;> exact apply_of_idle (by simp [event, called]) rfl
  | sendMissing free called sends missing =>
    rcases sends with rfl | ⟨k, rfl⟩ <;> exact apply_of_idle (by simp [event, called]) rfl
  | notifyClosed inside present closed =>
    simp [event, inside, present, closed, Room.apply, room, notifying]
  | notifyOpen inside present opened room =>
    simp [event, inside, present, opened, room, Room.apply, Config.room, notifying]
  | begin capacity inside =>
    exact apply_of_idle rfl (room_eq rfl (by simp [notifying, inside]) rfl)
  | @wakeCreated i id op waiter task chan rest called present buffered =>
    cases op <;> simp [event, called, present, buffered, Room.apply, room, created, notifying]
  | wakeDropped called present drained dropped =>
    exact apply_of_idle (by simp [event, called, present, drained]) rfl
  | cancelWaiting called => simp [event, called, Room.apply, room, notifying]
  | @cancel i c called droppable =>
    rcases c with ⟨op, phase⟩
    rcases droppable with rfl | ⟨k, rfl⟩ | ⟨id, inbox, msg, rfl⟩ <;>
      exact apply_of_idle (by simp [event, called]) rfl
  | handleClosed pulled free unread closed =>
    exact apply_of_idle rfl (room_eq rfl (by simp [notifying, free]) rfl)
  | handleRunning pulled free unread running =>
    exact apply_of_idle rfl (room_eq rfl (by simp [notifying, free]) rfl)
  | notDue inside due =>
    exact apply_of_idle (by simp [event, due]) (room_eq rfl (by simp [notifying, inside]) rfl)
  | clearLost inside due pending present closed =>
    simp [event, due, Room.apply, room, WrappedTaskForge.clearEnded, notifying, inside]
  | clearNotified inside due pending present opened free =>
    simp [event, due, Room.apply, room, WrappedTaskForge.clearEnded, notifying, inside]
  | broadcastClosed inside current present closed =>
    exact apply_of_idle rfl (room_eq rfl (by simp [notifying, inside]) rfl)
  | broadcastOpen inside current present opened free =>
    exact apply_of_idle rfl (room_eq rfl (by simp [notifying, inside]) rfl)
  | prune inside ends removed =>
    exact apply_of_idle rfl (room_eq rfl (by simp [notifying, inside]) rfl)
  | reportLogged inside closed =>
    exact apply_of_idle rfl (room_eq rfl (by simp [notifying, inside]) rfl)
  | reportSent inside opened free =>
    exact apply_of_idle rfl (room_eq rfl (by simp [notifying, inside]) rfl)
  | _ => exact apply_of_idle rfl rfl

theorem setPhase_getElem? {calls : List (Call Message)} {i j : Nat} {phase : Phase Message}
    {c : Call Message} (after : (setPhase calls j phase)[i]? = some c) :
    (j = i ∧ ∃ before, calls[j]? = some before ∧ c = { before with phase }) ∨
      (j ≠ i ∧ calls[i]? = some c) := by
  unfold setPhase at after
  by_cases same : j = i
  · subst same
    rw [List.getElem?_modify_eq] at after
    rcases Option.map_eq_some_iff.mp after with ⟨before, found, rfl⟩
    exact .inl ⟨rfl, before, found, rfl⟩
  · exact .inr ⟨same, (List.getElem?_modify_ne _ _ same).symm.trans after⟩

theorem setPhase_or {i j : Nat} {c : Call Message} {phase : Phase Message} {P : Prop}
    (called : s.calls[i]? = some c) (own : j = i → P) :
    (setPhase s.calls j phase)[i]? = some c ∨ P := by
  by_cases same : j = i
  · exact .inr (own same)
  · exact .inl ((List.getElem?_modify_ne _ _ same).trans called)

/-- A call is moved on by its own steps only, and `new_task` ends in `begin`. -/
theorem call_step {i : Nat} {c : Call Message} (taken : s.step a = some s')
    (called : s.calls[i]? = some c) :
    s'.calls[i]? = some c ∨ a = .enter i ∨ a = .wake i ∨ a = .deliver i ∨ a = .cancel i ∨
      (s'.writer = none ∧ ∃ id r, s.writer = some (.creating i id [] r)) := by
  cases step_moves taken with
  | call op => exact .inl ((List.getElem?_append_left (getElem?_lt called)).trans called)
  | newTaskExists | newTaskStart | waitRegisters | waitClosed | redirect | asksEmpty | cleanCleared
  | cleanRequests | sendStart | sendMissing =>
    exact setPhase_or called fun same => .inl (same ▸ rfl)
  | @waitRunning j id op free unread called' waits state =>
    rcases waits with rfl | ⟨msg, rfl⟩ <;>
      exact setPhase_or called fun same => .inl (same ▸ rfl)
  | begin capacity inside =>
    exact setPhase_or called fun same => .inr (.inr (.inr (.inr ⟨rfl, _, _, same ▸ inside⟩)))
  | @wakeCreated j id op waiter task chan rest called' present buffered =>
    cases op <;> exact setPhase_or called fun same => .inr (.inl (same ▸ rfl))
  | wakeDropped =>
    exact setPhase_or called fun same => .inr (.inl (same ▸ rfl))
  | deliverClosed | deliverOpen =>
    exact setPhase_or called fun same => .inr (.inr (.inl (same ▸ rfl)))
  | cancelWaiting | cancel =>
    exact setPhase_or called fun same => .inr (.inr (.inr (.inl (same ▸ rfl))))
  | _ => exact .inl called

theorem phase_of_enter {i : Nat} (taken : s.step (.enter i) = some s') :
    ∃ op, s.calls[i]? = some ⟨op, .locking⟩ ∨ ∃ k, s.calls[i]? = some ⟨op, .resuming k⟩ := by
  cases step_moves taken with
  | sendStart free called sends found =>
    rcases sends with rfl | ⟨k, rfl⟩
    · exact ⟨_, .inl called⟩
    · exact ⟨_, .inr ⟨k, called⟩⟩
  | sendMissing free called sends missing =>
    rcases sends with rfl | ⟨k, rfl⟩
    · exact ⟨_, .inl called⟩
    · exact ⟨_, .inr ⟨k, called⟩⟩
  | _ => exact ⟨_, .inl (by assumption)⟩

theorem wait_enters {i : Nat} {op : Op Message} {id : OpId} (kind : WaitsFor op id)
    (called : s.calls[i]? = some ⟨op, .locking⟩) (taken : s.step (.enter i) = some s') :
    s.writer = none ∧
      ((s.forge.taskStates.lookup id = none ∧ s' = { s with
          waiters := s.waiters ++ [{ capacity := channelSize }]
          forge := s.forge.newTaskNotifReceiver id s.waiters.length
          calls := setPhase s.calls i (.waiting id s.waiters.length) }) ∨
        (s.forge.Running id ∧ s' = s.created i op (s.forge.forge.lookup id)) ∨
        (s.forge.taskStates.lookup id = some .closed ∧ s' = { s with
          calls := setPhase s.calls i (.done (.result (.error (.taskClosed id)))) })) := by
  cases step_moves taken with
  | waitRegisters free unread called' kind' state =>
    obtain rfl := (Call.mk.inj (Option.some.inj (called.symm.trans called'))).1
    obtain rfl := WaitsFor.unique kind kind'
    exact ⟨free, .inl ⟨state, rfl⟩⟩
  | waitRunning free unread called' kind' state =>
    obtain rfl := (Call.mk.inj (Option.some.inj (called.symm.trans called'))).1
    obtain rfl := WaitsFor.unique kind kind'
    exact ⟨free, .inr (.inl ⟨state, rfl⟩)⟩
  | waitClosed free unread called' kind' state =>
    obtain rfl := (Call.mk.inj (Option.some.inj (called.symm.trans called'))).1
    obtain rfl := WaitsFor.unique kind kind'
    exact ⟨free, .inr (.inr ⟨state, rfl⟩)⟩
  | sendStart free called' sends | sendMissing free called' sends =>
    rcases sends with rfl | ⟨k, rfl⟩ <;> cases called.symm.trans called'
    rcases kind with absurd | ⟨_, absurd⟩ <;> cases absurd
  | _ => rcases kind with rfl | ⟨msg, rfl⟩ <;> simp_all

theorem resumed_step {i : Nat} {op : Op Message} {k : Option InboxSender}
    (called : s.calls[i]? = some ⟨op, .resuming k⟩) (taken : s.step (.enter i) = some s') :
    ∃ id msg, op = .waitAndSend id msg ∧ s.writer = none ∧
      ((∃ sender, s.forge.forge.lookup id = some sender ∧
          s'.calls[i]? = some ⟨op, .sending id sender msg⟩) ∨
        (s.forge.forge.lookup id = none ∧
          s'.calls[i]? = some ⟨op, .done (.result (.error (.taskNotExist id)))⟩)) := by
  cases step_moves taken with
  | sendStart free called' sends found =>
    rcases sends with rfl | ⟨k', rfl⟩ <;> cases called.symm.trans called'
    exact ⟨_, _, rfl, free, .inl ⟨_, found, getElem?_setPhase called _⟩⟩
  | sendMissing free called' sends missing =>
    rcases sends with rfl | ⟨k', rfl⟩ <;> cases called.symm.trans called'
    exact ⟨_, _, rfl, free, .inr ⟨missing, getElem?_setPhase called _⟩⟩
  | _ => simp_all

theorem sent_step {i : Nat} {op : Op Message} {id : OpId} {k : InboxSender} {msg : Message}
    (called : s.calls[i]? = some ⟨op, .sending id k msg⟩)
    (taken : s.step (.deliver i) = some s') :
    ∃ task, s.tasks[k]? = some task ∧
      ((task.inbox.closed = false ∧
          s'.tasks = s.tasks.modify k (fun t => { t with inbox := t.inbox.push msg }) ∧
          s'.calls[i]? = some ⟨op, .done (.result (.ok ()))⟩) ∨
        (task.inbox.closed = true ∧
          s'.calls[i]? = some ⟨op, .done (.result (.error (.sendError id)))⟩)) := by
  cases step_moves taken with
  | deliverClosed called' present closed =>
    cases called.symm.trans called'
    exact ⟨_, present, .inr ⟨closed, getElem?_setPhase called _⟩⟩
  | deliverOpen called' present opened room =>
    cases called.symm.trans called'
    exact ⟨_, present, .inl ⟨opened, rfl, getElem?_setPhase called _⟩⟩

theorem phase_of_wake {i : Nat} (taken : s.step (.wake i) = some s') :
    ∃ op id waiter, s.calls[i]? = some ⟨op, .waiting id waiter⟩ := by
  cases step_moves taken with
  | wakeCreated called => exact ⟨_, _, _, called⟩
  | wakeDropped called => exact ⟨_, _, _, called⟩

theorem phase_of_deliver {i : Nat} (taken : s.step (.deliver i) = some s') :
    ∃ op id inbox msg, s.calls[i]? = some ⟨op, .sending id inbox msg⟩ := by
  cases step_moves taken with
  | deliverClosed called => exact ⟨_, _, _, _, called⟩
  | deliverOpen called => exact ⟨_, _, _, _, called⟩

theorem phase_of_cancel {i : Nat} (taken : s.step (.cancel i) = some s') :
    ∃ c, s.calls[i]? = some c ∧ c.phase ≠ .creating ∧ c.phase ≠ .cancelled ∧
      ∀ ret, c.phase ≠ .done ret := by
  cases step_moves taken with
  | cancelWaiting called => exact ⟨_, called, nofun, nofun, nofun⟩
  | cancel called droppable =>
    refine ⟨_, called, ?_⟩
    rcases droppable with h | ⟨k, h⟩ | ⟨id, inbox, msg, h⟩ <;> simp [h]

theorem cancelled_step {i : Nat} {c : Call Message} (called : s.calls[i]? = some c)
    (taken : s.step (.cancel i) = some s') :
    s'.calls[i]? = some { c with phase := .cancelled } := by
  cases step_moves taken with
  | cancelWaiting => exact getElem?_setPhase called _
  | cancel => exact getElem?_setPhase called _

theorem creating_step {i : Nat} {id : OpId} {senders : List CreationSender}
    {r : ForgeResult Unit} (taken : s.step a = some s')
    (inside : s'.writer = some (.creating i id senders r)) :
    (s.writer = none ∧ s'.calls[i]? = some ⟨.newTask id, .creating⟩ ∧
        senders = s.room.registered id) ∨
      ∃ senders' r', s.writer = some (.creating i id senders' r') ∧ senders ⊆ senders' := by
  cases step_moves taken with
  | newTaskStart free unread called stopped =>
    cases inside
    exact .inl ⟨free, getElem?_setPhase called _, rfl⟩
  | waitRunning free =>
    rw [created_writer, free] at inside
    cases inside
  | notifyClosed within =>
    cases inside
    exact .inr ⟨_, _, within, List.subset_cons_self _ _⟩
  | notifyOpen within =>
    cases inside
    exact .inr ⟨_, _, within, List.subset_cons_self _ _⟩
  | wakeCreated =>
    rw [created_writer] at inside
    exact .inr ⟨_, _, inside, List.Subset.refl _⟩
  | handleClosed | handleRunning | notDue | clearLost | clearNotified | broadcastClosed
  | broadcastOpen | begin | prune | reportLogged | reportSent => cases inside
  | _ => exact .inr ⟨_, _, inside, List.Subset.refl _⟩

theorem waiting_step {i : Nat} {op : Op Message} {id : OpId} {waiter : Nat}
    (taken : s.step a = some s') (waits : s'.calls[i]? = some ⟨op, .waiting id waiter⟩) :
    s.calls[i]? = some ⟨op, .waiting id waiter⟩ ∨
      (a = .enter i ∧ waiter = s.waiters.length ∧ s.calls[i]? = some ⟨op, .locking⟩ ∧
        WaitsFor op id ∧ s'.waiters = s.waiters ++ [{ capacity := channelSize }]) := by
  cases step_moves taken with
  | call op =>
    rw [getElem?_concat] at waits
    split at waits
    · cases waits
    · exact .inl waits
  | newTaskExists | newTaskStart | waitClosed | redirect | asksEmpty | cleanCleared
  | cleanRequests | sendStart | sendMissing | begin | wakeDropped | deliverClosed | deliverOpen
  | cancelWaiting | cancel =>
    rcases setPhase_getElem? waits with ⟨-, _, -, absurd⟩ | ⟨-, before⟩
    · cases absurd
    · exact .inl before
  | @waitRunning j id op free unread called' kind state =>
    rcases kind with rfl | ⟨msg, rfl⟩ <;>
      rcases setPhase_getElem? waits with ⟨-, _, -, absurd⟩ | ⟨-, before⟩
    · cases absurd
    · exact .inl before
    · cases absurd
    · exact .inl before
  | @waitRegisters j id op free unread called kind state =>
    by_cases same : j = i
    · subst same
      rw [getElem?_setPhase called] at waits
      cases waits
      exact .inr ⟨rfl, rfl, called, kind, rfl⟩
    · exact .inl ((List.getElem?_modify_ne _ _ same).symm.trans waits)
  | @wakeCreated j id op waiter task chan rest called' present buffered =>
    cases op <;> rcases setPhase_getElem? waits with ⟨-, _, -, absurd⟩ | ⟨-, before⟩ <;>
      first | cases absurd | exact .inl before
  | _ => exact .inl waits

/-- The write guard of `new_task` belongs to a call that is inside it. -/
def CreatorCalled (s : Config Message Output) : Prop :=
  ∀ (i : Nat) id senders r, s.writer = some (.creating i id senders r) →
    s.calls[i]? = some ⟨.newTask id, .creating⟩

theorem CreatorCalled.step (inv : s.CreatorCalled) (taken : s.step a = some s') :
    s'.CreatorCalled := by
  intro i id senders r inside
  rcases creating_step taken inside with ⟨-, called, -⟩ | ⟨senders', r', before, -⟩
  · exact called
  have called := inv i id senders' r' before
  rcases call_step taken called with kept | rfl | rfl | rfl | rfl | ⟨free, -⟩
  · exact kept
  · rcases phase_of_enter taken with ⟨_, other | ⟨_, other⟩⟩ <;> cases called.symm.trans other
  · rcases phase_of_wake taken with ⟨_, _, _, other⟩
    cases called.symm.trans other
  · rcases phase_of_deliver taken with ⟨_, _, _, _, other⟩
    cases called.symm.trans other
  · rcases phase_of_cancel taken with ⟨c, other, ne, -⟩
    obtain rfl := Option.some.inj (called.symm.trans other)
    exact absurd rfl ne
  · rw [inside] at free
    cases free

theorem CreatorCalled.over_stays (inv : s.CreatorCalled) {i : Nat} {op : Op Message}
    {phase : Phase Message} (taken : s.step a = some s') (called : s.calls[i]? = some ⟨op, phase⟩)
    (finished : phase = .cancelled ∨ ∃ ret, phase = .done ret) :
    s'.calls[i]? = some ⟨op, phase⟩ := by
  rcases call_step taken called with kept | rfl | rfl | rfl | rfl | ⟨-, id', r, inside⟩
  · exact kept
  · obtain ⟨_, other | ⟨k, other⟩⟩ := phase_of_enter taken <;>
      cases called.symm.trans other <;> simp at finished
  · rcases phase_of_wake taken with ⟨_, _, _, other⟩
    cases called.symm.trans other
    simp at finished
  · rcases phase_of_deliver taken with ⟨_, _, _, _, other⟩
    cases called.symm.trans other
    simp at finished
  · rcases phase_of_cancel taken with ⟨c, other, -, live, undone⟩
    obtain rfl := Option.some.inj (called.symm.trans other)
    rcases finished with gone | ⟨ret, done⟩
    · exact absurd gone live
    · exact absurd done (undone ret)
  · cases called.symm.trans (inv i id' [] r inside)
    simp at finished

/-- Every waiting call has a waiter of its own, which is registered under the id of the call only,
    and `new_task` notifies it for that id. -/
structure Waiters (s : Config Message Output) : Prop where
  valid : s.room.Valid channelSize
  creating : ∀ (i : Nat) id senders r, s.writer = some (.creating i id senders r) →
    s.calls[i]? = some ⟨.newTask id, .creating⟩
  bound : ∀ (i : Nat) op id waiter, s.calls[i]? = some ⟨op, .waiting id waiter⟩ →
    waiter < s.waiters.length ∧ WaitsFor op id
  opened : ∀ (i : Nat) op id waiter, s.calls[i]? = some ⟨op, .waiting id waiter⟩ →
    ∃ received buffer, s.room.Has waiter received buffer
  unique : ∀ (i j : Nat) op op' id id' waiter, s.calls[i]? = some ⟨op, .waiting id waiter⟩ →
    s.calls[j]? = some ⟨op', .waiting id' waiter⟩ → i = j
  registered : ∀ (i : Nat) op id waiter, s.calls[i]? = some ⟨op, .waiting id waiter⟩ →
    ∀ other, waiter ∈ s.room.registered other → other = id
  notified : ∀ (i : Nat) op id waiter, s.calls[i]? = some ⟨op, .waiting id waiter⟩ →
    waiter ∈ s.notifying → s.creatingId = some id

theorem Waiters.creator (inv : s.Waiters) : s.CreatorCalled := inv.creating

theorem waiters_new : (Config.new : Config Message Output).Waiters := by
  constructor <;> simp [Config.new, room, notifying, WrappedTaskForge.new]
  exact Room.valid_new

theorem Waiters.cancel_of_leave (inv : s.Waiters) {i : Nat} {op : Op Message} {id : OpId}
    {waiter : Nat} (waits : s.calls[i]? = some ⟨op, .waiting id waiter⟩)
    (leaves : s.event a = .leave waiter) : a = .cancel i := by
  have cause := s.causes_event a
  rw [leaves] at cause
  cases cause with
  | leave called => rw [inv.unique _ _ _ _ _ _ _ called waits]

theorem Waiters.wake_of_receive (inv : s.Waiters) {i : Nat} {op : Op Message} {id : OpId}
    {waiter : Nat} (waits : s.calls[i]? = some ⟨op, .waiting id waiter⟩)
    (receives : s.event a = .receive waiter) : a = .wake i := by
  have cause := s.causes_event a
  rw [receives] at cause
  cases cause with
  | receive called => rw [inv.unique _ _ _ _ _ _ _ called waits]

theorem Waiters.unleft (inv : s.Waiters) {i : Nat} {op op' : Op Message} {id id' : OpId}
    {waiter : Nat} (taken : s.step a = some s')
    (waits : s.calls[i]? = some ⟨op, .waiting id waiter⟩)
    (waits' : s'.calls[i]? = some ⟨op', .waiting id' waiter⟩) : s.event a ≠ .leave waiter := by
  intro leaves
  obtain rfl := inv.cancel_of_leave waits leaves
  cases waits'.symm.trans (cancelled_step waits taken)

theorem Waiters.waiting_stays (inv : s.Waiters) {i : Nat} {op : Op Message} {id : OpId}
    {waiter : Nat} (taken : s.step a = some s')
    (waits : s.calls[i]? = some ⟨op, .waiting id waiter⟩) :
    s'.calls[i]? = some ⟨op, .waiting id waiter⟩ ∨ a = .wake i ∨ a = .cancel i := by
  rcases call_step taken waits with kept | rfl | rfl | rfl | rfl | ⟨-, id', r, inside⟩
  · exact .inl kept
  · obtain ⟨op', called | ⟨k, called⟩⟩ := phase_of_enter taken <;>
      cases waits.symm.trans called
  · exact .inr (.inl rfl)
  · rcases phase_of_deliver taken with ⟨_, _, _, _, called⟩
    cases waits.symm.trans called
  · exact .inr (.inr rfl)
  · cases waits.symm.trans (inv.creating i id' [] r inside)

theorem Waiters.done_stays (inv : s.Waiters) {i : Nat} {op : Op Message} {ret : Return}
    (taken : s.step a = some s') (done : s.calls[i]? = some ⟨op, .done ret⟩) :
    s'.calls[i]? = some ⟨op, .done ret⟩ := inv.creator.over_stays taken done (.inr ⟨ret, rfl⟩)

theorem Waiters.cancelled_stays (inv : s.Waiters) {i : Nat} {op : Op Message}
    (taken : s.step a = some s') (gone : s.calls[i]? = some ⟨op, .cancelled⟩) :
    s'.calls[i]? = some ⟨op, .cancelled⟩ := inv.creator.over_stays taken gone (.inl rfl)

theorem mem_notifying {waiter : CreationSender} (member : waiter ∈ s.notifying) :
    ∃ i id senders r, s.writer = some (.creating i id senders r) ∧ waiter ∈ senders := by
  unfold notifying at member
  split at member
  · exact ⟨_, _, _, _, by assumption, member⟩
  · cases member

theorem Waiters.registered_step (inv : s.Waiters) (taken : s.step a = some s') (i : Nat)
    (op : Op Message) (id : OpId) (waiter : Nat)
    (waits : s'.calls[i]? = some ⟨op, .waiting id waiter⟩) (other : OpId)
    (member : waiter ∈ s'.room.registered other) : other = id := by
  have old := Room.registered_old member (room_step taken)
  rcases waiting_step taken waits with before | ⟨rfl, rfl, called, kind, -⟩
  · rcases old with member | ⟨-, fresh⟩
    · exact inv.registered i op id waiter before other member
    · exact absurd fresh (Nat.ne_of_lt (inv.bound i op id waiter before).1)
  · rcases old with member | ⟨registers, -⟩
    · exact absurd (inv.valid.lt (.inl ⟨other, member⟩)) (Nat.lt_irrefl _)
    · have cause := s.causes_event (.enter i)
      rw [registers] at cause
      cases cause with
      | register called' kind' absent =>
        obtain rfl := (Call.mk.inj (Option.some.inj (called.symm.trans called'))).1
        exact kind'.unique kind

theorem Waiters.notified_step (inv : s.Waiters) (taken : s.step a = some s') (i : Nat)
    (op : Op Message) (id : OpId) (waiter : Nat)
    (waits : s'.calls[i]? = some ⟨op, .waiting id waiter⟩) (member : waiter ∈ s'.notifying) :
    s'.creatingId = some id := by
  rcases mem_notifying member with ⟨j, other, senders, r, inside, member⟩
  have held : waiter ∈ s.room.registered other ∨
      waiter ∈ s.notifying ∧ s.creatingId = some other := by
    rcases Config.creating_step taken inside with ⟨-, -, rfl⟩ | ⟨senders', r', before, sub⟩
    · exact .inl member
    · exact .inr ⟨by simpa only [notifying, before] using sub member,
        by simp only [creatingId, before]⟩
  have same : other = id := by
    rcases waiting_step taken waits with before | ⟨-, rfl, -⟩
    · rcases held with member | ⟨member, names⟩
      · exact inv.registered i op id waiter before other member
      · exact Option.some.inj (names.symm.trans (inv.notified i op id waiter before member))
    · have below := inv.valid.lt (held.imp (fun member => ⟨other, member⟩) And.left)
      exact absurd below (Nat.lt_irrefl _)
  simp only [creatingId, inside, same]

theorem Waiters.step (inv : s.Waiters) (taken : s.step a = some s') : s'.Waiters where
  valid := inv.valid.step (room_step taken)
  creating := inv.creator.step taken
  bound i op id waiter waits := by
    rcases waiting_step taken waits with before | ⟨-, rfl, -, kind, longer⟩
    · rcases inv.bound i op id waiter before with ⟨below, kind⟩
      exact ⟨Nat.lt_of_lt_of_le below (Room.length_step (room_step taken)), kind⟩
    · exact ⟨by simp [longer], kind⟩
  opened i op id waiter waits := by
    rcases waiting_step taken waits with before | ⟨-, rfl, -, -, longer⟩
    · rcases inv.opened i op id waiter before with ⟨received, buffer, has⟩
      rcases Room.has_step has (inv.unleft taken before waits) (room_step taken) with
        ⟨kept, -⟩ | ⟨_, _, -, -, -, -, kept⟩ | ⟨-, _, _, -, kept⟩ <;>
        exact ⟨_, _, kept⟩
    · exact ⟨[], [], { capacity := channelSize }, by simp [room, longer], rfl, rfl, rfl⟩
  unique i j op op' id id' waiter first second := by
    rcases waiting_step taken first with before | ⟨rfl, rfl, -⟩
    · rcases waiting_step taken second with before' | ⟨-, rfl, -⟩
      · exact inv.unique i j op op' id id' waiter before before'
      · exact absurd (inv.bound i op id _ before).1 (Nat.lt_irrefl _)
    · rcases waiting_step taken second with before' | ⟨same, -⟩
      · exact absurd (inv.bound j op' id' _ before').1 (Nat.lt_irrefl _)
      · exact Act.enter.inj same
  registered := inv.registered_step taken
  notified := inv.notified_step taken

theorem waiters_reachable (reached : Reachable step Config.new s) : s.Waiters :=
  reached.invariant (fun _ _ _ inv taken => inv.step taken) waiters_new

end Config

end AsyncForge.TaskForge
