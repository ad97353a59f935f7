import AsyncForge.TaskForge.Moves

namespace AsyncForge.TaskForge

open AsyncForge.Channels AsyncForge.Runs

variable {Message Output : Type}

namespace WrappedTaskForge

/-- The running records are the ids that have an inbox sender, and the id under creation, which
    has none yet. -/
structure Matches (f : WrappedTaskForge) (creating : Option OpId) : Prop where
  running : ∀ id, f.Running id ↔ id ∈ f.forge ∨ creating = some id
  absent : ∀ id, creating = some id → id ∉ f.forge

variable {f : WrappedTaskForge} {creating : Option OpId} {id : OpId}

theorem not_mem_of_isEmpty (empty : f.isEmpty = true) : id ∉ f.forge := by
  rw [← Finmap.lookup_eq_none]
  exact (isEmpty_iff f).mp empty id

theorem running_insert (other : OpId) (state : TaskState) :
    (f.taskStates.insert id state).lookup other = some .running ↔
      (other = id ∧ state = .running) ∨ (other ≠ id ∧ f.Running other) := by
  by_cases same : other = id
  · subst same
    simp [Finmap.lookup_insert]
  · simp only [Finmap.lookup_insert_of_ne _ same, same, false_and, false_or, ne_eq,
      not_false_eq_true, true_and]
    rfl

theorem Matches.start (matched : f.Matches none) (stopped : ¬ f.Running id)
    (senders : Finmap (fun _ : OpId => List CreationSender)) :
    Matches { f with
      taskStates := f.taskStates.insert id .running
      taskCreationSenders := senders } (some id) := by
  constructor
  · intro other
    apply (running_insert other .running).trans
    by_cases same : other = id
    · simp [same]
    · simp [same, matched.running other, Ne.symm same]
  · intro other same member
    cases same
    exact stopped ((matched.running id).mpr (.inl member))

theorem Matches.begin (matched : f.Matches (some id)) (task : InboxSender) :
    Matches { f with forge := f.forge.insert id task } none := by
  constructor
  · intro other
    apply (matched.running other).trans
    simp only [Finmap.mem_insert, Option.some.injEq, reduceCtorEq, or_false]
    exact ⟨fun h => h.elim .inr fun h => .inl h.symm, fun h => h.elim (fun h => .inr h.symm) .inl⟩
  · intro other absurd
    cases absurd

theorem Matches.closeTask (matched : f.Matches none) : (f.closeTask id).Matches none := by
  constructor
  · intro other
    apply (running_insert other .closed).trans
    simp [WrappedTaskForge.closeTask, matched.running other]
  · intro other absurd
    cases absurd

theorem matches_cleared (empty : f.isEmpty = true)
    (senders : Finmap (fun _ : OpId => List CreationSender))
    (notifier : Option (CleaningSender × Option Nat)) :
    Matches { f with
      taskStates := ∅, taskCreationSenders := senders, cleaningNotifier := notifier } none := by
  constructor
  · intro other
    simp [Running, not_mem_of_isEmpty empty]
  · intro other absurd
    cases absurd

theorem Matches.not_running (matched : f.Matches none) (empty : f.isEmpty = true) :
    ¬ f.Running id := by
  simp [matched.running id, not_mem_of_isEmpty empty]

theorem empty_of_due (due : f.shouldClear = true) : f.isEmpty = true := by
  rcases (shouldClear_iff f).mp due with ⟨_, _, _, empty, _⟩
  exact empty

@[simp] theorem forge_newTaskNotifReceiver (sender : CreationSender) :
    (f.newTaskNotifReceiver id sender).forge = f.forge := by rw [newTaskNotifReceiver_eq]

@[simp] theorem taskStates_newTaskNotifReceiver (sender : CreationSender) :
    (f.newTaskNotifReceiver id sender).taskStates = f.taskStates := by rw [newTaskNotifReceiver_eq]

theorem Matches.newTaskNotifReceiver (matched : f.Matches creating) (sender : CreationSender) :
    (f.newTaskNotifReceiver id sender).Matches creating := by
  rw [newTaskNotifReceiver_eq]
  exact ⟨matched.running, matched.absent⟩

end WrappedTaskForge

namespace Config

variable {s s' : Config Message Output} {a : Act Message Output}

def creatingId (s : Config Message Output) : Option OpId :=
  match s.writer with
  | some (.creating _ id _ _) => some id
  | _ => none

def Bookkeeping (s : Config Message Output) : Prop := s.forge.Matches s.creatingId

theorem Bookkeeping.free (inv : s.Bookkeeping) (free : s.writer = none) : s.forge.Matches none := by
  simpa only [Bookkeeping, creatingId, free] using inv

theorem bookkeeping_new : (Config.new : Config Message Output).Bookkeeping := by
  constructor
  · intro id
    simp [WrappedTaskForge.Running, Config.new, WrappedTaskForge.new, creatingId,
      Finmap.notMem_empty]
  · intro id absurd
    cases absurd

theorem Bookkeeping.step (inv : s.Bookkeeping) (taken : s.step a = some s') : s'.Bookkeeping := by
  cases step_moves taken with
  | newTaskStart free unread called stopped => exact (inv.free free).start stopped _
  | waitRegisters free unread called waits state => exact inv.newTaskNotifReceiver _
  | waitRunning free unread called waits state =>
    simpa only [Bookkeeping, created_forge, creatingId, created_writer] using inv
  | redirect free unread called => exact ⟨inv.running, inv.absent⟩
  | cleanCleared free unread called empty =>
    simp only [Bookkeeping, creatingId, free]
    exact WrappedTaskForge.matches_cleared empty _ _
  | cleanRequests free unread called inhabited => exact ⟨inv.running, inv.absent⟩
  | notifyClosed inside present closed =>
    simpa only [Bookkeeping, creatingId, inside] using inv
  | notifyOpen inside present opened room =>
    simpa only [Bookkeeping, creatingId, inside] using inv
  | begin capacity inside =>
    simp only [Bookkeeping, creatingId, inside] at inv
    exact inv.begin _
  | wakeCreated called present buffered =>
    simpa only [Bookkeeping, created_forge, creatingId, created_writer] using inv
  | handleClosed pulled free unread closed =>
    simpa only [Bookkeeping, creatingId, free] using inv
  | handleRunning pulled free unread running => exact (inv.free free).closeTask
  | notDue inside due => simpa only [Bookkeeping, creatingId, inside] using inv
  | clearLost inside due pending present closed =>
    exact WrappedTaskForge.matches_cleared (WrappedTaskForge.empty_of_due due) _ _
  | clearNotified inside due pending present opened room =>
    exact WrappedTaskForge.matches_cleared (WrappedTaskForge.empty_of_due due) _ _
  | broadcastClosed inside current present closed =>
    simpa only [Bookkeeping, creatingId, inside] using inv
  | broadcastOpen inside current present opened room =>
    simpa only [Bookkeeping, creatingId, inside] using inv
  | prune inside ends removed =>
    simp only [Bookkeeping, creatingId, inside] at inv
    exact ⟨inv.running, inv.absent⟩
  | reportLogged inside closed => simpa only [Bookkeeping, creatingId, inside] using inv
  | reportSent inside opened room => simpa only [Bookkeeping, creatingId, inside] using inv
  | call | newTaskExists | waitClosed | asksEmpty | sendStart | sendMissing | wakeDropped
  | deliverClosed | deliverOpen | cancelWaiting | cancel | output | enqueue | receive | closeInbox
  | take | receiveResult | closeResult | receiveCleaning | closeCleaning | receiveError
  | closeErrors => exact inv

theorem bookkeeping_reachable (reached : Reachable step Config.new s) : s.Bookkeeping :=
  reached.invariant (fun _ _ _ inv taken => inv.step taken) bookkeeping_new

def Clears (s : Config Message Output) : Act Message Output → Prop
  | .enter i => (∃ awaited, s.calls[i]? = some ⟨.clean awaited, .locking⟩) ∧ s.forge.isEmpty = true
  | .clearIfDue => s.forge.shouldClear = true
  | _ => False

theorem Clears.empty (clears : s.Clears a) : s.forge.isEmpty = true := by
  cases a <;> simp only [Clears] at clears
  · exact clears.2
  · exact WrappedTaskForge.empty_of_due clears

theorem Clears.effect (clears : s.Clears a) (taken : s.step a = some s') :
    s.creatingId = none ∧
      ((s'.forge = s.forge.cleanEmpty ∧
          ∃ i awaited, a = .enter i ∧ s.calls[i]? = some ⟨.clean awaited, .locking⟩) ∨
        (s'.forge = s.forge.clearEnded ∧ a = .clearIfDue)) := by
  cases a with
  | enter i =>
    rcases clears with ⟨⟨awaited, called⟩, empty⟩
    simp only [Config.step, enter, called] at taken
    split at taken
    · cases taken
    next held =>
      split at taken
      · obtain rfl := Option.some.inj taken
        have free : s.writer = none := by simpa using held
        have cleaned : (s.clean i awaited).forge = s.forge.cleanEmpty := by
          simp only [clean, empty, ↓reduceIte]
        exact ⟨by simp only [creatingId, free], .inl ⟨cleaned, i, awaited, rfl, called⟩⟩
      · cases taken
  | clearIfDue =>
    cases step_moves taken with
    | notDue inside due => exact absurd (due.symm.trans clears) (by decide)
    | clearLost inside due pending present closed =>
      exact ⟨by simp only [creatingId, inside], .inr ⟨rfl, rfl⟩⟩
    | clearNotified inside due pending present opened room =>
      exact ⟨by simp only [creatingId, inside], .inr ⟨rfl, rfl⟩⟩
  | _ => cases clears

theorem Bookkeeping.clears (inv : s.Bookkeeping) (taken : s.step a = some s')
    (clears : s.Clears a) (id : OpId) : ¬ s.forge.Running id ∧ id ∉ s.forge.forge := by
  simp only [Bookkeeping, (clears.effect taken).1] at inv
  exact ⟨inv.not_running clears.empty, WrappedTaskForge.not_mem_of_isEmpty clears.empty⟩

theorem Bookkeeping.leaves (inv : s.Bookkeeping) (taken : s.step a = some s') {id : OpId}
    (running : s.forge.Running id) (left : ¬ s'.forge.Running id) :
    a = .handle ∧ (∃ ended, s.pulled = some ended ∧ ended.id = id) ∧
      s'.forge.taskStates.lookup id = some .closed := by
  cases step_moves taken with
  | @handleRunning ended pulled free unread ran =>
    have same : id = ended.id := by
      by_contra other
      apply left
      exact (WrappedTaskForge.running_insert id .closed).mpr (.inr ⟨other, running⟩)
    subst same
    exact ⟨rfl, ⟨ended, pulled, rfl⟩, Finmap.lookup_insert _⟩
  | newTaskStart free unread called stopped =>
    refine absurd ((WrappedTaskForge.running_insert id .running).mpr ?_) left
    exact (em (id = _)).imp (fun same => ⟨same, rfl⟩) (fun other => ⟨other, running⟩)
  | cleanCleared free unread called empty =>
    exact absurd running ((inv.free free).not_running empty)
  | clearLost inside due pending present closed =>
    exact absurd running (inv.clears taken due id).1
  | clearNotified inside due pending present opened room =>
    exact absurd running (inv.clears taken due id).1
  | waitRegisters free unread called waits state =>
    rw [WrappedTaskForge.Running, WrappedTaskForge.taskStates_newTaskNotifReceiver] at left
    exact absurd running left
  | waitRunning free unread called waits state =>
    rw [created_forge] at left
    exact absurd running left
  | wakeCreated called present buffered =>
    rw [created_forge] at left
    exact absurd running left
  | _ => exact absurd running left

theorem getElem?_setPhase {calls : List (Call Message)} {i : Nat} {c : Call Message}
    (called : calls[i]? = some c) (phase : Phase Message) :
    (setPhase calls i phase)[i]? = some { c with phase } := by
  simp [setPhase, called]

theorem send_answer {i : Nat} {id : OpId} {msg : Message} (inv : s.Bookkeeping)
    (called : s.calls[i]? = some ⟨.send id msg, .locking⟩) (taken : s.step (.enter i) = some s') :
    s'.calls[i]? = some ⟨.send id msg, .done (.result (.error (.taskNotExist id)))⟩ ↔
      ¬ s.forge.Running id := by
  cases step_moves taken with
  | sendStart free called' sends found =>
    obtain rfl := Option.some.inj (called.symm.trans called')
    obtain ⟨rfl, rfl⟩ : id = _ ∧ msg = _ := by simpa using sends
    rw [getElem?_setPhase called, (inv.free free).running id]
    simp [Finmap.mem_of_lookup_eq_some found]
  | sendMissing free called' sends missing =>
    obtain rfl := Option.some.inj (called.symm.trans called')
    obtain ⟨rfl, rfl⟩ : id = _ ∧ msg = _ := by simpa using sends
    rw [getElem?_setPhase called, (inv.free free).running id]
    simp [Finmap.lookup_eq_none.mp missing]
  | _ => simp_all

theorem isEmpty_answer {i : Nat} (inv : s.Bookkeeping)
    (called : s.calls[i]? = some ⟨.isEmpty, .locking⟩) (taken : s.step (.enter i) = some s') :
    ∃ answer, s'.calls[i]? = some ⟨.isEmpty, .done (.empty answer)⟩ ∧
      (answer = true ↔ ∀ id, ¬ s.forge.Running id) := by
  cases step_moves taken with
  | asksEmpty free _ =>
    refine ⟨s.forge.isEmpty, getElem?_setPhase called _, ?_⟩
    simp only [WrappedTaskForge.isEmpty_iff, (inv.free free).running, Finmap.lookup_eq_none,
      reduceCtorEq, or_false]
  | _ => simp_all

/-- In every reachable state in which no write guard is held, the forge holds an inbox sender for
    exactly the running ids, which is what `is_empty` and `send` answer by. A step ends the running
    of an id only by closing it for an output tagged with it, and a step that clears the forge
    finds no running record and no inbox sender. -/
theorem forge_keys_are_running_ids (reached : Reachable step Config.new s) :
    (s.writer = none → ∀ id, id ∈ s.forge.forge ↔ s.forge.Running id) ∧
    (∀ i s', s.calls[i]? = some ⟨.isEmpty, .locking⟩ → s.step (.enter i) = some s' →
      ∃ answer, s'.calls[i]? = some ⟨.isEmpty, .done (.empty answer)⟩ ∧
        (answer = true ↔ ∀ id, ¬ s.forge.Running id)) ∧
    (∀ i id msg s', s.calls[i]? = some ⟨.send id msg, .locking⟩ → s.step (.enter i) = some s' →
      (s'.calls[i]? = some ⟨.send id msg, .done (.result (.error (.taskNotExist id)))⟩ ↔
        ¬ s.forge.Running id)) ∧
    (∀ a s' id, s.step a = some s' → s.forge.Running id → ¬ s'.forge.Running id →
      a = .handle ∧ (∃ ended, s.pulled = some ended ∧ ended.id = id) ∧
        s'.forge.taskStates.lookup id = some .closed) ∧
    (∀ a s', s.step a = some s' → s.Clears a →
      ∀ id, ¬ s.forge.Running id ∧ id ∉ s.forge.forge) := by
  have inv := bookkeeping_reachable reached
  refine ⟨?_, ?_, ?_, ?_, ?_⟩
  · intro free id
    simp [(inv.free free).running id]
  · intro i s' called taken
    exact isEmpty_answer inv called taken
  · intro i id msg s' called taken
    exact send_answer inv called taken
  · intro a s' id taken running left
    exact inv.leaves taken running left
  · intro a s' taken clears id
    exact inv.clears taken clears id

theorem forge_keys_of_one_creation :
    ∃ s : Config Nat Nat,
      exec step Config.new [.call (.newTask 1), .enter 0, .begin 1] = some s ∧
        (∀ id, id ∈ s.forge.forge ↔ s.forge.Running id) ∧ s.forge.Running 1 := by
  refine ⟨_, rfl, ?_, by decide⟩
  exact (forge_keys_are_running_ids
    (reachable_of_exec [.call (.newTask 1), .enter 0, .begin 1] rfl)).1 rfl

end Config

end AsyncForge.TaskForge
