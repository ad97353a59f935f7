import AsyncForge.TaskForge.WaitingCalls

namespace AsyncForge.TaskForge

open AsyncForge.Channels AsyncForge.Runs AsyncForge.WaitingRoom

variable {Message Output : Type}

namespace Config

variable {s s' : Config Message Output} {a : Act Message Output} {i : Nat} {id : OpId}
  {msg : Message} {k : InboxSender}

def Ends (id : OpId) (s : Config Message Output) (a : Act Message Output) : Prop :=
  a = .handle ∧ (∃ ended, s.pulled = some ended ∧ ended.id = id) ∧ s.forge.Running id

/-- The step in which `wait_and_send` learns of the creation of the task `k`: it reads that the id
    is running, or `new_task`, which begins `k` next, notifies it. -/
inductive Observes (s : Config Message Output) (i : Nat) (id : OpId) (k : InboxSender) :
    Act Message Output → Prop
  | reads {msg : Message} (called : s.calls[i]? = some ⟨.waitAndSend id msg, .locking⟩)
      (running : s.forge.Running id) (current : s.forge.forge.lookup id = some k) :
      Observes s i id k (.enter i)
  | notified {msg : Message} {waiter j : Nat} {senders : List CreationSender}
      {r : ForgeResult Unit}
      (waits : s.calls[i]? = some ⟨.waitAndSend id msg, .waiting id waiter⟩)
      (inside : s.writer = some (.creating j id (waiter :: senders) r))
      (begins : k = s.tasks.length) : Observes s i id k .notify

/-- The task `k` has the inbox of the id, or is about to get it. -/
def Current (s : Config Message Output) (id : OpId) (k : InboxSender) : Prop :=
  s.forge.forge.lookup id = some k ∨ (s.creatingId = some id ∧ k = s.tasks.length)

theorem Current.of_same (current : s.Current id k) (forge : s'.forge.forge = s.forge.forge)
    (creating : s'.creatingId = s.creatingId) (tasks : s'.tasks.length = s.tasks.length) :
    s'.Current id k := by
  simpa only [Current, forge, creating, tasks] using current

theorem Current.found (current : s.Current id k) (free : s.creatingId = none) :
    s.forge.forge.lookup id = some k := by
  rcases current with found | ⟨creating, -⟩
  · exact found
  · cases free.symm.trans creating

theorem Current.step (current : s.Current id k) (book : s.Bookkeeping)
    (unended : ¬ s.Ends id a) (taken : s.step a = some s') : s'.Current id k := by
  cases step_moves taken with
  | newTaskStart free | cleanCleared free | redirect free | cleanRequests free =>
    exact .inl (current.found (by simp only [creatingId, free]))
  | waitRegisters free unread called waits state =>
    exact current.of_same (WrappedTaskForge.forge_newTaskNotifReceiver _) rfl rfl
  | waitRunning | wakeCreated =>
    rw [created_eq]
    exact current.of_same rfl rfl rfl
  | notifyClosed inside present closed =>
    exact current.of_same rfl (by simp only [creatingId, inside]) rfl
  | notifyOpen inside present opened room =>
    exact current.of_same rfl (by simp only [creatingId, inside]) rfl
  | @begin i id' result capacity inside =>
    simp only [Bookkeeping, creatingId, inside] at book
    rcases current with found | ⟨creating, rfl⟩
    · have other : id ≠ id' := by
        intro same
        subst same
        exact book.absent id rfl (Finmap.mem_of_lookup_eq_some found)
      exact .inl ((Finmap.lookup_insert_of_ne _ other).trans found)
    · simp only [creatingId, inside, Option.some.injEq] at creating
      subst creating
      exact .inl (Finmap.lookup_insert _)
  | deliverOpen | receive | closeInbox =>
    exact current.of_same rfl rfl (by simp)
  | handleClosed pulled free =>
    exact .inl (current.found (by simp only [creatingId, free]))
  | @handleRunning ended pulled free unread running =>
    have other : id ≠ ended.id := by
      intro same
      subst same
      exact unended ⟨rfl, ⟨ended, pulled, rfl⟩, running⟩
    have found := current.found (by simp only [creatingId, free])
    exact .inl ((Finmap.lookup_erase_ne other).trans found)
  | notDue inside | clearLost inside | clearNotified inside | broadcastClosed inside
  | broadcastOpen inside | prune inside | reportLogged inside | reportSent inside =>
    exact .inl (current.found (by simp only [creatingId, inside]))
  | _ => exact current.of_same rfl rfl rfl

theorem Observes.current (observes : s.Observes i id k a) (taken : s.step a = some s') :
    s'.Current id k := by
  cases observes with
  | @reads msg called running current =>
    obtain ⟨-, ⟨absent, -⟩ | ⟨-, rfl⟩ | ⟨closed, -⟩⟩ :=
      wait_enters (.inr ⟨msg, rfl⟩) called taken
    · cases absent.symm.trans running
    · exact .inl current
    · cases closed.symm.trans running
  | notified waits inside begins =>
    subst begins
    cases step_moves taken with
    | notifyClosed within =>
      cases inside.symm.trans within
      exact .inr ⟨rfl, rfl⟩
    | notifyOpen within =>
      cases inside.symm.trans within
      exact .inr ⟨rfl, rfl⟩

variable {trace later : List (Config Message Output × Act Message Output)}

/-- The message is under way to the task `k`, or has come to its inbox, or found it closed, or the
    caller gave up. -/
def Handed (s : Config Message Output) (i : Nat) (id : OpId) (msg : Message) (k : InboxSender)
    (later : List (Config Message Output × Act Message Output)) : Prop :=
  s.calls[i]? = some ⟨.waitAndSend id msg, .sending id k msg⟩ ∨
    s.calls[i]? = some ⟨.waitAndSend id msg, .cancelled⟩ ∨
    ∃ v v' task, (v, .deliver i) ∈ later ∧ v.step (.deliver i) = some v' ∧
      v.tasks[k]? = some task ∧
      ((task.inbox.closed = false ∧
          v'.tasks = v.tasks.modify k (fun t => { t with inbox := t.inbox.push msg }) ∧
          s.calls[i]? = some ⟨.waitAndSend id msg, .done (.result (.ok ()))⟩) ∨
        (task.inbox.closed = true ∧
          s.calls[i]? = some ⟨.waitAndSend id msg, .done (.result (.error (.sendError id)))⟩))

theorem Handed.step (handed : s.Handed i id msg k later) (inv : s.Waiters)
    (taken : s.step a = some s') : s'.Handed i id msg k (later ++ [(s, a)]) := by
  rcases handed with called | called | ⟨v, v', task, member, sent, present, outcome⟩
  · rcases call_step taken called with kept | rfl | rfl | rfl | rfl | ⟨-, id', r, inside⟩
    · exact .inl kept
    · rcases phase_of_enter taken with ⟨_, other | ⟨_, other⟩⟩ <;> cases called.symm.trans other
    · rcases phase_of_wake taken with ⟨_, _, _, other⟩
      cases called.symm.trans other
    · rcases sent_step called taken with ⟨task, present, outcome⟩
      exact .inr (.inr ⟨s, s', task, by simp, taken, present, outcome⟩)
    · exact .inr (.inl (cancelled_step called taken))
    · cases called.symm.trans (inv.creating i id' [] r inside)
  · exact .inr (.inl (inv.cancelled_stays taken called))
  · refine .inr (.inr ⟨v, v', task, List.mem_append_left _ member, sent, present, ?_⟩)
    exact outcome.imp (fun h => ⟨h.1, h.2.1, inv.done_stays taken h.2.2⟩)
      fun h => ⟨h.1, inv.done_stays taken h.2⟩

def Observed (trace : List (Config Message Output × Act Message Output)) (i : Nat) (id : OpId)
    (k : InboxSender) : Prop :=
  ∃ past t o middle, trace = past ++ (t, o) :: middle ∧ t.Observes i id k o

theorem Observed.snoc (observed : Observed trace i id k)
    (e : Config Message Output × Act Message Output) : Observed (trace ++ [e]) i id k := by
  rcases observed with ⟨past, t, o, middle, rfl, observes⟩
  exact ⟨past, t, o, middle ++ [e], by simp, observes⟩

end Config

end AsyncForge.TaskForge
