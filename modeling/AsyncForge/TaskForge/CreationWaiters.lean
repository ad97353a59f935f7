import AsyncForge.TaskForge.WaitingCalls

namespace AsyncForge.TaskForge

open AsyncForge.Channels AsyncForge.Runs AsyncForge.WaitingRoom

variable {Message Output : Type}

namespace WrappedTaskForge

/-- An id has creation waiters only while it has no record. -/
def Awaited (f : WrappedTaskForge) : Prop :=
  ∀ id, id ∈ f.taskCreationSenders → id ∉ f.taskStates

theorem Awaited.insert_erase {f : WrappedTaskForge} (inv : f.Awaited) (id : OpId)
    (state : TaskState) : Awaited { f with
      taskStates := f.taskStates.insert id state
      taskCreationSenders := f.taskCreationSenders.erase id } := by
  intro other member recorded
  simp only [Finmap.mem_erase, Finmap.mem_insert] at member recorded
  rcases recorded with rfl | recorded
  · exact member.1 rfl
  · exact inv other member.2 recorded

theorem Awaited.newTaskNotifReceiver {f : WrappedTaskForge} (inv : f.Awaited) {id : OpId}
    (absent : f.taskStates.lookup id = none) (sender : CreationSender) :
    (f.newTaskNotifReceiver id sender).Awaited := by
  rw [newTaskNotifReceiver_eq]
  intro other member
  rcases Finmap.mem_insert.mp member with rfl | member
  · exact Finmap.lookup_eq_none.mp absent
  · exact inv other member

theorem Awaited.closeTask {f : WrappedTaskForge} (inv : f.Awaited) {id : OpId}
    (running : f.Running id) : (f.closeTask id).Awaited := by
  intro other member recorded
  rcases Finmap.mem_insert.mp recorded with rfl | recorded
  · exact inv other member (Finmap.mem_of_lookup_eq_some running)
  · exact inv other member recorded

theorem awaited_cleared {f : WrappedTaskForge} (senders : f.taskCreationSenders = ∅) :
    f.Awaited := by
  intro other member
  rw [senders] at member
  exact absurd member Finmap.notMem_empty

end WrappedTaskForge

namespace Config

variable {s s' : Config Message Output} {a : Act Message Output} {i : Nat} {op : Op Message}
  {id : OpId} {waiter : Nat}

theorem awaited_step (inv : s.forge.Awaited) (taken : s.step a = some s') : s'.forge.Awaited := by
  cases step_moves taken with
  | newTaskStart free unread called stopped => exact inv.insert_erase _ _
  | waitRegisters free unread called waits state => exact inv.newTaskNotifReceiver state _
  | waitRunning free unread called waits state =>
    rw [created_forge]
    exact inv
  | cleanCleared free unread called empty => exact WrappedTaskForge.awaited_cleared rfl
  | wakeCreated called present buffered =>
    rw [created_forge]
    exact inv
  | handleRunning pulled free unread running => exact inv.closeTask running
  | clearLost inside due pending present closed => exact WrappedTaskForge.awaited_cleared rfl
  | clearNotified inside due pending present opened room =>
    exact WrappedTaskForge.awaited_cleared rfl
  | _ => exact inv

theorem awaited_reachable (reached : Reachable step Config.new s) : s.forge.Awaited := by
  rcases reached with ⟨trace, run⟩
  induction run with
  | nil => exact WrappedTaskForge.awaited_cleared rfl
  | snoc before last ih => exact awaited_step ih last

def Creates (id : OpId) (s : Config Message Output) : Act Message Output → Prop
  | .enter i => s.calls[i]? = some ⟨.newTask id, .locking⟩
  | _ => False

/-- The wait for the creation returned `Ok`: `wait_and_send` is in or past its `send`. -/
def Passed : Op Message → Phase Message → Prop
  | .waitForTaskCreation _, .done (.result r) => r = .ok ()
  | .waitAndSend _ _, .resuming _ | .waitAndSend _ _, .sending .. => True
  | .waitAndSend _ _, .done (.result r) =>
    ∀ id, r ≠ .error (.taskClosed id) ∧ r ≠ .error (.failedToWaitCreation id)
  | _, _ => False

/-- No call is in `receiver.recv()` on the waiter. -/
def Left (s : Config Message Output) (waiter : Nat) : Prop :=
  ∀ (i : Nat) op id, s.calls[i]? ≠ some ⟨op, .waiting id waiter⟩

def Registered (s : Config Message Output) (i : Nat) (op : Op Message) (id : OpId)
    (waiter : Nat) : Prop :=
  s.calls[i]? = some ⟨op, .waiting id waiter⟩ ∧ s.room.Waits id waiter

/-- The one message of the waiter is about to be sent, in its buffer, or received. -/
def Notified (s : Config Message Output) (i : Nat) (op : Op Message) (id : OpId)
    (waiter : Nat) : Prop :=
  (s.calls[i]? = some ⟨op, .waiting id waiter⟩ ∧
      (s.room.Called waiter ∨ ∃ k, s.room.Answered k waiter)) ∨
    ((∃ phase, s.calls[i]? = some ⟨op, phase⟩ ∧ Passed op phase) ∧ s.Left waiter ∧
      ∃ k, s.room.Collected k waiter)

/-- The waiter gets no message: its call fails, at once or when it runs again. -/
def Refused (s : Config Message Output) (i : Nat) (op : Op Message) (id : OpId)
    (waiter : Nat) : Prop :=
  s.room.Dismissed waiter ∧
    (s.calls[i]? = some ⟨op, .waiting id waiter⟩ ∨
      (s.calls[i]? = some ⟨op, .done (.result (.error (.failedToWaitCreation id)))⟩ ∧
        s.Left waiter))

theorem held_iff : s.Held waiter ↔ s.room.Held waiter := by
  unfold Held Room.Held
  refine or_congr ⟨fun ⟨id, _, member⟩ => ⟨id, member⟩,
    fun ⟨id, member⟩ => ⟨id, ?_, member⟩⟩ Iff.rfl
  by_contra absent
  have gone : s.forge.taskCreationSenders.lookup id = none := by
    rwa [Finmap.mem_keys, ← Finmap.lookup_eq_none] at absent
  simp [room, gone] at member

theorem Left.stays (left : s.Left waiter) : s.event a ≠ .leave waiter := by
  intro leaves
  have cause := s.causes_event a
  rw [leaves] at cause
  cases cause with
  | leave called => exact left _ _ _ called

theorem Left.step (left : s.Left waiter) (known : waiter < s.waiters.length)
    (taken : s.step a = some s') : s'.Left waiter := by
  intro j op id waits
  rcases waiting_step taken waits with before | ⟨-, rfl, -⟩
  · exact left j op id before
  · exact Nat.lt_irrefl _ known

theorem Passed.not_waiting {phase : Phase Message} (passed : Passed op phase) (id : OpId)
    (waiter : Nat) : phase ≠ .waiting id waiter := by
  intro same
  subst same
  cases op <;> exact passed

theorem passed_created {phase : Phase Message} (kind : WaitsFor op id)
    (called : s.calls[i]? = some ⟨op, phase⟩) (observed : Option InboxSender) :
    ∃ phase', (s.created i op observed).calls[i]? = some ⟨op, phase'⟩ ∧ Passed op phase' := by
  rcases kind with rfl | ⟨msg, rfl⟩
  · exact ⟨_, getElem?_setPhase called _, rfl⟩
  · exact ⟨_, getElem?_setPhase called _, trivial⟩

theorem wake_cases {received buffer : List InboxSender} (kind : WaitsFor op id)
    (waits : s.calls[i]? = some ⟨op, .waiting id waiter⟩) (has : s.room.Has waiter received buffer)
    (taken : s.step (.wake i) = some s') :
    (buffer ≠ [] ∧ s.event (.wake i) = .receive waiter ∧
        ∃ phase, s'.calls[i]? = some ⟨op, phase⟩ ∧ Passed op phase) ∨
      (buffer = [] ∧ ¬ s.room.Held waiter ∧
        s'.calls[i]? = some ⟨op, .done (.result (.error (.failedToWaitCreation id)))⟩) := by
  rcases has with ⟨chan, found, -, -, rfl⟩
  cases step_moves taken with
  | wakeCreated called present buffered =>
    cases waits.symm.trans called
    obtain rfl := Option.some.inj (present.symm.trans found)
    refine .inl ⟨by simp [buffered], by simp [event, called, present, buffered], ?_⟩
    exact passed_created kind (s := { s with waiters := s.waiters.modify _ Chan.pop }) called _
  | wakeDropped called present drained dropped =>
    cases waits.symm.trans called
    obtain rfl := Option.some.inj (present.symm.trans found)
    exact .inr ⟨drained, fun held => dropped (held_iff.mpr held), getElem?_setPhase called _⟩

theorem left_of_moved {c : Call Message} (inv : s.Waiters) (taken : s.step a = some s')
    (waits : s.calls[i]? = some ⟨op, .waiting id waiter⟩) (moved : s'.calls[i]? = some c)
    (passed : ∀ id waiter, c.phase ≠ .waiting id waiter) : s'.Left waiter := by
  intro j op' id' waits'
  rcases waiting_step taken waits' with before | ⟨-, rfl, -⟩
  · obtain rfl := inv.unique _ _ _ _ _ _ _ waits before
    obtain rfl := Option.some.inj (moved.symm.trans waits')
    exact passed id' waiter rfl
  · exact Nat.lt_irrefl _ (inv.bound _ _ _ _ waits).1

theorem Registered.step (registered : s.Registered i op id waiter) (inv : s.Waiters)
    (awaited : s.forge.Awaited) (stays : a ≠ .cancel i) (taken : s.step a = some s') :
    (s.Creates id a ∧ s'.Notified i op id waiter) ∨ (s.Clears a ∧ s'.Refused i op id waiter) ∨
      (¬ s.Creates id a ∧ ¬ s.Clears a ∧ s'.Registered i op id waiter) := by
  rcases registered with ⟨waits, stands⟩
  rcases inv.bound i op id waiter waits with ⟨below, kind⟩
  have kept : s'.calls[i]? = some ⟨op, .waiting id waiter⟩ := by
    rcases inv.waiting_stays taken waits with kept | rfl | rfl
    · exact kept
    · rcases wake_cases kind waits stands.2 taken with ⟨absurd, -⟩ | ⟨-, free, -⟩
      · cases absurd rfl
      · exact absurd (.inl ⟨id, stands.1⟩) free
    · exact absurd rfl stays
  have unleft : s.event a ≠ .leave waiter := fun leaves => stays (inv.cancel_of_leave waits leaves)
  rcases stands.step inv.valid unleft (room_step taken) with
    ⟨serves, called⟩ | ⟨clears, dismissed⟩ | ⟨unserved, uncleared, stands'⟩
  · have cause := s.causes_event a
    rw [serves] at cause
    cases cause with
    | serve creates stopped => exact .inl ⟨creates, .inl ⟨kept, .inl called⟩⟩
  · have cause := s.causes_event a
    rw [clears] at cause
    cases cause with
    | clear clears => exact .inr (.inl ⟨clears, dismissed, .inl kept⟩)
  · refine .inr (.inr ⟨?_, ?_, kept, stands'⟩)
    · intro creates
      cases a with
      | enter j =>
        have absent : ¬ s.forge.Running id := by
          intro running
          refine awaited id ?_ (Finmap.mem_of_lookup_eq_some running)
          by_contra missing
          have member := stands.1
          simp [room, Finmap.lookup_eq_none.mpr missing] at member
        exact unserved (by simp [event, show _ = _ from creates, absent])
      | _ => cases creates
    · intro clears
      cases a with
      | enter j =>
        rcases clears with ⟨⟨awaited, called⟩, empty⟩
        exact uncleared (by simp [event, called, empty])
      | clearIfDue => exact uncleared (by simp [event, show _ = _ from clears])
      | _ => cases clears

theorem Passed.step {phase : Phase Message} (passed : Passed op phase) (inv : s.Waiters)
    (called : s.calls[i]? = some ⟨op, phase⟩) (stays : a ≠ .cancel i)
    (taken : s.step a = some s') :
    ∃ phase', s'.calls[i]? = some ⟨op, phase'⟩ ∧ Passed op phase' := by
  rcases call_step taken called with kept | rfl | rfl | rfl | rfl | ⟨-, id', r, inside⟩
  · exact ⟨phase, kept, passed⟩
  · rcases phase_of_enter taken with ⟨_, other | ⟨k, other⟩⟩ <;> cases called.symm.trans other
    · cases op <;> exact passed.elim
    · rcases resumed_step called taken with ⟨id, msg, rfl, -, ⟨sender, -, after⟩ | ⟨-, after⟩⟩
      · exact ⟨_, after, trivial⟩
      · exact ⟨_, after, fun _ => ⟨nofun, nofun⟩⟩
  · rcases phase_of_wake taken with ⟨_, id', waiter, waits⟩
    cases called.symm.trans waits
    exact absurd rfl (passed.not_waiting id' waiter)
  · rcases phase_of_deliver taken with ⟨_, id', k, msg, other⟩
    cases called.symm.trans other
    cases op with
    | waitAndSend id msg' =>
      rcases sent_step called taken with ⟨task, -, ⟨-, -, after⟩ | ⟨-, after⟩⟩
      · exact ⟨_, after, fun _ => ⟨nofun, nofun⟩⟩
      · exact ⟨_, after, fun _ => ⟨nofun, nofun⟩⟩
    | _ => exact passed.elim
  · exact absurd rfl stays
  · cases called.symm.trans (inv.creating i id' [] r inside)
    exact passed.elim

theorem Notified.step (notified : s.Notified i op id waiter) (inv : s.Waiters)
    (stays : a ≠ .cancel i) (taken : s.step a = some s') : s'.Notified i op id waiter := by
  rcases notified with ⟨waits, stands⟩ | ⟨⟨phase, called, passed⟩, left, k, free, has⟩
  · rcases inv.bound i op id waiter waits with ⟨below, kind⟩
    have unleft : s.event a ≠ .leave waiter := fun leaves =>
      stays (inv.cancel_of_leave waits leaves)
    rcases stands with called | ⟨k, answered⟩
    · have kept : s'.calls[i]? = some ⟨op, .waiting id waiter⟩ := by
        rcases inv.waiting_stays taken waits with kept | rfl | rfl
        · exact kept
        · rcases wake_cases kind waits called.2 taken with ⟨absurd, -⟩ | ⟨-, free, -⟩
          · cases absurd rfl
          · exact absurd (.inr called.1) free
        · exact absurd rfl stays
      rcases called.step inv.valid unleft (room_step taken) with ⟨called', -⟩ | ⟨m, -, answered⟩
      · exact .inl ⟨kept, .inl called'⟩
      · exact .inl ⟨kept, .inr ⟨m, answered⟩⟩
    · rcases answered.step unleft (room_step taken) with ⟨answered', ne⟩ | ⟨receives, collected⟩
      · rcases inv.waiting_stays taken waits with kept | rfl | rfl
        · exact .inl ⟨kept, .inr ⟨k, answered'⟩⟩
        · rcases wake_cases kind waits answered.2 taken with ⟨-, receives, -⟩ | ⟨absurd, -⟩
          · exact absurd receives ne
          · cases absurd
        · exact absurd rfl stays
      · obtain rfl := inv.wake_of_receive waits receives
        rcases wake_cases kind waits answered.2 taken with
          ⟨-, -, phase, moved, passed⟩ | ⟨absurd, -⟩
        · exact .inr ⟨⟨phase, moved, passed⟩,
            left_of_moved inv taken waits moved passed.not_waiting, k, collected⟩
        · cases absurd
  · rcases Room.drained_step free has left.stays (room_step taken) with ⟨free', has', -⟩
    rcases has with ⟨chan, found, -⟩
    exact .inr ⟨passed.step inv called stays taken, left.step (getElem?_lt found) taken, k, free',
      has'⟩

theorem Refused.step (refused : s.Refused i op id waiter) (inv : s.Waiters)
    (stays : a ≠ .cancel i) (taken : s.step a = some s') : s'.Refused i op id waiter := by
  rcases refused with ⟨⟨free, has⟩, waits | ⟨called, left⟩⟩
  · rcases inv.bound i op id waiter waits with ⟨below, kind⟩
    have unleft : s.event a ≠ .leave waiter := fun leaves =>
      stays (inv.cancel_of_leave waits leaves)
    rcases Room.drained_step free has unleft (room_step taken) with ⟨free', has', -⟩
    refine ⟨⟨free', has'⟩, ?_⟩
    rcases inv.waiting_stays taken waits with kept | rfl | rfl
    · exact .inl kept
    · rcases wake_cases kind waits has taken with ⟨absurd, -⟩ | ⟨-, -, moved⟩
      · cases absurd rfl
      · exact .inr ⟨moved, left_of_moved inv taken waits moved nofun⟩
    · exact absurd rfl stays
  · rcases Room.drained_step free has left.stays (room_step taken) with ⟨free', has', -⟩
    rcases has with ⟨chan, found, -⟩
    exact ⟨⟨free', has'⟩, .inr ⟨inv.done_stays taken called,
      left.step (getElem?_lt found) taken⟩⟩

theorem registered_of_enter (kind : WaitsFor op id)
    (called : s.calls[i]? = some ⟨op, .locking⟩) (absent : s.forge.taskStates.lookup id = none)
    (taken : s.step (.enter i) = some s') : s'.Registered i op id s.waiters.length := by
  rcases wait_enters kind called taken with ⟨-, ⟨-, rfl⟩ | ⟨running, -⟩ | ⟨closed, -⟩⟩
  · refine ⟨getElem?_setPhase called _, ?_, { capacity := channelSize }, ?_, rfl, rfl, rfl⟩
    · simp [room, WrappedTaskForge.newTaskNotifReceiver_eq, Finmap.lookup_insert]
    · simp [room]
  · cases absent.symm.trans running
  · cases absent.symm.trans closed

theorem answered_of_enter (kind : WaitsFor op id) (called : s.calls[i]? = some ⟨op, .locking⟩)
    (taken : s.step (.enter i) = some s') :
    (s.forge.Running id → ∃ phase, s'.calls[i]? = some ⟨op, phase⟩ ∧ Passed op phase) ∧
      (s.forge.taskStates.lookup id = some .closed →
        s'.calls[i]? = some ⟨op, .done (.result (.error (.taskClosed id)))⟩) := by
  rcases wait_enters kind called taken with ⟨-, ⟨absent, rfl⟩ | ⟨running, rfl⟩ | ⟨closed, rfl⟩⟩
  · exact ⟨fun h => (by cases absent.symm.trans h), fun h => (by cases absent.symm.trans h)⟩
  · exact ⟨fun _ => passed_created kind called _, fun h => by cases h.symm.trans running⟩
  · exact ⟨fun h => (by cases closed.symm.trans h), fun _ => getElem?_setPhase called _⟩

/-- From a registration on, the first `new_task` of the id or clearing of the forge decides. -/
def Resolves (t : Config Message Output) (i : Nat) (op : Op Message) (id : OpId)
    (waiter : Nat) : Prop :=
  ∀ later s, Run step t later s → Along (fun _ b => b ≠ .cancel i) later →
    (Along (fun u b => ¬ u.Creates id b ∧ ¬ u.Clears b) later → s.Registered i op id waiter) ∧
    ∀ before u b after, later = before ++ (u, b) :: after →
      Along (fun u b => ¬ u.Creates id b ∧ ¬ u.Clears b) before →
        (u.Creates id b → s.Notified i op id waiter) ∧ (u.Clears b → s.Refused i op id waiter)

theorem not_clears_of_creates (creates : s.Creates id a) : ¬ s.Clears a := by
  intro clears
  cases a with
  | enter j =>
    rcases clears with ⟨⟨awaited, called⟩, -⟩
    cases called.symm.trans creates
  | _ => cases creates

variable {t : Config Message Output} {later : List (Config Message Output × Act Message Output)}

theorem registered_run (reached : Reachable step Config.new t)
    (registered : t.Registered i op id waiter) (run : Run step t later s)
    (stays : Along (fun _ b => b ≠ .cancel i) later)
    (quiet : Along (fun u b => ¬ u.Creates id b ∧ ¬ u.Clears b) later) :
    s.Registered i op id waiter := by
  induction run with
  | nil => exact registered
  | snoc before last ih =>
    rcases along_snoc.mp stays with ⟨stayed, stay⟩
    rcases along_snoc.mp quiet with ⟨quieted, uncreated, uncleared⟩
    rcases reached with ⟨past, run⟩
    have here := (run.append before).reachable
    rcases (ih stayed quieted).step (waiters_reachable here) (awaited_reachable here) stay last with
      ⟨creates, -⟩ | ⟨clears, -⟩ | ⟨-, -, still⟩
    · exact absurd creates uncreated
    · exact absurd clears uncleared
    · exact still

theorem resolves_of_registered (reached : Reachable step Config.new t)
    (registered : t.Registered i op id waiter) : t.Resolves i op id waiter := by
  intro later s run stays
  refine ⟨registered_run reached registered run stays, ?_⟩
  intro before u b after same quiet
  subst same
  rcases run.split with ⟨u', first, taken, rest⟩
  have stayed : Along (fun _ b => b ≠ .cancel i) before := fun e member =>
    stays e (List.mem_append_left _ member)
  have stay : b ≠ .cancel i := stays (u, b) (by simp)
  have staying : Along (fun _ b => b ≠ .cancel i) after := fun e member =>
    stays e (List.mem_append_right _ (List.mem_cons_of_mem _ member))
  rcases reached with ⟨past, run⟩
  have here := (run.append first).reachable
  have stands := registered_run run.reachable registered first stayed quiet
  have next := stands.step (waiters_reachable here) (awaited_reachable here) stay taken
  have inv := (waiters_reachable here).step taken
  constructor
  · intro creates
    have notified : u'.Notified i op id waiter := by
      rcases next with ⟨-, notified⟩ | ⟨clears, -⟩ | ⟨uncreated, -⟩
      · exact notified
      · exact absurd clears (not_clears_of_creates creates)
      · exact absurd creates uncreated
    have keep : ∀ (u : Config Message Output) b u', (u.Waiters ∧ u.Notified i op id waiter) →
        b ≠ .cancel i → u.step b = some u' → u'.Waiters ∧ u'.Notified i op id waiter :=
      fun u b u' known stay taken => ⟨known.1.step taken, known.2.step known.1 stay taken⟩
    exact (rest.invariant_along keep staying ⟨inv, notified⟩).2
  · intro clears
    have refused : u'.Refused i op id waiter := by
      rcases next with ⟨creates, -⟩ | ⟨-, refused⟩ | ⟨-, uncleared, -⟩
      · exact absurd clears (not_clears_of_creates creates)
      · exact refused
      · exact absurd clears uncleared
    have keep : ∀ (u : Config Message Output) b u', (u.Waiters ∧ u.Refused i op id waiter) →
        b ≠ .cancel i → u.step b = some u' → u'.Waiters ∧ u'.Refused i op id waiter :=
      fun u b u' known stay taken => ⟨known.1.step taken, known.2.step known.1 stay taken⟩
    exact (rest.invariant_along keep staying ⟨inv, refused⟩).2

theorem wake_of_registered (inv : t.Waiters) (registered : t.Registered i op id waiter) :
    t.step (.wake i) = none := by
  rcases registered with ⟨waits, member, has⟩
  by_contra enabled
  rcases Option.ne_none_iff_exists'.mp enabled with ⟨t', taken⟩
  have kind := (inv.bound i op id waiter waits).2
  rcases wake_cases kind waits has taken with ⟨absurd, -⟩ | ⟨-, free, -⟩
  · exact absurd rfl
  · exact free (.inl ⟨id, member⟩)

theorem wake_enabled {received buffer : List InboxSender}
    (waits : t.calls[i]? = some ⟨op, .waiting id waiter⟩) (has : t.room.Has waiter received buffer)
    (ready : buffer ≠ [] ∨ ¬ t.room.Held waiter) : ∃ t', t.step (.wake i) = some t' := by
  rcases has with ⟨chan, found, -, -, rfl⟩
  have found : t.waiters[waiter]? = some chan := found
  apply Option.isSome_iff_exists.mp
  cases buffered : chan.buffer with
  | cons task rest => simp [Config.step, wake, waits, found, buffered]
  | nil =>
    have free : ¬ t.Held waiter := by
      rw [held_iff]
      exact ready.resolve_left fun ne => ne buffered
    simp [Config.step, wake, waits, found, buffered, free]

theorem wake_of_notified (inv : t.Waiters) (notified : t.Notified i op id waiter)
    (waits : t.calls[i]? = some ⟨op, .waiting id waiter⟩) (free : t.writer = none) :
    ∃ t' phase, t.step (.wake i) = some t' ∧ t'.calls[i]? = some ⟨op, phase⟩ ∧
      Passed op phase := by
  rcases notified with ⟨-, called | ⟨k, -, has⟩⟩ | ⟨⟨phase, moved, passed⟩, -⟩
  · have member : waiter ∈ t.notifying := called.1
    simp [notifying, free] at member
  · rcases wake_enabled waits has (.inl (by simp)) with ⟨t', taken⟩
    rcases wake_cases (inv.bound i op id waiter waits).2 waits has taken with
      ⟨-, -, phase, moved, passed⟩ | ⟨absurd, -⟩
    · exact ⟨t', phase, taken, moved, passed⟩
    · cases absurd
  · cases moved.symm.trans waits
    exact absurd rfl (passed.not_waiting id waiter)

theorem wake_of_refused (inv : t.Waiters) (refused : t.Refused i op id waiter)
    (waits : t.calls[i]? = some ⟨op, .waiting id waiter⟩) :
    ∃ t', t.step (.wake i) = some t' ∧
      t'.calls[i]? = some ⟨op, .done (.result (.error (.failedToWaitCreation id)))⟩ := by
  rcases refused with ⟨⟨free, has⟩, -⟩
  rcases wake_enabled waits has (.inr free) with ⟨t', taken⟩
  have kind := (inv.bound i op id waiter waits).2
  rcases wake_cases kind waits has taken with ⟨absurd, -⟩ | ⟨-, -, moved⟩
  · exact absurd rfl |>.elim
  · exact ⟨t', taken, moved⟩

theorem notify_enabled (inv : t.Waiters) {senders : List CreationSender} {r : ForgeResult Unit}
    (inside : t.writer = some (.creating i id (waiter :: senders) r)) :
    ∃ t', t.step .notify = some t' := by
  have serves : t.room.serving = waiter :: senders := by simp [room, notifying, inside]
  rcases inv.valid.unsent waiter (.inr (by simp [serves])) with ⟨chan, found, unsent⟩
  have found : t.waiters[waiter]? = some chan := found
  have room : chan.full = false := by
    have sized := inv.valid.sizes chan (List.mem_of_getElem? found)
    simp [Chan.full, (List.append_eq_nil_iff.mp unsent).2, sized, channelSize]
  apply Option.isSome_iff_exists.mp
  cases closed : chan.closed <;> simp [Config.step, notify, inside, found, closed, room]

/-- No id has both creation waiters and a record. A wait for a creation returns at once when its id
    has a record, and otherwise stays registered until the first `new_task` of the id, which makes
    it return `Ok`, or clearing of the forge, which makes it fail. None is left waiting then. -/
theorem creation_waiters_resolve (reached : Reachable step Config.new t) :
    t.forge.Awaited ∧
    (∀ i op id t', WaitsFor op id → t.calls[i]? = some ⟨op, .locking⟩ →
      t.step (.enter i) = some t' →
      (t.forge.Running id → ∃ phase, t'.calls[i]? = some ⟨op, phase⟩ ∧ Passed op phase) ∧
      (t.forge.taskStates.lookup id = some .closed →
        t'.calls[i]? = some ⟨op, .done (.result (.error (.taskClosed id)))⟩) ∧
      (t.forge.taskStates.lookup id = none →
        t'.Registered i op id t.waiters.length ∧ t'.Resolves i op id t.waiters.length)) ∧
    (∀ i op id waiter,
      (t.Registered i op id waiter → t.step (.wake i) = none) ∧
      (t.Notified i op id waiter → t.calls[i]? = some ⟨op, .waiting id waiter⟩ →
        t.writer = none → ∃ t' phase, t.step (.wake i) = some t' ∧
          t'.calls[i]? = some ⟨op, phase⟩ ∧ Passed op phase) ∧
      (t.Refused i op id waiter → t.calls[i]? = some ⟨op, .waiting id waiter⟩ →
        ∃ t', t.step (.wake i) = some t' ∧
          t'.calls[i]? = some ⟨op, .done (.result (.error (.failedToWaitCreation id)))⟩)) ∧
    (∀ i id waiter senders r, t.writer = some (.creating i id (waiter :: senders) r) →
      ∃ t', t.step .notify = some t') := by
  have inv := waiters_reachable reached
  refine ⟨awaited_reachable reached, ?_, ?_, ?_⟩
  · intro i op id t' kind called taken
    rcases answered_of_enter kind called taken with ⟨running, closed⟩
    refine ⟨running, closed, fun absent => ?_⟩
    have registered := registered_of_enter kind called absent taken
    exact ⟨registered, resolves_of_registered (reached.next taken) registered⟩
  · intro i op id waiter
    exact ⟨wake_of_registered inv, wake_of_notified inv, wake_of_refused inv⟩
  · intro i id waiter senders r inside
    exact notify_enabled inv inside

/-- A caller waits for the task 1 before and while it is created. -/
theorem creation_waiter_notified :
    ∃ t t' s : Config Nat Nat,
      exec step Config.new [.call (.waitForTaskCreation 1)] = some t ∧
        t.step (.enter 0) = some t' ∧
        exec step t' [.call (.newTask 1), .enter 1, .notify, .begin 1, .wake 0] = some s ∧
        s.Notified 0 (.waitForTaskCreation 1) 1 0 := by
  refine ⟨_, _, _, rfl, rfl, rfl, ?_⟩
  obtain ⟨-, enters, -⟩ := creation_waiters_resolve
    (reachable_of_exec ([.call (.waitForTaskCreation 1)] : List (Act Nat Nat)) rfl)
  rcases (enters 0 _ 1 _ (.inl rfl) rfl rfl).2.2 rfl with ⟨-, resolves⟩
  obtain ⟨-, decides⟩ := resolves _ _
    (run_of_exec [.call (.newTask 1), .enter 1, .notify, .begin 1, .wake 0] rfl) (by decide)
  exact (decides [_] _ _ _ rfl (by simp [Along, Creates, Clears])).1 rfl

end Config

end AsyncForge.TaskForge
