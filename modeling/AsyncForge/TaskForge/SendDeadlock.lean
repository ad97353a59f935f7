import AsyncForge.TaskForge.Delivery

namespace AsyncForge.TaskForge

open AsyncForge.Channels AsyncForge.Runs

variable {Message Output : Type}

namespace Config

variable {s s' : Config Message Output} {a : Act Message Output}

/-- The call holds the read guard and waits for a slot in the full inbox of the task. -/
def sendWaits (s : Config Message Output) (i : Nat) (k : InboxSender) : Bool :=
  match s.calls[i]? with
  | some ⟨_, .sending _ inbox _⟩ =>
    inbox == k && (s.tasks[k]?).any fun t => !t.inbox.closed && t.inbox.full
  | _ => false

/-- The task waits in `output` for a slot in the full end-task channel. -/
def outputWaits (s : Config Message Output) (k : InboxSender) : Bool :=
  s.endTasks.full && s.outputs.any fun ended => ended.producer == k

/-- The listener waits for the write guard while a read guard is held. -/
def listenerWaits (s : Config Message Output) : Bool := s.pulled.isSome && !s.unread

def CyclicWait (s : Config Message Output) : Prop :=
  ∃ i k, s.sendWaits i k = true ∧ s.outputWaits k = true ∧ s.listenerWaits = true

def inFlight (s : Config Message Output) : Nat :=
  s.pulled.toList.length + s.endTasks.buffer.length + s.outputs.length

/-- `output` is only called while fewer than `bound` outputs are in flight. -/
def roomy (bound : Nat) (s : Config Message Output) : Act Message Output → Bool
  | .output .. => s.inFlight < bound
  | _ => true

/-- A task in `output` does not receive, and no guard passes a listener that waits for its own. -/
def orderly (s : Config Message Output) : Act Message Output → Bool
  | .receive k => s.outputs.all fun ended => ended.producer != k
  | .enter _ => s.pulled.isNone
  | _ => true

/-- None of the three parties of a cyclic wait has a step. -/
theorem stuck_of_waits {i : Nat} {k : InboxSender} (sends : s.sendWaits i k = true)
    (outputs : s.outputWaits k = true) (listens : s.listenerWaits = true) :
    s.deliver i = none ∧ (∀ j, s.enqueue j = none) ∧ s.handle = none ∧ s.take = none := by
  simp only [outputWaits, Bool.and_eq_true] at outputs
  simp only [listenerWaits, Bool.and_eq_true, Bool.not_eq_true'] at listens
  rcases Option.isSome_iff_exists.mp listens.1 with ⟨ended, pulled⟩
  refine ⟨?_, fun j => ?_, ?_, ?_⟩
  · unfold sendWaits at sends
    split at sends
    next op id inbox msg called =>
      simp only [Bool.and_eq_true, beq_iff_eq, Option.any_eq_true, Bool.not_eq_true'] at sends
      rcases sends with ⟨rfl, t, present, opened, full⟩
      simp [deliver, called, present, opened, full]
    · cases sends
  · unfold enqueue
    split <;> simp [outputs.1]
  · simp [handle, pulled, listens.2]
  · simp [take, listening, pulled]

theorem capacity_step (taken : s.step a = some s') :
    s'.endTasks.capacity = s.endTasks.capacity := by
  cases step_moves taken with
  | waitRunning | wakeCreated => rw [created_eq]
  | _ => rfl

theorem inFlight_step (taken : s.step a = some s') :
    s'.inFlight ≤ s.inFlight ∨ (∃ k out, a = .output k out) ∧ s'.inFlight = s.inFlight + 1 := by
  cases step_moves taken with
  | waitRunning | wakeCreated =>
    rw [created_eq]
    exact .inl (Nat.le_refl _)
  | output out present =>
    refine .inr ⟨⟨_, _, rfl⟩, ?_⟩
    simp [inFlight]
    omega
  | enqueue pending room =>
    have bound := getElem?_lt pending
    left
    simp only [inFlight, Chan.push, List.length_append, List.length_singleton,
      List.length_eraseIdx_of_lt bound]
    omega
  | take idle buffered =>
    left
    simp only [inFlight, pulled_of_listening idle, buffered, Chan.pop, Option.toList_none,
      Option.toList_some, List.length_nil, List.length_cons, List.drop_succ_cons, List.drop_zero]
    omega
  | handleClosed pulled free unread closed =>
    left
    simp [inFlight, pulled]
  | handleRunning pulled free unread running =>
    left
    simp [inFlight, pulled]
  | _ => exact .inl (Nat.le_refl _)

theorem roomy_step {bound : Nat} (below : s.inFlight ≤ bound) (room : s.roomy bound a = true)
    (taken : s.step a = some s') : s'.inFlight ≤ bound := by
  rcases inFlight_step taken with less | ⟨⟨k, out, rfl⟩, more⟩
  · exact Nat.le_trans less below
  · have free : s.inFlight < bound := by simpa [roomy] using room
    omega

theorem inFlight_of_cyclicWait (cyclic : s.CyclicWait)
    (capacity : s.endTasks.capacity = channelSize) : channelSize + 2 ≤ s.inFlight := by
  rcases cyclic with ⟨i, k, -, outputs, listens⟩
  simp only [outputWaits, Bool.and_eq_true, List.any_eq_true] at outputs
  rcases outputs with ⟨full, ended, member, -⟩
  have filled : channelSize ≤ s.endTasks.buffer.length := by
    simpa [Chan.full, capacity] using full
  have waiting := List.length_pos_of_mem member
  simp only [listenerWaits, Bool.and_eq_true] at listens
  rcases Option.isSome_iff_exists.mp listens.1 with ⟨held, pulled⟩
  simp only [inFlight, pulled, Option.toList_some, List.length_singleton]
  omega

variable {trace : List (Config Message Output × Act Message Output)}

theorem capacity_run (run : Run step Config.new trace s) :
    s.endTasks.capacity = channelSize := by
  induction run with
  | nil => rfl
  | snoc before last ih => exact (capacity_step last).trans ih

/-- While every call of `output` finds fewer than 101 outputs in flight, no cyclic wait between a
    sending client, its task and the listener is reached. -/
theorem no_cyclic_wait_of_roomy (run : Run step Config.new trace s)
    (room : Along (fun t b => t.roomy (channelSize + 1) b) trace) : ¬ s.CyclicWait := by
  intro cyclic
  have capacity := capacity_run run
  have keep : ∀ (t : Config Message Output) b t', t.inFlight ≤ channelSize + 1 →
      t.roomy (channelSize + 1) b = true → t.step b = some t' → t'.inFlight ≤ channelSize + 1 :=
    fun _ _ _ inv good taken => roomy_step inv good taken
  have below := run.invariant_along keep room (Nat.zero_le _)
  have above := inFlight_of_cyclicWait cyclic capacity
  omega

/-- One task of capacity one echoes until the end-task channel is full. -/
def fillsEndTasks : Nat → List (Act Nat Nat)
  | 0 => creates 0 1
  | n + 1 => fillsEndTasks n ++ echoes (n + 1) 1 0 7

/-- With three more clients inside `send`, the listener pulls one output and waits. -/
def holdsListener : List (Act Nat Nat) :=
  fillsEndTasks channelSize ++
    [.call (.send 1 7), .enter 101, .deliver 101, .receive 0, .output 0 7] ++
    [.call (.send 1 7), .enter 102, .deliver 102, .call (.send 1 7), .enter 103,
      .call (.send 1 7), .enter 104] ++
    [.take, .enqueue 0]

/-- At the bound a client waits for the task and the listener for the client; the task alone does
    not wait. -/
theorem no_cyclic_wait_at_the_bound :
    ∃ s, exec step Config.new holdsListener = some s ∧ s.inFlight = channelSize + 1 ∧
      s.sendWaits 103 0 = true ∧ s.endTasks.full = true ∧ s.listenerWaits = true ∧
      ¬ s.CyclicWait := by
  have waits : ((exec (guarded step (roomy (channelSize + 1))) Config.new holdsListener).any
      fun s => s.inFlight == channelSize + 1 && s.sendWaits 103 0 && s.endTasks.full &&
        s.listenerWaits) = true := by decide +kernel
  rcases (Option.any_eq_true _ _).mp waits with ⟨s, done, waits⟩
  simp only [Bool.and_eq_true, beq_iff_eq] at waits
  rcases waits with ⟨⟨⟨flight, sends⟩, full⟩, listens⟩
  rcases exec_guarded holdsListener done with ⟨done, room⟩
  have free := no_cyclic_wait_of_roomy (run_of_exec holdsListener done) room
  exact ⟨s, done, flight, sends, full, listens, free⟩

/-- The task outputs once more. -/
def deadlocks : List (Act Nat Nat) := holdsListener ++ [.receive 0, .output 0 7, .deliver 103]

/-- The task takes no message while it waits in `output`, no client enters past the waiting
    listener, and one output more than the bound allows is enough. -/
theorem cyclic_wait_reached :
    ∃ s : Config Nat Nat, exec step Config.new deadlocks = some s ∧ s.CyclicWait ∧
      Along (fun t b => t.orderly b ∧ t.roomy (channelSize + 2) b)
        (traceOf step Config.new deadlocks) := by
  have waits : ((exec step Config.new deadlocks).any fun s =>
      s.sendWaits 104 0 && s.outputWaits 0 && s.listenerWaits) = true := by decide +kernel
  have along : ((traceOf step Config.new deadlocks).all fun e =>
      e.1.orderly e.2 && e.1.roomy (channelSize + 2) e.2) = true := by decide +kernel
  rcases (Option.any_eq_true _ _).mp waits with ⟨s, done, waits⟩
  simp only [Bool.and_eq_true] at waits
  refine ⟨s, done, ⟨104, 0, waits.1.1, waits.1.2, waits.2⟩, fun e member => ?_⟩
  simpa only [Bool.and_eq_true] using List.all_eq_true.mp along e member

/-- With 102 outputs in flight a sending client, its task and the listener can wait for each
    other. -/
theorem send_deadlocks :
    ¬ ∀ (trace : List (Config Nat Nat × Act Nat Nat)) (s : Config Nat Nat),
      Run step Config.new trace s → Along (fun t b => t.orderly b) trace → ¬ s.CyclicWait := by
  intro all
  rcases cyclic_wait_reached with ⟨s, done, cyclic, along⟩
  exact all _ s (run_of_exec deadlocks done) (fun e member => (along e member).1) cyclic

end Config

end AsyncForge.TaskForge
