import AsyncForge.TaskForge.Broadcast

/-! The forge with the consumers of its redirections and of its errors. A consumer receives one item
    at a time and calls the forge once for each. -/

namespace AsyncForge.TaskForge

open AsyncForge.Channels AsyncForge.Runs

variable {Message Output : Type}

/-- A channel the listener sends to. -/
inductive Source
  | redirection (receiver : Nat)
  | errors
  deriving DecidableEq, Repr

inductive Activity
  | receiving
  -- It has received an item and is about to call the forge.
  | holding
  -- It waits for its call number `i` to return.
  | calling (i : Nat)
  deriving DecidableEq, Repr

structure Consumer where
  source : Source
  activity : Activity
  deriving DecidableEq, Repr

/-- The forge and its consumers. -/
structure Fed (Message Output : Type) where
  config : Config Message Output
  consumers : List Consumer

inductive Move (Message Output : Type)
  -- Any other party takes its step.
  | act (a : Act Message Output)
  -- A consumer gets the receiver of a channel that has none yet.
  | adopt (source : Source)
  -- The consumer number `c` receives an item,
  | receive (c : Nat)
  -- calls an operation of the forge,
  | call (c : Nat) (op : Op Message)
  -- or sees its call return.
  | resume (c : Nat)
  deriving DecidableEq

def Source.receives : Source → Act Message Output
  | .redirection receiver => .receiveResult receiver
  | .errors => .receiveError

/-- The call waits for a guard of the lock. -/
def Phase.waitsLock : Phase Message → Bool
  | .locking | .resuming _ => true
  | _ => false

def Phase.finished : Phase Message → Bool
  | .done _ | .cancelled => true
  | _ => false

namespace Config

def lockWaits (s : Config Message Output) (i : Nat) : Bool :=
  (s.calls[i]?).any fun c => c.phase.waitsLock

def finished (s : Config Message Output) (i : Nat) : Bool :=
  (s.calls[i]?).any fun c => c.phase.finished

/-- A send to the channel waits for a slot. -/
def backlogged (s : Config Message Output) : Source → Bool
  | .redirection receiver => (s.results[receiver]?).any fun chan => !chan.closed && chan.full
  | .errors => !s.errors.closed && s.errors.full

/-- The channels the listener has still to send to before it releases the write guard, the one it
    is sending to first. -/
def sendsLeft (s : Config Message Output) : List Source :=
  match s.writer with
  | some (.broadcasting _ _ i _) => (s.forge.outputResultSenders.drop i).map .redirection
  | some (.reporting _) => [.errors]
  | _ => []

/-- The channels the listener sets out to send to by the step. -/
def targets (s : Config Message Output) : Act Message Output → List Source
  | .handle =>
    if s.pulled.any fun ended => !decide (s.forge.Running ended.id) then [.errors] else []
  | .clearIfDue =>
    if s.losesCleaner .clearIfDue then [.errors]
    else s.forge.outputResultSenders.map .redirection
  | _ => []

/-- The step ends the wait of a `wait_and_send`, which then waits for the read guard. -/
def resumes (s : Config Message Output) (a : Act Message Output) (i : Nat) : Bool :=
  match a with
  | .wake j =>
    j == i && match s.calls[i]? with
      | some ⟨.waitAndSend _ _, .waiting _ waiter⟩ =>
        (s.waiters[waiter]?).any fun chan => !chan.buffer.isEmpty
      | _ => false
  | _ => false

variable {s s' : Config Message Output} {a : Act Message Output} {i : Nat} {source : Source}

theorem lockWaits_setPhase {j : Nat} {phase : Phase Message}
    (waits : ((setPhase s.calls j phase)[i]?).any (fun c => c.phase.waitsLock) = true) :
    s.lockWaits i = true ∨ (j = i ∧ phase.waitsLock = true) := by
  rcases (Option.any_eq_true _ _).mp waits with ⟨c, found, waiting⟩
  rw [setPhase, List.getElem?_modify] at found
  rcases Option.map_eq_some_iff.mp found with ⟨before, place, rfl⟩
  by_cases same : j = i
  · simp only [same, ↓reduceIte] at waiting
    exact .inr ⟨same, waiting⟩
  · simp only [same, ↓reduceIte] at waiting
    exact .inl ((Option.any_eq_true _ _).mpr ⟨before, place, waiting⟩)

theorem lockWaits_quiet {j : Nat} {phase : Phase Message} (quiet : phase.waitsLock = false)
    (waits : ((setPhase s.calls j phase)[i]?).any (fun c => c.phase.waitsLock) = true) :
    s.lockWaits i = true := by
  rcases lockWaits_setPhase waits with before | ⟨-, waiting⟩
  · exact before
  · cases quiet.symm.trans waiting

theorem lockWaits_step (taken : s.step a = some s') (bound : i < s.calls.length)
    (waits : s'.lockWaits i = true) : s.lockWaits i = true ∨ s.resumes a i = true := by
  cases step_moves taken with
  | call op =>
    simp only [lockWaits, List.getElem?_append_left bound] at waits
    exact .inl waits
  | newTaskExists | newTaskStart | waitRegisters | waitClosed | redirect | asksEmpty | cleanCleared
  | cleanRequests | sendStart | sendMissing | begin | wakeDropped | deliverClosed | deliverOpen
  | cancelWaiting | cancel => exact .inl (lockWaits_quiet rfl waits)
  | @waitRunning j id op free unread called holds state =>
    rcases holds with rfl | ⟨msg, rfl⟩
    · exact .inl (lockWaits_quiet rfl waits)
    · rcases lockWaits_setPhase waits with before | ⟨rfl, -⟩
      · exact .inl before
      · exact .inl (by simp [lockWaits, called, Phase.waitsLock])
  | @wakeCreated j id op waiter task chan rest called present buffered =>
    cases op with
    | waitAndSend _ msg =>
      rcases lockWaits_setPhase waits with before | ⟨rfl, -⟩
      · exact .inl before
      · exact .inr (by simp [resumes, called, present, buffered])
    | _ => exact .inl (lockWaits_quiet rfl waits)
  | _ => exact .inl waits

theorem sendsLeft_same (writer : s'.writer = s.writer)
    (senders : s'.forge.outputResultSenders = s.forge.outputResultSenders) :
    s'.sendsLeft ⊆ s.sendsLeft ++ s.targets a := by
  simp [sendsLeft, writer, senders]

theorem sendsLeft_quiet (writer : s'.sendsLeft = []) :
    s'.sendsLeft ⊆ s.sendsLeft ++ s.targets a := by
  simp [writer]

theorem sendsLeft_next {ended : TaskOutput Output} {hasCleared : Bool} {i : Nat}
    {sendersToRemove sendersToRemove' : List Nat}
    (inside : s.writer = some (.broadcasting ended hasCleared i sendersToRemove))
    (writer : s'.writer = some (.broadcasting ended hasCleared (i + 1) sendersToRemove'))
    (senders : s'.forge.outputResultSenders = s.forge.outputResultSenders) :
    s'.sendsLeft ⊆ s.sendsLeft ++ s.targets a := by
  simp only [sendsLeft, inside, writer, senders]
  apply List.Subset.trans _ (List.subset_append_left _ _)
  apply List.map_subset
  rw [← List.drop_drop]
  exact List.drop_subset _ _

theorem sendsLeft_step (taken : s.step a = some s') :
    s'.sendsLeft ⊆ s.sendsLeft ++ s.targets a := by
  cases step_moves taken with
  | newTaskStart | notifyClosed | notifyOpen | begin | handleRunning | prune | reportLogged
  | reportSent => exact sendsLeft_quiet rfl
  | redirect free unread called =>
    exact sendsLeft_quiet (by simp [sendsLeft, newResultRedirection, free])
  | waitRegisters free unread called waits state =>
    exact sendsLeft_same rfl (by rw [WrappedTaskForge.newTaskNotifReceiver_eq])
  | waitRunning | wakeCreated =>
    rw [created_eq]
    exact sendsLeft_same rfl rfl
  | handleClosed pulled free unread closed =>
    simp [sendsLeft, targets, pulled, closed]
  | notDue inside due => simp [sendsLeft, targets, losesCleaner, due]
  | clearLost inside due pending present closed =>
    simp [sendsLeft, targets, losesCleaner, due, pending, present, closed]
  | clearNotified inside due pending present opened room =>
    simp [sendsLeft, targets, losesCleaner, due, pending, present, opened,
      WrappedTaskForge.clearEnded]
  | broadcastClosed inside => exact sendsLeft_next inside rfl rfl
  | broadcastOpen inside => exact sendsLeft_next inside rfl rfl
  | _ => exact sendsLeft_same rfl rfl

theorem backlogged_modify {receiver changed : Nat}
    {f : Chan (ForgeTaskEnded Output) → Chan (ForgeTaskEnded Output)}
    (calm : ∀ chan, (!(f chan).closed && (f chan).full) = true →
      (!chan.closed && chan.full) = true)
    (full : ((s.results.modify changed f)[receiver]?).any
      (fun chan => !chan.closed && chan.full) = true) :
    s.backlogged (.redirection receiver) = true := by
  rcases (Option.any_eq_true _ _).mp full with ⟨chan, found, blocked⟩
  rw [List.getElem?_modify] at found
  rcases Option.map_eq_some_iff.mp found with ⟨before, place, rfl⟩
  refine (Option.any_eq_true _ _).mpr ⟨before, place, ?_⟩
  by_cases same : changed = receiver
  · exact calm before (by simpa [same] using blocked)
  · simpa [same] using blocked

/-- A channel fills up only by a send of the listener, which is then done with it. -/
theorem backlogged_step (wired : s.Wired) (taken : s.step a = some s')
    (owed : source ∈ s'.sendsLeft) (full : s'.backlogged source = true) :
    s.backlogged source = true := by
  cases step_moves taken with
  | redirect free unread called => simp [sendsLeft, newResultRedirection, free] at owed
  | waitRunning | wakeCreated =>
    rw [created_eq] at full
    exact full
  | @broadcastOpen ended hasCleared i sendersToRemove sender chan inside current present opened
      room =>
    rcases List.mem_map.mp owed with ⟨receiver, left, rfl⟩
    have other : sender ≠ receiver := by
      intro same
      subst same
      exact wired.sends_once current left
    simpa [backlogged, List.getElem?_modify, other] using full
  | reportSent => cases owed
  | receiveResult receiver =>
    cases source with
    | errors => exact full
    | redirection r =>
      refine backlogged_modify (fun chan blocked => ?_) full
      simp only [Bool.and_eq_true] at blocked ⊢
      exact ⟨blocked.1, chan.full_of_pop blocked.2⟩
  | closeResult receiver =>
    cases source with
    | errors => exact full
    | redirection r => exact backlogged_modify (fun chan blocked => by cases blocked) full
  | receiveError =>
    cases source with
    | errors =>
      simp only [backlogged, Bool.and_eq_true] at full ⊢
      exact ⟨full.1, s.errors.full_of_pop full.2⟩
    | redirection r => exact full
  | closeErrors =>
    cases source with
    | errors => cases full
    | redirection r => exact full
  | _ => exact full

end Config

def Consumer.waits (c : Consumer) (s : Config Message Output) : Bool :=
  match c.activity with
  | .calling i => s.lockWaits i
  | _ => false

def Consumer.wakes (c : Consumer) (s : Config Message Output) (a : Act Message Output) : Bool :=
  match c.activity with
  | .calling i => s.resumes a i
  | _ => false

namespace Fed

def new : Fed Message Output := ⟨.new, []⟩

def setActivity (consumers : List Consumer) (c : Nat) (activity : Activity) : List Consumer :=
  consumers.modify c fun consumer => { consumer with activity }

/-- The step is the receive of a channel that has a consumer. -/
def owns (w : Fed Message Output) : Act Message Output → Bool
  | .receiveResult receiver => w.consumers.any (·.source == .redirection receiver)
  | .receiveError => w.consumers.any (·.source == .errors)
  | _ => false

def exists? (w : Fed Message Output) : Source → Bool
  | .redirection receiver => decide (receiver < w.config.results.length)
  | .errors => true

def step (w : Fed Message Output) : Move Message Output → Option (Fed Message Output)
  | .act a => if w.owns a then none else (w.config.step a).map fun config => { w with config }
  | .adopt source =>
    if w.exists? source && !w.consumers.any (·.source == source) then
      some { w with consumers := w.consumers ++ [⟨source, .receiving⟩] }
    else none
  | .receive c =>
    match w.consumers[c]? with
    | some ⟨source, .receiving⟩ =>
      (w.config.step source.receives).map fun config =>
        { config, consumers := setActivity w.consumers c .holding }
    | _ => none
  | .call c op =>
    match w.consumers[c]? with
    | some ⟨_, .holding⟩ =>
      (w.config.step (.call op)).map fun config =>
        { config, consumers := setActivity w.consumers c (.calling w.config.calls.length) }
    | _ => none
  | .resume c =>
    match w.consumers[c]? with
    | some ⟨_, .calling i⟩ =>
      if w.config.finished i then
        some { w with consumers := setActivity w.consumers c .receiving }
      else none
    | _ => none

/-- The listener holds the write guard and waits for a slot of a channel whose consumer waits for
    the lock. -/
def Jam (w : Fed Message Output) : Prop :=
  ∃ c ∈ w.consumers, w.config.sendsLeft.head? = some c.source ∧
    w.config.backlogged c.source = true ∧ c.waits w.config = true

instance (w : Fed Message Output) : Decidable w.Jam :=
  inferInstanceAs (Decidable (∃ c ∈ w.consumers, _))

/-- The listener sets out to send only while no consumer of a full channel it will send to waits
    for the lock, and a consumer starts to wait for the lock only while the listener has no send
    to its full channel before it. -/
def feedsFreely (w : Fed Message Output) : Move Message Output → Bool
  | .act a => w.consumers.all fun c =>
      !(w.config.backlogged c.source &&
        (decide (c.source ∈ w.config.targets a) && c.waits w.config ||
          decide (c.source ∈ w.config.sendsLeft) && c.wakes w.config a))
  | .call c _ =>
    (w.consumers[c]?).all fun consumer =>
      !(w.config.backlogged consumer.source && decide (consumer.source ∈ w.config.sendsLeft))
  | _ => true

variable {w w' : Fed Message Output} {m : Move Message Output}
  {trace : List (Fed Message Output × Move Message Output)}

/-- No consumer of a full channel that the listener has still to send to waits for the lock. -/
structure Safe (w : Fed Message Output) : Prop where
  wired : w.config.Wired
  known : ∀ c ∈ w.consumers, ∀ i, c.activity = .calling i → i < w.config.calls.length
  apart : ∀ c ∈ w.consumers, c.source ∈ w.config.sendsLeft →
    w.config.backlogged c.source = true → c.waits w.config = false

theorem safe_new : (new : Fed Message Output).Safe :=
  ⟨Config.wired_new, by simp [new], by simp [new]⟩

theorem calls_length {s s' : Config Message Output} {a : Act Message Output}
    (taken : s.step a = some s') :
    s'.calls.length = s.calls.length ∨ ∃ op, a = .call op ∧ s'.calls = s.calls ++ [⟨op, .locking⟩]
    := by
  cases Config.step_moves taken with
  | call op => exact .inr ⟨op, rfl, rfl⟩
  | waitRunning | wakeCreated => exact .inl (Config.created_calls_length ..)
  | redirect => exact .inl (List.length_modify ..)
  | _ => exact .inl (by simp [setPhase])

theorem calls_grow {s s' : Config Message Output} {a : Act Message Output}
    (taken : s.step a = some s') : s.calls.length ≤ s'.calls.length := by
  rcases calls_length taken with same | ⟨op, -, longer⟩
  · exact Nat.le_of_eq same.symm
  · simp [longer]

theorem targets_of_wakes {s : Config Message Output} {a : Act Message Output} {c : Consumer}
    (woken : c.wakes s a = true) : s.targets a = [] := by
  unfold Consumer.wakes at woken
  split at woken
  · cases a <;> first | rfl | cases woken
  · cases woken

/-- A consumer stays apart from the listener while neither of the two turns to the other. -/
theorem apart_step {s s' : Config Message Output} {a : Act Message Output} {c : Consumer}
    (wired : s.Wired) (known : ∀ i, c.activity = .calling i → i < s.calls.length)
    (apart : c.source ∈ s.sendsLeft → s.backlogged c.source = true → c.waits s = false)
    (aims : s.backlogged c.source = true → c.source ∈ s.targets a → c.waits s = false)
    (wakes : s.backlogged c.source = true → c.source ∈ s.sendsLeft → c.wakes s a = false)
    (taken : s.step a = some s') (left : c.source ∈ s'.sendsLeft)
    (full : s'.backlogged c.source = true) : c.waits s' = false := by
  have before := Config.backlogged_step wired taken left full
  by_contra waiting
  simp only [Bool.not_eq_false] at waiting
  have turns : c.waits s = true ∨ c.wakes s a = true := by
    unfold Consumer.waits at waiting ⊢
    unfold Consumer.wakes
    split at waiting
    next i calling =>
      simpa only [calling] using Config.lockWaits_step taken (known i calling) waiting
    · cases waiting
  rcases List.mem_append.mp (Config.sendsLeft_step taken left) with still | target
  · rcases turns with waits | woken
    · cases (apart still before).symm.trans waits
    · cases (wakes before still).symm.trans woken
  · rcases turns with waits | woken
    · cases (aims before target).symm.trans waits
    · rw [targets_of_wakes woken] at target
      cases target

theorem Safe.act (inv : w.Safe) {a : Act Message Output} {config : Config Message Output}
    (aims : ∀ c ∈ w.consumers, w.config.backlogged c.source = true →
      c.source ∈ w.config.targets a → c.waits w.config = false)
    (wakes : ∀ c ∈ w.consumers, w.config.backlogged c.source = true →
      c.source ∈ w.config.sendsLeft → c.wakes w.config a = false)
    (taken : w.config.step a = some config) : Safe { w with config } :=
  ⟨inv.wired.step taken,
    fun c member i calling => Nat.lt_of_lt_of_le (inv.known c member i calling) (calls_grow taken),
    fun c member => apart_step inv.wired (inv.known c member) (inv.apart c member)
      (aims c member) (wakes c member) taken⟩

theorem Safe.setActivity (inv : w.Safe) {c : Nat} {activity : Activity}
    (known : ∀ i, activity = .calling i → i < w.config.calls.length)
    (apart : ∀ consumer, w.consumers[c]? = some consumer →
      consumer.source ∈ w.config.sendsLeft → w.config.backlogged consumer.source = true →
        Consumer.waits ⟨consumer.source, activity⟩ w.config = false) :
    Safe { w with consumers := setActivity w.consumers c activity } :=
  ⟨inv.wired, forall_mem_modify inv.known fun _ _ _ => known,
    forall_mem_modify inv.apart fun consumer found _ => apart consumer found⟩

theorem quiet_of_receives (source target : Source) (s : Config Message Output) (c : Consumer) :
    target ∉ s.targets (source.receives : Act Message Output) ∧
      c.wakes s (source.receives : Act Message Output) = false := by
  cases source <;> cases c with
  | mk source activity =>
    cases activity <;> simp [Source.receives, Config.targets, Consumer.wakes, Config.resumes]

theorem feedsFreely_act {a : Act Message Output} :
    w.feedsFreely (.act a) = true ↔ ∀ c ∈ w.consumers, w.config.backlogged c.source = true →
      (c.source ∈ w.config.targets a → c.waits w.config = false) ∧
        (c.source ∈ w.config.sendsLeft → c.wakes w.config a = false) := by
  simp only [feedsFreely, List.all_eq_true]
  apply forall₂_congr
  intro c member
  cases w.config.backlogged c.source <;> cases c.waits w.config <;>
    cases c.wakes w.config a <;> simp

theorem Safe.step (inv : w.Safe) (free : w.feedsFreely m = true) (taken : w.step m = some w') :
    w'.Safe := by
  cases m with
  | act a =>
    simp only [Fed.step] at taken
    split at taken
    · cases taken
    · rcases Option.map_eq_some_iff.mp taken with ⟨config, stepped, rfl⟩
      have calm := feedsFreely_act.mp free
      exact inv.act (fun c member full => (calm c member full).1)
        (fun c member full => (calm c member full).2) stepped
  | adopt source =>
    simp only [Fed.step] at taken
    split at taken
    · cases taken
      constructor
      · exact inv.wired
      · intro c member i calling
        rcases List.mem_append.mp member with member | member
        · exact inv.known c member i calling
        · obtain rfl := List.mem_singleton.mp member
          cases calling
      · intro c member
        rcases List.mem_append.mp member with member | member
        · exact inv.apart c member
        · obtain rfl := List.mem_singleton.mp member
          exact fun _ _ => rfl
    · cases taken
  | receive c =>
    simp only [Fed.step] at taken
    split at taken
    next source found =>
      rcases Option.map_eq_some_iff.mp taken with ⟨config, stepped, rfl⟩
      have moved := inv.act (fun c _ _ target => absurd target (quiet_of_receives _ _ _ c).1)
        (fun c _ _ _ => (quiet_of_receives _ c.source _ c).2) stepped
      exact moved.setActivity (by simp) fun _ _ _ _ => rfl
    · cases taken
  | call c op =>
    simp only [Fed.step] at taken
    split at taken
    next source found =>
      rcases Option.map_eq_some_iff.mp taken with ⟨config, stepped, rfl⟩
      have moved := inv.act (fun c _ _ target => absurd target List.not_mem_nil)
        (fun c _ _ _ => by unfold Consumer.wakes; split <;> rfl) stepped
      cases stepped
      refine moved.setActivity (fun i calling => ?_) fun consumer place left full => ?_
      · cases calling
        simp
      · obtain rfl := Option.some.inj (found.symm.trans place)
        simp only [feedsFreely, found, Option.all_some, Bool.not_eq_true', Bool.and_eq_false_iff,
          decide_eq_false_iff_not] at free
        rcases free with calm | apart
        · cases calm.symm.trans full
        · exact absurd left apart
    · cases taken
  | resume c =>
    simp only [Fed.step] at taken
    split at taken
    · split at taken
      · cases taken
        exact inv.setActivity (by simp) fun _ _ _ _ => rfl
      · cases taken
    · cases taken

/-- In a run that feeds its consumers freely the listener never waits, under the write guard, for a
    slot of a channel whose consumer waits for the lock. -/
theorem no_jam_of_feedsFreely (run : Run step new trace w)
    (free : Along (fun u m => u.feedsFreely m) trace) : ¬ w.Jam := by
  intro jam
  rcases jam with ⟨c, member, sends, full, waits⟩
  have safe := run.invariant_along (fun _ _ _ inv free taken => Safe.step inv free taken) free
    safe_new
  have apart := safe.apart c member (List.mem_of_head? sends) full
  cases apart.symm.trans waits

/-- The task of the call `i` outputs, and the listener sets out to broadcast it. -/
def beginsPass (i : Nat) : List (Act Nat Nat) :=
  Config.creates i 1 ++ [.output (i - 1) 7, .enqueue 0, .take, .handle, .clearIfDue]

def passes (i : Nat) : List (Act Nat Nat) := beginsPass i ++ [.broadcast, .prune]

/-- A consumer gets the redirection, and the listener fills it. -/
def fillsRedirection : Nat → List (Move Nat Nat)
  | 0 => [.act (.call .newResultRedirection), .act (.enter 0), .adopt (.redirection 0)]
  | n + 1 => fillsRedirection n ++ (passes (n + 1)).map .act

/-- The consumer has received one of 101 items and asks whether the forge is empty while no output
    is handled. With its call over, the listener begins to send the next one. -/
def sendsToFull : List (Move Nat Nat) :=
  fillsRedirection channelSize ++ [.receive 0] ++ (passes 101).map .act ++ [.call 0 .isEmpty] ++
    [.act (.enter 102), .resume 0] ++ (Config.creates 103 1).map .act ++
    [.act (.output 101 7), .act (.enqueue 0), .act .take, .act .handle, .act .clearIfDue]

/-- The listener waits for a slot, but its consumer goes on. -/
theorem no_jam_at_full_redirection :
    ∃ w, exec step new sendsToFull = some w ∧
      w.config.sendsLeft.head? = some (.redirection 0) ∧
      w.config.backlogged (.redirection 0) = true ∧ ¬ w.Jam := by
  have waits : ((exec (guarded step feedsFreely) new sendsToFull).any fun w =>
      w.config.sendsLeft.head? == some (.redirection 0) &&
        w.config.backlogged (.redirection 0)) = true := by decide +kernel
  rcases (Option.any_eq_true _ _).mp waits with ⟨w, done, waits⟩
  simp only [Bool.and_eq_true, beq_iff_eq] at waits
  rcases exec_guarded sendsToFull done with ⟨done, free⟩
  have calm := no_jam_of_feedsFreely (run_of_exec sendsToFull done) free
  exact ⟨w, done, waits.1, waits.2, calm⟩

/-- The consumer has received one of 101 items and asks whether the forge is empty while the
    listener sends the next one. -/
def jams : List (Move Nat Nat) :=
  fillsRedirection channelSize ++ [.receive 0] ++ (passes 101 ++ beginsPass 102).map .act ++
    [.call 0 .isEmpty]

theorem consumer_jams :
    ¬ ∀ (trace : List (Fed Nat Nat × Move Nat Nat)) (w : Fed Nat Nat),
      Run step new trace w → ¬ w.Jam := by
  intro all
  have jammed : ((exec step new jams).any fun w => decide w.Jam) = true := by decide +kernel
  rcases (Option.any_eq_true _ _).mp jammed with ⟨w, done, jam⟩
  exact all _ w (run_of_exec jams done) (of_decide_eq_true jam)

end Fed

end AsyncForge.TaskForge
