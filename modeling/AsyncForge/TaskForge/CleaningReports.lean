import AsyncForge.TaskForge.Broadcast
import AsyncForge.TaskForge.WaitingCalls

/-! What the report of a cleaning says of the tasks that were recorded before it. -/

namespace AsyncForge.TaskForge

open AsyncForge.Channels AsyncForge.Runs

variable {Message Output : Type}

namespace Config

variable {s s' : Config Message Output} {a : Act Message Output} {id : OpId}
  {request : CleaningSender} {trace : List (Config Message Output × Act Message Output)}

/-- `new_task` gets its guard for the id and enters it in the records, where it may stand. -/
def Records (id : OpId) (s : Config Message Output) : Act Message Output → Prop
  | .enter i => s.calls[i]? = some ⟨.newTask id, .locking⟩
  | _ => False

/-- The ids that were recorded since the last clearing. -/
def RecordedIds (trace : List (Config Message Output × Act Message Output))
    (ids : Finset OpId) : Prop :=
  ∀ id, id ∈ ids ↔ Since (fun t b => ¬ t.Clears b) (Records id) trace

theorem recorded_same (silent : ¬ s.Records id a) (keeps : ¬ s.Clears a)
    (states : s'.forge.taskStates = s.forge.taskStates) :
    id ∈ s'.forge.taskStates ↔ s.Records id a ∨ id ∈ s.forge.taskStates ∧ ¬ s.Clears a := by
  simp [silent, keeps, states]

theorem recorded_cleared (silent : ¬ s.Records id a) (clears : s.Clears a)
    (states : s'.forge.taskStates = ∅) :
    id ∈ s'.forge.taskStates ↔ s.Records id a ∨ id ∈ s.forge.taskStates ∧ ¬ s.Clears a := by
  simp [silent, clears, states, Finmap.notMem_empty]

theorem recorded_step (taken : s.step a = some s') :
    id ∈ s'.forge.taskStates ↔ s.Records id a ∨ id ∈ s.forge.taskStates ∧ ¬ s.Clears a := by
  cases step_moves taken with
  | newTaskExists free unread called running =>
    have present := Finmap.mem_of_lookup_eq_some running
    simp only [Records, called, Clears]
    constructor
    · intro member
      exact .inr ⟨member, by simp⟩
    · intro either
      rcases either with same | ⟨member, -⟩
      · obtain ⟨rfl⟩ : _ = id := by simpa using same
        exact present
      · exact member
  | @newTaskStart i id' free unread called stopped =>
    have same : id = id' ↔ id' = id := eq_comm
    simp [Records, called, Clears, same]
  | handleRunning pulled free unread running =>
    have present := Finmap.mem_of_lookup_eq_some running
    simp only [Records, Clears, WrappedTaskForge.closeTask, Finmap.mem_insert, false_or,
      not_false_eq_true, and_true, or_iff_right_iff_imp]
    intro same
    exact same ▸ present
  | cleanCleared free unread called empty =>
    exact recorded_cleared (by simp [Records, called]) ⟨⟨_, called⟩, empty⟩ rfl
  | cleanRequests free unread called inhabited =>
    exact recorded_same (by simp [Records, called]) (by simp [Clears, inhabited]) rfl
  | waitRegisters free unread called waits state =>
    refine recorded_same ?_ ?_ (WrappedTaskForge.taskStates_newTaskNotifReceiver _)
    · rcases waits with rfl | ⟨msg, rfl⟩ <;> simp [Records, called]
    · rcases waits with rfl | ⟨msg, rfl⟩ <;> simp [Clears, called]
  | @waitRunning i id' op free unread called waits state =>
    rcases waits with rfl | ⟨msg, rfl⟩ <;>
      exact recorded_same (by simp [Records, called]) (by simp [Clears, called]) rfl
  | waitClosed free unread called waits state =>
    rcases waits with rfl | ⟨msg, rfl⟩ <;>
      exact recorded_same (by simp [Records, called]) (by simp [Clears, called]) rfl
  | redirect free unread called =>
    exact recorded_same (by simp [Records, called]) (by simp [Clears, called]) rfl
  | asksEmpty free called =>
    exact recorded_same (by simp [Records, called]) (by simp [Clears, called]) rfl
  | sendStart free called sends found =>
    rcases sends with rfl | ⟨k, rfl⟩ <;>
      exact recorded_same (by simp [Records, called]) (by simp [Clears, called]) rfl
  | sendMissing free called sends missing =>
    rcases sends with rfl | ⟨k, rfl⟩ <;>
      exact recorded_same (by simp [Records, called]) (by simp [Clears, called]) rfl
  | notDue inside due => exact recorded_same (by simp [Records]) (by simp [Clears, due]) rfl
  | clearLost inside due pending present closed =>
    exact recorded_cleared (by simp [Records]) due rfl
  | clearNotified inside due pending present opened room =>
    exact recorded_cleared (by simp [Records]) due rfl
  | @wakeCreated i id' op waiter task chan rest called present buffered =>
    cases op <;> exact recorded_same (by simp [Records]) (by simp [Clears]) rfl
  | _ => exact recorded_same (by simp [Records]) (by simp [Clears]) rfl

theorem recorded_run (run : Run step Config.new trace s) :
    RecordedIds trace s.forge.taskStates.keys := by
  intro id
  rw [Finmap.mem_keys]
  have change : ∀ (t : Config Message Output) b t', t.step b = some t' →
      (id ∈ t'.forge.taskStates ↔ t.Records id b ∨ id ∈ t.forge.taskStates ∧ ¬ t.Clears b) :=
    fun _ _ _ taken => recorded_step taken
  apply run.since_iff_of_steps change
  simp [Config.new, WrappedTaskForge.new, Finmap.notMem_empty]

theorem RecordedIds.eq {ids ids' : Finset OpId} (first : RecordedIds trace ids)
    (second : RecordedIds trace ids') : ids = ids' := by
  ext id
  rw [first id, second id]

/-- The cleaning receiver that gets its message at the step. -/
def notified (s : Config Message Output) : Act Message Output → List CleaningSender
  | .clearIfDue =>
    if s.forge.shouldClear && !s.losesCleaner .clearIfDue then
      (s.forge.cleaningNotifier.map Prod.fst).toList
    else []
  | _ => []

def notifications (trace : List (Config Message Output × Act Message Output)) :
    List CleaningSender := trace.flatMap fun e => e.1.notified e.2

/-- The step reports the cleaning `request` inside the iteration for the output `ended`. -/
structure ReportsCleaning (s : Config Message Output) (request : CleaningSender)
    (awaited : Option Nat) (ended : TaskOutput Output) (s' : Config Message Output) : Prop where
  inside : s.writer = some (.closing ended)
  due : s.forge.shouldClear = true
  pending : s.forge.cleaningNotifier = some (request, awaited)
  cleared : s'.forge = s.forge.clearEnded
  broadcasts : s'.writer = some (.broadcasting ended true 0 [])
  announces : s.announced .clearIfDue = [⟨ended.output, ended.id, true⟩]
  alone : s.notified .clearIfDue = [request]

theorem reports_of_notified (taken : s.step a = some s') (member : request ∈ s.notified a) :
    a = .clearIfDue ∧ ∃ awaited ended, s.ReportsCleaning request awaited ended s' := by
  cases step_moves taken with
  | notDue inside due => simp [notified, due] at member
  | clearLost inside due pending present closed =>
    simp [notified, losesCleaner, due, pending, present, closed] at member
  | @clearNotified ended notifier awaited chan inside due pending present opened room =>
    have alone : s.notified .clearIfDue = [notifier] := by
      simp [notified, losesCleaner, due, pending, present, opened]
    obtain rfl := List.mem_singleton.mp (alone ▸ member)
    refine ⟨rfl, awaited, ended, inside, due, pending, rfl, rfl, ?_, alone⟩
    simp [announced, inside, losesCleaner, due, pending, present, opened]
  | _ => cases member

/-- A step announces a clearing in exactly the cases in which it reports one. -/
theorem announced_cleared (taken : s.step a = some s') :
    ((s.announced a).filter ForgeTaskEnded.hasCleared).length = (s.notified a).length := by
  cases step_moves taken with
  | notDue inside due => simp [announced, notified, inside, losesCleaner, due]
  | clearLost inside due pending present closed =>
    simp [announced, notified, inside, losesCleaner, due, pending, present, closed]
  | clearNotified inside due pending present opened room =>
    simp [announced, notified, inside, losesCleaner, due, pending, present, opened]
  | _ => rfl

def heardCount (s : Config Message Output) (request : CleaningSender) : Nat :=
  ((s.cleanings[request]?).map fun chan => chan.sent.length).getD 0

theorem heardCount_same (silent : s.notified a = []) (cleanings : s'.cleanings = s.cleanings) :
    s'.heardCount request = s.heardCount request + (s.notified a).count request := by
  simp [heardCount, silent, cleanings]

theorem heardCount_concat (silent : s.notified a = []) {chan : Chan Unit}
    (cleanings : s'.cleanings = s.cleanings ++ [chan]) (unsent : chan.sent = []) :
    s'.heardCount request = s.heardCount request + (s.notified a).count request := by
  simp only [heardCount, cleanings, getElem?_concat, silent, List.count_nil, Nat.add_zero]
  split
  next same =>
    have fresh : s.cleanings[request]? = none := List.getElem?_eq_none (Nat.le_of_eq same.symm)
    simp [fresh, unsent]
  · rfl

theorem heardCount_modify (silent : s.notified a = []) {receiver : Nat}
    {f : Chan Unit → Chan Unit} (cleanings : s'.cleanings = s.cleanings.modify receiver f)
    (sent : ∀ chan, (f chan).sent = chan.sent) :
    s'.heardCount request = s.heardCount request + (s.notified a).count request := by
  simp only [heardCount, cleanings, List.getElem?_modify, silent, List.count_nil, Nat.add_zero]
  rcases s.cleanings[request]? with _ | chan
  · rfl
  · by_cases same : receiver = request <;> simp [same, sent]

theorem heardCount_step (taken : s.step a = some s') :
    s'.heardCount request = s.heardCount request + (s.notified a).count request := by
  cases step_moves taken with
  | waitRunning | wakeCreated =>
    rw [created_eq]
    exact heardCount_same rfl rfl
  | cleanCleared free unread called empty => exact heardCount_concat rfl rfl rfl
  | cleanRequests free unread called inhabited => exact heardCount_concat rfl rfl rfl
  | notDue inside due => exact heardCount_same (by simp [notified, due]) rfl
  | clearLost inside due pending present closed =>
    exact heardCount_same (by simp [notified, losesCleaner, due, pending, present, closed]) rfl
  | @clearNotified ended notifier awaited chan inside due pending present opened room =>
    have alone : s.notified .clearIfDue = [notifier] := by
      simp [notified, losesCleaner, due, pending, present, opened]
    simp only [heardCount, List.getElem?_modify, alone, List.count_singleton]
    by_cases same : notifier = request
    · subst same
      simp [present]
    · simp [same]
  | receiveCleaning receiver => exact heardCount_modify rfl rfl Chan.sent_pop
  | closeCleaning receiver => exact heardCount_modify rfl rfl Chan.sent_close
  | _ => exact heardCount_same rfl rfl

theorem heardCount_run (run : Run step Config.new trace s) :
    s.heardCount request = (notifications trace).count request := by
  induction run with
  | nil => simp [heardCount, Config.new, notifications]
  | snoc before last ih =>
    rw [heardCount_step last, ih]
    simp [notifications, List.flatMap_append]

/-- A pending request is unsent, and none is sent twice. -/
structure HeardOnce (s : Config Message Output) : Prop where
  unsent : ∀ request, s.Pending request → s.heardCount request = 0
  once : ∀ request, s.heardCount request ≤ 1

theorem heardOnce_new : (Config.new : Config Message Output).HeardOnce := by
  constructor <;> simp [heardCount, Config.new]

theorem pending_step (taken : s.step a = some s') (pending : s'.Pending request) :
    (s.Pending request ∧ request ∉ s.notified a) ∨
      (request = s.cleanings.length ∧ s.notified a = []) := by
  cases step_moves taken with
  | waitRegisters free unread called waits state =>
    rw [Pending, WrappedTaskForge.newTaskNotifReceiver_eq] at pending
    exact .inl ⟨pending, List.not_mem_nil⟩
  | waitRunning | wakeCreated =>
    rw [created_eq] at pending
    exact .inl ⟨pending, List.not_mem_nil⟩
  | cleanRequests free unread called inhabited =>
    rcases pending with ⟨awaited, same⟩
    cases same
    exact .inr ⟨rfl, rfl⟩
  | notDue inside due => exact .inl ⟨pending, by simp [notified, due]⟩
  | clearLost | clearNotified => exact absurd pending (not_pending_of_none rfl request)
  | _ => exact .inl ⟨pending, List.not_mem_nil⟩

theorem HeardOnce.step (inv : s.HeardOnce) (taken : s.step a = some s') : s'.HeardOnce := by
  constructor
  · intro request pending
    rw [heardCount_step taken]
    rcases pending_step taken pending with ⟨held, idle⟩ | ⟨rfl, silent⟩
    · rw [inv.unsent request held, List.count_eq_zero_of_not_mem idle]
    · simp [heardCount, silent]
  · intro request
    rw [heardCount_step taken]
    by_cases member : request ∈ s.notified a
    · rcases reports_of_notified taken member with ⟨rfl, awaited, ended, reports⟩
      rw [inv.unsent request ⟨awaited, reports.pending⟩, reports.alone]
      simp
    · rw [List.count_eq_zero_of_not_mem member]
      exact inv.once request

theorem heardOnce_run (run : Run step Config.new trace s) : s.HeardOnce :=
  run.invariant (fun _ _ _ inv taken => HeardOnce.step inv taken) heardOnce_new

/-- A pending request was made by one `clean` call, which has returned its receiver. -/
structure Requested (s : Config Message Output) : Prop where
  made : ∀ request awaited, s.forge.cleaningNotifier = some (request, awaited) →
    ∃ i : Nat, s.calls[i]? = some ⟨.clean awaited, .done (.cleaning (some request))⟩
  own : ∀ (i : Nat) request awaited,
    s.calls[i]? = some ⟨.clean awaited, .done (.cleaning (some request))⟩ →
      request < s.cleanings.length ∧
        ∀ awaited', s.forge.cleaningNotifier = some (request, awaited') → awaited' = awaited

theorem Requested.of_same (inv : s.Requested) (waiters : s.Waiters) (taken : s.step a = some s')
    (notifier : s'.forge.cleaningNotifier = s.forge.cleaningNotifier)
    (cleanings : s.cleanings.length ≤ s'.cleanings.length)
    (calls : ∀ (i : Nat) request awaited,
      s'.calls[i]? = some ⟨.clean awaited, .done (.cleaning (some request))⟩ →
        s.calls[i]? = some ⟨.clean awaited, .done (.cleaning (some request))⟩) :
    s'.Requested := by
  constructor
  · intro request awaited pending
    rw [notifier] at pending
    rcases inv.made request awaited pending with ⟨i, done⟩
    exact ⟨i, waiters.done_stays taken done⟩
  · intro i request awaited done
    rcases inv.own i request awaited (calls i request awaited done) with ⟨bound, own⟩
    exact ⟨Nat.lt_of_lt_of_le bound cleanings, by rw [notifier]; exact own⟩

theorem Requested.settled (inv : s.Requested) (notifier : s'.forge.cleaningNotifier = none)
    (cleanings : s.cleanings.length ≤ s'.cleanings.length) (calls : s'.calls = s.calls) :
    s'.Requested := by
  constructor
  · intro request awaited pending
    cases notifier.symm.trans pending
  · intro i request awaited done
    rw [calls] at done
    refine ⟨Nat.lt_of_lt_of_le (inv.own i request awaited done).1 cleanings, ?_⟩
    intro awaited' pending
    cases notifier.symm.trans pending

/-- Only `clean` itself makes a call answer with a cleaning receiver. -/
theorem answer_before {i j request : Nat} {awaited : Option Nat} {phase : Phase Message}
    {calls : List (Call Message)} (other : phase ≠ .done (.cleaning (some request)))
    (done : (setPhase calls j phase)[i]? =
      some ⟨.clean awaited, .done (.cleaning (some request))⟩) :
    calls[i]? = some ⟨.clean awaited, .done (.cleaning (some request))⟩ := by
  rcases setPhase_getElem? done with ⟨-, before, -, same⟩ | ⟨-, before⟩
  · exact absurd (congrArg Call.phase same).symm other
  · exact before

theorem Requested.step (inv : s.Requested) (waiters : s.Waiters) (taken : s.step a = some s') :
    s'.Requested := by
  cases step_moves taken with
  | call op =>
    refine inv.of_same waiters taken rfl (Nat.le_refl _) fun i request awaited done => ?_
    rw [getElem?_concat] at done
    split at done
    · cases done
    · exact done
  | waitRegisters free unread called waits state =>
    exact inv.of_same waiters taken (by rw [WrappedTaskForge.newTaskNotifReceiver_eq])
      (Nat.le_refl _) fun _ _ _ => answer_before (by simp)
  | @waitRunning i id op free unread called waits state =>
    rcases waits with rfl | ⟨msg, rfl⟩ <;>
      exact inv.of_same waiters taken rfl (Nat.le_refl _) fun _ _ _ => answer_before (by simp)
  | @wakeCreated i id op waiter task chan rest called present buffered =>
    cases op <;>
      exact inv.of_same waiters taken rfl (Nat.le_refl _) fun _ _ _ => answer_before (by simp)
  | cleanCleared free unread called empty =>
    exact inv.of_same waiters taken rfl (by simp) fun _ _ _ => answer_before (by simp)
  | cleanRequests free unread called inhabited =>
    constructor
    · intro request awaited pending
      cases pending
      exact ⟨_, getElem?_setPhase called _⟩
    · intro i request awaited done
      rcases setPhase_getElem? done with ⟨rfl, before, found, same⟩ | ⟨other, before⟩
      · obtain rfl := Option.some.inj (called.symm.trans found)
        cases same
        exact ⟨by simp, fun awaited' pending => by cases pending; rfl⟩
      · have bound := (inv.own i request awaited before).1
        refine ⟨Nat.lt_of_lt_of_le bound (by simp), fun awaited' pending => ?_⟩
        cases pending
        exact absurd bound (Nat.lt_irrefl _)
  | clearLost inside due pending present closed => exact inv.settled rfl (Nat.le_refl _) rfl
  | clearNotified inside due pending present opened room => exact inv.settled rfl (by simp) rfl
  | newTaskExists | newTaskStart | waitClosed | redirect | asksEmpty | sendStart | sendMissing
  | begin | wakeDropped | deliverClosed | deliverOpen | cancelWaiting | cancel =>
    exact inv.of_same waiters taken rfl (Nat.le_refl _) fun _ _ _ => answer_before (by simp)
  | receiveCleaning receiver =>
    exact inv.of_same waiters taken rfl (by simp) fun _ _ _ done => done
  | closeCleaning receiver =>
    exact inv.of_same waiters taken rfl (by simp [closeAt]) fun _ _ _ done => done
  | _ => exact inv.of_same waiters taken rfl (Nat.le_refl _) fun _ _ _ done => done

theorem requested_run (run : Run step Config.new trace s) : s.Requested := by
  have keep : ∀ (t : Config Message Output) b t', (t.Waiters ∧ t.Requested) →
      t.step b = some t' → t'.Waiters ∧ t'.Requested :=
    fun _ _ _ inv taken => ⟨inv.1.step taken, inv.2.step inv.1 taken⟩
  refine (run.invariant keep ⟨waiters_new, ?_⟩).2
  constructor <;> simp [Config.new, WrappedTaskForge.new]

/-- The step gets an output of a running task handled. -/
def HandlesRunning (ended : TaskOutput Output) (s : Config Message Output)
    (a : Act Message Output) : Prop :=
  a = .handle ∧ s.pulled = some ended ∧ s.forge.Running ended.id

theorem closing_step (taken : s.step a = some s') (ended : TaskOutput Output) :
    s'.writer = some (.closing ended) ↔
      HandlesRunning ended s a ∨ s.writer = some (.closing ended) ∧ a ≠ .clearIfDue := by
  cases step_moves taken with
  | waitRunning | wakeCreated =>
    rw [created_eq]
    simp [HandlesRunning]
  | @handleRunning ended' pulled free unread running =>
    simp only [HandlesRunning, pulled, free]
    constructor
    · intro same
      cases same
      exact .inl ⟨True.intro, rfl, running⟩
    · intro either
      rcases either with ⟨-, same, -⟩ | ⟨absurd, -⟩
      · cases same
        rfl
      · cases absurd
  | handleClosed pulled free unread closed =>
    constructor
    · intro same
      cases same
    · intro either
      rcases either with ⟨-, same, running⟩ | ⟨held, -⟩
      · obtain rfl := Option.some.inj (pulled.symm.trans same)
        exact absurd running closed
      · cases free.symm.trans held
  | redirect free unread called => simp [HandlesRunning, newResultRedirection, free]
  | _ => simp_all [HandlesRunning]

theorem closing_run (run : Run step Config.new trace s) (ended : TaskOutput Output) :
    s.writer = some (.closing ended) ↔
      Since (fun _ b => b ≠ .clearIfDue) (HandlesRunning ended) trace := by
  have change : ∀ (t : Config Message Output) b t', t.step b = some t' →
      (t'.writer = some (.closing ended) ↔
        HandlesRunning ended t b ∨ t.writer = some (.closing ended) ∧ b ≠ .clearIfDue) :=
    fun _ _ _ taken => closing_step taken ended
  apply run.since_iff_of_steps change
  simp [Config.new]

/-- The broadcast loop is sending the value. -/
def Broadcasts (m : ForgeTaskEnded Output) (s : Config Message Output) : Prop :=
  ∃ ended hasCleared i sendersToRemove,
    s.writer = some (.broadcasting ended hasCleared i sendersToRemove) ∧
      m = ⟨ended.output, ended.id, hasCleared⟩

theorem broadcasts_step (taken : s.step a = some s') (m : ForgeTaskEnded Output) :
    s'.Broadcasts m ↔ s.announced a = [m] ∨ s.Broadcasts m ∧ a ≠ .prune := by
  cases step_moves taken with
  | waitRunning | wakeCreated =>
    rw [created_eq]
    simp [Broadcasts, announced]
  | notDue inside due =>
    simp [Broadcasts, announced, inside, losesCleaner, due, eq_comm]
  | clearLost inside due pending present closed =>
    simp [Broadcasts, announced, inside, losesCleaner, due, pending, present, closed]
  | clearNotified inside due pending present opened room =>
    simp [Broadcasts, announced, inside, losesCleaner, due, pending, present, opened, eq_comm]
  | redirect free unread called => simp [Broadcasts, announced, newResultRedirection, free]
  | _ => simp_all [Broadcasts, announced]

theorem broadcasts_run (run : Run step Config.new trace s) (m : ForgeTaskEnded Output) :
    s.Broadcasts m ↔ Since (fun _ b => b ≠ .prune) (fun t b => t.announced b = [m]) trace := by
  have change : ∀ (t : Config Message Output) b t', t.step b = some t' →
      (t'.Broadcasts m ↔ t.announced b = [m] ∨ t.Broadcasts m ∧ b ≠ .prune) :=
    fun _ _ _ taken => broadcasts_step taken m
  apply run.since_iff_of_steps change
  simp [Broadcasts, Config.new]

theorem closed_of_recorded (stopped : ∀ id, ¬ s.forge.Running id)
    (recorded : id ∈ s.forge.taskStates.keys) :
    s.forge.taskStates.lookup id = some .closed := by
  rcases Finmap.mem_iff.mp (Finmap.mem_keys.mp recorded) with ⟨state, found⟩
  cases state with
  | running => exact absurd found (stopped id)
  | closed => exact found

theorem clearEnded_fresh {f : WrappedTaskForge} (empty : f.isEmpty = true) :
    f.clearEnded = { WrappedTaskForge.new with outputResultSenders := f.outputResultSenders } := by
  have unheld : f.forge = ∅ := by
    apply Finmap.ext_lookup
    intro id
    have absent : (∅ : Finmap fun _ : OpId => InboxSender).lookup id = none :=
      Finmap.lookup_empty id
    rw [(WrappedTaskForge.isEmpty_iff f).mp empty id, absent]
  simp only [WrappedTaskForge.clearEnded, WrappedTaskForge.new, unheld]

/-- What holds when the listener reports the cleaning: it has closed the task whose output it
    handles, every recorded task is closed, and a count that was asked for is met exactly. -/
theorem ReportsCleaning.sound {awaited : Option Nat} {ended : TaskOutput Output}
    (reports : s.ReportsCleaning request awaited ended s') (run : Run step Config.new trace s) :
    Since (fun _ b => b ≠ .clearIfDue) (HandlesRunning ended) trace ∧
      ∃ ids, RecordedIds trace ids ∧ (∀ id ∈ ids, s.forge.taskStates.lookup id = some .closed) ∧
        ∀ n, awaited = some n → ids.card = n := by
  have empty := WrappedTaskForge.empty_of_due reports.due
  have idle : s.creatingId = none := by simp only [creatingId, reports.inside]
  have book : s.forge.Matches none := idle ▸ bookkeeping_reachable run.reachable
  refine ⟨(closing_run run ended).mp reports.inside, s.forge.taskStates.keys, recorded_run run,
    ?_, ?_⟩
  · intro id recorded
    exact closed_of_recorded (fun _ => book.not_running empty) recorded
  · intro n counted
    rcases (WrappedTaskForge.shouldClear_iff s.forge).mp reports.due with
      ⟨_, _, pending, -, satisfied⟩
    rw [reports.pending] at pending
    cases pending
    exact satisfied n counted

/-- A cleaning receiver gets its one message only inside an iteration that handled the output of a
    running task, when every task recorded since the last clearing is closed and their number is
    the awaited one, if any. The same iterations, and no others, broadcast `has_cleared`, and they
    leave the forge as a fresh one up to its redirections. -/
theorem cleaning_reported_soundly (run : Run step Config.new trace s) :
    (∀ (request : Nat) chan, s.cleanings[request]? = some chan →
      chan.sent.length = (notifications trace).count request ∧ chan.sent.length ≤ 1) ∧
    (∀ past t b later request, trace = past ++ (t, b) :: later → request ∈ t.notified b →
      b = .clearIfDue ∧
        (∃ ended, Since (fun _ c => c ≠ .clearIfDue) (HandlesRunning ended) past ∧
          t.announced b = [⟨ended.output, ended.id, true⟩]) ∧
        (∃ (i : Nat) (awaited : Option Nat),
          t.calls[i]? = some ⟨.clean awaited, .done (.cleaning (some request))⟩) ∧
        (∃ ids, RecordedIds past ids ∧
          (∀ id ∈ ids, t.forge.taskStates.lookup id = some .closed) ∧
          ∀ (i : Nat) n,
            t.calls[i]? = some ⟨.clean (some n), .done (.cleaning (some request))⟩ →
              ids.card = n) ∧
        ∀ t', t.step b = some t' → (∀ id, ¬ t'.forge.Running id) ∧
          t'.forge = { WrappedTaskForge.new with
            outputResultSenders := t.forge.outputResultSenders }) ∧
    (∀ e ∈ trace, ((e.1.announced e.2).filter ForgeTaskEnded.hasCleared).length =
      (e.1.notified e.2).length) ∧
    ∀ past t later ended hasCleared i sendersToRemove,
      trace = past ++ (t, .broadcast) :: later →
      t.writer = some (.broadcasting ended hasCleared i sendersToRemove) →
        Since (fun _ c => c ≠ .prune)
          (fun u c => u.announced c = [⟨ended.output, ended.id, hasCleared⟩]) past := by
  refine ⟨?_, ?_, ?_, ?_⟩
  · intro request chan found
    have count : s.heardCount request = chan.sent.length := by simp [heardCount, found]
    rw [← count]
    exact ⟨heardCount_run run, (heardOnce_run run).once request⟩
  · intro past t b later request cut member
    rw [cut] at run
    rcases run.split with ⟨t', before, taken, -⟩
    rcases reports_of_notified taken member with ⟨rfl, awaited, ended, reports⟩
    rcases reports.sound before with ⟨handled, ids, recorded, closed, counted⟩
    have requests := requested_run before
    rcases requests.made request awaited reports.pending with ⟨i, done⟩
    refine ⟨rfl, ⟨ended, handled, reports.announces⟩, ⟨i, awaited, done⟩,
      ⟨ids, recorded, closed, ?_⟩, ?_⟩
    · intro j n asked
      exact counted n ((requests.own j request (some n) asked).2 awaited reports.pending)
    intro u same
    obtain rfl := Option.some.inj (taken.symm.trans same)
    have fresh := clearEnded_fresh (WrappedTaskForge.empty_of_due reports.due)
    rw [reports.cleared]
    exact ⟨by simp [WrappedTaskForge.Running, WrappedTaskForge.clearEnded], fresh⟩
  · intro e member
    rcases e with ⟨t, b⟩
    rcases List.append_of_mem member with ⟨past, later, rfl⟩
    rcases run.split with ⟨t', -, taken, -⟩
    exact announced_cleared taken
  · intro past t later ended hasCleared i sendersToRemove cut inside
    rw [cut] at run
    rcases run.split with ⟨t', before, -, -⟩
    exact (broadcasts_run before _).mp ⟨ended, hasCleared, i, sendersToRemove, inside, rfl⟩

/-- Both awaited tasks end after the request. -/
def cleansTwo : List (Act Nat Nat) :=
  creates 0 1 ++ creates 1 2 ++ asksClean 2 (some 2) ++ echoes 3 1 0 10 ++ ends ++
    echoes 4 2 1 20 ++ ends

theorem cleaning_of_two_reported :
    ∃ s chan, exec step Config.new cleansTwo = some s ∧ s.cleanings[0]? = some chan ∧
      chan.buffer = [()] ∧
      chan.sent.length = (notifications (traceOf step Config.new cleansTwo)).count 0 :=
  ⟨_, _, rfl, rfl, rfl, ((cleaning_reported_soundly (run_of_exec cleansTwo rfl)).1 0 _ rfl).1⟩

end Config

end AsyncForge.TaskForge
