import AsyncForge.TaskForge.CleaningReports

/-! When a cleaning is reported: not too late at an ending, and not too early by `clean`. -/

namespace AsyncForge.TaskForge

open AsyncForge.Channels AsyncForge.Runs

variable {Message Output : Type}

namespace Config

variable {s s' : Config Message Output} {a : Act Message Output}
  {trace : List (Config Message Output × Act Message Output)}

/-- A request that is still pending waits for a running task, or for one that is not recorded. -/
def Timely (trace : List (Config Message Output × Act Message Output))
    (s : Config Message Output) : Prop :=
  ∀ request awaited, s.forge.cleaningNotifier = some (request, awaited) →
    (∃ id, s.forge.Running id) ∨ ∃ n ids, awaited = some n ∧ RecordedIds trace ids ∧ ids.card < n

/-- While a request that awaits a number of tasks is pending, the output of the last running task
    is handled only if no more tasks than that are recorded. -/
def endsInTime (s : Config Message Output) : Act Message Output → Bool
  | .handle =>
    match s.pulled, s.forge.cleaningNotifier with
    | some ended, some (_, some awaited) =>
      !(decide (s.forge.Running ended.id) && (s.forge.closeTask ended.id).isEmpty) ||
        decide (s.forge.taskStates.keys.card ≤ awaited)
    | _, _ => true
  | _ => true

/-- The request is met by a running task or by the tasks that are still to be recorded. -/
def Waits (f : WrappedTaskForge) (awaited : Option Nat) : Prop :=
  f.isEmpty = false ∨ ∃ n, awaited = some n ∧ f.taskStates.keys.card < n

/-- `Timely` between two critical sections, and what stands for it inside one. -/
def InTime (s : Config Message Output) : Prop :=
  ∀ request awaited, s.forge.cleaningNotifier = some (request, awaited) →
    match s.writer with
    | some (.creating ..) => True
    | some (.closing _) =>
      s.forge.isEmpty = true → ∀ n, awaited = some n → s.forge.taskStates.keys.card ≤ n
    | _ => Waits s.forge awaited

theorem isEmpty_eq_false_iff {f : WrappedTaskForge} :
    f.isEmpty = false ↔ ∃ id, id ∈ f.forge := by
  rw [← Bool.not_eq_true, WrappedTaskForge.isEmpty_iff]
  simp [Finmap.lookup_eq_none]

theorem InTime.of_same (inv : s.InTime) (writer : s'.writer = s.writer)
    (notifier : s'.forge.cleaningNotifier = s.forge.cleaningNotifier)
    (forge : s'.forge.forge = s.forge.forge)
    (states : s'.forge.taskStates = s.forge.taskStates) : s'.InTime := by
  intro request awaited pending
  have before := inv request awaited (notifier ▸ pending)
  simpa only [writer, Waits, WrappedTaskForge.isEmpty, forge, states] using before

theorem inTime_settled (notifier : s.forge.cleaningNotifier = none) : s.InTime := by
  intro request awaited pending
  cases notifier.symm.trans pending

theorem inTime_creating {i : Nat} {id : OpId} {senders : List CreationSender}
    {r : ForgeResult Unit} (inside : s.writer = some (.creating i id senders r)) : s.InTime := by
  intro request awaited pending
  simp only [inside]

theorem InTime.free (inv : s.InTime) (free : s.writer = none) {request : CleaningSender}
    {awaited : Option Nat} (pending : s.forge.cleaningNotifier = some (request, awaited)) :
    Waits s.forge awaited := by
  simpa only [free] using inv request awaited pending

theorem InTime.of_free (inv : s.InTime) (free : s.writer = none)
    (notifier : s'.forge.cleaningNotifier = s.forge.cleaningNotifier)
    (forge : s'.forge.forge = s.forge.forge)
    (states : s'.forge.taskStates = s.forge.taskStates)
    (writer : s'.writer = none ∨ ∃ e, s'.writer = some (.reporting e)) : s'.InTime := by
  intro request awaited pending
  have before := inv.free free (notifier ▸ pending)
  rcases writer with none | ⟨e, reports⟩
  · simpa only [none, Waits, WrappedTaskForge.isEmpty, forge, states] using before
  · simpa only [reports, Waits, WrappedTaskForge.isEmpty, forge, states] using before

theorem waits_of_sending (inv : s.InTime) {w : Section Output} (inside : s.writer = some w)
    (sends : (∃ ended hasCleared i rm, w = .broadcasting ended hasCleared i rm) ∨
      ∃ e, w = .reporting e) {request : CleaningSender} {awaited : Option Nat}
    (pending : s.forge.cleaningNotifier = some (request, awaited)) : Waits s.forge awaited := by
  rcases sends with ⟨ended, hasCleared, i, rm, rfl⟩ | ⟨e, rfl⟩ <;>
    simpa only [inside] using inv request awaited pending

theorem keys_card_closeTask {f : WrappedTaskForge} {id : OpId} (running : f.Running id) :
    (f.closeTask id).taskStates.keys.card = f.taskStates.keys.card := by
  have same : (f.closeTask id).taskStates.keys = f.taskStates.keys := by
    ext other
    have present := Finmap.mem_of_lookup_eq_some running
    simp only [WrappedTaskForge.closeTask, Finmap.mem_keys, Finmap.mem_insert,
      or_iff_right_iff_imp]
    intro same
    exact same ▸ present
  rw [same]

theorem unmet_of_not_due {f : WrappedTaskForge} {request : CleaningSender} {awaited : Option Nat}
    (due : f.shouldClear = false) (pending : f.cleaningNotifier = some (request, awaited))
    (empty : f.isEmpty = true) : ∃ n, awaited = some n ∧ f.taskStates.keys.card ≠ n := by
  cases awaited with
  | none => simp [WrappedTaskForge.shouldClear, pending, empty] at due
  | some n => exact ⟨n, rfl, by simpa [WrappedTaskForge.shouldClear, pending, empty] using due⟩

theorem InTime.handled {ended : TaskOutput Output}
    (pulled : s.pulled = some ended) (running : s.forge.Running ended.id)
    (timely : s.endsInTime .handle = true) :
    InTime { s with
      pulled := none
      forge := s.forge.closeTask ended.id
      writer := some (.closing ended) } := by
  intro request awaited pending empty n counted
  subst counted
  have held : s.forge.cleaningNotifier = some (request, some n) := pending
  rw [keys_card_closeTask running]
  simpa [endsInTime, pulled, held, running, empty] using timely

theorem InTime.step (inv : s.InTime) (timely : s.endsInTime a = true)
    (taken : s.step a = some s') : s'.InTime := by
  cases step_moves taken with
  | newTaskStart => exact inTime_creating rfl
  | waitRegisters free unread called waits state =>
    exact inv.of_same rfl (by rw [WrappedTaskForge.newTaskNotifReceiver_eq])
      (WrappedTaskForge.forge_newTaskNotifReceiver _)
      (WrappedTaskForge.taskStates_newTaskNotifReceiver _)
  | waitRunning | wakeCreated =>
    rw [created_eq]
    exact inv.of_same rfl rfl rfl rfl
  | cleanCleared free unread called empty =>
    intro request awaited pending
    simp only [free]
    rcases inv.free free pending with inhabited | ⟨n, rfl, below⟩
    · cases empty.symm.trans inhabited
    · exact .inr ⟨n, rfl, Nat.lt_of_le_of_lt (by simp [WrappedTaskForge.cleanEmpty]) below⟩
  | cleanRequests free unread called inhabited =>
    intro request awaited pending
    simp only [free]
    exact .inl inhabited
  | notifyClosed | notifyOpen => exact inTime_creating rfl
  | @begin i id result capacity inside =>
    intro request awaited pending
    exact .inl (isEmpty_eq_false_iff.mpr ⟨id, Finmap.mem_insert.mpr (.inl rfl)⟩)
  | handleClosed pulled free unread closed =>
    exact inv.of_free free rfl rfl rfl (.inr ⟨_, rfl⟩)
  | handleRunning pulled free unread running => exact InTime.handled pulled running timely
  | notDue inside due =>
    intro request awaited pending
    have before := inv request awaited pending
    simp only [inside] at before
    by_cases empty : s.forge.isEmpty = true
    · rcases unmet_of_not_due due pending empty with ⟨n, rfl, unmet⟩
      exact .inr ⟨n, rfl, Nat.lt_of_le_of_ne (before empty n rfl) unmet⟩
    · exact .inl (by simpa using empty)
  | clearLost | clearNotified => exact inTime_settled rfl
  | broadcastClosed inside | broadcastOpen inside | prune inside =>
    intro request awaited pending
    exact waits_of_sending inv inside (.inl ⟨_, _, _, _, rfl⟩) pending
  | reportLogged inside | reportSent inside =>
    intro request awaited pending
    exact waits_of_sending inv inside (.inr ⟨_, rfl⟩) pending
  | _ => exact inv.of_same rfl rfl rfl rfl

theorem inTime_run (run : Run step Config.new trace s)
    (timely : Along (fun t b => t.endsInTime b) trace) : s.InTime :=
  run.invariant_along (fun _ _ _ inv timely taken => inv.step timely taken) timely
    (inTime_settled rfl)

theorem timely_of_inTime (run : Run step Config.new trace s) (inv : s.InTime)
    (free : s.writer = none) : Timely trace s := by
  intro request awaited pending
  have book := (bookkeeping_reachable run.reachable).free free
  rcases inv.free free pending with inhabited | ⟨n, counted, below⟩
  · rcases isEmpty_eq_false_iff.mp inhabited with ⟨id, member⟩
    exact .inl ⟨id, (book.running id).mpr (.inl member)⟩
  · exact .inr ⟨n, s.forge.taskStates.keys, counted, recorded_run run, below⟩

/-- No task is running and more tasks are recorded than the pending request awaits. -/
def Missed (f : WrappedTaskForge) : Prop :=
  ∃ request n, f.cleaningNotifier = some (request, some n) ∧ f.isEmpty = true ∧
    n < f.taskStates.keys.card

theorem not_timely_of_missed (run : Run step Config.new trace s) (free : s.writer = none)
    (missed : Missed s.forge) : ¬ Timely trace s := by
  intro timely
  rcases missed with ⟨request, n, pending, empty, above⟩
  have book := (bookkeeping_reachable run.reachable).free free
  rcases timely request (some n) pending with ⟨id, running⟩ | ⟨m, ids, counted, recorded, below⟩
  · exact book.not_running empty running
  · cases counted
    rw [recorded.eq (recorded_run run)] at below
    exact Nat.lt_asymm above below

theorem not_due_of_missed {f : WrappedTaskForge} (missed : Missed f) : f.shouldClear = false := by
  rcases missed with ⟨request, n, pending, empty, above⟩
  simp [WrappedTaskForge.shouldClear, pending, Nat.ne_of_gt above]

theorem missed_step (missed : Missed s.forge) (inside : s.writer.any Section.ofListener = true)
    (taken : s.step a = some s') :
    Missed s'.forge ∧ (s'.writer.any Section.ofListener = true ∨ s'.writer = none) := by
  cases step_moves taken with
  | newTaskStart free | waitRegisters free | waitRunning free | redirect free | cleanCleared free
  | cleanRequests free => simp [free] at inside
  | handleClosed pulled free => simp [free] at inside
  | handleRunning pulled free => simp [free] at inside
  | notifyClosed within | notifyOpen within | begin capacity within =>
    simp [within, Section.ofListener] at inside
  | notDue | broadcastClosed | broadcastOpen => exact ⟨missed, .inl rfl⟩
  | clearLost within due | clearNotified within due =>
    cases (not_due_of_missed missed).symm.trans due
  | prune | reportLogged | reportSent => exact ⟨missed, .inr rfl⟩
  | @wakeCreated i id op waiter task chan rest called present buffered =>
    rw [created_forge, created_writer]
    exact ⟨missed, .inl inside⟩
  | _ => exact ⟨missed, .inl inside⟩

theorem missed_of_late (late : s.endsInTime a = false) (taken : s.step a = some s') :
    Missed s'.forge ∧ s'.writer.any Section.ofListener = true := by
  cases a with
  | handle =>
    rcases pulled : s.pulled with _ | ended
    · simp [endsInTime, pulled] at late
    rcases pending : s.forge.cleaningNotifier with _ | ⟨request, _ | awaited⟩
    · simp [endsInTime, pulled, pending] at late
    · simp [endsInTime, pulled, pending] at late
    · simp only [endsInTime, pulled, pending, Bool.or_eq_false_iff, Bool.not_eq_false',
        Bool.and_eq_true, decide_eq_true_eq, decide_eq_false_iff_not, Nat.not_le] at late
      rcases late with ⟨⟨running, empty⟩, above⟩
      cases step_moves taken with
      | handleClosed pulled' free unread closed =>
        obtain rfl := Option.some.inj (pulled.symm.trans pulled')
        exact absurd running closed
      | handleRunning pulled' free unread _ =>
        obtain rfl := Option.some.inj (pulled.symm.trans pulled')
        exact ⟨⟨request, awaited, pending, empty, by rwa [keys_card_closeTask running]⟩, rfl⟩
  | _ => cases late

/-- In exactly the runs in which the last running task never ends while more tasks are recorded
    than a pending request awaits, every pending request waits, whenever the lock is free, for a
    running task or for tasks that are not recorded yet. -/
theorem no_missed_cleaning_iff (run : Run step Config.new trace s) (free : s.writer = none) :
    (∀ past later t, trace = past ++ later → Run step Config.new past t → t.writer = none →
      Timely past t) ↔ Along (fun t b => t.endsInTime b) trace := by
  constructor
  · intro timely
    have known : ∀ past later t, trace = past ++ later → Run step Config.new past t →
        Along (fun t b => t.endsInTime b) past ∨
          (Missed t.forge ∧ t.writer.any Section.ofListener = true) := by
      intro past later t cut run
      induction run generalizing later with
      | nil => exact .inl (.nil _)
      | @snoc past t t' b before last ih =>
        rcases ih ((t, b) :: later) (by simp [cut]) with along | ⟨missed, inside⟩
        · cases late : t.endsInTime b with
          | true => exact .inl (along_snoc.mpr ⟨along, late⟩)
          | false => exact .inr (missed_of_late late last)
        · rcases missed_step missed inside last with ⟨missed, held | idle⟩
          · exact .inr ⟨missed, held⟩
          · exact absurd (timely _ later t' cut (before.snoc last) idle)
              (not_timely_of_missed (before.snoc last) idle missed)
    rcases known trace [] s (by simp) run with along | ⟨-, inside⟩
    · exact along
    · simp [free] at inside
  · intro along past later t cut before idle
    have timely : Along (fun t b => t.endsInTime b) past :=
      fun e member => along e (cut ▸ List.mem_append_left _ member)
    exact timely_of_inTime before (inTime_run before timely) idle

theorem no_missed_cleaning_of_two :
    ∃ s, exec step Config.new cleansTwo = some s ∧
      Timely (traceOf step Config.new cleansTwo) s ∧ s.cleanings.any (·.buffer == [()]) = true := by
  refine ⟨_, rfl, ?_, by decide⟩
  exact (no_missed_cleaning_iff (run_of_exec cleansTwo rfl) rfl).mpr (by decide) _ [] _ (by simp)
    (run_of_exec cleansTwo rfl) rfl

/-- One of two tasks has ended when a cleaning that awaits one task is asked for. -/
def cleansFewer : List (Act Nat Nat) :=
  creates 0 1 ++ creates 1 2 ++ echoes 2 1 0 10 ++ ends ++ asksClean 3 (some 1) ++
    echoes 4 2 1 20 ++ ends

/-- With two recorded tasks, a request that awaits one never fires. -/
theorem cleaning_of_fewer_missed :
    ¬ ∀ (trace : List (Config Nat Nat × Act Nat Nat)) (s : Config Nat Nat),
      Run step Config.new trace s → s.writer = none → Timely trace s := by
  intro all
  obtain ⟨s, done, free, missed⟩ : ∃ s, exec step (Config.new : Config Nat Nat) cleansFewer =
      some s ∧ s.writer = none ∧ Missed s.forge := ⟨_, rfl, rfl, 0, 1, rfl, rfl, by decide⟩
  have run := run_of_exec cleansFewer done
  exact not_timely_of_missed run free missed (all _ _ run free)

/-- At least `n` tasks were recorded since the last clearing, and all that were are closed. -/
def AllEnded (trace : List (Config Message Output × Act Message Output))
    (s : Config Message Output) (n : Nat) : Prop :=
  ∃ ids, RecordedIds trace ids ∧ n ≤ ids.card ∧
    ∀ id ∈ ids, s.forge.taskStates.lookup id = some .closed

/-- A call `clean(Some(n))` that the step answers with `None`, or whose receiver it notifies, finds
    its tasks ended. -/
structure ReportsInTime (trace : List (Config Message Output × Act Message Output))
    (s : Config Message Output) (a : Act Message Output) : Prop where
  answered : ∀ (i : Nat) n s', a = .enter i → s.calls[i]? = some ⟨.clean (some n), .locking⟩ →
    s.step a = some s' → s'.calls[i]? = some ⟨.clean (some n), .done (.cleaning none)⟩ →
      AllEnded trace s n
  notified : ∀ request ∈ s.notified a, ∀ (i : Nat) n,
    s.calls[i]? = some ⟨.clean (some n), .done (.cleaning (some request))⟩ → AllEnded trace s n

/-- A call `clean(Some(n))` gets its guard while a task is running, or when `n` are recorded. -/
def cleansRecorded (s : Config Message Output) : Act Message Output → Bool
  | .enter i =>
    match s.calls[i]? with
    | some ⟨.clean (some awaited), .locking⟩ =>
      !s.forge.isEmpty || decide (awaited ≤ s.forge.taskStates.keys.card)
    | _ => true
  | _ => true

theorem cleansRecorded_enter {i : Nat} :
    s.cleansRecorded (.enter i) = true ↔ ∀ n, s.calls[i]? = some ⟨.clean (some n), .locking⟩ →
      s.forge.isEmpty = true → n ≤ s.forge.taskStates.keys.card := by
  simp only [cleansRecorded]
  split
  next n called =>
    simp only [called, Bool.or_eq_true, Bool.not_eq_true', decide_eq_true_eq]
    cases s.forge.isEmpty <;> simp
  next other =>
    refine ⟨fun _ n called => absurd called (other n), fun _ => rfl⟩

theorem allEnded_of_empty (run : Run step Config.new trace s) (idle : s.creatingId = none)
    (empty : s.forge.isEmpty = true) {n : Nat} (enough : n ≤ s.forge.taskStates.keys.card) :
    AllEnded trace s n := by
  have book : s.forge.Matches none := idle ▸ bookkeeping_reachable run.reachable
  exact ⟨_, recorded_run run, enough, fun id recorded =>
    closed_of_recorded (fun _ => book.not_running empty) recorded⟩

theorem clean_answers {i : Nat} {n : Nat} (called : s.calls[i]? = some ⟨.clean (some n), .locking⟩)
    (taken : s.step (.enter i) = some s') :
    s.writer = none ∧
      (s'.calls[i]? = some ⟨.clean (some n), .done (.cleaning none)⟩ ↔ s.forge.isEmpty = true) := by
  cases step_moves taken with
  | cleanCleared free unread called' empty =>
    cases called.symm.trans called'
    exact ⟨free, by simp [getElem?_setPhase called, empty]⟩
  | cleanRequests free unread called' inhabited =>
    cases called.symm.trans called'
    exact ⟨free, by simp [getElem?_setPhase called, inhabited]⟩
  | _ => simp_all

theorem reportsInTime_of_recorded (run : Run step Config.new trace s)
    (recorded : s.cleansRecorded a = true) (taken : s.step a = some s') :
    ReportsInTime trace s a := by
  constructor
  · intro i n t same called taken' answered
    subst same
    rcases clean_answers called taken' with ⟨free, answers⟩
    have empty := answers.mp answered
    have enough := cleansRecorded_enter.mp recorded n called empty
    exact allEnded_of_empty run (by simp only [creatingId, free]) empty enough
  · intro request member i n asked
    rcases reports_of_notified taken member with ⟨rfl, awaited, ended, reports⟩
    rcases reports.sound run with ⟨-, ids, known, closed, counted⟩
    have own := ((requested_run run).own i request (some n) asked).2 awaited reports.pending
    exact ⟨ids, known, Nat.le_of_eq (counted n own).symm, closed⟩

theorem recorded_of_reportsInTime (run : Run step Config.new trace s)
    (reports : ReportsInTime trace s a) (taken : s.step a = some s') :
    s.cleansRecorded a = true := by
  cases a with
  | enter i =>
    apply cleansRecorded_enter.mpr
    intro n called empty
    rcases clean_answers called taken with ⟨-, answers⟩
    rcases reports.answered i n s' rfl called taken (answers.mpr empty) with
      ⟨ids, known, enough, -⟩
    rwa [known.eq (recorded_run run)] at enough
  | _ => rfl

/-- No cleaning that awaits a number of tasks is reported early in exactly the runs in which
    `clean(Some(n))` gets its guard while a task is running or at least `n` tasks are recorded. -/
theorem no_early_cleaning_iff (run : Run step Config.new trace s) :
    (∀ past t b later, trace = past ++ (t, b) :: later → ReportsInTime past t b) ↔
      Along (fun t b => t.cleansRecorded b) trace := by
  constructor
  · intro reports e member
    rcases e with ⟨t, b⟩
    rcases List.append_of_mem member with ⟨past, later, cut⟩
    rw [cut] at run
    rcases run.split with ⟨t', before, taken, -⟩
    exact recorded_of_reportsInTime before (reports past t b later cut) taken
  · intro along past t b later cut
    rw [cut] at run along
    rcases run.split with ⟨t', before, taken, -⟩
    exact reportsInTime_of_recorded before (along (t, b) (by simp)) taken

theorem no_early_cleaning_of_two :
    ∃ s, exec step Config.new cleansTwo = some s ∧
      ∀ past t b later, traceOf step Config.new cleansTwo = past ++ (t, b) :: later →
        ReportsInTime past t b :=
  ⟨_, rfl, (no_early_cleaning_iff (run_of_exec cleansTwo rfl)).mpr (by decide)⟩

/-- A cleaning that awaits two tasks is asked for when one has ended and the other is not made. -/
def cleansEarly : List (Act Nat Nat) :=
  creates 0 1 ++ echoes 1 1 0 10 ++ ends ++ [.call (.clean (some 2))]

/-- With one recorded task, the call answers `None` and clears the record. -/
theorem cleaning_of_two_reported_early :
    ¬ ∀ (trace : List (Config Nat Nat × Act Nat Nat)) (s : Config Nat Nat),
      Run step Config.new trace s →
        ∀ past t b later, trace = past ++ (t, b) :: later → ReportsInTime past t b := by
  intro all
  obtain ⟨t, s, before, taken, called, answered, few⟩ : ∃ t s,
      exec step (Config.new : Config Nat Nat) cleansEarly = some t ∧
      t.step (.enter 2) = some s ∧ t.calls[2]? = some ⟨.clean (some 2), .locking⟩ ∧
      s.calls[2]? = some ⟨.clean (some 2), .done (.cleaning none)⟩ ∧
      t.forge.taskStates.keys.card < 2 := ⟨_, _, rfl, rfl, rfl, rfl, by decide⟩
  have run := run_of_exec cleansEarly before
  have reports := all _ s (run.snoc taken) _ t _ [] rfl
  rcases reports.answered 2 2 s rfl called taken answered with ⟨ids, known, enough, -⟩
  rw [known.eq (recorded_run run)] at enough
  exact Nat.lt_irrefl _ (Nat.lt_of_lt_of_le few enough)

end Config

end AsyncForge.TaskForge
