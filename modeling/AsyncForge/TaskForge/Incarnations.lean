import AsyncForge.TaskForge.Bookkeeping

/-! Which task an accepted output comes from. The tasks `begin` started for one id are told apart by
    their places in the table of tasks, which the code never sees. -/

namespace AsyncForge.TaskForge

open AsyncForge.Channels AsyncForge.Runs

variable {Message Output : Type}

namespace Config

variable {s s' : Config Message Output} {a : Act Message Output}

/-- The outputs the listener will handle, first to last, as far as their order is settled. -/
def queue (s : Config Message Output) : List (TaskOutput Output) :=
  s.pulled.toList ++ s.endTasks.buffer

def firstOf (id : OpId) (outputs : List (TaskOutput Output)) : Option (TaskOutput Output) :=
  outputs.find? fun ended => ended.id == id

/-- An ending the listener accepts for an id comes from the task whose inbox sender it removes. -/
def OwnEnding (s : Config Message Output) (a : Act Message Output) : Prop :=
  a = .handle → ∀ ended, s.pulled = some ended → s.forge.Running ended.id →
    s.forge.forge.lookup ended.id = some ended.producer

/-- A task is created only when no output tagged with its id is in flight, and an earlier task of a
    running id calls `output` only behind a queued output of that id. -/
def unmixed (s : Config Message Output) : Act Message Output → Bool
  | .enter i =>
    match s.calls[i]? with
    | some ⟨.newTask id, .locking⟩ =>
      decide (s.forge.Running id) || (s.queue ++ s.outputs).all fun ended => ended.id != id
    | _ => true
  | .output k _ =>
    match s.tasks[k]? with
    | some t =>
      !decide (s.forge.Running t.id) || s.forge.forge.lookup t.id == some k ||
        s.queue.any fun ended => ended.id == t.id
    | none => true
  | _ => true

/-- The first queued output of a running id comes from its current task, and while none is queued
    so do all the outputs of the id that wait for a slot. -/
structure Sorted (s : Config Message Output) : Prop where
  first : ∀ id ended, s.forge.Running id → firstOf id s.queue = some ended →
    s.forge.forge.lookup id = some ended.producer
  waiting : ∀ id, s.forge.Running id → firstOf id s.queue = none →
    ∀ ended ∈ s.outputs, ended.id = id → s.forge.forge.lookup id = some ended.producer

theorem firstOf_eq_none {id : OpId} {outputs : List (TaskOutput Output)} :
    firstOf id outputs = none ↔ ∀ ended ∈ outputs, ended.id ≠ id := by
  simp [firstOf]

theorem firstOf_append (id : OpId) (front back : List (TaskOutput Output)) :
    firstOf id (front ++ back) = (firstOf id front).or (firstOf id back) := by
  simp [firstOf, List.find?_append]

theorem firstOf_cons_ne {id : OpId} {ended : TaskOutput Output} (other : ended.id ≠ id)
    (outputs : List (TaskOutput Output)) : firstOf id (ended :: outputs) = firstOf id outputs := by
  simp [firstOf, other]

theorem Sorted.of_same (inv : s.Sorted) (queue : s'.queue = s.queue)
    (outputs : s'.outputs = s.outputs) (forge : s'.forge.forge = s.forge.forge)
    (states : s'.forge.taskStates = s.forge.taskStates) : s'.Sorted := by
  constructor
  · intro id ended running found
    rw [WrappedTaskForge.Running, states] at running
    rw [queue] at found
    rw [forge]
    exact inv.first id ended running found
  · intro id running unqueued ended member tag
    rw [WrappedTaskForge.Running, states] at running
    rw [queue] at unqueued
    rw [outputs] at member
    rw [forge]
    exact inv.waiting id running unqueued ended member tag

theorem sorted_of_stopped (stopped : ∀ id, ¬ s.forge.Running id) : s.Sorted :=
  ⟨fun id _ running _ => absurd running (stopped id),
    fun id running _ _ _ _ => absurd running (stopped id)⟩

theorem Sorted.start (inv : s.Sorted) {i : Nat} {id : OpId} {senders : List CreationSender}
    (clear : ∀ ended ∈ s.queue ++ s.outputs, ended.id ≠ id) :
    Sorted { s with
      forge := { s.forge with
        taskStates := s.forge.taskStates.insert id .running
        taskCreationSenders := s.forge.taskCreationSenders.erase id }
      writer := some (.creating i id senders (.ok ()))
      calls := setPhase s.calls i .creating } := by
  have queued : firstOf id s.queue = none :=
    firstOf_eq_none.mpr fun ended member => clear ended (List.mem_append_left _ member)
  constructor
  · intro other ended running found
    rcases (WrappedTaskForge.running_insert other .running).mp running with ⟨rfl, -⟩ | ⟨_, ran⟩
    · cases queued.symm.trans found
    · exact inv.first other ended ran found
  · intro other running unqueued ended member tag
    rcases (WrappedTaskForge.running_insert other .running).mp running with ⟨rfl, -⟩ | ⟨_, ran⟩
    · exact absurd tag (clear ended (List.mem_append_right _ member))
    · exact inv.waiting other ran unqueued ended member tag

theorem Sorted.none_of_absent (inv : s.Sorted) {id : OpId} (running : s.forge.Running id)
    (absent : s.forge.forge.lookup id = none) :
    firstOf id s.queue = none ∧ ∀ ended ∈ s.outputs, ended.id ≠ id := by
  have queued : firstOf id s.queue = none := by
    cases found : firstOf id s.queue with
    | none => rfl
    | some ended =>
      have known := inv.first id ended running found
      rw [absent] at known
      cases known
  refine ⟨queued, fun ended member tag => ?_⟩
  have known := inv.waiting id running queued ended member tag
  rw [absent] at known
  cases known

theorem Sorted.begin (inv : s.Sorted) (book : s.Bookkeeping) {i : Nat} {id : OpId}
    {result : ForgeResult Unit} (inside : s.writer = some (.creating i id [] result))
    (tasks : List (Task Message)) (calls : List (Call Message)) :
    Sorted { s with
      tasks, calls
      forge := { s.forge with forge := s.forge.forge.insert id s.tasks.length }
      writer := none } := by
  simp only [Bookkeeping, creatingId, inside] at book
  obtain ⟨queued, pending⟩ := inv.none_of_absent ((book.running id).mpr (.inr rfl))
    (Finmap.lookup_eq_none.mpr (book.absent id rfl))
  constructor
  · intro other ended running found
    by_cases same : other = id
    · subst same
      cases queued.symm.trans found
    · exact (Finmap.lookup_insert_of_ne _ same).trans (inv.first other ended running found)
  · intro other running unqueued ended member tag
    by_cases same : other = id
    · subst same
      exact absurd tag (pending ended member)
    · exact (Finmap.lookup_insert_of_ne _ same).trans
        (inv.waiting other running unqueued ended member tag)

theorem Sorted.output (inv : s.Sorted) {k : InboxSender} {t : Task Message} (out : Output)
    (own : s.forge.Running t.id →
      s.forge.forge.lookup t.id = some k ∨ ∃ ended ∈ s.queue, ended.id = t.id) :
    Sorted { s with outputs := s.outputs ++ [⟨t.id, out, k⟩] } := by
  refine ⟨inv.first, fun id running unqueued ended member tag => ?_⟩
  rcases List.mem_append.mp member with member | member
  · exact inv.waiting id running unqueued ended member tag
  · obtain rfl := List.mem_singleton.mp member
    obtain rfl : t.id = id := tag
    rcases own running with current | ⟨ended, member, tag⟩
    · exact current
    · exact absurd tag (firstOf_eq_none.mp unqueued ended member)

theorem Sorted.enqueue (inv : s.Sorted) {i : Nat} {ended : TaskOutput Output}
    (pending : s.outputs[i]? = some ended) :
    Sorted { s with endTasks := s.endTasks.push ended, outputs := s.outputs.eraseIdx i } := by
  have queued : queue { s with
      endTasks := s.endTasks.push ended, outputs := s.outputs.eraseIdx i } =
      s.queue ++ [ended] := by simp [queue, Chan.push]
  have member := List.mem_of_getElem? pending
  constructor
  · intro id first running found
    rw [queued, firstOf_append] at found
    cases before : firstOf id s.queue with
    | some older =>
      rw [before] at found
      cases found
      exact inv.first id _ running before
    | none =>
      rw [before, Option.none_or] at found
      have same : first = ended := List.mem_singleton.mp (List.mem_of_find?_eq_some found)
      subst same
      exact inv.waiting id running before first member (by simpa using List.find?_some found)
  · intro id running unqueued other rest tag
    rw [queued, firstOf_append, Option.or_eq_none_iff] at unqueued
    exact inv.waiting id running unqueued.1 other (List.mem_of_mem_eraseIdx rest) tag

theorem Sorted.handled (inv : s.Sorted) {ended : TaskOutput Output} {f : WrappedTaskForge}
    {w : Option (Section Output)} (pulled : s.pulled = some ended)
    (running : ∀ id, f.Running id → id ≠ ended.id ∧ s.forge.Running id)
    (kept : ∀ id, id ≠ ended.id → f.forge.lookup id = s.forge.forge.lookup id) :
    Sorted { s with pulled := none, forge := f, writer := w } := by
  have queued : s.queue = ended :: s.endTasks.buffer := by simp [queue, pulled]
  constructor
  · intro id first ran found
    rcases running id ran with ⟨other, before⟩
    refine (kept id other).trans (inv.first id first before ?_)
    rw [queued, firstOf_cons_ne other.symm]
    exact found
  · intro id ran unqueued later member tag
    rcases running id ran with ⟨other, before⟩
    refine (kept id other).trans (inv.waiting id before ?_ later member tag)
    rw [queued, firstOf_cons_ne other.symm]
    exact unqueued

theorem pulled_of_listening (idle : s.listening = true) : s.pulled = none := by
  simp only [listening, Bool.and_eq_true, Option.isNone_iff_eq_none] at idle
  exact idle.1

theorem Sorted.step (inv : s.Sorted) (book : s.Bookkeeping) (apart : s.unmixed a = true)
    (taken : s.step a = some s') : s'.Sorted := by
  cases step_moves taken with
  | newTaskStart free unread called stopped =>
    apply inv.start
    intro ended member
    simp only [unmixed, called, Bool.or_eq_true, decide_eq_true_eq, stopped, false_or,
      List.all_eq_true, bne_iff_ne] at apart
    exact apart ended member
  | waitRegisters free unread called waits state =>
    exact inv.of_same rfl rfl (WrappedTaskForge.forge_newTaskNotifReceiver _)
      (WrappedTaskForge.taskStates_newTaskNotifReceiver _)
  | waitRunning | wakeCreated =>
    rw [created_eq]
    exact inv.of_same rfl rfl rfl rfl
  | cleanCleared free unread called empty =>
    exact sorted_of_stopped fun id => by
      simp [WrappedTaskForge.Running, WrappedTaskForge.cleanEmpty]
  | begin capacity inside => exact inv.begin book inside _ _
  | output out present =>
    apply inv.output out
    intro running
    simpa [unmixed, present, running] using apart
  | enqueue pending room => exact inv.enqueue pending
  | take idle buffered =>
    have empty := pulled_of_listening idle
    exact inv.of_same (by simp [queue, empty, buffered, Chan.pop]) rfl rfl rfl
  | handleClosed pulled free unread closed =>
    exact inv.handled pulled (fun id ran => ⟨fun same => closed (same ▸ ran), ran⟩) fun _ _ => rfl
  | handleRunning pulled free unread ran =>
    refine inv.handled pulled (fun id running => ?_) fun id other => Finmap.lookup_erase_ne other
    simpa using (WrappedTaskForge.running_insert id .closed).mp running
  | clearLost inside due pending present closed =>
    exact sorted_of_stopped fun id => by
      simp [WrappedTaskForge.Running, WrappedTaskForge.clearEnded]
  | clearNotified inside due pending present opened room =>
    exact sorted_of_stopped fun id => by
      simp [WrappedTaskForge.Running, WrappedTaskForge.clearEnded]
  | _ => exact inv.of_same rfl rfl rfl rfl

theorem Sorted.ownEnding (inv : s.Sorted) : s.OwnEnding a := by
  intro same ended pulled running
  subst same
  exact inv.first ended.id ended running (by simp [firstOf, queue, pulled])

theorem sorted_new : (Config.new : Config Message Output).Sorted :=
  sorted_of_stopped fun id => by simp [WrappedTaskForge.Running, Config.new, WrappedTaskForge.new]

variable {trace : List (Config Message Output × Act Message Output)}

/-- In a run that keeps the outputs of the tasks of one id apart, every accepted ending closes the
    task that produced it. -/
theorem accepted_ending_is_own (run : Run step Config.new trace s)
    (apart : Along (fun t b => t.unmixed b) trace) : Along OwnEnding trace := by
  refine run.along_of_invariant (fun t => t.Bookkeeping ∧ t.Sorted) ?_ ?_ apart
    ⟨bookkeeping_new, sorted_new⟩
  · intro t b t' given good taken
    rcases given with ⟨book, inv⟩
    exact ⟨book.step taken, inv.step book good taken⟩
  · intro t b t' given good taken
    rcases given with ⟨book, inv⟩
    exact inv.ownEnding

def creates (i : Nat) (id : OpId) : List (Act Nat Nat) := [.call (.newTask id), .enter i, .begin 1]

def echoes (i : Nat) (id : OpId) (k : InboxSender) (msg : Nat) : List (Act Nat Nat) :=
  [.call (.send id msg), .enter i, .deliver i, .receive k, .output k msg, .enqueue 0]

def ends : List (Act Nat Nat) := [.take, .handle, .clearIfDue, .prune]

def recreatedApart : List (Act Nat Nat) :=
  creates 0 1 ++ echoes 1 1 0 10 ++ ends ++ creates 2 1 ++ echoes 3 1 1 20 ++ ends

theorem accepted_ending_is_own_recreated :
    ∃ s, exec step Config.new recreatedApart = some s ∧
      Along OwnEnding (traceOf step Config.new recreatedApart) :=
  ⟨_, rfl, accepted_ending_is_own (run_of_exec recreatedApart rfl) (by decide)⟩

/-- The echo task of the tests answers twice before its id is created again. -/
def answeredTwice : List (Act Nat Nat) :=
  creates 0 1 ++ echoes 1 1 0 10 ++ echoes 2 1 0 20 ++ ends ++ creates 3 1 ++ [.take, .handle]

/-- The second answer of the earlier task closes the new task. -/
theorem ending_of_earlier_incarnation :
    ¬ ∀ (trace : List (Config Nat Nat × Act Nat Nat)) (s : Config Nat Nat),
      Run step Config.new trace s → Along OwnEnding trace := by
  intro all
  have own := all _ _ (run_of_exec answeredTwice rfl)
  have last := own (_, .handle) (List.mem_of_getElem? (i := 23) rfl) rfl _ rfl (by decide)
  exact absurd last (by decide)

end Config

end AsyncForge.TaskForge
