import AsyncForge.TaskForge.Broadcast
import AsyncForge.TaskForge.Outputs

/-! A forge whose tasks call `output` at most once each: every output closes the task that it comes
    from, and reaches every redirection that is there. -/

namespace AsyncForge.TaskForge

open AsyncForge.Accounts AsyncForge.Channels AsyncForge.Runs

variable {Message Output : Type}

namespace Config

variable {s s' : Config Message Output} {a : Act Message Output}

/-- The outputs that are called and not yet handled. -/
def underway (s : Config Message Output) : List (TaskOutput Output) := s.queue ++ s.outputs

/-- The forge holds the tasks whose output is not handled. -/
structure Single (s : Config Message Output) (handled : List InboxSender) : Prop where
  known : ∀ k ∈ handled, k < s.tasks.length
  tagged : ∀ ended ∈ s.underway, (s.tasks[ended.producer]?).map Task.id = some ended.id
  content : ∀ (id : OpId) (k : InboxSender), s.forge.forge.lookup id = some k ↔
    (s.tasks[k]?).map Task.id = some id ∧ k ∉ handled

variable {handled : List InboxSender}

theorem Single.of_same (single : s.Single handled)
    (underway : ∀ ended ∈ s'.underway, ended ∈ s.underway)
    (tasks : s'.tasks.map Task.id = s.tasks.map Task.id)
    (forge : s'.forge.forge = s.forge.forge) : s'.Single handled := by
  have length : s'.tasks.length = s.tasks.length := by
    have lengths := congrArg List.length tasks
    simpa using lengths
  have named : ∀ k : Nat, (s'.tasks[k]?).map Task.id = (s.tasks[k]?).map Task.id := by
    intro k
    rw [← List.getElem?_map, ← List.getElem?_map, tasks]
  refine ⟨?_, ?_, ?_⟩
  · rw [length]
    exact single.known
  · intro ended member
    rw [named]
    exact single.tagged ended (underway ended member)
  · intro id k
    rw [forge, named]
    exact single.content id k

theorem Single.begin (single : s.Single handled) (book : s.Bookkeeping) {i : Nat} {id : OpId}
    {result : ForgeResult Unit} {capacity : Nat}
    (inside : s.writer = some (.creating i id [] result)) (calls : List (Call Message)) :
    Single { s with
      calls
      tasks := s.tasks ++ [⟨id, { capacity }⟩]
      forge := { s.forge with forge := s.forge.forge.insert id s.tasks.length }
      writer := none } handled := by
  simp only [Bookkeeping, creatingId, inside] at book
  have absent : s.forge.forge.lookup id = none := Finmap.lookup_eq_none.mpr (book.absent id rfl)
  refine ⟨?_, ?_, ?_⟩
  · intro k member
    rw [List.length_append]
    exact Nat.lt_add_right _ (single.known k member)
  · intro ended member
    have tag := single.tagged ended member
    rcases Option.map_eq_some_iff.mp tag with ⟨t, present, -⟩
    rw [List.getElem?_append_left (getElem?_lt present)]
    exact tag
  · intro other k
    have before := single.content other k
    simp only [getElem?_concat]
    by_cases last : k = s.tasks.length
    · subst last
      have fresh : s.tasks.length ∉ handled :=
        fun member => Nat.lt_irrefl _ (single.known _ member)
      have unnamed : s.forge.forge.lookup other ≠ some s.tasks.length := by
        intro found
        simpa using (before.mp found).1
      by_cases same : other = id
      · subst same
        simp [Finmap.lookup_insert, fresh]
      · simp [Finmap.lookup_insert_of_ne _ same, unnamed, Ne.symm same]
    · rw [if_neg last, ← before]
      by_cases same : other = id
      · subst same
        simp [Finmap.lookup_insert, absent, Ne.symm last]
      · rw [Finmap.lookup_insert_of_ne _ same]

theorem Single.output (single : s.Single handled) {k : InboxSender} {t : Task Message}
    (out : Output) (present : s.tasks[k]? = some t) :
    Single { s with outputs := s.outputs ++ [⟨t.id, out, k⟩] } handled := by
  refine ⟨single.known, ?_, single.content⟩
  have more : underway { s with outputs := s.outputs ++ [⟨t.id, out, k⟩] } =
      s.underway ++ [⟨t.id, out, k⟩] := (List.append_assoc _ _ _).symm
  rw [more]
  refine List.forall_mem_append.mpr ⟨single.tagged, List.forall_mem_singleton.mpr ?_⟩
  simp [present]

theorem Single.found (single : s.Single handled)
    (distinct : (handled ++ s.underway.map TaskOutput.producer).Nodup)
    {ended : TaskOutput Output} (member : ended ∈ s.underway) :
    s.forge.forge.lookup ended.id = some ended.producer := by
  refine (single.content ended.id ended.producer).mpr ⟨single.tagged ended member, ?_⟩
  intro before
  exact (List.nodup_append.mp distinct).2.2 _ before _ (List.mem_map_of_mem member) rfl

theorem Single.ended (single : s.Single handled)
    (distinct : (handled ++ s.underway.map TaskOutput.producer).Nodup)
    {ended : TaskOutput Output} (pulled : s.pulled = some ended) (w : Option (Section Output)) :
    Single { s with pulled := none, forge := s.forge.closeTask ended.id, writer := w }
      (handled ++ [ended.producer]) := by
  have before : s.underway = ended :: (s.endTasks.buffer ++ s.outputs) := by
    simp [underway, queue, pulled]
  have inside : ended ∈ s.underway := by simp [before]
  have tag := single.tagged ended inside
  have found := single.found distinct inside
  refine ⟨?_, ?_, ?_⟩
  · rcases Option.map_eq_some_iff.mp tag with ⟨t, present, -⟩
    exact List.forall_mem_append.mpr
      ⟨single.known, List.forall_mem_singleton.mpr (getElem?_lt present)⟩
  · intro other member
    exact single.tagged other (before ▸ List.mem_cons_of_mem _ member)
  · intro id k
    have content := single.content id k
    by_cases same : id = ended.id
    · -- Of the tasks of this id the forge held the one that has ended now.
      subst same
      have gone : (s.forge.closeTask ended.id).forge.lookup ended.id = none :=
        Finmap.lookup_erase _ _
      rw [gone]
      refine iff_of_false (by simp) fun given => ?_
      rcases given with ⟨named, silent⟩
      simp only [List.mem_append, List.mem_singleton, not_or] at silent
      have now := content.mpr ⟨named, silent.1⟩
      rw [found] at now
      exact silent.2 (Option.some.inj now).symm
    · have kept : (s.forge.closeTask ended.id).forge.lookup id = s.forge.forge.lookup id :=
        Finmap.lookup_erase_ne same
      rw [kept, content]
      refine and_congr_right fun named => ?_
      have other : k ≠ ended.producer := by
        intro producer
        subst producer
        exact same (Option.some.inj (named.symm.trans tag))
      simp [other]

theorem Single.accepted (single : s.Single handled) (book : s.Bookkeeping)
    (distinct : (handled ++ s.underway.map TaskOutput.producer).Nodup)
    {ended : TaskOutput Output} (pulled : s.pulled = some ended) :
    s.forge.Running ended.id ∧ s.forge.forge.lookup ended.id = some ended.producer := by
  have inside : ended ∈ s.underway := by simp [underway, queue, pulled]
  have found := single.found distinct inside
  exact ⟨(book.running ended.id).mpr (.inl (Finmap.mem_of_lookup_eq_some found)), found⟩

theorem Single.step (single : s.Single handled) (book : s.Bookkeeping)
    (distinct : (handled ++ s.underway.map TaskOutput.producer).Nodup)
    (taken : s.step a = some s') :
    s'.Single (handled ++ (s.handles a).map TaskOutput.producer) := by
  have silent : s.handles a = [] → s'.Single handled →
      s'.Single (handled ++ (s.handles a).map TaskOutput.producer) := by
    intro none after
    rw [none, List.map_nil, List.append_nil]
    exact after
  cases step_moves taken with
  | output out present => exact silent rfl (single.output out present)
  | begin capacity inside => exact silent rfl (single.begin book inside _)
  | enqueue pending room =>
    refine silent rfl (single.of_same ?_ rfl rfl)
    have member := List.mem_of_getElem? pending
    intro ended inside
    simp only [underway, queue, Chan.push, List.mem_append, List.mem_singleton] at inside ⊢
    rcases inside with (pulled | queued | rfl) | waiting
    · exact .inl (.inl pulled)
    · exact .inl (.inr queued)
    · exact .inr member
    · exact .inr (List.mem_of_mem_eraseIdx waiting)
  | take idle buffered =>
    refine silent rfl (single.of_same ?_ rfl rfl)
    simp [underway, queue, pulled_of_listening idle, buffered, Chan.pop]
  | handleClosed pulled free unread closed =>
    exact absurd (single.accepted book distinct pulled).1 closed
  | handleRunning pulled free unread running =>
    simp only [handles, pulled, Option.toList, List.map_singleton]
    exact single.ended distinct pulled _
  | waitRegisters =>
    exact silent rfl (single.of_same (fun _ member => member) rfl
      (WrappedTaskForge.forge_newTaskNotifReceiver _))
  | waitRunning | wakeCreated =>
    rw [created_eq] at silent ⊢
    exact silent rfl (single.of_same (fun _ member => member) rfl rfl)
  | @deliverOpen i id op inbox msg =>
    have ids := taskIds_modify (s := s) inbox (·.push msg)
    exact silent rfl (single.of_same (fun _ member => member) ids rfl)
  | @receive k =>
    exact silent rfl (single.of_same (fun _ member => member) (taskIds_modify k Chan.pop) rfl)
  | closeInbox k =>
    exact silent rfl (single.of_same (fun _ member => member) (taskIds_modify k Chan.close) rfl)
  | _ => exact silent rfl (single.of_same (fun _ member => member) rfl rfl)

variable {trace : List (Config Message Output × Act Message Output)}

theorem underway_run (run : Run step Config.new trace s) :
    (told issues trace).Perm (told handles trace ++ s.underway) := by
  have bag := balanced (fun _ _ _ taken => outputs_step taken) run
  have line := queued (fun _ _ _ taken => queue_step taken) run
  have none : (Config.new : Config Message Output).queue = [] := rfl
  rw [none, List.nil_append] at line
  rw [line, List.append_assoc] at bag
  exact bag

theorem distinct_run (run : Run step Config.new trace s)
    (once : ((told issues trace).map TaskOutput.producer).Nodup) :
    ((told handles trace).map TaskOutput.producer ++
      s.underway.map TaskOutput.producer).Nodup := by
  rw [← List.map_append]
  exact ((underway_run run).map TaskOutput.producer).nodup_iff.mp once

theorem single_run (run : Run step Config.new trace s)
    (once : ((told issues trace).map TaskOutput.producer).Nodup) :
    s.Single ((told handles trace).map TaskOutput.producer) := by
  induction run with
  | nil => constructor <;> simp [Config.new, underway, queue, WrappedTaskForge.new]
  | snoc before last ih =>
    rw [told_snoc, List.map_append] at once ⊢
    have earlier := once.of_append_left
    exact (ih earlier).step (bookkeeping_reachable before.reachable)
      (distinct_run before earlier) last

theorem single_accepted (run : Run step Config.new trace s)
    (once : ((told issues trace).map TaskOutput.producer).Nodup)
    {past later : List (Config Message Output × Act Message Output)} {t : Config Message Output}
    {b : Act Message Output} (cut : trace = past ++ (t, b) :: later) {ended : TaskOutput Output}
    (pulled : t.pulled = some ended) :
    t.forge.Running ended.id ∧ t.forge.forge.lookup ended.id = some ended.producer := by
  subst cut
  rcases run.split with ⟨_, before, -⟩
  rw [told_append, List.map_append] at once
  have earlier := once.of_append_left
  exact (single_run before earlier).accepted (bookkeeping_reachable before.reachable)
    (distinct_run before earlier) pulled

/-- The output that was accepted and is about to be announced. -/
def closing (s : Config Message Output) : List (TaskOutput Output) :=
  match s.writer with
  | some (.closing ended) => [ended]
  | _ => []

end Config

def TaskOutput.result {Output : Type} (ended : TaskOutput Output) : OpId × Output :=
  (ended.id, ended.output)

def ForgeTaskEnded.result {Output : Type} (ended : ForgeTaskEnded Output) : OpId × Output :=
  (ended.id, ended.output)

namespace Config

variable {s s' : Config Message Output} {a : Act Message Output}
  {trace : List (Config Message Output × Act Message Output)}

/-- The output that is handled is accepted, and no cleaning receiver is missing when it is due. -/
def Announces (s : Config Message Output) (a : Act Message Output) : Prop :=
  (a = .handle → ∀ ended, s.pulled = some ended → s.forge.Running ended.id) ∧
    s.losesCleaner a = false

/-- An accepted output is announced once. -/
theorem announces_step (announces : s.Announces a) (taken : s.step a = some s') :
    s.closing.map TaskOutput.result ++ (s.handles a).map TaskOutput.result =
      (s.announced a).map ForgeTaskEnded.result ++ s'.closing.map TaskOutput.result := by
  rcases announces with ⟨accepted, heard⟩
  cases step_moves taken with
  | handleClosed pulled free unread closed => exact absurd (accepted rfl _ pulled) closed
  | handleRunning pulled free => simp [closing, handles, announced, pulled, free]
  | notDue inside | clearNotified inside =>
    simp [closing, handles, announced, inside, heard, TaskOutput.result, ForgeTaskEnded.result]
  | clearLost inside due pending present closed =>
    simp [losesCleaner, due, pending, present, closed] at heard
  | newTaskStart free => simp [closing, handles, announced, free]
  | notifyClosed inside
  | notifyOpen inside
  | begin capacity inside
  | broadcastClosed inside
  | broadcastOpen inside
  | prune inside
  | reportLogged inside
  | reportSent inside => simp [closing, handles, announced, inside]
  | waitRunning | wakeCreated =>
    rw [created_eq]
    simp [closing, handles, announced]
  | _ => simp [closing, handles, announced, newResultRedirection]

theorem announces_run {start : Config Message Output} (run : Run step start trace s)
    (all : Along Announces trace) :
    start.closing.map TaskOutput.result ++ (told handles trace).map TaskOutput.result =
      (announcements trace).map ForgeTaskEnded.result ++ s.closing.map TaskOutput.result := by
  have account := queued_along (fun _ _ _ good taken => announces_step good taken) run all
  simpa only [told, announcements, List.map_flatMap] using account

/-- The error about a closed task is the refusal of an output. -/
theorem refused_of_fails {id : OpId} (failed : .taskClosed id ∈ s.fails a) :
    a = .handle ∧ ∃ ended, s.pulled = some ended ∧ ¬ s.forge.Running ended.id := by
  cases a with
  | handle =>
    rcases List.mem_map.mp failed with ⟨ended, refused, -⟩
    rcases List.mem_filter.mp refused with ⟨pulled, closed⟩
    exact ⟨rfl, ended, Option.mem_toList.mp pulled, by simpa using closed⟩
  | clearIfDue =>
    simp only [fails] at failed
    split at failed <;> simp at failed
  | _ => cases failed

theorem closing_between (between : s.writer.any Section.ofListener = false) : s.closing = [] := by
  unfold closing
  split
  next ended inside => simp [inside, Section.ofListener] at between
  · rfl

theorem closing_redirected {receiver : Nat} (redirects : s.Redirects receiver a)
    (taken : s.step a = some s') : s.handles a = [] ∧ s'.closing = [] := by
  rcases redirects with ⟨rfl, i, rfl, called⟩
  cases step_moves taken with
  | redirect free unread _ =>
    exact ⟨rfl, closing_between (by simp [newResultRedirection, free])⟩
  | _ => simp_all

/-- If no task outputs twice, the forge holds the tasks whose output is not handled yet. The
    listener accepts every output, each for the task that it comes from, and no error is about a
    closed task. An open redirection gets the outputs that are handled after it was made, each once
    and in their order, unless a cleaning receiver is missing when it is due; made before all of
    them, it has at rest the outputs of all tasks, whose calls of `output` wait for their slots. -/
theorem single_outputs_arrive (run : Run step Config.new trace s)
    (once : ((told issues trace).map TaskOutput.producer).Nodup) :
    (∀ (id : OpId) (k : InboxSender), s.forge.forge.lookup id = some k ↔
        (s.tasks[k]?).map Task.id = some id ∧
          k ∉ (told handles trace).map TaskOutput.producer) ∧
      (∀ past t ended later, trace = past ++ (t, .handle) :: later → t.pulled = some ended →
        t.forge.Running ended.id ∧ t.forge.forge.lookup ended.id = some ended.producer) ∧
      (∀ id, .taskClosed id ∉ told fails trace) ∧
      (s.writer.any Section.ofListener = false → ∀ (receiver : Nat) chan,
        s.results[receiver]? = some chan → chan.closed = false →
          ∃ past t a later, trace = past ++ (t, a) :: later ∧ t.Redirects receiver a ∧
            (Along (fun u b => u.losesCleaner b = false) later →
              (chan.received ++ chan.buffer).map ForgeTaskEnded.result =
                  (told handles later).map TaskOutput.result ∧
                (told handles past = [] → s.underway = [] →
                  ((chan.received ++ chan.buffer).map ForgeTaskEnded.result).Perm
                    ((told issues trace).map TaskOutput.result)))) := by
  have accepted : ∀ past t ended later, trace = past ++ (t, .handle) :: later →
      t.pulled = some ended → t.forge.Running ended.id ∧
        t.forge.forge.lookup ended.id = some ended.producer :=
    fun past t ended later cut pulled => single_accepted run once cut pulled
  refine ⟨(single_run run once).content, accepted, ?_, ?_⟩
  · intro id failed
    rcases List.mem_flatMap.mp failed with ⟨⟨t, b⟩, member, failed⟩
    rcases List.append_of_mem member with ⟨past, later, cut⟩
    rcases refused_of_fails failed with ⟨rfl, ended, pulled, refused⟩
    exact refused (accepted past t ended later cut pulled).1
  · intro between receiver chan found opened
    have holds : s.got receiver = some (chan.sent ++ []) :=
      got_eq_some.mpr ⟨chan, found, opened, by rw [owed_of_listener_out between]⟩
    rcases got_run run holds with ⟨past, t, a, later, cut, redirects, same⟩
    rw [List.append_nil] at same
    refine ⟨past, t, a, later, cut, redirects, fun heard => ?_⟩
    subst cut
    rcases run.split with ⟨t', before, taken, after⟩
    rcases closing_redirected redirects taken with ⟨unhandled, closing⟩
    have good : Along Announces later := by
      intro e member
      rcases List.append_of_mem member with ⟨front, back, rfl⟩
      refine ⟨fun same ended pulled => ?_, heard e member⟩
      rcases e with ⟨u, b⟩
      dsimp only at same
      subst same
      exact (accepted (past ++ (t, a) :: front) u ended back (by simp) pulled).1
    have account := announces_run after good
    rw [closing, closing_between between, List.map_nil, List.nil_append, List.append_nil,
      ← same] at account
    refine ⟨account.symm, fun first rest => ?_⟩
    have handled : told handles (past ++ (t, a) :: later) = told handles later := by
      rw [told_append, first]
      exact congrArg (· ++ told handles later) unhandled
    have moved := underway_run run
    rw [rest, List.append_nil, handled] at moved
    rw [Chan.sent] at account
    rw [← account]
    exact (moved.map TaskOutput.result).symm

/-- Two tasks of one id, one after the other, with an output each. -/
def answersOnce : List (Act Nat Nat) :=
  [.call .newResultRedirection, .enter 0] ++
    creates 1 1 ++ echoes 2 1 0 10 ++ [.take, .handle, .clearIfDue, .broadcast, .prune] ++
    creates 3 1 ++ echoes 4 1 1 20 ++ [.take, .handle, .clearIfDue, .broadcast, .prune]

theorem single_outputs_arrive_from_two :
    ∃ (s : Config Nat Nat) (chan : Chan (ForgeTaskEnded Nat)),
    exec step Config.new answersOnce = some s ∧ s.results[0]? = some chan ∧
      (chan.received ++ chan.buffer).map ForgeTaskEnded.result = [(1, 10), (1, 20)] ∧
      ∃ past t a later, traceOf step Config.new answersOnce = past ++ (t, a) :: later ∧
        (chan.received ++ chan.buffer).map ForgeTaskEnded.result =
          (told handles later).map TaskOutput.result := by
  obtain ⟨s, chan, done, found, opened, between, got⟩ :
      ∃ (s : Config Nat Nat) (chan : Chan (ForgeTaskEnded Nat)),
        exec step Config.new answersOnce = some s ∧ s.results[0]? = some chan ∧
          chan.closed = false ∧ s.writer.any Section.ofListener = false ∧
          (chan.received ++ chan.buffer).map ForgeTaskEnded.result = [(1, 10), (1, 20)] :=
    ⟨_, _, rfl, rfl, rfl, rfl, by decide⟩
  have once : ((told issues (traceOf step Config.new answersOnce)).map
      TaskOutput.producer).Nodup := by decide
  have heard : Along (fun u b => u.losesCleaner b = false)
      (traceOf step Config.new answersOnce) := by decide
  rcases (single_outputs_arrive (run_of_exec _ done) once).2.2.2 between 0 chan found opened
    with ⟨past, t, a, later, cut, -, arrives⟩
  refine ⟨s, chan, done, found, got, past, t, a, later, cut, (arrives fun e member => ?_).1⟩
  rw [cut] at heard
  exact heard e (List.mem_append_right _ (List.mem_cons_of_mem _ member))

end Config

end AsyncForge.TaskForge
