import AsyncForge.Lib.Streams
import AsyncForge.TaskForge.Bookkeeping
import AsyncForge.TaskForge.Inboxes

/-! The inbox of a task as a stream. Its only sender is the one in the forge. -/

namespace AsyncForge.TaskForge

open AsyncForge.Channels AsyncForge.Ownership AsyncForge.Runs AsyncForge.Streams

variable {Message Output : Type}

namespace Config

variable {s s' : Config Message Output} {a : Act Message Output} {k : InboxSender}
  {task : Task Message}

/-- The forge has a sender of the inbox. -/
def inboxHeld (s : Config Message Output) (k : InboxSender) : Bool :=
  decide (∃ id ∈ s.forge.forge.keys, s.forge.forge.lookup id = some k)

def recvInbox (s : Config Message Output) (k : InboxSender) : Option (Received Message) :=
  (s.tasks[k]?).map fun task => recv task.inbox (s.inboxHeld k)

theorem inboxHeld_iff : s.inboxHeld k = true ↔ ∃ id, s.forge.forge.lookup id = some k := by
  simp only [inboxHeld, decide_eq_true_eq, Finmap.mem_keys]
  constructor
  · intro given
    rcases given with ⟨id, -, found⟩
    exact ⟨id, found⟩
  · intro given
    rcases given with ⟨id, found⟩
    exact ⟨id, Finmap.mem_iff.mpr ⟨k, found⟩, found⟩

/-- The task begins by the step. -/
def BeginsTask (k : InboxSender) (s : Config Message Output) : Act Message Output → Prop
  | .begin _ => s.tasks.length = k
  | _ => False

/-- An ending of the task's id is accepted by the step, while the id is the task's. -/
def EndsTask (k : InboxSender) (s : Config Message Output) : Act Message Output → Prop
  | .handle => ∃ ended, s.pulled = some ended ∧ s.forge.Running ended.id ∧
      s.forge.forge.lookup ended.id = some k
  | _ => False

theorem held_same (same : s'.forge.forge = s.forge.forge) (starts : ¬ s.BeginsTask k a)
    (ends : ¬ s.EndsTask k a) :
    s'.inboxHeld k = true ↔ s.BeginsTask k a ∨ s.inboxHeld k = true ∧ ¬ s.EndsTask k a := by
  rw [inboxHeld_iff, inboxHeld_iff, same]
  simp [starts, ends]

/-- A sender is under one id only. -/
theorem Begun.id_unique (begun : s.Begun) {id id' : OpId} (one : s.forge.forge.lookup id = some k)
    (two : s.forge.forge.lookup id' = some k) : id = id' := by
  rcases begun id k one with ⟨task, present, rfl⟩
  rcases begun id' k two with ⟨task', present', rfl⟩
  cases present.symm.trans present'
  rfl

theorem held_begin {i : Nat} {id : OpId} {result : ForgeResult Unit} (book : s.Bookkeeping)
    (inside : s.writer = some (.creating i id [] result))
    (inserted : s'.forge.forge = s.forge.forge.insert id s.tasks.length) :
    s'.inboxHeld k = true ↔ s.tasks.length = k ∨ s.inboxHeld k = true := by
  have creating : s.creatingId = some id := by simp [creatingId, inside]
  have absent : id ∉ s.forge.forge := book.absent id creating
  rw [inboxHeld_iff, inboxHeld_iff, inserted]
  constructor
  · intro given
    rcases given with ⟨other, found⟩
    by_cases same : other = id
    · subst same
      rw [Finmap.lookup_insert] at found
      exact .inl (Option.some.inj found)
    · exact .inr ⟨other, (Finmap.lookup_insert_of_ne _ same).symm.trans found⟩
  · intro either
    rcases either with rfl | ⟨other, found⟩
    · exact ⟨id, Finmap.lookup_insert _⟩
    · have differs : other ≠ id := by
        intro same
        subst same
        exact absent (Finmap.mem_iff.mpr ⟨k, found⟩)
      exact ⟨other, (Finmap.lookup_insert_of_ne _ differs).trans found⟩

theorem held_ended {id : OpId} (begun : s.Begun)
    (erased : s'.forge.forge = s.forge.forge.erase id) :
    s'.inboxHeld k = true ↔ s.inboxHeld k = true ∧ s.forge.forge.lookup id ≠ some k := by
  rw [inboxHeld_iff, inboxHeld_iff, erased]
  constructor
  · intro given
    rcases given with ⟨other, found⟩
    have differs : other ≠ id := by
      intro same
      subst same
      rw [Finmap.lookup_erase] at found
      cases found
    rw [Finmap.lookup_erase_ne differs] at found
    exact ⟨⟨other, found⟩, fun own => differs (begun.id_unique found own)⟩
  · intro given
    rcases given with ⟨⟨other, found⟩, foreign⟩
    have differs : other ≠ id := by
      intro same
      subst same
      exact foreign found
    exact ⟨other, (Finmap.lookup_erase_ne differs).trans found⟩

/-- The forge holds the sender of an inbox from the beginning of the task to the ending that is
    accepted for it. -/
theorem held_step (begun : s.Begun) (book : s.Bookkeeping) (taken : s.step a = some s') :
    s'.inboxHeld k = true ↔ s.BeginsTask k a ∨ s.inboxHeld k = true ∧ ¬ s.EndsTask k a := by
  cases step_moves taken with
  | begin capacity inside =>
    rw [held_begin book inside rfl]
    simp [BeginsTask, EndsTask]
  | @handleRunning ended pulled free unread running =>
    rw [held_ended begun rfl]
    simp [BeginsTask, EndsTask, pulled, running]
  | @handleClosed ended pulled free unread closed =>
    exact held_same rfl id (by simp [EndsTask, pulled, closed])
  | waitRegisters => exact held_same (by simp) id id
  | waitRunning | wakeCreated =>
    refine held_same ?_ id id
    rw [created_forge]
  | _ => exact held_same rfl id id

/-- A message gets into an inbox only while the inbox is open and the forge has its sender. -/
theorem inbox_still (readers : s.Readers) (taken : s.step a = some s')
    (present : s.tasks[k]? = some task)
    (shut : task.inbox.closed = true ∨ s.inboxHeld k = false) :
    ∃ task', s'.tasks[k]? = some task' ∧ Still task.inbox task'.inbox := by
  have modified : ∀ (j : InboxSender) (f : Chan Message → Chan Message),
      (j = k → Still task.inbox (f task.inbox)) →
      ∃ task', (s.tasks.modify j fun t => { t with inbox := f t.inbox })[k]? = some task' ∧
        Still task.inbox task'.inbox := by
    intro j f still
    rw [List.getElem?_modify, present]
    by_cases same : j = k
    · exact ⟨{ task with inbox := f task.inbox }, by simp [same], still same⟩
    · exact ⟨task, by simp [same], Still.refl _⟩
  cases step_moves taken with
  | begin capacity inside =>
    exact ⟨task, (List.getElem?_append_left (getElem?_lt present)).trans present, Still.refl _⟩
  | @deliverOpen i id op inbox msg target called present' opened =>
    refine modified inbox (·.push msg) fun same => ?_
    subst same
    cases present.symm.trans present'
    have held := inboxHeld_iff.mpr ⟨id, (readers i op id inbox msg called).found⟩
    rcases shut with closed | gone
    · cases opened.symm.trans closed
    · cases held.symm.trans gone
  | @receive j => exact modified j Chan.pop fun _ => Still.pop _
  | closeInbox j => exact modified j Chan.close fun _ => Still.close _
  | waitRunning | wakeCreated =>
    rw [created_eq]
    exact ⟨task, present, Still.refl _⟩
  | _ => exact ⟨task, present, Still.refl _⟩

variable {trace : List (Config Message Output × Act Message Output)}

/-- What the stream of an inbox needs of the state. -/
structure Streaming (s : Config Message Output) : Prop where
  readers : s.Readers
  begun : s.Begun
  book : s.Bookkeeping

theorem Streaming.step (inv : s.Streaming) (taken : s.step a = some s') : s'.Streaming :=
  ⟨inv.readers.step taken, inv.begun.step taken, inv.book.step taken⟩

theorem streaming_new : (Config.new : Config Message Output).Streaming :=
  ⟨readers_new, begun_new, bookkeeping_new⟩

theorem not_begins (present : s.tasks[k]? = some task) : ¬ s.BeginsTask k a := by
  have below := getElem?_lt present
  cases a with
  | begin capacity =>
    intro begins
    exact Nat.ne_of_gt below begins
  | _ => exact id

theorem stream_still (inv : s.Streaming) (taken : s.step a = some s') {inbox : Chan Message}
    (found : (s.tasks[k]?).map Task.inbox = some inbox)
    (shut : inbox.closed = true ∨ s.inboxHeld k = false) :
    ∃ inbox', (s'.tasks[k]?).map Task.inbox = some inbox' ∧ Still inbox inbox' ∧
      (s.inboxHeld k = false → s'.inboxHeld k = false) := by
  rcases Option.map_eq_some_iff.mp found with ⟨task, present, rfl⟩
  rcases inbox_still inv.readers taken present shut with ⟨task', present', still⟩
  refine ⟨task'.inbox, by rw [present']; rfl, still, fun gone => ?_⟩
  rw [← Bool.not_eq_true, held_step inv.begun inv.book taken]
  simp [gone, not_begins present]

/-- The stream of an inbox ends when the task has closed it, or when an ending has been accepted for
    the task and its messages are received; it gets no message after that. -/
theorem inbox_stream_ends (run : Run step Config.new trace s)
    (present : s.tasks[k]? = some task) :
    (s.recvInbox k = some .ended ↔ task.inbox.buffer = [] ∧ (task.inbox.closed = true ∨
        ¬ Since (fun t a => ¬ t.EndsTask k a) (fun t a => t.BeginsTask k a) trace)) ∧
      (s.recvInbox k = some .ended → ∀ later t, Run step s later t →
        t.recvInbox k = some .ended ∧
          ∃ task', t.tasks[k]? = some task' ∧ task'.inbox.sent = task.inbox.sent) := by
  have keep : ∀ (t : Config Message Output) a t', t.Streaming → t.step a = some t' →
      t'.Streaming := fun _ _ _ inv taken => inv.step taken
  have change : ∀ (t : Config Message Output) a t', t.Streaming → t.step a = some t' →
      (t'.inboxHeld k = true ↔ t.BeginsTask k a ∨ t.inboxHeld k = true ∧ ¬ t.EndsTask k a) :=
    fun _ _ _ inv taken => held_step inv.begun inv.book taken
  have held := run.since_iff keep change streaming_new
    (by simp [inboxHeld_iff, Config.new, WrappedTaskForge.new])
  have ends : s.recvInbox k = some .ended ↔ recv task.inbox (s.inboxHeld k) = .ended := by
    simp [recvInbox, present]
  refine ⟨?_, fun ended later t onward => ?_⟩
  · rw [ends, recv_ended, ← held, Bool.not_eq_true]
  · have found : (s.tasks[k]?).map Task.inbox = some task.inbox := by rw [present]; rfl
    have streaming := run.invariant keep streaming_new
    rcases ended_for_good keep
      (fun _ _ _ _ inv taken there shut => stream_still inv taken there shut)
      onward streaming found (ends.mp ended) with ⟨inbox, there, final, sent⟩
    rcases Option.map_eq_some_iff.mp there with ⟨task', present', rfl⟩
    refine ⟨?_, task', present', sent⟩
    rw [recvInbox, present']
    exact congrArg some final

def endsOnce : List (Act Nat Nat) := creates 0 1 ++ echoes 1 1 0 10 ++ ends

theorem inbox_stream_ends_once : ∃ s, exec step Config.new endsOnce = some s ∧
    s.recvInbox 0 = some .ended ∧ ∀ later t, Run step s later t → t.recvInbox 0 = some .ended := by
  obtain ⟨s, task, done, present, ended⟩ : ∃ (s : Config Nat Nat) (task : Task Nat),
      exec step Config.new endsOnce = some s ∧ s.tasks[0]? = some task ∧
        s.recvInbox 0 = some .ended := ⟨_, _, rfl, rfl, by decide⟩
  refine ⟨s, done, ended, fun later t onward => ?_⟩
  exact ((inbox_stream_ends (run_of_exec _ done) present).2 ended later t onward).1

end Config

end AsyncForge.TaskForge
