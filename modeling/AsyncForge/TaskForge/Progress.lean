import Mathlib.Data.Prod.Lex
import AsyncForge.Lib.Progress
import AsyncForge.TaskForge.CleaningReports
import AsyncForge.TaskForge.Consumers
import AsyncForge.TaskForge.CreationWaiters
import AsyncForge.TaskForge.Inboxes

/-! The forge comes to rest: steps that only go on with what has begun end, whatever their order,
    and they end with nothing left to do but to wait for a creation. -/

namespace AsyncForge.TaskForge

open AsyncForge.Channels AsyncForge.Progress AsyncForge.Removal AsyncForge.Runs

variable {Message Output : Type}

/-- Nothing new is called, created with a channel without a slot, dropped or closed. -/
def Act.goesOn : Act Message Output → Bool
  | .enter _ | .notify | .wake _ | .deliver _ | .enqueue _ | .receive _ | .take | .handle
  | .clearIfDue | .broadcast | .prune | .report | .receiveResult _ | .receiveCleaning _
  | .receiveError => true
  | .begin capacity => 0 < capacity
  | _ => false

/-- A step of the section that holds the write guard. -/
def Act.inSection : Act Message Output → Bool
  | .notify | .begin _ | .clearIfDue | .broadcast | .prune | .report => true
  | _ => false

def Phase.left : Phase Message → Nat
  | .locking => 4
  | .waiting .. => 3
  | .resuming _ => 2
  | .creating | .sending .. => 1
  | .done _ | .cancelled => 0

/-- Tokio makes no channel without a slot. -/
def Act.sized : Act Message Output → Bool
  | .begin capacity => 0 < capacity
  | _ => true

theorem Act.sized_of_goesOn {a : Act Message Output} (goes : a.goesOn = true) : a.sized = true := by
  cases a <;> first | rfl | exact goes

namespace Config

variable {s s' : Config Message Output} {a : Act Message Output}

/-- The phases the calls and the outputs have still to go through. -/
def phasesLeft (s : Config Message Output) : Nat :=
  (s.calls.map fun c => c.phase.left).sum + 3 * s.outputs.length + 2 * s.endTasks.buffer.length +
    s.pulled.toList.length

/-- The steps of the section until it releases the write guard. -/
def sectionLeft (s : Config Message Output) : Nat :=
  match s.writer with
  | none => 0
  | some (.creating _ _ senders _) => senders.length + 1
  | some (.closing _) => s.forge.outputResultSenders.length + 2
  | some (.broadcasting _ _ i _) => s.forge.outputResultSenders.length - i + 1
  | some (.reporting _) => 1

/-- The messages that wait for their receiver. -/
def buffered (s : Config Message Output) : Nat :=
  (s.tasks.map fun t => t.inbox.buffer.length).sum +
    (s.results.map fun chan => chan.buffer.length).sum +
    (s.cleanings.map fun chan => chan.buffer.length).sum + s.errors.buffer.length

def left (s : Config Message Output) : Nat ×ₗ Nat ×ₗ Nat :=
  toLex (s.phasesLeft, toLex (s.sectionLeft, s.buffered))

theorem left_of_phases (less : s'.phasesLeft < s.phasesLeft) : s'.left < s.left :=
  Prod.Lex.toLex_lt_toLex.mpr (.inl less)

theorem left_of_section (phases : s'.phasesLeft ≤ s.phasesLeft)
    (less : s'.sectionLeft < s.sectionLeft) : s'.left < s.left := by
  rcases Nat.lt_or_eq_of_le phases with less' | same
  · exact left_of_phases less'
  · exact Prod.Lex.toLex_lt_toLex.mpr (.inr ⟨same, Prod.Lex.toLex_lt_toLex.mpr (.inl less)⟩)

theorem left_of_buffered (phases : s'.phasesLeft = s.phasesLeft)
    (same : s'.sectionLeft = s.sectionLeft) (less : s'.buffered < s.buffered) :
    s'.left < s.left :=
  Prod.Lex.toLex_lt_toLex.mpr
    (.inr ⟨phases, Prod.Lex.toLex_lt_toLex.mpr (.inr ⟨same, less⟩)⟩)

theorem phases_setPhase {calls : List (Call Message)} {i : Nat} {c : Call Message}
    (called : calls[i]? = some c) (phase : Phase Message) :
    ((setPhase calls i phase).map fun c => c.phase.left).sum + c.phase.left =
      (calls.map fun c => c.phase.left).sum + phase.left :=
  sum_modify (fun c : Call Message => c.phase.left) _ called

theorem phases_done (calls : List (Call Message)) (i : Nat) (ret : Return) :
    ((setPhase calls i (.done ret)).map fun c => c.phase.left).sum ≤
      (calls.map fun c => c.phase.left).sum := by
  cases called : calls[i]? with
  | none =>
    have outside := List.getElem?_eq_none_iff.mp called
    rw [setPhase, List.modify_eq_self outside]
  | some c =>
    have moved := phases_setPhase called (.done ret)
    simp only [Phase.left] at moved ⊢
    omega

/-- A call that comes to an earlier phase leaves less to do. -/
theorem left_setPhase {i : Nat} {c : Call Message} {phase : Phase Message}
    (called : s.calls[i]? = some c) (calls : s'.calls = setPhase s.calls i phase)
    (outputs : s'.outputs = s.outputs) (endTasks : s'.endTasks = s.endTasks)
    (pulled : s'.pulled = s.pulled) (less : phase.left < c.phase.left) : s'.left < s.left := by
  have moved := phases_setPhase called phase
  apply left_of_phases
  simp only [phasesLeft, calls, outputs, endTasks, pulled]
  omega

/-- A received message leaves less in the buffers of a table. -/
theorem buffers_receive {T : Type*} {rows : List (Chan T)} {i : Nat} {chan : Chan T}
    (present : rows[i]? = some chan) (buffered : chan.buffer ≠ []) :
    ((rows.modify i Chan.pop).map fun chan => chan.buffer.length).sum <
      (rows.map fun chan => chan.buffer.length).sum := by
  have moved := sum_modify (fun chan : Chan T => chan.buffer.length) Chan.pop present
  have less := Chan.pop_length _ buffered
  omega

theorem left_receive {k : InboxSender} {t : Task Message} (present : s.tasks[k]? = some t)
    (buffered : t.inbox.buffer ≠ [])
    (tasks : s'.tasks = s.tasks.modify k fun t => { t with inbox := t.inbox.pop })
    (others : s' = { s with tasks := s'.tasks }) : s'.left < s.left := by
  have moved := sum_modify (fun t : Task Message => t.inbox.buffer.length)
    (fun t => { t with inbox := t.inbox.pop }) present
  have less := Chan.pop_length _ buffered
  rw [others]
  refine left_of_buffered rfl rfl ?_
  simp only [Config.buffered, tasks]
  dsimp only at moved
  omega

theorem left_step (goes : a.goesOn = true) (taken : s.step a = some s') : s'.left < s.left := by
  cases step_moves taken with
  | newTaskExists free unread called
  | newTaskStart free unread called
  | waitRegisters free unread called
  | waitClosed free unread called
  | redirect free unread called
  | asksEmpty free called
  | cleanCleared free unread called
  | cleanRequests free unread called =>
    exact left_setPhase called rfl rfl rfl rfl (by simp [Phase.left])
  | @waitRunning i id op free unread called =>
    cases op <;> exact left_setPhase called rfl rfl rfl rfl (by simp [Phase.left])
  | sendStart free called sends | sendMissing free called sends =>
    rcases sends with rfl | ⟨observed, rfl⟩ <;>
      exact left_setPhase called rfl rfl rfl rfl (by simp [Phase.left])
  | @wakeCreated i id op waiter task chan rest called =>
    cases op <;> exact left_setPhase called rfl rfl rfl rfl (by simp [Phase.left])
  | wakeDropped called => exact left_setPhase called rfl rfl rfl rfl (by simp [Phase.left])
  | deliverClosed called => exact left_setPhase called rfl rfl rfl rfl (by simp [Phase.left])
  | deliverOpen called => exact left_setPhase called rfl rfl rfl rfl (by simp [Phase.left])
  | enqueue pending room =>
    have bound := getElem?_lt pending
    apply left_of_phases
    simp only [phasesLeft, Chan.push, List.length_append, List.length_singleton,
      List.length_eraseIdx_of_lt bound]
    omega
  | take listening buffered =>
    apply left_of_phases
    simp only [phasesLeft, buffered, pulled_of_listening listening, Chan.pop, Option.toList_none,
      Option.toList_some, List.length_nil, List.length_cons, List.drop_succ_cons, List.drop_zero]
    omega
  | handleClosed pulled | handleRunning pulled =>
    apply left_of_phases
    simp [phasesLeft, pulled]
  | notifyClosed inside | notifyOpen inside =>
    exact left_of_section (Nat.le_refl _) (by simp [sectionLeft, inside])
  | @begin i id result capacity inside =>
    refine left_of_section ?_ (by simp [sectionLeft, inside])
    have less := phases_done s.calls i (.result result)
    simp only [phasesLeft]
    omega
  | notDue inside | clearLost inside | clearNotified inside =>
    exact left_of_section (Nat.le_refl _)
      (by simp [sectionLeft, inside, WrappedTaskForge.clearEnded])
  | broadcastClosed inside current | broadcastOpen inside current =>
    have bound := getElem?_lt current
    refine left_of_section (Nat.le_refl _) ?_
    simp only [sectionLeft, inside]
    omega
  | prune inside | reportLogged inside | reportSent inside =>
    exact left_of_section (Nat.le_refl _) (by simp [sectionLeft, inside])
  | receive present buffered =>
    exact left_receive present (by simpa using buffered) rfl rfl
  | receiveResult receiver =>
    rcases Option.map_eq_some_iff.mp taken with ⟨results, received, -⟩
    rcases receiveAt_buffered received with ⟨chan, present, buffered⟩
    have less := buffers_receive present buffered
    refine left_of_buffered rfl rfl ?_
    simp only [Config.buffered]
    omega
  | receiveCleaning receiver =>
    rcases Option.map_eq_some_iff.mp taken with ⟨results, received, -⟩
    rcases receiveAt_buffered received with ⟨chan, present, buffered⟩
    have less := buffers_receive present buffered
    refine left_of_buffered rfl rfl ?_
    simp only [Config.buffered]
    omega
  | receiveError =>
    have buffered : s.errors.buffer ≠ [] := by
      intro empty
      simp [step, empty] at taken
    have less := Chan.pop_length _ buffered
    refine left_of_buffered rfl rfl ?_
    simp only [Config.buffered]
    omega
  | call | cancelWaiting | cancel | output | closeInbox | closeResult | closeCleaning
  | closeErrors => cases goes

/-- Every channel has a slot. -/
structure Sized (s : Config Message Output) : Prop where
  endTasks : 0 < s.endTasks.capacity
  errors : 0 < s.errors.capacity
  results : ∀ chan ∈ s.results, 0 < chan.capacity
  cleanings : ∀ chan ∈ s.cleanings, 0 < chan.capacity
  inboxes : ∀ t ∈ s.tasks, 0 < t.inbox.capacity

theorem sized_new : (Config.new : Config Message Output).Sized := by
  constructor <;> simp [Config.new, channelSize]

theorem Sized.step (inv : s.Sized) (sized : a.sized = true) (taken : s.step a = some s') :
    s'.Sized := by
  have slot : 0 < channelSize := by simp [channelSize]
  cases step_moves taken with
  | redirect => exact { inv with results := forall_mem_concat inv.results slot }
  | cleanCleared => exact { inv with cleanings := forall_mem_concat inv.cleanings slot }
  | cleanRequests => exact { inv with cleanings := forall_mem_concat inv.cleanings slot }
  | begin capacity inside =>
    have some : 0 < capacity := by simpa [Act.sized] using sized
    exact { inv with inboxes := forall_mem_concat inv.inboxes some }
  | deliverOpen | receive | closeInbox =>
    exact { inv with inboxes := forall_mem_modify inv.inboxes fun _ _ pos => pos }
  | broadcastOpen | receiveResult | closeResult =>
    exact { inv with results := forall_mem_modify inv.results fun _ _ pos => pos }
  | clearNotified | receiveCleaning | closeCleaning =>
    exact { inv with cleanings := forall_mem_modify inv.cleanings fun _ _ pos => pos }
  | waitRunning | wakeCreated =>
    rw [created_eq]
    exact { inv with }
  | _ => exact { inv with }

/-- A call inside `new_task` holds the write guard. -/
def Creators (s : Config Message Output) : Prop :=
  ∀ (i : Nat) op, s.calls[i]? = some ⟨op, .creating⟩ →
    ∃ id senders r, s.writer = some (.creating i id senders r)

theorem creators_setPhase {i j : Nat} {op : Op Message} {phase : Phase Message}
    (other : phase ≠ .creating)
    (after : (setPhase s.calls j phase)[i]? = some ⟨op, .creating⟩) :
    j ≠ i ∧ s.calls[i]? = some ⟨op, .creating⟩ := by
  rcases setPhase_getElem? after with ⟨-, _, -, same⟩ | ⟨apart, before⟩
  · cases same
    exact absurd rfl other
  · exact ⟨apart, before⟩

theorem Creators.step (inv : s.Creators) (taken : s.step a = some s') : s'.Creators := by
  intro i op after
  cases step_moves taken with
  | call op' =>
    simp only [getElem?_concat] at after
    split at after
    · cases after
    · exact inv i op after
  | newTaskExists | waitRegisters | waitClosed | redirect | asksEmpty | cleanCleared
  | cleanRequests | sendStart | sendMissing | wakeDropped | deliverClosed | deliverOpen
  | cancelWaiting | cancel => exact inv i op (creators_setPhase (by simp) after).2
  | @waitRunning j id op' =>
    rw [created_writer]
    cases op' <;> exact inv i op (creators_setPhase (by simp) after).2
  | @wakeCreated j id op' =>
    rw [created_writer]
    cases op' <;> exact inv i op (creators_setPhase (by simp) after).2
  | newTaskStart free unread called =>
    rcases setPhase_getElem? after with ⟨rfl, -⟩ | ⟨-, before⟩
    · exact ⟨_, _, _, rfl⟩
    · rcases inv i op before with ⟨id, senders, r, inside⟩
      cases free.symm.trans inside
  | notifyClosed within | notifyOpen within =>
    rcases inv i op after with ⟨id, senders, r, inside⟩
    cases within.symm.trans inside
    exact ⟨_, _, _, rfl⟩
  | begin capacity within =>
    rcases creators_setPhase (by simp) after with ⟨apart, before⟩
    rcases inv i op before with ⟨id, senders, r, inside⟩
    cases within.symm.trans inside
    exact absurd rfl apart
  | handleClosed pulled free | handleRunning pulled free =>
    rcases inv i op after with ⟨id, senders, r, inside⟩
    cases free.symm.trans inside
  | notDue within
  | clearLost within
  | clearNotified within
  | broadcastClosed within
  | broadcastOpen within
  | prune within
  | reportLogged within
  | reportSent within =>
    rcases inv i op after with ⟨id, senders, r, inside⟩
    cases within.symm.trans inside
  | _ => exact inv i op after

/-- Only a `wait_and_send` goes on to a second section. -/
def Resumers (s : Config Message Output) : Prop :=
  ∀ (i : Nat) op k, s.calls[i]? = some ⟨op, .resuming k⟩ → ∃ id msg, op = .waitAndSend id msg

theorem resumers_setPhase {i j : Nat} {op : Op Message} {k : Option InboxSender}
    {phase : Phase Message} (other : ∀ k, phase ≠ .resuming k)
    (after : (setPhase s.calls j phase)[i]? = some ⟨op, .resuming k⟩) :
    s.calls[i]? = some ⟨op, .resuming k⟩ := by
  rcases setPhase_getElem? after with ⟨-, _, -, same⟩ | ⟨-, before⟩
  · cases same
    exact absurd rfl (other k)
  · exact before

theorem Resumers.created (inv : s.Resumers) {j : Nat} {op' : Op Message} {phase : Phase Message}
    (called : s.calls[j]? = some ⟨op', phase⟩) (observed : Option InboxSender) :
    (s.created j op' observed).Resumers := by
  intro i op k after
  cases op' with
  | waitAndSend id msg =>
    rcases setPhase_getElem? after with ⟨rfl, c, called', same⟩ | ⟨-, before⟩
    · cases called.symm.trans called'
      cases same
      exact ⟨id, msg, rfl⟩
    · exact inv i op k before
  | _ => exact inv i op k (resumers_setPhase (by simp) after)

theorem Resumers.step (inv : s.Resumers) (taken : s.step a = some s') : s'.Resumers := by
  cases step_moves taken with
  | call op' =>
    intro i op k after
    simp only [getElem?_concat] at after
    split at after
    · cases after
    · exact inv i op k after
  | newTaskExists | newTaskStart | waitRegisters | waitClosed | redirect | asksEmpty | cleanCleared
  | cleanRequests | sendStart | sendMissing | begin | wakeDropped | deliverClosed | deliverOpen
  | cancelWaiting | cancel =>
    exact fun i op k after => inv i op k (resumers_setPhase (by simp) after)
  | waitRunning free unread called => exact inv.created called _
  | @wakeCreated i id op waiter task chan rest called =>
    have before : Resumers { s with waiters := s.waiters.modify waiter Chan.pop } := inv
    exact before.created called _
  | _ => exact inv

theorem clear_goes {ended : TaskOutput Output} (present : s.Present) (heard : s.HeardOnce)
    (sized : s.Sized) (inside : s.writer = some (.closing ended)) :
    (s.step .clearIfDue).isSome = true := by
  cases due : s.forge.shouldClear with
  | false => simp [Config.step, clearIfDue, inside, due]
  | true =>
    rcases (WrappedTaskForge.shouldClear_iff _).mp due with ⟨notifier, awaited, pending, -⟩
    rcases getElem?_exists (present notifier ⟨awaited, pending⟩) with ⟨chan, found⟩
    have unsent := heard.unsent notifier ⟨awaited, pending⟩
    have slot := sized.cleanings _ (List.mem_of_getElem? found)
    have room : chan.full = false := by
      simp only [heardCount, found, Option.map_some, Option.getD_some, Chan.sent,
        List.length_append] at unsent
      simp only [Chan.full, decide_eq_false_iff_not]
      omega
    cases closed : chan.closed <;>
      simp [Config.step, clearIfDue, inside, due, pending, found, closed, room]

theorem broadcast_goes {ended : TaskOutput Output} {hasCleared : Bool} {i : Nat}
    {sendersToRemove : List Nat} (wired : s.Wired)
    (inside : s.writer = some (.broadcasting ended hasCleared i sendersToRemove)) :
    (s.step .broadcast).isSome = true ∨ (s.step .prune).isSome = true ∨
      ∃ source, s.sendsLeft.head? = some source ∧ s.backlogged source = true := by
  rcases Nat.lt_or_eq_of_le (wired.reached _ _ _ _ inside) with before | ends
  · rcases getElem?_exists before with ⟨sender, current⟩
    rcases getElem?_exists (wired.present sender (List.mem_of_getElem? current)) with
      ⟨chan, found⟩
    by_cases waits : chan.closed = false ∧ chan.full = true
    · refine .inr (.inr ⟨.redirection sender, ?_, by simp [backlogged, found, waits]⟩)
      simp [sendsLeft, inside, List.head?_drop, current]
    · left
      cases closed : chan.closed with
      | true => simp [Config.step, broadcast, inside, current, found, closed]
      | false =>
        have room : chan.full = false := by simpa [closed] using waits
        simp [Config.step, broadcast, inside, current, found, closed, room]
  · have bound : ∀ j ∈ sendersToRemove, j < s.forge.outputResultSenders.length :=
      fun j member => ends ▸ (wired.collected _ _ _ _ inside j member).1
    have removed := remove_reverse (wired.sorted _ _ _ _ inside) bound
    exact .inr (.inl (by simp [Config.step, prune, inside, ends, removed]))

theorem report_goes {e : ForgeError} (inside : s.writer = some (.reporting e)) :
    (s.step .report).isSome = true ∨
      ∃ source, s.sendsLeft.head? = some source ∧ s.backlogged source = true := by
  cases closed : s.errors.closed with
  | true => exact .inl (by simp [Config.step, report, inside, closed])
  | false =>
    cases full : s.errors.full with
    | true => exact .inr ⟨.errors, by simp [sendsLeft, inside], by simp [backlogged, closed, full]⟩
    | false => exact .inl (by simp [Config.step, report, inside, closed, full])

/-- A section is held up only by a full channel of a redirection or of the errors. -/
theorem section_goes (waiters : s.Waiters) (wired : s.Wired) (present : s.Present)
    (heard : s.HeardOnce) (sized : s.Sized) (held : s.writer ≠ none) :
    (∃ a, a.inSection = true ∧ a.goesOn = true ∧ (s.step a).isSome = true) ∨
      ∃ source, s.sendsLeft.head? = some source ∧ s.backlogged source = true := by
  cases inside : s.writer with
  | none => exact absurd inside held
  | some sec =>
    cases sec with
    | creating i id senders r =>
      left
      cases senders with
      | nil => exact ⟨.begin 1, rfl, rfl, by simp [Config.step, begin, inside]⟩
      | cons waiter senders =>
        exact ⟨.notify, rfl, rfl, Option.isSome_iff_exists.mpr (notify_enabled waiters inside)⟩
    | closing ended => exact .inl ⟨.clearIfDue, rfl, rfl, clear_goes present heard sized inside⟩
    | broadcasting ended hasCleared i sendersToRemove =>
      rcases broadcast_goes wired inside with sends | prunes | waits
      · exact .inl ⟨.broadcast, rfl, rfl, sends⟩
      · exact .inl ⟨.prune, rfl, rfl, prunes⟩
      · exact .inr waits
    | reporting e =>
      rcases report_goes inside with reports | waits
      · exact .inl ⟨.report, rfl, rfl, reports⟩
      · exact .inr waits

/-- The receiver of a full channel can make room. -/
theorem source_goes (sized : s.Sized) {source : Source} (full : s.backlogged source = true) :
    ∃ a, a.goesOn = true ∧ (s.step a).isSome = true := by
  cases source with
  | redirection receiver =>
    simp only [backlogged, Option.any_eq_true, Bool.and_eq_true] at full
    rcases full with ⟨chan, found, -, full⟩
    have buffered := Chan.buffered_of_full _ (sized.results chan (List.mem_of_getElem? found)) full
    exact ⟨.receiveResult receiver, rfl, by simp [Config.step, receiveAt, found, buffered]⟩
  | errors =>
    simp only [backlogged, Bool.and_eq_true] at full
    have buffered := Chan.buffered_of_full _ sized.errors full.2
    exact ⟨.receiveError, rfl, by simp [Config.step, buffered]⟩

theorem send_goes {i : Nat} {op : Op Message} {id : OpId} {k : InboxSender} {msg : Message}
    (readers : s.Readers) (begun : s.Begun) (sized : s.Sized)
    (called : s.calls[i]? = some ⟨op, .sending id k msg⟩) :
    ∃ a, a.goesOn = true ∧ (s.step a).isSome = true := by
  rcases begun id k (readers i op id k msg called).found with ⟨task, present, -⟩
  cases closed : task.inbox.closed with
  | true => exact ⟨.deliver i, rfl, by simp [Config.step, deliver, called, present, closed]⟩
  | false =>
    cases full : task.inbox.full with
    | true =>
      have slot := sized.inboxes task (List.mem_of_getElem? present)
      have buffered := Chan.buffered_of_full _ slot full
      exact ⟨.receive k, rfl, by simp [Config.step, receive, present, buffered]⟩
    | false =>
      exact ⟨.deliver i, rfl, by simp [Config.step, deliver, called, present, closed, full]⟩

theorem sending_of_read (read : s.unread = false) :
    ∃ (i : Nat) (op : Op Message) (id : OpId) (k : InboxSender) (msg : Message),
      s.calls[i]? = some ⟨op, .sending id k msg⟩ := by
  simp only [unread, List.all_eq_false, Bool.not_eq_true', Bool.not_eq_false] at read
  rcases read with ⟨⟨op, phase⟩, member, sends⟩
  rcases List.mem_iff_getElem?.mp member with ⟨i, called⟩
  cases phase with
  | sending id k msg => exact ⟨i, op, id, k, msg, called⟩
  | _ => cases sends

/-- A call that waits for a guard gets it when nobody holds one. -/
theorem enter_goes {i : Nat} {op : Op Message} {phase : Phase Message} (resumers : s.Resumers)
    (free : s.writer = none) (unread : s.unread = true) (called : s.calls[i]? = some ⟨op, phase⟩)
    (waits : phase.waitsLock = true) : (s.step (.enter i)).isSome = true := by
  cases phase with
  | locking => cases op <;> simp [Config.step, enter, free, called, unread]
  | resuming k =>
    rcases resumers i op k called with ⟨id, msg, rfl⟩
    simp [Config.step, enter, free, called]
  | _ => cases waits

/-- A wait ends when its waiter has been notified or dropped. -/
theorem wake_goes {i : Nat} {op : Op Message} {id : OpId} {waiter : Nat} {chan : Chan InboxSender}
    (called : s.calls[i]? = some ⟨op, .waiting id waiter⟩)
    (found : s.waiters[waiter]? = some chan) (ready : chan.buffer ≠ [] ∨ ¬ s.Held waiter) :
    (s.step (.wake i)).isSome = true := by
  cases buffered : chan.buffer with
  | cons task rest => simp [Config.step, wake, called, found, buffered]
  | nil =>
    have dropped : ¬ s.Held waiter := by simpa [buffered] using ready
    simp [Config.step, wake, called, found, buffered, dropped]

/-- Nothing is left to do but to wait for the creation of a task that has no record. -/
structure Quiet (s : Config Message Output) : Prop where
  writer : s.writer = none
  pulled : s.pulled = none
  endTasks : s.endTasks.buffer = []
  outputs : s.outputs = []
  inboxes : ∀ t ∈ s.tasks, t.inbox.buffer = []
  results : ∀ chan ∈ s.results, chan.buffer = []
  cleanings : ∀ chan ∈ s.cleanings, chan.buffer = []
  errors : s.errors.buffer = []
  calls : ∀ (i : Nat) op phase, s.calls[i]? = some ⟨op, phase⟩ → phase.finished = true ∨
    ∃ id waiter, phase = .waiting id waiter ∧ WaitsFor op id ∧ s.forge.taskStates.lookup id = none

/-- What is known of every reachable state. -/
structure Steady (s : Config Message Output) : Prop where
  waiters : s.Waiters
  wired : s.Wired
  present : s.Present
  heard : s.HeardOnce
  awaited : s.forge.Awaited
  readers : s.Readers
  begun : s.Begun
  creators : s.Creators
  resumers : s.Resumers
  sized : s.Sized

theorem steady_new : (Config.new : Config Message Output).Steady := by
  refine ⟨waiters_new, wired_new, present_new, heardOnce_new, ?_, readers_new, begun_new, ?_, ?_,
    sized_new⟩
  · exact awaited_reachable ⟨[], .nil⟩
  · intro i op called
    simp [Config.new] at called
  · intro i op k called
    simp [Config.new] at called

theorem Steady.step (inv : s.Steady) (sized : a.sized = true) (taken : s.step a = some s') :
    s'.Steady :=
  ⟨inv.waiters.step taken, inv.wired.step taken, inv.present.step taken, inv.heard.step taken,
    awaited_step inv.awaited taken, inv.readers.step taken, inv.begun.step taken,
    inv.creators.step taken, inv.resumers.step taken, inv.sized.step sized taken⟩

/-- No step that goes on is enabled. -/
def Stuck (s : Config Message Output) : Prop := ∀ a, a.goesOn = true → s.step a = none

theorem Stuck.absurd (stuck : s.Stuck) (goes : ∃ a, a.goesOn = true ∧ (s.step a).isSome = true) :
    False := by
  rcases goes with ⟨a, goes, some⟩
  rw [stuck a goes] at some
  cases some

theorem Stuck.free (stuck : s.Stuck) (inv : s.Steady) : s.writer = none := by
  by_contra held
  rcases section_goes inv.waiters inv.wired inv.present inv.heard inv.sized held with
    ⟨a, -, goes⟩ | ⟨source, -, full⟩
  · exact stuck.absurd ⟨a, goes⟩
  · exact stuck.absurd (source_goes inv.sized full)

theorem Stuck.unread (stuck : s.Stuck) (inv : s.Steady) : s.unread = true := by
  by_contra held
  rcases sending_of_read (by simpa using held) with ⟨i, op, id, k, msg, called⟩
  exact stuck.absurd (send_goes inv.readers inv.begun inv.sized called)

theorem Stuck.endTasks (stuck : s.Stuck) (inv : s.Steady) :
    s.pulled = none ∧ s.endTasks.buffer = [] ∧ s.outputs = [] := by
  have free := stuck.free inv
  have unread := stuck.unread inv
  have unpulled : s.pulled = none := by
    by_contra pulled
    rcases Option.ne_none_iff_exists'.mp pulled with ⟨ended, pulled⟩
    refine stuck.absurd ⟨.handle, rfl, ?_⟩
    by_cases running : s.forge.taskStates.lookup ended.id = some .running <;>
      simp [Config.step, handle, pulled, free, unread, running]
  have drained : s.endTasks.buffer = [] := by
    by_contra buffered
    rcases List.exists_cons_of_ne_nil buffered with ⟨ended, rest, buffered⟩
    exact stuck.absurd
      ⟨.take, rfl, by simp [Config.step, take, listening, free, unpulled, buffered]⟩
  refine ⟨unpulled, drained, ?_⟩
  by_contra pending
  rcases List.exists_cons_of_ne_nil pending with ⟨ended, rest, pending⟩
  have slot := inv.sized.endTasks
  have room : s.endTasks.full = false := by
    simp only [Chan.full, drained, List.length_nil, decide_eq_false_iff_not]
    omega
  exact stuck.absurd ⟨.enqueue 0, rfl, by simp [Config.step, enqueue, pending, room]⟩

/-- Every message that was sent has been received. -/
theorem Stuck.received (stuck : s.Stuck) :
    (∀ t ∈ s.tasks, t.inbox.buffer = []) ∧ (∀ chan ∈ s.results, chan.buffer = []) ∧
      (∀ chan ∈ s.cleanings, chan.buffer = []) ∧ s.errors.buffer = [] := by
  refine ⟨?_, ?_, ?_, ?_⟩
  · intro t member
    by_contra buffered
    rcases List.mem_iff_getElem?.mp member with ⟨k, present⟩
    exact stuck.absurd ⟨.receive k, rfl, by simp [Config.step, receive, present, buffered]⟩
  · intro chan member
    by_contra buffered
    rcases List.mem_iff_getElem?.mp member with ⟨receiver, present⟩
    exact stuck.absurd
      ⟨.receiveResult receiver, rfl, by simp [Config.step, receiveAt, present, buffered]⟩
  · intro chan member
    by_contra buffered
    rcases List.mem_iff_getElem?.mp member with ⟨receiver, present⟩
    exact stuck.absurd
      ⟨.receiveCleaning receiver, rfl, by simp [Config.step, receiveAt, present, buffered]⟩
  · by_contra buffered
    exact stuck.absurd ⟨.receiveError, rfl, by simp [Config.step, buffered]⟩

theorem Stuck.waits (stuck : s.Stuck) (inv : s.Steady) {i : Nat} {op : Op Message} {id : OpId}
    {waiter : Nat} (called : s.calls[i]? = some ⟨op, .waiting id waiter⟩) :
    s.forge.taskStates.lookup id = none := by
  rcases inv.waiters.opened i op id waiter called with ⟨_, _, chan, found, -⟩
  have held : s.Held waiter := by
    by_contra dropped
    exact stuck.absurd ⟨.wake i, rfl, wake_goes called found (.inr dropped)⟩
  rcases held with ⟨other, key, member⟩ | notified
  · obtain rfl := inv.waiters.registered i op id waiter called other member
    exact Finmap.lookup_eq_none.mpr (inv.awaited other (Finmap.mem_keys.mp key))
  · simp [notifying, stuck.free inv] at notified

theorem Stuck.quiet (stuck : s.Stuck) (inv : s.Steady) : s.Quiet := by
  have free := stuck.free inv
  have unread := stuck.unread inv
  rcases stuck.endTasks inv with ⟨unpulled, drained, issued⟩
  rcases stuck.received with ⟨inboxes, results, cleanings, errors⟩
  refine ⟨free, unpulled, drained, issued, inboxes, results, cleanings, errors, ?_⟩
  intro i op phase called
  cases phase with
  | locking =>
    exact (stuck.absurd ⟨.enter i, rfl, enter_goes inv.resumers free unread called rfl⟩).elim
  | resuming k =>
    exact (stuck.absurd ⟨.enter i, rfl, enter_goes inv.resumers free unread called rfl⟩).elim
  | creating =>
    rcases inv.creators i op called with ⟨id, senders, r, inside⟩
    cases free.symm.trans inside
  | sending id k msg => cases unread.symm.trans (read_of_sending called)
  | waiting id waiter =>
    have kind := (inv.waiters.bound i op id waiter called).2
    exact .inr ⟨id, waiter, rfl, kind, stuck.waits inv called⟩
  | done ret => exact .inl rfl
  | cancelled => exact .inl rfl

theorem steady_run {trace : List (Config Message Output × Act Message Output)}
    (run : Run step Config.new trace s) (sized : Along (fun _ a => a.sized) trace) : s.Steady :=
  run.invariant_along (fun _ _ _ inv sized taken => Steady.step inv sized taken) sized steady_new

/-- While a guard is held, only its own section comes nearer to its end, and no other step takes it
    further away. -/
theorem sectionLeft_step (held : s.writer ≠ none) (taken : s.step a = some s') :
    s'.sectionLeft ≤ s.sectionLeft ∧ (a.inSection = true → s'.sectionLeft < s.sectionLeft) := by
  cases step_moves taken with
  | notifyClosed inside | notifyOpen inside | begin capacity inside | prune inside
  | reportLogged inside | reportSent inside => simp [sectionLeft, inside]
  | notDue inside | clearLost inside | clearNotified inside =>
    simp [sectionLeft, inside, WrappedTaskForge.clearEnded]
  | broadcastClosed inside current | broadcastOpen inside current =>
    have bound := getElem?_lt current
    simp only [sectionLeft, inside]
    omega
  | newTaskStart free | redirect free | handleClosed pulled free | handleRunning pulled free =>
    exact absurd free held
  | waitRegisters free => exact absurd free held
  | waitRunning | wakeCreated =>
    rw [created_eq]
    exact ⟨Nat.le_refl _, fun own => by cases own⟩
  | _ => exact ⟨Nat.le_refl _, fun own => by cases own⟩

variable {trace later : List (Config Message Output × Act Message Output)}

/-- Whatever the order of the steps that go on, they end, and they end at rest. The tasks and the
    consumers receive at any time, also while an output or a call of their own waits. -/
theorem forge_comes_to_rest (run : Run step Config.new trace s)
    (sized : Along (fun _ a => a.sized) trace) :
    (WellFounded fun (t' t : Config Message Output) => ∃ a, a.goesOn = true ∧ t.step a = some t') ∧
      (∀ later t, Run step s later t → Along (fun _ a => a.goesOn) later →
        (∀ a, a.goesOn = true → t.step a = none) → t.Quiet) ∧
      ∃ later t, Run step s later t ∧ Along (fun _ a => a.goesOn) later ∧ t.Quiet := by
  have steady := steady_run run sized
  have keep : ∀ (t : Config Message Output) a t', t.Steady → a.goesOn = true → t.step a = some t' →
      t'.Steady := fun _ _ _ inv goes taken => inv.step (Act.sized_of_goesOn goes) taken
  refine ⟨?_, ?_, ?_⟩
  · refine Subrelation.wf ?_ (InvImage.wf left wellFounded_lt)
    intro t' t given
    rcases given with ⟨a, goes, taken⟩
    exact left_step goes taken
  · intro later t onward goes stuck
    exact Stuck.quiet stuck (onward.invariant_along keep goes steady)
  · refine settles left keep ?_ s steady
    intro t inv loud
    by_contra stuck
    refine loud (Stuck.quiet (fun a goes => ?_) inv)
    by_contra moves
    rcases Option.ne_none_iff_exists'.mp moves with ⟨t', taken⟩
    exact stuck ⟨a, t', goes, taken, left_step goes taken⟩

/-- A section that holds the write guard goes on unless the channel it sends to is full, and it is
    over after a bounded number of its own steps. -/
theorem section_ends (run : Run step Config.new trace s)
    (sized : Along (fun _ a => a.sized) trace) (held : s.writer ≠ none) :
    ((∃ a, a.inSection = true ∧ (s.step a).isSome = true) ∨
        ∃ source, s.sendsLeft.head? = some source ∧ s.backlogged source = true) ∧
      ∀ later t, Run step s later t → Along (fun u _ => u.writer ≠ none) later →
        (later.countP fun e => e.2.inSection) + t.sectionLeft ≤ s.sectionLeft := by
  have steady := steady_run run sized
  constructor
  · rcases section_goes steady.waiters steady.wired steady.present steady.heard steady.sized held
      with ⟨a, own, -, goes⟩ | waits
    · exact .inl ⟨a, own, goes⟩
    · exact .inr waits
  · intro later t onward inside
    exact counted (fun _ a => a.inSection)
      (fun u a u' held taken => (sectionLeft_step held taken).1)
      (fun u a u' held own taken => (sectionLeft_step held taken).2 own) onward inside

/-- A task is to be created and a message sent to it. -/
def startsAndSends : List (Act Nat Nat) := [.call (.newTask 1), .enter 0, .call (.send 1 10)]

theorem forge_comes_to_rest_from_creation : ∃ s, exec step Config.new startsAndSends = some s ∧
    ∃ later t, Run step s later t ∧ Along (fun _ a => a.goesOn) later ∧ t.Quiet := by
  obtain ⟨s, done⟩ : ∃ s : Config Nat Nat, exec step Config.new startsAndSends = some s := ⟨_, rfl⟩
  have sized : Along (fun (_ : Config Nat Nat) a => a.sized)
    (traceOf step Config.new startsAndSends) := by decide
  rcases forge_comes_to_rest (run_of_exec _ done) sized with ⟨-, -, rests⟩
  exact ⟨s, done, rests⟩

theorem section_ends_in_creation : ∃ s a, exec step Config.new startsAndSends = some s ∧
    a.inSection = true ∧ (s.step a).isSome = true := by
  obtain ⟨s, done, held, unsent⟩ : ∃ s : Config Nat Nat,
    exec step Config.new startsAndSends = some s ∧ s.writer ≠ none ∧ s.sendsLeft = [] :=
    ⟨_, rfl, by decide, rfl⟩
  have sized : Along (fun (_ : Config Nat Nat) a => a.sized)
    (traceOf step Config.new startsAndSends) := by decide
  rcases (section_ends (run_of_exec _ done) sized held).1 with ⟨a, own, goes⟩ | ⟨source, left, -⟩
  · exact ⟨s, a, done, own, goes⟩
  · simp [unsent] at left

end Config

end AsyncForge.TaskForge
