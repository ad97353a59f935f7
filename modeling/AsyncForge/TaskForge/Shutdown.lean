import AsyncForge.Lib.Ownership
import AsyncForge.TaskForge.Consumers
import AsyncForge.TaskForge.Interruption
import AsyncForge.TaskForge.WaitingCalls

/-! The forge with those who hold it: its clones, the interfaces of its tasks and its listener. A
    clone or an interface is dropped only when no method of it is running, and the listener returns
    when its `recv` yields `None`. -/

namespace AsyncForge.TaskForge

open AsyncForge.Channels AsyncForge.Ownership AsyncForge.Runs Relation

variable {Message Output : Type}

/-- `clones` says of every clone so far whether it is live, `callers` names the clone of every
    call, and `interfaces` lists the tasks whose interface is live. -/
structure Shared (Message Output : Type) where
  config : Config Message Output
  clones : List Bool
  callers : List Nat
  interfaces : List InboxSender
  listener : Bool

inductive Use (Message Output : Type)
  -- A method is called on the clone number `k`.
  | call (k : Nat) (op : Op Message)
  -- Any other step of the forge.
  | deed (d : Deed Message Output)
  -- The clone number `k` is cloned, or dropped.
  | clone (k : Nat)
  | drop (k : Nat)
  -- A task drops the future of a call of `TaskInterface::output`, or its interface.
  | dropOutput (i : Nat)
  | dropInterface (task : InboxSender)
  -- The listener returns.
  | exit
  deriving DecidableEq

def Act.ofListener : Act Message Output → Bool
  | .take | .handle | .clearIfDue | .broadcast | .prune | .report => true
  | _ => false

namespace Config

variable {s s' : Config Message Output} {a : Act Message Output} {d : Deed Message Output}

theorem Wired.occur (inv : s.Wired) (taken : s.occur d = some s') : s'.Wired := by
  cases d with
  | act a => exact inv.step taken
  | exit e =>
    rcases exit_abandons taken with ⟨i, rfl, -⟩
    exact inv.of_same rfl rfl (.inr fun _ _ _ _ inside => by cases inside)

theorem CreatorCalled.occur (inv : s.CreatorCalled) (taken : s.occur d = some s') :
    s'.CreatorCalled := by
  cases d with
  | act a => exact inv.step taken
  | exit e =>
    rcases exit_abandons taken with ⟨i, rfl, -⟩
    intro j id senders r inside
    cases inside

theorem outputs_occur (taken : s.occur d = some s') :
    ∀ e ∈ s'.outputs, e ∈ s.outputs ∨ ∃ out, d = .act (.output e.producer out) := by
  intro e member
  cases d with
  | act a =>
    cases step_moves taken with
    | waitRunning | wakeCreated =>
      rw [created_eq] at member
      exact .inl member
    | output out present =>
      rcases List.mem_append.mp member with before | last
      · exact .inl before
      · obtain rfl := List.mem_singleton.mp last
        exact .inr ⟨out, rfl⟩
    | enqueue pending room => exact .inl (List.mem_of_mem_eraseIdx member)
    | _ => exact .inl member
  | exit e =>
    rcases exit_abandons taken with ⟨i, rfl, -⟩
    exact .inl member

/-- The end-task channel is never closed, and its queue grows by a waiting output only. -/
theorem endTasks_occur (taken : s.occur d = some s') :
    s'.endTasks.closed = s.endTasks.closed ∧
      (s.outputs = [] → s.endTasks.buffer = [] → s'.endTasks.buffer = []) := by
  cases d with
  | act a =>
    cases step_moves taken with
    | waitRunning | wakeCreated =>
      rw [created_eq]
      exact ⟨rfl, fun _ drained => drained⟩
    | enqueue pending room =>
      refine ⟨rfl, fun quiet => ?_⟩
      rw [quiet] at pending
      cases pending
    | take listening buffered =>
      refine ⟨rfl, fun _ drained => ?_⟩
      cases buffered.symm.trans drained
    | _ => exact ⟨rfl, fun _ drained => drained⟩
  | exit e =>
    rcases exit_abandons taken with ⟨i, rfl, -⟩
    exact ⟨rfl, fun _ drained => drained⟩

theorem calls_occur (uncalled : ∀ op, d ≠ .act (.call op)) (taken : s.occur d = some s') :
    s'.calls.length = s.calls.length := by
  cases d with
  | act a =>
    rcases Fed.calls_length taken with same | ⟨op, rfl, -⟩
    · exact same
    · exact absurd rfl (uncalled op)
  | exit e =>
    rcases exit_abandons taken with ⟨i, rfl, -⟩
    exact List.length_modify ..

theorem finished_stays (inv : s.CreatorCalled) {i : Nat} {c : Call Message}
    (called : s.calls[i]? = some c) (finished : c.phase.finished = true)
    (taken : s.occur d = some s') : s'.calls[i]? = some c := by
  rcases c with ⟨op, phase⟩
  cases d with
  | act a =>
    apply inv.over_stays taken called
    cases phase with
    | done ret => exact .inr ⟨ret, rfl⟩
    | cancelled => exact .inl rfl
    | _ => cases finished
  | exit e =>
    rcases exit_abandons taken with ⟨j, rfl, id, senders, r, inside⟩
    have apart : j ≠ i := by
      intro same
      subst same
      cases called.symm.trans (inv j id senders r inside)
      cases finished
    exact (List.getElem?_modify_ne _ _ apart).trans called

/-- An unfinished call was unfinished before the step, unless the step calls it. -/
theorem unfinished_before (inv : s.CreatorCalled) (uncalled : ∀ op, d ≠ .act (.call op))
    (taken : s.occur d = some s') {i : Nat} {c : Call Message} (called : s'.calls[i]? = some c)
    (unfinished : c.phase.finished = false) :
    ∃ before, s.calls[i]? = some before ∧ before.phase.finished = false := by
  have found := List.getElem?_eq_getElem (calls_occur uncalled taken ▸ getElem?_lt called)
  refine ⟨_, found, ?_⟩
  by_contra finished
  have kept := finished_stays inv found (by simpa using finished) taken
  rw [Option.some.inj (called.symm.trans kept)] at unfinished
  exact finished unfinished

end Config

namespace Shared

def new : Shared Message Output where
  config := .new
  clones := [true]
  callers := []
  interfaces := []
  listener := true

/-- The `Arc`s to the state under the lock: one in every live clone, one in the listener. -/
def arcs (w : Shared Message Output) : Nat := w.clones.count true + w.listener.toNat

def stateLive (w : Shared Message Output) : Bool := 0 < w.arcs

/-- The live senders of the end-task channel: the `end_task_sender` of the state, and one in every
    live interface. -/
def endTaskSenders (w : Shared Message Output) : Nat := w.stateLive.toNat + w.interfaces.length

def recvEndTask (w : Shared Message Output) : Received (TaskOutput Output) :=
  recv w.config.endTasks (0 < w.endTaskSenders)

/-- The sender of a redirection lives in the state only. -/
def redirectionLive (w : Shared Message Output) (receiver : Nat) : Bool :=
  w.stateLive && decide (receiver ∈ w.config.forge.outputResultSenders)

def recvResult (w : Shared Message Output) (receiver : Nat) :
    Option (Received (ForgeTaskEnded Output)) :=
  (w.config.results[receiver]?).map fun chan => recv chan (w.redirectionLive receiver)

def isLive (w : Shared Message Output) (k : Nat) : Bool := w.clones[k]? = some true

/-- No method of the clone is running. -/
def unborrowed (w : Shared Message Output) (k : Nat) : Bool :=
  (w.config.calls.zip w.callers).all fun e => e.1.phase.finished || e.2 != k

def allows (w : Shared Message Output) : Deed Message Output → Bool
  | .act (.call _) => false
  | .act (.output task _) => w.interfaces.contains task
  | .act a => !a.ofListener || w.listener
  | .exit _ => true

/-- `new_task` builds the interface it hands to the task. -/
def begun (w : Shared Message Output) : Deed Message Output → List InboxSender
  | .act (.begin _) => [w.config.tasks.length]
  | _ => []

def step (w : Shared Message Output) : Use Message Output → Option (Shared Message Output)
  | .call k op =>
    if w.isLive k then
      (w.config.step (.call op)).map fun config =>
        { w with config, callers := w.callers ++ [k] }
    else none
  | .deed d =>
    if w.allows d then
      (w.config.occur d).map fun config =>
        { w with config, interfaces := w.interfaces ++ w.begun d }
    else none
  | .clone k => if w.isLive k then some { w with clones := w.clones ++ [true] } else none
  | .drop k =>
    if w.isLive k && w.unborrowed k then some { w with clones := w.clones.set k false } else none
  | .dropOutput i =>
    some { w with config := { w.config with outputs := w.config.outputs.eraseIdx i } }
  | .dropInterface task =>
    if w.interfaces.contains task && w.config.outputs.all (fun e => e.producer != task) then
      some { w with interfaces := w.interfaces.erase task }
    else none
  | .exit =>
    if w.listener && w.config.listening then
      match w.recvEndTask with
      | .ended => some { w with listener := false }
      | _ => none
    else none

/-- All clones and all interfaces are dropped, and the end-task queue is drained. -/
structure Abandoned (w : Shared Message Output) : Prop where
  clones : ∀ live ∈ w.clones, live = false
  interfaces : w.interfaces = []
  drained : w.config.endTasks.buffer = []

instance (w : Shared Message Output) : Decidable w.Abandoned :=
  decidable_of_iff ((∀ live ∈ w.clones, live = false) ∧ w.interfaces.isEmpty ∧
    w.config.endTasks.buffer.isEmpty)
    ⟨fun given => ⟨given.1, List.isEmpty_iff.mp given.2.1, List.isEmpty_iff.mp given.2.2⟩,
      fun left => ⟨left.clones, List.isEmpty_iff.mpr left.interfaces,
        List.isEmpty_iff.mpr left.drained⟩⟩

/-! Who holds what, as a graph. -/

inductive Part
  | clone (k : Nat)
  | interface (task : InboxSender)
  | listener
  | state
  -- The senders of a channel.
  | endTasks
  | redirection (receiver : Nat)
  deriving DecidableEq

def parties (w : Shared Message Output) : Set Part
  | .clone k => w.isLive k = true
  | .interface task => task ∈ w.interfaces
  | .listener => w.listener = true
  | .state | .endTasks | .redirection _ => False

inductive Holds (w : Shared Message Output) : Part → Part → Prop
  | clone (k : Nat) : Holds w (.clone k) .state
  | listener : Holds w .listener .state
  | interface (task : InboxSender) : Holds w (.interface task) .endTasks
  | endTasks : Holds w .state .endTasks
  | redirection {receiver : Nat} (stored : receiver ∈ w.config.forge.outputResultSenders) :
      Holds w .state (.redirection receiver)

variable {w w' : Shared Message Output} {u : Use Message Output} {d : Deed Message Output}
  {k : Nat} {op : Op Message}

theorem live_clone : Live w.parties w.Holds (.clone k) ↔ w.isLive k = true :=
  live_iff_of_unheld fun part held => by cases held

theorem live_interface {task : InboxSender} :
    Live w.parties w.Holds (.interface task) ↔ task ∈ w.interfaces :=
  live_iff_of_unheld fun part held => by cases held

theorem live_listener : Live w.parties w.Holds .listener ↔ w.listener = true :=
  live_iff_of_unheld fun part held => by cases held

theorem stateLive_iff : w.stateLive = true ↔ (∃ k, w.isLive k = true) ∨ w.listener = true := by
  have counted : 0 < w.clones.count true ↔ ∃ k, w.isLive k = true := by
    simp only [List.count_pos_iff, List.mem_iff_getElem?, isLive, decide_eq_true_eq]
  have arc : 0 < w.listener.toNat ↔ w.listener = true := by cases w.listener <;> decide
  rw [stateLive, decide_eq_true_eq, arcs, Nat.add_pos_iff_pos_or_pos, counted, arc]

theorem live_state : Live w.parties w.Holds .state ↔ w.stateLive = true := by
  rw [stateLive_iff, live_iff]
  constructor
  · intro either
    rcases either with member | ⟨part, live, held⟩
    · cases member
    · cases held with
      | clone k => exact .inl ⟨k, live_clone.mp live⟩
      | listener => exact .inr (live_listener.mp live)
  · intro either
    rcases either with ⟨k, live⟩ | listens
    · exact .inr ⟨.clone k, live_clone.mpr live, .clone k⟩
    · exact .inr ⟨.listener, live_listener.mpr listens, .listener⟩

theorem live_endTasks : Live w.parties w.Holds .endTasks ↔ 0 < w.endTaskSenders := by
  have stored : 0 < w.stateLive.toNat ↔ w.stateLive = true := by cases w.stateLive <;> decide
  rw [endTaskSenders, Nat.add_pos_iff_pos_or_pos, stored, live_iff]
  constructor
  · intro either
    rcases either with member | ⟨part, live, held⟩
    · cases member
    · cases held with
      | interface task => exact .inr (List.length_pos_of_mem (live_interface.mp live))
      | endTasks => exact .inl (live_state.mp live)
  · intro either
    rcases either with live | some
    · exact .inr ⟨.state, live_state.mpr live, .endTasks⟩
    · rcases List.exists_mem_of_length_pos some with ⟨task, member⟩
      exact .inr ⟨.interface task, live_interface.mpr member, .interface task⟩

theorem live_redirection {receiver : Nat} :
    Live w.parties w.Holds (.redirection receiver) ↔ w.redirectionLive receiver = true := by
  rw [redirectionLive, Bool.and_eq_true, decide_eq_true_eq, live_iff]
  constructor
  · intro either
    rcases either with member | ⟨part, live, held⟩
    · cases member
    · cases held with
      | redirection stored => exact ⟨live_state.mp live, stored⟩
  · intro both
    exact .inr ⟨.state, live_state.mpr both.1, .redirection both.2⟩

/-- What a use can do, with its guards. -/
inductive Uses (w : Shared Message Output) : Use Message Output → Shared Message Output → Prop
  | call {k : Nat} {op : Op Message} (live : w.isLive k = true) :
      Uses w (.call k op) { w with
        config := { w.config with calls := w.config.calls ++ [⟨op, .locking⟩] }
        callers := w.callers ++ [k] }
  | deed {d : Deed Message Output} {config : Config Message Output} (allowed : w.allows d = true)
      (done : w.config.occur d = some config) :
      Uses w (.deed d) { w with config, interfaces := w.interfaces ++ w.begun d }
  | clone {k : Nat} (live : w.isLive k = true) :
      Uses w (.clone k) { w with clones := w.clones ++ [true] }
  | drop {k : Nat} (live : w.isLive k = true) (free : w.unborrowed k = true) :
      Uses w (.drop k) { w with clones := w.clones.set k false }
  | dropOutput (i : Nat) :
      Uses w (.dropOutput i)
        { w with config := { w.config with outputs := w.config.outputs.eraseIdx i } }
  | dropInterface {task : InboxSender} (live : task ∈ w.interfaces)
      (free : ∀ e ∈ w.config.outputs, e.producer ≠ task) :
      Uses w (.dropInterface task) { w with interfaces := w.interfaces.erase task }
  | exit (ended : w.recvEndTask = .ended) : Uses w .exit { w with listener := false }

theorem step_uses (taken : w.step u = some w') : Uses w u w' := by
  unfold step at taken
  split at taken
  · split at taken
    next live => cases taken; exact .call live
    · cases taken
  · split at taken
    next allowed =>
      rcases Option.map_eq_some_iff.mp taken with ⟨config, done, rfl⟩
      exact .deed allowed done
    · cases taken
  · split at taken
    next live => cases taken; exact .clone live
    · cases taken
  · split at taken
    next both =>
      cases taken
      rcases (Bool.and_eq_true _ _).mp both with ⟨live, free⟩
      exact .drop live free
    · cases taken
  · cases taken
    exact .dropOutput _
  · split at taken
    next both =>
      cases taken
      simp only [Bool.and_eq_true, List.contains_iff_mem, List.all_eq_true, bne_iff_ne] at both
      exact .dropInterface both.1 both.2
    · cases taken
  · split at taken
    · split at taken
      next ended => cases taken; exact .exit ended
      · cases taken
    · cases taken

/-- Every unfinished call borrows a live clone, and every waiting output a live interface. -/
structure Owned (w : Shared Message Output) : Prop where
  wired : w.config.Wired
  opened : w.config.endTasks.closed = false
  creator : w.config.CreatorCalled
  callers : w.callers.length = w.config.calls.length
  borrowed : ∀ (i : Nat) c, w.config.calls[i]? = some c → c.phase.finished = false →
    ∃ k, w.callers[i]? = some k ∧ w.isLive k = true
  outputs : ∀ e ∈ w.config.outputs, e.producer ∈ w.interfaces

theorem owned_new : (new : Shared Message Output).Owned := by
  constructor
  · exact Config.wired_new
  · rfl
  · intro i id senders r inside
    cases inside
  · rfl
  · intro i c called
    cases called
  · intro e member
    cases member

theorem Owned.called (inv : w.Owned) (live : w.isLive k = true) :
    Owned { w with
      config := { w.config with calls := w.config.calls ++ [⟨op, .locking⟩] }
      callers := w.callers ++ [k] } := by
  constructor
  · exact inv.wired.of_same rfl rfl (.inl rfl)
  · exact inv.opened
  · exact inv.creator.step (a := .call op) rfl
  · simp [inv.callers]
  · intro i c called unfinished
    rw [getElem?_concat] at called
    rw [getElem?_concat, inv.callers]
    split at called
    next last => exact ⟨k, by simp [last], live⟩
    next other =>
      rcases inv.borrowed i c called unfinished with ⟨k', caller, live'⟩
      exact ⟨k', by simp [other, caller], live'⟩
  · exact inv.outputs

theorem Owned.deed (inv : w.Owned) {config : Config Message Output} (allowed : w.allows d = true)
    (taken : w.config.occur d = some config) :
    Owned { w with config, interfaces := w.interfaces ++ w.begun d } := by
  have uncalled : ∀ op, d ≠ .act (.call op) := by
    intro op same
    subst same
    cases allowed
  constructor
  · exact inv.wired.occur taken
  · exact (Config.endTasks_occur taken).1.trans inv.opened
  · exact inv.creator.occur taken
  · exact inv.callers.trans (Config.calls_occur uncalled taken).symm
  · intro i c called unfinished
    rcases Config.unfinished_before inv.creator uncalled taken called unfinished with
      ⟨before, found, still⟩
    exact inv.borrowed i before found still
  · intro e member
    apply List.mem_append_left
    rcases Config.outputs_occur taken e member with before | ⟨out, rfl⟩
    · exact inv.outputs e before
    · simpa [allows] using allowed

/-- The clones change, and none that a call borrows dies. -/
theorem Owned.clones (inv : w.Owned) {clones : List Bool}
    (kept : ∀ (i : Nat) c k, w.config.calls[i]? = some c → c.phase.finished = false →
      w.callers[i]? = some k → w.isLive k = true → clones[k]? = some true) :
    Owned { w with clones } := by
  refine { inv with borrowed := fun i c called unfinished => ?_ }
  rcases inv.borrowed i c called unfinished with ⟨k, caller, live⟩
  exact ⟨k, caller, by simpa [isLive] using kept i c k called unfinished caller live⟩

theorem Owned.step (inv : w.Owned) (taken : w.step u = some w') : w'.Owned := by
  cases step_uses taken with
  | call live => exact inv.called live
  | deed allowed done => exact inv.deed allowed done
  | clone live =>
    refine inv.clones fun i c k called unfinished caller live => ?_
    have found : w.clones[k]? = some true := by simpa [isLive] using live
    rwa [List.getElem?_append_left (getElem?_lt found)]
  | @drop k live free =>
    refine inv.clones fun i c k' called unfinished caller live' => ?_
    have apart : k ≠ k' := by
      intro same
      subst same
      have pair : (w.config.calls.zip w.callers)[i]? = some (c, k) :=
        List.getElem?_zip_eq_some.mpr ⟨called, caller⟩
      have free' := List.all_eq_true.mp free _ (List.mem_of_getElem? pair)
      simp [unfinished] at free'
    rw [List.getElem?_set_ne apart]
    simpa [isLive] using live'
  | dropOutput i =>
    constructor
    · exact inv.wired.of_same rfl rfl (.inl rfl)
    · exact inv.opened
    · exact inv.creator
    · exact inv.callers
    · exact inv.borrowed
    · intro e member
      exact inv.outputs e (List.mem_of_mem_eraseIdx member)
  | dropInterface live free =>
    refine { inv with outputs := fun e member => ?_ }
    exact (List.mem_erase_of_ne (free e member)).mpr (inv.outputs e member)
  | exit => exact { inv with }

theorem owned_reachable (reached : Reachable step new w) : w.Owned :=
  reached.invariant (fun _ _ _ inv taken => inv.step taken) owned_new

/-- The listener waits for the end of a stream that it keeps open itself. -/
theorem listener_stays (reached : Reachable step new w) : w.listener = true := by
  rcases reached with ⟨trace, run⟩
  have path : ∀ w : Shared Message Output, ReflTransGen w.Holds .listener .endTasks :=
    fun w => .tail (.single .listener) .endTasks
  have leaves : ∀ (w : Shared Message Output) u w', Reachable step new w → w.step u = some w' →
      .listener ∈ w.parties → .listener ∉ w'.parties → ¬ Live w.parties w.Holds .endTasks := by
    intro w u w' reached taken stood left live
    cases step_uses taken with
    | exit ended =>
      have opened := (owned_reachable reached).opened
      have senders : 0 < w.endTaskSenders := live_endTasks.mp live
      rcases (recv_ended.mp ended).2 with closed | gone
      · cases opened.symm.trans closed
      · simp [senders] at gone
    | _ => exact left stood
  have stood : .listener ∈ w.parties := stays leaves path run rfl
  exact stood

/-- Only a method of a live clone begins a task. -/
theorem Owned.begun (inv : w.Owned) {config : Config Message Output}
    (done : w.config.occur d = some config) : w.begun d = [] ∨ ∃ k, w.isLive k = true := by
  unfold Shared.begun
  split
  next capacity =>
    have taken : w.config.step (.begin capacity) = some config := done
    cases Config.step_moves taken with
    | @begin i id result _ inside =>
      rcases inv.borrowed i _ (inv.creator i id [] result inside) rfl with ⟨k, -, live⟩
      exact .inr ⟨k, live⟩
  · exact .inl rfl

theorem Abandoned.step (left : w.Abandoned) (inv : w.Owned) (taken : w.step u = some w') :
    w'.Abandoned := by
  have dead : ∀ k, ¬ w.isLive k = true := by
    intro k live
    have found : w.clones[k]? = some true := by simpa [isLive] using live
    cases left.clones true (List.mem_of_getElem? found)
  have quiet : w.config.outputs = [] := by
    apply List.eq_nil_iff_forall_not_mem.mpr
    intro e member
    have held := inv.outputs e member
    rw [left.interfaces] at held
    cases held
  cases step_uses taken with
  | call live | clone live | drop live => exact absurd live (dead _)
  | @deed d config allowed done =>
    refine ⟨left.clones, ?_, (Config.endTasks_occur done).2 quiet left.drained⟩
    rcases inv.begun done with none | ⟨k, live⟩
    · simp [left.interfaces, none]
    · exact absurd live (dead k)
  | dropOutput i => exact ⟨left.clones, left.interfaces, left.drained⟩
  | dropInterface live =>
    rw [left.interfaces] at live
    cases live
  | exit => exact ⟨left.clones, left.interfaces, left.drained⟩

theorem Abandoned.run {later : List (Shared Message Output × Use Message Output)}
    (left : w.Abandoned) (inv : w.Owned) (run : Run Shared.step w later w') : w'.Abandoned := by
  have keep : ∀ (w : Shared Message Output) u w', w.Owned ∧ w.Abandoned → w.step u = some w' →
      w'.Owned ∧ w'.Abandoned := fun w u w' both taken =>
    ⟨both.1.step taken, both.2.step both.1 taken⟩
  exact (run.invariant keep ⟨inv, left⟩).2

theorem Abandoned.arcs (left : w.Abandoned) (listens : w.listener = true) : w.arcs = 1 := by
  have none : w.clones.count true = 0 := by
    apply List.count_eq_zero.mpr
    intro member
    cases left.clones true member
  rw [Shared.arcs, none, listens]
  rfl

/-- Where all clones and all interfaces are dropped and the end-task queue is drained, the only
    `Arc` left is the listener's. It keeps the state live and with it the `end_task_sender` the
    state stores, so that from then on `recv` never yields `None`, the listener never returns, and
    no open redirection sees the end of its stream. -/
theorem abandoned_forge_listens {later : List (Shared Message Output × Use Message Output)}
    (reached : Reachable step new w) (left : w.Abandoned) (run : Run step w later w') :
    w'.arcs = 1 ∧ w'.endTaskSenders = 1 ∧ w'.recvEndTask = .pending ∧ w'.step .exit = none ∧
      w'.listener = true ∧ ∀ (receiver : Nat) chan, w'.config.results[receiver]? = some chan →
        chan.closed = false → w'.recvResult receiver ≠ some .ended := by
  rcases reached with ⟨trace, before⟩
  have reached' : Reachable step new w' := (before.append run).reachable
  have inv := owned_reachable reached'
  have left' := left.run (owned_reachable before.reachable) run
  have listens := listener_stays reached'
  have state : Live w'.parties w'.Holds .state :=
    (live_listener.mpr listens).of_holder .listener
  have senders : w'.endTaskSenders = 1 := by
    rw [endTaskSenders, live_state.mp state, left'.interfaces]
    rfl
  have waits : w'.recvEndTask = .pending := by
    rw [recvEndTask, senders]
    exact recv_pending inv.opened left'.drained
  refine ⟨left'.arcs listens, senders, waits, ?_, listens, ?_⟩
  · simp [step, waits]
  · intro receiver chan found opened
    have stored := inv.wired.registered receiver chan found opened
    have held := live_redirection.mp (state.of_holder (.redirection stored))
    simpa [recvResult, found, held] using recv_live chan opened

/-- The forge is abandoned with the output of its task still in the listener's hands. -/
theorem abandoned_forge_listens_after_task : ∃ w w' : Shared Nat Nat,
    w.Abandoned ∧
      exec step w [.deed (.act .handle), .deed (.act .clearIfDue), .deed (.act .broadcast),
        .deed (.act .prune), .deed (.act (.receiveResult 0))] = some w' ∧
      w'.recvEndTask = .pending ∧ w'.listener = true ∧ w'.recvResult 0 ≠ some .ended := by
  obtain ⟨w, before, left, w', after, receiver⟩ : ∃ w : Shared Nat Nat,
      exec step new [.call 0 .newResultRedirection, .deed (.act (.enter 0)), .call 0 (.newTask 1),
        .deed (.act (.enter 1)), .deed (.act (.begin 1)), .deed (.act (.output 0 7)),
        .deed (.act (.enqueue 0)), .deed (.act .take), .dropInterface 0, .drop 0] = some w ∧
      w.Abandoned ∧ ∃ w',
        exec step w [.deed (.act .handle), .deed (.act .clearIfDue), .deed (.act .broadcast),
          .deed (.act .prune), .deed (.act (.receiveResult 0))] = some w' ∧
        ∃ chan, w'.config.results[0]? = some chan ∧ chan.closed = false :=
    ⟨_, rfl, by decide, _, rfl, _, rfl, rfl⟩
  rcases receiver with ⟨chan, found, opened⟩
  obtain ⟨-, -, waits, -, listens, streams⟩ :=
    abandoned_forge_listens (reachable_of_exec _ before) left (run_of_exec _ after)
  exact ⟨w, w', left, after, waits, listens, streams 0 chan found opened⟩

/-- A redirection is made and the only clone is dropped. -/
theorem abandoned_at_once : ∃ w : Shared Nat Nat,
    exec step new [.call 0 .newResultRedirection, .deed (.act (.enter 0)), .drop 0] = some w ∧
      w.Abandoned ∧ w.endTaskSenders = 1 ∧ w.recvEndTask = .pending ∧ w.step .exit = none ∧
      w.listener = true ∧ w.recvResult 0 = some .pending := by
  refine ⟨_, rfl, ?_, ?_, ?_, ?_, ?_, ?_⟩
  all_goals decide

end Shared

end AsyncForge.TaskForge
