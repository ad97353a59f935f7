import AsyncForge.TaskForge.CleaningRequests

/-! The forge when `new_task` may be cut short: its caller drops the future while it is suspended in
    a send to a creation waiter, or `Task::begin` panics. The guard is released either way. -/

namespace AsyncForge.TaskForge

open AsyncForge.Channels AsyncForge.Runs

variable {Message Output : Type}

inductive Exit
  -- The future of `new_task` is dropped in one of its sends.
  | dropped
  -- `Task::begin` panics.
  | panicked
  deriving DecidableEq

inductive Deed (Message Output : Type)
  | act (a : Act Message Output)
  | exit (e : Exit)
  deriving DecidableEq

/-- Every running record and every inbox sender belongs to a recorded id, but the id under creation
    has no inbox sender yet, and an abandoned one never gets it. -/
structure WrappedTaskForge.Covers (f : WrappedTaskForge) (creating : Option OpId) : Prop where
  running : ∀ id, id ∈ f.forge → f.Running id
  begun : ∀ id, creating = some id → f.Running id ∧ id ∉ f.forge

namespace Config

def abandon (s : Config Message Output) (i : Nat) : Config Message Output :=
  { s with writer := none, calls := setPhase s.calls i .cancelled }

/-- `new_task` ends early; the forge stays as it is. -/
def exit (s : Config Message Output) (e : Exit) : Option (Config Message Output) :=
  match e, s.writer with
  | .dropped, some (.creating i _ (_ :: _) _) => some (s.abandon i)
  | .panicked, some (.creating i _ [] _) => some (s.abandon i)
  | _, _ => none

def occur (s : Config Message Output) : Deed Message Output → Option (Config Message Output)
  | .act a => s.step a
  | .exit e => s.exit e

/-- The deed takes the lock, for reading or writing. -/
def takesLock : Deed Message Output → Bool
  | .act (.enter _) | .act .handle => true
  | _ => false

variable {s s' t : Config Message Output} {a : Act Message Output} {d : Deed Message Output}
  {e : Exit} {id : OpId}

theorem exit_abandons (cut : s.exit e = some s') :
    ∃ i, s' = s.abandon i ∧ ∃ id senders r, s.writer = some (.creating i id senders r) := by
  unfold exit at cut
  split at cut
  next inside => exact ⟨_, (Option.some.inj cut).symm, _, _, _, inside⟩
  next inside => exact ⟨_, (Option.some.inj cut).symm, _, _, _, inside⟩
  · cases cut

/-- Every point of `new_task` at which it holds the guard is one of the two kinds. -/
theorem exit_enabled (creating : s.creatingId = some id) : ∃ e s', s.exit e = some s' := by
  unfold creatingId at creating
  split at creating
  next i _ senders r inside =>
    cases senders with
    | nil => exact ⟨.panicked, s.abandon i, by simp [exit, inside]⟩
    | cons sender senders => exact ⟨.dropped, s.abandon i, by simp [exit, inside]⟩
  · cases creating

def Covered (s : Config Message Output) : Prop := s.forge.Covers s.creatingId

theorem Covered.of_same (inv : s.Covered) (forge : s'.forge.forge = s.forge.forge)
    (states : s'.forge.taskStates = s.forge.taskStates)
    (creating : s'.creatingId = s.creatingId) : s'.Covered := by
  constructor
  · intro id member
    rw [forge] at member
    rw [WrappedTaskForge.Running, states]
    exact inv.running id member
  · intro id begun
    rw [creating] at begun
    rw [WrappedTaskForge.Running, states, forge]
    exact inv.begun id begun

theorem covered_of_free (covers : ∀ id, id ∈ s.forge.forge → s.forge.Running id)
    (free : s.creatingId = none) : s.Covered :=
  ⟨covers, fun id begun => by cases free.symm.trans begun⟩

theorem Covered.step (inv : s.Covered) (taken : s.step a = some s') : s'.Covered := by
  cases step_moves taken with
  | @newTaskStart i id free unread called stopped =>
    constructor
    · intro other member
      apply (WrappedTaskForge.running_insert other .running).mpr
      exact (em (other = id)).imp (fun same => ⟨same, rfl⟩)
        fun apart => ⟨apart, inv.running other member⟩
    · intro other begun
      cases begun
      exact ⟨Finmap.lookup_insert _, fun member => stopped (inv.running id member)⟩
  | waitRegisters free unread called waits state =>
    exact inv.of_same (WrappedTaskForge.forge_newTaskNotifReceiver _)
      (WrappedTaskForge.taskStates_newTaskNotifReceiver _) rfl
  | waitRunning | wakeCreated =>
    rw [created_eq]
    exact inv.of_same rfl rfl rfl
  | cleanCleared free unread called empty =>
    refine covered_of_free (fun id member => ?_) (by simp only [creatingId, free])
    exact absurd member (WrappedTaskForge.not_mem_of_isEmpty empty)
  | @begin i id result capacity inside =>
    refine covered_of_free (fun other member => ?_) rfl
    have begun := inv.begun id (by simp only [creatingId, inside])
    rcases Finmap.mem_insert.mp member with rfl | before
    · exact begun.1
    · exact inv.running other before
  | handleRunning pulled free unread running =>
    refine covered_of_free (fun id member => ?_) rfl
    rcases Finmap.mem_erase.mp member with ⟨apart, before⟩
    exact (WrappedTaskForge.running_insert id .closed).mpr (.inr ⟨apart, inv.running id before⟩)
  | clearLost inside due | clearNotified inside due =>
    have empty := WrappedTaskForge.empty_of_due due
    refine covered_of_free (fun id member => ?_) rfl
    have absent : id ∉ s.forge.forge := WrappedTaskForge.not_mem_of_isEmpty empty
    exact absurd member absent
  | handleClosed pulled free unread closed =>
    exact inv.of_same rfl rfl (by simp only [creatingId, free])
  | notifyClosed inside | notifyOpen inside | notDue inside | broadcastClosed inside
  | broadcastOpen inside | prune inside | reportLogged inside | reportSent inside =>
    exact inv.of_same rfl rfl (by simp only [creatingId, inside])
  | _ => exact inv.of_same rfl rfl rfl

theorem Covered.occur (inv : s.Covered) (taken : s.occur d = some s') : s'.Covered := by
  cases d with
  | act a => exact inv.step taken
  | exit e =>
    rcases exit_abandons taken with ⟨i, rfl, -⟩
    exact covered_of_free (fun id member => inv.running id member) rfl

theorem covered_reachable (reached : Reachable occur Config.new s) : s.Covered := by
  refine reached.invariant (fun _ _ _ inv taken => Covered.occur inv taken) ?_
  exact covered_of_free (fun id member => absurd member Finmap.notMem_empty) rfl

/-- While no guard is held or taken, the forge stays as it is. -/
theorem forge_unlocked (free : s.writer = none) (apart : takesLock d = false)
    (taken : s.occur d = some s') : s'.writer = none ∧ s'.forge = s.forge := by
  cases d with
  | exit e =>
    rcases exit_abandons taken with ⟨i, -, id, senders, r, inside⟩
    cases free.symm.trans inside
  | act a =>
    cases step_moves taken with
    | notifyClosed inside | notifyOpen inside | begin capacity inside | notDue inside
    | clearLost inside | clearNotified inside | broadcastClosed inside | broadcastOpen inside
    | prune inside | reportLogged inside | reportSent inside =>
      cases free.symm.trans inside
    | wakeCreated called present buffered =>
      rw [created_writer, created_forge]
      exact ⟨free, rfl⟩
    | newTaskExists | newTaskStart | waitRegisters | waitRunning | waitClosed | redirect
    | asksEmpty | cleanCleared | cleanRequests | sendStart | sendMissing | handleClosed
    | handleRunning => cases apart
    | _ => exact ⟨free, rfl⟩

theorem forge_unlocked_run {trace : List (Config Message Output × Deed Message Output)}
    (free : s.writer = none) (run : Run occur s trace t)
    (apart : Along (fun _ d => takesLock d = false) trace) :
    t.writer = none ∧ t.forge = s.forge := by
  induction run with
  | nil => exact ⟨free, rfl⟩
  | snoc _ last ih =>
    rcases along_snoc.mp apart with ⟨past, now⟩
    rcases ih past with ⟨idle, same⟩
    rcases forge_unlocked idle now last with ⟨idle', same'⟩
    exact ⟨idle', same'.trans same⟩

theorem newTask_refused {i : Nat} (running : s.forge.Running id)
    (called : s.calls[i]? = some ⟨.newTask id, .locking⟩) (taken : s.step (.enter i) = some s') :
    s'.calls[i]? = some ⟨.newTask id, .done (.result (.error (.taskAlreadyExists id)))⟩ := by
  cases step_moves taken with
  | newTaskExists free unread called' _ =>
    cases called.symm.trans called'
    exact getElem?_setPhase called _
  | newTaskStart free unread called' stopped =>
    cases called.symm.trans called'
    exact absurd running stopped
  | _ => simp_all

theorem send_refused {i : Nat} {msg : Message} (absent : id ∉ s.forge.forge)
    (called : s.calls[i]? = some ⟨.send id msg, .locking⟩) (taken : s.step (.enter i) = some s') :
    s'.calls[i]? = some ⟨.send id msg, .done (.result (.error (.taskNotExist id)))⟩ := by
  cases step_moves taken with
  | sendStart free called' sends found =>
    obtain rfl := Option.some.inj (called.symm.trans called')
    obtain ⟨rfl, rfl⟩ : id = _ ∧ msg = _ := by simpa using sends
    exact absurd (Finmap.mem_of_lookup_eq_some found) absent
  | sendMissing free called' sends missing =>
    obtain rfl := Option.some.inj (called.symm.trans called')
    obtain ⟨rfl, rfl⟩ : id = _ ∧ msg = _ := by simpa using sends
    exact getElem?_setPhase called _
  | _ => simp_all

/-- While `new_task` holds the guard it can be cut short, and however it is, the next holder of the
    lock finds its id running without an inbox sender: a creation of the id is refused, and so is a
    send. -/
theorem interrupted_creation_inconsistent (reached : Reachable occur Config.new s)
    (creating : s.creatingId = some id) :
    (∃ e s', s.exit e = some s') ∧
      ∀ e s' trace t, s.exit e = some s' → Run occur s' trace t →
        Along (fun _ d => takesLock d = false) trace →
          t.writer = none ∧ ¬ (t.forge.Running id ↔ id ∈ t.forge.forge) ∧
          (∀ i t', t.calls[i]? = some ⟨.newTask id, .locking⟩ → t.step (.enter i) = some t' →
            t'.calls[i]? =
              some ⟨.newTask id, .done (.result (.error (.taskAlreadyExists id)))⟩) ∧
          ∀ i msg t', t.calls[i]? = some ⟨.send id msg, .locking⟩ → t.step (.enter i) = some t' →
            t'.calls[i]? = some ⟨.send id msg, .done (.result (.error (.taskNotExist id)))⟩ := by
  refine ⟨exit_enabled creating, ?_⟩
  intro e s' trace t cut run apart
  rcases exit_abandons cut with ⟨i, rfl, -⟩
  rcases forge_unlocked_run rfl run apart with ⟨free, same⟩
  have begun : s.forge.Running id ∧ id ∉ s.forge.forge :=
    (covered_reachable reached).begun id creating
  have kept : t.forge = s.forge := same
  rw [← kept] at begun
  rcases begun with ⟨running, absent⟩
  exact ⟨free, fun both => absent (both.mp running),
    fun i t' called taken => newTask_refused running called taken,
    fun i msg t' called taken => send_refused absent called taken⟩

/-- The future of `new_task` is dropped while it notifies a waiter. -/
def dropsCreation : List (Deed Nat Nat) :=
  [.act (.call (.waitForTaskCreation 1)), .act (.enter 0), .act (.call (.newTask 1)),
    .act (.enter 1)]

theorem dropped_creation_inconsistent :
    ∃ s s', exec occur Config.new dropsCreation = some s ∧ s.exit .dropped = some s' ∧
      ¬ (s'.forge.Running 1 ↔ 1 ∈ s'.forge.forge) := by
  obtain ⟨s, s', done, creating, cut⟩ : ∃ s s' : Config Nat Nat,
      exec occur Config.new dropsCreation = some s ∧ s.creatingId = some 1 ∧
        s.exit .dropped = some s' := ⟨_, _, rfl, rfl, rfl⟩
  have reached := reachable_of_exec dropsCreation done
  exact ⟨s, s', done, cut,
    ((interrupted_creation_inconsistent reached creating).2 _ _ _ _ cut .nil (.nil _)).2.1⟩

theorem interrupted_creation_orphans :
    ¬ ∀ (s s' : Config Nat Nat) (e : Exit) (id : OpId), Reachable occur Config.new s →
      s.creatingId = some id → s.exit e = some s' →
        (s'.forge.Running id ↔ id ∈ s'.forge.forge) := by
  intro all
  have consistent := all _ _ .dropped 1 (reachable_of_exec dropsCreation rfl) rfl rfl
  exact absurd consistent (by decide)

end Config

end AsyncForge.TaskForge
