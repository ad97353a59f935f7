import AsyncForge.TaskForge.CreationWaiters

/-! What `new_task` does and answers, whichever of the waiters of its id have gone. -/

namespace AsyncForge.TaskForge

open AsyncForge.Channels AsyncForge.Runs AsyncForge.WaitingRoom

variable {Message Output : Type}

/-- The forge after `new_task` has begun a task with the inbox sender. -/
def WrappedTaskForge.withTask (f : WrappedTaskForge) (id : OpId) (sender : InboxSender) :
    WrappedTaskForge :=
  { f with
    forge := f.forge.insert id sender
    taskStates := f.taskStates.insert id .running
    taskCreationSenders := f.taskCreationSenders.erase id }

namespace Config

variable {s s' t u u' : Config Message Output} {a : Act Message Output} {i : Nat} {id : OpId}
  {rest failed : List CreationSender} {result : ForgeResult Unit} {waiter : CreationSender}
  {trace : List (Config Message Output × Act Message Output)}

/-- The waiter to which the step cannot send, as its receiver is gone. -/
def failure (s : Config Message Output) : Act Message Output → Option CreationSender
  | .notify => s.notifying.head?.filter fun waiter => (s.waiters[waiter]?).any Chan.closed
  | _ => none

def failures (trace : List (Config Message Output × Act Message Output)) : List CreationSender :=
  trace.flatMap fun e => (e.1.failure e.2).toList

def creationResult (id : OpId) (failed : List CreationSender) : ForgeResult Unit :=
  if failed = [] then .ok () else .error (.taskCreationSendingError id)

/-- A channel keeps what was sent through it, and stays closed. -/
def KeepsWaiters (s s' : Config Message Output) : Prop :=
  ∀ (waiter : Nat) chan, s.waiters[waiter]? = some chan →
    ∃ chan', s'.waiters[waiter]? = some chan' ∧ chan'.sent = chan.sent ∧
      (chan.closed = true → chan'.closed = true)

theorem keepsWaiters_same (same : s'.waiters = s.waiters) : s.KeepsWaiters s' :=
  fun _ chan found => ⟨chan, same ▸ found, rfl, fun closed => closed⟩

theorem keepsWaiters_modify {f : Chan InboxSender → Chan InboxSender}
    (same : s'.waiters = s.waiters.modify waiter f) (sent : ∀ chan, (f chan).sent = chan.sent)
    (closed : ∀ chan, chan.closed = true → (f chan).closed = true) : s.KeepsWaiters s' := by
  intro other chan found
  by_cases own : waiter = other
  · subst own
    exact ⟨f chan, by simp [same, found], sent chan, closed chan⟩
  · exact ⟨chan, by rw [same, List.getElem?_modify_ne _ _ own, found], rfl, fun closed => closed⟩

theorem ids_modify {tasks : List (Task Message)} {k : Nat} {f : Task Message → Task Message}
    (same : ∀ task, (f task).id = task.id) :
    (tasks.modify k f).map Task.id = tasks.map Task.id := by
  apply List.ext_getElem?
  intro j
  rw [List.getElem?_map, List.getElem?_map, List.getElem?_modify]
  cases tasks[j]? with
  | none => rfl
  | some task =>
    by_cases own : k = j <;> simp [own, same]

/-- While `new_task` holds the guard, the steps are its own, or leave the forge alone. -/
theorem creating_moves (inside : s.writer = some (.creating i id rest result))
    (taken : s.step a = some s') :
    (∃ waiter left chan, a = .notify ∧ rest = waiter :: left ∧ s.waiters[waiter]? = some chan ∧
      ((chan.closed = true ∧ s' = { s with
          writer := some (.creating i id left (.error (.taskCreationSendingError id))) }) ∨
        (chan.closed = false ∧ s' = { s with
          waiters := s.waiters.modify waiter (·.push s.tasks.length)
          writer := some (.creating i id left result) }))) ∨
    (∃ capacity, a = .begin capacity ∧ rest = [] ∧ s' = { s with
      tasks := s.tasks ++ [⟨id, { capacity }⟩]
      forge := { s.forge with forge := s.forge.forge.insert id s.tasks.length }
      writer := none
      calls := setPhase s.calls i (.done (.result result)) }) ∨
    ((a ≠ .notify ∧ ∀ capacity, a ≠ .begin capacity) ∧ s'.writer = s.writer ∧
      s'.forge = s.forge ∧ s'.tasks.map Task.id = s.tasks.map Task.id ∧ s.KeepsWaiters s') := by
  cases step_moves taken with
  | newTaskExists free | newTaskStart free | waitRegisters free | waitRunning free
  | waitClosed free | redirect free | asksEmpty free | cleanCleared free | cleanRequests free
  | sendStart free | sendMissing free => cases inside.symm.trans free
  | handleClosed _ free | handleRunning _ free => cases inside.symm.trans free
  | notDue within | clearLost within | clearNotified within | broadcastClosed within
  | broadcastOpen within | prune within | reportLogged within | reportSent within =>
    cases inside.symm.trans within
  | notifyClosed within present closed =>
    cases inside.symm.trans within
    exact .inl ⟨_, _, _, rfl, rfl, present, .inl ⟨closed, rfl⟩⟩
  | notifyOpen within present opened =>
    cases inside.symm.trans within
    exact .inl ⟨_, _, _, rfl, rfl, present, .inr ⟨opened, rfl⟩⟩
  | begin capacity within =>
    cases inside.symm.trans within
    exact .inr (.inl ⟨capacity, rfl, rfl, rfl⟩)
  | @wakeCreated j other op waiter task chan left called present buffered =>
    refine .inr (.inr ⟨by simp, created_writer .., created_forge .., ?_, ?_⟩)
    · cases op <;> rfl
    · have popped : ({ s with waiters := s.waiters.modify waiter Chan.pop }.created j op
          (some task)).waiters = s.waiters.modify waiter Chan.pop := by cases op <;> rfl
      exact keepsWaiters_modify popped Chan.sent_pop fun _ closed => closed
  | cancelWaiting =>
    exact .inr (.inr ⟨by simp, rfl, rfl, rfl, keepsWaiters_modify rfl Chan.sent_close
      fun _ _ => rfl⟩)
  | deliverOpen | receive | closeInbox =>
    exact .inr (.inr ⟨by simp, rfl, rfl, ids_modify fun _ => rfl, keepsWaiters_same rfl⟩)
  | _ => exact .inr (.inr ⟨by simp, rfl, rfl, rfl, keepsWaiters_same rfl⟩)

/-- The waiter has its one message, unless its receiver was found gone. -/
def Told (k : InboxSender) (failed : List CreationSender) (s : Config Message Output)
    (waiter : CreationSender) : Prop :=
  ∃ chan, s.waiters[waiter]? = some chan ∧ chan.sent = (if waiter ∈ failed then [] else [k]) ∧
    (waiter ∈ failed → chan.closed = true)

def Gone (s : Config Message Output) (waiter : CreationSender) : Prop :=
  (s.waiters[waiter]?).any Chan.closed = true

/-- How far `new_task` has come since it got its guard in the first state. -/
structure Creation (s : Config Message Output) (i : Nat) (id : OpId)
    (failed : List CreationSender) (u : Config Message Output) : Prop where
  inside : u.writer = some (.creating i id u.notifying (creationResult id failed))
  past : ∃ past, s.room.registered id = past ++ u.notifying ∧ failed.Sublist past ∧
    ∀ waiter ∈ past, u.Told s.tasks.length failed waiter ∧ (s.Gone waiter → waiter ∈ failed)
  once : (s.room.registered id).Nodup
  unsent : ∀ waiter ∈ u.notifying, ∃ chan, u.waiters[waiter]? = some chan ∧ chan.sent = []
  others : ∀ (waiter : Nat) chan, waiter ∉ s.room.registered id → s.waiters[waiter]? = some chan →
    ∃ chan', u.waiters[waiter]? = some chan' ∧ chan'.sent = chan.sent
  gone : ∀ waiter, s.Gone waiter → u.Gone waiter
  forge : u.forge = { s.forge with
    taskStates := s.forge.taskStates.insert id .running
    taskCreationSenders := s.forge.taskCreationSenders.erase id }
  tasks : u.tasks.map Task.id = s.tasks.map Task.id

theorem gone_iff : s.Gone waiter ↔ ∃ chan, s.waiters[waiter]? = some chan ∧ chan.closed = true := by
  unfold Gone
  cases s.waiters[waiter]? <;> simp

theorem KeepsWaiters.gone (keeps : s.KeepsWaiters s') (gone : s.Gone waiter) : s'.Gone waiter := by
  rcases gone_iff.mp gone with ⟨chan, found, closed⟩
  rcases keeps waiter chan found with ⟨chan', found', -, stays⟩
  exact gone_iff.mpr ⟨chan', found', stays closed⟩

theorem KeepsWaiters.told {k : InboxSender} (keeps : s.KeepsWaiters s')
    (told : s.Told k failed waiter) : s'.Told k failed waiter := by
  rcases told with ⟨chan, found, sent, closed⟩
  rcases keeps waiter chan found with ⟨chan', found', same, stays⟩
  exact ⟨chan', found', same.trans sent, fun member => stays (closed member)⟩

theorem Creation.length (creation : Creation s i id failed u) :
    u.tasks.length = s.tasks.length := by
  rw [← List.length_map Task.id, creation.tasks, List.length_map]

/-- A step of another party. -/
theorem Creation.aside (creation : Creation s i id failed u) (writer : u'.writer = u.writer)
    (forge : u'.forge = u.forge) (tasks : u'.tasks.map Task.id = u.tasks.map Task.id)
    (keeps : u.KeepsWaiters u') : Creation s i id failed u' := by
  have notifying : u'.notifying = u.notifying := by simp only [Config.notifying, writer]
  constructor
  · rw [writer, notifying]
    exact creation.inside
  · rcases creation.past with ⟨past, cut, sublist, told⟩
    rw [notifying]
    exact ⟨past, cut, sublist, fun waiter member =>
      ⟨keeps.told (told waiter member).1, (told waiter member).2⟩⟩
  · exact creation.once
  · intro waiter member
    rw [notifying] at member
    rcases creation.unsent waiter member with ⟨chan, found, unsent⟩
    rcases keeps waiter chan found with ⟨chan', found', same, -⟩
    exact ⟨chan', found', same.trans unsent⟩
  · intro waiter chan apart found
    rcases creation.others waiter chan apart found with ⟨chan', found', same⟩
    rcases keeps waiter chan' found' with ⟨chan'', found'', same', -⟩
    exact ⟨chan'', found'', same'.trans same⟩
  · exact fun waiter gone => keeps.gone (creation.gone waiter gone)
  · exact forge.trans creation.forge
  · exact tasks.trans creation.tasks

theorem Told.of_same {k : InboxSender} {failed' : List CreationSender}
    (told : s.Told k failed waiter) (same : waiter ∈ failed' ↔ waiter ∈ failed)
    (place : s'.waiters[waiter]? = s.waiters[waiter]?) : s'.Told k failed' waiter := by
  unfold Told
  simp only [same, place]
  exact told

theorem Creation.next {left : List CreationSender} (creation : Creation s i id failed u)
    (serves : u.notifying = waiter :: left) : waiter ∉ failed ∧ waiter ∉ left ∧
      ∃ past, s.room.registered id = (past ++ [waiter]) ++ left ∧ failed.Sublist past ∧
        waiter ∉ past ∧ ∀ other ∈ past,
          u.Told s.tasks.length failed other ∧ (s.Gone other → other ∈ failed) := by
  rcases creation.past with ⟨past, cut, sublist, told⟩
  have once := creation.once
  rw [serves] at cut
  rw [cut, List.nodup_append] at once
  have apart : waiter ∉ past := fun member => once.2.2 waiter member waiter (by simp) rfl
  exact ⟨fun member => apart (sublist.subset member), (List.nodup_cons.mp once.2.1).1, past,
    by simpa using cut, sublist, apart, told⟩

/-- The receiver of the next waiter is gone. -/
theorem Creation.skipped {left : List CreationSender} {chan : Chan InboxSender}
    (creation : Creation s i id failed u) (serves : u.notifying = waiter :: left)
    (found : u.waiters[waiter]? = some chan) (closed : chan.closed = true) :
    Creation s i id (failed ++ [waiter])
      { u with writer := some (.creating i id left (.error (.taskCreationSendingError id))) } := by
  rcases creation.next serves with ⟨fresh, single, past, cut, sublist, apart, told⟩
  rcases creation.unsent waiter (by simp [serves]) with ⟨_, found', unsent⟩
  obtain rfl := Option.some.inj (found.symm.trans found')
  constructor
  · simp [notifying, creationResult]
  · refine ⟨past ++ [waiter], cut, sublist.append (List.Sublist.refl _), ?_⟩
    intro other member
    rcases List.mem_append.mp member with member | member
    · have differs : other ≠ waiter := fun same => apart (same ▸ member)
      have same : other ∈ failed ++ [waiter] ↔ other ∈ failed := by simp [differs]
      exact ⟨(told other member).1.of_same same rfl,
        fun gone => same.mpr ((told other member).2 gone)⟩
    · obtain rfl := List.mem_singleton.mp member
      exact ⟨⟨_, found, by simp [unsent], fun _ => closed⟩, fun _ => by simp⟩
  · exact creation.once
  · exact fun other member => creation.unsent other (serves ▸ List.mem_cons_of_mem _ member)
  · exact creation.others
  · exact creation.gone
  · exact creation.forge
  · exact creation.tasks

/-- The next waiter gets its message. -/
theorem Creation.answered {left : List CreationSender} {chan : Chan InboxSender}
    (creation : Creation s i id failed u) (serves : u.notifying = waiter :: left)
    (found : u.waiters[waiter]? = some chan) (opened : chan.closed = false) :
    Creation s i id failed { u with
      waiters := u.waiters.modify waiter (·.push u.tasks.length)
      writer := some (.creating i id left (creationResult id failed)) } := by
  rcases creation.next serves with ⟨fresh, single, past, cut, sublist, apart, told⟩
  rcases creation.unsent waiter (by simp [serves]) with ⟨_, found', unsent⟩
  obtain rfl := Option.some.inj (found.symm.trans found')
  have others : ∀ other, other ≠ waiter →
      (u.waiters.modify waiter (·.push u.tasks.length))[other]? = u.waiters[other]? :=
    fun other differs => List.getElem?_modify_ne _ _ (Ne.symm differs)
  have own : (u.waiters.modify waiter (·.push u.tasks.length))[waiter]? =
      some (chan.push u.tasks.length) := by simp [found]
  have present : ¬ s.Gone waiter := by
    intro gone
    rcases gone_iff.mp (creation.gone waiter gone) with ⟨_, found', closed⟩
    obtain rfl := Option.some.inj (found.symm.trans found')
    exact absurd (opened.symm.trans closed) (by decide)
  constructor
  · rfl
  · refine ⟨past ++ [waiter], cut, sublist.trans (List.sublist_append_left _ _), ?_⟩
    intro other member
    rcases List.mem_append.mp member with member | member
    · have differs : other ≠ waiter := fun same => apart (same ▸ member)
      exact ⟨(told other member).1.of_same Iff.rfl (others other differs), (told other member).2⟩
    · obtain rfl := List.mem_singleton.mp member
      refine ⟨⟨_, own, ?_, fun member => absurd member fresh⟩, fun gone => absurd gone present⟩
      rw [Chan.sent_push, unsent, creation.length, if_neg fresh, List.nil_append]
  · exact creation.once
  · intro other member
    have differs : other ≠ waiter := fun same => single (same ▸ member)
    rcases creation.unsent other (serves ▸ List.mem_cons_of_mem _ member) with
      ⟨chan', place, empty⟩
    exact ⟨chan', (others other differs).trans place, empty⟩
  · intro other chan apart place
    have differs : other ≠ waiter := fun same => apart (by simp [cut, same])
    rcases creation.others other chan apart place with ⟨chan', place', same⟩
    exact ⟨chan', (others other differs).trans place', same⟩
  · intro other gone
    have differs : other ≠ waiter := fun same => present (same ▸ gone)
    have before := creation.gone other gone
    unfold Gone at before ⊢
    dsimp only
    rw [others other differs]
    exact before
  · exact creation.forge
  · exact creation.tasks

theorem Creation.step (creation : Creation s i id failed u) (taken : u.step a = some u')
    (unfinished : ∀ capacity, a ≠ .begin capacity) :
    Creation s i id (failed ++ (u.failure a).toList) u' := by
  rcases creating_moves creation.inside taken with
    ⟨waiter, left, chan, rfl, serves, found, ⟨closed, rfl⟩ | ⟨opened, rfl⟩⟩ |
      ⟨capacity, rfl, -⟩ | ⟨⟨quiet, -⟩, writer, forge, tasks, keeps⟩
  · have failure : u.failure .notify = some waiter := by
      simp [Config.failure, serves, found, closed]
    rw [failure]
    exact creation.skipped serves found closed
  · have failure : u.failure .notify = none := by
      simp [Config.failure, serves, found, opened]
    rw [failure, Option.toList_none, List.append_nil]
    exact creation.answered serves found opened
  · exact absurd rfl (unfinished capacity)
  · have failure : u.failure a = none := by
      cases a with
      | notify => exact absurd rfl quiet
      | _ => rfl
    rw [failure, Option.toList_none, List.append_nil]
    exact creation.aside writer forge tasks keeps

theorem newTask_enters (called : s.calls[i]? = some ⟨.newTask id, .locking⟩)
    (taken : s.step (.enter i) = some s') :
    (s.forge.Running id ∧ s' = { s with
        calls := setPhase s.calls i (.done (.result (.error (.taskAlreadyExists id)))) }) ∨
      (¬ s.forge.Running id ∧ s' = { s with
        forge := { s.forge with
          taskStates := s.forge.taskStates.insert id .running
          taskCreationSenders := s.forge.taskCreationSenders.erase id }
        writer := some (.creating i id (s.room.registered id) (.ok ()))
        calls := setPhase s.calls i .creating }) := by
  cases step_moves taken with
  | newTaskExists _ _ called' running =>
    cases called.symm.trans called'
    exact .inl ⟨running, rfl⟩
  | newTaskStart _ _ called' stopped =>
    cases called.symm.trans called'
    exact .inr ⟨stopped, rfl⟩
  | _ => simp_all

theorem creation_starts (inv : s.Waiters) (stopped : ¬ s.forge.Running id)
    (called : s.calls[i]? = some ⟨.newTask id, .locking⟩) (taken : s.step (.enter i) = some s') :
    Creation s i id [] s' := by
  rcases newTask_enters called taken with ⟨running, -⟩ | ⟨-, rfl⟩
  · exact absurd running stopped
  constructor
  · rfl
  · exact ⟨[], rfl, List.Sublist.refl _, by simp⟩
  · exact inv.valid.once id
  · exact fun waiter member => inv.valid.unsent waiter (.inl ⟨id, member⟩)
  · exact fun waiter chan _ found => ⟨chan, found, rfl⟩
  · exact fun waiter gone => gone
  · rfl
  · rfl

theorem creation_run (creation : Creation s i id [] s') (run : Run step s' trace u)
    (unfinished : Along (fun _ a => ∀ capacity, a ≠ .begin capacity) trace) :
    Creation s i id (failures trace) u := by
  induction run with
  | nil => exact creation
  | snoc before last ih =>
    rcases along_snoc.mp unfinished with ⟨past, now⟩
    have next := (ih past).step last now
    simpa [failures] using next

theorem creation_enabled (creation : Creation s i id failed u) (inv : u.Waiters) :
    (∃ u', u.step .notify = some u') ∨ ∀ capacity, ∃ t, u.step (.begin capacity) = some t := by
  have inside := creation.inside
  cases notifying : u.notifying with
  | nil =>
    right
    intro capacity
    rw [notifying] at inside
    apply Option.isSome_iff_exists.mp
    simp [Config.step, begin, inside]
  | cons waiter left =>
    left
    rw [notifying] at inside
    exact notify_enabled inv inside

/-- A creation of a running id changes nothing. Any other one begins one task, with the waiters of
    its id removed and each of them sent one message unless its receiver is gone, and fails exactly
    when some receiver was. Until then it is never stuck, and nobody else changes the forge. -/
theorem newTask_exact (reached : Reachable step Config.new s)
    (called : s.calls[i]? = some ⟨.newTask id, .locking⟩) (taken : s.step (.enter i) = some s') :
    (s.forge.Running id → s' = { s with
      calls := setPhase s.calls i (.done (.result (.error (.taskAlreadyExists id)))) }) ∧
    (¬ s.forge.Running id → ∀ trace u, Run step s' trace u →
      Along (fun _ a => ∀ capacity, a ≠ .begin capacity) trace →
      ((∃ u', u.step .notify = some u') ∨ ∀ capacity, ∃ t, u.step (.begin capacity) = some t) ∧
      ∀ capacity t, u.step (.begin capacity) = some t →
        t.tasks.map Task.id = s.tasks.map Task.id ++ [id] ∧
        t.forge = s.forge.withTask id s.tasks.length ∧
        (failures trace).Sublist (s.room.registered id) ∧
        (∀ waiter ∈ s.room.registered id, t.Told s.tasks.length (failures trace) waiter ∧
          (s.Gone waiter → waiter ∈ failures trace)) ∧
        (∀ (waiter : Nat) chan, waiter ∉ s.room.registered id → s.waiters[waiter]? = some chan →
          ∃ chan', t.waiters[waiter]? = some chan' ∧ chan'.sent = chan.sent) ∧
        t.calls[i]? = some ⟨.newTask id, .done (.result
          (if failures trace = [] then .ok () else .error (.taskCreationSendingError id)))⟩) := by
  constructor
  · intro running
    rcases newTask_enters called taken with ⟨-, same⟩ | ⟨stopped, -⟩
    · exact same
    · exact absurd running stopped
  intro stopped trace u run unfinished
  have creation := creation_run (creation_starts (waiters_reachable reached) stopped called taken)
    run unfinished
  rcases reached with ⟨before, past⟩
  have inv := waiters_reachable ((past.snoc taken).append run).reachable
  refine ⟨creation_enabled creation inv, ?_⟩
  intro capacity t begun
  rcases creating_moves creation.inside begun with
    ⟨_, _, _, absurd, -⟩ | ⟨_, same, served, rfl⟩ | ⟨⟨-, never⟩, -⟩
  · cases absurd
  · obtain rfl := Act.begin.inj same
    rcases creation.past with ⟨past, cut, sublist, told⟩
    rw [served, List.append_nil] at cut
    subst cut
    refine ⟨?_, ?_, sublist, told, creation.others, ?_⟩
    · simp [creation.tasks]
    · rw [creation.length, creation.forge]
      rfl
    · exact getElem?_setPhase (inv.creating i id _ _ creation.inside) _
  · exact absurd rfl (never capacity)

/-- Two callers wait for the task 1, and the first of them goes before it is created. -/
def loseWaiter : List (Act Nat Nat) :=
  [.call (.waitForTaskCreation 1), .call (.waitForTaskCreation 1), .enter 0, .enter 1, .cancel 0,
    .call (.newTask 1)]

theorem newTask_exact_of_gone : ∃ s s' u t : Config Nat Nat,
    exec step Config.new loseWaiter = some s ∧ s.step (.enter 2) = some s' ∧
      exec step s' [.notify, .notify] = some u ∧ u.step (.begin 1) = some t ∧
      t.calls[2]? =
        some ⟨.newTask 1, .done (.result (.error (.taskCreationSendingError 1)))⟩ ∧
      t.Told 0 [0] 1 := by
  obtain ⟨s, s₁, s₂, u, t, done, taken, first, second, begun, called, stopped, failed, empty,
      waiters⟩ : ∃ s s₁ s₂ u t : Config Nat Nat, exec step Config.new loseWaiter = some s ∧
        s.step (.enter 2) = some s₁ ∧ s₁.step .notify = some s₂ ∧ s₂.step .notify = some u ∧
        u.step (.begin 1) = some t ∧ s.calls[2]? = some ⟨.newTask 1, .locking⟩ ∧
        ¬ s.forge.Running 1 ∧ failures [(s₁, .notify), (s₂, .notify)] = [0] ∧
        s.tasks.length = 0 ∧ s.room.registered 1 = [0, 1] :=
    ⟨_, _, _, _, _, rfl, rfl, rfl, rfl, rfl, rfl, by decide, by decide, rfl, rfl⟩
  have exact := newTask_exact (reachable_of_exec loseWaiter done) called taken
  have sent : exec step s₁ [.notify, .notify] = some u := by simp [exec, first, second]
  have run : Run step s₁ [(s₁, .notify), (s₂, .notify)] u := (Run.nil.snoc first).snoc second
  rcases (exact.2 stopped _ u run (by simp [Along])).2 1 t begun with ⟨-, -, -, told, -, answer⟩
  rw [failed] at answer told
  rw [empty] at told
  exact ⟨s, s₁, u, t, done, taken, sent, begun, answer, (told 1 (by simp [waiters])).1⟩

end Config

end AsyncForge.TaskForge
