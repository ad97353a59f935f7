import AsyncForge.Lib.Progress
import AsyncForge.NotifierHub.Notifications
import AsyncForge.NotifierHub.SendOrder

/-! What holds up the writing tasks and the calls of `wait`, and that they all come to an end. -/

namespace AsyncForge.NotifierHub

open AsyncForge.Channels AsyncForge.Progress AsyncForge.Runs AsyncForge.SmartChannel
open AsyncForge.NotifierHub.WritingHandler

section Load

variable {M : Type} {chans chans' : List (Chan M)} {writes writes' : List (Writing M)} {i : Nat}

/-- A message that is not written yet has to be written and received. -/
def Writing.left (w : Writing M) : Nat := if w.result.isNone then 2 else 0

def load (chans : List (Chan M)) (writes : List (Writing M)) : Nat :=
  (writes.map Writing.left).sum + (chans.map fun chan => chan.buffer.length).sum

theorem load_finish (finished : finish chans writes i = some (chans', writes')) :
    load chans' writes' < load chans writes := by
  obtain ⟨w, chan, found, pending, place, ended⟩ := finish_some finished
  have before : w.left = 2 := by simp [Writing.left, pending]
  rcases ended with ⟨-, rfl, rfl⟩ | ⟨-, -, rfl, rfl⟩
  · have less := sum_modify Writing.left
      (fun w : Writing M => { w with result := some (.error ⟨w.msg⟩) }) found
    have after : Writing.left { w with result := some (.error ⟨w.msg⟩) } = 0 := rfl
    simp only [load]
    omega
  · have less := sum_modify Writing.left
      (fun w : Writing M => { w with result := some (.ok ()) }) found
    have after : Writing.left { w with result := some (.ok ()) } = 0 := rfl
    have more := sum_modify (fun chan : Chan M => chan.buffer.length) (·.push w.msg) place
    have grown : (chan.push w.msg).buffer.length = chan.buffer.length + 1 := by simp [Chan.push]
    simp only [load]
    omega

theorem load_receive (writes : List (Writing M)) (received : receiveAt chans i = some chans') :
    load chans' writes < load chans writes := by
  obtain ⟨chan, place, buffered⟩ := receiveAt_buffered received
  obtain rfl := receiveAt_some received
  have less := sum_modify (fun chan : Chan M => chan.buffer.length) Chan.pop place
  have popped := chan.pop_length buffered
  simp only [load]
  omega

/-- A task that has its channel waits for nothing but a slot. -/
theorem finish_isSome_iff {w : Writing M} {chan : Chan M} (found : writes[i]? = some w)
    (pending : w.result = none) (place : chans[w.sender.sender]? = some chan) :
    (finish chans writes i).isSome = true ↔ chan.closed = true ∨ chan.full = false := by
  rcases w with ⟨sender, msg, result⟩
  dsimp only at pending place
  subst pending
  unfold finish
  simp only [found, place]
  cases shut : chan.closed <;> cases full : chan.full <;> simp

theorem drained_of_stuck (inside : ∀ w ∈ writes, w.sender.sender < chans.length)
    (slots : ∀ chan ∈ chans, 0 < chan.capacity) (still : ∀ r, receiveAt chans r = none)
    (stuck : ∀ i, finish chans writes i = none) :
    (∀ chan ∈ chans, chan.buffer = []) ∧ ∀ w ∈ writes, w.result.isSome = true := by
  have drained : ∀ chan ∈ chans, chan.buffer = [] := by
    intro chan member
    rcases List.mem_iff_getElem?.mp member with ⟨r, place⟩
    have nothing := still r
    simpa [receiveAt, place] using nothing
  refine ⟨drained, fun w member => ?_⟩
  by_contra unfinished
  have pending : w.result = none := by simpa using unfinished
  rcases List.mem_iff_getElem?.mp member with ⟨i, found⟩
  rcases getElem?_exists (inside w member) with ⟨chan, place⟩
  have present := List.mem_of_getElem? place
  have room : chan.full = false := by
    rw [← Bool.not_eq_true]
    intro full
    exact Chan.buffered_of_full chan (slots chan present) full (drained chan present)
  have goes := (finish_isSome_iff found pending place).mpr (.inr room)
  rw [stuck i] at goes
  cases goes

end Load

namespace Handling

variable {M : Type} {h h' : Handling M} {writes : List (Writing M)}

/-- The tasks that the handling still refers to. -/
def tasks : Handling M → List Nat
  | held handler => handler.handlers
  | waiting _ _ left _ => left
  | returned _ => []
  | dropped => []

/-- The turns that are left to a call of `wait`. -/
def left : Handling M → Nat
  | waiting _ _ left _ => left.length + 1
  | _ => 0

/-- A `wait` was called on the handler, and is not given up. -/
def called : Handling M → Bool
  | waiting _ _ _ _ | returned _ => true
  | held _ | dropped => false

theorem resume_called (n : Nat) (duration : Option Duration) (rest : List Nat)
    (next : Except (NotifierError M Unit) (List (NotifierError M Unit))) :
    (resume n duration rest next).called = true := by
  cases next <;> rfl

theorem resume_left (n : Nat) (duration : Option Duration) (i : Nat) (rest : List Nat)
    (errors : List (NotifierError M Unit))
    (next : Except (NotifierError M Unit) (List (NotifierError M Unit))) :
    (resume n duration rest next).tasks ⊆ (waiting n duration (i :: rest) errors).tasks ∧
      (resume n duration rest next).left < (waiting n duration (i :: rest) errors).left := by
  cases next with
  | ok errors' => exact ⟨List.subset_cons_self _ _, Nat.lt_succ_self _⟩
  | error e => exact ⟨List.nil_subset _, Nat.succ_pos _⟩

theorem poll_left (polled : h.poll writes = some h') :
    h'.tasks ⊆ h.tasks ∧ h'.left < h.left := by
  cases h with
  | waiting n duration rest errors =>
    cases rest with
    | nil =>
      cases polled
      exact ⟨List.nil_subset _, Nat.succ_pos _⟩
    | cons i rest =>
      simp only [poll] at polled
      split at polled
      · cases polled
        exact resume_left _ _ _ _ _ _
      · cases polled
  | _ => cases polled

theorem timeout_left (timed : h.timeout writes = some h') :
    h'.tasks ⊆ h.tasks ∧ h'.left < h.left := by
  cases h with
  | waiting n duration rest errors =>
    cases duration with
    | none => cases timed
    | some d =>
      cases rest with
      | nil => cases timed
      | cons i rest =>
        simp only [timeout] at timed
        split at timed
        · cases timed
          exact resume_left _ _ _ _ _ _
        · cases timed
  | _ => cases timed

theorem poll_called (polled : h.poll writes = some h') : h'.called = true := by
  unfold poll at polled
  split at polled
  · cases polled
    rfl
  · split at polled
    · cases polled
      exact resume_called _ _ _ _
    · cases polled
  · cases polled

theorem timeout_called (timed : h.timeout writes = some h') : h'.called = true := by
  unfold timeout at timed
  split at timed
  · split at timed
    · cases timed
      exact resume_called _ _ _ _
    · cases timed
  · cases timed

end Handling

section Housing

variable {M ChannelId : Type} {t t' : Tables M} {e : Event}

/-- Every writing task has its channel, and every handler its tasks. -/
structure Housed (t : Tables M) : Prop where
  writes : ∀ w ∈ t.writes, w.sender.sender < t.chans.length
  handlings : ∀ h ∈ t.handlings, ∀ i ∈ h.tasks, i < t.writes.length

theorem Housed.handle {i : Nat} {next : Handling M → Option (Handling M)} (housed : Housed t)
    (fewer : ∀ h h', next h = some h' → h'.tasks ⊆ h.tasks)
    (handled : t.handle i next = some t') : Housed t' := by
  rcases Option.map_eq_some_iff.mp handled with ⟨h', turned, rfl⟩
  rcases Option.bind_eq_some_iff.mp turned with ⟨h, found, changed⟩
  refine ⟨housed.writes, fun h'' member => ?_⟩
  rcases List.mem_or_eq_of_mem_set member with member | rfl
  · exact housed.handlings h'' member
  · intro j listed
    exact housed.handlings h (List.mem_of_getElem? found) j (fewer h _ changed listed)

theorem Housed.rewritten (housed : Housed t) (handlings : t'.handlings = t.handlings)
    (writes : ∀ w ∈ t'.writes, w.sender.sender < t'.chans.length)
    (length : t.writes.length ≤ t'.writes.length) : Housed t' := by
  refine ⟨writes, ?_⟩
  rw [handlings]
  intro h member i listed
  exact Nat.lt_of_lt_of_le (housed.handlings h member i listed) length

theorem Housed.event (housed : Housed t) (taken : t.step e = some t') : Housed t' := by
  have writes := targets_happened (event_cases taken) housed.writes
  cases e with
  | write i =>
    rcases Option.map_eq_some_iff.mp taken with ⟨⟨chans, writes'⟩, finished, rfl⟩
    have length : t.writes.length ≤ writes'.length := by
      obtain ⟨w, chan, -, -, -, ⟨-, -, rfl⟩ | ⟨-, -, -, rfl⟩⟩ := finish_some finished
      · rw [List.length_modify]
      · rw [List.length_modify]
    exact housed.rewritten rfl writes length
  | notice | receive | receiveNotice =>
    rcases Option.map_eq_some_iff.mp taken with ⟨_, -, rfl⟩
    exact housed.rewritten rfl writes (Nat.le_refl _)
  | close | closeWaiter =>
    cases taken
    exact housed.rewritten rfl writes (Nat.le_refl _)
  | wait i duration =>
    refine housed.handle (fun h h' waits => ?_) taken
    cases h with
    | held handler =>
      cases waits
      exact List.Subset.refl _
    | _ => cases waits
  | poll i => exact housed.handle (fun h h' polled => (Handling.poll_left polled).1) taken
  | timeout i => exact housed.handle (fun h h' timed => (Handling.timeout_left timed).1) taken
  | dropHandler i =>
    refine housed.handle (fun h h' dropped => ?_) taken
    cases dropped
    exact List.nil_subset _

variable [DecidableEq ChannelId] {f f' : NotifierHub M ChannelId} {address : Nat}
  {op : Op M ChannelId} {msg : M} {id : ChannelId}

/-- A handler that a call returns stands for tasks that the call spawned. -/
def Handed (t t' : Tables M) : Prop :=
  t'.handlings = t.handlings ∨ ∃ tasks, t'.handlings = t.handlings ++ [.held ⟨tasks⟩] ∧
    ∀ i ∈ tasks, i < t'.writes.length

theorem handed_broadcast (f : NotifierHub M ChannelId) (t : Tables M) (msg : M)
    (keys : List ChannelId) :
    Handed t ((f.broadcastClone t keys msg).2.2.hand (f.broadcastClone t keys msg).1) := by
  rcases broadcastClone_eq f t msg keys with ⟨f', -, same⟩
  rw [same]
  refine .inr ⟨_, rfl, fun i listed => ?_⟩
  have bounds := List.mem_range'_1.mp listed
  simp only [Tables.hand, List.length_append]
  exact bounds.2

theorem handed_send (f : NotifierHub M ChannelId) (t : Tables M) (msg : M) (id : ChannelId) :
    Handed t (answer (f.cloneSend t msg id)).2 := by
  unfold cloneSend
  dsimp only
  split
  · refine .inr ⟨_, rfl, fun i listed => ?_⟩
    have bounds := List.mem_range'_1.mp listed
    simpa [answer, Tables.hand, newCloningBroadcast] using bounds.2
  · exact .inr ⟨[], rfl, fun i listed => absurd listed List.not_mem_nil⟩
  · exact .inl rfl

theorem handed_called (made : call f address t op = some (f', t')) : Handed t t' := by
  have called := call_cases made
  cases op with
  | cloneSend msg id | arcSend msg id =>
    have answered : answer (f.cloneSend t msg id) = (f', t') := Option.some.inj made
    have handed := handed_send f t msg id
    rwa [answered] at handed
  | broadcastClone msg keys | broadcastArc msg keys =>
    simp only [call, Option.ite_none_right_eq_some, Option.some.injEq] at made
    rcases made with ⟨-, made⟩
    rcases Prod.mk.inj made with ⟨-, rfl⟩
    exact handed_broadcast f t msg keys
  | cleanChannel id =>
    cases made
    exact .inl rfl
  | cleanAll keys =>
    simp only [call, Option.ite_none_right_eq_some, Option.some.injEq, Prod.mk.injEq] at made
    rcases made with ⟨-, -, rfl⟩
    exact .inl rfl
  | _ => exact .inl (handlings_unswept called rfl)

/-- A call spawns writing tasks for channels that are there. -/
theorem targets_called (wired : Wired f t) (made : Called f address t op f' t')
    (inside : ∀ w ∈ t.writes, w.sender.sender < t.chans.length) :
    ∀ w ∈ t'.writes, w.sender.sender < t'.chans.length := by
  cases made with
  | joined names room inserted =>
    intro w member
    rw [List.length_append]
    exact Nat.lt_add_right _ (inside w member)
  | left | awaited => exact inside
  | @swept _ ids msg _ _ names lists retained =>
    intro w member
    rcases List.mem_append.mp member with member | member
    · exact inside w member
    · cases msg with
      | none => cases member
      | some msg =>
        rcases List.mem_map.mp member with ⟨sender, listed, rfl⟩
        rcases List.mem_flatMap.mp listed with ⟨id, -, entry⟩
        have known := (wired.retained retained).entries id sender entry
        rcases List.mem_iff_getElem?.mp known with ⟨r, held⟩
        have same : sender.sender = r := wired.place r _ held
        dsimp only [getHandler]
        rw [same, ← wired.length]
        exact getElem?_lt held

theorem Housed.called (housed : Housed t) (wired : Wired f t)
    (made : call f address t op = some (f', t')) : Housed t' := by
  have called := call_cases made
  rcases writes_called called with ⟨new, writes, -⟩
  have grown : t.writes.length ≤ t'.writes.length := by simp [writes]
  refine ⟨targets_called wired called housed.writes, ?_⟩
  have known : ∀ h ∈ t.handlings, ∀ i ∈ h.tasks, i < t'.writes.length :=
    fun h member i listed => Nat.lt_of_lt_of_le (housed.handlings h member i listed) grown
  rcases handed_called made with same | ⟨tasks, same, spawned⟩
  · rw [same]
    exact known
  · rw [same]
    exact forall_mem_concat known spawned

end Housing

namespace Act

variable {M ChannelId : Type}

/-- What goes on without a further call: the tasks write, the receivers take what is there and the
    calls of `wait` go on. -/
def goesOn : Act M ChannelId → Bool
  | .event (.write _) | .event (.notice _) | .event (.receive _) | .event (.receiveNotice _)
  | .event (.poll _) | .event (.timeout _) => true
  | _ => false

end Act

namespace Config

variable {M ChannelId : Type} [DecidableEq ChannelId] {s s' : Config M ChannelId}
  {a : Act M ChannelId} {trace : List (Config M ChannelId × Act M ChannelId)} {address i : Nat}

/-- The steps that are left if there are no further calls. -/
def left (s : Config M ChannelId) : Nat :=
  load s.chans s.writes + load s.waits s.notices + (s.handlings.map Handling.left).sum

omit [DecidableEq ChannelId] in
theorem left_handle {t t' : Tables M} {next : Handling M → Option (Handling M)}
    (less : ∀ h h', next h = some h' → h'.left < h.left) (handled : t.handle i next = some t') :
    t'.chans = t.chans ∧ t'.writes = t.writes ∧ t'.waits = t.waits ∧ t'.notices = t.notices ∧
      (t'.handlings.map Handling.left).sum < (t.handlings.map Handling.left).sum := by
  rcases Option.map_eq_some_iff.mp handled with ⟨h', turned, rfl⟩
  rcases Option.bind_eq_some_iff.mp turned with ⟨h, found, changed⟩
  have sums := sum_modify Handling.left (fun _ => h') found
  have turns := less h h' changed
  refine ⟨rfl, rfl, rfl, rfl, ?_⟩
  dsimp only
  rw [List.set_eq_modify]
  omega

theorem left_step (goes : a.goesOn = true) (taken : s.step a = some s') : s'.left < s.left := by
  cases a with
  | op | move => cases goes
  | event e =>
    rcases Option.map_eq_some_iff.mp taken with ⟨t, happened, rfl⟩
    cases e with
    | write i =>
      rcases Option.map_eq_some_iff.mp happened with ⟨⟨chans, writes⟩, finished, rfl⟩
      have less := load_finish finished
      simp only [left]
      omega
    | notice i =>
      rcases Option.map_eq_some_iff.mp happened with ⟨⟨waits, notices⟩, finished, rfl⟩
      have less := load_finish finished
      simp only [left]
      omega
    | receive r =>
      rcases Option.map_eq_some_iff.mp happened with ⟨chans, received, rfl⟩
      have less := load_receive s.writes received
      simp only [left]
      omega
    | receiveNotice w =>
      rcases Option.map_eq_some_iff.mp happened with ⟨waits, received, rfl⟩
      have less := load_receive s.notices received
      simp only [left]
      omega
    | poll i =>
      rcases left_handle (fun h h' polled => (Handling.poll_left polled).2) happened with
        ⟨chans, writes, waits, notices, less⟩
      simp only [left, chans, writes, waits, notices]
      omega
    | timeout i =>
      rcases left_handle (fun h h' timed => (Handling.timeout_left timed).2) happened with
        ⟨chans, writes, waits, notices, less⟩
      simp only [left, chans, writes, waits, notices]
      omega
    | close | closeWaiter | wait | dropHandler => cases goes

/-- Every message has been received, every task is over and every call of `wait` has returned. -/
structure Quiet (s : Config M ChannelId) : Prop where
  received : ∀ chan ∈ s.chans, chan.buffer = []
  written : ∀ w ∈ s.writes, w.result.isSome = true
  noticed : ∀ chan ∈ s.waits, chan.buffer = []
  informed : ∀ notice ∈ s.notices, notice.result.isSome = true
  returned : ∀ h ∈ s.handlings, ∀ n duration rest errors, h ≠ .waiting n duration rest errors

structure Steady (s : Config M ChannelId) : Prop where
  wired : Wired s.hub s.toTables
  posted : Posted s.hub s.toTables
  housed : Housed s.toTables
  bounded : ∀ chan ∈ s.chans, Bounded chan

theorem steady_step (steady : s.Steady) (taken : s.step a = some s') : s'.Steady := by
  refine ⟨wired_step steady.wired taken, posted_step steady.posted taken, ?_,
    bounded_step steady.bounded taken⟩
  cases step_cases taken with
  | called made => exact steady.housed.called steady.wired made
  | moved => exact steady.housed
  | happened happened => exact steady.housed.event happened

theorem steady_run (run : Run step (Config.new address) trace s) : s.Steady := by
  refine run.invariant (fun _ _ _ steady taken => steady_step steady taken) ?_
  refine ⟨wired_new, ⟨?_, ?_, ?_⟩, ⟨?_, ?_⟩, ?_⟩ <;>
    simp [Config.new, Tables.new, creationsOf, NotifierHub.new]

/-- The next turn of a call of `wait` needs the task that it awaits to be over. -/
theorem poll_isSome_iff {h : Handling M} {n : Nat} {duration : Option Duration} {rest : List Nat}
    {errors : List (NotifierError M Unit)} (place : s.handlings[i]? = some h)
    (waits : h = .waiting n duration rest errors) :
    (s.step (.event (.poll i))).isSome = true ↔ ∀ j ∈ rest.head?, s.toTables.Ended j := by
  subst waits
  simp only [step, Tables.step, Tables.handle, place, Option.bind_some, Option.isSome_map]
  cases rest with
  | nil => simp [Handling.poll]
  | cons j rest =>
    simp only [List.head?_cons, Option.mem_some_iff, forall_eq', Tables.Ended, Handling.poll]
    cases found : s.writes[j]? with
    | none => simp
    | some w =>
      rcases w with ⟨sender, msg, result⟩
      cases result <;> simp

theorem quiet_of_stuck (steady : s.Steady) (stuck : ∀ a, a.goesOn = true → s.step a = none) :
    s.Quiet := by
  have events : ∀ e, (.event e : Act M ChannelId).goesOn = true → s.toTables.step e = none := by
    intro e goes
    simpa [step] using stuck (.event e) goes
  have slots : ∀ chan ∈ s.chans, 0 < chan.capacity := by
    intro chan member
    rw [(steady.bounded chan member).1]
    decide
  have waitSlots : ∀ chan ∈ s.waits, 0 < chan.capacity := by
    intro chan member
    rw [(steady.posted.bounded chan member).1]
    decide
  rcases drained_of_stuck steady.housed.writes slots
    (fun r => by simpa [Tables.step] using events (.receive r) rfl)
    (fun i => by simpa [Tables.step] using events (.write i) rfl) with ⟨received, written⟩
  rcases drained_of_stuck steady.posted.notices waitSlots
    (fun w => by simpa [Tables.step] using events (.receiveNotice w) rfl)
    (fun i => by simpa [Tables.step] using events (.notice i) rfl) with ⟨noticed, informed⟩
  refine ⟨received, written, noticed, informed, ?_⟩
  intro h member n duration rest errors waits
  rcases List.mem_iff_getElem?.mp member with ⟨i, place⟩
  have goes := (poll_isSome_iff place waits).mpr ?_
  · rw [stuck (.event (.poll i)) rfl] at goes
    cases goes
  · intro j next
    subst waits
    have listed : j ∈ rest := List.mem_of_mem_head? next
    rcases getElem?_exists (steady.housed.handlings _ member j listed) with ⟨w, found⟩
    simp [Tables.Ended, found, written w (List.mem_of_getElem? found)]

/-- A call of `wait` is not given up. -/
theorem called_step {h : Handling M} (goes : a.goesOn = true) (taken : s.step a = some s')
    (place : s.handlings[i]? = some h) (called : h.called = true) :
    ∃ h', s'.handlings[i]? = some h' ∧ h'.called = true := by
  cases a with
  | op | move => cases goes
  | event e =>
    rcases Option.map_eq_some_iff.mp taken with ⟨t, happened, rfl⟩
    have turned : ∀ (j : Nat) next, s.toTables.handle j next = some t →
        (∀ h h', next h = some h' → h'.called = true) →
          ∃ h', t.handlings[i]? = some h' ∧ h'.called = true := by
      intro j next handled keeps
      rcases handle_place handled place with ⟨-, h', place', rfl | changed⟩
      · exact ⟨h', place', called⟩
      · exact ⟨h', place', keeps h h' changed⟩
    cases e with
    | poll j => exact turned j _ happened fun _ _ polled => Handling.poll_called polled
    | timeout j => exact turned j _ happened fun _ _ timed => Handling.timeout_called timed
    | write | notice | receive | receiveNotice =>
      rcases Option.map_eq_some_iff.mp happened with ⟨_, -, rfl⟩
      exact ⟨h, place, called⟩
    | close | closeWaiter | wait | dropHandler => cases goes

/-- Without further calls the hub has a bounded number of steps, and where it has no more of them
    everything has arrived. -/
theorem hub_comes_to_rest (run : Run step (Config.new address) trace s) :
    (∀ later t, Run step s later t → Along (fun _ a => a.goesOn) later →
      later.length + t.left ≤ s.left ∧
        ((∀ a, a.goesOn = true → t.step a = none) → t.Quiet)) ∧
      ∃ later t, Run step s later t ∧ Along (fun _ a => a.goesOn) later ∧ t.Quiet := by
  have steady := steady_run run
  have keep : ∀ (t : Config M ChannelId) a t', t.Steady → a.goesOn = true → t.step a = some t' →
      t'.Steady := fun _ _ _ inv _ taken => steady_step inv taken
  constructor
  · intro later t onward goes
    refine ⟨bounded (fun u a u' go taken => left_step go taken) onward goes, ?_⟩
    exact quiet_of_stuck (onward.invariant_along keep goes steady)
  · refine settles left keep ?_ s steady
    intro t inv loud
    by_contra stuck
    refine loud (quiet_of_stuck inv fun a goes => ?_)
    by_contra moves
    rcases Option.ne_none_iff_exists'.mp moves with ⟨t', taken⟩
    exact stuck ⟨a, t', goes, taken, left_step goes taken⟩

def waitsForOne : List (Act Nat Nat) :=
  [.op (.subscribe 1), .op (.cloneSend 5 1), .event (.wait 0 none)]

theorem hub_comes_to_rest_after_send : ∃ s, exec step (Config.new 7) waitsForOne = some s ∧
    s.left = 4 ∧ ∃ later t, Run step s later t ∧ Along (fun _ a => a.goesOn) later ∧ t.Quiet := by
  obtain ⟨s, done, size⟩ : ∃ s : Config Nat Nat,
      exec step (Config.new 7) waitsForOne = some s ∧ s.left = 4 := ⟨_, rfl, rfl⟩
  exact ⟨s, done, size, (hub_comes_to_rest (run_of_exec _ done)).2⟩

/-- A call of `wait` waits for a task that waits for a slot at an open receiver, and for nothing
    else; it has returned when the hub is at rest. -/
theorem wait_goes_on {n : Nat} {duration : Option Duration} {rest : List Nat}
    {errors : List (NotifierError M Unit)} (run : Run step (Config.new address) trace s)
    (waits : s.handlings[i]? = some (.waiting n duration rest errors)) :
    ((s.step (.event (.poll i))).isSome = true ↔ ∀ j ∈ rest.head?, s.toTables.Ended j) ∧
      (∀ j ∈ rest.head?, ¬ s.toTables.Ended j → ∃ w chan, s.writes[j]? = some w ∧
        s.chans[w.sender.sender]? = some chan ∧
        ((s.step (.event (.write j))).isSome = true ↔
          chan.closed = true ∨ chan.buffer.length < channelSize)) ∧
      ∀ later t, Run step s later t → Along (fun _ a => a.goesOn) later → t.Quiet →
        ∃ result, t.handlings[i]? = some (.returned result) := by
  have steady := steady_run run
  refine ⟨poll_isSome_iff waits rfl, ?_, ?_⟩
  · intro j next pending
    have listed : j ∈ rest := List.mem_of_mem_head? next
    rcases getElem?_exists (steady.housed.handlings _ (List.mem_of_getElem? waits) j listed)
      with ⟨w, found⟩
    rcases getElem?_exists (steady.housed.writes w (List.mem_of_getElem? found))
      with ⟨chan, place⟩
    have unfinished : w.result = none := by simpa [Tables.Ended, found] using pending
    have size := (steady.bounded chan (List.mem_of_getElem? place)).1
    refine ⟨w, chan, found, place, ?_⟩
    simp only [step, Tables.step, Option.isSome_map]
    rw [finish_isSome_iff found unfinished place, Chan.full, size]
    simp
  · intro later t onward goes quiet
    have keep : ∀ (u : Config M ChannelId) a u',
        (∃ h, u.handlings[i]? = some h ∧ h.called = true) → a.goesOn = true →
          u.step a = some u' → ∃ h, u'.handlings[i]? = some h ∧ h.called = true := by
      intro u a u' given go taken
      rcases given with ⟨h, place, called⟩
      exact called_step go taken place called
    rcases onward.invariant_along keep goes ⟨_, waits, rfl⟩ with ⟨h, place, called⟩
    cases h with
    | returned result => exact ⟨result, place⟩
    | waiting m d left errs =>
      exact absurd rfl (quiet.returned _ (List.mem_of_getElem? place) m d left errs)
    | held | dropped => cases called

theorem wait_goes_on_after_send : ∃ s, exec step (Config.new 7) waitsForOne = some s ∧
    (s.step (.event (.poll 0))).isSome = false ∧
      ∀ later t, Run step s later t → Along (fun _ a => a.goesOn) later → t.Quiet →
        ∃ result, t.handlings[0]? = some (.returned result) := by
  obtain ⟨s, done, waits, pending⟩ : ∃ s : Config Nat Nat,
      exec step (Config.new 7) waitsForOne = some s ∧
        s.handlings[0]? = some (.waiting 1 none [0] []) ∧ ¬ s.toTables.Ended 0 :=
    ⟨_, rfl, rfl, Bool.false_ne_true⟩
  rcases wait_goes_on (run_of_exec _ done) waits with ⟨turn, -, ends⟩
  refine ⟨s, done, ?_, ends⟩
  rw [← Bool.not_eq_true, turn]
  exact fun ended => pending (ended 0 rfl)

end Config

end AsyncForge.NotifierHub
