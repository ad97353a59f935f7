import AsyncForge.NotifierHub.SendOrder

/-! What a `wait` without a duration reports, and what the tasks of its handler did. -/

namespace AsyncForge.NotifierHub

open AsyncForge.Channels AsyncForge.Runs AsyncForge.SmartChannel
open AsyncForge.NotifierHub.WritingHandler

section Reporting

variable {M : Type} {t t' : Tables M} {tasks : List Nat} {h h' : Handling M} {i : Nat}

/-- The entry of a task that is over in the report of a `wait`. -/
def Tables.failure (t : Tables M) (i : Nat) : Option (NotifierError M Unit) :=
  match (t.writes[i]?).bind Writing.result with
  | some (.error e) => some (.sendingError e)
  | _ => none

theorem waitEnd_eq_ok {n : Nat} {errors : List (NotifierError M Unit)} :
    waitEnd n errors = .ok n ↔ errors = [] := by
  unfold waitEnd
  cases errors <;> simp

theorem waitEnd_eq_error {n : Nat} {errors : List (NotifierError M Unit)} (some : errors ≠ []) :
    waitEnd n errors = .error (.writingSendError errors) := by
  unfold waitEnd
  rw [if_neg (by simpa using some)]

/-- The `wait` was called without a duration, and reports the tasks that it is past. -/
def Handling.Reports (t : Tables M) (tasks : List Nat) : Handling M → Prop
  | held _ => False
  | waiting n duration left errors => duration = none ∧ n = tasks.length ∧ ∃ past,
      tasks = past ++ left ∧ (∀ i ∈ past, t.Ended i) ∧ errors = past.filterMap t.failure
  | returned result => (∀ i ∈ tasks, t.Ended i) ∧
      result = waitEnd tasks.length (tasks.filterMap t.failure)
  | dropped => True

theorem Tables.Keeps.failure (keeps : t.Keeps t') (ended : t.Ended i) :
    t'.failure i = t.failure i := by
  rcases (Option.any_eq_true _ _).mp ended with ⟨w, found, finished⟩
  rcases keeps i w found with ⟨w', found', -, -, same⟩
  simp [Tables.failure, found, found', same finished]

theorem Tables.Keeps.inside (keeps : t.Keeps t') (inside : i < t.writes.length) :
    i < t'.writes.length := by
  rcases keeps i _ (List.getElem?_eq_getElem inside) with ⟨w', found, -⟩
  exact getElem?_lt found

theorem Tables.Keeps.message (keeps : t.Keeps t') (inside : i < t.writes.length) :
    t'.message i = t.message i := by
  have found := List.getElem?_eq_getElem inside
  rcases keeps i _ found with ⟨w', found', -, same, -⟩
  simp [Tables.message, found', same, inside]

theorem Tables.Keeps.failures {past : List Nat} (keeps : t.Keeps t')
    (ended : ∀ i ∈ past, t.Ended i) : past.filterMap t'.failure = past.filterMap t.failure := by
  apply List.filterMap_congr
  intro i member
  exact keeps.failure (ended i member)

theorem Handling.Reports.keeps (reports : h.Reports t tasks) (keeps : t.Keeps t') :
    h.Reports t' tasks := by
  cases h with
  | held => exact reports
  | waiting n duration left errors =>
    rcases reports with ⟨plain, length, past, cut, ended, same⟩
    refine ⟨plain, length, past, cut, fun i member => keeps.ended (ended i member), ?_⟩
    rw [keeps.failures ended, same]
  | returned result =>
    rcases reports with ⟨ended, same⟩
    refine ⟨fun i member => keeps.ended (ended i member), ?_⟩
    rw [keeps.failures ended, same]
  | dropped => trivial

theorem Handling.Reports.poll (reports : h.Reports t tasks) (polled : h.poll t.writes = some h') :
    h'.Reports t tasks := by
  cases h with
  | waiting n duration left errors =>
    rcases reports with ⟨plain, length, past, cut, ended, same⟩
    cases left with
    | nil =>
      cases polled
      rw [List.append_nil] at cut
      subst cut
      exact ⟨ended, by rw [length, same]⟩
    | cons first left =>
      simp only [Handling.poll] at polled
      split at polled
      next sender msg result found =>
        have finished : ∀ i ∈ past ++ [first], t.Ended i := by
          intro i member
          rcases List.mem_append.mp member with member | member
          · exact ended i member
          · rw [List.mem_singleton.mp member]
            simp [Tables.Ended, found]
        have next : waitNext duration errors (.ok (.ok result)) =
            .ok ((past ++ [first]).filterMap t.failure) := by
          rw [List.filterMap_append, ← same]
          rcases result with e | ⟨⟩
          · simp [waitNext, Tables.failure, found]
          · simp [waitNext, Tables.failure, found]
        rw [next] at polled
        cases polled
        exact ⟨plain, length, past ++ [first], by simpa using cut, finished, rfl⟩
      · cases polled
  | _ => cases polled

theorem reports_stable (tasks : List Nat) :
    Handling.Stable (M := M) fun t h => h.Reports t tasks where
  keeps reports keeps := reports.keeps keeps
  wait {_ h _ _} reports waits := by
    cases h with
    | held handler => exact reports.elim
    | _ => cases waits
  poll reports polled := reports.poll polled
  timeout {_ h _} reports timed := by
    cases h with
    | waiting n duration left errors =>
      rcases reports with ⟨rfl, -⟩
      cases timed
    | _ => cases timed
  dropped := trivial

/-- No turn of `wait` takes the exit for a timeout without a duration. -/
theorem unexpected_stable :
    Handling.Stable (M := M) fun _ h => ∀ kind, h ≠ .returned (.error (.unexpectedError kind)) where
  keeps never _ := never
  wait {_ h _ _} _ waits := by
    cases h with
    | held handler =>
      cases waits
      simp
    | _ => cases waits
  poll {t h _} _ polled := by
    cases h with
    | waiting n duration left errors =>
      cases left with
      | nil =>
        cases polled
        intro kind
        unfold waitEnd
        split <;> simp
      | cons first left =>
        simp only [Handling.poll] at polled
        split at polled
        next sender msg result found =>
          cases polled
          rcases result with e | ⟨⟩ <;> simp [waitNext, Handling.resume]
        · cases polled
    | _ => cases polled
  timeout {t h _} _ timed := by
    cases h with
    | waiting n duration left errors =>
      rcases duration with - | d
      · cases timed
      cases left with
      | nil => cases timed
      | cons first left =>
        simp only [Handling.timeout] at timed
        split at timed
        · cases timed
          simp [waitNext, Handling.resume]
        · cases timed
    | _ => cases timed
  dropped := by simp

end Reporting

section Fates

variable {M : Type} {t t' : Tables M} {e : Event} {sender : Sender SmartChannelId} {msg : M}
  {i copies : Nat}

/-- The task is at work, or it put its message into the buffer once, or it failed with the
    message unsent. -/
def Tables.Fate (t : Tables M) (sender : Sender SmartChannelId) (msg : M) (i copies : Nat) : Prop :=
  ∃ result, t.writes[i]? = some ⟨sender, msg, result⟩ ∧
    ((result = none ∧ copies = 0) ∨ (result = some (.ok ()) ∧ copies = 1) ∨
      (result = some (.error ⟨msg⟩) ∧ copies = 0))

theorem Tables.Fate.same (fate : t.Fate sender msg i copies) (same : t'.writes[i]? = t.writes[i]?) :
    t'.Fate sender msg i copies := by
  unfold Tables.Fate
  rw [same]
  exact fate

theorem Tables.Fate.happened (fate : t.Fate sender msg i copies) (taken : t.step e = some t') :
    t'.Fate sender msg i (copies + (t.enqueued sender.sender e).count i) := by
  cases e with
  | write j =>
    rcases Option.map_eq_some_iff.mp taken with ⟨⟨chans, writes⟩, finished, rfl⟩
    obtain ⟨w, chan, found, pending, place, ended⟩ := finish_some finished
    by_cases same : j = i
    · subst same
      rcases fate with ⟨result, found', outcome⟩
      obtain rfl : w = ⟨sender, msg, result⟩ := Option.some.inj (found.symm.trans found')
      dsimp only at pending place ended
      subst pending
      obtain rfl : copies = 0 := by simpa using outcome
      rcases ended with ⟨shut, rfl, rfl⟩ | ⟨free, -, rfl, rfl⟩
      · refine ⟨some (.error ⟨msg⟩), by simp [found], .inr (.inr ⟨rfl, ?_⟩)⟩
        simp [enqueued_write found place, shut]
      · refine ⟨some (.ok ()), by simp [found], .inr (.inl ⟨rfl, ?_⟩)⟩
        simp [enqueued_write found place, free]
    · have absent : (t.enqueued sender.sender (.write j)).count i = 0 := by
        rw [enqueued_write found place]
        split <;> simp [same]
      rw [absent]
      apply fate.same
      rcases ended with ⟨-, -, rfl⟩ | ⟨-, -, -, rfl⟩ <;> exact List.getElem?_modify_ne _ _ same
  | _ =>
    have writes := (happened_quiet (r := i) (event_cases taken) (by simp)).1
    apply fate.same
    rw [writes]

theorem Tables.Fate.failure (fate : t.Fate sender msg i copies) (ended : t.Ended i) :
    (copies = 1 ∧ t.failure i = none) ∨
      (copies = 0 ∧ t.failure i = some (.sendingError ⟨msg⟩)) := by
  rcases fate with ⟨result, found, ⟨rfl, -⟩ | ⟨rfl, once⟩ | ⟨rfl, never⟩⟩
  · simp [Tables.Ended, found] at ended
  · exact .inl ⟨once, by simp [Tables.failure, found]⟩
  · exact .inr ⟨never, by simp [Tables.failure, found]⟩

end Fates

namespace Config

variable {M ChannelId : Type} [DecidableEq ChannelId] {s s' start : Config M ChannelId}
  {a : Act M ChannelId} {msg : M} {sender : Sender SmartChannelId} {r i copies : Nat}
  {trace past later : List (Config M ChannelId × Act M ChannelId)}

theorem fate_step (fate : s.toTables.Fate sender msg i copies) (taken : s.step a = some s') :
    s'.toTables.Fate sender msg i (copies + (enqueued sender.sender s a).count i) := by
  cases step_cases taken with
  | called made =>
    rcases writes_called (call_cases made) with ⟨new, writes, -⟩
    rcases fate with ⟨result, found, outcome⟩
    refine ⟨result, ?_, outcome⟩
    dsimp only
    rw [writes, List.getElem?_append_left (getElem?_lt found), found]
  | moved => exact fate
  | happened happened => exact fate.happened happened

theorem fate_run (run : Run step start trace s) (fate : start.toTables.Fate sender msg i 0) :
    s.toTables.Fate sender msg i ((enqueues sender.sender trace).count i) := by
  induction run with
  | nil => exact fate
  | snoc before last ih =>
    rw [enqueues_snoc, List.count_append]
    exact fate_step ih last

theorem sent_step (taken : s.step a = some s') :
    sentTo s'.chans r = sentTo s.chans r ++ (enqueued r s a).filterMap s.message := by
  cases step_cases taken with
  | called made =>
    rcases writes_called (call_cases made) with ⟨-, -, -, sent, -⟩
    simpa [enqueued] using sent r
  | moved => simp [enqueued]
  | happened happened => exact sentTo_happened happened

omit [DecidableEq ChannelId] in
theorem enqueued_known (member : i ∈ enqueued r s a) : i < s.writes.length := by
  unfold enqueued Tables.enqueued at member
  split at member
  · split at member
    · split at member
      next given =>
        obtain rfl := List.mem_singleton.mp member
        rw [Bool.and_eq_true] at given
        rcases (Option.any_eq_true _ _).mp given.1 with ⟨w, found, -⟩
        exact getElem?_lt found
      · cases member
    · cases member
  · cases member

/-- What a run puts into a buffer are the messages of the tasks that it logs. -/
theorem sent_run (run : Run step start trace s) :
    (∀ i ∈ enqueues r trace, i < s.writes.length) ∧
      sentTo s.chans r = sentTo start.chans r ++ (enqueues r trace).filterMap s.message := by
  induction run with
  | nil => simp [enqueues]
  | @snoc trace s s' a before last ih =>
    rcases ih with ⟨known, sent⟩
    have keeps := keeps_step last
    rw [enqueues_snoc]
    have inside : ∀ i ∈ enqueues r trace ++ enqueued r s a, i < s.writes.length := by
      intro i member
      rcases List.mem_append.mp member with member | member
      · exact known i member
      · exact enqueued_known member
    refine ⟨fun i member => keeps.inside (inside i member), ?_⟩
    rw [sent_step last, sent, List.append_assoc, ← List.filterMap_append]
    congr 1
    exact (Tables.messages_congr inside fun i below => keeps.message below).symm

/-- How many copies of its message a task put into the buffer of its sender. -/
def copiesOf (trace : List (Config M ChannelId × Act M ChannelId))
    (task : Sender SmartChannelId × Nat) : Nat :=
  (enqueues task.1.sender trace).count task.2

variable {t : Tables M} {senders : List (Sender SmartChannelId)}
  {broadcast : WritingHandler × List (Writing M)} {result : Except (NotifierError M Unit) Nat}

theorem reported_when_returned {tasks : List Nat} (run : Run step start trace s)
    (place : start.handlings[i]? = some (.held ⟨tasks⟩)) {u : Config M ChannelId}
    (waited : (u, .event (.wait i none)) ∈ trace)
    (returned : s.handlings[i]? = some (.returned result)) :
    (∀ j ∈ tasks, s.toTables.Ended j) ∧
      result = waitEnd tasks.length (tasks.filterMap s.toTables.failure) := by
  rcases List.append_of_mem waited with ⟨past, later, rfl⟩
  rcases run.split with ⟨u', before, taken, after⟩
  rcases stable_run (covers_stable tasks) before place rfl with ⟨h, place', covers⟩
  rcases Option.map_eq_some_iff.mp taken with ⟨t', handled, rfl⟩
  rcases Option.map_eq_some_iff.mp handled with ⟨h', found, rfl⟩
  rw [place', Option.bind_some] at found
  cases h with
  | held handler =>
    obtain rfl : handler.handlers = tasks := covers
    obtain rfl := Option.some.inj found
    let waiting : Handling M := .waiting handler.len none handler.handlers []
    have next : (u.handlings.set i waiting)[i]? = some waiting := by simp [getElem?_lt place']
    have reports : waiting.Reports { u.toTables with handlings := u.handlings.set i waiting }
        handler.handlers := ⟨rfl, rfl, [], rfl, by simp, rfl⟩
    rcases stable_run (reports_stable _) after next reports with ⟨h, place, reports⟩
    obtain rfl : h = .returned result := Option.some.inj (place.symm.trans returned)
    exact reports
  | _ => cases found

/-- A `wait` without a duration has an entry for each task that failed, which put nothing into the
    buffer of its sender; every other task put its message there once. -/
theorem wait_reports_every_write (made : broadcast = newCloningBroadcast t.writes msg senders ∨
      broadcast = newArcBroadcast t.writes msg senders)
    (spawned : start.toTables = { t with writes := broadcast.2 }.hand broadcast.1)
    (run : Run step start trace s) :
    (∀ kind, s.handlings[t.handlings.length]? ≠
      some (.returned (.error (.unexpectedError kind)))) ∧
    ∀ u result, (u, .event (.wait t.handlings.length none)) ∈ trace →
      s.handlings[t.handlings.length]? = some (.returned result) →
      let tasks := senders.zipIdx t.writes.length
      (∀ task ∈ tasks, copiesOf trace task = 0 ∨ copiesOf trace task = 1) ∧
      (result = .ok senders.length ↔ ∀ task ∈ tasks, copiesOf trace task = 1) ∧
      (result ≠ .ok senders.length → result = .error (.writingSendError
        ((tasks.filter fun task => copiesOf trace task = 0).map fun _ => .sendingError ⟨msg⟩))) ∧
      (∀ task ∈ tasks, s.message task.2 = some msg) ∧
      ∀ r, sentTo s.chans r = sentTo start.chans r ++ (enqueues r trace).filterMap s.message := by
  have tables : start.toTables = Tables.hand
      { t with writes := t.writes ++ senders.map fun sender => getHandler sender msg }
      ⟨List.range' t.writes.length senders.length⟩ := by
    rcases made with rfl | rfl <;> exact spawned
  have place : start.handlings[t.handlings.length]? =
      some (.held ⟨List.range' t.writes.length senders.length⟩) := by
    simp [tables, Tables.hand]
  constructor
  · intro kind unexpected
    rcases stable_run unexpected_stable run place (by simp) with ⟨h, place', never⟩
    exact never kind (Option.some.inj (place'.symm.trans unexpected))
  intro u result waited returned tasks
  rcases reported_when_returned run place waited returned with ⟨ended, reported⟩
  have fates : ∀ task ∈ tasks, s.toTables.Fate task.1 msg task.2 (copiesOf trace task) := by
    intro task member
    rcases List.mk_mem_zipIdx_iff_le_and_getElem?_sub.mp member with ⟨outside, found⟩
    apply fate_run run
    refine ⟨none, ?_, .inl ⟨rfl, rfl⟩⟩
    simp [tables, Tables.hand, List.getElem?_append_right outside, found, getHandler]
  have listed : List.range' t.writes.length senders.length = tasks.map Prod.snd :=
    (List.zipIdx_map_snd _ _).symm
  have outcome : ∀ task ∈ tasks,
      (copiesOf trace task = 1 ∧ s.toTables.failure task.2 = none) ∨
        (copiesOf trace task = 0 ∧ s.toTables.failure task.2 = some (.sendingError ⟨msg⟩)) := by
    intro task member
    apply (fates task member).failure (ended _ _)
    rw [listed]
    exact List.mem_map_of_mem member
  have errors : (tasks.map Prod.snd).filterMap s.toTables.failure =
      (tasks.filter fun task => copiesOf trace task = 0).map fun _ => .sendingError ⟨msg⟩ := by
    rw [List.filterMap_map, ← List.filterMap_eq_map, ← List.filterMap_eq_filter,
      List.filterMap_filterMap]
    apply List.filterMap_congr
    intro task member
    rcases outcome task member with ⟨once, none⟩ | ⟨never, entry⟩
    · simp [once, none, Option.guard]
    · simp [never, entry, Option.guard]
  rw [listed, errors, List.length_map, List.length_zipIdx] at reported
  have empty : (tasks.filter fun task => copiesOf trace task = 0) = [] ↔
      ∀ task ∈ tasks, copiesOf trace task = 1 := by
    rw [List.filter_eq_nil_iff]
    apply forall_congr'
    intro task
    apply imp_congr_right
    intro member
    rcases outcome task member with ⟨once, -⟩ | ⟨never, -⟩
    · simp [once]
    · simp [never]
  refine ⟨?_, ?_, ?_, ?_, fun r => (sent_run run).2⟩
  · intro task member
    rcases outcome task member with ⟨once, -⟩ | ⟨never, -⟩
    · exact .inr once
    · exact .inl never
  · rw [reported, waitEnd_eq_ok, List.map_eq_nil_iff, empty]
  · intro failed
    rw [reported] at failed ⊢
    exact waitEnd_eq_error (mt waitEnd_eq_ok.mpr failed)
  · intro task member
    rcases fates task member with ⟨result, found, -⟩
    simp [Tables.message, found]

/-- A channel with one slot, and a closed channel. -/
def oneSlot : Tables Nat :=
  { Tables.new with chans := [{ capacity := 1 }, { capacity := 1, closed := true }] }

def twiceTheSlot : List (Sender SmartChannelId) := [⟨⟨0, 7⟩, 0⟩, ⟨⟨1, 7⟩, 1⟩, ⟨⟨0, 7⟩, 0⟩]

def spawnsThree : Config Nat Nat :=
  let (handler, writes) := newCloningBroadcast oneSlot.writes 5 twiceTheSlot
  { Tables.hand { oneSlot with writes } handler with hub := .new, address := 7 }

/-- The first task gets the slot, and the channel is closed while the last one waits for it. -/
def closesLater : List (Act Nat Nat) :=
  [.event (.write 1), .event (.wait 0 none), .event (.write 0), .event (.poll 0), .event (.poll 0),
    .event (.close 0), .event (.write 2), .event (.poll 0), .event (.poll 0)]

theorem wait_reports_every_write_closed_later : ∃ s,
    exec step spawnsThree closesLater = some s ∧
      s.handlings[0]? = some (.returned
        (.error (.writingSendError [.sendingError ⟨5⟩, .sendingError ⟨5⟩]))) ∧
      (twiceTheSlot.zipIdx.map (copiesOf (traceOf step spawnsThree closesLater))) = [1, 0, 0] := by
  obtain ⟨s, u, result, done, waited, returned⟩ : ∃ s u result,
      exec step spawnsThree closesLater = some s ∧
      (u, .event (.wait 0 none)) ∈ traceOf step spawnsThree closesLater ∧
      s.handlings[0]? = some (.returned result) :=
    ⟨_, _, _, rfl, .tail _ (.head _), rfl⟩
  have counts : twiceTheSlot.zipIdx.map (copiesOf (traceOf step spawnsThree closesLater)) =
      [1, 0, 0] := by decide
  have second : copiesOf (traceOf step spawnsThree closesLater) (⟨⟨1, 7⟩, 1⟩, 1) = 0 := by decide
  have entries : (twiceTheSlot.zipIdx.filter fun task =>
      copiesOf (traceOf step spawnsThree closesLater) task = 0).length = 2 := by decide
  have spawned : spawnsThree.toTables = Tables.hand
      { oneSlot with writes := (newCloningBroadcast oneSlot.writes 5 twiceTheSlot).2 }
      (newCloningBroadcast oneSlot.writes 5 twiceTheSlot).1 := rfl
  have told := wait_reports_every_write (.inl rfl) spawned (run_of_exec closesLater done)
  rcases told.2 u result waited returned with ⟨-, whole, failed, -, -⟩
  have unsent : result ≠ .ok twiceTheSlot.length := by
    intro all
    have once := whole.mp all (⟨⟨1, 7⟩, 1⟩, 1) (by decide)
    rw [second] at once
    cases once
  refine ⟨s, done, ?_, counts⟩
  rw [returned, failed unsent, List.map_const']
  change some (Handling.returned (.error (.writingSendError (List.replicate
    (twiceTheSlot.zipIdx.filter fun task =>
      copiesOf (traceOf step spawnsThree closesLater) task = 0).length _)))) = _
  rw [entries]
  rfl

end Config

end AsyncForge.NotifierHub
