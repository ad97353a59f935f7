import AsyncForge.NotifierHub.BroadcastAgreement
import AsyncForge.NotifierHub.Conservation

/-! The order in which the messages of several sends get into one buffer. -/

namespace AsyncForge.NotifierHub

open AsyncForge.Channels AsyncForge.Runs AsyncForge.SmartChannel
open AsyncForge.NotifierHub.WritingHandler

section Log

variable {M ChannelId : Type} {t t' : Tables M} {e : Event} {log : List Nat} {r i : Nat}

/-- The event is the task whose message gets into the buffer of the receiver. -/
def Tables.enqueued (t : Tables M) (r : Nat) : Event → List Nat
  | .write i =>
    if (t.writes[i]?).any (·.sender.sender == r) && !(t.chans[r]?).any Chan.closed then [i] else []
  | _ => []

def Tables.message (t : Tables M) (i : Nat) : Option M := (t.writes[i]?).map Writing.msg

def Tables.Ended (t : Tables M) (i : Nat) : Prop := (t.writes[i]?).any (·.result.isSome) = true

/-- The log lists the tasks that put their message into the buffer, in their order. -/
structure Logged (r : Nat) (log : List Nat) (t : Tables M) : Prop where
  known : ∀ i ∈ log, i < t.writes.length
  sent : sentTo t.chans r = log.filterMap t.message
  complete : ∀ (i : Nat) w, t.writes[i]? = some w → w.sender.sender = r → w.result.isSome = true →
    i ∈ log ∨ (t.chans[r]?).any Chan.closed = true

theorem Tables.messages_congr (known : ∀ i ∈ log, i < t.writes.length)
    (same : ∀ i, i < t.writes.length → t'.message i = t.message i) :
    log.filterMap t'.message = log.filterMap t.message := by
  apply List.filterMap_congr
  intro i member
  exact same i (known i member)

/-- New tasks are not over yet. -/
theorem Logged.grown {new : List (Writing M)} (logged : Logged r log t)
    (writes : t'.writes = t.writes ++ new) (fresh : ∀ w ∈ new, w.result = none)
    (sent : sentTo t'.chans r = sentTo t.chans r)
    (closed : (t.chans[r]?).any Chan.closed = true → (t'.chans[r]?).any Chan.closed = true) :
    Logged r log t' := by
  refine ⟨?_, ?_, ?_⟩
  · intro i member
    rw [writes, List.length_append]
    exact Nat.lt_add_right _ (logged.known i member)
  · rw [sent, logged.sent]
    symm
    apply Tables.messages_congr logged.known
    intro i inside
    rw [Tables.message, writes, List.getElem?_append_left inside]
    rfl
  · intro i w found own finished
    rw [writes] at found
    rcases Nat.lt_or_ge i t.writes.length with inside | outside
    · rw [List.getElem?_append_left inside] at found
      exact (logged.complete i w found own finished).imp_right closed
    · rw [List.getElem?_append_right outside] at found
      simp [fresh w (List.mem_of_getElem? found)] at finished

/-- One task is over, with its place in the log if it put its message into the buffer. -/
theorem Logged.ended {w : Writing M} {new : List Nat}
    {result : Writing M → Except (SendError M) Unit} (logged : Logged r log t)
    (found : t.writes[i]? = some w)
    (writes : t'.writes = t.writes.modify i fun w => { w with result := some (result w) })
    (sent : sentTo t'.chans r = sentTo t.chans r ++ new.filterMap t.message)
    (closed : (t.chans[r]?).any Chan.closed = true → (t'.chans[r]?).any Chan.closed = true)
    (own : w.sender.sender = r → i ∈ new ∨ (t.chans[r]?).any Chan.closed = true)
    (single : ∀ j ∈ new, j = i) : Logged r (log ++ new) t' := by
  have length : t'.writes.length = t.writes.length := by rw [writes, List.length_modify]
  have message : t'.message = t.message := by
    funext j
    rw [Tables.message, writes, List.getElem?_modify, Tables.message]
    cases t.writes[j]? with
    | none => rfl
    | some before =>
      split <;> rfl
  refine ⟨?_, ?_, ?_⟩
  · intro j member
    rw [length]
    rcases List.mem_append.mp member with member | member
    · exact logged.known j member
    · rw [single j member]
      exact getElem?_lt found
  · rw [sent, logged.sent, message, List.filterMap_append]
  · intro j w' found' target finished
    rw [List.mem_append]
    rw [writes, List.getElem?_modify] at found'
    rcases Option.map_eq_some_iff.mp found' with ⟨before, place, rfl⟩
    by_cases same : i = j
    · subst same
      obtain rfl : w = before := Option.some.inj (found.symm.trans place)
      rw [if_pos rfl] at target
      rcases own target with logged | shut
      · exact .inl (.inr logged)
      · exact .inr (closed shut)
    · rw [if_neg same] at target finished
      rcases logged.complete j before place target finished with inside | shut
      · exact .inl (.inl inside)
      · exact .inr (closed shut)

theorem happened_quiet (happened : Happened t e t') (other : ∀ i, e ≠ .write i) :
    t'.writes = t.writes ∧ sentTo t'.chans r = sentTo t.chans r := by
  cases happened with
  | failed | written => exact absurd rfl (other _)
  | received => exact ⟨rfl, sentTo_modify Chan.sent_pop⟩
  | closed => exact ⟨rfl, sentTo_modify Chan.sent_close⟩
  | aside => exact ⟨rfl, rfl⟩

theorem enqueued_write {w : Writing M} {chan : Chan M} (found : t.writes[i]? = some w)
    (place : t.chans[w.sender.sender]? = some chan) : t.enqueued r (.write i) =
      if w.sender.sender = r ∧ chan.closed = false then [i] else [] := by
  by_cases own : w.sender.sender = r
  · subst own
    simp [Tables.enqueued, found, place]
  · simp [Tables.enqueued, found, own]

/-- What an event puts into a buffer are the messages of the tasks that it logs. -/
theorem sentTo_happened (taken : t.step e = some t') :
    sentTo t'.chans r = sentTo t.chans r ++ (t.enqueued r e).filterMap t.message := by
  cases e with
  | write i =>
    rcases Option.map_eq_some_iff.mp taken with ⟨⟨chans, writes⟩, finished, rfl⟩
    obtain ⟨w, chan, found, -, place, ⟨shut, rfl, rfl⟩ | ⟨free, -, rfl, rfl⟩⟩ :=
      finish_some finished
    · simp [enqueued_write found place, shut]
    · rw [enqueued_write found place, sentTo_push place]
      by_cases own : w.sender.sender = r <;> simp [own, free, Tables.message, found]
  | _ =>
    have quiet := (happened_quiet (r := r) (event_cases taken) (by simp)).2
    simpa [Tables.enqueued] using quiet

theorem Logged.happened (logged : Logged r log t) (taken : t.step e = some t') :
    Logged r (log ++ t.enqueued r e) t' := by
  have happened := event_cases taken
  have closed : (t.chans[r]?).any Chan.closed = true → (t'.chans[r]?).any Chan.closed = true :=
    closed_happened happened
  have sent : sentTo t'.chans r = _ := sentTo_happened taken
  cases e with
  | write i =>
    rcases Option.map_eq_some_iff.mp taken with ⟨⟨chans, writes⟩, finished, rfl⟩
    obtain ⟨w, chan, found, -, place, ended⟩ := finish_some finished
    have single : ∀ j ∈ t.enqueued r (.write i), j = i := by
      intro j member
      rw [enqueued_write found place] at member
      split at member
      · exact List.mem_singleton.mp member
      · cases member
    rcases ended with ⟨shut, rfl, rfl⟩ | ⟨free, -, rfl, rfl⟩
    · apply logged.ended found rfl sent closed _ single
      intro own
      subst own
      exact .inr (by simp [place, shut])
    · apply logged.ended found rfl sent closed _ single
      intro own
      rw [enqueued_write found place, if_pos ⟨own, free⟩]
      exact .inl (List.mem_singleton_self i)
  | _ =>
    rcases happened_quiet (r := r) happened (by simp) with ⟨writes, quiet⟩
    have none : t'.writes = t.writes ++ [] := by rw [writes, List.append_nil]
    have grown : Logged r log t' := logged.grown none (by simp) quiet closed
    simpa [Tables.enqueued] using grown

/-- A task keeps its sender and its message, and its result once it is over. -/
def Tables.Keeps (t t' : Tables M) : Prop :=
  ∀ (i : Nat) w, t.writes[i]? = some w → ∃ w', t'.writes[i]? = some w' ∧ w'.sender = w.sender ∧
    w'.msg = w.msg ∧ (w.result.isSome = true → w'.result = w.result)

theorem Tables.Keeps.refl (t : Tables M) : t.Keeps t := fun _ w found =>
  ⟨w, found, rfl, rfl, fun _ => rfl⟩

theorem Tables.Keeps.trans {t'' : Tables M} (one : t.Keeps t') (two : t'.Keeps t'') :
    t.Keeps t'' := by
  intro i w found
  rcases one i w found with ⟨w', found', sender, msg, result⟩
  rcases two i w' found' with ⟨w'', found'', sender', msg', result'⟩
  refine ⟨w'', found'', sender'.trans sender, msg'.trans msg, fun finished => ?_⟩
  have same := result finished
  rw [result' (by rw [same, finished]), same]

theorem Tables.Keeps.ended (keeps : t.Keeps t') (ended : t.Ended i) : t'.Ended i := by
  rcases (Option.any_eq_true _ _).mp ended with ⟨w, found, finished⟩
  rcases keeps i w found with ⟨w', found', -, -, same⟩
  simp [Tables.Ended, found', same finished, finished]

theorem keeps_appended {new : List (Writing M)} (writes : t'.writes = t.writes ++ new) :
    t.Keeps t' := by
  intro i w found
  refine ⟨w, ?_, rfl, rfl, fun _ => rfl⟩
  rw [writes, List.getElem?_append_left (getElem?_lt found), found]

theorem keeps_ended {w : Writing M} {result : Writing M → Option (Except (SendError M) Unit)}
    (found : t.writes[i]? = some w) (unfinished : w.result = none)
    (writes : t'.writes = t.writes.modify i fun w => { w with result := result w }) :
    t.Keeps t' := by
  intro j w' place
  by_cases same : i = j
  · subst same
    obtain rfl : w = w' := Option.some.inj (found.symm.trans place)
    refine ⟨{ w with result := result w }, ?_, rfl, rfl, ?_⟩
    · simp [writes, found]
    · simp [unfinished]
  · refine ⟨w', ?_, rfl, rfl, fun _ => rfl⟩
    rw [writes, List.getElem?_modify_ne _ _ same, place]

theorem keeps_happened (happened : Happened t e t') : t.Keeps t' := by
  cases happened with
  | failed found unfinished | written found unfinished => exact keeps_ended found unfinished rfl
  | received | closed | aside => exact keeps_appended (List.append_nil _).symm

variable [DecidableEq ChannelId] {f f' : NotifierHub M ChannelId} {address : Nat}
  {op : Op M ChannelId}

theorem writes_called (made : Called f address t op f' t') : ∃ new, t'.writes = t.writes ++ new ∧
    (∀ w ∈ new, w.result = none) ∧ (∀ r, sentTo t'.chans r = sentTo t.chans r) ∧
    ∀ r : Nat, (t.chans[r]?).any Chan.closed = true → (t'.chans[r]?).any Chan.closed = true := by
  have still : ∀ r : Nat, (t.chans[r]?).any Chan.closed = true →
      (t.chans[r]?).any Chan.closed = true := fun _ closed => closed
  cases made with
  | joined names room inserted =>
    refine ⟨[], (List.append_nil _).symm, by simp, fun r => sentTo_concat, ?_⟩
    intro r closed
    rcases (Option.any_eq_true _ _).mp closed with ⟨chan, found, -⟩
    rw [List.getElem?_append_left (getElem?_lt found)]
    exact closed
  | left | awaited => exact ⟨[], (List.append_nil _).symm, by simp, fun _ => rfl, still⟩
  | @swept _ ids msg _ _ names lists retained =>
    refine ⟨_, rfl, ?_, fun _ => rfl, still⟩
    intro w member
    cases msg with
    | none => cases member
    | some msg =>
      rcases List.mem_map.mp member with ⟨sender, -, rfl⟩
      rfl

theorem Logged.called (logged : Logged r log t) (made : Called f address t op f' t') :
    Logged r log t' := by
  rcases writes_called made with ⟨new, writes, fresh, sent, closed⟩
  exact logged.grown writes fresh (sent r) (closed r)

theorem keeps_called (made : Called f address t op f' t') : t.Keeps t' := by
  rcases writes_called made with ⟨new, writes, -⟩
  exact keeps_appended writes

end Log

section Waiting

variable {M ChannelId : Type} {t t' : Tables M} {tasks : List Nat} {h h' : Handling M} {i j : Nat}

/-- No task was still at work when its time was over. -/
def InTime : Except (NotifierError M Unit) Nat → Prop
  | .ok _ => True
  | .error (.writingSendError errors) => ∀ d, .writingTimeout d ∉ errors
  | .error _ => False

/-- The handler stands for the tasks: those that its `wait` is past are over. -/
def Handling.Covers (t : Tables M) (tasks : List Nat) : Handling M → Prop
  | held handler => handler.handlers = tasks
  | waiting _ _ left errors =>
    (∀ d, .writingTimeout d ∉ errors) → ∀ i ∈ tasks, i ∈ left ∨ t.Ended i
  | returned result => InTime result → ∀ i ∈ tasks, t.Ended i
  | dropped => True

theorem Handling.Covers.mono (covers : h.Covers t tasks) (later : ∀ i, t.Ended i → t'.Ended i) :
    h.Covers t' tasks := by
  cases h with
  | held handler => exact covers
  | waiting n duration left errors =>
    intro intime i member
    exact (covers intime i member).imp_right (later i)
  | returned result =>
    intro intime i member
    exact later i (covers intime i member)
  | dropped => trivial

theorem Handling.Covers.wait {duration : Option Duration} (covers : h.Covers t tasks)
    (waits : h.wait duration = some h') : h'.Covers t tasks := by
  cases h with
  | held handler =>
    cases waits
    intro _ i member
    have same : handler.handlers = tasks := covers
    rw [same]
    exact .inl member
  | _ => cases waits

theorem Handling.Covers.poll (covers : h.Covers t tasks) (polled : h.poll t.writes = some h') :
    h'.Covers t tasks := by
  cases h with
  | waiting n duration left errors =>
    cases left with
    | nil =>
      cases polled
      intro intime i member
      have clean : ∀ d, .writingTimeout d ∉ errors := by
        intro d member
        unfold WritingHandler.waitEnd at intime
        split at intime
        next empty => simp [List.isEmpty_iff.mp empty] at member
        · exact intime d member
      exact (covers clean i member).resolve_left (List.not_mem_nil)
    | cons first left =>
      simp only [Handling.poll] at polled
      split at polled
      next sender msg result found =>
        have finished : t.Ended first := by simp [Tables.Ended, found]
        have counted : ∀ errors', (∀ d, .writingTimeout d ∉ errors' → .writingTimeout d ∉ errors) →
            (waiting n duration left errors').Covers t tasks := by
          intro errors' fewer intime i member
          have clean : ∀ d, .writingTimeout d ∉ errors := fun d => fewer d (intime d)
          rcases covers clean i member with listed | ended
          · rcases List.mem_cons.mp listed with rfl | listed
            · exact .inr finished
            · exact .inl listed
          · exact .inr ended
        rcases result with e | ⟨⟩
        · cases polled
          apply counted
          simp
        · cases polled
          exact counted _ (fun _ absent => absent)
      · cases polled
  | _ => cases polled

theorem Handling.Covers.timeout (covers : h.Covers t tasks)
    (timed : h.timeout t.writes = some h') : h'.Covers t tasks := by
  cases h with
  | waiting n duration left errors =>
    cases duration with
    | none => cases timed
    | some duration =>
      cases left with
      | nil => cases timed
      | cons first left =>
        simp only [Handling.timeout] at timed
        split at timed
        · cases timed
          intro intime
          exact absurd (List.mem_append_right _ (List.mem_singleton_self _)) (intime duration)
        · cases timed
  | _ => cases timed

theorem handle_place {next : Handling M → Option (Handling M)} (handled : t.handle i next = some t')
    (place : t.handlings[j]? = some h) : t'.writes = t.writes ∧ ∃ h', t'.handlings[j]? = some h' ∧
      (h' = h ∨ next h = some h') := by
  rcases Option.map_eq_some_iff.mp handled with ⟨h', found, rfl⟩
  refine ⟨rfl, ?_⟩
  by_cases same : i = j
  · subst same
    rw [place, Option.bind_some] at found
    exact ⟨h', by simp [getElem?_lt place], .inr found⟩
  · exact ⟨h, by simp [List.getElem?_set_ne same, place], .inl rfl⟩

/-- A property of a handling that its own turns keep, and those of the tasks. -/
structure Handling.Stable (P : Tables M → Handling M → Prop) : Prop where
  keeps : ∀ {t t' h}, P t h → t.Keeps t' → P t' h
  wait : ∀ {t h duration h'}, P t h → Handling.wait duration h = some h' → P t h'
  poll : ∀ {t h h'}, P t h → Handling.poll t.writes h = some h' → P t h'
  timeout : ∀ {t h h'}, P t h → Handling.timeout t.writes h = some h' → P t h'
  dropped : ∀ {t}, P t .dropped

theorem Handling.Stable.event {P : Tables M → Handling M → Prop} {e : Event} (stable : Stable P)
    (holds : P t h) (place : t.handlings[j]? = some h) (taken : t.step e = some t') :
    ∃ h', t'.handlings[j]? = some h' ∧ P t' h' := by
  have keeps : t.Keeps t' := keeps_happened (event_cases taken)
  have turned : ∀ (i : Nat) next, t.handle i next = some t' →
      (∀ h', next h = some h' → P t h') → ∃ h', t'.handlings[j]? = some h' ∧ P t' h' := by
    intro i next handled turn
    rcases handle_place handled place with ⟨-, h', place', rfl | changed⟩
    · exact ⟨h', place', stable.keeps holds keeps⟩
    · exact ⟨h', place', stable.keeps (turn h' changed) keeps⟩
  cases e with
  | wait i duration => exact turned i _ taken fun _ waits => stable.wait holds waits
  | poll i => exact turned i _ taken fun _ polled => stable.poll holds polled
  | timeout i => exact turned i _ taken fun _ timed => stable.timeout holds timed
  | dropHandler i =>
    apply turned i _ taken
    intro h' dropped
    cases dropped
    exact stable.dropped
  | write | notice | receive | receiveNotice =>
    rcases Option.map_eq_some_iff.mp taken with ⟨_, -, rfl⟩
    exact ⟨h, place, stable.keeps holds keeps⟩
  | close | closeWaiter =>
    cases taken
    exact ⟨h, place, stable.keeps holds keeps⟩

theorem covers_stable (tasks : List Nat) :
    Handling.Stable (M := M) fun t h => h.Covers t tasks where
  keeps covers keeps := covers.mono fun _ => keeps.ended
  wait covers waits := covers.wait waits
  poll covers polled := covers.poll polled
  timeout covers timed := covers.timeout timed
  dropped := trivial

variable {ChannelId : Type} [DecidableEq ChannelId] {f f' : NotifierHub M ChannelId}
  {address : Nat} {op : Op M ChannelId}

omit [DecidableEq ChannelId] in
theorem answer_handlings {result : Except (NotifierError M ChannelId) WritingHandler} :
    t.handlings <+: (answer (result, f, t)).2.handlings := by
  cases result with
  | error e => exact List.prefix_rfl
  | ok handler => exact List.prefix_append _ _

theorem cloneSend_handlings (f : NotifierHub M ChannelId) (t : Tables M) (msg : M)
    (id : ChannelId) : t.handlings <+: (answer (f.cloneSend t msg id)).2.handlings := by
  have same := cloneSend_eq f t msg id
  generalize f.cloneSend t msg id = answered at same ⊢
  rcases answered with ⟨result, rest⟩
  dsimp only at same
  subst same
  exact answer_handlings (t := { t with writes := t.writes ++ openWrites f t.chans msg [id] })

theorem handlings_unswept (made : Called f address t op f' t') (unswept : op.sweeps = none) :
    t'.handlings = t.handlings := by
  cases made with
  | joined | left | awaited => rfl
  | swept names => cases names.symm.trans unswept

theorem handlings_called (made : call f address t op = some (f', t')) :
    t.handlings <+: t'.handlings := by
  have called := call_cases made
  cases op with
  | cloneSend msg id | arcSend msg id =>
    have answered : answer (f.cloneSend t msg id) = (f', t') := Option.some.inj made
    have sent := cloneSend_handlings f t msg id
    rwa [answered] at sent
  | broadcastClone msg keys | broadcastArc msg keys =>
    simp only [call, Option.ite_none_right_eq_some, Option.some.injEq] at made
    rcases made with ⟨-, made⟩
    rcases Prod.mk.inj made with ⟨-, rfl⟩
    exact List.prefix_append _ _
  | cleanChannel id =>
    cases made
    exact List.prefix_rfl
  | cleanAll keys =>
    simp only [call, Option.ite_none_right_eq_some, Option.some.injEq, Prod.mk.injEq] at made
    rcases made with ⟨-, -, rfl⟩
    exact List.prefix_rfl
  | _ => rw [handlings_unswept called rfl]

end Waiting

namespace Config

variable {M ChannelId : Type} [DecidableEq ChannelId] {s s' t t₁ t₂ : Config M ChannelId}
  {a : Act M ChannelId} {op : Op M ChannelId} {c : ChannelId} {msg : M} {r i : Nat}
  {receiver : MessageReceiver} {h : Handling M} {tasks : List Nat} {address : Nat}
  {trace past middle later : List (Config M ChannelId × Act M ChannelId)}

def enqueued (r : Nat) (s : Config M ChannelId) : Act M ChannelId → List Nat
  | .event e => s.toTables.enqueued r e
  | _ => []

/-- The tasks whose messages got into the buffer of the receiver, in the order in which they did. -/
def enqueues (r : Nat) (trace : List (Config M ChannelId × Act M ChannelId)) : List Nat :=
  trace.flatMap fun e => enqueued r e.1 e.2

/-- The tasks that the act spawns for the receiver. -/
def tasksOf (r : Nat) (s : Config M ChannelId) (a : Act M ChannelId) : List Nat :=
  match s.step a with
  | some s' => (List.range' s.writes.length (s'.writes.length - s.writes.length)).filter fun i =>
      (s'.writes[i]?).any (·.sender.sender == r)
  | none => []

/-- The first message gets into the buffer of the receiver, and before the second one. -/
def InOrder (r : Nat) (trace : List (Config M ChannelId × Act M ChannelId)) (i j : Nat) : Prop :=
  i ∈ enqueues r trace ∧ (j ∈ enqueues r trace → [i, j].Sublist (enqueues r trace))

def Sends (msg : M) (c : ChannelId) (op : Op M ChannelId) : Prop :=
  op = .cloneSend msg c ∨ op = .arcSend msg c

omit [DecidableEq ChannelId] in
theorem enqueues_snoc : enqueues r (trace ++ [(s, a)]) = enqueues r trace ++ enqueued r s a := by
  simp [enqueues]

theorem logged_step {log : List Nat} (logged : Logged r log s.toTables)
    (taken : s.step a = some s') : Logged r (log ++ enqueued r s a) s'.toTables := by
  cases step_cases taken with
  | called made => simpa [enqueued] using logged.called (call_cases made)
  | moved => simpa [enqueued] using logged
  | happened happened => exact logged.happened happened

theorem logged_run (run : Run step (Config.new address) trace s) (r : Nat) :
    Logged r (enqueues r trace) s.toTables := by
  induction run with
  | nil => constructor <;> simp [enqueues, Config.new, Tables.new, sentTo]
  | @snoc trace s s' a before last ih =>
    rw [enqueues_snoc]
    exact logged_step ih last

theorem keeps_step (taken : s.step a = some s') : s.toTables.Keeps s'.toTables := by
  cases step_cases taken with
  | called made =>
    exact keeps_called (call_cases made)
  | moved => exact .refl _
  | happened happened =>
    exact keeps_happened (event_cases happened)

theorem keeps_run {start : Config M ChannelId} (run : Run step start trace s) :
    start.toTables.Keeps s.toTables := by
  induction run with
  | nil => exact .refl _
  | snoc before last ih => exact ih.trans (keeps_step last)

theorem stable_step {P : Tables M → Handling M → Prop} (stable : Handling.Stable P)
    (place : s.handlings[i]? = some h) (holds : P s.toTables h) (taken : s.step a = some s') :
    ∃ h', s'.handlings[i]? = some h' ∧ P s'.toTables h' := by
  cases step_cases taken with
  | called made =>
    have keeps := keeps_called (call_cases made)
    have grown := handlings_called made
    rcases grown with ⟨new, same⟩
    refine ⟨h, ?_, stable.keeps holds keeps⟩
    dsimp only
    rw [← same, List.getElem?_append_left (getElem?_lt place), place]
  | moved => exact ⟨h, place, holds⟩
  | happened happened => exact stable.event holds place happened

theorem stable_run {P : Tables M → Handling M → Prop} (stable : Handling.Stable P)
    {start : Config M ChannelId} (run : Run step start trace s)
    (place : start.handlings[i]? = some h) (holds : P start.toTables h) :
    ∃ h', s.handlings[i]? = some h' ∧ P s.toTables h' := by
  induction run with
  | nil => exact ⟨h, place, holds⟩
  | snoc before last ih =>
    rcases ih with ⟨h', place', holds'⟩
    exact stable_step stable place' holds' last

/-- What a send spawns, and the handler that stands for it. -/
theorem send_step (sends : Sends msg c op) (taken : s.step (.op op) = some s') :
    s'.writes = s.writes ++ openWrites s.hub s.chans msg [c] ∧
      (openWrites s.hub s.chans msg [c] ≠ [] → s'.handlings[s.handlings.length]? =
        some (.held ⟨List.range' s.writes.length (openWrites s.hub s.chans msg [c]).length⟩)) := by
  have made : s' = { s with
      toTables := (answer (s.hub.cloneSend s.toTables msg c)).2
      hub := (answer (s.hub.cloneSend s.toTables msg c)).1 } := by
    rcases sends with rfl | rfl
    · exact (Option.some.inj taken).symm
    · exact (Option.some.inj taken).symm
  subst made
  have spawns := cloneSend_eq s.hub s.toTables msg c
  have handler : openWrites s.hub s.chans msg [c] ≠ [] →
      (s.hub.cloneSend s.toTables msg c).1 = .ok ⟨List.range' s.writes.length
        (openWrites s.hub s.chans msg [c]).length⟩ := fun inhabited => cloneSend_handler inhabited
  generalize s.hub.cloneSend s.toTables msg c = answered at spawns handler ⊢
  rcases answered with ⟨result, rest⟩
  dsimp only at spawns handler
  subst spawns
  constructor
  · cases result <;> rfl
  · intro inhabited
    rw [handler inhabited]
    simp [answer, Tables.hand]

theorem mem_tasksOf (taken : s.step a = some s') : i ∈ tasksOf r s a ↔
    s.writes.length ≤ i ∧ ∃ w, s'.writes[i]? = some w ∧ w.sender.sender = r := by
  simp only [tasksOf, taken, List.mem_filter, List.mem_range'_1, Option.any_eq_true, beq_iff_eq]
  constructor
  · intro given
    exact ⟨given.1.1, given.2⟩
  · intro given
    rcases given with ⟨outside, w, found, own⟩
    have inside := getElem?_lt found
    exact ⟨⟨outside, by omega⟩, w, found, own⟩

theorem task_of_send (sends : Sends msg c op) (taken : s.step (.op op) = some s')
    (member : i ∈ tasksOf r s (.op op)) :
    i ∈ List.range' s.writes.length (openWrites s.hub s.chans msg [c]).length ∧
      ∃ w, s'.writes[i]? = some w ∧ w.sender.sender = r ∧ w.msg = msg := by
  rcases (mem_tasksOf taken).mp member with ⟨outside, w, found, own⟩
  have writes := (send_step sends taken).1
  have inside := getElem?_lt found
  rw [writes, List.length_append] at inside
  refine ⟨List.mem_range'_1.mpr ⟨outside, inside⟩, w, found, own, ?_⟩
  rw [writes, List.getElem?_append_right outside] at found
  exact (opened_of_mem_openWrites (List.mem_of_getElem? found)).1

theorem tasksOf_ne_nil (wired : Wired s.hub s.toTables) (held : s.receivers[r]? = some receiver)
    (subscribed : s.hub.isSubscribed c receiver = true) (opened : ¬ s.Closed r)
    (sends : Sends msg c op) (taken : s.step (.op op) = some s') :
    tasksOf r s (.op op) ≠ [] := by
  rcases (wired.isSubscribed held).mp subscribed with ⟨sender, member, own⟩
  have spawned : getHandler sender msg ∈ openWrites s.hub s.chans msg [c] := by
    apply List.mem_map_of_mem
    rw [List.flatMap_singleton, List.mem_filter]
    subst own
    exact ⟨member, by simpa [Sender.isClosed, Closed] using opened⟩
  rcases List.mem_iff_getElem?.mp spawned with ⟨k, place⟩
  have writes := (send_step sends taken).1
  have task : s.writes.length + k ∈ tasksOf r s (.op op) := by
    rw [mem_tasksOf taken]
    refine ⟨Nat.le_add_right _ _, getHandler sender msg, ?_, own⟩
    rw [writes, List.getElem?_append_right (Nat.le_add_right _ _), Nat.add_sub_cancel_left, place]
  exact List.ne_nil_of_mem task

theorem closed_run {start : Config M ChannelId} (run : Run step start trace s)
    (closed : start.Closed r) : s.Closed r := by
  induction run with
  | nil => exact closed
  | snoc before last ih => exact closed_step last ih

theorem receivers_run {start : Config M ChannelId} (run : Run step start trace s) :
    start.receivers <+: s.receivers := by
  induction run with
  | nil => exact List.prefix_rfl
  | snoc before last ih => exact ih.trans (receivers_step last)

omit [DecidableEq ChannelId] in
theorem inOrder_append (logged : Logged r (enqueues r past) t.toTables)
    (front : i ∈ enqueues r past) {j : Nat} (fresh : t.writes.length ≤ j) :
    InOrder r (past ++ later) i j := by
  have split : enqueues r (past ++ later) = enqueues r past ++ enqueues r later :=
    List.flatMap_append
  rw [InOrder, split]
  refine ⟨List.mem_append_left _ front, ?_⟩
  intro member
  have back : j ∈ enqueues r later := by
    rcases List.mem_append.mp member with early | late
    · exact absurd (logged.known j early) (Nat.not_lt.mpr fresh)
    · exact late
  exact (List.singleton_sublist.mpr front).append (List.singleton_sublist.mpr back)

/-- When a `wait` on the handler of a send has returned in time, the tasks of the send are over. -/
theorem ended_when_returned {result : Except (NotifierError M Unit) Nat} (sends : Sends msg c op)
    (taken : s.step (.op op) = some s') (run : Run step s' middle t)
    (returned : t.handlings[s.handlings.length]? = some (.returned result))
    (intime : InTime result) (member : i ∈ tasksOf r s (.op op)) : t.Ended i := by
  have listed := (task_of_send sends taken member).1
  have inhabited : openWrites s.hub s.chans msg [c] ≠ [] := by
    intro none
    simp [none] at listed
  have place := (send_step sends taken).2 inhabited
  rcases stable_run (covers_stable _) run place rfl with ⟨h, place', covers⟩
  obtain rfl : h = .returned result := Option.some.inj (place'.symm.trans returned)
  exact covers intime i listed

variable {op₁ op₂ : Op M ChannelId} {m₁ m₂ : M}

/-- A buffer gets its messages in the order in which their tasks get a slot. The messages of two
    sends come in the order of the sends when the tasks of the first are over at the second, as they
    are when a `wait` on the handler of the first has returned in time. -/
theorem sends_in_order_when_ended (run : Run step (Config.new address) trace s)
    (cut : trace = past ++ (t₁, .op op₁) :: middle ++ (t₂, .op op₂) :: later)
    (first : Sends m₁ c op₁) (second : Sends m₂ c op₂) (held : t₁.receivers[r]? = some receiver)
    (subscribed : t₁.hub.isSubscribed c receiver = true)
    (subscribed' : t₂.hub.isSubscribed c receiver = true) (opened : ¬ s.Closed r) :
    sentTo s.chans r = (enqueues r trace).filterMap s.message ∧
      (tasksOf r t₁ (.op op₁) ≠ [] ∧ ∀ i ∈ tasksOf r t₁ (.op op₁), s.message i = some m₁) ∧
      (tasksOf r t₂ (.op op₂) ≠ [] ∧ ∀ j ∈ tasksOf r t₂ (.op op₂), s.message j = some m₂) ∧
      (∀ result, t₂.handlings[t₁.handlings.length]? = some (.returned result) → InTime result →
        ∀ i ∈ tasksOf r t₁ (.op op₁), t₂.Ended i) ∧
      ((∀ i ∈ tasksOf r t₁ (.op op₁), t₂.Ended i) →
        ∀ i ∈ tasksOf r t₁ (.op op₁), ∀ j ∈ tasksOf r t₂ (.op op₂), InOrder r trace i j) := by
  subst cut
  rcases run.split with ⟨next₂, before₂, taken₂, after₂⟩
  rcases before₂.split with ⟨next₁, before₁, taken₁, after₁⟩
  have sinceFirst : Run step t₁ ((t₁, .op op₁) :: middle) t₂ := (Run.nil.snoc taken₁).append after₁
  have sinceSecond : Run step t₂ ((t₂, .op op₂) :: later) s := (Run.nil.snoc taken₂).append after₂
  have opened₂ : ¬ t₂.Closed r := fun closed => opened (closed_run sinceSecond closed)
  have opened₁ : ¬ t₁.Closed r := fun closed => opened₂ (closed_run sinceFirst closed)
  have kept := keeps_run after₁
  have target : ∀ i ∈ tasksOf r t₁ (.op op₁), ∃ w, t₂.writes[i]? = some w ∧ w.sender.sender = r ∧
      w.msg = m₁ := by
    intro i member
    rcases (task_of_send first taken₁ member).2 with ⟨w, found, own, same⟩
    rcases kept i w found with ⟨w', found', sender, msg, -⟩
    exact ⟨w', found', by rw [sender, own], msg.trans same⟩
  have logged := logged_run before₂ r
  refine ⟨(logged_run run r).sent, ⟨?_, ?_⟩, ⟨?_, ?_⟩, ?_, ?_⟩
  · exact tasksOf_ne_nil (wired_run before₁) held subscribed opened₁ first taken₁
  · intro i member
    rcases target i member with ⟨w, found, -, same⟩
    rcases keeps_run sinceSecond i w found with ⟨w', found', -, msg, -⟩
    simp [Tables.message, found', msg, same]
  · rcases receivers_run sinceFirst with ⟨new, same⟩
    have held₂ : t₂.receivers[r]? = some receiver := by
      rw [← same, List.getElem?_append_left (getElem?_lt held), held]
    exact tasksOf_ne_nil (wired_run before₂) held₂ subscribed' opened₂ second taken₂
  · intro j member
    rcases (task_of_send second taken₂ member).2 with ⟨w, found, -, same⟩
    rcases keeps_run after₂ j w found with ⟨w', found', -, msg, -⟩
    simp [Tables.message, found', msg, same]
  · intro result returned intime i member
    exact ended_when_returned first taken₁ after₁ returned intime member
  · intro ended i member j member'
    rcases target i member with ⟨w, found, own, -⟩
    have finished : w.result.isSome = true := by simpa [Tables.Ended, found] using ended i member
    have front := (logged.complete i w found own finished).resolve_right opened₂
    exact inOrder_append logged front ((mem_tasksOf taken₂).mp member').1

/-- Two sends to one receiver: the task of the second one gets its slot first. -/
def overtakes : List (Act Nat Nat) :=
  [.op (.subscribe 1), .op (.cloneSend 5 1), .op (.cloneSend 6 1), .event (.write 1),
    .event (.write 0)]

theorem sends_out_of_order : ∃ s t₁ t₂ past later,
    exec step (Config.new 7) overtakes = some s ∧
      traceOf step (Config.new 7) overtakes =
        past ++ (t₁, .op (.cloneSend 5 1)) :: (t₂, .op (.cloneSend 6 1)) :: later ∧
      t₁.hub.isSubscribed 1 ⟨⟨0, 7⟩, 0⟩ = true ∧ t₂.hub.isSubscribed 1 ⟨⟨0, 7⟩, 0⟩ = true ∧
      tasksOf 0 t₁ (.op (.cloneSend 5 1)) = [0] ∧ tasksOf 0 t₂ (.op (.cloneSend 6 1)) = [1] ∧
      s.chans[0]? = some ⟨100, [], [6, 5], false⟩ ∧
      ¬ InOrder 0 (traceOf step (Config.new 7) overtakes) 0 1 := by
  have log : enqueues 0 (traceOf step (Config.new 7) overtakes) = [1, 0] := by decide
  refine ⟨_, _, _, [_], _, rfl, rfl, by decide, by decide, by decide, by decide, rfl, ?_⟩
  rw [InOrder, log]
  decide

/-- The same two sends, with the handler of the first awaited before the second. -/
def awaitsFirst : List (Act Nat Nat) :=
  [.op (.subscribe 1), .op (.cloneSend 5 1), .event (.wait 0 none), .event (.write 0),
    .event (.poll 0), .event (.poll 0), .op (.arcSend 6 1), .event (.write 1)]

theorem sends_in_order_when_awaited : ∃ s, exec step (Config.new 7) awaitsFirst = some s ∧
    InOrder 0 (traceOf step (Config.new 7) awaitsFirst) 0 1 := by
  obtain ⟨past, t₁, middle, t₂, later, cut, held, subscribed, subscribed', returned, tasks₁,
      tasks₂⟩ : ∃ past t₁ middle t₂ later,
      traceOf step (Config.new 7) awaitsFirst =
        past ++ (t₁, .op (.cloneSend 5 1)) :: middle ++ (t₂, .op (.arcSend 6 1)) :: later ∧
      t₁.receivers[0]? = some ⟨⟨0, 7⟩, 0⟩ ∧ t₁.hub.isSubscribed 1 ⟨⟨0, 7⟩, 0⟩ = true ∧
      t₂.hub.isSubscribed 1 ⟨⟨0, 7⟩, 0⟩ = true ∧
      t₂.handlings[t₁.handlings.length]? = some (.returned (.ok 1)) ∧
      tasksOf 0 t₁ (.op (.cloneSend 5 1)) = [0] ∧ tasksOf 0 t₂ (.op (.arcSend 6 1)) = [1] :=
    ⟨[_], _, [_, _, _, _], _, _, rfl, rfl, by decide, by decide, rfl, by decide, by decide⟩
  obtain ⟨s, done, found⟩ : ∃ s, exec step (Config.new 7) awaitsFirst = some s ∧
      s.chans[0]? = some ⟨100, [], [5, 6], false⟩ := ⟨_, rfl, rfl⟩
  have opened : ¬ s.Closed 0 := by simp [Closed, found]
  rcases sends_in_order_when_ended (run_of_exec awaitsFirst done) cut (.inl rfl) (.inr rfl) held
    subscribed subscribed' opened with ⟨-, -, -, finished, ordered⟩
  have ended := finished _ returned True.intro
  exact ⟨s, done, ordered ended 0 (by simp [tasks₁]) 1 (by simp [tasks₂])⟩

end Config

end AsyncForge.NotifierHub
