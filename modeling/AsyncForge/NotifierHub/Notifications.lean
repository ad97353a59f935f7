import Mathlib.Algebra.GroupWithZero.Nat
import AsyncForge.NotifierHub.Conservation

/-! The notifications of a creation waiter: one for each subscription to its channel. -/

namespace AsyncForge.NotifierHub

open AsyncForge.Channels AsyncForge.Runs AsyncForge.SmartChannel
open AsyncForge.NotifierHub.WritingHandler

section Notices

variable {M ChannelId : Type} [DecidableEq ChannelId] {f f' : NotifierHub M ChannelId}
  {t t' : Tables M} {address : Nat} {op : Op M ChannelId} {id c : ChannelId} {w : Nat}

def creationsOf (f : NotifierHub M ChannelId) (id : ChannelId) : List CreationSender :=
  (f.creationSenders.lookup id).getD []

theorem creationsOf_congr (same : f'.creationSenders = f.creationSenders) :
    f'.creationsOf = f.creationsOf := by
  funext id
  rw [creationsOf, same]
  rfl

/-- The tasks that notify the waiters of the channels, one round for each channel. -/
def notified (f : NotifierHub M ChannelId) (ids : List ChannelId) : List (Writing Unit) :=
  (ids.flatMap f.creationsOf).map fun sender => getHandler sender ()

theorem notified_congr (same : f'.creationSenders = f.creationSenders) (ids : List ChannelId) :
    notified f' ids = notified f ids := by
  rw [notified, creationsOf_congr same]
  rfl

theorem notified_cons (f : NotifierHub M ChannelId) (id : ChannelId) (ids : List ChannelId) :
    notified f (id :: ids) = notified f [id] ++ notified f ids := by simp [notified]

theorem notifyCreation_snd (f : NotifierHub M ChannelId) (notices : List (Writing Unit))
    (id : ChannelId) :
    (f.notifyCreation notices id).2 = notices ++ notified f [id] := by
  unfold notifyCreation
  split
  next waiters found => simp [newCloningBroadcast, notified, creationsOf, found]
  next missing => simp [notified, creationsOf, missing]

theorem insertSender_notices (f : NotifierHub M ChannelId) (t : Tables M) (sender : MessageSender)
    (id : ChannelId) :
    (f.insertSender t sender id).2 = { t with notices := t.notices ++ notified f [id] } := by
  have same : (f.insertSender t sender id).1.creationSenders = f.creationSenders :=
    (insertSender_inserted f t sender id).creations
  have notices := notifyCreation_snd (f.insertSender t sender id).1 t.notices id
  rw [notified_congr same] at notices
  exact congrArg (fun notices => { t with notices }) notices

theorem insertAll_notices (f : NotifierHub M ChannelId) (t : Tables M) (sender : MessageSender)
    (ids : List ChannelId) :
    (ids.foldl (fun r id => r.1.insertSender r.2 sender id) (f, t)).2 =
      { t with notices := t.notices ++ notified f ids } := by
  induction ids generalizing f t with
  | nil => simp [notified]
  | cons id ids ih =>
    have same : (f.insertSender t sender id).1.creationSenders = f.creationSenders :=
      (insertSender_inserted f t sender id).creations
    have first := insertSender_notices f t sender id
    have rest := ih (f.insertSender t sender id).1 (f.insertSender t sender id).2
    rw [notified_congr same] at rest
    have rounds := notified_cons f id ids
    rw [List.foldl_cons, rest, first, rounds, List.append_assoc]

/-- What a call does for the creation waiters: it opens a new one, or it notifies those of the
    channels that it subscribes to. -/
inductive Noticed (f : NotifierHub M ChannelId) (address : Nat) (t : Tables M) :
    Op M ChannelId → NotifierHub M ChannelId → Tables M → Prop
  | awaited {id : ChannelId} {f' : NotifierHub M ChannelId} {t' : Tables M}
      (creations : ∀ id', f'.creationsOf id' = f.creationsOf id' ++
        if id' = id then [⟨⟨f.connectionId, address⟩, t.waits.length⟩] else [])
      (waits : t'.waits = t.waits ++ [{ capacity := notifierChannelSize }])
      (notices : t'.notices = t.notices) : Noticed f address t (.getCreationWaiter id) f' t'
  | informed {op : Op M ChannelId} {f' : NotifierHub M ChannelId} {t' : Tables M}
      (other : ∀ id, op ≠ .getCreationWaiter id)
      (creations : f'.creationSenders = f.creationSenders) (waits : t'.waits = t.waits)
      (notices : t'.notices = t.notices ++ notified f (op.joins.getD [])) :
      Noticed f address t op f' t'

theorem subscribeMultiple_noticed {ids : List ChannelId} (names : op.joins = some ids)
    (made : (f.subscribeMultiple address t ids).map Prod.snd = some (f', t')) :
    Noticed f address t op f' t' := by
  unfold subscribeMultiple at made
  rw [Option.map_map] at made
  rcases Option.map_eq_some_iff.mp made with ⟨⟨sender, receiver, f₁, t₁⟩, opened, same⟩
  rcases openChannel_some opened with ⟨room, rfl, rfl, rfl⟩
  rcases Prod.mk.inj same with ⟨rfl, rfl⟩
  refine .informed ?_ (insertAll_inserted _ _ _ ids).creations ?_ ?_
  · intro id same
    subst same
    cases names
  · rw [insertAll_notices]
  · rw [insertAll_notices, names]
    rfl

theorem getCreationWaiter_some {waiter : CreationWaiter}
    (made : f.getCreationWaiter address t id = some (waiter, f', t')) :
    waiter.receiver = t.waits.length ∧ Noticed f address t (.getCreationWaiter id) f' t' := by
  unfold getCreationWaiter getNewId at made
  split at made
  · simp only [Option.map_some, Option.some.injEq, Prod.mk.injEq] at made
    rcases made with ⟨rfl, rfl, rfl⟩
    refine ⟨rfl, .awaited ?_ rfl rfl⟩
    intro id'
    unfold creationsOf
    split
    next senders found =>
      by_cases same : id' = id
      · subst same
        simp [found, channel, SmartChannel.bind]
      · simp [Finmap.lookup_insert_of_ne _ same, same]
    next missing =>
      by_cases same : id' = id
      · subst same
        simp [missing, channel, SmartChannel.bind]
      · simp [Finmap.lookup_insert_of_ne _ same, same]
  · cases made

theorem call_noticed (made : call f address t op = some (f', t')) :
    Noticed f address t op f' t' := by
  have called := call_cases made
  cases op with
  | subscribe id =>
    have single : f.subscribe address t id = f.subscribeMultiple address t [id] := rfl
    simp only [call, single] at made
    exact subscribeMultiple_noticed rfl made
  | subscribeMultiple ids => exact subscribeMultiple_noticed rfl made
  | getCreationWaiter id =>
    rcases Option.map_eq_some_iff.mp made with ⟨⟨waiter, f₁, t₁⟩, opened, same⟩
    cases same
    exact (getCreationWaiter_some opened).2
  | _ =>
    cases called with
    | joined names => cases names
    | left names lists held retained =>
      exact .informed (by simp) retained.creations rfl (by simp [Op.joins, notified])
    | swept names lists retained =>
      exact .informed (by simp) retained.creations rfl (by simp [Op.joins, notified])

end Notices

section Waiter

variable {M ChannelId : Type} [DecidableEq ChannelId] {f f' : NotifierHub M ChannelId}
  {t t' : Tables M} {address : Nat} {op : Op M ChannelId} {c : ChannelId} {w : Nat}

/-- The notification channels and the notices, as channels and the writes to them. -/
def Tables.noticeTables (t : Tables M) : Tables Unit :=
  { Tables.new with chans := t.waits, writes := t.notices }

theorem noticeTables_step {e : Event} (taken : t.step e = some t') :
    ∃ e', Happened t.noticeTables e' t'.noticeTables := by
  have unseen : t'.noticeTables = t.noticeTables →
      ∃ e', Happened t.noticeTables e' t'.noticeTables := by
    intro same
    rw [same]
    exact ⟨e, .aside⟩
  cases e with
  | write i =>
    rcases Option.map_eq_some_iff.mp taken with ⟨pair, -, rfl⟩
    exact unseen rfl
  | notice i =>
    rcases Option.map_eq_some_iff.mp taken with ⟨⟨waits, notices⟩, finished, rfl⟩
    refine ⟨.write i, event_cases ?_⟩
    simp only [Tables.step, Tables.noticeTables, finished, Option.map_some]
  | receive r =>
    rcases Option.map_eq_some_iff.mp taken with ⟨chans, -, rfl⟩
    exact unseen rfl
  | close r =>
    cases taken
    exact unseen rfl
  | receiveNotice w =>
    rcases Option.map_eq_some_iff.mp taken with ⟨waits, received, rfl⟩
    refine ⟨.receive w, event_cases ?_⟩
    simp only [Tables.step, Tables.noticeTables, received, Option.map_some]
  | closeWaiter w =>
    cases taken
    exact ⟨.close w, event_cases rfl⟩
  | wait | poll | timeout | dropHandler =>
    rcases handle_some taken with ⟨handlings, rfl⟩
    exact unseen rfl

/-- Every notice goes to a waiter that was handed out. -/
structure Posted (f : NotifierHub M ChannelId) (t : Tables M) : Prop where
  creations : ∀ id, ∀ s ∈ f.creationsOf id, s.sender < t.waits.length
  notices : ∀ notice ∈ t.notices, notice.sender.sender < t.waits.length
  bounded : ∀ chan ∈ t.waits, chan.capacity = notifierChannelSize ∧
    chan.buffer.length ≤ notifierChannelSize

theorem Posted.called (posted : Posted f t) (made : Noticed f address t op f' t') :
    Posted f' t' := by
  cases made with
  | awaited creations waits notices =>
    refine ⟨?_, ?_, ?_⟩
    · intro id s member
      rw [creations id] at member
      rw [waits, List.length_append, List.length_singleton]
      rcases List.mem_append.mp member with member | member
      · exact Nat.lt_succ_of_lt (posted.creations id s member)
      · split at member
        · rw [List.mem_singleton.mp member]
          exact Nat.lt_succ_self _
        · cases member
    · intro notice member
      rw [notices] at member
      rw [waits, List.length_append, List.length_singleton]
      exact Nat.lt_succ_of_lt (posted.notices notice member)
    · intro chan member
      rw [waits] at member
      rcases List.mem_append.mp member with member | member
      · exact posted.bounded chan member
      · obtain rfl := List.mem_singleton.mp member
        exact ⟨rfl, Nat.zero_le _⟩
  | informed other creations waits notices =>
    refine ⟨?_, ?_, ?_⟩
    · intro id s member
      rw [creationsOf_congr creations] at member
      rw [waits]
      exact posted.creations id s member
    · intro notice member
      rw [notices] at member
      rw [waits]
      rcases List.mem_append.mp member with member | member
      · exact posted.notices notice member
      · rcases List.mem_map.mp member with ⟨sender, inside, rfl⟩
        rcases List.mem_flatMap.mp inside with ⟨id, -, inside⟩
        exact posted.creations id sender inside
    · rw [waits]
      exact posted.bounded

omit [DecidableEq ChannelId] in
theorem length_happened {e : Event} (happened : Happened t e t') :
    t'.chans.length = t.chans.length := by
  cases happened <;> simp

omit [DecidableEq ChannelId] in
theorem targets_happened {e : Event} (happened : Happened t e t')
    (inside : ∀ write ∈ t.writes, write.sender.sender < t.chans.length) :
    ∀ write ∈ t'.writes, write.sender.sender < t'.chans.length := by
  rw [length_happened happened]
  cases happened with
  | failed | written => exact forall_mem_modify inside fun _ _ below => below
  | received | closed | aside => exact inside

theorem Posted.happened (posted : Posted f t) {e : Event}
    (happened : Happened t.noticeTables e t'.noticeTables) : Posted f t' := by
  have length : t'.waits.length = t.waits.length := length_happened happened
  refine ⟨?_, targets_happened happened posted.notices,
    capacity_happened happened posted.bounded⟩
  rw [length]
  exact posted.creations

/-- The channel of the waiter is fed by one creation sender, which is in its own channel. -/
structure Expects (c : ChannelId) (w : Nat) (f : NotifierHub M ChannelId) (t : Tables M) :
    Prop where
  place : w < t.waits.length
  entries : ∀ id, (f.creationsOf id).countP (·.sender == w) = if id = c then 1 else 0

theorem Expects.called (expects : Expects c w f t) (made : Noticed f address t op f' t') :
    Expects c w f' t' := by
  cases made with
  | awaited creations waits notices =>
    refine ⟨?_, ?_⟩
    · rw [waits, List.length_append, List.length_singleton]
      exact Nat.lt_succ_of_lt expects.place
    · intro id
      have other : t.waits.length ≠ w := (Nat.ne_of_lt expects.place).symm
      rw [creations id, List.countP_append, expects.entries id]
      split <;> simp [other]
  | informed other creations waits notices =>
    refine ⟨?_, ?_⟩
    · rw [waits]
      exact expects.place
    · rw [creationsOf_congr creations]
      exact expects.entries

/-- The insertions of a call into the channel. -/
def insertions (c : ChannelId) : Act M ChannelId → Nat
  | .op (.subscribe id) => if id = c then 1 else 0
  | .op (.subscribeMultiple ids) => ids.count c
  | _ => 0

theorem insertions_op : insertions c (.op op) = (op.joins.getD []).count c := by
  cases op <;> simp [insertions, Op.joins, List.count_singleton]

theorem pending_notified (expects : Expects c w f t) (ids : List ChannelId) :
    pending (notified f ids) w = List.replicate (ids.count c) () := by
  have rounds : (ids.flatMap f.creationsOf).countP (·.sender == w) = ids.count c := by
    induction ids with
    | nil => rfl
    | cons id ids ih =>
      rw [List.flatMap_cons, List.countP_append, ih, expects.entries id, List.count_cons]
      by_cases same : id = c <;> simp [same, Nat.add_comm]
  rw [notified, pending_spawned, rounds]

/-- A call notifies the waiter once for each of its insertions into the channel. -/
theorem pending_called (expects : Expects c w f t) (made : Noticed f address t op f' t') :
    pending t'.notices w = pending t.notices w ++ List.replicate (insertions c (.op op)) () := by
  cases made with
  | awaited creations waits notices => simp [notices, insertions]
  | informed other creations waits notices =>
    rw [notices, pending_append, pending_notified expects, insertions_op]

theorem noticed_held (expects : Expects c w f t) (made : Noticed f address t op f' t') :
    t'.noticeTables.held w =
      t.noticeTables.held w ++ List.replicate (insertions c (.op op)) () := by
  have buffered : sentTo t'.waits w = sentTo t.waits w := by
    cases made with
    | awaited creations waits notices => rw [waits, sentTo_concat]
    | informed other creations waits notices => rw [waits]
  have queued := pending_called expects made
  simp only [Tables.held, Tables.noticeTables, buffered, queued, List.append_assoc]

theorem expects_awaited (posted : Posted f t)
    (made : Noticed f address t (.getCreationWaiter c) f' t') :
    Expects c t.waits.length f' t' ∧ t'.noticeTables.held t.waits.length = [] := by
  cases made with
  | awaited creations waits notices =>
    have foreign : ∀ id, (f.creationsOf id).countP (·.sender == t.waits.length) = 0 := by
      intro id
      rw [List.countP_eq_zero]
      intro s member same
      exact Nat.ne_of_lt (posted.creations id s member) (by simpa using same)
    have silent : pending t.notices t.waits.length = [] := by
      simp only [pending, List.map_eq_nil_iff, List.filter_eq_nil_iff, Bool.and_eq_true,
        beq_iff_eq, not_and]
      intro notice member _
      exact Nat.ne_of_lt (posted.notices notice member)
    refine ⟨⟨?_, ?_⟩, ?_⟩
    · rw [waits, List.length_append, List.length_singleton]
      exact Nat.lt_succ_self _
    · intro id
      rw [creations id, List.countP_append, foreign]
      split <;> simp
    · simp [Tables.held, Tables.noticeTables, sentTo, waits, notices, silent, Chan.sent]
  | informed other => exact absurd rfl (other c)

end Waiter

namespace Config

variable {M ChannelId : Type} [DecidableEq ChannelId] {s s' t : Config M ChannelId}
  {a : Act M ChannelId} {c : ChannelId} {w : Nat} {waiter : CreationWaiter} {chan : Chan Unit}
  {trace past later : List (Config M ChannelId × Act M ChannelId)} {address : Nat}

theorem posted_step (posted : Posted s.hub s.toTables) (taken : s.step a = some s') :
    Posted s'.hub s'.toTables := by
  cases step_cases taken with
  | called made =>
    exact posted.called (call_noticed made)
  | moved => exact posted
  | happened happened =>
    rcases noticeTables_step happened with ⟨e', shown⟩
    exact posted.happened shown

theorem posted_run (run : Run step (Config.new address) trace s) : Posted s.hub s.toTables := by
  induction run with
  | nil => constructor <;> simp [Config.new, Tables.new, NotifierHub.new, creationsOf]
  | snoc before last ih => exact posted_step ih last

theorem expects_step (expects : Expects c w s.hub s.toTables) (taken : s.step a = some s') :
    Expects c w s'.hub s'.toTables := by
  cases step_cases taken with
  | called made =>
    exact expects.called (call_noticed made)
  | moved => exact expects
  | @happened e t happened =>
    rcases noticeTables_step happened with ⟨e', shown⟩
    have length : t.waits.length = s.waits.length := length_happened shown
    refine ⟨?_, expects.entries⟩
    rw [length]
    exact expects.place

def WaiterClosed (w : Nat) (s : Config M ChannelId) : Prop := (s.waits[w]?).any Chan.closed = true

theorem waiterClosed_step (taken : s.step a = some s') (closed : WaiterClosed w s) :
    WaiterClosed w s' := by
  rcases (Option.any_eq_true _ _).mp closed with ⟨chan, found, -⟩
  cases step_cases taken with
  | called made =>
    unfold WaiterClosed
    cases call_noticed made with
    | awaited creations waits notices =>
      rw [waits, List.getElem?_append_left (getElem?_lt found)]
      exact closed
    | informed other creations waits notices =>
      rw [waits]
      exact closed
  | moved => exact closed
  | happened happened =>
    rcases noticeTables_step happened with ⟨e', shown⟩
    exact closed_happened shown closed

theorem noticed_step (expects : Expects c w s.hub s.toTables) (taken : s.step a = some s')
    (opened : ¬ WaiterClosed w s) : (s'.noticeTables.held w).Perm
      (s.noticeTables.held w ++ List.replicate (insertions c a) ()) := by
  cases step_cases taken with
  | called made =>
    exact .of_eq (noticed_held expects (call_noticed made))
  | moved =>
    simp [insertions]
  | happened happened =>
    rcases noticeTables_step happened with ⟨e', shown⟩
    simpa [insertions] using held_happened shown opened

theorem expects_run {start : Config M ChannelId} (run : Run step start trace s)
    (expects : Expects c w start.hub start.toTables) : Expects c w s.hub s.toTables := by
  induction run with
  | nil => exact expects
  | snoc before last ih => exact expects_step ih last

theorem noticed_run {start : Config M ChannelId} (run : Run step start trace s)
    (expects : Expects c w start.hub start.toTables) (opened : ¬ WaiterClosed w s) :
    (s.noticeTables.held w).Perm (start.noticeTables.held w ++
      trace.flatMap fun e => List.replicate (insertions c e.2) ()) := by
  have keep : ∀ (t : Config M ChannelId) a t', Expects c w t.hub t.toTables → t.step a = some t' →
      Expects c w t'.hub t'.toTables := fun _ _ _ before taken => expects_step before taken
  have back : ∀ (t : Config M ChannelId) a t', t.step a = some t' → ¬ WaiterClosed w t' →
      ¬ WaiterClosed w t := fun _ _ _ taken opened closed => opened (waiterClosed_step taken closed)
  have change : ∀ (t : Config M ChannelId) a t', Expects c w t.hub t.toTables →
      t.step a = some t' → ¬ WaiterClosed w t' → (t'.noticeTables.held w).Perm
        (t.noticeTables.held w ++ List.replicate (insertions c a) ()) :=
    fun _ _ _ before taken opened => noticed_step before taken (back _ _ _ taken opened)
  exact run.account keep back change expects opened

/-- A notice that waits to be written to an open waiter with room can be written at once. -/
theorem notice_enabled {i : Nat} {notice : Writing Unit} (found : s.waits[w]? = some chan)
    (opened : chan.closed = false) (room : chan.full = false)
    (posted : s.notices[i]? = some notice) (unfinished : notice.result = none)
    (own : notice.sender.sender = w) : ∃ s', s.step (.event (.notice i)) = some s' ∧
      s'.waits[w]? = some (chan.push ()) := by
  rcases notice with ⟨sender, msg, result⟩
  dsimp only at unfinished own
  subst unfinished own
  have finished : finish s.waits s.notices i = some (s.waits.modify sender.sender (·.push msg),
      s.notices.modify i fun w => { w with result := some (.ok ()) }) := by
    simp [finish, posted, found, opened, room]
  have taken : s.step (.event (.notice i)) = some { s with
      waits := s.waits.modify sender.sender (·.push msg)
      notices := s.notices.modify i fun w => { w with result := some (.ok ()) } } := by
    simp only [step, Tables.step, finished, Option.map_some]
  exact ⟨_, taken, by simp [found]⟩

/-- While a creation waiter stays open, what it received, what its buffer holds and what is still
    being written to it are one notification for each subscription to its channel since it was
    registered. No other call notifies it, and the other waiters cannot hold a notification up. -/
theorem notified_once_per_subscription (run : Run step (Config.new address) trace s)
    (cut : trace = past ++ (t, .op (.getCreationWaiter c)) :: later)
    (returned : (t.hub.getCreationWaiter t.address t.toTables c).map Prod.fst = some waiter)
    (found : s.waits[waiter.receiver]? = some chan) (opened : chan.closed = false) :
    chan.received.length + chan.buffer.length + (pending s.notices waiter.receiver).length =
        (later.map fun e => insertions c e.2).sum ∧
      chan.capacity = notifierChannelSize ∧ chan.buffer.length ≤ notifierChannelSize ∧
      (∀ front u op v back, later = front ++ (u, .op op) :: back → u.step (.op op) = some v →
        pending v.notices waiter.receiver = pending u.notices waiter.receiver ++
          List.replicate (insertions c (Act.op op : Act M ChannelId)) ()) ∧
      ∀ i notice, s.notices[i]? = some notice → notice.result = none →
        notice.sender.sender = waiter.receiver → chan.buffer.length < notifierChannelSize →
          ∃ s', s.step (.event (.notice i)) = some s' ∧
            s'.waits[waiter.receiver]? = some (chan.push ()) := by
  subst cut
  rcases run.split with ⟨next, before, taken, after⟩
  rcases Option.map_eq_some_iff.mp returned with ⟨⟨waiter', hub, tables⟩, made, rfl⟩
  rcases getCreationWaiter_some made with ⟨place, noticed⟩
  rcases expects_awaited (posted_run before) noticed with ⟨expects, silent⟩
  obtain rfl : { t with toTables := tables, hub } = next := by
    simpa [step, call, made] using taken
  rw [← place] at expects silent
  have shut : ¬ WaiterClosed waiter'.receiver s := by simp [WaiterClosed, found, opened]
  have account := (noticed_run after expects shut).length_eq
  have bounded := (posted_run run).bounded chan (List.mem_of_getElem? found)
  have held : s.noticeTables.held waiter'.receiver =
      chan.received ++ chan.buffer ++ pending s.notices waiter'.receiver := Tables.held_eq found
  rw [held, silent] at account
  refine ⟨?_, bounded.1, bounded.2, ?_, ?_⟩
  · simpa [List.length_flatMap, Nat.add_assoc] using account
  · intro front u op v back same called
    subst same
    rcases after.split with ⟨_, prior, -, -⟩
    rcases Option.map_eq_some_iff.mp called with ⟨⟨hub', tables'⟩, entered, rfl⟩
    exact pending_called (expects_run prior expects) (call_noticed entered)
  · intro i notice posted unfinished own space
    have room : chan.full = false := by simpa [Chan.full, bounded.1] using space
    exact notice_enabled found opened room posted unfinished own

/-- Two waiters of one channel, the first of which is closed before three insertions. -/
def notifiesTwo : List (Act Nat Nat) :=
  [.op (.subscribe 1), .op (.getCreationWaiter 1), .op (.getCreationWaiter 1),
    .event (.closeWaiter 0), .op (.subscribeMultiple [1, 2, 1]), .event (.notice 1),
    .event (.receiveNotice 1), .op (.cloneSend 5 1), .op (.unsubscribe 1 0), .op (.subscribe 2),
    .op (.subscribe 1), .event (.notice 5)]

theorem notified_once_per_subscription_of_two :
    ∃ s chan, exec step (Config.new 7) notifiesTwo = some s ∧ s.waits[1]? = some chan ∧
      chan.received.length + chan.buffer.length + (pending s.notices 1).length = 3 := by
  obtain ⟨past, t, later, cut, returned, sum⟩ : ∃ past t later,
      traceOf step (Config.new 7) notifiesTwo = past ++ (t, .op (.getCreationWaiter 1)) :: later ∧
      (t.hub.getCreationWaiter t.address t.toTables 1).map Prod.fst = some ⟨⟨2, 7⟩, 1⟩ ∧
      (later.map fun e => insertions 1 e.2).sum = 3 :=
    ⟨[_, _], _, _, rfl, rfl, rfl⟩
  obtain ⟨s, done, found⟩ : ∃ s, exec step (Config.new 7) notifiesTwo = some s ∧
      s.waits[1]? = some ⟨10, [()], [()], false⟩ := ⟨_, rfl, rfl⟩
  have run := run_of_exec notifiesTwo done
  refine ⟨s, _, done, found, ?_⟩
  rw [(notified_once_per_subscription run cut returned found rfl).1, sum]

end Config

end AsyncForge.NotifierHub
