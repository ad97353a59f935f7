import AsyncForge.NotifierHub.BroadcastAgreement
import AsyncForge.NotifierHub.Subscriptions

/-! When a receiver has one entry in a channel at most. -/

namespace AsyncForge.NotifierHub

open AsyncForge.Channels AsyncForge.Runs AsyncForge.SmartChannel

section Entries

variable {M ChannelId : Type} [DecidableEq ChannelId] {f f' : NotifierHub M ChannelId}
  {t t' : Tables M} {address : Nat} {op : Op M ChannelId} {id : ChannelId}

theorem channelNumberSubscriber_eq : f.channelNumberSubscriber id = (f.sendersOf id).length := by
  unfold channelNumberSubscriber
  split
  next none => simp [NotifierHub.sendersOf, channelState_over.mp none]
  next missing => simp [NotifierHub.sendersOf, channelState_uninitialised.mp missing]
  · rfl

/-- No two senders of a channel have the same id. -/
def DistinctEntries (f : NotifierHub M ChannelId) : Prop :=
  ∀ id, ((f.sendersOf id).map Sender.id).Nodup

theorem DistinctEntries.single (distinct : DistinctEntries f) (receiver : MessageReceiver) :
    (f.sendersOf id).countP (·.isBoundTo receiver) ≤ 1 := by
  have once := List.nodup_iff_count_le_one.mp (distinct id) receiver.id
  rw [List.count, List.countP_map] at once
  exact once

theorem DistinctEntries.retained {ids : List ChannelId} {keep : MessageSender → Bool}
    (distinct : DistinctEntries f) (retained : Retained f f' ids keep) : DistinctEntries f' := by
  intro id
  rw [retained.sendersOf id]
  split
  · exact (distinct id).sublist (List.filter_sublist.map _)
  · exact distinct id

theorem DistinctEntries.inserted {ids : List ChannelId} {sender : MessageSender}
    (distinct : DistinctEntries f) (inserted : Inserted f f' ids sender) (once : ids.Nodup)
    (fresh : ∀ id, ∀ s ∈ f.sendersOf id, s.id ≠ sender.id) : DistinctEntries f' := by
  intro id
  rw [inserted.sendersOf id, List.map_append, List.map_replicate, List.nodup_append]
  refine ⟨distinct id, List.nodup_replicate.mpr (List.nodup_iff_count_le_one.mp once id), ?_⟩
  intro one member two member' same
  rcases List.mem_map.mp member with ⟨s, inside, rfl⟩
  exact fresh id s inside (same.trans (List.mem_replicate.mp member').2)

theorem DistinctEntries.called (distinct : DistinctEntries f) (wired : Wired f t)
    (made : Called f address t op f' t') (once : ∀ ids, op.joins = some ids → ids.Nodup) :
    DistinctEntries f' := by
  cases made with
  | joined names room inserted =>
    have fresh : ∀ id, ∀ s ∈ f.sendersOf id, s.id ≠ ⟨f.connectionId, address⟩ := by
      intro id s member same
      have below := wired.below _ (wired.entries id s member)
      simp [same] at below
    have counted : DistinctEntries
        ({ f with connectionId := f.connectionId + 1 } : NotifierHub M ChannelId) := distinct
    exact counted.inserted inserted (once _ names) fresh
  | left names lists held retained => exact distinct.retained retained
  | swept names lists retained => exact distinct.retained retained
  | awaited room counter senders =>
    intro id
    rw [NotifierHub.sendersOf, senders]
    exact distinct id

/-- A call that names a channel twice for one receiver leaves two entries of it. -/
theorem Called.nodup_of_distinct {ids : List ChannelId} (made : Called f address t op f' t')
    (names : op.joins = some ids) (distinct : ∀ id (receiver : MessageReceiver),
      (f'.sendersOf id).countP (·.isBoundTo receiver) ≤ 1) : ids.Nodup := by
  cases made with
  | joined names' room inserted =>
    obtain rfl := Option.some.inj (names.symm.trans names')
    apply List.nodup_iff_count_le_one.mpr
    intro id
    have single := distinct id ⟨⟨f.connectionId, address⟩, t.chans.length⟩
    rw [inserted.sendersOf id, List.countP_append, List.countP_replicate] at single
    simp only [Sender.isBoundTo, beq_self_eq_true, ↓reduceIte] at single
    omega
  | left names' => cases op <;> simp [Op.joins, Op.leaves] at names names'
  | swept names' => cases op <;> simp [Op.joins, Op.sweeps] at names names'
  | awaited => cases names

/-- With one entry for a receiver, the channels that the senders feed are distinct. -/
theorem Wired.nodup_places (wired : Wired f t) (distinct : DistinctEntries f) :
    ((f.sendersOf id).map Sender.sender).Nodup := by
  have apart := List.pairwise_map.mp (distinct id)
  apply List.pairwise_map.mpr
  apply apart.imp_of_mem
  intro s s' member member' other same
  rcases List.mem_iff_getElem?.mp (wired.entries id s member) with ⟨i, place⟩
  rcases List.mem_iff_getElem?.mp (wired.entries id s' member') with ⟨j, place'⟩
  obtain rfl : s.sender = i := wired.place i _ place
  obtain rfl : s'.sender = j := wired.place j _ place'
  rw [same, place'] at place
  exact other (congrArg Receiver.id (Option.some.inj place)).symm

end Entries

namespace Config

variable {M ChannelId : Type} [DecidableEq ChannelId] {s s' : Config M ChannelId}
  {a : Act M ChannelId} {id : ChannelId} {r : Nat} {receiver : MessageReceiver}
  {trace : List (Config M ChannelId × Act M ChannelId)} {address : Nat}

/-- The receivers that are subscribed to the channel. -/
def subscribers (s : Config M ChannelId) (id : ChannelId) : List Nat :=
  (List.range s.receivers.length).filter fun r => (s.receivers[r]?).any (s.hub.isSubscribed id)

/-- The call spawns one write of the message for each open subscriber of the channel, and no
    other. -/
def SentOnce (s : Config M ChannelId) (msg : M) (id : ChannelId) (t : Tables M) : Prop :=
  ∃ writes, t.writes = s.writes ++ writes ∧ (∀ w ∈ writes, w.msg = msg) ∧
    (writes.map fun w => w.sender.sender).Perm
      ((s.subscribers id).filter fun r => !(s.chans[r]?).any Chan.closed)

/-- A subscriber occurs once in a channel. -/
structure OncePerChannel (s : Config M ChannelId) : Prop where
  single : ∀ id (receiver : MessageReceiver),
    (s.hub.sendersOf id).countP (·.isBoundTo receiver) ≤ 1
  number : ∀ id, s.hub.channelNumberSubscriber id = (s.subscribers id).length
  cloned : ∀ msg id, s.SentOnce msg id (s.hub.cloneSend s.toTables msg id).2.2
  shared : ∀ msg id, s.SentOnce msg id (s.hub.arcSend s.toTables msg id).2.2

theorem mem_subscribers (wired : Wired s.hub s.toTables) :
    r ∈ s.subscribers id ↔ r ∈ (s.hub.sendersOf id).map Sender.sender := by
  simp only [subscribers, List.mem_filter, List.mem_range, Option.any_eq_true, List.mem_map]
  constructor
  · intro given
    rcases given with ⟨-, receiver, held, subscribed⟩
    exact (wired.isSubscribed held).mp subscribed
  · intro fed
    rcases held_of_subscribed wired fed with ⟨receiver, held⟩
    exact ⟨getElem?_lt held, receiver, held, (wired.isSubscribed held).mpr fed⟩

theorem places_perm (wired : Wired s.hub s.toTables) (distinct : DistinctEntries s.hub) :
    ((s.hub.sendersOf id).map Sender.sender).Perm (s.subscribers id) := by
  apply (List.perm_ext_iff_of_nodup (wired.nodup_places distinct) _).mpr
  · intro r
    exact (mem_subscribers wired).symm
  · exact List.nodup_range.filter _

theorem sentOnce_cloneSend (wired : Wired s.hub s.toTables) (distinct : DistinctEntries s.hub)
    (msg : M) (id : ChannelId) : s.SentOnce msg id (s.hub.cloneSend s.toTables msg id).2.2 := by
  rw [cloneSend_eq]
  refine ⟨_, rfl, fun w member => (opened_of_mem_openWrites member).1, ?_⟩
  have targets : ((openWrites s.hub s.chans msg [id]).map fun w => w.sender.sender) =
      ((s.hub.sendersOf id).map Sender.sender).filter fun r => !(s.chans[r]?).any Chan.closed := by
    simp only [openWrites, List.flatMap_singleton, List.map_map, List.filter_map]
    rfl
  rw [targets]
  exact (places_perm wired distinct).filter _

theorem oncePerChannel (wired : Wired s.hub s.toTables) (distinct : DistinctEntries s.hub) :
    s.OncePerChannel where
  single _ receiver := distinct.single receiver
  number id := by
    rw [channelNumberSubscriber_eq, ← (places_perm wired distinct).length_eq, List.length_map]
  cloned := sentOnce_cloneSend wired distinct
  shared := sentOnce_cloneSend wired distinct

/-- The call names no channel twice. -/
def ListsOnce : Act M ChannelId → Prop
  | .op (.subscribeMultiple ids) => ids.Nodup
  | _ => True

instance (a : Act M ChannelId) : Decidable (ListsOnce a) := by
  unfold ListsOnce
  split <;> infer_instance

theorem distinct_step (wired : Wired s.hub s.toTables) (distinct : DistinctEntries s.hub)
    (once : ListsOnce a) (taken : s.step a = some s') : DistinctEntries s'.hub := by
  cases step_cases taken with
  | @called op hub t made =>
    apply distinct.called wired (call_cases made)
    intro ids names
    cases op with
    | subscribe id =>
      cases names
      exact List.nodup_singleton id
    | subscribeMultiple ids =>
      cases names
      exact once
    | _ => cases names
  | moved => exact distinct
  | happened happened =>
    exact distinct

theorem oncePerChannel_run (run : Run step (Config.new address) trace s)
    (once : Along (fun _ a => ListsOnce a) trace) : s.OncePerChannel := by
  have keep : ∀ (t : Config M ChannelId) a t',
      (Wired t.hub t.toTables ∧ DistinctEntries t.hub) → ListsOnce a → t.step a = some t' →
        Wired t'.hub t'.toTables ∧ DistinctEntries t'.hub := by
    intro t a t' given once taken
    exact ⟨wired_step given.1 taken, distinct_step given.1 given.2 once taken⟩
  have start : DistinctEntries (Config.new address : Config M ChannelId).hub := by
    simp [DistinctEntries, Config.new, NotifierHub.new, NotifierHub.sendersOf]
  rcases run.invariant_along keep once ⟨wired_new, start⟩ with ⟨wired, distinct⟩
  exact oncePerChannel wired distinct

theorem listsOnce_of_single (taken : s.step a = some s') (once : s'.OncePerChannel) :
    ListsOnce a := by
  unfold ListsOnce
  split
  next ids =>
    rcases Option.map_eq_some_iff.mp taken with ⟨⟨hub, t⟩, made, rfl⟩
    exact (call_cases made).nodup_of_distinct rfl once.single
  · trivial

/-- Through a whole run a subscriber occurs once in each of its channels if, and only if, no call of
    `subscribe_multiple` names a channel twice. -/
theorem once_per_channel_iff (run : Run step (Config.new address) trace s) :
    (∀ past later t, trace = past ++ later → Run step (Config.new address) past t →
      t.OncePerChannel) ↔ Along (fun _ a => ListsOnce a) trace := by
  constructor
  · intro always e member
    rcases List.append_of_mem member with ⟨past, later, rfl⟩
    rcases run.split with ⟨next, before, taken, -⟩
    have cut : past ++ e :: later = (past ++ [(e.1, e.2)]) ++ later := by simp
    exact listsOnce_of_single taken (always _ later next cut (before.snoc taken))
  · intro once past later t cut before
    subst cut
    exact oncePerChannel_run before fun e member => once e (List.mem_append_left _ member)

/-- Two receivers share a channel, one of them leaves it, and the other is closed. -/
def sharesChannel : List (Act Nat Nat) :=
  [.op (.subscribeMultiple [1, 2]), .op (.subscribe 1), .op (.unsubscribeMultiple [2, 2] 0),
    .event (.close 1)]

theorem once_per_channel_shared : ∃ s, exec step (Config.new 7) sharesChannel = some s ∧
    s.hub.channelNumberSubscriber 1 = 2 ∧ s.OncePerChannel := by
  have once : Along (fun _ a => ListsOnce a) (traceOf step (Config.new 7) sharesChannel) := by
    decide
  obtain ⟨s, done, number⟩ : ∃ s, exec step (Config.new 7) sharesChannel = some s ∧
      s.hub.channelNumberSubscriber 1 = 2 := ⟨_, rfl, by decide⟩
  have run := run_of_exec sharesChannel done
  exact ⟨s, done, number, (once_per_channel_iff run).mpr once _ [] s (by simp) run⟩

/-- A receiver that is subscribed twice to one channel counts as two and gets two copies. -/
theorem subscribed_twice : ∃ s : Config Nat Nat,
    exec step (Config.new 7) [.op (.subscribeMultiple [1, 1])] = some s ∧
      s.receivers.length = 1 ∧ s.hub.channelNumberSubscriber 1 = 2 ∧
      (s.hub.cloneSend s.toTables 5 1).2.2.writes.length = 2 ∧
      ¬ s.OncePerChannel := by
  refine ⟨_, rfl, rfl, by decide, by decide, ?_⟩
  intro once
  exact absurd (once.single 1 ⟨⟨0, 7⟩, 0⟩) (by decide)

end Config

end AsyncForge.NotifierHub
