import AsyncForge.NotifierHub.Calls

/-! What a hub is for: who is subscribed to which channel. -/

namespace AsyncForge.NotifierHub

open AsyncForge.Channels AsyncForge.Runs AsyncForge.SmartChannel

/-- The channels that were ever named in a subscription, and the receivers subscribed to each. -/
@[ext] structure Subscriptions (ChannelId : Type) where
  named : ChannelId → Prop
  subscribed : ChannelId → Nat → Prop

namespace Subscriptions

variable {M ChannelId : Type}

def empty : Subscriptions ChannelId := ⟨fun _ => False, fun _ _ => False⟩

def join (p : Subscriptions ChannelId) (ids : ChannelId → Prop) (receiver : Nat) :
    Subscriptions ChannelId where
  named id := p.named id ∨ ids id
  subscribed id r := p.subscribed id r ∨ (ids id ∧ r = receiver)

def drop (p : Subscriptions ChannelId) (ids : ChannelId → Prop) (receivers : Nat → Prop) :
    Subscriptions ChannelId where
  named := p.named
  subscribed id r := p.subscribed id r ∧ ¬ (ids id ∧ receivers r)

/-- What an act does to the subscriptions; `fresh` is the receiver a subscription returns. -/
def next (p : Subscriptions ChannelId) (fresh : Nat) (closed : Nat → Prop) :
    Act M ChannelId → Subscriptions ChannelId
  | .op (.subscribe id) => p.join (· = id) fresh
  | .op (.subscribeMultiple ids) => p.join (· ∈ ids) fresh
  | .op (.unsubscribe id receiver) => p.drop (· = id) (· = receiver)
  | .op (.unsubscribeMultiple ids receiver) => p.drop (· ∈ ids) (· = receiver)
  | .op (.unsubscribeAll receiver _) => p.drop (fun _ => True) (· = receiver)
  | .op (.cleanChannel id) | .op (.cloneSend _ id) | .op (.arcSend _ id) => p.drop (· = id) closed
  | .op (.cleanAll _) | .op (.broadcastClone _ _) | .op (.broadcastArc _ _) =>
    p.drop (fun _ => True) closed
  | .op (.getCreationWaiter _) | .move _ | .event _ => p

variable {p : Subscriptions ChannelId} {fresh : Nat} {closed : Nat → Prop} {op : Op M ChannelId}
  {ids : List ChannelId}

theorem drop_congr {channels channels' : ChannelId → Prop} {receivers : Nat → Prop}
    (same : ∀ id r, p.subscribed id r → (channels id ↔ channels' id)) :
    p.drop channels receivers = p.drop channels' receivers := by
  ext id r
  · rfl
  · exact and_congr_right fun member => not_congr (and_congr_left fun _ => same id r member)

theorem next_of_joins (names : op.joins = some ids) :
    p.next fresh closed (.op op) = p.join (· ∈ ids) fresh := by
  cases op <;> cases names
  · simp [next]
  · rfl

theorem next_of_leaves {receiver : Nat} (names : op.leaves = some (receiver, ids))
    (all : op.listing = some ids → ∀ id r, p.subscribed id r → id ∈ ids) :
    p.next fresh closed (.op op) = p.drop (· ∈ ids) (· = receiver) := by
  cases op <;> cases names
  · simp [next]
  · rfl
  · exact drop_congr fun id r member => by simp [all rfl id r member]

theorem next_of_sweeps {msg : Option M} (names : op.sweeps = some (ids, msg))
    (all : op.listing = some ids → ∀ id r, p.subscribed id r → id ∈ ids) :
    p.next fresh closed (.op op) = p.drop (· ∈ ids) closed := by
  cases op <;> cases names
  · simp [next]
  · exact drop_congr fun id r member => by simp [all rfl id r member]
  · simp [next]
  · simp [next]
  · exact drop_congr fun id r member => by simp [all rfl id r member]
  · exact drop_congr fun id r member => by simp [all rfl id r member]

end Subscriptions

section Wiring

variable {M ChannelId : Type} [DecidableEq ChannelId]

/-- Every sender of the hub feeds the channel of a receiver that was handed out under its id, and no
    id was handed out twice. -/
structure Wired (f : NotifierHub M ChannelId) (t : Tables M) : Prop where
  length : t.receivers.length = t.chans.length
  place : ∀ (r : Nat) receiver, t.receivers[r]? = some receiver → receiver.receiver = r
  below : ∀ receiver ∈ t.receivers, receiver.id.channelCounter < f.connectionId
  belowWaiters : ∀ waiter ∈ t.waiters, waiter.id.channelCounter < f.connectionId
  distinct : ∀ r ∈ t.receivers, ∀ r' ∈ t.receivers, r.id = r'.id → r = r'
  apart : ∀ r ∈ t.receivers, ∀ waiter ∈ t.waiters, r.id ≠ waiter.id
  entries : ∀ id, ∀ s ∈ f.sendersOf id, ⟨s.id, s.sender⟩ ∈ t.receivers

variable {f f' : NotifierHub M ChannelId} {t t' : Tables M} {address : Nat} {op : Op M ChannelId}
  {r : Nat} {receiver : MessageReceiver} {id : ChannelId} {s : MessageSender}

/-- A sender bound to a receiver that was handed out feeds its channel. -/
theorem Wired.known_iff (wired : Wired f t) (held : t.receivers[r]? = some receiver)
    (known : ⟨s.id, s.sender⟩ ∈ t.receivers) : s.isBoundTo receiver = true ↔ s.sender = r := by
  have same := wired.place r receiver held
  simp only [Sender.isBoundTo, beq_iff_eq]
  constructor
  · intro equal
    have one := wired.distinct _ known _ (List.mem_of_getElem? held) equal
    rw [← same, ← one]
  · intro same
    subst same
    rcases List.mem_iff_getElem?.mp known with ⟨j, place⟩
    obtain rfl : s.sender = j := wired.place j _ place
    rw [held] at place
    rw [Option.some.inj place]

theorem Wired.bound_iff (wired : Wired f t) (held : t.receivers[r]? = some receiver)
    (member : s ∈ f.sendersOf id) : s.isBoundTo receiver = true ↔ s.sender = r :=
  wired.known_iff held (wired.entries id s member)

theorem Wired.isSubscribed (wired : Wired f t) (held : t.receivers[r]? = some receiver) :
    f.isSubscribed id receiver = true ↔ ∃ s ∈ f.sendersOf id, s.sender = r := by
  rw [isSubscribed_iff]
  exact exists_congr fun s => and_congr_right fun member => wired.bound_iff held member

theorem Wired.retained {ids : List ChannelId} {keep : MessageSender → Bool} (wired : Wired f t)
    (retained : Retained f f' ids keep) : Wired f' t := by
  refine ⟨wired.length, wired.place, ?_, ?_, wired.distinct, wired.apart, ?_⟩
  · rw [retained.counter]
    exact wired.below
  · rw [retained.counter]
    exact wired.belowWaiters
  · intro id s member
    rw [retained.sendersOf id] at member
    split at member
    · exact wired.entries id s (List.mem_filter.mp member).1
    · exact wired.entries id s member

theorem Wired.joined {ids : List ChannelId} (wired : Wired f t)
    (inserted : Inserted { f with connectionId := f.connectionId + 1 } f' ids
      ⟨⟨f.connectionId, address⟩, t.chans.length⟩) (notices : List (Writing Unit)) :
    Wired f' { t with
      chans := t.chans ++ [{ capacity := channelSize }]
      receivers := t.receivers ++ [⟨⟨f.connectionId, address⟩, t.chans.length⟩]
      notices } := by
  have counter : f'.connectionId = f.connectionId + 1 := inserted.counter
  refine ⟨by simp [wired.length], ?_, ?_, ?_, ?_, ?_, ?_⟩
  · intro r receiver held
    rw [getElem?_concat] at held
    split at held
    next last =>
      cases held
      exact wired.length.symm.trans last.symm
    · exact wired.place r receiver held
  · intro receiver member
    rw [counter]
    rcases List.mem_append.mp member with member | member
    · exact Nat.lt_succ_of_lt (wired.below receiver member)
    · rw [List.mem_singleton.mp member]
      exact Nat.lt_succ_self _
  · intro waiter member
    rw [counter]
    exact Nat.lt_succ_of_lt (wired.belowWaiters waiter member)
  · have fresh : ∀ receiver ∈ t.receivers, receiver.id ≠ ⟨f.connectionId, address⟩ := by
      intro receiver member same
      have below := wired.below receiver member
      simp [same] at below
    intro one member two member' same
    rcases List.mem_append.mp member with member | member <;>
      rcases List.mem_append.mp member' with member' | member'
    · exact wired.distinct one member two member' same
    · obtain rfl := List.mem_singleton.mp member'
      exact absurd same (fresh one member)
    · obtain rfl := List.mem_singleton.mp member
      exact absurd same.symm (fresh two member')
    · rw [List.mem_singleton.mp member, List.mem_singleton.mp member']
  · intro receiver member waiter known
    rcases List.mem_append.mp member with member | member
    · exact wired.apart receiver member waiter known
    · obtain rfl := List.mem_singleton.mp member
      intro same
      have below := wired.belowWaiters waiter known
      simp [← same] at below
  · intro id s member
    rw [inserted.sendersOf id] at member
    rcases List.mem_append.mp member with member | member
    · exact List.mem_append_left _ (wired.entries id s member)
    · rcases List.mem_replicate.mp member with ⟨-, rfl⟩
      exact List.mem_append_right _ (by simp)

theorem Wired.awaited (wired : Wired f t) (counter : f'.connectionId = f.connectionId + 1)
    (senders : f'.senders = f.senders) :
    Wired f' { t with
      waits := t.waits ++ [{ capacity := notifierChannelSize }]
      waiters := t.waiters ++ [⟨⟨f.connectionId, address⟩, t.waits.length⟩] } := by
  refine ⟨wired.length, wired.place, ?_, ?_, wired.distinct, ?_, ?_⟩
  · intro receiver member
    rw [counter]
    exact Nat.lt_succ_of_lt (wired.below receiver member)
  · intro waiter member
    rw [counter]
    rcases List.mem_append.mp member with member | member
    · exact Nat.lt_succ_of_lt (wired.belowWaiters waiter member)
    · rw [List.mem_singleton.mp member]
      exact Nat.lt_succ_self _
  · intro receiver member waiter known same
    rcases List.mem_append.mp known with known | known
    · exact wired.apart receiver member waiter known same
    · have below := wired.below receiver member
      simp [same, List.mem_singleton.mp known] at below
  · intro id s member
    rw [NotifierHub.sendersOf, senders] at member
    exact wired.entries id s member

theorem Wired.called (wired : Wired f t) (made : Called f address t op f' t') : Wired f' t' := by
  cases made with
  | joined names room inserted => exact wired.joined inserted _
  | left names lists held retained => exact wired.retained retained
  | swept names lists retained =>
    have kept := wired.retained retained
    exact ⟨kept.length, kept.place, kept.below, kept.belowWaiters, kept.distinct, kept.apart,
      kept.entries⟩
  | awaited room counter senders => exact wired.awaited counter senders

end Wiring

namespace Config

variable {M ChannelId : Type} [DecidableEq ChannelId] {s s' : Config M ChannelId}
  {a : Act M ChannelId} {id : ChannelId} {r : Nat} {receiver : MessageReceiver}

def subscriptions (s : Config M ChannelId) : Subscriptions ChannelId where
  named id := id ∈ s.hub.senders
  subscribed id r := ∃ sender ∈ s.hub.sendersOf id, sender.sender = r

def Closed (s : Config M ChannelId) (r : Nat) : Prop := (s.chans[r]?).any Chan.closed = true

omit [DecidableEq ChannelId] in
theorem closed_iff : s.Closed r ↔ ∃ chan, s.chans[r]? = some chan ∧ chan.closed = true := by
  unfold Closed
  cases s.chans[r]? <;> simp

theorem wired_step (wired : Wired s.hub s.toTables) (taken : s.step a = some s') :
    Wired s'.hub s'.toTables := by
  cases step_cases taken with
  | called made =>
    exact wired.called (call_cases made)
  | moved => exact wired
  | happened happened =>
    rcases step_tables happened with ⟨receivers, waiters, length⟩
    constructor
    · rw [receivers, length]
      exact wired.length
    all_goals simp only [receivers, waiters]
    exacts [wired.place, wired.below, wired.belowWaiters, wired.distinct, wired.apart,
      wired.entries]

theorem wired_new : Wired (NotifierHub.new : NotifierHub M ChannelId) (Tables.new : Tables M) := by
  constructor <;> simp [Tables.new, NotifierHub.new, NotifierHub.sendersOf]

variable {trace : List (Config M ChannelId × Act M ChannelId)} {address : Nat}

theorem wired_run (run : Run step (Config.new address) trace s) : Wired s.hub s.toTables := by
  induction run with
  | nil => exact wired_new
  | snoc before last ih => exact wired_step ih last

theorem subscribed_listed {keys : List ChannelId} (lists : Lists s.hub keys)
    (subscribed : s.subscriptions.subscribed id r) : id ∈ keys := by
  rcases subscribed with ⟨sender, member, -⟩
  exact lists.mem (List.ne_nil_of_mem member)

theorem mem_retained {f f' : NotifierHub M ChannelId} {ids : List ChannelId}
    {keep : MessageSender → Bool} (retained : Retained f f' ids keep) :
    id ∈ f'.senders ↔ id ∈ f.senders := by
  rw [← not_iff_not, ← Finmap.lookup_eq_none, ← Finmap.lookup_eq_none, retained.lookup id]
  split <;> simp

theorem subscribed_retained {f f' : NotifierHub M ChannelId} {ids : List ChannelId}
    {keep : MessageSender → Bool} (gone : Nat → Prop) (retained : Retained f f' ids keep)
    (same : ∀ sender ∈ f.sendersOf id, keep sender = true ↔ ¬ gone sender.sender) :
    (∃ sender ∈ f'.sendersOf id, sender.sender = r) ↔
      (∃ sender ∈ f.sendersOf id, sender.sender = r) ∧ ¬ (id ∈ ids ∧ gone r) := by
  rw [retained.sendersOf id]
  by_cases touched : id ∈ ids
  · simp only [touched, ↓reduceIte, true_and, List.mem_filter]
    constructor
    · intro given
      rcases given with ⟨sender, ⟨member, kept⟩, rfl⟩
      exact ⟨⟨sender, member, rfl⟩, (same sender member).mp kept⟩
    · intro given
      rcases given with ⟨⟨sender, member, rfl⟩, stays⟩
      exact ⟨sender, ⟨member, (same sender member).mpr stays⟩, rfl⟩
  · simp [touched]

/-- Every step of the hub is a step of its subscriptions. -/
theorem subscriptions_step (wired : Wired s.hub s.toTables) (taken : s.step a = some s') :
    s'.subscriptions = s.subscriptions.next s.chans.length s.Closed a := by
  have listed : ∀ keys, Lists s.hub keys →
      ∀ id r, s.subscriptions.subscribed id r → id ∈ keys :=
    fun keys lists id r subscribed => subscribed_listed lists subscribed
  cases step_cases taken with
  | @called op hub t made =>
    cases call_cases made with
    | @joined _ ids _ _ names room inserted =>
      rw [Subscriptions.next_of_joins names]
      ext id r
      · change id ∈ hub.senders ↔ _
        rw [← not_iff_not, ← Finmap.lookup_eq_none, inserted.lookup id]
        by_cases member : id ∈ ids <;>
          simp [member, Subscriptions.join, subscriptions, Finmap.lookup_eq_none]
      · change (∃ sender ∈ hub.sendersOf id, sender.sender = r) ↔ _
        rw [inserted.sendersOf id]
        simp only [List.mem_append, List.mem_replicate, or_and_right, exists_or, ne_eq,
          List.count_eq_zero, not_not]
        apply or_congr Iff.rfl
        constructor
        · intro fed
          rcases fed with ⟨_, ⟨member, rfl⟩, rfl⟩
          exact ⟨member, rfl⟩
        · intro fed
          exact ⟨_, ⟨fed.1, rfl⟩, fed.2.symm⟩
    | @left _ receiver _ _ _ names lists held retained =>
      rw [Subscriptions.next_of_leaves names fun listing => listed _ (lists _ listing)]
      ext id r
      · exact mem_retained retained
      · apply subscribed_retained (· = receiver) retained
        intro sender member
        rw [Bool.not_eq_true', ← Bool.not_eq_true, wired.bound_iff held member]
    | swept names lists retained =>
      rw [Subscriptions.next_of_sweeps names fun listing => listed _ (lists _ listing)]
      ext id r
      · exact mem_retained retained
      · apply subscribed_retained s.Closed retained
        intro sender member
        rw [Bool.not_eq_true', ← Bool.not_eq_true]
        rfl
    | awaited room counter senders =>
      simp only [Subscriptions.next, subscriptions, NotifierHub.sendersOf, senders]
  | moved =>
    rfl
  | happened happened =>
    rfl

def Names (id : ChannelId) : Act M ChannelId → Prop
  | .op (.subscribe id') => id = id'
  | .op (.subscribeMultiple ids) => id ∈ ids
  | _ => False

/-- The act is the subscription that returns the receiver, and it names the channel. -/
def Joins (id : ChannelId) (r : Nat) (s : Config M ChannelId) (a : Act M ChannelId) : Prop :=
  Names id a ∧ r = s.chans.length

/-- The act unsubscribes the receiver from the channel, or cleans the channel of the closed
    receiver. -/
def Parts (id : ChannelId) (r : Nat) (s : Config M ChannelId) : Act M ChannelId → Prop
  | .op (.unsubscribe id' r') => id = id' ∧ r = r'
  | .op (.unsubscribeMultiple ids r') => id ∈ ids ∧ r = r'
  | .op (.unsubscribeAll r' _) => r = r'
  | .op (.cleanChannel id') | .op (.cloneSend _ id') | .op (.arcSend _ id') => id = id' ∧ s.Closed r
  | .op (.cleanAll _) | .op (.broadcastClone _ _) | .op (.broadcastArc _ _) => s.Closed r
  | _ => False

omit [DecidableEq ChannelId] in
theorem subscribed_next (p : Subscriptions ChannelId) :
    (p.next s.chans.length s.Closed a).subscribed id r ↔
      s.Joins id r a ∨ (p.subscribed id r ∧ ¬ s.Parts id r a) := by
  rcases a with op | address | e
  · cases op <;>
      simp [Subscriptions.next, Subscriptions.join, Subscriptions.drop, Joins, Names, Parts,
        or_comm]
  · simp [Subscriptions.next, Joins, Names, Parts]
  · simp [Subscriptions.next, Joins, Names, Parts]

omit [DecidableEq ChannelId] in
theorem named_next (p : Subscriptions ChannelId) :
    (p.next s.chans.length s.Closed a).named id ↔ p.named id ∨ Names id a := by
  rcases a with op | address | e
  · cases op <;> simp [Subscriptions.next, Subscriptions.join, Subscriptions.drop, Names]
  · simp [Subscriptions.next, Names]
  · simp [Subscriptions.next, Names]

theorem subscribed_run (run : Run step (Config.new address) trace s) :
    s.subscriptions.subscribed id r ↔
      Since (fun t a => ¬ t.Parts id r a) (fun t a => t.Joins id r a) trace := by
  have keep : ∀ (t : Config M ChannelId) a t', Wired t.hub t.toTables → t.step a = some t' →
      Wired t'.hub t'.toTables := fun _ _ _ wired taken => wired_step wired taken
  have change : ∀ (t : Config M ChannelId) a t', Wired t.hub t.toTables → t.step a = some t' →
      (t'.subscriptions.subscribed id r ↔
        t.Joins id r a ∨ (t.subscriptions.subscribed id r ∧ ¬ t.Parts id r a)) := by
    intro t a t' wired taken
    rw [subscriptions_step wired taken]
    exact subscribed_next _
  apply run.since_iff keep change wired_new
  intro given
  rcases given with ⟨sender, member, -⟩
  simp [Config.new, NotifierHub.new, NotifierHub.sendersOf] at member

theorem named_run (run : Run step (Config.new address) trace s) :
    s.subscriptions.named id ↔ ∃ e ∈ trace, Names id e.2 := by
  induction run with
  | nil => simp [subscriptions, Config.new, NotifierHub.new, Finmap.notMem_empty]
  | snoc before last ih =>
    rw [subscriptions_step (wired_run before) last, named_next, ih]
    simp [or_and_right, exists_or]

theorem subscribed_iff (wired : Wired s.hub s.toTables)
    (held : s.receivers[r]? = some receiver) :
    s.hub.isSubscribed id receiver = true ↔ s.subscriptions.subscribed id r :=
  wired.isSubscribed held

theorem sender_found (wired : Wired s.hub s.toTables) (held : s.receivers[r]? = some receiver) :
    ((s.hub.getSender id receiver).isSome = true ↔ s.hub.isSubscribed id receiver = true) ∧
      ∀ sender, s.hub.getSender id receiver = some sender →
        sender.sender = r ∧ sender.id = receiver.id := by
  constructor
  · rw [getSender_eq, List.find?_isSome, isSubscribed_iff]
  · intro sender found
    rw [getSender_eq] at found
    have bound := List.find?_some found
    exact ⟨(wired.bound_iff held (List.mem_of_find?_eq_some found)).mp bound,
      by simpa [Sender.isBoundTo] using bound⟩

theorem held_of_subscribed (wired : Wired s.hub s.toTables)
    (subscribed : s.subscriptions.subscribed id r) :
    ∃ receiver, s.receivers[r]? = some receiver := by
  rcases subscribed with ⟨sender, member, rfl⟩
  rcases List.mem_iff_getElem?.mp (wired.entries id sender member) with ⟨j, place⟩
  obtain rfl : sender.sender = j := wired.place j _ place
  exact ⟨_, place⟩

theorem running_iff (wired : Wired s.hub s.toTables) :
    s.hub.channelState id = .running ↔
      ∃ (r : Nat) (receiver : MessageReceiver), s.receivers[r]? = some receiver ∧
        s.hub.isSubscribed id receiver = true := by
  rw [channelState_running]
  constructor
  · intro inhabited
    rcases List.exists_cons_of_ne_nil inhabited with ⟨sender, rest, same⟩
    have subscribed : s.subscriptions.subscribed id sender.sender :=
      ⟨sender, by simp [same], rfl⟩
    rcases held_of_subscribed wired subscribed with ⟨receiver, held⟩
    exact ⟨_, receiver, held, (subscribed_iff wired held).mpr subscribed⟩
  · intro given empty
    rcases given with ⟨r, receiver, held, subscribed⟩
    rcases (subscribed_iff wired held).mp subscribed with ⟨sender, member, -⟩
    simp [empty] at member

theorem uninitialised_iff (run : Run step (Config.new address) trace s) :
    s.hub.channelState id = .uninitialised ↔ ∀ e ∈ trace, ¬ Names id e.2 := by
  rw [channelState_uninitialised, Finmap.lookup_eq_none]
  have named : s.subscriptions.named id ↔ ∃ e ∈ trace, Names id e.2 := named_run run
  simp only [subscriptions] at named
  rw [named]
  simp

theorem waiter_unsubscribed {waiter : CreationWaiter} (wired : Wired s.hub s.toTables)
    (member : waiter ∈ s.waiters) : s.hub.isSubscribed id waiter = false := by
  rw [← Bool.not_eq_true, isSubscribed_iff]
  intro given
  rcases given with ⟨sender, inside, bound⟩
  exact wired.apart _ (wired.entries id sender inside) waiter member
    (by simpa [Sender.isBoundTo] using bound)

/-- The hub refines its subscription relation: a receiver is subscribed to the channels named in
    the call that returned it, until it is unsubscribed or cleaned away after it was closed. -/
theorem hub_refines_subscriptions (run : Run step (Config.new address) trace s) :
    (∀ a s', s.step a = some s' →
      s'.subscriptions = s.subscriptions.next s.chans.length s.Closed a) ∧
    (∀ (r : Nat) receiver id, s.receivers[r]? = some receiver →
      (s.hub.isSubscribed id receiver = true ↔
        Since (fun t a => ¬ t.Parts id r a) (fun t a => t.Joins id r a) trace) ∧
      ((s.hub.getSender id receiver).isSome = true ↔ s.hub.isSubscribed id receiver = true) ∧
      (∀ sender, s.hub.getSender id receiver = some sender →
        sender.sender = r ∧ sender.id = receiver.id) ∧
      (∀ sender ∈ s.hub.sendersOf id, sender.id = receiver.id → sender.sender = r) ∧
      (∀ keys, Lists s.hub keys → (s.hub.subscribedList keys receiver).Nodup ∧
        ∀ id, id ∈ s.hub.subscribedList keys receiver ↔ s.hub.isSubscribed id receiver = true)) ∧
    (∀ id, (s.hub.channelState id = .uninitialised ↔ ∀ e ∈ trace, ¬ Names id e.2) ∧
      (s.hub.channelState id = .running ↔ ∃ (r : Nat) (receiver : MessageReceiver),
        s.receivers[r]? = some receiver ∧ s.hub.isSubscribed id receiver = true) ∧
      (s.hub.channelState id = .over ↔ (∃ e ∈ trace, Names id e.2) ∧
        ∀ (r : Nat) receiver, s.receivers[r]? = some receiver →
          s.hub.isSubscribed id receiver = false) ∧
      ∀ waiter ∈ s.waiters, s.hub.isSubscribed id waiter = false) := by
  have wired := wired_run run
  refine ⟨fun a s' taken => subscriptions_step wired taken, ?_, ?_⟩
  · intro r receiver id held
    refine ⟨?_, (sender_found wired held).1, (sender_found wired held).2, ?_, ?_⟩
    · rw [subscribed_iff wired held]
      exact subscribed_run run
    · intro sender member same
      exact (wired.bound_iff held member).mp (by simpa [Sender.isBoundTo] using same)
    · intro keys lists
      refine ⟨lists.1.filter _, fun id => ?_⟩
      rw [mem_subscribedList]
      exact and_iff_right_of_imp fun subscribed =>
        subscribed_listed lists ((subscribed_iff wired held).mp subscribed)
  · intro id
    have none : s.hub.channelState id = .uninitialised ↔ _ := uninitialised_iff run
    have running : s.hub.channelState id = .running ↔ _ := running_iff wired
    refine ⟨none, running, ?_, fun waiter member => waiter_unsubscribed wired member⟩
    have other : s.hub.channelState id = .over ↔
        ¬ s.hub.channelState id = .uninitialised ∧ ¬ s.hub.channelState id = .running := by
      cases s.hub.channelState id <;> simp
    rw [other, none, running]
    simp

/-- A receiver of two channels is closed and one of them cleaned, after the hub has moved. -/
def closesOne : List (Act Nat Nat) :=
  [.op (.subscribeMultiple [1, 2]), .move 9, .event (.close 0), .op (.cleanChannel 1)]

theorem hub_refines_subscriptions_closed :
    ∃ s, exec step (Config.new 7) closesOne = some s ∧
      ¬ Since (fun t a => ¬ t.Parts 1 0 a) (fun t a => t.Joins 1 0 a)
        (traceOf step (Config.new 7) closesOne) ∧
      Since (fun t a => ¬ t.Parts 2 0 a) (fun t a => t.Joins 2 0 a)
        (traceOf step (Config.new 7) closesOne) := by
  refine ⟨_, rfl, ?_⟩
  rcases hub_refines_subscriptions (run_of_exec closesOne rfl) with ⟨-, subscribed, -⟩
  exact ⟨(subscribed 0 _ 1 rfl).1.not.mp (by decide), (subscribed 0 _ 2 rfl).1.mp (by decide)⟩

end Config

end AsyncForge.NotifierHub
