import AsyncForge.Lib.Refinement
import AsyncForge.NotifierHub.Notifications
import AsyncForge.NotifierHub.SendOrder

/-! What can be left out of a run: the cleaning calls, and what becomes of the handlers. -/

namespace AsyncForge.NotifierHub

open AsyncForge.Channels AsyncForge.Refinement AsyncForge.Runs AsyncForge.SmartChannel
open AsyncForge.NotifierHub.WritingHandler

section Cleaned

variable {M ChannelId : Type} [DecidableEq ChannelId] {f f' g g' : NotifierHub M ChannelId}
  {chans chans' : List (Chan M)} {ids : List ChannelId} {keep : MessageSender → Bool}
  {sender : MessageSender} {id : ChannelId}

theorem map_filter_filter (senders : Option (List MessageSender))
    (keep keep' : MessageSender → Bool) :
    (senders.map (List.filter keep)).map (List.filter keep') =
      senders.map (List.filter fun s => keep' s && keep s) := by
  cases senders with
  | none => rfl
  | some senders => exact congrArg some List.filter_filter

/-- The hubs agree on everything but senders of closed channels. -/
structure Alike (chans : List (Chan M)) (f g : NotifierHub M ChannelId) : Prop where
  counter : g.connectionId = f.connectionId
  creations : g.creationSenders = f.creationSenders
  lookup : ∀ id, (g.senders.lookup id).map (List.filter fun s => !s.isClosed chans) =
    (f.senders.lookup id).map (List.filter fun s => !s.isClosed chans)

theorem Alike.sendersOf (alike : Alike chans f g) (id : ChannelId) :
    (g.sendersOf id).filter (fun s => !s.isClosed chans) =
      (f.sendersOf id).filter fun s => !s.isClosed chans := by
  have same := alike.lookup id
  unfold NotifierHub.sendersOf
  cases one : f.senders.lookup id <;> cases two : g.senders.lookup id <;>
    simp_all

theorem Alike.mem_iff (alike : Alike chans f g) : id ∈ g.senders ↔ id ∈ f.senders := by
  have same := congrArg Option.isSome (alike.lookup id)
  rw [Option.isSome_map, Option.isSome_map] at same
  rw [Finmap.mem_iff, Finmap.mem_iff, ← Option.isSome_iff_exists, ← Option.isSome_iff_exists, same]

theorem Alike.lists (alike : Alike chans f g) {keys : List ChannelId} (lists : Lists f keys) :
    Lists g keys := by
  refine ⟨lists.1, ?_⟩
  ext id
  rw [List.mem_toFinset, lists.mem_iff, Finmap.mem_keys, alike.mem_iff]

/-- One of the hubs may be cleaned. -/
theorem Alike.cleaned (alike : Alike chans f g)
    (retained : Retained f f' ids fun s => !s.isClosed chans) : Alike chans f' g := by
  refine ⟨alike.counter.trans retained.counter.symm,
    alike.creations.trans retained.creations.symm, fun id => ?_⟩
  rw [alike.lookup id, retained.lookup id]
  split
  · rw [map_filter_filter]
    simp only [Bool.and_self]
  · rfl

theorem Alike.retained (alike : Alike chans f g) (one : Retained f f' ids keep)
    (two : Retained g g' ids keep) : Alike chans f' g' := by
  have same : ∀ (h : NotifierHub M ChannelId) id,
      ((h.senders.lookup id).map (List.filter keep)).map (List.filter fun s => !s.isClosed chans) =
        ((h.senders.lookup id).map (List.filter fun s => !s.isClosed chans)).map
          (List.filter keep) := by
    intro h id
    simp only [map_filter_filter, Bool.and_comm]
  refine ⟨two.counter.trans (alike.counter.trans one.counter.symm),
    two.creations.trans (alike.creations.trans one.creations.symm), fun id => ?_⟩
  rw [two.lookup id, one.lookup id]
  split
  · rw [same, same, alike.lookup id]
  · exact alike.lookup id

theorem Alike.inserted (alike : Alike chans f g) (one : Inserted f f' ids sender)
    (two : Inserted g g' ids sender) : Alike chans f' g' := by
  refine ⟨two.counter.trans (alike.counter.trans one.counter.symm),
    two.creations.trans (alike.creations.trans one.creations.symm), fun id => ?_⟩
  rw [two.lookup id, one.lookup id]
  split
  · simp only [Option.map_some, List.filter_append, alike.sendersOf id]
  · exact alike.lookup id

theorem Alike.later (alike : Alike chans f g)
    (closed : ∀ r : Nat, (chans[r]?).any Chan.closed = true →
      (chans'[r]?).any Chan.closed = true) : Alike chans' f g := by
  refine ⟨alike.counter, alike.creations, fun id => ?_⟩
  have narrowed : (fun s : MessageSender => !s.isClosed chans' && !s.isClosed chans) =
      fun s => !s.isClosed chans' := by
    funext s
    cases shut : s.isClosed chans with
    | false => exact Bool.and_true _
    | true => simp [Sender.isClosed, closed s.sender shut]
  have through : ∀ h : NotifierHub M ChannelId,
      (h.senders.lookup id).map (List.filter fun s => !s.isClosed chans') =
        ((h.senders.lookup id).map (List.filter fun s => !s.isClosed chans)).map
          (List.filter fun s => !s.isClosed chans') := by
    intro h
    rw [map_filter_filter, narrowed]
  rw [through, through, alike.lookup id]

theorem Alike.openWrites (alike : Alike chans f g) (msg : M) (ids : List ChannelId) :
    openWrites g chans msg ids = openWrites f chans msg ids := by
  unfold NotifierHub.openWrites
  rw [List.filter_flatMap, List.filter_flatMap]
  congr 1
  apply List.flatMap_congr
  intro id _
  exact alike.sendersOf id

variable {t t' : Tables M} {address : Nat} {op : Op M ChannelId} {msg : M}

/-- A send cleans the channel first, so it never sees the senders that a cleaning drops. -/
theorem Alike.cloneSend (alike : Alike t.chans f g) (msg : M) (id : ChannelId) :
    (answer (g.cloneSend t msg id)).2 = (answer (f.cloneSend t msg id)).2 ∧
      Alike t.chans (answer (f.cloneSend t msg id)).1 (answer (g.cloneSend t msg id)).1 := by
  have one := cleanChannel_retained f t.chans id
  have two := cleanChannel_retained g t.chans id
  have cleaned := alike.retained one two
  have same : (g.cleanChannel t.chans id).2.senders.lookup id =
      (f.cleanChannel t.chans id).2.senders.lookup id := by
    rw [one.lookup id, two.lookup id, if_pos (List.mem_singleton_self id),
      if_pos (List.mem_singleton_self id), alike.lookup id]
  have state : (g.cleanChannel t.chans id).2.channelState id =
      (f.cleanChannel t.chans id).2.channelState id := by simp only [channelState, same]
  have senders : (g.cleanChannel t.chans id).2.sendersOf id =
      (f.cleanChannel t.chans id).2.sendersOf id := by simp only [NotifierHub.sendersOf, same]
  unfold NotifierHub.cloneSend
  dsimp only
  rw [state, senders]
  split
  · exact ⟨rfl, cleaned⟩
  · exact ⟨rfl, cleaned⟩
  · exact ⟨rfl, cleaned⟩

theorem Alike.broadcast (alike : Alike t.chans f g) (msg : M) (keys : List ChannelId) :
    (g.broadcastClone t keys msg).1 = (f.broadcastClone t keys msg).1 ∧
      (g.broadcastClone t keys msg).2.2 = (f.broadcastClone t keys msg).2.2 ∧
      Alike t.chans (f.broadcastClone t keys msg).2.1 (g.broadcastClone t keys msg).2.1 := by
  rcases broadcastClone_eq f t msg keys with ⟨f', one, same⟩
  rcases broadcastClone_eq g t msg keys with ⟨g', two, same'⟩
  rw [same, same', alike.openWrites msg keys]
  exact ⟨rfl, rfl, alike.retained one two⟩

/-- What a subscription leaves, but for the senders of the other subscriptions. -/
theorem subscribeMultiple_made (f : NotifierHub M ChannelId) (address : Nat) (t : Tables M)
    (ids : List ChannelId) (room : f.connectionId + 1 < 2 ^ 64) :
    ∃ f', Inserted { f with connectionId := f.connectionId + 1 } f' ids
        ⟨⟨f.connectionId, address⟩, t.chans.length⟩ ∧
      (f.subscribeMultiple address t ids).map Prod.snd = some (f', { t with
        chans := t.chans ++ [{ capacity := channelSize }]
        receivers := t.receivers ++ [⟨⟨f.connectionId, address⟩, t.chans.length⟩]
        notices := t.notices ++ notified f ids }) := by
  refine ⟨_, insertAll_inserted { f with connectionId := f.connectionId + 1 } { t with
    chans := t.chans ++ [{ capacity := channelSize }]
    receivers := t.receivers ++ [⟨⟨f.connectionId, address⟩, t.chans.length⟩] }
    ⟨⟨f.connectionId, address⟩, t.chans.length⟩ ids, ?_⟩
  have tables := insertAll_notices { f with connectionId := f.connectionId + 1 } { t with
    chans := t.chans ++ [{ capacity := channelSize }]
    receivers := t.receivers ++ [⟨⟨f.connectionId, address⟩, t.chans.length⟩] }
    ⟨⟨f.connectionId, address⟩, t.chans.length⟩ ids
  simp only [subscribeMultiple, openChannel, getNewId, if_pos room, Option.map_some]
  exact congrArg some (Prod.ext rfl tables)

theorem Called.room (called : Called f address t op f' t') (names : op.joins = some ids) :
    f.connectionId + 1 < 2 ^ 64 := by
  cases called with
  | joined _ room => exact room
  | left names' | swept names' => cases op <;> cases names <;> cases names'
  | awaited => cases names

theorem Alike.subscribeMultiple (alike : Alike t.chans f g) {ids : List ChannelId}
    (room : f.connectionId + 1 < 2 ^ 64)
    (made : (f.subscribeMultiple address t ids).map Prod.snd = some (f', t')) :
    ∃ g', (g.subscribeMultiple address t ids).map Prod.snd = some (g', t') ∧
      Alike t.chans f' g' := by
  rcases subscribeMultiple_made f address t ids room with ⟨f₁, one, same⟩
  rcases subscribeMultiple_made g address t ids (by rw [alike.counter]; exact room)
    with ⟨g₁, two, same'⟩
  cases made.symm.trans same
  rw [alike.counter] at two same'
  have news : notified g ids = notified f ids := notified_congr alike.creations ids
  rw [news] at same'
  refine ⟨g₁, same', Alike.inserted ?_ one two⟩
  exact ⟨rfl, alike.creations, alike.lookup⟩

theorem Alike.getCreationWaiter (alike : Alike t.chans f g) {id : ChannelId}
    (made : (f.getCreationWaiter address t id).map Prod.snd = some (f', t')) :
    ∃ g', (g.getCreationWaiter address t id).map Prod.snd = some (g', t') ∧
      Alike t.chans f' g' := by
  rcases f with ⟨counter, senders, creations⟩
  rcases g with ⟨counter', senders', creations'⟩
  have same : counter' = counter := alike.counter
  have waiters : creations' = creations := alike.creations
  subst same waiters
  unfold NotifierHub.getCreationWaiter getNewId at made ⊢
  dsimp only at made ⊢
  split at made
  next room =>
    rw [if_pos room]
    cases made
    refine ⟨_, rfl, ?_⟩
    dsimp only
    cases creations'.lookup id with
    | none => exact ⟨rfl, rfl, alike.lookup⟩
    | some waiters => exact ⟨rfl, rfl, alike.lookup⟩
  · cases made

/-- A call that only cleans. -/
def Op.cleans : Op M ChannelId → Bool
  | .cleanChannel _ | .cleanAll _ => true
  | _ => false

def Act.cleans : Act M ChannelId → Bool
  | .op op => op.cleans
  | _ => false

theorem Alike.call (alike : Alike t.chans f g) (visible : op.cleans = false)
    (made : call f address t op = some (f', t')) :
    ∃ g', NotifierHub.call g address t op = some (g', t') ∧ Alike t.chans f' g' := by
  cases op with
  | subscribe id =>
    have room := (call_cases made).room rfl
    have single : ∀ h : NotifierHub M ChannelId,
        h.subscribe address t id = h.subscribeMultiple address t [id] := fun _ => rfl
    simp only [NotifierHub.call, single] at made ⊢
    exact alike.subscribeMultiple room made
  | subscribeMultiple ids => exact alike.subscribeMultiple ((call_cases made).room rfl) made
  | unsubscribe id r =>
    rcases Option.map_eq_some_iff.mp made with ⟨receiver, held, same⟩
    rcases Prod.mk.inj same with ⟨rfl, rfl⟩
    refine ⟨(g.unsubscribe id receiver).2, by simp [NotifierHub.call, held], ?_⟩
    exact alike.retained (unsubscribe_retained f id receiver) (unsubscribe_retained g id receiver)
  | unsubscribeMultiple ids r =>
    rcases Option.map_eq_some_iff.mp made with ⟨receiver, held, same⟩
    rcases Prod.mk.inj same with ⟨rfl, rfl⟩
    refine ⟨(g.unsubscribeMultiple ids receiver).2, by simp [NotifierHub.call, held], ?_⟩
    exact alike.retained (unsubscribeMultiple_retained f ids receiver)
      (unsubscribeMultiple_retained g ids receiver)
  | unsubscribeAll r keys =>
    simp only [NotifierHub.call, Option.ite_none_right_eq_some] at made ⊢
    rcases made with ⟨lists, made⟩
    rcases Option.map_eq_some_iff.mp made with ⟨receiver, held, same⟩
    rcases Prod.mk.inj same with ⟨rfl, rfl⟩
    refine ⟨(g.unsubscribeAll keys receiver).2, ⟨alike.lists lists, by simp [held]⟩, ?_⟩
    exact alike.retained (unsubscribeAll_retained f keys receiver)
      (unsubscribeAll_retained g keys receiver)
  | cleanChannel | cleanAll => cases visible
  | cloneSend msg id | arcSend msg id =>
    have answered : answer (f.cloneSend t msg id) = (f', t') := Option.some.inj made
    rcases alike.cloneSend msg id with ⟨tables, hubs⟩
    rw [answered] at tables hubs
    exact ⟨_, congrArg some (Prod.ext rfl tables), hubs⟩
  | broadcastClone msg keys | broadcastArc msg keys =>
    simp only [NotifierHub.call, Option.ite_none_right_eq_some] at made ⊢
    rcases made with ⟨lists, made⟩
    rcases Prod.mk.inj (Option.some.inj made) with ⟨rfl, rfl⟩
    rcases alike.broadcast msg keys with ⟨handler, tables, hubs⟩
    refine ⟨_, ⟨alike.lists lists, congrArg some (Prod.ext rfl ?_)⟩, hubs⟩
    exact congrArg₂ Tables.hand tables handler
  | getCreationWaiter id => exact alike.getCreationWaiter made

theorem Alike.cleaning (alike : Alike t.chans f g) (cleans : op.cleans = true)
    (made : NotifierHub.call f address t op = some (f', t')) : t' = t ∧ Alike t.chans f' g := by
  cases op with
  | cleanChannel id =>
    cases made
    exact ⟨rfl, alike.cleaned (cleanChannel_retained f t.chans id)⟩
  | cleanAll keys =>
    simp only [NotifierHub.call, Option.ite_none_right_eq_some] at made
    rcases made with ⟨-, made⟩
    cases made
    exact ⟨rfl, alike.cleaned (cleanAll_retained f t.chans keys)⟩
  | _ => cases cleans

end Cleaned

namespace Config

variable {M ChannelId : Type} [DecidableEq ChannelId] {s s' t : Config M ChannelId}
  {a : Act M ChannelId} {trace : List (Config M ChannelId × Act M ChannelId)} {address : Nat}

/-- The states differ in nothing but senders of closed channels. -/
structure Matches (s t : Config M ChannelId) : Prop where
  tables : t.toTables = s.toTables
  address : t.address = s.address
  hub : Alike s.chans s.hub t.hub

theorem closed_called {f f' : NotifierHub M ChannelId} {t t' : Tables M} {op : Op M ChannelId}
    (made : call f address t op = some (f', t')) (r : Nat)
    (closed : (t.chans[r]?).any Chan.closed = true) : (t'.chans[r]?).any Chan.closed = true := by
  rcases writes_called (call_cases made) with ⟨_, -, -, -, kept⟩
  exact kept r closed

theorem Matches.step (same : Matches s t) (visible : a.cleans = false)
    (taken : s.step a = some s') : ∃ t', t.step a = some t' ∧ Matches s' t' := by
  rcases s with ⟨tables, hub, home⟩
  rcases t with ⟨tables', hub', home'⟩
  rcases same with ⟨rfl, rfl, alike⟩
  dsimp only at alike
  cases step_cases taken with
  | called made =>
    rcases alike.call visible made with ⟨g', made', alike'⟩
    refine ⟨_, congrArg (Option.map _) made', rfl, rfl, ?_⟩
    exact alike'.later (closed_called made)
  | moved => exact ⟨_, rfl, rfl, rfl, alike⟩
  | happened happened =>
    refine ⟨_, congrArg (Option.map _) happened, rfl, rfl, ?_⟩
    exact alike.later fun r closed => closed_happened (event_cases happened) closed

theorem Matches.skip (same : Matches s t) (cleans : a.cleans = true) (taken : s.step a = some s') :
    Matches s' t := by
  cases step_cases taken with
  | called made =>
    rcases same.hub.cleaning cleans made with ⟨rfl, alike⟩
    exact ⟨same.tables, same.address, alike⟩
  | moved | happened => cases cleans

theorem subscribed_open {r : Nat} {receiver : MessageReceiver} {id : ChannelId}
    (wired : Wired s.hub s.toTables) (held : s.receivers[r]? = some receiver)
    (opened : ¬ s.Closed r) : s.hub.isSubscribed id receiver = true ↔
      ∃ sender ∈ (s.hub.sendersOf id).filter fun sender => !sender.isClosed s.chans,
        sender.sender = r := by
  rw [wired.isSubscribed held]
  constructor
  · intro given
    rcases given with ⟨sender, member, rfl⟩
    have live : (!sender.isClosed s.chans) = true := by simpa [Closed, Sender.isClosed] using opened
    exact ⟨sender, List.mem_filter.mpr ⟨member, live⟩, rfl⟩
  · intro given
    rcases given with ⟨sender, member, same⟩
    exact ⟨sender, List.mem_of_mem_filter member, same⟩

/-- Cleaning is never seen: without its cleaning calls a run has the same channels, the same writing
    tasks and the same results of `wait`, and subscribes the same open receivers. -/
theorem cleaning_unseen (run : Run step (Config.new address) trace s) :
    ∃ trace' t, Run step (Config.new address) trace' t ∧
      trace'.map Prod.snd = (trace.map Prod.snd).filter (fun a => !a.cleans) ∧
      t.toTables = s.toTables ∧
      (∀ id, (t.hub.sendersOf id).filter (fun sender => !sender.isClosed s.chans) =
        (s.hub.sendersOf id).filter fun sender => !sender.isClosed s.chans) ∧
      ∀ (r : Nat) receiver id, s.receivers[r]? = some receiver → ¬ s.Closed r →
        t.hub.isSubscribed id receiver = s.hub.isSubscribed id receiver := by
  have start : Matches (Config.new address : Config M ChannelId) (Config.new address) :=
    ⟨rfl, rfl, rfl, rfl, fun _ => rfl⟩
  have matched : ∀ (u : Config M ChannelId) a u' v, Matches u v → (!a.cleans) = true →
      u.step a = some u' → ∃ v', v.step a = some v' ∧ Matches u' v' :=
    fun u a u' v same visible taken => same.step (by simpa using visible) taken
  have skipped : ∀ (u : Config M ChannelId) a u' v, Matches u v → (!a.cleans) = false →
      u.step a = some u' → Matches u' v :=
    fun u a u' v same hidden taken => same.skip (by simpa using hidden) taken
  rcases erased matched skipped run start with ⟨trace', t, run', same, acts⟩
  refine ⟨trace', t, run', acts, same.tables, same.hub.sendersOf, ?_⟩
  intro r receiver id held opened
  have held' : t.receivers[r]? = some receiver := by rw [same.tables, held]
  have opened' : ¬ t.Closed r := by
    unfold Closed
    rw [same.tables]
    exact opened
  have senders := same.hub.sendersOf id
  rw [Bool.eq_iff_iff, subscribed_open (wired_run run) held opened,
    subscribed_open (wired_run run') held' opened', same.tables, senders]

/-- The first of two receivers is closed, and the hub cleaned before the next message. -/
def cleansBetween : List (Act Nat Nat) :=
  [.op (.subscribe 1), .op (.subscribe 1), .event (.close 0), .op (.cleanAll [1]),
    .op (.cloneSend 5 1), .event (.write 0)]

theorem cleaning_unseen_between :
    ∃ s trace' t, exec step (Config.new 7) cleansBetween = some s ∧
      Run step (Config.new 7) trace' t ∧ trace'.map Prod.snd = [.op (.subscribe 1),
        .op (.subscribe 1), .event (.close 0), .op (.cloneSend 5 1), .event (.write 0)] ∧
      t.toTables = s.toTables := by
  obtain ⟨s, done, acts⟩ : ∃ s : Config Nat Nat, exec step (Config.new 7) cleansBetween = some s ∧
      ((traceOf step (Config.new 7) cleansBetween).map Prod.snd).filter (fun a => !a.cleans) =
        [.op (.subscribe 1), .op (.subscribe 1), .event (.close 0), .op (.cloneSend 5 1),
          .event (.write 0)] := ⟨_, rfl, by decide⟩
  rcases cleaning_unseen (run_of_exec _ done) with ⟨trace', t, run, same, tables, -⟩
  exact ⟨s, trace', t, done, run, same.trans acts, tables⟩

end Config

section Handlers

variable {M ChannelId : Type} [DecidableEq ChannelId] {f f' f'' : NotifierHub M ChannelId}
  {t t' : Tables M} {ids : List ChannelId} {sender : MessageSender} {address : Nat}
  {op : Op M ChannelId} {e : Event}

theorem Inserted.same_hub (one : Inserted f f' ids sender) (two : Inserted f f'' ids sender) :
    f' = f'' := by
  have senders : f'.senders = f''.senders := by
    apply Finmap.ext_lookup
    intro id
    rw [one.lookup, two.lookup]
  rcases f' with ⟨counter', senders', creations'⟩
  rcases f'' with ⟨counter'', senders'', creations''⟩
  have counter : counter' = counter'' := one.counter.trans two.counter.symm
  have creations : creations' = creations'' := one.creations.trans two.creations.symm
  subst counter senders creations
  rfl

theorem subscribeMultiple_handlings (handlings : List (Handling M))
    (room : f.connectionId + 1 < 2 ^ 64)
    (made : (f.subscribeMultiple address t ids).map Prod.snd = some (f', t')) :
    (f.subscribeMultiple address { t with handlings } ids).map Prod.snd =
      some (f', { t' with handlings }) := by
  rcases subscribeMultiple_made f address t ids room with ⟨f₁, one, same⟩
  rcases subscribeMultiple_made f address { t with handlings } ids room with ⟨f₂, two, same'⟩
  cases made.symm.trans same
  obtain rfl := one.same_hub two
  exact same'

theorem cloneSend_unread (f : NotifierHub M ChannelId) (t : Tables M) (msg : M) (id : ChannelId)
    (handlings : List (Handling M)) : ∃ handlings',
      answer (f.cloneSend { t with handlings } msg id) = ((answer (f.cloneSend t msg id)).1,
        { (answer (f.cloneSend t msg id)).2 with handlings := handlings' }) := by
  unfold NotifierHub.cloneSend
  dsimp only
  split
  · exact ⟨_, rfl⟩
  · exact ⟨_, rfl⟩
  · exact ⟨_, rfl⟩

/-- A call does not read what became of the handlers. -/
theorem call_handlings (handlings : List (Handling M))
    (made : call f address t op = some (f', t')) : ∃ handlings',
      call f address { t with handlings } op = some (f', { t' with handlings := handlings' }) := by
  cases op with
  | subscribe id =>
    have room := (call_cases made).room rfl
    have single : ∀ t : Tables M,
        f.subscribe address t id = f.subscribeMultiple address t [id] := fun _ => rfl
    simp only [call, single] at made ⊢
    exact ⟨_, subscribeMultiple_handlings handlings room made⟩
  | subscribeMultiple ids =>
    exact ⟨_, subscribeMultiple_handlings handlings ((call_cases made).room rfl) made⟩
  | unsubscribe id r | unsubscribeMultiple ids r =>
    rcases Option.map_eq_some_iff.mp made with ⟨receiver, held, same⟩
    rcases Prod.mk.inj same with ⟨rfl, rfl⟩
    exact ⟨handlings, by simp [call, held]⟩
  | unsubscribeAll r keys =>
    simp only [call, Option.ite_none_right_eq_some] at made ⊢
    rcases made with ⟨lists, made⟩
    rcases Option.map_eq_some_iff.mp made with ⟨receiver, held, same⟩
    rcases Prod.mk.inj same with ⟨rfl, rfl⟩
    exact ⟨handlings, lists, by simp [held]⟩
  | cleanChannel id =>
    cases made
    exact ⟨handlings, rfl⟩
  | cleanAll keys | broadcastClone msg keys | broadcastArc msg keys =>
    simp only [call, Option.ite_none_right_eq_some] at made ⊢
    rcases made with ⟨lists, made⟩
    cases made
    exact ⟨_, lists, rfl⟩
  | cloneSend msg id | arcSend msg id =>
    have answered : answer (f.cloneSend t msg id) = (f', t') := Option.some.inj made
    rcases cloneSend_unread f t msg id handlings with ⟨handlings', same⟩
    rw [answered] at same
    exact ⟨handlings', congrArg some same⟩
  | getCreationWaiter id =>
    unfold call NotifierHub.getCreationWaiter getNewId at made ⊢
    dsimp only at made ⊢
    split at made
    next room =>
      cases made
      refine ⟨handlings, ?_⟩
      rw [if_pos room]
      rfl
    · cases made

/-- What a user does with a handler. -/
def Act.handles : Act M ChannelId → Bool
  | .event (.wait _ _) | .event (.poll _) | .event (.timeout _) | .event (.dropHandler _) => true
  | _ => false

omit [DecidableEq ChannelId] in
theorem event_handlings (handlings : List (Handling M))
    (visible : (.event e : Act M ChannelId).handles = false) (taken : t.step e = some t') :
    Tables.step { t with handlings } e = some { t' with handlings } := by
  cases e with
  | write | notice | receive | receiveNotice =>
    rcases Option.map_eq_some_iff.mp taken with ⟨_, ended, rfl⟩
    simp [Tables.step, ended]
  | close | closeWaiter =>
    cases taken
    rfl
  | wait | poll | timeout | dropHandler => cases visible

end Handlers

namespace Config

variable {M ChannelId : Type} [DecidableEq ChannelId] {s s' t : Config M ChannelId}
  {a : Act M ChannelId} {trace : List (Config M ChannelId × Act M ChannelId)} {address : Nat}

/-- The second state is the first one with other handlings. -/
def Rehandled (s t : Config M ChannelId) : Prop :=
  ∃ handlings, t = { s with handlings }

theorem Rehandled.step (same : Rehandled s t) (visible : a.handles = false)
    (taken : s.step a = some s') : ∃ t', t.step a = some t' ∧ Rehandled s' t' := by
  rcases same with ⟨handlings, rfl⟩
  cases step_cases taken with
  | called made =>
    rcases call_handlings handlings made with ⟨handlings', made'⟩
    exact ⟨_, congrArg (Option.map _) made', handlings', rfl⟩
  | moved => exact ⟨_, rfl, handlings, rfl⟩
  | happened happened =>
    exact ⟨_, congrArg (Option.map _) (event_handlings handlings visible happened), handlings, rfl⟩

theorem Rehandled.skip (same : Rehandled s t) (handles : a.handles = true)
    (taken : s.step a = some s') : Rehandled s' t := by
  rcases same with ⟨handlings, rfl⟩
  cases step_cases taken with
  | called | moved => cases handles
  | @happened e _ happened =>
    cases e with
    | wait | poll | timeout | dropHandler =>
      rcases handle_some happened with ⟨handlings', rfl⟩
      exact ⟨handlings, rfl⟩
    | _ => cases handles

/-- What becomes of the handlers is never seen by the hub: a run goes the same way if none of them
    is waited on or dropped, and every message is written as it was. -/
theorem handlers_unseen (run : Run step (Config.new address) trace s) :
    ∃ trace' handlings, Run step (Config.new address) trace' { s with handlings } ∧
      trace'.map Prod.snd = (trace.map Prod.snd).filter fun a => !a.handles := by
  have start : Rehandled (Config.new address : Config M ChannelId) (Config.new address) :=
    ⟨[], rfl⟩
  have matched : ∀ (u : Config M ChannelId) a u' v, Rehandled u v → (!a.handles) = true →
      u.step a = some u' → ∃ v', v.step a = some v' ∧ Rehandled u' v' :=
    fun u a u' v same visible taken => same.step (by simpa using visible) taken
  have skipped : ∀ (u : Config M ChannelId) a u' v, Rehandled u v → (!a.handles) = false →
      u.step a = some u' → Rehandled u' v :=
    fun u a u' v same hidden taken => same.skip (by simpa using hidden) taken
  rcases erased matched skipped run start with ⟨trace', t, run', ⟨handlings, rfl⟩, acts⟩
  exact ⟨trace', handlings, run', acts⟩

/-- One handler is waited on until the time is over, and another one is dropped. -/
def dropsHandlers : List (Act Nat Nat) :=
  [.op (.subscribe 1), .op (.cloneSend 5 1), .event (.wait 0 (some 3)), .event (.timeout 0),
    .op (.cloneSend 6 1), .event (.dropHandler 1), .event (.write 1), .event (.write 0)]

theorem handlers_unseen_dropped :
    ∃ s trace' handlings, exec step (Config.new 7) dropsHandlers = some s ∧
      Run step (Config.new 7) trace' { s with handlings } ∧
      trace'.map Prod.snd = [.op (.subscribe 1), .op (.cloneSend 5 1), .op (.cloneSend 6 1),
        .event (.write 1), .event (.write 0)] := by
  obtain ⟨s, done, acts⟩ : ∃ s : Config Nat Nat, exec step (Config.new 7) dropsHandlers = some s ∧
      ((traceOf step (Config.new 7) dropsHandlers).map Prod.snd).filter (fun a => !a.handles) =
        [.op (.subscribe 1), .op (.cloneSend 5 1), .op (.cloneSend 6 1), .event (.write 1),
          .event (.write 0)] := ⟨_, rfl, by decide⟩
  rcases handlers_unseen (run_of_exec _ done) with ⟨trace', handlings, run, same⟩
  exact ⟨s, trace', handlings, done, run, same.trans acts⟩

end Config

end AsyncForge.NotifierHub
