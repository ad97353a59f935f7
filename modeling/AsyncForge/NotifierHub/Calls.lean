import AsyncForge.NotifierHub.System

/-! What a call can do: it opens a channel, drops the senders bound to a receiver, drops the closed
    senders and spawns writings, or opens a notification channel. -/

namespace AsyncForge.NotifierHub

open AsyncForge.Channels AsyncForge.SmartChannel AsyncForge.NotifierHub.WritingHandler

variable {M ChannelId : Type}

namespace Op

/-- The channels a new receiver is subscribed to. -/
def joins : Op M ChannelId → Option (List ChannelId)
  | .subscribe id => some [id]
  | .subscribeMultiple ids => some ids
  | _ => none

/-- The receiver that is unsubscribed, and the channels it is unsubscribed from. -/
def leaves : Op M ChannelId → Option (Nat × List ChannelId)
  | .unsubscribe id receiver => some (receiver, [id])
  | .unsubscribeMultiple ids receiver => some (receiver, ids)
  | .unsubscribeAll receiver keys => some (receiver, keys)
  | _ => none

/-- The channels that are cleaned, and the message that is sent on them after it. -/
def sweeps : Op M ChannelId → Option (List ChannelId × Option M)
  | .cleanChannel id => some ([id], none)
  | .cleanAll keys => some (keys, none)
  | .cloneSend msg id => some ([id], some msg)
  | .arcSend msg id => some ([id], some msg)
  | .broadcastClone msg keys => some (keys, some msg)
  | .broadcastArc msg keys => some (keys, some msg)
  | _ => none

/-- The order of the channels, for a call that goes through all of them. -/
def listing : Op M ChannelId → Option (List ChannelId)
  | .unsubscribeAll _ keys | .cleanAll keys | .broadcastClone _ keys | .broadcastArc _ keys =>
    some keys
  | _ => none

end Op

variable [DecidableEq ChannelId]

def spawned (f : NotifierHub M ChannelId) (keys : List ChannelId) : Option M → List (Writing M)
  | some msg => (keys.flatMap f.sendersOf).map fun sender => getHandler sender msg
  | none => []

inductive Called (f : NotifierHub M ChannelId) (address : Nat) (t : Tables M) :
    Op M ChannelId → NotifierHub M ChannelId → Tables M → Prop
  | joined {op : Op M ChannelId} {ids : List ChannelId} {f' : NotifierHub M ChannelId}
      {notices : List (Writing Unit)} (names : op.joins = some ids)
      (room : f.connectionId + 1 < 2 ^ 64)
      (inserted : Inserted { f with connectionId := f.connectionId + 1 } f' ids
        ⟨⟨f.connectionId, address⟩, t.chans.length⟩) :
      Called f address t op f' { t with
        chans := t.chans ++ [{ capacity := channelSize }]
        receivers := t.receivers ++ [⟨⟨f.connectionId, address⟩, t.chans.length⟩]
        notices }
  | left {op : Op M ChannelId} {r : Nat} {ids : List ChannelId} {receiver : MessageReceiver}
      {f' : NotifierHub M ChannelId} (names : op.leaves = some (r, ids))
      (lists : ∀ keys, op.listing = some keys → Lists f keys)
      (held : t.receivers[r]? = some receiver)
      (retained : Retained f f' ids fun s => !s.isBoundTo receiver) : Called f address t op f' t
  | swept {op : Op M ChannelId} {ids : List ChannelId} {msg : Option M}
      {f' : NotifierHub M ChannelId} {handlings : List (Handling M)}
      (names : op.sweeps = some (ids, msg))
      (lists : ∀ keys, op.listing = some keys → Lists f keys)
      (retained : Retained f f' ids fun s => !s.isClosed t.chans) :
      Called f address t op f' { t with writes := t.writes ++ spawned f' ids msg, handlings }
  | awaited {id : ChannelId} {f' : NotifierHub M ChannelId} (room : f.connectionId + 1 < 2 ^ 64)
      (counter : f'.connectionId = f.connectionId + 1) (senders : f'.senders = f.senders) :
      Called f address t (.getCreationWaiter id) f' { t with
        waits := t.waits ++ [{ capacity := notifierChannelSize }]
        waiters := t.waiters ++ [⟨⟨f.connectionId, address⟩, t.waits.length⟩] }

omit [DecidableEq ChannelId] in
theorem openChannel_some {f f' : NotifierHub M ChannelId} {address : Nat} {t t' : Tables M}
    {sender : MessageSender} {receiver : MessageReceiver}
    (opened : f.openChannel address t = some (sender, receiver, f', t')) :
    f.connectionId + 1 < 2 ^ 64 ∧ f' = { f with connectionId := f.connectionId + 1 } ∧
      sender = ⟨⟨f.connectionId, address⟩, t.chans.length⟩ ∧ t' = { t with
        chans := t.chans ++ [{ capacity := channelSize }]
        receivers := t.receivers ++ [⟨⟨f.connectionId, address⟩, t.chans.length⟩] } := by
  unfold openChannel getNewId at opened
  split at opened
  next room =>
    simp only [Option.map_some, Option.some.injEq, Prod.mk.injEq] at opened
    rcases opened with ⟨rfl, rfl, rfl, rfl⟩
    exact ⟨room, rfl, rfl, rfl⟩
  · cases opened

theorem insertAll_tables (f : NotifierHub M ChannelId) (t : Tables M) (sender : MessageSender)
    (ids : List ChannelId) : ∃ notices,
      (ids.foldl (fun r id => r.1.insertSender r.2 sender id) (f, t)).2 = { t with notices } := by
  induction ids generalizing f t with
  | nil => exact ⟨t.notices, rfl⟩
  | cons id ids ih =>
    rcases ih (f.insertSender t sender id).1 (f.insertSender t sender id).2 with ⟨notices, same⟩
    exact ⟨notices, same⟩

theorem subscribeMultiple_called {f f' : NotifierHub M ChannelId} {address : Nat} {t t' : Tables M}
    {op : Op M ChannelId} {ids : List ChannelId} (names : op.joins = some ids)
    (made : (f.subscribeMultiple address t ids).map Prod.snd = some (f', t')) :
    Called f address t op f' t' := by
  unfold subscribeMultiple at made
  rw [Option.map_map] at made
  rcases Option.map_eq_some_iff.mp made with ⟨⟨sender, receiver, f₁, t₁⟩, opened, same⟩
  rcases openChannel_some opened with ⟨room, rfl, rfl, rfl⟩
  have inserted := insertAll_inserted { f with connectionId := f.connectionId + 1 } { t with
    chans := t.chans ++ [{ capacity := channelSize }]
    receivers := t.receivers ++ [⟨⟨f.connectionId, address⟩, t.chans.length⟩] }
    ⟨⟨f.connectionId, address⟩, t.chans.length⟩ ids
  obtain ⟨notices, tables⟩ := insertAll_tables
    { f with connectionId := f.connectionId + 1 } { t with
    chans := t.chans ++ [{ capacity := channelSize }]
    receivers := t.receivers ++ [⟨⟨f.connectionId, address⟩, t.chans.length⟩] }
    ⟨⟨f.connectionId, address⟩, t.chans.length⟩ ids
  rcases Prod.mk.inj same with ⟨rfl, rfl⟩
  dsimp only at tables inserted ⊢
  rw [tables]
  exact .joined names room inserted

theorem clean_called {f f' : NotifierHub M ChannelId} {address : Nat} {t : Tables M}
    {op : Op M ChannelId} {ids : List ChannelId} (names : op.sweeps = some (ids, none))
    (lists : ∀ keys, op.listing = some keys → Lists f keys)
    (retained : Retained f f' ids fun s => !s.isClosed t.chans) : Called f address t op f' t := by
  have swept : Called f address t op f' { t with
      writes := t.writes ++ spawned f' ids none, handlings := t.handlings } :=
    .swept names lists retained
  simpa [spawned] using swept

theorem send_called {f f' : NotifierHub M ChannelId} {address : Nat} {t t' : Tables M}
    {op : Op M ChannelId} {msg : M} {id : ChannelId} (names : op.sweeps = some ([id], some msg))
    (unlisted : op.listing = none) (made : answer (f.cloneSend t msg id) = (f', t')) :
    Called f address t op f' t' := by
  have retained := cleanChannel_retained f t.chans id
  have swept : ∀ handlings, Called f address t op (f.cleanChannel t.chans id).2 { t with
      writes := t.writes ++ spawned (f.cleanChannel t.chans id).2 [id] (some msg), handlings } :=
    fun handlings => .swept names (by simp [unlisted]) retained
  unfold cloneSend at made
  dsimp only at made
  split at made
  · rcases Prod.mk.inj made with ⟨rfl, rfl⟩
    simpa [spawned, newCloningBroadcast, Tables.hand] using swept _
  next none =>
    rcases Prod.mk.inj made with ⟨rfl, rfl⟩
    simpa [spawned, NotifierHub.sendersOf, channelState_over.mp none, Tables.hand] using swept _
  next missing =>
    rcases Prod.mk.inj made with ⟨rfl, rfl⟩
    simpa [spawned, NotifierHub.sendersOf, channelState_uninitialised.mp missing]
      using swept t.handlings

theorem broadcast_called {f : NotifierHub M ChannelId} {address : Nat} {t : Tables M}
    {op : Op M ChannelId} {msg : M} {keys : List ChannelId}
    (names : op.sweeps = some (keys, some msg)) (listed : op.listing = some keys)
    (lists : Lists f keys) :
    Called f address t op (f.broadcastClone t keys msg).2.1
      ((f.broadcastClone t keys msg).2.2.hand (f.broadcastClone t keys msg).1) :=
  .swept names (by simpa [listed] using lists) (cleanAll_retained f t.chans keys)

theorem call_cases {f f' : NotifierHub M ChannelId} {address : Nat} {t t' : Tables M}
    {op : Op M ChannelId} (made : call f address t op = some (f', t')) :
    Called f address t op f' t' := by
  cases op with
  | subscribe id =>
    have single : f.subscribe address t id = f.subscribeMultiple address t [id] := rfl
    simp only [call, single] at made
    exact subscribeMultiple_called rfl made
  | subscribeMultiple ids => exact subscribeMultiple_called rfl made
  | unsubscribe id r =>
    rcases Option.map_eq_some_iff.mp made with ⟨receiver, held, same⟩
    rcases Prod.mk.inj same with ⟨rfl, rfl⟩
    exact .left rfl nofun held (unsubscribe_retained f id receiver)
  | unsubscribeMultiple ids r =>
    rcases Option.map_eq_some_iff.mp made with ⟨receiver, held, same⟩
    rcases Prod.mk.inj same with ⟨rfl, rfl⟩
    exact .left rfl nofun held (unsubscribeMultiple_retained f ids receiver)
  | unsubscribeAll r keys =>
    simp only [call, Option.ite_none_right_eq_some] at made
    rcases made with ⟨lists, made⟩
    rcases Option.map_eq_some_iff.mp made with ⟨receiver, held, same⟩
    rcases Prod.mk.inj same with ⟨rfl, rfl⟩
    exact .left rfl (by simpa [Op.listing] using lists) held
      (unsubscribeAll_retained f keys receiver)
  | cleanChannel id =>
    rcases Prod.mk.inj (Option.some.inj made) with ⟨rfl, rfl⟩
    exact clean_called rfl nofun (cleanChannel_retained f t.chans id)
  | cleanAll keys =>
    simp only [call, Option.ite_none_right_eq_some, Option.some.injEq, Prod.mk.injEq] at made
    rcases made with ⟨lists, rfl, rfl⟩
    exact clean_called rfl (by simpa [Op.listing] using lists) (cleanAll_retained f t.chans keys)
  | cloneSend msg id => exact send_called rfl rfl (Option.some.inj made)
  | arcSend msg id => exact send_called rfl rfl (Option.some.inj made)
  | broadcastClone msg keys =>
    simp only [call, Option.ite_none_right_eq_some, Option.some.injEq] at made
    rcases made with ⟨lists, made⟩
    rcases Prod.mk.inj made with ⟨rfl, rfl⟩
    exact broadcast_called rfl rfl lists
  | broadcastArc msg keys =>
    simp only [call, Option.ite_none_right_eq_some, Option.some.injEq] at made
    rcases made with ⟨lists, made⟩
    rcases Prod.mk.inj made with ⟨rfl, rfl⟩
    exact broadcast_called rfl rfl lists
  | getCreationWaiter id =>
    simp only [call, getCreationWaiter, getNewId] at made
    split at made
    next room =>
      simp only [Option.map_some, Option.some.injEq, Prod.mk.injEq] at made
      rcases made with ⟨rfl, rfl⟩
      refine .awaited room ?_ ?_
      · split <;> rfl
      · split <;> rfl
    · cases made

section Events

omit [DecidableEq ChannelId]

theorem finish_some {chans chans' : List (Chan M)} {writes writes' : List (Writing M)} {i : Nat}
    (finished : finish chans writes i = some (chans', writes')) :
    ∃ w chan, writes[i]? = some w ∧ w.result = none ∧ chans[w.sender.sender]? = some chan ∧
      ((chan.closed = true ∧ chans' = chans ∧
          writes' = writes.modify i fun w => { w with result := some (.error ⟨w.msg⟩) }) ∨
        (chan.closed = false ∧ chan.full = false ∧
          chans' = chans.modify w.sender.sender (·.push w.msg) ∧
          writes' = writes.modify i fun w => { w with result := some (.ok ()) })) := by
  unfold finish at finished
  split at finished
  next sender msg pending =>
    split at finished
    next chan found =>
      split at finished
      next closed =>
        rcases Prod.mk.inj (Option.some.inj finished) with ⟨rfl, rfl⟩
        refine ⟨_, chan, pending, rfl, found, .inl ⟨closed, rfl, ?_⟩⟩
        apply List.ext_getElem?
        intro j
        by_cases same : i = j
        · subst same
          simp [pending]
        · simp [List.getElem?_modify_ne _ _ same]
      next opened =>
        split at finished
        · cases finished
        next room =>
          rcases Prod.mk.inj (Option.some.inj finished) with ⟨rfl, rfl⟩
          exact ⟨_, chan, pending, rfl, found, .inr ⟨by simpa using opened, by simpa using room,
            rfl, rfl⟩⟩
    · cases finished
  · cases finished

theorem handle_some {t t' : Tables M} {i : Nat} {next : Handling M → Option (Handling M)}
    (handled : t.handle i next = some t') : ∃ handlings, t' = { t with handlings } := by
  rcases Option.map_eq_some_iff.mp handled with ⟨h, -, rfl⟩
  exact ⟨_, rfl⟩

inductive Happened (t : Tables M) : Event → Tables M → Prop
  | failed {i : Nat} {w : Writing M} {chan : Chan M} (found : t.writes[i]? = some w)
      (pending : w.result = none) (place : t.chans[w.sender.sender]? = some chan)
      (closed : chan.closed = true) : Happened t (.write i) { t with
        writes := t.writes.modify i fun w => { w with result := some (.error ⟨w.msg⟩) } }
  | written {i : Nat} {w : Writing M} {chan : Chan M} (found : t.writes[i]? = some w)
      (pending : w.result = none) (place : t.chans[w.sender.sender]? = some chan)
      (opened : chan.closed = false) (room : chan.full = false) : Happened t (.write i) { t with
        chans := t.chans.modify w.sender.sender (·.push w.msg)
        writes := t.writes.modify i fun w => { w with result := some (.ok ()) } }
  | received {r : Nat} : Happened t (.receive r) { t with chans := t.chans.modify r Chan.pop }
  | closed {r : Nat} : Happened t (.close r) { t with chans := t.chans.modify r Chan.close }
  | aside {e : Event} {waits : List (Chan Unit)} {notices : List (Writing Unit)}
      {handlings : List (Handling M)} : Happened t e { t with waits, notices, handlings }

theorem event_cases {t t' : Tables M} {e : Event} (taken : t.step e = some t') :
    Happened t e t' := by
  cases e with
  | write i =>
    rcases Option.map_eq_some_iff.mp taken with ⟨⟨chans, writes⟩, finished, rfl⟩
    obtain ⟨w, chan, found, pending, place, ⟨closed, rfl, rfl⟩ | ⟨opened, room, rfl, rfl⟩⟩ :=
      finish_some finished
    · exact .failed found pending place closed
    · exact .written found pending place opened room
  | notice i =>
    rcases Option.map_eq_some_iff.mp taken with ⟨pair, -, rfl⟩
    exact .aside
  | receive r =>
    rcases Option.map_eq_some_iff.mp taken with ⟨chans, received, rfl⟩
    obtain rfl := receiveAt_some received
    exact .received
  | close r =>
    cases taken
    exact .closed
  | receiveNotice w =>
    rcases Option.map_eq_some_iff.mp taken with ⟨waits, -, rfl⟩
    exact .aside
  | closeWaiter w =>
    cases taken
    exact .aside
  | wait | poll | timeout | dropHandler =>
    rcases handle_some taken with ⟨handlings, rfl⟩
    exact .aside

theorem step_tables {t t' : Tables M} {e : Event} (taken : t.step e = some t') :
    t'.receivers = t.receivers ∧ t'.waiters = t.waiters ∧ t'.chans.length = t.chans.length := by
  cases event_cases taken <;> simp

end Events

namespace Config

/-- A step is a call, a move of the hub, or an event beside it. -/
inductive Stepped (s : Config M ChannelId) : Act M ChannelId → Config M ChannelId → Prop
  | called {op : Op M ChannelId} {hub : NotifierHub M ChannelId} {t : Tables M}
      (made : call s.hub s.address s.toTables op = some (hub, t)) :
      Stepped s (.op op) { s with toTables := t, hub }
  | moved {address : Nat} : Stepped s (.move address) { s with address }
  | happened {e : Event} {t : Tables M} (happened : s.toTables.step e = some t) :
      Stepped s (.event e) { s with toTables := t }

theorem step_cases {s s' : Config M ChannelId} {a : Act M ChannelId} (taken : s.step a = some s') :
    Stepped s a s' := by
  cases a with
  | op op =>
    rcases Option.map_eq_some_iff.mp taken with ⟨⟨hub, t⟩, made, rfl⟩
    exact .called made
  | move address =>
    cases taken
    exact .moved
  | event e =>
    rcases Option.map_eq_some_iff.mp taken with ⟨t, happened, rfl⟩
    exact .happened happened

end Config

end AsyncForge.NotifierHub
