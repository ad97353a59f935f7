import AsyncForge.Lib.Runs
import AsyncForge.NotifierHub.Methods

/-! One hub with its users and the writing tasks it spawns, as a guarded step function. -/

namespace AsyncForge.NotifierHub

open AsyncForge.Channels AsyncForge.Runs AsyncForge.SmartChannel

/-- A call of a method of the hub. A receiver is the place of its channel; `keys` is the order in
    which the map lists its channels. -/
inductive Op (M ChannelId : Type)
  | subscribe (id : ChannelId)
  | subscribeMultiple (ids : List ChannelId)
  | unsubscribe (id : ChannelId) (receiver : Nat)
  | unsubscribeMultiple (ids : List ChannelId) (receiver : Nat)
  | unsubscribeAll (receiver : Nat) (keys : List ChannelId)
  | cleanChannel (id : ChannelId)
  | cleanAll (keys : List ChannelId)
  | cloneSend (msg : M) (id : ChannelId)
  | arcSend (msg : M) (id : ChannelId)
  | broadcastClone (msg : M) (keys : List ChannelId)
  | broadcastArc (msg : M) (keys : List ChannelId)
  | getCreationWaiter (id : ChannelId)
  deriving DecidableEq

inductive Event
  -- A pending writing task gets its slot, or finds its channel closed.
  | write (i : Nat)
  | notice (i : Nat)
  | receive (receiver : Nat)
  -- A receiver is closed or dropped.
  | close (receiver : Nat)
  | receiveNotice (waiter : Nat)
  | closeWaiter (waiter : Nat)
  -- A call of `wait` on a handler, a turn of its loop, and one that ends by the timeout.
  | wait (handler : Nat) (duration : Option Duration)
  | poll (handler : Nat)
  | timeout (handler : Nat)
  -- A handler or a call of `wait` is dropped.
  | dropHandler (handler : Nat)
  deriving DecidableEq

section Steps

variable {M ChannelId : Type}

/-- The end of a writing task: a bounded send waits while the buffer is full. -/
def finish (chans : List (Chan M)) (writes : List (Writing M)) (i : Nat) :
    Option (List (Chan M) × List (Writing M)) :=
  match writes[i]? with
  | some ⟨sender, msg, none⟩ =>
    match chans[sender.sender]? with
    | some chan =>
      if chan.closed then
        some (chans, writes.modify i fun w => { w with result := some (.error ⟨msg⟩) })
      else if chan.full then none
      else
        some (chans.modify sender.sender (·.push msg),
          writes.modify i fun w => { w with result := some (.ok ()) })
    | none => none
  | _ => none

namespace Handling

def wait (duration : Option Duration) : Handling M → Option (Handling M)
  | held handler => some (waiting handler.len duration handler.handlers [])
  | _ => none

def resume (n : Nat) (duration : Option Duration) (left : List Nat) :
    Except (NotifierError M Unit) (List (NotifierError M Unit)) → Handling M
  | .ok errors => waiting n duration left errors
  | .error e => returned (.error e)

/-- The next task is over, or there is none left. -/
def poll (writes : List (Writing M)) : Handling M → Option (Handling M)
  | waiting n _ [] errors => some (returned (WritingHandler.waitEnd n errors))
  | waiting n duration (i :: left) errors =>
    match writes[i]? with
    | some ⟨_, _, some result⟩ =>
      some (resume n duration left (WritingHandler.waitNext duration errors (.ok (.ok result))))
    | _ => none
  | _ => none

/-- The next task is not over when the time is. -/
def timeout (writes : List (Writing M)) : Handling M → Option (Handling M)
  | waiting n (some duration) (i :: left) errors =>
    match writes[i]? with
    | some ⟨_, _, none⟩ =>
      some (resume n duration left (WritingHandler.waitNext duration errors (.error ⟨⟩)))
    | _ => none
  | _ => none

end Handling

def Tables.hand (t : Tables M) (handler : WritingHandler) : Tables M :=
  { t with handlings := t.handlings ++ [.held handler] }

/-- A handler is no part of the tasks it stands for: they go on whatever becomes of it. -/
def Tables.handle (t : Tables M) (i : Nat) (next : Handling M → Option (Handling M)) :
    Option (Tables M) :=
  ((t.handlings[i]?).bind next).map fun h => { t with handlings := t.handlings.set i h }

def Tables.step (t : Tables M) : Event → Option (Tables M)
  | .write i => (finish t.chans t.writes i).map fun (chans, writes) => { t with chans, writes }
  | .notice i => (finish t.waits t.notices i).map fun (waits, notices) => { t with waits, notices }
  | .receive receiver => (receiveAt t.chans receiver).map fun chans => { t with chans }
  | .close receiver => some { t with chans := closeAt t.chans receiver }
  | .receiveNotice waiter => (receiveAt t.waits waiter).map fun waits => { t with waits }
  | .closeWaiter waiter => some { t with waits := closeAt t.waits waiter }
  | .wait handler duration => t.handle handler (Handling.wait duration)
  | .poll handler => t.handle handler (Handling.poll t.writes)
  | .timeout handler => t.handle handler (Handling.timeout t.writes)
  | .dropHandler handler => t.handle handler fun _ => some .dropped

def answer :
    Except (NotifierError M ChannelId) WritingHandler × NotifierHub M ChannelId × Tables M →
      NotifierHub M ChannelId × Tables M
  | (.ok handler, f, t) => (f, t.hand handler)
  | (.error _, f, t) => (f, t)

variable [DecidableEq ChannelId]

def Lists (f : NotifierHub M ChannelId) (keys : List ChannelId) : Prop :=
  keys.Nodup ∧ keys.toFinset = f.senders.keys

instance (f : NotifierHub M ChannelId) (keys : List ChannelId) : Decidable (Lists f keys) :=
  inferInstanceAs (Decidable (_ ∧ _))

theorem Lists.mem_iff {f : NotifierHub M ChannelId} {keys : List ChannelId} (lists : Lists f keys)
    {id : ChannelId} : id ∈ keys ↔ id ∈ f.senders := by
  rw [← List.mem_toFinset, lists.2, Finmap.mem_keys]

theorem Lists.mem {f : NotifierHub M ChannelId} {keys : List ChannelId} (lists : Lists f keys)
    {id : ChannelId} (inhabited : f.sendersOf id ≠ []) : id ∈ keys := by
  rw [lists.mem_iff]
  by_contra absent
  exact inhabited (by simp [NotifierHub.sendersOf, Finmap.lookup_eq_none.mpr absent])

def call (f : NotifierHub M ChannelId) (address : Nat) (t : Tables M) :
    Op M ChannelId → Option (NotifierHub M ChannelId × Tables M)
  | .subscribe id => (f.subscribe address t id).map Prod.snd
  | .subscribeMultiple ids => (f.subscribeMultiple address t ids).map Prod.snd
  | .unsubscribe id r => (t.receivers[r]?).map fun receiver => ((f.unsubscribe id receiver).2, t)
  | .unsubscribeMultiple ids r =>
    (t.receivers[r]?).map fun receiver => ((f.unsubscribeMultiple ids receiver).2, t)
  | .unsubscribeAll r keys =>
    if Lists f keys then
      (t.receivers[r]?).map fun receiver => ((f.unsubscribeAll keys receiver).2, t)
    else none
  | .cleanChannel id => some ((f.cleanChannel t.chans id).2, t)
  | .cleanAll keys => if Lists f keys then some ((f.cleanAll t.chans keys).2, t) else none
  | .cloneSend msg id => some (answer (f.cloneSend t msg id))
  | .arcSend msg id => some (answer (f.arcSend t msg id))
  | .broadcastClone msg keys =>
    if Lists f keys then
      let (handler, f, t) := f.broadcastClone t keys msg
      some (f, t.hand handler)
    else none
  | .broadcastArc msg keys =>
    if Lists f keys then
      let (handler, f, t) := f.broadcastArc t keys msg
      some (f, t.hand handler)
    else none
  | .getCreationWaiter id => (f.getCreationWaiter address t id).map Prod.snd

end Steps

structure Config (M ChannelId : Type) extends Tables M where
  hub : NotifierHub M ChannelId
  address : Nat

inductive Act (M ChannelId : Type)
  | op (op : Op M ChannelId)
  -- The hub is moved in memory.
  | move (address : Nat)
  | event (e : Event)
  deriving DecidableEq

namespace Config

variable {M ChannelId : Type} [DecidableEq ChannelId]

def new (address : Nat) : Config M ChannelId := { Tables.new with hub := .new, address }

def step (s : Config M ChannelId) : Act M ChannelId → Option (Config M ChannelId)
  | .op op => (call s.hub s.address s.toTables op).map fun (hub, t) => { s with toTables := t, hub }
  | .move address => some { s with address }
  | .event e => (s.toTables.step e).map fun t => { s with toTables := t }

end Config

end AsyncForge.NotifierHub
