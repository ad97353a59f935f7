import Mathlib.Data.Finmap
import AsyncForge.SmartChannel

namespace AsyncForge.NotifierHub

open AsyncForge.Channels AsyncForge.SmartChannel

def channelSize : Nat := 100

def notifierChannelSize : Nat := 10

inductive ChannelState
  | uninitialised
  | running
  | over
  deriving DecidableEq, Repr

structure SmartChannelId where
  channelCounter : Nat
  notifierAddress : Nat
  deriving DecidableEq, Repr

abbrev MessageSender := Sender SmartChannelId
abbrev MessageReceiver := Receiver SmartChannelId
abbrev CreationSender := Sender SmartChannelId
abbrev CreationWaiter := Receiver SmartChannelId

abbrev Duration := Nat

structure SendError (M : Type) where
  msg : M
  deriving DecidableEq, Repr

inductive JoinError
  | cancelled
  | panicked
  deriving DecidableEq, Repr

structure Elapsed where
  deriving DecidableEq, Repr

inductive UnexpectedErrorKind
  | durationIsMissing
  | invalidChannelStateUnsubscribe
  deriving DecidableEq, Repr

inductive NotifierError (M ChannelId : Type)
  | sendingError (e : SendError M)
  | joiningError (e : JoinError)
  | writingSendError (errors : List (NotifierError M ChannelId))
  | writingTimeout (duration : Duration)
  | unexpectedError (kind : UnexpectedErrorKind)
  | notSubscribed (id : ChannelId)
  | notSubscribedMultiple (errors : List (NotifierError M ChannelId))
  | channelUninitialized (id : ChannelId)
  | channelOver (id : ChannelId)

/-- A reference-counted message is shared for reading only: it is its value. -/
abbrev Arc (M : Type) := M

def Arc.new {M : Type} (m : M) : Arc M := m

/-- A spawned task that sends the message; it has a result once it is over. -/
structure Writing (M : Type) where
  sender : Sender SmartChannelId
  msg : M
  result : Option (Except (SendError M) Unit) := none

/-- The handlers of the spawned tasks, as their places in the table of writings. -/
structure WritingHandler where
  handlers : List Nat
  deriving DecidableEq, Repr

/-- What becomes of a handler that a call returned. -/
inductive Handling (M : Type)
  | held (handler : WritingHandler)
  -- In `wait`: the number of its tasks, those that are left, and the errors of the others.
  | waiting (n : Nat) (duration : Option Duration) (left : List Nat)
      (errors : List (NotifierError M Unit))
  | returned (result : Except (NotifierError M Unit) Nat)
  | dropped

/-- What the hub and its users share: the channels with the receivers handed out for them, the
    spawned tasks and the handlers of the messages. -/
structure Tables (M : Type) where
  chans : List (Chan M)
  receivers : List MessageReceiver
  waits : List (Chan Unit)
  waiters : List CreationWaiter
  writes : List (Writing M)
  notices : List (Writing Unit)
  handlings : List (Handling M)

def Tables.new {M : Type} : Tables M := ⟨[], [], [], [], [], [], []⟩

namespace WritingHandler

variable {M : Type}

def empty : WritingHandler := ⟨[]⟩

/-- The task that `get_handler` spawns. -/
def getHandler (sender : Sender SmartChannelId) (msg : M) : Writing M where
  sender := sender
  msg := msg

def len (h : WritingHandler) : Nat := h.handlers.length

def newCloningBroadcast (writes : List (Writing M)) (msg : M)
    (senders : List (Sender SmartChannelId)) : WritingHandler × List (Writing M) :=
  (⟨List.range' writes.length senders.length⟩,
    writes ++ senders.map fun sender => getHandler sender msg)

def newArcBroadcast (writes : List (Writing (Arc M))) (msg : M)
    (senders : List (Sender SmartChannelId)) : WritingHandler × List (Writing (Arc M)) :=
  let msg := Arc.new msg
  (⟨List.range' writes.length senders.length⟩,
    writes ++ senders.map fun sender => getHandler sender msg)

/-- One turn of the loop of `wait`, with what awaiting the handler gave: the errors so far, or the
    early exit. -/
def waitNext (duration : Option Duration) (errors : List (NotifierError M Unit))
    (result : Except Elapsed (Except JoinError (Except (SendError M) Unit))) :
    Except (NotifierError M Unit) (List (NotifierError M Unit)) :=
  match result with
  | .ok (.ok (.ok ())) => .ok errors
  | .ok (.ok (.error e)) => .ok (errors ++ [.sendingError e])
  | .ok (.error e) => .ok (errors ++ [.joiningError e])
  | .error _ =>
    match duration with
    | some d => .ok (errors ++ [.writingTimeout d])
    | none => .error (.unexpectedError .durationIsMissing)

def waitEnd (n : Nat) (errors : List (NotifierError M Unit)) :
    Except (NotifierError M Unit) Nat :=
  if errors.isEmpty then .ok n else .error (.writingSendError errors)

end WritingHandler

end NotifierHub

open AsyncForge.Channels AsyncForge.SmartChannel AsyncForge.NotifierHub

/-- Both maps list the senders of a channel in the order of their insertion. The order in which a
    map lists its channels is a parameter of the methods that go through all of them. -/
structure NotifierHub (M ChannelId : Type) where
  connectionId : Nat
  senders : Finmap (fun _ : ChannelId => List MessageSender)
  creationSenders : Finmap (fun _ : ChannelId => List CreationSender)

namespace NotifierHub

variable {M ChannelId : Type}

def new : NotifierHub M ChannelId := ⟨0, ∅, ∅⟩

/-- The counter is a `usize`. There is no call at its overflow, which panics in a debug build and
    wraps in a release build. -/
def getNewId (f : NotifierHub M ChannelId) (address : Nat) :
    Option (SmartChannelId × NotifierHub M ChannelId) :=
  if f.connectionId + 1 < 2 ^ 64 then
    some (⟨f.connectionId, address⟩, { f with connectionId := f.connectionId + 1 })
  else none

variable [DecidableEq ChannelId]

/-- The macro `get_senders`. -/
def sendersOf (f : NotifierHub M ChannelId) (id : ChannelId) : List MessageSender :=
  (f.senders.lookup id).getD []

def notifyCreation (f : NotifierHub M ChannelId) (notices : List (Writing Unit)) (id : ChannelId) :
    WritingHandler × List (Writing Unit) :=
  match f.creationSenders.lookup id with
  | some waiters => WritingHandler.newCloningBroadcast notices () waiters
  | none => (.empty, notices)

def numberOfCreationWaiter (f : NotifierHub M ChannelId) (id : ChannelId) : Nat :=
  match f.creationSenders.lookup id with
  | some w => w.length
  | none => 0

def channelState (f : NotifierHub M ChannelId) (id : ChannelId) : ChannelState :=
  match f.senders.lookup id with
  | some s => if !s.isEmpty then .running else .over
  | none => .uninitialised

def isSubscribed (f : NotifierHub M ChannelId) (channel : ChannelId) (receiver : MessageReceiver) :
    Bool :=
  match f.channelState channel with
  | .running => (f.sendersOf channel).any fun s => s.isBoundTo receiver
  | _ => false

def channelNumberSubscriber (f : NotifierHub M ChannelId) (id : ChannelId) : Nat :=
  match f.channelState id with
  | .over | .uninitialised => 0
  | .running => (f.sendersOf id).length

def cleanChannel (f : NotifierHub M ChannelId) (chans : List (Chan M)) (channel : ChannelId) :
    ChannelState × NotifierHub M ChannelId :=
  match f.senders.lookup channel with
  | some senders =>
    let senders := senders.filter fun s => !s.isClosed chans
    (if senders.isEmpty then .over else .running,
      { f with senders := f.senders.insert channel senders })
  | none => (.uninitialised, f)

def cleanAll (f : NotifierHub M ChannelId) (chans : List (Chan M)) (keys : List ChannelId) :
    Finmap (fun _ : ChannelId => ChannelState) × NotifierHub M ChannelId :=
  keys.foldl (fun r id =>
    let cleaned := r.2.cleanChannel chans id
    (r.1.insert id cleaned.1, cleaned.2)) (∅, f)

def broadcastArc (f : NotifierHub (Arc M) ChannelId) (t : Tables (Arc M)) (keys : List ChannelId)
    (msg : M) : WritingHandler × NotifierHub (Arc M) ChannelId × Tables (Arc M) :=
  let f := (f.cleanAll t.chans keys).2
  let senders := keys.flatMap f.sendersOf
  let (handler, writes) := WritingHandler.newArcBroadcast t.writes msg senders
  (handler, f, { t with writes })

def arcSend (f : NotifierHub (Arc M) ChannelId) (t : Tables (Arc M)) (msg : M) (id : ChannelId) :
    Except (NotifierError (Arc M) ChannelId) WritingHandler × NotifierHub (Arc M) ChannelId ×
      Tables (Arc M) :=
  let f := (f.cleanChannel t.chans id).2
  match f.channelState id with
  | .running =>
    let (handler, writes) := WritingHandler.newArcBroadcast t.writes msg (f.sendersOf id)
    (.ok handler, f, { t with writes })
  | .over => (.ok .empty, f, t)
  | .uninitialised => (.error (.channelUninitialized id), f, t)

def broadcastClone (f : NotifierHub M ChannelId) (t : Tables M) (keys : List ChannelId) (msg : M) :
    WritingHandler × NotifierHub M ChannelId × Tables M :=
  let f := (f.cleanAll t.chans keys).2
  let senders := keys.flatMap f.sendersOf
  let (handler, writes) := WritingHandler.newCloningBroadcast t.writes msg senders
  (handler, f, { t with writes })

def cloneSend (f : NotifierHub M ChannelId) (t : Tables M) (msg : M) (id : ChannelId) :
    Except (NotifierError M ChannelId) WritingHandler × NotifierHub M ChannelId × Tables M :=
  let f := (f.cleanChannel t.chans id).2
  match f.channelState id with
  | .running =>
    let (handler, writes) := WritingHandler.newCloningBroadcast t.writes msg (f.sendersOf id)
    (.ok handler, f, { t with writes })
  | .over => (.ok .empty, f, t)
  | .uninitialised => (.error (.channelUninitialized id), f, t)

def insertSender (f : NotifierHub M ChannelId) (t : Tables M) (sender : MessageSender)
    (id : ChannelId) : NotifierHub M ChannelId × Tables M :=
  let f := match f.senders.lookup id with
    | some senders => { f with senders := f.senders.insert id (senders ++ [sender]) }
    | none => { f with senders := f.senders.insert id [sender] }
  (f, { t with notices := (f.notifyCreation t.notices id).2 })

/-- `subscribe` and `subscribe_multiple` up to the insertions: the new channel. -/
def openChannel (f : NotifierHub M ChannelId) (address : Nat) (t : Tables M) :
    Option (MessageSender × MessageReceiver × NotifierHub M ChannelId × Tables M) :=
  (f.getNewId address).map fun (id, f) =>
    let ((sender, receiver), chans) := channel t.chans channelSize id
    (sender, receiver, f, { t with chans, receivers := t.receivers ++ [receiver] })

def subscribe (f : NotifierHub M ChannelId) (address : Nat) (t : Tables M) (id : ChannelId) :
    Option (MessageReceiver × NotifierHub M ChannelId × Tables M) :=
  (f.openChannel address t).map fun (sender, receiver, f, t) =>
    (receiver, f.insertSender t sender id)

def subscribeMultiple (f : NotifierHub M ChannelId) (address : Nat) (t : Tables M)
    (ids : List ChannelId) : Option (MessageReceiver × NotifierHub M ChannelId × Tables M) :=
  (f.openChannel address t).map fun (sender, receiver, f, t) =>
    (receiver, ids.foldl (fun r id => r.1.insertSender r.2 sender id) (f, t))

def subscribedList (f : NotifierHub M ChannelId) (keys : List ChannelId)
    (receiver : MessageReceiver) : List ChannelId :=
  keys.filter fun id => f.isSubscribed id receiver

def unsubscribe (f : NotifierHub M ChannelId) (id : ChannelId) (receiver : MessageReceiver) :
    Except (NotifierError M ChannelId) ChannelState × NotifierHub M ChannelId :=
  match f.channelState id with
  | .running =>
    if !f.isSubscribed id receiver then (.error (.notSubscribed id), f)
    else
      match f.senders.lookup id with
      | some senders =>
        let kept := senders.filter fun sender => !sender.isBoundTo receiver
        let f := { f with senders := f.senders.insert id kept }
        (.ok (f.channelState id), f)
      | none => (.error (.unexpectedError .invalidChannelStateUnsubscribe), f)
  | _ => (.error (.notSubscribed id), f)

/-- One turn of the loop of `unsubscribe_multiple`. -/
def unsubscribeNext (receiver : MessageReceiver)
    (r : List (NotifierError M ChannelId) × NotifierHub M ChannelId) (id : ChannelId) :
    List (NotifierError M ChannelId) × NotifierHub M ChannelId :=
  match r.2.unsubscribe id receiver with
  | (.error e, f) => (r.1 ++ [e], f)
  | (.ok _, f) => (r.1, f)

def unsubscribeMultiple (f : NotifierHub M ChannelId) (ids : List ChannelId)
    (receiver : MessageReceiver) :
    Except (NotifierError M ChannelId) Unit × NotifierHub M ChannelId :=
  let (errors, f) := ids.foldl (unsubscribeNext receiver) ([], f)
  (if errors.isEmpty then .ok () else .error (.notSubscribedMultiple errors), f)

def unsubscribeAll (f : NotifierHub M ChannelId) (keys : List ChannelId)
    (receiver : MessageReceiver) : List ChannelId × NotifierHub M ChannelId :=
  let subList := f.subscribedList keys receiver
  (subList, if subList.isEmpty then f else (f.unsubscribeMultiple subList receiver).2)

def getCreationWaiter (f : NotifierHub M ChannelId) (address : Nat) (t : Tables M)
    (id : ChannelId) : Option (CreationWaiter × NotifierHub M ChannelId × Tables M) :=
  (f.getNewId address).map fun (newId, f) =>
    let ((sender, receiver), waits) := channel t.waits notifierChannelSize newId
    let f := match f.creationSenders.lookup id with
      | some senders =>
        { f with creationSenders := f.creationSenders.insert id (senders ++ [sender]) }
      | none => { f with creationSenders := f.creationSenders.insert id [sender] }
    (receiver, f, { t with waits, waiters := t.waiters ++ [receiver] })

def getSender (f : NotifierHub M ChannelId) (channel : ChannelId) (receiver : MessageReceiver) :
    Option MessageSender :=
  (f.senders.lookup channel).bind fun senders => senders.find? fun s => s.isBoundTo receiver

def getSenders (f : NotifierHub M ChannelId) (receiver : MessageReceiver)
    (channel : List ChannelId) : Finmap (fun _ : ChannelId => MessageSender) :=
  channel.foldl (fun map id =>
    match f.getSender id receiver with
    | some sender => map.insert id sender
    | none => map) ∅

end NotifierHub

end AsyncForge
