import AsyncForge.Lib.Channels

/-! The two ends of a Tokio channel with an id. The channel is a place in the table of the channels
    of its type. -/

namespace AsyncForge.SmartChannel

open AsyncForge.Channels

structure Sender (Id : Type) where
  id : Id
  sender : Nat
  deriving DecidableEq, Repr

structure Receiver (Id : Type) where
  id : Id
  receiver : Nat
  deriving DecidableEq, Repr

variable {Id T : Type}

def bind (place : Nat) (id : Id) : Sender Id × Receiver Id := (⟨id, place⟩, ⟨id, place⟩)

/-- `channel` with the table that has the new channel. -/
def channel (chans : List (Chan T)) (channelSize : Nat) (id : Id) :
    (Sender Id × Receiver Id) × List (Chan T) :=
  (bind chans.length id, chans ++ [{ capacity := channelSize }])

def Sender.isBoundTo [DecidableEq Id] (s : Sender Id) (r : Receiver Id) : Bool := s.id == r.id

/-- `is_closed`, which the sender inherits from the Tokio sender. -/
def Sender.isClosed (chans : List (Chan T)) (s : Sender Id) : Bool :=
  (chans[s.sender]?).any Chan.closed

end AsyncForge.SmartChannel
