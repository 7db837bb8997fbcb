/-!
# Channels

A channel carries messages from several senders to one receiver, in the order in which they were
sent.  It holds so many messages at a time and no more, so a sender may have to wait.  Every
sender here sends at most one message and then leaves.  The receiver has seen everything when no
message is left and no sender either.
-/

namespace ChainGateway.Check

/-- A bounded channel. -/
structure Channel (α : Type) where
  /-- How many messages the channel can hold. -/
  capacity : Nat
  /-- How many senders have not left. -/
  senders : Nat
  /-- The messages that have not been received, the oldest one first. -/
  queue : List α := []
  deriving DecidableEq, Repr, Inhabited

namespace Channel

variable {α : Type}

/-- A channel that can hold one message of each of its senders, and one at least. -/
def ofSenders (senders : Nat) : Channel α := { capacity := max 1 senders, senders }

/-- Has the receiver seen everything? -/
def isClosed (channel : Channel α) : Bool :=
  decide (channel.senders = 0) && channel.queue.isEmpty

def leave (channel : Channel α) : Channel α :=
  { channel with senders := channel.senders - 1 }

/-- A sender sends its message and leaves, if there is room for the message. -/
def send? (channel : Channel α) (message : α) : Option (Channel α) :=
  if channel.queue.length < channel.capacity then
    some { channel.leave with queue := channel.queue ++ [message] }
  else none

/-- The oldest message, and the channel without it. -/
def receive? (channel : Channel α) : Option (α × Channel α) :=
  match channel.queue with
  | [] => none
  | message :: queue => some (message, { channel with queue })

end Channel

end ChainGateway.Check
