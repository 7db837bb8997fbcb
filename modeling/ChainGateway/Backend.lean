import ChainGateway.Clock
import ChainGateway.Entity.Relay
import ChainGateway.Error

/-!
# The services behind the gateway

The gateway asks a dispatch service for sessions and hands relays to nodes.  Both are outside:
they have a state of their own, take time and may fail.  A `Backend` says how they answer in
each of their states, so that whatever is said about the gateway holds for all of them.
-/

namespace ChainGateway

/-- An answer and how many milliseconds it takes. -/
structure Reply (α : Type) where
  delay : Nat := 0
  outcome : Except Error α

/-- The services behind the gateway, over their states. -/
structure Backend (σ : Type) where
  /-- Dispatches a session for a public key on a chain. -/
  dispatch : σ → (publicKey chain : String) → Reply Session × σ
  /-- Hands a relay to its node. -/
  relay : σ → Relay → Reply RelayAnswer × σ

/-- What the gateway asked of the services. -/
inductive Event where
  /-- A session was asked for. -/
  | dispatched (publicKey chain : String)
  /-- A relay was handed to its node. -/
  | relayed (relay : Relay)
  deriving DecidableEq, Repr

end ChainGateway
