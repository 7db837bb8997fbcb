import ChainGateway.Json.Schema
import ChainGateway.Text.Ascii

/-!
# Block chains

A block chain is named by its id or by one of its aliases.  It declares an identity, and the
probe that makes a node tell the identity of the chain it serves.
-/

namespace ChainGateway

open Json Text

/-- A block chain that relays can be addressed to. -/
structure Blockchain where
  /-- The identifier used when sessions are dispatched and relays are sent. -/
  id : String
  aliases : List String := []
  /-- The identity that a node serving the chain answers the probe with. -/
  identity : String := ""
  /-- The payload of the identity probe. -/
  probe : String := ""
  /-- The relay path of the identity probe. -/
  path : String := ""
  ticker : String := ""
  active : Bool := false
  deriving DecidableEq, Repr, Inhabited

/-- Is this the chain's id or one of its aliases, up to the case of the letters `A` to `Z`? -/
def Blockchain.isNamed (chain : Blockchain) (name : String) : Bool :=
  equalIgnoringCase chain.id name || chain.aliases.any (equalIgnoringCase · name)

/-- The document form of a block chain: only its id must be present. -/
def Blockchain.schema : Schema Blockchain :=
  .record "Blockchain"
    (.field "id" .text none <|
      .field "blockchainAliases" (.list .text) (some []) <|
      .field "chainID" .text (some "") <|
      .field "chainIDCheck" .text (some "") <|
      .field "path" .text (some "") <|
      .field "ticker" .text (some "") <|
      .field "active" .flag (some false) .done)
    (fun (id, aliases, identity, probe, path, ticker, active, ()) =>
      { id, aliases, identity, probe, path, ticker, active })
    (fun chain =>
      (chain.id, chain.aliases, chain.identity, chain.probe, chain.path, chain.ticker,
        chain.active, ()))

end ChainGateway
