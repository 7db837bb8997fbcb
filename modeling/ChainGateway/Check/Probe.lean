import ChainGateway.Backend
import ChainGateway.Check.Channel
import ChainGateway.Entity.Blockchain

/-!
# Probing a node

Every node of a session is probed by a task of its own, which begins with the relay that it is to
send.  It waits for one of the permits that all probes of a check share, sends the node the
identity probe of the chain, compares the answer with the chain's identity, gives the permit back
and reports whether the node is one that serves the chain.  A cancellation ends the probe where it
is.
-/

namespace ChainGateway.Check

/-- How far the probe of a node is. -/
inductive ProbeStage where
  /-- It waits for a permit, or has just been given one. -/
  | waiting
  /-- Its relay is on the way. -/
  | relaying
  /-- It knows which node to report, if any. -/
  | judged (supporting? : Option Node)
  | ended
  deriving DecidableEq, Repr

/-- The task of probing one node. -/
structure Probe where
  /-- What the node is sent. -/
  relay : Relay
  stage : ProbeStage := .waiting
  permit : Bool := false
  deriving DecidableEq, Repr

/-- What a probe shares with others: the permits that no probe holds, and the channel on which
the probes of its chain report. -/
structure ProbeCommons where
  free : Nat
  reports : Channel (Option Node)
  deriving DecidableEq, Repr

/-- What can happen to a probe. -/
inductive ProbeAction where
  | grant
  | launch
  | answered (outcome : Except Error RelayAnswer)
  /-- It ends because of the cancellation. -/
  | drop
  | report

/-- The relay that asks a node for the identity of a chain. -/
def probeRelay (token : Token) (chain : Blockchain) (session : Session) (node : Node) : Relay where
  method := "POST"
  chain := chain.id
  data := chain.probe
  path := chain.path
  token := token
  session := session
  node := node

/-- Did the node answer with the identity of the chain? -/
def verifies (chain : Blockchain) : Except Error RelayAnswer → Bool
  | .ok answer => answer.response == chain.identity
  | .error _ => false

namespace Probe

/-- The node that is probed. -/
def node (probe : Probe) : Node := probe.relay.node

def permits (probe : Probe) : Nat := if probe.permit then 1 else 0

/-- The probe knows what to report, and gives back its permit if it holds one. -/
def judge (probe : Probe) (commons : ProbeCommons) (supporting? : Option Node) :
    Probe × ProbeCommons :=
  ({ probe with stage := .judged supporting?, permit := false },
    { commons with free := commons.free + probe.permits })

/-- The probe and what it shares after an action, if the action is possible. -/
def step (chain : Blockchain) (cancelled : Bool) (probe : Probe) (commons : ProbeCommons) :
    ProbeAction → Option (Probe × ProbeCommons)
  | .grant =>
      if probe.stage = .waiting ∧ probe.permit = false ∧ 0 < commons.free then
        some ({ probe with permit := true }, { commons with free := commons.free - 1 })
      else none
  | .launch =>
      if probe.stage = .waiting ∧ probe.permit = true ∧ cancelled = false then
        some ({ probe with stage := .relaying }, commons)
      else none
  | .answered outcome =>
      if probe.stage = .relaying ∧ cancelled = false then
        some (probe.judge commons (if verifies chain outcome then some probe.node else none))
      else none
  | .drop =>
      if (probe.stage = .waiting ∨ probe.stage = .relaying) ∧ cancelled = true then
        some (probe.judge commons none)
      else none
  | .report =>
      match probe.stage with
      | .judged supporting? =>
          (commons.reports.send? supporting?).map fun reports =>
            ({ probe with stage := .ended }, { commons with reports })
      | _ => none

end Probe

end ChainGateway.Check
