import ChainGateway.Check.Probe
import ChainGateway.SessionCall

/-!
# Checking a chain

Every chain of a check is worked on by a task of its own.  It calls for the session of the chain,
starts a probe for every node of the session, collects what the probes report and delivers the
nodes that were found to serve the chain, under the key of the session.  A task whose session
cannot be obtained, or that is cancelled before it has one, delivers nothing.

A task that breaks down as it keeps its session ends alone: it delivers nothing, and the check
goes on without it.
-/

namespace ChainGateway.Check

/-- The probes of a session at work. -/
structure Probing where
  session : Session
  /-- The probes, one for each node of the session and in the same order. -/
  probes : List Probe
  reports : Channel (Option Node)
  /-- The nodes reported so far, in the order of the reports. -/
  supporting : List Node := []
  deriving DecidableEq, Repr

/-- How far the task of a chain is. -/
inductive TaskStage where
  /-- It calls for the session. -/
  | retrieving (call : SessionCall)
  /-- The nodes of the session are being probed. -/
  | probing (probing : Probing)
  /-- All probes have reported, and the result is to be delivered. -/
  | probed (session : Session) (supporting : List Node)
  | ended
  deriving DecidableEq, Repr

/-- The task of checking one chain. -/
structure ChainTask where
  /-- What the relays of its probes prove the gateway's right with. -/
  token : Token
  chain : Blockchain
  stage : TaskStage
  deriving DecidableEq, Repr

/-- What a task found: the nodes that serve the chain, and the key of their session. -/
structure Delivery where
  key : String
  nodes : List Node
  deriving DecidableEq, Repr, Inhabited

/-- What the tasks of a check share: the permits that no probe holds, the session cache, and the
channel on which they deliver. -/
structure TaskCommons where
  free : Nat
  sessions : SessionCache
  deliveries : Channel Delivery
  deriving Inhabited

/-- What can happen to the task of a chain.  Probes are named by their place in the session. -/
inductive TaskAction where
  | call (action : SessionCall.Action)
  /-- It ends because of the cancellation. -/
  | abandon
  | probe (place : Nat) (action : ProbeAction)
  | receive
  /-- It has seen the reports of all probes. -/
  | conclude
  | deliver

namespace Probing

/-- The state in which the probes of a session begin. -/
def ofSession (token : Token) (chain : Blockchain) (session : Session) : Probing where
  session := session
  probes := session.nodes.map fun node => { relay := probeRelay token chain session node }
  reports := .ofSenders session.nodes.length

/-- The probes and the free permits after something has happened to one of the probes. -/
def step (chain : Blockchain) (cancelled : Bool) (probing : Probing) (free place : Nat)
    (action : ProbeAction) : Option (Probing × Nat) :=
  match probing.probes[place]? with
  | some probe =>
      (probe.step chain cancelled { free, reports := probing.reports } action).map
        fun (probe, commons) =>
          ({ probing with
              probes := probing.probes.set place probe
              reports := commons.reports },
            commons.free)
  | none => none

/-- The probes after a report was taken in, if there is one. -/
def receive? (probing : Probing) : Option Probing :=
  probing.reports.receive?.map fun (supporting?, reports) =>
    { probing with reports, supporting := probing.supporting ++ supporting?.toList }

end Probing

namespace ChainTask

/-- The task with which the check of a chain begins. -/
def ofChain (token : Token) (chain : Blockchain) : ChainTask where
  token := token
  chain := chain
  stage := .retrieving { key := { publicKey := token.applicationKey, chain := chain.id } }

def goTo (task : ChainTask) (stage : TaskStage) : ChainTask := { task with stage }

/-- The task begins to probe the nodes of its session. -/
def startProbes (task : ChainTask) (session : Session) : ChainTask :=
  task.goTo (.probing (.ofSession task.token task.chain session))

/-- The task ends without a result. -/
def endWithout (task : ChainTask) (commons : TaskCommons) : ChainTask × TaskCommons :=
  (task.goTo .ended, { commons with deliveries := commons.deliveries.leave })

/-- The task after its call has gone on: with a session its nodes are probed, and without one
the task ends. -/
def afterCall (task : ChainTask) (commons : TaskCommons) (call : SessionCall) :
    ChainTask × TaskCommons :=
  match call.stage with
  | .returned session => (task.startProbes session, commons)
  | .failed _ => task.endWithout commons
  | _ => (task.goTo (.retrieving call), commons)

/-- The task and what it shares after an action, if the action is possible. -/
def step (cancelled : Bool) (task : ChainTask) (commons : TaskCommons) :
    TaskAction → Option (ChainTask × TaskCommons)
  | .call action =>
      match task.stage with
      | .retrieving call =>
          -- Whenever the call would wait, the cancellation comes first.
          if cancelled && call.isPending then none
          else
            match call.step commons.sessions action with
            | .ok result =>
                result.map fun (call, sessions) => task.afterCall { commons with sessions } call
            | .error _ =>
                some (task.endWithout
                  { commons with sessions := call.wreckage commons.sessions })
      | _ => none
  | .abandon =>
      match task.stage with
      | .retrieving call =>
          if cancelled && call.isPending then some (task.endWithout commons) else none
      | _ => none
  | .probe place action =>
      match task.stage with
      | .probing probing =>
          (probing.step task.chain cancelled commons.free place action).map
            fun (probing, free) => (task.goTo (.probing probing), { commons with free })
      | _ => none
  | .receive =>
      match task.stage with
      | .probing probing =>
          probing.receive?.map fun probing => (task.goTo (.probing probing), commons)
      | _ => none
  | .conclude =>
      match task.stage with
      | .probing probing =>
          if probing.reports.isClosed then
            some (task.goTo (.probed probing.session probing.supporting), commons)
          else none
      | _ => none
  | .deliver =>
      match task.stage with
      | .probed session supporting =>
          (commons.deliveries.send? { key := session.key, nodes := supporting }).map
            fun deliveries => (task.goTo .ended, { commons with deliveries })
      | _ => none

end ChainTask

end ChainGateway.Check
