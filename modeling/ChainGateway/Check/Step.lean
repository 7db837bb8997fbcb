import ChainGateway.Check.Task

/-!
# Checking which nodes serve a chain

A check takes an application and a list of chains.  For each chain it retrieves the session,
from the cache or by dispatching, and probes every node of the session: the node is sent the
chain's identity probe and is kept if it answers with the chain's identity.  The result lists
the nodes that were kept under the key of their session.

Chains and nodes are worked on at the same time, each by a task of its own (`ChainTask`,
`Probe`).  The number of probes in flight is bounded by permits that all tasks of the check
share, and the check may be cancelled at any moment.  What the tasks deliver is collected until
no task is left that could deliver anything.  There can be only so many permits, and a check that
is to have more of them breaks down before it begins.

The check is a transition system: `State` holds the tasks, what they share and the results, and
`step` says which `Action`s are possible in a state and what they lead to.  The order of actions,
and what the services answer, is up to whoever runs the system; a list of possible actions is a
schedule.
-/

namespace ChainGateway.Check

/-- The sum of a count over a list. -/
def total {α : Type} (count : α → Nat) (items : List α) : Nat :=
  items.foldr (fun item sum => count item + sum) 0

structure State where
  tasks : List ChainTask
  commons : TaskCommons
  cancelled : Bool := false
  /-- The nodes kept so far, by session key. -/
  results : Table String (List Node) := .empty
  deriving Inhabited

/-- What can happen in a check.  Tasks are named by their place in the list of chains. -/
inductive Action where
  | cancel
  | task (place : Nat) (action : TaskAction)
  /-- A delivery is entered into the results. -/
  | collect

/-- The greatest number of permits that there can be. -/
def permitLimit : Nat := 0x1fffffffffffffff

/-- A task for each chain, and all permits free. -/
def State.initial (token : Token) (chains : List Blockchain) (permits : Nat)
    (sessions : SessionCache) : State where
  tasks := chains.map (ChainTask.ofChain token)
  commons := { free := permits, sessions, deliveries := .ofSenders chains.length }

/-- The state in which a check begins, if there can be so many permits. -/
def State.start (token : Token) (chains : List Blockchain) (permits : Nat)
    (sessions : SessionCache) : Except Fault State :=
  if permits ≤ permitLimit then .ok (.initial token chains permits sessions)
  else .error .permitOverflow

theorem State.start_eq_ok_iff {token : Token} {chains : List Blockchain} {permits : Nat}
    {sessions : SessionCache} {state : State} :
    State.start token chains permits sessions = .ok state ↔
      permits ≤ permitLimit ∧ State.initial token chains permits sessions = state := by
  unfold start
  split <;> simp [*]

theorem State.start_eq_error_iff {token : Token} {chains : List Blockchain} {permits : Nat}
    {sessions : SessionCache} {fault : Fault} :
    State.start token chains permits sessions = .error fault ↔
      fault = .permitOverflow ∧ permitLimit < permits := by
  unfold start
  split
  · next hle => exact iff_of_false nofun fun hmore => Nat.not_lt.mpr hle hmore.2
  · next hmore => simp [Nat.not_le.mp hmore, eq_comm]

/-- Has the check returned?  It has as soon as no task is left and everything that was delivered
is among the results. -/
def State.isOver (state : State) : Bool := state.commons.deliveries.isClosed

/-- The state after an action, if the action is possible. -/
def step (state : State) : Action → Option State
  | .cancel => if state.cancelled then none else some { state with cancelled := true }
  | .task place action =>
      match state.tasks[place]? with
      | some task =>
          (task.step state.cancelled state.commons action).map fun (task, commons) =>
            { state with tasks := state.tasks.set place task, commons }
      | none => none
  | .collect =>
      state.commons.deliveries.receive?.map fun (delivery, deliveries) =>
        { state with
          commons := { state.commons with deliveries }
          results := state.results.insert delivery.key delivery.nodes }

/-! ## Probes in flight -/

/-- How many of the probes are in flight. -/
def Probing.inFlight (probing : Probing) : Nat :=
  probing.probes.countP fun probe => probe.stage = .relaying

def ChainTask.inFlight (task : ChainTask) : Nat :=
  match task.stage with
  | .probing probing => probing.inFlight
  | _ => 0

def State.inFlight (state : State) : Nat := total ChainTask.inFlight state.tasks

end ChainGateway.Check
