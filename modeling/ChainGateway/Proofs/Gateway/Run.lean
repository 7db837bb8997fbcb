import ChainGateway.Proofs.Gateway.Exit

/-!
# Runs of a gateway

A gateway handles requests one after another.  Between two of them any time may pass, and each
request meets services that answer as they like, whatever they answered before.  `Run` collects
the states that are reached in this way, each with its history: what was handled so far, in
order, together with the state that each request met.
-/

namespace ChainGateway.Gateway

variable {σ : Type}

/-- A request that was handled: the services and the state it met, and its answer. -/
structure Handled (σ : Type) where
  backend : Backend σ
  state : State σ
  route : Route
  request : RelayRequest
  answer : Answer σ Unit

/-- The relays that were handed over for the request. -/
def Handled.relays (handled : Handled σ) : List Relay := relaysOf handled.answer.events

/-- The states that a gateway reaches from the given one, with their histories.  A request that
overflows the clock or a counter gives no answer and ends the run. -/
inductive Run (gateway : Gateway) (start : State σ) : List (Handled σ) → State σ → Prop
  | start : Run gateway start [] start
  | wait {history : List (Handled σ)} {state : State σ} (ms : Nat)
      (hrun : Run gateway start history state) :
      Run gateway start history { state with now := state.now + ms }
  | serve {history : List (Handled σ)} {state : State σ} {answer : Answer σ Unit}
      (backend : Backend σ) (route : Route) (request : RelayRequest)
      (hrun : Run gateway start history state)
      (hanswer : gateway.handle backend state route request = .ok answer) :
      Run gateway start (history ++ [⟨backend, state, route, request, answer⟩]) answer.state

namespace Run

variable {gateway : Gateway} {start state : State σ} {history : List (Handled σ)}
  {handled : Handled σ}

/-- The answers of a history are those that the gateway gives. -/
theorem handle_eq (hrun : Run gateway start history state) (hmem : handled ∈ history) :
    gateway.handle handled.backend handled.state handled.route handled.request =
      .ok handled.answer := by
  induction hrun with
  | start => simp at hmem
  | wait ms hrun ih => exact ih hmem
  | serve backend route request hrun hanswer ih =>
      rcases List.mem_append.mp hmem with hearlier | hlast
      · exact ih hearlier
      · rw [List.mem_singleton] at hlast
        subst hlast
        exact hanswer

/-- The state that a request of the history met is reached by a part of the run. -/
theorem reaches (hrun : Run gateway start history state) (hmem : handled ∈ history) :
    ∃ earlier, (∀ other ∈ earlier, other ∈ history) ∧
      Run gateway start earlier handled.state := by
  induction hrun with
  | start => simp at hmem
  | wait ms hrun ih => exact ih hmem
  | @serve history state answer backend route request hrun hanswer ih =>
      rcases List.mem_append.mp hmem with hearlier | hlast
      · obtain ⟨earlier, hsub, hreached⟩ := ih hearlier
        exact ⟨earlier, fun other hother => List.mem_append_left _ (hsub other hother), hreached⟩
      · rw [List.mem_singleton] at hlast
        subst hlast
        exact ⟨history, fun other hother => List.mem_append_left _ hother, hrun⟩

end Run

end ChainGateway.Gateway
