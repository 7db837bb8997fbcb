import ChainGateway.Proofs.Gateway.Stickiness

/-!
# Requests without a right to stickiness

A request to an application has no affinity.  A request to a load balancer has none either, unless
the policy in effect asks for stickiness and allows the origin, and the caller has a key.  Without
this right it does not matter what the affinity cache remembers: two gateways that agree in
everything else handle the request alike, and each leaves its cache as it was
(`unentitled_indifferent`).

## Strategy

The affinity cache is read in one place, where the details are resolved, and without the right they
come out the same from every cache, with an empty policy.  From there on a delivery only carries
the cache along, since a report with an empty policy is none (`deliver_withAffinity`).  So
exchanging the cache before a request is the same as exchanging it afterwards
(`handle_withAffinity`); that the request leaves the cache alone is the case in which it is
exchanged for itself.
-/

namespace ChainGateway

open Affinity (Cache Details Key Outcome Preference)

variable {σ α : Type}

/-! ## Exchanging the affinity cache -/

def State.withAffinity (state : State σ) (affinity : Cache) : State σ := { state with affinity }

def Answer.withAffinity (answer : Answer σ α) (affinity : Cache) : Answer σ α :=
  { answer with state := answer.state.withAffinity affinity }

namespace Gateway

variable {gateway : Gateway} {backend : Backend σ} {state other : State σ} {route : Route}
  {request : RelayRequest}

/-- The request goes to an application, or stickiness is off for it: the policy in effect is empty
or does not allow its origin, or its key is empty. -/
def Unentitled (gateway : Gateway) (state : State σ) (request : RelayRequest) : Route → Prop
  | .application => True
  | .balancer _ => ∀ chain balancer,
      gateway.repository.chain request.chainName = .ok chain →
      gateway.repository.balancer request.balancerId = .ok balancer →
      let policy := state.affinity.effectivePolicy balancer.policy
      policy.isEmpty = true ∨ policy.allows request.origin = false ∨
        (Key.ofCaller request.rpcId balancer.id "" chain.id request.ip).isEmpty = true

/-- The states agree in everything but what their affinity caches remember. -/
structure Agree (state other : State σ) : Prop where
  sessions_eq : other.sessions = state.sessions
  services_eq : other.services = state.services
  now_eq : other.now = state.now
  settings_eq : other.affinity.settings = state.affinity.settings
  defaults_eq : other.affinity.defaultPreference = state.affinity.defaultPreference

/-! ## Steps that carry the affinity cache along -/

theorem session_withAffinity (backend : Backend σ) (state : State σ) (publicKey chain : String)
    (affinity : Cache) :
    session backend (state.withAffinity affinity) publicKey chain =
      (session backend state publicKey chain).map (·.withAffinity affinity) := by
  unfold session State.withAffinity
  dsimp only
  cases state.sessions.lookup { publicKey, chain } state.now with
  | some session => rfl
  | none =>
      dsimp only
      cases (backend.dispatch state.services publicKey chain).1.outcome with
      | error error => rfl
      | ok session =>
          dsimp only
          cases state.sessions.insert { publicKey, chain } session
              (state.now + (backend.dispatch state.services publicKey chain).1.delay) <;> rfl

/-- A report with an empty policy is none. -/
theorem report_of_isEmpty {details : Details} (hpolicy : details.policy.isEmpty = true)
    (state : State σ) (outcome : Outcome) : report state details outcome = .ok state := by
  rw [report, Cache.report_of_isEmpty _ _ _ _ hpolicy]
  rfl

theorem handOver_withAffinity {details : Details} (hpolicy : details.policy.isEmpty = true)
    (backend : Backend σ) (state : State σ) (relay : Relay) (events : List Event)
    (affinity : Cache) :
    handOver backend (state.withAffinity affinity) details relay events =
      (handOver backend state details relay events).map (·.withAffinity affinity) := by
  unfold handOver
  rw [report_of_isEmpty hpolicy, report_of_isEmpty hpolicy]
  rfl

theorem deliver_withAffinity {details : Details} (hpolicy : details.policy.isEmpty = true)
    (gateway : Gateway) (backend : Backend σ) (state : State σ) (request : RelayRequest)
    (chain : Blockchain) (application : Application) (affinity : Cache) :
    gateway.deliver backend (state.withAffinity affinity) request chain application details =
      (gateway.deliver backend state request chain application details).map
        (·.withAffinity affinity) := by
  rw [deliver_eq, deliver_eq, session_withAffinity]
  cases session backend state application.credentials.applicationKey chain.id with
  | error fault => rfl
  | ok obtained =>
      dsimp only [Except.map, bind, Except.bind, Answer.withAffinity]
      cases obtained.result with
      | error error =>
          dsimp only
          -- without a policy a report does nothing, to either cache
          rw [report_of_isEmpty hpolicy, report_of_isEmpty hpolicy]
      | ok session =>
          dsimp only
          cases chooseNode session details.preference.node with
          | error error => rfl
          | ok node =>
              have hserving : (withServing details application node).policy.isEmpty = true :=
                hpolicy
              exact handOver_withAffinity hserving ..

/-! ## The details of an unentitled request -/

/-- Without the right to stickiness the details are the same whatever is remembered, and their
policy is empty. -/
theorem resolveAffinity_of_unentitled {draw : Nat} {chain : Blockchain} {balancer : LoadBalancer}
    (hunentitled : Unentitled gateway state request (.balancer draw))
    (hchain : gateway.repository.chain request.chainName = .ok chain)
    (hbalancer : gateway.repository.balancer request.balancerId = .ok balancer)
    (hagree : Agree state other) :
    resolveAffinity other request chain balancer = resolveAffinity state request chain balancer ∧
      (resolveAffinity state request chain balancer).policy.isEmpty = true := by
  have heffective : other.affinity.effectivePolicy balancer.policy =
      state.affinity.effectivePolicy balancer.policy := by
    rw [Cache.effectivePolicy, hagree.settings_eq, Cache.effectivePolicy]
  simp only [resolveAffinity, Cache.resolve, heffective, hagree.defaults_eq]
  split
  · exact ⟨rfl, rfl⟩
  · next hpolicy =>
      split
      · exact ⟨rfl, rfl⟩
      · next hkey =>
          split
          · next hallows =>
              -- the origin is allowed and there is a key, so the right is not missing
              rcases hunentitled chain balancer hchain hbalancer with hempty | horigin | hnone
              · exact absurd hempty hpolicy
              · rw [horigin] at hallows
                cases hallows
              · exact absurd hnone hkey
          · exact ⟨rfl, rfl⟩

/-- Exchanging the affinity cache before an unentitled request is exchanging it afterwards. -/
theorem handle_withAffinity (backend : Backend σ)
    (hunentitled : Unentitled gateway state request route) {affinity : Cache}
    (hagree : Agree state (state.withAffinity affinity)) :
    gateway.handle backend (state.withAffinity affinity) route request =
      (gateway.handle backend state route request).map (·.withAffinity affinity) := by
  cases route with
  | application =>
      simp only [handle, relayForApplication]
      cases gateway.repository.application request.applicationId with
      | error error => rfl
      | ok application =>
          cases gateway.repository.chain request.chainName with
          | error error => rfl
          | ok chain => exact deliver_withAffinity rfl ..
  | balancer draw =>
      simp only [handle, relayForBalancer]
      cases hchain : gateway.repository.chain request.chainName with
      | error error => rfl
      | ok chain =>
          cases hbalancer : gateway.repository.balancer request.balancerId with
          | error error => rfl
          | ok balancer =>
              dsimp only
              -- what is remembered could only come in here
              obtain ⟨hsame, hpolicy⟩ :=
                resolveAffinity_of_unentitled hunentitled hchain hbalancer hagree
              rw [hsame]
              cases balancer.redirect with
              | true => rfl
              | false =>
                  cases chooseApplication balancer
                      (resolveAffinity state request chain balancer).preference.application
                      draw with
                  | error error => rfl
                  | ok application =>
                      exact deliver_withAffinity (by rwa [withChosen_policy]) ..

/-! ## Two gateways that remember different things -/

/-- The request ended alike from both states: with the same answer, except that each state keeps the
affinity cache it had, or with the same overflow. -/
inductive Alike (state other : State σ) :
    Except Fault (Answer σ α) → Except Fault (Answer σ α) → Prop
  | answered {first second : Answer σ α} (result_eq : second.result = first.result)
      (events_eq : second.events = first.events)
      (sessions_eq : second.state.sessions = first.state.sessions)
      (services_eq : second.state.services = first.state.services)
      (now_eq : second.state.now = first.state.now)
      (affinity_eq : first.state.affinity = state.affinity)
      (other_affinity_eq : second.state.affinity = other.affinity) :
      Alike state other (.ok first) (.ok second)
  | overflowed (fault : Fault) : Alike state other (.error fault) (.error fault)

/-- **Who has no right to stickiness neither reads nor writes affinity.**  From any two states that
agree in all but what their affinity caches remember, and with the same draw, an unentitled
request gives the same result and causes the same dispatches and relays; it leaves the same
sessions behind, and either affinity cache as it was. -/
theorem unentitled_indifferent (hunentitled : Unentitled gateway state request route)
    (hagree : Agree state other) :
    Alike state other (gateway.handle backend state route request)
      (gateway.handle backend other route request) := by
  have hother : other = state.withAffinity other.affinity := by
    cases other
    simp [State.withAffinity, ← hagree.sessions_eq, ← hagree.services_eq, ← hagree.now_eq]
  have hexchanged := handle_withAffinity backend hunentitled (hother ▸ hagree)
  -- exchanged for itself, the cache of the first state comes out as it went in
  have hitself : Agree state (state.withAffinity state.affinity) := ⟨rfl, rfl, rfl, rfl, rfl⟩
  have hkept := handle_withAffinity backend hunentitled hitself
  rw [← hother] at hexchanged
  rw [hexchanged]
  cases hhandle : gateway.handle backend state route request with
  | error fault => exact .overflowed fault
  | ok answer =>
      have hsame : gateway.handle backend (state.withAffinity state.affinity) route request =
          .ok answer := hhandle
      rw [hhandle, hsame] at hkept
      have haffinity := congrArg (fun answer => answer.state.affinity) (Except.ok.inj hkept)
      exact .answered rfl rfl rfl rfl rfl haffinity rfl

/-! ## A caller from elsewhere -/

/-- A request that differs from `calling` in its origin, which the policy does not allow. -/
def callingElsewhere : RelayRequest := { calling with origin := "elsewhere" }

/-- Nothing but the preference of the caller for the node `n` is remembered. -/
def remembering : State Unit :=
  (State.start {} () 0).withAffinity
    { items := Table.empty.insert callingKey { application := "a", node := "n" } }

theorem callingElsewhere_unentitled :
    Unentitled pooling (State.start {} () 0) callingElsewhere (.balancer 0) := by
  intro chain balancer _ hbalancer
  have hsole : pooling.repository.balancer callingElsewhere.balancerId =
      .ok { id := "lb", policy := { sticky := true, origins := ["example"] }
            applications := [{ id := "a" }] } := by rfl
  obtain rfl := eq_of_eq_ok hsole hbalancer
  exact Or.inr (Or.inl (by decide +kernel))

/-- The general statement at this request: it is relayed in the same way whether or not the caller
is remembered, and the caller stays remembered. -/
theorem unentitled_indifferent_elsewhere :
    ∃ first second,
      pooling.handle (refusing ["m", "n"]) (.start {} () 0) (.balancer 0) callingElsewhere =
        .ok first ∧
      pooling.handle (refusing ["m", "n"]) remembering (.balancer 0) callingElsewhere =
        .ok second ∧
      relaysOf first.events ≠ [] ∧ second.events = first.events ∧
      first.state.affinity.find? callingKey = none ∧
      second.state.affinity.find? callingKey = some { application := "a", node := "n" } := by
  have hagree : Agree (State.start {} () 0) remembering := ⟨rfl, rfl, rfl, rfl, rfl⟩
  have halike : Alike (State.start {} () 0) remembering
      (pooling.handle (refusing ["m", "n"]) (.start {} () 0) (.balancer 0) callingElsewhere)
      (pooling.handle (refusing ["m", "n"]) remembering (.balancer 0) callingElsewhere) :=
    unentitled_indifferent callingElsewhere_unentitled hagree
  have hrelays : ((pooling.handle (refusing ["m", "n"]) (.start {} () 0) (.balancer 0)
      callingElsewhere).toOption.map fun first => (relaysOf first.events).isEmpty) =
        some false := by
    decide +kernel
  obtain ⟨first, hfirst, hrelays⟩ := Option.map_eq_some_iff.mp hrelays
  rw [toOption_eq_some_iff] at hfirst
  cases hsecond : pooling.handle (refusing ["m", "n"]) remembering (.balancer 0)
      callingElsewhere with
  | error fault =>
      rw [hfirst, hsecond] at halike
      cases halike
  | ok second =>
      rw [hfirst, hsecond] at halike
      cases halike with
      | answered _ hevents _ _ _ haffinity hother =>
          refine ⟨first, second, hfirst, rfl, by simpa using hrelays, hevents, ?_, ?_⟩
          · rw [haffinity]
            rfl
          · rw [hother]
            rfl

end Gateway

end ChainGateway
