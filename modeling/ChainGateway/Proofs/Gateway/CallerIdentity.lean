import ChainGateway.Proofs.Gateway.Stickiness

/-!
# What identifies the caller of a load balancer

A caller of a load balancer is known by the load balancer, the chain and the address it calls from.
The number of its request, an application that the request also names and the name by which it
calls the chain say nothing about it: two requests that differ in nothing else are handled alike, to
the last detail, and the affinity cache never holds more than one entry for a caller
(`callers_not_split`).

## Strategy

The number and the name of the chain are read in one place each: the name is resolved before
anything else, and the number only goes into the key, which drops it for a load balancer with an id
(`ofCaller_of_ne_empty`).  What follows works on resolved entities.  For the entries, every key in
the cache was made in this place (`Run.key_ofCaller`), so of two keys with the same load balancer,
chain and address neither has a number left in which they could differ.
-/

namespace ChainGateway

open Affinity (Key)

/-- The requests differ at most in their numbers, in the applications they name and in how they name
the chain. -/
structure RelayRequest.SameCaller (request other : RelayRequest) : Prop where
  origin_eq : other.origin = request.origin
  method_eq : other.method = request.method
  data_eq : other.data = request.data
  ip_eq : other.ip = request.ip
  path_eq : other.path = request.path
  balancerId_eq : other.balancerId = request.balancerId

/-- The key of a caller of a load balancer with an id has no number. -/
theorem Affinity.Key.ofCaller_of_ne_empty {balancerId : String} (hid : balancerId ≠ "")
    (rpcId : Int) (chainId ip : String) :
    Key.ofCaller rpcId balancerId "" chainId ip = { balancerId, chainId, ip } := by
  simp [Key.ofCaller, hid]

namespace Gateway

variable {σ : Type} {gateway : Gateway} {backend : Backend σ} {start state : State σ}
  {history : List (Handled σ)} {request other : RelayRequest} {chain : Blockchain}
  {balancer : LoadBalancer}

/-- Requests of the same caller have the same affinity. -/
theorem resolveAffinity_of_sameCaller (hsame : request.SameCaller other) (hid : balancer.id ≠ "") :
    resolveAffinity state other chain balancer = resolveAffinity state request chain balancer := by
  unfold resolveAffinity
  rw [Key.ofCaller_of_ne_empty hid, Key.ofCaller_of_ne_empty hid, hsame.ip_eq, hsame.origin_eq]

/-- Requests of the same caller are delivered alike, once they are resolved. -/
theorem deliver_of_sameCaller (hsame : request.SameCaller other) (application : Application)
    (details : Affinity.Details) :
    gateway.deliver backend state other chain application details =
      gateway.deliver backend state request chain application details := by
  have hrelay : ∀ session node, relayFor gateway other chain application session node =
      relayFor gateway request chain application session node := by
    intro session node
    simp only [relayFor, hsame.method_eq, hsame.data_eq, hsame.path_eq]
  simp only [deliver_eq, hrelay]

theorem handle_of_sameCaller (hsame : request.SameCaller other)
    (hchain : gateway.repository.chain request.chainName = .ok chain)
    (hother : gateway.repository.chain other.chainName = .ok chain)
    (hbalancer : gateway.repository.balancer request.balancerId = .ok balancer)
    (hid : balancer.id ≠ "") (draw : Nat) :
    gateway.handle backend state (.balancer draw) other =
      gateway.handle backend state (.balancer draw) request := by
  simp only [handle, relayForBalancer, hchain, hother, hsame.balancerId_eq, hbalancer,
    resolveAffinity_of_sameCaller hsame hid, deliver_of_sameCaller hsame]

/-! ## Keys of the affinity cache -/

/-- In whatever a run from an empty cache reaches, each key is that of a caller of a load
balancer. -/
theorem Run.key_ofCaller (hrun : Run gateway start history state)
    (hempty : ∀ key, start.affinity.find? key = none) {key : Key} {preference : Affinity.Preference}
    (hentry : state.affinity.find? key = some preference) :
    ∃ rpcId, key = Key.ofCaller rpcId key.balancerId "" key.chainId key.ip := by
  induction hrun generalizing preference with
  | start =>
      rw [hempty] at hentry
      cases hentry
  | wait ms hrun ih => exact ih hentry
  | serve backend route request hrun hanswer ih =>
      obtain ⟨relay?, report?, hexit⟩ := handle_exit hanswer
      -- the entry was there before, or a report has put it under the key of its caller
      rcases hexit.leadsTo.find?_cases hentry with
        hbefore | ⟨reported, outcome, counter, rfl, hpolicy, rfl, -⟩
      · exact ih hbefore
      · obtain ⟨chain, application, details, extra, hresolved, rfl, -⟩ := hexit.reports
        have hidentified := hresolved.identified hpolicy
        generalize details.key = key at hidentified
        cases hidentified with
        | balancer hchain hbalancer hpolicy hkey hallows => exact ⟨_, rfl⟩

/-- **What does not identify a caller does not split it.**  From any state, two requests of the same
caller to a load balancer with an id, whose names for the chain resolve to the same one, have the
same answer, cause the same dispatches and relays and leave the same state behind.  In whatever
state a gateway reaches that started with empty caches, there is at most one entry for each load
balancer with an id, chain and address. -/
theorem callers_not_split :
    (∀ (gateway : Gateway) (backend : Backend σ) (state : State σ) (draw : Nat)
        (request other : RelayRequest) (chain : Blockchain) (balancer : LoadBalancer),
      request.SameCaller other →
      gateway.repository.chain request.chainName = .ok chain →
      gateway.repository.chain other.chainName = .ok chain →
      gateway.repository.balancer request.balancerId = .ok balancer → balancer.id ≠ "" →
      gateway.handle backend state (.balancer draw) other =
        gateway.handle backend state (.balancer draw) request) ∧
      ∀ (gateway : Gateway) (config : Config) (services : σ) (now : Instant)
        (history : List (Handled σ)) (state : State σ),
        Run gateway (.start config services now) history state →
        ∀ balancerId chainId ip : String, balancerId ≠ "" →
          (state.affinity.items.filter fun key _ =>
            key.balancerId = balancerId && key.chainId = chainId && key.ip = ip).size ≤ 1 := by
  refine ⟨fun gateway backend state draw request other chain balancer hsame hchain hother
    hbalancer hid => handle_of_sameCaller hsame hchain hother hbalancer hid draw, ?_⟩
  intro gateway config services now history state hrun balancerId chainId ip hid
  -- Every entry that is left has the one key that a caller can have.
  have hkey : ∀ entry ∈ (state.affinity.items.filter fun key _ =>
      key.balancerId = balancerId && key.chainId = chainId && key.ip = ip).entries,
      entry.1 = { balancerId, chainId, ip } := by
    rintro ⟨key, preference⟩ hentry
    obtain ⟨hmem, hkept⟩ := Table.mem_entries_filter.mp hentry
    simp only [Bool.and_eq_true, decide_eq_true_eq] at hkept
    obtain ⟨⟨rfl, rfl⟩, rfl⟩ := hkept
    obtain ⟨rpcId, hkey⟩ := hrun.key_ofCaller (fun _ => rfl) (Table.find?_of_mem_entries hmem)
    rw [Key.ofCaller_of_ne_empty hid] at hkey
    exact hkey
  exact Table.size_le_one fun first hfirst second hsecond =>
    (hkey first hfirst).trans (hkey second hsecond).symm

/-! ## A caller that calls the chain by two names -/

/-- A gateway with one load balancer, and with one chain that has an alias. -/
def aliased : Gateway :=
  ofConfig {} (.ofDocuments [{ id := "a" }] [{ id := "0001", aliases := ["eth"] }]
    [{ id := "lb", applicationIds := ["a"], policy := { sticky := true, origins := ["example"] } }])

/-- The request `calling` with the chain called by its alias, a number and an application. -/
def callingByAlias : RelayRequest :=
  { calling with chainName := "ETH", rpcId := 7, applicationId := "b" }

/-- The answer to a request that meets the given state and finds the node `n`. -/
def answerTo (request : RelayRequest) (state : State Unit) : Except Fault (Answer Unit Unit) :=
  aliased.handle (refusing ["n"]) state (.balancer 0) request

theorem chain_aliased (name : String)
    (hname : Text.foldCase name = "0001" ∨ Text.foldCase name = "eth") :
    aliased.repository.chain name = .ok { id := "0001", aliases := ["eth"] } := by
  have hfold : Text.foldCase "0001" = "0001" ∧ Text.foldCase "eth" = "eth" := by decide +kernel
  have hnamed : (Blockchain.mk "0001" ["eth"] "" "" "" "" false).isNamed name = true := by
    rcases hname with hname | hname <;>
      simp [Blockchain.isNamed, Text.equalIgnoringCase_iff, hname, hfold]
  have hfind : (aliased.repository.chains.find? fun chain => chain.isNamed name) =
      some { id := "0001", aliases := ["eth"] } := List.find?_cons_of_pos hnamed
  rw [Repository.chain, hfind]

/-- The general statement at these two requests, from the same state: the second is handled as the
first would be, and after both there is one entry for their caller. -/
theorem callers_not_split_aliased :
    ∃ first second,
      answerTo calling (.start {} () 0) = .ok first ∧
      answerTo callingByAlias (.start {} () 0) = .ok first ∧
      answerTo callingByAlias first.state = .ok second ∧
      (second.state.affinity.find? callingKey).isSome ∧
      (second.state.affinity.items.filter fun key _ =>
        key.balancerId = "lb" && key.chainId = "0001" && key.ip = "").size ≤ 1 := by
  have hcomputed : ((answerTo calling (.start {} () 0)).toOption.bind fun first =>
      (answerTo calling first.state).toOption.map fun second =>
        (second.state.affinity.find? callingKey).isSome) = some true := by
    decide +kernel
  obtain ⟨first, hfirst, hcomputed⟩ := Option.bind_eq_some_iff.mp hcomputed
  obtain ⟨second, hsecond, hentry⟩ := Option.map_eq_some_iff.mp hcomputed
  rw [toOption_eq_some_iff] at hfirst hsecond
  have hchain := chain_aliased calling.chainName (Or.inl (by decide +kernel))
  have hother := chain_aliased callingByAlias.chainName <| Or.inr <| by
    rw [← String.toList_inj, Text.foldCase, String.toList_map]
    rfl
  have hbalancer : aliased.repository.balancer calling.balancerId =
      .ok { id := "lb", policy := { sticky := true, origins := ["example"] }
            applications := [{ id := "a" }] } := by rfl
  have hsame : calling.SameCaller callingByAlias := ⟨rfl, rfl, rfl, rfl, rfl, rfl⟩
  obtain ⟨halike, hone⟩ := callers_not_split (σ := Unit)
  have hagain : ∀ state, answerTo callingByAlias state = answerTo calling state := fun state =>
    halike aliased (refusing ["n"]) state 0 calling callingByAlias _ _ hsame hchain hother
      hbalancer (by decide)
  rw [← hagain] at hsecond
  have hrun : Run aliased (.start {} () 0) _ second.state :=
    .serve (refusing ["n"]) (.balancer 0) callingByAlias
      (.serve (refusing ["n"]) (.balancer 0) calling .start hfirst) hsecond
  exact ⟨first, second, hfirst, (hagain _).trans hfirst, hsecond, hentry,
    hone aliased {} () 0 _ _ hrun "lb" "0001" "" (by decide)⟩

end Gateway

end ChainGateway
