import ChainGateway.Proofs.Affinity.Report
import ChainGateway.Proofs.Gateway.Run
import ChainGateway.Proofs.Repository

/-!
# Stickiness over whole runs

An entry of the affinity cache is put together in three places: the choice of the application
names the application, the choice of the node names the node, and the report merges both with
what the cache knows.  A request that fails half way leaves an entry without a node behind.  This
file says that nevertheless every entry is true to the relays that were sent, and that relays
are true to the entries.

## Strategy

* **What stands behind an entry.**  `Founded` says of a preference under a key that its
  application is in the pool of the key's load balancer, and that its node, if it has one, was
  relayed to before, for this caller and with the token of this application.
* **One request keeps it.**  `Exit.reported` reads off the exits what a report is about, and
  `Resolved.prefers` what the details of a caller say: the cached preference, or the chosen
  application where nothing is cached.  What is settled between the two is founded
  (`Exit.founded_settle`), and every other entry stays as it was.
* **A run keeps it.**  `Run.founded` is the induction over the run.
* **What is cached stays.**  A report only completes a cached preference, so as long as there is
  an entry under the key its application stays, and so does its node once there is one
  (`Run.keeps`).  With this, each relay of the caller goes where the entry says
  (`Exit.relay_follows`).
-/

namespace ChainGateway.Gateway

open Affinity (Cache Details Key Outcome Preference)

variable {σ : Type} {gateway : Gateway} {backend : Backend σ} {state : State σ} {route : Route}
  {request : RelayRequest} {key : Key} {preference : Preference}

/-- The request goes to a load balancer and its caller is known by the key: the policy in effect
asks for stickiness and allows the origin of the request. -/
inductive Identified (gateway : Gateway) (state : State σ) (request : RelayRequest) :
    Route → Key → Prop
  | balancer {draw : Nat} {chain : Blockchain} {balancer : LoadBalancer}
      (hchain : gateway.repository.chain request.chainName = .ok chain)
      (hbalancer : gateway.repository.balancer request.balancerId = .ok balancer)
      (hpolicy : (state.affinity.effectivePolicy balancer.policy).isEmpty = false)
      (hkey : (Key.ofCaller request.rpcId balancer.id "" chain.id request.ip).isEmpty = false)
      (hallows : (state.affinity.effectivePolicy balancer.policy).allows request.origin = true) :
      Identified gateway state request (.balancer draw)
        (Key.ofCaller request.rpcId balancer.id "" chain.id request.ip)

/-- The application is the preferred one, and is in the pool of the key's load balancer. -/
def Preferred (gateway : Gateway) (key : Key) (preference : Preference)
    (application : Application) : Prop :=
  ∃ balancer, gateway.repository.balancer key.balancerId = .ok balancer ∧
    application ∈ balancer.applications ∧ application.id = preference.application

/-- A request of the caller sent a relay with the token of the application to a node with the
address. -/
def SentTo (gateway : Gateway) (history : List (Handled σ)) (key : Key)
    (application : Application) (address : String) : Prop :=
  ∃ handled ∈ history, Identified gateway handled.state handled.request handled.route key ∧
    ∃ relay ∈ handled.relays,
      relay.token = .ofApplication application gateway.plan ∧ relay.node.address = address

/-- What stands behind a preference. -/
def Founded (gateway : Gateway) (history : List (Handled σ)) (key : Key)
    (preference : Preference) : Prop :=
  ∃ application, Preferred gateway key preference application ∧
    (preference.node ≠ "" → SentTo gateway history key application preference.node)

/-- The relay goes to the session's node with the address, or else to its first node. -/
def Favours (relay : Relay) (address : String) : Prop :=
  relay.session.node? address = some relay.node ∨
    (∀ node ∈ relay.session.nodes, node.address ≠ address) ∧
      relay.session.firstNode? = some relay.node

theorem favours_of_chooseNode {relay : Relay} {address : String}
    (hnode : chooseNode relay.session address = .ok relay.node) : Favours relay address := by
  unfold chooseNode at hnode
  cases hpreferred : relay.session.node? address with
  | some node =>
      rw [hpreferred, Option.some_or] at hnode
      exact Or.inl (congrArg some (Except.ok.inj hnode) ▸ hpreferred)
  | none =>
      have hnone : ∀ node ∈ relay.session.nodes, node.address ≠ address := by
        intro node hnode
        simpa using List.find?_eq_none.mp hpreferred node hnode
      rw [hpreferred, Option.none_or] at hnode
      cases hfirst : relay.session.firstNode? with
      | some node =>
          rw [hfirst] at hnode
          exact Or.inr ⟨hnone, congrArg some (Except.ok.inj hnode) ▸ hfirst⟩
      | none =>
          rw [hfirst] at hnode
          cases hnode

theorem Preferred.unique {application other : Application}
    (hconsistent : gateway.repository.Consistent)
    (hfirst : Preferred gateway key preference application)
    (hsecond : Preferred gateway key preference other) : other = application := by
  obtain ⟨balancer, hbalancer, hmem, hid⟩ := hfirst
  obtain ⟨balancer', hbalancer', hother, hid'⟩ := hsecond
  obtain rfl := eq_of_eq_ok hbalancer hbalancer'
  exact hconsistent.eq_of_id_eq hbalancer hmem hother (hid'.trans hid.symm)

theorem Preferred.ne_empty {application : Application}
    (hconsistent : gateway.repository.Consistent)
    (hpreferred : Preferred gateway key preference application) :
    preference.application ≠ "" := by
  obtain ⟨balancer, hbalancer, hmem, hid⟩ := hpreferred
  rw [← hid]
  exact hconsistent.id_ne_empty hbalancer hmem

theorem SentTo.mono {history more : List (Handled σ)} {application : Application}
    {address : String} (hsent : SentTo gateway history key application address)
    (hsub : ∀ handled ∈ history, handled ∈ more) :
    SentTo gateway more key application address := by
  obtain ⟨handled, hmem, hrest⟩ := hsent
  exact ⟨handled, hsub handled hmem, hrest⟩

theorem Founded.mono {history more : List (Handled σ)}
    (hfounded : Founded gateway history key preference)
    (hsub : ∀ handled ∈ history, handled ∈ more) : Founded gateway more key preference := by
  obtain ⟨application, hpreferred, hsent⟩ := hfounded
  exact ⟨application, hpreferred, fun hnode => (hsent hnode).mono hsub⟩

/-! ## The details of a caller -/

/-- Who has a right to stickiness gets the cached preference, if there is one. -/
theorem resolveAffinity_eq {chain : Blockchain} {balancer : LoadBalancer}
    (hpolicy : (state.affinity.effectivePolicy balancer.policy).isEmpty = false)
    (hkey : (Key.ofCaller request.rpcId balancer.id "" chain.id request.ip).isEmpty = false)
    (hallows : (state.affinity.effectivePolicy balancer.policy).allows request.origin = true) :
    resolveAffinity state request chain balancer =
      { key := Key.ofCaller request.rpcId balancer.id "" chain.id request.ip
        policy := state.affinity.effectivePolicy balancer.policy
        preference := (state.affinity.find?
          (Key.ofCaller request.rpcId balancer.id "" chain.id request.ip)).getD {} } := by
  simp [resolveAffinity, Cache.resolve, hpolicy, hkey, hallows]

/-- Who has none gets an empty policy. -/
theorem of_resolveAffinity_policy {chain : Blockchain} {balancer : LoadBalancer}
    (hdetails : (resolveAffinity state request chain balancer).policy.isEmpty = false) :
    (state.affinity.effectivePolicy balancer.policy).isEmpty = false ∧
      (Key.ofCaller request.rpcId balancer.id "" chain.id request.ip).isEmpty = false ∧
      (state.affinity.effectivePolicy balancer.policy).allows request.origin = true := by
  unfold resolveAffinity Cache.resolve at hdetails
  dsimp only at hdetails
  split at hdetails
  · cases hdetails
  · next hpolicy =>
      split at hdetails
      · cases hdetails
      · next hkey =>
          split at hdetails
          · next hallows => exact ⟨eq_false_of_ne_true hpolicy, eq_false_of_ne_true hkey, hallows⟩
          · cases hdetails

@[simp] theorem withChosen_key (details : Details) (application : Application) :
    (withChosen details application).key = details.key := by
  unfold withChosen
  split <;> rfl

@[simp] theorem withChosen_policy (details : Details) (application : Application) :
    (withChosen details application).policy = details.policy := by
  unfold withChosen
  split <;> rfl

/-- A caller that prefers something already keeps to it. -/
theorem withChosen_of_prefers {details : Details} (hprefers : details.preference.isEmpty = false)
    (application : Application) : withChosen details application = details := by
  unfold withChosen
  rw [if_neg (by simp [hprefers])]

namespace Resolved

variable {chain : Blockchain} {application : Application} {details : Details}

/-- Details with a policy belong to a caller that is known by their key. -/
theorem identified (hresolved : Resolved gateway state request route chain application details)
    (hpolicy : details.policy.isEmpty = false) :
    Identified gateway state request route details.key := by
  cases hresolved with
  | application happlication hchain =>
      -- Requests for an application have the empty policy.
      cases hpolicy
  | balancer hchain hbalancer hredirect hchosen =>
      rw [withChosen_policy] at hpolicy
      obtain ⟨heffective, hkey, hallows⟩ := of_resolveAffinity_policy hpolicy
      rw [withChosen_key, resolveAffinity_eq heffective hkey hallows]
      exact .balancer hchain hbalancer heffective hkey hallows

/-- The details of a caller that is known by a key have this key, and a policy. -/
theorem of_identified (hresolved : Resolved gateway state request route chain application details)
    (hidentified : Identified gateway state request route key) :
    details.policy.isEmpty = false ∧ details.key = key := by
  cases hidentified with
  | balancer hchain hbalancer hpolicy hkey hallows =>
      cases hresolved with
      | balancer hchain' hbalancer' hredirect hchosen =>
          obtain rfl := eq_of_eq_ok hchain hchain'
          obtain rfl := eq_of_eq_ok hbalancer hbalancer'
          rw [withChosen_policy, withChosen_key, resolveAffinity_eq hpolicy hkey hallows]
          exact ⟨hpolicy, rfl⟩

/-- A caller prefers what is cached under its key, and the chosen application where nothing is.
In both cases this is the application that serves the request. -/
theorem prefers (hresolved : Resolved gateway state request route chain application details)
    (hconsistent : gateway.repository.Consistent) (hpolicy : details.policy.isEmpty = false)
    (hcached : ∀ known, state.affinity.find? details.key = some known →
      ∃ cached, Preferred gateway details.key known cached) :
    Preferred gateway details.key details.preference application ∧
      (state.affinity.find? details.key = some details.preference ∨
        state.affinity.find? details.key = none ∧
          details.preference = { application := application.id }) := by
  cases hresolved with
  | application happlication hchain => cases hpolicy
  | @balancer draw chain balancer application hchain hbalancer hredirect hchosen =>
      rw [withChosen_policy] at hpolicy
      obtain ⟨heffective, hkey, hallows⟩ := of_resolveAffinity_policy hpolicy
      rw [withChosen_key] at hcached ⊢
      rw [resolveAffinity_eq heffective hkey hallows] at hchosen hcached ⊢
      generalize hcaller : Key.ofCaller request.rpcId balancer.id "" chain.id request.ip = caller
        at hchosen hcached ⊢
      -- The key names the load balancer of the request, whose pool is the one chosen from.
      have hpool : gateway.repository.balancer caller.balancerId = .ok balancer := by
        rw [← hcaller]
        show gateway.repository.balancer balancer.id = .ok balancer
        rw [hconsistent.balancer_id hbalancer]
        exact hbalancer
      cases hfind : state.affinity.find? caller with
      | none =>
          have hmem := chooseApplication_mem hchosen
          have hundecided : ((none : Option Preference).getD {}).isEmpty = true := rfl
          rw [withChosen, if_pos hundecided]
          exact ⟨⟨balancer, hpool, hmem, rfl⟩, Or.inr ⟨rfl, rfl⟩⟩
      | some known =>
          -- What is cached is in the pool, so the choice falls on it and adds nothing.
          obtain ⟨cached, hpreferred⟩ := hcached known hfind
          have hne := hpreferred.ne_empty hconsistent
          have hprefers : known.isEmpty = false := by
            simp [Preference.isEmpty, hne]
          obtain ⟨balancer', hbalancer', hmem, hid⟩ := hpreferred
          obtain rfl := eq_of_eq_ok hpool hbalancer'
          simp only [hfind, Option.getD_some] at hchosen
          rw [chooseApplication, ← hid, hconsistent.application?_eq_some hpool hmem] at hchosen
          cases hchosen
          rw [withChosen_of_prefers hprefers]
          exact ⟨⟨balancer, hpool, hmem, hid⟩, Or.inl rfl⟩

end Resolved

/-! ## One request -/

/-- The report leads to an entry that was there before, or to the settled one. -/
theorem LeadsTo.find?_cases {before after : Cache} {now : Instant}
    {report? : Option (Details × Outcome)} (hleads : LeadsTo before now report? after)
    (hentry : after.find? key = some preference) :
    before.find? key = some preference ∨
      ∃ details outcome counter, report? = some (details, outcome) ∧
        details.policy.isEmpty = false ∧ details.key = key ∧
        preference = (before.settle details).withCounter outcome counter := by
  cases report? with
  | none =>
      rw [show after = before from hleads] at hentry
      exact Or.inl hentry
  | some report =>
      obtain ⟨details, outcome⟩ := report
      obtain ⟨reported, hreport⟩ := hleads
      rcases Cache.report_cases hreport with ⟨-, rfl⟩ | ⟨hpolicy, counter, -, rfl⟩
      · exact Or.inl hentry
      · rw [Cache.find?_recorded] at hentry
        split at hentry
        · next hkey =>
            split at hentry
            · -- The counter is past its limit, and the entry is gone.
              cases hentry
            · cases hentry
              exact Or.inr ⟨details, outcome, counter, rfl, hpolicy, hkey.symm, rfl⟩
        · exact Or.inl hentry

/-- A report completes what is cached under a key and changes none of its preferences. -/
theorem LeadsTo.keeps {before after : Cache} {now : Instant}
    {report? : Option (Details × Outcome)} {known : Preference}
    (hleads : LeadsTo before now report? after) (hknown : before.find? key = some known)
    (happlication : known.application ≠ "") (hentry : after.find? key = some preference) :
    preference.application = known.application ∧
      (known.node ≠ "" → preference.node = known.node) := by
  rcases hleads.find?_cases hentry with
    hsame | ⟨details, outcome, counter, -, -, rfl, rfl⟩
  · rw [hknown] at hsame
    cases hsame
    exact ⟨rfl, fun _ => rfl⟩
  · -- a report fills in what the entry lacks, and the entry lacks no application
    have hsettle : before.settle details = known.orElse details.preference := by
      unfold Cache.settle
      rw [hknown]
    rw [hsettle, Preference.application_withCounter, Preference.node_withCounter,
      Preference.application_orElse, Preference.node_orElse, if_neg happlication]
    exact ⟨rfl, fun hnode => if_neg hnode⟩

namespace Exit

variable {answer : Answer σ Unit} {relay : Relay} {relay? : Option Relay}
  {report? : Option (Details × Outcome)} {reported : Details} {outcome : Outcome}

/-- What a relay carries, and how its node was chosen. -/
theorem sends (hexit : Exit gateway backend state route request answer (some relay) report?) :
    ∃ chain application details,
      Resolved gateway state request route chain application details ∧
      relay.token = .ofApplication application gateway.plan ∧
      chooseNode relay.session details.preference.node = .ok relay.node := by
  cases hexit with
  | relayed hresolved hobtained hsession hnode hrelay hreport =>
      subst hrelay
      exact ⟨_, _, _, hresolved, rfl, hnode⟩

/-- A report is about the details of the request, completed by what served it.  A node that is
named in this way was relayed to. -/
theorem reports (hexit : Exit gateway backend state route request answer relay?
      (some (reported, outcome))) :
    ∃ chain application details extra,
      Resolved gateway state request route chain application details ∧
      reported = { details with preference := details.preference.orElse extra } ∧
      (extra.node ≠ "" → ∃ relay, relay? = some relay ∧
        relay.token = .ofApplication application gateway.plan ∧
        relay.node.address = extra.node) := by
  cases hexit with
  | @unobtained chain application details obtained error after hresolved hobtained hsession
      hreport =>
      refine ⟨chain, application, reported, {}, hresolved, ?_, fun hnode => absurd rfl hnode⟩
      rw [Preference.orElse_empty]
  | relayed hresolved hobtained hsession hnode hrelay hreport =>
      subst hrelay
      exact ⟨_, _, _, _, hresolved, rfl, fun _ => ⟨_, rfl, rfl, rfl⟩⟩

/-- What a report settles is founded, on the history before the request and the request itself. -/
theorem founded_settle {history : List (Handled σ)}
    (hexit : Exit gateway backend state route request answer relay? (some (reported, outcome)))
    (hconsistent : gateway.repository.Consistent) (hpolicy : reported.policy.isEmpty = false)
    (hfounded : ∀ key known, state.affinity.find? key = some known →
      Founded gateway history key known) :
    Founded gateway (history ++ [⟨backend, state, route, request, answer⟩]) reported.key
      (state.affinity.settle reported) := by
  have hrelays := hexit.relays
  obtain ⟨chain, application, details, extra, hresolved, rfl, hextra⟩ := hexit.reports
  have hidentified := hresolved.identified hpolicy
  obtain ⟨hpreferred, hcached⟩ := hresolved.prefers hconsistent hpolicy fun known hknown => by
    obtain ⟨cached, hpreferred, -⟩ := hfounded _ known hknown
    exact ⟨cached, hpreferred⟩
  have hknown : ∀ known, state.affinity.find? details.key = some known →
      details.preference = known := by
    intro known hfind
    rcases hcached with hsome | ⟨hnone, -⟩
    · rw [hsome] at hfind
      exact Option.some.inj hfind
    · rw [hnone] at hfind
      cases hfind
  obtain ⟨happlication, hnode⟩ := Cache.settle_orElse extra hknown
  rw [Preference.application_orElse, if_neg (hpreferred.ne_empty hconsistent)] at happlication
  rw [Preference.node_orElse] at hnode
  have hsettled : Preferred gateway details.key (state.affinity.settle
      { details with preference := details.preference.orElse extra }) application := by
    obtain ⟨balancer, hbalancer, hmem, hid⟩ := hpreferred
    exact ⟨balancer, hbalancer, hmem, hid.trans happlication.symm⟩
  refine ⟨application, hsettled, ?_⟩
  rw [hnode]
  by_cases hfresh : details.preference.node = ""
  · -- The node is the one that the request itself was relayed to.
    rw [if_pos hfresh]
    intro hne
    obtain ⟨relay, rfl, htoken, haddress⟩ := hextra hne
    refine ⟨_, List.mem_append_right _ (List.mem_singleton.mpr rfl), hidentified, relay, ?_,
      htoken, haddress⟩
    show relay ∈ relaysOf answer.events
    rw [hrelays]
    exact List.mem_singleton.mpr rfl
  · -- The node was cached before, together with the application.
    rw [if_neg hfresh]
    intro _
    have hfind : state.affinity.find? details.key = some details.preference := by
      rcases hcached with hsome | ⟨-, hchosen⟩
      · exact hsome
      · rw [hchosen] at hfresh
        exact absurd rfl hfresh
    obtain ⟨cached, hcached, hsent⟩ := hfounded _ _ hfind
    rw [hpreferred.unique hconsistent hcached] at hsent
    exact (hsent hfresh).mono fun _ hmem => List.mem_append_left _ hmem

/-- A relay of a caller with an entry carries the token of the entry's application and goes where
the entry says. -/
theorem relay_follows
    (hexit : Exit gateway backend state route request answer (some relay) report?)
    (hconsistent : gateway.repository.Consistent)
    (hidentified : Identified gateway state request route key)
    (hentry : state.affinity.find? key = some preference) {application : Application}
    (hpreferred : Preferred gateway key preference application) :
    relay.token = .ofApplication application gateway.plan ∧ Favours relay preference.node := by
  obtain ⟨chain, serving, details, hresolved, htoken, hnode⟩ := hexit.sends
  -- The request goes by the details it resolved to, and these have the entry as preference.
  obtain ⟨hpolicy, rfl⟩ := hresolved.of_identified hidentified
  have hknown : ∀ known, state.affinity.find? details.key = some known →
      ∃ cached, Preferred gateway details.key known cached := by
    intro known hfind
    rw [hentry] at hfind
    cases hfind
    exact ⟨application, hpreferred⟩
  obtain ⟨hserving, hcached⟩ := hresolved.prefers hconsistent hpolicy hknown
  have hsame : details.preference = preference := by
    rcases hcached with hsome | ⟨hnone, -⟩
    · rw [hentry] at hsome
      exact (Option.some.inj hsome).symm
    · rw [hentry] at hnone
      cases hnone
  rw [hsame] at hserving hnode
  rw [hpreferred.unique hconsistent hserving] at htoken
  exact ⟨htoken, favours_of_chooseNode hnode⟩

end Exit

/-! ## Whole runs -/

namespace Run

variable {start : State σ} {history : List (Handled σ)}

/-- Every entry is founded, in every state that a run reaches. -/
theorem founded (hrun : Run gateway start history state)
    (hconsistent : gateway.repository.Consistent)
    (hempty : ∀ key, start.affinity.find? key = none) (key : Key) (preference : Preference)
    (hentry : state.affinity.find? key = some preference) :
    Founded gateway history key preference := by
  induction hrun generalizing key preference with
  | start =>
      rw [hempty] at hentry
      cases hentry
  | wait ms hrun ih => exact ih key preference hentry
  | @serve history state answer backend route request hrun hanswer ih =>
      obtain ⟨relay?, report?, hexit⟩ := handle_exit hanswer
      rcases hexit.leadsTo.find?_cases hentry with
        hbefore | ⟨reported, outcome, counter, rfl, hpolicy, rfl, rfl⟩
      · exact (ih key preference hbefore).mono fun _ hmem => List.mem_append_left _ hmem
      · obtain ⟨application, hpreferred, hsent⟩ :=
          hexit.founded_settle hconsistent hpolicy ih
        -- Counting changes neither the application nor the node.
        refine ⟨application, ?_, ?_⟩
        · obtain ⟨balancer, hbalancer, hmem, hid⟩ := hpreferred
          exact ⟨balancer, hbalancer, hmem,
            hid.trans (Preference.application_withCounter ..).symm⟩
        · rw [Preference.node_withCounter]
          exact hsent

/-- As long as there is an entry under a key, its application stays, and so does its node once
there is one. -/
theorem keeps (hrun : Run gateway start history state) {known : Preference}
    (hknown : start.affinity.find? key = some known) (happlication : known.application ≠ "")
    (hcached : ∀ handled ∈ history, (handled.state.affinity.find? key).isSome)
    (hentry : state.affinity.find? key = some preference) :
    preference.application = known.application ∧
      (known.node ≠ "" → preference.node = known.node) := by
  induction hrun generalizing preference with
  | start =>
      rw [hknown] at hentry
      cases hentry
      exact ⟨rfl, fun _ => rfl⟩
  | wait ms hrun ih => exact ih hcached hentry
  | @serve history state answer backend route request hrun hanswer ih =>
      -- The key had an entry before this request, so the request can only have completed it.
      have hlast := hcached _ (List.mem_append_right _ (List.mem_singleton.mpr rfl))
      obtain ⟨current, hcurrent⟩ := Option.isSome_iff_exists.mp hlast
      obtain ⟨hsame, hnode⟩ := ih
        (fun handled hmem => hcached handled (List.mem_append_left _ hmem)) hcurrent
      obtain ⟨relay?, report?, hexit⟩ := handle_exit hanswer
      obtain ⟨hsame', hnode'⟩ := hexit.leadsTo.keeps hcurrent (hsame ▸ happlication) hentry
      refine ⟨hsame'.trans hsame, fun hne => ?_⟩
      have hstays := hnode hne
      rw [← hstays] at hne
      exact (hnode' hne).trans hstays

end Run

/-- Stickiness of a gateway that starts with empty caches over the entities of documents.  For
every entry in every reachable state: its application is in the pool of the key's load balancer;
its node, if any, was relayed to before, for this caller and with the token of this application;
and for as long as there is an entry under the key, every relay of the caller carries this token
and goes to the node of the entry, if the session has it, and else to the first one. -/
theorem run_sticky (config : Config) {applications : List Application}
    {chains : List Blockchain} {records : List BalancerRecord} (services : σ) (now : Instant)
    {history : List (Handled σ)} (hids : ∀ application ∈ applications, application.id ≠ "")
    (hrun : Run (ofConfig config (.ofDocuments applications chains records))
      (State.start config services now) history state)
    (hentry : state.affinity.find? key = some preference) :
    let gateway := ofConfig config (.ofDocuments applications chains records)
    ∃ application, Preferred gateway key preference application ∧
      (preference.node ≠ "" → SentTo gateway history key application preference.node) ∧
      ∀ future last, Run gateway state future last →
        (∀ handled ∈ future, (handled.state.affinity.find? key).isSome) →
        ∀ handled ∈ future,
          Identified gateway handled.state handled.request handled.route key →
          ∃ current, handled.state.affinity.find? key = some current ∧
            current.application = preference.application ∧
            (preference.node ≠ "" → current.node = preference.node) ∧
            ∀ relay ∈ handled.relays,
              relay.token = .ofApplication application gateway.plan ∧
              Favours relay current.node := by
  intro gateway
  have hconsistent : gateway.repository.Consistent := Repository.ofDocuments_consistent hids
  obtain ⟨application, hpreferred, hsent⟩ :=
    hrun.founded hconsistent (fun _ => rfl) key preference hentry
  refine ⟨application, hpreferred, hsent, ?_⟩
  intro future last hfuture hcached handled hmem hidentified
  -- the run up to this request keeps the entry, and the request itself follows it
  obtain ⟨current, hcurrent⟩ := Option.isSome_iff_exists.mp (hcached handled hmem)
  obtain ⟨earlier, hsub, hreached⟩ := hfuture.reaches hmem
  obtain ⟨hsame, hnode⟩ := hreached.keeps hentry (hpreferred.ne_empty hconsistent)
    (fun other hother => hcached other (hsub other hother)) hcurrent
  have hstays : Preferred gateway key current application := by
    obtain ⟨balancer, hbalancer, hpool, hid⟩ := hpreferred
    exact ⟨balancer, hbalancer, hpool, hid.trans hsame.symm⟩
  refine ⟨current, hcurrent, hsame, hnode, fun relay hrelay => ?_⟩
  obtain ⟨relay?, report?, hexit⟩ := handle_exit (hfuture.handle_eq hmem)
  have hhanded : relay ∈ relay?.toList := hexit.relays ▸ hrelay
  rw [Option.mem_toList] at hhanded
  cases hhanded
  exact hexit.relay_follows hconsistent hidentified hcurrent hstays

/-! ## A caller kept with a node that refuses -/

/-- Services with sessions of the given nodes, none of which serves a relay. -/
def refusing (addresses : List String) : Backend Unit where
  dispatch _ _ _ :=
    ({ outcome := .ok { key := "s", nodes := addresses.map fun address => { address } } }, ())
  relay _ _ := ({ outcome := .error (.relayFailed "refused") }, ())

/-- A gateway with one application, in the pool of one load balancer. -/
def pooling : Gateway :=
  ofConfig {} (.ofDocuments [{ id := "a" }] [{ id := "0001" }]
    [{ id := "lb", applicationIds := ["a"], policy := { sticky := true, origins := ["example"] } }])

/-- A request whose origin the policy allows. -/
def calling : RelayRequest := { origin := "example", chainName := "0001", balancerId := "lb" }

/-- The key of the caller. -/
def callingKey : Key := { balancerId := "lb", chainId := "0001" }

/-- A first request that only finds the node `n`. -/
def firstCall : Except Fault (Answer Unit Unit) :=
  pooling.handle (refusing ["n"]) (.start {} () 0) (.balancer 0) calling

/-- The state in which the session of the first request has ended. -/
def afterFirstCall (first : Answer Unit Unit) : State Unit :=
  { first.state with now := first.state.now + 60001 }

/-- A second request that finds the node `m` before the node `n`. -/
def secondCall (first : Answer Unit Unit) : Except Fault (Answer Unit Unit) :=
  pooling.handle (refusing ["m", "n"]) (afterFirstCall first) (.balancer 0) calling

theorem calling_identified (state : State Unit) :
    Identified pooling state calling (.balancer 0) callingKey := by
  have hfind : (pooling.repository.chains.find? fun chain => chain.isNamed calling.chainName) =
      some { id := "0001" } := by decide +kernel
  have hchain : pooling.repository.chain calling.chainName = .ok { id := "0001" } := by
    rw [Repository.chain, hfind]
  have hbalancer : pooling.repository.balancer calling.balancerId =
      .ok { id := "lb", policy := { sticky := true, origins := ["example"] }
            applications := [{ id := "a" }] } := by rfl
  exact .balancer hchain hbalancer rfl rfl rfl

/-- The general statement at a caller whose first request failed at the node `n`: the next one
goes back there, although its session has the node `m` first. -/
theorem run_sticky_refused :
    ∃ first second preference application,
      firstCall = .ok first ∧ secondCall first = .ok second ∧
      first.state.affinity.find? callingKey = some preference ∧ preference.node = "n" ∧
      Preferred pooling callingKey preference application ∧
      relaysOf second.events ≠ [] ∧
      ∀ relay ∈ relaysOf second.events,
        relay.token = .ofApplication application pooling.plan ∧ Favours relay "n" := by
  have hcomputed : (firstCall.toOption.bind fun first =>
      (secondCall first).toOption.map fun second =>
        (first.state.affinity.find? callingKey, (relaysOf second.events).isEmpty)) =
      some (some { application := "a", node := "n"
                   errors := { count := 1, endsAt? := some 60000 } }, false) := by
    decide +kernel
  obtain ⟨first, hfirst, hcomputed⟩ := Option.bind_eq_some_iff.mp hcomputed
  obtain ⟨second, hsecond, hcomputed⟩ := Option.map_eq_some_iff.mp hcomputed
  obtain ⟨hentry, hrelays⟩ := Prod.mk.inj hcomputed
  rw [toOption_eq_some_iff] at hfirst hsecond
  have hrun : Run pooling (.start {} () 0) _ first.state :=
    .serve (refusing ["n"]) (.balancer 0) calling .start hfirst
  -- the second request comes when the window of the failure has ended
  have hfuture : Run pooling first.state _ second.state :=
    .serve (refusing ["m", "n"]) (.balancer 0) calling (.wait 60001 .start) hsecond
  obtain ⟨application, hpreferred, -, hsticky⟩ := run_sticky {} () 0 (by decide) hrun hentry
  have hcached : (first.state.affinity.find? callingKey).isSome := by rw [hentry]; rfl
  obtain ⟨current, -, -, hnode, hfollows⟩ := hsticky _ _ hfuture
    (fun handled hmem => by
      rw [List.nil_append, List.mem_singleton] at hmem
      subst hmem
      exact hcached)
    _ (List.mem_singleton.mpr rfl) (calling_identified _)
  rw [hnode (by decide)] at hfollows
  exact ⟨first, second, _, application, hfirst, hsecond, hentry, rfl, hpreferred,
    by simpa using hrelays, hfollows⟩

end ChainGateway.Gateway
