import ChainGateway.Proofs.Affinity.Callers
import ChainGateway.Proofs.Gateway.Stickiness
import ChainGateway.Proofs.SessionCache.Overlap

/-!
# Which configurations the caches honour

A configuration promises a bound on the sessions that are kept, and two durations that are added to
the clock: the lifetime of a session whenever one is kept, and the window of a counter whenever one
is opened.  The caches honour it up to an instant if no run keeps more sessions than the bound, and
nothing that reads the clock no later than that instant passes its end (`HonouredUntil`).

This is so exactly if the bound is not zero and both durations, added to the instant, lie before the
end of the clock.  Being accepted requires nothing of that (`honouredUntil_iff`), and there are
accepted configurations that fail with the first request (`accepted_not_honoured`).

## Strategy

Every overflow of the clock is traced back to the reading that a duration was added to: for a
request these are its `Reads`, for calls and callers that overlap the instant of their step.  The
settings of the caches never change, and `SessionCache.insert_size_le` bounds the sessions
(`Kept`).  In the other direction, three requests find each of the conditions out.
-/

namespace ChainGateway

open Affinity (Cache Callers Counter Details Outcome)

/-! ## Additions to the clock -/

/-- A session cannot be kept only if its lifetime passes the clock. -/
theorem SessionCache.insert_eq_error_iff {cache : SessionCache} {key : SessionKey}
    {session : Session} {now : Instant} {fault : Fault} :
    cache.insert key session now = .error fault ↔
      fault = .clockOverflow ∧ clockLimit ≤ now + 1000 * cache.settings.lifetime.toNat := by
  rw [insert, map_eq_error_iff, Instant.after?_eq_error_iff]

namespace Affinity

theorem Cache.le_of_report_eq_error {cache : Cache} {details : Details} {outcome : Outcome}
    {now : Instant} (hfault : cache.report details outcome now = .error .clockOverflow) :
    clockLimit ≤ now + 1000 * cache.settings.window.toNat := by
  cases hpolicy : details.policy.isEmpty with
  | true =>
      rw [report_of_isEmpty cache details outcome now hpolicy] at hfault
      cases hfault
  | false =>
      rw [report_eq cache details outcome now hpolicy, map_eq_error_iff] at hfault
      exact (Counter.increment_eq_clockOverflow_iff.mp hfault).2

/-- A report leaves the settings as they are. -/
theorem Cache.settings_of_report {cache after : Cache} {details reported : Details}
    {outcome : Outcome} {now : Instant}
    (hreport : cache.report details outcome now = .ok (after, reported)) :
    after.settings = cache.settings := by
  rcases report_cases hreport with ⟨-, rfl⟩ | ⟨-, counter, -, rfl⟩
  · rfl
  · rfl

namespace Callers

theorem settings_of_trace {settings : StickySettings} {start : Instant} {history : List Step}
    {state : Callers} (htrace : Trace (StepsOf step) (Callers.start settings start) history state) :
    state.cache.settings = settings := by
  refine htrace.invariant (P := fun state => state.cache.settings = settings) rfl ?_
  intro state action next hsettings hstep
  cases moves_of_step hstep with
  | waited | resolved | completed => exact hsettings
  | reported hheld hreport => exact (Cache.settings_of_report hreport).trans hsettings

/-- A step of callers passes the clock only if the window passes it now. -/
theorem le_of_step_eq_error {state : Callers} {action : Action}
    (hfault : state.step action = .error .clockOverflow) :
    clockLimit ≤ state.now + 1000 * state.cache.settings.window.toNat := by
  cases action with
  | wait | resolve => cases hfault
  | complete place extra =>
      simp only [step] at hfault
      split at hfault <;> cases hfault
  | report place outcome =>
      simp only [step] at hfault
      split at hfault
      · exact Cache.le_of_report_eq_error (map_eq_error_iff.mp hfault)
      · cases hfault

end Callers

end Affinity

/-- A call ends the program only where it keeps a session. -/
theorem SessionCall.stage_of_step_eq_error {call : SessionCall} {cache : SessionCache}
    {action : Action} {fault : Fault} (hfault : call.step cache action = .error fault) :
    ∃ session completed, call.stage = .dispatched session completed ∧
      clockLimit ≤ completed + 1000 * cache.settings.lifetime.toNat := by
  obtain ⟨-, session, completed, hstage, hinsert⟩ := step_eq_error_iff.mp hfault
  exact ⟨session, completed, hstage, (SessionCache.insert_eq_error_iff.mp hinsert).2⟩

/-- A step of calls passes the clock only if the lifetime passes it now: a session that is kept
was dispatched no later. -/
theorem Calls.le_of_step_eq_error {settings : SessionSettings} {history : List Step}
    {state : Calls} {action : Action} {fault : Fault} (hsound : Sound settings history state)
    (hfault : state.step action = .error fault) :
    clockLimit ≤ state.now + 1000 * settings.lifetime.toNat := by
  cases action with
  | wait | begin => cases hfault
  | call place event =>
      simp only [step] at hfault
      split at hfault
      · next call hcall =>
          obtain ⟨session, completed, hstage, hlate⟩ :=
            SessionCall.stage_of_step_eq_error (map_eq_error_iff.mp hfault)
          -- the session was dispatched to this call, and no later than now
          have hexplained := hsound.explained place call hcall
          simp only [Explained, hstage] at hexplained
          obtain ⟨⟨moment, hmem, -, hdispatch⟩, -⟩ := hexplained
          have hcompleted : completed ≤ state.now :=
            hsound.completed_le _ (List.mem_filterMap.mpr ⟨moment, hmem, hdispatch⟩)
          rw [hsound.settings_eq] at hlate
          exact Nat.le_trans hlate (Nat.add_le_add_right hcompleted _)
      · cases hfault

namespace Gateway

variable {σ : Type}

/-! ## Requests -/

/-- The instants that a request adds a duration to: the lifetime when it keeps a session, and the
window when it reports. -/
inductive Reads (gateway : Gateway) (backend : Backend σ) (state : State σ) (route : Route)
    (request : RelayRequest) : Instant → Prop
  | kept {chain : Blockchain} {application : Application} {details : Details} {session : Session}
      (hresolved : Resolved gateway state request route chain application details)
      (hmissed : state.sessions.lookup
        { publicKey := application.credentials.applicationKey, chain := chain.id } state.now = none)
      (hdispatched : (backend.dispatch state.services application.credentials.applicationKey
        chain.id).1.outcome = .ok session) :
      Reads gateway backend state route request
        (state.now + (backend.dispatch state.services application.credentials.applicationKey
          chain.id).1.delay)
  | unobtained {chain : Blockchain} {application : Application} {details : Details}
      {obtained : Answer σ Session} {error : Error}
      (hresolved : Resolved gateway state request route chain application details)
      (hobtained : Obtains backend state application chain obtained)
      (hsession : obtained.result = .error error) :
      Reads gateway backend state route request obtained.state.now
  | relayed {chain : Blockchain} {application : Application} {details : Details}
      {obtained : Answer σ Session} {session : Session} {node : Node}
      (hresolved : Resolved gateway state request route chain application details)
      (hobtained : Obtains backend state application chain obtained)
      (hsession : obtained.result = .ok session)
      (hnode : chooseNode session details.preference.node = .ok node) :
      Reads gateway backend state route request
        (afterRelay backend obtained.state
          (relayFor gateway request chain application session node)).now

/-- Obtaining a session ends the program exactly if one is dispatched whose lifetime passes the
clock. -/
theorem session_eq_error_iff {backend : Backend σ} {state : State σ} {publicKey chain : String}
    {fault : Fault} :
    session backend state publicKey chain = .error fault ↔
      state.sessions.lookup { publicKey, chain } state.now = none ∧
        (∃ session, (backend.dispatch state.services publicKey chain).1.outcome = .ok session) ∧
        fault = .clockOverflow ∧
        clockLimit ≤ state.now + (backend.dispatch state.services publicKey chain).1.delay +
          1000 * state.sessions.settings.lifetime.toNat := by
  unfold session
  dsimp only
  cases hlookup : state.sessions.lookup { publicKey, chain } state.now with
  | some session => simp
  | none =>
      cases houtcome : (backend.dispatch state.services publicKey chain).1.outcome with
      | error error => simp
      | ok session => simp [map_eq_error_iff, SessionCache.insert_eq_error_iff]

/-- All that obtaining a session does to the cache and the clock: a live one is found, or time
passes until the service has answered, and its session is kept if there is one. -/
theorem session_cases {backend : Backend σ} {state : State σ} {publicKey chain : String}
    {obtained : Answer σ Session}
    (hobtained : session backend state publicKey chain = .ok obtained) :
    obtained.state.sessions = state.sessions ∧ obtained.state.now = state.now ∨
      obtained.state.now =
          state.now + (backend.dispatch state.services publicKey chain).1.delay ∧
        (obtained.state.sessions = state.sessions ∨
          ∃ session, state.sessions.insert { publicKey, chain } session obtained.state.now =
            .ok obtained.state.sessions) := by
  unfold session at hobtained
  dsimp only at hobtained
  split at hobtained
  · cases hobtained
    exact Or.inl ⟨rfl, rfl⟩
  · split at hobtained
    · cases hobtained
      exact Or.inr ⟨rfl, Or.inl rfl⟩
    · obtain ⟨sessions, hinsert, rfl⟩ := map_eq_ok_iff.mp hobtained
      exact Or.inr ⟨rfl, Or.inr ⟨_, hinsert⟩⟩

/-- A request leaves the sessions as they are or keeps one more. -/
theorem Exit.sessions_cases {gateway : Gateway} {backend : Backend σ} {state : State σ}
    {route : Route} {request : RelayRequest} {answer : Answer σ Unit} {relay? : Option Relay}
    {report? : Option (Details × Outcome)}
    (hexit : Exit gateway backend state route request answer relay? report?) :
    answer.state.sessions = state.sessions ∨
      ∃ key session now, state.sessions.insert key session now = .ok answer.state.sessions := by
  have hobtains : ∀ {application : Application} {chain : Blockchain} {obtained : Answer σ Session},
      Obtains backend state application chain obtained →
      obtained.state.sessions = state.sessions ∨
        ∃ key session now, state.sessions.insert key session now =
          .ok obtained.state.sessions := by
    intro application chain obtained hobtained
    rcases session_cases hobtained with ⟨hsame, -⟩ | ⟨-, hsame | ⟨session, hinsert⟩⟩
    · exact Or.inl hsame
    · exact Or.inl hsame
    · exact Or.inr ⟨_, session, _, hinsert⟩
  -- only the call for a session touches the sessions, reports do not
  cases hexit with
  | refused hrefused => exact Or.inl rfl
  | nodeless hresolved hobtained hsession hnodes => exact hobtains hobtained
  | unobtained hresolved hobtained hsession hreport =>
      rw [(report_frame hreport).2.1]
      exact hobtains hobtained
  | relayed hresolved hobtained hsession hnode hrelay hreport =>
      rw [(report_frame hreport).2.1]
      exact hobtains hobtained

/-- What holds of a gateway of a configuration at all times. -/
structure Kept (config : Config) (state : State σ) : Prop where
  sessions_settings : state.sessions.settings = config.session
  affinity_settings : state.affinity.settings = config.sticky
  size_le : state.sessions.size ≤ max 1 config.session.capacity.toNat

variable {config : Config} {gateway : Gateway} {backend : Backend σ} {state : State σ}
  {route : Route} {request : RelayRequest}

theorem LeadsTo.settings_eq {before after : Cache} {now : Instant}
    {report? : Option (Details × Outcome)} (hleads : LeadsTo before now report? after) :
    after.settings = before.settings := by
  cases report? with
  | none => rw [hleads]
  | some report =>
      obtain ⟨reported, hreport⟩ := hleads
      exact Cache.settings_of_report hreport

theorem Kept.handled (hkept : Kept config state) {answer : Answer σ Unit}
    (hanswer : gateway.handle backend state route request = .ok answer) :
    Kept config answer.state := by
  obtain ⟨relay?, report?, hexit⟩ := handle_exit hanswer
  have haffinity := hexit.leadsTo.settings_eq.trans hkept.affinity_settings
  rcases hexit.sessions_cases with hsame | ⟨key, session, now, hinsert⟩
  · exact ⟨by rw [hsame]; exact hkept.sessions_settings, haffinity,
      by rw [hsame]; exact hkept.size_le⟩
  · obtain ⟨hsettings, hsize⟩ := SessionCache.insert_size_le hinsert
    have hbefore := hkept.size_le
    rw [hkept.sessions_settings] at hsettings hsize
    exact ⟨hsettings, haffinity, by omega⟩

theorem Run.kept {services : σ} {start : Instant} {history : List (Handled σ)}
    (hrun : Run gateway (.start config services start) history state) : Kept config state := by
  induction hrun with
  | start => exact ⟨rfl, rfl, Nat.zero_le _⟩
  | wait ms hrun ih => exact ⟨ih.sessions_settings, ih.affinity_settings, ih.size_le⟩
  | serve backend route request hrun hanswer ih => exact ih.handled hanswer

/-- A request passes the clock only with a duration that passes it from one of its readings. -/
theorem Kept.exists_reads (hkept : Kept config state)
    (hfault : gateway.handle backend state route request = .error .clockOverflow) :
    ∃ now, Reads gateway backend state route request now ∧
      (clockLimit ≤ now + 1000 * config.session.lifetime.toNat ∨
        clockLimit ≤ now + 1000 * config.sticky.window.toNat) := by
  -- a report that fails does so with the window of the configuration
  have hreported : ∀ {before : State σ} {details : Details} {outcome : Outcome},
      before.affinity = state.affinity → report before details outcome = .error .clockOverflow →
      clockLimit ≤ before.now + 1000 * config.sticky.window.toNat := by
    intro before details outcome haffinity hreport
    have hlate := Cache.le_of_report_eq_error (map_eq_error_iff.mp hreport)
    rwa [haffinity, hkept.affinity_settings] at hlate
  cases handle_eq_error_iff.mp hfault with
  | session hresolved hsession =>
      obtain ⟨hmissed, ⟨session, hdispatched⟩, -, hlate⟩ := session_eq_error_iff.mp hsession
      rw [hkept.sessions_settings] at hlate
      exact ⟨_, .kept hresolved hmissed hdispatched, Or.inl hlate⟩
  | unobtained hresolved hobtained hsession hreport =>
      exact ⟨_, .unobtained hresolved hobtained hsession,
        Or.inr (hreported (session_frame hobtained).1 hreport)⟩
  | relayed hresolved hobtained hsession hnode hrelay hreport =>
      subst hrelay
      exact ⟨_, .relayed hresolved hobtained hsession hnode,
        Or.inr (hreported (session_frame hobtained).1 hreport)⟩

/-! ## Honouring a configuration -/

/-- The caches honour a configuration as long as the clock reads no more than `latest`. -/
structure HonouredUntil (config : Config) (latest : Instant) : Prop where
  /-- A gateway keeps no more sessions than the configuration allows. -/
  bounded : ∀ {σ : Type} (repository : Repository) (services : σ) (start : Instant)
    (history : List (Handled σ)) (state : State σ),
    Run (ofConfig config repository) (.start config services start) history state →
      state.sessions.size ≤ config.session.capacity.toNat
  /-- No request passes the clock. -/
  handles : ∀ {σ : Type} (repository : Repository) (services : σ) (start : Instant)
    (history : List (Handled σ)) (state : State σ),
    Run (ofConfig config repository) (.start config services start) history state →
      ∀ (backend : Backend σ) (route : Route) (request : RelayRequest),
        (∀ now, Reads (ofConfig config repository) backend state route request now →
          now ≤ latest) →
        (ofConfig config repository).handle backend state route request ≠ .error .clockOverflow
  /-- Calls for sessions that overlap keep no more sessions either. -/
  boundedOverlapping : ∀ (start : Instant) (history : List Calls.Step) (state : Calls),
    Trace (StepsOf Calls.step) (Calls.start config.session start) history state →
      state.cache.size ≤ config.session.capacity.toNat
  /-- None of their steps passes the clock. -/
  keepsOverlapping : ∀ (start : Instant) (history : List Calls.Step) (state : Calls),
    Trace (StepsOf Calls.step) (Calls.start config.session start) history state →
      state.now ≤ latest → ∀ action, state.step action ≠ .error .clockOverflow
  /-- No report passes the clock, whenever its details were resolved. -/
  countsOverlapping : ∀ (start : Instant) (history : List Callers.Step) (state : Callers),
    Trace (StepsOf Callers.step) (Callers.start config.sticky start) history state →
      state.now ≤ latest → ∀ action, state.step action ≠ .error .clockOverflow

/-- Durations that do not pass the clock, and a bound that leaves room for one session, are all
that the caches need. -/
theorem honouredUntil_of_lt {latest : Instant} (hcapacity : config.session.capacity ≠ 0)
    (hlifetime : latest + 1000 * config.session.lifetime.toNat < clockLimit)
    (hwindow : latest + 1000 * config.sticky.window.toNat < clockLimit) :
    HonouredUntil config latest := by
  have hpos : config.session.capacity.toNat ≠ 0 := by
    simpa [← UInt64.toNat_inj] using hcapacity
  have hone : max 1 config.session.capacity.toNat = config.session.capacity.toNat :=
    Nat.max_eq_right (Nat.pos_of_ne_zero hpos)
  -- a duration that ends in time at the latest instant does so at every earlier one
  have hearlier : ∀ {now seconds : Nat}, now ≤ latest →
      latest + 1000 * seconds < clockLimit → ¬ clockLimit ≤ now + 1000 * seconds :=
    fun hle hlt hpast =>
      absurd (Nat.le_trans hpast (Nat.add_le_add_right hle _)) (Nat.not_le.mpr hlt)
  constructor
  case bounded =>
    intro σ repository services start history state hrun
    exact hone ▸ hrun.kept.size_le
  case handles =>
    intro σ repository services start history state hrun backend route request hreads hfault
    obtain ⟨now, hread, hlate | hlate⟩ := hrun.kept.exists_reads hfault
    · exact hearlier (hreads now hread) hlifetime hlate
    · exact hearlier (hreads now hread) hwindow hlate
  case boundedOverlapping =>
    intro start history state htrace
    exact hone ▸ (Calls.sound_of_trace htrace).size_le
  case keepsOverlapping =>
    intro start history state htrace hnow action hfault
    exact hearlier hnow hlifetime (Calls.le_of_step_eq_error (Calls.sound_of_trace htrace) hfault)
  case countsOverlapping =>
    intro start history state htrace hnow action hfault
    have hlate := Callers.le_of_step_eq_error hfault
    rw [Callers.settings_of_trace htrace] at hlate
    exact hearlier hnow hwindow hlate

/-! ## Requests that find the conditions out -/

/-- A request that names both an application and a load balancer. -/
def callingBoth : RelayRequest := { calling with applicationId := "a" }

/-- Services that dispatch no session. -/
def unreachable : Backend Unit where
  dispatch _ _ _ := ({ outcome := .error (.dispatchFailed "unreachable") }, ())
  relay _ _ := ({ outcome := .error (.relayFailed "unreachable") }, ())

/-- The details of its caller, as long as nothing is remembered. -/
def callingDetails : Details where
  key := callingKey
  policy := { sticky := true, origins := ["example"] }

/-- A gateway of a configuration, with one application in the pool of one load balancer. -/
def poolingOf (config : Config) : Gateway := ofConfig config pooling.repository

theorem callingBoth_chain (config : Config) :
    (poolingOf config).repository.chain callingBoth.chainName = .ok { id := "0001" } := by
  have hfind : (pooling.repository.chains.find? fun chain => chain.isNamed callingBoth.chainName) =
      some { id := "0001" } := by decide +kernel
  show pooling.repository.chain callingBoth.chainName = _
  rw [Repository.chain, hfind]

theorem callingBoth_resolved (config : Config) (state : State σ) :
    Resolved (poolingOf config) state callingBoth .application { id := "0001" } { id := "a" } {} :=
  .application rfl (callingBoth_chain config)

/-- Where every service answers at once, all readings of a request are the same. -/
theorem Reads.eq_of_immediate {now : Instant}
    (hdispatch : ∀ services publicKey chain,
      (backend.dispatch services publicKey chain).1.delay = 0)
    (hrelay : ∀ services relay, (backend.relay services relay).1.delay = 0)
    (hreads : Reads gateway backend state route request now) : now = state.now := by
  have hobtained : ∀ {application : Application} {chain : Blockchain} {obtained : Answer σ Session},
      Obtains backend state application chain obtained → obtained.state.now = state.now := by
    intro application chain obtained hobtained
    rcases session_cases hobtained with ⟨-, hnow⟩ | ⟨hnow, -⟩
    · exact hnow
    · rw [hnow, hdispatch, Nat.add_zero]
  cases hreads with
  | kept hresolved hmissed hdispatched => rw [hdispatch, Nat.add_zero]
  | unobtained hresolved hobtains hsession => exact hobtained hobtains
  | relayed hresolved hobtains hsession hnode =>
      unfold afterRelay
      dsimp only
      rw [hrelay, Nat.add_zero, hobtained hobtains]

/-- Keeping the first session passes the clock, or leaves the cache with this session. -/
theorem handle_first (config : Config) (now : Instant) :
    (clockLimit ≤ now + 1000 * config.session.lifetime.toNat ∧
      (poolingOf config).handle (refusing []) (.start config () now) .application callingBoth =
        .error .clockOverflow) ∨
    now + 1000 * config.session.lifetime.toNat < clockLimit ∧
      ∃ answer,
        (poolingOf config).handle (refusing []) (.start config () now) .application callingBoth =
          .ok answer ∧ answer.state.sessions.size = 1 := by
  have hsession : ∀ publicKey chain,
      session (refusing []) (.start config () now) publicKey chain =
        (({ settings := config.session } : SessionCache).insert { publicKey, chain }
          { key := "s", nodes := [] } now).map fun sessions =>
            { result := .ok { key := "s", nodes := [] }
              state := { State.start config () now with sessions }
              events := [.dispatched publicKey chain] } := fun publicKey chain => rfl
  rw [(callingBoth_resolved config _).handle_eq, deliver_eq, hsession]
  cases hinsert : ({ settings := config.session } : SessionCache).insert
      { publicKey := ({ id := "a" } : Application).credentials.applicationKey, chain := "0001" }
      { key := "s", nodes := [] } now with
  | error fault =>
      obtain ⟨rfl, hlate⟩ := SessionCache.insert_eq_error_iff.mp hinsert
      exact Or.inl ⟨hlate, rfl⟩
  | ok sessions =>
      obtain ⟨expiresAt, hexpires, rfl⟩ := map_eq_ok_iff.mp hinsert
      refine Or.inr ⟨(Instant.after?_eq_ok_iff.mp hexpires).1, _, rfl, ?_⟩
      -- making room in the empty cache leaves it empty
      unfold SessionCache.roomFor
      split <;> rfl

/-- The first failure passes the clock if the window does. -/
theorem handle_failing {config : Config} {now : Instant}
    (hlate : clockLimit ≤ now + 1000 * config.sticky.window.toNat) :
    (poolingOf config).handle unreachable (.start config () now) (.balancer 0) callingBoth =
      .error .clockOverflow := by
  have hbalancer : (poolingOf config).repository.balancer callingBoth.balancerId =
      .ok { id := "lb", policy := { sticky := true, origins := ["example"] }
            applications := [{ id := "a" }] } := rfl
  have hdetails : resolveAffinity (.start config () now) callingBoth { id := "0001" }
      { id := "lb", policy := { sticky := true, origins := ["example"] }
        applications := [{ id := "a" }] } = callingDetails :=
    resolveAffinity_eq rfl rfl rfl
  have hresolved : Resolved (poolingOf config) (.start config () now) callingBoth (.balancer 0)
      { id := "0001" } { id := "a" } (withChosen callingDetails { id := "a" }) := by
    rw [← hdetails]
    exact .balancer (callingBoth_chain config) hbalancer rfl (by rw [hdetails]; rfl)
  have hobtained : Obtains unreachable (.start config () now) { id := "a" } { id := "0001" }
      { result := .error (.dispatchFailed "unreachable"), state := .start config () now
        events := [.dispatched _ "0001"] } := rfl
  -- the first failure opens a window, and nothing but its end can fail
  have hcounted : ((({ settings := config.sticky } : Cache).settle
      (withChosen callingDetails { id := "a" })).counter .failure).increment now
        config.sticky.window =
      (now.after? config.sticky.window.toNat).map fun endsAt =>
        { count := 1, endsAt? := some endsAt } := rfl
  refine handle_eq_error_iff.mpr (.unobtained hresolved hobtained rfl (map_eq_error_iff.mpr ?_))
  rw [Cache.report_eq _ _ _ _ (by rw [withChosen_policy]; rfl), map_eq_error_iff]
  exact hcounted.trans (map_eq_error_iff.mpr (Instant.after?_eq_error_iff.mpr ⟨rfl, hlate⟩))

/-! ## The exact condition -/

theorem lt_of_honouredUntil {latest : Instant} (hhonoured : HonouredUntil config latest) :
    config.session.capacity ≠ 0 ∧
      latest + 1000 * config.session.lifetime.toNat < clockLimit ∧
      latest + 1000 * config.sticky.window.toNat < clockLimit := by
  have hhandles : ∀ (backend : Backend Unit) route,
      (∀ services publicKey chain, (backend.dispatch services publicKey chain).1.delay = 0) →
      (∀ services relay, (backend.relay services relay).1.delay = 0) →
      (poolingOf config).handle backend (.start config () latest) route callingBoth ≠
        .error .clockOverflow := by
    intro backend route hdispatch hrelay
    exact hhonoured.handles pooling.repository () latest [] _ .start backend route callingBoth
      fun now hreads => Nat.le_of_eq (hreads.eq_of_immediate hdispatch hrelay)
  have hkeeps := hhandles (refusing []) .application (fun _ _ _ => rfl) fun _ _ => rfl
  have hcounts := hhandles unreachable (.balancer 0) (fun _ _ _ => rfl) fun _ _ => rfl
  obtain ⟨hlifetime, answer, hanswer, hsize⟩ :=
    (handle_first config latest).resolve_left fun hlate => hkeeps hlate.2
  refine ⟨fun hzero => ?_, hlifetime, Nat.not_le.mp fun hlate => hcounts (handle_failing hlate)⟩
  have hrun := Run.serve (refusing []) .application callingBoth .start hanswer
  have hle := hhonoured.bounded pooling.repository () latest _ _ hrun
  rw [hsize, hzero] at hle
  exact absurd hle (by decide)

theorem validate_eq_ok_iff (config : Config) :
    config.validate = .ok () ↔ config.session.lifetime ≠ 0 ∧ config.check.maxInFlight ≠ 0 := by
  unfold Config.validate
  split
  · next hzero => simp [hzero]
  · next hlifetime =>
      split
      · next hzero => simp [hzero]
      · next hprobes => simp [hlifetime, hprobes]

/-- **What the caches honour, and what is accepted.**  A configuration is honoured up to an instant
exactly if its bound on sessions is not zero and neither the lifetime nor the window passes the
clock from that instant.  It is accepted exactly if the lifetime and the number of probes are not
zero. -/
theorem honouredUntil_iff (config : Config) (latest : Instant) :
    (HonouredUntil config latest ↔
      config.session.capacity ≠ 0 ∧
        latest + 1000 * config.session.lifetime.toNat < clockLimit ∧
        latest + 1000 * config.sticky.window.toNat < clockLimit) ∧
    (config.validate = .ok () ↔
      config.session.lifetime ≠ 0 ∧ config.check.maxInFlight ≠ 0) := by
  refine ⟨⟨lt_of_honouredUntil, ?_⟩, validate_eq_ok_iff config⟩
  rintro ⟨hcapacity, hlifetime, hwindow⟩
  exact honouredUntil_of_lt hcapacity hlifetime hwindow

/-- A bound of no session. -/
def sessionless : Config := { session := { capacity := 0 } }

/-- The longest lifetime. -/
def longLived : Config := { session := { lifetime := 0xffffffffffffffff } }

/-- The longest window. -/
def longCounting : Config := { sticky := { window := 0xffffffffffffffff } }

/-- All three are accepted; the gateway then keeps one session, and it ends with the first session
that it keeps and with the first failure that it counts. -/
theorem accepted_not_honoured :
    (sessionless.validate = .ok () ∧
      ∃ history state, Run (poolingOf sessionless) (.start sessionless () 0) history state ∧
        sessionless.session.capacity.toNat < state.sessions.size) ∧
    (longLived.validate = .ok () ∧
      (poolingOf longLived).handle (refusing []) (.start longLived () 0) .application callingBoth =
        .error .clockOverflow) ∧
    (longCounting.validate = .ok () ∧
      (poolingOf longCounting).handle unreachable (.start longCounting () 0) (.balancer 0)
        callingBoth = .error .clockOverflow) := by
  refine ⟨⟨rfl, ?_⟩, ⟨rfl, ?_⟩, ⟨rfl, handle_failing (by decide)⟩⟩
  · rcases handle_first sessionless 0 with
      ⟨hlate, -⟩ | ⟨-, answer, hanswer, hsize⟩
    · exact absurd hlate (by decide)
    · refine ⟨_, _, .serve (refusing []) .application callingBoth .start hanswer, ?_⟩
      rw [hsize]
      decide
  · rcases handle_first longLived 0 with
      ⟨-, hfault⟩ | ⟨hearly, -⟩
    · exact hfault
    · exact absurd hearly (by decide)

end Gateway

end ChainGateway
