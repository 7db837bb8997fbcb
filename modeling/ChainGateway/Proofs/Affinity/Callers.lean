import ChainGateway.Proofs.Affinity.Report
import ChainGateway.Proofs.Except
import ChainGateway.Proofs.Trace

/-!
# Callers that share the affinity cache

Any number of callers share an affinity cache.  A caller resolves its details, may name an
application or a node where they name none, and later reports how its relay ended; in between the
others take their steps, so details may be reported long after they were resolved.  `Callers` is
this system, under a clock that never goes back.

An entry that a report drops is gone for whoever resolves details afterwards, but not for those
who hold details of it: a report that finds no entry makes one of its details, and starts both
counters over.  So what was dropped can come back (`dropped_preference_restored`).  It comes back
only where there is nothing else, though: an application or a node that a key has got since
then stays, whatever the details of later reports say (`dropped_returns_only_as_seed`).

## Strategy

One step changes what is under a key only if it is a counted report for the key, and then what is
settled of an application or a node is what the cache has, or else what the details say
(`Moves.find?_cases`, `choice_settle`).  What a whole run may lead to is said by induction over the
steps since the entry was dropped.
-/

namespace ChainGateway.Affinity

/-! ## The system -/

/-- The cache, and the details that callers hold, in the order in which they were resolved. -/
structure Callers where
  cache : Cache
  now : Instant
  held : List Details := []

namespace Callers

/-- What can happen among callers.  A caller is named by its place. -/
inductive Action where
  /-- Time passes. -/
  | wait (ms : Nat)
  /-- Another caller resolves its details. -/
  | resolve (policy : StickyPolicy) (keyOf : StickyPolicy → Key) (allows : StickyPolicy → Bool)
  /-- A caller names what its details do not name. -/
  | complete (place : Nat) (extra : Preference)
  /-- A caller reports how its relay ended. -/
  | report (place : Nat) (outcome : Outcome)

/-- The state in which nothing is remembered and nobody holds details. -/
def start (settings : StickySettings) (now : Instant) : Callers := { cache := { settings }, now }

/-- The callers after an action, if the action is possible. -/
def step (state : Callers) : Action → Except Fault (Option Callers)
  | .wait ms => .ok (some { state with now := state.now + ms })
  | .resolve policy keyOf allows =>
      .ok (some
        { state with held := state.held ++ [(state.cache.resolve policy keyOf allows).details] })
  | .complete place extra =>
      match state.held[place]? with
      | some details =>
          let completed := { details with preference := details.preference.orElse extra }
          .ok (some { state with held := state.held.set place completed })
      | none => .ok none
  | .report place outcome =>
      match state.held[place]? with
      | some details =>
          (state.cache.report details outcome state.now).map fun (cache, reported) =>
            some { state with cache, held := state.held.set place reported }
      | none => .ok none

/-- The steps of callers. -/
inductive Moves (state : Callers) : Action → Callers → Prop
  | waited (ms : Nat) : Moves state (.wait ms) { state with now := state.now + ms }
  | resolved (policy : StickyPolicy) (keyOf : StickyPolicy → Key) (allows : StickyPolicy → Bool) :
      Moves state (.resolve policy keyOf allows)
        { state with held := state.held ++ [(state.cache.resolve policy keyOf allows).details] }
  | completed {place : Nat} {extra : Preference} {details : Details}
      (hheld : state.held[place]? = some details) :
      Moves state (.complete place extra)
        { state with
          held := state.held.set place
            { details with preference := details.preference.orElse extra } }
  | reported {place : Nat} {outcome : Outcome} {details reported : Details} {cache : Cache}
      (hheld : state.held[place]? = some details)
      (hreport : state.cache.report details outcome state.now = .ok (cache, reported)) :
      Moves state (.report place outcome)
        { state with cache, held := state.held.set place reported }

theorem moves_of_step {state next : Callers} {action : Action}
    (hstep : StepsOf step state action next) : state.Moves action next := by
  rw [StepsOf] at hstep
  cases action with
  | wait ms =>
      cases hstep
      exact .waited ms
  | resolve policy keyOf allows =>
      cases hstep
      exact .resolved policy keyOf allows
  | complete place extra =>
      simp only [step] at hstep
      split at hstep
      · next details hheld =>
          cases hstep
          exact .completed hheld
      · cases hstep
  | report place outcome =>
      simp only [step] at hstep
      split at hstep
      · next details hheld =>
          obtain ⟨⟨cache, reported⟩, hreport, hnext⟩ := map_eq_ok_iff.mp hstep
          cases hnext
          exact .reported hheld hreport
      · cases hstep

end Callers

/-! ## Applications and nodes -/

/-- What a preference can name. -/
inductive Choice where
  | application
  | node

/-- The application or the node of a preference; an empty one is none. -/
def Preference.choice (preference : Preference) : Choice → String
  | .application => preference.application
  | .node => preference.node

/-- The application or the node that the cache has for a key, if any. -/
def Cache.choice (cache : Cache) (key : Key) (choice : Choice) : String :=
  ((cache.find? key).map fun preference => preference.choice choice).getD ""

@[simp] theorem Preference.choice_withCounter (preference : Preference) (outcome : Outcome)
    (counter : Counter) (choice : Choice) :
    (preference.withCounter outcome counter).choice choice = preference.choice choice := by
  cases choice
  · exact application_withCounter ..
  · exact node_withCounter ..

/-- The cache has the first say about what a report settles. -/
theorem Cache.choice_settle (cache : Cache) (details : Details) (choice : Choice) :
    (cache.settle details).choice choice =
      if cache.choice details.key choice = "" then details.preference.choice choice
      else cache.choice details.key choice := by
  unfold settle Cache.choice
  cases cache.find? details.key with
  | none => cases choice <;> rfl
  | some known => cases choice <;> rfl

/-! ## Steps and what is under a key -/

namespace Callers

/-- A step of callers, with the state before it and the state after it. -/
abbrev Step := Moment Callers Action

/-- The details with which a step reports for the key, and the outcome, if the report is counted. -/
def counted? (key : Key) (moment : Step) : Option (Details × Outcome) :=
  match moment.action with
  | .report place outcome =>
      (moment.before.held[place]?.filter fun details =>
        decide (details.key = key) && !details.policy.isEmpty).map fun details => (details, outcome)
  | _ => none

variable {state next : Callers} {action : Action} {key : Key}

/-- What is under a key changes only with a counted report for the key.  The report drops it if
its counter passes its limit, and otherwise writes what it has settled and counted. -/
theorem Moves.find?_cases (hmoves : state.Moves action next) (key : Key) :
    next.cache.find? key = state.cache.find? key ∨
      ∃ details outcome counter, counted? key ⟨state, action, next⟩ = some (details, outcome) ∧
        details.key = key ∧
        ((state.cache.settle details).counter outcome).increment state.now
          state.cache.settings.window = .ok counter ∧
        next.cache.find? key =
          if state.cache.settings.limit outcome < counter.count then none
          else some ((state.cache.settle details).withCounter outcome counter) := by
  cases hmoves with
  | waited | resolved | completed => exact Or.inl rfl
  | @reported place outcome details reported cache hheld hreport =>
      rcases Cache.report_cases hreport with ⟨-, rfl⟩ | ⟨hpolicy, counter, hcounter, rfl⟩
      · exact Or.inl rfl
      · by_cases hkey : key = details.key
        · refine Or.inr ⟨details, outcome, counter, ?_, hkey.symm, hcounter, ?_⟩
          · simp [counted?, hheld, hkey, hpolicy]
          · simp only [Cache.find?_recorded, if_pos hkey]
        · exact Or.inl (by simp only [Cache.find?_recorded, if_neg hkey])

/-- An entry is dropped by a report that takes its counter past its limit. -/
theorem Moves.passed_of_dropped (hmoves : state.Moves action next) {dropped : Preference}
    (hdropped : state.cache.find? key = some dropped) (habsent : next.cache.find? key = none) :
    ∃ details outcome counter, counted? key ⟨state, action, next⟩ = some (details, outcome) ∧
      ((state.cache.settle details).counter outcome).increment state.now
        state.cache.settings.window = .ok counter ∧
      state.cache.settings.limit outcome < counter.count := by
  rcases hmoves.find?_cases key with
    hsame | ⟨details, outcome, counter, hcounted, -, hcounter, hafter⟩
  · rw [hsame, hdropped] at habsent
    cases habsent
  · rw [hafter] at habsent
    split at habsent
    · next hpassed => exact ⟨details, outcome, counter, hcounted, hcounter, hpassed⟩
    · cases habsent

/-- A step leaves an application or a node of a key as it is, drops the entry, or supplies the
application or the node where there is none. -/
theorem Moves.choice_cases (hmoves : state.Moves action next) (key : Key) (choice : Choice) :
    next.cache.choice key choice = state.cache.choice key choice ∨
      next.cache.find? key = none ∨
      state.cache.choice key choice = "" ∧
        ∃ details outcome, counted? key ⟨state, action, next⟩ = some (details, outcome) ∧
          details.preference.choice choice = next.cache.choice key choice := by
  rcases hmoves.find?_cases key with
    hsame | ⟨details, outcome, counter, hcounted, rfl, -, hafter⟩
  · exact Or.inl (by rw [Cache.choice, hsame, Cache.choice])
  · split at hafter
    · exact Or.inr (Or.inl hafter)
    · have hsettled : next.cache.choice details.key choice =
          (state.cache.settle details).choice choice := by
        rw [Cache.choice, hafter]
        exact Preference.choice_withCounter ..
      rw [Cache.choice_settle] at hsettled
      by_cases hempty : state.cache.choice details.key choice = ""
      · rw [if_pos hempty] at hsettled
        exact Or.inr (Or.inr ⟨hempty, details, outcome, hcounted, hsettled.symm⟩)
      · rw [if_neg hempty] at hsettled
        exact Or.inl hsettled

/-- The entry that a report makes of its details where there is none: the counter of its outcome is
at one, and the other one has not counted. -/
def seeded (settings : StickySettings) (details : Details) (outcome : Outcome) (now : Instant) :
    Preference :=
  details.preference.withoutCounts.withCounter outcome
    { count := 1, endsAt? := some (now + 1000 * settings.window.toNat) }

/-- Where there is no entry, a report makes one of its details or leaves none. -/
theorem Moves.seeded_of_absent (hmoves : state.Moves action next)
    (habsent : state.cache.find? key = none) (hpresent : next.cache.find? key ≠ none) :
    ∃ details outcome, counted? key ⟨state, action, next⟩ = some (details, outcome) ∧
      next.cache.find? key = some (seeded state.cache.settings details outcome state.now) := by
  rcases hmoves.find?_cases key with
    hsame | ⟨details, outcome, counter, hcounted, rfl, hcounter, hafter⟩
  · exact absurd (hsame.trans habsent) hpresent
  · split at hafter
    · exact absurd hafter hpresent
    · have hsettle : state.cache.settle details = details.preference.withoutCounts := by
        rw [Cache.settle, habsent]
      rw [hsettle, Preference.counter_withoutCounts] at hcounter
      rw [hsettle, Counter.eq_of_increment_empty hcounter] at hafter
      exact ⟨details, outcome, hcounted, hafter⟩

/-! ## After an entry was dropped -/

/-- The step brings an application or a node of a preference back to the key, which does not have
it before. -/
def Restores (key : Key) (dropped : Preference) (choice : Choice) (moment : Step) : Prop :=
  dropped.choice choice ≠ "" ∧
    moment.before.cache.choice key choice ≠ dropped.choice choice ∧
    moment.after.cache.choice key choice = dropped.choice choice

/-- What holds after an entry of a key was dropped, whatever details are reported later and whenever
they were resolved. -/
structure Gone (key : Key) (dropped : Preference) (later : List Step) (state : Callers) :
    Prop where
  /-- Nothing is under the key until a report for it is counted. -/
  absent : (∀ moment ∈ later, counted? key moment = none) → state.cache.find? key = none
  /-- An application or a node that the key has was supplied since then, by the details of a
  counted report at a time when the key had none. -/
  supplied : ∀ choice, state.cache.choice key choice ≠ "" →
    ∃ moment ∈ later, ∃ details outcome, counted? key moment = some (details, outcome) ∧
      moment.before.cache.choice key choice = "" ∧
      details.preference.choice choice = state.cache.choice key choice
  /-- What was dropped is brought back only where the key has nothing else, and from the details of
  the report that does it. -/
  restored : ∀ moment ∈ later, ∀ choice, Restores key dropped choice moment →
    moment.before.cache.choice key choice = "" ∧
      ∃ details outcome, counted? key moment = some (details, outcome) ∧
        details.preference.choice choice = dropped.choice choice
  /-- An application or a node that the key has got since then stays until its entry is dropped. -/
  kept : ∀ moment ∈ later, ∀ choice, moment.before.cache.choice key choice ≠ "" →
    moment.after.cache.choice key choice = moment.before.cache.choice key choice ∨
      moment.after.cache.find? key = none
  /-- Where there is no entry, a new one is made of the details of a report, and both counters start
  over with this report. -/
  seeds : ∀ moment ∈ later, moment.before.cache.find? key = none →
    moment.after.cache.find? key ≠ none →
    ∃ details outcome, counted? key moment = some (details, outcome) ∧
      moment.after.cache.find? key =
        some (seeded moment.before.cache.settings details outcome moment.before.now)

variable {later : List Step} {after : Callers}

theorem absent_of_trace (htrace : Trace (StepsOf step) after later state)
    (habsent : after.cache.find? key = none)
    (hnone : ∀ moment ∈ later, counted? key moment = none) : state.cache.find? key = none := by
  induction htrace with
  | start => exact habsent
  | @step later state next action htrace hstep ih =>
      rcases (moves_of_step hstep).find?_cases key with
        hsame | ⟨details, outcome, counter, hcounted, -⟩
      · exact hsame.trans (ih fun moment hmem => hnone moment (List.mem_append_left _ hmem))
      · rw [hnone _ (List.mem_append_right _ (List.mem_singleton_self _))] at hcounted
        cases hcounted

theorem supplied_of_trace (htrace : Trace (StepsOf step) after later state)
    (habsent : after.cache.find? key = none) {choice : Choice}
    (hchoice : state.cache.choice key choice ≠ "") :
    ∃ moment ∈ later, ∃ details outcome, counted? key moment = some (details, outcome) ∧
      moment.before.cache.choice key choice = "" ∧
      details.preference.choice choice = state.cache.choice key choice := by
  have hempty : ∀ {cache : Cache}, cache.find? key = none → cache.choice key choice = "" := by
    intro cache hnone
    rw [Cache.choice, hnone]
    rfl
  induction htrace with
  | start => exact absurd (hempty habsent) hchoice
  | @step later state next action htrace hstep ih =>
      rcases (moves_of_step hstep).choice_cases key choice with
        hsame | hnone | ⟨hbefore, details, outcome, hcounted, hsupplied⟩
      · rw [hsame] at hchoice ⊢
        obtain ⟨moment, hmem, hearlier⟩ := ih hchoice
        exact ⟨moment, List.mem_append_left _ hmem, hearlier⟩
      · exact absurd (hempty hnone) hchoice
      · exact ⟨_, List.mem_append_right _ (List.mem_singleton_self _), details, outcome, hcounted,
          hbefore, hsupplied⟩

/-- **What was dropped returns only as the seed of something new.**  A report that drops the entry
of a key has taken a counter past its limit.  From then on there is no entry until a report for the
key is counted, and no report, however old its details, puts the dropped application or node in
the place of another one. -/
theorem dropped_returns_only_as_seed {before : Callers} {action : Action} {dropped : Preference}
    (hstep : StepsOf step before action after)
    (hdropped : before.cache.find? key = some dropped) (habsent : after.cache.find? key = none)
    (htrace : Trace (StepsOf step) after later state) :
    (∃ details outcome counter,
        counted? key ⟨before, action, after⟩ = some (details, outcome) ∧
        ((before.cache.settle details).counter outcome).increment before.now
          before.cache.settings.window = .ok counter ∧
        before.cache.settings.limit outcome < counter.count) ∧
      Gone key dropped later state := by
  refine ⟨(moves_of_step hstep).passed_of_dropped hdropped habsent, ?_⟩
  -- the rest is about what came later, where any report may be an old one
  have hmoves : ∀ moment ∈ later, moment.before.Moves moment.action moment.after :=
    fun moment hmem => moves_of_step (htrace.steps_of_mem hmem)
  refine ⟨absent_of_trace htrace habsent, fun choice => supplied_of_trace htrace habsent, ?_, ?_,
    fun moment hmem => (hmoves moment hmem).seeded_of_absent⟩
  · -- a name comes back only where the cache had none, from the details of the report
    rintro moment hmem choice ⟨hnamed, hother, hback⟩
    rcases (hmoves moment hmem).choice_cases key choice with
      hsame | hnone | ⟨hempty, details, outcome, hcounted, hsupplied⟩
    · exact absurd (hsame.symm.trans hback) hother
    · rw [Cache.choice, hnone] at hback
      exact absurd hback.symm hnamed
    · exact ⟨hempty, details, outcome, hcounted, hsupplied.trans hback⟩
  · intro moment hmem choice hnamed
    rcases (hmoves moment hmem).choice_cases key choice with
      hsame | hnone | ⟨hempty, -⟩
    · exact Or.inl hsame
    · exact Or.inr hnone
    · exact absurd hempty hnamed

/-! ## Details that outlast the entry -/

def sharedKey : Key := { balancerId := "lb" }

/-- Another caller of the same key resolves its details. -/
def resolveShared : Action :=
  .resolve { sticky := true, origins := ["example"] } (fun _ => sharedKey) (fun _ => true)

/-- The first of three callers has reported a failure at its node; the other two hold details of
the entry that it has made. -/
def overlapping : List Action :=
  [resolveShared, .complete 0 { application := "a", node := "n" }, .report 0 .failure,
    resolveShared, resolveShared]

/-- A cache whose entries survive one failure. -/
def tolerant : Callers := start { errorLimit := 1 } 0

/-- What the first caller has reported. -/
def failedOnce : Preference :=
  { application := "a", node := "n", errors := { count := 1, endsAt? := some 60000 } }

/-- The failure of the second caller drops the entry, and that of the third one makes it anew. -/
theorem overlapping_taken :
    ∃ earlier before after restored,
      Trace (StepsOf step) tolerant earlier before ∧
      StepsOf step before (.report 1 .failure) after ∧
      StepsOf step after (.report 2 .failure) restored ∧ before.held.length = 3 ∧
      before.cache.find? sharedKey = some failedOnce ∧ after.cache.find? sharedKey = none ∧
      restored.cache.find? sharedKey = some failedOnce := by
  have hends : ((takeAll (unlessFault step) tolerant overlapping).bind fun taken =>
      (unlessFault step taken.2 (.report 1 .failure)).bind fun after =>
        (unlessFault step after (.report 2 .failure)).map fun restored =>
          (taken.2.held.length, taken.2.cache.find? sharedKey, after.cache.find? sharedKey,
            restored.cache.find? sharedKey)) =
      some (3, some failedOnce, none, some failedOnce) := by
    decide
  obtain ⟨⟨earlier, before⟩, htaken, hends⟩ := Option.bind_eq_some_iff.mp hends
  obtain ⟨after, hdrops, hends⟩ := Option.bind_eq_some_iff.mp hends
  obtain ⟨restored, hrestores, hends⟩ := Option.map_eq_some_iff.mp hends
  simp only [Prod.mk.injEq] at hends
  exact ⟨earlier, before, after, restored, (Trace.of_takeAll htaken).mono Possible.stepsOf,
    Possible.stepsOf hdrops, Possible.stepsOf hrestores, hends⟩

/-- The general statement at this run: the third caller's report finds nothing and brings the
application and the node back, with one failure counted. -/
theorem dropped_returns_only_as_seed_overlapping :
    ∃ earlier before after restored details,
      Trace (StepsOf step) tolerant earlier before ∧
      StepsOf step before (.report 1 .failure) after ∧
      StepsOf step after (.report 2 .failure) restored ∧
      before.cache.find? sharedKey = some failedOnce ∧ after.cache.find? sharedKey = none ∧
      Gone sharedKey failedOnce [⟨after, .report 2 .failure, restored⟩] restored ∧
      details.preference.application = "a" ∧ details.preference.node = "n" ∧
      restored.cache.find? sharedKey =
        some (seeded after.cache.settings details .failure after.now) := by
  obtain ⟨earlier, before, after, restored, htrace, hdrops, hrestores, -, hdropped, habsent,
    hback⟩ := overlapping_taken
  obtain ⟨-, hgone⟩ :=
    dropped_returns_only_as_seed hdrops hdropped habsent (Trace.start.step hrestores)
  -- the third report brings both names back, so the general statement says where from
  have hpresent : restored.cache.find? sharedKey ≠ none := by simp [hback]
  have hrestored : ∀ choice,
      Restores sharedKey failedOnce choice ⟨after, .report 2 .failure, restored⟩ := by
    intro choice
    cases choice <;>
      simp [Restores, Cache.choice, habsent, hback, failedOnce, Preference.choice]
  obtain ⟨details, outcome, hcounted, hseeded⟩ :=
    hgone.seeds _ (List.mem_singleton_self _) habsent hpresent
  have hnamed : ∀ choice, details.preference.choice choice = failedOnce.choice choice := by
    intro choice
    obtain ⟨-, other, final, hother, hnamed⟩ :=
      hgone.restored _ (List.mem_singleton_self _) choice (hrestored choice)
    rw [hcounted] at hother
    cases hother
    exact hnamed
  have houtcome : outcome = .failure := by
    obtain ⟨_, -, hdetails⟩ := Option.map_eq_some_iff.mp hcounted
    exact (Prod.mk.inj hdetails).2.symm
  subst houtcome
  exact ⟨earlier, before, after, restored, details, htrace, hdrops, hrestores, hdropped, habsent,
    hgone, hnamed .application, hnamed .node, hseeded⟩

/-- An application and a node that were dropped can be brought back by a report whose details were
resolved before. -/
theorem dropped_preference_restored :
    ¬ ∀ (settings : StickySettings) (now : Instant) (earlier later : List Step)
        (before after state : Callers) (place : Nat) (outcome : Outcome) (key : Key)
        (dropped : Preference),
      Trace (StepsOf step) (start settings now) earlier before →
      StepsOf step before (.report place outcome) after →
      before.cache.find? key = some dropped → after.cache.find? key = none →
      Trace (StepsOf step) after later state →
      ∀ moment ∈ later, ∀ other final, moment.action = .report other final →
        other < before.held.length → ∀ choice, ¬ Restores key dropped choice moment := by
  intro hstays
  obtain ⟨earlier, before, after, restored, htrace, hdrops, hrestores, hheld, hdropped, habsent,
    hback⟩ := overlapping_taken
  refine hstays _ _ _ _ _ _ _ _ _ _ _ htrace hdrops hdropped habsent
    (Trace.start.step hrestores) _ (List.mem_singleton_self _) 2 .failure rfl
    (by rw [hheld]; decide) .node ⟨by decide, ?_, ?_⟩
  · simp [Cache.choice, habsent, failedOnce, Preference.choice]
  · simp [Cache.choice, hback]

end Callers

end ChainGateway.Affinity
