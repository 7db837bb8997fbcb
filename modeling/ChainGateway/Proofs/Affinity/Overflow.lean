import ChainGateway.Proofs.Affinity.History

/-!
# Counters that are full

A report advances its counter first, and the new count is compared with the limit afterwards.  So
it is the entries that were kept before, and not the comparison, that leave a counter room for one
more event: an entry is kept only as long as no count of it is greater than its limit.  A limit
below the greatest count is enough for that.  A limit that is itself the greatest count is not,
since no count is greater than it and the entry is never dropped.

## Strategy

* **No overflow below the greatest limit.**  `Cache.Bounded` collects what reports keep in
  whatever order their instants come: counts are within the limits, and there are entries only if
  the clock holds a window.  An overflow contradicts the first part for every smaller limit
  (`Cache.Bounded.of_overflows`), and the second part if nothing can be counted at all.
* **An overflow at the greatest limit.**  The same report is made over and over at one instant.
  By the history semantics every one of them is counted (`exists_run_replicate`), until the window
  holds as many as a counter can count.

For reports in the order of their instants the history tells exactly which of them overflows
(`overflows_iff_overfills`).
-/

namespace ChainGateway.Affinity

variable {settings : StickySettings} {defaults : Preference} {cache : Cache}
  {reports : List Report} {report : Report} {details : Details} {outcome : Outcome}

/-- The report ends the program, because its counter cannot count it any more. -/
def Cache.Overflows (cache : Cache) (report : Report) : Prop :=
  cache.report report.details report.outcome report.time = .error .counterOverflow

/-- What overflows is a report with a policy whose counter is full. -/
theorem Cache.overflows_iff :
    cache.Overflows report ↔
      report.details.policy.isEmpty = false ∧
        (((cache.settle report.details).counter report.outcome).refresh report.time).count.toNat +
          1 = UInt32.size := by
  unfold Overflows
  cases hpolicy : report.details.policy.isEmpty with
  | true =>
      rw [report_of_isEmpty _ _ _ _ hpolicy]
      exact iff_of_false nofun nofun
  | false =>
      rw [report_eq _ _ _ _ hpolicy, map_eq_error_iff, Counter.increment_eq_counterOverflow_iff]
      exact (and_iff_right rfl).symm

/-- In the order of their instants, the report that overflows is the one that its entry has no
room for. -/
theorem overflows_iff_overfills
    (hrun : Cache.run { settings, defaultPreference := defaults } reports = .ok cache)
    (hsorted : (reports ++ [report]).Pairwise fun first second => first.time ≤ second.time) :
    cache.Overflows report ↔
      report.details.policy.isEmpty = false ∧
        Overfills settings (sinceCreated settings (concerning report.details.key reports))
          report := by
  obtain ⟨-, hremembered⟩ := remembers_of_run (List.pairwise_append.mp hsorted).1 hrun
  have hcounts := settle_counts (hremembered report.details.key)
  rw [Cache.overflows_iff, Overfills,
    ← hcounts.count_refresh (pairwise_sinceCreated_snoc _ hsorted)]

/-! ## Entries within their limits -/

/-- No entry counts more than the limits allow, and there are entries only if the clock holds a
window. -/
structure Cache.Bounded (cache : Cache) : Prop where
  count_le : ∀ {key known}, cache.find? key = some known →
    ∀ outcome, (known.counter outcome).count ≤ cache.settings.limit outcome
  window_lt : ∀ {key known}, cache.find? key = some known →
    1000 * cache.settings.window.toNat < clockLimit

namespace Cache.Bounded

theorem settle_count_le (hbounded : cache.Bounded) (details : Details) (outcome : Outcome) :
    ((cache.settle details).counter outcome).count ≤ cache.settings.limit outcome := by
  unfold settle
  cases hknown : cache.find? details.key with
  | none => simp
  | some known => simpa using hbounded.count_le hknown outcome

/-- A counter that has been started is the counter of an entry. -/
theorem window_lt_of_started {now : Instant} (hbounded : cache.Bounded)
    (hstarted : (((cache.settle details).counter outcome).refresh now).count ≠ 0) :
    1000 * cache.settings.window.toNat < clockLimit := by
  unfold settle at hstarted
  cases hknown : cache.find? details.key with
  | none =>
      simp only [hknown, Preference.counter_withoutCounts] at hstarted
      exact absurd rfl hstarted
  | some known => exact hbounded.window_lt hknown

/-- Counting a report keeps the entries within their limits. -/
theorem recorded {now : Instant} {counter : Counter} (hbounded : cache.Bounded)
    (hcounter : ((cache.settle details).counter outcome).increment now cache.settings.window =
      .ok counter) :
    (cache.recorded details outcome counter).Bounded := by
  constructor
  · intro key known hknown
    rw [find?_recorded] at hknown
    split at hknown
    · split at hknown
      · cases hknown
      · next hwithin =>
          cases hknown
          exact Preference.forall_counter_withCounter _ _ _
            (fun outcome counter => counter.count ≤ cache.settings.limit outcome)
            (UInt32.not_lt.mp hwithin) fun other _ => hbounded.settle_count_le details other
    · exact hbounded.count_le hknown
  · intro _ _ _
    -- either a window was opened just now, or the counter had been started before
    rcases Counter.increment_cases hcounter with ⟨-, hclock, -⟩ | ⟨hstarted, -, -⟩
    · exact Nat.lt_of_le_of_lt (Nat.le_add_left _ _) hclock
    · exact hbounded.window_lt_of_started hstarted

/-- In whatever order the reports come, the entries stay within their limits. -/
theorem of_run (hrun : Cache.run { settings, defaultPreference := defaults } reports = .ok cache) :
    cache.settings = settings ∧ cache.Bounded := by
  induction reports using List.reverseRecOn generalizing cache with
  | nil =>
      cases hrun
      exact ⟨rfl, ⟨nofun, nofun⟩⟩
  | append_singleton reports report ih =>
      obtain ⟨before, reported, hbefore, hreport⟩ := Cache.run_snoc_eq_ok_iff.mp hrun
      obtain ⟨hsettings, hbounded⟩ := ih hbefore
      rcases Cache.report_cases hreport with ⟨-, rfl⟩ | ⟨-, counter, hcounter, rfl⟩
      · exact ⟨hsettings, hbounded⟩
      · exact ⟨hsettings, hbounded.recorded hcounter⟩

/-- A counter within its limit is full only if the limit is the greatest count. -/
theorem of_overflows (hbounded : cache.Bounded) (hoverflows : cache.Overflows report) :
    (cache.settings.limit report.outcome).toNat + 1 = UInt32.size ∧
      1000 * cache.settings.window.toNat < clockLimit := by
  obtain ⟨-, hfull⟩ := Cache.overflows_iff.mp hoverflows
  have hrefresh := ((cache.settle report.details).counter report.outcome).refresh_count_le
    report.time
  have hle := UInt32.le_iff_toNat_le.mp (hbounded.settle_count_le report.details report.outcome)
  have hlimit : (cache.settings.limit report.outcome).toNat < UInt32.size :=
    (cache.settings.limit report.outcome).toNat_lt
  have hstarted :
      (((cache.settle report.details).counter report.outcome).refresh report.time).count ≠ 0 := by
    intro hzero
    rw [hzero] at hfull
    exact absurd hfull (by decide)
  exact ⟨by omega, hbounded.window_lt_of_started hstarted⟩

end Cache.Bounded

/-! ## One report over and over -/

theorem counted_replicate (settings : StickySettings) (report : Report) (n : Nat) :
    counted settings report.outcome (List.replicate n report) = n := by
  have htimes : timesOf report.outcome (List.replicate n report) =
      List.replicate n report.time := by
    rw [timesOf, List.filter_replicate, if_pos (decide_eq_true rfl), List.map_replicate]
  rw [counted, htimes, current_replicate, List.length_replicate]

/-- A limit that is the greatest count drops no entry. -/
theorem sinceCreated_replicate
    (hlimit : (settings.limit report.outcome).toNat + 1 = UInt32.size) {n : Nat}
    (hn : n < UInt32.size) :
    sinceCreated settings (List.replicate n report) = List.replicate n report := by
  induction n with
  | zero => rfl
  | succ n ih =>
      have hstays : ¬PassesLimit settings (List.replicate n report) report := by
        rw [PassesLimit, ← List.replicate_succ', counted_replicate]
        omega
      rw [List.replicate_succ', sinceCreated_snoc, ih (by omega), if_neg hstays]

theorem concerning_replicate (hpolicy : report.details.policy.isEmpty = false) (n : Nat) :
    concerning report.details.key (List.replicate n report) = List.replicate n report := by
  refine List.filter_replicate_of_pos ?_
  simp [Report.concerns, hpolicy]

theorem pairwise_replicate_time (report : Report) (n : Nat) :
    (List.replicate n report).Pairwise fun first second => first.time ≤ second.time :=
  List.pairwise_replicate.mpr (Or.inr (Nat.le_refl _))

/-- With the greatest count as the limit, one more report is too many exactly if the reports
before it fill the counter. -/
theorem overfills_replicate_iff (hpolicy : report.details.policy.isEmpty = false)
    (hlimit : (settings.limit report.outcome).toNat + 1 = UInt32.size) {n : Nat}
    (hn : n < UInt32.size) :
    Overfills settings (sinceCreated settings
      (concerning report.details.key (List.replicate n report))) report ↔ n + 1 = UInt32.size := by
  rw [concerning_replicate hpolicy, sinceCreated_replicate hlimit hn, Overfills,
    ← List.replicate_succ', counted_replicate]

/-- The report can be made as often as a counter can count. -/
theorem exists_run_replicate (defaults : Preference)
    (hpolicy : report.details.policy.isEmpty = false)
    (hlimit : (settings.limit report.outcome).toNat + 1 = UInt32.size)
    (hclock : report.time + 1000 * settings.window.toNat < clockLimit) {n : Nat}
    (hn : n < UInt32.size) :
    ∃ cache, Cache.run { settings, defaultPreference := defaults } (List.replicate n report) =
      .ok cache := by
  induction n with
  | zero => exact ⟨_, rfl⟩
  | succ n ih =>
      obtain ⟨before, hbefore⟩ := ih (by omega)
      have hsorted := pairwise_replicate_time report (n + 1)
      rw [List.replicate_succ'] at hsorted ⊢
      refine exists_run_snoc hsorted hbefore ?_ hclock
      rw [overfills_replicate_iff hpolicy hlimit (by omega)]
      omega

/-- Made once more, it overflows. -/
theorem replicate_overflows (defaults : Preference)
    (hpolicy : report.details.policy.isEmpty = false)
    (hlimit : (settings.limit report.outcome).toNat + 1 = UInt32.size)
    (hclock : report.time + 1000 * settings.window.toNat < clockLimit) {n : Nat}
    (hn : n + 1 = UInt32.size) :
    ∃ cache, Cache.run { settings, defaultPreference := defaults } (List.replicate n report) =
      .ok cache ∧ cache.Overflows report := by
  have hlt : n < UInt32.size := by omega
  obtain ⟨cache, hrun⟩ := exists_run_replicate defaults hpolicy hlimit hclock hlt
  have hsorted := pairwise_replicate_time report (n + 1)
  rw [List.replicate_succ'] at hsorted
  refine ⟨cache, hrun, (overflows_iff_overfills hrun hsorted).mpr ⟨hpolicy, ?_⟩⟩
  exact (overfills_replicate_iff hpolicy hlimit hlt).mpr hn

/-! ## Which settings are safe -/

/-- **Counters overflow at the greatest limit and at no other.**  Of reports in the order of their
instants, exactly those overflow that their entry has no room for.  In whatever order the reports
come, none of them ever overflows if and only if both limits are below the greatest count, or the
clock does not hold a window. -/
theorem never_overflows_iff (settings : StickySettings) (defaults : Preference) :
    (∀ reports report cache,
      Cache.run { settings, defaultPreference := defaults } reports = .ok cache →
      (reports ++ [report]).Pairwise (fun first second => first.time ≤ second.time) →
      (cache.Overflows report ↔
        report.details.policy.isEmpty = false ∧
          Overfills settings (sinceCreated settings (concerning report.details.key reports))
            report)) ∧
    ((∀ reports report cache,
      Cache.run { settings, defaultPreference := defaults } reports = .ok cache →
      ¬cache.Overflows report) ↔
        LimitsBelowMax settings ∨ clockLimit ≤ 1000 * settings.window.toNat) := by
  refine ⟨fun reports report cache hrun hsorted => overflows_iff_overfills hrun hsorted, ?_⟩
  constructor
  · intro hnever
    by_contra hunsafe
    obtain ⟨hlimits, hclock⟩ := not_or.mp hunsafe
    -- at the limit of this outcome, reports at instant zero fill the counter up
    obtain ⟨outcome, houtcome⟩ := not_forall.mp hlimits
    have hlimit : (settings.limit outcome).toNat + 1 = UInt32.size := by
      have hlt : (settings.limit outcome).toNat < UInt32.size := (settings.limit outcome).toNat_lt
      omega
    have hstart : (naming "" "" outcome 0).time + 1000 * settings.window.toNat < clockLimit := by
      rw [show (naming "" "" outcome 0).time = 0 from rfl, Nat.zero_add]
      exact Nat.not_le.mp hclock
    have hpolicy : (naming "" "" outcome 0).details.policy.isEmpty = false := rfl
    obtain ⟨cache, hrun, hoverflows⟩ := replicate_overflows defaults hpolicy hlimit hstart hlimit
    exact hnever _ _ _ hrun hoverflows
  · intro hsafe reports report cache hrun hoverflows
    -- a counter that is full has a limit that it can never pass, and a window to be full in
    obtain ⟨rfl, hbounded⟩ := Cache.Bounded.of_run hrun
    obtain ⟨hlimit, hclock⟩ := hbounded.of_overflows hoverflows
    rcases hsafe with hlimits | hlong
    · exact Nat.ne_of_lt (hlimits report.outcome) hlimit
    · exact absurd hclock (Nat.not_lt.mpr hlong)

/-- With the greatest count as the limit for successes, the run `settling` goes on with a success,
and some other run does not. -/
theorem never_overflows_iff_settling :
    let settings : StickySettings := { window := 60, relayLimit := 4294967295, errorLimit := 1 }
    let next := naming "" "" .success 60002
    (settling ++ [next]).Pairwise (fun first second => first.time ≤ second.time) ∧
      (∃ cache, Cache.run { settings } settling = .ok cache ∧ ¬cache.Overflows next) ∧
      ∃ reports report cache, Cache.run { settings } reports = .ok cache ∧
        cache.Overflows report := by
  intro settings next
  have hsorted : (settling ++ [next]).Pairwise
      (fun first second => first.time ≤ second.time) := by decide
  obtain ⟨hexact, hsafe⟩ := never_overflows_iff settings {}
  refine ⟨hsorted, ⟨_, rfl, ?_⟩, ?_⟩
  · rw [hexact settling next _ rfl hsorted]
    unfold Overfills
    decide
  · by_contra hnone
    have hnever : ∀ reports report cache, Cache.run { settings } reports = .ok cache →
        ¬cache.Overflows report := fun reports report cache hrun hoverflows =>
      hnone ⟨reports, report, cache, hrun, hoverflows⟩
    rcases hsafe.mp hnever with hlimits | hlong
    · exact absurd (hlimits .success) (by decide)
    · exact absurd hlong (by decide)

/-- With a window of one year and the greatest count as the limit, the entry of a caller takes
4294967295 successes, and the next one overflows. -/
theorem greatest_limit_overflows :
    ∃ cache, Cache.run { settings := { window := 31536000, relayLimit := 4294967295 } }
        (List.replicate 4294967295 (naming "" "" .success 0)) = .ok cache ∧
      cache.Overflows (naming "" "" .success 0) :=
  replicate_overflows {} rfl rfl (by decide) rfl

end ChainGateway.Affinity
