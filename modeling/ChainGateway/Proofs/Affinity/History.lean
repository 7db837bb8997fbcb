import ChainGateway.Proofs.Affinity.Report
import ChainGateway.Proofs.Affinity.Window

/-!
# What the affinity cache remembers

The entry under a key is a function of the reports for that key.  `sinceCreated` reads off a
list of reports which of them made the present entry: a report adds to them, unless it takes its
counter past its limit, in which case the entry is gone and the next report creates it anew.
An entry then holds, for each outcome, the count and the end of the current window (`Counts`),
and the first application and the first node that these reports named (`Prefers`).

## Strategy

`Remembered` relates what is under a key to the reports that made it.  One report is treated in
two halves.  Settling completes the names and leaves the counters alone (`settle_counts`,
`settle_prefers`); counting advances one counter (`Counts.of_increment`) and then either writes or
drops the entry (`Remembered.recorded`).  `remembers_of_run` carries this along a run from an empty
cache, as long as nothing overflows.  Whether anything does is a matter of the history too: a run
goes on with every report that is not one too many for its counter (`exists_run_snoc`).  Limits
below the greatest count rule that out (`exists_run`), because an entry that is kept has counts
within the limits.
-/

namespace ChainGateway.Affinity

/-! ## Reading a history -/

/-- Is this a report for the key, and one that is counted? -/
def Report.concerns (report : Report) (key : Key) : Bool :=
  decide (report.details.key = key) && !report.details.policy.isEmpty

/-- The reports for a key that are counted. -/
def concerning (key : Key) (reports : List Report) : List Report :=
  reports.filter fun report => report.concerns key

/-- The instants of the reports with an outcome. -/
def timesOf (outcome : Outcome) (reports : List Report) : List Instant :=
  (reports.filter fun report => decide (report.outcome = outcome)).map Report.time

/-- How many reports with an outcome lie in the current window of that outcome. -/
def counted (settings : StickySettings) (outcome : Outcome) (reports : List Report) : Nat :=
  (current (1000 * settings.window.toNat) (timesOf outcome reports)).length

/-- A report that comes after a history takes its counter past its limit. -/
def PassesLimit (settings : StickySettings) (history : List Report) (report : Report) : Prop :=
  (settings.limit report.outcome).toNat < counted settings report.outcome (history ++ [report])

instance (settings : StickySettings) (history : List Report) (report : Report) :
    Decidable (PassesLimit settings history report) :=
  inferInstanceAs (Decidable (_ < _))

/-- A report that comes after a history is one more than a counter can count. -/
def Overfills (settings : StickySettings) (history : List Report) (report : Report) : Prop :=
  counted settings report.outcome (history ++ [report]) = UInt32.size

/-- Of the reports for a key, those since its entry was last created. -/
def sinceCreated (settings : StickySettings) (reports : List Report) : List Report :=
  reports.foldl (fun history report =>
    if PassesLimit settings history report then [] else history ++ [report]) []

/-- The first text that is not empty. -/
def firstNamed (texts : List String) : String :=
  (texts.find? fun text => decide (text ≠ "")).getD ""

/-- The counters hold what the history says, within the limits. -/
structure Counts (settings : StickySettings) (history : List Report) (preference : Preference) :
    Prop where
  tracks : ∀ outcome, (preference.counter outcome).Tracks (1000 * settings.window.toNat)
    (timesOf outcome history)
  count_le : ∀ outcome, (preference.counter outcome).count ≤ settings.limit outcome

/-- The application and the node are the first ones that the history names. -/
structure Prefers (history : List Report) (preference : Preference) : Prop where
  application : preference.application =
    firstNamed (history.map fun report => report.details.preference.application)
  node : preference.node = firstNamed (history.map fun report => report.details.preference.node)

/-- What is under a key is what the history since its creation makes of it. -/
def Remembered (settings : StickySettings) (history : List Report) : Option Preference → Prop
  | none => history = []
  | some preference => history ≠ [] ∧ Counts settings history preference ∧
      Prefers history preference

variable {settings : StickySettings} {history reports : List Report} {report : Report}

theorem timesOf_snoc (outcome : Outcome) (history : List Report) (report : Report) :
    timesOf outcome (history ++ [report]) =
      if report.outcome = outcome then timesOf outcome history ++ [report.time]
      else timesOf outcome history := by
  unfold timesOf
  split <;> simp [List.filter_append, *]

@[simp] theorem firstNamed_nil : firstNamed [] = "" := rfl

/-- A later text counts only where none was named before. -/
theorem firstNamed_snoc (texts : List String) (text : String) :
    firstNamed (texts ++ [text]) = if firstNamed texts = "" then text else firstNamed texts := by
  unfold firstNamed
  rw [List.find?_append]
  cases hfirst : texts.find? fun text => decide (text ≠ "") with
  | none => by_cases htext : text = "" <;> simp [htext]
  | some first =>
      have hne : first ≠ "" := by simpa using List.find?_some hfirst
      simp [hne]

@[simp] theorem firstNamed_singleton (text : String) : firstNamed [text] = text := by
  simpa using firstNamed_snoc [] text

theorem sinceCreated_snoc (settings : StickySettings) (reports : List Report) (report : Report) :
    sinceCreated settings (reports ++ [report]) =
      if PassesLimit settings (sinceCreated settings reports) report then []
      else sinceCreated settings reports ++ [report] := by
  rw [sinceCreated, List.foldl_append]
  rfl

theorem sinceCreated_sublist : (sinceCreated settings reports).Sublist reports := by
  induction reports using List.reverseRecOn with
  | nil => exact List.Sublist.refl []
  | append_singleton reports report ih =>
      rw [sinceCreated_snoc]
      split
      · exact List.nil_sublist _
      · exact ih.append_right [report]

/-- There is no entry before the first report and after one that passes its limit. -/
theorem sinceCreated_eq_nil_iff :
    sinceCreated settings reports = [] ↔
      reports = [] ∨ ∃ earlier last, reports = earlier ++ [last] ∧
        PassesLimit settings (sinceCreated settings earlier) last := by
  cases reports using List.reverseRecOn with
  | nil => simp [sinceCreated]
  | append_singleton earlier last =>
      rw [sinceCreated_snoc]
      constructor
      · intro hnil
        split at hnil
        · next hpasses => exact Or.inr ⟨earlier, last, rfl, hpasses⟩
        · simp at hnil
      · rintro (hnil | ⟨before, report, hsplit, hpasses⟩)
        · simp at hnil
        · obtain ⟨rfl, rfl⟩ := List.append_singleton_inj.mp hsplit
          rw [if_pos hpasses]

/-- An entry counts something, whatever its first report was. -/
theorem Counts.exists_pos {preference : Preference}
    (hcounts : Counts settings history preference) (hne : history ≠ []) :
    0 < preference.relays.count ∨ 0 < preference.errors.count := by
  obtain ⟨report, hreport⟩ := List.exists_mem_of_ne_nil _ hne
  have htime : timesOf report.outcome history ≠ [] := by
    refine List.ne_nil_of_mem (a := report.time) ?_
    exact List.mem_map.mpr ⟨report, List.mem_filter.mpr ⟨hreport, by simp⟩, rfl⟩
  have hpos : 0 < (preference.counter report.outcome).count := by
    rw [UInt32.pos_iff_ne_zero, Ne, (hcounts.tracks report.outcome).count_eq_zero_iff]
    exact htime
  cases houtcome : report.outcome with
  | success => exact Or.inl (by rwa [houtcome] at hpos)
  | failure => exact Or.inr (by rwa [houtcome] at hpos)

/-! ## Settling -/

/-- Settling leaves the counters as the history has them. -/
theorem settle_counts {cache : Cache} {details : Details}
    (hremembered : Remembered settings history (cache.find? details.key)) :
    Counts settings history (cache.settle details) := by
  unfold Cache.settle
  cases hknown : cache.find? details.key with
  -- a caller that is not remembered has no counts, whatever the details say
  | none =>
      rw [hknown] at hremembered
      cases hremembered
      constructor
      · intro outcome
        rw [Preference.counter_withoutCounts]
        exact Counter.tracks_nil
      · intro outcome
        simp
  -- what is completed keeps its own counters
  | some known =>
      rw [hknown] at hremembered
      obtain ⟨-, hcounts, -⟩ := hremembered
      constructor
      · intro outcome
        simpa using hcounts.tracks outcome
      · intro outcome
        simpa using hcounts.count_le outcome

/-- Settling completes the names by those of the report. -/
theorem settle_prefers {cache : Cache}
    (hremembered : Remembered settings history (cache.find? report.details.key)) :
    Prefers (history ++ [report]) (cache.settle report.details) := by
  unfold Cache.settle
  cases hknown : cache.find? report.details.key with
  | none =>
      rw [hknown] at hremembered
      cases hremembered
      constructor
      · simp [Preference.withoutCounts]
      · simp [Preference.withoutCounts]
  | some known =>
      rw [hknown] at hremembered
      obtain ⟨-, -, hprefers⟩ := hremembered
      constructor
      · simp [Preference.orElse, firstNamed_snoc, ← hprefers.application]
      · simp [Preference.orElse, firstNamed_snoc, ← hprefers.node]

/-! ## Counting -/

/-- The limits leave every counter one more event. -/
def LimitsBelowMax (settings : StickySettings) : Prop :=
  ∀ outcome, (settings.limit outcome).toNat + 1 < UInt32.size

theorem pairwise_timesOf_snoc
    (hsorted : (history ++ [report]).Pairwise fun first second => first.time ≤ second.time) :
    (timesOf report.outcome history ++ [report.time]).Pairwise (· ≤ ·) := by
  have hsome := timesOf_snoc report.outcome history report
  rw [if_pos rfl] at hsome
  rw [← hsome]
  exact (hsorted.sublist List.filter_sublist).map _ fun _ _ hle => hle

/-- The counter that a report has advanced follows the history with that report. -/
theorem Counts.of_increment {preference : Preference} {counter : Counter}
    (hcounts : Counts settings history preference)
    (hsorted : (history ++ [report]).Pairwise fun first second => first.time ≤ second.time)
    (hcounter : (preference.counter report.outcome).increment report.time settings.window =
      .ok counter) :
    ∀ outcome, ((preference.withCounter report.outcome counter).counter outcome).Tracks
      (1000 * settings.window.toNat) (timesOf outcome (history ++ [report])) := by
  refine Preference.forall_counter_withCounter preference report.outcome counter
    (fun outcome counter => counter.Tracks (1000 * settings.window.toNat)
      (timesOf outcome (history ++ [report]))) ?_ fun other hother => ?_
  · rw [timesOf_snoc, if_pos rfl]
    exact (hcounts.tracks report.outcome).of_increment (pairwise_timesOf_snoc hsorted) hcounter
  · rw [timesOf_snoc, if_neg (Ne.symm hother)]
    exact hcounts.tracks other

/-- When a report comes, its counter stands at one less than the history with it holds. -/
theorem Counts.count_refresh {preference : Preference}
    (hcounts : Counts settings history preference)
    (hsorted : (history ++ [report]).Pairwise fun first second => first.time ≤ second.time) :
    ((preference.counter report.outcome).refresh report.time).count.toNat + 1 =
      counted settings report.outcome (history ++ [report]) := by
  rw [counted, timesOf_snoc, if_pos rfl]
  exact ((hcounts.tracks report.outcome).length_current_snoc (pairwise_timesOf_snoc hsorted)).symm

/-- Limits below the greatest count leave room for every report. -/
theorem Counts.not_overfills {preference : Preference}
    (hcounts : Counts settings history preference) (hlimits : LimitsBelowMax settings)
    (hsorted : (history ++ [report]).Pairwise fun first second => first.time ≤ second.time) :
    ¬Overfills settings history report := by
  rw [Overfills, ← hcounts.count_refresh hsorted]
  have hrefresh := (preference.counter report.outcome).refresh_count_le report.time
  have hle := UInt32.le_iff_toNat_le.mp (hcounts.count_le report.outcome)
  have hlimit := hlimits report.outcome
  omega

/-- A counted report leaves under its key what the longer history says. -/
theorem Remembered.recorded {cache : Cache} (hsettings : cache.settings = settings)
    (hremembered : Remembered settings history (cache.find? report.details.key))
    {counter : Counter}
    (htracks : ∀ outcome, (((cache.settle report.details).withCounter report.outcome
        counter).counter outcome).Tracks (1000 * settings.window.toNat)
      (timesOf outcome (history ++ [report]))) :
    Remembered settings
      (if PassesLimit settings history report then [] else history ++ [report])
      ((cache.recorded report.details report.outcome counter).find? report.details.key) := by
  have hcount : counter.count.toNat = counted settings report.outcome (history ++ [report]) := by
    have := (htracks report.outcome).count
    rwa [Preference.counter_withCounter_self] at this
  -- the counter after the report passes its limit just when the history says so
  have hpasses : settings.limit report.outcome < counter.count ↔
      PassesLimit settings history report := by
    rw [UInt32.lt_iff_toNat_lt, hcount, PassesLimit]
  rw [Cache.find?_recorded, if_pos rfl, hsettings]
  by_cases hpast : PassesLimit settings history report
  · rw [if_pos hpast, if_pos (hpasses.mpr hpast)]
    rfl
  · rw [if_neg hpast, if_neg (mt hpasses.mp hpast)]
    refine ⟨by simp, ⟨htracks, ?_⟩, ?_⟩
    · -- the other counter was within its limit before
      exact Preference.forall_counter_withCounter _ _ _
        (fun outcome counter => counter.count ≤ settings.limit outcome)
        (UInt32.not_lt.mp (mt hpasses.mp hpast))
        fun other _ => (settle_counts hremembered).count_le other
    · have hprefers := settle_prefers hremembered
      exact ⟨by rw [Preference.application_withCounter]; exact hprefers.application,
        by rw [Preference.node_withCounter]; exact hprefers.node⟩

/-! ## Runs -/

theorem concerning_snoc (key : Key) (reports : List Report) (report : Report) :
    concerning key (reports ++ [report]) =
      if report.details.policy.isEmpty = false ∧ report.details.key = key then
        concerning key reports ++ [report]
      else concerning key reports := by
  unfold concerning
  split
  · next hconcerns => simp [List.filter_append, Report.concerns, hconcerns]
  · next hother =>
      have hnot : report.concerns key = false := by
        unfold Report.concerns
        cases hpolicy : report.details.policy.isEmpty <;> simp_all
      simp [List.filter_append, hnot]

/-- The reports that an entry goes back to, and one more, are as the run has them. -/
theorem pairwise_sinceCreated_snoc (key : Key)
    (hsorted : (reports ++ [report]).Pairwise fun first second => first.time ≤ second.time) :
    (sinceCreated settings (concerning key reports) ++ [report]).Pairwise
      fun first second => first.time ≤ second.time :=
  hsorted.sublist ((sinceCreated_sublist.trans List.filter_sublist).append_right [report])

/-- A report leaves under every key what the longer run says. -/
theorem remembers_of_report {cache after : Cache} {reported : Details}
    (hsettings : cache.settings = settings)
    (hremembered : ∀ key, Remembered settings (sinceCreated settings (concerning key reports))
      (cache.find? key))
    (hsorted : (reports ++ [report]).Pairwise fun first second => first.time ≤ second.time)
    (hreport : cache.report report.details report.outcome report.time = .ok (after, reported)) :
    after.settings = settings ∧ ∀ key, Remembered settings
      (sinceCreated settings (concerning key (reports ++ [report]))) (after.find? key) := by
  rcases Cache.report_cases hreport with ⟨hpolicy, rfl⟩ | ⟨hpolicy, counter, hcounter, rfl⟩
  · -- A report without a policy concerns no key and changes no entry.
    refine ⟨hsettings, fun key => ?_⟩
    rw [concerning_snoc, if_neg (by simp [hpolicy])]
    exact hremembered key
  · refine ⟨hsettings, fun key => ?_⟩
    by_cases hkey : report.details.key = key
    · subst hkey
      have hmine := hremembered report.details.key
      rw [hsettings] at hcounter
      rw [concerning_snoc, if_pos ⟨hpolicy, rfl⟩, sinceCreated_snoc]
      exact hmine.recorded hsettings
        ((settle_counts hmine).of_increment (pairwise_sinceCreated_snoc _ hsorted) hcounter)
    · -- Every other key keeps its reports and its entry.
      rw [concerning_snoc, if_neg fun hconcerns => hkey hconcerns.2, Cache.find?_recorded,
        if_neg (Ne.symm hkey)]
      exact hremembered key

/-- As long as nothing overflows, every key holds what its history says. -/
theorem remembers_of_run {defaults : Preference} {cache : Cache}
    (hsorted : reports.Pairwise fun first second => first.time ≤ second.time)
    (hrun : Cache.run { settings, defaultPreference := defaults } reports = .ok cache) :
    cache.settings = settings ∧
      ∀ key, Remembered settings (sinceCreated settings (concerning key reports))
        (cache.find? key) := by
  induction reports using List.reverseRecOn generalizing cache with
  | nil =>
      cases hrun
      exact ⟨rfl, fun key => rfl⟩
  | append_singleton reports report ih =>
      obtain ⟨before, reported, hbefore, hreport⟩ := Cache.run_snoc_eq_ok_iff.mp hrun
      obtain ⟨hsettings, hremembered⟩ := ih (List.pairwise_append.mp hsorted).1 hbefore
      exact remembers_of_report hsettings hremembered hsorted hreport

/-- A run goes on with a report that is not too many for its counter. -/
theorem exists_run_snoc {defaults : Preference} {before : Cache}
    (hsorted : (reports ++ [report]).Pairwise fun first second => first.time ≤ second.time)
    (hbefore : Cache.run { settings, defaultPreference := defaults } reports = .ok before)
    (hroom : ¬Overfills settings (sinceCreated settings (concerning report.details.key reports))
      report)
    (hclock : report.time + 1000 * settings.window.toNat < clockLimit) :
    ∃ cache, Cache.run { settings, defaultPreference := defaults } (reports ++ [report]) =
      .ok cache := by
  obtain ⟨hsettings, hremembered⟩ :=
    remembers_of_run (List.pairwise_append.mp hsorted).1 hbefore
  cases hpolicy : report.details.policy.isEmpty with
  | true =>
      have hreport :=
        Cache.report_of_isEmpty before report.details report.outcome report.time hpolicy
      exact ⟨before, Cache.run_snoc_eq_ok_iff.mpr ⟨before, _, hbefore, hreport⟩⟩
  | false =>
      -- the counter is what the history says, so the room that is left there is left here
      have hcounts := settle_counts (hremembered report.details.key)
      rw [Overfills, ← hcounts.count_refresh (pairwise_sinceCreated_snoc _ hsorted)] at hroom
      obtain ⟨counter, hcounter⟩ := Counter.exists_increment hroom hclock
      have hreport := Cache.report_eq before report.details report.outcome report.time hpolicy
      rw [hsettings, hcounter] at hreport
      exact ⟨_, Cache.run_snoc_eq_ok_iff.mpr ⟨before, _, hbefore, hreport⟩⟩

/-- Limits below the greatest count, and windows within the clock, keep everything from
overflowing. -/
theorem exists_run (settings : StickySettings) (defaults : Preference) (reports : List Report)
    (hlimits : LimitsBelowMax settings)
    (hsorted : reports.Pairwise fun first second => first.time ≤ second.time)
    (hclock : ∀ report ∈ reports, report.time + 1000 * settings.window.toNat < clockLimit) :
    ∃ cache, Cache.run { settings, defaultPreference := defaults } reports = .ok cache := by
  induction reports using List.reverseRecOn with
  | nil => exact ⟨_, rfl⟩
  | append_singleton reports report ih =>
      have hearlier := (List.pairwise_append.mp hsorted).1
      obtain ⟨before, hbefore⟩ :=
        ih hearlier fun earlier hmem => hclock earlier (List.mem_append_left _ hmem)
      obtain ⟨-, hremembered⟩ := remembers_of_run hearlier hbefore
      have hcounts := settle_counts (hremembered report.details.key)
      exact exists_run_snoc hsorted hbefore
        (hcounts.not_overfills hlimits (pairwise_sinceCreated_snoc _ hsorted))
        (hclock report (List.mem_append_right _ (List.mem_singleton_self _)))

/-- Along a run from an empty cache, every key holds what its history says. -/
theorem run_remembers (settings : StickySettings) (defaults : Preference) (reports : List Report)
    (hlimits : LimitsBelowMax settings)
    (hsorted : reports.Pairwise fun first second => first.time ≤ second.time)
    (hclock : ∀ report ∈ reports, report.time + 1000 * settings.window.toNat < clockLimit) :
    ∃ cache, Cache.run { settings, defaultPreference := defaults } reports = .ok cache ∧
      cache.settings = settings ∧
      ∀ key, Remembered settings (sinceCreated settings (concerning key reports))
        (cache.find? key) := by
  obtain ⟨cache, hrun⟩ := exists_run settings defaults reports hlimits hsorted hclock
  exact ⟨cache, hrun, remembers_of_run hsorted hrun⟩

/-- **The exact history semantics of the affinity cache.**  A key is absent exactly when nothing
was counted for it yet or the last report for it took its counter past its limit.  A present
entry has the counts, window ends and names of the reports since it was last created. -/
theorem run_exact_history (settings : StickySettings) (defaults : Preference)
    (reports : List Report) (hlimits : LimitsBelowMax settings)
    (hsorted : reports.Pairwise fun first second => first.time ≤ second.time)
    (hclock : ∀ report ∈ reports, report.time + 1000 * settings.window.toNat < clockLimit) :
    ∃ cache, Cache.run { settings, defaultPreference := defaults } reports = .ok cache ∧
      ∀ key,
        (cache.find? key = none ↔
          concerning key reports = [] ∨
            ∃ earlier last, concerning key reports = earlier ++ [last] ∧
              PassesLimit settings (sinceCreated settings earlier) last) ∧
        ∀ preference, cache.find? key = some preference →
          let history := sinceCreated settings (concerning key reports)
          Counts settings history preference ∧ Prefers history preference ∧
            (∀ outcome,
              ((preference.counter outcome).count = 0 ↔ timesOf outcome history = []) ∧
              ((preference.counter outcome).endsAt? = none ↔ timesOf outcome history = [])) ∧
            (0 < preference.relays.count ∨ 0 < preference.errors.count) := by
  obtain ⟨cache, hrun, -, hremembered⟩ :=
    run_remembers settings defaults reports hlimits hsorted hclock
  refine ⟨cache, hrun, fun key => ?_⟩
  have hkey := hremembered key
  cases hfind : cache.find? key with
  | none =>
      rw [hfind] at hkey
      -- the key is absent, and both ways in which a history is empty are meant
      refine ⟨iff_of_true rfl (sinceCreated_eq_nil_iff.mp hkey), ?_⟩
      intro preference hpreference
      cases hpreference
  | some preference =>
      rw [hfind] at hkey
      obtain ⟨hne, hcounts, hprefers⟩ := hkey
      refine ⟨iff_of_false (by simp) (mt sinceCreated_eq_nil_iff.mpr hne), ?_⟩
      intro other hother
      cases hother
      refine ⟨hcounts, hprefers, fun outcome => ⟨(hcounts.tracks outcome).count_eq_zero_iff,
        (hcounts.tracks outcome).ends_eq_none_iff⟩, ?_⟩
      exact hcounts.exists_pos hne

/-- A report of one caller that names the given application and node. -/
def naming (application node : String) (outcome : Outcome) (time : Instant) : Report where
  details :=
    { key := { balancerId := "lb" }
      policy := { sticky := true, origins := ["example"] }
      preference := { application, node } }
  outcome := outcome
  time := time

/-- Three successes and a failure; the last success comes after the end of the first window. -/
def settling : List Report :=
  [naming "" "" .success 0, naming "a" "" .success 60000, naming "b" "n" .failure 60000,
    naming "c" "m" .success 60001]

/-- At the run `settling` the limits are reached and not passed, and the application and the node
are named by different reports. -/
theorem run_exact_history_settling :
    let settings : StickySettings := { window := 60, relayLimit := 2, errorLimit := 1 }
    LimitsBelowMax settings ∧
      settling.Pairwise (fun first second => first.time ≤ second.time) ∧
      (∀ report ∈ settling, report.time + 1000 * settings.window.toNat < clockLimit) ∧
      ∃ cache preference, Cache.run { settings } settling = .ok cache ∧
        cache.find? { balancerId := "lb" } = some preference ∧
        preference.relays.count.toNat = 1 ∧ preference.relays.endsAt? = some 120001 ∧
        preference.errors.count.toNat = 1 ∧ preference.errors.endsAt? = some 120000 ∧
        preference.application = "a" ∧ preference.node = "n" := by
  intro settings
  have hlimits : LimitsBelowMax settings := by
    intro outcome
    cases outcome <;> decide
  have hsorted : settling.Pairwise (fun first second => first.time ≤ second.time) := by decide
  have hclock : ∀ report ∈ settling, report.time + 1000 * settings.window.toNat < clockLimit := by
    decide
  refine ⟨hlimits, hsorted, hclock, ?_⟩
  obtain ⟨cache, hrun, hkeys⟩ := run_exact_history settings {} settling hlimits hsorted hclock
  obtain ⟨habsent, hpresent⟩ := hkeys { balancerId := "lb" }
  cases hfind : cache.find? { balancerId := "lb" } with
  | none =>
      exact absurd (sinceCreated_eq_nil_iff.mpr (habsent.mp hfind)) (by decide)
  | some preference =>
      obtain ⟨hcounts, hprefers, -, -⟩ := hpresent preference hfind
      exact ⟨cache, preference, hrun, hfind, (hcounts.tracks .success).count.trans (by decide),
        (hcounts.tracks .success).ends.trans (by decide),
        (hcounts.tracks .failure).count.trans (by decide),
        (hcounts.tracks .failure).ends.trans (by decide),
        hprefers.application.trans (by decide), hprefers.node.trans (by decide)⟩

end ChainGateway.Affinity
