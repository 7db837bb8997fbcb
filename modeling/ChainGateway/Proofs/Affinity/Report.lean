import ChainGateway.Affinity.Cache
import ChainGateway.Proofs.Affinity.Counter
import ChainGateway.Proofs.Table

/-!
# What a report does

A success and a failure are reported in the same way; they differ in the counter that counts
them and in the limit it must not pass.  With both read off the outcome (`Preference.counter`,
`StickySettings.limit`), one equation says what any report does: it settles the preference under
its key, counts, and either writes the entry or drops it (`Cache.report_eq`).  `Cache.report_cases`
is the same statement read backwards, and `Cache.find?_recorded` is its effect on the view.

A run is a sequence of reports, each with the details and the instant it was made with.
-/

namespace ChainGateway

/-- The greatest count of an outcome that an entry survives. -/
def StickySettings.limit (settings : StickySettings) : Affinity.Outcome → UInt32
  | .success => settings.relayLimit
  | .failure => settings.errorLimit

namespace Affinity

/-- A report as it was made. -/
structure Report where
  details : Details
  outcome : Outcome
  time : Instant
  deriving DecidableEq

namespace Preference

/-- The counter for an outcome. -/
def counter (preference : Preference) : Outcome → Counter
  | .success => preference.relays
  | .failure => preference.errors

/-- The preference with another counter for an outcome. -/
def withCounter (preference : Preference) (outcome : Outcome) (counter : Counter) : Preference :=
  match outcome with
  | .success => { preference with relays := counter }
  | .failure => { preference with errors := counter }

variable (preference other : Preference) (outcome : Outcome) (next : Counter)

@[simp] theorem counter_withCounter_self :
    (preference.withCounter outcome next).counter outcome = next := by
  cases outcome <;> rfl

theorem counter_withCounter_of_ne {outcome changed : Outcome} (hne : outcome ≠ changed) :
    (preference.withCounter changed next).counter outcome = preference.counter outcome := by
  cases outcome <;> cases changed <;> first | rfl | exact absurd rfl hne

/-- What holds of the new counter, and of the other one as it was, holds of both. -/
theorem forall_counter_withCounter (property : Outcome → Counter → Prop)
    (hnext : property outcome next)
    (hothers : ∀ other, other ≠ outcome → property other (preference.counter other)) :
    ∀ other, property other ((preference.withCounter outcome next).counter other) := by
  intro other
  by_cases hother : other = outcome
  · subst hother
    rwa [counter_withCounter_self]
  · rw [counter_withCounter_of_ne _ _ hother]
    exact hothers other hother

@[simp] theorem application_withCounter :
    (preference.withCounter outcome next).application = preference.application := by
  cases outcome <;> rfl

@[simp] theorem node_withCounter :
    (preference.withCounter outcome next).node = preference.node := by
  cases outcome <;> rfl

@[simp] theorem counter_withoutCounts : preference.withoutCounts.counter outcome = {} := by
  cases outcome <;> rfl

@[simp] theorem counter_orElse :
    (preference.orElse other).counter outcome = preference.counter outcome := by
  cases outcome <;> rfl

@[simp] theorem application_orElse :
    (preference.orElse other).application =
      if preference.application = "" then other.application else preference.application := rfl

@[simp] theorem node_orElse :
    (preference.orElse other).node =
      if preference.node = "" then other.node else preference.node := rfl

/-- Nothing is missing once a preference was completed by itself. -/
theorem orElse_orElse : preference.orElse (preference.orElse other) = preference.orElse other := by
  unfold orElse
  by_cases happlication : preference.application = "" <;> by_cases hnode : preference.node = "" <;>
    simp [happlication, hnode]

theorem orElse_empty : preference.orElse {} = preference := by
  have hself : ∀ text : String, (if text = "" then "" else text) = text := by
    intro text
    split
    · next hempty => exact hempty.symm
    · rfl
  unfold orElse
  rw [hself, hself]

end Preference

namespace Cache

/-! ## The preference that a report settles -/

/-- Details that were resolved from the cache, and completed since, are settled as they are. -/
theorem settle_orElse {cache : Cache} {details : Details} (extra : Preference)
    (hknown : ∀ known, cache.find? details.key = some known → details.preference = known) :
    let completed := details.preference.orElse extra
    let settled := cache.settle { details with preference := completed }
    settled.application = completed.application ∧ settled.node = completed.node := by
  intro completed settled
  cases hfind : cache.find? details.key with
  | none =>
      have hsettled : settled = completed.withoutCounts := by
        simp only [settled, settle, hfind]
      rw [hsettled]
      exact ⟨rfl, rfl⟩
  | some known =>
      have hsettled : settled = known.orElse (known.orElse extra) := by
        simp only [settled, completed, settle, hfind, hknown known hfind]
      rw [hsettled, Preference.orElse_orElse, ← hknown known hfind]
      exact ⟨rfl, rfl⟩

/-! ## One report -/

/-- The cache once a report has been counted: the entry is dropped if its counter is past the
limit, and written otherwise. -/
def recorded (cache : Cache) (details : Details) (outcome : Outcome) (counter : Counter) :
    Cache :=
  { cache with
    items :=
      if cache.settings.limit outcome < counter.count then cache.items.erase details.key
      else cache.items.insert details.key ((cache.settle details).withCounter outcome counter) }

/-- A report without a policy changes nothing. -/
theorem report_of_isEmpty (cache : Cache) (details : Details) (outcome : Outcome) (now : Instant)
    (hpolicy : details.policy.isEmpty = true) :
    cache.report details outcome now = .ok (cache, details) := by
  simp [report, hpolicy]

/-- A report with a policy counts the outcome on the settled preference. -/
theorem report_eq (cache : Cache) (details : Details) (outcome : Outcome) (now : Instant)
    (hpolicy : details.policy.isEmpty = false) :
    cache.report details outcome now =
      (((cache.settle details).counter outcome).increment now cache.settings.window).map
        fun counter =>
          (cache.recorded details outcome counter,
            { details with
              preference := (cache.settle details).withCounter outcome counter }) := by
  have hcount : count cache.settings (cache.settle details) now outcome =
      (((cache.settle details).counter outcome).increment now cache.settings.window).map
        fun counter => ((cache.settle details).withCounter outcome counter, counter.count,
          cache.settings.limit outcome) := by
    cases outcome <;> rfl
  unfold report
  rw [if_neg (by simp [hpolicy]), hcount]
  cases ((cache.settle details).counter outcome).increment now cache.settings.window with
  | error fault => rfl
  | ok counter => rfl

/-- All that a report can do. -/
theorem report_cases {cache after : Cache} {details reported : Details} {outcome : Outcome}
    {now : Instant} (hreport : cache.report details outcome now = .ok (after, reported)) :
    details.policy.isEmpty = true ∧ after = cache ∨
      details.policy.isEmpty = false ∧ ∃ counter,
        ((cache.settle details).counter outcome).increment now cache.settings.window =
          .ok counter ∧
        after = cache.recorded details outcome counter := by
  cases hpolicy : details.policy.isEmpty with
  | true =>
      rw [report_of_isEmpty cache details outcome now hpolicy] at hreport
      cases hreport
      exact Or.inl ⟨rfl, rfl⟩
  | false =>
      rw [report_eq cache details outcome now hpolicy] at hreport
      cases hcounter :
          ((cache.settle details).counter outcome).increment now cache.settings.window with
      | error fault =>
          rw [hcounter] at hreport
          cases hreport
      | ok counter =>
          rw [hcounter] at hreport
          cases hreport
          exact Or.inr ⟨rfl, counter, rfl, rfl⟩

/-- A report is about its own key only. -/
theorem find?_recorded (cache : Cache) (details : Details) (outcome : Outcome)
    (counter : Counter) (key : Key) :
    (cache.recorded details outcome counter).find? key =
      if key = details.key then
        if cache.settings.limit outcome < counter.count then none
        else some ((cache.settle details).withCounter outcome counter)
      else cache.find? key := by
  unfold find? recorded
  dsimp only
  split
  · rw [Table.find?_erase]
  · rw [Table.find?_insert]

/-! ## Runs -/

/-- Makes reports one after another. -/
def run (cache : Cache) (reports : List Report) : Except Fault Cache :=
  reports.foldlM
    (fun cache report =>
      (cache.report report.details report.outcome report.time).map Prod.fst) cache

/-- A run succeeds if it does so up to its last report, and the last report does. -/
theorem run_snoc_eq_ok_iff {cache after : Cache} {reports : List Report} {report : Report} :
    cache.run (reports ++ [report]) = .ok after ↔
      ∃ before reported, cache.run reports = .ok before ∧
        before.report report.details report.outcome report.time = .ok (after, reported) := by
  have hsnoc : cache.run (reports ++ [report]) =
      cache.run reports >>= fun before =>
        (before.report report.details report.outcome report.time).map Prod.fst := by
    simp [run, List.foldlM_append]
  rw [hsnoc, bind_eq_ok_iff]
  constructor
  · rintro ⟨before, hbefore, hlast⟩
    obtain ⟨⟨_, reported⟩, hreport, rfl⟩ := map_eq_ok_iff.mp hlast
    exact ⟨before, reported, hbefore, hreport⟩
  · rintro ⟨before, reported, hbefore, hreport⟩
    exact ⟨before, hbefore, map_eq_ok_iff.mpr ⟨(after, reported), hreport, rfl⟩⟩

end Cache

end Affinity

end ChainGateway
