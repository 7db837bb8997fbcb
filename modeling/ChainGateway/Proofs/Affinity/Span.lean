import Mathlib.Data.Finset.Max
import ChainGateway.Proofs.Affinity.History

/-!
# What a span as long as a window absorbs

Limits bound the events of one window, and windows open whenever an event comes after the end of
the one before.  A caller whose node keeps failing should not be kept by a lucky alignment of
windows: among twice the limit and one more reports with an outcome, made within a span as long as a
window, there is one that was followed by a cache without the entry (`absent_within_span`).  Which
window was open at the beginning, reports of the other outcome and entries that were dropped and
made anew in between make no difference.

## Strategy

As long as the entry is present after every report, nothing is forgotten: the history since its
creation only grows (`sinceCreated_append`).  So all these reports are counted in it, within the
limit at every moment (`counted_sinceCreated_le`), and a span meets two windows at most.
-/

namespace ChainGateway.Affinity

variable {settings : StickySettings} {outcome : Outcome} {key : Key}

/-- The reports since the creation of an entry are counted within the limit. -/
theorem counted_sinceCreated_le (settings : StickySettings) (outcome : Outcome)
    (reports : List Report) :
    counted settings outcome (sinceCreated settings reports) ≤ (settings.limit outcome).toNat := by
  induction reports using List.reverseRecOn with
  | nil => exact Nat.zero_le _
  | append_singleton reports report ih =>
      rw [sinceCreated_snoc]
      split
      · exact Nat.zero_le _
      · next hwithin =>
          by_cases houtcome : report.outcome = outcome
          · subst houtcome
            exact Nat.not_lt.mp hwithin
          · unfold counted at ih ⊢
            rwa [timesOf_snoc, if_neg houtcome]

/-- While the entry is present after every report, all reports are of its history. -/
theorem sinceCreated_append {before inside : List Report}
    (hkept : ∀ earlier later, inside = earlier ++ later → earlier ≠ [] →
      sinceCreated settings (before ++ earlier) ≠ []) :
    sinceCreated settings (before ++ inside) = sinceCreated settings before ++ inside := by
  induction inside using List.reverseRecOn with
  | nil => rw [List.append_nil, List.append_nil]
  | append_singleton inside report ih =>
      have hlast := hkept (inside ++ [report]) [] (List.append_nil _).symm (by simp)
      have hearlier := ih fun earlier later hsplit =>
        hkept earlier (later ++ [report]) (by rw [hsplit, List.append_assoc])
      rw [← List.append_assoc, sinceCreated_snoc] at hlast ⊢
      split
      · next hpasses =>
          rw [if_pos hpasses] at hlast
          exact absurd rfl hlast
      · rw [hearlier, List.append_assoc]

theorem timesOf_append (outcome : Outcome) (first second : List Report) :
    timesOf outcome (first ++ second) = timesOf outcome first ++ timesOf outcome second := by
  unfold timesOf
  rw [List.filter_append, List.map_append]

/-- An entry that is present after every report of a span has absorbed at most twice the limit. -/
theorem length_timesOf_le {before inside : List Report}
    (hsorted : (before ++ inside).Pairwise fun first second => first.time ≤ second.time)
    (hspan : ∀ first ∈ timesOf outcome inside, ∀ last ∈ timesOf outcome inside,
      last ≤ first + 1000 * settings.window.toNat)
    (hkept : ∀ earlier later, inside = earlier ++ later → earlier ≠ [] →
      sinceCreated settings (before ++ earlier) ≠ []) :
    (timesOf outcome inside).length ≤ 2 * (settings.limit outcome).toNat := by
  have hordered : (timesOf outcome (sinceCreated settings before) ++
      timesOf outcome inside).Pairwise (· ≤ ·) := by
    rw [← timesOf_append]
    exact ((hsorted.sublist (sinceCreated_sublist.append_right inside)).sublist
      List.filter_sublist).map _ fun _ _ hle => hle
  refine length_le_of_span hordered hspan ?_
  intro earlier later hsplit hne
  -- the instants up to some event are those of the reports up to some report
  obtain ⟨front, back, rfl, rfl, -⟩ : ∃ front back, inside = front ++ back ∧
      timesOf outcome front = earlier ∧ timesOf outcome back = later := by
    obtain ⟨front, back, hfilter, rfl, rfl⟩ := List.map_eq_append_iff.mp hsplit
    obtain ⟨front, back, hinside, rfl, rfl⟩ := List.filter_eq_append_iff.mp hfilter
    exact ⟨front, back, hinside, rfl, rfl⟩
  have hgrown : sinceCreated settings (before ++ front) = sinceCreated settings before ++ front :=
    sinceCreated_append fun earlier later hfront hne =>
      hkept earlier (later ++ back) (by rw [hfront, List.append_assoc]) hne
  have hcounted := counted_sinceCreated_le settings outcome (before ++ front)
  rwa [hgrown, counted, timesOf_append] at hcounted

/-- If a span holds more than twice the limit, the entry was dropped by a report within it. -/
theorem exists_dropped (before : List Report) {inside : List Report}
    (hsorted : (before ++ inside).Pairwise fun first second => first.time ≤ second.time)
    (hspan : ∀ first ∈ timesOf outcome inside, ∀ last ∈ timesOf outcome inside,
      last ≤ first + 1000 * settings.window.toNat)
    (hmany : 2 * (settings.limit outcome).toNat < (timesOf outcome inside).length) :
    ∃ earlier report later, inside = earlier ++ report :: later ∧
      sinceCreated settings (before ++ earlier ++ [report]) = [] := by
  by_contra hnone
  refine absurd (length_timesOf_le hsorted hspan fun front back hsplit hne hgone => ?_)
    (Nat.not_le.mpr hmany)
  obtain ⟨earlier, report, rfl⟩ := (List.eq_nil_or_concat front).resolve_left hne
  rw [List.concat_eq_append] at hsplit hgone
  rw [← List.append_assoc] at hgone
  exact hnone ⟨earlier, report, back, by rw [hsplit, List.append_assoc]; rfl, hgone⟩

/-! ## Runs -/

theorem concerning_append (key : Key) (first second : List Report) :
    concerning key (first ++ second) = concerning key first ++ concerning key second :=
  List.filter_append first second

/-- A report among those for a key is one of all reports, with its forerunners for the key before
it. -/
theorem exists_of_concerning_eq {inside earlier later : List Report} {report : Report}
    (hsplit : concerning key inside = earlier ++ report :: later) :
    ∃ front rest, inside = front ++ report :: rest ∧ concerning key front = earlier ∧
      report.concerns key = true := by
  obtain ⟨front, back, rfl, hfront, hback⟩ := List.filter_eq_append_iff.mp hsplit
  obtain ⟨skipped, rest, rfl, hskipped, hconcerns, -⟩ := List.filter_eq_cons_iff.mp hback
  have hnone : concerning key skipped = [] := List.filter_eq_nil_iff.mpr hskipped
  refine ⟨front ++ skipped, rest, (List.append_assoc _ _ _).symm, ?_, hconcerns⟩
  rw [concerning_append, hnone, List.append_nil]
  exact hfront

/-- A key whose history is empty is absent. -/
theorem run_absent {reports : List Report} (hlimits : LimitsBelowMax settings)
    (defaults : Preference)
    (hsorted : reports.Pairwise fun first second => first.time ≤ second.time)
    (hclock : ∀ report ∈ reports, report.time + 1000 * settings.window.toNat < clockLimit)
    (hgone : sinceCreated settings (concerning key reports) = []) :
    ∃ cache, Cache.run { settings, defaultPreference := defaults } reports = .ok cache ∧
      cache.find? key = none := by
  obtain ⟨cache, hrun, -, hremembered⟩ :=
    run_remembers settings defaults reports hlimits hsorted hclock
  have hkey := hremembered key
  rw [hgone] at hkey
  refine ⟨cache, hrun, ?_⟩
  cases hfind : cache.find? key with
  | none => rfl
  | some preference =>
      rw [hfind] at hkey
      exact absurd rfl hkey.1

/-- If a stretch of a run within a span holds more than twice the limit, the key is absent right
after some report for it in the stretch. -/
theorem exists_absent {before inside : List Report}
    (hlimits : LimitsBelowMax settings) (defaults : Preference)
    (hsorted : (before ++ inside).Pairwise fun first second => first.time ≤ second.time)
    (hclock : ∀ report ∈ before ++ inside,
      report.time + 1000 * settings.window.toNat < clockLimit)
    (hspan : ∀ first ∈ inside, ∀ last ∈ inside,
      last.time ≤ first.time + 1000 * settings.window.toNat)
    (hmany : 2 * (settings.limit outcome).toNat <
      (timesOf outcome (concerning key inside)).length) :
    ∃ earlier report later, inside = earlier ++ report :: later ∧ report.concerns key = true ∧
      ∃ cache, Cache.run { settings, defaultPreference := defaults }
          (before ++ earlier ++ [report]) = .ok cache ∧ cache.find? key = none := by
  have htimes : ∀ time ∈ timesOf outcome (concerning key inside),
      ∃ report ∈ inside, report.time = time := by
    intro time hmem
    obtain ⟨report, hreport, rfl⟩ := List.mem_map.mp hmem
    exact ⟨report, List.mem_of_mem_filter (List.mem_of_mem_filter hreport), rfl⟩
  have hnear : ∀ first ∈ timesOf outcome (concerning key inside),
      ∀ last ∈ timesOf outcome (concerning key inside),
        last ≤ first + 1000 * settings.window.toNat := by
    intro first hfirst last hlast
    obtain ⟨opening, hopening, rfl⟩ := htimes first hfirst
    obtain ⟨closing, hclosing, rfl⟩ := htimes last hlast
    exact hspan opening hopening closing hclosing
  -- `exists_dropped` looks only at the reports for the key, so the run is cut down to these
  have hordered : (concerning key before ++ concerning key inside).Pairwise
      fun first second => first.time ≤ second.time := by
    rw [← concerning_append]
    exact hsorted.sublist List.filter_sublist
  obtain ⟨earlier, report, later, hsplit, hgone⟩ :=
    exists_dropped (concerning key before) hordered hnear hmany
  -- the report that drops the entry is found in the whole run again
  obtain ⟨front, rest, rfl, rfl, hconcerns⟩ := exists_of_concerning_eq hsplit
  have hone : concerning key [report] = [report] :=
    List.filter_eq_self.mpr (by simpa using hconcerns)
  rw [← hone, ← concerning_append, ← concerning_append] at hgone
  have hpart : (before ++ front ++ [report]).Sublist (before ++ (front ++ report :: rest)) := by
    simp
  exact ⟨front, report, rest, rfl, hconcerns, run_absent hlimits defaults (hsorted.sublist hpart)
    (fun earlier hearlier => hclock earlier (hpart.subset hearlier)) hgone⟩

/-! ## Chosen reports -/

/-- Places that differ and hold items of a kind are no more than the items of that kind. -/
theorem card_le_countP {α : Type} {test : α → Bool} {items : List α} (offset : Nat)
    {chosen : Finset Nat}
    (hchosen : ∀ place ∈ chosen, offset ≤ place ∧
      ∃ item, items[place - offset]? = some item ∧ test item = true) :
    chosen.card ≤ items.countP test := by
  induction items generalizing offset chosen with
  | nil =>
      have hempty : chosen = ∅ := by
        refine Finset.eq_empty_of_forall_notMem fun place hplace => ?_
        obtain ⟨-, item, hitem, -⟩ := hchosen place hplace
        simp at hitem
      simp [hempty]
  | cons item items ih =>
      -- all places but the first one lie in the rest of the list, one step further on
      have hlater : (chosen.erase offset).card ≤ items.countP test := by
        refine ih (offset + 1) fun place hplace => ?_
        obtain ⟨hne, hmem⟩ := Finset.mem_erase.mp hplace
        obtain ⟨hle, other, hother, htest⟩ := hchosen place hmem
        have hlt : offset < place := Nat.lt_of_le_of_ne hle (Ne.symm hne)
        have hplace : place - offset = place - (offset + 1) + 1 := by omega
        rw [hplace, List.getElem?_cons_succ] at hother
        exact ⟨hlt, other, hother, htest⟩
      rw [List.countP_cons]
      by_cases hmem : offset ∈ chosen
      · obtain ⟨-, first, hfirst, htest⟩ := hchosen offset hmem
        rw [Nat.sub_self, List.getElem?_cons_zero, Option.some.injEq] at hfirst
        subst hfirst
        rw [if_pos htest, ← Finset.card_erase_add_one hmem]
        exact Nat.succ_le_succ hlater
      · rw [Finset.erase_eq_of_notMem hmem] at hlater
        exact Nat.le_add_right_of_le hlater

theorem length_timesOf_concerning (outcome : Outcome) (key : Key) (reports : List Report) :
    (timesOf outcome (concerning key reports)).length =
      reports.countP fun report => report.concerns key && decide (report.outcome = outcome) := by
  unfold timesOf concerning
  rw [List.length_map, List.filter_filter, List.countP_eq_length_filter]
  congr 2
  funext report
  exact Bool.and_comm _ _

/-- A stretch holds at least as many reports for a key with an outcome as are chosen from it. -/
theorem card_le_length_timesOf {inside : List Report} {offset : Nat} {chosen : Finset Nat}
    (hchosen : ∀ place ∈ chosen, offset ≤ place ∧ ∃ report,
      inside[place - offset]? = some report ∧ report.concerns key = true ∧
        report.outcome = outcome) :
    chosen.card ≤ (timesOf outcome (concerning key inside)).length := by
  rw [length_timesOf_concerning]
  refine card_le_countP offset fun place hplace => ?_
  obtain ⟨hle, report, hreport, hconcerns, houtcome⟩ := hchosen place hplace
  exact ⟨hle, report, hreport, by simp [hconcerns, houtcome]⟩

/-- Reports of a run that are for a key and have an outcome, given by their places, and were made
within a span as long as a window. -/
structure WithinSpan (settings : StickySettings) (key : Key) (outcome : Outcome)
    (reports : List Report) (chosen : Finset Nat) : Prop where
  report : ∀ place ∈ chosen, ∃ report, reports[place]? = some report ∧
    report.concerns key = true ∧ report.outcome = outcome
  span : ∀ first ∈ chosen, ∀ last ∈ chosen, ∀ opening closing,
    reports[first]? = some opening → reports[last]? = some closing →
      closing.time ≤ opening.time + 1000 * settings.window.toNat

/-- Reports come in the order of their times. -/
theorem time_le_of_le {reports : List Report}
    (hsorted : reports.Pairwise fun first second => first.time ≤ second.time) {i j : Nat}
    {first second : Report} (hfirst : reports[i]? = some first)
    (hsecond : reports[j]? = some second) (hle : i ≤ j) : first.time ≤ second.time := by
  obtain ⟨hi, rfl⟩ := List.getElem?_eq_some_iff.mp hfirst
  obtain ⟨hj, rfl⟩ := List.getElem?_eq_some_iff.mp hsecond
  rcases Nat.lt_or_eq_of_le hle with hlt | rfl
  · exact List.pairwise_iff_getElem.mp hsorted i j hi hj hlt
  · exact Nat.le_refl _

/-- The stretch of a list from one place to another. -/
theorem exists_stretch {α : Type} (items : List α) {first last : Nat} (hle : first ≤ last)
    (hlast : last < items.length) :
    ∃ before inside, items.take (last + 1) = before ++ inside ∧ before.length = first ∧
      ∀ place, first ≤ place → place ≤ last → inside[place - first]? = items[place]? := by
  refine ⟨(items.take (last + 1)).take first, (items.take (last + 1)).drop first,
    (List.take_append_drop first _).symm, ?_, fun place hfirst hplace => ?_⟩
  · rw [List.length_take, List.length_take]
    omega
  · rw [List.getElem?_drop, Nat.add_sub_cancel' hfirst,
      List.getElem?_take_of_lt (Nat.lt_succ_of_le hplace)]

/-- Where an item of a stretch stands in the whole list. -/
theorem place_of_split {α : Type} {items before earlier later : List α} {item : α} {bound : Nat}
    (hwhole : items.take bound = before ++ (earlier ++ item :: later)) :
    before.length + earlier.length < bound ∧
      items[before.length + earlier.length]? = some item ∧
        items.take (before.length + earlier.length + 1) = before ++ earlier ++ [item] := by
  have hitems : items = before ++ earlier ++ [item] ++ (later ++ items.drop bound) := by
    conv_lhs => rw [← List.take_append_drop bound items, hwhole]
    simp
  have hlength : (before ++ earlier).length = before.length + earlier.length :=
    List.length_append
  have htake : items.take (before.length + earlier.length + 1) = before ++ earlier ++ [item] := by
    rw [hitems]
    exact List.take_left' (by rw [List.length_append, hlength]; rfl)
  refine ⟨?_, ?_, htake⟩
  · have hbound := List.length_take_le bound items
    rw [hwhole, List.length_append, List.length_append, List.length_cons] at hbound
    omega
  · rw [← List.getElem?_take_of_lt (Nat.lt_succ_self _), htake, ← hlength,
      List.getElem?_concat_length]

/-- **Limits bound what a span absorbs.**  Let twice the limit and one more reports for a key with
an outcome be made within a span as long as a window, whatever is reported besides.  Then the key
is absent right after some report for it from the first to the last of them. -/
theorem absent_within_span (settings : StickySettings) (defaults : Preference)
    (reports : List Report) (hlimits : LimitsBelowMax settings)
    (hsorted : reports.Pairwise fun first second => first.time ≤ second.time)
    (hclock : ∀ report ∈ reports, report.time + 1000 * settings.window.toNat < clockLimit)
    (key : Key) (outcome : Outcome) (chosen : Finset Nat)
    (hchosen : WithinSpan settings key outcome reports chosen)
    (hmany : chosen.card = 2 * (settings.limit outcome).toNat + 1) :
    ∃ first ∈ chosen, ∃ last ∈ chosen, ∃ place report, first ≤ place ∧ place ≤ last ∧
      reports[place]? = some report ∧ report.concerns key = true ∧
      ∃ cache, Cache.run { settings, defaultPreference := defaults } (reports.take (place + 1)) =
          .ok cache ∧ cache.find? key = none := by
  have hne : chosen.Nonempty := Finset.card_pos.mp (by omega)
  have hfirst := chosen.min'_mem hne
  have hlast := chosen.max'_mem hne
  have hbounds : ∀ place ∈ chosen, chosen.min' hne ≤ place ∧ place ≤ chosen.max' hne :=
    fun place hplace => ⟨chosen.min'_le place hplace, chosen.le_max' place hplace⟩
  generalize chosen.min' hne = first at hfirst hbounds
  generalize chosen.max' hne = last at hlast hbounds
  obtain ⟨opening, hopening, -⟩ := hchosen.report first hfirst
  obtain ⟨closing, hclosing, -⟩ := hchosen.report last hlast
  have hspan := hchosen.span first hfirst last hlast opening closing hopening hclosing
  -- the stretch from the first to the last of the reports
  obtain ⟨before, inside, hwhole, rfl, hinside⟩ :=
    exists_stretch reports (hbounds last hlast).1 (List.getElem?_eq_some_iff.mp hclosing).1
  have hsub : (before ++ inside).Sublist reports := hwhole ▸ List.take_sublist (last + 1) reports
  have hwithin : ∀ report ∈ inside, opening.time ≤ report.time ∧ report.time ≤ closing.time := by
    intro report hreport
    obtain ⟨earlier, later, rfl⟩ := List.append_of_mem hreport
    obtain ⟨hlt, hplace, -⟩ := place_of_split hwhole
    exact ⟨time_le_of_le hsorted hopening hplace (Nat.le_add_right _ _),
      time_le_of_le hsorted hplace hclosing (Nat.le_of_lt_succ hlt)⟩
  have hnear : ∀ earlier ∈ inside, ∀ later ∈ inside,
      later.time ≤ earlier.time + 1000 * settings.window.toNat := by
    intro earlier hearlier later hlater
    calc later.time
        ≤ closing.time := (hwithin later hlater).2
      _ ≤ opening.time + 1000 * settings.window.toNat := hspan
      _ ≤ earlier.time + 1000 * settings.window.toNat :=
        Nat.add_le_add_right (hwithin earlier hearlier).1 _
  have hmore : 2 * (settings.limit outcome).toNat <
      (timesOf outcome (concerning key inside)).length := by
    calc 2 * (settings.limit outcome).toNat
        < chosen.card := by omega
      _ ≤ (timesOf outcome (concerning key inside)).length :=
        card_le_length_timesOf fun place hplace => by
          obtain ⟨hle, hge⟩ := hbounds place hplace
          rw [hinside place hle hge]
          exact ⟨hle, hchosen.report place hplace⟩
  obtain ⟨earlier, report, later, rfl, hconcerns, cache, hrun, habsent⟩ :=
    exists_absent hlimits defaults (hsorted.sublist hsub)
      (fun report hreport => hclock report (hsub.subset hreport)) hnear hmore
  obtain ⟨hlt, hplace, htake⟩ := place_of_split hwhole
  exact ⟨before.length, hfirst, last, hlast, before.length + earlier.length, report,
    Nat.le_add_right _ _, Nat.le_of_lt_succ hlt, hplace, hconcerns, cache,
    by rw [htake]; exact hrun, habsent⟩

/-- Failures in two windows, with a success among them. -/
def straddling : List Report :=
  [naming "" "n" .failure 0, naming "" "n" .failure 60000, naming "" "n" .success 60000,
    naming "" "n" .failure 60001, naming "" "n" .failure 90000]

/-- With a limit of one failure, three failures around the end of a window are not all absorbed. -/
theorem absent_within_span_straddling :
    let settings : StickySettings := { window := 60, relayLimit := 9, errorLimit := 1 }
    let key : Key := { balancerId := "lb" }
    LimitsBelowMax settings ∧
      straddling.Pairwise (fun first second => first.time ≤ second.time) ∧
      (∀ report ∈ straddling, report.time + 1000 * settings.window.toNat < clockLimit) ∧
      WithinSpan settings key .failure straddling {1, 3, 4} ∧
      ∃ place report, 1 ≤ place ∧ place ≤ 4 ∧ straddling[place]? = some report ∧
        report.concerns key = true ∧
        ∃ cache, Cache.run { settings } (straddling.take (place + 1)) = .ok cache ∧
          cache.find? key = none := by
  intro settings key
  have hlimits : LimitsBelowMax settings := by
    intro outcome
    cases outcome <;> decide
  have hsorted : straddling.Pairwise (fun first second => first.time ≤ second.time) := by decide
  have hclock : ∀ report ∈ straddling,
      report.time + 1000 * settings.window.toNat < clockLimit := by
    decide
  have hchosen : WithinSpan settings key .failure straddling {1, 3, 4} := by
    constructor
    · intro place hplace
      simp only [Finset.mem_insert, Finset.mem_singleton] at hplace
      rcases hplace with rfl | rfl | rfl <;> exact ⟨_, rfl, by decide, rfl⟩
    · intro first hfirst last hlast opening closing hopening hclosing
      simp only [Finset.mem_insert, Finset.mem_singleton] at hfirst hlast
      rcases hfirst with rfl | rfl | rfl <;> rcases hlast with rfl | rfl | rfl <;>
        cases hopening <;> cases hclosing <;> decide
  refine ⟨hlimits, hsorted, hclock, hchosen, ?_⟩
  obtain ⟨first, hfirst, last, hlast, place, report, hle, hge, hreport, hconcerns, habsent⟩ :=
    absent_within_span settings {} straddling hlimits hsorted hclock key .failure {1, 3, 4}
      hchosen rfl
  have hbounds : ∀ place ∈ ({1, 3, 4} : Finset Nat), 1 ≤ place ∧ place ≤ 4 := by decide
  exact ⟨place, report, (hbounds first hfirst).1.trans hle, hge.trans (hbounds last hlast).2,
    hreport, hconcerns, habsent⟩

end ChainGateway.Affinity
