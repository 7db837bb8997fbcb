import Mathlib.Data.List.Induction
import ChainGateway.Proofs.Affinity.Counter

/-!
# Rolling windows

What a counter should hold is a matter of the instants of the counted events alone.  The first
event opens a window, and so does every event strictly later than the end of the window before.
The counter should hold the number of events since the current window was opened, and the end of
that window.

`Counter.Tracks` says that a counter holds this for a list of events, and
`Counter.Tracks.of_increment` that counting one more event keeps it so.  The argument needs the
events in the order of their instants: only then do all earlier events lie before a newly opened
window (`le_end_of_opening?`).  The length of the window also tells how much room the count has left
(`Counter.Tracks.length_current_snoc`).

Windows are not aligned with anything, so a span of time that is as long as a window may meet two
of them, but never three (`meets_two_windows`).  Hence it holds at most twice as many events as a
window may (`length_le_of_span`).
-/

namespace ChainGateway.Affinity

/-! ## The current window -/

/-- The instant at which the window of the last event was opened, for windows of the given
span. -/
def opening? (span : Nat) (events : List Instant) : Option Instant :=
  events.foldl (fun opened? event =>
    match opened? with
    | none => some event
    | some opened => if opened + span < event then some event else some opened) none

/-- The events of the current window. -/
def current (span : Nat) (events : List Instant) : List Instant :=
  match opening? span events with
  | none => []
  | some opened => events.filter fun event => decide (opened ≤ event)

variable {span : Nat} {events : List Instant} {now : Instant}

@[simp] theorem opening?_nil : opening? span [] = none := rfl

theorem opening?_snoc (span : Nat) (events : List Instant) (now : Instant) :
    opening? span (events ++ [now]) =
      match opening? span events with
      | none => some now
      | some opened => if opened + span < now then some now else some opened := by
  simp only [opening?, List.foldl_append, List.foldl_cons, List.foldl_nil]

/-- The window of some event was opened by one of the events. -/
theorem mem_of_opening? {opened : Instant} (hopened : opening? span events = some opened) :
    opened ∈ events := by
  induction events using List.reverseRecOn with
  | nil => simp at hopened
  | append_singleton events now ih =>
      have hnow : now ∈ events ++ [now] := List.mem_append_right _ (List.mem_singleton.mpr rfl)
      rw [opening?_snoc] at hopened
      cases hbefore : opening? span events with
      | none =>
          simp only [hbefore, Option.some.injEq] at hopened
          exact hopened ▸ hnow
      | some before =>
          simp only [hbefore] at hopened
          split at hopened
          · exact Option.some.inj hopened ▸ hnow
          · cases hopened
            exact List.mem_append_left _ (ih hbefore)

theorem opening?_eq_none_iff : opening? span events = none ↔ events = [] := by
  constructor
  · intro hnone
    induction events using List.reverseRecOn with
    | nil => rfl
    | append_singleton events now =>
        rw [opening?_snoc] at hnone
        split at hnone
        · cases hnone
        · split at hnone <;> cases hnone
  · rintro rfl
    rfl

/-- No event lies after the end of the current window. -/
theorem le_end_of_opening? (hsorted : events.Pairwise (· ≤ ·)) {opened : Instant}
    (hopened : opening? span events = some opened) : ∀ event ∈ events, event ≤ opened + span := by
  induction events using List.reverseRecOn generalizing opened with
  | nil => simp
  | append_singleton events now ih =>
      rw [List.pairwise_append] at hsorted
      have hnow : ∀ event ∈ events, event ≤ now := fun event hevent =>
        hsorted.2.2 event hevent now (by simp)
      rw [opening?_snoc] at hopened
      intro event hevent
      have hle : event ≤ now := by
        rcases List.mem_append.mp hevent with hevent | hevent
        · exact hnow event hevent
        · exact Nat.le_of_eq (List.mem_singleton.mp hevent)
      -- the window opens with the last event, or this falls into the one that was open
      cases hbefore : opening? span events with
      | none =>
          simp only [hbefore, Option.some.injEq] at hopened
          exact hopened ▸ Nat.le_add_right_of_le hle
      | some before =>
          simp only [hbefore] at hopened
          split at hopened
          · cases hopened
            exact Nat.le_add_right_of_le hle
          · next hopen =>
              cases hopened
              exact Nat.le_trans hle (Nat.le_of_not_lt hopen)

/-- An event after the end of the current window, or the first one, is alone in its window. -/
theorem current_snoc_of_opens (hsorted : events.Pairwise (· ≤ ·))
    (hopens : ∀ opened, opening? span events = some opened → opened + span < now) :
    opening? span (events ++ [now]) = some now ∧ current span (events ++ [now]) = [now] := by
  have hopening : opening? span (events ++ [now]) = some now := by
    rw [opening?_snoc]
    cases hbefore : opening? span events with
    | none => rfl
    | some opened => simp [hopens opened hbefore]
  have hearlier : events.filter (fun event => decide (now ≤ event)) = [] := by
    rw [List.filter_eq_nil_iff]
    intro event hevent
    cases hbefore : opening? span events with
    | none =>
        rw [opening?_eq_none_iff.mp hbefore] at hevent
        cases hevent
    | some opened =>
        have hend := le_end_of_opening? hsorted hbefore event hevent
        simp only [decide_eq_true_eq, Nat.not_le]
        exact Nat.lt_of_le_of_lt hend (hopens opened hbefore)
  refine ⟨hopening, ?_⟩
  simp [current, hopening, List.filter_append, hearlier]

/-- An event within the current window joins it. -/
theorem current_snoc_of_joins {opened : Instant} (hopened : opening? span events = some opened)
    (hjoins : now ≤ opened + span) (hlate : opened ≤ now) :
    opening? span (events ++ [now]) = some opened ∧
      current span (events ++ [now]) = current span events ++ [now] := by
  have hopening : opening? span (events ++ [now]) = some opened := by
    simp [opening?_snoc, hopened, Nat.not_lt.mpr hjoins]
  refine ⟨hopening, ?_⟩
  simp [current, hopening, hopened, List.filter_append, hlate]

/-- Only without events is the current window without events. -/
theorem current_eq_nil_iff : current span events = [] ↔ events = [] := by
  constructor
  · intro hnil
    cases hopened : opening? span events with
    | none => exact opening?_eq_none_iff.mp hopened
    | some opened =>
        simp only [current, hopened, List.filter_eq_nil_iff, decide_eq_true_eq] at hnil
        exact absurd (Nat.le_refl _) (hnil opened (mem_of_opening? hopened))
  · rintro rfl
    rfl

/-- Events at one instant share a window. -/
theorem current_replicate (span n : Nat) (now : Instant) :
    current span (List.replicate n now) = List.replicate n now := by
  unfold current
  cases hopened : opening? span (List.replicate n now) with
  | none => exact (opening?_eq_none_iff.mp hopened).symm
  | some opened =>
      have hnow : opened = now := List.eq_of_mem_replicate (mem_of_opening? hopened)
      refine List.filter_eq_self.mpr fun event hevent => ?_
      rw [List.eq_of_mem_replicate hevent, hnow]
      exact decide_eq_true (Nat.le_refl now)

/-! ## Spans -/

/-- Events within a span meet at most two windows: they all belong to the current one, or else the
current one was opened by one of them and the others are no more than one window may hold. -/
theorem meets_two_windows {before inside : List Instant} {limit : Nat}
    (hsorted : (before ++ inside).Pairwise (· ≤ ·))
    (hspan : ∀ first ∈ inside, ∀ last ∈ inside, last ≤ first + span)
    (hlimit : ∀ earlier later, inside = earlier ++ later → earlier ≠ [] →
      (current span (before ++ earlier)).length ≤ limit) :
    inside.length ≤ (current span (before ++ inside)).length ∨
      ∃ opened ∈ inside, opening? span (before ++ inside) = some opened ∧
        inside.length ≤ limit + (current span (before ++ inside)).length := by
  induction inside using List.reverseRecOn with
  | nil => exact Or.inl (Nat.zero_le _)
  | append_singleton inside now ih =>
      have hnow : now ∈ inside ++ [now] := List.mem_append_right _ (List.mem_singleton_self _)
      have hearlier : ∀ event ∈ inside, event ∈ inside ++ [now] := fun event hevent =>
        List.mem_append_left _ hevent
      rw [← List.append_assoc] at hsorted ⊢
      obtain ⟨hbefore, -, hlate⟩ := List.pairwise_append.mp hsorted
      have hprefix : inside = [] ∨ (current span (before ++ inside)).length ≤ limit :=
        or_iff_not_imp_left.mpr (hlimit inside [now] rfl)
      have ih := ih hbefore
        (fun first hfirst last hlast =>
          hspan first (hearlier first hfirst) last (hearlier last hlast))
        (fun earlier later hsplit =>
          hlimit earlier (later ++ [now]) (by rw [hsplit, List.append_assoc]))
      rw [List.length_append, List.length_singleton]
      by_cases hopens : ∀ opened, opening? span (before ++ inside) = some opened →
          opened + span < now
      · obtain ⟨hopening, hcurrent⟩ := current_snoc_of_opens hbefore hopens
        refine Or.inr ⟨now, hnow, hopening, ?_⟩
        rw [hcurrent, List.length_singleton]
        rcases ih with hall | ⟨opened, hmem, hopened, -⟩
        · rcases hprefix with rfl | hprefix
          · simp
          · omega
        · -- a window that was opened within the span lasts to its end
          exact absurd (hopens opened hopened)
            (Nat.not_lt.mpr (hspan opened (hearlier opened hmem) now hnow))
      · simp only [not_forall, Nat.not_lt] at hopens
        obtain ⟨opened, hopened, hjoins⟩ := hopens
        obtain ⟨hopening, hcurrent⟩ := current_snoc_of_joins hopened hjoins
          (hlate opened (mem_of_opening? hopened) now (List.mem_singleton_self _))
        rw [hcurrent, hopening, List.length_append, List.length_singleton]
        rcases ih with hall | ⟨first, hmem, hfirst, hcount⟩
        · exact Or.inl (Nat.succ_le_succ hall)
        · rw [hopened] at hfirst
          cases hfirst
          exact Or.inr ⟨opened, hearlier opened hmem, rfl, by omega⟩

/-- If no window holds more than a limit, no span as long as a window holds more than twice as
many events. -/
theorem length_le_of_span {before inside : List Instant} {limit : Nat}
    (hsorted : (before ++ inside).Pairwise (· ≤ ·))
    (hspan : ∀ first ∈ inside, ∀ last ∈ inside, last ≤ first + span)
    (hlimit : ∀ earlier later, inside = earlier ++ later → earlier ≠ [] →
      (current span (before ++ earlier)).length ≤ limit) :
    inside.length ≤ 2 * limit := by
  by_cases hempty : inside = []
  · simp [hempty]
  have hlast := hlimit inside [] (List.append_nil _).symm hempty
  rcases meets_two_windows hsorted hspan hlimit with hall | ⟨opened, -, -, hcount⟩
  · omega
  · omega

/-! ## Counters that follow the events -/

/-- The counter holds the number of events of the current window and the window's end. -/
structure Counter.Tracks (span : Nat) (events : List Instant) (counter : Counter) : Prop where
  count : counter.count.toNat = (current span events).length
  ends : counter.endsAt? = (opening? span events).map (· + span)

theorem Counter.tracks_nil : Counter.Tracks span [] {} := ⟨rfl, rfl⟩

namespace Counter.Tracks

variable {counter : Counter}

/-- The count is zero only before the first event. -/
theorem count_eq_zero_iff (htracks : counter.Tracks span events) :
    counter.count = 0 ↔ events = [] := by
  have hcurrent : current span events = [] ↔ events = [] := current_eq_nil_iff
  rw [← hcurrent, ← List.length_eq_zero_iff, ← htracks.count, ← UInt32.toNat_inj]
  rfl

/-- A window is open from the first event on. -/
theorem ends_eq_none_iff (htracks : counter.Tracks span events) :
    counter.endsAt? = none ↔ events = [] := by
  rw [htracks.ends, Option.map_eq_none_iff, opening?_eq_none_iff]

theorem isExpired_iff (htracks : counter.Tracks span events) (now : Instant) :
    counter.isExpired now = true ↔
      ∃ opened, opening? span events = some opened ∧ opened + span < now := by
  simp [isExpired, htracks.ends, Option.any_eq_true]

/-- Nothing is counted where an event opens a window. -/
theorem refresh_of_opens (htracks : counter.Tracks span events)
    (hopens : ∀ opened, opening? span events = some opened → opened + span < now) :
    (counter.refresh now).count = 0 := by
  unfold refresh
  split
  · rfl
  · next hopen =>
      -- nothing was opened, or else the window would have ended
      have hnone : opening? span events = none := by
        refine Option.eq_none_iff_forall_ne_some.mpr fun opened hopened => hopen ?_
        exact (htracks.isExpired_iff now).mpr ⟨opened, hopened, hopens opened hopened⟩
      exact htracks.count_eq_zero_iff.mpr (opening?_eq_none_iff.mp hnone)

/-- Everything is still counted where an event joins a window. -/
theorem refresh_of_joins (htracks : counter.Tracks span events) {opened : Instant}
    (hopened : opening? span events = some opened) (hjoins : now ≤ opened + span) :
    counter.refresh now = counter ∧ counter.count ≠ 0 := by
  constructor
  · unfold refresh
    rw [if_neg]
    rw [htracks.isExpired_iff]
    rintro ⟨other, hother, hended⟩
    rw [hopened] at hother
    cases hother
    exact absurd hended (Nat.not_lt.mpr hjoins)
  · rw [Ne, htracks.count_eq_zero_iff]
    rintro rfl
    simp at hopened

/-- One more event makes the window as long as the counter says. -/
theorem length_current_snoc (htracks : counter.Tracks span events)
    (hsorted : (events ++ [now]).Pairwise (· ≤ ·)) :
    (current span (events ++ [now])).length = (counter.refresh now).count.toNat + 1 := by
  obtain ⟨hevents, -, hlate⟩ := List.pairwise_append.mp hsorted
  by_cases hopens : ∀ opened, opening? span events = some opened → opened + span < now
  · rw [(current_snoc_of_opens hevents hopens).2, htracks.refresh_of_opens hopens]
    rfl
  · simp only [not_forall, Nat.not_lt] at hopens
    obtain ⟨opened, hopened, hjoins⟩ := hopens
    have hnow : opened ≤ now := hlate opened (mem_of_opening? hopened) now (by simp)
    rw [(current_snoc_of_joins hopened hjoins hnow).2,
      (htracks.refresh_of_joins hopened hjoins).1, htracks.count, List.length_append]
    rfl

/-- Whatever was counted, a counter that has counted one more event is in step with the events. -/
theorem of_increment {window : UInt64} {next : Counter}
    (htracks : counter.Tracks (1000 * window.toNat) events)
    (hsorted : (events ++ [now]).Pairwise (· ≤ ·))
    (hnext : counter.increment now window = .ok next) :
    next.Tracks (1000 * window.toNat) (events ++ [now]) := by
  obtain ⟨hevents, -, hlate⟩ := List.pairwise_append.mp hsorted
  have hlength := htracks.length_current_snoc hsorted
  by_cases hopens : ∀ opened, opening? (1000 * window.toNat) events = some opened →
      opened + 1000 * window.toNat < now
  · -- the event opens a window, and the counter starts over with it
    obtain ⟨hopening, hcurrent⟩ := current_snoc_of_opens hevents hopens
    rcases increment_cases hnext with ⟨-, -, rfl⟩ | ⟨hstarted, -, -⟩
    · exact ⟨by rw [hcurrent]; rfl, by rw [hopening]; rfl⟩
    · exact absurd (htracks.refresh_of_opens hopens) hstarted
  · -- the event falls into the window that is open, and the counter goes on
    simp only [not_forall, Nat.not_lt] at hopens
    obtain ⟨opened, hopened, hjoins⟩ := hopens
    have hnow : opened ≤ now := hlate opened (mem_of_opening? hopened) now (by simp)
    obtain ⟨hopening, -⟩ := current_snoc_of_joins hopened hjoins hnow
    obtain ⟨hrefresh, hstarted⟩ := htracks.refresh_of_joins hopened hjoins
    rcases increment_cases hnext with ⟨hzero, -, -⟩ | ⟨-, hroom, rfl⟩
    · exact absurd (hrefresh ▸ hzero) hstarted
    · refine ⟨?_, ?_⟩
      · rw [hlength, UInt32.toNat_add]
        exact Nat.mod_eq_of_lt hroom
      · rw [hopening, hrefresh, htracks.ends, hopened]

end Counter.Tracks

end ChainGateway.Affinity
