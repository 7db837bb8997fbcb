import ChainGateway.Proofs.Table
import ChainGateway.SessionCache

/-!
# What a full session cache gives up

Inserting a new key into a full cache makes room first.  This file says exactly what is left:
the sweep removes what has ended, and of what is still live one entry that ends first is dropped
whenever there is any.

A bound on the number of sessions asks for less.  It has a live session give way only when the
live ones alone fill the cache (`GivesWayOnlyWhenFull`).  The two agree exactly when the sweep
leaves nothing or leaves the cache full.  In between, where the sweep has made room already, a
live session is lost; `Reachable` shows a run that leads there.
-/

namespace ChainGateway.SessionCache

/-- The entries whose lifetime has not passed. -/
def live (cache : SessionCache) (now : Instant) : Table SessionKey SessionEntry :=
  cache.entries.filter fun _ entry => !entry.isExpired now

/-- `after` is `before` without one of the entries that end first. -/
def DropsSoonest (before after : Table SessionKey SessionEntry) : Prop :=
  ∃ dropped entry, before.find? dropped = some entry ∧
    (∀ key other, before.find? key = some other → entry.expiresAt ≤ other.expiresAt) ∧
    ∀ key, after.find? key = if key = dropped then none else before.find? key

/-- `after` holds one entry besides what `kept` holds. -/
def Adds (kept after : Table SessionKey SessionEntry) (key : SessionKey)
    (entry : SessionEntry) : Prop :=
  ∀ other, after.find? other = if other = key then some entry else kept.find? other

/-- What the bound promises of an insertion: every live entry is kept unchanged beside the new
one, except that one which ends first gives way if the live ones alone fill the cache. -/
def GivesWayOnlyWhenFull (cache after : SessionCache) (key : SessionKey) (entry : SessionEntry)
    (now : Instant) : Prop :=
  ∃ kept, Adds kept after.entries key entry ∧
    if cache.settings.capacity.toNat ≤ (cache.live now).size then
      DropsSoonest (cache.live now) kept
    else ∀ other, kept.find? other = (cache.live now).find? other

/-- The caches that arise from an empty one by insertions, under a clock that never goes back. -/
inductive Reachable (settings : SessionSettings) : SessionCache → Instant → Prop
  | empty (now : Instant) : Reachable settings { settings } now
  | wait {cache : SessionCache} {now later : Instant} :
      Reachable settings cache now → now ≤ later → Reachable settings cache later
  | insert {cache after : SessionCache} {now : Instant} (key : SessionKey) (session : Session) :
      Reachable settings cache now → cache.insert key session now = .ok after →
      Reachable settings after now

/-! ## The entry that ends first -/

theorem soonest?_eq_none_iff {entries : List (SessionKey × SessionEntry)} :
    soonest? entries = none ↔ entries = [] := by
  cases entries with
  | nil => simp [soonest?]
  | cons entry entries =>
      simp only [soonest?, reduceCtorEq, iff_false]
      split
      · split <;> simp
      · simp

/-- `soonest?` selects an entry, and no entry ends before it. -/
theorem soonest?_spec {entries : List (SessionKey × SessionEntry)}
    {first : SessionKey × SessionEntry} (hfirst : soonest? entries = some first) :
    first ∈ entries ∧ ∀ other ∈ entries, first.2.expiresAt ≤ other.2.expiresAt := by
  induction entries generalizing first with
  | nil => simp [soonest?] at hfirst
  | cons entry entries ih =>
      simp only [soonest?] at hfirst
      cases hrest : soonest? entries with
      | none =>
          -- the head is alone, nothing else ends before it
          have hnil : entries = [] := soonest?_eq_none_iff.mp hrest
          simp only [hrest, Option.some.injEq] at hfirst
          subst hfirst hnil
          simp
      | some other =>
          obtain ⟨hmem, hleast⟩ := ih hrest
          simp only [hrest] at hfirst
          split at hfirst
          · -- the rest has an entry that ends before the head
            next hlt =>
              cases hfirst
              refine ⟨List.mem_cons_of_mem _ hmem, fun candidate hcandidate => ?_⟩
              rcases List.mem_cons.mp hcandidate with rfl | hcandidate
              · exact Nat.le_of_lt hlt
              · exact hleast candidate hcandidate
          · next hge =>
              cases hfirst
              refine ⟨List.mem_cons_self, fun candidate hcandidate => ?_⟩
              rcases List.mem_cons.mp hcandidate with rfl | hcandidate
              · exact Nat.le_refl _
              · exact Nat.le_trans (Nat.le_of_not_lt hge) (hleast candidate hcandidate)

/-! ## Making room -/

/-- With nothing live, making room leaves nothing. -/
theorem evict_of_live_empty {cache : SessionCache} {now : Instant}
    (hempty : (cache.live now).size = 0) :
    evict cache.entries now = cache.live now := by
  have hnil : (cache.live now).entries = [] := List.length_eq_zero_iff.mp hempty
  have hnone := soonest?_eq_none_iff.mpr hnil
  unfold live at hnone ⊢
  simp only [evict, hnone]

/-- With anything live, making room erases the entry that is selected as the one to end first. -/
theorem evict_eq_erase {cache : SessionCache} {now : Instant}
    {first : SessionKey × SessionEntry} (hfirst : soonest? (cache.live now).entries = some first) :
    evict cache.entries now = (cache.live now).erase first.1 := by
  unfold live at hfirst ⊢
  simp only [evict, hfirst]

/-- With anything live, making room drops one live entry that ends first, and no other. -/
theorem evict_dropsSoonest {cache : SessionCache} {now : Instant}
    (hlive : (cache.live now).size ≠ 0) :
    DropsSoonest (cache.live now) (evict cache.entries now) := by
  cases hfirst : soonest? (cache.live now).entries with
  | none => exact absurd (List.length_eq_zero_iff.mpr (soonest?_eq_none_iff.mp hfirst)) hlive
  | some first =>
      obtain ⟨hmem, hleast⟩ := soonest?_spec hfirst
      refine ⟨first.1, first.2, Table.find?_of_mem_entries hmem, fun key other hother => ?_, ?_⟩
      · exact hleast _ (Table.mem_entries_of_find? hother)
      · intro key
        rw [evict_eq_erase hfirst, Table.find?_erase]

/-- A key that is not in the cache has no live entry. -/
theorem find?_live_of_absent {cache : SessionCache} {key : SessionKey} {now : Instant}
    (habsent : cache.entries.find? key = none) : (cache.live now).find? key = none := by
  rw [live, Table.find?_filter, habsent, Option.filter_none]

/-! ## Inserting into a full cache -/

/-- Inserting a new key into a full cache makes room and adds the entry. -/
theorem insert_of_full {cache : SessionCache} {key : SessionKey} {session : Session}
    {now : Instant} (habsent : cache.entries.find? key = none)
    (hfull : cache.settings.capacity.toNat ≤ cache.size)
    (hclock : now + 1000 * cache.settings.lifetime.toNat < clockLimit) :
    cache.insert key session now = .ok { cache with
      entries := (evict cache.entries now).insert key
        { session, expiresAt := now + 1000 * cache.settings.lifetime.toNat } } := by
  have hcontains := Table.contains_eq_false_iff.mpr habsent
  simp [insert, roomFor, Instant.after?, hcontains, hfull, hclock, Except.map]

/-- **What an insertion into a full cache leaves.**  One live entry that ends first is dropped
whenever any is live; so the bound's promise is kept exactly when the sweep leaves nothing or
leaves the cache full. -/
theorem insert_full_drops_soonest (cache : SessionCache) (key : SessionKey) (session : Session)
    (now : Instant) (hpositive : 0 < cache.settings.capacity.toNat)
    (habsent : cache.entries.find? key = none)
    (hfull : cache.settings.capacity.toNat ≤ cache.size)
    (hclock : now + 1000 * cache.settings.lifetime.toNat < clockLimit) :
    let entry : SessionEntry :=
      { session, expiresAt := now + 1000 * cache.settings.lifetime.toNat }
    ∃ after, cache.insert key session now = .ok after ∧ after.settings = cache.settings ∧
      (∃ kept, Adds kept after.entries key entry ∧
        if (cache.live now).size = 0 then ∀ other, kept.find? other = none
        else DropsSoonest (cache.live now) kept) ∧
      (GivesWayOnlyWhenFull cache after key entry now ↔
        (cache.live now).size = 0 ∨
          cache.settings.capacity.toNat ≤ (cache.live now).size) := by
  intro entry
  have hadds : Adds (evict cache.entries now)
      ((evict cache.entries now).insert key entry) key entry :=
    fun other => Table.find?_insert _ key other entry
  refine ⟨_, insert_of_full habsent hfull hclock, rfl, ⟨_, hadds, ?_⟩, ?_⟩
  · split
    · next hempty =>
        rw [evict_of_live_empty hempty]
        exact Table.size_eq_zero_iff.mp hempty
    · next hlive => exact evict_dropsSoonest hlive
  constructor
  · rintro ⟨kept, hkept, hpromise⟩
    by_cases hempty : (cache.live now).size = 0
    · exact Or.inl hempty
    refine Or.inr (Decidable.byContradiction fun hroom => ?_)
    -- there is room, yet the entry dropped for it is one that the promise keeps
    rw [if_neg hroom] at hpromise
    obtain ⟨dropped, lost, hlost, -, hafter⟩ := evict_dropsSoonest hempty
    have hne : dropped ≠ key := by
      rintro rfl
      rw [find?_live_of_absent habsent] at hlost
      cases hlost
    have hgone := hadds dropped
    rw [hkept dropped, if_neg hne, if_neg hne, hpromise, hlost, hafter, if_pos rfl] at hgone
    cases hgone
  · intro hagree
    refine ⟨_, hadds, ?_⟩
    rcases hagree with hempty | hstill
    · rw [if_neg (by omega), evict_of_live_empty hempty]
      exact fun _ => rfl
    · rw [if_pos hstill]
      exact evict_dropsSoonest (by omega)

/-! ## A live session lost although there is room -/

/-- A session under the key of a chain. -/
def keyOn (chain : String) : SessionKey := { publicKey := "pub", chain }

/-- A cache of two in which the session on `a` ends half a minute before the one on `b`. -/
def staggered : SessionCache where
  settings := { lifetime := 60, capacity := 2 }
  entries :=
    (Table.empty.insert (keyOn "a") { session := { key := "a" }, expiresAt := 60000 }).insert
      (keyOn "b") { session := { key := "b" }, expiresAt := 90000 }

theorem staggered_reachable : Reachable staggered.settings staggered 61000 := by
  have hfirst : Reachable staggered.settings
      { settings := staggered.settings,
        entries := Table.empty.insert (keyOn "a")
          { session := { key := "a" }, expiresAt := 60000 } } 0 :=
    .insert (keyOn "a") { key := "a" } (.empty 0) rfl
  have hsecond : Reachable staggered.settings staggered 30000 :=
    .insert (keyOn "b") { key := "b" } (hfirst.wait (by decide)) rfl
  exact hsecond.wait (by decide)

/-- The general statement at a cache in which one of two sessions is still live. -/
theorem insert_full_drops_soonest_staggered :
    0 < staggered.settings.capacity.toNat ∧ staggered.entries.find? (keyOn "c") = none ∧
      staggered.settings.capacity.toNat ≤ staggered.size ∧
      61000 + 1000 * staggered.settings.lifetime.toNat < clockLimit ∧
      ∃ after, staggered.insert (keyOn "c") { key := "c" } 61000 = .ok after ∧
        ¬ GivesWayOnlyWhenFull staggered after (keyOn "c")
          { session := { key := "c" }, expiresAt := 121000 } 61000 := by
  refine ⟨by decide, by decide, by decide, by decide, ?_⟩
  obtain ⟨after, hafter, -, -, hpromise⟩ := insert_full_drops_soonest staggered (keyOn "c")
    { key := "c" } 61000 (by decide) (by decide) (by decide) (by decide)
  exact ⟨after, hafter, fun hkept => absurd (hpromise.mp hkept) (by decide)⟩

/-- The bound's promise is broken on a run: with the session on `a` swept there is room, and
still the live one on `b` is dropped for the one on `c`. -/
theorem live_session_lost_with_room :
    ¬ ∀ (cache after : SessionCache) (key : SessionKey) (session : Session) (now : Instant),
      Reachable cache.settings cache now → 0 < cache.settings.capacity.toNat →
      cache.entries.find? key = none → cache.settings.capacity.toNat ≤ cache.size →
      cache.insert key session now = .ok after →
      GivesWayOnlyWhenFull cache after key
        { session, expiresAt := now + 1000 * cache.settings.lifetime.toNat } now := by
  intro hpromised
  obtain ⟨kept, hadds, hkept⟩ := hpromised staggered _ (keyOn "c") { key := "c" } 61000
    staggered_reachable (by decide) (by decide) (by decide)
    (insert_of_full (by decide) (by decide) (by decide))
  rw [if_neg (by decide)] at hkept
  have hlost := hadds (keyOn "b")
  rw [if_neg (by decide), hkept] at hlost
  exact absurd hlost (by decide)

end ChainGateway.SessionCache
