import ChainGateway.Affinity.Counter
import ChainGateway.Proofs.Except

/-!
# What counting does

One more event opens a window where nothing is counted, and joins the window otherwise
(`Counter.increment_cases`).  It fails in two cases only.  A counter that holds the greatest count
cannot count it (`Counter.increment_eq_counterOverflow_iff`), and a clock that ends before the
window does cannot open one (`Counter.increment_eq_clockOverflow_iff`).
-/

namespace ChainGateway.Affinity.Counter

variable {counter next : Counter} {now : Instant} {window : UInt64}

/-- The end of its window takes a counter back to zero, and nothing else happens to it. -/
theorem refresh_count_le (counter : Counter) (now : Instant) :
    (counter.refresh now).count.toNat ≤ counter.count.toNat := by
  unfold refresh
  split
  · exact Nat.zero_le _
  · exact Nat.le_refl _

/-- An event opens a window where nothing is counted, and joins it otherwise. -/
theorem increment_cases (hnext : counter.increment now window = .ok next) :
    (counter.refresh now).count = 0 ∧ now + 1000 * window.toNat < clockLimit ∧
        next = { count := 1, endsAt? := some (now + 1000 * window.toNat) } ∨
      (counter.refresh now).count ≠ 0 ∧ (counter.refresh now).count.toNat + 1 < UInt32.size ∧
        next = { counter.refresh now with count := (counter.refresh now).count + 1 } := by
  unfold increment at hnext
  dsimp only at hnext
  split at hnext
  · cases hnext
  · next hroom =>
      split at hnext
      · next hzero =>
          obtain ⟨endsAt, hafter, rfl⟩ := map_eq_ok_iff.mp hnext
          obtain ⟨hclock, rfl⟩ := Instant.after?_eq_ok_iff.mp hafter
          exact Or.inl ⟨hzero, hclock, rfl⟩
      · next hstarted =>
          cases hnext
          have hle : (counter.refresh now).count.toNat + 1 ≤ UInt32.size :=
            (counter.refresh now).count.toNat_lt
          exact Or.inr ⟨hstarted, Nat.lt_of_le_of_ne hle hroom, rfl⟩

/-- The count overflows exactly where it is the greatest one already. -/
theorem increment_eq_counterOverflow_iff :
    counter.increment now window = .error .counterOverflow ↔
      (counter.refresh now).count.toNat + 1 = UInt32.size := by
  unfold increment
  dsimp only
  split
  · next hfull => exact iff_of_true rfl hfull
  · next hroom =>
      refine iff_of_false ?_ hroom
      split
      · simp [map_eq_error_iff, Instant.after?_eq_error_iff]
      · nofun

/-- The clock overflows exactly where a window is opened that it does not hold. -/
theorem increment_eq_clockOverflow_iff :
    counter.increment now window = .error .clockOverflow ↔
      (counter.refresh now).count = 0 ∧ clockLimit ≤ now + 1000 * window.toNat := by
  unfold increment
  dsimp only
  split
  · next hfull =>
      refine iff_of_false nofun fun ⟨hzero, _⟩ => ?_
      rw [hzero] at hfull
      exact absurd hfull (by decide)
  · split
    · next hzero =>
        rw [map_eq_error_iff, Instant.after?_eq_error_iff, and_iff_right rfl, and_iff_right hzero]
    · next hstarted => exact iff_of_false nofun fun ⟨hzero, _⟩ => hstarted hzero

/-- With room for one more event, and time for one more window, counting succeeds. -/
theorem exists_increment (hroom : (counter.refresh now).count.toNat + 1 ≠ UInt32.size)
    (hclock : now + 1000 * window.toNat < clockLimit) :
    ∃ next, counter.increment now window = .ok next := by
  unfold increment
  dsimp only
  rw [if_neg hroom]
  split
  · exact ⟨_, map_eq_ok_iff.mpr ⟨_, Instant.after?_eq_ok_iff.mpr ⟨hclock, rfl⟩, rfl⟩⟩
  · exact ⟨_, rfl⟩

/-- The first event of a counter opens its window. -/
theorem eq_of_increment_empty (hnext : ({} : Counter).increment now window = .ok next) :
    next = { count := 1, endsAt? := some (now + 1000 * window.toNat) } := by
  rcases increment_cases hnext with ⟨-, -, rfl⟩ | ⟨hstarted, -, -⟩
  · rfl
  · exact absurd rfl hstarted

end ChainGateway.Affinity.Counter
