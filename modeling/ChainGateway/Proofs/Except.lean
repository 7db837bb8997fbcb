/-!
# Reading results backwards

A step that can fail is composed of others by `>>=` and `map`.  The lemmas say what is known of
the parts once the result of the whole is known.  Results can be compared if errors and values can.
-/

namespace ChainGateway

variable {ε α β : Type} {value : Except ε α}

instance decidableEqExcept [DecidableEq ε] [DecidableEq α] : DecidableEq (Except ε α)
  | .ok first, .ok second =>
      decidable_of_iff (first = second) ⟨congrArg Except.ok, Except.ok.inj⟩
  | .error first, .error second =>
      decidable_of_iff (first = second) ⟨congrArg Except.error, Except.error.inj⟩
  | .ok _, .error _ => .isFalse nofun
  | .error _, .ok _ => .isFalse nofun

/-- A step has one result. -/
theorem eq_of_eq_ok {first second : α} (hfirst : value = .ok first)
    (hsecond : value = .ok second) : first = second := by
  rw [hfirst] at hsecond
  exact Except.ok.inj hsecond

theorem bind_eq_ok_iff {next : α → Except ε β} {result : β} :
    value >>= next = .ok result ↔ ∃ part, value = .ok part ∧ next part = .ok result := by
  cases value with
  | error reason => simp [bind, Except.bind]
  | ok part => simp [bind, Except.bind]

theorem bind_eq_error_iff {next : α → Except ε β} {reason : ε} :
    value >>= next = .error reason ↔
      value = .error reason ∨ ∃ part, value = .ok part ∧ next part = .error reason := by
  cases value with
  | error other => simp [bind, Except.bind]
  | ok part => simp [bind, Except.bind]

theorem map_eq_ok_iff {change : α → β} {result : β} :
    value.map change = .ok result ↔ ∃ part, value = .ok part ∧ change part = result := by
  cases value with
  | error reason => simp [Except.map]
  | ok part => simp [Except.map]

theorem map_eq_error_iff {change : α → β} {reason : ε} :
    value.map change = .error reason ↔ value = .error reason := by
  cases value with
  | error other => simp [Except.map]
  | ok part => simp [Except.map]

theorem toOption_eq_some_iff {result : α} : value.toOption = some result ↔ value = .ok result := by
  cases value with
  | error reason => simp [Except.toOption]
  | ok part => simp [Except.toOption]

end ChainGateway
