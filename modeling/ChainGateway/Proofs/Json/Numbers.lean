import ChainGateway.Proofs.Json.Scalars

/-!
# Numbers that are read

There are two readers of numbers: one gives the number, the other only passes over it.  Wherever the
first one succeeds, the second one stops at the same place, and the number fits into a word if it
is an integer (`agrees_readNumber`).  The second reader accepts more, since it does not mind the
size of a number.

Both readers go through the parts of a number in the same order, so the proof has one lemma for each
part.
-/

namespace ChainGateway.Json

open Text

/-- An integer fits into a word. -/
def Number.Fits : Number → Prop
  | .integer value => IsWord value
  | .real _ => True

/-- A number that is read fits, and it can as well be passed over. -/
def Agrees (reading : Reading Number) (passing : Except Stop Octets) : Prop :=
  ∀ number left, reading = .ok (number, left) → number.Fits ∧ passing = .ok left

variable {negative : Bool} {significand : Nat} {exponent : Int} {rest : Octets}

theorem agrees_stop (problem : Problem) (left : Octets) (passing : Except Stop Octets) :
    Agrees (stop problem left) passing := by
  intro number left hread
  cases hread

theorem agrees_real (value : Decimal.Binary64) (left : Octets) :
    Agrees (.ok (.real value, left)) (.ok left) := by
  intro number after hread
  obtain ⟨rfl, rfl⟩ := Prod.mk.inj (Except.ok.inj hread)
  exact ⟨trivial, rfl⟩

theorem agrees_finishReal : Agrees (finishReal negative significand exponent rest) (.ok rest) := by
  unfold finishReal
  split
  · exact agrees_real _ rest
  · exact agrees_stop _ _ _

/-! ## Digits -/

theorem skipDigits_count (count other : Nat) (rest : Octets) :
    (skipDigits count rest).2 = (skipDigits other rest).2 := by
  induction rest generalizing count other with
  | nil => rfl
  | cons octet rest ih =>
      rw [skipDigits, skipDigits]
      split
      · exact ih _ _
      · rfl

/-- Digits that are not appended remain to be passed over. -/
theorem skipDigits_appendDigits (bound count other : Nat) :
    (skipDigits other (appendDigits bound significand count rest).2.2).2 =
      (skipDigits other rest).2 := by
  induction rest generalizing significand count with
  | nil => rfl
  | cons octet rest ih =>
      rw [appendDigits]
      split
      · next hdigit =>
          rw [ih, skipDigits, if_pos hdigit.1]
          exact skipDigits_count _ _ _
      · rfl

theorem skipDigits_of_startsWithDigit {count : Nat} (hdigit : startsWithDigit rest = false) :
    (skipDigits count rest).2 = rest := by
  match rest with
  | [] => rfl
  | octet :: rest =>
      have hoctet : isDigit octet = false := hdigit
      rw [skipDigits, hoctet]
      rfl

/-- All digits have been appended. -/
theorem skipDigits_eq {bound count : Nat} (other : Nat)
    (hdigit : startsWithDigit (appendDigits bound significand count rest).2.2 = false) :
    (skipDigits other rest).2 = (appendDigits bound significand count rest).2.2 := by
  rw [← skipDigits_appendDigits bound count other, skipDigits_of_startsWithDigit hdigit]

/-- Digits are appended only up to the bound. -/
theorem appendDigits_le {bound count : Nat} (hbound : significand ≤ bound) :
    (appendDigits bound significand count rest).1 ≤ bound := by
  induction rest generalizing significand count with
  | nil => exact hbound
  | cons octet rest ih =>
      rw [appendDigits]
      split
      · next hdigit => exact ih hdigit.2
      · exact hbound

theorem digitValue_le {octet : UInt8} (hdigit : isDigit octet = true) : digitValue octet ≤ 9 := by
  have hnine : '9'.toNat = '0'.toNat + 9 := by decide
  rw [isDigit, Bool.and_eq_true, decide_eq_true_eq, decide_eq_true_eq, hnine] at hdigit
  unfold digitValue
  omega

/-! ## The parts of a number -/

/-- The digits of an exponent, once its sign is known. -/
theorem agrees_power (down : Bool) (rest : Octets) :
    Agrees
      (match rest with
      | [] => stop .endInValue []
      | octet :: tail =>
          if isDigit octet then
            let (power, _, rest) := appendDigits greatestPower (digitValue octet) 1 tail
            if startsWithDigit rest then
              if significand ≠ 0 ∧ down = false then stop .numberOutOfRange rest.tail
              else .ok (.real (.zero negative), (skipDigits 0 rest).2)
            else
              finishReal negative significand
                (if down then exponent - power else exponent + power) rest
          else stop .invalidNumber tail)
      (match rest with
      | [] => stop .invalidNumber []
      | octet :: tail =>
          if isDigit octet then .ok (skipDigits 0 tail).2 else stop .invalidNumber tail) := by
  match rest with
  | [] => exact agrees_stop _ _ _
  | octet :: tail =>
      dsimp only
      by_cases hoctet : isDigit octet = true
      · rw [if_pos hoctet, if_pos hoctet]
        split
        · -- an exponent with too many digits is read to its end, unless it is refused
          split
          · exact agrees_stop _ _ _
          · rw [skipDigits_appendDigits]
            exact agrees_real _ _
        · next hdigit =>
            rw [skipDigits_eq _ (Bool.not_eq_true _ ▸ hdigit)]
            exact agrees_finishReal
      · rw [if_neg hoctet]
        exact agrees_stop _ _ _

theorem agrees_readExponent :
    Agrees (readExponent negative significand exponent rest) (skipExponent rest) := by
  unfold readExponent skipExponent
  match rest with
  | [] => exact agrees_stop _ _ _
  | octet :: tail =>
      dsimp only
      by_cases hplus : octet = '+'.toUInt8
      · rw [if_pos hplus, if_pos (Or.inl hplus)]
        exact agrees_power false tail
      · rw [if_neg hplus]
        by_cases hminus : octet = '-'.toUInt8
        · rw [if_pos hminus, if_pos (Or.inr hminus)]
          exact agrees_power true tail
        · rw [if_neg hminus, if_neg (by simp [hplus, hminus])]
          exact agrees_power false (octet :: tail)

theorem agrees_readRealEnd :
    Agrees (readRealEnd negative significand exponent rest) (skipRealEnd rest) := by
  unfold readRealEnd skipRealEnd
  match rest with
  | [] => exact agrees_finishReal
  | octet :: tail =>
      dsimp only
      split
      · exact agrees_readExponent
      · exact agrees_finishReal

theorem agrees_readFraction (left : Octets) :
    Agrees (readFraction negative significand exponent rest)
      (if startsWithDigit rest then skipRealEnd (skipDigits 0 rest).2
        else stop .invalidNumber left) := by
  unfold readFraction
  dsimp only
  by_cases hrest : startsWithDigit rest = true
  · -- whether the digits are few or too many, passing over them stops where they end
    rw [if_pos hrest]
    split
    · rw [skipDigits_appendDigits]
      exact agrees_readRealEnd
    · next hdigit =>
        rw [← skipDigits_eq 0 (Bool.not_eq_true _ ▸ hdigit)]
        split
        · split
          · exact agrees_stop _ _ _
          · exact agrees_stop _ _ _
        · exact agrees_readRealEnd
  · rw [appendDigits_of_startsWithDigit (Bool.not_eq_true _ ▸ hrest), if_neg hrest, if_pos rfl]
    split
    · exact agrees_stop _ _ _
    · exact agrees_stop _ _ _

theorem agrees_finishInteger (hbound : significand ≤ greatestSignificand) :
    Agrees (finishInteger negative significand rest) (.ok rest) := by
  have hinteger : ∀ value : Int, IsWord value →
      Agrees (.ok (.integer value, rest)) (.ok rest) := by
    intro value hword number left hread
    obtain ⟨rfl, rfl⟩ := Prod.mk.inj (Except.ok.inj hread)
    exact ⟨hword, rfl⟩
  simp only [greatestSignificand, UInt64.size] at hbound
  simp only [IsWord, UInt64.size] at hinteger
  unfold finishInteger
  simp only [UInt64.size]
  split
  · split
    · exact agrees_finishReal
    · exact hinteger _ ⟨by omega, by omega⟩
  · exact hinteger _ ⟨by omega, by omega⟩

theorem agrees_readIntegerEnd (hbound : significand ≤ greatestSignificand) :
    Agrees (readIntegerEnd negative significand rest) (skipIntegerEnd rest) := by
  unfold readIntegerEnd skipIntegerEnd
  match rest with
  | [] => exact agrees_finishInteger hbound
  | octet :: tail =>
      dsimp only
      by_cases hpoint : octet = '.'.toUInt8
      · rw [if_pos hpoint, if_pos hpoint]
        exact agrees_readFraction _
      · rw [if_neg hpoint, if_neg hpoint]
        split
        · next hmark =>
            rw [skipRealEnd, if_pos hmark]
            exact agrees_readExponent
        · next hmark =>
            rw [skipRealEnd, if_neg hmark]
            exact agrees_finishInteger hbound

theorem agrees_readLongEnd {power : Nat} :
    Agrees (readLongEnd negative significand power rest) (skipIntegerEnd rest) := by
  unfold readLongEnd skipIntegerEnd
  match rest with
  | [] => exact agrees_readRealEnd
  | octet :: tail =>
      dsimp only
      by_cases hpoint : octet = '.'.toUInt8
      · rw [if_pos hpoint, if_pos hpoint]
        exact agrees_readFraction _
      · rw [if_neg hpoint, if_neg hpoint]
        exact agrees_readRealEnd

/-- A number that is read fits, and passing over it stops at the same place. -/
theorem agrees_readNumber : Agrees (readNumber negative rest) (skipNumber rest) := by
  unfold readNumber skipNumber
  match rest with
  | [] => exact agrees_stop _ _ _
  | octet :: tail =>
      dsimp only
      -- a leading zero stands alone
      by_cases hzero : octet = '0'.toUInt8
      · rw [if_pos hzero, if_pos hzero]
        match tail with
        | [] => exact agrees_readIntegerEnd (Nat.zero_le _)
        | next :: after =>
            show Agrees (if isDigit next then _ else _) (if isDigit next then _ else _)
            split
            · exact agrees_stop _ _ _
            · exact agrees_readIntegerEnd (Nat.zero_le _)
      · rw [if_neg hzero, if_neg hzero]
        by_cases hoctet : isDigit octet = true
        · rw [if_pos hoctet, if_pos hoctet]
          have hbound : digitValue octet ≤ greatestSignificand :=
            Nat.le_trans (digitValue_le hoctet) (by decide)
          -- the digits may fit into a word, or go on beyond it
          split
          · rw [skipDigits_appendDigits]
            exact agrees_readLongEnd
          · next hdigit =>
              rw [skipDigits_eq _ (Bool.not_eq_true _ ▸ hdigit)]
              exact agrees_readIntegerEnd (appendDigits_le hbound)
        · rw [if_neg hoctet]
          exact agrees_stop _ _ _

end ChainGateway.Json
