import Mathlib.Data.List.Forall2
import ChainGateway.Proofs.Text.Lowercase

/-!
# Texts that differ in the case of letters

Two texts are the same up to case if they have the same characters one by one, except that a letter
`A` to `Z` may stand in place of the same letter in lower case (`SameUpToCase`).  This is what
comparing without regard to case decides.  No other letters are exchanged: `K` and the sign for
kelvin are different.

Texts that are the same up to case have the same lower case.  A sigma next to a letter `A` to `Z`
does not see its case either, since both forms of the letter are cased.
-/

namespace ChainGateway.Text

/-! ## Single characters -/

/-- One of the letters `A` to `Z`, and the same letter in lower case. -/
def IsCapitalOf (capital lower : Char) : Prop :=
  65 ≤ capital.toNat ∧ capital.toNat ≤ 90 ∧ lower.toNat = capital.toNat + 32

/-- The same character, or the two cases of a letter `A` to `Z`. -/
def SameLetter (first second : Char) : Prop :=
  first = second ∨ IsCapitalOf first second ∨ IsCapitalOf second first

variable {first second : Char}

theorem toLower_eq_toLower_iff : first.toLower = second.toLower ↔ SameLetter first second := by
  unfold SameLetter IsCapitalOf
  rw [← Char.toNat_inj, ← Char.toNat_inj, toNat_toLower, toNat_toLower]
  split <;> split <;> omega

/-- Whatever does not tell a capital from its lower case does not tell the same letters apart. -/
theorem SameLetter.map_eq {β : Type} (hsame : SameLetter first second) (property : Char → β)
    (hcase : ∀ capital lower, IsCapitalOf capital lower → property capital = property lower) :
    property first = property second := by
  rcases hsame with rfl | hcapital | hcapital
  · rfl
  · exact hcase first second hcapital
  · exact (hcase second first hcapital).symm

/-- Both cases of a letter are cased, and neither is ever passed over. -/
theorem isCased_of_isCapitalOf {capital lower : Char} (hcapital : IsCapitalOf capital lower) :
    (isCased capital = true ∧ isCased lower = true) ∧
      isCaseIgnorable capital = false ∧ isCaseIgnorable lower = false := by
  obtain ⟨hfirst, hlast, hlower⟩ := hcapital
  -- the tables are looked up for the 26 letters, counted from the first
  have htables : ∀ place < 26,
      (inRanges casedRanges (65 + place) = true ∧ inRanges casedRanges (97 + place) = true) ∧
        inRanges caseIgnorableRanges (65 + place) = false ∧
        inRanges caseIgnorableRanges (97 + place) = false := by
    decide +kernel
  have hplace := htables (capital.toNat - 65) (by omega)
  rwa [show 65 + (capital.toNat - 65) = capital.toNat by omega,
    show 97 + (capital.toNat - 65) = lower.toNat by omega] at hplace

namespace SameLetter

theorem isCased_eq (hsame : SameLetter first second) : isCased first = isCased second := by
  refine hsame.map_eq isCased fun capital lower hcapital => ?_
  obtain ⟨⟨hcased, hlower⟩, -⟩ := isCased_of_isCapitalOf hcapital
  rw [hcased, hlower]

theorem isCaseIgnorable_eq (hsame : SameLetter first second) :
    isCaseIgnorable first = isCaseIgnorable second := by
  refine hsame.map_eq isCaseIgnorable fun capital lower hcapital => ?_
  obtain ⟨-, hignored, hlower⟩ := isCased_of_isCapitalOf hcapital
  rw [hignored, hlower]

theorem lowercaseChar_eq (hsame : SameLetter first second) :
    lowercaseChar first = lowercaseChar second := by
  refine hsame.map_eq lowercaseChar fun capital lower hcapital => ?_
  have hlower : capital.toLower = lower.toLower :=
    toLower_eq_toLower_iff.mpr (Or.inr (Or.inl hcapital))
  obtain ⟨-, hlast, hdistance⟩ := hcapital
  rw [lowercaseChar, lowercaseChar, if_pos (by omega), if_pos (by omega), hlower]

/-- The capital sigma is none of the letters `A` to `Z`. -/
theorem eq_capitalSigma_iff (hsame : SameLetter first second) :
    first = capitalSigma ↔ second = capitalSigma := by
  refine Iff.of_eq (hsame.map_eq (· = capitalSigma) fun capital lower hcapital => ?_)
  obtain ⟨-, hlast, hdistance⟩ := hcapital
  have hcode : capitalSigma.toNat = 931 := rfl
  rw [← Char.toNat_inj, ← Char.toNat_inj, hcode, eq_iff_iff]
  omega

end SameLetter

/-! ## Texts -/

/-- The two texts differ in nothing but the case of letters `A` to `Z`. -/
def SameUpToCase (first second : String) : Prop :=
  List.Forall₂ SameLetter first.toList second.toList

theorem equalIgnoringCase_iff_sameUpToCase {first second : String} :
    equalIgnoringCase first second = true ↔ SameUpToCase first second := by
  rw [equalIgnoringCase_iff, foldCase, foldCase, ← String.toList_inj, String.toList_map,
    String.toList_map, ← List.forall₂_eq_eq_eq, List.forall₂_map_left_iff,
    List.forall₂_map_right_iff]
  simp only [toLower_eq_toLower_iff]
  exact Iff.rfl

variable {firsts seconds : List Char}

theorem startsCased_eq_of_forall₂ (hsame : List.Forall₂ SameLetter firsts seconds) :
    startsCased firsts = startsCased seconds := by
  induction hsame with
  | nil => rfl
  | cons hletter _ ih =>
      rw [startsCased_cons, startsCased_cons, hletter.isCaseIgnorable_eq, hletter.isCased_eq, ih]

/-- The case of the letters does not matter before a place either, where only the nearest cased
letter counts. -/
theorem lowercaseWithin_eq_of_forall₂ (hsame : List.Forall₂ SameLetter firsts seconds)
    {before before' : List Char} (hbefore : startsCased before = startsCased before') :
    lowercaseWithin before [] firsts = lowercaseWithin before' [] seconds := by
  induction hsame generalizing before before' with
  | nil => rfl
  | @cons first second firsts seconds hletter hrest ih =>
      -- what comes before the next place is the same up to case again
      have hpassed : startsCased (first :: before) = startsCased (second :: before') := by
        rw [startsCased_cons, startsCased_cons, hletter.isCaseIgnorable_eq, hletter.isCased_eq,
          hbefore]
      have hhere : lowercaseAt before first (firsts ++ []) =
          lowercaseAt before' second (seconds ++ []) := by
        unfold lowercaseAt
        rw [List.append_nil, List.append_nil, hbefore, startsCased_eq_of_forall₂ hrest,
          hletter.lowercaseChar_eq]
        simp only [hletter.eq_capitalSigma_iff]
      rw [lowercaseWithin, lowercaseWithin, hhere, ih hpassed]

theorem lowercase_eq_of_sameUpToCase {first second : String}
    (hsame : SameUpToCase first second) : lowercase first = lowercase second := by
  rw [← String.toList_inj, toList_lowercase, toList_lowercase]
  exact lowercaseWithin_eq_of_forall₂ hsame rfl

end ChainGateway.Text
