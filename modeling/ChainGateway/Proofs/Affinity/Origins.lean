import ChainGateway.Entity.StickyPolicy
import ChainGateway.Proofs.Text.Lowercase

/-!
# Which origins a policy finds in an origin

A policy lists parts of origins, and honours an origin that contains one of them once both are in
lower case.  One would have a listed part honoured wherever it literally occurs.  This file says
when that is so.

The lower case of the whole has the part's own lower case in the place of the part, unless the
surroundings turn a capital sigma of the part.  They cannot if no cased letter stands next to the
part, and they never can if the part has no open sigma.  For a part with an open sigma there are
surroundings in which a policy that lists it, and nothing else, does not honour the origin: with
`ΟΔΟΣ` listed, `https://ΟΔΟΣ.GR` is not honoured, since the full stop is passed over and the sigma
before it does not end the word (`literal_origin_refused`).
-/

namespace ChainGateway.StickyPolicy

open Text

/-! ## Containing a part -/

theorem contains_iff_isInfix {text part : List Char} :
    contains text part = true ↔ part <:+: text := by
  induction text with
  | nil => rw [contains, List.isEmpty_iff, List.infix_nil]
  | cons char text ih => rw [contains, Bool.or_eq_true, List.isPrefixOf_iff_prefix, ih,
      List.infix_cons_iff]

theorem allows_iff {policy : StickyPolicy} {origin : String} :
    policy.allows origin = true ↔
      ∃ part ∈ policy.origins, (lowercase part).toList <:+: (lowercase origin).toList := by
  unfold allows
  rw [List.any_eq_true]
  simp only [contains_iff_isInfix]

/-! ## A part among others -/

variable {policy : StickyPolicy} {part : String}

/-- A listed part is honoured in surroundings that leave its lower case as it is alone. -/
theorem allows_of_lowercaseWithin_eq (hlisted : part ∈ policy.origins) {before after : String}
    (halone : lowercaseWithin before.toList.reverse after.toList part.toList =
      lowercaseWithin [] [] part.toList) :
    policy.allows (before ++ part ++ after) = true := by
  refine allows_iff.mpr ⟨part, hlisted, ?_⟩
  rw [toList_lowercase, toList_lowercase, String.toList_append, String.toList_append, ← halone]
  exact lowercaseWithin_isInfix before.toList part.toList after.toList

/-- A part with an open sigma is not honoured everywhere, if nothing else is listed. -/
theorem exists_allows_eq_false (hopen : HasOpenSigma part.toList) :
    ∃ before after : String,
      ({ sticky := true, origins := [part] } : StickyPolicy).allows (before ++ part ++ after) =
        false := by
  obtain ⟨before, after, hinfix⟩ := exists_not_isInfix hopen
  refine ⟨String.ofList before, String.ofList after, Bool.eq_false_iff.mpr fun hallows => ?_⟩
  obtain ⟨listed, hlisted, hfound⟩ := allows_iff.mp hallows
  rw [List.mem_singleton] at hlisted
  subst hlisted
  rw [toList_lowercase, toList_lowercase, String.toList_append, String.toList_append,
    String.toList_ofList, String.toList_ofList] at hfound
  exact hinfix hfound

/-- **Where a listed part is honoured.**  A part is honoured by every policy that lists it, whatever
surrounds it, exactly if none of its capital sigmas is open; and every listed part is honoured where
no cased letter comes next to it on either side. -/
theorem allows_surrounded_iff (part : String) :
    ((∀ (policy : StickyPolicy) (before after : String), part ∈ policy.origins →
        policy.allows (before ++ part ++ after) = true) ↔ ¬ HasOpenSigma part.toList) ∧
    ∀ (policy : StickyPolicy) (before after : String), part ∈ policy.origins →
      startsCased before.toList.reverse = false → startsCased after.toList = false →
      policy.allows (before ++ part ++ after) = true := by
  refine ⟨⟨fun hhonoured hopen => ?_, fun hopen policy before after hlisted => ?_⟩, ?_⟩
  · -- an open sigma has surroundings that turn it
    obtain ⟨before, after, hrefused⟩ := exists_allows_eq_false hopen
    rw [hhonoured _ before after (List.mem_singleton_self part)] at hrefused
    cases hrefused
  · exact allows_of_lowercaseWithin_eq hlisted
      (lowercaseWithin_of_not_hasOpenSigma hopen before.toList.reverse after.toList)
  · intro policy before after hlisted hbefore hafter
    exact allows_of_lowercaseWithin_eq hlisted
      (lowercaseWithin_congr hbefore hafter part.toList)

/-- At a part whose sigma is followed by a slash, and so is never open, and at the same part without
the slash, between a slash and a digit. -/
theorem allows_surrounded_iff_slash :
    (∀ before after, ({ sticky := true, origins := ["ΟΔΟΣ/"] } : StickyPolicy).allows
      (before ++ "ΟΔΟΣ/" ++ after) = true) ∧
    ({ sticky := true, origins := ["ΟΔΟΣ"] } : StickyPolicy).allows
      ("https://" ++ "ΟΔΟΣ" ++ ".1") = true := by
  refine ⟨fun before after => ?_, ?_⟩
  · exact (allows_surrounded_iff "ΟΔΟΣ/").1.mpr (by decide +kernel) _ before after
      (List.mem_singleton_self _)
  · exact (allows_surrounded_iff "ΟΔΟΣ").2 _ "https://" ".1" (List.mem_singleton_self _)
      (by decide +kernel) (by decide +kernel)

/-- A listed part is not always honoured where it literally occurs. -/
theorem literal_origin_refused :
    ¬ ∀ (policy : StickyPolicy) (part before after : String), part ∈ policy.origins →
      policy.allows (before ++ part ++ after) = true := by
  intro hhonoured
  have hallows := hhonoured { sticky := true, origins := ["ΟΔΟΣ"] } "ΟΔΟΣ" "https://" ".GR"
    (List.mem_singleton_self _)
  exact absurd hallows (by decide +kernel)

end ChainGateway.StickyPolicy
