/-!
# Letters of the basic alphabet

Identifiers and chain aliases are compared without regard to the case of the letters `A` to
`Z`, and of those letters only.  Two texts are equal in this sense exactly when they fold to
the same text.
-/

namespace ChainGateway.Text

/-- The text with the letters `A` to `Z` in lower case and everything else unchanged. -/
def foldCase (text : String) : String :=
  text.map Char.toLower

/-- Equality up to the case of the letters `A` to `Z`. -/
def equalIgnoringCase (first second : String) : Bool :=
  foldCase first == foldCase second

theorem equalIgnoringCase_iff (first second : String) :
    equalIgnoringCase first second = true ↔ foldCase first = foldCase second := by
  simp [equalIgnoringCase]

end ChainGateway.Text
