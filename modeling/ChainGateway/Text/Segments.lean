/-!
# Segments of a text

A text is cut at each separator.  The segments between separators may be empty, and there is
always at least one.  They are what splitting the list of characters gives.
-/

namespace ChainGateway.Text

/-- The segments between separators. -/
def segments (separator : Char) : List Char → List (List Char)
  | [] => [[]]
  | char :: rest =>
      if char = separator then [] :: segments separator rest
      else
        match segments separator rest with
        | [] => [[char]]
        | segment :: later => (char :: segment) :: later

/-- Cuts a text at each separator. -/
def cut (separator : Char) (text : String) : List String :=
  (segments separator text.toList).map String.ofList

theorem segments_ne_nil (separator : Char) (chars : List Char) :
    segments separator chars ≠ [] := by
  cases chars with
  | nil => simp [segments]
  | cons char rest =>
      rw [segments]
      split
      · simp
      · split <;> simp

/-- Cutting a text is splitting the list of its characters. -/
theorem segments_eq_splitOn (separator : Char) (chars : List Char) :
    segments separator chars = chars.splitOn separator := by
  induction chars with
  | nil => rfl
  | cons char rest ih =>
      have hne := segments_ne_nil separator rest
      rw [List.splitOn_eq_splitOnP] at ih ⊢
      rw [List.splitOnP_cons_eq_if_modifyHead, ← ih, segments]
      generalize segments separator rest = later at hne ⊢
      match later with
      | [] => exact absurd rfl hne
      | segment :: later => simp

/-- The text without blanks and tabs at its ends. -/
def trimBlanks (chars : List Char) : List Char :=
  let isBlank := fun char : Char => char = ' ' || char = '\t'
  ((chars.dropWhile isBlank).reverse.dropWhile isBlank).reverse

end ChainGateway.Text
