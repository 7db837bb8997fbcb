/-!
# Sets of characters given by ranges

Unicode properties are written as lists of closed ranges of code points.  `inRanges` asks
whether a code point lies in one of them; a `LetterRun` lists the letters between two code
points that lie at equal distances, together with their images under a case mapping.
-/

namespace ChainGateway.Text

/-- Does one of the closed ranges hold the code point? -/
def inRanges (ranges : List (Nat × Nat)) (code : Nat) : Bool :=
  ranges.any fun range => decide (range.1 ≤ code) && decide (code ≤ range.2)

/-- The letters `first`, `first + stride`, … up to `last`; the image of `first` is `image`, and
the others keep their distance from it. -/
structure LetterRun where
  first : Nat
  last : Nat
  stride : Nat
  image : Nat

/-- The image of a code point, if it is one of the run's letters. -/
def LetterRun.map? (run : LetterRun) (code : Nat) : Option Nat :=
  if run.first ≤ code ∧ code ≤ run.last ∧ (code - run.first) % run.stride = 0 then
    some (run.image + (code - run.first))
  else
    none

end ChainGateway.Text
