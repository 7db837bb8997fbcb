import ChainGateway.Text.LetterTable

/-!
# Lower case

The lower case of a whole text under the full Unicode rules.  Three things are special: most
letters have a lower case of one letter (`lowercaseRuns`), the dotted capital `İ` becomes two
characters, and the capital sigma becomes a final sigma at the end of a word and a plain one
elsewhere.  Because of the last rule the lower case of a part need not be a part of the lower
case of the whole.
-/

namespace ChainGateway.Text

/-- Does the character count as a letter with case? -/
def isCased (char : Char) : Bool :=
  inRanges casedRanges char.toNat

/-- Is the character passed over in the search for the nearest cased letter? -/
def isCaseIgnorable (char : Char) : Bool :=
  inRanges caseIgnorableRanges char.toNat

/-- The capital sigma, the one letter whose lower case depends on its neighbours. -/
def capitalSigma : Char := 'Σ'

/-- The lower case of a single character, apart from its neighbours. -/
def lowercaseChar (char : Char) : List Char :=
  if char.toNat < 0x80 then
    [char.toLower]
  else if char = 'İ' then
    ['i', Char.ofNat 0x307]
  else
    match lowercaseRuns.findSome? fun run => run.map? char.toNat with
    | some code => [Char.ofNat code]
    | none => [char]

/-- Is the nearest character that is not ignorable a cased letter? -/
def startsCased (chars : List Char) : Bool :=
  match chars.dropWhile isCaseIgnorable with
  | [] => false
  | char :: _ => isCased char

/-- The lower case of the characters that follow `before`, where `before` holds the characters
already passed and `lowered` their lower case, both with the last one first.  A capital sigma
ends a word if a cased letter comes before it and none after it. -/
def lowercaseFrom (before lowered : List Char) : List Char → List Char
  | [] => lowered.reverse
  | char :: after =>
      let image :=
        if char = capitalSigma then
          if startsCased before && !startsCased after then ['ς'] else ['σ']
        else
          lowercaseChar char
      lowercaseFrom (char :: before) (image.reverse ++ lowered) after

/-- The text in lower case. -/
def lowercase (text : String) : String :=
  String.ofList (lowercaseFrom [] [] text.toList)

end ChainGateway.Text
