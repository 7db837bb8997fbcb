import ChainGateway.Decimal.Binary64
import ChainGateway.Toml.Value

/-!
# Reading configuration files

A reader takes the characters that are left and returns what it read with the characters after
it, or nothing if they do not have the form it reads.  Why a file is refused is not told.

Loops that do not follow the characters one by one are bounded by the number of characters of
the file, `steps`, because every turn takes at least one.
-/

namespace ChainGateway.Toml

open Decimal

/-- What a reader returns. -/
abbrev Reading (α : Type) := Option (α × List Char)

/-! ## Characters -/

/-- A blank within a line. -/
def isBlank (char : Char) : Bool :=
  char = ' ' || char = '\t'

/-- May the character stand in a comment, or in a text without escapes? -/
def isPlain (char : Char) : Bool :=
  char = '\t' || (decide (0x20 ≤ char.toNat) && char.toNat != 0x7F)

/-- May the character stand in a key without quotes? -/
def isBareKey (char : Char) : Bool :=
  char.isAlphanum || char = '_' || char = '-'

/-- The characters from the first one that is not a blank. -/
def skipBlanks (chars : List Char) : List Char :=
  chars.dropWhile isBlank

/-- Reads one particular character. -/
def readChar (expected : Char) : List Char → Option (List Char)
  | [] => none
  | char :: rest => if char = expected then some rest else none

/-- Reads the end of a line. -/
def readNewline : List Char → Option (List Char)
  | '\n' :: rest => some rest
  | '\r' :: '\n' :: rest => some rest
  | _ => none

/-- Passes over a comment, if there is one. -/
def skipComment : List Char → List Char
  | '#' :: rest => rest.dropWhile isPlain
  | chars => chars

/-- Passes over blanks and a comment, up to the end of the line or of the file. -/
def readLineEnd (chars : List Char) : Option (List Char) :=
  match skipComment (skipBlanks chars) with
  | [] => some []
  | rest => readNewline rest

/-- Passes over blanks, comments and ends of lines. -/
def skipLines : Nat → List Char → List Char
  | 0, chars => chars
  | steps + 1, chars =>
      match readNewline (skipComment (skipBlanks chars)) with
      | some rest => skipLines steps rest
      | none => skipBlanks chars

/-! ## Digits -/

/-- The value of a hexadecimal digit. -/
def hexValue? (char : Char) : Option Nat :=
  if char.isDigit then some (char.toNat - '0'.toNat)
  else if 'a' ≤ char ∧ char ≤ 'f' then some (char.toNat - 'a'.toNat + 10)
  else if 'A' ≤ char ∧ char ≤ 'F' then some (char.toNat - 'A'.toNat + 10)
  else none

/-- The value of a digit in a base. -/
def digitIn? (base : Nat) (char : Char) : Option Nat :=
  (hexValue? char).filter (· < base)

/-- Reads digits, with single underscores between them; `fresh` says that a digit must come
next. -/
def readDigits (base : Nat) (fresh : Bool) (count value : Nat) : List Char → Reading (Nat × Nat)
  | [] => if fresh then none else some ((count, value), [])
  | '_' :: rest => if fresh then none else readDigits base true count value rest
  | char :: rest =>
      match digitIn? base char with
      | some digit => readDigits base false (count + 1) (value * base + digit) rest
      | none => if fresh then none else some ((count, value), char :: rest)

/-- Reads exactly so many decimal digits. -/
def readFixed : Nat → Nat → List Char → Reading Nat
  | 0, value, chars => some (value, chars)
  | _ + 1, _, [] => none
  | count + 1, value, char :: rest =>
      match digitIn? 10 char with
      | some digit => readFixed count (value * 10 + digit) rest
      | none => none

/-- Reads exactly so many decimal digits of a number within bounds. -/
def readWithin (count least greatest : Nat) (chars : List Char) :
    Option (Nat × List Char) := do
  let (value, rest) ← readFixed count 0 chars
  if least ≤ value ∧ value ≤ greatest then some (value, rest) else none

/-! ## Texts -/

/-- Reads a character given by so many hexadecimal digits. -/
def readCodePoint : Nat → Nat → List Char → Reading Char
  | 0, code, chars =>
      if code < 0xD800 ∨ (0xDFFF < code ∧ code < 0x110000) then some (Char.ofNat code, chars)
      else none
  | _ + 1, _, [] => none
  | count + 1, code, char :: rest =>
      match hexValue? char with
      | some digit => readCodePoint count (code * 16 + digit) rest
      | none => none

/-- Reads what follows a backslash. -/
def readEscape : List Char → Reading Char
  | 'b' :: rest => some (Char.ofNat 0x08, rest)
  | 't' :: rest => some ('\t', rest)
  | 'n' :: rest => some ('\n', rest)
  | 'f' :: rest => some (Char.ofNat 0x0C, rest)
  | 'r' :: rest => some ('\r', rest)
  | '"' :: rest => some ('"', rest)
  | '\\' :: rest => some ('\\', rest)
  | 'u' :: rest => readCodePoint 4 0 rest
  | 'U' :: rest => readCodePoint 8 0 rest
  | _ => none

/-- Reads a text on one line from behind its opening quote. -/
def readBasic : Nat → List Char → List Char → Reading String
  | 0, _, _ => none
  | _ + 1, _, [] => none
  | steps + 1, done, char :: rest =>
      if char = '"' then some (String.ofList done.reverse, rest)
      else if char = '\\' then
        match readEscape rest with
        | some (char, rest) => readBasic steps (char :: done) rest
        | none => none
      else if isPlain char then readBasic steps (char :: done) rest
      else none

/-- Reads a text without escapes on one line from behind its opening quote. -/
def readLiteral (done : List Char) : List Char → Reading String
  | [] => none
  | char :: rest =>
      if char = '\'' then some (String.ofList done.reverse, rest)
      else if isPlain char then readLiteral (char :: done) rest
      else none

/-- Reads the quotes at the end of a text of several lines; up to two more of them belong to the
text. -/
def readClosing (quote : Char) (done rest : List Char) : Option (Reading String) :=
  let quotes := rest.takeWhile (· = quote)
  if quotes.length < 3 then none
  else if 5 < quotes.length then some none
  else
    some (some (String.ofList (done.reverse ++ quotes.drop 3), rest.drop quotes.length))

/-- The characters from the first one that is neither a blank nor an end of line. -/
def skipSpace : List Char → List Char
  | '\r' :: '\n' :: rest => skipSpace rest
  | char :: rest => if isBlank char || char = '\n' then skipSpace rest else char :: rest
  | [] => []

/-- Passes over the end of a line and the blanks and ends of lines after it, from behind a
backslash. -/
def skipFolded (chars : List Char) : Option (List Char) :=
  (readNewline (skipBlanks chars)).map skipSpace

/-- Reads a text of several lines from behind its opening quotes. -/
def readLines (quote : Char) : Nat → List Char → List Char → Reading String
  | 0, _, _ => none
  | _ + 1, _, [] => none
  | steps + 1, done, char :: rest =>
      if char = quote then
        match readClosing quote done (char :: rest) with
        | some text => text
        | none => readLines quote steps (char :: done) rest
      else if char = '\\' ∧ quote = '"' then
        match skipFolded rest with
        | some rest => readLines quote steps done rest
        | none =>
            match readEscape rest with
            | some (char, rest) => readLines quote steps (char :: done) rest
            | none => none
      else if isPlain char then readLines quote steps (char :: done) rest
      else
        match readNewline (char :: rest) with
        | some rest => readLines quote steps ('\n' :: done) rest
        | none => none

/-- The characters without an end of line at the beginning. -/
def dropNewline (chars : List Char) : List Char :=
  (readNewline chars).getD chars

/-- Reads a text in any of its four forms. -/
def readText (steps : Nat) : List Char → Reading String
  | '"' :: '"' :: '"' :: rest => readLines '"' steps [] (dropNewline rest)
  | '"' :: rest => readBasic steps [] rest
  | '\'' :: '\'' :: '\'' :: rest => readLines '\'' steps [] (dropNewline rest)
  | '\'' :: rest => readLiteral [] rest
  | _ => none

/-! ## Keys -/

/-- Reads one key. -/
def readSimpleKey (steps : Nat) : List Char → Reading String
  | '"' :: rest => readBasic steps [] rest
  | '\'' :: rest => readLiteral [] rest
  | chars =>
      let key := chars.takeWhile isBareKey
      if key.isEmpty then none else some (String.ofList key, chars.dropWhile isBareKey)

/-- The greatest number of keys that dots join. -/
def keyLimit : Nat := 79

/-- Reads keys joined by dots, with blanks around them. -/
def readKey (steps : Nat) : Nat → List Char → Reading (List String)
  | 0, _ => none
  | turns + 1, chars =>
      match readSimpleKey steps (skipBlanks chars) with
      | none => none
      | some (key, rest) =>
          match skipBlanks rest with
          | '.' :: rest => (readKey steps turns rest).map fun (keys, rest) => (key :: keys, rest)
          | rest => some ([key], rest)

/-! ## Numbers and dates -/

/-- The number of days of a month. -/
def daysIn (year month : Nat) : Nat :=
  if month = 2 then
    if year % 4 = 0 ∧ (year % 100 ≠ 0 ∨ year % 400 = 0) then 29 else 28
  else if month = 4 ∨ month = 6 ∨ month = 9 ∨ month = 11 then 30
  else 31

/-- Reads a date. -/
def readDate (chars : List Char) : Option (List Char) := do
  let (year, rest) ← readFixed 4 0 chars
  let (month, rest) ← readWithin 2 1 12 (← readChar '-' rest)
  let (_, rest) ← readWithin 2 1 (daysIn year month) (← readChar '-' rest)
  return rest

/-- Reads the fraction of a second, if there is one. -/
def skipFraction (chars : List Char) : Option (List Char) :=
  match chars with
  | '.' :: rest =>
      if rest.head?.any Char.isDigit then some (rest.dropWhile Char.isDigit) else none
  | rest => some rest

/-- Reads a time of day. -/
def readTime (chars : List Char) : Option (List Char) := do
  let (_, rest) ← readWithin 2 0 23 chars
  let (_, rest) ← readWithin 2 0 59 (← readChar ':' rest)
  let (_, rest) ← readWithin 2 0 60 (← readChar ':' rest)
  skipFraction rest

/-- Reads the distance from universal time, if it is given. -/
def skipOffset (chars : List Char) : Option (List Char) :=
  match chars with
  | 'Z' :: rest => some rest
  | 'z' :: rest => some rest
  | sign :: rest =>
      if sign = '+' ∨ sign = '-' then do
        let (_, rest) ← readWithin 2 0 23 rest
        let (_, rest) ← readWithin 2 0 59 (← readChar ':' rest)
        return rest
      else some (sign :: rest)
  | [] => some []

/-- Reads a date, a time of day, or both. -/
def readMoment (chars : List Char) : Option (List Char) :=
  match readDate chars with
  | some (mark :: rest) =>
      if mark = 'T' ∨ mark = 't' ∨ mark = ' ' then
        match readTime rest with
        | some rest => skipOffset rest
        | none => some (mark :: rest)
      else some (mark :: rest)
  | some [] => some []
  | none => readTime chars

/-- The sign of a number and the characters after it. -/
def readSign : List Char → Bool × List Char
  | '+' :: rest => (false, rest)
  | '-' :: rest => (true, rest)
  | chars => (false, chars)

/-- Reads a decimal integer without its sign; a leading zero stands alone. -/
def readDecimal : List Char → Reading Nat
  | '0' :: rest => some (0, rest)
  | chars => (readDigits 10 true 0 0 chars).map fun ((_, value), rest) => (value, rest)

/-- Does the integer fit a signed word of 64 bits? -/
def isWord (value : Int) : Bool :=
  decide (Int64.minValue.toInt ≤ value) && decide (value ≤ Int64.maxValue.toInt)

/-- Reads an integer. -/
def readInteger (chars : List Char) : Reading Value :=
  let based (base : Nat) (digits : List Char) : Reading Int :=
    (readDigits base true 0 0 digits).map fun ((_, value), rest) => ((value : Int), rest)
  let integer? : Reading Int :=
    match chars with
    | '0' :: 'x' :: digits => based 16 digits
    | '0' :: 'o' :: digits => based 8 digits
    | '0' :: 'b' :: digits => based 2 digits
    | _ =>
        let (negative, digits) := readSign chars
        (readDecimal digits).map fun (value, rest) =>
          (if negative then -(value : Int) else value, rest)
  match integer? with
  | some (value, rest) => if isWord value then some (.integer value, rest) else none
  | none => none

/-- Is the number `significand * 10 ^ exponent` within the finite floating-point numbers? -/
def isFinite (significand : Nat) (exponent : Int) : Bool :=
  if significand = 0 ∨ exponent + significand.log2 < 300 then true
  else if 310 < exponent then false
  else (Binary64.nearest? false (significand * Nat.pow 10 exponent.toNat)
    (Nat.pow 10 (-exponent).toNat)).isSome

/-- Reads an exponent from behind its mark. -/
def readExponent (chars : List Char) : Reading Int :=
  let (negative, digits) := readSign chars
  (readDigits 10 true 0 0 digits).map fun ((_, value), rest) =>
    (if negative then -(value : Int) else value, rest)

/-- Reads an exponent with its mark. -/
def readPower : List Char → Reading Int
  | 'e' :: rest => readExponent rest
  | 'E' :: rest => readExponent rest
  | _ => none

/-- Reads a number with a fraction or an exponent. -/
def readReal (chars : List Char) : Option (List Char) :=
  let (negative, digits) := readSign chars
  match digits with
  | 'i' :: 'n' :: 'f' :: rest => some rest
  | 'n' :: 'a' :: 'n' :: rest => some rest
  | _ => do
      let (whole, rest) ← readDecimal digits
      let (significand, exponent, rest) ←
        match rest with
        | '.' :: rest => do
            let ((count, fraction), rest) ← readDigits 10 true 0 0 rest
            let (power, rest) :=
              match readPower rest with
              | some (power, rest) => (power, rest)
              | none => (0, rest)
            some (whole * Nat.pow 10 count + fraction, power - count, rest)
        | rest => do
            let (power, rest) ← readPower rest
            some (whole, power, rest)
      if negative ∨ isFinite significand exponent then some rest else none

/-- The part of the characters that was read. -/
def written (chars rest : List Char) : String :=
  String.ofList (chars.take (chars.length - rest.length))

/-- Reads a number or a date. -/
def readNumber (chars : List Char) : Reading Value :=
  match readMoment chars with
  | some rest => some (.moment (written chars rest), rest)
  | none =>
      match readReal chars with
      | some rest => some (.real (written chars rest), rest)
      | none => readInteger chars

/-! ## Values -/

/-- How deeply arrays and tables may be nested within a value. -/
def nestingLimit : Nat := 79

/-- Reads the elements of an array and its closing bracket. -/
def readElements (read : List Char → Reading Value) (steps : Nat) :
    Nat → List Value → List Char → Reading (List Value)
  | 0, _, _ => none
  | turns + 1, done, chars =>
      match skipLines steps chars with
      | ']' :: rest => some (done.reverse, rest)
      | chars =>
          match read chars with
          | none => none
          | some (value, rest) =>
              match skipLines steps rest with
              | ',' :: rest => readElements read steps turns (value :: done) rest
              | ']' :: rest => some ((value :: done).reverse, rest)
              | _ => none

/-- Reads a key, an equals sign and a value, and adds them to the entries. -/
def readPair (read : List Char → Reading Value) (steps : Nat) (entries : Entries)
    (chars : List Char) : Option (Entries × List Char) := do
  let (keys, rest) ← readKey steps keyLimit chars
  let rest ← readChar '=' (skipBlanks rest)
  let (value, rest) ← read (skipBlanks rest)
  let entries ← addKey entries true keys.dropLast (keys.getLast?.getD "") value
  return (entries, rest)

/-- Reads the pairs of a table on one line and its closing brace. -/
def readPairs (read : List Char → Reading Value) (steps : Nat) :
    Nat → Entries → List Char → Reading Entries
  | 0, _, _ => none
  | turns + 1, entries, chars =>
      match readPair read steps entries chars with
      | none => none
      | some (entries, rest) =>
          match skipBlanks rest with
          | ',' :: rest => readPairs read steps turns entries rest
          | '\x7d' :: rest => some (entries, rest)
          | _ => none

/-- Reads a value, with so many more arrays and tables allowed within each other. -/
def readValue (steps : Nat) : Nat → List Char → Reading Value
  | nesting, chars =>
      match chars with
      | [] => none
      | '"' :: _ | '\'' :: _ =>
          (readText steps chars).map fun (text, rest) => (.text text, rest)
      | 't' :: 'r' :: 'u' :: 'e' :: rest => some (.bool true, rest)
      | 'f' :: 'a' :: 'l' :: 's' :: 'e' :: rest => some (.bool false, rest)
      | '[' :: rest =>
          match nesting with
          | 0 => none
          | nesting + 1 =>
              (readElements (readValue steps nesting) steps steps [] rest).map
                fun (elements, rest) => (.array elements, rest)
      | '\x7b' :: rest =>
          match nesting with
          | 0 => none
          | nesting + 1 =>
              match skipBlanks rest with
              | '\x7d' :: rest => some (.table [], rest)
              | rest =>
                  (readPairs (readValue steps nesting) steps steps [] rest).map
                    fun (entries, rest) => (.table (toEntries entries), rest)
      | _ => readNumber chars

/-! ## Files -/

/-- A file that is being read: its entries so far and the table that keys belong to. -/
structure Draft where
  entries : Entries := []
  current : List String := []

/-- Reads the path of a header up to its closing brackets. -/
def readHeader (steps : Nat) (closing : List Char) (chars : List Char) :
    Option (List String × List Char) := do
  let (keys, rest) ← readKey steps keyLimit chars
  if closing.isPrefixOf rest then some (keys, rest.drop closing.length) else none

/-- Begins the table, or the table of a list, that a header names. -/
def Draft.begin (draft : Draft) (keys : List String)
    (change : String → Entries → Option Entries) : Option Draft := do
  let name ← keys.getLast?
  let entries ← changeAt draft.entries keys.dropLast (change name)
  return { entries, current := keys }

/-- Reads what a line holds, blanks at its beginning excepted: nothing, a header or a pair. -/
def readEntry (steps : Nat) (draft : Draft) (chars : List Char) :
    Option (Draft × List Char) :=
  match chars with
  | '[' :: '[' :: rest => do
      let (keys, rest) ← readHeader steps [']', ']'] rest
      return (← draft.begin keys openRow, rest)
  | '[' :: rest => do
      let (keys, rest) ← readHeader steps [']'] rest
      return (← draft.begin keys openTable, rest)
  | [] | '#' :: _ | '\n' :: _ | '\r' :: _ => some (draft, chars)
  | _ => do
      let (keys, rest) ← readKey steps keyLimit chars
      let rest ← readChar '=' (skipBlanks rest)
      let (value, rest) ← readValue steps nestingLimit (skipBlanks rest)
      let name ← keys.getLast?
      let entries ← changeAt draft.entries draft.current fun entries =>
        addKey entries true keys.dropLast name value
      return ({ draft with entries }, rest)

/-- Reads the lines of a file. -/
def readFile (steps : Nat) : Nat → Draft → List Char → Option Draft
  | 0, _, _ => none
  | turns + 1, draft, chars =>
      match readEntry steps draft (skipBlanks chars) with
      | none => none
      | some (draft, rest) =>
          match readLineEnd rest with
          | none => none
          | some [] => some draft
          | some rest => readFile steps turns draft rest

/-- The table that a file denotes; a byte order mark at its beginning does not count. -/
def parse (file : String) : Option (List (String × Value)) :=
  let chars :=
    match file.toList with
    | char :: rest => if char.toNat = 0xFEFF then rest else char :: rest
    | [] => []
  let steps := chars.length + 1
  (readFile steps (steps + 1) {} chars).map fun draft => toEntries draft.entries

end ChainGateway.Toml
