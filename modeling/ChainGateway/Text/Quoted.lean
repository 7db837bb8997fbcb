import ChainGateway.Text.PrintableTable
import ChainGateway.Text.Range

/-!
# Quoted text

A text quoted within an error message is set in double quotes, and the characters that would
not show are written by name or by number: the quote and the backslash after a backslash, tab
and line ends by their letters, the null character as `\0`, and characters that are not
printed, or that would attach themselves to the quote mark before them, by their hexadecimal
code point.
-/

namespace ChainGateway.Text

/-- A digit in base sixteen, in lower case. -/
def hexDigit (digit : Nat) : Char :=
  if digit < 10 then Char.ofNat (0x30 + digit) else Char.ofNat (0x61 + (digit - 10))

/-- The hexadecimal digits of a number, the most significant first and without leading
zeros. -/
def hexDigits (number : Nat) : List Char :=
  if number < 16 then [hexDigit number]
  else hexDigits (number / 16) ++ [hexDigit (number % 16)]
termination_by number
decreasing_by omega

/-- Does the character show by itself within a quoted text? -/
def isShown (char : Char) : Bool :=
  !inRanges extendingRanges char.toNat && !inRanges unprintableRanges char.toNat

/-- One character of a quoted text. -/
def quoteChar (char : Char) : List Char :=
  if char = '"' then ['\\', '"']
  else if char = '\\' then ['\\', '\\']
  else if char = '\n' then ['\\', 'n']
  else if char = '\r' then ['\\', 'r']
  else if char = '\t' then ['\\', 't']
  else if char.toNat = 0 then ['\\', '0']
  else if isShown char then [char]
  else ['\\', 'u', '\x7b'] ++ hexDigits char.toNat ++ ['\x7d']

/-- The text in double quotes. -/
def quoted (text : String) : String :=
  String.ofList (['"'] ++ text.toList.flatMap quoteChar ++ ['"'])

end ChainGateway.Text
