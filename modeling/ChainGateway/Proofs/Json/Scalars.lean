import ChainGateway.Json.NumberText
import ChainGateway.Json.QuotedText
import ChainGateway.Proofs.Text.Utf8

/-!
# Texts and integers read back

What a text or an integer is written as is read back, whatever follows it.

A text is read character by character.  Each character is written either after a backslash or as
itself, and there is one lemma for either form (`readChars_escape`, `readChars_plain`); the reader
takes one step for each, so a text needs as many steps as it has characters.

The digits of an integer are gathered from the left, so that the digits of a number leave the reader
with that number (`appendDigits_digits`).  An integer ends where no octet follows that would
continue it (`EndsNumber`).
-/

namespace ChainGateway.Json

open Decimal Text

/-! ## Octets of characters -/

theorem encodeChars_append (first second : List Char) :
    Utf8.encodeChars (first ++ second) = Utf8.encodeChars first ++ Utf8.encodeChars second :=
  List.flatMap_append

theorem encodeChars_cons (char : Char) (chars : List Char) :
    Utf8.encodeChars (char :: chars) = Utf8.encodeChar char ++ Utf8.encodeChars chars :=
  List.flatMap_cons

/-- The first octet of a character is its code if it belongs to the basic alphabet, and outside
of it otherwise. -/
theorem exists_lead (char : Char) :
    ∃ lead trail, Utf8.encodeChar char = lead :: trail ∧
      (lead.toNat = char.toNat ∨ 0x80 ≤ char.toNat ∧ 0x80 ≤ lead.toNat) := by
  have hscalar := Utf8.isScalar char
  unfold Utf8.encodeChar
  dsimp only
  split
  · next hone => exact ⟨_, [], rfl, Or.inl (Utf8.toNat_toUInt8_of_lt (by omega))⟩
  · split
    · exact ⟨_, _, rfl, Or.inr ⟨by omega, by rw [Utf8.toNat_toUInt8_of_lt (by omega)]; omega⟩⟩
    · split
      · exact ⟨_, _, rfl, Or.inr ⟨by omega, by rw [Utf8.toNat_toUInt8_of_lt (by omega)]; omega⟩⟩
      · exact ⟨_, _, rfl, Or.inr ⟨by omega, by rw [Utf8.toNat_toUInt8_of_lt (by omega)]; omega⟩⟩

/-! ## One character of a text -/

variable {steps : Nat} {done : List Char} {rest : Octets}

theorem readChars_escape {char : Char} {tail : Octets}
    (hescape : readEscape tail = .ok (char, rest)) :
    readChars (steps + 1) done ('\\'.toUInt8 :: tail) = readChars steps (char :: done) rest := by
  rw [readChars, if_neg (by decide), if_pos rfl, hescape]

theorem readChars_plain {char : Char} (hquote : char ≠ '"') (hbackslash : char ≠ '\\')
    (hprinted : 0x20 ≤ char.toNat) :
    readChars (steps + 1) done (Utf8.encodeChar char ++ rest) =
      readChars steps (char :: done) rest := by
  obtain ⟨lead, trail, hchar, hlead⟩ := exists_lead char
  have hnext := Utf8.next_encodeChar char rest
  rw [hchar] at hnext ⊢
  have hne : ∀ other : Char, other.toNat < 0x80 → char ≠ other → lead ≠ other.toUInt8 := by
    rintro other hother hne rfl
    have hcode : other.toUInt8.toNat = other.toNat := by
      rw [Char.toUInt8, UInt32.toNat_toUInt8]
      exact Nat.mod_eq_of_lt (Nat.lt_trans hother (by decide))
    rcases hlead with hlead | hlead
    · exact hne (Char.toNat_inj.mp (hlead.symm.trans hcode))
    · omega
  rw [List.cons_append, readChars, if_neg (hne '"' (by decide) hquote),
    if_neg (hne '\\' (by decide) hbackslash), if_neg (by omega)]
  rw [List.cons_append] at hnext
  rw [hnext]

theorem hexUnit?_control : ∀ code < 0x20,
    hexUnit? '0'.toUInt8 '0'.toUInt8 (octetOf (hexDigit (code / 16)))
      (octetOf (hexDigit (code % 16))) = some code := by
  decide

theorem isBasic_hexDigit : ∀ digit < 16, IsBasic (hexDigit digit) := by
  unfold IsBasic
  decide

/-- A control character is read from its code in four hexadecimal digits. -/
theorem readEscape_control {char : Char} (hcontrol : char.toNat < 0x20) :
    readEscape ('u'.toUInt8 :: '0'.toUInt8 :: '0'.toUInt8 ::
      octetOf (hexDigit (char.toNat / 16)) :: octetOf (hexDigit (char.toNat % 16)) :: rest) =
      .ok (char, rest) := by
  have hunit := hexUnit?_control char.toNat hcontrol
  have htrailing : isTrailing char.toNat = false := by
    rw [isTrailing, Bool.and_eq_false_iff, decide_eq_false_iff_not]
    omega
  have hleading : isLeading char.toNat = false := by
    rw [isLeading, Bool.and_eq_false_iff, decide_eq_false_iff_not]
    omega
  show readUnits _ = _
  rw [readUnits, readUnit, hunit]
  simp only [bind, Except.bind, htrailing, hleading, Char.ofNat_toNat]
  rfl

/-- A character is read from the form it has within a text. -/
theorem readChars_escapeChar (char : Char) :
    readChars (steps + 1) done (Utf8.encodeChars (escapeChar char) ++ rest) =
      readChars steps (char :: done) rest := by
  have hnamed : ∀ {code}, char.toNat = code → Char.ofNat code = char := by
    rintro code rfl
    exact Char.ofNat_toNat char
  -- seven characters have an escape by name, in the order the writer asks for them
  unfold escapeChar
  split
  · next hquote => subst hquote; exact readChars_escape rfl
  split
  · next hbackslash => subst hbackslash; exact readChars_escape rfl
  split
  · next hcode => rw [← hnamed hcode]; exact readChars_escape rfl
  split
  · next htab => subst htab; exact readChars_escape rfl
  split
  · next hline => subst hline; exact readChars_escape rfl
  split
  · next hcode => rw [← hnamed hcode]; exact readChars_escape rfl
  split
  · next hreturn => subst hreturn; exact readChars_escape rfl
  split
  · next hcontrol =>
      -- the other control characters are written by their code
      have hhigh := isBasic_hexDigit (char.toNat / 16) (by omega)
      have hlow := isBasic_hexDigit (char.toNat % 16) (by omega)
      simp only [encodeChars_cons, Utf8.encodeChar_of_isBasic hhigh,
        Utf8.encodeChar_of_isBasic hlow]
      exact readChars_escape (readEscape_control hcontrol)
  · next hquote hbackslash _ _ _ _ _ hprinted =>
      -- everything else stands for itself
      rw [encodeChars_cons, List.append_assoc]
      exact readChars_plain hquote hbackslash (by omega)

/-! ## Texts -/

theorem readChars_flatMap {chars : List Char} (hsteps : chars.length < steps) :
    readChars steps done
        (Utf8.encodeChars (chars.flatMap escapeChar) ++ '"'.toUInt8 :: rest) =
      .ok (String.ofList (done.reverse ++ chars), rest) := by
  induction chars generalizing steps done with
  | nil =>
      match steps with
      | steps + 1 => rw [List.append_nil]; rfl
  | cons char chars ih =>
      match steps with
      | steps + 1 =>
          rw [List.length_cons] at hsteps
          rw [List.flatMap_cons, encodeChars_append, List.append_assoc, readChars_escapeChar,
            ih (by omega)]
          simp

/-- The octets of a text behind its opening quote. -/
def textOctets (text : String) : Octets :=
  Utf8.encodeChars (text.toList.flatMap escapeChar) ++ ['"'.toUInt8]

theorem encodeChars_textChars (text : String) :
    Utf8.encodeChars (textChars text) = '"'.toUInt8 :: textOctets text := by
  rw [textChars, encodeChars_cons, encodeChars_append]
  rfl

theorem length_encodeChars (chars : List Char) :
    chars.length ≤ (Utf8.encodeChars chars).length := by
  induction chars with
  | nil => exact Nat.le_refl 0
  | cons char chars ih =>
      obtain ⟨lead, trail, hchar, -⟩ := exists_lead char
      rw [encodeChars_cons, hchar, List.length_append, List.length_cons, List.length_cons]
      omega

theorem length_flatMap_escapeChar (chars : List Char) :
    chars.length ≤ (chars.flatMap escapeChar).length := by
  induction chars with
  | nil => exact Nat.le_refl 0
  | cons char chars ih =>
      have hchar : 0 < (escapeChar char).length := by
        unfold escapeChar
        repeat' split
        all_goals exact Nat.succ_pos _
      rw [List.flatMap_cons, List.length_append, List.length_cons]
      omega

/-- A text is read back from behind its opening quote. -/
theorem readChars_textOctets {text : String} (hsteps : (textOctets text).length ≤ steps) :
    readChars steps [] (textOctets text ++ rest) = .ok (text, rest) := by
  have hchars := length_encodeChars (text.toList.flatMap escapeChar)
  have hescaped := length_flatMap_escapeChar text.toList
  rw [textOctets, List.length_append, List.length_singleton] at hsteps
  rw [textOctets, List.append_assoc, List.singleton_append, readChars_flatMap (by omega)]
  simp

/-! ## Integers -/

/-- Nothing follows that would continue a number. -/
def EndsNumber (rest : Octets) : Prop :=
  ∀ octet ∈ rest.head?,
    isDigit octet = false ∧ octet ≠ '.'.toUInt8 ∧ isExponentMark octet = false

theorem isBasic_digitChar : ∀ digit < 10, IsBasic (digitChar digit) := by
  unfold IsBasic
  decide

theorem digit_octetOf : ∀ digit < 10,
    isDigit (octetOf (digitChar digit)) = true ∧
      digitValue (octetOf (digitChar digit)) = digit := by
  decide

theorem ne_of_isDigit {octet : UInt8} {char : Char} (hdigit : isDigit octet = true)
    (hchar : isDigit char.toUInt8 = false) : octet ≠ char.toUInt8 := by
  rintro rfl
  rw [hdigit] at hchar
  cases hchar

theorem isBlank_of_isDigit {octet : UInt8} (hdigit : isDigit octet = true) :
    isBlank octet = false := by
  have hspace : octet ≠ ' '.toUInt8 := ne_of_isDigit hdigit (by decide)
  have hline : octet ≠ '\n'.toUInt8 := ne_of_isDigit hdigit (by decide)
  have hreturn : octet ≠ '\r'.toUInt8 := ne_of_isDigit hdigit (by decide)
  have htab : octet ≠ '\t'.toUInt8 := ne_of_isDigit hdigit (by decide)
  simp only [isBlank, hspace, hline, hreturn, htab, decide_false, Bool.or_false]

/-- The octets of the digits of a number. -/
def digitOctets (number : Nat) : Octets :=
  Utf8.encodeChars (digits number)

theorem digitOctets_of_lt {number : Nat} (hlt : number < 10) :
    digitOctets number = [octetOf (digitChar number)] := by
  rw [digitOctets, digits, if_pos hlt, encodeChars_cons,
    Utf8.encodeChar_of_isBasic (isBasic_digitChar number hlt)]
  rfl

theorem digitOctets_of_ge {number : Nat} (hge : ¬ number < 10) :
    digitOctets number = digitOctets (number / 10) ++ [octetOf (digitChar (number % 10))] := by
  rw [digitOctets, digits, if_neg hge, encodeChars_append, encodeChars_cons,
    Utf8.encodeChar_of_isBasic (isBasic_digitChar _ (by omega))]
  rfl

/-- The digits of a number make up that number. -/
theorem appendDigits_digits {bound number : Nat} (hbound : number ≤ bound) (rest : Octets) :
    appendDigits bound 0 0 (digitOctets number ++ rest) =
      appendDigits bound number (digitOctets number).length rest := by
  induction number using digits.induct generalizing rest with
  | case1 number hlt =>
      have hdigit := digit_octetOf number hlt
      rw [digitOctets_of_lt hlt, List.singleton_append, appendDigits, hdigit.2,
        if_pos ⟨hdigit.1, by omega⟩]
      simp
  | case2 number hge ih =>
      have hdigit := digit_octetOf (number % 10) (by omega)
      rw [digitOctets_of_ge hge, List.append_assoc, ih (by omega), List.singleton_append,
        appendDigits, hdigit.2, if_pos ⟨hdigit.1, by omega⟩, List.length_append]
      congr 1
      omega

theorem appendDigits_of_startsWithDigit {bound number count : Nat}
    (hdigit : startsWithDigit rest = false) :
    appendDigits bound number count rest = (number, count, rest) := by
  match rest with
  | [] => rfl
  | octet :: rest =>
      have hoctet : isDigit octet = false := hdigit
      rw [appendDigits, if_neg (by simp [hoctet])]

theorem startsWithDigit_of_endsNumber (hends : EndsNumber rest) :
    startsWithDigit rest = false := by
  match rest with
  | [] => rfl
  | octet :: rest => exact (hends octet rfl).1

theorem readIntegerEnd_of_endsNumber {negative : Bool} {number : Nat} (hends : EndsNumber rest) :
    readIntegerEnd negative number rest = finishInteger negative number rest := by
  match rest with
  | [] => rfl
  | octet :: rest =>
      obtain ⟨-, hpoint, hmark⟩ := hends octet rfl
      simp [readIntegerEnd, hpoint, hmark]

/-- The first digit of a number other than zero is not zero. -/
theorem exists_first_digit {number : Nat} (hpos : 0 < number) :
    ∃ digit tail, digitOctets number = octetOf (digitChar digit) :: tail ∧
      0 < digit ∧ digit < 10 := by
  induction number using digits.induct with
  | case1 number hlt => exact ⟨number, [], digitOctets_of_lt hlt, hpos, hlt⟩
  | case2 number hge ih =>
      obtain ⟨digit, tail, hdigits, hdigit⟩ := ih (by omega)
      exact ⟨digit, tail ++ [octetOf (digitChar (number % 10))],
        by rw [digitOctets_of_ge hge, hdigits]; rfl, hdigit⟩

theorem exists_lead_digit (number : Nat) :
    ∃ octet tail, digitOctets number = octet :: tail ∧ isDigit octet = true := by
  rcases Nat.eq_zero_or_pos number with rfl | hpos
  · exact ⟨_, [], digitOctets_of_lt (by omega), (digit_octetOf 0 (by omega)).1⟩
  · obtain ⟨digit, tail, hdigits, -, hlt⟩ := exists_first_digit hpos
    exact ⟨_, tail, hdigits, (digit_octetOf digit hlt).1⟩

theorem octetOf_digitChar_ne_zero : ∀ digit < 10, 0 < digit →
    octetOf (digitChar digit) ≠ '0'.toUInt8 := by
  decide

theorem readNumber_digits {negative : Bool} {number : Nat} (hbound : number ≤ greatestSignificand)
    (hends : EndsNumber rest) :
    readNumber negative (digitOctets number ++ rest) = finishInteger negative number rest := by
  rw [← readIntegerEnd_of_endsNumber hends]
  rcases Nat.eq_zero_or_pos number with rfl | hpos
  · -- zero is a single digit, and no digit may follow it
    rw [digitOctets_of_lt (by omega), List.singleton_append]
    match rest with
    | [] => rfl
    | octet :: rest =>
        show (if isDigit octet then _ else _) = _
        rw [(hends octet rfl).1]
        rfl
  · -- otherwise the first digit is not zero, and the others are appended to it
    have hstarts := startsWithDigit_of_endsNumber hends
    have happend := appendDigits_digits hbound rest
    obtain ⟨digit, tail, hdigits, hdigit, hlt⟩ := exists_first_digit hpos
    have hvalue := digit_octetOf digit hlt
    have hgreatest : 10 ≤ greatestSignificand := by decide
    rw [appendDigits_of_startsWithDigit hstarts, hdigits, List.cons_append, appendDigits, hvalue.2,
      if_pos ⟨hvalue.1, by omega⟩, Nat.zero_mul, Nat.zero_add, Nat.zero_add] at happend
    rw [hdigits, List.cons_append]
    unfold readNumber
    dsimp only
    rw [if_neg (octetOf_digitChar_ne_zero digit hlt hdigit), if_pos hvalue.1, hvalue.2, happend]
    dsimp only
    rw [hstarts]
    rfl

/-- An integer that a word of 64 bits holds, signed if it is negative. -/
def IsWord (value : Int) : Prop :=
  -(UInt64.size / 2 : Nat) ≤ value ∧ value < UInt64.size

/-- A natural number is read back. -/
theorem readNumber_ofNat {number : Nat} (hword : IsWord number) (hends : EndsNumber rest) :
    readNumber false (digitOctets number ++ rest) = .ok (.integer number, rest) := by
  have hbound : number ≤ greatestSignificand := by
    simp only [IsWord, UInt64.size] at hword
    simp only [greatestSignificand, UInt64.size]
    omega
  rw [readNumber_digits hbound hends]
  rfl

/-- A negative integer is read back from behind its sign. -/
theorem readNumber_negSucc {number : Nat} (hword : IsWord (.negSucc number))
    (hends : EndsNumber rest) :
    readNumber true (digitOctets (number + 1) ++ rest) =
      .ok (.integer (.negSucc number), rest) := by
  have hhalf : number + 1 ≤ UInt64.size / 2 := by
    simp only [IsWord, UInt64.size] at hword
    simp only [UInt64.size]
    omega
  have hbound : number + 1 ≤ greatestSignificand :=
    Nat.le_trans hhalf (by simp only [greatestSignificand, UInt64.size]; omega)
  rw [readNumber_digits hbound hends, finishInteger, if_pos rfl, if_neg (by omega)]
  rfl

end ChainGateway.Json
