import ChainGateway.Text.Ascii
import ChainGateway.Text.Utf8

/-!
# Texts of the basic alphabet

A character of the basic alphabet is written as one octet.  Of a text with no other characters the
octets can be counted and cut like its characters: whatever part of the octets is taken, it reads
back as the same part of the text (`decode?_take_encode`, `decode?_drop_encode`).  With other
characters this fails, since a cut may fall inside of one.
-/

namespace ChainGateway.Text

/-- Is this one of the first 128 characters? -/
def IsBasic (char : Char) : Prop := char.toNat < 0x80

/-- The octet of a character of the basic alphabet. -/
def octetOf (char : Char) : UInt8 := char.toNat.toUInt8

theorem toNat_octetOf {char : Char} (hbasic : IsBasic char) :
    (octetOf char).toNat = char.toNat := by
  unfold IsBasic at hbasic
  unfold octetOf
  rw [Nat.toUInt8_eq, UInt8.toNat_ofNat']
  omega

/-- Different characters of the basic alphabet have different octets. -/
theorem octetOf_eq_octetOf_iff {first second : Char} (hfirst : IsBasic first)
    (hsecond : IsBasic second) : octetOf first = octetOf second ↔ first = second := by
  rw [← UInt8.toNat_inj, toNat_octetOf hfirst, toNat_octetOf hsecond, Char.toNat_inj]

namespace Utf8

variable {char : Char} {chars : List Char} {text : String}

theorem encodeChar_of_isBasic (hbasic : IsBasic char) : encodeChar char = [octetOf char] := by
  unfold IsBasic at hbasic
  simp only [encodeChar, hbasic, if_true, octetOf]

theorem encodeChars_of_basic (hbasic : ∀ char ∈ chars, IsBasic char) :
    encodeChars chars = chars.map octetOf := by
  induction chars with
  | nil => rfl
  | cons char chars ih =>
      rw [List.forall_mem_cons] at hbasic
      have htail : encodeChars chars = chars.map octetOf := ih hbasic.2
      unfold encodeChars at htail ⊢
      rw [List.flatMap_cons, encodeChar_of_isBasic hbasic.1, htail]
      rfl

/-- The octet of a character of the basic alphabet is read as that character. -/
theorem next_octetOf (hbasic : IsBasic char) (rest : Octets) :
    next (octetOf char :: rest) = .scalar char rest := by
  have hoctet := toNat_octetOf hbasic
  unfold IsBasic at hbasic
  unfold next
  dsimp only
  rw [hoctet, if_pos hbasic, Char.ofNat_toNat]

theorem decodeLoop_map_octetOf {fuel : Nat} (hbasic : ∀ char ∈ chars, IsBasic char)
    (hfuel : chars.length ≤ fuel) (done : List Char) :
    decodeLoop none fuel done (chars.map octetOf) = some (done.reverse ++ chars) := by
  induction chars generalizing fuel done with
  | nil => cases fuel <;> simp [decodeLoop, next]
  | cons char chars ih =>
      rw [List.forall_mem_cons] at hbasic
      cases fuel with
      | zero => simp at hfuel
      | succ fuel =>
          rw [List.map_cons, decodeLoop, next_octetOf hbasic.1]
          show decodeLoop none fuel (char :: done) (chars.map octetOf) = _
          rw [ih hbasic.2 (Nat.le_of_succ_le_succ hfuel)]
          simp

theorem decode?_map_octetOf (hbasic : ∀ char ∈ chars, IsBasic char) :
    decode? (chars.map octetOf) = some (String.ofList chars) := by
  unfold decode?
  rw [List.length_map, decodeLoop_map_octetOf hbasic (Nat.le_refl _)]
  rfl

/-- The first octets of a text of the basic alphabet are the octets of its first characters. -/
theorem decode?_take_encode (hbasic : ∀ char ∈ text.toList, IsBasic char) (count : Nat) :
    decode? ((encode text).take count) = some (String.ofList (text.toList.take count)) := by
  unfold encode
  rw [encodeChars_of_basic hbasic, ← List.map_take]
  exact decode?_map_octetOf fun char hchar => hbasic char (List.mem_of_mem_take hchar)

/-- What is left without the first octets are the octets of the remaining characters. -/
theorem decode?_drop_encode (hbasic : ∀ char ∈ text.toList, IsBasic char) (count : Nat) :
    decode? ((encode text).drop count) = some (String.ofList (text.toList.drop count)) := by
  unfold encode
  rw [encodeChars_of_basic hbasic, ← List.map_drop]
  exact decode?_map_octetOf fun char hchar => hbasic char (List.mem_of_mem_drop hchar)

/-- An octet of a text of the basic alphabet is the octet of the character at its place. -/
theorem getElem?_encode_eq_some_iff (hbasic : ∀ char ∈ text.toList, IsBasic char)
    (hchar : IsBasic char) (place : Nat) :
    (encode text)[place]? = some (octetOf char) ↔ text.toList[place]? = some char := by
  unfold encode
  rw [encodeChars_of_basic hbasic, List.getElem?_map, Option.map_eq_some_iff]
  constructor
  · rintro ⟨other, hother, hoctet⟩
    have hsame := (octetOf_eq_octetOf_iff (hbasic other (List.mem_of_getElem? hother)) hchar).mp
      hoctet
    rw [hother, hsame]
  · intro hplace
    exact ⟨char, hplace, rfl⟩

end Utf8

/-! ## Letters without regard to case -/

theorem toNat_toLower (char : Char) :
    char.toLower.toNat =
      if 65 ≤ char.toNat ∧ char.toNat ≤ 90 then char.toNat + 32 else char.toNat := by
  have hbounds : char.val ≥ 'A'.val ∧ char.val ≤ 'Z'.val ↔ 65 ≤ char.toNat ∧ char.toNat ≤ 90 := by
    simp only [ge_iff_le, UInt32.le_iff_toNat_le]
    rfl
  unfold Char.toLower
  split
  · next hcapital =>
      rw [if_pos (hbounds.mp hcapital)]
      show (char.val + ('a'.val - 'A'.val)).toNat = char.toNat + 32
      have hsum : (char.val + ('a'.val - 'A'.val)).toNat = (char.toNat + 32) % 2 ^ 32 :=
        UInt32.toNat_add _ _
      have := (hbounds.mp hcapital).2
      omega
  · next hother => rw [if_neg (mt hbounds.mpr hother)]

/-- A letter in lower case is what itself and its capital fold to, and nothing else. -/
theorem toLower_eq_iff {char lower capital : Char} (hlower : 97 ≤ lower.toNat ∧ lower.toNat ≤ 122)
    (hcapital : capital.toNat + 32 = lower.toNat) :
    char.toLower = lower ↔ char = lower ∨ char = capital := by
  rw [← Char.toNat_inj, toNat_toLower, ← Char.toNat_inj, ← Char.toNat_inj]
  split <;> omega

end ChainGateway.Text
