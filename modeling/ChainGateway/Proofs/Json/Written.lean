import ChainGateway.Json.Value

/-!
# The written form of a value

A value is written by putting one part after the other behind an output that is held in reverse.
What is written does not depend on the output so far (`Value.write_append`), so the form of a list
or an object can be told from the forms of its contents (`Value.chars_array`, `Value.chars_object`).

The form is compact: outside of its texts it has no blanks (`Value.isCompact_chars`).  What stands
outside is told by a scan that knows whether it is within quote marks and whether a backslash has
just been passed.  A part whose scan begins and ends outside can be followed by any other part
(`IsCompact.append`), so compactness goes through a value part by part.
-/

namespace ChainGateway.Json

open Decimal Text

theorem push_eq (out chars : List Char) : push out chars = chars.reverse ++ out :=
  List.reverseAux_eq

/-! ## The parts of lists and objects -/

mutual

theorem Value.write_append : ∀ (value : Value) (out : List Char),
    value.write out = value.write [] ++ out
  | .null, out => by simp [Value.write, push_eq]
  | .bool true, out => by simp [Value.write, push_eq]
  | .bool false, out => by simp [Value.write, push_eq]
  | .number number, out => by simp [Value.write, push_eq]
  | .text text, out => by simp [Value.write, push_eq]
  | .array [], out => by simp [Value.write, push_eq]
  | .array (element :: elements), out => by
      simp only [Value.write]
      rw [writeElements_append elements, Value.write_append element ('[' :: out),
        writeElements_append elements (element.write ['[']), Value.write_append element ['[']]
      simp
  | .object [], out => by simp [Value.write, push_eq]
  | .object ((name, value) :: members), out => by
      simp only [Value.write, push_eq]
      rw [writeMembers_append members, Value.write_append value (':' :: _),
        writeMembers_append members (value.write (':' :: ((textChars name).reverse ++ ['\x7b']))),
        Value.write_append value (':' :: ((textChars name).reverse ++ ['\x7b']))]
      simp

theorem writeElements_append : ∀ (elements : List Value) (out : List Char),
    writeElements out elements = writeElements [] elements ++ out
  | [], out => by simp [writeElements]
  | element :: elements, out => by
      simp only [writeElements]
      rw [writeElements_append elements, Value.write_append element (',' :: out),
        writeElements_append elements (element.write [',']), Value.write_append element [',']]
      simp

theorem writeMembers_append : ∀ (members : List (String × Value)) (out : List Char),
    writeMembers out members = writeMembers [] members ++ out
  | [], out => by simp [writeMembers]
  | (name, value) :: members, out => by
      simp only [writeMembers, push_eq]
      rw [writeMembers_append members, Value.write_append value (':' :: _),
        writeMembers_append members (value.write (':' :: ((textChars name).reverse ++ [',']))),
        Value.write_append value (':' :: ((textChars name).reverse ++ [',']))]
      simp

end

/-- A member of an object: its name and its value with a colon between them. -/
def memberChars (member : String × Value) : List Char :=
  textChars member.1 ++ ':' :: member.2.chars

theorem reverse_writeElements (elements : List Value) (out : List Char) :
    (writeElements out elements).reverse =
      out.reverse ++ elements.flatMap fun element => ',' :: element.chars := by
  induction elements generalizing out with
  | nil => simp [writeElements]
  | cons element elements ih =>
      rw [writeElements, ih, Value.write_append]
      simp [Value.chars]

theorem reverse_writeMembers (members : List (String × Value)) (out : List Char) :
    (writeMembers out members).reverse =
      out.reverse ++ members.flatMap fun member => ',' :: memberChars member := by
  induction members generalizing out with
  | nil => simp [writeMembers]
  | cons member members ih =>
      rw [writeMembers, ih, Value.write_append, push_eq]
      simp [Value.chars, memberChars]

/-- Items joined by a separator: all but the first come after one. -/
theorem intercalate_cons {α : Type} (separator : α) (item : List α) (items : List (List α)) :
    [separator].intercalate (item :: items) =
      item ++ items.flatMap fun item => separator :: item := by
  induction items generalizing item with
  | nil => simp [List.intercalate]
  | cons next items ih =>
      have hnext := ih next
      rw [List.flatMap_cons, List.cons_append, ← hnext]
      simp [List.intercalate]

theorem Value.chars_array (elements : List Value) :
    (Value.array elements).chars =
      '[' :: ([','].intercalate (elements.map Value.chars) ++ [']']) := by
  cases elements with
  | nil => rfl
  | cons element elements =>
      rw [List.map_cons, intercalate_cons, List.flatMap_map]
      simp only [Value.chars, Value.write, List.reverse_cons, reverse_writeElements]
      rw [Value.write_append]
      simp

theorem Value.chars_object (members : List (String × Value)) :
    (Value.object members).chars =
      '\x7b' :: ([','].intercalate (members.map memberChars) ++ ['\x7d']) := by
  cases members with
  | nil => rfl
  | cons member members =>
      rw [List.map_cons, intercalate_cons, List.flatMap_map]
      simp only [Value.chars, Value.write, List.reverse_cons, reverse_writeMembers, push_eq]
      rw [Value.write_append]
      simp [Value.chars, memberChars]

/-! ## Exact values -/

/-- The value holds no floating-point number. -/
inductive Value.IsExact : Value → Prop
  | null : IsExact .null
  | bool (value : Bool) : IsExact (.bool value)
  | integer (value : Int) : IsExact (.number (.integer value))
  | text (value : String) : IsExact (.text value)
  | array {elements : List Value} (helements : ∀ element ∈ elements, element.IsExact) :
      IsExact (.array elements)
  | object {members : List (String × Value)} (hmembers : ∀ member ∈ members, member.2.IsExact) :
      IsExact (.object members)

/-! ## Outside of the texts -/

/-- Where a scan of a document stands with respect to its texts. -/
inductive Place where
  | outside
  | inside
  /-- Within a text and behind a backslash. -/
  | escaped
  deriving DecidableEq

/-- Where the scan stands after a character. -/
def Place.after : Place → Char → Place
  | .outside, char => if char = '"' then .inside else .outside
  | .inside, char =>
      if char = '"' then .outside else if char = '\\' then .escaped else .inside
  | .escaped, _ => .inside

/-- The characters that the scan meets outside of the texts. -/
def bareChars : Place → List Char → List Char
  | _, [] => []
  | .outside, char :: chars => char :: bareChars (Place.after .outside char) chars
  | place, char :: chars => bareChars (place.after char) chars

/-- May the character stand between two parts of a document without a meaning of its own? -/
def IsBlankChar (char : Char) : Prop :=
  char = ' ' ∨ char = '\n' ∨ char = '\r' ∨ char = '\t'

/-- All texts are closed, and there are no blanks outside of them. -/
def IsCompact (chars : List Char) : Prop :=
  chars.foldl Place.after .outside = .outside ∧
    ∀ char ∈ bareChars .outside chars, ¬ IsBlankChar char

theorem bareChars_append (place : Place) (first second : List Char) :
    bareChars place (first ++ second) =
      bareChars place first ++ bareChars (first.foldl Place.after place) second := by
  induction first generalizing place with
  | nil => simp [bareChars]
  | cons char chars ih => cases place <;> simp [bareChars, ih]

theorem IsCompact.append {first second : List Char} (hfirst : IsCompact first)
    (hsecond : IsCompact second) : IsCompact (first ++ second) := by
  refine ⟨by rw [List.foldl_append, hfirst.1, hsecond.1], ?_⟩
  rw [bareChars_append, hfirst.1]
  intro char hchar
  rcases List.mem_append.mp hchar with hchar | hchar
  · exact hfirst.2 char hchar
  · exact hsecond.2 char hchar

theorem isCompact_nil : IsCompact [] :=
  ⟨rfl, by simp [bareChars]⟩

theorem IsCompact.flatMap {α : Type} {parts : List α} {chars : α → List Char}
    (hparts : ∀ part ∈ parts, IsCompact (chars part)) : IsCompact (parts.flatMap chars) := by
  induction parts with
  | nil => exact isCompact_nil
  | cons part parts ih =>
      rw [List.forall_mem_cons] at hparts
      rw [List.flatMap_cons]
      exact hparts.1.append (ih hparts.2)

theorem isCompact_singleton {char : Char} (hquote : char ≠ '"') (hblank : ¬ IsBlankChar char) :
    IsCompact [char] :=
  ⟨by simp [Place.after, hquote], by simpa [bareChars] using hblank⟩

/-- Characters that are neither quote marks nor blanks. -/
theorem isCompact_of_forall {chars : List Char}
    (hchars : ∀ char ∈ chars, char ≠ '"' ∧ ¬ IsBlankChar char) : IsCompact chars := by
  have hcompact : IsCompact (chars.flatMap fun char => [char]) :=
    IsCompact.flatMap fun char hchar =>
      isCompact_singleton (hchars char hchar).1 (hchars char hchar).2
  rwa [List.flatMap_singleton'] at hcompact


/-! ## Compact parts -/

theorem hexDigit_plain : ∀ digit < 16, hexDigit digit ≠ '"' ∧ hexDigit digit ≠ '\\' := by
  decide

/-- Within a text, a character is passed without leaving the text. -/
theorem scan_escapeChar (char : Char) :
    (escapeChar char).foldl Place.after .inside = .inside ∧
      bareChars .inside (escapeChar char) = [] := by
  unfold escapeChar
  repeat' split
  all_goals try exact ⟨rfl, rfl⟩
  · next hlt =>
      have hhigh := hexDigit_plain (char.toNat / 16) (by omega)
      have hlow := hexDigit_plain (char.toNat % 16) (by omega)
      simp [bareChars, Place.after, hhigh, hlow]
  · next hquote hbackslash _ _ _ _ _ _ => simp [bareChars, Place.after, hquote, hbackslash]

theorem scan_flatMap_escapeChar (chars : List Char) :
    (chars.flatMap escapeChar).foldl Place.after .inside = .inside ∧
      bareChars .inside (chars.flatMap escapeChar) = [] := by
  induction chars with
  | nil => exact ⟨rfl, rfl⟩
  | cons char chars ih =>
      have hchar := scan_escapeChar char
      rw [List.flatMap_cons, List.foldl_append, bareChars_append, hchar.1, hchar.2]
      exact ih

theorem isCompact_textChars (text : String) : IsCompact (textChars text) := by
  have hscan := scan_flatMap_escapeChar text.toList
  have hbare : bareChars .outside (textChars text) = ['"'] := by
    show '"' :: bareChars .inside (text.toList.flatMap escapeChar ++ ['"']) = ['"']
    rw [bareChars_append, hscan.1, hscan.2]
    rfl
  refine ⟨?_, ?_⟩
  · show (text.toList.flatMap escapeChar ++ ['"']).foldl Place.after .inside = .outside
    rw [List.foldl_append, hscan.1]
    rfl
  · rw [hbare]
    simp [IsBlankChar]

theorem digitChar_plain : ∀ digit < 10,
    digitChar digit ≠ '"' ∧ digitChar digit ≠ ' ' ∧ digitChar digit ≠ '\n' ∧
      digitChar digit ≠ '\r' ∧ digitChar digit ≠ '\t' := by
  decide

theorem isCompact_digit {digit : Nat} (hdigit : digit < 10) : IsCompact [digitChar digit] := by
  have hplain := digitChar_plain digit hdigit
  exact isCompact_singleton hplain.1 (by simp [IsBlankChar, hplain])

theorem isCompact_digits (number : Nat) : IsCompact (digits number) := by
  induction number using digits.induct with
  | case1 number hlt =>
      rw [digits, if_pos hlt]
      exact isCompact_digit hlt
  | case2 number hge ih =>
      rw [digits, if_neg hge]
      exact ih.append (isCompact_digit (by omega))

theorem isCompact_integerChars (value : Int) : IsCompact (integerChars value) := by
  match value with
  | .ofNat number => exact isCompact_digits number
  | .negSucc number =>
      exact (isCompact_singleton (by decide) (by simp [IsBlankChar])).append
        (isCompact_digits (number + 1))

/-- Compact parts with marks around and between them. -/
theorem isCompact_bracketed {opening closing : Char} {parts : List (List Char)}
    (hopening : IsCompact [opening]) (hclosing : IsCompact [closing])
    (hparts : ∀ part ∈ parts, IsCompact part) :
    IsCompact (opening :: ([','].intercalate parts ++ [closing])) := by
  have hcomma : IsCompact [','] := isCompact_singleton (by decide) (by simp [IsBlankChar])
  have hjoined : IsCompact ([','].intercalate parts) := by
    match parts with
    | [] => exact isCompact_nil
    | part :: parts =>
        rw [List.forall_mem_cons] at hparts
        rw [intercalate_cons]
        exact hparts.1.append
          (IsCompact.flatMap fun next hnext => hcomma.append (hparts.2 next hnext))
  exact hopening.append (hjoined.append hclosing)

/-- A value without floating-point numbers is written without blanks between its parts. -/
theorem Value.isCompact_chars {value : Value} (hexact : value.IsExact) :
    IsCompact value.chars := by
  induction hexact with
  | null => exact isCompact_of_forall (by simp [Value.chars, Value.write, push, IsBlankChar])
  | bool value =>
      cases value with
      | true => exact isCompact_of_forall (by simp [Value.chars, Value.write, push, IsBlankChar])
      | false => exact isCompact_of_forall (by simp [Value.chars, Value.write, push, IsBlankChar])
  | integer value =>
      simpa [Value.chars, Value.write, push_eq, Number.chars] using isCompact_integerChars value
  | text value => simpa [Value.chars, Value.write, push_eq] using isCompact_textChars value
  | array helements ih =>
      rw [Value.chars_array]
      refine isCompact_bracketed (isCompact_singleton (by decide) (by simp [IsBlankChar]))
        (isCompact_singleton (by decide) (by simp [IsBlankChar])) fun part hpart => ?_
      obtain ⟨element, helement, rfl⟩ := List.mem_map.mp hpart
      exact ih element helement
  | object hmembers ih =>
      rw [Value.chars_object]
      refine isCompact_bracketed (isCompact_singleton (by decide) (by simp [IsBlankChar]))
        (isCompact_singleton (by decide) (by simp [IsBlankChar])) fun part hpart => ?_
      obtain ⟨member, hmember, rfl⟩ := List.mem_map.mp hpart
      -- the name may hold blanks, but as part of a text
      have hcolon : IsCompact [':'] := isCompact_singleton (by decide) (by simp [IsBlankChar])
      exact (isCompact_textChars member.1).append (hcolon.append (ih member hmember))

end ChainGateway.Json
