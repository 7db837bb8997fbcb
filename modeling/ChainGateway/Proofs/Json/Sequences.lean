import ChainGateway.Json.Schema
import ChainGateway.Proofs.Json.Scalars
import ChainGateway.Proofs.Json.Written

/-!
# Lists read back, element by element

Reading something that was written has one of two outcomes: it gives what was expected, or the
document lacks a field that it must have (`Yields`).  The latter can only happen where fields were
left out of records; then the whole reading stops with that problem, however deep it was met.

The elements of a list are written one after the other with commas between them, and they are read
one after the other, so what reading an element yields decides what reading the list yields
(`yields_readElements`).  All that is asked of an element is that it begins like a value
(`Opens`), so that it is not taken for the end of the list.
-/

namespace ChainGateway.Json

open Text

/-! ## What reading yields -/

/-- A field is missing. -/
def Problem.IsMissing (problem : Problem) : Prop :=
  ∃ name, problem = .missingField name

/-- Reading stopped because a field is missing. -/
def Stop.IsMissing (stop : Stop) : Prop :=
  stop.problem.IsMissing

/-- The outcome of reading: what was expected, with the given octets left; or nothing was
expected, and the error is one of those that say so. -/
inductive Yields {ε α : Type} (missing : ε → Prop) (rest : Octets) :
    Option α → Except ε (α × Octets) → Prop
  | read (value : α) : Yields missing rest (some value) (.ok (value, rest))
  | lacks {error : ε} (hmissing : missing error) : Yields missing rest none (.error error)

namespace Yields

variable {ε α β : Type} {missing : ε → Prop} {rest : Octets} {expected : Option α}
  {outcome : Except ε (α × Octets)}

/-- What was read is changed. -/
theorem map (hyields : Yields missing rest expected outcome) (change : α → β) :
    Yields missing rest (expected.map change)
      (outcome.map fun (value, rest) => (change value, rest)) := by
  cases hyields with
  | read value => exact read (change value)
  | lacks hmissing => exact lacks hmissing

/-- What was read is only the first part of the whole. -/
theorem bind {after : Octets} {next : α → Option β} {whole : Except ε (β × Octets)}
    (hyields : Yields missing rest expected outcome)
    (herror : ∀ error, outcome = .error error → whole = .error error)
    (hok : ∀ value, outcome = .ok (value, rest) → expected = some value →
      Yields missing after (next value) whole) :
    Yields missing after (expected.bind next) whole := by
  cases hyields with
  | read value => exact hok value rfl rfl
  | lacks hmissing =>
      rw [herror _ rfl]
      exact lacks hmissing

theorem eq_ok {value : α} (hyields : Yields missing rest (some value) outcome) :
    outcome = .ok (value, rest) := by
  cases hyields with
  | read => rfl

theorem of_eq_ok {value : α} (houtcome : outcome = .ok (value, rest)) :
    Yields missing rest (some value) outcome := by
  rw [houtcome]
  exact read value

theorem exists_error (hyields : Yields missing rest none outcome) :
    ∃ error, outcome = .error error ∧ missing error := by
  cases hyields with
  | lacks hmissing => exact ⟨_, rfl, hmissing⟩

end Yields

/-! ## Octets of values -/

/-- The octets of a value in compact form. -/
def Value.octets (value : Value) : Octets :=
  Utf8.encodeChars value.chars

/-- Octets with commas between them. -/
def joined (items : List Octets) : Octets :=
  [','.toUInt8].intercalate items

/-- Octets that come after a comma each. -/
def continued (items : List Octets) : Octets :=
  items.flatMap fun item => ','.toUInt8 :: item

theorem joined_cons (item : Octets) (items : List Octets) :
    joined (item :: items) = item ++ continued items :=
  intercalate_cons _ _ _

theorem encodeChars_intercalate (parts : List (List Char)) :
    Utf8.encodeChars ([','].intercalate parts) = joined (parts.map Utf8.encodeChars) := by
  match parts with
  | [] => rfl
  | part :: parts =>
      rw [intercalate_cons, List.map_cons, joined_cons, encodeChars_append]
      congr 1
      induction parts with
      | nil => rfl
      | cons part parts ih =>
          rw [List.flatMap_cons, List.map_cons, encodeChars_append, ih]
          rfl

theorem octets_integer (value : Int) :
    (Value.number (.integer value)).octets = Utf8.encodeChars (Decimal.integerChars value) := by
  simp [Value.octets, Value.chars, Value.write, push_eq, Number.chars]

theorem octets_text (text : String) :
    (Value.text text).octets = '"'.toUInt8 :: textOctets text := by
  simp [Value.octets, Value.chars, Value.write, push_eq, encodeChars_textChars]

theorem octets_array (elements : List Value) :
    (Value.array elements).octets =
      '['.toUInt8 :: (joined (elements.map Value.octets) ++ [']'.toUInt8]) := by
  rw [Value.octets, Value.chars_array, encodeChars_cons, encodeChars_append,
    encodeChars_intercalate, List.map_map]
  rfl

/-- The octets of a member behind the opening quote of its name. -/
def memberOctets (member : String × Value) : Octets :=
  textOctets member.1 ++ ':'.toUInt8 :: member.2.octets

theorem encodeChars_memberChars (member : String × Value) :
    Utf8.encodeChars (memberChars member) = '"'.toUInt8 :: memberOctets member := by
  rw [memberChars, encodeChars_append, encodeChars_cons, encodeChars_textChars]
  rfl

/-- The octets of members, each with the opening quote of its name. -/
def quotedMembers (members : List (String × Value)) : List Octets :=
  members.map fun member => '"'.toUInt8 :: memberOctets member

theorem joined_quotedMembers (member : String × Value) (members : List (String × Value))
    (rest : Octets) :
    joined (quotedMembers (member :: members)) ++ rest =
      '"'.toUInt8 :: (memberOctets member ++ (continued (quotedMembers members) ++ rest)) := by
  show joined (_ :: quotedMembers members) ++ _ = _
  rw [joined_cons, List.append_assoc]
  rfl

theorem continued_quotedMembers (member : String × Value) (members : List (String × Value))
    (rest : Octets) :
    continued (quotedMembers (member :: members)) ++ rest =
      ','.toUInt8 :: '"'.toUInt8 ::
        (memberOctets member ++ (continued (quotedMembers members) ++ rest)) := by
  simp [continued, quotedMembers]

theorem octets_object (members : List (String × Value)) :
    (Value.object members).octets =
      '\x7b'.toUInt8 :: (joined (quotedMembers members) ++ ['\x7d'.toUInt8]) := by
  rw [Value.octets, Value.chars_object, encodeChars_cons, encodeChars_append,
    encodeChars_intercalate, List.map_map]
  have hmembers : members.map (Utf8.encodeChars ∘ memberChars) = quotedMembers members :=
    List.map_congr_left fun member _ => encodeChars_memberChars member
  rw [hmembers]
  rfl

/-! ## What a value begins with, and what follows it -/

/-- The octets begin as a value does: neither with a blank nor with the end of a list. -/
def Opens (octets : Octets) : Prop :=
  ∃ octet tail, octets = octet :: tail ∧ isBlank octet = false ∧ octet ≠ ']'.toUInt8

theorem Opens.append {octets : Octets} (hopens : Opens octets) (rest : Octets) :
    Opens (octets ++ rest) := by
  obtain ⟨octet, tail, rfl, hopens⟩ := hopens
  exact ⟨octet, tail ++ rest, rfl, hopens⟩

theorem opens_digits (number : Nat) : Opens (digitOctets number) := by
  obtain ⟨octet, tail, hdigits, hdigit⟩ := exists_lead_digit number
  exact ⟨octet, tail, hdigits, isBlank_of_isDigit hdigit, ne_of_isDigit hdigit (by decide)⟩

/-- A value begins as it should. -/
theorem Value.opens_octets {value : Value} (hexact : value.IsExact) : Opens value.octets := by
  have hopens : ∀ (octet : UInt8) {tail : Octets}, isBlank octet = false →
      octet ≠ ']'.toUInt8 → Opens (octet :: tail) :=
    fun _ _ hblank hclosing => ⟨_, _, rfl, hblank, hclosing⟩
  cases hexact with
  | null => exact hopens 'n'.toUInt8 (by decide) (by decide)
  | bool value =>
      cases value with
      | true => exact hopens 't'.toUInt8 (by decide) (by decide)
      | false => exact hopens 'f'.toUInt8 (by decide) (by decide)
  | integer value =>
      rw [octets_integer]
      match value with
      | .ofNat magnitude => exact opens_digits magnitude
      | .negSucc magnitude => exact hopens '-'.toUInt8 (by decide) (by decide)
  | text value => rw [octets_text]; exact hopens _ (by decide) (by decide)
  | array => rw [octets_array]; exact hopens _ (by decide) (by decide)
  | object => rw [octets_object]; exact hopens _ (by decide) (by decide)

theorem endsNumber_nil : EndsNumber [] := by
  simp [EndsNumber]

/-- A number ends where a mark follows. -/
theorem endsNumber_cons {octet : UInt8} {rest : Octets}
    (hmark : octet = ','.toUInt8 ∨ octet = ']'.toUInt8 ∨ octet = '\x7d'.toUInt8) :
    EndsNumber (octet :: rest) := by
  intro next hnext
  obtain rfl : octet = next := Option.some.inj hnext
  rcases hmark with rfl | rfl | rfl <;> decide

theorem skipBlanks_cons {octet : UInt8} {rest : Octets} (hblank : isBlank octet = false) :
    skipBlanks (octet :: rest) = octet :: rest := by
  rw [skipBlanks, List.dropWhile_cons, hblank]
  rfl

/-! ## The elements of a list -/

theorem nextElement_first {octets : Octets} (hopens : Opens octets) :
    nextElement true octets = .ok (true, octets) := by
  obtain ⟨octet, tail, rfl, hblank, hclosing⟩ := hopens
  rw [nextElement, skipBlanks_cons hblank]
  dsimp only
  rw [if_neg hclosing, if_pos rfl]

theorem nextElement_later {octets : Octets} (hopens : Opens octets) :
    nextElement false (','.toUInt8 :: octets) = .ok (true, octets) := by
  obtain ⟨octet, tail, rfl, hblank, hclosing⟩ := hopens
  rw [nextElement, skipBlanks_cons (by decide)]
  dsimp only
  rw [if_neg (by decide), if_neg (by decide), if_pos rfl, skipBlanks_cons hblank]
  dsimp only
  rw [if_neg hclosing]

theorem nextElement_closing (first : Bool) (rest : Octets) :
    nextElement first (']'.toUInt8 :: rest) = .ok (false, ']'.toUInt8 :: rest) := by
  rw [nextElement, skipBlanks_cons (by decide)]
  rfl

theorem closeList_closing (rest : Octets) : closeList (']'.toUInt8 :: rest) = .ok rest := by
  rw [closeList, skipBlanks_cons (by decide)]
  rfl

/-- A number ends where other items follow or none. -/
theorem endsNumber_continued {closing : UInt8} (items : List Octets) (rest : Octets)
    (hclosing : closing = ']'.toUInt8 ∨ closing = '\x7d'.toUInt8) :
    EndsNumber (continued items ++ closing :: rest) := by
  cases items with
  | nil => exact endsNumber_cons (Or.inr hclosing)
  | cons item items => exact endsNumber_cons (Or.inl rfl)

section

variable {α β : Type} {read : Octets → Reading α} {items : List β} {written : β → Octets}
  {expected : β → Option α} {bound turns : Nat} {done : List α} {rest : Octets}

/-- Reading an item yields what is expected of it. -/
def ReadsBack (read : Octets → Reading α) (written : β → Octets) (expected : β → Option α)
    (bound : Nat) (item : β) : Prop :=
  Opens (written item) ∧
    ∀ rest, EndsNumber rest → (written item ++ rest).length < bound →
      Yields Stop.IsMissing rest (expected item) (read (written item ++ rest))

/-- The element that comes next is read, and then the others. -/
theorem yields_readElements_step {first : Bool} {item : β} {after : Octets} (before : Octets)
    (hitem : ReadsBack read written expected bound item) (hends : EndsNumber after)
    (hnext : nextElement first (before ++ (written item ++ after)) =
      .ok (true, written item ++ after))
    (hbound : (written item ++ after).length < bound)
    (hafter : ∀ value, Yields Stop.IsMissing rest
      ((items.mapM expected).map ((value :: done).reverse ++ ·))
      (readElements read turns false (value :: done) after)) :
    Yields Stop.IsMissing rest (((item :: items).mapM expected).map (done.reverse ++ ·))
      (readElements read (turns + 1) first done (before ++ (written item ++ after))) := by
  -- the list is expected exactly if its head and its tail are
  have hexpected : ((item :: items).mapM expected).map (done.reverse ++ ·) =
      (expected item).bind fun value =>
        (items.mapM expected).map ((value :: done).reverse ++ ·) := by
    rw [List.mapM_cons]
    cases expected item with
    | none => rfl
    | some value =>
        cases items.mapM expected with
        | none => rfl
        | some values => simp
  rw [readElements, hnext, hexpected]
  refine (hitem.2 after hends hbound).bind ?_ ?_
  · intro error herror
    simp only [herror]
  · intro value hvalue _
    simp only [hvalue]
    exact hafter value

theorem yields_readElements_later
    (hitems : ∀ item ∈ items, ReadsBack read written expected bound item)
    (hturns : (continued (items.map written) ++ ']'.toUInt8 :: rest).length < turns)
    (hbound : turns ≤ bound) :
    Yields Stop.IsMissing rest ((items.mapM expected).map (done.reverse ++ ·))
      (readElements read turns false done
        (continued (items.map written) ++ ']'.toUInt8 :: rest)) := by
  induction items generalizing turns done with
  | nil =>
      match turns with
      | turns + 1 =>
          show Yields _ _ _ (readElements read (turns + 1) false done (']'.toUInt8 :: rest))
          rw [readElements, nextElement_closing]
          dsimp only
          rw [closeList_closing]
          rw [List.mapM_nil]
          exact Yields.of_eq_ok (by simp [Except.map])
  | cons item items ih =>
      match turns with
      | turns + 1 =>
          rw [List.forall_mem_cons] at hitems
          have hsplit : continued ((item :: items).map written) ++ ']'.toUInt8 :: rest =
              [','.toUInt8] ++ (written item ++
                (continued (items.map written) ++ ']'.toUInt8 :: rest)) := by
            simp [continued]
          rw [hsplit] at hturns ⊢
          rw [List.singleton_append, List.length_cons, List.length_append] at hturns
          refine yields_readElements_step _ hitems.1 (endsNumber_continued _ _ (Or.inl rfl))
            (nextElement_later (hitems.1.1.append _)) (by rw [List.length_append]; omega)
            fun value => ih hitems.2 (by omega) (by omega)

/-- The elements of a list and its closing bracket are read back. -/
theorem yields_readElements
    (hitems : ∀ item ∈ items, ReadsBack read written expected bound item)
    (hbound : (joined (items.map written) ++ ']'.toUInt8 :: rest).length < bound) :
    Yields Stop.IsMissing rest (items.mapM expected)
      (readElements read bound true [] (joined (items.map written) ++ ']'.toUInt8 :: rest)) := by
  have hnil : ∀ found : Option (List α), found.map ([].reverse ++ ·) = found := by
    intro found
    cases found <;> rfl
  rw [← hnil (items.mapM expected)]
  match bound, items with
  | bound + 1, [] =>
      show Yields _ _ _ (readElements read (bound + 1) true [] (']'.toUInt8 :: rest))
      rw [readElements, nextElement_closing]
      dsimp only
      rw [closeList_closing]
      exact Yields.read []
  | bound + 1, item :: items =>
      rw [List.forall_mem_cons] at hitems
      obtain ⟨octet, tail, hwritten, -⟩ := hitems.1.1
      rw [List.map_cons, joined_cons, List.append_assoc] at hbound ⊢
      rw [List.length_append] at hbound
      -- an element takes an octet at least, so a turn is left for each that follows
      have hpos : 0 < (written item).length := by rw [hwritten]; exact Nat.succ_pos _
      exact yields_readElements_step [] hitems.1 (endsNumber_continued _ _ (Or.inl rfl))
        (nextElement_first (hitems.1.1.append _)) (by rw [List.length_append]; omega)
        fun value => yields_readElements_later hitems.2 (by omega) (by omega)

end

/-! ## The members of an object -/

theorem nextMember_first (rest : Octets) :
    nextMember true ('"'.toUInt8 :: rest) = .ok (true, rest) := by
  rw [nextMember, skipBlanks_cons (by decide)]
  rfl

theorem nextMember_later (rest : Octets) :
    nextMember false (','.toUInt8 :: '"'.toUInt8 :: rest) = .ok (true, rest) := by
  rw [nextMember, skipBlanks_cons (by decide)]
  dsimp only
  rw [if_neg (by decide), if_neg (by decide), if_pos rfl, skipBlanks_cons (by decide)]
  rfl

theorem nextMember_closing (first : Bool) (rest : Octets) :
    nextMember first ('\x7d'.toUInt8 :: rest) = .ok (false, '\x7d'.toUInt8 :: rest) := by
  rw [nextMember, skipBlanks_cons (by decide)]
  rfl

theorem closeObject_closing (rest : Octets) : closeObject ('\x7d'.toUInt8 :: rest) = .ok rest := by
  rw [closeObject, skipBlanks_cons (by decide)]
  rfl

theorem readColon_colon (rest : Octets) : readColon (':'.toUInt8 :: rest) = .ok rest := by
  rw [readColon, skipBlanks_cons (by decide)]
  rfl

end ChainGateway.Json
