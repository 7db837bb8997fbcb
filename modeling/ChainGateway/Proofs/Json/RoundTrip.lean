import ChainGateway.Proofs.Except
import ChainGateway.Proofs.Json.Numbers
import ChainGateway.Proofs.Json.Sequences

/-!
# Values read back

A value that was read from a document, and that holds no floating-point number, is read back from
its compact form.  Three things could stand against this, and all of them are ruled out by the
reading itself: integers too large for a word, lists and objects nested too deeply, and members that
are not in the order of their names.  A value without these is `Readable`; it is read back
(`parse_render`), and whatever is read is readable (`readable_of_readValue`).

Floating-point numbers are left out because they are rounded when they are read.
-/

namespace ChainGateway.Json

open Text

/-! ## Members in the order of their names -/

/-- The members are in the order of their names, each name once. -/
def InOrder (members : List (String × Value)) : Prop :=
  members.Pairwise fun first second => first.1 < second.1

theorem insertMember_of_forall_lt {name : String} {value : Value} {members : List (String × Value)}
    (hlast : ∀ member ∈ members, member.1 < name) :
    insertMember name value members = members ++ [(name, value)] := by
  induction members with
  | nil => rfl
  | cons member members ih =>
      rw [List.forall_mem_cons] at hlast
      have hne : name ≠ member.1 := fun heq => String.lt_irrefl _ (heq ▸ hlast.1)
      rw [insertMember, if_neg (String.lt_asymm hlast.1), if_neg hne, ih hlast.2]
      rfl

/-- Members in order stay as they are when they are inserted one after the other. -/
theorem foldl_insertMember (known : List (String × Value)) {members : List (String × Value)}
    (horder : InOrder (known ++ members)) :
    members.foldl (fun known member => insertMember member.1 member.2 known) known =
      known ++ members := by
  induction members generalizing known with
  | nil => rw [List.append_nil]; rfl
  | cons member members ih =>
      have hlast : ∀ other ∈ known, other.1 < member.1 := by
        intro other hother
        exact (List.pairwise_append.mp horder).2.2 other hother member List.mem_cons_self
      rw [List.foldl_cons, insertMember_of_forall_lt hlast,
        ih _ (by rwa [List.append_assoc, List.singleton_append]), List.append_assoc]
      rfl

theorem mem_insertMember {name : String} {value : Value} {members : List (String × Value)}
    {member : String × Value} (hmember : member ∈ insertMember name value members) :
    member = (name, value) ∨ member ∈ members := by
  induction members with
  | nil => exact Or.inl (List.mem_singleton.mp hmember)
  | cons other members ih =>
      rw [insertMember] at hmember
      split at hmember
      · exact List.mem_cons.mp hmember
      · split at hmember
        · rcases List.mem_cons.mp hmember with hmember | hmember
          · exact Or.inl hmember
          · exact Or.inr (List.mem_cons_of_mem _ hmember)
        · rcases List.mem_cons.mp hmember with rfl | hmember
          · exact Or.inr List.mem_cons_self
          · exact (ih hmember).imp_right (List.mem_cons_of_mem _)

/-- A member that is inserted keeps the members in order. -/
theorem InOrder.insertMember {name : String} {value : Value} {members : List (String × Value)}
    (horder : InOrder members) : InOrder (insertMember name value members) := by
  induction members with
  | nil => exact List.pairwise_singleton _ _
  | cons other members ih =>
      obtain ⟨hother, hmembers⟩ := List.pairwise_cons.mp horder
      rw [Json.insertMember]
      split
      · next hlt =>
          refine List.pairwise_cons.mpr ⟨fun member hmember => ?_, horder⟩
          rcases List.mem_cons.mp hmember with rfl | hmember
          · exact hlt
          · exact String.lt_trans hlt (hother member hmember)
      · split
        · next heq => exact List.pairwise_cons.mpr ⟨heq ▸ hother, hmembers⟩
        · next hlt hne =>
            refine List.pairwise_cons.mpr ⟨fun member hmember => ?_, ih hmembers⟩
            rcases mem_insertMember hmember with rfl | hmember
            · exact Decidable.byContradiction fun hnot =>
                hne (String.le_antisymm (String.not_lt.mp hnot) (String.not_lt.mp hlt))
            · exact hother member hmember

theorem lookup_cons_eq {α : Type} (key : String) (member : String × α)
    (members : List (String × α)) :
    (member :: members).lookup key =
      if key = member.1 then some member.2 else members.lookup key := by
  rw [List.lookup_cons]
  by_cases hkey : key = member.1
  · simp [hkey]
  · have hbeq : (key == member.1) = false := beq_eq_false_iff_ne.mpr hkey
    rw [hbeq, if_neg hkey]

theorem lookup_insertMember (name key : String) (value : Value) (members : List (String × Value)) :
    (insertMember name value members).lookup key =
      if key = name then some value else members.lookup key := by
  induction members with
  | nil => exact lookup_cons_eq key (name, value) []
  | cons member members ih =>
      rw [insertMember]
      split
      · exact lookup_cons_eq key (name, value) _
      · split
        · next heq =>
            rw [lookup_cons_eq, lookup_cons_eq key member, heq]
            split
            · rfl
            · rfl
        · next hne =>
            rw [lookup_cons_eq, lookup_cons_eq key member, ih]
            by_cases hkey : key = name
            · rw [if_neg (hkey ▸ hne), if_pos hkey, if_pos hkey]
            · rw [if_neg hkey, if_neg hkey]

/-- Members in order have different names. -/
theorem InOrder.lookup_eq_some_iff {members : List (String × Value)} (horder : InOrder members)
    {name : String} {value : Value} :
    members.lookup name = some value ↔ (name, value) ∈ members := by
  induction members with
  | nil => simp
  | cons member members ih =>
      obtain ⟨hfirst, hrest⟩ := List.pairwise_cons.mp horder
      rw [lookup_cons_eq, List.mem_cons]
      by_cases hname : name = member.1
      · subst hname
        have hnot : (member.1, value) ∉ members := fun hmem =>
          String.lt_irrefl _ (hfirst (member.1, value) hmem)
        rw [if_pos rfl, or_iff_left hnot]
        constructor
        · intro heq
          rw [← Option.some.inj heq]
        · intro heq
          rw [← heq]
      · have hne : (name, value) ≠ member := fun heq => hname (heq ▸ rfl)
        simp [hname, hne, ih hrest]

/-! ## Readable values -/

/-- The value is one that reading can give with lists and objects nested to the given depth:
integers fit into words, and members are in the order of their names. -/
inductive Value.Readable : Nat → Value → Prop
  | null {nesting : Nat} : Readable nesting .null
  | bool {nesting : Nat} (value : Bool) : Readable nesting (.bool value)
  | integer {nesting : Nat} {value : Int} (hword : IsWord value) :
      Readable nesting (.number (.integer value))
  | real {nesting : Nat} (value : Decimal.Binary64) : Readable nesting (.number (.real value))
  | text {nesting : Nat} (value : String) : Readable nesting (.text value)
  | array {nesting : Nat} {elements : List Value}
      (helements : ∀ element ∈ elements, element.Readable nesting) :
      Readable (nesting + 1) (.array elements)
  | object {nesting : Nat} {members : List (String × Value)} (horder : InOrder members)
      (hmembers : ∀ member ∈ members, member.2.Readable nesting) :
      Readable (nesting + 1) (.object members)

/-- More nesting may be allowed. -/
theorem Value.Readable.succ {nesting : Nat} {value : Value} (hreadable : value.Readable nesting) :
    value.Readable (nesting + 1) := by
  induction hreadable with
  | null => exact .null
  | bool value => exact .bool value
  | integer hword => exact .integer hword
  | real value => exact .real value
  | text value => exact .text value
  | array _ ih => exact .array ih
  | object horder _ ih => exact .object horder ih

/-! ## Reading a value back -/

variable {steps nesting : Nat} {rest : Octets}

theorem readValue_text (tail : Octets) :
    readValue steps nesting ('"'.toUInt8 :: tail) =
      (readChars steps [] tail).map fun (text, rest) => (Value.text text, rest) := by
  rw [readValue.eq_def]
  rfl

theorem readValue_negative (tail : Octets) :
    readValue steps nesting ('-'.toUInt8 :: tail) =
      (readNumber true tail).map fun (number, rest) => (Value.number number, rest) := by
  rw [readValue.eq_def]
  rfl

theorem readValue_digits (natural : Nat) :
    readValue steps nesting (digitOctets natural ++ rest) =
      (readNumber false (digitOctets natural ++ rest)).map fun (number, rest) =>
        (Value.number number, rest) := by
  obtain ⟨octet, tail, hdigits, hdigit⟩ := exists_lead_digit natural
  rw [hdigits, List.cons_append, readValue.eq_def]
  dsimp only
  rw [skipBlanks_cons (isBlank_of_isDigit hdigit)]
  dsimp only
  rw [if_neg (ne_of_isDigit hdigit (by decide)), if_neg (ne_of_isDigit hdigit (by decide)),
    if_neg (ne_of_isDigit hdigit (by decide)), if_neg (ne_of_isDigit hdigit (by decide)),
    if_pos hdigit]

theorem readValue_integer {value : Int} (hword : IsWord value) (hends : EndsNumber rest) :
    readValue steps nesting ((Value.number (.integer value)).octets ++ rest) =
      .ok (.number (.integer value), rest) := by
  rw [octets_integer]
  cases value with
  | ofNat natural =>
      show readValue steps nesting (digitOctets natural ++ rest) = _
      rw [readValue_digits, readNumber_ofNat hword hends]
      rfl
  | negSucc natural =>
      show readValue steps nesting ('-'.toUInt8 :: (digitOctets (natural + 1) ++ rest)) = _
      rw [readValue_negative, readNumber_negSucc hword hends]
      rfl

theorem readMembers_step {read : Octets → Reading Value} {turns : Nat} {first : Bool}
    {done : List (String × Value)} {before : Octets} {member : String × Value}
    (hnext : nextMember first before = .ok (true, memberOctets member ++ rest))
    (hsteps : (memberOctets member).length ≤ steps)
    (hread : read (member.2.octets ++ rest) = .ok (member.2, rest)) :
    readMembers read steps (turns + 1) first done before =
      readMembers read steps turns false (insertMember member.1 member.2 done) rest := by
  have hname : (textOctets member.1).length ≤ steps := by
    rw [memberOctets, List.length_append] at hsteps
    omega
  rw [readMembers, hnext]
  simp only [bind, Except.bind]
  rw [memberOctets, List.append_assoc, readChars_textOctets hname]
  dsimp only
  rw [List.cons_append, readColon_colon]
  dsimp only
  rw [hread]

theorem readMembers_closing {read : Octets → Reading Value} {turns : Nat} {first : Bool}
    {done : List (String × Value)} :
    readMembers read steps (turns + 1) first done ('\x7d'.toUInt8 :: rest) = .ok (done, rest) := by
  rw [readMembers, nextMember_closing]
  show (do return (done, ← closeObject ('\x7d'.toUInt8 :: rest))) = _
  rw [closeObject_closing]
  rfl

/-- The members of an object are read back one after the other. -/
theorem readMembers_continued {read : Octets → Reading Value} {turns : Nat}
    {done members : List (String × Value)}
    (hread : ∀ member ∈ members, ∀ rest, EndsNumber rest →
      (member.2.octets ++ rest).length < steps → read (member.2.octets ++ rest) =
        .ok (member.2, rest))
    (hturns : (continued (quotedMembers members) ++ '\x7d'.toUInt8 :: rest).length < turns)
    (hsteps : turns ≤ steps) :
    readMembers read steps turns false done
        (continued (quotedMembers members) ++ '\x7d'.toUInt8 :: rest) =
      .ok (members.foldl (fun known member => insertMember member.1 member.2 known) done,
        rest) := by
  induction members generalizing turns done with
  | nil =>
      match turns with
      | turns + 1 => exact readMembers_closing
  | cons member members ih =>
      match turns with
      | turns + 1 =>
          rw [List.forall_mem_cons] at hread
          rw [continued_quotedMembers] at hturns ⊢
          simp only [List.length_cons, List.length_append] at hturns
          have hvalue := hread.1 _ (endsNumber_continued (quotedMembers members) rest (Or.inr rfl))
          -- one turn reads one member, which is no longer than what is left to read
          rw [readMembers_step (nextMember_later _) (by omega) (hvalue ?_),
            ih hread.2 (by simp only [List.length_cons, List.length_append]; omega) (by omega)]
          · rfl
          · simp only [memberOctets, List.length_append, List.length_cons] at hturns ⊢
            omega

theorem readMembers_joined {read : Octets → Reading Value} {members : List (String × Value)}
    (hread : ∀ member ∈ members, ∀ rest, EndsNumber rest →
      (member.2.octets ++ rest).length < steps → read (member.2.octets ++ rest) =
        .ok (member.2, rest))
    (horder : InOrder members)
    (hsteps : (joined (quotedMembers members) ++ '\x7d'.toUInt8 :: rest).length < steps) :
    readMembers read steps steps true []
        (joined (quotedMembers members) ++ '\x7d'.toUInt8 :: rest) = .ok (members, rest) := by
  match steps, members with
  | steps + 1, [] => exact readMembers_closing
  | steps + 1, member :: members =>
      rw [List.forall_mem_cons] at hread
      rw [joined_quotedMembers] at hsteps ⊢
      simp only [List.length_cons, List.length_append] at hsteps
      have hvalue := hread.1 _ (endsNumber_continued (quotedMembers members) rest (Or.inr rfl))
      rw [readMembers_step (nextMember_first _) (by omega) (hvalue ?_),
        readMembers_continued hread.2
          (by simp only [List.length_cons, List.length_append]; omega) (by omega)]
      · -- members in order are inserted at the end, so they stay as they were written
        show Except.ok ((member :: members).foldl _ [], rest) = _
        rw [foldl_insertMember [] horder]
        rfl
      · simp only [memberOctets, List.length_append, List.length_cons] at hsteps ⊢
        omega

/-- A readable value without floating-point numbers is read back, whatever follows it. -/
theorem readValue_octets {value : Value} (hreadable : value.Readable nesting)
    (hexact : value.IsExact) (hends : EndsNumber rest)
    (hsteps : (value.octets ++ rest).length < steps) :
    readValue steps nesting (value.octets ++ rest) = .ok (value, rest) := by
  induction hreadable generalizing rest with
  | null => rw [readValue.eq_def]; rfl
  | bool value =>
      match value with
      | true => rw [readValue.eq_def]; rfl
      | false => rw [readValue.eq_def]; rfl
  | integer hword => exact readValue_integer hword hends
  -- an exact value has no floating-point number in it
  | real => cases hexact
  | text text =>
      rw [octets_text, List.cons_append, List.length_cons, List.length_append] at hsteps
      rw [octets_text, List.cons_append, readValue_text, readChars_textOctets (by omega)]
      rfl
  | @array nesting elements helements ih =>
      match hexact with
      | .array hexact =>
          -- each element is read back at the nesting below, by the induction
          have hitems : ∀ element ∈ elements,
              ReadsBack (readValue steps nesting) Value.octets some steps element := by
            intro element helement
            exact ⟨Value.opens_octets (hexact element helement), fun rest hends hsteps =>
              Yields.of_eq_ok (ih element helement (hexact element helement) hends hsteps)⟩
          rw [octets_array, List.cons_append, List.append_assoc, List.singleton_append] at hsteps ⊢
          have hread : Yields Stop.IsMissing rest _ _ :=
            yields_readElements hitems (Nat.lt_of_le_of_lt (Nat.le_succ _) hsteps)
          have hsome : elements.mapM some = some elements := by
            simpa using List.mapM_pure (m := Option) (l := elements) (f := id)
          rw [hsome] at hread
          show (readElements (readValue steps nesting) steps true [] _).map _ = _
          rw [hread.eq_ok]
          rfl
  | @object nesting members horder hmembers ih =>
      match hexact with
      | .object hexact =>
          rw [octets_object, List.cons_append, List.append_assoc, List.singleton_append] at hsteps ⊢
          show (readMembers (readValue steps nesting) steps steps true [] _).map _ = _
          rw [readMembers_joined (fun member hmember rest => ih member hmember
            (hexact member hmember)) horder (Nat.lt_of_le_of_lt (Nat.le_succ _) hsteps)]
          rfl

/-! ## Whole documents -/

theorem readWhole_eq_ok_iff {α : Type} {read : Nat → Octets → Reading α} {document : Octets}
    {value : α} :
    readWhole read document = .ok value ↔
      ∃ left, read (document.length + 1) document = .ok (value, left) ∧ finish left = .ok () := by
  unfold readWhole
  split
  · next hread => simp [hread]
  · next found left hread =>
      split
      · next hfinish => simp [hread, hfinish]
      · next hfinish =>
          constructor
          · intro heq
            obtain rfl : found = value := Except.ok.inj heq
            exact ⟨left, hread, hfinish⟩
          · rintro ⟨other, hother, -⟩
            rw [hread] at hother
            obtain ⟨rfl, -⟩ := Prod.mk.inj (Except.ok.inj hother)
            rfl

theorem encode_render (value : Value) : Utf8.encode value.render = value.octets := by
  rw [Utf8.encode, Value.render, String.toList_ofList, Value.octets]

/-- A readable value without floating-point numbers is read back from its compact form. -/
theorem parse_render {value : Value} (hreadable : value.Readable nestingLimit)
    (hexact : value.IsExact) : parse (Utf8.encode value.render) = .ok value := by
  have hread : readValue (value.octets.length + 1) nestingLimit (value.octets ++ []) =
      .ok (value, []) :=
    readValue_octets hreadable hexact endsNumber_nil (by rw [List.append_nil]; omega)
  rw [List.append_nil] at hread
  rw [encode_render]
  exact readWhole_eq_ok_iff.mpr ⟨[], hread, rfl⟩

/-! ## What is read is readable -/

/-- What holds of everything that is read holds of the elements of a list. -/
theorem forall_mem_of_readElements {α : Type} {read : Octets → Reading α} {holds : α → Prop}
    {turns : Nat} {first : Bool} {done elements : List α} {left : Octets}
    (hread : ∀ {rest value left}, read rest = .ok (value, left) → holds value)
    (hdone : ∀ element ∈ done, holds element)
    (helements : readElements read turns first done rest = .ok (elements, left)) :
    ∀ element ∈ elements, holds element := by
  induction turns generalizing first done rest with
  | zero => cases helements
  | succ turns ih =>
      rw [readElements] at helements
      split at helements
      · cases helements
      · -- the list is closed: what was read so far is turned round
        obtain ⟨_, _, heq⟩ := map_eq_ok_iff.mp helements
        obtain ⟨rfl, -⟩ := Prod.mk.inj heq
        simpa using hdone
      · split at helements
        · cases helements
        · next hvalue =>
            refine ih (fun element helement => ?_) helements
            rcases List.mem_cons.mp helement with rfl | helement
            · exact hread hvalue
            · exact hdone element helement

/-- What holds of everything that is read holds of the members of an object, and they are in
order. -/
theorem inOrder_of_readMembers {read : Octets → Reading Value} {holds : Value → Prop}
    {turns : Nat} {first : Bool} {done members : List (String × Value)} {left : Octets}
    (hread : ∀ {rest value left}, read rest = .ok (value, left) → holds value)
    (horder : InOrder done) (hdone : ∀ member ∈ done, holds member.2)
    (hmembers : readMembers read steps turns first done rest = .ok (members, left)) :
    InOrder members ∧ ∀ member ∈ members, holds member.2 := by
  induction turns generalizing first done rest with
  | zero => cases hmembers
  | succ turns ih =>
      rw [readMembers] at hmembers
      obtain ⟨⟨again, after⟩, -, hmembers⟩ := bind_eq_ok_iff.mp hmembers
      match again with
      | false =>
          obtain ⟨_, -, hmembers⟩ := bind_eq_ok_iff.mp hmembers
          obtain ⟨rfl, -⟩ := Prod.mk.inj (Except.ok.inj hmembers)
          exact ⟨horder, hdone⟩
      | true =>
          obtain ⟨⟨name, _⟩, -, hmembers⟩ := bind_eq_ok_iff.mp hmembers
          obtain ⟨_, -, hmembers⟩ := bind_eq_ok_iff.mp hmembers
          obtain ⟨⟨value, _⟩, hvalue, hmembers⟩ := bind_eq_ok_iff.mp hmembers
          -- a name that comes again replaces its member, which keeps the order
          refine ih horder.insertMember (fun member hmember => ?_) hmembers
          rcases mem_insertMember hmember with rfl | hmember
          · exact hread hvalue
          · exact hdone member hmember

/-- How a value is read that begins with the given octet, with the octets behind it and those that
are left in the end. -/
inductive ReadAs (steps : Nat) (left : Octets) : Nat → UInt8 → Octets → Value → Prop
  | null {nesting : Nat} {tail : Octets} (hword : readWord ['u', 'l', 'l'] tail = .ok left) :
      ReadAs steps left nesting 'n'.toUInt8 tail .null
  | true {nesting : Nat} {tail : Octets} (hword : readWord ['r', 'u', 'e'] tail = .ok left) :
      ReadAs steps left nesting 't'.toUInt8 tail (.bool true)
  | false {nesting : Nat} {tail : Octets} (hword : readWord ['a', 'l', 's', 'e'] tail = .ok left) :
      ReadAs steps left nesting 'f'.toUInt8 tail (.bool false)
  | negative {nesting : Nat} {tail : Octets} {number : Number}
      (hnumber : readNumber true tail = .ok (number, left)) :
      ReadAs steps left nesting '-'.toUInt8 tail (.number number)
  | digits {nesting : Nat} {octet : UInt8} {tail : Octets} {number : Number}
      (hdigit : isDigit octet = true)
      (hnumber : readNumber false (octet :: tail) = .ok (number, left)) :
      ReadAs steps left nesting octet tail (.number number)
  | text {nesting : Nat} {tail : Octets} {text : String}
      (htext : readChars steps [] tail = .ok (text, left)) :
      ReadAs steps left nesting '"'.toUInt8 tail (.text text)
  | array {nesting : Nat} {tail : Octets} {elements : List Value}
      (helements : readElements (readValue steps nesting) steps true [] tail =
        .ok (elements, left)) :
      ReadAs steps left (nesting + 1) '['.toUInt8 tail (.array elements)
  | object {nesting : Nat} {tail : Octets} {members : List (String × Value)}
      (hmembers : readMembers (readValue steps nesting) steps steps true [] tail =
        .ok (members, left)) :
      ReadAs steps left (nesting + 1) '\x7b'.toUInt8 tail (.object members)

theorem exists_readAs {value : Value} {left : Octets}
    (hread : readValue steps nesting rest = .ok (value, left)) :
    ∃ octet tail, skipBlanks rest = octet :: tail ∧
      ReadAs steps left nesting octet tail value := by
  rw [readValue.eq_def] at hread
  dsimp only at hread
  split at hread
  · cases hread
  next octet tail hblanks =>
  -- the first octet behind the blanks decides, and each test has its own reading
  refine ⟨octet, tail, hblanks, ?_⟩
  split at hread
  · next hoctet =>
      obtain ⟨_, hword, heq⟩ := map_eq_ok_iff.mp hread
      obtain ⟨rfl, rfl⟩ := Prod.mk.inj heq
      exact hoctet ▸ .null hword
  split at hread
  · next hoctet =>
      obtain ⟨_, hword, heq⟩ := map_eq_ok_iff.mp hread
      obtain ⟨rfl, rfl⟩ := Prod.mk.inj heq
      exact hoctet ▸ .true hword
  split at hread
  · next hoctet =>
      obtain ⟨_, hword, heq⟩ := map_eq_ok_iff.mp hread
      obtain ⟨rfl, rfl⟩ := Prod.mk.inj heq
      exact hoctet ▸ .false hword
  split at hread
  · next hoctet =>
      obtain ⟨_, hnumber, heq⟩ := map_eq_ok_iff.mp hread
      obtain ⟨rfl, rfl⟩ := Prod.mk.inj heq
      exact hoctet ▸ .negative hnumber
  split at hread
  · next hdigit =>
      obtain ⟨_, hnumber, heq⟩ := map_eq_ok_iff.mp hread
      obtain ⟨rfl, rfl⟩ := Prod.mk.inj heq
      exact .digits hdigit hnumber
  split at hread
  · next hoctet =>
      obtain ⟨_, htext, heq⟩ := map_eq_ok_iff.mp hread
      obtain ⟨rfl, rfl⟩ := Prod.mk.inj heq
      exact hoctet ▸ .text htext
  split at hread
  · next hoctet =>
      match nesting with
      -- the nesting is used up, so the value is refused
      | 0 => cases hread
      | nesting + 1 =>
          obtain ⟨_, helements, heq⟩ := map_eq_ok_iff.mp hread
          obtain ⟨rfl, rfl⟩ := Prod.mk.inj heq
          exact hoctet ▸ .array helements
  split at hread
  · next hoctet =>
      match nesting with
      | 0 => cases hread
      | nesting + 1 =>
          obtain ⟨_, hmembers, heq⟩ := map_eq_ok_iff.mp hread
          obtain ⟨rfl, rfl⟩ := Prod.mk.inj heq
          exact hoctet ▸ .object hmembers
  · cases hread

/-- A number that is read is readable. -/
theorem readable_number {negative : Bool} {number : Number} {left : Octets}
    (hread : readNumber negative rest = .ok (number, left)) :
    Value.Readable nesting (.number number) := by
  have hfits := (agrees_readNumber number left hread).1
  match number with
  | .integer value => exact .integer hfits
  | .real value => exact .real value

/-- Whatever is read is readable. -/
theorem readable_of_readValue {value : Value} {left : Octets}
    (hread : readValue steps nesting rest = .ok (value, left)) : value.Readable nesting := by
  induction nesting generalizing rest value left with
  -- no nesting is left, hence no list and no object
  | zero =>
      obtain ⟨octet, tail, -, hread⟩ := exists_readAs hread
      cases hread with
      | null => exact .null
      | true => exact .bool true
      | false => exact .bool false
      | negative hnumber => exact readable_number hnumber
      | digits _ hnumber => exact readable_number hnumber
      | text => exact .text _
  | succ nesting ih =>
      obtain ⟨octet, tail, -, hread⟩ := exists_readAs hread
      cases hread with
      | null => exact .null
      | true => exact .bool true
      | false => exact .bool false
      | negative hnumber => exact readable_number hnumber
      | digits _ hnumber => exact readable_number hnumber
      | text => exact .text _
      | array helements =>
          exact .array (forall_mem_of_readElements ih (by simp) helements)
      | object hmembers =>
          obtain ⟨horder, hmembers⟩ :=
            inOrder_of_readMembers ih List.Pairwise.nil (by simp) hmembers
          exact .object horder hmembers

end ChainGateway.Json
