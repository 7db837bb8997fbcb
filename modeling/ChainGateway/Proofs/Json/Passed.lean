import ChainGateway.Json.Skipped
import ChainGateway.Proofs.Json.RoundTrip

/-!
# Values that could have been read

A value that can be read can also be passed over, and passing over it stops at the same place
(`skipValue_of_readValue`).  So it does not matter for what follows a member whether a field asked
for it.

Passing over goes on as long as something is open, one turn after the other, and the turns are
limited.  They are charged to the octets passed: two for each octet, since only the first element
of a list, or member of an object, takes a turn of its own without passing any octet, and that turn
is charged to the opening bracket or brace.  `Passes` states what is passed together with the
charge, with a credit of one turn behind an opening bracket.
-/

namespace ChainGateway.Json

open Text

variable {steps nesting : Nat} {rest left : Octets}

/-! ## What is left is an ending -/

theorem skipBlanks_suffix (rest : Octets) : skipBlanks rest <:+ rest :=
  List.dropWhile_suffix isBlank

/-- Blanks are passed over once and for all. -/
theorem skipBlanks_skipBlanks (rest : Octets) : skipBlanks (skipBlanks rest) = skipBlanks rest := by
  induction rest with
  | nil => rfl
  | cons octet rest ih =>
      by_cases hblank : isBlank octet = true
      · have hcons : skipBlanks (octet :: rest) = skipBlanks rest := by
          rw [skipBlanks, List.dropWhile_cons, if_pos hblank]
          rfl
        rw [hcons, ih]
      · rw [skipBlanks_cons (Bool.not_eq_true _ ▸ hblank)]
        exact skipBlanks_cons (Bool.not_eq_true _ ▸ hblank)

theorem suffix_of_readWord {word : List Char} (hread : readWord word rest = .ok left) :
    left <:+ rest := by
  induction word generalizing rest with
  | nil => exact Except.ok.inj hread ▸ List.suffix_rfl
  | cons char word ih =>
      match rest with
      | [] => cases hread
      | octet :: rest =>
          rw [readWord] at hread
          split at hread
          · exact (ih hread).trans (List.suffix_cons _ _)
          · cases hread

theorem skipDigits_suffix (count : Nat) (rest : Octets) : (skipDigits count rest).2 <:+ rest := by
  induction rest generalizing count with
  | nil => exact List.suffix_rfl
  | cons octet rest ih =>
      rw [skipDigits]
      split
      · exact (ih _).trans (List.suffix_cons _ _)
      · exact List.suffix_rfl

theorem suffix_of_skipExponent (hskip : skipExponent rest = .ok left) : left <:+ rest := by
  unfold skipExponent at hskip
  dsimp only at hskip
  split at hskip
  · cases hskip
  · next octet tail hsigned =>
      have hsuffix : octet :: tail <:+ rest := by
        rw [← hsigned]
        split
        · split
          · exact List.suffix_cons _ _
          · exact List.suffix_rfl
        · exact List.suffix_rfl
      split at hskip
      · exact Except.ok.inj hskip ▸
          (skipDigits_suffix 0 tail).trans ((List.suffix_cons _ _).trans hsuffix)
      · cases hskip

theorem suffix_of_skipRealEnd (hskip : skipRealEnd rest = .ok left) : left <:+ rest := by
  unfold skipRealEnd at hskip
  split at hskip
  · split at hskip
    · exact (suffix_of_skipExponent hskip).trans (List.suffix_cons _ _)
    · exact Except.ok.inj hskip ▸ List.suffix_rfl
  · exact Except.ok.inj hskip ▸ List.suffix_rfl

theorem suffix_of_skipIntegerEnd (hskip : skipIntegerEnd rest = .ok left) : left <:+ rest := by
  unfold skipIntegerEnd at hskip
  split at hskip
  · split at hskip
    · split at hskip
      · exact (suffix_of_skipRealEnd hskip).trans
          ((skipDigits_suffix 0 _).trans (List.suffix_cons _ _))
      · cases hskip
    · exact suffix_of_skipRealEnd hskip
  · exact Except.ok.inj hskip ▸ List.suffix_rfl

/-- A number has at least one digit. -/
theorem suffix_of_skipNumber (hskip : skipNumber rest = .ok left) : left <:+ rest.tail := by
  unfold skipNumber at hskip
  split at hskip
  · cases hskip
  · split at hskip
    · split at hskip
      · cases hskip
      · exact suffix_of_skipIntegerEnd hskip
    · split at hskip
      · exact (suffix_of_skipIntegerEnd hskip).trans (skipDigits_suffix 0 _)
      · cases hskip

theorem length_of_readColon (hread : readColon rest = .ok left) : left.length < rest.length := by
  have hblanks := (skipBlanks_suffix rest).length_le
  unfold readColon at hread
  split at hread
  · cases hread
  · next heq =>
      rw [heq, List.length_cons] at hblanks
      split at hread
      · obtain rfl := Except.ok.inj hread
        exact hblanks
      · cases hread

/-! ## Texts -/

theorem exists_of_readUnit {unit : Nat} (hread : readUnit rest = .ok (unit, left)) :
    ∃ first second third fourth, rest = first :: second :: third :: fourth :: left ∧
      (hexUnit? first second third fourth).isSome = true := by
  unfold readUnit at hread
  split at hread
  · next first second third fourth tail =>
      split at hread
      · next hunit =>
          obtain ⟨-, rfl⟩ := Prod.mk.inj (Except.ok.inj hread)
          exact ⟨first, second, third, fourth, rfl, by rw [hunit]; rfl⟩
      · cases hread
  · cases hread

theorem skipText_unit {unit : Nat} (hread : readUnit rest = .ok (unit, left)) :
    skipText ('\\'.toUInt8 :: 'u'.toUInt8 :: rest) = skipText left ∧ left <:+ rest := by
  obtain ⟨first, second, third, fourth, rfl, hunit⟩ := exists_of_readUnit hread
  have hnamed : (namedEscape? 'u'.toUInt8).isSome = false := by decide
  refine ⟨?_, List.suffix_append [first, second, third, fourth] left⟩
  rw [skipText, if_neg (by decide), if_pos rfl, hnamed, if_neg (by decide), if_pos rfl,
    if_pos hunit]

theorem eq_cons_of_readPairMark {mark : Char} (hread : readPairMark mark rest = .ok left) :
    rest = mark.toUInt8 :: left := by
  unfold readPairMark at hread
  split at hread
  · cases hread
  · split at hread
    · next hoctet => rw [hoctet, Except.ok.inj hread]
    · cases hread

/-- What a backslash introduces is passed over. -/
theorem skipText_escape {char : Char} (hread : readEscape rest = .ok (char, left)) :
    skipText ('\\'.toUInt8 :: rest) = skipText left ∧ left <:+ rest := by
  unfold readEscape at hread
  split at hread
  · cases hread
  next octet tail =>
  split at hread
  · next hnamed =>
      obtain ⟨-, rfl⟩ := Prod.mk.inj (Except.ok.inj hread)
      refine ⟨?_, List.suffix_cons octet _⟩
      conv => lhs; unfold skipText
      rw [if_neg (by decide), if_pos rfl]
      dsimp only
      rw [hnamed]
      rfl
  · split at hread
    · next hoctet =>
        subst hoctet
        obtain ⟨⟨unit, after⟩, hunit, hpair⟩ := bind_eq_ok_iff.mp hread
        -- to skip, the four digits are enough; a pair is two escapes, skipped one after the other
        obtain ⟨hskip, hafter⟩ := skipText_unit hunit
        dsimp only at hpair
        split at hpair
        · cases hpair
        split at hpair
        · obtain ⟨_, hslash, hpair⟩ := bind_eq_ok_iff.mp hpair
          obtain ⟨_, hletter, hpair⟩ := bind_eq_ok_iff.mp hpair
          obtain ⟨⟨second, last⟩, hsecond, hjoined⟩ := bind_eq_ok_iff.mp hpair
          obtain ⟨hagain, hlast⟩ := skipText_unit hsecond
          rw [eq_cons_of_readPairMark hslash, eq_cons_of_readPairMark hletter] at hskip hafter
          dsimp only at hjoined
          split at hjoined
          · obtain ⟨-, rfl⟩ := Prod.mk.inj (Except.ok.inj hjoined)
            refine ⟨hskip.trans hagain, hlast.trans ?_⟩
            exact ((List.suffix_append [_, _] _).trans hafter).trans (List.suffix_cons _ _)
          · cases hjoined
        · obtain ⟨-, rfl⟩ := Prod.mk.inj (Except.ok.inj hpair)
          exact ⟨hskip, hafter.trans (List.suffix_cons _ _)⟩
    · cases hread

theorem skipText_plain {octet : UInt8} {tail : Octets} (hquote : octet ≠ '"'.toUInt8)
    (hbackslash : octet ≠ '\\'.toUInt8) (hprinted : ¬ octet.toNat < 0x20) :
    skipText (octet :: tail) = skipText tail := by
  conv => lhs; unfold skipText
  rw [if_neg hquote, if_neg hbackslash, if_neg hprinted]

/-- Octets outside of the basic alphabet are passed over. -/
theorem skipText_trail {trail : Octets} (htrail : ∀ octet ∈ trail, 0x80 ≤ octet.toNat) :
    skipText (trail ++ rest) = skipText rest := by
  induction trail with
  | nil => rfl
  | cons octet trail ih =>
      rw [List.forall_mem_cons] at htrail
      have hne : ∀ char : Char, char.toUInt8.toNat < 0x80 → octet ≠ char.toUInt8 := by
        rintro char hchar rfl
        omega
      rw [List.cons_append, skipText_plain (hne '"' (by decide)) (hne '\\' (by decide)) (by omega),
        ih htrail.2]

/-- A text that is read can as well be passed over. -/
theorem skipText_of_readChars {done : List Char} {text : String}
    (hread : readChars steps done rest = .ok (text, left)) :
    skipText rest = .ok left ∧ left <:+ rest := by
  induction steps generalizing done rest with
  | zero => cases hread
  | succ steps ih =>
      match rest with
      | [] => cases hread
      | octet :: tail =>
          rw [readChars] at hread
          split at hread
          · next hquote =>
              obtain ⟨-, rfl⟩ := Prod.mk.inj (Except.ok.inj hread)
              refine ⟨?_, List.suffix_cons _ _⟩
              unfold skipText
              rw [if_pos hquote]
          next hquote =>
          split at hread
          · next hbackslash =>
              subst hbackslash
              split at hread
              · cases hread
              · next hescape =>
                  obtain ⟨hskip, hafter⟩ := skipText_escape hescape
                  obtain ⟨hrest, hleft⟩ := ih hread
                  exact ⟨hskip.trans hrest,
                    (hleft.trans hafter).trans (List.suffix_cons _ _)⟩
          next hbackslash =>
          split at hread
          · cases hread
          next hprinted =>
          split at hread
          · next hnext =>
              -- the octets of one character are passed over one by one
              obtain ⟨trail, rfl, htrail⟩ := Utf8.exists_trail_of_next hnext
              obtain ⟨hrest, hleft⟩ := ih hread
              refine ⟨?_, (hleft.trans (List.suffix_append _ _)).trans (List.suffix_cons _ _)⟩
              rw [skipText_plain hquote hbackslash hprinted, skipText_trail htrail, hrest]
          · cases hread

/-! ## The parts of lists and objects -/

/-- What is found where another element may come. -/
theorem nextElement_cases {first again : Bool} {after : Octets}
    (hnext : nextElement first rest = .ok (again, after)) :
    ∃ octet tail, skipBlanks rest = octet :: tail ∧
      (again = false ∧ octet = ']'.toUInt8 ∧ after = octet :: tail ∨
        again = true ∧ octet ≠ ']'.toUInt8 ∧
          (first = true ∧ after = octet :: tail ∨
            first = false ∧ octet = ','.toUInt8 ∧ after = skipBlanks tail)) := by
  unfold nextElement at hnext
  split at hnext
  · cases hnext
  next octet tail hblanks =>
  refine ⟨octet, tail, hblanks, ?_⟩
  split at hnext
  · next hclosing =>
      obtain ⟨rfl, rfl⟩ := Prod.mk.inj (Except.ok.inj hnext)
      exact Or.inl ⟨rfl, hclosing, rfl⟩
  next hclosing =>
  split at hnext
  · next hfirst =>
      obtain ⟨rfl, rfl⟩ := Prod.mk.inj (Except.ok.inj hnext)
      exact Or.inr ⟨rfl, hclosing, Or.inl ⟨hfirst, rfl⟩⟩
  next hfirst =>
  split at hnext
  · next hcomma =>
      split at hnext
      · cases hnext
      · next hafter =>
          split at hnext
          · cases hnext
          · obtain ⟨rfl, rfl⟩ := Prod.mk.inj (Except.ok.inj hnext)
            exact Or.inr ⟨rfl, hclosing, Or.inr ⟨Bool.not_eq_true _ ▸ hfirst, hcomma, hafter.symm⟩⟩
  · cases hnext

theorem nextName_eq_ok {again : Bool} {after : Octets}
    (hnext : nextName rest = .ok (again, after)) : again = true ∧ rest = '"'.toUInt8 :: after := by
  unfold nextName at hnext
  split at hnext
  · cases hnext
  · split at hnext
    · next hquote =>
        obtain ⟨rfl, rfl⟩ := Prod.mk.inj (Except.ok.inj hnext)
        exact ⟨rfl, by rw [hquote]⟩
    · split at hnext
      · cases hnext
      · cases hnext

/-- What is found where another member may come. -/
theorem nextMember_cases {first again : Bool} {after : Octets}
    (hnext : nextMember first rest = .ok (again, after)) :
    ∃ octet tail, skipBlanks rest = octet :: tail ∧
      (again = false ∧ octet = '\x7d'.toUInt8 ∧ after = octet :: tail ∨
        again = true ∧ octet ≠ '\x7d'.toUInt8 ∧
          (first = true ∧ octet :: tail = '"'.toUInt8 :: after ∨
            first = false ∧ octet = ','.toUInt8 ∧ skipBlanks tail = '"'.toUInt8 :: after)) := by
  unfold nextMember at hnext
  split at hnext
  · cases hnext
  next octet tail hblanks =>
  refine ⟨octet, tail, hblanks, ?_⟩
  split at hnext
  · next hclosing =>
      obtain ⟨rfl, rfl⟩ := Prod.mk.inj (Except.ok.inj hnext)
      exact Or.inl ⟨rfl, hclosing, rfl⟩
  next hclosing =>
  split at hnext
  · next hfirst =>
      obtain ⟨hagain, hafter⟩ := nextName_eq_ok hnext
      exact Or.inr ⟨hagain, hclosing, Or.inl ⟨hfirst, hafter⟩⟩
  next hfirst =>
  split at hnext
  · next hcomma =>
      obtain ⟨hagain, hafter⟩ := nextName_eq_ok hnext
      exact Or.inr ⟨hagain, hclosing, Or.inr ⟨Bool.not_eq_true _ ▸ hfirst, hcomma, hafter⟩⟩
  · cases hnext

theorem length_of_nextMember {first again : Bool}
    (hnext : nextMember first rest = .ok (again, left)) :
    left.length ≤ rest.length := by
  have hrest := (skipBlanks_suffix rest).length_le
  obtain ⟨octet, tail, hblanks, ⟨-, -, rfl⟩ | ⟨-, -, hafter⟩⟩ := nextMember_cases hnext
  · rwa [hblanks] at hrest
  · rw [hblanks, List.length_cons] at hrest
    rcases hafter with ⟨-, hquote⟩ | ⟨-, -, hquote⟩
    · rw [← (List.cons.inj hquote).2]
      omega
    · have htail := (skipBlanks_suffix tail).length_le
      rw [hquote, List.length_cons] at htail
      omega

/-! ## Turns -/

/-- Within what is open, everything from `rest` to `left` is passed over, in two turns for each
octet and as many more as the credit allows. -/
def Passes (credit : Nat) (standing : Standing) (opened : List Enclosing) (rest : Octets)
    (remaining : List Enclosing) (left : Octets) : Prop :=
  ∃ turns, turns + 2 * left.length ≤ 2 * rest.length + credit ∧
    ∀ further, skipOpen (turns + further) standing opened rest =
      skipOpen further .afterValue remaining left

section

variable {credit : Nat} {standing : Standing} {opened remaining : List Enclosing}

theorem Passes.refl : Passes 0 .afterValue opened rest opened rest :=
  ⟨0, by omega, fun further => by rw [Nat.zero_add]⟩

/-- One turn, and then the others. -/
theorem Passes.turn {after : Octets} {later : Nat} {next : Standing} {enclosed : List Enclosing}
    (hpasses : Passes later next enclosed after remaining left)
    (hturn : ∀ turns, skipOpen (turns + 1) standing opened rest =
      skipOpen turns next enclosed after)
    (hcharge : 2 * after.length + later + 1 ≤ 2 * rest.length + credit) :
    Passes credit standing opened rest remaining left := by
  obtain ⟨turns, hturns, hskip⟩ := hpasses
  refine ⟨turns + 1, by omega, fun further => ?_⟩
  rw [Nat.add_right_comm, hturn, hskip]

theorem Passes.trans {middle : Octets} {enclosed : List Enclosing}
    (hfirst : Passes credit standing opened rest enclosed middle)
    (hsecond : Passes 0 .afterValue enclosed middle remaining left) :
    Passes credit standing opened rest remaining left := by
  obtain ⟨turns, hturns, hskip⟩ := hfirst
  obtain ⟨later, hlater, hagain⟩ := hsecond
  refine ⟨turns + later, by omega, fun further => ?_⟩
  rw [Nat.add_assoc, hskip, hagain]

theorem skipOpen_beforeValue {turns : Nat} {octet : UInt8} {tail : Octets}
    (hblanks : skipBlanks rest = octet :: tail) :
    skipOpen (turns + 1) .beforeValue opened rest =
      if octet = '['.toUInt8 then skipOpen turns .afterOpening (.list :: opened) tail
      else if octet = '\x7b'.toUInt8 then skipOpen turns .afterOpening (.object :: opened) tail
      else (skipScalar (octet :: tail)).bind (skipOpen turns .afterValue opened) := by
  rw [skipOpen, hblanks]
  dsimp only
  cases skipScalar (octet :: tail) with
  | ok rest => rfl
  | error problem => rfl

theorem skipOpen_within {turns : Nat} {enclosing : Enclosing} {octet : UInt8} {tail : Octets}
    (hstanding : standing ≠ .beforeValue) (hblanks : skipBlanks rest = octet :: tail) :
    skipOpen (turns + 1) standing (enclosing :: opened) rest =
      if octet = enclosing.closing then skipOpen turns .afterValue opened tail
      else
        (if standing = .afterOpening then enclosing.skipName (octet :: tail)
          else if octet = ','.toUInt8 then enclosing.skipName tail
          else stop enclosing.expectedProblem tail).bind
            (skipOpen turns .beforeValue (enclosing :: opened)) := by
  rw [skipOpen, hblanks]
  · dsimp only
    generalize (if standing = .afterOpening then enclosing.skipName (octet :: tail)
      else if octet = ','.toUInt8 then enclosing.skipName tail
      else stop enclosing.expectedProblem tail) = next
    cases next with
    | ok rest => rfl
    | error problem => rfl
  · exact hstanding

/-- Where reading stands when another element or member may come. -/
def standingBefore (first : Bool) : Standing :=
  if first then .afterOpening else .afterValue

theorem standingBefore_ne (first : Bool) : standingBefore first ≠ .beforeValue := by
  cases first <;> decide

/-- The closing bracket or brace. -/
theorem passes_closing {first : Bool} (enclosing : Enclosing) {tail : Octets}
    (hblanks : skipBlanks rest = enclosing.closing :: tail) :
    Passes 0 (standingBefore first) (enclosing :: opened) rest opened tail := by
  have hlength := (skipBlanks_suffix rest).length_le
  rw [hblanks, List.length_cons] at hlength
  refine Passes.refl.turn (fun turns => ?_) (by omega)
  rw [skipOpen_within (standingBefore_ne first) hblanks, if_pos rfl]

/-- A value that is neither a list nor an object. -/
theorem passes_scalar {octet : UInt8} {tail : Octets} (hblanks : skipBlanks rest = octet :: tail)
    (hlist : octet ≠ '['.toUInt8) (hobject : octet ≠ '\x7b'.toUInt8)
    (hskip : skipScalar (octet :: tail) = .ok left) (hleft : left <:+ tail) :
    Passes 0 .beforeValue opened rest opened left := by
  have hlength := (skipBlanks_suffix rest).length_le
  rw [hblanks, List.length_cons] at hlength
  have hsuffix := hleft.length_le
  refine Passes.refl.turn (fun turns => ?_) (by omega)
  rw [skipOpen_beforeValue hblanks, if_neg hlist, if_neg hobject, hskip]
  rfl

end

/-! ## Elements and members -/

/-- What is read can as well be passed over, and blanks before it do not matter. -/
structure CanPass (read : Octets → Reading Value) : Prop where
  blanks : ∀ start, read (skipBlanks start) = read start
  passes : ∀ {start value left}, read start = .ok (value, left) →
    ∀ opened, Passes 0 .beforeValue opened start opened left

theorem Passes.weaken {credit : Nat} {standing : Standing} {opened remaining : List Enclosing}
    (hpasses : Passes 0 standing opened rest remaining left) :
    Passes credit standing opened rest remaining left := by
  obtain ⟨turns, hturns, hskip⟩ := hpasses
  exact ⟨turns, by omega, hskip⟩

theorem passes_readElements {read : Octets → Reading Value} (hread : CanPass read) {turns : Nat}
    {first : Bool} {done elements : List Value} (opened : List Enclosing)
    (helements : readElements read turns first done rest = .ok (elements, left)) :
    Passes first.toNat (standingBefore first) (.list :: opened) rest opened left := by
  induction turns generalizing first done rest with
  | zero => cases helements
  | succ turns ih =>
      rw [readElements] at helements
      split at helements
      · cases helements
      · next after hnext =>
          obtain ⟨_, hclose, heq⟩ := map_eq_ok_iff.mp helements
          obtain ⟨-, rfl⟩ := Prod.mk.inj heq
          obtain ⟨octet, tail, hblanks, ⟨-, rfl, rfl⟩ | ⟨hagain, -⟩⟩ := nextElement_cases hnext
          · rw [closeList_closing] at hclose
            obtain rfl := Except.ok.inj hclose
            exact (passes_closing .list hblanks).weaken
          · cases hagain
      · next after hnext =>
          split at helements
          · cases helements
          next value middle hvalue =>
          -- an element is passed over, and then the rest of the list
          have hlater := ih helements
          obtain ⟨octet, tail, hblanks, ⟨hagain, -⟩ | ⟨-, hclosing, hafter⟩⟩ :=
            nextElement_cases hnext
          · cases hagain
          have hopen : octet ≠ Enclosing.list.closing := hclosing
          have hlength := (skipBlanks_suffix rest).length_le
          rw [hblanks, List.length_cons] at hlength
          -- the first element follows the bracket, any other one a comma
          rcases hafter with ⟨rfl, rfl⟩ | ⟨rfl, rfl, rfl⟩
          · refine ((hread.passes hvalue (.list :: opened)).trans hlater).turn (fun turns => ?_)
              (by simp only [Bool.toNat_true, List.length_cons]; omega)
            rw [skipOpen_within (by decide) hblanks, if_neg hopen]
            rfl
          · rw [hread.blanks] at hvalue
            refine ((hread.passes hvalue (.list :: opened)).trans hlater).turn (fun turns => ?_)
              (by simp only [Bool.toNat_false]; omega)
            rw [skipOpen_within (by decide) hblanks, if_neg hopen]
            rfl

/-- A name and its colon. -/
theorem skipName_object {after middle : Octets} (hblanks : skipBlanks rest = '"'.toUInt8 :: after)
    (hname : skipText after = .ok middle) (hcolon : readColon middle = .ok left) :
    Enclosing.skipName rest .object = .ok left := by
  rw [Enclosing.skipName, hblanks]
  dsimp only
  rw [if_pos rfl, hname]
  exact hcolon

theorem passes_readMembers {read : Octets → Reading Value} (hread : CanPass read) {turns : Nat}
    {first : Bool} {done members : List (String × Value)} (opened : List Enclosing)
    (hmembers : readMembers read steps turns first done rest = .ok (members, left)) :
    Passes first.toNat (standingBefore first) (.object :: opened) rest opened left := by
  induction turns generalizing first done rest with
  | zero => cases hmembers
  | succ turns ih =>
      rw [readMembers] at hmembers
      obtain ⟨⟨again, after⟩, hnext, hmembers⟩ := bind_eq_ok_iff.mp hmembers
      obtain ⟨octet, tail, hblanks, ⟨rfl, rfl, rfl⟩ | ⟨rfl, hclosing, hafter⟩⟩ :=
        nextMember_cases hnext
      · obtain ⟨_, hclose, heq⟩ := bind_eq_ok_iff.mp hmembers
        obtain ⟨-, rfl⟩ := Prod.mk.inj (Except.ok.inj heq)
        rw [closeObject_closing] at hclose
        obtain rfl := Except.ok.inj hclose
        exact (passes_closing .object hblanks).weaken
      · obtain ⟨⟨name, middle⟩, hname, hmembers⟩ := bind_eq_ok_iff.mp hmembers
        obtain ⟨start, hcolon, hmembers⟩ := bind_eq_ok_iff.mp hmembers
        obtain ⟨⟨value, last⟩, hvalue, hmembers⟩ := bind_eq_ok_iff.mp hmembers
        obtain ⟨hskip, hmiddle⟩ := skipText_of_readChars hname
        have hopen : octet ≠ Enclosing.object.closing := hclosing
        -- the name and the colon belong to the turn, the value and the rest are passed over
        have hpasses := (hread.passes hvalue (.object :: opened)).trans (ih hmembers)
        have hlength := (skipBlanks_suffix rest).length_le
        rw [hblanks, List.length_cons] at hlength
        have hstart := length_of_readColon hcolon
        have hmiddle := hmiddle.length_le
        rcases hafter with ⟨rfl, hquote⟩ | ⟨rfl, rfl, hquote⟩
        · obtain ⟨rfl, rfl⟩ := List.cons.inj hquote
          refine hpasses.turn (fun turns => ?_) (by simp only [Bool.toNat_true]; omega)
          rw [skipOpen_within (by decide) hblanks, if_neg hopen, if_pos (by rfl),
            skipName_object (skipBlanks_cons (by decide)) hskip hcolon]
          rfl
        · have htail := (skipBlanks_suffix tail).length_le
          rw [hquote, List.length_cons] at htail
          refine hpasses.turn (fun turns => ?_) (by simp only [Bool.toNat_false]; omega)
          rw [skipOpen_within (by decide) hblanks, if_neg hopen, if_neg (by decide), if_pos rfl,
            skipName_object hquote hskip hcolon]
          rfl

/-! ## Values -/

theorem readValue_skipBlanks (start : Octets) :
    readValue steps nesting (skipBlanks start) = readValue steps nesting start := by
  rw [readValue.eq_def, readValue.eq_def steps nesting start]
  dsimp only
  rw [skipBlanks_skipBlanks]

theorem skipScalar_digit {octet : UInt8} {tail : Octets} (hdigit : isDigit octet = true) :
    skipScalar (octet :: tail) = skipNumber (octet :: tail) := by
  rw [skipScalar, if_neg (ne_of_isDigit hdigit (by decide)),
    if_neg (ne_of_isDigit hdigit (by decide)), if_neg (ne_of_isDigit hdigit (by decide)),
    if_neg (ne_of_isDigit hdigit (by decide)), if_pos hdigit]

theorem passes_of_readAs {value : Value} {octet : UInt8} {tail : Octets}
    (hblanks : skipBlanks rest = octet :: tail)
    (hinner : ∀ inner, nesting = inner + 1 → CanPass (readValue steps inner))
    (hread : ReadAs steps left nesting octet tail value) (opened : List Enclosing) :
    Passes 0 .beforeValue opened rest opened left := by
  have hlength := (skipBlanks_suffix rest).length_le
  rw [hblanks, List.length_cons] at hlength
  cases hread with
  | null hword =>
      exact passes_scalar hblanks (by decide) (by decide) hword (suffix_of_readWord hword)
  | true hword =>
      exact passes_scalar hblanks (by decide) (by decide) hword (suffix_of_readWord hword)
  | false hword =>
      exact passes_scalar hblanks (by decide) (by decide) hword (suffix_of_readWord hword)
  | negative hnumber =>
      have hskip := (agrees_readNumber _ _ hnumber).2
      exact passes_scalar hblanks (by decide) (by decide) hskip
        ((suffix_of_skipNumber hskip).trans (List.tail_suffix _))
  | digits hdigit hnumber =>
      have hskip := (agrees_readNumber _ _ hnumber).2
      exact passes_scalar hblanks (ne_of_isDigit hdigit (by decide))
        (ne_of_isDigit hdigit (by decide)) ((skipScalar_digit hdigit).trans hskip)
        (suffix_of_skipNumber hskip)
  | text htext =>
      obtain ⟨hskip, hleft⟩ := skipText_of_readChars htext
      exact passes_scalar hblanks (by decide) (by decide) hskip hleft
  -- a list takes a turn for its bracket, and is then left one level deeper
  | array helements =>
      refine (passes_readElements (hinner _ rfl) opened helements).turn (fun turns => ?_)
        (by simp only [Bool.toNat_true]; omega)
      rw [skipOpen_beforeValue hblanks, if_pos rfl]
      rfl
  | object hmembers =>
      refine (passes_readMembers (hinner _ rfl) opened hmembers).turn (fun turns => ?_)
        (by simp only [Bool.toNat_true]; omega)
      rw [skipOpen_beforeValue hblanks, if_neg (by decide), if_pos rfl]
      rfl

theorem canPass_readValue : CanPass (readValue steps nesting) := by
  induction nesting with
  | zero =>
      refine ⟨readValue_skipBlanks, fun hread opened => ?_⟩
      obtain ⟨octet, tail, hblanks, hread⟩ := exists_readAs hread
      exact passes_of_readAs hblanks
        (fun inner hinner => absurd hinner.symm (Nat.succ_ne_zero inner)) hread opened
  | succ nesting ih =>
      refine ⟨readValue_skipBlanks, fun hread opened => ?_⟩
      obtain ⟨octet, tail, hblanks, hread⟩ := exists_readAs hread
      refine passes_of_readAs hblanks (fun inner hinner => ?_) hread opened
      obtain rfl := Nat.succ.inj hinner
      exact ih

/-- A value that can be read is passed over up to the same place. -/
theorem skipValue_of_readValue {value : Value} {limit : Nat}
    (hread : readValue steps nesting rest = .ok (value, left)) (hlimit : rest.length ≤ limit) :
    skipValue limit rest = .ok left := by
  obtain ⟨turns, hturns, hskip⟩ := canPass_readValue.passes hread []
  obtain ⟨further, hfurther⟩ := Nat.le.dest (show turns + 1 ≤ 2 * limit + 2 by omega)
  have hsplit : 2 * limit + 2 = turns + (further + 1) := by omega
  rw [skipValue, hsplit, hskip]
  rfl

end ChainGateway.Json
