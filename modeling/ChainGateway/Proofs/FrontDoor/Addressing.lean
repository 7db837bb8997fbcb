import ChainGateway.FrontDoor.Target
import ChainGateway.Proofs.Text.Ascii

/-!
# Which paths are accepted

The grammar of paths is stated here without regard to how a path is read.  The parts of a path that
are not empty end in the version, possibly the mark of load balancers, and an id; what stands before
the version does not count.  A path can be written so in at most one way, and it is accepted exactly
when it can.  The id is then cut at a number of octets, as ids are sent, and such a cut never falls
inside of a character (`ofPath_grammar`).

## Strategy

Reading looks for the last version among the parts.  Since neither a mark nor an id is the version
itself, what an accepted path has after its version is free of versions, and there is only one such
ending (`afterLast?_eq_some_iff`).  It remains to recognise the ending (`targetOf?_eq_some_iff`),
for which the checks on marks and ids are read as statements about their characters.
-/

namespace ChainGateway.FrontDoor

open Text

/-! ## The grammar -/

/-- The parts of a path that count: what stands between slashes, where it is not empty. -/
def parts (path : String) : List String :=
  ((path.toList.splitOn '/').filter fun part => part ≠ []).map String.ofList

/-- A letter or digit of the basic alphabet. -/
def IsLetterOrDigit (char : Char) : Prop :=
  ('A' ≤ char ∧ char ≤ 'Z') ∨ ('a' ≤ char ∧ char ≤ 'z') ∨ ('0' ≤ char ∧ char ≤ '9')

/-- An id begins and ends with a letter or digit, and has no other characters than these and `-`,
`_` and `~`. -/
structure IsIdentifier (id : String) : Prop where
  first : ∃ char, id.toList.head? = some char ∧ IsLetterOrDigit char
  last : ∃ char, id.toList.getLast? = some char ∧ IsLetterOrDigit char
  all : ∀ char ∈ id.toList, IsLetterOrDigit char ∨ char = '-' ∨ char = '_' ∨ char = '~'

/-- What an accepted path ends in, after the version. -/
inductive Ending where
  | application (id : String)
  | balancer (mark id : String)

namespace Ending

def id : Ending → String
  | application id => id
  | balancer _ id => id

def parts : Ending → List String
  | application id => [id]
  | balancer mark id => [mark, id]

/-- The mark is `lb` in any case, and the id is one. -/
def Acceptable : Ending → Prop
  | application id => IsIdentifier id
  | balancer mark id => mark ∈ ["lb", "lB", "Lb", "LB"] ∧ IsIdentifier id

/-- The target that the ending stands for, once its id is cut. -/
def target (name path : String) : Ending → Target
  | application _ => .application name path
  | balancer _ _ => .balancer name path

end Ending

/-- A path written in the grammar: anything, the version, and an ending whose id is not the version
once more. -/
structure Written (path : String) (before : List String) (ending : Ending) : Prop where
  parts_eq : parts path = before ++ "v1" :: ending.parts
  acceptable : ending.Acceptable
  id_ne : ending.id ≠ "v1"

/-- How an id is cut, by its octets: the first 24 of them are the name.  If the next one is a tilde,
the rest is the path that is passed on, with a slash in the place of each tilde. -/
def Cuts (id name path : String) : Prop :=
  Utf8.decode? ((Utf8.encode id).take 24) = some name ∧
    if (Utf8.encode id)[24]? = some 126 then
      ∃ rest, Utf8.decode? ((Utf8.encode id).drop 24) = some rest ∧
        path = rest.map fun char => if char = '~' then '/' else char
    else path = ""

/-! ## The last version -/

theorem afterLast?_eq_none_iff {α : Type} [DecidableEq α] {mark : α} {elements : List α} :
    afterLast? mark elements = none ↔ mark ∉ elements := by
  induction elements with
  | nil => simp [afterLast?]
  | cons element rest ih =>
      simp only [afterLast?]
      cases hrest : afterLast? mark rest with
      | some after =>
          have hmem : mark ∈ rest := Decidable.not_not.mp fun hnot => by simp [ih.mpr hnot] at hrest
          simp [hmem]
      | none =>
          have hnot : mark ∉ rest := ih.mp hrest
          by_cases helement : element = mark
          · simp [helement]
          · simp [helement, hnot, Ne.symm helement]

/-- What comes after the last mark is free of marks, and there is nothing else with this
property. -/
theorem afterLast?_eq_some_iff {α : Type} [DecidableEq α] {mark : α} {elements after : List α} :
    afterLast? mark elements = some after ↔
      mark ∉ after ∧ ∃ before, elements = before ++ mark :: after := by
  induction elements with
  | nil => simp [afterLast?]
  | cons element rest ih =>
      -- a mark further on counts more than the element
      have hlater : afterLast? mark rest = some after ↔
          mark ∉ after ∧ ∃ before, element :: rest = element :: before ++ mark :: after := by
        simpa using ih
      simp only [afterLast?]
      constructor
      · intro hafter
        cases hrest : afterLast? mark rest with
        | some last =>
            simp only [hrest] at hafter
            obtain ⟨hfree, before, hsplit⟩ := hlater.mp (hrest.trans hafter)
            exact ⟨hfree, element :: before, hsplit⟩
        | none =>
            simp only [hrest] at hafter
            obtain ⟨rfl, hsame⟩ := Option.ite_none_right_eq_some.mp hafter
            cases hsame
            exact ⟨afterLast?_eq_none_iff.mp hrest, [], rfl⟩
      · rintro ⟨hfree, before, hsplit⟩
        cases before with
        | nil =>
            obtain ⟨rfl, rfl⟩ := List.cons.inj hsplit
            rw [afterLast?_eq_none_iff.mpr hfree]
            simp
        | cons first before =>
            obtain ⟨rfl, -⟩ := List.cons.inj hsplit
            rw [hlater.mpr ⟨hfree, before, hsplit⟩]

theorem afterLast?_map {α β : Type} [DecidableEq α] [DecidableEq β] {change : α → β}
    (hinjective : ∀ {first second : α}, change first = change second ↔ first = second)
    (mark : α) (elements : List α) :
    afterLast? (change mark) (elements.map change) =
      (afterLast? mark elements).map fun after => after.map change := by
  induction elements with
  | nil => rfl
  | cons element rest ih =>
      rw [List.map_cons, afterLast?, afterLast?, ih]
      cases afterLast? mark rest with
      | some after => rfl
      | none => by_cases helement : element = mark <;> simp [hinjective, helement]

/-! ## Marks and ids -/

theorem isBalancerMark_iff {mark : String} :
    isBalancerMark mark.toList = true ↔ mark ∈ ["lb", "lB", "Lb", "LB"] := by
  have hl : ∀ char : Char, char.toLower = 'l' ↔ char = 'l' ∨ char = 'L' := fun char =>
    toLower_eq_iff (by decide) (by decide)
  have hb : ∀ char : Char, char.toLower = 'b' ↔ char = 'b' ∨ char = 'B' := fun char =>
    toLower_eq_iff (by decide) (by decide)
  -- the mark is compared in lower case, letter by letter
  have hfold : isBalancerMark mark.toList = true ↔ mark.toList.map Char.toLower = ['l', 'b'] := by
    unfold isBalancerMark
    rw [equalIgnoringCase_iff, String.ofList_toList, ← String.toList_inj, foldCase, foldCase,
      String.toList_map, String.toList_map]
    rfl
  rw [hfold]
  constructor
  · intro hmap
    obtain ⟨first, rest, hmark, hfirst, hrest⟩ := List.map_eq_cons_iff.mp hmap
    obtain ⟨second, rfl, hsecond⟩ := List.map_eq_singleton_iff.mp hrest
    rw [← String.ofList_toList (s := mark), hmark]
    rcases (hl first).mp hfirst with rfl | rfl <;> rcases (hb second).mp hsecond with rfl | rfl <;>
      decide
  · intro hmark
    simp only [List.mem_cons, List.not_mem_nil, or_false] at hmark
    rcases hmark with rfl | rfl | rfl | rfl <;> decide

theorem isAlphanum_iff {char : Char} : char.isAlphanum = true ↔ IsLetterOrDigit char := by
  have hclasses : char.isAlphanum =
      ((decide ('A' ≤ char ∧ char ≤ 'Z') || decide ('a' ≤ char) && decide (char ≤ 'z')) ||
        decide ('0' ≤ char) && decide (char ≤ '9')) := rfl
  simp only [hclasses, IsLetterOrDigit, Bool.or_eq_true, Bool.and_eq_true, decide_eq_true_eq,
    or_assoc]

theorem isIdChar_iff {char : Char} :
    isIdChar char = true ↔ IsLetterOrDigit char ∨ char = '-' ∨ char = '_' ∨ char = '~' := by
  simp only [isIdChar, Bool.or_eq_true, decide_eq_true_eq, isAlphanum_iff, or_assoc]

theorem isId_iff {id : String} : isId id.toList = true ↔ IsIdentifier id := by
  simp only [isId, Bool.and_eq_true, Option.any_eq_true, List.all_eq_true, isAlphanum_iff,
    isIdChar_iff]
  constructor
  · rintro ⟨⟨hfirst, hlast⟩, hall⟩
    exact ⟨hfirst, hlast, hall⟩
  · rintro ⟨hfirst, hlast, hall⟩
    exact ⟨⟨hfirst, hlast⟩, hall⟩

/-- The characters of an id have one octet each. -/
theorem IsIdentifier.isBasic {id : String} (hid : IsIdentifier id) :
    ∀ char ∈ id.toList, IsBasic char := by
  intro char hmem
  have hchar := hid.all char hmem
  simp only [IsLetterOrDigit, Char.le_def, UInt32.le_iff_toNat_le] at hchar
  have hcode : char.val.toNat = char.toNat := rfl
  have hletters : 'Z'.val.toNat = 90 ∧ 'z'.val.toNat = 122 ∧ '9'.val.toNat = 57 := ⟨rfl, rfl, rfl⟩
  unfold IsBasic
  rcases hchar with hletter | rfl | rfl | rfl
  · omega
  · decide
  · decide
  · decide

/-! ## Cutting an id -/

/-- An id is cut by its octets as it is by its characters. -/
theorem cuts_iff {id name path : String} (hid : IsIdentifier id) :
    Cuts id name path ↔ splitId id.toList = (name, path) := by
  have hbasic := hid.isBasic
  -- an id has basic characters only, so its octets and its characters have the same places
  have htilde : (Utf8.encode id)[24]? = some 126 ↔ (id.toList.drop 24).head? = some '~' := by
    rw [List.head?_drop]
    have htilde : IsBasic '~' := by
      unfold IsBasic
      decide
    exact Utf8.getElem?_encode_eq_some_iff hbasic htilde 24
  unfold Cuts splitId relayPath idLength
  rw [Utf8.decode?_take_encode hbasic, Utf8.decode?_drop_encode hbasic, Prod.mk.injEq,
    Option.some.injEq]
  refine and_congr_right fun _ => ?_
  -- past the cut there is a path if a tilde introduces it, and nothing otherwise
  by_cases hpath : (id.toList.drop 24).head? = some '~'
  · rw [if_pos (htilde.mpr hpath), if_pos hpath]
    constructor
    · rintro ⟨rest, hrest, rfl⟩
      cases hrest
      rw [← String.toList_inj, String.toList_map]
      simp
    · rintro rfl
      refine ⟨_, rfl, ?_⟩
      rw [← String.toList_inj, String.toList_map]
      simp
  · rw [if_neg (mt htilde.mp hpath), if_neg hpath]
    exact eq_comm

/-! ## Endings -/

namespace Ending

variable {ending : Ending}

theorem Acceptable.isIdentifier (hacceptable : ending.Acceptable) : IsIdentifier ending.id := by
  cases ending with
  | application id => exact hacceptable
  | balancer mark id => exact hacceptable.2

/-- With an id that is not the version, the ending has no version at all. -/
theorem Acceptable.version_not_mem (hacceptable : ending.Acceptable) :
    "v1" ∉ ending.parts ↔ ending.id ≠ "v1" := by
  cases ending with
  | application id => simp [parts, Ending.id, eq_comm]
  | balancer mark id =>
      have hmark : mark ≠ "v1" := by
        rintro rfl
        exact absurd hacceptable.1 (by decide)
      simp [parts, Ending.id, hmark.symm, eq_comm]

theorem parts_injective {first second : Ending} (hparts : first.parts = second.parts) :
    first = second := by
  cases first <;> cases second <;> simp_all [parts]

end Ending

/-- What follows the version addresses a target exactly when it is an ending. -/
theorem targetOf?_eq_some_iff {after : List String} {target : Target} :
    targetOf? (after.map String.toList) = some target ↔
      ∃ ending : Ending, after = ending.parts ∧ ending.Acceptable ∧
        target = ending.target (splitId ending.id.toList).1 (splitId ending.id.toList).2 := by
  constructor
  · intro htarget
    match after with
    | [] => simp [targetOf?] at htarget
    | [id] =>
        obtain ⟨hid, htarget⟩ := Option.ite_none_right_eq_some.mp htarget
        cases htarget
        exact ⟨.application id, rfl, isId_iff.mp hid, rfl⟩
    | [mark, id] =>
        obtain ⟨haccepted, htarget⟩ := Option.ite_none_right_eq_some.mp htarget
        cases htarget
        obtain ⟨hmark, hid⟩ := (Bool.and_eq_true _ _).mp haccepted
        exact ⟨.balancer mark id, rfl, ⟨isBalancerMark_iff.mp hmark, isId_iff.mp hid⟩, rfl⟩
    | _ :: _ :: _ :: _ => simp [targetOf?] at htarget
  · rintro ⟨ending, rfl, hacceptable, rfl⟩
    cases ending with
    | application id =>
        simp only [Ending.parts, List.map_cons, List.map_nil, targetOf?,
          isId_iff.mpr hacceptable, if_true]
        rfl
    | balancer mark id =>
        simp only [Ending.parts, List.map_cons, List.map_nil, targetOf?,
          isBalancerMark_iff.mpr hacceptable.1, isId_iff.mpr hacceptable.2, Bool.and_self, if_true]
        rfl

/-! ## Paths -/

theorem map_toList_parts (path : String) :
    (parts path).map String.toList =
      (segments '/' path.toList).filter fun segment => !segment.isEmpty := by
  unfold parts
  rw [List.map_map, segments_eq_splitOn]
  have hsame : String.toList ∘ String.ofList = id := funext fun _ => String.toList_ofList
  rw [hsame, List.map_id]
  refine List.filter_congr fun segment _ => ?_
  cases segment <;> simp

theorem ofPath_eq (path : String) :
    Target.ofPath path =
      match (afterLast? "v1" (parts path)).bind fun after =>
          targetOf? (after.map String.toList) with
      | some target => .ok target
      | none => .error (.invalidPath path) := by
  have hafter := afterLast?_map (fun {_ _} => String.toList_inj) "v1" (parts path)
  rw [map_toList_parts] at hafter
  show (match (afterLast? "v1".toList _).bind targetOf? with
    | some target => Except.ok target
    | none => .error (Error.invalidPath path)) = _
  rw [hafter, Option.bind_map]
  rfl

/-- What follows the last version is an ending exactly when the path can be written in the
grammar. -/
theorem target?_eq_some_iff {path : String} {target : Target} :
    ((afterLast? "v1" (parts path)).bind fun after => targetOf? (after.map String.toList)) =
        some target ↔
      ∃ before ending, Written path before ending ∧
        target = ending.target (splitId ending.id.toList).1 (splitId ending.id.toList).2 := by
  simp only [Option.bind_eq_some_iff, afterLast?_eq_some_iff, targetOf?_eq_some_iff]
  constructor
  · rintro ⟨_, ⟨hfree, before, hparts⟩, ending, rfl, hacceptable, rfl⟩
    exact ⟨before, ending, ⟨hparts, hacceptable, hacceptable.version_not_mem.mp hfree⟩, rfl⟩
  · rintro ⟨before, ending, hwritten, rfl⟩
    exact ⟨_, ⟨hwritten.acceptable.version_not_mem.mpr hwritten.id_ne, before, hwritten.parts_eq⟩,
      ending, rfl, hwritten.acceptable, rfl⟩

/-- There is at most one way to write a path in the grammar. -/
theorem Written.unique {path : String} {before other : List String} {ending another : Ending}
    (hwritten : Written path before ending) (hagain : Written path other another) :
    before = other ∧ ending = another := by
  have hlast := afterLast?_eq_some_iff.mpr
    ⟨hwritten.acceptable.version_not_mem.mpr hwritten.id_ne, before, hwritten.parts_eq⟩
  have hother := afterLast?_eq_some_iff.mpr
    ⟨hagain.acceptable.version_not_mem.mpr hagain.id_ne, other, hagain.parts_eq⟩
  have hparts : ending.parts = another.parts := Option.some.inj (hlast.symm.trans hother)
  have hbefore : before ++ "v1" :: ending.parts = other ++ "v1" :: ending.parts := by
    rw [← hwritten.parts_eq, hagain.parts_eq, hparts]
  exact ⟨List.append_cancel_right hbefore, Ending.parts_injective hparts⟩

/-- A path that is written in the grammar has the target of its ending, with the id cut. -/
theorem Written.ofPath_eq {path : String} {before : List String} {ending : Ending}
    (hwritten : Written path before ending) {name rest : String}
    (hcuts : Cuts ending.id name rest) :
    Target.ofPath path = .ok (ending.target name rest) := by
  have htarget := target?_eq_some_iff.mpr ⟨before, ending, hwritten, rfl⟩
  have hsplit := (cuts_iff hwritten.acceptable.isIdentifier).mp hcuts
  rw [FrontDoor.ofPath_eq, htarget, hsplit]

theorem exists_written_of_ofPath {path : String} {target : Target}
    (htarget : Target.ofPath path = .ok target) : ∃ before ending, Written path before ending := by
  rw [ofPath_eq] at htarget
  split at htarget
  · next accepted haccepted =>
      obtain ⟨before, ending, hwritten, -⟩ := target?_eq_some_iff.mp haccepted
      exact ⟨before, ending, hwritten⟩
  · cases htarget

theorem ofPath_of_not_written {path : String}
    (hnone : ¬ ∃ before ending, Written path before ending) :
    Target.ofPath path = .error (.invalidPath path) := by
  rw [ofPath_eq]
  split
  · next target htarget =>
      obtain ⟨before, ending, hwritten, -⟩ := target?_eq_some_iff.mp htarget
      exact absurd ⟨before, ending, hwritten⟩ hnone
  · rfl

/-- **The grammar of accepted paths.**  A path is accepted exactly when it can be written in the
grammar, which is possible in at most one way, and otherwise it is refused as it is.  Its target is
that of its ending, with the id cut by octets; every cut of an id falls between characters. -/
theorem ofPath_grammar (path : String) :
    ((∃ target, Target.ofPath path = .ok target) ↔ ∃ before ending, Written path before ending) ∧
      ((¬ ∃ before ending, Written path before ending) →
        Target.ofPath path = .error (.invalidPath path)) ∧
      ∀ before ending, Written path before ending →
        (∀ other another, Written path other another → other = before ∧ another = ending) ∧
        (∃ name rest, Cuts ending.id name rest ∧
          Target.ofPath path = .ok (ending.target name rest)) ∧
        ∀ count, (∃ front, Utf8.decode? ((Utf8.encode ending.id).take count) = some front) ∧
          ∃ back, Utf8.decode? ((Utf8.encode ending.id).drop count) = some back := by
  -- a written path can be cut in one way, so its ending says what its target is
  have haccepts : ∀ before ending, Written path before ending →
      ∃ name rest, Cuts ending.id name rest ∧
        Target.ofPath path = .ok (ending.target name rest) := by
    intro before ending hwritten
    have hcuts : Cuts ending.id _ _ := (cuts_iff hwritten.acceptable.isIdentifier).mpr rfl
    exact ⟨_, _, hcuts, hwritten.ofPath_eq hcuts⟩
  refine ⟨⟨?_, ?_⟩, ofPath_of_not_written, fun before ending hwritten => ⟨?_, ?_, ?_⟩⟩
  · rintro ⟨target, htarget⟩
    exact exists_written_of_ofPath htarget
  · rintro ⟨before, ending, hwritten⟩
    obtain ⟨name, rest, -, htarget⟩ := haccepts before ending hwritten
    exact ⟨_, htarget⟩
  · exact fun other another hagain => hagain.unique hwritten
  · exact haccepts before ending hwritten
  · intro count
    have hbasic := hwritten.acceptable.isIdentifier.isBasic
    exact ⟨⟨_, Utf8.decode?_take_encode hbasic count⟩, ⟨_, Utf8.decode?_drop_encode hbasic count⟩⟩

/-- At a path with other characters, empty segments, two versions and a relay path. -/
theorem ofPath_grammar_versions :
    Written "/é//v1/v1/lB/lb-123456789012345678901~ext~0" ["é", "v1"]
        (.balancer "lB" "lb-123456789012345678901~ext~0") ∧
      Target.ofPath "/é//v1/v1/lB/lb-123456789012345678901~ext~0" =
        .ok (.balancer "lb-123456789012345678901" "/ext/0") := by
  have hwritten : Written "/é//v1/v1/lB/lb-123456789012345678901~ext~0" ["é", "v1"]
      (.balancer "lB" "lb-123456789012345678901~ext~0") :=
    ⟨by decide, ⟨by decide, isId_iff.mp (by decide)⟩, by decide⟩
  obtain ⟨-, -, hpath⟩ := ofPath_grammar "/é//v1/v1/lB/lb-123456789012345678901~ext~0"
  obtain ⟨-, ⟨name, rest, hcuts, htarget⟩, -⟩ := hpath _ _ hwritten
  have hsplit := (cuts_iff hwritten.acceptable.isIdentifier).mp hcuts
  refine ⟨hwritten, ?_⟩
  rw [htarget]
  have hname : (name, rest) = ("lb-123456789012345678901", "/ext/0") := by
    rw [← hsplit]
    decide
  cases hname
  rfl

end ChainGateway.FrontDoor
