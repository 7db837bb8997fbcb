import ChainGateway.Proofs.Text.Ascii
import ChainGateway.Text.Lowercase

/-!
# The lower case of a part of a text

The lower case of a text is the lower case of its characters, one after another.  Only the capital
sigma looks at what stands around it, and all that it asks is whether a cased letter comes next on
either side.  So a part of a text has a lower case of its own once this is known at its two ends
(`lowercaseWithin`, `lowercaseWithin_congr`), and the parts put together are the whole
(`lowercaseWithin_append`).

Putting a part alone in lower case is the same as taking no cased letter at either end.  The two
agree in every text exactly for parts without an open sigma: one that has only ignorable characters
between itself and an end of the part, and that this end can still turn (`IsOpen`).  Such a sigma
is turned by a single letter, and then there is one sigma of its form less, so the lower case of
the part is not found anywhere in the lower case of the whole (`exists_not_isInfix`).
-/

namespace ChainGateway.Text

/-! ## Cased letters next to a place -/

theorem startsCased_cons (char : Char) (chars : List Char) :
    startsCased (char :: chars) =
      if isCaseIgnorable char then startsCased chars else isCased char := by
  unfold startsCased
  by_cases hignorable : isCaseIgnorable char = true
  · rw [List.dropWhile_cons_of_pos hignorable, if_pos hignorable]
  · rw [List.dropWhile_cons_of_neg hignorable, if_neg hignorable]

/-- Behind ignorable characters only, what follows decides; otherwise it is not looked at. -/
theorem startsCased_append (first second : List Char) :
    startsCased (first ++ second) =
      if first.all isCaseIgnorable then startsCased second else startsCased first := by
  induction first with
  | nil => rfl
  | cons char first ih =>
      rw [List.cons_append, startsCased_cons, startsCased_cons, ih, List.all_cons]
      cases isCaseIgnorable char <;> simp

theorem startsCased_of_all (chars : List Char) (hall : chars.all isCaseIgnorable = true) :
    startsCased chars = false := by
  have happend := startsCased_append chars []
  rwa [List.append_nil, if_pos hall] at happend

theorem isCaseIgnorable_capitalSigma : isCaseIgnorable capitalSigma = false := by decide +kernel

/-- A capital sigma is a cased letter, whatever follows it. -/
theorem startsCased_capitalSigma (chars : List Char) :
    startsCased (capitalSigma :: chars) = true := by
  rw [startsCased_cons, isCaseIgnorable_capitalSigma, if_neg Bool.false_ne_true]
  decide +kernel

/-! ## Parts of a text -/

/-- The lower case of a character that stands between others; `before` has the last one first. -/
def lowercaseAt (before : List Char) (char : Char) (after : List Char) : List Char :=
  if char = capitalSigma then
    if startsCased before && !startsCased after then ['ς'] else ['σ']
  else
    lowercaseChar char

/-- The lower case of a part of a text that stands between others; `before` has the last character
first. -/
def lowercaseWithin (before after : List Char) : List Char → List Char
  | [] => []
  | char :: rest =>
      lowercaseAt before char (rest ++ after) ++ lowercaseWithin (char :: before) after rest

theorem lowercaseFrom_eq (before lowered chars : List Char) :
    lowercaseFrom before lowered chars = lowered.reverse ++ lowercaseWithin before [] chars := by
  induction chars generalizing before lowered with
  | nil => simp [lowercaseFrom, lowercaseWithin]
  | cons char chars ih =>
      rw [lowercaseFrom, ih, lowercaseWithin, List.append_nil, List.reverse_append,
        List.reverse_reverse, List.append_assoc]
      rfl

theorem toList_lowercase (text : String) :
    (lowercase text).toList = lowercaseWithin [] [] text.toList := by
  rw [lowercase, String.toList_ofList, lowercaseFrom_eq]
  rfl

/-- The lower case of a text is that of its parts, each between the others. -/
theorem lowercaseWithin_append (before after first second : List Char) :
    lowercaseWithin before after (first ++ second) =
      lowercaseWithin before (second ++ after) first ++
        lowercaseWithin (first.reverse ++ before) after second := by
  induction first generalizing before with
  | nil => rfl
  | cons char first ih =>
      rw [List.cons_append, lowercaseWithin, lowercaseWithin, ih, List.append_assoc,
        List.append_assoc, List.reverse_cons, List.append_assoc]
      rfl

/-- All that a part takes from its surroundings is whether they begin with a cased letter. -/
theorem lowercaseWithin_congr {before before' after after' : List Char}
    (hbefore : startsCased before = startsCased before')
    (hafter : startsCased after = startsCased after') (chars : List Char) :
    lowercaseWithin before after chars = lowercaseWithin before' after' chars := by
  induction chars generalizing before before' with
  | nil => rfl
  | cons char chars ih =>
      have hrest : startsCased (chars ++ after) = startsCased (chars ++ after') := by
        rw [startsCased_append, startsCased_append, hafter]
      have hpassed : startsCased (char :: before) = startsCased (char :: before') := by
        rw [startsCased_cons, startsCased_cons, hbefore]
      rw [lowercaseWithin, lowercaseWithin, ih hpassed, lowercaseAt, lowercaseAt, hbefore, hrest]

/-- Without a capital sigma the surroundings do not matter at all. -/
theorem lowercaseWithin_of_not_mem {chars : List Char} (hsigma : capitalSigma ∉ chars)
    (before after : List Char) :
    lowercaseWithin before after chars = chars.flatMap lowercaseChar := by
  induction chars generalizing before with
  | nil => rfl
  | cons char chars ih =>
      rw [List.mem_cons, not_or] at hsigma
      rw [lowercaseWithin, ih hsigma.2, lowercaseAt, if_neg (Ne.symm hsigma.1)]
      rfl

/-- The parts before and after a capital sigma do not see each other. -/
theorem lowercaseWithin_capitalSigma (before after first second : List Char) :
    lowercaseWithin before after (first ++ capitalSigma :: second) =
      lowercaseWithin before [capitalSigma] first ++
        (lowercaseAt (first.reverse ++ before) capitalSigma (second ++ after) ++
          lowercaseWithin [capitalSigma] after second) := by
  have hfirst : startsCased (capitalSigma :: second ++ after) = startsCased [capitalSigma] := by
    rw [List.cons_append, startsCased_capitalSigma, startsCased_capitalSigma]
  have hsecond : startsCased (capitalSigma :: (first.reverse ++ before)) =
      startsCased [capitalSigma] := by
    rw [startsCased_capitalSigma, startsCased_capitalSigma]
  rw [lowercaseWithin_append, lowercaseWithin, lowercaseWithin_congr rfl hfirst,
    lowercaseWithin_congr hsecond rfl]

theorem lowercaseWithin_isInfix (before part after : List Char) :
    lowercaseWithin before.reverse after part <:+:
      lowercaseWithin [] [] (before ++ part ++ after) := by
  rw [lowercaseWithin_append, lowercaseWithin_append, List.append_nil, List.append_nil]
  exact ⟨_, _, rfl⟩

/-! ## Open sigmas -/

/-- May the surroundings of a part decide how a capital sigma between these characters of the part
is read?  At the beginning they may if no cased letter follows, at the end if one comes before. -/
def IsOpen (before after : List Char) : Prop :=
  before.all isCaseIgnorable = true ∧ startsCased after = false ∨
    startsCased before.reverse = true ∧ after.all isCaseIgnorable = true

/-- Some capital sigma of the part is read differently in different surroundings. -/
def HasOpenSigma (chars : List Char) : Prop :=
  ∃ before after, chars = before ++ capitalSigma :: after ∧ IsOpen before after

instance (before after : List Char) : Decidable (IsOpen before after) :=
  inferInstanceAs (Decidable (_ ∨ _))

theorem hasOpenSigma_iff_exists_lt {chars : List Char} :
    HasOpenSigma chars ↔
      ∃ place < chars.length, chars[place]? = some capitalSigma ∧
        IsOpen (chars.take place) (chars.drop (place + 1)) := by
  constructor
  · rintro ⟨before, after, rfl, hopen⟩
    refine ⟨before.length, by simp, by simp, ?_⟩
    rwa [List.take_left, List.drop_append, List.drop_of_length_le (by omega),
      Nat.add_sub_cancel_left]
  · rintro ⟨place, hplace, hchar, hopen⟩
    rw [List.getElem?_eq_getElem hplace, Option.some.injEq] at hchar
    refine ⟨_, _, ?_, hopen⟩
    rw [← hchar, ← List.drop_eq_getElem_cons hplace, List.take_append_drop]

instance (chars : List Char) : Decidable (HasOpenSigma chars) :=
  decidable_of_iff _ hasOpenSigma_iff_exists_lt.symm

/-- Where no surroundings may decide, none do. -/
theorem lowercaseAt_of_not_isOpen {first second : List Char} (hopen : ¬ IsOpen first second)
    (before after : List Char) :
    lowercaseAt (first.reverse ++ before) capitalSigma (second ++ after) =
      lowercaseAt first.reverse capitalSigma second := by
  obtain ⟨hstart, hend⟩ := not_or.mp hopen
  rw [not_and] at hstart hend
  unfold lowercaseAt
  rw [startsCased_append, startsCased_append, List.all_reverse]
  by_cases hfirst : first.all isCaseIgnorable = true
  · -- A cased letter follows within the part, so the sigma does not end a word.
    have hcased : startsCased second = true := by simpa using hstart hfirst
    have hsecond : ¬ second.all isCaseIgnorable = true := fun hall => by
      rw [startsCased_of_all second hall] at hcased
      cases hcased
    rw [if_neg hsecond, hcased]
    simp
  · rw [if_neg hfirst]
    cases hbefore : startsCased first.reverse with
    | false => simp
    | true => rw [if_neg (hend hbefore)]

/-- A part without an open sigma has the same lower case in all surroundings. -/
theorem lowercaseWithin_of_not_hasOpenSigma {chars : List Char} (hopen : ¬ HasOpenSigma chars)
    (before after : List Char) :
    lowercaseWithin before after chars = lowercaseWithin [] [] chars := by
  -- by induction on what is left of the part, with what has been passed in `passed`
  suffices hleft : ∀ passed left, chars = passed ++ left →
      lowercaseWithin (passed.reverse ++ before) after left =
        lowercaseWithin passed.reverse [] left from hleft [] chars rfl
  intro passed left hchars
  induction left generalizing passed with
  | nil => rfl
  | cons char left ih =>
      have hnext := ih (passed ++ [char]) (by rw [hchars, List.append_assoc]; rfl)
      rw [List.reverse_append] at hnext
      have hhere : lowercaseAt (passed.reverse ++ before) char (left ++ after) =
          lowercaseAt passed.reverse char left := by
        by_cases hsigma : char = capitalSigma
        · subst hsigma
          exact lowercaseAt_of_not_isOpen (fun hplace => hopen ⟨passed, left, hchars, hplace⟩) _ _
        · simp only [lowercaseAt, if_neg hsigma]
      rw [lowercaseWithin, lowercaseWithin, List.append_nil, hhere]
      exact congrArg (_ ++ ·) hnext

/-! ## Surroundings that turn an open sigma -/

theorem startsCased_letter : startsCased ['x'] = true := by decide +kernel

theorem lowercaseAt_letter (before after : List Char) : lowercaseAt before 'x' after = ['x'] := by
  rw [lowercaseAt, if_neg (by decide)]
  rfl

theorem capitalSigma_not_mem {chars : List Char} (hall : chars.all isCaseIgnorable = true) :
    capitalSigma ∉ chars := by
  intro hmem
  have hignorable := List.all_eq_true.mp hall _ hmem
  rw [isCaseIgnorable_capitalSigma] at hignorable
  cases hignorable

/-- A letter before the part makes a sigma that is open at the beginning a final one; one plain
sigma of the part is then missing. -/
theorem not_isInfix_letter_before {first second : List Char}
    (hfirst : first.all isCaseIgnorable = true) (hsecond : startsCased second = false) :
    ¬ lowercaseWithin [] [] (first ++ capitalSigma :: second) <:+:
      lowercaseWithin [] [] ('x' :: (first ++ capitalSigma :: second)) := by
  have halone : lowercaseAt (first.reverse ++ []) capitalSigma (second ++ []) = ['σ'] := by
    rw [lowercaseAt, startsCased_append, List.all_reverse, if_pos hfirst]
    rfl
  have hturned : lowercaseAt (first.reverse ++ ['x']) capitalSigma (second ++ []) = ['ς'] := by
    rw [lowercaseAt, startsCased_append, List.all_reverse, if_pos hfirst, startsCased_letter,
      List.append_nil, hsecond]
    rfl
  have hsame : ∀ before,
      lowercaseWithin before [capitalSigma] first = first.flatMap lowercaseChar :=
    fun before => lowercaseWithin_of_not_mem (capitalSigma_not_mem hfirst) before _
  -- the letters around the sigma are the same, so counting the plain sigmas tells them apart
  intro hinfix
  have hcount := hinfix.sublist.count_le 'σ'
  rw [lowercaseWithin, lowercaseAt_letter, lowercaseWithin_capitalSigma,
    lowercaseWithin_capitalSigma, halone, hturned, hsame, hsame] at hcount
  have hplain : ['σ'].count 'σ' = 1 := by decide
  have hfinal : ['ς'].count 'σ' = 0 := by decide
  have hletter : ['x'].count 'σ' = 0 := by decide
  simp only [List.count_append, hplain, hfinal, hletter] at hcount
  omega

/-- A letter after the part makes a sigma that is open at the end a plain one; one final sigma of
the part is then missing. -/
theorem not_isInfix_letter_after {first second : List Char}
    (hfirst : startsCased first.reverse = true) (hsecond : second.all isCaseIgnorable = true) :
    ¬ lowercaseWithin [] [] (first ++ capitalSigma :: second) <:+:
      lowercaseWithin [] [] (first ++ capitalSigma :: second ++ ['x']) := by
  have halone : lowercaseAt (first.reverse ++ []) capitalSigma (second ++ []) = ['ς'] := by
    rw [lowercaseAt, List.append_nil, hfirst, List.append_nil, startsCased_of_all second hsecond]
    rfl
  have hturned : lowercaseAt (first.reverse ++ []) capitalSigma (second ++ ['x']) = ['σ'] := by
    rw [lowercaseAt, startsCased_append second, if_pos hsecond, startsCased_letter,
      List.append_nil, hfirst]
    rfl
  have hsame : ∀ after,
      lowercaseWithin [capitalSigma] after second = second.flatMap lowercaseChar :=
    fun after => lowercaseWithin_of_not_mem (capitalSigma_not_mem hsecond) _ after
  -- here it is the final sigmas that are counted
  intro hinfix
  have hcount := hinfix.sublist.count_le 'ς'
  rw [lowercaseWithin_append _ _ _ ['x'], lowercaseWithin, lowercaseAt_letter,
    lowercaseWithin_capitalSigma, lowercaseWithin_capitalSigma, List.append_nil ['x'], halone,
    hturned, hsame, hsame, lowercaseWithin, List.append_nil ['x']] at hcount
  have hfinal : ['ς'].count 'ς' = 1 := by decide
  have hplain : ['σ'].count 'ς' = 0 := by decide
  have hletter : ['x'].count 'ς' = 0 := by decide
  simp only [List.count_append, hfinal, hplain, hletter] at hcount
  omega

/-- An open sigma is turned by some surroundings, and then the lower case of the part is nowhere in
the lower case of the whole. -/
theorem exists_not_isInfix {chars : List Char} (hopen : HasOpenSigma chars) :
    ∃ before after, ¬ lowercaseWithin [] [] chars <:+:
      lowercaseWithin [] [] (before ++ chars ++ after) := by
  obtain ⟨first, second, rfl, ⟨hfirst, hsecond⟩ | ⟨hfirst, hsecond⟩⟩ := hopen
  · refine ⟨['x'], [], ?_⟩
    rw [List.append_nil, List.singleton_append]
    exact not_isInfix_letter_before hfirst hsecond
  · refine ⟨[], ['x'], ?_⟩
    rw [List.nil_append]
    exact not_isInfix_letter_after hfirst hsecond

end ChainGateway.Text
