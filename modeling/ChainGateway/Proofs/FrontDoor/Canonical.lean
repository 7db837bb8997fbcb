import ChainGateway.Proofs.Except
import ChainGateway.Proofs.FrontDoor.Addressing

/-!
# The canonical path of a target

A target can be written as a path again: the version, the mark of load balancers if it is one, and
the id with the relay path behind it, each slash of which is written as a tilde.  Reading this path
gives the target back, with one exception.  An id is checked as a whole and cut afterwards, so a
cut may leave an id that ends in `-`, `_` or `~` and has no path behind it; such an id is not
acceptable by itself, and the path is refused (`ofPath_canonical_iff`).

## Strategy

The canonical path is written in the grammar, with nothing before the version, as soon as its last
part is an identifier.  That part is the whole id that was cut, if a tilde follows the cut, and what
the cut left otherwise (`segment_of_splitId`).  In the first case it is an identifier because it was
accepted before; in the second everything hangs on its last character, since a part of an
identifier keeps the first character and the alphabet.
-/

namespace ChainGateway.FrontDoor

open Text

namespace Target

/-- The id of the application or load balancer. -/
def id : Target → String
  | application id _ => id
  | balancer id _ => id

/-- The path that is passed on to the node. -/
def path : Target → String
  | application _ path => path
  | balancer _ path => path

/-- The id and the path behind it as one part of a path. -/
def segment (target : Target) : String :=
  target.id ++ target.path.map fun char => if char = '/' then '~' else char

/-- What the canonical path ends in. -/
def ending (target : Target) : Ending :=
  match target with
  | application _ _ => .application target.segment
  | balancer _ _ => .balancer "lb" target.segment

/-- The path that addresses the target. -/
def canonical (target : Target) : String :=
  match target with
  | application _ _ => "/v1/" ++ target.segment
  | balancer _ _ => "/v1/lb/" ++ target.segment

variable (target : Target)

@[simp] theorem id_ending : target.ending.id = target.segment := by
  cases target <;> rfl

@[simp] theorem target_ending (name rest : String) :
    target.ending.target name rest =
      match target with
      | application _ _ => application name rest
      | balancer _ _ => balancer name rest := by
  cases target <;> rfl

end Target

@[simp] theorem Ending.id_target (ending : Ending) (name rest : String) :
    (ending.target name rest).id = name := by
  cases ending <;> rfl

@[simp] theorem Ending.path_target (ending : Ending) (name rest : String) :
    (ending.target name rest).path = rest := by
  cases ending <;> rfl

variable {target : Target} {ending : Ending} {id : String}

theorem IsIdentifier.slash_not_mem (hid : IsIdentifier id) : '/' ∉ id.toList := by
  intro hmem
  have hchar := isIdChar_iff.mpr (hid.all '/' hmem)
  exact absurd hchar (by decide)

theorem IsIdentifier.ne_empty (hid : IsIdentifier id) : id ≠ "" := by
  rintro rfl
  obtain ⟨char, hfirst, -⟩ := hid.first
  cases hfirst

/-! ## The parts of the canonical path -/

theorem segments_of_not_mem {separator : Char} {chars : List Char} (hnot : separator ∉ chars) :
    segments separator chars = [chars] := by
  induction chars with
  | nil => rfl
  | cons char chars ih =>
      rw [List.mem_cons, not_or] at hnot
      rw [segments, if_neg (Ne.symm hnot.1), ih hnot.2]

/-- The canonical path has no part but the version and those of its ending. -/
theorem parts_canonical (hslash : '/' ∉ target.segment.toList) (hne : target.segment ≠ "") :
    parts target.canonical = "v1" :: target.ending.parts := by
  have hsegment : segments '/' target.segment.toList = [target.segment.toList] :=
    segments_of_not_mem hslash
  have hempty : target.segment.toList ≠ [] := by simpa using hne
  have hv1 : "/v1/".toList = ['/', 'v', '1', '/'] := rfl
  have hlb : "/v1/lb/".toList = ['/', 'v', '1', '/', 'l', 'b', '/'] := rfl
  unfold parts
  rw [← segments_eq_splitOn]
  cases target with
  | application id path =>
      simp only [Target.canonical, Target.ending, Ending.parts, String.toList_append, hv1,
        List.cons_append, List.nil_append, segments, hsegment]
      simp [hempty]
  | balancer id path =>
      simp only [Target.canonical, Target.ending, Ending.parts, String.toList_append, hlb,
        List.cons_append, List.nil_append, segments, hsegment]
      simp [hempty]

/-- The canonical path is written in the grammar once its last part is an identifier. -/
theorem written_canonical (hid : IsIdentifier target.segment) (hversion : target.segment ≠ "v1") :
    Written target.canonical [] target.ending := by
  have hacceptable : target.ending.Acceptable := by
    cases target with
    | application id path => exact hid
    | balancer id path => exact ⟨by decide, hid⟩
  exact ⟨parts_canonical hid.slash_not_mem hid.ne_empty, hacceptable, by rwa [Target.id_ending]⟩

theorem Ending.getLast?_parts (before : List String) (ending : Ending) :
    (before ++ "v1" :: ending.parts).getLast? = some ending.id := by
  cases ending <;> simp [parts, Ending.id]

/-- If it can be written in the grammar in any way, its last part is an identifier. -/
theorem isIdentifier_segment {before : List String}
    (hparts : parts target.canonical = "v1" :: target.ending.parts)
    (hwritten : Written target.canonical before ending) : IsIdentifier target.segment := by
  have hlast : some target.ending.id = some ending.id := by
    rw [← Ending.getLast?_parts [] target.ending, List.nil_append, ← hparts, hwritten.parts_eq,
      Ending.getLast?_parts]
  rw [← Target.id_ending, Option.some.inj hlast]
  exact hwritten.acceptable.isIdentifier

/-! ## What a cut leaves -/

/-- The first characters of an identifier. -/
def firstPart (id : String) : String := String.ofList (id.toList.take idLength)

theorem toList_firstPart (id : String) : (firstPart id).toList = id.toList.take idLength :=
  String.toList_ofList

theorem length_firstPart_le (id : String) : (firstPart id).length ≤ idLength := by
  rw [← String.length_toList, toList_firstPart]
  exact List.length_take_le _ _

/-- Cutting a first part again changes nothing. -/
theorem splitId_firstPart (id : String) : splitId (firstPart id).toList = (firstPart id, "") := by
  have hdrop : (id.toList.take idLength).drop idLength = [] :=
    List.drop_eq_nil_of_le (List.length_take_le _ _)
  rw [toList_firstPart, splitId, List.take_take, Nat.min_self, hdrop]
  rfl

/-- A first part that is shorter than the cut is everything. -/
theorem firstPart_eq_self (hlength : (firstPart id).length < idLength) : firstPart id = id := by
  rw [← String.length_toList, toList_firstPart, List.length_take] at hlength
  rw [← String.toList_inj, toList_firstPart]
  exact List.take_of_length_le (by omega)

/-- The first part of an identifier is one as soon as it ends like one. -/
theorem IsIdentifier.firstPart_iff (hid : IsIdentifier id) :
    IsIdentifier (firstPart id) ↔
      ∃ char, (firstPart id).toList.getLast? = some char ∧ IsLetterOrDigit char := by
  refine ⟨fun hpart => hpart.last, fun hlast => ⟨?_, hlast, ?_⟩⟩
  · obtain ⟨char, hfirst, hchar⟩ := hid.first
    refine ⟨char, ?_, hchar⟩
    rw [toList_firstPart, List.head?_take, if_neg (by decide)]
    exact hfirst
  · intro char hmem
    rw [toList_firstPart] at hmem
    exact hid.all char (List.mem_of_mem_take hmem)

/-- The part with the id is the whole id that was cut if a tilde follows the cut, and the first
part of it otherwise. -/
theorem segment_of_splitId (hid : IsIdentifier id)
    (hsplit : splitId id.toList = (target.id, target.path)) :
    target.segment =
      if (id.toList.drop idLength).head? = some '~' then id else firstPart id := by
  obtain ⟨hname, hpath⟩ := Prod.mk.inj hsplit
  rw [Target.segment, ← hname, ← hpath, relayPath]
  split
  · -- Writing slashes as tildes undoes what the cut did, since an id has no slashes.
    have hback : ((id.toList.drop idLength).map fun char =>
          if char = '~' then '/' else char).map (fun char => if char = '/' then '~' else char) =
        id.toList.drop idLength := by
      rw [List.map_map]
      refine (List.map_congr_left fun char hmem => ?_).trans (List.map_id _)
      have hslash : char ≠ '/' := by
        rintro rfl
        exact hid.slash_not_mem (List.mem_of_mem_drop hmem)
      by_cases htilde : char = '~' <;> simp [htilde, hslash]
    rw [← String.toList_inj, String.toList_append, String.toList_map, String.toList_ofList,
      String.toList_ofList, hback, List.take_append_drop]
  · rw [← String.toList_inj, String.toList_append, String.toList_map]
    simp [firstPart]

/-- There is no path to pass on exactly when no tilde follows the cut. -/
theorem path_eq_empty_iff (hsplit : splitId id.toList = (target.id, target.path)) :
    target.path = "" ↔ (id.toList.drop idLength).head? ≠ some '~' := by
  rw [← (Prod.mk.inj hsplit).2, ← String.toList_inj, String.toList_ofList, relayPath]
  cases id.toList.drop idLength with
  | nil => simp
  | cons char rest => by_cases htilde : char = '~' <;> simp [htilde]

/-! ## Reading a target again -/

/-- A path with a part written as the whole of an accepted id leads to the same target. -/
theorem ofPath_canonical_of_isIdentifier (hid : IsIdentifier target.segment)
    (hversion : target.segment ≠ "v1")
    (hsplit : splitId target.segment.toList = (target.id, target.path)) :
    Target.ofPath target.canonical = .ok target := by
  have hwritten := written_canonical hid hversion
  have hcuts : Cuts target.ending.id target.id target.path := by
    rw [Target.id_ending, cuts_iff hid]
    exact hsplit
  rw [hwritten.ofPath_eq hcuts, Target.target_ending]
  cases target <;> rfl

/-- An accepted target is an identifier that was cut. -/
theorem exists_splitId_of_ofPath {path : String} (htarget : Target.ofPath path = .ok target) :
    ∃ id, IsIdentifier id ∧ id ≠ "v1" ∧ splitId id.toList = (target.id, target.path) := by
  obtain ⟨before, ending, hwritten⟩ := exists_written_of_ofPath htarget
  have hid := hwritten.acceptable.isIdentifier
  obtain rfl := eq_of_eq_ok (hwritten.ofPath_eq ((cuts_iff hid).mpr rfl)) htarget
  refine ⟨ending.id, hid, hwritten.id_ne, ?_⟩
  rw [Ending.id_target, Ending.path_target]
  rfl

/-- The canonical path gives the target back if it is identified by a whole id. -/
theorem ofPath_canonical_of_whole (hid : IsIdentifier id) (hversion : id ≠ "v1")
    (hsplit : splitId id.toList = (target.id, target.path))
    (hwhole : target.path ≠ "" ∨ IsIdentifier target.id) :
    Target.ofPath target.canonical = .ok target := by
  have hname : target.id = firstPart id := (Prod.mk.inj hsplit).1.symm
  have hsegment := segment_of_splitId hid hsplit
  by_cases hpath : target.path = ""
  · -- Nothing follows the cut, and the first part is written alone.
    have hacceptable : IsIdentifier target.id := hwhole.resolve_left (not_not_intro hpath)
    rw [if_neg ((path_eq_empty_iff hsplit).mp hpath), ← hname] at hsegment
    refine ofPath_canonical_of_isIdentifier (hsegment ▸ hacceptable) ?_ ?_
    · rw [hsegment, hname]
      intro hfirst
      have hshort : (firstPart id).length < idLength := by
        rw [hfirst]
        decide
      exact hversion (firstPart_eq_self hshort ▸ hfirst)
    · rw [hsegment, hpath, hname, splitId_firstPart]
  · -- A tilde follows the cut, and the whole id is written as it was.
    rw [if_pos (Decidable.not_not.mp (mt (path_eq_empty_iff hsplit).mpr hpath))] at hsegment
    rw [← hsegment] at hid hversion hsplit
    exact ofPath_canonical_of_isIdentifier hid hversion hsplit

/-- **A parsed target is addressable again, unless its id was cut at a mark.**  The canonical path
of a target that some path addresses gives the target back exactly when it has a path to pass on or
its id is acceptable by itself; otherwise the canonical path is refused.  The id of an accepted
target is acceptable exactly when it ends in a letter or digit, which can only fail for an id of
the greatest length. -/
theorem ofPath_canonical_iff {path : String} (htarget : Target.ofPath path = .ok target) :
    (Target.ofPath target.canonical = .ok target ↔
        target.path ≠ "" ∨ IsIdentifier target.id) ∧
      (¬ (target.path ≠ "" ∨ IsIdentifier target.id) →
        Target.ofPath target.canonical = .error (.invalidPath target.canonical)) ∧
      (IsIdentifier target.id ↔
        ∃ char, target.id.toList.getLast? = some char ∧ IsLetterOrDigit char) ∧
      target.id.length ≤ idLength ∧
      (target.id.length < idLength → IsIdentifier target.id) := by
  obtain ⟨id, hid, hversion, hsplit⟩ := exists_splitId_of_ofPath htarget
  have hname : target.id = firstPart id := (Prod.mk.inj hsplit).1.symm
  have hlength : target.id.length ≤ idLength := hname ▸ length_firstPart_le id
  have hshort : target.id.length < idLength → IsIdentifier target.id := by
    intro hlength
    rw [hname] at hlength ⊢
    rwa [firstPart_eq_self hlength]
  have hrefused : ¬ (target.path ≠ "" ∨ IsIdentifier target.id) →
      Target.ofPath target.canonical = .error (.invalidPath target.canonical) := by
    intro hcut
    -- without a path, the segment that is written last is the id that was cut at a mark
    obtain ⟨hpath, hmark⟩ := not_or.mp hcut
    have hsegment := segment_of_splitId hid hsplit
    rw [if_neg ((path_eq_empty_iff hsplit).mp (Decidable.not_not.mp hpath)), ← hname] at hsegment
    have hparts : parts target.canonical = "v1" :: target.ending.parts := by
      refine parts_canonical ?_ ?_
      · rw [hsegment, hname, toList_firstPart]
        exact fun hmem => hid.slash_not_mem (List.mem_of_mem_take hmem)
      · rw [hsegment]
        rintro hempty
        exact hmark (hshort (by simp [hempty, idLength]))
    refine ofPath_of_not_written ?_
    -- if it could be written in the grammar after all, its last segment would be an id
    rintro ⟨before, ending, hwritten⟩
    exact hmark (hsegment ▸ isIdentifier_segment hparts hwritten)
  have hiff : Target.ofPath target.canonical = .ok target ↔
      target.path ≠ "" ∨ IsIdentifier target.id := by
    refine ⟨fun hback => ?_, ofPath_canonical_of_whole hid hversion hsplit⟩
    refine Classical.byContradiction fun hcut => ?_
    rw [hrefused hcut] at hback
    cases hback
  exact ⟨hiff, hrefused, hname ▸ hid.firstPart_iff, hlength, hshort⟩

/-- At an id that is cut after a mark: it is not acceptable by itself, but it is found again with
the path behind it. -/
theorem ofPath_canonical_iff_marked :
    Target.ofPath "x/v1/LB/lb-1234567890123456789-_~ext~0" =
        .ok (.balancer "lb-1234567890123456789-_" "/ext/0") ∧
      ¬ IsIdentifier "lb-1234567890123456789-_" ∧
      Target.ofPath (Target.balancer "lb-1234567890123456789-_" "/ext/0").canonical =
        .ok (.balancer "lb-1234567890123456789-_" "/ext/0") := by
  have hwritten : Written "x/v1/LB/lb-1234567890123456789-_~ext~0" ["x"]
      (.balancer "LB" "lb-1234567890123456789-_~ext~0") :=
    ⟨by decide, ⟨by decide, isId_iff.mp (by decide)⟩, by decide⟩
  have htarget : Target.ofPath "x/v1/LB/lb-1234567890123456789-_~ext~0" =
      .ok (.balancer "lb-1234567890123456789-_" "/ext/0") :=
    hwritten.ofPath_eq ((cuts_iff hwritten.acceptable.isIdentifier).mpr (by decide))
  obtain ⟨hback, -⟩ := ofPath_canonical_iff htarget
  exact ⟨htarget, mt isId_iff.mpr (by decide), hback.mpr (Or.inl (by decide))⟩

/-- The id of a target is checked before it is cut, so the cut may leave an id that is refused when
it is written by itself. -/
theorem cut_id_refused :
    ∃ target, Target.ofPath "/v1/app-123456789012345678-_-9" = .ok target ∧
      ¬ IsIdentifier target.id ∧ Target.ofPath target.canonical ≠ .ok target := by
  have hcanonical : (Target.application "app-123456789012345678-_" "").canonical =
      "/v1/app-123456789012345678-_" := by
    rw [← String.toList_inj, Target.canonical, Target.segment, String.toList_append,
      String.toList_append, String.toList_map]
    rfl
  refine ⟨.application "app-123456789012345678-_" "", by decide, mt isId_iff.mpr (by decide), ?_⟩
  rw [hcanonical]
  decide

end ChainGateway.FrontDoor
