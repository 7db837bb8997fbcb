import ChainGateway.Proofs.Json.Removal

/-!
# Records read back, with fields left out

A value is written by its schema and read back by the same schema.  If fields are left out of the
document, at any depth, then reading gives the value with the defaults of these fields in their
places (`Schema.decode_without`); and if one of them has no default, reading ends with an error that
says that a field is missing (`Schema.decode_lacking`).

## Strategy

The proof follows the schema (`Schema.isReadBack`).  A list is read back element by element
(`yields_readElements`).  The members of a record are read into a draft, which is `Fields.draft` for
the names found so far.  Each member extends the names by its own (`Fields.areReadBack`), so in the
end the draft is the one for the fields that were not left out, and completing it puts the defaults
in (`Fields.completes_of_all`).
-/

namespace ChainGateway.Json

open Text

variable {arrangement : Arrangement}

/-! ## Reading the members of a record -/

/-- The record is refused because a field is missing. -/
def Refusal.IsMissing : Refusal → Prop
  | .placed stop => stop.IsMissing
  | .ofRecord problem _ => problem.IsMissing

section

variable {δ : Type} {read : String → δ → Octets → Except Refusal (δ × Octets)}
  {draft : List String → δ} {expects : String → Bool} {steps turns : Nat} {rest : Octets}

/-- Reading a member adds its name to those found. -/
def Extends (read : String → δ → Octets → Except Refusal (δ × Octets)) (draft : List String → δ)
    (expects : String → Bool) (steps : Nat) (member : String × Value) : Prop :=
  ∀ found rest, member.1 ∉ found → EndsNumber rest → (member.2.octets ++ rest).length < steps →
    Yields Refusal.IsMissing rest
      (if expects member.1 then some (draft (member.1 :: found)) else none)
      (read member.1 (draft found) (':'.toUInt8 :: (member.2.octets ++ rest)))

/-- The member that comes next is read, and then the others. -/
theorem yields_readDraft_step {first : Bool} {found names : List String} {member : String × Value}
    {members : List (String × Value)} {before after left : Octets}
    (hmember : Extends read draft expects steps member) (hnew : member.1 ∉ found)
    (hnext : nextMember first before = .ok (true, memberOctets member ++ after))
    (hends : EndsNumber after) (hsteps : (memberOctets member ++ after).length < steps)
    (hafter : Yields Refusal.IsMissing left
      (if members.all (expects ·.1) then some (draft names) else none)
      (readDraft read steps turns false (draft (member.1 :: found)) after)) :
    Yields Refusal.IsMissing left
      (if (member :: members).all (expects ·.1) then some (draft names) else none)
      (readDraft read steps (turns + 1) first (draft found) before) := by
  -- both the name and the value end within the turns that are left
  have hlength : (textOctets member.1).length ≤ steps ∧
      (member.2.octets ++ after).length < steps := by
    simp only [memberOctets, List.length_append, List.length_cons] at hsteps ⊢
    omega
  -- the expectation splits at the member that comes next, as the reading does
  have hexpected : (if (member :: members).all (expects ·.1) then some (draft names) else none) =
      (if expects member.1 then some (draft (member.1 :: found)) else none).bind fun _ =>
        if members.all (expects ·.1) then some (draft names) else none := by
    rw [List.all_cons]
    cases expects member.1 with
    | true => rfl
    | false => rfl
  have hsplit : memberOctets member ++ after =
      textOctets member.1 ++ ':'.toUInt8 :: (member.2.octets ++ after) := by
    simp [memberOctets]
  rw [readDraft, hnext, hsplit, hexpected]
  dsimp only
  rw [readChars_textOctets hlength.1]
  refine (hmember found after hnew hends hlength.2).bind ?_ ?_
  · intro error herror
    simp only [herror]
  · intro value hvalue hsome
    simp only [hvalue]
    rw [Option.ite_none_right_eq_some, Option.some.injEq] at hsome
    rw [← hsome.2]
    exact hafter

/-- The members of a record are read one after the other, up to the closing brace. -/
theorem yields_readDraft_continued {found : List String} {members : List (String × Value)}
    (hmembers : ∀ member ∈ members, Extends read draft expects steps member)
    (hnodup : (members.map Prod.fst).Nodup)
    (hnew : ∀ member ∈ members, member.1 ∉ found)
    (hturns : (continued (quotedMembers members) ++ '\x7d'.toUInt8 :: rest).length < turns)
    (hsteps : turns ≤ steps) :
    Yields Refusal.IsMissing ('\x7d'.toUInt8 :: rest)
      (if members.all (expects ·.1) then some (draft ((members.map Prod.fst).reverse ++ found))
        else none)
      (readDraft read steps turns false (draft found)
        (continued (quotedMembers members) ++ '\x7d'.toUInt8 :: rest)) := by
  induction members generalizing turns found with
  -- only the closing brace is left, the draft is handed back as it is
  | nil =>
      match turns with
      | turns + 1 =>
          show Yields _ _ _ (readDraft read steps (turns + 1) false (draft found)
            ('\x7d'.toUInt8 :: rest))
          rw [readDraft, nextMember_closing]
          exact .read _
  | cons member members ih =>
      match turns with
      | turns + 1 =>
          rw [List.forall_mem_cons] at hmembers hnew
          rw [List.map_cons, List.nodup_cons] at hnodup
          rw [continued_quotedMembers] at hturns ⊢
          rw [List.length_cons, List.length_cons, List.length_append] at hturns
          rw [List.map_cons, List.reverse_cons, List.append_assoc, List.singleton_append]
          refine yields_readDraft_step hmembers.1 hnew.1 (nextMember_later _)
            (endsNumber_continued _ _ (Or.inr rfl)) (by rw [List.length_append]; omega)
            (ih hmembers.2 hnodup.2 (fun other hother => ?_) (by omega) (by omega))
          -- names are distinct, so what was just read is not read again
          rw [List.mem_cons, not_or]
          refine ⟨fun heq => hnodup.1 ?_, hnew.2 other hother⟩
          exact List.mem_map.mpr ⟨other, hother, heq⟩

/-- The members of a record are read from behind its opening brace. -/
theorem yields_readDraft (draft : List String → δ) (expects : String → Bool)
    {members : List (String × Value)}
    (hmembers : ∀ member ∈ members, Extends read draft expects steps member)
    (hnodup : (members.map Prod.fst).Nodup)
    (hsteps : (joined (quotedMembers members) ++ '\x7d'.toUInt8 :: rest).length < steps) :
    Yields Refusal.IsMissing ('\x7d'.toUInt8 :: rest)
      (if members.all (expects ·.1) then some (draft (members.map Prod.fst).reverse) else none)
      (readDraft read steps steps true (draft [])
        (joined (quotedMembers members) ++ '\x7d'.toUInt8 :: rest)) := by
  match steps, members with
  | steps + 1, [] =>
      -- an empty record closes before any member is read
      show Yields _ _ _ (readDraft read (steps + 1) (steps + 1) true (draft [])
        ('\x7d'.toUInt8 :: rest))
      rw [readDraft, nextMember_closing]
      exact .read _
  | steps + 1, member :: members =>
      rw [List.forall_mem_cons] at hmembers
      rw [List.map_cons, List.nodup_cons] at hnodup
      rw [joined_quotedMembers] at hsteps ⊢
      rw [List.length_cons, List.length_append] at hsteps
      rw [List.map_cons, List.reverse_cons]
      refine yields_readDraft_step hmembers.1 List.not_mem_nil (nextMember_first _)
        (endsNumber_continued _ _ (Or.inr rfl)) (by rw [List.length_append]; omega)
        (yields_readDraft_continued hmembers.2 hnodup.2 (fun other hother => ?_) (by omega)
          (by omega))
      rw [List.mem_singleton]
      exact fun heq => hnodup.1 (List.mem_map.mpr ⟨other, hother, heq⟩)

end

/-! ## Simple values -/

section

variable {steps nesting : Nat} {rest : Octets}

theorem readText_octets {expected text : String}
    (hsteps : ((Value.text text).octets ++ rest).length < steps) :
    readText steps expected ((Value.text text).octets ++ rest) = .ok (text, rest) := by
  rw [octets_text, List.cons_append, List.length_cons, List.length_append] at hsteps
  rw [octets_text, List.cons_append, readText, skipBlanks_cons (by decide)]
  dsimp only
  rw [if_pos rfl, readChars_textOctets (by omega)]

theorem readFlag_octets (flag : Bool) :
    readFlag steps ((Value.bool flag).octets ++ rest) = .ok (flag, rest) := by
  match flag with
  | true => rfl
  | false => rfl

theorem readBounded_octets {bound natural : Nat} {expected : String} (hbound : natural < bound)
    (hword : bound ≤ UInt64.size) (hends : EndsNumber rest) :
    readBounded steps bound expected ((Value.ofNat natural).octets ++ rest) =
      .ok (natural, rest) := by
  obtain ⟨octet, tail, hdigits, hdigit⟩ := exists_lead_digit natural
  have hoctets : (Value.ofNat natural).octets = digitOctets natural := octets_integer natural
  have hnumber : readNumber false (digitOctets natural ++ rest) = .ok (.integer natural, rest) :=
    readNumber_ofNat ⟨by omega, by omega⟩ hends
  rw [hdigits, List.cons_append] at hnumber
  rw [hoctets, hdigits, List.cons_append, readBounded, skipBlanks_cons (isBlank_of_isDigit hdigit)]
  dsimp only
  rw [if_neg (ne_of_isDigit hdigit (by decide)), if_pos hdigit, hnumber]
  have hbounded : boundedNat bound expected (.integer natural) = .ok natural := by
    rw [boundedNat, if_pos ⟨by omega, by simpa using hbound⟩]
    rfl
  simp only [Except.bind, hbounded]

theorem readFormatted_octets {α : Type} {expected text : String}
    {parse : String → Except String α} {value : α} (hparse : parse text = .ok value)
    (hsteps : ((Value.text text).octets ++ rest).length < steps) :
    readFormatted steps expected parse ((Value.text text).octets ++ rest) = .ok (value, rest) := by
  rw [readFormatted, readText_octets hsteps]
  simp only [bind, Except.bind, hparse]
  rfl

theorem readChoice_octets {α : Type} {names : List (String × α)} {name : String} {value : α}
    (hname : names.lookup name = some value)
    (hsteps : ((Value.text name).octets ++ rest).length < steps) :
    readChoice steps nesting names ((Value.text name).octets ++ rest) = .ok (value, rest) := by
  have hread : readName steps names ((Value.text name).octets ++ rest) = .ok (value, rest) := by
    rw [readName, readText_octets hsteps]
    simp only [bind, Except.bind, hname]
    rfl
  rw [octets_text, List.cons_append] at hread ⊢
  rw [readChoice, skipBlanks_cons (by decide)]
  dsimp only
  rw [if_pos rfl, hread]

end

/-! ## Reading by a schema -/

theorem Refusal.IsMissing.toStop {refusal : Refusal} (hmissing : refusal.IsMissing)
    (closing : Char) : (refusal.toStop closing).IsMissing := by
  cases refusal with
  | placed stop => exact hmissing
  | ofRecord problem rest => exact hmissing

section

variable {β δ : Type} {fields : Fields β δ} {removal : Removal} {values : β}
  {members : List (String × Value)}

/-- Once the members of all fields that are not left out have been read, the draft is completed to
what is expected. -/
theorem Fields.completes_of_all (hnodup : fields.names.Nodup)
    (hkept : members.Perm (fields.membersWithout arrangement removal values))
    (hall : members.all (fields.expects removal ·.1 values) = true) :
    Completes (fields.reset removal values)
      (fields.complete (fields.draft removal (members.map Prod.fst).reverse values)) := by
  refine fields.complete_draft hnodup (fun name hname => ?_) (fun name _ hfound => ?_)
  · rw [List.mem_reverse, (hkept.map Prod.fst).mem_iff]
    refine ⟨fun hfound => ?_, fields.mem_map_fst hname⟩
    obtain ⟨member, hmember, rfl⟩ := List.mem_map.mp hfound
    exact (fields.fst_mem_names hmember).2
  · obtain ⟨member, hmember, rfl⟩ := List.mem_map.mp (List.mem_reverse.mp hfound)
    exact List.all_eq_true.mp hall member hmember

/-- If nothing is expected of one of the members, then nothing is expected of the record. -/
theorem Fields.reset_eq_none_of_not_all
    (hkept : members.Perm (fields.membersWithout arrangement removal values))
    (hall : members.all (fields.expects removal ·.1 values) = false) :
    fields.reset removal values = none := by
  obtain ⟨member, hmember, hexpects⟩ := List.all_eq_false.mp hall
  exact fields.reset_eq_none (fields.fst_mem_names (hkept.mem_iff.mp hmember)).2
    (Bool.not_eq_true _ ▸ hexpects)

end

section

variable {α β δ : Type} {label : String} {schema : Schema α} {default? : Option α}
  {others : Fields β δ} {removal : Removal} {steps nesting : Nat} {value : α} {values : β}

/-- The member of the first field is read into its place in the draft. -/
theorem extends_readNamed_first {document : Value} (hlabel : label ∉ others.names)
    (hread : ∀ rest, EndsNumber rest → (document.octets ++ rest).length < steps →
      Yields Stop.IsMissing rest (schema.reset (removal.within (.field label)) value)
        (schema.read steps nesting (document.octets ++ rest))) :
    Extends ((Fields.field label schema default? others).readNamed steps nesting)
      ((Fields.field label schema default? others).draft removal · (value, values))
      ((Fields.field label schema default? others).expects removal · (value, values)) steps
      (label, document) := by
  intro found rest hnew hends hsteps
  have hyields := hread rest hends hsteps
  have hexpects : (Fields.field label schema default? others).expects removal label
      (value, values) = (schema.reset (removal.within (.field label)) value).isSome := if_pos rfl
  -- The name is new, so its place in the draft is still free.
  simp only [hexpects]
  rw [Fields.draft, Fields.draft, if_neg hnew, if_pos List.mem_cons_self, Fields.readNamed,
    if_pos rfl, others.draft_cons_of_not_mem hlabel, readColon_colon]
  dsimp only
  generalize schema.reset (removal.within (.field label)) value = expected at hyields ⊢
  show Yields _ _ _ ((placed (schema.read steps nesting (document.octets ++ rest))).map _)
  generalize schema.read steps nesting (document.octets ++ rest) = outcome at hyields ⊢
  cases hyields with
  | read value => exact .read _
  | lacks hmissing => exact .lacks hmissing

theorem readNamed_of_ne {name : String} {slot : Option α} {draft : δ} {rest : Octets}
    (hname : name ≠ label) :
    (Fields.field label schema default? others).readNamed steps nesting name (slot, draft) rest =
      (others.readNamed steps nesting name draft rest).map fun (draft, rest) =>
        ((slot, draft), rest) := by
  cases slot with
  | none => rw [Fields.readNamed, if_neg hname]
  | some value => rw [Fields.readNamed, if_neg hname]

/-- The members of the other fields are read into the others' draft. -/
theorem extends_readNamed_others {member : String × Value} (hname : member.1 ≠ label)
    (hmember : Extends (others.readNamed steps nesting) (others.draft removal · values)
      (others.expects removal · values) steps member) :
    Extends ((Fields.field label schema default? others).readNamed steps nesting)
      ((Fields.field label schema default? others).draft removal · (value, values))
      ((Fields.field label schema default? others).expects removal · (value, values)) steps
      member := by
  intro found rest hnew hends hsteps
  have hyields := hmember found rest hnew hends hsteps
  -- reading another member does not change whether this field was found
  have hiff : label ∈ member.1 :: found ↔ label ∈ found := by
    rw [List.mem_cons]
    exact or_iff_right (Ne.symm hname)
  have hexpects : (Fields.field label schema default? others).expects removal member.1
      (value, values) = others.expects removal member.1 values := if_neg hname
  dsimp only at hyields
  simp only [hexpects]
  rw [Fields.draft, Fields.draft, readNamed_of_ne hname]
  simp only [hiff]
  -- the same outcome decides both readings, and the slot of this field is
  -- carried along unchanged
  generalize others.readNamed steps nesting member.1 (others.draft removal found values)
    (':'.toUInt8 :: (member.2.octets ++ rest)) = outcome at hyields ⊢
  split at hyields
  · next hexpects =>
      rw [if_pos hexpects]
      exact hyields.map (_, ·)
  · next hexpects =>
      rw [if_neg hexpects]
      exact hyields.map (_, ·)

end

/-- Reading the document of a value, with fields left out, yields what is expected of it. -/
def Schema.IsReadBack (arrangement : Arrangement) {α : Type} (schema : Schema α) : Prop :=
  ∀ {removal nesting steps value rest}, schema.Fits nesting value → EndsNumber rest →
    ((schema.documentWithout arrangement removal value).octets ++ rest).length < steps →
      Yields Stop.IsMissing rest (schema.reset removal value)
        (schema.read steps nesting
          ((schema.documentWithout arrangement removal value).octets ++ rest))

/-- Reading the member of a field extends the draft by it. -/
def Fields.AreReadBack (arrangement : Arrangement) {β δ : Type} (fields : Fields β δ) : Prop :=
  ∀ {removal nesting steps values}, fields.Fits nesting values → fields.names.Nodup →
    ∀ member ∈ fields.membersWithout arrangement removal values,
      Extends (fields.readNamed steps nesting) (fields.draft removal · values)
        (fields.expects removal · values) steps member

theorem isReadBack_text : Schema.text.IsReadBack arrangement := by
  intro _ _ steps text rest _ _ hsteps
  have hread : readText steps "a string" ((Value.text text).octets ++ rest) = .ok (text, rest) :=
    readText_octets hsteps
  exact .of_eq_ok hread

theorem isReadBack_flag : Schema.flag.IsReadBack arrangement := by
  intro _ _ _ flag _ _ _ _
  exact .of_eq_ok (readFlag_octets flag)

theorem isReadBack_word64 (expected : String) :
    (Schema.word64 expected).IsReadBack arrangement := by
  intro _ _ steps word rest _ hends _
  have hread : readBounded steps UInt64.size expected ((Value.ofNat word.toNat).octets ++ rest) =
      .ok (word.toNat, rest) := readBounded_octets word.toNat_lt (by decide) hends
  refine .of_eq_ok ?_
  show (readBounded steps UInt64.size expected ((Value.ofNat word.toNat).octets ++ rest)).map _ = _
  rw [hread]
  show Except.ok (word.toNat.toUInt64, rest) = _
  rw [Nat.toUInt64_eq, UInt64.ofNat_toNat]

theorem isReadBack_word32 (expected : String) :
    (Schema.word32 expected).IsReadBack arrangement := by
  intro _ _ steps word rest _ hends _
  have hread : readBounded steps UInt32.size expected ((Value.ofNat word.toNat).octets ++ rest) =
      .ok (word.toNat, rest) := readBounded_octets word.toNat_lt (by decide) hends
  refine .of_eq_ok ?_
  show (readBounded steps UInt32.size expected ((Value.ofNat word.toNat).octets ++ rest)).map _ = _
  rw [hread]
  show Except.ok (word.toNat.toUInt32, rest) = _
  rw [Nat.toUInt32_eq, UInt32.ofNat_toNat]

theorem isReadBack_formatted {α : Type} (expected : String) (parse : String → Except String α)
    (print : α → String) : (Schema.formatted expected parse print).IsReadBack arrangement := by
  intro _ _ steps value rest hparse _ hsteps
  have hread : readFormatted steps expected parse ((Value.text (print value)).octets ++ rest) =
      .ok (value, rest) := readFormatted_octets hparse hsteps
  exact .of_eq_ok hread

theorem isReadBack_choice {α : Type} (names : List (String × α)) (name : α → String) :
    (Schema.choice names name).IsReadBack arrangement := by
  intro _ nesting steps value rest hname _ hsteps
  have hread : readChoice steps nesting names ((Value.text (name value)).octets ++ rest) =
      .ok (value, rest) := readChoice_octets hname hsteps
  exact .of_eq_ok hread

theorem isReadBack_value : Schema.value.IsReadBack arrangement := by
  intro _ nesting steps value rest hfits hends hsteps
  have hread : readValue steps nesting (value.octets ++ rest) = .ok (value, rest) :=
    readValue_octets hfits.1 hfits.2 hends hsteps
  exact .of_eq_ok hread

theorem isReadBack_list {α : Type} {element : Schema α}
    (helement : element.IsReadBack arrangement) :
    (Schema.list element).IsReadBack arrangement := by
  intro removal nesting steps elements rest hfits hends hsteps
  rw [Schema.documentWithout, octets_array, List.map_map, List.cons_append, List.append_assoc,
    List.singleton_append] at hsteps ⊢
  rw [Schema.read, Schema.reset, skipBlanks_cons (by decide)]
  dsimp only
  rw [if_pos rfl, if_neg (Nat.pos_iff_ne_zero.mp hfits.1)]
  refine yields_readElements (fun pair hpair => ?_) (Nat.lt_of_le_of_lt (Nat.le_succ _) hsteps)
  have hpart := hfits.2 _ (List.fst_mem_of_mem_zipIdx hpair)
  exact ⟨Value.opens_octets (element.isExact_documentWithout hpart), fun after => helement hpart⟩

theorem isReadBack_record {α β δ : Type} {name : String} {fields : Fields β δ}
    {make : β → α} {parts : α → β} (hread : fields.AreReadBack arrangement) :
    (Schema.record name fields make parts).IsReadBack arrangement := by
  intro removal nesting steps record rest hfits hends hsteps
  obtain ⟨hpos, -, hnodup, hfields⟩ := hfits
  have hkept : (arrangement.arrange
      (fields.membersWithout arrangement removal (parts record))).Perm
      (fields.membersWithout arrangement removal (parts record)) :=
    arrangement.perm (fields.nodup_membersWithout hnodup)
  rw [Schema.documentWithout, octets_object, List.cons_append, List.append_assoc,
    List.singleton_append] at hsteps ⊢
  rw [Schema.read, Schema.reset, skipBlanks_cons (by decide)]
  dsimp only
  rw [if_neg (by decide), if_pos rfl, if_neg (Nat.pos_iff_ne_zero.mp hpos),
    ← fields.draft_nil removal (parts record)]
  -- From here on the order does not matter, only which members there are.
  generalize arrangement.arrange
    (fields.membersWithout arrangement removal (parts record)) = members at hkept hsteps ⊢
  have hdraft := yields_readDraft (fields.draft removal · (parts record))
    (fields.expects removal · (parts record))
    (fun member hmember => hread hfields hnodup member (hkept.mem_iff.mp hmember))
    ((hkept.map Prod.fst).nodup_iff.mpr (fields.nodup_membersWithout hnodup))
    (Nat.lt_of_le_of_lt (Nat.le_succ _) hsteps)
  -- A member of which nothing is expected ends the reading; otherwise the draft is completed, and
  -- what it lacks then are fields of this record.
  by_cases hall : members.all (fields.expects removal ·.1 (parts record)) = true
  · rw [if_pos hall] at hdraft
    rw [hdraft.eq_ok]
    dsimp only
    have hcompletes := fields.completes_of_all hnodup hkept hall
    generalize fields.reset removal (parts record) = expected,
      fields.complete (fields.draft removal (members.map Prod.fst).reverse (parts record)) =
        completed at hcompletes ⊢
    cases hcompletes with
    | complete values =>
        dsimp only
        rw [closeObject_closing]
        exact .read _
    | lacks hmissing => exact .lacks hmissing
  · rw [if_neg hall] at hdraft
    obtain ⟨refusal, hrefusal, hmissing⟩ := hdraft.exists_error
    rw [hrefusal, fields.reset_eq_none_of_not_all hkept (Bool.not_eq_true _ ▸ hall)]
    exact .lacks (hmissing.toStop _)

theorem areReadBack_done : Fields.done.AreReadBack arrangement := by
  intro _ _ _ _ _ _ member hmember
  cases hmember

theorem areReadBack_field {α β δ : Type} {label : String} {schema : Schema α}
    {default? : Option α} {others : Fields β δ} (hschema : schema.IsReadBack arrangement)
    (hothers : others.AreReadBack arrangement) :
    (Fields.field label schema default? others).AreReadBack arrangement := by
  intro removal nesting steps (value, values) hfits hnodup member hmember
  rw [Fields.names, List.nodup_cons] at hnodup
  have hlater : member ∈ others.membersWithout arrangement removal values →
      Extends ((Fields.field label schema default? others).readNamed steps nesting)
        ((Fields.field label schema default? others).draft removal · (value, values))
        ((Fields.field label schema default? others).expects removal · (value, values)) steps
        member := fun hmember =>
    extends_readNamed_others (fun heq => hnodup.1 (heq ▸ (others.fst_mem_names hmember).1))
      (hothers hfits.2 hnodup.2 member hmember)
  rw [Fields.membersWithout] at hmember
  split at hmember
  · exact hlater hmember
  · rcases List.mem_cons.mp hmember with rfl | hmember
    · exact extends_readNamed_first hnodup.1 fun _ => hschema hfits.1
    · exact hlater hmember

mutual

theorem Schema.isReadBack : {α : Type} → (schema : Schema α) → schema.IsReadBack arrangement
  | _, .text => isReadBack_text
  | _, .flag => isReadBack_flag
  | _, .word64 expected => isReadBack_word64 expected
  | _, .word32 expected => isReadBack_word32 expected
  | _, .formatted expected parse print => isReadBack_formatted expected parse print
  | _, .choice names name => isReadBack_choice names name
  | _, .value => isReadBack_value
  | _, .list element => isReadBack_list element.isReadBack
  | _, .record _ fields _ _ => isReadBack_record fields.areReadBack

theorem Fields.areReadBack : {β δ : Type} → (fields : Fields β δ) → fields.AreReadBack arrangement
  | _, _, .done => areReadBack_done
  | _, _, .field _ schema _ others => areReadBack_field schema.isReadBack others.areReadBack

end

/-! ## Whole documents -/

theorem readWhole_eq_error {α : Type} {read : Nat → Octets → Reading α} {document : Octets}
    {stop : Stop} (hread : read (document.length + 1) document = .error stop) :
    readWhole read document = .error (stop.toError document) := by
  rw [readWhole, hread]

section

variable {α : Type} {schema : Schema α} {removal : Removal} {value : α}

/-- A whole document with fields left out is read. -/
theorem Schema.yields_read_whole (arrangement : Arrangement) (removal : Removal)
    (hfits : schema.Fits nestingLimit value) :
    Yields Stop.IsMissing [] (schema.reset removal value)
      (schema.read ((schema.documentWithout arrangement removal value).octets.length + 1)
        nestingLimit (schema.documentWithout arrangement removal value).octets) := by
  rw [← List.append_nil (schema.documentWithout arrangement removal value).octets]
  exact schema.isReadBack hfits endsNumber_nil (Nat.lt_succ_self _)

/-- A document with fields left out is read as the value with defaults in their places. -/
theorem Schema.decode_without (hfits : schema.Fits nestingLimit value) {expected : α}
    (hreset : schema.reset removal value = some expected) :
    schema.decode (schema.documentWithout arrangement removal value).octets = .ok expected := by
  have hread := Schema.yields_read_whole arrangement removal hfits
  rw [hreset] at hread
  exact readWhole_eq_ok_iff.mpr ⟨[], hread.eq_ok, rfl⟩

/-- A document in which a field without default is left out is refused for it. -/
theorem Schema.decode_lacking (hfits : schema.Fits nestingLimit value)
    (hlacks : schema.Lacks removal value) :
    ∃ error name, schema.decode (schema.documentWithout arrangement removal value).octets =
      .error error ∧ error.problem = .missingField name := by
  have hread := Schema.yields_read_whole arrangement removal hfits
  rw [schema.reset_eq_none_iff.mpr hlacks] at hread
  obtain ⟨stop, hstop, name, hname⟩ := hread.exists_error
  exact ⟨_, name, readWhole_eq_error hstop, hname⟩

/-- What is written is read back. -/
theorem Schema.decode_encode (hfits : schema.Fits nestingLimit value) :
    schema.decode (schema.encode value) = .ok value := by
  show schema.decode (schema.toValue value).octets = _
  rw [schema.toValue_eq]
  exact Schema.decode_without hfits (schema.reset_none hfits)

end

end ChainGateway.Json
