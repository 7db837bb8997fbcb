import ChainGateway.Proofs.Json.RoundTrip

/-!
# Documents with fields left out

A document may lack some of the fields that its schema has, at any depth.  `Removal` says which, by
their paths; `Schema.documentWithout` is the document without them, and `Schema.reset` is the value
that is expected of it, with the defaults of these fields in their places.  No value is expected
exactly if one of the fields has no default (`Schema.reset_eq_none_iff`).

Members may be written in any order (`Arrangement`): in the order of their names, as documents are
written, or in the order of the fields.

The members of a record are read into a draft.  It depends only on which fields have been found, not
on their order (`Fields.draft`), and once all fields that are not left out have been found,
completing the draft gives what is expected (`Fields.complete_draft`).
-/

namespace ChainGateway.Json

open Text

/-! ## Fields that are left out -/

/-- A step from a value into it. -/
inductive Part where
  | field (name : String)
  | element (index : Nat)
  deriving DecidableEq, Repr

/-- Which fields are left out, by their paths. -/
def Removal : Type := List Part → Bool

namespace Removal

/-- No field is left out. -/
def none : Removal := fun _ => false

/-- What is left out of a part. -/
def within (removal : Removal) (part : Part) : Removal := fun path => removal (part :: path)

/-- Is the field with this name left out? -/
def removes (removal : Removal) (name : String) : Bool := removal [.field name]

end Removal

/-- An order in which the members of objects are written. -/
structure Arrangement where
  arrange : List (String × Value) → List (String × Value)
  perm : ∀ {members : List (String × Value)}, (members.map Prod.fst).Nodup →
    (arrange members).Perm members

/-- The order of the fields. -/
def Arrangement.declared : Arrangement :=
  ⟨id, fun _ => .refl _⟩

theorem perm_insertMember {name : String} {value : Value} {members : List (String × Value)}
    (hnew : name ∉ members.map Prod.fst) :
    (insertMember name value members).Perm ((name, value) :: members) := by
  induction members with
  | nil => exact .refl _
  | cons member members ih =>
      rw [List.map_cons, List.mem_cons, not_or] at hnew
      rw [insertMember]
      split
      · exact .refl _
      · rw [if_neg hnew.1]
        exact ((ih hnew.2).cons member).trans (.swap _ _ _)

/-- Members with different names are only put in order. -/
theorem perm_foldl_insertMember {members known : List (String × Value)}
    (hnodup : ((members ++ known).map Prod.fst).Nodup) :
    (members.foldl (fun known member => insertMember member.1 member.2 known) known).Perm
      (members ++ known) := by
  induction members generalizing known with
  | nil => exact .refl _
  | cons member members ih =>
      have hinsert : (insertMember member.1 member.2 known).Perm (member :: known) := by
        refine perm_insertMember fun hmem => ?_
        rw [List.cons_append, List.map_cons, List.nodup_cons] at hnodup
        exact hnodup.1 (by rw [List.map_append]; exact List.mem_append_right _ hmem)
      have hmiddle : (members ++ member :: known).Perm (member :: members ++ known) :=
        List.perm_middle
      have hperm := (List.Perm.append_left members hinsert).trans hmiddle
      rw [List.foldl_cons]
      exact (ih ((hperm.map _).nodup_iff.mpr hnodup)).trans hperm

/-- The order of the names, in which documents are written. -/
def Arrangement.byName : Arrangement where
  arrange members := members.foldl (fun known member => insertMember member.1 member.2 known) []
  perm hnodup := by
    refine (perm_foldl_insertMember (by rwa [List.append_nil])).trans ?_
    rw [List.append_nil]

variable (arrangement : Arrangement)

mutual

/-- The document of a value with fields left out. -/
def Schema.documentWithout (removal : Removal) : {α : Type} → Schema α → α → Value
  | _, .list element, elements =>
      .array (elements.zipIdx.map fun (value, index) =>
        element.documentWithout (removal.within (.element index)) value)
  | _, .record _ fields _ parts, record =>
      .object (arrangement.arrange (fields.membersWithout removal (parts record)))
  | _, .text, value => .text value
  | _, .flag, value => .bool value
  | _, .word64 _, value => .ofNat value.toNat
  | _, .word32 _, value => .ofNat value.toNat
  | _, .formatted _ _ print, value => .text (print value)
  | _, .choice _ name, value => .text (name value)
  | _, .value, value => value

/-- The members of the fields that are not left out. -/
def Fields.membersWithout (removal : Removal) :
    {β δ : Type} → Fields β δ → β → List (String × Value)
  | _, _, .done, _ => []
  | _, _, .field name schema _ rest, (value, values) =>
      if removal.removes name then rest.membersWithout removal values
      else (name, schema.documentWithout (removal.within (.field name)) value) ::
        rest.membersWithout removal values

end

mutual

/-- The value with defaults in the place of the fields that are left out, if all of these have
one. -/
def Schema.reset (removal : Removal) : {α : Type} → Schema α → α → Option α
  | _, .list element, elements =>
      elements.zipIdx.mapM fun (value, index) =>
        element.reset (removal.within (.element index)) value
  | _, .record _ fields make parts, record => (fields.reset removal (parts record)).map make
  | _, .text, value => some value
  | _, .flag, value => some value
  | _, .word64 _, value => some value
  | _, .word32 _, value => some value
  | _, .formatted _ _ _, value => some value
  | _, .choice _ _, value => some value
  | _, .value, value => some value

/-- The values of fields, with defaults for those that are left out. -/
def Fields.reset (removal : Removal) : {β δ : Type} → Fields β δ → β → Option β
  | _, _, .done, _ => some ()
  | _, _, .field name schema default? rest, (value, values) =>
      (if removal.removes name then default?
        else schema.reset (removal.within (.field name)) value).bind fun value =>
          (rest.reset removal values).map fun values => (value, values)

end

mutual

/-- A field without default is left out. -/
def Schema.Lacks (removal : Removal) : {α : Type} → Schema α → α → Prop
  | _, .list element, elements =>
      ∃ part ∈ elements.zipIdx, element.Lacks (removal.within (.element part.2)) part.1
  | _, .record _ fields _ parts, record => fields.Lacks removal (parts record)
  | _, .text, _ => False
  | _, .flag, _ => False
  | _, .word64 _, _ => False
  | _, .word32 _, _ => False
  | _, .formatted _ _ _, _ => False
  | _, .choice _ _, _ => False
  | _, .value, _ => False

/-- One of the fields is left out and has no default, or lacks such a field itself. -/
def Fields.Lacks (removal : Removal) : {β δ : Type} → Fields β δ → β → Prop
  | _, _, .done, _ => False
  | _, _, .field name schema default? rest, (value, values) =>
      (if removal.removes name then default? = none
        else schema.Lacks (removal.within (.field name)) value) ∨ rest.Lacks removal values

end

/-- The names of fields, in order. -/
def Fields.names : {β δ : Type} → Fields β δ → List String
  | _, _, .done => []
  | _, _, .field name _ _ rest => name :: rest.names

mutual

/-- The value can be written and read back by the schema with so many more brackets and braces
allowed to be opened: texts of a particular form and names are read as what they were written for,
records are put together from their parts, and the names of their fields differ. -/
def Schema.Fits : {α : Type} → Schema α → Nat → α → Prop
  | _, .list element, nesting, elements =>
      0 < nesting ∧ ∀ value ∈ elements, element.Fits (nesting - 1) value
  | _, .record _ fields make parts, nesting, record =>
      0 < nesting ∧ make (parts record) = record ∧ fields.names.Nodup ∧
        fields.Fits (nesting - 1) (parts record)
  | _, .text, _, _ => True
  | _, .flag, _, _ => True
  | _, .word64 _, _, _ => True
  | _, .word32 _, _, _ => True
  | _, .formatted _ parse print, _, value => parse (print value) = .ok value
  | _, .choice names name, _, value => names.lookup (name value) = some value
  | _, .value, nesting, value => value.Readable nesting ∧ value.IsExact

/-- The values of all fields can be written and read back. -/
def Fields.Fits : {β δ : Type} → Fields β δ → Nat → β → Prop
  | _, _, .done, _, _ => True
  | _, _, .field _ schema _ rest, nesting, (value, values) =>
      schema.Fits nesting value ∧ rest.Fits nesting values

end

variable {arrangement}

/-! ## Nothing left out -/

theorem map_fst_zipIdx {α β : Type} (values : List α) (change : α → β) :
    (values.zipIdx.map fun (value, _) => change value) = values.map change := by
  have hfirst := List.zipIdx_map_fst 0 values
  conv => rhs; rw [← hfirst, List.map_map]
  rfl

mutual

theorem Schema.toValue_eq : {α : Type} → (schema : Schema α) → (value : α) →
    schema.toValue value = schema.documentWithout .byName .none value
  | _, .list element, elements => by
      have helement : element.toValue = element.documentWithout .byName .none :=
        funext element.toValue_eq
      rw [Schema.toValue, Schema.documentWithout, helement]
      exact congrArg Value.array (map_fst_zipIdx elements _).symm
  | _, .record _ fields _ parts, record => by
      rw [Schema.toValue, Schema.documentWithout, Value.ofMembers,
        fields.toMembers_eq (parts record)]
      rfl
  | _, .text, _ => rfl
  | _, .flag, _ => rfl
  | _, .word64 _, _ => rfl
  | _, .word32 _, _ => rfl
  | _, .formatted _ _ _, _ => rfl
  | _, .choice _ _, _ => rfl
  | _, .value, _ => rfl

theorem Fields.toMembers_eq : {β δ : Type} → (fields : Fields β δ) → (values : β) →
    fields.toMembers values = fields.membersWithout .byName .none values
  | _, _, .done, _ => rfl
  | _, _, .field name schema _ rest, (value, values) => by
      rw [Fields.toMembers, schema.toValue_eq value, rest.toMembers_eq values]
      rfl

end

mutual

/-- With nothing left out, the value itself is expected. -/
theorem Schema.reset_none : {α : Type} → (schema : Schema α) → {nesting : Nat} → {value : α} →
    schema.Fits nesting value → schema.reset .none value = some value
  | _, .list element, _, elements, hfits => by
      -- no removal inside any element, whatever position it is at
      have hsome : ∀ {pairs : List (_ × Nat)}, (∀ pair ∈ pairs, pair.1 ∈ elements) →
          pairs.mapM (fun (value, index) =>
            element.reset (Removal.none.within (.element index)) value) =
            some (pairs.map Prod.fst) := by
        intro pairs hpairs
        induction pairs with
        | nil => rfl
        | cons pair pairs ih =>
            rw [List.forall_mem_cons] at hpairs
            rw [List.mapM_cons, ih hpairs.2]
            show (element.reset .none pair.1).bind _ = _
            rw [element.reset_none (hfits.2 _ hpairs.1)]
            rfl
      rw [Schema.reset, hsome fun pair hpair => List.fst_mem_of_mem_zipIdx hpair,
        List.zipIdx_map_fst]
  | _, .record _ fields make parts, _, record, hfits => by
      rw [Schema.reset, fields.reset_none hfits.2.2.2]
      exact congrArg some hfits.2.1
  | _, .text, _, _, _ => rfl
  | _, .flag, _, _, _ => rfl
  | _, .word64 _, _, _, _ => rfl
  | _, .word32 _, _, _, _ => rfl
  | _, .formatted _ _ _, _, _, _ => rfl
  | _, .choice _ _, _, _, _ => rfl
  | _, .value, _, _, _ => rfl

theorem Fields.reset_none : {β δ : Type} → (fields : Fields β δ) → {nesting : Nat} →
    {values : β} → fields.Fits nesting values → fields.reset .none values = some values
  | _, _, .done, _, _, _ => rfl
  | _, _, .field name schema _ rest, _, (value, values), hfits => by
      show (schema.reset .none value).bind (fun value =>
        (rest.reset .none values).map fun values => (value, values)) = _
      rw [schema.reset_none hfits.1, rest.reset_none hfits.2]
      rfl

end

/-! ## What has no expected value -/

theorem mapM_eq_none_iff {α β : Type} {values : List α} {change : α → Option β} :
    values.mapM change = none ↔ ∃ value ∈ values, change value = none := by
  induction values with
  | nil => simp
  | cons value values ih =>
      have hsplit : (∃ found ∈ value :: values, change found = none) ↔
          change value = none ∨ ∃ found ∈ values, change found = none := by simp
      rw [List.mapM_cons, hsplit, ← ih]
      cases change value with
      | none => simp
      | some changed => cases values.mapM change <;> simp

mutual

/-- No value is expected exactly if a field without default is left out. -/
theorem Schema.reset_eq_none_iff : {α : Type} → (schema : Schema α) → {removal : Removal} →
    {value : α} → (schema.reset removal value = none ↔ schema.Lacks removal value)
  | _, .list element, removal, elements => by
      rw [Schema.reset, Schema.Lacks, mapM_eq_none_iff]
      exact exists_congr fun pair => and_congr_right fun _ => element.reset_eq_none_iff
  | _, .record _ fields _ parts, removal, record => by
      rw [Schema.reset, Schema.Lacks, Option.map_eq_none_iff]
      exact fields.reset_eq_none_iff
  | _, .text, _, _ => by simp [Schema.reset, Schema.Lacks]
  | _, .flag, _, _ => by simp [Schema.reset, Schema.Lacks]
  | _, .word64 _, _, _ => by simp [Schema.reset, Schema.Lacks]
  | _, .word32 _, _, _ => by simp [Schema.reset, Schema.Lacks]
  | _, .formatted _ _ _, _, _ => by simp [Schema.reset, Schema.Lacks]
  | _, .choice _ _, _, _ => by simp [Schema.reset, Schema.Lacks]
  | _, .value, _, _ => by simp [Schema.reset, Schema.Lacks]

theorem Fields.reset_eq_none_iff : {β δ : Type} → (fields : Fields β δ) → {removal : Removal} →
    {values : β} → (fields.reset removal values = none ↔ fields.Lacks removal values)
  | _, _, .done, _, _ => by simp [Fields.reset, Fields.Lacks]
  | _, _, .field name schema default? rest, removal, (value, values) => by
      have hvalue : (if removal.removes name then default? = none
          else schema.Lacks (removal.within (.field name)) value) ↔
          (if removal.removes name then default?
            else schema.reset (removal.within (.field name)) value) = none := by
        split
        · exact Iff.rfl
        · exact schema.reset_eq_none_iff.symm
      rw [Fields.reset, Fields.Lacks, hvalue, ← rest.reset_eq_none_iff]
      generalize (if removal.removes name then default?
        else schema.reset (removal.within (.field name)) value) = found
      cases found with
      | none => simp
      | some found => simp

end

/-! ## What documents hold -/

theorem Fields.fst_mem_names : {β δ : Type} → (fields : Fields β δ) → {removal : Removal} →
    {values : β} → {member : String × Value} →
    member ∈ fields.membersWithout arrangement removal values →
      member.1 ∈ fields.names ∧ removal.removes member.1 = false
  | _, _, .done, _, _, _, hmember => nomatch hmember
  | _, _, .field name schema _ rest, removal, (value, values), member, hmember => by
      rw [Fields.membersWithout] at hmember
      rw [Fields.names]
      split at hmember
      · exact (rest.fst_mem_names hmember).imp_left (List.mem_cons_of_mem _)
      · next hkept =>
          rcases List.mem_cons.mp hmember with rfl | hmember
          · exact ⟨List.mem_cons_self, Bool.not_eq_true _ ▸ hkept⟩
          · exact (rest.fst_mem_names hmember).imp_left (List.mem_cons_of_mem _)

theorem Fields.mem_map_fst : {β δ : Type} → (fields : Fields β δ) → {removal : Removal} →
    {values : β} → {name : String} → name ∈ fields.names → removal.removes name = false →
      name ∈ (fields.membersWithout arrangement removal values).map Prod.fst
  | _, _, .done, _, _, _, hname, _ => nomatch hname
  | _, _, .field label schema _ rest, removal, (value, values), name, hname, hkept => by
      rw [Fields.membersWithout]
      rw [Fields.names] at hname
      rcases List.mem_cons.mp hname with rfl | hname
      · rw [hkept]
        exact List.mem_cons_self
      · split
        · exact rest.mem_map_fst hname hkept
        · exact List.mem_cons_of_mem _ (rest.mem_map_fst hname hkept)

theorem Fields.nodup_membersWithout : {β δ : Type} → (fields : Fields β δ) →
    {removal : Removal} → {values : β} → fields.names.Nodup →
      ((fields.membersWithout arrangement removal values).map Prod.fst).Nodup
  | _, _, .done, _, _, _ => List.nodup_nil
  | _, _, .field label schema _ rest, removal, (value, values), hnodup => by
      rw [Fields.names, List.nodup_cons] at hnodup
      rw [Fields.membersWithout]
      split
      · exact rest.nodup_membersWithout hnodup.2
      · rw [List.map_cons, List.nodup_cons]
        refine ⟨fun hlabel => hnodup.1 ?_, rest.nodup_membersWithout hnodup.2⟩
        obtain ⟨member, hmember, heq⟩ := List.mem_map.mp hlabel
        have hname : member.1 = label := heq
        rw [← hname]
        exact (rest.fst_mem_names hmember).1

mutual

/-- A document holds no floating-point number unless the value does. -/
theorem Schema.isExact_documentWithout : {α : Type} → (schema : Schema α) →
    {removal : Removal} → {nesting : Nat} → {value : α} → schema.Fits nesting value →
      (schema.documentWithout arrangement removal value).IsExact
  | _, .list element, _, _, elements, hfits => by
      refine .array fun document hdocument => ?_
      obtain ⟨pair, hpair, rfl⟩ := List.mem_map.mp hdocument
      exact element.isExact_documentWithout (hfits.2 _ (List.fst_mem_of_mem_zipIdx hpair))
  | _, .record _ fields _ parts, _, _, record, hfits => by
      refine .object fun member hmember => ?_
      rw [(arrangement.perm (fields.nodup_membersWithout hfits.2.2.1)).mem_iff] at hmember
      exact fields.isExact_membersWithout hfits.2.2.2 member hmember
  | _, .text, _, _, _, _ => .text _
  | _, .flag, _, _, _, _ => .bool _
  | _, .word64 _, _, _, _, _ => .integer _
  | _, .word32 _, _, _, _, _ => .integer _
  | _, .formatted _ _ _, _, _, _, _ => .text _
  | _, .choice _ _, _, _, _, _ => .text _
  | _, .value, _, _, _, hfits => hfits.2

theorem Fields.isExact_membersWithout : {β δ : Type} → (fields : Fields β δ) →
    {removal : Removal} → {nesting : Nat} → {values : β} → fields.Fits nesting values →
      ∀ member ∈ fields.membersWithout arrangement removal values, member.2.IsExact
  | _, _, .done, _, _, _, _ => nofun
  | _, _, .field _ schema _ rest, removal, _, (value, values), hfits => by
      intro member hmember
      rw [Fields.membersWithout] at hmember
      split at hmember
      · exact rest.isExact_membersWithout hfits.2 member hmember
      · rcases List.mem_cons.mp hmember with rfl | hmember
        · exact schema.isExact_documentWithout hfits.1
        · exact rest.isExact_membersWithout hfits.2 member hmember

end

/-! ## Drafts -/

/-- The draft in which the fields found have been read. -/
def Fields.draft (removal : Removal) (found : List String) : {β δ : Type} → Fields β δ → β → δ
  | _, _, .done, _ => ()
  | _, _, .field name schema _ rest, (value, values) =>
      (if name ∈ found then schema.reset (removal.within (.field name)) value else none,
        rest.draft removal found values)

/-- Is there a value to be expected for the field with this name, if it is not left out? -/
def Fields.expects (removal : Removal) (name : String) :
    {β δ : Type} → Fields β δ → β → Bool
  | _, _, .done, _ => true
  | _, _, .field label schema _ rest, (value, values) =>
      if name = label then (schema.reset (removal.within (.field label)) value).isSome
      else rest.expects removal name values

theorem Fields.draft_nil : {β δ : Type} → (fields : Fields β δ) → (removal : Removal) →
    (values : β) → fields.draft removal [] values = fields.emptyDraft
  | _, _, .done, _, _ => rfl
  | _, _, .field name schema _ rest, removal, (value, values) => by
      rw [Fields.draft, Fields.emptyDraft, if_neg List.not_mem_nil, rest.draft_nil]

/-- Other names do not matter to a draft. -/
theorem Fields.draft_cons_of_not_mem : {β δ : Type} → (fields : Fields β δ) →
    {removal : Removal} → {values : β} → {name : String} → {found : List String} →
      name ∉ fields.names →
        fields.draft removal (name :: found) values = fields.draft removal found values
  | _, _, .done, _, _, _, _, _ => rfl
  | _, _, .field label schema _ rest, removal, (value, values), name, found, hname => by
      rw [Fields.names, List.mem_cons, not_or] at hname
      have hiff : label ∈ name :: found ↔ label ∈ found := by
        rw [List.mem_cons]
        exact or_iff_right (Ne.symm hname.1)
      rw [Fields.draft, Fields.draft, rest.draft_cons_of_not_mem hname.2]
      simp only [hiff]

/-- The outcome of putting a draft together: what was expected, or a field is missing. -/
inductive Completes {β : Type} : Option β → Except Problem β → Prop
  | complete (values : β) : Completes (some values) (.ok values)
  | lacks {problem : Problem} (hmissing : problem.IsMissing) : Completes none (.error problem)

theorem Completes.map {β γ : Type} {expected : Option β} {outcome : Except Problem β}
    (hcompletes : Completes expected outcome) (change : β → γ) :
    Completes (expected.map change) (outcome.map change) := by
  cases hcompletes with
  | complete values => exact complete (change values)
  | lacks hmissing => exact lacks hmissing

/-- Completing the draft of the fields that are not left out gives what is expected. -/
theorem Fields.complete_draft : {β δ : Type} → (fields : Fields β δ) → {removal : Removal} →
    {values : β} → {found : List String} → fields.names.Nodup →
      (∀ name ∈ fields.names, name ∈ found ↔ removal.removes name = false) →
      (∀ name ∈ fields.names, name ∈ found → fields.expects removal name values = true) →
        Completes (fields.reset removal values)
          (fields.complete (fields.draft removal found values))
  | _, _, .done, _, _, _, _, _, _ => .complete ()
  | _, _, .field label schema default? rest, removal, (value, values), found, hnodup, hfound,
      hexpects => by
      rw [Fields.names, List.nodup_cons] at hnodup
      rw [Fields.names, List.forall_mem_cons] at hfound hexpects
      -- the remaining fields have other names, so their expectations carry over
      have hrest := rest.complete_draft hnodup.2 hfound.2 fun name hname hmem => by
        have hne : name ≠ label := fun heq => hnodup.1 (heq ▸ hname)
        have hmember := hexpects.2 name hname hmem
        rwa [Fields.expects, if_neg hne] at hmember
      by_cases hremoved : removal.removes label = true
      · -- left out: the slot is empty, and only a default can fill it
        have hnot : label ∉ found := by
          rw [hfound.1, hremoved]
          decide
        rw [Fields.reset, Fields.draft, if_pos hremoved, if_neg hnot]
        match default? with
        | none => exact .lacks ⟨label, rfl⟩
        | some value => exact hrest.map (value, ·)
      · -- not left out: the slot holds the value that was read
        have hmem : label ∈ found := hfound.1.mpr (Bool.not_eq_true _ ▸ hremoved)
        have hsome := hexpects.1 hmem
        rw [Fields.expects, if_pos rfl] at hsome
        obtain ⟨expected, hexpected⟩ := Option.isSome_iff_exists.mp hsome
        rw [Fields.reset, Fields.draft, if_neg hremoved, if_pos hmem, hexpected]
        exact hrest.map (expected, ·)

/-- Where a field that is not left out has no value to be expected, the record has none. -/
theorem Fields.reset_eq_none : {β δ : Type} → (fields : Fields β δ) → {removal : Removal} →
    {values : β} → {name : String} → removal.removes name = false →
      fields.expects removal name values = false → fields.reset removal values = none
  | _, _, .done, _, _, _, _, hexpects => nomatch hexpects
  | _, _, .field label schema default? rest, removal, (value, values), name, hkept, hexpects => by
      rw [Fields.expects] at hexpects
      rw [Fields.reset]
      by_cases hname : name = label
      · subst hname
        rw [if_pos rfl, Option.isSome_eq_false_iff, Option.isNone_iff_eq_none] at hexpects
        rw [hkept, if_neg (by decide), hexpects]
        rfl
      · rw [if_neg hname] at hexpects
        rw [rest.reset_eq_none hkept hexpects]
        generalize (if removal.removes label then default?
          else schema.reset (removal.within (.field label)) value) = expected
        cases expected with
        | none => rfl
        | some expected => rfl

end ChainGateway.Json
