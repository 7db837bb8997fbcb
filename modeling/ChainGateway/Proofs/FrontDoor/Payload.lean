import ChainGateway.Proofs.FrontDoor.Outcome
import ChainGateway.Proofs.Json.Passed
import ChainGateway.Proofs.Json.Records

/-!
# What the body of a request carries

The front door reads the body of a request by a schema of two fields and hands the raw data on in
compact form.  Unless it holds floating-point numbers, nothing is lost on the way: the data of the
relay reads back as the raw data of the body, so that different raw data are never relayed as the
same text (`data_denotes_raw_data`).

## Strategy

That the compact form reads back was shown for all values that are read (`parse_render`).  What is
left is that the schema finds the raw data that the body has as a document.  Here the reader of
drafts and the reader of values are followed side by side, from member to member.  They agree on
where each member ends, also for members that the former only passes over
(`skipValue_of_readValue`), and the raw data in the draft is the one among the members read so far
(`lookup_of_readDraft`).  A body in the form of a list is read element by element.
-/

namespace ChainGateway

namespace Json

open Text

variable {steps nesting : Nat} {rest left : Octets}

/-! ## Readers that are asked for less -/

/-- A value of the wrong kind is always refused, whatever is read to name it. -/
theorem readMismatch_ne_ok {α : Type} {expected : String} {value : α} :
    readMismatch steps expected rest ≠ .ok value := by
  have hstop : ∀ {problem : Problem} {left : Octets},
      (stop problem left : Except Stop α) ≠ .ok value := by
    intro problem left hread
    cases hread
  -- what names the value is read first, and the refusal comes after it
  have hnamed : ∀ {β : Type} {named : Except Stop β} {problem : β → Problem} {left : β → Octets},
      (named >>= fun found => stop (problem found) (left found)) ≠ .ok value := by
    intro β named problem left hbind
    obtain ⟨found, -, hfound⟩ := bind_eq_ok_iff.mp hbind
    exact hstop hfound
  unfold readMismatch
  split
  · exact hstop
  · repeat' split
    · exact hnamed
    · exact hnamed
    · exact hnamed
    · exact hnamed
    · exact hnamed
    · exact hnamed
    · exact hstop
    · exact hstop
    · exact hstop

/-- A text that is asked for could have been read as a value. -/
theorem readValue_of_readText {expected text : String}
    (hread : readText steps expected rest = .ok (text, left)) :
    readValue steps nesting rest = .ok (.text text, left) := by
  unfold readText at hread
  split at hread
  · cases hread
  next octet tail hblanks =>
  split at hread
  · next hquote =>
      rw [← readValue_skipBlanks, hblanks, hquote, readValue_text, hread]
      rfl
  · exact absurd hread readMismatch_ne_ok

/-- A value that is read leaves no more than there was. -/
theorem length_of_readValue {value : Value}
    (hread : readValue steps nesting rest = .ok (value, left)) : left.length ≤ rest.length := by
  obtain ⟨turns, hturns, -⟩ := canPass_readValue.passes hread []
  omega

theorem placed_eq_ok_iff {α : Type} {step : Except Stop α} {value : α} :
    placed step = .ok value ↔ step = .ok value := by
  cases step with
  | error problem => simp [placed]
  | ok found => simp [placed]

end Json

namespace FrontDoor

open Json Text

/-! ## The raw data of a body -/

/-- The raw data that a body has as a document: the member with that name, or the second one of a
list; null where there is none. -/
def rawDataOf : Value → Value
  | .object members => (members.lookup "rawData").getD .null
  | .array elements => elements[1]?.getD .null
  | _ => .null

/-- The fields of a body. -/
def bodyFields : Fields (String × Value × Unit) (Option String × Option Value × Unit) :=
  .field "blockchainID" .text none <| .field "rawData" .value (some .null) .done

section

variable {steps nesting : Nat} {rest left : Octets}

/-- A member of a body goes to the field of its name, or is passed over. -/
theorem readNamed_cases {name : String} {chainName? : Option String} {data? : Option Value}
    {draft : Option String × Option Value × Unit}
    (hread : bodyFields.readNamed steps nesting name (chainName?, data?, ()) rest =
      .ok (draft, left)) :
    ∃ start, readColon rest = .ok start ∧
      (name = "rawData" ∧ (∃ value, readValue steps nesting start = .ok (value, left) ∧
          draft.2.1 = some value) ∨
        name ≠ "rawData" ∧ draft.2.1 = data? ∧
          ((∃ text, readText steps "a string" start = .ok (text, left)) ∨
            skipValue steps start = .ok left)) := by
  simp only [bodyFields, Fields.readNamed] at hread
  split at hread
  · next hname =>
      cases chainName? with
      | some _ => cases hread
      | none =>
          obtain ⟨⟨text, _⟩, hplaced, heq⟩ := map_eq_ok_iff.mp hread
          obtain ⟨rfl, rfl⟩ := Prod.mk.inj heq
          obtain ⟨start, hcolon, htext⟩ := bind_eq_ok_iff.mp (placed_eq_ok_iff.mp hplaced)
          refine ⟨start, hcolon, Or.inr ⟨?_, rfl, Or.inl ⟨text, htext⟩⟩⟩
          rw [hname]
          decide
  · -- not the name of the chain, so it goes to the later field or is passed over
    obtain ⟨⟨later, _⟩, hlater, heq⟩ := map_eq_ok_iff.mp hread
    obtain ⟨rfl, rfl⟩ := Prod.mk.inj heq
    split at hlater
    · next hname =>
        cases data? with
        | some _ => cases hlater
        | none =>
            obtain ⟨⟨value, _⟩, hplaced, heq⟩ := map_eq_ok_iff.mp hlater
            obtain ⟨rfl, rfl⟩ := Prod.mk.inj heq
            obtain ⟨start, hcolon, hvalue⟩ := bind_eq_ok_iff.mp (placed_eq_ok_iff.mp hplaced)
            exact ⟨start, hcolon, Or.inl ⟨hname, value, hvalue, rfl⟩⟩
    · next hname =>
        obtain ⟨⟨_, _⟩, hdone, heq⟩ := map_eq_ok_iff.mp hlater
        obtain ⟨rfl, rfl⟩ := Prod.mk.inj heq
        obtain ⟨_, hplaced, heq⟩ := map_eq_ok_iff.mp hdone
        obtain ⟨rfl, rfl⟩ := Prod.mk.inj heq
        obtain ⟨start, hcolon, hskip⟩ := bind_eq_ok_iff.mp (placed_eq_ok_iff.mp hplaced)
        exact ⟨start, hcolon, Or.inr ⟨hname, rfl, Or.inr hskip⟩⟩

/-- Whatever follows the name of a member, both readers end at the same place, and the draft holds
the raw data if the member is the one with that name. -/
theorem readNamed_of_readValue {name : String} {draft after : Option String × Option Value × Unit}
    {start middle : Octets} {value : Value}
    (hread : bodyFields.readNamed steps nesting name draft rest = .ok (after, left))
    (hcolon : readColon rest = .ok start) (hlimit : start.length ≤ steps)
    (hvalue : readValue steps nesting start = .ok (value, middle)) :
    left = middle ∧ after.2.1 = if "rawData" = name then some value else draft.2.1 := by
  obtain ⟨other, hother, ⟨rfl, found, hfound, hafter⟩ | ⟨hname, hafter, hpassed⟩⟩ :=
    readNamed_cases hread
  · obtain rfl : start = other := eq_of_eq_ok hcolon hother
    obtain ⟨rfl, rfl⟩ := Prod.mk.inj (eq_of_eq_ok hvalue hfound)
    exact ⟨rfl, by rw [hafter, if_pos rfl]⟩
  · obtain rfl : start = other := eq_of_eq_ok hcolon hother
    refine ⟨?_, by rw [hafter, if_neg (Ne.symm hname)]⟩
    rcases hpassed with ⟨text, htext⟩ | hskip
    · exact (Prod.mk.inj (eq_of_eq_ok (readValue_of_readText htext) hvalue)).2
    · exact eq_of_eq_ok hskip (skipValue_of_readValue hvalue hlimit)

/-- The raw data in a draft is the one among the members. -/
theorem lookup_of_readDraft {turns : Nat} {first : Bool}
    {draft final : Option String × Option Value × Unit} {done members : List (String × Value)}
    {after : Octets} (hlimit : rest.length ≤ steps)
    (hdone : draft.2.1 = done.lookup "rawData")
    (hdraft : readDraft (bodyFields.readNamed steps nesting) steps turns first draft rest =
      .ok (final, after))
    (hmembers : readMembers (readValue steps nesting) steps turns first done rest =
      .ok (members, left)) :
    final.2.1 = members.lookup "rawData" := by
  induction turns generalizing first draft done rest with
  | zero => cases hmembers
  | succ turns ih =>
      rw [readMembers] at hmembers
      rw [readDraft] at hdraft
      obtain ⟨⟨again, start⟩, hnext, hmembers⟩ := bind_eq_ok_iff.mp hmembers
      rw [hnext] at hdraft
      cases again with
      | false =>
          obtain ⟨_, -, heq⟩ := bind_eq_ok_iff.mp hmembers
          obtain ⟨rfl, -⟩ := Prod.mk.inj (Except.ok.inj heq)
          obtain ⟨rfl, -⟩ := Prod.mk.inj (Except.ok.inj hdraft)
          exact hdone
      | true =>
          obtain ⟨⟨name, colon⟩, hname, hmembers⟩ := bind_eq_ok_iff.mp hmembers
          obtain ⟨content, hcolon, hmembers⟩ := bind_eq_ok_iff.mp hmembers
          obtain ⟨⟨value, middle⟩, hvalue, hmembers⟩ := bind_eq_ok_iff.mp hmembers
          -- Every part of the member is no longer than what was left before it.
          have hlength : middle.length ≤ rest.length ∧ content.length ≤ rest.length := by
            have hstart := length_of_nextMember hnext
            have hquoted := (skipText_of_readChars hname).2.length_le
            have hpassed := length_of_readColon hcolon
            have hleft := length_of_readValue hvalue
            omega
          dsimp only at hdraft
          rw [hname] at hdraft
          dsimp only at hdraft
          split at hdraft
          · cases hdraft
          · next later other hother =>
              obtain ⟨rfl, hlater⟩ :=
                readNamed_of_readValue hother hcolon (Nat.le_trans hlength.2 hlimit) hvalue
              refine ih (Nat.le_trans hlength.1 hlimit) ?_ hdraft hmembers
              rw [hlater, lookup_insertMember, hdone]

theorem data_of_complete {draft : Option String × Option Value × Unit}
    {values : String × Value × Unit} (hcomplete : bodyFields.complete draft = .ok values) :
    values.2.1 = draft.2.1.getD .null := by
  obtain ⟨_ | chainName, data?, _⟩ := draft
  · cases hcomplete
  · cases data? with
    | none => rw [← Except.ok.inj hcomplete]; rfl
    | some data => rw [← Except.ok.inj hcomplete]; rfl

/-- The elements already read come first. -/
theorem exists_append_of_readElements {α : Type} {read : Octets → Reading α} {turns : Nat}
    {first : Bool} {done elements : List α}
    (hread : readElements read turns first done rest = .ok (elements, left)) :
    ∃ more, elements = done.reverse ++ more := by
  induction turns generalizing first done rest with
  | zero => cases hread
  | succ turns ih =>
      rw [readElements] at hread
      split at hread
      · cases hread
      · obtain ⟨_, _, heq⟩ := map_eq_ok_iff.mp hread
        obtain ⟨rfl, -⟩ := Prod.mk.inj heq
        exact ⟨[], (List.append_nil _).symm⟩
      · split at hread
        · cases hread
        · next element _ _ =>
            obtain ⟨more, rfl⟩ := ih hread
            exact ⟨element :: more, by rw [List.reverse_cons, List.append_assoc]; rfl⟩

/-- A body in the form of a list has the chain's name in the first place and the raw data in the
second, if there is one. -/
theorem readOrdered_cases {record : String} {size : Nat} {values : String × Value × Unit}
    (hread : bodyFields.readOrdered steps nesting record size 0 rest = .ok (values, left)) :
    ∃ start name second, nextElement true rest = .ok (true, start) ∧
      readText steps "a string" start = .ok (name, second) ∧
        ((∃ third, nextElement false second = .ok (true, third) ∧
            ∃ value last, readValue steps nesting third = .ok (value, last) ∧
              values.2.1 = value) ∨
          (∃ third, nextElement false second = .ok (false, third) ∧ values.2.1 = .null)) := by
  unfold bodyFields Fields.readOrdered at hread
  split at hread
  · cases hread
  · next start hfirst =>
      split at hread
      · cases hread
      next name second hname =>
      obtain ⟨⟨remaining, _⟩, hremaining, heq⟩ := map_eq_ok_iff.mp hread
      obtain ⟨rfl, -⟩ := Prod.mk.inj heq
      refine ⟨start, name, second, hfirst, hname, ?_⟩
      -- the second field is read like the first one, but it may be missing
      unfold Fields.readOrdered at hremaining
      split at hremaining
      · cases hremaining
      · next third hsecond =>
          split at hremaining
          · cases hremaining
          next value last hvalue =>
          rw [← (Prod.mk.inj (Except.ok.inj hremaining)).1]
          exact Or.inl ⟨third, hsecond, value, last, hvalue, rfl⟩
      · next third hsecond =>
          rw [← (Prod.mk.inj (Except.ok.inj hremaining)).1]
          exact Or.inr ⟨third, hsecond, rfl⟩
  · cases hread

/-- A body in the form of a list has its raw data in the second place. -/
theorem data_of_readOrdered {record : String} {size turns : Nat}
    {values : String × Value × Unit} {elements : List Value} {after : Octets}
    (hordered : bodyFields.readOrdered steps nesting record size 0 rest = .ok (values, after))
    (helements : readElements (readValue steps nesting) turns true [] rest =
      .ok (elements, left)) :
    values.2.1 = elements[1]?.getD .null := by
  obtain ⟨start, name, second, hfirst, hname, hdata⟩ := readOrdered_cases hordered
  -- both readers take the first element, and then the second one, from the same place
  cases turns with
  | zero => cases helements
  | succ turns =>
      rw [readElements, hfirst] at helements
      dsimp only at helements
      rw [readValue_of_readText hname] at helements
      dsimp only at helements
      cases turns with
      | zero => cases helements
      | succ turns =>
          rw [readElements] at helements
          rcases hdata with ⟨third, hsecond, value, last, hvalue, rfl⟩ | ⟨third, hsecond, hnull⟩
          · rw [hsecond] at helements
            dsimp only at helements
            rw [hvalue] at helements
            obtain ⟨more, rfl⟩ := exists_append_of_readElements helements
            rfl
          · rw [hsecond] at helements
            obtain ⟨_, _, heq⟩ := map_eq_ok_iff.mp helements
            rw [← (Prod.mk.inj heq).1, hnull]
            rfl

/-- The body of a request is read as a document with the same raw data. -/
theorem data_of_read {payload : Payload} {document : Value} {other : Octets}
    (hlimit : rest.length ≤ steps)
    (hread : Payload.schema.read steps nesting rest = .ok (payload, left))
    (hvalue : readValue steps nesting rest = .ok (document, other)) :
    payload.data = rawDataOf document := by
  obtain ⟨octet, tail, hblanks, hvalue⟩ := exists_readAs hvalue
  have htail := (skipBlanks_suffix rest).length_le
  rw [hblanks, List.length_cons] at htail
  rw [Payload.schema, Schema.read, hblanks] at hread
  dsimp only at hread
  -- only a list or an object is read as a body, so the document is one of these
  have hform : octet = '['.toUInt8 ∨ octet = '\x7b'.toUInt8 := by
    refine Decidable.byContradiction fun hother => ?_
    rw [not_or] at hother
    rw [if_neg hother.1, if_neg hother.2] at hread
    exact readMismatch_ne_ok hread
  have hnot : ∀ {other : UInt8}, other = '['.toUInt8 ∨ other = '\x7b'.toUInt8 →
      other ≠ '['.toUInt8 → other ≠ '\x7b'.toUInt8 → False :=
    fun hform hlist hobject => hform.elim hlist hobject
  cases hvalue with
  | null => exact (hnot hform (by decide) (by decide)).elim
  | true => exact (hnot hform (by decide) (by decide)).elim
  | false => exact (hnot hform (by decide) (by decide)).elim
  | negative => exact (hnot hform (by decide) (by decide)).elim
  | digits hdigit =>
      exact (hnot hform (ne_of_isDigit hdigit (by decide)) (ne_of_isDigit hdigit (by decide))).elim
  | text => exact (hnot hform (by decide) (by decide)).elim
  | array helements =>
      rw [if_pos rfl, if_neg (Nat.succ_ne_zero _), Nat.add_sub_cancel] at hread
      split at hread
      · cases hread
      · next values after hordered =>
          obtain ⟨_, -, heq⟩ := map_eq_ok_iff.mp hread
          obtain ⟨rfl, -⟩ := Prod.mk.inj heq
          exact data_of_readOrdered hordered helements
  | object hmembers =>
      rw [if_neg (by decide), if_pos rfl, if_neg (Nat.succ_ne_zero _), Nat.add_sub_cancel] at hread
      split at hread
      · cases hread
      · next draft after hdraft =>
          -- the draft and the members of the object hold the same raw data
          have hlookup := lookup_of_readDraft (Nat.le_of_succ_le (Nat.le_trans htail hlimit)) rfl
            hdraft hmembers
          split at hread
          · cases hread
          · next values hcomplete =>
              obtain ⟨_, -, heq⟩ := map_eq_ok_iff.mp hread
              obtain ⟨rfl, -⟩ := Prod.mk.inj heq
              show values.2.1 = _
              rw [data_of_complete hcomplete, hlookup]
              rfl

/-! ## The raw data is readable -/

/-- What is kept by every member holds of the draft that is read. -/
theorem readDraft_keeps {δ : Type} {read : String → δ → Octets → Except Refusal (δ × Octets)}
    (holds : δ → Prop) {turns : Nat} {first : Bool} {draft final : δ}
    (hread : ∀ {name draft rest after left}, holds draft →
      read name draft rest = .ok (after, left) → holds after)
    (hdraft : holds draft)
    (hfinal : readDraft read steps turns first draft rest = .ok (final, left)) : holds final := by
  induction turns generalizing first draft rest with
  | zero => cases hfinal
  | succ turns ih =>
      rw [readDraft] at hfinal
      split at hfinal
      · cases hfinal
      · rw [← (Prod.mk.inj (Except.ok.inj hfinal)).1]
        exact hdraft
      · split at hfinal
        · cases hfinal
        · split at hfinal
          · cases hfinal
          · next hmember => exact ih (hread hdraft hmember) hfinal

/-- The raw data of a body is a value that was read, or null. -/
theorem readable_of_read {payload : Payload}
    (hread : Payload.schema.read steps (nesting + 1) rest = .ok (payload, left)) :
    payload.data.Readable nesting := by
  rw [Payload.schema, Schema.read] at hread
  split at hread
  · cases hread
  split at hread
  · rw [if_neg (Nat.succ_ne_zero _), Nat.add_sub_cancel] at hread
    split at hread
    · cases hread
    · next values after hordered =>
        obtain ⟨_, -, heq⟩ := map_eq_ok_iff.mp hread
        rw [← (Prod.mk.inj heq).1]
        show values.2.1.Readable nesting
        obtain ⟨_, _, _, -, -, ⟨_, -, value, last, hvalue, hdata⟩ | ⟨_, -, hnull⟩⟩ :=
          readOrdered_cases hordered
        · rw [hdata]
          exact readable_of_readValue hvalue
        · rw [hnull]
          exact .null
  · split at hread
    · rw [if_neg (Nat.succ_ne_zero _), Nat.add_sub_cancel] at hread
      split at hread
      · cases hread
      next draft after hdraft =>
      -- whatever has got into the draft was read, so every member keeps this
      have hreadable : ∀ value, draft.2.1 = some value → value.Readable nesting := by
        refine readDraft_keeps (fun draft => ∀ value, draft.2.1 = some value →
          value.Readable nesting) (fun hkept hmember value hvalue => ?_)
          (fun value hvalue => Option.some_ne_none value hvalue.symm |>.elim) hdraft
        obtain ⟨_, -, ⟨-, found, hfound, hafter⟩ | ⟨-, hafter, -⟩⟩ := readNamed_cases hmember
        · obtain rfl := Option.some.inj (hafter.symm.trans hvalue)
          exact readable_of_readValue hfound
        · exact hkept value (hafter.symm.trans hvalue)
      split at hread
      · cases hread
      next values hcomplete =>
      obtain ⟨_, -, heq⟩ := map_eq_ok_iff.mp hread
      rw [← (Prod.mk.inj heq).1]
      show values.2.1.Readable nesting
      rw [data_of_complete hcomplete]
      cases hdata : draft.2.1 with
      | none => exact .null
      | some value => exact hreadable value hdata
    · exact absurd hread readMismatch_ne_ok

end

/-! ## Whole bodies -/

theorem decode_of_ofBody {body : Octets} {payload : Payload}
    (hbody : Payload.ofBody body = .ok payload) : Payload.schema.decode body = .ok payload := by
  unfold Payload.ofBody at hbody
  split at hbody
  · cases hbody
  · next hdecode =>
      split at hbody
      · cases hbody
      · rw [hdecode, Except.ok.inj hbody]

theorem readable_of_ofBody {body : Octets} {payload : Payload}
    (hbody : Payload.ofBody body = .ok payload) : payload.data.Readable nestingLimit := by
  obtain ⟨left, hread, -⟩ := readWhole_eq_ok_iff.mp (decode_of_ofBody hbody)
  exact (readable_of_read hread).succ

/-- The raw data of an accepted body is the raw data that the body has as a document. -/
theorem data_of_ofBody {body : Octets} {payload : Payload} {document : Value}
    (hbody : Payload.ofBody body = .ok payload) (hparse : parse body = .ok document) :
    payload.data = rawDataOf document := by
  obtain ⟨left, hread, -⟩ := readWhole_eq_ok_iff.mp (decode_of_ofBody hbody)
  obtain ⟨other, hvalue, -⟩ := readWhole_eq_ok_iff.mp hparse
  exact data_of_read (Nat.le_succ _) hread hvalue

/-- A body that was written by the schema is read as what was written. -/
theorem ofBody_encode {payload : Payload} (hname : payload.chainName ≠ "")
    (hreadable : payload.data.Readable (nestingLimit - 1)) (hexact : payload.data.IsExact) :
    Payload.ofBody (Payload.schema.encode payload) = .ok payload := by
  have hfits : Payload.schema.Fits nestingLimit payload :=
    ⟨by decide, rfl, by decide, trivial, ⟨hreadable, hexact⟩, trivial⟩
  rw [Payload.ofBody, Schema.decode_encode hfits]
  exact if_neg hname

/-! ## The number of a request -/

/-- The payload has this integer under the name `id` at its top, and a signed word holds it. -/
def HasId (data : Value) (id : Int) : Prop :=
  ∃ members, data = .object members ∧ ("id", .number (.integer id)) ∈ members ∧
    Int64.minValue.toInt ≤ id ∧ id ≤ Int64.maxValue.toInt

theorem member?_eq_some_iff {data value : Value} {nesting : Nat} {name : String}
    (hreadable : data.Readable nesting) :
    data.member? name = some value ↔
      ∃ members, data = .object members ∧ (name, value) ∈ members := by
  unfold Value.member?
  cases hreadable with
  | object horder _ => simp [horder.lookup_eq_some_iff]
  | null | bool | integer | real | text | array => simp

theorem signedWord?_eq_some_iff {value : Value} {id : Int} :
    value.signedWord? = some id ↔
      value = .number (.integer id) ∧ Int64.minValue.toInt ≤ id ∧
        id ≤ Int64.maxValue.toInt := by
  unfold Value.signedWord?
  split
  · next other =>
      rw [Option.ite_none_right_eq_some, Option.some.injEq, Value.number.injEq,
        Number.integer.injEq]
      constructor
      · rintro ⟨hword, rfl⟩
        exact ⟨rfl, hword⟩
      · rintro ⟨rfl, hword⟩
        exact ⟨hword, rfl⟩
  · next hother =>
      constructor
      · intro hnone
        cases hnone
      · rintro ⟨rfl, -⟩
        exact absurd rfl (hother id)

theorem hasId_iff {data : Value} {nesting : Nat} (hreadable : data.Readable nesting) {id : Int} :
    HasId data id ↔ (data.member? "id").bind Value.signedWord? = some id := by
  simp only [Option.bind_eq_some_iff, member?_eq_some_iff hreadable, signedWord?_eq_some_iff]
  constructor
  · rintro ⟨members, hdata, hmember, hword⟩
    exact ⟨_, ⟨members, hdata, hmember⟩, rfl, hword⟩
  · rintro ⟨_, ⟨members, hdata, hmember⟩, rfl, hword⟩
    exact ⟨members, hdata, hmember, hword⟩

/-- The number of a request is the id of its payload, and zero if it has none. -/
theorem rpcId_of_hasId {payload : Payload} {nesting : Nat}
    (hreadable : payload.data.Readable nesting) :
    (∀ id, HasId payload.data id → payload.rpcId = id) ∧
      ((∀ id, ¬ HasId payload.data id) → payload.rpcId = 0) := by
  constructor
  · intro id hid
    rw [Payload.rpcId, (hasId_iff hreadable).mp hid]
    rfl
  · intro hnone
    rw [Payload.rpcId]
    cases hfound : (payload.data.member? "id").bind Value.signedWord? with
    | none => rfl
    | some id => exact absurd ((hasId_iff hreadable).mpr hfound) (hnone id)

/-! ## What is relayed -/

/-- The front door accepts the request and asks the gateway for a relay; the body of the request
carries the data, which holds no floating-point number. -/
structure Carries (request : Request) (asked : RelayRequest) (data : Value) : Prop where
  accepted : ∃ target, read request = .ok (target, asked)
  body : ∃ payload, Payload.ofBody request.body = .ok payload ∧ payload.data = data
  exact : data.IsExact

namespace Carries

variable {request : Request} {asked : RelayRequest} {data : Value}

/-- Whatever holds no floating-point number and is not nested too deeply can be carried. -/
theorem exists_of_readable (hreadable : data.Readable (nestingLimit - 1)) (hexact : data.IsExact) :
    ∃ request asked, Carries request asked data := by
  have htarget : Target.ofPath (pathOfUri "/v1/app") = .ok (.application "app" "") := by
    decide +kernel
  have hname : "0001" ≠ "" := by decide
  obtain ⟨payload, hchain, rfl⟩ : ∃ payload : Payload, payload.chainName = "0001" ∧
      payload.data = data := ⟨⟨"0001", data⟩, rfl, rfl⟩
  have hbody := ofBody_encode (hchain ▸ hname) hreadable hexact
  obtain ⟨request, hmethod, huri, hrequest⟩ : ∃ request : Request,
      request.method = acceptedMethod ∧ request.uri = "/v1/app" ∧
        request.body = Payload.schema.encode payload := ⟨{ uri := _, body := _ }, rfl, rfl, rfl⟩
  rw [← hrequest] at hbody
  have hread : read request =
      .ok (.application "app" "", relayRequest (.application "app" "") request payload) := by
    rw [read_eq, if_pos hmethod, huri, htarget, hbody]
    rfl
  exact ⟨request, _, ⟨_, hread⟩, ⟨payload, hbody, rfl⟩, hexact⟩

theorem exists_payload (hcarries : Carries request asked data) :
    ∃ payload : Payload, Payload.ofBody request.body = .ok payload ∧ payload.data = data ∧
      asked.data = data.render ∧ asked.rpcId = payload.rpcId := by
  obtain ⟨target, hread⟩ := hcarries.accepted
  obtain ⟨payload, hbody, rfl⟩ := hcarries.body
  rw [read_eq] at hread
  split at hread
  · obtain ⟨found, -, hread⟩ := bind_eq_ok_iff.mp hread
    obtain ⟨other, hother, heq⟩ := map_eq_ok_iff.mp hread
    obtain ⟨rfl, rfl⟩ := Prod.mk.inj heq
    obtain rfl := eq_of_eq_ok hbody hother
    refine ⟨payload, hbody, rfl, ?_⟩
    cases found with
    | application id path => exact ⟨rfl, rfl⟩
    | balancer id path => exact ⟨rfl, rfl⟩
  · cases hread

theorem parse_data (hcarries : Carries request asked data) :
    parse (Utf8.encode asked.data) = .ok data := by
  obtain ⟨payload, hbody, rfl, hdata, -⟩ := hcarries.exists_payload
  rw [hdata]
  exact parse_render (readable_of_ofBody hbody) hcarries.exact

end Carries

/-- A relay carries the data that was asked for. -/
theorem data_of_handle {σ : Type} {gateway : Gateway} {backend : Backend σ} {draw : Nat}
    {state : State σ} {request : Request} {target : Target} {asked : RelayRequest}
    {handled : Handled σ} (hread : read request = .ok (target, asked))
    (hhandled : handle gateway backend draw state request = .ok handled) :
    ∀ relay ∈ relaysOf handled.events, relay.data = asked.data := by
  intro relay hrelay
  by_cases hsize : bodyLimit < request.body.length
  · rw [handle, if_pos hsize] at hhandled
    obtain rfl := Except.ok.inj hhandled
    cases hrelay
  · rw [handle_of_read (Nat.not_lt.mp hsize) hread] at hhandled
    obtain ⟨answer, hanswer, rfl⟩ := map_eq_ok_iff.mp hhandled
    obtain ⟨relay?, report?, hexit⟩ := Gateway.handle_exit hanswer
    -- of all exits only the last one hands a relay over
    have hmember : relay ∈ relay?.toList := hexit.relays ▸ hrelay
    cases hexit with
    | refused => cases hmember
    | unobtained => cases hmember
    | nodeless => cases hmember
    | relayed _ _ _ _ hsent _ =>
        obtain rfl := List.mem_singleton.mp hmember
        rw [hsent]
        rfl

/-- The data of a relay is a compact text that reads back as the raw data of the body, the raw data
of the body is what the body has as a document, and the number of the request is the id of the raw
data.  Two requests are relayed with the same data only if their raw data are equal. -/
theorem data_denotes_raw_data {request other : Request} {asked otherAsked : RelayRequest}
    {data otherData : Value} (hcarries : Carries request asked data)
    (hother : Carries other otherAsked otherData) :
    (∀ {σ : Type} (gateway : Gateway) (backend : Backend σ) (draw : Nat) (state : State σ)
        (handled : Handled σ), handle gateway backend draw state request = .ok handled →
          ∀ relay ∈ relaysOf handled.events, relay.data = asked.data) ∧
      IsCompact asked.data.toList ∧
      parse (Utf8.encode asked.data) = .ok data ∧
      (∀ value, parse (Utf8.encode asked.data) = .ok value → value.render = asked.data) ∧
      (∀ document, parse request.body = .ok document → data = rawDataOf document) ∧
      (asked.data = otherAsked.data ↔ data = otherData) ∧
      (∀ id, HasId data id → asked.rpcId = id) ∧
      ((∀ id, ¬ HasId data id) → asked.rpcId = 0) := by
  obtain ⟨payload, hbody, rfl, hdata, hrpc⟩ := hcarries.exists_payload
  obtain ⟨_, _, rfl, hotherData, -⟩ := hother.exists_payload
  have hparse := hcarries.parse_data
  refine ⟨?_, ?_, hparse, ?_, ?_, ?_, ?_⟩
  · obtain ⟨target, hread⟩ := hcarries.accepted
    intro σ gateway backend draw state handled hhandled
    exact data_of_handle hread hhandled
  · rw [hdata, Value.render, String.toList_ofList]
    exact Value.isCompact_chars hcarries.exact
  · intro value hvalue
    rw [hdata, eq_of_eq_ok hvalue hparse]
  · intro document hdocument
    exact data_of_ofBody hbody hdocument
  · -- reading back is a function, so equal data come from equal values
    constructor
    · intro hsame
      exact eq_of_eq_ok (hsame ▸ hparse) hother.parse_data
    · intro hsame
      rw [hdata, hotherData, hsame]
  · rw [hrpc]
    exact rpcId_of_hasId (readable_of_ofBody hbody)

/-- Raw data with an id, and none. -/
theorem data_denotes_raw_data_seven :
    ∃ (request other : Request) (asked otherAsked : RelayRequest),
      Carries request asked (.object [("id", .number (.integer 7))]) ∧
        Carries other otherAsked .null ∧ asked.rpcId = 7 ∧ asked.data ≠ otherAsked.data := by
  obtain ⟨request, asked, hcarries⟩ :
      ∃ request asked, Carries request asked (.object [("id", .number (.integer 7))]) := by
    refine Carries.exists_of_readable (.object (List.pairwise_singleton _ _) ?_) (.object ?_)
    · exact fun member hmember => List.mem_singleton.mp hmember ▸ .integer ⟨by decide, by decide⟩
    · exact fun member hmember => List.mem_singleton.mp hmember ▸ .integer 7
  obtain ⟨other, otherAsked, hother⟩ := Carries.exists_of_readable .null .null
  obtain ⟨-, -, -, -, -, hsame, hid, -⟩ := data_denotes_raw_data hcarries hother
  have hseven : HasId (.object [("id", .number (.integer 7))]) 7 :=
    ⟨_, rfl, List.mem_cons_self, by decide, by decide⟩
  exact ⟨request, other, asked, otherAsked, hcarries, hother, hid 7 hseven,
    fun heq => nomatch hsame.mp heq⟩

end FrontDoor

end ChainGateway
