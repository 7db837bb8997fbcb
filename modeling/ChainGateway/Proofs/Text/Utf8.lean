import ChainGateway.Proofs.Text.Ascii

/-!
# Reading what was written in UTF-8

The octets of a character are read as that character, whatever follows them (`next_encodeChar`).
The bits of the character are laid out over one to four octets, and for each number of octets there
is one lemma on reading them.  The lead octet tells the number; the bounds on the second octet hold
because the character is a scalar value that needs so many octets; and putting the bits together
again gives its code.
-/

namespace ChainGateway.Text.Utf8

variable {lead second third fourth : UInt8} {char : Char} {rest : Octets}

/-! ## Reading one to four octets -/

theorem next_one (hlead : lead.toNat < 0x80) :
    next (lead :: rest) = .scalar (Char.ofNat lead.toNat) rest := by
  unfold next
  dsimp only
  rw [if_pos hlead]

theorem next_two (hlead : 0xC2 ≤ lead.toNat ∧ lead.toNat < 0xE0)
    (hsecond : isTrail second = true) :
    next (lead :: second :: rest) = .scalar (assemble 0xC0 lead [second]) rest := by
  simp only [next, hsecond, if_true]
  rw [if_neg (by omega), if_neg (by omega), if_pos (by omega)]

theorem next_three (hlead : 0xE0 ≤ lead.toNat ∧ lead.toNat < 0xF0)
    (hsecond : isSecond lead second = true) (hthird : isTrail third = true) :
    next (lead :: second :: third :: rest) = .scalar (assemble 0xE0 lead [second, third]) rest := by
  simp only [next, hsecond, hthird, if_true]
  rw [if_neg (by omega), if_neg (by omega), if_neg (by omega), if_pos (by omega)]

theorem next_four (hlead : 0xF0 ≤ lead.toNat ∧ lead.toNat < 0xF5)
    (hsecond : isSecond lead second = true) (hthird : isTrail third = true)
    (hfourth : isTrail fourth = true) :
    next (lead :: second :: third :: fourth :: rest) =
      .scalar (assemble 0xF0 lead [second, third, fourth]) rest := by
  simp only [next, hsecond, hthird, hfourth, if_true]
  rw [if_neg (by omega), if_neg (by omega), if_neg (by omega), if_neg (by omega),
    if_pos (by omega)]

/-! ## Octets that carry bits -/

theorem toNat_toUInt8_of_lt {number : Nat} (hlt : number < 256) :
    number.toUInt8.toNat = number := by
  rw [Nat.toUInt8_eq, UInt8.toNat_ofNat']
  omega

/-- The octet that carries the low six bits of a number. -/
theorem toNat_trail (part : Nat) : (0x80 + part % 0x40).toUInt8.toNat = 0x80 + part % 0x40 :=
  toNat_toUInt8_of_lt (by omega)

theorem isTrail_trail (part : Nat) : isTrail (0x80 + part % 0x40).toUInt8 = true := by
  rw [isTrail, toNat_trail, Bool.and_eq_true, decide_eq_true_eq, decide_eq_true_eq]
  omega

/-- The bounds on the second octet, as bounds on numbers. -/
theorem isSecond_iff :
    isSecond lead second = true ↔
      (0x80 ≤ second.toNat ∧ second.toNat ≤ 0xBF) ∧
        (lead.toNat = 0xE0 → 0xA0 ≤ second.toNat) ∧ (lead.toNat = 0xF0 → 0x90 ≤ second.toNat) ∧
        (lead.toNat = 0xED → second.toNat ≤ 0x9F) ∧
        (lead.toNat = 0xF4 → second.toNat ≤ 0x8F) := by
  have heq : ∀ number : Nat, number < 256 → (lead = number.toUInt8 ↔ lead.toNat = number) := by
    intro number hlt
    rw [← UInt8.toNat_inj, toNat_toUInt8_of_lt hlt]
  have hE0 : lead = 0xE0 ↔ lead.toNat = 0xE0 := heq 0xE0 (by omega)
  have hF0 : lead = 0xF0 ↔ lead.toNat = 0xF0 := heq 0xF0 (by omega)
  have hED : lead = 0xED ↔ lead.toNat = 0xED := heq 0xED (by omega)
  have hF4 : lead = 0xF4 ↔ lead.toNat = 0xF4 := heq 0xF4 (by omega)
  simp only [isSecond, Bool.and_eq_true, decide_eq_true_eq, hE0, hF0, hED, hF4]
  repeat' split
  all_goals omega

/-! ## A character -/

/-- A character is a scalar value: no surrogate, and not past the last one. -/
theorem isScalar (char : Char) :
    char.toNat < 0xD800 ∨ 0xDFFF < char.toNat ∧ char.toNat < 0x110000 :=
  char.valid

/-- The octets of a character are read as that character. -/
theorem next_encodeChar (char : Char) (rest : Octets) :
    next (encodeChar char ++ rest) = .scalar char rest := by
  have hscalar := isScalar char
  have hcode : ∀ {code}, code = char.toNat → Char.ofNat code = char := by
    rintro code rfl
    exact Char.ofNat_toNat char
  -- one case for each length a character can have
  unfold encodeChar
  dsimp only
  split
  · next hone =>
      have hlead : char.toNat.toUInt8.toNat = char.toNat := toNat_toUInt8_of_lt (by omega)
      rw [List.singleton_append, next_one (by omega), hlead, hcode rfl]
  · split
    · next htwo =>
        have hlead : (0xC0 + char.toNat / 0x40).toUInt8.toNat = 0xC0 + char.toNat / 0x40 :=
          toNat_toUInt8_of_lt (by omega)
        show next (_ :: _ :: rest) = _
        rw [next_two (by omega) (isTrail_trail _), assemble, hcode]
        simp only [List.foldl_cons, List.foldl_nil, hlead, toNat_trail]
        omega
    · split
      · next hthree =>
          have hlead : (0xE0 + char.toNat / 0x1000).toUInt8.toNat = 0xE0 + char.toNat / 0x1000 :=
            toNat_toUInt8_of_lt (by omega)
          -- no shorter form exists and no surrogate arises, which the second octet shows
          have hsecond : isSecond (0xE0 + char.toNat / 0x1000).toUInt8
              (0x80 + char.toNat / 0x40 % 0x40).toUInt8 = true := by
            rw [isSecond_iff, hlead, toNat_trail]
            omega
          show next (_ :: _ :: _ :: rest) = _
          rw [next_three (by omega) hsecond (isTrail_trail _), assemble, hcode]
          simp only [List.foldl_cons, List.foldl_nil, hlead, toNat_trail]
          omega
      · next hthree =>
          have hlead : (0xF0 + char.toNat / 0x40000).toUInt8.toNat = 0xF0 + char.toNat / 0x40000 :=
            toNat_toUInt8_of_lt (by omega)
          have hsecond : isSecond (0xF0 + char.toNat / 0x40000).toUInt8
              (0x80 + char.toNat / 0x1000 % 0x40).toUInt8 = true := by
            rw [isSecond_iff, hlead, toNat_trail]
            omega
          show next (_ :: _ :: _ :: _ :: rest) = _
          rw [next_four (by omega) hsecond (isTrail_trail _) (isTrail_trail _), assemble, hcode]
          simp only [List.foldl_cons, List.foldl_nil, hlead, toNat_trail]
          omega

/-- Octets that are only read under a condition. -/
theorem of_ite_scalar {condition : Prop} [Decidable condition] {head : Head} {malformed : Octets}
    (hnext : (if condition then head else .malformed malformed) = .scalar char rest) :
    condition ∧ head = .scalar char rest := by
  split at hnext
  · next hcondition => exact ⟨hcondition, hnext⟩
  · cases hnext

/-- All octets of a character but the first are outside of the basic alphabet. -/
theorem exists_trail_of_next {octets : Octets} (hnext : next (lead :: octets) = .scalar char rest) :
    ∃ trail, octets = trail ++ rest ∧ ∀ octet ∈ trail, 0x80 ≤ octet.toNat := by
  have htrail : ∀ {octet}, isTrail octet = true → 0x80 ≤ octet.toNat := by
    intro octet hoctet
    rw [isTrail, Bool.and_eq_true, decide_eq_true_eq] at hoctet
    exact hoctet.1
  -- the first octet tells how many follow it, and each of them is checked
  unfold next at hnext
  dsimp only at hnext
  split at hnext
  · obtain ⟨-, rfl⟩ := Head.scalar.inj hnext
    exact ⟨[], rfl, by simp⟩
  split at hnext
  · cases hnext
  split at hnext
  · match octets with
    | second :: octets =>
        obtain ⟨hsecond, hscalar⟩ := of_ite_scalar hnext
        obtain ⟨-, rfl⟩ := Head.scalar.inj hscalar
        exact ⟨[second], rfl, by simpa using htrail hsecond⟩
  split at hnext
  · match octets with
    | second :: octets =>
        obtain ⟨hsecond, hnext⟩ := of_ite_scalar hnext
        match octets with
        | third :: octets =>
            obtain ⟨hthird, hscalar⟩ := of_ite_scalar hnext
            obtain ⟨-, rfl⟩ := Head.scalar.inj hscalar
            exact ⟨[second, third], rfl,
              by simpa using ⟨(isSecond_iff.mp hsecond).1.1, htrail hthird⟩⟩
  split at hnext
  · match octets with
    | second :: octets =>
        obtain ⟨hsecond, hnext⟩ := of_ite_scalar hnext
        match octets with
        | third :: octets =>
            obtain ⟨hthird, hnext⟩ := of_ite_scalar hnext
            match octets with
            | fourth :: octets =>
                obtain ⟨hfourth, hscalar⟩ := of_ite_scalar hnext
                obtain ⟨-, rfl⟩ := Head.scalar.inj hscalar
                exact ⟨[second, third, fourth], rfl,
                  by simpa using ⟨(isSecond_iff.mp hsecond).1.1, htrail hthird, htrail hfourth⟩⟩
  · cases hnext

end ChainGateway.Text.Utf8
