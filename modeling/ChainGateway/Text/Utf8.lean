/-!
# UTF-8

Texts are stored and sent as octets.  `next` reads the scalar value at the head of a list of
octets and tells malformed octets apart from the end of the list; `decode?` accepts exactly
the lists without malformed octets, and `decodeLossy` puts the replacement character in the
place of each malformed sequence.  `encode` writes a text back.

A malformed sequence is the longest beginning of a scalar's encoding that is not continued as
it should be, or a single octet that cannot begin one.
-/

namespace ChainGateway.Text

/-- A list of octets, the form in which documents and messages arrive. -/
abbrev Octets := List UInt8

namespace Utf8

/-- What stands at the head of a list of octets. -/
inductive Head where
  /-- Nothing is left. -/
  | finished
  /-- A scalar value, followed by the rest. -/
  | scalar (char : Char) (rest : Octets)
  /-- A malformed sequence, followed by the rest. -/
  | malformed (rest : Octets)

/-! ## Writing -/

/-- The octets of one scalar value: one to four, with six bits in each octet after the first. -/
def encodeChar (char : Char) : Octets :=
  let code := char.toNat
  let trail (part : Nat) : UInt8 := (0x80 + part % 0x40).toUInt8
  if code < 0x80 then
    [code.toUInt8]
  else if code < 0x800 then
    [(0xC0 + code / 0x40).toUInt8, trail code]
  else if code < 0x10000 then
    [(0xE0 + code / 0x1000).toUInt8, trail (code / 0x40), trail code]
  else
    [(0xF0 + code / 0x40000).toUInt8, trail (code / 0x1000), trail (code / 0x40), trail code]

/-- The octets of a list of scalar values. -/
def encodeChars (chars : List Char) : Octets :=
  chars.flatMap encodeChar

/-- The octets of a text. -/
def encode (text : String) : Octets :=
  encodeChars text.toList

/-! ## Reading -/

/-- May the octet continue a scalar? -/
def isTrail (octet : UInt8) : Bool :=
  decide (0x80 ≤ octet.toNat) && decide (octet.toNat ≤ 0xBF)

/-- May the octet be the second one after this lead?  The bounds leave out overlong forms,
surrogates and everything past the last scalar value. -/
def isSecond (lead octet : UInt8) : Bool :=
  let least := if lead = 0xE0 then 0xA0 else if lead = 0xF0 then 0x90 else 0x80
  let greatest := if lead = 0xED then 0x9F else if lead = 0xF4 then 0x8F else 0xBF
  decide (least ≤ octet.toNat) && decide (octet.toNat ≤ greatest)

/-- The scalar value whose bits are those of the lead, the first `leadBits` taken away, and the
low six bits of each further octet. -/
def assemble (leadBase : Nat) (lead : UInt8) (trail : Octets) : Char :=
  Char.ofNat (trail.foldl (fun code octet => code * 0x40 + (octet.toNat - 0x80))
    (lead.toNat - leadBase))

/-- Reads the scalar value at the head. -/
def next : Octets → Head
  | [] => .finished
  | lead :: rest =>
      if lead.toNat < 0x80 then
        .scalar (Char.ofNat lead.toNat) rest
      else if lead.toNat < 0xC2 then
        .malformed rest
      else if lead.toNat < 0xE0 then
        match rest with
        | second :: rest₂ =>
            if isTrail second then .scalar (assemble 0xC0 lead [second]) rest₂
            else .malformed rest
        | [] => .malformed []
      else if lead.toNat < 0xF0 then
        match rest with
        | second :: rest₂ =>
            if isSecond lead second then
              match rest₂ with
              | third :: rest₃ =>
                  if isTrail third then .scalar (assemble 0xE0 lead [second, third]) rest₃
                  else .malformed rest₂
              | [] => .malformed []
            else .malformed rest
        | [] => .malformed []
      else if lead.toNat < 0xF5 then
        match rest with
        | second :: rest₂ =>
            if isSecond lead second then
              match rest₂ with
              | third :: rest₃ =>
                  if isTrail third then
                    match rest₃ with
                    | fourth :: rest₄ =>
                        if isTrail fourth then
                          .scalar (assemble 0xF0 lead [second, third, fourth]) rest₄
                        else .malformed rest₃
                    | [] => .malformed []
                  else .malformed rest₂
              | [] => .malformed []
            else .malformed rest
        | [] => .malformed []
      else
        .malformed rest

/-- Reads all scalar values, one per unit of fuel; `done` holds those already read, the last
one first.  `malformed` says what a malformed sequence stands for, if for anything. -/
def decodeLoop (malformed : Option Char) : Nat → List Char → Octets → Option (List Char)
  | 0, done, _ => some done.reverse
  | fuel + 1, done, octets =>
      match next octets with
      | .finished => some done.reverse
      | .scalar char rest => decodeLoop malformed fuel (char :: done) rest
      | .malformed rest =>
          match malformed with
          | some char => decodeLoop malformed fuel (char :: done) rest
          | none => none

/-- The text that the octets encode, if they encode one. -/
def decode? (octets : Octets) : Option String :=
  (decodeLoop none octets.length [] octets).map String.ofList

/-- The text that the octets encode, with the replacement character for each malformed
sequence. -/
def decodeLossy (octets : Octets) : String :=
  match decodeLoop (some (Char.ofNat 0xFFFD)) octets.length [] octets with
  | some chars => String.ofList chars
  | none => ""

end Utf8

end ChainGateway.Text
