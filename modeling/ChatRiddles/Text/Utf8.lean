import ChatRiddles.Text.CodePoint
/-!
# UTF-8

A character is encoded in one to four bytes. The first byte fixes how many follow and, together with
the second, excludes encodings that are longer than needed, surrogates, and numbers beyond the last
character. Decoding stops at the first byte of the first sequence that is no encoding.

Messages are decoded with the surrogates let through.
-/

namespace ChatRiddles.Text.Utf8

/-- Where decoding stands inside a character: how many bytes it still owes, between which bounds the
next one lies, and the value of the bits read so far. -/
structure Pending where
  owed : Nat
  low : UInt8
  high : UInt8
  bits : Nat

/-- What the first byte of a character announces; `none` if no character starts with it. -/
def leading? (b : UInt8) : Option Pending :=
  if b ≤ 0x7f then some ⟨0, 0x80, 0xbf, b.toNat⟩
  else if 0xc2 ≤ b ∧ b ≤ 0xdf then some ⟨1, 0x80, 0xbf, b.toNat % 0x20⟩
  else if b = 0xe0 then some ⟨2, 0xa0, 0xbf, 0⟩
  else if b = 0xed then some ⟨2, 0x80, 0x9f, 0xd⟩
  else if 0xe1 ≤ b ∧ b ≤ 0xef then some ⟨2, 0x80, 0xbf, b.toNat % 0x10⟩
  else if b = 0xf0 then some ⟨3, 0x90, 0xbf, 0⟩
  else if b = 0xf4 then some ⟨3, 0x80, 0x8f, 4⟩
  else if 0xf1 ≤ b ∧ b ≤ 0xf3 then some ⟨3, 0x80, 0xbf, b.toNat % 0x8⟩
  else none

/-- The state after the next byte of a character; `none` if it cannot follow. -/
def Pending.next? (p : Pending) (b : UInt8) : Option Pending :=
  if p.low ≤ b ∧ b ≤ p.high then
    some ⟨p.owed - 1, 0x80, 0xbf, p.bits * 0x40 + b.toNat % 0x40⟩
  else none

/-- What the first byte of a code point announces, where the codes of surrogates are let through. -/
def leadingPoint? (b : UInt8) : Option Pending :=
  if b = 0xed then some ⟨2, 0x80, 0xbf, 0xd⟩ else leading? b

/-- Decodes bytes from the given offset: `lead` tells what a first byte announces, and `make` what
the bits that have been read stand for. Inside a sequence, `pending` is its state and `start` the
offset at which it began. -/
def decodeFrom {α : Type} (lead : UInt8 → Option Pending) (make : Nat → α) (offset start : Nat)
    (pending : Option Pending) : List UInt8 → Except Nat (List α)
  | [] => if pending.isSome then .error start else .ok []
  | b :: rest =>
    let (step, start) := match pending with
      | none => (lead b, offset)
      | some p => (p.next? b, start)
    match step with
    | none => .error start
    | some ⟨0, _, _, bits⟩ =>
      (decodeFrom lead make (offset + 1) start none rest).map (make bits :: ·)
    | some p => decodeFrom lead make (offset + 1) start (some p) rest

/-- The characters of a byte sequence, or the offset of the first byte of the first sequence that is
no character. -/
def decode (bytes : List UInt8) : Except Nat (List Char) :=
  decodeFrom leading? Char.ofNat 0 0 none bytes

/-- The code points of a byte sequence, surrogates among them. -/
def decodePoints (bytes : List UInt8) : Except Nat (List CodePoint) :=
  decodeFrom leadingPoint? CodePoint.ofNat 0 0 none bytes

/-- Decodes bytes, with the replacement character for each sequence that begins like a character and
is none, and for each byte with which no character begins. -/
def decodeReplacingFrom (pending : Option Pending) : List UInt8 → List Char
  | [] => if pending.isSome then [replacement] else []
  | b :: rest =>
    match pending.bind (·.next? b) with
    | some ⟨0, _, _, bits⟩ => Char.ofNat bits :: decodeReplacingFrom none rest
    | some p => decodeReplacingFrom (some p) rest
    | none =>
      (if pending.isSome then [replacement] else []) ++
        match leading? b with
        | none => replacement :: decodeReplacingFrom none rest
        | some ⟨0, _, _, bits⟩ => Char.ofNat bits :: decodeReplacingFrom none rest
        | some p => decodeReplacingFrom (some p) rest

/-- The characters of a byte sequence, with the replacement character for what is none. -/
def decodeReplacing (bytes : List UInt8) : List Char := decodeReplacingFrom none bytes

/-- The bytes of a character. -/
def encodeChar (c : Char) : List UInt8 :=
  let n := c.toNat
  if n < 0x80 then [UInt8.ofNat n]
  else if n < 0x800 then [UInt8.ofNat (0xc0 + n / 0x40), UInt8.ofNat (0x80 + n % 0x40)]
  else if n < 0x10000 then
    [UInt8.ofNat (0xe0 + n / 0x1000), UInt8.ofNat (0x80 + n / 0x40 % 0x40),
      UInt8.ofNat (0x80 + n % 0x40)]
  else
    [UInt8.ofNat (0xf0 + n / 0x40000), UInt8.ofNat (0x80 + n / 0x1000 % 0x40),
      UInt8.ofNat (0x80 + n / 0x40 % 0x40), UInt8.ofNat (0x80 + n % 0x40)]

/-- The bytes of a text. -/
def encode (cs : List Char) : List UInt8 := cs.flatMap encodeChar

end ChatRiddles.Text.Utf8
