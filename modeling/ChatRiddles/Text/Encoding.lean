import ChatRiddles.Text.Utf8
/-!
# Encodings of messages

A message that holds JSON says in its first bytes how it is encoded: by a byte order mark, or by the
zero bytes around its first characters, which are ASCII in every JSON text. The encodings are UTF-8,
UTF-16 and UTF-32, the latter two in either byte order.

A surrogate that stands alone is no character, but it is let through.
-/

namespace ChatRiddles.Text

/-- How a message is encoded, its byte order mark left out: in one to four bytes for a character, in
units of two bytes, or in four bytes for each character. -/
inductive Encoding where
  | utf8
  | utf16 (bigEndian : Bool)
  | utf32 (bigEndian : Bool)
  deriving DecidableEq, Repr

namespace Encoding

/-- The byte order marks, each with the encoding that it tells; the longer ones come first. -/
def marks : List (List UInt8 × Encoding) :=
  [([0x00, 0x00, 0xfe, 0xff], .utf32 true), ([0xff, 0xfe, 0x00, 0x00], .utf32 false),
    ([0xfe, 0xff], .utf16 true), ([0xff, 0xfe], .utf16 false), ([0xef, 0xbb, 0xbf], .utf8)]

/-- The encoding that zero bytes tell at the start of a message without a byte order mark. -/
def ofZeros : List UInt8 → Encoding
  | a :: b :: c :: d :: _ =>
    if a = 0 then if b = 0 then .utf32 true else .utf16 true
    else if b = 0 then if c = 0 ∧ d = 0 then .utf32 false else .utf16 false
    else .utf8
  | [a, b] => if a = 0 then .utf16 true else if b = 0 then .utf16 false else .utf8
  | _ => .utf8

/-- The encoding that the first bytes tell, and the bytes after the byte order mark. -/
def detect (bytes : List UInt8) : Encoding × List UInt8 :=
  match marks.find? fun mark => mark.1.isPrefixOf bytes with
  | some (mark, encoding) => (encoding, bytes.drop mark.length)
  | none => (ofZeros bytes, bytes)

/-- The numbers that groups of two bytes write; `none` if a byte is left over. -/
def pairs? (bigEndian : Bool) : List UInt8 → Option (List Nat)
  | [] => some []
  | [_] => none
  | a :: b :: rest =>
    let n := if bigEndian then a.toNat * 0x100 + b.toNat else b.toNat * 0x100 + a.toNat
    (pairs? bigEndian rest).map (n :: ·)

/-- The numbers that groups of two numbers below `2 ^ 16` write; `none` if one is left over. -/
def doubles? (bigEndian : Bool) : List Nat → Option (List Nat)
  | [] => some []
  | [_] => none
  | a :: b :: rest =>
    let n := if bigEndian then a * 0x10000 + b else b * 0x10000 + a
    (doubles? bigEndian rest).map (n :: ·)

/-- A surrogate that comes first in a pair. -/
def isLeading (n : Nat) : Bool := 0xd800 ≤ n && n ≤ 0xdbff

/-- A surrogate that comes second in a pair. -/
def isTrailing (n : Nat) : Bool := 0xdc00 ≤ n && n ≤ 0xdfff

/-- The character of a pair of surrogates. -/
def joined (leading trailing : Nat) : Char :=
  Char.ofNat ((leading - 0xd800) * 0x400 + (trailing - 0xdc00) + 0x10000)

/-- The code points of UTF-16 units: two units that form a pair are one character. -/
def ofUnits : List Nat → List CodePoint
  | [] => []
  | [a] => [.ofNat a]
  | a :: b :: rest =>
    if isLeading a && isTrailing b then .char (joined a b) :: ofUnits rest
    else .ofNat a :: ofUnits (b :: rest)

/-- The code points of codes; `none` if one is beyond the last character. -/
def ofCodes? (codes : List Nat) : Option (List CodePoint) :=
  if codes.all (· ≤ 0x10ffff) then some (codes.map .ofNat) else none

/-- Decodes the bytes after the byte order mark. -/
def decodeAs? : Encoding → List UInt8 → Option (List CodePoint)
  | .utf8, bytes => (Utf8.decodePoints bytes).toOption
  | .utf16 bigEndian, bytes => (pairs? bigEndian bytes).map ofUnits
  | .utf32 bigEndian, bytes =>
    ((pairs? bigEndian bytes).bind (doubles? bigEndian)).bind ofCodes?

/-- The code points of a message, if its bytes are an encoding of such. -/
def decode? (bytes : List UInt8) : Option (List CodePoint) :=
  let (encoding, body) := detect bytes
  decodeAs? encoding body

end Encoding

end ChatRiddles.Text
