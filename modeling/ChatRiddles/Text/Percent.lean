import ChatRiddles.Text.Hexadecimal
import ChatRiddles.Text.Utf8
/-!
# Percent-encoded texts

In an address a percent sign and two hexadecimal digits stand for a byte. Letters, digits and four
more characters of ASCII never need that; every other character is encoded byte by byte.
-/

namespace ChatRiddles.Text.Percent

/-- A character that stands for itself wherever it occurs in an address. -/
def isUnreserved (c : Char) : Bool :=
  c.isAlphanum || c == '-' || c == '.' || c == '_' || c == '~'

/-- A percent sign and the digits of a byte. -/
def encodeByte (b : UInt8) : List Char := '%' :: (hexDigits 2 b.toNat).map Char.toUpper

/-- A character as it stands in an address. -/
def encodeChar (c : Char) : List Char :=
  if isUnreserved c then [c] else (Utf8.encodeChar c).flatMap encodeByte

/-- A text as it stands in an address. -/
def encode (cs : List Char) : List Char := cs.flatMap encodeChar

/-- The bytes that a text in an address stands for. A percent sign without two digits stands for
itself. -/
def bytes : List Char → List UInt8
  | '%' :: a :: b :: rest =>
    match hexValue? a, hexValue? b with
    | some m, some n => UInt8.ofNat (m * 16 + n) :: bytes rest
    | _, _ => Utf8.encodeChar '%' ++ bytes (a :: b :: rest)
  | c :: rest => Utf8.encodeChar c ++ bytes rest
  | [] => []

/-- The text that a text in an address stands for. -/
def decode (cs : List Char) : List Char := Utf8.decodeReplacing (bytes cs)

end ChatRiddles.Text.Percent
