import ChatRiddles.Number.Binary64
/-!
# Decimal numbers in texts

A decimal is digits with an optional point and an optional power of ten. A setting accepts more than
that: white space around the number, a sign, digits of any script, single underscores between
digits, a point at either end of the digits, and the words for infinity and for no number in any
case.
-/

namespace ChatRiddles.Number

open ChatRiddles.Text

/-- The number of a decimal: integer digits, fraction digits and exponent. -/
def ofDecimalParts (negative : Bool) (whole fraction : List Nat) (power : Int) : Binary64 :=
  .ofDecimal negative (ofDigits (whole ++ fraction)) (power - fraction.length)

/-- A digit of any script as an ASCII digit, white space as a space, another character as itself. -/
def plainChar (c : Char) : Char :=
  match digitValue? c.toNat with
  | some d => Char.ofNat (0x30 + d)
  | none => if isWhiteSpace c then ' ' else c

/-- Drops underscores, each of which must stand between two digits. -/
def dropUnderscores? : (previous : Option Char) → List Char → Option (List Char)
  | _, [] => some []
  | previous, '_' :: rest =>
    match previous, rest with
    | some a, b :: _ =>
      if isAsciiDigit a && isAsciiDigit b then dropUnderscores? none rest else none
    | _, _ => none
  | _, c :: rest => (dropUnderscores? (some c) rest).map (c :: ·)

/-- The leading digits of a text and what follows them. -/
def spanDigits : List Char → List Nat × List Char
  | [] => ([], [])
  | c :: rest =>
    match asciiDigit? c with
    | some d => let (ds, after) := spanDigits rest; (d :: ds, after)
    | none => ([], c :: rest)

/-- The power of ten after the mark of an exponent. -/
def exponent? (cs : List Char) : Option Int :=
  let (negative, body) := splitSign cs
  match spanDigits body with
  | (d :: ds, []) => some (signed negative (ofDigits (d :: ds)))
  | _ => none

/-- An unsigned decimal. -/
def unsignedDecimal? (negative : Bool) (cs : List Char) : Option Binary64 :=
  let (whole, rest) := spanDigits cs
  let (fraction, rest) := match rest with
    | '.' :: after => spanDigits after
    | _ => ([], rest)
  if whole = [] ∧ fraction = [] then none
  else match rest with
    | [] => some (ofDecimalParts negative whole fraction 0)
    | c :: after =>
      if c = 'e' ∨ c = 'E' then (exponent? after).map (ofDecimalParts negative whole fraction)
      else none

/-- Reads the number of a setting. -/
def decimalOfText? (cs : List Char) : Option Binary64 :=
  match dropUnderscores? none (trimBy isWhiteSpace (cs.map plainChar)) with
  | none => none
  | some plain =>
    let (negative, body) := splitSign plain
    let word := body.map Char.toLower
    if word = "inf".toList ∨ word = "infinity".toList then some (.infinite negative)
    else if word = "nan".toList then some .nan
    else unsignedDecimal? negative body

end ChatRiddles.Number
