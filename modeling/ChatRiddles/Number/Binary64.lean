import ChatRiddles.Number.Integer
/-!
# Binary floating-point numbers

Numbers with a fraction are binary floating-point numbers of 53 bits: a significand below `2 ^ 53`
times a power of two whose exponent lies between −1074 and 971, or an infinity, or not a number.
They are held exactly, and every operation rounds the exact result to the nearest number, a tie to
the one with the even significand.

Main definitions: `round` (the nearest number to a quotient), `ofDecimal` (the nearest number to a
decimal), `shortest` (the fewest decimal digits that round back).
-/

namespace ChatRiddles.Number

/-- A binary floating-point number. A finite one is `significand * 2 ^ exponent`, negated if
`negative`; the significand of a number that is not subnormal has all 53 bits. -/
inductive Binary64 where
  | nan
  | infinite (negative : Bool)
  -- a finite number; zero has the significand 0
  | finite (negative : Bool) (significand : Nat) (exponent : Int)
  deriving DecidableEq, Repr, Inhabited

namespace Binary64

/-- Significands are below this bound. -/
def significandBound : Nat := 0x20000000000000

/-- The least significand that has all its bits. -/
def leastFull : Nat := 0x10000000000000

/-- The least exponent. -/
def minExponent : Int := -1074

/-- The greatest exponent. -/
def maxExponent : Int := 971

/-- A zero. -/
def zero (negative : Bool) : Binary64 := .finite negative 0 minExponent

/-- The nearest integer to a quotient, a tie to the even one. -/
def roundQuotient (num den : Nat) : Nat :=
  let q := num / den
  let r := num % den
  if 2 * r < den then q
  else if den < 2 * r then q + 1
  else if q % 2 = 0 then q else q + 1

/-- Multiplies a quotient by a power of two. -/
def scale (num den : Nat) (power : Int) : Nat × Nat :=
  if 0 ≤ power then (num <<< power.toNat, den) else (num, den <<< (-power).toNat)

/-- The quotient `n * 10 ^ power`. -/
def decimal (n : Nat) (power : Int) : Nat × Nat :=
  if 0 ≤ power then (n * Nat.pow 10 power.toNat, 1) else (n, Nat.pow 10 (-power).toNat)

/-- The exponent at which the significand of a positive quotient has all its bits, or the least
exponent. -/
def exponentFor (num den : Nat) : Int :=
  let guess : Int := (Nat.log2 num : Int) - Nat.log2 den - 52
  let (n, d) := scale num den (-guess)
  -- the guess is right or one too high
  let exact := if n / d < leastFull then guess - 1 else guess
  max exact minExponent

/-- The nearest number to a quotient of natural numbers, with the given sign. -/
def round (negative : Bool) (num den : Nat) : Binary64 :=
  if num = 0 then zero negative
  else
    let e := exponentFor num den
    let (n, d) := scale num den (-e)
    let m := roundQuotient n d
    let (m, e) := if m = significandBound then (leastFull, e + 1) else (m, e)
    if maxExponent < e then .infinite negative else .finite negative m e

/-- The nearest number to `digits * 10 ^ power`, with the given sign. -/
def ofDecimal (negative : Bool) (digits : Nat) (power : Int) : Binary64 :=
  let size : Int := (Nat.toDigits 10 digits).length
  if digits = 0 then zero negative
  -- beyond these sizes every number rounds to infinity or to zero
  else if 310 < size + power then .infinite negative
  else if size + power < -330 then zero negative
  else
    let (num, den) := decimal digits power
    round negative num den

/-- The nearest number to an integer. -/
def ofInt (n : Int) : Binary64 := round (decide (n < 0)) n.natAbs 1

/-- A finite number as an exact quotient: numerator and denominator of its magnitude. -/
def magnitude (significand : Nat) (exponent : Int) : Nat × Nat := scale significand 1 exponent

/-- A finite number as an exact integer multiple of `2 ^ minExponent`. -/
def units (negative : Bool) (significand : Nat) (exponent : Int) : Int :=
  signed negative (significand <<< (exponent - minExponent).toNat : Nat)

/-- The nearest number to a sum. -/
def add : Binary64 → Binary64 → Binary64
  | .nan, _ => .nan
  | _, .nan => .nan
  | .infinite a, .infinite b => if a = b then .infinite a else .nan
  | .infinite a, .finite .. => .infinite a
  | .finite .., .infinite b => .infinite b
  | .finite a m e, .finite b n f =>
    let sum := units a m e + units b n f
    -- a sum of zero is negative only if both terms are
    if sum = 0 then zero (a && b)
    else round (decide (sum < 0)) sum.natAbs (1 <<< (-minExponent).toNat)

/-- Zero of either sign. -/
def isZero : Binary64 → Bool
  | .finite _ 0 _ => true
  | _ => false

/-- Neither an infinity nor `nan`. -/
def isFinite : Binary64 → Bool
  | .finite .. => true
  | _ => false

/-- The integer that a finite number without a fraction is. -/
def toInt? : Binary64 → Option Int
  | .finite negative m e =>
    let (num, den) := magnitude m e
    if num % den = 0 then some (signed negative (num / den)) else none
  | _ => none

/-! ## The fewest digits that round back -/

/-- The interval of the quotients that round to a positive number, over the denominator `den`:
`low` and `high` are its ends, `mid` is the number, and the ends belong to it iff `closed`. -/
structure Interval where
  low : Nat
  mid : Nat
  high : Nat
  den : Nat
  -- whether the ends round to the number
  closed : Bool

/-- The interval that rounds to `m * 2 ^ e`. Below a power of two the numbers lie twice as close. -/
def intervalOf (m : Nat) (e : Int) : Interval :=
  let narrow := m = leastFull ∧ minExponent < e
  -- over a quarter of the last place
  let (unit, den) := scale 1 4 e
  { low := (if narrow then 4 * m - 1 else 4 * m - 2) * unit
    mid := 4 * m * unit
    high := (4 * m + 2) * unit
    den
    closed := m % 2 = 0 }

/-- Whether a quotient lies in an interval. -/
def Interval.has (i : Interval) (num den : Nat) : Bool :=
  let x := num * i.den
  if i.closed then i.low * den ≤ x && x ≤ i.high * den else i.low * den < x && x < i.high * den

/-- A decimal with the least number of digits from `digits` to `digits + more` that lies in the
interval of a number with `places` digits before its point; of two such decimals the nearer. -/
def shortestFrom (i : Interval) (places : Int) (digits : Nat) : (more : Nat) → Nat × Int
  | 0 =>
    let power := places - digits
    let (sn, sd) := decimal 1 power
    (roundQuotient (i.mid * sd) (i.den * sn), power)
  | more + 1 =>
    let power := places - digits
    let (sn, sd) := decimal 1 power
    let below := (i.mid * sd) / (i.den * sn)
    let nearest := roundQuotient (i.mid * sd) (i.den * sn)
    let fits (n : Nat) : Bool := let (num, den) := decimal n power; i.has num den
    if fits nearest then (nearest, power)
    else if fits below then (below, power)
    else if fits (below + 1) then (below + 1, power)
    else shortestFrom i places (digits + 1) more

/-- The number of decimal digits before the point of a positive quotient; not positive if zeros
follow the point. -/
def placesOf (num den : Nat) : Int :=
  if den ≤ num then ((Nat.toDigits 10 (num / den)).length : Int)
  else
    -- the quotient lies between `10 ^ -(k + 1)` and `10 ^ -k`, and the latter may be reached
    let k := (Nat.toDigits 10 (den / num)).length - 1
    if den ≤ num * Nat.pow 10 k then 1 - (k : Int) else -(k : Int)

/-- The decimal `(digits, power)` with the fewest digits that rounds to `m * 2 ^ e`. -/
def shortest (m : Nat) (e : Int) : Nat × Int :=
  let i := intervalOf m e
  let (n, power) := shortestFrom i (placesOf i.mid i.den) 1 16
  trim n power 20
where
  /-- Moves the zeros at the end of the digits into the power. -/
  trim (n : Nat) (power : Int) : Nat → Nat × Int
    | 0 => (n, power)
    | fuel + 1 => if n ≠ 0 ∧ n % 10 = 0 then trim (n / 10) (power + 1) fuel else (n, power)

/-- How numbers with a fraction are written: which exponents are written with a point, counted by
the digits before the point, and how the other exponents are written. -/
structure Style where
  /-- Numbers with this many zeros after the point or more have an exponent. -/
  leadingZeros : Int
  /-- Numbers with more digits than this before the point have an exponent. -/
  leadingDigits : Int
  /-- The least number of digits of an exponent. -/
  exponentDigits : Nat

/-- The style of messages: an exponent of at least two digits from `1e-05` down and from `1e+16` up,
and a point in every other number. -/
def messageStyle : Style := ⟨4, 16, 2⟩

/-- An exponent with its sign, padded with zeros. -/
def exponentChars (style : Style) (n : Int) : List Char :=
  let digits := naturalText n.natAbs
  let sign := if n < 0 then '-' else '+'
  'e' :: sign :: List.replicate (style.exponentDigits - digits.length) '0' ++ digits

/-- A positive decimal in a style. -/
def decimalChars (style : Style) (n : Nat) (power : Int) : List Char :=
  let digits := naturalText n
  let places : Int := digits.length + power
  if places ≤ -style.leadingZeros ∨ style.leadingDigits < places then
    let fraction := digits.drop 1
    digits.take 1 ++ (if fraction = [] then [] else '.' :: fraction) ++
      exponentChars style (places - 1)
  else if places ≤ 0 then
    '0' :: '.' :: List.replicate (-places).toNat '0' ++ digits
  else if 0 ≤ power then
    digits ++ List.replicate power.toNat '0' ++ ['.', '0']
  else
    digits.take places.toNat ++ '.' :: digits.drop places.toNat

/-- A number in a style. -/
def chars (style : Style) : Binary64 → List Char
  | .nan => "nan".toList
  | .infinite negative => if negative then "-inf".toList else "inf".toList
  | .finite negative m e =>
    let body :=
      if m = 0 then "0.0".toList
      else let (n, power) := shortest m e; decimalChars style n power
    if negative then '-' :: body else body

/-- A number as it stands in messages. -/
def text (x : Binary64) : String := String.ofList (x.chars messageStyle)

end Binary64

end ChatRiddles.Number
