import ChatRiddles.Text.Quoted
/-!
# Code points

Some codes are set apart for the halves of pairs, and a pair stands for a character. Such a
surrogate is no character of its own, so a text in which one stands alone is ill formed: nothing
encodes it. Messages can bring such texts all the same.

Main definitions: `CodePoint`, `IllFormed`.
-/

namespace ChatRiddles.Text

/-- The character that stands for what is no character. -/
def replacement : Char := Char.ofNat 0xfffd

/-- A code point: a character, or a surrogate, told by its distance from the first one. -/
inductive CodePoint where
  | char (c : Char)
  | surrogate (n : Fin 0x800)
  deriving DecidableEq, Repr

namespace CodePoint

/-- The code point of a code. -/
def ofNat (n : Nat) : CodePoint :=
  if h : 0xd800 ≤ n ∧ n < 0xe000 then .surrogate ⟨n - 0xd800, by omega⟩ else .char (Char.ofNat n)

/-- The character; for a surrogate, what stands for each of the three bytes of its code. -/
def replaced : CodePoint → List Char
  | char c => [c]
  | surrogate _ => [replacement, replacement, replacement]

/-- A code point as it stands between quotes. -/
def escapeIn (quote : Char) : CodePoint → List Char
  | char c => Text.escapeIn quote c
  | surrogate n => '\\' :: 'u' :: hexDigits 4 (0xd800 + n)

end CodePoint

/-- A text as code points. -/
def points (cs : List Char) : List CodePoint := cs.map .char

/-- The characters of code points; `none` if there is a surrogate. -/
def chars? : List CodePoint → Option (List Char)
  | [] => some []
  | .char c :: rest => (chars? rest).map (c :: ·)
  | .surrogate _ :: _ => none

/-- The code points of characters are those characters. -/
theorem chars?_points (cs : List Char) : chars? (points cs) = some cs := by
  induction cs with
  | nil => rfl
  | cons c rest ih =>
    show (chars? (points rest)).map (c :: ·) = _
    rw [ih]
    rfl

/-- A text that holds a surrogate. -/
structure IllFormed where
  points : List CodePoint
  surrogate : chars? points = none

namespace IllFormed

/-- The text with its surrogates replaced. -/
def replaced (t : IllFormed) : String := String.ofList (t.points.flatMap CodePoint.replaced)

/-- The text in quotes. -/
def quotedChars (t : IllFormed) : List Char :=
  let quote := quoteFor (t.points.flatMap CodePoint.replaced)
  quote :: t.points.flatMap (·.escapeIn quote) ++ [quote]

end IllFormed

end ChatRiddles.Text
