import ChatRiddles.Json.Value
/-!
# Writing JSON

A value is written without blanks. A string is written in double quotes; the quote and the backslash
are escaped, and so is every character outside printable ASCII: five of the control characters by a
letter, the others by the four hexadecimal digits of their UTF-16 units. A surrogate that stands
alone is such a unit.
-/

namespace ChatRiddles.Json

open Number Text

/-- An escape by the code of a UTF-16 unit. -/
def unitEscape (n : Nat) : List Char := '\\' :: 'u' :: hexDigits 4 n

/-- A character of a string as it is written. -/
def writtenChar (c : Char) : List Char :=
  let n := c.toNat
  if c = '"' ∨ c = '\\' then ['\\', c]
  else if c = '\n' then ['\\', 'n']
  else if c = '\r' then ['\\', 'r']
  else if c = '\t' then ['\\', 't']
  else if n = 0x08 then ['\\', 'b']
  else if n = 0x0c then ['\\', 'f']
  else if 0x20 ≤ n ∧ n ≤ 0x7e then [c]
  else if n < 0x10000 then unitEscape n
  else unitEscape (0xd800 + (n - 0x10000) / 0x400) ++ unitEscape (0xdc00 + (n - 0x10000) % 0x400)

/-- A string as it is written. -/
def writtenString (s : String) : List Char := '"' :: s.toList.flatMap writtenChar ++ ['"']

/-- An ill-formed text as it is written. -/
def writtenIllFormed (t : IllFormed) : List Char :=
  '"' :: t.points.flatMap writtenPoint ++ ['"']
where
  /-- A code point of a string as it is written. -/
  writtenPoint : CodePoint → List Char
    | .char c => writtenChar c
    | .surrogate n => unitEscape (0xd800 + n)

/-- The name of a field as it is written. -/
def writtenName (name : String) : Json → List Char
  | .misnamed t _ => writtenIllFormed t
  | _ => writtenString name

/-- A number with a fraction as it is written. -/
def writtenFloat : Binary64 → List Char
  | .nan => "NaN".toList
  | .infinite negative => if negative then "-Infinity".toList else "Infinity".toList
  | x => x.chars Binary64.messageStyle

mutual

/-- A value as it is written. -/
def writtenChars : Json → List Char
  | .null => "null".toList
  | .bool b => if b then "true".toList else "false".toList
  | .int n => integerChars n
  | .float x => writtenFloat x
  | .string s => writtenString s
  | .illFormed t => writtenIllFormed t
  | .array items => '[' :: joinWith [','] (writtenItems items) ++ [']']
  | .object fields => '\x7b' :: joinWith [','] (writtenFields fields) ++ ['\x7d']
  | .misnamed _ v => writtenChars v

/-- The items of an array as they are written. -/
def writtenItems : List Json → List (List Char)
  | [] => []
  | v :: rest => writtenChars v :: writtenItems rest

/-- The fields of an object as they are written. -/
def writtenFields : List (String × Json) → List (List Char)
  | [] => []
  | (k, v) :: rest => (writtenName k v ++ ':' :: writtenChars v) :: writtenFields rest

end

/-- A value as it is written. -/
def written (v : Json) : String := String.ofList v.writtenChars

end ChatRiddles.Json
