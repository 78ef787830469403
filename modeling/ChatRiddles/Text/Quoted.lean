import ChatRiddles.Text.Hexadecimal
import ChatRiddles.Text.Printable
/-!
# Quoted texts

Messages quote the names and texts that they speak of. A quoted text stands in single quotes, or in
double quotes when it has a single quote and no double quote. Inside, the backslash and the
surrounding quote are escaped by a backslash, tab, line feed and carriage return have short escapes,
and every other character that is not printable is written by its code in hexadecimal digits: two,
four or eight of them, whichever is the least that hold it.
-/

namespace ChatRiddles.Text

/-- The quote that surrounds a text: single, unless the text has single quotes only. -/
def quoteFor (cs : List Char) : Char :=
  if cs.contains '\'' && !cs.contains '"' then '"' else '\''

/-- A character as it stands between quotes. -/
def escapeIn (quote : Char) (c : Char) : List Char :=
  let n := c.toNat
  if c = quote ∨ c = '\\' then ['\\', c]
  else if c = '\t' then ['\\', 't']
  else if c = '\n' then ['\\', 'n']
  else if c = '\r' then ['\\', 'r']
  else if n < 0x20 ∨ n = 0x7f then '\\' :: 'x' :: hexDigits 2 n
  else if n < 0x7f then [c]
  else if isPrintable n then [c]
  else if n < 0x100 then '\\' :: 'x' :: hexDigits 2 n
  else if n < 0x10000 then '\\' :: 'u' :: hexDigits 4 n
  else '\\' :: 'U' :: hexDigits 8 n

/-- A text in quotes. -/
def quotedChars (cs : List Char) : List Char :=
  let quote := quoteFor cs
  quote :: cs.flatMap (escapeIn quote) ++ [quote]

/-- A text in quotes. -/
def quoted (s : String) : String := String.ofList (quotedChars s.toList)

end ChatRiddles.Text
