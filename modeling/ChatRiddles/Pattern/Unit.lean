import ChatRiddles.Pattern.Syntax
import ChatRiddles.Text.Blank
import ChatRiddles.Text.Case
/-!
# Matching single characters

Whether a character belongs to a class, is a given character, or lies in a set depends on the flags.
With the ASCII alphabet the classes and the cases are those of ASCII. Where case is ignored a
character is compared by its lower-case form, and counts as any character whose lower-case form has
the same upper-case form.
-/

namespace ChatRiddles.Pattern

open Text

/-- The alphabet of the classes and the cases. -/
inductive Alphabet where
  | ascii | unicode
  deriving DecidableEq, Repr

/-- The alphabet that flags choose. -/
def Flags.alphabet (flags : Flags) : Alphabet :=
  if flags.contains .unicode then .unicode else .ascii

/-- Whether a character belongs to a class. -/
def Category.has : Alphabet → Category → Char → Bool
  | .ascii, .digit, c => '0' ≤ c && c ≤ '9'
  | .ascii, .space, c => c.toNat < 0x80 && isBlank c && !(0x1c ≤ c.toNat && c.toNat ≤ 0x1f)
  | .ascii, .word, c => ('0' ≤ c && c ≤ '9') || isAsciiLetter c.toNat || c == '_'
  | .unicode, .digit, c => isDecimalDigit c.toNat
  | .unicode, .space, c => isBlank c
  | .unicode, .word, c => isWord c.toNat

/-- The lower-case form of a character. -/
def lowerIn : Alphabet → Nat → Nat
  | .ascii, n => toLowerAscii n
  | .unicode, n => toLower n

/-- Whether a character has two cases. -/
def isCasedIn : Alphabet → Nat → Bool
  | .ascii, n => isAsciiLetter n
  | .unicode, n => hasCase n

/-- The characters that count as a character in lower case. -/
def equalsIn : Alphabet → Nat → List Nat
  | .ascii, n =>
    if 0x61 ≤ n ∧ n ≤ 0x7a then [n, n - 0x20] else if 0x41 ≤ n ∧ n ≤ 0x5a then [] else [n]
  | .unicode, n => foldedOnto n

/-! ## Sets -/

/-- The last character of the basic plane. -/
def basicEnd : Nat := 0xffff

/-- Whether one of the characters from `low` up satisfies `p`, looking at `count` of them. -/
def anyFrom (p : Nat → Bool) (low : Nat) : (count : Nat) → Bool
  | 0 => false
  | count + 1 => p low || anyFrom p (low + 1) count

/-- Whether a member of a set has a character with two cases. A range that reaches beyond the basic
plane counts as having one. -/
def SetItem.isCased (alphabet : Alphabet) : SetItem → Bool
  | .code n => isCasedIn alphabet n
  | .range low high =>
    basicEnd < high || anyFrom (isCasedIn alphabet) low (high + 1 - low)
  | .category _ _ => false

/-- Whether a member of a set is a single character beyond the basic plane. -/
def SetItem.isBeyond : SetItem → Bool
  | .code n => basicEnd < n
  | _ => false

/-- Whether a member of a set has a character, case being told apart. -/
def SetItem.has (alphabet : Alphabet) (c : Char) : SetItem → Bool
  | .code n => c.toNat == n
  | .range low high => low ≤ c.toNat && c.toNat ≤ high
  | .category kind outside => kind.has alphabet c != outside

/-- Whether a member of a set has a character in either case. A single character beyond the basic
plane is compared as it stands; a range that reaches beyond it has a character whose lower-case
form, or the upper-case form of that, it has. -/
def SetItem.hasFolded (alphabet : Alphabet) (c : Char) (item : SetItem) : Bool :=
  let low := lowerIn alphabet c.toNat
  match item with
  | .code n => if basicEnd < n then low == n else (equalsIn alphabet low).contains n
  | .range first last =>
    let inside (n : Nat) : Bool := first ≤ n && n ≤ last
    if basicEnd < last then
      inside low || inside (toUpper low) ||
        (equalsIn alphabet low).any fun n => n ≤ basicEnd && inside n
    else (equalsIn alphabet low).any inside
  | .category kind outside => kind.has alphabet (Char.ofNat low) != outside

/-- Whether a set has a character, case being told apart. -/
def setHas (alphabet : Alphabet) (outside : Bool) (items : List SetItem) (c : Char) : Bool :=
  items.any (·.has alphabet c) != outside

/-- Whether a set has a character under flags. Case is ignored only if the set has characters with
two cases, or characters beyond the basic plane. -/
def setMatches (flags : Flags) (outside : Bool) (items : List SetItem) (c : Char) : Bool :=
  let alphabet := flags.alphabet
  if flags.contains .ignoreCase && items.any (fun i => i.isCased alphabet || i.isBeyond) then
    items.any (·.hasFolded alphabet c) != outside
  else setHas alphabet outside items c

/-! ## Characters -/

/-- Whether a character is the character of a code under flags. -/
def codeMatches (flags : Flags) (n : Nat) (c : Char) : Bool :=
  let alphabet := flags.alphabet
  if flags.contains .ignoreCase && isCasedIn alphabet n then
    match alphabet with
    | .ascii => lowerIn alphabet c.toNat == lowerIn alphabet n
    | .unicode =>
      let low := toLower n
      let found := toLower c.toNat
      found == low || (caseSiblings low).contains found
  else c.toNat == n

/-- Whether two characters are the same under flags. -/
def sameUnder (flags : Flags) (a b : Char) : Bool :=
  if flags.contains .ignoreCase then
    lowerIn flags.alphabet a.toNat == lowerIn flags.alphabet b.toNat
  else a == b

/-- Whether a point matches a character under flags. -/
def anyMatches (flags : Flags) (c : Char) : Bool := flags.contains .dotAll || c != '\n'

end ChatRiddles.Pattern
