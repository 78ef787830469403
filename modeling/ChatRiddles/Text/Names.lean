import ChatRiddles.Text.Hexadecimal
import ChatRiddles.Text.Names.Abugidas
import ChatRiddles.Text.Names.Aliases
import ChatRiddles.Text.Names.Alphabets
import ChatRiddles.Text.Names.Ancient
import ChatRiddles.Text.Names.Compatibility
import ChatRiddles.Text.Names.EastAsia
import ChatRiddles.Text.Names.Hieroglyphs
import ChatRiddles.Text.Names.Historic
import ChatRiddles.Text.Names.Mathematics
import ChatRiddles.Text.Names.Phonetic
import ChatRiddles.Text.Names.Pictographs
import ChatRiddles.Text.Names.Syllabics
import ChatRiddles.Text.Names.Symbols
/-!
# Names of characters

A character is found by its name, by another name of it, or, where the names of many characters
follow a rule, by that rule: the syllables of Hangul are named by their letters, and ideographs by
their code. The case of letters does not count, except in the names of syllables and of unified
ideographs.

Main definition: `characterNamed?`.
-/

namespace ChatRiddles.Text

namespace Names

/-! ## Names by code -/

/-- The characters from one to another, that are named by a title and their code. -/
structure Coded where
  title : String
  first : Nat
  last : Nat

/-- The unified ideographs. -/
def unifiedIdeographs : List Coded :=
  [(0x3400, 0x4dbf), (0x4e00, 0x9fff), (0x20000, 0x2a6df), (0x2a700, 0x2b738), (0x2b740, 0x2b81d),
    (0x2b820, 0x2cea1), (0x2ceb0, 0x2ebe0), (0x30000, 0x3134a)].map
    fun (first, last) => ⟨"CJK UNIFIED IDEOGRAPH-", first, last⟩

/-- The other characters that are named by their code. -/
def codedCharacters : List Coded :=
  [⟨"CJK COMPATIBILITY IDEOGRAPH-", 0xf900, 0xfa6d⟩,
    ⟨"CJK COMPATIBILITY IDEOGRAPH-", 0xfa70, 0xfad9⟩,
    ⟨"CJK COMPATIBILITY IDEOGRAPH-", 0x2f800, 0x2fa1d⟩,
    ⟨"KHITAN SMALL SCRIPT CHARACTER-", 0x18b00, 0x18cd5⟩, ⟨"NUSHU CHARACTER-", 0x1b170, 0x1b2fb⟩]

/-- The value of a hexadecimal digit that is no small letter. -/
def capitalHex? (c : Char) : Option Nat := if c.isLower then none else hexValue? c

/-- The number that hexadecimal digits without small letters write. -/
def capitalHexNumber? (cs : List Char) : Option Nat :=
  (cs.mapM capitalHex?).map fun digits => digits.foldl (fun n d => 16 * n + d) 0

/-- How many digits a code needs at least; four are always written. -/
def leastDigits (code : Nat) : Nat := if code < 0x10000 then 4 else 5

/-- The code of a character named by it, in one of the numbers of digits that are allowed. -/
def Coded.find? (r : Coded) (lengths : Nat → List Nat) (name : List Char) : Option Nat := do
  let title := r.title.toList
  guard (title.isPrefixOf name)
  let digits := name.drop title.length
  let code ← capitalHexNumber? digits
  guard (r.first ≤ code && code ≤ r.last && (lengths code).contains digits.length)
  return code

/-! ## Syllables -/

/-- The letters that begin a syllable. -/
def leadingLetters : List String :=
  ["G", "GG", "N", "D", "DD", "R", "M", "B", "BB", "S", "SS", "", "J", "JJ", "C", "K", "T", "P",
    "H"]

/-- The vowels of a syllable. -/
def vowels : List String :=
  ["A", "AE", "YA", "YAE", "EO", "E", "YEO", "YE", "O", "WA", "WAE", "OE", "YO", "U", "WEO", "WE",
    "WI", "YU", "EU", "YI", "I"]

/-- The letters that end a syllable. -/
def trailingLetters : List String :=
  ["", "G", "GG", "GS", "N", "NJ", "NH", "D", "L", "LG", "LM", "LB", "LS", "LT", "LP", "LH", "M",
    "B", "BS", "S", "SS", "NG", "J", "C", "K", "T", "P", "H"]

/-- The number of the longest of several texts with which a name begins, and what follows it. -/
def longest? (texts : List String) (name : List Char) : Option (Nat × List Char) :=
  let fitting := texts.zipIdx.filter fun (t, _) => t.toList.isPrefixOf name
  let best := fitting.foldl (fun (best : Option (String × Nat)) (t, n) =>
    match best with
    | some (b, _) => if b.length < t.length then some (t, n) else best
    | none => some (t, n)) none
  best.map fun (t, n) => (n, name.drop t.length)

/-- The title of the names of syllables. -/
def syllableTitle : List Char := "HANGUL SYLLABLE ".toList

/-- The syllable of a name. -/
def syllable? (name : List Char) : Option Nat := do
  guard (syllableTitle.isPrefixOf name)
  let (l, rest) ← longest? leadingLetters (name.drop syllableTitle.length)
  let (v, rest) ← longest? vowels rest
  let (t, rest) ← longest? trailingLetters rest
  guard (rest = [])
  return 0xac00 + (l * vowels.length + v) * trailingLetters.length + t

/-! ## Other names -/

/-- The characters that select a form of the character before them, by their number. -/
def selector? (name : List Char) : Option Nat := do
  guard (['V', 'S'].isPrefixOf name)
  let digits := name.drop 2
  let n ← (List.range 257).find? fun n => Nat.toDigits 10 n = digits
  guard (n ≠ 0)
  return if n ≤ 16 then 0xfe00 + (n - 1) else 0xe0100 + (n - 17)

/-- All runs of names. -/
def runs : List Run :=
  alphabets ++ abugidas ++ syllabics ++ symbols ++ eastAsia ++ compatibility ++ ancient ++
    historic ++ hieroglyphs ++ phonetic ++ mathematics ++ pictographs

end Names

open Names

/-- The code of the character of a name. -/
def characterNamed? (name : List Char) : Option Nat :=
  if syllableTitle.isPrefixOf name then syllable? name
  else
    let capitals := name.map Char.toUpper
    unifiedIdeographs.findSome? (·.find? (fun _ => [4, 5]) name) <|>
      aliases.lookup (String.ofList capitals) <|> selector? capitals <|>
      codedCharacters.findSome? (·.find? (fun code => [leastDigits code]) capitals) <|>
      runs.findSome? (·.find? capitals)

end ChatRiddles.Text
