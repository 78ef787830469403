import ChatRiddles.Text.Blank
import ChatRiddles.Text.Letters
/-!
# Texts in lines

A text is put into lines of a given width. Lines are broken between words, after a hyphen between
letters, and beside a dash of two hyphens or more between words; a piece that is longer than a line
is cut. Blanks at the ends of lines are left out.
-/

namespace ChatRiddles.Text

/-- A blank that separates words in lines. -/
def isSeparator (c : Char) : Bool := (0x09 ≤ c.toNat && c.toNat ≤ 0x0d) || c == ' '

namespace Wrapped

/-! ## Pieces -/

/-- A letter, for which a low line counts too. -/
def isWordLetter (c : Char) : Bool := isWord c.toNat && !isDecimalDigit c.toNat

/-- A character that can stand before a dash. -/
def precedesDash (c : Char) : Bool := isWord c.toNat || "!\"'&.,?".toList.contains c

/-- Whether two or more hyphens begin a text, and then a word. -/
def startsWithDash (rest : List Char) : Bool :=
  2 ≤ (rest.takeWhile (· == '-')).length &&
    match rest.dropWhile (· == '-') with
    | c :: _ => isWord c.toNat
    | [] => false

/-- Whether a text can be broken after a hyphen that ends a word of two letters or more, or a letter
that another hyphen precedes. The last character is given first. -/
def endsWithHyphen : List Char → Bool
  | '-' :: a :: b :: before =>
    isWordLetter a &&
      (isWordLetter b || b == '-' && match before with
        | c :: _ => isWordLetter c
        | [] => false)
  | _ => false

/-- Whether two letters begin a text, or two letters with a hyphen between them. -/
def startsWithLetters : List Char → Bool
  | a :: '-' :: c :: _ => isWordLetter a && isWordLetter c
  | a :: b :: _ => isWordLetter a && isWordLetter b
  | _ => false

/-- Whether a dash ends a text that is given from its end, with a word before it. -/
def endsWithDash (before rest : List Char) : Bool :=
  2 ≤ (before.takeWhile (· == '-')).length &&
    (match before.dropWhile (· == '-') with
      | c :: _ => precedesDash c
      | [] => false) &&
    match rest with
    | c :: _ => isWord c.toNat
    | [] => false

/-- Whether a line can be broken between two parts of a text, the first of them given from its
end. -/
def isBreak (before rest : List Char) : Bool :=
  match before, rest with
  | a :: _, b :: _ =>
    isSeparator a != isSeparator b ||
      endsWithHyphen before && startsWithLetters rest ||
      precedesDash a && startsWithDash rest ||
      endsWithDash before rest
  | _, _ => false

/-- The pieces of a text, whose part before is given from its end. -/
def piecesAfter (before : List Char) : List Char → List (List Char)
  | [] => []
  | c :: rest =>
    match piecesAfter (c :: before) rest with
    | [] => [[c]]
    | piece :: others =>
      if isBreak (c :: before) rest then [c] :: piece :: others else (c :: piece) :: others

/-- The pieces of a text. -/
def pieces (text : List Char) : List (List Char) := piecesAfter [] text

/-! ## Lines -/

/-- Whether there is nothing but blanks in a piece. -/
def isEmptyPiece (piece : List Char) : Bool := piece.all isBlank

/-- The pieces that fit into a width, and the others. -/
def fitting (width : Nat) : List (List Char) → List (List Char) × List (List Char)
  | [] => ([], [])
  | piece :: rest =>
    if piece.length ≤ width then
      let (line, others) := fitting (width - piece.length) rest
      (piece :: line, others)
    else ([], piece :: rest)

/-- How much of a piece is put into a width: up to the last hyphen there, unless nothing but hyphens
comes before it. -/
def cut (width : Nat) (piece : List Char) : Nat :=
  let part := piece.take width
  let upToHyphen := dropWhileEnd (· != '-') part
  if upToHyphen.dropLast.any (· != '-') then upToHyphen.length else width

/-- A line of pieces without blanks at its end. -/
def trimmedLine (line : List (List Char)) : List (List Char) :=
  match line.getLast? with
  | some last => if isEmptyPiece last then line.dropLast else line
  | none => line

/-- The first line of pieces, and the pieces after it. -/
def firstLine (width : Nat) (texts : List (List Char)) : List Char × List (List Char) :=
  let (line, others) := fitting width texts
  match others with
  | [] => ((trimmedLine line).flatten, [])
  | piece :: rest =>
    if width < piece.length then
      let n := cut (width - line.flatten.length) piece
      ((trimmedLine (line ++ [piece.take n])).flatten, piece.drop n :: rest)
    else ((trimmedLine line).flatten, others)

/-- Pieces without blanks at their start. -/
def withoutLeadingBlank : List (List Char) → List (List Char)
  | [] => []
  | piece :: rest => if isEmptyPiece piece then rest else piece :: rest

/-- The number of characters in pieces. -/
def size (texts : List (List Char)) : Nat := texts.flatten.length

/-- The lines of pieces. -/
def linesOf (width : Nat) (texts : List (List Char)) : List (List Char) :=
  let (line, rest) := firstLine width texts
  let others := withoutLeadingBlank rest
  let lines := if line.isEmpty then [] else [line]
  -- a line takes at least one character
  if size others < size texts then lines ++ linesOf width others else lines
termination_by size texts

end Wrapped

/-- A text in lines of a width. -/
def wrapped (width : Nat) (text : List Char) : List (List Char) :=
  Wrapped.linesOf width (Wrapped.pieces text)

end ChatRiddles.Text
