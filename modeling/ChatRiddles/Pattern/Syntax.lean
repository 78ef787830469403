import ChatRiddles.Text.Letters
/-!
# Patterns

A pattern is a sequence of items. An item matches one character, or a place in the text, or is built
from smaller patterns: a choice, a repetition, a group, a look around, a condition.

Characters are given by their codes, because a pattern can name codes that no text holds. How many
characters a pattern may match is its *width*, an interval.
-/

namespace ChatRiddles.Pattern

/-- The options of a pattern, each named by a letter. -/
inductive Flag where
  | ignoreCase
  -- not accepted in patterns for text
  | locale
  -- lines have beginnings and ends
  | multiLine
  -- a point matches line feeds too
  | dotAll
  -- blanks and comments are left out
  | verbose
  -- the classes of characters and the cases of letters are those of ASCII
  | ascii
  -- repetition is not accepted
  | template
  -- the classes of characters and the cases of letters are those of all characters
  | unicode
  deriving DecidableEq, Repr

namespace Flag

/-- The flag of a letter. -/
def ofChar? : Char → Option Flag
  | 'i' => some .ignoreCase
  | 'L' => some .locale
  | 'm' => some .multiLine
  | 's' => some .dotAll
  | 'x' => some .verbose
  | 'a' => some .ascii
  | 't' => some .template
  | 'u' => some .unicode
  | _ => none

/-- The flags that choose an alphabet, of which a pattern has one. -/
def isAlphabet : Flag → Bool
  | .ascii | .locale | .unicode => true
  | _ => false

/-- The flags that hold for a whole pattern only. -/
def isGlobal : Flag → Bool
  | .template => true
  | _ => false

end Flag

/-- A set of flags. -/
abbrev Flags := List Flag

/-- The flags inside a group that turns some on and some off. A group that chooses an alphabet gives
up the one around it. -/
def Flags.within (flags on off : Flags) : Flags :=
  let kept := if on.any Flag.isAlphabet then flags.filter (!·.isAlphabet) else flags
  (kept ++ on).filter (!off.contains ·)

/-- A class of characters. -/
inductive Category where
  | digit | space | word
  deriving DecidableEq, Repr

/-- A member of a set of characters. -/
inductive SetItem where
  | code (n : Nat)
  | range (low high : Nat)
  | category (kind : Category) (outside : Bool)
  deriving DecidableEq, Repr

/-- A place in a text. -/
inductive Place where
  -- the beginning of the text, or of a line where lines count
  | beginning
  | textBeginning
  -- the end of the text, before a last line feed too, or of a line where lines count
  | ending
  | textEnd
  | boundary
  | noBoundary
  deriving DecidableEq, Repr

/-- The least and the greatest number of characters that are matched. -/
structure Width where
  least : Nat
  greatest : Nat
  deriving DecidableEq, Repr

/-- The order in which the numbers of repetitions are tried. -/
inductive Greed where
  -- many before few
  | greedy
  -- few before many
  | lazy
  -- as many as there are, and no other number
  | possessive
  deriving DecidableEq, Repr

/-- An item of a pattern. -/
inductive Node where
  | code (n : Nat)
  | otherThan (n : Nat)
  -- any character, line feeds left out unless a flag says otherwise
  | any
  | set (outside : Bool) (items : List SetItem)
  | place (p : Place)
  -- a pattern with flags of its own, recorded under a number if it has one
  | group (number : Option Nat) (on off : Flags) (body : List Node)
  -- the first match of a pattern, and no other
  | atomic (body : List Node)
  -- a pattern several times in a row; no upper bound if `most` is `none`
  | repeated (greed : Greed) (least : Nat) (most : Option Nat) (body : List Node)
  -- one of several patterns, the first that leads to a match
  | choice (alternatives : List (List Node))
  -- a match of a pattern after this place, or before it if `behind` gives its width; or none
  | look (behind : Option Width) (absent : Bool) (body : List Node)
  -- what the group of that number matched, of the width of the group
  | backreference (number : Nat) (width : Width)
  -- one pattern if the group of that number matched, another if not
  | conditional (number : Nat) (yes : List Node) (no : Option (List Node))
  deriving Inhabited

/-- Widths are counted up to this bound. -/
def widthBound : Nat := 0x10000000000000000

namespace Width

/-- The width of nothing. -/
def zero : Width := ⟨0, 0⟩

/-- The width of two patterns in a row. -/
def add (a b : Width) : Width := ⟨a.least + b.least, a.greatest + b.greatest⟩

/-- The width of one of two patterns. -/
def either (a b : Width) : Width := ⟨min a.least b.least, max a.greatest b.greatest⟩

/-- A width up to the bound. -/
def bounded (w : Width) : Width := ⟨min w.least widthBound, min w.greatest widthBound⟩

/-- The width of a repetition. -/
def times (w : Width) (least : Nat) (most : Option Nat) : Width :=
  { least := w.least * least
    greatest := match most with
      | some n => w.greatest * n
      | none => if w.greatest = 0 then 0 else widthBound }

end Width

mutual

/-- The width of an item. -/
def Node.width : Node → Width
  | .code _ | .otherThan _ | .any | .set _ _ => ⟨1, 1⟩
  | .place _ | .look _ _ _ => .zero
  | .group _ _ _ body | .atomic body => (widthOf body).bounded
  | .repeated _ least most body => (widthOf body).bounded.times least most
  | .choice alternatives => (widthOfChoice alternatives).getD .zero
  | .backreference _ w => w
  | .conditional _ yes none => ⟨0, (widthOf yes).bounded.greatest⟩
  | .conditional _ yes (some no) => (widthOf yes).bounded.either (widthOf no).bounded

/-- The width of a sequence, not yet bounded. -/
def widthOf : List Node → Width
  | [] => .zero
  | n :: rest => n.width.add (widthOf rest)

/-- The width of a choice; `none` if there is nothing to choose from. -/
def widthOfChoice : List (List Node) → Option Width
  | [] => none
  | a :: rest =>
    match widthOfChoice rest with
    | none => some (widthOf a).bounded
    | some w => some ((widthOf a).bounded.either w)

end

/-- Whether two items are the same item for one character, one place or one group. Items that hold
patterns count as different. -/
def Node.sameUnit : Node → Node → Bool
  | .code a, .code b => a == b
  | .otherThan a, .otherThan b => a == b
  | .any, .any => true
  | .set o a, .set p b => o == p && a == b
  | .place a, .place b => a == b
  | .backreference a _, .backreference b _ => a == b
  | _, _ => false

/-- The items that every alternative starts with, and the alternatives after them. -/
def commonStart : (first : List Node) → (others : List (List Node)) →
    List Node × List Node × List (List Node)
  | [], others => ([], [], others)
  | n :: rest, others =>
    if others.all fun other => other.head?.any n.sameUnit then
      let (start, first, others) := commonStart rest (others.map (·.drop 1))
      (n :: start, first, others)
    else ([], n :: rest, others)

/-- The set that an alternative of one character is; `none` for other alternatives. -/
def asSet? : List Node → Option (List SetItem)
  | [.code n] => some [.code n]
  | [.set false items] => some items
  | _ => none

/-- The sets that all alternatives are. -/
def asSets? : List (List Node) → Option (List SetItem)
  | [] => some []
  | a :: rest =>
    match asSet? a, asSets? rest with
    | some items, some more => some (items ++ more)
    | _, _ => none

/-- The sequence that stands for a choice. What all alternatives start with is taken out of it, and
a choice between characters becomes a set. -/
def sequenceOfChoice (first : List Node) : (others : List (List Node)) → List Node
  | [] => first
  | second :: rest =>
    let (start, first, others) := commonStart first (second :: rest)
    match asSets? (first :: others) with
    | some items => start ++ [.set false items.eraseDups]
    | none => start ++ [.choice (first :: others)]

/-- Puts the items of groups that do nothing in the place of the groups. -/
def ungrouped (items : List Node) : List Node :=
  items.flatMap fun
    | .group none [] [] body => body
    | n => [n]

end ChatRiddles.Pattern
