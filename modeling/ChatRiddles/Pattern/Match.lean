import ChatRiddles.Pattern.Unit
/-!
# Matching patterns

A match is found by trying: each item says where matching may go on, one place after another, and
what follows the item is tried at each of them until it succeeds. What follows is a function from
the state after the item to the outcome of the whole.

The state is the position in the text and the beginnings and ends of the groups. Both are restored
when another way is tried, because a state is a value.

A repetition first does its least number of rounds. Each further round must begin at another
position than the further round before it, which bounds their number by what is left of the text.
-/

namespace ChatRiddles.Pattern

/-- The text that is searched. -/
abbrev Subject := Array Char

/-- A state of matching: the position, and the beginning and the end of each group. The end may
belong to an earlier match of the group than the beginning. -/
structure Cursor where
  position : Nat
  -- the beginning of each group, in the order of their numbers
  begins : Array (Option Nat)
  -- the end of each group, in the order of their numbers
  ends : Array (Option Nat)

/-- Matching goes on at each of several states until the outcome is a state. -/
abbrev Matcher := Cursor → (Cursor → Option Cursor) → Option Cursor

namespace Cursor

/-- At a position before anything is matched. -/
def start (groups position : Nat) : Cursor :=
  ⟨position, Array.replicate groups none, Array.replicate groups none⟩

/-- The group of a number begins here. -/
def beginGroup (c : Cursor) (number : Nat) : Cursor :=
  { c with begins := c.begins.setIfInBounds (number - 1) (some c.position) }

/-- The group of a number ends here. -/
def endGroup (c : Cursor) (number : Nat) : Cursor :=
  { c with ends := c.ends.setIfInBounds (number - 1) (some c.position) }

/-- What the group of a number matched, from its beginning to its end. -/
def group? (c : Cursor) (number : Nat) : Option (Nat × Nat) :=
  match c.begins[number - 1]?, c.ends[number - 1]? with
  | some (some b), some (some e) => if b ≤ e then some (b, e) else none
  | _, _ => none

end Cursor

/-! ## Places -/

/-- Whether the character at a position satisfies `p`. -/
def charIs (text : Subject) (p : Char → Bool) (position : Nat) : Bool := text[position]?.any p

/-- Whether the character before a position satisfies `p`. -/
def charBeforeIs (text : Subject) (p : Char → Bool) : (position : Nat) → Bool
  | 0 => false
  | n + 1 => charIs text p n

/-- Whether a word begins or ends at a position. -/
def isBoundary (text : Subject) (alphabet : Alphabet) (position : Nat) : Bool :=
  let inWord := Category.word.has alphabet
  charBeforeIs text inWord position != charIs text inWord position

/-- Whether a position is a place. A text without characters has neither kind of boundary. -/
def Place.holds (text : Subject) (flags : Flags) (position : Nat) : Place → Bool
  | .beginning =>
    position == 0 || (flags.contains .multiLine && charBeforeIs text (· == '\n') position)
  | .textBeginning => position == 0
  | .ending =>
    position == text.size ||
      (charIs text (· == '\n') position &&
        (flags.contains .multiLine || position + 1 == text.size))
  | .textEnd => position == text.size
  | .boundary => !text.isEmpty && isBoundary text flags.alphabet position
  | .noBoundary => !text.isEmpty && !isBoundary text flags.alphabet position

/-! ## Ways to go on -/

/-- Goes on after one character that satisfies `p`. -/
def one (text : Subject) (p : Char → Bool) : Matcher := fun c k =>
  if charIs text p c.position then k { c with position := c.position + 1 } else none

/-- Goes on from the first outcome of a matcher, and from no other. -/
def firstOf (body : Matcher) (c : Cursor) : Option Cursor := body c some

/-- Goes on after a piece of the text is found again, character by character. -/
def again (text : Subject) (flags : Flags) (first last : Nat) : Matcher := fun c k =>
  let length := last - first
  let same := (List.range length).all fun i =>
    match text[first + i]?, text[c.position + i]? with
    | some a, some b => sameUnder flags a b
    | _, _ => false
  if same then k { c with position := c.position + length } else none

/-- A number of rounds in a row. -/
def rounds (body : Matcher) : (count : Nat) → Matcher
  | 0 => fun c k => k c
  | count + 1 => fun c k => body c fun c' => rounds body count c' k

/-- Whether a further round may begin: fewer than the most have been done, and the last one began at
another position. -/
def mayGoOn (left : Option Nat) (last : Option Nat) (c : Cursor) : Bool :=
  left != some 0 && last != some c.position

/-- Further rounds, more before fewer. -/
def greedyRounds (body : Matcher) :
    (fuel : Nat) → (left : Option Nat) → (last : Option Nat) → Matcher
  | 0, _, _ => fun c k => k c
  | fuel + 1, left, last => fun c k =>
    if mayGoOn left last c then
      match body c fun c' => greedyRounds body fuel (left.map (· - 1)) (some c.position) c' k with
      | some found => some found
      | none => k c
    else k c

/-- Further rounds, fewer before more. -/
def lazyRounds (body : Matcher) :
    (fuel : Nat) → (left : Option Nat) → (last : Option Nat) → Matcher
  | 0, _, _ => fun c k => k c
  | fuel + 1, left, last => fun c k =>
    match k c with
    | some found => some found
    | none =>
      if mayGoOn left last c then
        body c fun c' => lazyRounds body fuel (left.map (· - 1)) (some c.position) c' k
      else none

/-- A number of rounds, each by its first outcome. -/
def firstRounds (body : Matcher) : (count : Nat) → Cursor → Option Cursor
  | 0, c => some c
  | count + 1, c => (firstOf body c).bind (firstRounds body count)

/-- Further rounds as long as there are any, each by its first outcome. -/
def furtherRounds (body : Matcher) :
    (fuel : Nat) → (left : Option Nat) → (last : Option Nat) → Cursor → Cursor
  | 0, _, _, c => c
  | fuel + 1, left, last, c =>
    if mayGoOn left last c then
      match firstOf body c with
      | some c' => furtherRounds body fuel (left.map (· - 1)) (some c.position) c'
      | none => c
    else c

/-- The most further rounds from a position. -/
def roundBound (text : Subject) (c : Cursor) : Nat := text.size + 2 - c.position

/-- A repetition. -/
def repetition (text : Subject) (greed : Greed) (least : Nat) (most : Option Nat)
    (body : Matcher) : Matcher := fun c k =>
  let left := most.map (· - least)
  match greed with
  | .greedy => rounds body least c fun c' => greedyRounds body (roundBound text c') left none c' k
  | .lazy => rounds body least c fun c' => lazyRounds body (roundBound text c') left none c' k
  | .possessive =>
    match firstRounds body least c with
    | none => none
    | some c' => k (furtherRounds body (roundBound text c') left none c')

/-- Goes on if a body matches after the position, or before it, or if it does not. -/
def lookAround (behind : Option Width) (absent : Bool) (body : Matcher) : Matcher := fun c k =>
  let back := match behind with
    | some w => w.least
    | none => 0
  let found :=
    if c.position < back then none else firstOf body { c with position := c.position - back }
  match found, absent with
  | some c', false => k { c' with position := c.position }
  | none, true => k c
  | _, _ => none

/-! ## Items -/

mutual

/-- Goes on after an item. -/
def Node.run (text : Subject) (flags : Flags) : Node → Matcher
  | .code n => one text (codeMatches flags n)
  | .otherThan n => one text (!codeMatches flags n ·)
  | .any => one text (anyMatches flags)
  | .set outside items => one text (setMatches flags outside items)
  | .place p => fun c k => if p.holds text flags c.position then k c else none
  | .group none on off body => runSequence text (flags.within on off) body
  | .group (some number) on off body => fun c k =>
    runSequence text (flags.within on off) body (c.beginGroup number)
      fun c' => k (c'.endGroup number)
  | .atomic body => fun c k => (firstOf (runSequence text flags body) c).bind k
  | .repeated greed least most body =>
    repetition text greed least most (runSequence text flags body)
  | .choice alternatives => runChoice text flags alternatives
  | .look behind absent body => lookAround behind absent (runSequence text flags body)
  | .backreference number _ => fun c k =>
    match c.group? number with
    | some (first, last) => again text flags first last c k
    | none => none
  | .conditional number yes no => fun c k =>
    if (c.group? number).isSome then runSequence text flags yes c k
    else match no with
      | some items => runSequence text flags items c k
      | none => k c

/-- Goes on after a sequence of items. -/
def runSequence (text : Subject) (flags : Flags) : List Node → Matcher
  | [] => fun c k => k c
  | n :: rest => fun c k => n.run text flags c fun c' => runSequence text flags rest c' k

/-- Goes on after one of several sequences. -/
def runChoice (text : Subject) (flags : Flags) : List (List Node) → Matcher
  | [] => fun _ _ => none
  | a :: rest => fun c k =>
    match runSequence text flags a c k with
    | some found => some found
    | none => runChoice text flags rest c k

end

end ChatRiddles.Pattern
