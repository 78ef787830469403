import ChatRiddles.Number.Integer
import ChatRiddles.Pattern.Syntax
import ChatRiddles.Text.Quoted
/-!
# Why a text is no pattern

A fault in a pattern has a reason, and most have a place. The place is held as the number of
characters from it to the end of the text, and shown as the number of characters before it; in a
text of several lines the line and the column are shown too.

Reading can also break down, in five ways that are told apart from faults. One of them is that a
pattern is nested more deeply than there is room for calls.
-/

namespace ChatRiddles.Pattern

open Number Text

/-- What a name stands for. -/
inductive NameKind where
  | group | character
  deriving DecidableEq, Repr

/-- The words for what a name stands for. -/
def NameKind.message : NameKind → String
  | .group => "group name"
  | .character => "character name"

/-- Why a text is no pattern. Texts are those that the messages show. -/
inductive Reason where
  | danglingBackslash
  | badEscape (text : List Char)
  | incompleteEscape (text : List Char)
  | octalTooLarge (text : List Char)
  | missingBrace
  | missingName (kind : NameKind)
  | unterminatedName (close : Char)
  | undefinedCharacter (name : List Char)
  | openGroup
  | sameLookBehind
  | noSuchGroup (number : Nat)
  | unterminatedSet
  | badRange (low high : List Char)
  | leastAboveMost
  | nothingToRepeat
  | multipleRepeat
  | unexpectedEnd
  | unknownGroupName (name : List Char)
  | badGroupName (name : List Char)
  | groupRedefined (name : List Char) (number earlier : Nat)
  | unknownExtension (text : List Char)
  | unterminatedComment
  | unterminatedGroup
  | badGroupNumber
  | thirdBranch
  | misplacedFlags
  | localeFlag
  | manyAlphabets
  | unknownFlag
  | flagsNotEnded
  | globalFlagOn
  | globalFlagOff
  | flagExpected
  | alphabetOff
  | colonExpected
  | onAndOff
  | unbalanced
  | repeatRefused (greed : Greed)
  | farBehind
  | unevenBehind
  deriving DecidableEq, Repr

/-- The name of a kind of repetition in a refusal. -/
def Greed.refusedName : Greed → String
  | .greedy => "MAX_REPEAT"
  | .lazy => "MIN_REPEAT"
  | .possessive => "POSSESSIVE_REPEAT"

/-- The wording of a reason. -/
def Reason.message : Reason → String
  | .danglingBackslash => "bad escape (end of pattern)"
  | .badEscape text => "bad escape " ++ String.ofList text
  | .incompleteEscape text => "incomplete escape " ++ String.ofList text
  | .octalTooLarge text =>
    "octal escape value " ++ String.ofList text ++ " outside of range 0-0o377"
  | .missingBrace => "missing \x7b"
  | .missingName kind => "missing " ++ kind.message
  | .unterminatedName close => "missing " ++ String.singleton close ++ ", unterminated name"
  | .undefinedCharacter name => "undefined character name " ++ String.ofList (quotedChars name)
  | .openGroup => "cannot refer to an open group"
  | .sameLookBehind => "cannot refer to group defined in the same lookbehind subpattern"
  | .noSuchGroup number => "invalid group reference " ++ integerText number
  | .unterminatedSet => "unterminated character set"
  | .badRange low high =>
    "bad character range " ++ String.ofList low ++ "-" ++ String.ofList high
  | .leastAboveMost => "min repeat greater than max repeat"
  | .nothingToRepeat => "nothing to repeat"
  | .multipleRepeat => "multiple repeat"
  | .unexpectedEnd => "unexpected end of pattern"
  | .unknownGroupName name => "unknown group name " ++ String.ofList (quotedChars name)
  | .badGroupName name => "bad character in group name " ++ String.ofList (quotedChars name)
  | .groupRedefined name number earlier =>
    "redefinition of group name " ++ String.ofList (quotedChars name) ++ " as group " ++
      integerText number ++ "; was group " ++ integerText earlier
  | .unknownExtension text => "unknown extension ?" ++ String.ofList text
  | .unterminatedComment => "missing ), unterminated comment"
  | .unterminatedGroup => "missing ), unterminated subpattern"
  | .badGroupNumber => "bad group number"
  | .thirdBranch => "conditional backref with more than two branches"
  | .misplacedFlags => "global flags not at the start of the expression"
  | .localeFlag => "bad inline flags: cannot use 'L' flag with a str pattern"
  | .manyAlphabets => "bad inline flags: flags 'a', 'u' and 'L' are incompatible"
  | .unknownFlag => "unknown flag"
  | .flagsNotEnded => "missing -, : or )"
  | .globalFlagOn => "bad inline flags: cannot turn on global flag"
  | .globalFlagOff => "bad inline flags: cannot turn off global flag"
  | .flagExpected => "missing flag"
  | .alphabetOff => "bad inline flags: cannot turn off flags 'a', 'u' and 'L'"
  | .colonExpected => "missing :"
  | .onAndOff => "bad inline flags: flag turned on and off"
  | .unbalanced => "unbalanced parenthesis"
  | .repeatRefused greed => "internal: unsupported template operator " ++ greed.refusedName
  | .farBehind => "looks too much behind"
  | .unevenBehind => "look-behind requires fixed-width pattern"

/-- A fault: its reason, and the number of characters from its place to the end of the text. -/
structure Fault where
  reason : Reason
  fromEnd : Option Nat
  deriving DecidableEq, Repr

/-- The number of characters since the last line feed, or since the start, counted from one. -/
def columnAfter (before : List Char) : Nat := (before.reverse.takeWhile (· ≠ '\n')).length + 1

/-- The wording of a fault in a text. -/
def Fault.message (text : List Char) (fault : Fault) : String :=
  match fault.fromEnd with
  | none => fault.reason.message
  | some n =>
    let position := text.length - n
    let placed := fault.reason.message ++ " at position " ++ integerText position
    if text.contains '\n' then
      let before := text.take position
      placed ++ " (line " ++ integerText (before.count '\n' + 1) ++ ", column " ++
        integerText (columnAfter before) ++ ")"
    else placed

/-- How many calls may be open inside each other, counted for a pattern that is read and compiled
while no other calls are open; where there are some, it is so many fewer. -/
def maxCalls : Nat := 991

/-- Why reading breaks down at a text that is no fault of a kind that has a place. -/
inductive Breakdown where
  -- both alphabets are chosen for the whole pattern
  | bothAlphabets
  -- a bound of a repetition is too large, or has too many digits to be read
  | countTooLarge
  | countTooLong (digits : Nat)
  -- the code of a character is too large to be looked at
  | codeTooLarge
  -- patterns stand inside patterns for which there is no room
  | nestedTooDeeply
  deriving DecidableEq, Repr

/-- The wording of a breakdown. -/
def Breakdown.message : Breakdown → String
  | .bothAlphabets => "ASCII and UNICODE flags are incompatible"
  | .countTooLarge => "the repetition number is too large"
  | .countTooLong digits =>
    "Exceeds the limit (" ++ integerText maxDigits ++
      " digits) for integer string conversion: value has " ++ integerText digits ++
      " digits; use sys.set_int_max_str_digits() to increase the limit"
  | .codeTooLarge => "Python int too large to convert to C int"
  | .nestedTooDeeply => "maximum recursion depth exceeded"

/-- Why a pattern is refused. -/
inductive Refusal where
  | fault (f : Fault)
  | breakdown (b : Breakdown)
  deriving DecidableEq, Repr

/-- Fails at a place, counted from the end of the text. -/
def failAt {α : Type} (reason : Reason) (fromEnd : Nat) : Except Refusal α :=
  .error (.fault ⟨reason, some fromEnd⟩)

end ChatRiddles.Pattern
