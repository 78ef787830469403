import ChatRiddles.Pattern.Token
import ChatRiddles.Text.Case
import ChatRiddles.Text.Names
/-!
# Escapes and sets

After a backslash a letter or a digit has a meaning of its own: a control character, a class of
characters, a place, the code or the name of a character, or what a group matched. Any other
character stands for itself. In a set the meanings are slightly others: `\b` is a character there,
and there are no places and no groups.
-/

namespace ChatRiddles.Pattern

open Text Number

/-! ## Characters -/

/-- An octal digit. -/
def isOctalDigit (c : Char) : Bool := '0' ≤ c && c ≤ '7'

/-- The number that digits write in a base. -/
def ofBase (base : Nat) (digits : List Nat) : Nat := digits.foldl (fun n d => base * n + d) 0

/-- The number of octal digits. -/
def ofOctal (digits : List Char) : Nat := ofBase 8 (digits.map fun c => c.toNat - 0x30)

/-- The greatest octal code of a character. -/
def maxOctal : Nat := 0o377

/-- The greatest code of a character. -/
def maxCode : Nat := 0x10ffff

/-- The codes above this one are not even looked at. -/
def maxExamined : Nat := 0x7fffffff

/-- Fails behind a piece of the text. -/
def failBehind {α : Type} (reason : Reason) (rest : List Token) (piece : List Char) :
    Except Refusal α :=
  failAt reason (remaining rest + piece.length)

/-- Reads the hexadecimal digits of a code, exactly `count` of them. -/
def readCode (letter : Char) (count : Nat) (s : List Token) : Except Refusal (Nat × Tail s) := do
  let (digits, ⟨rest, h⟩) ← readSome (fun c => (hexValue? c).isSome) count s
  let piece := '\\' :: letter :: digits
  if digits.length ≠ count then failBehind (.incompleteEscape piece) rest piece
  else
    let n := ofBase 16 (digits.filterMap hexValue?)
    if maxExamined < n then .error (.breakdown .codeTooLarge)
    else if maxCode < n then failBehind (.badEscape piece) rest piece
    else return (n, ⟨rest, h⟩)

/-- Reads the name of a character in braces. -/
def readNamedCode (s : List Token) : Except Refusal (Nat × Tail s) := do
  let (found, ⟨afterBrace, hb⟩) ← readIf '\x7b' s
  if !found then failAt .missingBrace (remaining s)
  else
    let (name, rest) ← readName .character '\x7d' afterBrace
    match characterNamed? name with
    | some n => return (n, Tail.trans hb rest)
    | none => failAt (.undefinedCharacter name) (remaining rest.1 + name.length + 4)

/-- Reads the code of a character after the letter that announces it; `none` for other letters. -/
def readCharacter? (letter : Char) (s : List Token) : Option (Except Refusal (Nat × Tail s)) :=
  match letter with
  | 'x' => some (readCode 'x' 2 s)
  | 'u' => some (readCode 'u' 4 s)
  | 'U' => some (readCode 'U' 8 s)
  | 'N' => some (readNamedCode s)
  | _ => none

/-- The code of the control character of a letter. -/
def controlCode? : Char → Option Nat
  | 'a' => some 0x07
  | 'b' => some 0x08
  | 'f' => some 0x0c
  | 'n' => some 0x0a
  | 'r' => some 0x0d
  | 't' => some 0x09
  | 'v' => some 0x0b
  | _ => none

/-- The class of a letter. -/
def category? : Char → Option SetItem
  | 'd' => some (.category .digit false)
  | 'D' => some (.category .digit true)
  | 's' => some (.category .space false)
  | 'S' => some (.category .space true)
  | 'w' => some (.category .word false)
  | 'W' => some (.category .word true)
  | _ => none

/-- The place of a letter. -/
def place? : Char → Option Place
  | 'A' => some .textBeginning
  | 'b' => some .boundary
  | 'B' => some .noBoundary
  | 'Z' => some .textEnd
  | _ => none

/-- The code of a character that has no meaning after a backslash. -/
def readItself (c : Char) (s : List Token) : Except Refusal (Nat × Tail s) :=
  if isAsciiLetter c.toNat then failBehind (.badEscape ['\\', c]) s ['\\', c]
  else .ok (c.toNat, Tail.all s)

/-! ## Sets -/

/-- Reads an escape in a set, after the backslash and the character. -/
def readSetEscape (c : Char) (s : List Token) : Except Refusal (SetItem × Tail s) :=
  match controlCode? c, category? c, readCharacter? c s with
  | some n, _, _ => .ok (.code n, Tail.all s)
  | _, some item, _ => .ok (item, Tail.all s)
  | _, _, some read => do
    let (n, rest) ← read
    return (.code n, rest)
  | _, _, _ =>
    if isOctalDigit c then do
      let (more, ⟨rest, h⟩) ← readSome isOctalDigit 2 s
      let n := ofOctal (c :: more)
      let piece := '\\' :: c :: more
      if maxOctal < n then failBehind (.octalTooLarge piece) rest piece
      else return (.code n, ⟨rest, h⟩)
    else if isAsciiDigit c then failBehind (.badEscape ['\\', c]) s ['\\', c]
    else do
      let (n, rest) ← readItself c s
      return (.code n, rest)

/-- Reads a member of a set that starts with a token. -/
def readMember (t : Token) (s : List Token) : Except Refusal (SetItem × Tail s) :=
  match t with
  | .plain c => .ok (.code c.toNat, Tail.all s)
  | .escaped c => readSetEscape c s
  | .dangling => failAt .danglingBackslash 1

/-- The range between two members, which must be characters in order. -/
def rangeOf? : SetItem → SetItem → Option SetItem
  | .code low, .code high => if low ≤ high then some (.range low high) else none
  | _, _ => none

/-- Reads the members of a set up to its closing bracket; `start` is the place of the opening one
and `done` holds the members read so far, last first. -/
def readMembers (start : Nat) (done : List SetItem) (s : List Token) :
    Except Refusal (List SetItem × Tail s) :=
  match s with
  | [] => failAt .unterminatedSet start
  | t :: rest => do
    lookAhead rest
    if t = .plain ']' ∧ done ≠ [] then return (done.reverse, Tail.rest _ rest)
    else
      let (low, ⟨afterLow, hl⟩) ← readMember t rest
      let (dash, ⟨afterDash, hd⟩) ← readIf '-' afterLow
      if dash then
        match afterDash, hd with
        | [], _ => failAt .unterminatedSet start
        | u :: more, hd => do
          lookAhead more
          if u = .plain ']' then
            return ((.code '-'.toNat :: low :: done).reverse,
              ⟨more, by simp only [List.length_cons] at *; omega⟩)
          else
            let (high, ⟨afterHigh, hh⟩) ← readMember u more
            match rangeOf? low high with
            | none => failBehind (.badRange t.chars u.chars) afterHigh (t.chars ++ '-' :: u.chars)
            | some item =>
              let (items, ⟨r, hr⟩) ← readMembers start (item :: done) afterHigh
              return (items, ⟨r, by simp only [List.length_cons] at *; omega⟩)
      else
        let (items, ⟨r, hr⟩) ← readMembers start (low :: done) afterDash
        return (items, ⟨r, by simp only [List.length_cons]; omega⟩)
termination_by s.length
decreasing_by all_goals simp only [List.length_cons] at *; omega

/-- The item of a set. A set of one character is that character. -/
def nodeOfSet (outside : Bool) (items : List SetItem) : Node :=
  match outside, items.eraseDups with
  | false, [.code n] => .code n
  | true, [.code n] => .otherThan n
  | _, items => .set outside items

/-- Reads a set, after its opening bracket. -/
def readSet (s : List Token) : Except Refusal (Node × Tail s) := do
  let start := remaining s + 1
  let (outside, ⟨rest, h⟩) ← readIf '^' s
  let (items, r) ← readMembers start [] rest
  return (nodeOfSet outside items, Tail.trans h r)

/-! ## Groups -/

/-- What is known of the groups of a pattern while it is read. -/
structure Groups where
  -- how many groups have been opened; the last one has that number
  opened : Nat
  -- the groups that have been closed, with their widths
  closed : List (Nat × Width)
  names : List (List Char × Nat)
  -- inside a look behind: the number of groups opened before the outermost one
  before : Option Nat
  -- the numbers that conditions ask for, each with the place where it is first asked for, in order
  conditions : List (Nat × Nat)
  flags : Flags

namespace Groups

/-- Before anything is read. -/
def none : Groups := ⟨0, [], [], .none, [], []⟩

/-- The width of a group that is closed. -/
def width? (g : Groups) (number : Nat) : Option Width := g.closed.lookup number

/-- Inside a look behind only groups that were closed before it can be asked for. -/
def checkBehind (g : Groups) (number : Nat) (rest : List Token) : Except Refusal Unit :=
  match g.before with
  | .none => .ok ()
  | some n =>
    if (g.width? number).isNone then failAt .openGroup (remaining rest)
    else if n < number then failAt .sameLookBehind (remaining rest)
    else .ok ()

/-- What the group of a number matched; `offset` is the distance to the place of the number. -/
def refer (g : Groups) (number offset : Nat) (rest : List Token) : Except Refusal Node :=
  match g.width? number with
  | .none => failAt .openGroup (remaining rest + offset)
  | some w => do
    g.checkBehind number rest
    return .backreference number w

end Groups

/-! ## Escapes outside sets -/

/-- Reads a reference to a group after the backslash and its digits. -/
def readReference (g : Groups) (digits : List Char) (s : List Token) : Except Refusal Node :=
  let number := ofDigits (digits.filterMap asciiDigit?)
  if number ≤ g.opened then g.refer number (digits.length + 1) s
  else failAt (.noSuchGroup number) (remaining s + digits.length)

/-- Reads the rest of an escape that starts with a digit other than zero: three octal digits are a
code, one or two digits are the number of a group. -/
def readNumber (g : Groups) (c : Char) (s : List Token) : Except Refusal (Node × Tail s) := do
  let (second, ⟨rest, h⟩) ← readSome isAsciiDigit 1 s
  match second with
  | [] => return (← readReference g [c] rest, ⟨rest, h⟩)
  | d :: _ =>
    if isOctalDigit c && isOctalDigit d then
      let (third, rest') ← readSome isOctalDigit 1 rest
      match third with
      | [] => return (← readReference g [c, d] rest, ⟨rest, h⟩)
      | e :: _ =>
        let n := ofOctal [c, d, e]
        let piece := ['\\', c, d, e]
        if maxOctal < n then failBehind (.octalTooLarge piece) rest'.1 piece
        else return (.code n, Tail.trans h rest')
    else return (← readReference g [c, d] rest, ⟨rest, h⟩)

/-- Reads an escape outside a set, after the backslash and the character. -/
def readEscape (g : Groups) (c : Char) (s : List Token) : Except Refusal (Node × Tail s) :=
  match place? c, category? c, controlCode? c, readCharacter? c s with
  | some p, _, _, _ => .ok (.place p, Tail.all s)
  | _, some item, _, _ => .ok (.set false [item], Tail.all s)
  | _, _, some n, _ => .ok (.code n, Tail.all s)
  | _, _, _, some read => do
    let (n, rest) ← read
    return (.code n, rest)
  | _, _, _, _ =>
    if c = '0' then do
      let (more, rest) ← readSome isOctalDigit 2 s
      return (.code (ofOctal more), rest)
    else if isAsciiDigit c then readNumber g c s
    else do
      let (n, rest) ← readItself c s
      return (.code n, rest)

end ChatRiddles.Pattern
