import ChatRiddles.Pattern.Fault
/-!
# The tokens of a pattern

A text is read as a list of tokens: single characters, and pairs of a backslash and a character. A
backslash at the end of the text has no partner; the token for it is never read, because what reads
the token before it looks one token ahead.
-/

namespace ChatRiddles.Pattern

/-- A token of a pattern. -/
inductive Token where
  | plain (c : Char)
  | escaped (c : Char)
  | dangling
  deriving DecidableEq, Repr

namespace Token

/-- The tokens of a text. -/
def ofChars : List Char → List Token
  | [] => []
  | ['\\'] => [.dangling]
  | '\\' :: c :: rest => .escaped c :: ofChars rest
  | c :: rest => .plain c :: ofChars rest

/-- The characters of a token. -/
def chars : Token → List Char
  | .plain c => [c]
  | .escaped c => ['\\', c]
  | .dangling => ['\\']

/-- The character of a token that is one. -/
def plain? : Token → Option Char
  | .plain c => some c
  | _ => none

end Token

/-- The number of characters of tokens. -/
def remaining (tokens : List Token) : Nat := (tokens.flatMap Token.chars).length

/-- What is left of tokens. -/
abbrev Tail (s : List Token) := { r : List Token // r.length ≤ s.length }

namespace Tail

/-- All tokens are left. -/
def all (s : List Token) : Tail s := ⟨s, Nat.le_refl _⟩

/-- All but the first token are left. -/
def rest (t : Token) (s : List Token) : Tail (t :: s) := ⟨s, Nat.le_succ _⟩

/-- What is left after the first token, seen from before it. -/
def cons (t : Token) {s : List Token} (r : Tail s) : Tail (t :: s) :=
  ⟨r.1, Nat.le_succ_of_le r.2⟩

/-- What is left of tokens that are left of others. -/
def trans {s r : List Token} (h : r.length ≤ s.length) (q : Tail r) : Tail s :=
  ⟨q.1, Nat.le_trans q.2 h⟩

end Tail

/-- Looks at the token that follows one that is read: it must not be a backslash without a
partner. -/
def lookAhead : List Token → Except Refusal Unit
  | .dangling :: _ => failAt .danglingBackslash 1
  | _ => .ok ()

/-- Reads at most `count` characters that satisfy `p`. -/
def readSome (p : Char → Bool) : (count : Nat) → (s : List Token) →
    Except Refusal (List Char × Tail s)
  | 0, s => .ok ([], Tail.all s)
  | count + 1, s =>
    match s with
    | .plain c :: rest =>
      if p c then do
        lookAhead rest
        let (cs, r) ← readSome p count rest
        return (c :: cs, Tail.cons _ r)
      else .ok ([], Tail.all _)
    | s => .ok ([], Tail.all s)

/-- Reads all characters that satisfy `p`. -/
def readAll (p : Char → Bool) (s : List Token) : Except Refusal (List Char × Tail s) :=
  readSome p s.length s

/-- Reads a character if it comes next. -/
def readIf (c : Char) (s : List Token) : Except Refusal (Bool × Tail s) :=
  match s with
  | .plain d :: rest =>
    if d = c then do
      lookAhead rest
      return (true, Tail.rest _ rest)
    else .ok (false, Tail.all _)
  | s => .ok (false, Tail.all s)

/-- Reads a name up to the character that closes it; `done` holds what has been read, last first. -/
def readNameFrom (kind : NameKind) (close : Char) (done : List Char) :
    (s : List Token) → Except Refusal (List Char × Tail s)
  | [] =>
    if done.isEmpty then failAt (.missingName kind) 0
    else failAt (.unterminatedName close) done.length
  | t :: rest => do
    lookAhead rest
    if t = .plain close then
      if done.isEmpty then failAt (.missingName kind) (remaining rest + 1)
      else return (done.reverse, Tail.rest _ rest)
    else
      let (name, r) ← readNameFrom kind close (t.chars.reverse ++ done) rest
      return (name, Tail.cons _ r)

/-- Reads a name up to the character that closes it. -/
def readName (kind : NameKind) (close : Char) (s : List Token) :
    Except Refusal (List Char × Tail s) :=
  readNameFrom kind close [] s

end ChatRiddles.Pattern
