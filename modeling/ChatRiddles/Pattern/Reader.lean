import ChatRiddles.Pattern.Escape
import ChatRiddles.Text.Identifier
/-!
# Reading patterns

A pattern is read from left to right. Open parentheses stand on a stack, the innermost first, each
with the level around it that waits for it to close. Each of them takes calls, of which there is
only so much room. Every step reads at least one token, so reading ends.
-/

namespace ChatRiddles.Pattern

open Text Number

/-- A sequence of items that is being read, with the finished alternatives before it. -/
structure Level where
  -- the finished alternatives, last first
  alternatives : List (List Node)
  -- the items of the alternative that is being read, last first
  items : List Node
  verbose : Bool

namespace Level

/-- A level before anything is read. -/
def empty (verbose : Bool) : Level := ⟨[], [], verbose⟩

/-- The items of the alternative that is being read. -/
def sequence (l : Level) : List Node := ungrouped l.items.reverse

/-- The level after one more alternative. -/
def nextAlternative (l : Level) : Level :=
  { l with alternatives := l.sequence :: l.alternatives, items := [] }

/-- The level after one more item. -/
def push (l : Level) (n : Node) : Level := { l with items := n :: l.items }

/-- The items that the whole level amounts to. -/
def finish (l : Level) : List Node :=
  match l.alternatives.reverse with
  | [] => l.sequence
  | first :: rest => sequenceOfChoice first (rest ++ [l.sequence])

end Level

/-- What a parenthesis has opened. -/
inductive Opening where
  | group (number : Option Nat) (on off : Flags)
  | atomic
  | look (behind absent : Bool)
  | yesBranch (number : Nat)
  -- the second branch of a condition, after the first
  | noBranch (number : Nat) (yes : List Node)

/-- How many calls an open parenthesis takes. -/
def Opening.calls : Opening → Nat
  | .yesBranch _ | .noBranch _ _ => 1
  | _ => 2

/-- An open parenthesis: what it opened, its place, the level around it, and the look behind that it
ends. -/
structure Frame where
  opening : Opening
  -- its place, counted from the end of the text
  start : Nat
  outer : Level
  -- the groups before the look behind around it, if there is one
  before : Option Nat

/-- How far a pattern has been read. -/
structure Reading where
  groups : Groups
  level : Level
  frames : List Frame

namespace Reading

/-- Before anything is read. -/
def start : Reading := ⟨.none, .empty false, []⟩

/-- One more item. -/
def push (r : Reading) (n : Node) : Reading := { r with level := r.level.push n }

/-- How many calls the open parentheses take. -/
def calls (r : Reading) : Nat := r.frames.foldr (fun f n => f.opening.calls + n) 0

/-- Opens a parenthesis. -/
def openWith (r : Reading) (opening : Opening) (verbose : Bool) (start : Nat) : Reading :=
  { r with
    level := .empty verbose
    frames := ⟨opening, start, r.level, r.groups.before⟩ :: r.frames }

/-- Opens a group that is recorded under the next number. -/
def openRecorded (r : Reading) (start : Nat) : Reading :=
  let number := r.groups.opened + 1
  { r with groups := { r.groups with opened := number } }.openWith (.group (some number) [] [])
    r.level.verbose start

/-- Opens a group that is recorded under the next number and a name. -/
def openNamed (r : Reading) (name : List Char) (start : Nat) (rest : List Token) :
    Except Refusal Reading :=
  let number := r.groups.opened + 1
  match r.groups.names.lookup name with
  | some earlier =>
    failAt (.groupRedefined name number earlier) (remaining rest + name.length + 1)
  | none =>
    let groups := { r.groups with names := (name, number) :: r.groups.names }
    .ok ({ r with groups }.openRecorded start)

/-- Opens a look behind: groups opened from here on cannot be asked for in it. -/
def openBehind (r : Reading) (absent : Bool) (start : Nat) : Reading :=
  let opened := r.openWith (.look true absent) r.level.verbose start
  { opened with
    groups := { r.groups with before := r.groups.before.orElse fun _ => some r.groups.opened } }

/-- The item that a parenthesis amounts to when it closes. -/
def nodeOf (frame : Frame) (level : Level) : Node :=
  match frame.opening with
  | .group number on off => .group number on off level.finish
  | .atomic => .atomic level.finish
  | .look behind absent =>
    let body := level.finish
    .look (if behind then some (widthOf body).bounded else none) absent body
  | .yesBranch number => .conditional number level.sequence none
  | .noBranch number yes => .conditional number yes (some level.sequence)

/-- What is known of the groups after a parenthesis closes. -/
def groupsAfter (frame : Frame) (level : Level) (groups : Groups) : Groups :=
  let groups := { groups with before := frame.before }
  match frame.opening with
  | .group (some number) _ _ =>
    { groups with closed := (number, (widthOf level.finish).bounded) :: groups.closed }
  | _ => groups

/-- Closes the innermost parenthesis. -/
def close (r : Reading) (frame : Frame) (frames : List Frame) : Reading :=
  { groups := groupsAfter frame r.level r.groups
    level := frame.outer.push (nodeOf frame r.level)
    frames }

/-- Ends an alternative, at a bar that is followed by `rest`. -/
def bar (r : Reading) (rest : List Token) : Except Refusal Reading :=
  match r.frames with
  | [] =>
    let verbose := r.groups.flags.contains .verbose
    .ok { r with level := { r.level.nextAlternative with verbose } }
  | frame :: outer =>
    match frame.opening with
    | .yesBranch number =>
      .ok { r with
        level := .empty r.level.verbose
        frames := { frame with opening := .noBranch number r.level.sequence } :: outer }
    | .noBranch _ _ => failAt .thirdBranch (remaining rest + 1)
    | _ => .ok { r with level := r.level.nextAlternative }

end Reading

/-! ## Flags -/

/-- The flag of a token. -/
def flagOf? (t : Token) : Option Flag := t.plain?.bind Flag.ofChar?

/-- The reason why a token is no flag. -/
def noFlagReason (t : Token) (otherwise : Reason) : Reason :=
  match t.plain? with
  | some c => if isLetter c.toNat then .unknownFlag else otherwise
  | none => otherwise

/-- Reads the flags that are turned on, the first of which has been read, and the character that
ends them. -/
def readOn (on : Flags) (flag : Flag) (s : List Token) :
    Except Refusal (Flags × Char × Tail s) :=
  let on' := on ++ [flag]
  if flag = .locale then failAt .localeFlag (remaining s)
  else if flag.isAlphabet && on'.any (fun f => f.isAlphabet && f != flag) then
    failAt .manyAlphabets (remaining s)
  else
    match s with
    | [] => failAt .flagsNotEnded 0
    | t :: rest => do
      lookAhead rest
      match t, flagOf? t with
      | .plain ')', _ => return (on', ')', Tail.rest _ rest)
      | .plain '-', _ => return (on', '-', Tail.rest _ rest)
      | .plain ':', _ => return (on', ':', Tail.rest _ rest)
      | _, some next =>
        let (all, last, r) ← readOn on' next rest
        return (all, last, Tail.cons _ r)
      | t, none => failBehind (noFlagReason t .flagsNotEnded) rest t.chars

/-- Reads the flags that are turned off, the first of which has been read, and the colon. -/
def readOff (off : Flags) (flag : Flag) (s : List Token) : Except Refusal (Flags × Tail s) :=
  let off' := off ++ [flag]
  if flag.isAlphabet then failAt .alphabetOff (remaining s)
  else
    match s with
    | [] => failAt .colonExpected 0
    | t :: rest => do
      lookAhead rest
      match t, flagOf? t with
      | .plain ':', _ => return (off', Tail.rest _ rest)
      | _, some next =>
        let (all, r) ← readOff off' next rest
        return (all, Tail.cons _ r)
      | t, none => failBehind (noFlagReason t .colonExpected) rest t.chars

/-- Reads the flags that are turned off, after the minus sign. -/
def readMinus (s : List Token) : Except Refusal (Flags × Tail s) :=
  match s with
  | [] => failAt .flagExpected 0
  | t :: rest => do
    lookAhead rest
    match flagOf? t with
    | none => failBehind (noFlagReason t .flagExpected) rest t.chars
    | some flag =>
      let (off, r) ← readOff [] flag rest
      return (off, Tail.cons _ r)

/-- The flags in a parenthesis: for the whole pattern, or for the group that follows. -/
inductive FlagScope where
  | whole (on : Flags)
  | group (on off : Flags)

/-- Reads the flags in a parenthesis, the first token of which has been read: a flag, or a minus
sign if there is none. -/
def readFlags (first : Option Flag) (s : List Token) : Except Refusal (FlagScope × Tail s) := do
  let (on, last, ⟨rest, h⟩) ← match first with
    | some flag => readOn [] flag s
    | none => pure ([], '-', Tail.all s)
  if last = ')' then return (.whole on, ⟨rest, h⟩)
  else if on.any Flag.isGlobal then failAt .globalFlagOn (remaining rest + 1)
  else
    let (off, r) ← if last = '-' then readMinus rest else pure ([], Tail.all rest)
    if off.any Flag.isGlobal then failAt .globalFlagOff (remaining r.1 + 1)
    else if on.any off.contains then failAt .onAndOff (remaining r.1 + 1)
    else return (.group on off, Tail.trans h r)

/-! ## Parentheses -/

/-- What is left after a comment in parentheses. -/
def skipComment (start : Nat) : (s : List Token) → Except Refusal (Tail s)
  | [] => failAt .unterminatedComment start
  | t :: rest => do
    lookAhead rest
    if t = .plain ')' then return Tail.rest _ rest
    else
      let r ← skipComment start rest
      return Tail.cons _ r

/-- Refuses a name that is no identifier. -/
def checkName (name : List Char) (rest : List Token) : Except Refusal Unit :=
  if isIdentifier name then .ok ()
  else failAt (.badGroupName name) (remaining rest + name.length + 1)

/-- Reads what follows the letter of named groups: the name of a group that opens, or of one that is
referred to. -/
def readNamed (r : Reading) (start : Nat) (s : List Token) : Except Refusal (Reading × Tail s) :=
  match s with
  | [] => failAt .unexpectedEnd 0
  | t :: rest => do
    lookAhead rest
    match t with
    | .plain '<' =>
      let (name, ⟨after, h⟩) ← readName .group '>' rest
      checkName name after
      return (← r.openNamed name start after, Tail.cons _ ⟨after, h⟩)
    | .plain '=' =>
      let (name, ⟨after, h⟩) ← readName .group ')' rest
      checkName name after
      match r.groups.names.lookup name with
      | none => failAt (.unknownGroupName name) (remaining after + name.length + 1)
      | some number =>
        let node ← r.groups.refer number (name.length + 1) after
        return (r.push node, Tail.cons _ ⟨after, h⟩)
    | t => failAt (.unknownExtension ('P' :: t.chars)) (remaining rest + t.chars.length + 2)

/-- One more than the greatest number of a group. -/
def groupBound : Nat := 1073741823

/-- The number of the group that a condition asks for, by its name or its number. -/
def conditionNumber (groups : Groups) (name : List Char) (rest : List Token) :
    Except Refusal (Nat × Groups) :=
  let place := remaining rest + name.length + 1
  if isIdentifier name then
    match groups.names.lookup name with
    | some number => .ok (number, groups)
    | none => failAt (.unknownGroupName name) place
  else
    match ofText? name with
    | some (.ofNat number) =>
      if number = 0 then failAt .badGroupNumber place
      else if groupBound ≤ number then failAt (.noSuchGroup number) place
      else if (groups.conditions.lookup number).isSome then .ok (number, groups)
      else .ok (number, { groups with conditions := groups.conditions ++ [(number, place)] })
    | _ => failAt (.badGroupName name) place

/-- Reads the condition of a conditional, after its opening parenthesis. -/
def readCondition (r : Reading) (start : Nat) (s : List Token) :
    Except Refusal (Reading × Tail s) := do
  let (name, ⟨rest, h⟩) ← readName .group ')' s
  let (number, groups) ← conditionNumber r.groups name rest
  groups.checkBehind number rest
  return ({ r with groups }.openWith (.yesBranch number) r.level.verbose start, ⟨rest, h⟩)

/-- Reads the kind of a look behind. -/
def readBehind (r : Reading) (start : Nat) (s : List Token) : Except Refusal (Reading × Tail s) :=
  match s with
  | [] => failAt .unexpectedEnd 0
  | t :: rest => do
    lookAhead rest
    match t with
    | .plain '=' => return (r.openBehind false start, Tail.rest _ rest)
    | .plain '!' => return (r.openBehind true start, Tail.rest _ rest)
    | t => failAt (.unknownExtension ('<' :: t.chars)) (remaining rest + t.chars.length + 2)

/-- Reads flags and opens their group, or sets them for the whole pattern, which only its beginning
may do. -/
def readFlagGroup (r : Reading) (start : Nat) (first : Option Flag) (s : List Token) :
    Except Refusal (Reading × Tail s) := do
  let (scope, rest) ← readFlags first s
  match scope with
  | .whole on =>
    if r.frames.isEmpty && r.level.alternatives.isEmpty && r.level.items.isEmpty then
      let flags := r.groups.flags ++ on
      return ({ r with
        groups := { r.groups with flags }
        level := { r.level with verbose := flags.contains .verbose } }, rest)
    else failAt .misplacedFlags start
  | .group on off =>
    let verbose := (r.level.verbose || on.contains .verbose) && !off.contains .verbose
    return (r.openWith (.group none on off) verbose start, rest)

/-- Reads what follows a question mark at the beginning of a parenthesis. -/
def readExtension (r : Reading) (start : Nat) (s : List Token) :
    Except Refusal (Reading × Tail s) :=
  match s with
  | [] => failAt .unexpectedEnd 0
  | t :: rest => do
    lookAhead rest
    let longer (result : Except Refusal (Reading × Tail rest)) :
        Except Refusal (Reading × Tail (t :: rest)) := do
      let (r', after) ← result
      return (r', Tail.cons _ after)
    let opened (opening : Opening) : Except Refusal (Reading × Tail (t :: rest)) :=
      .ok (r.openWith opening r.level.verbose start, Tail.rest _ rest)
    match t, flagOf? t with
    | .plain 'P', _ => longer (readNamed r start rest)
    | .plain ':', _ => opened (.group none [] [])
    | .plain '#', _ => longer do return (r, ← skipComment start rest)
    | .plain '=', _ => opened (.look false false)
    | .plain '!', _ => opened (.look false true)
    | .plain '<', _ => longer (readBehind r start rest)
    | .plain '(', _ => longer (readCondition r start rest)
    | .plain '>', _ => opened .atomic
    | .plain '-', _ => longer (readFlagGroup r start none rest)
    | _, some flag => longer (readFlagGroup r start (some flag) rest)
    | t, none => failAt (.unknownExtension t.chars) (remaining rest + t.chars.length + 1)

/-- Reads what follows an opening parenthesis. -/
def readParenthesis (r : Reading) (s : List Token) : Except Refusal (Reading × Tail s) := do
  let start := remaining s + 1
  let (question, ⟨rest, h⟩) ← readIf '?' s
  if question then
    let (r', after) ← readExtension r start rest
    return (r', Tail.trans h after)
  else return (r.openRecorded start, Tail.all s)

/-! ## Repetition -/

/-- The least bound that is too large. -/
def countBound : Nat := 4294967295

/-- The bound of a repetition that digits write. -/
def readBound (digits : List Char) : Except Refusal Nat :=
  if maxDigits < digits.length then .error (.breakdown (.countTooLong digits.length))
  else
    let n := ofDigits (digits.filterMap asciiDigit?)
    if countBound ≤ n then .error (.breakdown .countTooLarge) else .ok n

/-- Reads the bounds of a repetition in braces, after the opening one; `none` if what follows are no
bounds, and the brace stands for itself. -/
def readBounds (s : List Token) : Except Refusal (Option (Nat × Option Nat) × Tail s) :=
  match s with
  | .plain '\x7d' :: rest => .ok (none, Tail.all _)
  | s => do
    let (low, ⟨afterLow, hl⟩) ← readAll isAsciiDigit s
    let (comma, ⟨afterComma, hc⟩) ← readIf ',' afterLow
    let (high, ⟨afterHigh, hh⟩) ← if comma then readAll isAsciiDigit afterComma
      else pure (low, Tail.all afterComma)
    let (closed, ⟨rest, hr⟩) ← readIf '\x7d' afterHigh
    if !closed then return (none, Tail.all s)
    else
      let least ← if low.isEmpty then pure 0 else readBound low
      let most ← if high.isEmpty then pure none else some <$> readBound high
      if most.any (· < least) then failAt .leastAboveMost (remaining s)
      else return (some (least, most), ⟨rest, by omega⟩)

/-- Reads the mark that follows the bounds of a repetition. -/
def readGreed (s : List Token) : Except Refusal (Greed × Tail s) := do
  let (question, ⟨rest, h⟩) ← readIf '?' s
  if question then return (.lazy, ⟨rest, h⟩)
  else
    let (plus, ⟨rest, h⟩) ← readIf '+' s
    return (if plus then .possessive else .greedy, ⟨rest, h⟩)

/-- The items that are repeated when an item is: a group that does nothing gives way to its body. -/
def repeatedBody : Node → List Node
  | .group none [] [] body => body
  | n => [n]

/-- Repeats the last item; `s` follows the bounds, and the mark of the repetition is at `start`. -/
def readRepeat (r : Reading) (start : Nat) (least : Nat) (most : Option Nat) (s : List Token) :
    Except Refusal (Reading × Tail s) :=
  match r.level.items with
  | [] => failAt .nothingToRepeat start
  | .place _ :: _ => failAt .nothingToRepeat start
  | .repeated _ _ _ _ :: _ => failAt .multipleRepeat start
  | n :: items => do
    let (greed, rest) ← readGreed s
    let items := .repeated greed least most (repeatedBody n) :: items
    return ({ r with level := { r.level with items } }, rest)

/-! ## The whole pattern -/

/-- What is left after a comment that ends with its line. -/
def skipLine : (s : List Token) → Except Refusal (Tail s)
  | [] => .ok (Tail.all _)
  | t :: rest => do
    lookAhead rest
    if t = .plain '\n' then return Tail.rest _ rest
    else
      let r ← skipLine rest
      return Tail.cons _ r

/-- A blank that is left out where blanks are. -/
def isPatternSpace (c : Char) : Bool :=
  c == ' ' || c == '\t' || c == '\n' || c == '\r' || c.toNat == 0x0b || c.toNat == 0x0c

/-- Reads what a character that is no bar and no closing parenthesis begins. -/
def readPlain (r : Reading) (c : Char) (s : List Token) : Except Refusal (Reading × Tail s) :=
  let pushed (n : Node) : Except Refusal (Reading × Tail s) := .ok (r.push n, Tail.all s)
  let start := remaining s + 1
  if r.level.verbose && isPatternSpace c then .ok (r, Tail.all s)
  else if r.level.verbose && c == '#' then do
    return (r, ← skipLine s)
  else match c with
    | '[' => do
      let (n, rest) ← readSet s
      return (r.push n, rest)
    | '(' => do
      let (r', rest) ← readParenthesis r s
      if maxCalls < r'.calls then .error (.breakdown .nestedTooDeeply) else return (r', rest)
    | '.' => pushed .any
    | '^' => pushed (.place .beginning)
    | '$' => pushed (.place .ending)
    | '?' => readRepeat r start 0 (some 1) s
    | '*' => readRepeat r start 0 none s
    | '+' => readRepeat r start 1 none s
    | '\x7b' => do
      let (bounds, ⟨rest, h⟩) ← readBounds s
      match bounds with
      | none => pushed (.code c.toNat)
      | some (least, most) =>
        let (r', after) ← readRepeat r start least most rest
        return (r', Tail.trans h after)
    | _ => pushed (.code c.toNat)

/-- Reads one token and what belongs to it; `none` at a closing parenthesis without a partner. -/
def readStep (r : Reading) (t : Token) (s : List Token) :
    Except Refusal (Option (Reading × Tail s)) :=
  match t with
  | .plain '|' => do
    let r' ← r.bar s
    lookAhead s
    return some (r', Tail.all s)
  | .plain ')' =>
    match r.frames with
    | [] => .ok none
    | frame :: frames => do
      lookAhead s
      return some (r.close frame frames, Tail.all s)
  | .plain c => do
    lookAhead s
    return some (← readPlain r c s)
  | .escaped c => do
    lookAhead s
    let (n, rest) ← readEscape r.groups c s
    return some (r.push n, rest)
  | .dangling => failAt .danglingBackslash 1

/-- Reads tokens to their end, or to a closing parenthesis without a partner. -/
def readTokens (r : Reading) (s : List Token) : Except Refusal (Reading × List Token) :=
  match s with
  | [] => .ok (r, [])
  | t :: rest =>
    match readStep r t rest with
    | .error e => .error e
    | .ok none => .ok (r, t :: rest)
    | .ok (some (r', ⟨after, _⟩)) => readTokens r' after
termination_by s.length

/-- A pattern that has been read: its items, the flags of the whole, and the number of its
groups. -/
structure Parsed where
  items : List Node
  flags : Flags
  groups : Nat

/-- The flags of a whole pattern with an alphabet: all characters unless ASCII is chosen. -/
def withAlphabet (flags : Flags) : Except Refusal Flags :=
  if !flags.contains .ascii then .ok (flags ++ [.unicode])
  else if flags.contains .unicode then .error (.breakdown .bothAlphabets)
  else .ok flags

/-- Refuses a condition that asks for a group that there is not. -/
def checkConditions (opened : Nat) : List (Nat × Nat) → Except Refusal Unit
  | [] => .ok ()
  | (number, place) :: rest =>
    if opened < number then failAt (.noSuchGroup number) place else checkConditions opened rest

/-- Reads the text of a pattern. -/
def parse (text : List Char) : Except Refusal Parsed := do
  let tokens := Token.ofChars text
  lookAhead tokens
  let (r, rest) ← readTokens .start tokens
  match r.frames with
  | frame :: _ => failAt .unterminatedGroup frame.start
  | [] =>
    let items := r.level.finish
    let flags ← withAlphabet r.groups.flags
    if rest ≠ [] then failAt .unbalanced (remaining rest)
    else
      checkConditions r.groups.opened r.groups.conditions
      return { items, flags, groups := r.groups.opened }

end ChatRiddles.Pattern
