import ChatRiddles.Json.Value
import ChatRiddles.Number.Decimal
import ChatRiddles.Text.Encoding
/-!
# Reading the JSON text of a message

Messages that arrive over the network are JSON texts too. They are read code point by code point,
and the first fault ends the reading; its place is the number of code points before it. Beside the
numbers of the format, the words for the infinities and for no number are read. Surrogates may stand
in strings, as they are or escaped.

Open arrays and objects stand on a stack, the innermost first, and no more than `maxDepth` of them
are read into each other. Every step consumes at least one code point, so reading ends.
-/

namespace ChatRiddles.Json.MessageText

open Number Text

/-- Why a text is no JSON. -/
inductive Reason where
  | valueExpected | keyExpected | colonExpected | commaExpected | moreData
  | unterminatedString | controlCharacter | invalidEscape | invalidCodeEscape
  -- the integer has more digits than are read
  | numberTooLong
  -- an array or an object stands inside more containers than are read
  | nestedTooDeeply (kind : String)
  deriving DecidableEq, Repr

/-- The wording of a reason. -/
def Reason.message : Reason → String
  | .valueExpected => "Expecting value"
  | .keyExpected => "Expecting property name enclosed in double quotes"
  | .colonExpected => "Expecting ':' delimiter"
  | .commaExpected => "Expecting ',' delimiter"
  | .moreData => "Extra data"
  | .unterminatedString => "Unterminated string starting at"
  | .controlCharacter => "Invalid control character at"
  | .invalidEscape => "Invalid \\escape"
  | .invalidCodeEscape => "Invalid \\uXXXX escape"
  | .numberTooLong => "The number is too long"
  | .nestedTooDeeply kind =>
    "maximum recursion depth exceeded while decoding a JSON " ++ kind ++ " from a unicode string"

/-- A fault: its reason, and what is left of the text at its place. -/
structure Fault where
  reason : Reason
  rest : List CodePoint

/-- The number of code points before a fault in a text. -/
def Fault.position (text : List CodePoint) (fault : Fault) : Nat := text.length - fault.rest.length

/-- Fails at a place. -/
def failAt {α : Type} (rest : List CodePoint) (reason : Reason) : Except Fault α :=
  .error ⟨reason, rest⟩

/-- A blank of the format. -/
def isSpace (p : CodePoint) : Bool :=
  p == .char ' ' || p == .char '\t' || p == .char '\n' || p == .char '\r'

/-- The text from its first code point that is no blank. -/
def skipSpace (s : List CodePoint) : List CodePoint := s.dropWhile isSpace

theorem skipSpace_length_le (s : List CodePoint) : (skipSpace s).length ≤ s.length :=
  (List.dropWhile_sublist _).length_le

/-! ## Words and numbers -/

/-- The words that stand for values. -/
def words : List (List Char × Json) :=
  [("null".toList, .null), ("true".toList, .bool true), ("false".toList, .bool false),
    ("NaN".toList, .float .nan), ("Infinity".toList, .float (.infinite false)),
    ("-Infinity".toList, .float (.infinite true))]

theorem length_pos_of_mem_words : ∀ w ∈ words, 0 < w.1.length := by
  simp [words]

/-- The value of the word at the start of a text, and what follows it. -/
def word? (s : List CodePoint) : Option (Json × { r : List CodePoint // r.length < s.length }) :=
  match h : words.find? fun w => (points w.1).isPrefixOf s with
  | none => none
  | some (word, v) => some (v, ⟨s.drop word.length, by
      have hpos := length_pos_of_mem_words _ (List.mem_of_find?_eq_some h)
      have hfound : (points word).isPrefixOf s = true :=
        @List.find?_some _ (fun w => (points w.1).isPrefixOf s) (word, v) words h
      have hle := (List.isPrefixOf_iff_prefix.mp hfound).length_le
      rw [points, List.length_map] at hle
      rw [List.length_drop]
      change 0 < word.length at hpos
      omega⟩)

/-- The value of a decimal digit. -/
def digit? : CodePoint → Option Nat
  | .char c => asciiDigit? c
  | .surrogate _ => none

/-- The values of the digits at the start of a text. -/
def digitValues : List CodePoint → List Nat
  | [] => []
  | p :: rest =>
    match digit? p with
    | some d => d :: digitValues rest
    | none => []

/-- What follows the digits at the start of a text. -/
def afterDigits (s : List CodePoint) : List CodePoint := s.dropWhile fun p => (digit? p).isSome

theorem afterDigits_length_le (s : List CodePoint) : (afterDigits s).length ≤ s.length :=
  (List.dropWhile_sublist _).length_le

/-- A point and at least one digit: the digits and what follows; no digits if the text starts
otherwise. -/
def fraction (s : List CodePoint) : List Nat × { r : List CodePoint // r.length ≤ s.length } :=
  match s with
  | .char '.' :: rest =>
    match digitValues rest with
    | [] => ([], ⟨.char '.' :: rest, Nat.le_refl _⟩)
    | d :: ds => (d :: ds, ⟨afterDigits rest, Nat.le_succ_of_le (afterDigits_length_le rest)⟩)
  | s => ([], ⟨s, Nat.le_refl _⟩)

/-- The mark of an exponent, a sign and at least one digit; `none` if the text starts otherwise. -/
def exponent? (s : List CodePoint) : Option (Int × { r : List CodePoint // r.length ≤ s.length }) :=
  match s with
  | e :: rest =>
    if e = .char 'e' ∨ e = .char 'E' then
      let (negative, body) : Bool × { b : List CodePoint // b.length ≤ rest.length } :=
        match rest with
        | .char '-' :: more => (true, ⟨more, Nat.le_succ _⟩)
        | .char '+' :: more => (false, ⟨more, Nat.le_succ _⟩)
        | rest => (false, ⟨rest, Nat.le_refl _⟩)
      match digitValues body.val with
      | [] => none
      | d :: ds => some (signed negative (ofDigits (d :: ds)), ⟨afterDigits body.val,
          Nat.le_succ_of_le (Nat.le_trans (afterDigits_length_le _) body.property)⟩)
    else none
  | [] => none

/-- The integer digits at the start of a text: a zero alone, or digits that start with no zero. -/
def wholeDigits? (s : List CodePoint) :
    Option (List Nat × { r : List CodePoint // r.length < s.length }) :=
  match s with
  | [] => none
  | p :: rest =>
    if p = .char '0' then some ([0], ⟨rest, Nat.lt_succ_self _⟩)
    else match digit? p with
      | none => none
      | some d => some (d :: digitValues rest,
          ⟨afterDigits rest, Nat.lt_succ_of_le (afterDigits_length_le rest)⟩)

/-- Reads an unsigned number; `here` is the number with its sign. -/
def unsigned (negative : Bool) (here s : List CodePoint) :
    Except Fault (Json × { r : List CodePoint // r.length < s.length }) :=
  match wholeDigits? s with
  | none => failAt here .valueExpected
  | some (whole, ⟨rest, h⟩) =>
    let (digits, ⟨afterPoint, hp⟩) := fraction rest
    match exponent? afterPoint with
    | some (power, ⟨r, hr⟩) =>
      .ok (.float (ofDecimalParts negative whole digits power), ⟨r, by omega⟩)
    | none =>
      if digits = [] then
        if maxDigits < whole.length then failAt here .numberTooLong
        else .ok (.int (signed negative (ofDigits whole)), ⟨rest, h⟩)
      else .ok (.float (ofDecimalParts negative whole digits 0), ⟨afterPoint, by omega⟩)

/-- Reads a number. -/
def number (s : List CodePoint) :
    Except Fault (Json × { r : List CodePoint // r.length < s.length }) :=
  match s with
  | .char '-' :: rest => do
    let (v, ⟨r, hr⟩) ← unsigned true (.char '-' :: rest) rest
    return (v, ⟨r, Nat.lt_succ_of_lt hr⟩)
  | s => unsigned false s s

/-! ## Strings -/

/-- The value of four hexadecimal digits. -/
def fourDigits? : (a b c d : CodePoint) → Option Nat
  | .char a, .char b, .char c, .char d =>
    match hexValue? a, hexValue? b, hexValue? c, hexValue? d with
    | some a, some b, some c, some d => some (((a * 16 + b) * 16 + c) * 16 + d)
    | _, _, _, _ => none
  | _, _, _, _ => none

/-- The characters that short escapes stand for, each with its letter. -/
def shortEscapes : List (Char × Char) :=
  [('"', '"'), ('\\', '\\'), ('/', '/'), ('b', Char.ofNat 0x08), ('f', Char.ofNat 0x0c),
    ('n', '\n'), ('r', '\r'), ('t', '\t')]

/-- The character that a short escape stands for. -/
def shortEscape? : CodePoint → Option Char
  | .char c => shortEscapes.lookup c
  | .surrogate _ => none

/-- Reads the second half of a surrogate pair, which must not be the end of the text. A text that
starts otherwise is left alone, and so is the first half. -/
def secondHalf (leading : Nat) (s : List CodePoint) :
    Except Fault (CodePoint × { r : List CodePoint // r.length ≤ s.length }) :=
  match s with
  | .char '\\' :: .char 'u' :: a :: b :: c :: d :: e :: rest =>
    match fourDigits? a b c d with
    | none => failAt (.char 'u' :: a :: b :: c :: d :: e :: rest) .invalidCodeEscape
    | some n =>
      if Encoding.isTrailing n then .ok (.char (Encoding.joined leading n),
        ⟨e :: rest, by simp only [List.length_cons]; omega⟩)
      else .ok (.ofNat leading,
        ⟨.char '\\' :: .char 'u' :: a :: b :: c :: d :: e :: rest, Nat.le_refl _⟩)
  | s => .ok (.ofNat leading, ⟨s, Nat.le_refl _⟩)

/-- Reads the code point of an escape by its code, after its letter; `letter` starts at the
letter. -/
def escapedCode (letter s : List CodePoint) :
    Except Fault (CodePoint × { r : List CodePoint // r.length < s.length }) :=
  match s with
  -- a string whose text ends with the digits has no closing quote
  | a :: b :: c :: d :: e :: rest =>
    match fourDigits? a b c d with
    | none => failAt letter .invalidCodeEscape
    | some n =>
      if Encoding.isLeading n then
        match secondHalf n (e :: rest) with
        | .error f => .error f
        | .ok (point, ⟨r, h⟩) =>
          .ok (point, ⟨r, by simp only [List.length_cons] at h ⊢; omega⟩)
      else .ok (.ofNat n, ⟨e :: rest, by simp only [List.length_cons]; omega⟩)
  | _ => failAt letter .invalidCodeEscape

/-- A control character, which has to be escaped in a string. -/
def isControl : CodePoint → Bool
  | .char c => c.toNat < 0x20
  | .surrogate _ => false

/-- Reads a string up to its closing quote; `done` holds the code points read so far, last first,
and `start` is the text from the opening quote. -/
def stringFrom (start : List CodePoint) (done : List CodePoint) (s : List CodePoint) :
    Except Fault (List CodePoint × { r : List CodePoint // r.length < s.length }) :=
  match s with
  | [] => failAt start .unterminatedString
  | p :: rest =>
    if p = .char '"' then .ok (done.reverse, ⟨rest, Nat.lt_succ_self _⟩)
    else if p = .char '\\' then
      match rest with
      | [] => failAt start .unterminatedString
      | e :: more =>
        if e = .char 'u' then
          match escapedCode (e :: more) more with
          | .error f => .error f
          | .ok (point, ⟨r, h⟩) =>
            match stringFrom start (point :: done) r with
            | .error f => .error f
            | .ok (ps, ⟨r', h'⟩) => .ok (ps, ⟨r', by simp only [List.length_cons]; omega⟩)
        else
          match shortEscape? e with
          | none => failAt s .invalidEscape
          | some c =>
            match stringFrom start (.char c :: done) more with
            | .error f => .error f
            | .ok (ps, ⟨r', h'⟩) => .ok (ps, ⟨r', by simp only [List.length_cons]; omega⟩)
    else if isControl p then failAt s .controlCharacter
    else
      match stringFrom start (p :: done) rest with
      | .error f => .error f
      | .ok (ps, ⟨r', h'⟩) => .ok (ps, ⟨r', Nat.lt_succ_of_lt h'⟩)
termination_by s.length
decreasing_by all_goals simp_all only [List.length_cons]; omega

/-- Reads a string after its opening quote. -/
def string (s : List CodePoint) :
    Except Fault (List CodePoint × { r : List CodePoint // r.length < s.length }) :=
  stringFrom (.char '"' :: s) [] s

/-! ## Values -/

/-- An open container: the items of an array read so far, or the fields of an object and the key of
the next, last first. -/
inductive Frame where
  | array (items : List Json)
  | object (fields : List (List CodePoint × Json)) (key : List CodePoint)

/-- What is to be read next: a value, or what follows a value. -/
inductive Phase where
  | before
  | after (value : Json)

/-- What one step of reading leaves: the value of the whole text, or a stack, a phase and a shorter
text. -/
inductive Step (s : List CodePoint) where
  | done (value : Json)
  | next (stack : List Frame) (phase : Phase) (rest : List CodePoint)
      (shorter : rest.length < s.length)

/-- Reads the key of a field, the colon, and the blanks around them. -/
def key (s : List CodePoint) :
    Except Fault (List CodePoint × { r : List CodePoint // r.length < s.length }) := do
  let start := skipSpace s
  have hs := skipSpace_length_le s
  match h : start with
  | .char '"' :: more => do
    let (k, ⟨rest, hr⟩) ← string more
    have hc := skipSpace_length_le rest
    match h' : skipSpace rest with
    | .char ':' :: value =>
      return (k, ⟨value, by
        simp only [start] at h
        simp only [h, h', List.length_cons] at hs hc
        omega⟩)
    | other => failAt other .colonExpected
  | other => failAt other .keyExpected

/-- How many containers are read into each other, counted for a text that is read while nothing else
is open: each of them takes a call, and so many more are accepted. -/
def maxDepth : Nat := 995

/-- Reads up to the end of a scalar or past the opening of a container. -/
def beforeValue (stack : List Frame) (s : List CodePoint) : Except Fault (Step s) :=
  have hs := skipSpace_length_le s
  match h : skipSpace s with
  | [] => failAt [] .valueExpected
  | p :: rest =>
    have hb : rest.length < s.length := by simp only [h, List.length_cons] at hs; omega
    match p with
    | .char '"' => do
      let (ps, ⟨r, hr⟩) ← string rest
      return .next stack (.after (ofPoints ps)) r (by omega)
    | .char '[' =>
      if maxDepth ≤ stack.length then failAt (p :: rest) (.nestedTooDeeply "array") else
      have hs' := skipSpace_length_le rest
      match h' : skipSpace rest with
      | .char ']' :: more =>
        have hm : more.length < rest.length := by simp only [h', List.length_cons] at hs'; omega
        .ok (.next stack (.after (.array [])) more (by omega))
      | _ => .ok (.next (.array [] :: stack) .before rest hb)
    | .char '\x7b' =>
      if maxDepth ≤ stack.length then failAt (p :: rest) (.nestedTooDeeply "object") else
      have hs' := skipSpace_length_le rest
      match h' : skipSpace rest with
      | .char '\x7d' :: more =>
        have hm : more.length < rest.length := by simp only [h', List.length_cons] at hs'; omega
        .ok (.next stack (.after (.object [])) more (by omega))
      | _ => do
        let (k, ⟨r, hr⟩) ← key rest
        return .next (.object [] k :: stack) .before r (by omega)
    | _ =>
      match word? (p :: rest) with
      | some (v, ⟨r, hr⟩) =>
        .ok (.next stack (.after v) r (by simp only [List.length_cons] at hr; omega))
      | none => do
        let (v, ⟨r, hr⟩) ← number (p :: rest)
        return .next stack (.after v) r (by simp only [List.length_cons] at hr; omega)

/-- Reads what follows a value: a separator, the end of its container, or the end of the text. -/
def afterValue (stack : List Frame) (value : Json) (s : List CodePoint) : Except Fault (Step s) :=
  have hs := skipSpace_length_le s
  match stack, h : skipSpace s with
  | [], [] => .ok (.done value)
  | [], p :: rest => failAt (p :: rest) .moreData
  | _ :: _, [] => failAt [] .commaExpected
  | .array items :: outer, p :: rest =>
    have hb : rest.length < s.length := by simp only [h, List.length_cons] at hs; omega
    match p with
    | .char ',' => .ok (.next (.array (value :: items) :: outer) .before rest hb)
    | .char ']' => .ok (.next outer (.after (.array (value :: items).reverse)) rest hb)
    | _ => failAt (p :: rest) .commaExpected
  | .object fields k :: outer, p :: rest =>
    have hb : rest.length < s.length := by simp only [h, List.length_cons] at hs; omega
    match p with
    | .char ',' => do
      let (k', ⟨r, hr⟩) ← key rest
      return .next (.object ((k, value) :: fields) k' :: outer) .before r (by omega)
    | .char '\x7d' =>
      .ok (.next outer (.after (ofNamedFields ((k, value) :: fields).reverse)) rest hb)
    | _ => failAt (p :: rest) .commaExpected

/-- Reads a text to its end. -/
def read (stack : List Frame) (phase : Phase) (s : List CodePoint) : Except Fault Json :=
  let step := match phase with
    | .before => beforeValue stack s
    | .after value => afterValue stack value s
  match step with
  | .error e => .error e
  | .ok (.done value) => .ok value
  | .ok (.next stack' phase' rest _) => read stack' phase' rest
termination_by s.length

end MessageText

/-- Reads the JSON text of a message. -/
def ofMessageText (text : List Text.CodePoint) : Except MessageText.Fault Json :=
  MessageText.read [] .before text

end ChatRiddles.Json
