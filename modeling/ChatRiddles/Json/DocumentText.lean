import ChatRiddles.Json.Value
import ChatRiddles.Number.Decimal
import ChatRiddles.Text.Utf8
/-!
# Reading the JSON text of a document

The text of a document is read byte by byte, and the first fault ends the reading. A fault has a
reason and a place; the place is given by the bytes from it to the end of the text, and shown as a
line and a column counted in bytes.

Open arrays and objects stand on a stack, the innermost first. Reading alternates between two
phases: a value is expected, or a value has just ended and its container goes on. Every step
consumes at least one byte, so reading ends. At most 200 containers may be open.
-/

namespace ChatRiddles.Json.DocumentText

open Number Text

/-- Why a text is no JSON. -/
inductive Reason where
  | endInValue | endInList | endInObject | endInString
  | valueExpected | keyExpected | colonExpected | listSeparatorExpected | objectSeparatorExpected
  | trailingComma | trailingCharacters
  | invalidNumber | numberOutOfRange
  | wordExpected
  | controlCharacter | invalidEscape | loneTrailingSurrogate | loneLeadingSurrogate
  | invalidCodePoint
  | nestedTooDeeply
  deriving DecidableEq, Repr

/-- The wording of a reason. -/
def Reason.message : Reason → String
  | .endInValue => "EOF while parsing a value"
  | .endInList => "EOF while parsing a list"
  | .endInObject => "EOF while parsing an object"
  | .endInString => "EOF while parsing a string"
  | .valueExpected => "expected value"
  | .keyExpected => "key must be a string"
  | .colonExpected => "expected `:`"
  | .listSeparatorExpected => "expected `,` or `]`"
  | .objectSeparatorExpected => "expected `,` or `\x7d`"
  | .trailingComma => "trailing comma"
  | .trailingCharacters => "trailing characters"
  | .invalidNumber => "invalid number"
  | .numberOutOfRange => "number out of range"
  | .wordExpected => "expected ident"
  | .controlCharacter => "control character (\\u0000-\\u001F) found while parsing a string"
  | .invalidEscape => "invalid escape"
  | .loneTrailingSurrogate => "lone leading surrogate in hex escape"
  | .loneLeadingSurrogate => "unexpected end of hex escape"
  | .invalidCodePoint => "invalid unicode code point"
  | .nestedTooDeeply => "recursion limit exceeded"

/-- A fault: its reason, and the bytes from its place to the end of the text. -/
structure Fault where
  reason : Reason
  -- what is left of the text at the place of the fault
  rest : List UInt8

/-- Fails at a place. -/
def failAt {α : Type} (rest : List UInt8) (reason : Reason) : Except Fault α :=
  .error ⟨reason, rest⟩

/-- A blank of the format. -/
def isSpace (b : UInt8) : Bool := b == 0x20 || b == 0x09 || b == 0x0a || b == 0x0d

/-- The text from its first byte that is no blank. -/
def skipSpace (s : List UInt8) : List UInt8 := s.dropWhile isSpace

theorem skipSpace_length_le (s : List UInt8) : (skipSpace s).length ≤ s.length :=
  (List.dropWhile_sublist _).length_le

/-- A byte of an ASCII character. -/
def byte (c : Char) : UInt8 := UInt8.ofNat c.toNat

/-! ## Words and numbers -/

/-- Reads the rest of a word of the format. -/
def word (expected : List Char) (s : List UInt8) :
    Except Fault { r : List UInt8 // r.length ≤ s.length } :=
  match expected, s with
  | [], s => .ok ⟨s, Nat.le_refl _⟩
  | _ :: _, [] => failAt [] .endInValue
  | c :: cs, b :: rest =>
    if b = byte c then
      match word cs rest with
      | .ok ⟨r, h⟩ => .ok ⟨r, Nat.le_succ_of_le h⟩
      | .error e => .error e
    else failAt (b :: rest) .wordExpected

/-- A decimal digit. -/
def isDigit (b : UInt8) : Bool := 0x30 ≤ b && b ≤ 0x39

/-- The values of the digits at the start of a text. -/
def digitValues (s : List UInt8) : List Nat := (s.takeWhile isDigit).map fun b => b.toNat - 0x30

/-- What follows the digits at the start of a text. -/
def afterDigits (s : List UInt8) : List UInt8 := s.dropWhile isDigit

theorem afterDigits_length_le (s : List UInt8) : (afterDigits s).length ≤ s.length :=
  (List.dropWhile_sublist _).length_le

/-- Requires a digit at the start of a text. -/
def requireDigit (s : List UInt8) : Except Fault Unit :=
  match s with
  | [] => failAt [] .endInValue
  | b :: _ => if isDigit b then .ok () else failAt s .invalidNumber

/-- Reads the power of ten after the mark of an exponent. -/
def exponent (s : List UInt8) : Except Fault (Int × { r : List UInt8 // r.length ≤ s.length }) :=
  match s with
  | [] => failAt [] .endInValue
  | b :: rest =>
    if b = 0x2d ∨ b = 0x2b then do
      requireDigit rest
      return (signed (b == 0x2d) (ofDigits (digitValues rest)),
        ⟨afterDigits rest, Nat.le_succ_of_le (afterDigits_length_le rest)⟩)
    else do
      requireDigit (b :: rest)
      return (ofDigits (digitValues (b :: rest)),
        ⟨afterDigits (b :: rest), afterDigits_length_le _⟩)

/-- Whether a byte marks an exponent. -/
def isExponentMark (b : UInt8) : Bool := b == 0x65 || b == 0x45

/-- Reads what follows the integer digits of a number with a fraction or an exponent. -/
def fraction (negative : Bool) (whole : List Nat) (s : List UInt8) :
    Except Fault (Json × { r : List UInt8 // r.length ≤ s.length }) :=
  match s with
  | [] => .ok (.float (ofDecimalParts negative whole [] 0), ⟨[], Nat.le_refl _⟩)
  | b :: rest =>
    if b = 0x2e then do
      requireDigit rest
      let digits := digitValues rest
      have h := afterDigits_length_le rest
      match hr : afterDigits rest with
      | [] => return (.float (ofDecimalParts negative whole digits 0), ⟨[], Nat.zero_le _⟩)
      | c :: more =>
        if isExponentMark c then do
          let (power, ⟨r, hle⟩) ← exponent more
          return (.float (ofDecimalParts negative whole digits power),
            ⟨r, by simp only [hr, List.length_cons] at h ⊢; omega⟩)
        else return (.float (ofDecimalParts negative whole digits 0),
          ⟨c :: more, by simp only [hr, List.length_cons] at h ⊢; omega⟩)
    else if isExponentMark b then do
      let (power, ⟨r, h⟩) ← exponent rest
      return (.float (ofDecimalParts negative whole [] power), ⟨r, Nat.le_succ_of_le h⟩)
    else .ok (.float (ofDecimalParts negative whole [] 0), ⟨b :: rest, Nat.le_refl _⟩)

/-- The most digits of an integer. -/
def maxIntegerDigits : Nat := 4300

/-- Reads a number whose sign has been read. -/
def unsigned (negative : Bool) (s : List UInt8) :
    Except Fault (Json × { r : List UInt8 // r.length < s.length }) :=
  match s with
  | [] => failAt [] .endInValue
  | b :: rest =>
    if b = 0x30 then
      match rest with
      | c :: more =>
        if c = 0x2e ∨ isExponentMark c then do
          let (v, ⟨r, h⟩) ← fraction negative [0] (c :: more)
          return (v, ⟨r, Nat.lt_succ_of_le h⟩)
        else if isDigit c then failAt (c :: more) .invalidNumber
        else .ok (.int 0, ⟨c :: more, Nat.lt_succ_self _⟩)
      | [] => .ok (.int 0, ⟨[], Nat.lt_succ_self _⟩)
    else if isDigit b then
      let digits := digitValues (b :: rest)
      let after := afterDigits rest
      have ha : after.length ≤ rest.length := afterDigits_length_le rest
      -- the sign is none of the digits that are counted
      if maxIntegerDigits < digits.length then
        failAt ((b :: rest).drop (maxIntegerDigits + 1)) .numberOutOfRange
      else match after, ha with
        | [], ha => .ok (.int (signed negative (ofDigits digits)), ⟨[], Nat.lt_succ_of_le ha⟩)
        | c :: more, ha =>
          if c = 0x2e ∨ isExponentMark c then do
            let (v, ⟨r, h⟩) ← fraction negative digits (c :: more)
            return (v, ⟨r, Nat.lt_succ_of_le (Nat.le_trans h ha)⟩)
          else .ok (.int (signed negative (ofDigits digits)), ⟨c :: more, Nat.lt_succ_of_le ha⟩)
    else failAt s .invalidNumber

/-- Reads a number, an infinity or no number. -/
def number (s : List UInt8) : Except Fault (Json × { r : List UInt8 // r.length < s.length }) :=
  match s with
  | [] => failAt [] .endInValue
  | b :: rest =>
    if b = byte 'N' then do
      let ⟨r, h⟩ ← word "aN".toList rest
      return (.float .nan, ⟨r, Nat.lt_succ_of_le h⟩)
    else if b = byte 'I' then do
      let ⟨r, h⟩ ← word "nfinity".toList rest
      return (.float (.infinite false), ⟨r, Nat.lt_succ_of_le h⟩)
    else if b = byte '-' then
      match rest with
      | c :: more =>
        if c = byte 'I' then do
          let ⟨r, h⟩ ← word "nfinity".toList more
          return (.float (.infinite true), ⟨r, by simp only [List.length_cons]; omega⟩)
        else do
          let (v, ⟨r, h⟩) ← unsigned true (c :: more)
          return (v, ⟨r, Nat.lt_succ_of_lt h⟩)
      | [] => failAt [] .endInValue
    else unsigned false (b :: rest)

/-! ## Strings -/

/-- The value of a byte that is a hexadecimal digit. -/
def hexByte? (b : UInt8) : Option Nat := hexValue? (Char.ofNat b.toNat)

/-- Reads four hexadecimal digits. -/
def fourDigits (s : List UInt8) : Except Fault (Nat × { r : List UInt8 // r.length < s.length }) :=
  match s with
  | a :: b :: c :: d :: rest =>
    match hexByte? a, hexByte? b, hexByte? c, hexByte? d with
    | some a, some b, some c, some d =>
      .ok (((a * 16 + b) * 16 + c) * 16 + d, ⟨rest, by simp only [List.length_cons]; omega⟩)
    | none, _, _, _ => failAt s .invalidEscape
    | _, none, _, _ => failAt (s.drop 1) .invalidEscape
    | _, _, none, _ => failAt (s.drop 2) .invalidEscape
    | _, _, _, none => failAt (s.drop 3) .invalidEscape
  | _ => failAt [] .endInString

/-- The last of the four bytes before a place, where a surrogate without its partner is reported. -/
def lastDigit (s rest : List UInt8) : List UInt8 := s.drop (s.length - rest.length - 1)

/-- Reads the character of a hexadecimal escape: one code, or two that form a surrogate pair. -/
def escapedCode (s : List UInt8) :
    Except Fault (Char × { r : List UInt8 // r.length < s.length }) := do
  let (n, ⟨rest, h⟩) ← fourDigits s
  if 0xdc00 ≤ n ∧ n ≤ 0xdfff then failAt (lastDigit s rest) .loneTrailingSurrogate
  else if 0xd800 ≤ n ∧ n ≤ 0xdbff then
    match rest, h with
    | 0x5c :: 0x75 :: more, h => do
      let (low, ⟨r, hr⟩) ← fourDigits more
      if 0xdc00 ≤ low ∧ low ≤ 0xdfff then
        return (Char.ofNat ((n - 0xd800) * 0x400 + (low - 0xdc00) + 0x10000),
          ⟨r, by simp only [List.length_cons] at h; omega⟩)
      else failAt (lastDigit more r) .loneTrailingSurrogate
    | [0x5c], _ => failAt [] .endInString
    | [], _ => failAt [] .endInString
    | 0x5c :: other :: more, _ => failAt (other :: more) .loneLeadingSurrogate
    | other, _ => failAt other .loneLeadingSurrogate
  else return (Char.ofNat n, ⟨rest, h⟩)

/-- The byte that a short escape stands for. -/
def shortEscape? (b : UInt8) : Option UInt8 :=
  if b = byte '"' ∨ b = byte '\\' ∨ b = byte '/' then some b
  else if b = byte 'b' then some 0x08
  else if b = byte 'f' then some 0x0c
  else if b = byte 'n' then some 0x0a
  else if b = byte 'r' then some 0x0d
  else if b = byte 't' then some 0x09
  else none

/-- Reads the bytes of a string up to its closing quote, escapes replaced; `done` holds those read
so far, last first. -/
def stringBytes (done : List UInt8) (s : List UInt8) :
    Except Fault (List UInt8 × { r : List UInt8 // r.length < s.length }) :=
  match s with
  | [] => failAt [] .endInString
  | b :: rest =>
    if b = byte '"' then .ok (done.reverse, ⟨rest, Nat.lt_succ_self _⟩)
    else if b = byte '\\' then
      match rest with
      | [] => failAt [] .endInString
      | c :: more =>
        if c = byte 'u' then
          match escapedCode more with
          | .error e => .error e
          | .ok (char, ⟨r, h⟩) =>
            match stringBytes ((Utf8.encodeChar char).reverse ++ done) r with
            | .error e => .error e
            | .ok (bytes, ⟨r', h'⟩) =>
              .ok (bytes, ⟨r', by simp only [List.length_cons]; omega⟩)
        else
          match shortEscape? c with
          | none => failAt (c :: more) .invalidEscape
          | some e =>
            match stringBytes (e :: done) more with
            | .error e => .error e
            | .ok (bytes, ⟨r', h'⟩) => .ok (bytes, ⟨r', by simp only [List.length_cons]; omega⟩)
    else if b < 0x20 then failAt s .controlCharacter
    else
      match stringBytes (b :: done) rest with
      | .error e => .error e
      | .ok (bytes, ⟨r', h'⟩) => .ok (bytes, ⟨r', Nat.lt_succ_of_lt h'⟩)
termination_by s.length
decreasing_by all_goals simp_all only [List.length_cons]; omega

/-- Reads a string after its opening quote. -/
def string (s : List UInt8) :
    Except Fault (String × { r : List UInt8 // r.length < s.length }) := do
  let (bytes, rest) ← stringBytes [] s
  match Utf8.decode bytes with
  | .ok chars => return (String.ofList chars, rest)
  -- the offset is counted in the text with its escapes replaced
  | .error offset => failAt (s.drop offset) .invalidCodePoint

/-! ## Values -/

/-- An open container: the items of an array read so far, or the fields of an object and the key of
the next, last first. -/
inductive Frame where
  | array (items : List Json)
  | object (fields : List (String × Json)) (key : String)

/-- What is to be read next: a value, or what follows a value. -/
inductive Phase where
  | before
  | after (value : Json)

/-- The most containers that may be open. -/
def maxDepth : Nat := 200

/-- Reads the key of a field, after its opening quote, and the colon that follows. -/
def key (s : List UInt8) : Except Fault (String × { r : List UInt8 // r.length < s.length }) := do
  let (k, ⟨rest, h⟩) ← string s
  have hs := skipSpace_length_le rest
  match hr : skipSpace rest with
  | [] => failAt [] .endInObject
  | b :: more =>
    if b = byte ':' then
      return (k, ⟨more, by simp only [hr, List.length_cons] at hs; omega⟩)
    else failAt (b :: more) .colonExpected

/-- Opens one more container at a value, unless too many are open. -/
def nest (stack : List Frame) (frame : Frame) (s : List UInt8) : Except Fault (List Frame) :=
  if maxDepth ≤ stack.length then failAt s .nestedTooDeeply else .ok (frame :: stack)

/-- Opens an object whose first key has been read, at the value of the key. -/
def openObject (stack : List Frame) (k : String) (s : List UInt8) : Except Fault (List Frame) :=
  match skipSpace s with
  | [] => failAt [] .endInValue
  | b :: rest => nest stack (.object [] k) (b :: rest)

/-- What one step of reading leaves: the value of the whole text, or a stack, a phase and a shorter
text. -/
inductive Step (s : List UInt8) where
  | done (value : Json)
  | next (stack : List Frame) (phase : Phase) (rest : List UInt8) (shorter : rest.length < s.length)

/-- Reads up to the end of a scalar or past the opening of a container. -/
def beforeValue (stack : List Frame) (s : List UInt8) : Except Fault (Step s) :=
  have hs := skipSpace_length_le s
  match h : skipSpace s with
  | [] => failAt [] .endInValue
  | b :: rest =>
    have hb : rest.length < s.length := by simp only [h, List.length_cons] at hs; omega
    if b = byte '"' then do
      let (v, ⟨r, hr⟩) ← string rest
      return .next stack (.after (.string v)) r (by omega)
    else if b = byte '[' then
      have hs' := skipSpace_length_le rest
      match h' : skipSpace rest with
      | [] => failAt [] .endInList
      | c :: more =>
        have hm : more.length < rest.length := by simp only [h', List.length_cons] at hs'; omega
        if c = byte ']' then .ok (.next stack (.after (.array [])) more (by omega))
        else do
          let stack' ← nest stack (.array []) (c :: more)
          return .next stack' .before (c :: more)
            (by simp only [List.length_cons, h', h] at hs' hs ⊢; omega)
    else if b = byte '\x7b' then
      have hs' := skipSpace_length_le rest
      match h' : skipSpace rest with
      | [] => failAt [] .endInObject
      | c :: more =>
        have hm : more.length < rest.length := by simp only [h', List.length_cons] at hs'; omega
        if c = byte '\x7d' then .ok (.next stack (.after (.object [])) more (by omega))
        else if c = byte '"' then do
          let (k, ⟨r, hr⟩) ← key more
          let stack' ← openObject stack k r
          return .next stack' .before r (by omega)
        else failAt (c :: more) .keyExpected
    else if b = byte 't' then do
      let ⟨r, hr⟩ ← word "rue".toList rest
      return .next stack (.after (.bool true)) r (by omega)
    else if b = byte 'f' then do
      let ⟨r, hr⟩ ← word "alse".toList rest
      return .next stack (.after (.bool false)) r (by omega)
    else if b = byte 'n' then do
      let ⟨r, hr⟩ ← word "ull".toList rest
      return .next stack (.after .null) r (by omega)
    else if isDigit b || b = byte '-' || b = byte 'N' || b = byte 'I' then do
      let (v, ⟨r, hr⟩) ← number (b :: rest)
      return .next stack (.after v) r (by simp only [List.length_cons] at hr; omega)
    else failAt (b :: rest) .valueExpected

/-- Reads what follows a value: a separator, the end of its container, or the end of the text. -/
def afterValue (stack : List Frame) (value : Json) (s : List UInt8) : Except Fault (Step s) :=
  have hs := skipSpace_length_le s
  match stack, h : skipSpace s with
  | [], [] => .ok (.done value)
  | [], b :: rest => failAt (b :: rest) .trailingCharacters
  | .array _ :: _, [] => failAt [] .endInList
  | .object _ _ :: _, [] => failAt [] .endInObject
  | .array items :: outer, b :: rest =>
    have hb : rest.length < s.length := by simp only [h, List.length_cons] at hs; omega
    if b = byte ',' then
      match skipSpace rest with
      | [] => failAt [] .endInValue
      | c :: more =>
        if c = byte ']' then failAt (c :: more) .trailingComma
        else .ok (.next (.array (value :: items) :: outer) .before rest hb)
    else if b = byte ']' then
      .ok (.next outer (.after (.array (value :: items).reverse)) rest hb)
    else failAt (b :: rest) .listSeparatorExpected
  | .object fields k :: outer, b :: rest =>
    have hb : rest.length < s.length := by simp only [h, List.length_cons] at hs; omega
    if b = byte ',' then
      have hs' := skipSpace_length_le rest
      match h' : skipSpace rest with
      | [] => failAt [] .endInValue
      | c :: more =>
        have hm : more.length < rest.length := by simp only [h', List.length_cons] at hs'; omega
        if c = byte '"' then do
          let (k', ⟨r, hr⟩) ← key more
          return .next (.object ((k, value) :: fields) k' :: outer) .before r (by omega)
        else if c = byte '\x7d' then failAt (c :: more) .trailingComma
        else failAt (c :: more) .keyExpected
    else if b = byte '\x7d' then
      .ok (.next outer (.after (ofFields ((k, value) :: fields).reverse)) rest hb)
    else failAt (b :: rest) .objectSeparatorExpected

/-- Reads a text to its end. -/
def read (stack : List Frame) (phase : Phase) (s : List UInt8) : Except Fault Json :=
  let step := match phase with
    | .before => beforeValue stack s
    | .after value => afterValue stack value s
  match step with
  | .error e => .error e
  | .ok (.done value) => .ok value
  | .ok (.next stack' phase' rest _) => read stack' phase' rest
termination_by s.length

/-! ## Places -/

/-- The line and the column of a place, counted from one; the line feed itself belongs to the line
that it starts, at column zero. -/
structure Place where
  line : Nat
  -- the column, in bytes
  column : Nat
  deriving DecidableEq, Repr

/-- The place of the byte after `before`, given whether there is such a byte. -/
def placeFrom (line column : Nat) : (before : List UInt8) → (here : Option UInt8) → Place
  | [], some b => if b = 0x0a then ⟨line + 1, 0⟩ else ⟨line, column + 1⟩
  | [], none => ⟨line, column⟩
  | b :: rest, here =>
    if b = 0x0a then placeFrom (line + 1) 0 rest here else placeFrom line (column + 1) rest here

/-- The place of a fault in a text. -/
def Fault.place (text : List UInt8) (fault : Fault) : Place :=
  placeFrom 1 0 (text.take (text.length - fault.rest.length)) fault.rest.head?

/-- The wording of a fault in a text. -/
def Fault.message (text : List UInt8) (fault : Fault) : String :=
  let p := fault.place text
  fault.reason.message ++ " at line " ++ integerText p.line ++ " column " ++ integerText p.column

end DocumentText

/-- Reads the JSON text of a document. -/
def ofDocumentText (bytes : List UInt8) : Except DocumentText.Fault Json :=
  DocumentText.read [] .before bytes

end ChatRiddles.Json
