import ChatRiddles.Text.Blank
import ChatRiddles.Text.Letters
import ChatRiddles.Text.Utf8
/-!
# Integers in texts

An integer is written in decimal digits, with a minus sign if it is negative. Two readers accept
more than that.

* `ofText?` reads what a person enters in a list of numbers: white space around it, a sign, digits
  of any script, single underscores between digits, and leading zeros.
* `ofField` reads what stands in the field of a document: white space around it, a sign, ASCII
  digits, single underscores between them, leading zeros of an unsigned number, and a tail of a
  point and zeros.

Both refuse numbers of more than 4300 digits, and `ofField` tells that refusal from the others.
-/

namespace ChatRiddles.Number

open ChatRiddles.Text

/-- The most digits that are read. -/
def maxDigits : Nat := 4300

/-- The decimal digits of a natural number. -/
def naturalText (n : Nat) : List Char := Nat.toDigits 10 n

/-- An integer in decimal digits, with a minus sign if it is negative. -/
def integerChars : Int → List Char
  | .ofNat n => naturalText n
  | .negSucc n => '-' :: naturalText (n + 1)

/-- An integer in decimal digits, with a minus sign if it is negative. -/
def integerText (n : Int) : String := String.ofList (integerChars n)

/-- The value of a list of digit values, most significant first. -/
def ofDigits (digits : List Nat) : Nat := digits.foldl (fun n d => 10 * n + d) 0

/-- The code of a decimal digit lies between those of zero and nine. -/
theorem toNat_of_isDigit {c : Char} (h : c.isDigit = true) : 0x30 ≤ c.toNat ∧ c.toNat ≤ 0x39 := by
  rw [Char.isDigit, Bool.and_eq_true, decide_eq_true_iff, decide_eq_true_iff] at h
  exact h

theorem isDigit_of_mem_naturalText {n : Nat} : ∀ c ∈ naturalText n, c.isDigit = true := by
  intro c hc
  exact Nat.isDigit_of_mem_toDigits (by decide) (by decide) hc

/-- The characters of an integer: digits, and a minus sign. -/
theorem mem_integerChars {n : Int} {c : Char} (h : c ∈ integerChars n) :
    c.isDigit = true ∨ c = '-' := by
  cases n with
  | ofNat m => exact .inl (isDigit_of_mem_naturalText c h)
  | negSucc m =>
    rcases List.mem_cons.mp h with rfl | h
    · exact .inr rfl
    · exact .inl (isDigit_of_mem_naturalText c h)

/-- A number in digits starts with a digit. -/
theorem naturalText_cons (n : Nat) : ∃ d ds, naturalText n = d :: ds ∧ d.isDigit = true := by
  have hdigits := @isDigit_of_mem_naturalText n
  cases htext : naturalText n with
  | nil => exact absurd htext Nat.toDigits_ne_nil
  | cons d ds =>
    rw [htext] at hdigits
    exact ⟨d, ds, rfl, hdigits d List.mem_cons_self⟩

/-- The digits of a number make up the number. -/
theorem ofDigits_naturalText {n : Nat} :
    ofDigits ((naturalText n).map fun c => c.toNat - 0x30) = n := by
  have h := @Nat.ofDigitChars_toDigits 10 n (by decide) (by decide)
  rw [ofDigits, List.foldl_map]
  exact h

/-- The value of digits is written in no more digits. -/
theorem length_naturalText_ofDigits {digits : List Nat} {k : Nat} (hk : 0 < k)
    (hdigits : ∀ d ∈ digits, d < 10) (hlength : digits.length ≤ k) :
    (naturalText (ofDigits digits)).length ≤ k := by
  -- by induction on the digits, which may follow a number
  have hfold : ∀ n, digits.foldl (fun n d => 10 * n + d) n < (n + 1) * 10 ^ digits.length := by
    clear hlength
    induction digits with
    | nil =>
      intro n
      rw [List.foldl_nil, List.length_nil, Nat.pow_zero, Nat.mul_one]
      exact Nat.lt_succ_self n
    | cons d rest ih =>
      intro n
      obtain ⟨hd, hrest⟩ := List.forall_mem_cons.mp hdigits
      have hstep : (10 * n + d + 1) * 10 ^ rest.length ≤ (n + 1) * 10 * 10 ^ rest.length :=
        Nat.mul_le_mul_right _ (by omega)
      rw [List.foldl_cons, List.length_cons, Nat.pow_succ', ← Nat.mul_assoc]
      exact Nat.lt_of_lt_of_le (ih hrest _) hstep
  have hvalue : ofDigits digits < 1 * 10 ^ digits.length := hfold 0
  rw [Nat.one_mul] at hvalue
  have hpower : 10 ^ digits.length ≤ 10 ^ k := Nat.pow_le_pow_right (by decide) hlength
  exact (Nat.length_toDigits_le_iff (by decide) hk).mpr (Nat.lt_of_lt_of_le hvalue hpower)

/-- Digits with single underscores between them: their values, in order. -/
def groupedDigits? (digit? : Char → Option Nat) : List Char → Option (List Nat)
  | [] => none
  | c :: rest =>
    match digit? c, rest with
    | none, _ => none
    | some d, [] => some [d]
    | some d, '_' :: more => (groupedDigits? digit? more).map (d :: ·)
    | some d, more => (groupedDigits? digit? more).map (d :: ·)

/-- A sign, if there is one, and what follows it. -/
def splitSign : List Char → Bool × List Char
  | '-' :: rest => (true, rest)
  | '+' :: rest => (false, rest)
  | cs => (false, cs)

/-- An integer of a sign and a magnitude. -/
def signed (negative : Bool) (n : Nat) : Int := if negative then -(n : Int) else n

@[simp]
theorem natAbs_signed (negative : Bool) (n : Nat) : (signed negative n).natAbs = n := by
  cases negative <;> simp [signed]

/-- White space, which may surround a number: every blank but the information separators. -/
def isWhiteSpace (c : Char) : Bool := isBlank c && !(0x1c ≤ c.toNat && c.toNat ≤ 0x1f)

/-- Reads an integer that a person entered. -/
def ofText? (cs : List Char) : Option Int :=
  let (negative, body) := splitSign (trimBy isWhiteSpace cs)
  match groupedDigits? (fun c => digitValue? c.toNat) body with
  | none => none
  | some digits =>
    if digits.length ≤ maxDigits then some (signed negative (ofDigits digits)) else none

/-- The number of digits of an integer that a person entered, however many they are. -/
def digitCount? (cs : List Char) : Option Nat :=
  let unsigned := (splitSign (trimBy isWhiteSpace cs)).2
  (groupedDigits? (fun c => digitValue? c.toNat) unsigned).map List.length

/-! ## The field of a document -/

/-- The value of an ASCII digit. -/
def asciiDigit? (c : Char) : Option Nat :=
  if '0' ≤ c ∧ c ≤ '9' then some (c.toNat - 0x30) else none

/-- An ASCII digit. -/
def isAsciiDigit (c : Char) : Bool := (asciiDigit? c).isSome

/-- What a field of digits amounts to. -/
inductive FieldNumber where
  | number (n : Int)
  | malformed
  | tooLong
  deriving DecidableEq, Repr

/-- Drops a plus sign unless another sign follows it. -/
def dropPlus : List Char → List Char
  | '+' :: c :: rest => if c = '+' ∨ c = '-' then '+' :: c :: rest else c :: rest
  | cs => cs

/-- Drops the zeros and underscores after a first zero, and keeps the last of them if no other digit
follows. `none` if what follows cannot belong to a number. -/
def dropZerosAfter (last : Char) : List Char → Option (List Char)
  | [] => some [last]
  | c :: rest =>
    if c = '0' ∨ c = '_' then dropZerosAfter c rest
    else if c = '.' then some (last :: c :: rest)
    else if isAsciiDigit c then some (c :: rest)
    else none

/-- Drops the leading zeros of an unsigned number. `none` if it starts with no digit or sign. -/
def dropLeadingZeros : List Char → Option (List Char)
  | [] => none
  | c :: rest =>
    if c = '0' then dropZerosAfter c rest
    else if isAsciiDigit c ∨ c = '-' then some (c :: rest)
    else none

/-- Drops a tail of a point and at least one zero. -/
def dropPointZeros (cs : List Char) : List Char :=
  let tail := (cs.dropWhile (· ≠ '.')).drop 1
  if tail ≠ [] ∧ tail.all (· = '0') then cs.takeWhile (· ≠ '.') else cs

/-- Reads digits with single underscores between them, after a minus sign if there is one. No
leading zero is accepted. -/
def plainInteger? (cs : List Char) : Option Int :=
  let (negative, body) := match cs with
    | '-' :: rest => (true, rest)
    | _ => (false, cs)
  match groupedDigits? asciiDigit? body with
  | none => none
  | some digits =>
    if digits.head? = some 0 ∧ digits.length ≠ 1 then none
    else some (signed negative (ofDigits digits))

/-- The number of bytes of a text. -/
def encodedLength (cs : List Char) : Nat := (Utf8.encode cs).length

/-- Reads the integer of a field. -/
def ofField (cs : List Char) : FieldNumber :=
  if maxDigits < encodedLength cs then .tooLong
  else
    match dropLeadingZeros (dropPlus (trimBy isWhiteSpace cs)) with
    | none => .malformed
    | some body =>
      match plainInteger? (dropPointZeros body) with
      | none => .malformed
      | some n => .number n

end ChatRiddles.Number
