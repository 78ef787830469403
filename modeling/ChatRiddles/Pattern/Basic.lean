import ChatRiddles.Pattern.Match
import ChatRiddles.Pattern.Reader
/-!
# Compiled patterns

A pattern is compiled from its text. Beyond what reading refuses, a look behind must have one width,
and repetition is refused where a flag says so. Compiling takes a call for each pattern inside
another, and breaks down where there is no room for it.

A pattern is found in a text if it matches from some position. Where every match starts with a
character of a set, the positions are first sifted by that set, read with the alphabet of the whole
pattern. For a set that stands in a group with another alphabet this leaves out some matches.
-/

namespace ChatRiddles.Pattern

/-- The greatest width of a look behind. -/
def behindBound : Nat := 0xffffffff

/-- Fails at no place. -/
def refuse (reason : Reason) : Except Refusal Unit := .error (.fault ⟨reason, none⟩)

/-- A check inside another takes a call. -/
def nested (room : Nat) (check : Except Refusal Unit) : Except Refusal Unit :=
  if room = 0 then .error (.breakdown .nestedTooDeeply) else check

mutual

/-- Refuses repetition under the flag that does so, and look behinds without one width. There is
room for so many checks inside each other. -/
def Node.check (template : Bool) (room : Nat) : Node → Except Refusal Unit
  | .code _ | .otherThan _ | .any | .set _ _ | .place _ | .backreference _ _ => .ok ()
  | .group _ _ _ body | .atomic body => nested room (checkSequence template (room - 1) body)
  | .repeated greed _ _ body =>
    if template then refuse (.repeatRefused greed)
    else nested room (checkSequence template (room - 1) body)
  | .choice alternatives => checkChoice template room alternatives
  | .look behind _ body =>
    match behind with
    | some w =>
      if behindBound < w.least then refuse .farBehind
      else if w.least ≠ w.greatest then refuse .unevenBehind
      else nested room (checkSequence template (room - 1) body)
    | none => nested room (checkSequence template (room - 1) body)
  | .conditional _ yes none => nested room (checkSequence template (room - 1) yes)
  | .conditional _ yes (some no) => do
    nested room (checkSequence template (room - 1) yes)
    nested room (checkSequence template (room - 1) no)

/-- Checks the items of a sequence in order. -/
def checkSequence (template : Bool) (room : Nat) : List Node → Except Refusal Unit
  | [] => .ok ()
  | n :: rest => do
    n.check template room
    checkSequence template room rest

/-- Checks the alternatives of a choice in order. -/
def checkChoice (template : Bool) (room : Nat) : List (List Node) → Except Refusal Unit
  | [] => .ok ()
  | a :: rest => do
    nested room (checkSequence template (room - 1) a)
    checkChoice template room rest

end

/-- Reads and checks the text of a pattern. -/
def compile (text : List Char) : Except Refusal Parsed := do
  let parsed ← parse text
  checkSequence (parsed.flags.contains .template) maxCalls parsed.items
  return parsed

/-- The set that the first item of a sequence is, looking into groups. Where case is ignored it must
have no character with two cases. -/
def leadingSet? (flags : Flags) : List Node → Option (Bool × List SetItem)
  | .set outside items :: _ =>
    if flags.contains .ignoreCase && items.any (·.isCased flags.alphabet) then none
    else some (outside, items)
  | .group _ on off body :: _ => leadingSet? (flags.within on off) body
  | _ => none

/-- Whether a match may start with a character, as far as the set tells that it would start with. -/
def Parsed.mayStart (parsed : Parsed) (text : Subject) (position : Nat) : Bool :=
  if (widthOf parsed.items).least = 0 then true
  else match leadingSet? parsed.flags parsed.items with
    | none => true
    | some (outside, items) =>
      charIs text (setHas parsed.flags.alphabet outside items) position

/-- Whether a pattern matches from a position. -/
def Parsed.matchesAt (parsed : Parsed) (text : Subject) (position : Nat) : Bool :=
  (runSequence text parsed.flags parsed.items (.start parsed.groups position) some).isSome

/-- Whether a pattern is found in a text. -/
def Parsed.foundIn (parsed : Parsed) (text : List Char) : Bool :=
  let subject := text.toArray
  (List.range (subject.size + 1)).any fun position =>
    parsed.mayStart subject position && parsed.matchesAt subject position

end Pattern

/-- A pattern: its text, and what the text compiles to. -/
structure Pattern where
  source : String
  parsed : Pattern.Parsed
  compiled : Pattern.compile source.toList = .ok parsed

namespace Pattern

/-- The pattern that a text writes. -/
def ofSource (source : String) : Except Refusal Pattern :=
  match h : compile source.toList with
  | .ok parsed => .ok ⟨source, parsed, h⟩
  | .error e => .error e

/-- Whether a pattern is found anywhere in a text. -/
def isFoundIn (p : Pattern) (text : String) : Bool := p.parsed.foundIn text.toList

theorem source_of_ofSource {source : String} {p : Pattern} (h : ofSource source = .ok p) :
    p.source = source := by
  unfold ofSource at h
  split at h
  · obtain rfl := Except.ok.inj h
    rfl
  · cases h

/-- The text of a pattern compiles to the pattern. -/
theorem ofSource_source (p : Pattern) : ofSource p.source = .ok p := by
  obtain ⟨source, parsed, h⟩ := p
  unfold ofSource
  split
  · rename_i parsed' h'
    obtain rfl : parsed' = parsed := by
      have := h'.symm.trans h
      injection this
    rfl
  · rename_i e h'
    exact absurd (h'.symm.trans h) (by simp)

end Pattern

end ChatRiddles
