import ChatRiddles.Proofs.EscapeOutcomes
/-!
# Where reading a pattern breaks down

The readers of parentheses, repetitions and the whole pattern are followed like those of escapes.
Breakdowns come from the bounds of repetitions, from codes of characters, from parentheses that are
open and from patterns inside each other, and at the end from the flags of the whole pattern, which
all stand in parentheses of the text.

Main statement: `Pattern.shownIn_of_ofSource`.
-/

namespace ChatRiddles.Pattern

open Text Number

variable {text : List Char} {s : List Token} {bad : Breakdown → Prop} {r : Reading}
  {start opened : Nat}

/-! ## Flags -/

/-- How reading goes on: every flag of the whole pattern that is new is in the text, no more than so
many parentheses have been opened, and nothing that has been read is nested more deeply. -/
structure Reading.Next (opened : Nat) (text : List Char) (r r' : Reading) : Prop where
  flags : ∀ flag ∈ r'.groups.flags, flag ∈ r.groups.flags ∨ FlagIn flag text
  frames : r'.frames.length ≤ r.frames.length + opened
  within : ∀ k, r.Within k → r'.Within k

namespace Reading.Next

/-- Reading may go on with nothing read. -/
theorem refl : r.Next opened text r :=
  ⟨fun _ hflag => .inl hflag, Nat.le_add_right _ _, fun _ h => h⟩

/-- An item that opens no call may be pushed anywhere. -/
theorem push {n : Node} (hn : n.calls = 0) : r.Next opened text (r.push n) :=
  ⟨fun _ hflag => .inl hflag, Nat.le_add_right _ _, fun _ h => h.push hn⟩

end Reading.Next

/-- Reading goes on with what is left. -/
def Goes (opened : Nat) (text : List Char) (r : Reading) {s : List Token}
    (x : Reading × Tail s) : Prop :=
  Leaves x ∧ r.Next opened text x.1

/-- What goes on with what follows a token goes on with what follows it and the token. -/
theorem Goes.cons {t : Token} {x : Reading × Tail s} (h : Goes opened text r x) :
    Goes opened text r (x.1, Tail.cons t x.2) :=
  ⟨List.IsSuffix.trans h.1 (List.suffix_cons _ _), h.2⟩

/-- No more parentheses than so many are closed, open or still to be read, and those that are closed
account for what has been read. -/
def Reading.Holds (total : Nat) (r : Reading) (s : List Token) : Prop :=
  ∃ k, r.Within k ∧ k + r.frames.length + (textOf s).count '(' ≤ total

/-- A step goes on with what is left; every flag of the whole pattern that is new is in the text,
and there are no more parentheses than before. -/
structure Steps (total : Nat) (text : List Char) (r : Reading) {s : List Token}
    (x : Reading × Tail s) : Prop where
  leaves : Leaves x
  flags : ∀ flag ∈ x.1.groups.flags, flag ∈ r.groups.flags ∨ FlagIn flag text
  holds : x.1.Holds total x.2.1

variable {total : Nat} {t : Token}

/-- What is left of a text has no more parentheses than the text. -/
theorem count_textOf_le {rest : List Token} (h : rest <:+ s) :
    (textOf rest).count '(' ≤ (textOf s).count '(' := (textOf_suffix h).sublist.count_le '('

/-- What goes on after a token is a step, if the token opens the parentheses that are opened. -/
theorem Goes.steps {x : Reading × Tail s} (hx : Goes opened text r x)
    (hopened : opened ≤ t.chars.count '(') (h : r.Holds total (t :: s)) :
    Steps total text r x := by
  obtain ⟨hleaves, hflags, hframes, hwithin⟩ := hx
  obtain ⟨k, hk, htotal⟩ := h
  refine ⟨hleaves, hflags, k, hwithin k hk, ?_⟩
  have hleft := count_textOf_le hleaves
  rw [textOf_cons, List.count_append] at htotal
  omega

/-- A check has no room for so many calls. -/
def NoRoom (room calls : Nat) (b : Breakdown) : Prop := b = .nestedTooDeeply ∧ room < calls

/-- If there is no room for some calls, there is none for more. -/
theorem NoRoom.mono {room calls more : Nat} {b : Breakdown} (h : NoRoom room calls b)
    (hle : calls ≤ more) : NoRoom room more b := ⟨h.1, Nat.lt_of_lt_of_le h.2 hle⟩

/-- A check in a call of its own needs one call more. -/
theorem yields_nested {room calls : Nat} {check : Except Refusal Unit}
    (h : Yields (fun _ => True) (NoRoom (room - 1) calls) check) :
    Yields (fun _ => True) (NoRoom room (calls + 1)) (nested room check) := by
  unfold nested
  split
  · rename_i hroom
    exact ⟨rfl, hroom ▸ Nat.succ_pos _⟩
  · exact h.mono (fun _ h => h) fun b hb => ⟨hb.1, by have := hb.2; omega⟩

mutual

/-- Checking an item breaks down only where there is no room for its calls. -/
theorem yields_check (template : Bool) (room : Nat) (n : Node) :
    Yields (fun _ => True) (NoRoom room n.calls) (n.check template room) := by
  cases n with
  | code n => exact .ok trivial
  | otherThan n => exact .ok trivial
  | any => exact .ok trivial
  | set outside items => exact .ok trivial
  | place p => exact .ok trivial
  | backreference number width => exact .ok trivial
  | group number on off body =>
    rw [Node.check, Node.calls]
    exact yields_nested (yields_checkSequence template _ body)
  | atomic body =>
    rw [Node.check, Node.calls]
    exact yields_nested (yields_checkSequence template _ body)
  | repeated greed least most body =>
    rw [Node.check, Node.calls]
    split
    · trivial
    · exact yields_nested (yields_checkSequence template _ body)
  | choice alternatives =>
    rw [Node.check, Node.calls]
    exact yields_checkChoice template room alternatives
  | look behind absent body =>
    rw [Node.calls]
    cases behind with
    | none =>
      rw [Node.check]
      exact yields_nested (yields_checkSequence template _ body)
    | some w =>
      rw [Node.check]
      split
      · trivial
      · split
        · trivial
        · exact yields_nested (yields_checkSequence template _ body)
  | conditional number yes no =>
    cases no with
    | none =>
      rw [Node.check, Node.calls]
      exact yields_nested (yields_checkSequence template _ yes)
    | some no =>
      rw [Node.check, Node.calls]
      refine Yields.bind ((yields_nested (yields_checkSequence template _ yes)).mono
        (fun _ h => h) fun b hb => ?_) fun _ _ => ?_
      · exact hb.mono (Nat.succ_le_succ (Nat.le_max_left _ _))
      · refine (yields_nested (yields_checkSequence template _ no)).mono (fun _ h => h) ?_
        exact fun b hb => hb.mono (Nat.succ_le_succ (Nat.le_max_right _ _))

/-- Checking a sequence of items breaks down only where its calls have no room. -/
theorem yields_checkSequence (template : Bool) (room : Nat) (items : List Node) :
    Yields (fun _ => True) (NoRoom room (callsOf items)) (checkSequence template room items) := by
  cases items with
  | nil => exact .ok trivial
  | cons n rest =>
    rw [checkSequence, callsOf]
    refine Yields.bind ((yields_check template room n).mono (fun _ h => h) fun b hb => ?_)
      fun _ _ => ?_
    · exact hb.mono (Nat.le_max_left _ _)
    · refine (yields_checkSequence template room rest).mono (fun _ h => h) ?_
      exact fun b hb => hb.mono (Nat.le_max_right _ _)

theorem yields_checkChoice (template : Bool) (room : Nat) (alternatives : List (List Node)) :
    Yields (fun _ => True) (NoRoom room (callsOfChoice alternatives))
      (checkChoice template room alternatives) := by
  cases alternatives with
  | nil => exact .ok trivial
  | cons a rest =>
    rw [checkChoice, callsOfChoice]
    refine Yields.bind ((yields_nested (yields_checkSequence template _ a)).mono
      (fun _ h => h) fun b hb => ?_) fun _ _ => ?_
    · exact hb.mono (Nat.le_max_left _ _)
    · refine (yields_checkChoice template room rest).mono (fun _ h => h) ?_
      exact fun b hb => hb.mono (Nat.le_max_right _ _)

end

end ChatRiddles.Pattern
