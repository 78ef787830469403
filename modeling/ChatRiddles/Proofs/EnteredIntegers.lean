import ChatRiddles.Proofs.WrittenIntegers
/-!
# Integers that a person enters

A person may enter an integer with white space around it, a sign, digits of any script, leading
zeros, and single underscores between digits. The digits, without the underscores, are at most 4300.
Which texts are meant is told here by their parts, without a reader; the reader accepts exactly
these texts, and reads the integer that the digits and the sign make up.

Main definition: `Number.EnteredText`. Main statements: `Number.ofText?_eq_some_iff`,
`Number.enteredNumeral_integerChars`.
-/

namespace ChatRiddles.Number

open Text

/-! ## Groups of digits -/

section Groups

variable {digit? : Char → Option Nat} {c : Char} {d : Nat} {cs : List Char} {digits : List Nat}

/-- Groups of digits with an underscore between two of them, and the values of the digits. -/
structure GroupsOf (digit? : Char → Option Nat) (groups : List (List Char)) (cs : List Char)
    (digits : List Nat) : Prop where
  some_group : groups ≠ []
  some_digit : ∀ group ∈ groups, group ≠ []
  joined : cs = joinWith ['_'] groups
  values : groups.flatten.map digit? = digits.map some

/-- A character before joined groups belongs to the first of them. -/
theorem joinWith_cons {sep group joined : List Char} {groups : List (List Char)}
    (h : joinWith sep (group :: groups) = joined) :
    joinWith sep ((c :: group) :: groups) = c :: joined := by
  rw [← h]
  cases groups with
  | nil => rfl
  | cons g gs => rfl

theorem GroupsOf.one (hc : digit? c = some d) : GroupsOf digit? [[c]] [c] [d] where
  some_group := List.cons_ne_nil _ _
  some_digit := by simp
  joined := rfl
  values := by simp [hc]

/-- A digit in front of the first group. -/
theorem GroupsOf.next {group : List Char} {groups : List (List Char)} (hc : digit? c = some d)
    (h : GroupsOf digit? (group :: groups) cs digits) :
    GroupsOf digit? ((c :: group) :: groups) (c :: cs) (d :: digits) where
  some_group := List.cons_ne_nil _ _
  some_digit := by
    intro g hg
    obtain rfl | hg := List.mem_cons.mp hg
    · exact List.cons_ne_nil _ _
    · exact h.some_digit g (List.mem_cons_of_mem _ hg)
  joined := (joinWith_cons h.joined.symm).symm
  values := by
    have hvalues := h.values
    rw [List.flatten_cons] at hvalues ⊢
    rw [List.cons_append, List.map_cons, hvalues, hc]
    rfl

/-- A group of one digit in front of the others. -/
theorem GroupsOf.group {groups : List (List Char)} (hc : digit? c = some d)
    (h : GroupsOf digit? groups cs digits) :
    GroupsOf digit? ([c] :: groups) (c :: '_' :: cs) (d :: digits) where
  some_group := List.cons_ne_nil _ _
  some_digit := by
    intro g hg
    obtain rfl | hg := List.mem_cons.mp hg
    · exact List.cons_ne_nil _ _
    · exact h.some_digit g hg
  joined := by
    rw [h.joined]
    cases groups with
    | nil => exact absurd rfl h.some_group
    | cons g gs =>
      rw [joinWith_cons_cons]
      rfl
  values := by
    rw [List.flatten_cons, List.cons_append, List.nil_append, List.map_cons, h.values, hc]
    rfl

theorem exists_groupsOf (h : groupedDigits? digit? cs = some digits) :
    ∃ groups, GroupsOf digit? groups cs digits := by
  -- the cases are those of the reader
  induction cs using groupedDigits?.induct digit? generalizing digits with
  | case1 => cases h
  | case2 c rest hc =>
    rw [groupedDigits?.eq_2 _ _ _ hc] at h
    cases h
  | case3 c d hd =>
    rw [groupedDigits?.eq_3 _ _ _ hd] at h
    cases h
    exact ⟨_, .one hd⟩
  | case4 c d more hd ih =>
    rw [groupedDigits?.eq_4 _ _ _ _ hd] at h
    obtain ⟨ds, hds, rfl⟩ := Option.map_eq_some_iff.mp h
    obtain ⟨groups, hgroups⟩ := ih hds
    exact ⟨_, hgroups.group hd⟩
  | case5 c d more hnil hmark hd ih =>
    rw [groupedDigits?.eq_5 _ _ _ _ hd hnil hmark] at h
    obtain ⟨ds, hds, rfl⟩ := Option.map_eq_some_iff.mp h
    obtain ⟨groups, hgroups⟩ := ih hds
    cases groups with
    | nil => exact absurd rfl hgroups.some_group
    | cons group groups => exact ⟨_, hgroups.next hd⟩

/-- Groups start with a digit, behind which there is nothing, another digit of its group, or an
underscore and other groups. -/
theorem GroupsOf.cases {groups : List (List Char)} (h : GroupsOf digit? groups cs digits) :
    ∃ c d rest ds, cs = c :: rest ∧ digits = d :: ds ∧ digit? c = some d ∧
      ((rest = [] ∧ ds = []) ∨ (∃ groups', GroupsOf digit? groups' rest ds) ∨
        ∃ more groups', rest = '_' :: more ∧ GroupsOf digit? groups' more ds) := by
  obtain ⟨hgroup, hdigit, rfl, hvalues⟩ := h
  cases groups with
  | nil => exact absurd rfl hgroup
  | cons group groups =>
    obtain ⟨hfirst, hothers⟩ := List.forall_mem_cons.mp hdigit
    cases group with
    | nil => exact absurd rfl hfirst
    | cons c rest =>
      cases digits with
      | nil => cases hvalues
      | cons d ds =>
        rw [List.flatten_cons, List.cons_append, List.map_cons, List.map_cons] at hvalues
        obtain ⟨hc, hvalues⟩ := List.cons.inj hvalues
        refine ⟨c, d, _, ds, joinWith_cons rfl, rfl, hc, ?_⟩
        cases rest with
        | cons c' rest =>
          have hgroups : ∀ g ∈ (c' :: rest) :: groups, g ≠ [] :=
            List.forall_mem_cons.mpr ⟨List.cons_ne_nil _ _, hothers⟩
          exact .inr (.inl ⟨_, List.cons_ne_nil _ _, hgroups, rfl, hvalues⟩)
        | nil =>
          cases groups with
          | nil => exact .inl ⟨rfl, List.map_eq_nil_iff.mp hvalues.symm⟩
          | cons g gs =>
            exact .inr (.inr ⟨_, g :: gs, joinWith_cons_cons, List.cons_ne_nil _ _, hothers, rfl,
              hvalues⟩)

theorem groupedDigits?_of_groupsOf {groups : List (List Char)} (hmark : digit? '_' = none)
    (h : GroupsOf digit? groups cs digits) : groupedDigits? digit? cs = some digits := by
  induction digits generalizing groups cs with
  | nil =>
    obtain ⟨_, _, _, _, -, hnil, -⟩ := h.cases
    cases hnil
  | cons d ds ih =>
    obtain ⟨c, d, rest, ds, rfl, heq, hc, hrest⟩ := h.cases
    obtain ⟨rfl, rfl⟩ := List.cons.inj heq
    rcases hrest with ⟨rfl, rfl⟩ | ⟨groups', h'⟩ | ⟨more, groups', rfl, h'⟩
    · exact groupedDigits?.eq_3 _ _ _ hc
    · -- what follows starts with a digit, so it does not start with an underscore
      obtain ⟨c', d', rest, _, rfl, -, hc', -⟩ := h'.cases
      have hne : ∀ more, c' :: rest = '_' :: more → False := by
        intro more heq
        rw [(List.cons.inj heq).1, hmark] at hc'
        cases hc'
      rw [groupedDigits?.eq_5 _ _ _ _ hc (List.cons_ne_nil _ _) hne, ih h']
      rfl
    · rw [groupedDigits?.eq_4 _ _ _ _ hc, ih h']
      rfl

/-- The characters of groups: digits and underscores. -/
theorem GroupsOf.mem {groups : List (List Char)} (h : GroupsOf digit? groups cs digits) {x : Char}
    (hx : x ∈ cs) : (digit? x).isSome ∨ x = '_' := by
  induction digits generalizing groups cs with
  | nil =>
    obtain ⟨_, _, _, _, -, hnil, -⟩ := h.cases
    cases hnil
  | cons d ds ih =>
    obtain ⟨c, d, rest, ds, rfl, heq, hc, hrest⟩ := h.cases
    obtain ⟨rfl, rfl⟩ := List.cons.inj heq
    obtain rfl | hx := List.mem_cons.mp hx
    · exact .inl (Option.isSome_of_eq_some hc)
    · rcases hrest with ⟨rfl, -⟩ | ⟨_, h'⟩ | ⟨more, _, rfl, h'⟩
      · cases hx
      · exact ih h' hx
      · obtain rfl | hx := List.mem_cons.mp hx
        · exact .inr rfl
        · exact ih h' hx

end Groups

/-! ## Characters of numbers -/

/-- The value of a digit of any script. -/
def scriptDigit? (c : Char) : Option Nat := digitValue? c.toNat

/-- The code points of blanks. -/
def blankPoints : List Nat :=
  [0x09, 0x0a, 0x0b, 0x0c, 0x0d, 0x1c, 0x1d, 0x1e, 0x1f, 0x20, 0x85, 0xa0, 0x1680, 0x2000, 0x2001,
    0x2002, 0x2003, 0x2004, 0x2005, 0x2006, 0x2007, 0x2008, 0x2009, 0x200a, 0x2028, 0x2029, 0x202f,
    0x205f, 0x3000]

/-- The blanks are among a list of code points, so what holds of each of them can be evaluated. -/
theorem mem_blankPoints {c : Char} (h : isBlank c = true) : c.toNat ∈ blankPoints := by
  unfold isBlank at h
  simp only [Bool.or_eq_true, Bool.and_eq_true, decide_eq_true_eq, beq_iff_eq] at h
  simp only [blankPoints, List.mem_cons, List.not_mem_nil, or_false]
  omega

/-- No digit is a blank. -/
theorem isBlank_of_scriptDigit? {c : Char} (h : (scriptDigit? c).isSome) : isBlank c = false := by
  have hall : (blankPoints.all fun n => (digitValue? n).isNone) = true := by decide +kernel
  rw [← Bool.not_eq_true]
  intro hblank
  have hnone := List.all_eq_true.mp hall _ (mem_blankPoints hblank)
  rw [Option.isNone_iff_eq_none] at hnone
  rw [scriptDigit?, hnone] at h
  cases h

/-- The digits of ASCII are digits. -/
theorem scriptDigit?_of_isDigit {c : Char} (h : c.isDigit = true) :
    scriptDigit? c = some (c.toNat - 0x30) := by
  have hall : ((List.range 10).all fun k => digitValue? (0x30 + k) == some k) = true := by
    decide +kernel
  obtain ⟨hlow, hhigh⟩ := toNat_of_isDigit h
  have hk := List.all_eq_true.mp hall (c.toNat - 0x30) (List.mem_range.mpr (by omega))
  rw [beq_iff_eq, Nat.add_sub_cancel' hlow] at hk
  exact hk

/-- A sign that may be left out, and whether it is a minus sign. -/
inductive Sign : List Char → Bool → Prop where
  | none : Sign [] false
  | plus : Sign ['+'] false
  | minus : Sign ['-'] true

/-- Whatever the text is, a sign stands before what is left, perhaps an empty one. -/
theorem exists_sign {cs body : List Char} {negative : Bool}
    (h : splitSign cs = (negative, body)) : ∃ sign, Sign sign negative ∧ cs = sign ++ body := by
  unfold splitSign at h
  split at h
  · cases h
    exact ⟨_, .minus, rfl⟩
  · cases h
    exact ⟨_, .plus, rfl⟩
  · cases h
    exact ⟨_, .none, rfl⟩

theorem splitSign_append {sign body : List Char} {negative : Bool} (h : Sign sign negative)
    (hbody : ∀ c ∈ body.head?, (scriptDigit? c).isSome) :
    splitSign (sign ++ body) = (negative, body) := by
  cases h with
  | none =>
    have hmark : ∀ c, (scriptDigit? c).isNone = true → ∀ rest, body = c :: rest → False := by
      rintro c hc rest rfl
      have hsome := hbody c rfl
      rw [Option.isNone_iff_eq_none.mp hc] at hsome
      cases hsome
    rw [List.nil_append, splitSign.eq_3]
    · exact hmark '-' (by decide +kernel)
    · exact hmark '+' (by decide +kernel)
  | plus => rfl
  | minus => rfl

/-! ## Texts that are read -/

/-- A sign and digits, and the integer that they make up. -/
inductive EnteredNumeral : List Char → Int → Prop where
  -- the sign is followed by groups of at most 4300 digits
  | mk {mark body : List Char} {negative : Bool} {groups : List (List Char)} {digits : List Nat}
      (sign : Sign mark negative) (number : GroupsOf scriptDigit? groups body digits)
      (short : digits.length ≤ maxDigits) :
      EnteredNumeral (mark ++ body) (signed negative (ofDigits digits))

/-- A text with which a person enters an integer: a numeral, perhaps with white space around it. -/
def EnteredText (cs : List Char) (n : Int) : Prop :=
  ∃ before core after, cs = before ++ core ++ after ∧ (∀ c ∈ before, isWhiteSpace c) ∧
    (∀ c ∈ after, isWhiteSpace c) ∧ EnteredNumeral core n

variable {cs : List Char} {n : Int}

/-- A numeral is entered exactly if its parts are read. -/
theorem enteredNumeral_iff :
    EnteredNumeral cs n ↔ ∃ negative body digits, splitSign cs = (negative, body) ∧
      groupedDigits? scriptDigit? body = some digits ∧ digits.length ≤ maxDigits ∧
      n = signed negative (ofDigits digits) := by
  have hmark : scriptDigit? '_' = none := by decide +kernel
  constructor
  · rintro ⟨sign, number, short⟩
    refine ⟨_, _, _, splitSign_append sign ?_, groupedDigits?_of_groupsOf hmark number, short, rfl⟩
    obtain ⟨c, d, rest, ds, rfl, -, hc, -⟩ := number.cases
    intro c' hc'
    rw [← Option.some.inj hc', hc]
    rfl
  · rintro ⟨negative, body, digits, hsplit, hdigits, hshort, rfl⟩
    obtain ⟨mark, hsign, rfl⟩ := exists_sign hsplit
    obtain ⟨groups, hgroups⟩ := exists_groupsOf hdigits
    exact .mk hsign hgroups hshort

/-- No character of a numeral is a blank. -/
theorem not_blank_of_enteredNumeral (h : EnteredNumeral cs n) {c : Char} (hc : c ∈ cs) :
    isBlank c = false := by
  obtain ⟨hsign, hnumber, -⟩ := h
  rcases List.mem_append.mp hc with hc | hc
  · cases hsign with
    | none => cases hc
    | plus =>
      obtain rfl := List.mem_singleton.mp hc
      decide
    | minus =>
      obtain rfl := List.mem_singleton.mp hc
      decide
  · rcases hnumber.mem hc with hdigit | rfl
    · exact isBlank_of_scriptDigit? hdigit
    · decide

/-- The reader takes the white space off and reads a numeral. -/
theorem ofText?_eq_some_iff_trimmed :
    ofText? cs = some n ↔ EnteredNumeral (trimBy isWhiteSpace cs) n := by
  rw [enteredNumeral_iff]
  unfold ofText?
  cases hsplit : splitSign (trimBy isWhiteSpace cs) with
  | mk negative body =>
    dsimp only
    cases hdigits : groupedDigits? (fun c => digitValue? c.toNat) body with
    | none =>
      constructor
      · intro h
        cases h
      · rintro ⟨_, _, digits, heq, hsome, -⟩
        obtain ⟨rfl, rfl⟩ := Prod.mk.inj heq
        cases hdigits.symm.trans hsome
    | some digits =>
      dsimp only
      constructor
      · intro h
        split at h
        next hshort =>
          exact ⟨negative, body, digits, rfl, hdigits, hshort, (Option.some.inj h).symm⟩
        next => cases h
      · rintro ⟨_, _, digits', heq, hsome, hshort, rfl⟩
        obtain ⟨rfl, rfl⟩ := Prod.mk.inj heq
        obtain rfl := Option.some.inj (hdigits.symm.trans hsome)
        rw [if_pos hshort]

/-- The reader finds the integer that is entered, and nothing else. -/
theorem ofText?_eq_some_iff : ofText? cs = some n ↔ EnteredText cs n := by
  rw [ofText?_eq_some_iff_trimmed]
  constructor
  · intro h
    obtain ⟨before, after, heq, hbefore, hafter⟩ := exists_eq_trimBy isWhiteSpace cs
    exact ⟨before, _, after, heq, hbefore, hafter, h⟩
  · rintro ⟨before, core, after, rfl, hbefore, hafter, h⟩
    have hcore : ∀ c ∈ core, isWhiteSpace c = false := by
      intro c hc
      rw [isWhiteSpace, not_blank_of_enteredNumeral h hc, Bool.false_and]
    rw [trimBy_surrounded hbefore hcore hafter]
    exact h

/-- An integer in decimal digits is entered as itself. -/
theorem enteredNumeral_integerChars (hshort : (naturalText n.natAbs).length ≤ maxDigits) :
    EnteredNumeral (integerChars n) n := by
  have hgroups : ∀ m, GroupsOf scriptDigit? [naturalText m] (naturalText m)
      ((naturalText m).map fun c => c.toNat - 0x30) := by
    intro m
    refine ⟨List.cons_ne_nil _ _, ?_, rfl, ?_⟩
    · intro group hgroup
      rw [List.mem_singleton.mp hgroup]
      exact Nat.toDigits_ne_nil
    · rw [List.flatten_cons, List.flatten_nil, List.append_nil, List.map_map]
      apply List.map_congr_left
      intro c hc
      exact scriptDigit?_of_isDigit (isDigit_of_mem_naturalText c hc)
  cases n with
  | ofNat m =>
    have h := EnteredNumeral.mk .none (hgroups m) (by rwa [List.length_map])
    rw [ofDigits_naturalText] at h
    exact h
  | negSucc m =>
    have h := EnteredNumeral.mk .minus (hgroups (m + 1)) (by rwa [List.length_map])
    rw [ofDigits_naturalText] at h
    exact h

end ChatRiddles.Number
