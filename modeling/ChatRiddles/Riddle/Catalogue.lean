import ChatRiddles.Notice
import ChatRiddles.Riddle.Definition
/-!
# The catalogue of riddles

The `RiddleRegistry` keeps riddles under codes, no two under one code, and lists them in the order
in which they were registered. A code is given with the riddle or drawn by `random_code`; what is
drawn and already taken is drawn again.
-/

namespace ChatRiddles

open Text

/-- A riddle. -/
structure Riddle where
  code : String
  name : String
  description : String
  creator : Int
  definition : Definition

/-! ## Random codes -/

/-- The characters of a random code. -/
def codeAlphabet : String := "abcdefghijklmnopqrstuvwxyzABCDEFGHIJKLMNOPQRSTUVWXYZ0123456789"

/-- The number of characters of a random code. -/
def codeLength : Nat := 10

/-- What a draw asks for: an alphabet, and how many characters of it. -/
structure Draw where
  alphabet : String
  length : Nat
  deriving DecidableEq, Repr

/-- The draw of a code. -/
def Draw.ofLength (length : Nat) : Draw := ⟨codeAlphabet, length⟩

/-- Where random codes come from: codes that are known beforehand, then others, which are given by
what is asked for and by the number of the draw, counted from one. The others differ from each
other, so no list of codes has them all. -/
structure CodeSource where
  known : List String
  further : Draw → Nat → String
  drawn : Nat
  different : ∀ d m n, further d m = further d n → m = n

namespace CodeSource

/-- The source that has codes known beforehand and draws longer and longer ones after them. -/
def ofKnown (known : List String) : CodeSource where
  known := known
  further _ n := String.ofList (List.replicate n 'a')
  drawn := 0
  different _ m n h := by
    have hlength := congrArg List.length (String.ofList_injective h)
    rwa [List.length_replicate, List.length_replicate] at hlength

/-- Draws a code. -/
def draw (s : CodeSource) (d : Draw) : String × CodeSource :=
  ((s.known[s.drawn]?).getD (s.further d (s.drawn + 1)), { s with drawn := s.drawn + 1 })

/-- The source after a number of draws. -/
def afterDraws (s : CodeSource) (n : Nat) : CodeSource := { s with drawn := s.drawn + n }

/-- The code that comes after `n` others. -/
def upcoming (s : CodeSource) (n : Nat) : String :=
  ((s.afterDraws n).draw (.ofLength codeLength)).1

theorem upcoming_succ (s : CodeSource) (n : Nat) :
    s.upcoming (n + 1) = (s.afterDraws 1).upcoming n := by
  have hdrawn : s.afterDraws (n + 1) = (s.afterDraws 1).afterDraws n := by
    simp only [afterDraws]
    rw [Nat.add_comm n 1, Nat.add_assoc]
  rw [upcoming, hdrawn, upcoming]

/-- Among codes that differ from each other, one of the first is missing in a list. -/
theorem exists_not_mem {codes : Nat → String} (h : ∀ m n, codes m = codes n → m = n)
    (taken : List String) : ∃ n, n ≤ taken.length ∧ codes n ∉ taken := by
  by_cases hlast : codes taken.length ∈ taken
  · have hlength := List.length_erase_of_mem hlast
    have hpos := List.length_pos_of_mem hlast
    obtain ⟨n, hn, hfree⟩ := exists_not_mem h (taken.erase (codes taken.length))
    have hne : codes n ≠ codes taken.length := fun heq => by
      have hn' : n = taken.length := h _ _ heq
      omega
    exact ⟨n, by omega, fun hmem => hfree ((List.mem_erase_of_ne hne).mpr hmem)⟩
  · exact ⟨taken.length, Nat.le_refl _, hlast⟩
termination_by taken.length

/-- The codes that are known beforehand may all be taken, but not as many others as there are taken
codes, and one more. -/
theorem exists_upcoming_not_mem (s : CodeSource) (taken : List String) :
    ∃ n, n ≤ s.known.length + taken.length ∧ s.upcoming n ∉ taken := by
  have hfurther : ∀ n, s.upcoming (s.known.length + n) =
      s.further (.ofLength codeLength) (s.drawn + (s.known.length + n) + 1) := by
    intro n
    have hbeyond : s.known[s.drawn + (s.known.length + n)]? = none :=
      List.getElem?_eq_none (by omega)
    simp only [upcoming, afterDraws, draw, hbeyond, Option.getD_none]
  have hdifferent : ∀ m n, s.upcoming (s.known.length + m) = s.upcoming (s.known.length + n) →
      m = n := by
    intro m n heq
    rw [hfurther, hfurther] at heq
    have hdraws := s.different _ _ _ heq
    omega
  obtain ⟨n, hn, hfree⟩ := exists_not_mem hdifferent taken
  exact ⟨s.known.length + n, by omega, hfree⟩

/-- Draws at most `tries` codes until one is not taken. -/
def drawWithin (taken : List String) : (tries : Nat) → CodeSource → Option (String × CodeSource)
  | 0, _ => none
  | tries + 1, s =>
    let (code, s') := s.draw (.ofLength codeLength)
    if taken.contains code then drawWithin taken tries s' else some (code, s')

/-- As many draws are enough as reach a code that is free. -/
theorem isSome_drawWithin {taken : List String} {tries n : Nat} {s : CodeSource} (hn : n < tries)
    (h : s.upcoming n ∉ taken) : (drawWithin taken tries s).isSome := by
  induction tries generalizing s n with
  | zero => cases hn
  | succ tries ih =>
    simp only [drawWithin]
    split
    · rename_i htaken
      cases n with
      | zero => exact absurd (List.contains_iff_mem.mp htaken) h
      | succ n =>
        rw [upcoming_succ] at h
        exact ih (Nat.lt_of_succ_lt_succ hn) h
    · rfl

/-- Draws codes until one is not taken. -/
def drawUntil (taken : List String) (s : CodeSource) : String × CodeSource :=
  (drawWithin taken (s.known.length + taken.length + 1) s).get <| by
    obtain ⟨_, hn, hfree⟩ := s.exists_upcoming_not_mem taken
    exact isSome_drawWithin (Nat.lt_succ_of_le hn) hfree

theorem not_taken_of_drawWithin {taken : List String} {tries : Nat} {s s' : CodeSource}
    {code : String} (h : drawWithin taken tries s = some (code, s')) :
    taken.contains code = false := by
  induction tries generalizing s with
  | zero => simp [drawWithin] at h
  | succ tries ih =>
    simp only [drawWithin] at h
    split at h
    · exact ih h
    · rename_i hc
      simp only [Option.some.injEq, Prod.mk.injEq] at h
      rw [← h.1]
      simpa using hc

/-- What is drawn is not taken. -/
theorem not_taken_drawUntil (taken : List String) (s : CodeSource) :
    taken.contains (s.drawUntil taken).1 = false :=
  not_taken_of_drawWithin (Option.some_get _).symm

end CodeSource

/-! ## The catalogue -/

/-- Riddles in the order in which they were registered. -/
structure Catalogue where
  riddles : List Riddle
  distinct : (riddles.map (·.code)).Nodup

namespace Catalogue

/-- No riddles. -/
def empty : Catalogue := ⟨[], List.nodup_nil⟩

/-- The codes of the riddles. -/
def codes (c : Catalogue) : List String := c.riddles.map (·.code)

/-- Whether a code is taken. -/
def contains (c : Catalogue) (code : String) : Bool := c.codes.contains code

/-- The riddle of a code. -/
def get? (c : Catalogue) (code : String) : Option Riddle := c.riddles.find? (·.code == code)

/-- The number of riddles. -/
def size (c : Catalogue) : Nat := c.riddles.length

/-- The catalogue without the riddle of a code. -/
def erase (c : Catalogue) (code : String) : Catalogue where
  riddles := c.riddles.filter (·.code != code)
  distinct := c.distinct.sublist (List.filter_sublist.map _)

/-- The catalogue with one more riddle at the end. -/
def append (c : Catalogue) (r : Riddle) (h : c.contains r.code = false) : Catalogue where
  riddles := c.riddles ++ [r]
  distinct := by
    have hr : r.code ∉ c.riddles.map (·.code) := by
      simpa [contains, codes] using h
    rw [List.map_append, List.nodup_append]
    refine ⟨c.distinct, by simp, ?_⟩
    intro a ha b hb hab
    simp only [List.map_cons, List.map_nil, List.mem_singleton] at hb
    exact hr (hb ▸ hab ▸ ha)

/-- Why a riddle is not registered. -/
inductive RegisterError where
  | taken (code : String)
  deriving DecidableEq, Repr

/-- The wording of a refusal. -/
def RegisterError.message : RegisterError → String
  | .taken code => "Riddle with code " ++ quoted code ++ " already exists"

/-- A riddle without a code. -/
structure Draft where
  name : String
  description : String
  creator : Int
  definition : Definition

/-- The riddle of a draft and a code. -/
def Draft.withCode (d : Draft) (code : String) : Riddle :=
  ⟨code, d.name, d.description, d.creator, d.definition⟩

/-- A riddle that has been registered, and what is left of the source of codes. -/
structure Registered where
  riddle : Riddle
  catalogue : Catalogue
  source : CodeSource

/-- Registers a riddle under a code, or under a code that is drawn. -/
def register (c : Catalogue) (source : CodeSource) (code : Option String) (d : Draft) :
    Except RegisterError Registered :=
  match code with
  | some code =>
    if h : c.contains code = false then
      .ok ⟨d.withCode code, c.append (d.withCode code) h, source⟩
    else .error (.taken code)
  | none =>
    let drawn := source.drawUntil c.codes
    .ok ⟨d.withCode drawn.1, c.append (d.withCode drawn.1) (source.not_taken_drawUntil c.codes),
      drawn.2⟩

/-- What is noted when a riddle has been registered. -/
def Registered.notice (r : Registered) : Notice := .riddleCreated r.riddle.code r.riddle.creator

end Catalogue

end ChatRiddles
