import ChatRiddles.Proofs.EnteredIntegers
import ChatRiddles.Settings
import Mathlib.Data.List.Forall2
import Mathlib.Data.List.ReduceOption
/-!
# The administrators are the entries of a list

The list of administrators is read entry by entry, and nothing but commas ends an entry. So what one
entry names depends on no other: an entry that is no integer names nobody, and neither drops an
administrator nor adds one. The order of entries, their repetition and the blanks around them do not
matter.

Main definition: `Lists`. Main statement: `admins_are_entries`.
-/

namespace ChatRiddles

open Number Text

variable {cs : List Char} {n : Int}

/-! ## Entries -/

/-- The user of an entry is the integer that is entered between its blanks. -/
theorem AdminEntry.user?_ofChars (cs : List Char) :
    (AdminEntry.ofChars cs).user? = ofText? (strip cs) := by
  unfold AdminEntry.ofChars
  dsimp only
  split
  next hempty =>
    rw [List.isEmpty_iff.mp hempty]
    rfl
  next =>
    cases ofText? (strip cs) with
    | none => rfl
    | some id => rfl

/-- The administrators are the integers among the stripped entries, in order. -/
theorem adminsOf_eq (text : String) :
    adminsOf text = ((splitAt ',' text.toList).map fun cs => ofText? (strip cs)).reduceOption := by
  rw [adminsOf, adminEntries, List.filterMap_map, List.reduceOption, List.filterMap_map]
  congr 1
  funext cs
  exact AdminEntry.user?_ofChars cs

/-- The administrators of a list are those of the lists before and behind a comma. -/
theorem adminsOf_append (before after : String) :
    adminsOf (before ++ "," ++ after) = adminsOf before ++ adminsOf after := by
  have hchars : (before ++ "," ++ after).toList = before.toList ++ ',' :: after.toList := by
    rw [String.toList_append, String.toList_append, List.append_assoc]
    rfl
  rw [adminsOf_eq, adminsOf_eq, adminsOf_eq, hchars, splitAt_append, List.map_append,
    List.reduceOption_append]

/-- Without a comma there is one entry. -/
theorem adminsOf_entry {text : String} (h : ',' ∉ text.toList) :
    adminsOf text = (ofText? (strip text.toList)).toList := by
  rw [adminsOf_eq, splitAt_of_not_mem h, List.map_singleton]
  cases ofText? (strip text.toList) with
  | none => rfl
  | some n => rfl

/-- An entry gives nobody exactly if no integer is entered with it. -/
theorem ofText?_eq_none_iff : ofText? cs = none ↔ ∀ n, ¬ EnteredText cs n := by
  rw [Option.eq_none_iff_forall_ne_some]
  exact forall_congr' fun n => not_congr ofText?_eq_some_iff

/-! ## Lists of entries -/

/-- An entry with the user whom it lists, if it lists one. -/
inductive Lists : List Char → Option Int → Prop where
  -- a number of at most 4300 digits, perhaps with blanks around it
  | user {before after : List Char} {n : Int} (blankBefore : ∀ c ∈ before, isBlank c)
      (blankAfter : ∀ c ∈ after, isBlank c) (short : (naturalText n.natAbs).length ≤ maxDigits) :
      Lists (before ++ integerChars n ++ after) (some n)
  -- anything else without a comma, if no integer is entered with it
  | nobody {cs : List Char} (noComma : ',' ∉ cs) (noInteger : ∀ n, ¬ EnteredText (strip cs) n) :
      Lists cs none

/-- What an entry lists is what the reader finds in it. -/
theorem Lists.ofText?_eq {user : Option Int} (h : Lists cs user) :
    ofText? (strip cs) = user := by
  cases h with
  | @user before after n blankBefore blankAfter short =>
    have hnumeral := enteredNumeral_integerChars short
    have hstrip : strip (before ++ integerChars n ++ after) = integerChars n :=
      trimBy_surrounded blankBefore (fun c hc => not_blank_of_enteredNumeral hnumeral hc) blankAfter
    rw [hstrip, ofText?_eq_some_iff]
    exact ⟨[], _, [], by simp, by simp, by simp, hnumeral⟩
  | nobody noComma noInteger => exact ofText?_eq_none_iff.mpr noInteger

theorem Lists.noComma {user : Option Int} (h : Lists cs user) : ',' ∉ cs := by
  cases h with
  | @user before after n blankBefore blankAfter short =>
    have hblank : ¬ isBlank ',' = true := by decide
    have hnumber : ',' ∉ integerChars n := by
      intro hmem
      exact absurd (mem_integerChars hmem) (by decide)
    rw [List.mem_append, List.mem_append, not_or, not_or]
    exact ⟨⟨fun hmem => hblank (blankBefore _ hmem), hnumber⟩,
      fun hmem => hblank (blankAfter _ hmem)⟩
  | nobody noComma noInteger => exact noComma

/-- The administrators of a list are the users whom its entries list. -/
theorem adminsOf_joinWith {entries : List (List Char)} {users : List (Option Int)}
    (h : List.Forall₂ Lists entries users) :
    adminsOf (.ofList (joinWith [','] entries)) = users.reduceOption := by
  have hread : entries.map (fun cs => ofText? (strip cs)) = users := by
    induction h with
    | nil => rfl
    | cons hentry _ ih => rw [List.map_cons, hentry.ofText?_eq, ih]
  have hcomma : ∀ entry ∈ entries, ',' ∉ entry := by
    induction h with
    | nil => exact fun _ hmem => absurd hmem List.not_mem_nil
    | cons hentry _ ih =>
      exact List.forall_mem_cons.mpr ⟨hentry.noComma, ih (List.cons.inj hread).2⟩
  rw [adminsOf_eq, String.toList_ofList]
  cases h with
  | nil => rfl
  | cons _ _ => rw [splitAt_joinWith (List.cons_ne_nil _ _) hcomma, hread]

/-- The list of administrators is read as the set of its entries. What stands before a comma and
behind it is read on its own. Without a comma, the one who is listed is the integer that is entered
between the blanks, or nobody. And where numbers are listed in any order, with repetitions, with
blanks around them and with entries that are no integers between them, the administrators are
exactly these numbers. -/
theorem admins_are_entries :
    (∀ before after user, user ∈ adminsOf (before ++ "," ++ after) ↔
        user ∈ adminsOf before ∨ user ∈ adminsOf after) ∧
      (∀ text : String, ',' ∉ text.toList →
        (∀ n, EnteredText (strip text.toList) n → ∀ user, user ∈ adminsOf text ↔ user = n) ∧
          ((∀ n, ¬ EnteredText (strip text.toList) n) → ∀ user, user ∉ adminsOf text)) ∧
      ∀ entries users, List.Forall₂ Lists entries users →
        ∀ user, user ∈ adminsOf (.ofList (joinWith [','] entries)) ↔ some user ∈ users := by
  refine ⟨?_, ?_, ?_⟩
  · intro before after user
    rw [adminsOf_append, List.mem_append]
  · intro text hcomma
    rw [adminsOf_entry hcomma]
    constructor
    · intro n hn user
      rw [ofText?_eq_some_iff.mpr hn, Option.toList_some, List.mem_singleton]
    · intro hnone user
      rw [ofText?_eq_none_iff.mpr hnone]
      exact List.not_mem_nil
  · intro entries users h user
    rw [adminsOf_joinWith h, List.reduceOption_mem_iff]

/-- The entries of a team: 5 is listed twice, and -12 between entries that list nobody. -/
def teamEntries : List (List Char) :=
  [[' ', '5'], ['b', 'o', 'b', '\t'], [], ['-', '1', '2', '\u00a0'], ['5', ' ', '5'], ['5']]

/-- A list with other digits, a list with too many underscores, and the list of a team. -/
theorem admins_are_entries_team :
    (∀ user, user ∈ adminsOf " +0\u0663_0 " ↔ user = 30) ∧
      (∀ user, user ∉ adminsOf "3__0") ∧
      ∀ user, user ∈ adminsOf " 5,bob\t,,-12\u00a0,5 5,5" ↔ user = 5 ∨ user = -12 := by
  obtain ⟨-, hentry, hlist⟩ := admins_are_entries
  have hnone : ∀ cs, ofText? (strip cs) = none → ∀ n, ¬ EnteredText (strip cs) n :=
    fun cs => ofText?_eq_none_iff.mp
  refine ⟨?_, ?_, ?_⟩
  · have hthirty : EnteredText (strip " +0\u0663_0 ".toList) 30 :=
      ofText?_eq_some_iff.mp (by decide +kernel)
    exact (hentry " +0\u0663_0 " (by simp)).1 30 hthirty
  · exact (hentry "3__0" (by simp)).2 (hnone _ (by decide +kernel))
  · have hteam : List.Forall₂ Lists teamEntries
        [some 5, none, none, some (-12), none, some 5] := by
      refine .cons ?_ (.cons ?_ (.cons ?_ (.cons ?_ (.cons ?_ (.cons ?_ .nil)))))
      · exact @Lists.user [' '] [] 5 (List.forall_mem_singleton.mpr rfl) (List.forall_mem_nil _)
          (by decide)
      · exact .nobody (by decide) (hnone _ (by decide +kernel))
      · exact .nobody (by decide) (hnone _ (by decide +kernel))
      · exact @Lists.user [] ['\u00a0'] (-12) (List.forall_mem_nil _)
          (List.forall_mem_singleton.mpr rfl) (by decide)
      · exact .nobody (by decide) (hnone _ (by decide +kernel))
      · exact @Lists.user [] [] 5 (List.forall_mem_nil _) (List.forall_mem_nil _) (by decide)
    have htext : " 5,bob\t,,-12\u00a0,5 5,5" = String.ofList (joinWith [','] teamEntries) := by
      decide +kernel
    intro user
    rw [htext, hlist _ _ hteam]
    simp only [List.mem_cons, Option.some_inj, reduceCtorEq, List.not_mem_nil, false_or, or_false]
    omega

end ChatRiddles
