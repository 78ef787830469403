import ChatRiddles.Bot.Command
import Mathlib.Data.List.TakeWhile
/-!
# How commands are written

A command is written as a slash, a name, perhaps the address of a bot, and perhaps a tail. The name
is not empty and has neither a space nor an at sign in it; the address starts with an at sign and
has no space in it; the tail starts with a space. So the first space ends the address, the first at
sign before it ends the name, and no text is written in two ways.

What is read from such a text is the name in lower case, and the tail without the blanks at its ends
as the arguments. The address is not read. In the tail at signs and slashes are characters like
others, which stand in the arguments and nowhere else.

Main definition: `Command.Spells`. Main statement: `Command.read_iff_spelled`.
-/

namespace ChatRiddles

namespace Text

/-! ## Texts in lower case and without blanks -/

/-- Lower case leaves no text empty that was not. -/
theorem lower_eq_nil_iff {cs : List Char} : lower cs = [] ↔ cs = [] := by
  constructor
  · intro h
    cases cs with
    | nil => rfl
    | cons c rest =>
      -- a character has one or two characters as its lower-case form
      have hfirst := (List.append_eq_nil_iff.mp h).1
      split at hfirst
      · cases hfirst
      · split at hfirst
        · cases hfirst
        · cases hfirst
  · rintro rfl
    rfl

theorem strip_cons {c : Char} (h : isBlank c = true) (cs : List Char) :
    strip (c :: cs) = strip cs := by
  unfold strip trimBy
  rw [List.dropWhile_cons_of_pos h]

/-- Where characters are exchanged, but blanks only for blanks, the same are stripped. -/
theorem strip_map {f : Char → Char} (h : ∀ c, isBlank (f c) = isBlank c) (cs : List Char) :
    strip (cs.map f) = (strip cs).map f := by
  have hsame : isBlank ∘ f = isBlank := funext h
  unfold strip trimBy dropWhileEnd
  rw [List.dropWhile_map, hsame, ← List.map_reverse, List.dropWhile_map, hsame, ← List.map_reverse]

/-! ## Texts up to a character -/

section Until

variable {a : Char} {front rest : List Char}

/-- Nothing, or something that starts with a character. -/
def StartsAt (a : Char) (rest : List Char) : Prop := rest = [] ∨ ∃ more, rest = a :: more

/-- Up to the first mark stands what has no mark in it. -/
theorem takeWhile_until (hfront : a ∉ front) (hrest : StartsAt a rest) :
    (front ++ rest).takeWhile (· ≠ a) = front := by
  have hne : ∀ c ∈ front, decide (c ≠ a) = true := by
    intro c hc
    apply decide_eq_true
    intro heq
    exact hfront (heq ▸ hc)
  rw [List.takeWhile_append_of_pos hne]
  rcases hrest with rfl | ⟨more, rfl⟩
  · exact List.append_nil front
  · rw [List.takeWhile_cons_of_neg (by simp), List.append_nil]

/-- From the first mark on stands the rest. -/
theorem dropWhile_until (hfront : a ∉ front) (hrest : StartsAt a rest) :
    (front ++ rest).dropWhile (· ≠ a) = rest := by
  have hsplit : (front ++ rest).takeWhile (· ≠ a) ++ (front ++ rest).dropWhile (· ≠ a) =
      front ++ rest := List.takeWhile_append_dropWhile
  rw [takeWhile_until hfront hrest] at hsplit
  exact List.append_cancel_left hsplit

theorem not_mem_takeWhile (a : Char) (cs : List Char) : a ∉ cs.takeWhile (· ≠ a) := by
  intro h
  have hne : decide (a ≠ a) = true := List.mem_takeWhile_imp (p := (· ≠ a)) h
  exact of_decide_eq_true hne rfl

theorem startsAt_dropWhile (a : Char) (cs : List Char) : StartsAt a (cs.dropWhile (· ≠ a)) := by
  have hhead := List.head?_dropWhile_not (· ≠ a) cs
  cases hrest : cs.dropWhile (· ≠ a) with
  | nil => exact .inl rfl
  | cons c more =>
    rw [hrest] at hhead
    have hc : c = a := by simpa using hhead
    exact .inr ⟨more, by rw [hc]⟩

end Until

end Text

namespace Command

open Text

/-! ## The parts of a command -/

/-- Nothing, or the address of a bot: an at sign and characters other than a space. -/
def IsAddress (address : String) : Prop :=
  address = "" ∨ ∃ bot, address = "@" ++ bot ∧ ∀ c ∈ bot.toList, c ≠ ' '

/-- A text is a slash, a name, an address and a tail, the last two of which may be empty. -/
structure Spells (name address tail text : String) : Prop where
  text_eq : text = "/" ++ name ++ address ++ tail
  name_ne : name ≠ ""
  name_chars : ∀ c ∈ name.toList, c ≠ ' ' ∧ c ≠ '@'
  address_form : IsAddress address
  tail_form : tail = "" ∨ ∃ more, tail = " " ++ more

section Parts

variable {name address tail text : String}

/-- The characters of a spelled command are those of its parts. -/
theorem Spells.toList_eq (h : Spells name address tail text) :
    text.toList = '/' :: (name.toList ++ address.toList ++ tail.toList) := by
  rw [h.text_eq]
  simp only [String.toList_append]
  rfl

theorem Spells.startsAt_address (h : Spells name address tail text) :
    StartsAt '@' address.toList := by
  rcases h.address_form with rfl | ⟨bot, rfl, -⟩
  · exact .inl rfl
  · exact .inr ⟨bot.toList, String.toList_append⟩

theorem Spells.startsAt_tail (h : Spells name address tail text) :
    StartsAt ' ' tail.toList := by
  rcases h.tail_form with rfl | ⟨more, rfl⟩
  · exact .inl rfl
  · exact .inr ⟨more.toList, String.toList_append⟩

theorem Spells.at_not_mem (h : Spells name address tail text) : '@' ∉ name.toList := by
  intro hc
  exact (h.name_chars '@' hc).2 rfl

/-- The name and the address end before the tail. -/
theorem Spells.space_not_mem (h : Spells name address tail text) :
    ' ' ∉ name.toList ++ address.toList := by
  intro hc
  rcases List.mem_append.mp hc with hc | hc
  · exact (h.name_chars ' ' hc).1 rfl
  · rcases h.address_form with rfl | ⟨bot, rfl, hbot⟩
    · cases hc
    · rw [String.toList_append] at hc
      rcases List.mem_append.mp hc with hc | hc
      · exact absurd hc (by decide)
      · exact hbot ' ' hc rfl

/-- The parts of a command can be read off its text, so there is one way to take it apart. -/
theorem Spells.unique {name' address' tail' : String} (h : Spells name address tail text)
    (h' : Spells name' address' tail' text) :
    name' = name ∧ address' = address ∧ tail' = tail := by
  have hparts : name'.toList ++ address'.toList ++ tail'.toList =
      name.toList ++ address.toList ++ tail.toList :=
    (List.cons.inj (h'.toList_eq.symm.trans h.toList_eq)).2
  -- both heads end at the first space
  have hhead : name'.toList ++ address'.toList = name.toList ++ address.toList := by
    rw [← takeWhile_until h'.space_not_mem h'.startsAt_tail, hparts,
      takeWhile_until h.space_not_mem h.startsAt_tail]
  have htail : tail'.toList = tail.toList := by
    rw [hhead] at hparts
    exact List.append_cancel_left hparts
  -- both names end at the first at sign of the head
  have hname : name'.toList = name.toList := by
    rw [← takeWhile_until h'.at_not_mem h'.startsAt_address, hhead,
      takeWhile_until h.at_not_mem h.startsAt_address]
  have haddress : address'.toList = address.toList := by
    rw [hname] at hhead
    exact List.append_cancel_left hhead
  exact ⟨String.toList_inj.mp hname, String.toList_inj.mp haddress, String.toList_inj.mp htail⟩

/-! ## What is read from them -/

/-- What is read from a text that is written as a command. -/
theorem Spells.read (h : Spells name address tail text) :
    ofText? text =
      some ⟨String.ofList (lower name.toList), String.ofList (strip tail.toList)⟩ := by
  have hhead := takeWhile_until h.space_not_mem h.startsAt_tail
  have hrest := dropWhile_until h.space_not_mem h.startsAt_tail
  have hname := takeWhile_until h.at_not_mem h.startsAt_address
  have hlower : (lower name.toList).isEmpty = false := by
    rw [List.isEmpty_eq_false_iff, ne_eq, lower_eq_nil_iff]
    intro hnil
    exact h.name_ne (String.toList_inj.mp hnil)
  -- the space that starts the tail is a blank, so it does not matter that it is dropped
  have hstrip : strip (tail.toList.drop 1) = strip tail.toList := by
    rcases h.startsAt_tail with htail | ⟨more, htail⟩
    · rw [htail]
      rfl
    · rw [htail, strip_cons (by decide)]
      rfl
  unfold Command.ofText?
  rw [h.toList_eq]
  simp only [ofChars?, hhead, hrest, hname, hstrip, hlower, Bool.false_eq_true, if_false]

/-- A slash and three lists of characters that keep to the rules spell a command. -/
theorem spells_of_chars {name address tail : List Char} (hname : name ≠ []) (hat : '@' ∉ name)
    (haddress : StartsAt '@' address) (hspace : ' ' ∉ name ++ address) (htail : StartsAt ' ' tail)
    (htext : text.toList = '/' :: (name ++ address ++ tail)) :
    Spells (.ofList name) (.ofList address) (.ofList tail) text := by
  refine ⟨?_, ?_, ?_, ?_, ?_⟩
  · apply String.toList_inj.mp
    rw [htext]
    simp only [String.toList_append, String.toList_ofList]
    rfl
  · intro hnil
    apply hname
    rw [← String.toList_ofList (l := name), hnil]
    rfl
  · intro c hc
    rw [String.toList_ofList] at hc
    constructor
    · rintro rfl
      exact hspace (List.mem_append_left address hc)
    · rintro rfl
      exact hat hc
  · rcases haddress with rfl | ⟨bot, rfl⟩
    · exact .inl rfl
    · refine .inr ⟨.ofList bot, ?_, ?_⟩
      · apply String.toList_inj.mp
        simp
      · intro c hc
        rw [String.toList_ofList] at hc
        rintro rfl
        exact hspace (List.mem_append_right name (List.mem_cons_of_mem '@' hc))
  · rcases htail with rfl | ⟨more, rfl⟩
    · exact .inl rfl
    · refine .inr ⟨.ofList more, ?_⟩
      apply String.toList_inj.mp
      simp

/-- A text from which a command is read is written as one. -/
theorem exists_spells (h : (ofText? text).isSome) :
    ∃ name address tail, Spells name address tail text := by
  unfold Command.ofText? ofChars? at h
  split at h
  next rest htext =>
    let head := rest.takeWhile (· ≠ ' ')
    let name := head.takeWhile (· ≠ '@')
    let address := head.dropWhile (· ≠ '@')
    have hhead : name ++ address = head := List.takeWhile_append_dropWhile
    have hrest : head ++ rest.dropWhile (· ≠ ' ') = rest := List.takeWhile_append_dropWhile
    have hname : name ≠ [] := by
      intro hnil
      have hlower : (lower name).isEmpty = true := by
        rw [hnil]
        rfl
      exact absurd h (by rw [if_pos hlower]; exact Bool.false_ne_true)
    refine ⟨_, _, _, spells_of_chars hname (not_mem_takeWhile '@' head)
      (startsAt_dropWhile '@' head) ?_ (startsAt_dropWhile ' ' rest) ?_⟩
    · show ' ' ∉ name ++ address
      rw [hhead]
      exact not_mem_takeWhile ' ' rest
    · show _ = '/' :: (name ++ address ++ _)
      rw [hhead, hrest, htext]
  next => cases h

/-! ## The grammar -/

/-- A command is read from a text if and only if the text is a slash, a name, an address and a tail.
There is one way to take it apart so, and what is read is the name in lower case, with the stripped
tail as the arguments. Another address, or none, is read alike. Behind the space that starts the
tail, at signs and slashes are characters like others: where characters are exchanged there, blanks
for blanks only, they are exchanged in the arguments and nothing else changes. -/
theorem read_iff_spelled (text : String) :
    ((ofText? text).isSome ↔ ∃ name address tail, Spells name address tail text) ∧
      ∀ name address tail, Spells name address tail text →
        ofText? text =
            some ⟨.ofList (lower name.toList), .ofList (strip tail.toList)⟩ ∧
          (∀ name' address' tail', Spells name' address' tail' text →
            name' = name ∧ address' = address ∧ tail' = tail) ∧
          (∀ address', IsAddress address' →
            ofText? ("/" ++ name ++ address' ++ tail) = ofText? text) ∧
          ∀ more f, tail = " " ++ more → (∀ c, isBlank (f c) = isBlank c) →
            ofText? ("/" ++ name ++ address ++ (" " ++ more.map f)) =
              (ofText? text).map fun c => { c with arguments := c.arguments.map f } := by
  refine ⟨⟨exists_spells, ?_⟩, ?_⟩
  · rintro ⟨name, address, tail, h⟩
    rw [h.read]
    rfl
  · intro name address tail h
    have hread := h.read
    refine ⟨hread, fun _ _ _ h' => h.unique h', ?_, ?_⟩
    · intro address' haddress
      have h' : Spells name address' tail ("/" ++ name ++ address' ++ tail) :=
        { h with text_eq := rfl, address_form := haddress }
      rw [h'.read, hread]
    · intro more f htail hf
      have h' : Spells name address (" " ++ more.map f)
          ("/" ++ name ++ address ++ (" " ++ more.map f)) :=
        { h with text_eq := rfl, tail_form := .inr ⟨more.map f, rfl⟩ }
      -- the first space is a blank, before and after the exchange
      have hstrip : ∀ rest : String, strip (" " ++ rest).toList = strip rest.toList := by
        intro rest
        rw [String.toList_append]
        exact strip_cons (by decide) rest.toList
      have hmap : String.ofList (strip (more.map f).toList) =
          (String.ofList (strip more.toList)).map f := by
        apply String.toList_inj.mp
        simp only [String.toList_map, String.toList_ofList, strip_map hf]
      rw [h'.read, hread, htail, hstrip, hstrip, hmap]
      rfl

/-- A command for one bot, with an at sign and a slash in its arguments. -/
theorem read_iff_spelled_addressed :
    let dashed (c : Char) : Char := if c = '@' ∨ c = '/' then '-' else c
    Spells "Start" "@my_bot" " to /a@b " "/Start@my_bot to /a@b " ∧
      ofText? "/Start@my_bot to /a@b " = some ⟨"start", "to /a@b"⟩ ∧
      ofText? "/Start to /a@b " = some ⟨"start", "to /a@b"⟩ ∧
      ofText? "/Start@my_bot to -a-b " = some ⟨"start", "to -a-b"⟩ ∧
      ∀ c, isBlank (dashed c) = isBlank c := by
  intro dashed
  have hspells : Spells "Start" "@my_bot" " to /a@b " "/Start@my_bot to /a@b " :=
    ⟨by decide, by decide, by simp, .inr ⟨"my_bot", by decide, by simp⟩,
      .inr ⟨"to /a@b ", by decide⟩⟩
  have hblank : ∀ c, isBlank (dashed c) = isBlank c := by
    intro c
    show isBlank (if c = '@' ∨ c = '/' then '-' else c) = isBlank c
    split
    next h =>
      rcases h with rfl | rfl
      · decide
      · decide
    next => rfl
  obtain ⟨hread, -, haddress, hexchange⟩ :=
    (read_iff_spelled "/Start@my_bot to /a@b ").2 _ _ _ hspells
  have hread' : ofText? "/Start@my_bot to /a@b " = some ⟨"start", "to /a@b"⟩ :=
    hread.trans (by decide +kernel)
  refine ⟨hspells, hread', ?_, ?_, hblank⟩
  · exact (haddress "" (.inl rfl)).trans hread'
  · have hdashed := hexchange "to /a@b " dashed rfl hblank
    have htext : "/" ++ "Start" ++ "@my_bot" ++ (" " ++ "to /a@b ".map dashed) =
        "/Start@my_bot to -a-b " := by decide +kernel
    rw [htext, hread'] at hdashed
    rw [hdashed]
    decide +kernel

end Parts

end Command

end ChatRiddles
