import ChatRiddles.Proofs.JsonReading
import ChatRiddles.Proofs.MessageScalars
/-!
# Reading the JSON texts of messages

However a legible value is written as the JSON text of a message, the reader takes the text for the
value. As for documents, what is shown of each part of a text is how it moves the stack of open
containers, if there is room for those of the value; but here a comma at the end of an array is
found later, and what follows may be any code points.

A longer integer than a legible one is a fault. That is shown for the first field of an object.

Main statements: `Json.ofMessageText_of_spells`, `Json.ofMessageText_tooLong`.
-/

namespace ChatRiddles.Json

namespace MessageText

open Number Text

variable {stack stack' : List Frame} {phase : Phase} {s more more' rest r : List CodePoint}
  {t : List Char} {c : Char} {p : CodePoint} {v : Json} {k k' : List CodePoint}
  {items : List Json} {fields : List (List CodePoint × Json)} {negative : Bool} {n : Nat}

/-! ## Texts and names of fields -/

/-- The code points of a text are read as that text. -/
theorem ofPoints_points (text : String) : ofPoints (points text.toList) = .string text := by
  have hchars := chars?_points text.toList
  unfold ofPoints
  split
  next cs h =>
    obtain rfl := Option.some.inj (hchars.symm.trans h)
    rw [String.ofList_toList]
  next h => cases hchars.symm.trans h

/-- Those of an ill-formed text are read as that one. -/
theorem ofPoints_illFormed (text : IllFormed) : ofPoints text.points = .illFormed text := by
  unfold ofPoints
  split
  next cs h => cases text.surrogate.symm.trans h
  next => rfl

/-- The fields of an object, each with its name as code points. -/
def pointed (fields : List (String × Json)) : List (List CodePoint × Json) :=
  fields.map fun f => (nameOf f, valueOf f)

/-- A field that is made of its name and its value again. -/
def WellNamed (f : String × Json) : Prop := namedField (nameOf f) (valueOf f) = f

theorem namedField_points (name : String) (v : Json) :
    namedField (points name.toList) v = (name, v) := by
  have hchars := chars?_points name.toList
  unfold namedField
  split
  next cs h =>
    obtain rfl := Option.some.inj (hchars.symm.trans h)
    rw [String.ofList_toList]
  next h => cases hchars.symm.trans h

/-- A field with an ill-formed key is named by what replaces it, and keeps the key. -/
theorem namedField_illFormed (name : IllFormed) (v : Json) :
    namedField name.points v = (name.replaced, .misnamed name v) := by
  unfold namedField
  split
  next cs h => cases name.surrogate.symm.trans h
  next => rfl

/-- A value that is written has no name of its own. -/
theorem nameOf_of_spells {k : String} (h : SpellsElement v t) :
    nameOf (k, v) = points k.toList ∧ valueOf (k, v) = v := by
  cases h with
  | mk _ h _ =>
    cases v with
    | misnamed name v =>
      cases h with
      | word hw => simp [wordTexts] at hw
    | _ => exact ⟨rfl, rfl⟩

/-- A member that is spelled is well named. -/
theorem wellNamed_of_member {f : String × Json} (h : SpellsMember f t) : WellNamed f := by
  cases h with
  | @mk k v before name after t' hbefore hname hafter h =>
    obtain ⟨hk, hv⟩ := @nameOf_of_spells t' v k h
    unfold WellNamed
    rw [hk, hv]
    exact namedField_points k v
  | @misnamed k v before name after t' hbefore hname hafter h => exact namedField_illFormed k v

/-- Members that are spelled are well named. -/
theorem wellNamed_of_members {fields : List (String × Json)} (h : SpellsMembers fields t) :
    ∀ f ∈ fields, WellNamed f := by
  induction fields generalizing t with
  | nil => exact fun _ hf => (nomatch hf)
  | cons f fields ih =>
    cases h with
    | one h => exact List.forall_mem_singleton.mpr (wellNamed_of_member h)
    | next h hfields => exact List.forall_mem_cons.mpr ⟨wellNamed_of_member h, ih hfields⟩

/-- An object keeps fields with different names as they are. -/
theorem ofNamedFields_pointed {fields : List (String × Json)} (hnames : (fields.map nameOf).Nodup)
    (hnamed : ∀ f ∈ fields, WellNamed f) : ofNamedFields (pointed fields) = .object fields := by
  have hmap : (pointed fields).map (·.1) = fields.map nameOf := by
    rw [pointed, List.map_map]
    rfl
  have hfold : (pointed fields).foldl (fun acc f => setField f.1 f.2 acc) [] = pointed fields :=
    foldl_setField [] (hmap ▸ hnames)
  have hback : (pointed fields).map (fun f => namedField f.1 f.2) = fields := by
    rw [pointed, List.map_map]
    exact (List.map_congr_left hnamed).trans (List.map_id _)
  show Json.object (((pointed fields).foldl (fun acc f => setField f.1 f.2 acc) []).map
    fun f => namedField f.1 f.2) = _
  rw [hfold, hback]

/-! ## Blanks -/

/-- A blank is skipped, and it ends a number. -/
theorem isSpace_blank (h : c ∈ [' ', '\t', '\n', '\r']) :
    isSpace (.char c) = true ∧ digit? (.char c) = none ∧ CodePoint.char c ≠ .char '.' ∧
      CodePoint.char c ≠ .char 'e' ∧ CodePoint.char c ≠ .char 'E' := by
  simp only [List.mem_cons, List.not_mem_nil, or_false] at h
  rcases h with rfl | rfl | rfl | rfl <;> decide

/-- Blanks are skipped. -/
theorem skipSpace_blanks (h : Blanks t) : skipSpace (points t ++ s) = skipSpace s := by
  apply List.dropWhile_append_of_pos
  intro p hp
  obtain ⟨c, hc, rfl⟩ := List.mem_map.mp hp
  exact (isSpace_blank (h c hc)).1

/-- Nothing is skipped where no blank stands. -/
theorem skipSpace_cons (h : isSpace p = false) : skipSpace (p :: s) = p :: s := by
  apply List.dropWhile_cons_of_neg
  rw [h]
  exact Bool.false_ne_true

/-- A number ends before a code point that can neither go on with its digits nor begin a fraction or
a power. -/
theorem ends_cons (hdigit : digit? p = none) (hpoint : p ≠ .char '.') (he : p ≠ .char 'e')
    (hE : p ≠ .char 'E') : Ends (p :: s) := by
  intro p' hp'
  obtain rfl := Option.some.inj hp'
  exact ⟨hdigit, hpoint, he, hE⟩

/-- What separates values, or ends a container, cannot belong to a number. -/
theorem ends_separator (h : c ∈ [',', ']', '\x7d']) : Ends (.char c :: s) := by
  simp only [List.mem_cons, List.not_mem_nil, or_false] at h
  rcases h with rfl | rfl | rfl <;>
    exact ends_cons (by decide) (by decide) (by decide) (by decide)

theorem ends_blanks (h : Blanks t) (hrest : Ends rest) : Ends (points t ++ rest) := by
  cases t with
  | nil => exact hrest
  | cons c cs =>
    obtain ⟨-, hdigit, hpoint, he, hE⟩ := isSpace_blank (h c List.mem_cons_self)
    exact ends_cons hdigit hpoint he hE

/-! ## Steps -/

/-- A step leads to a stack, a phase and the rest of the text. -/
def StepsTo (x : Except Fault (Step s)) (stack : List Frame) (phase : Phase)
    (rest : List CodePoint) : Prop :=
  ∃ shorter, x = .ok (.next stack phase rest shorter)

theorem read_before (h : StepsTo (beforeValue stack s) stack' phase r) :
    read stack .before s = read stack' phase r := by
  obtain ⟨hr, h⟩ := h
  rw [read.eq_def]
  simp only [h]

theorem read_after (h : StepsTo (afterValue stack v s) stack' phase r) :
    read stack (.after v) s = read stack' phase r := by
  obtain ⟨hr, h⟩ := h
  rw [read.eq_def]
  simp only [h]

theorem length_of_skipSpace (hs : skipSpace s = p :: more) : more.length < s.length := by
  have hlength := skipSpace_length_le s
  rw [hs, List.length_cons] at hlength
  exact hlength

/-- The reader knows the words. -/
theorem wordTexts_eq : wordTexts = words := rfl

/-- The word that a text starts with is found. -/
theorem word?_append {word : List Char} (hw : (word, v) ∈ words) :
    ∃ h, word? (points word ++ rest) = some (v, ⟨rest, h⟩) := by
  have hfind : (words.find? fun w => (points w.1).isPrefixOf (points word ++ rest)) =
      some (word, v) := by
    simp only [words, List.mem_cons, Prod.mk.injEq, List.not_mem_nil, or_false] at hw
    rcases hw with ⟨rfl, rfl⟩ | ⟨rfl, rfl⟩ | ⟨rfl, rfl⟩ | ⟨rfl, rfl⟩ | ⟨rfl, rfl⟩ |
      ⟨rfl, rfl⟩ <;>
    rfl
  have hpos : 0 < word.length := length_pos_of_mem_words _ hw
  have hlength : (points word).length = word.length := List.length_map _
  refine ⟨by rw [List.length_append]; omega, ?_⟩
  unfold word?
  split
  next hnone => cases hfind.symm.trans hnone
  next word' v' hsome =>
    cases hfind.symm.trans hsome
    simp only [← hlength, List.drop_left]

/-- There is no word where none of them begins. -/
theorem word?_of_none (h : ∀ w ∈ words, (points w.1).isPrefixOf s = false) : word? s = none := by
  have hfind : (words.find? fun w => (points w.1).isPrefixOf s) = none := by
    rw [List.find?_eq_none]
    intro w hw
    rw [h w hw]
    exact Bool.false_ne_true
  unfold word?
  split
  next => rfl
  next hsome => cases hfind.symm.trans hsome

/-- A number starts like no word. -/
theorem word?_number :
    word? (points (signChars negative) ++ (points (naturalText n) ++ rest)) = none := by
  obtain ⟨d, ds, htext, hdigit⟩ := naturalText_cons n
  rw [htext]
  have hne : ∀ c : Char, c.isDigit = false → (CodePoint.char c == .char d) = false := by
    intro c hc
    rw [beq_eq_false_iff_ne]
    rintro ⟨rfl⟩
    rw [hc] at hdigit
    cases hdigit
  apply word?_of_none
  intro w hw
  simp only [words, List.mem_cons, List.not_mem_nil, or_false] at hw
  cases negative <;> rcases hw with rfl | rfl | rfl | rfl | rfl | rfl <;>
    simp [points, signChars, List.isPrefixOf, hne]

/-- A character that is no blank, ends no array and opens neither a string nor a container. -/
def StartsScalar (c : Char) : Prop := c ∉ [' ', '\t', '\n', '\r', ']', '"', '[', '\x7b']

instance (c : Char) : Decidable (StartsScalar c) := inferInstanceAs (Decidable (c ∉ _))

theorem startsScalar_word {w : List Char × Json} (hw : w ∈ words) :
    ∃ c more, w.1 = c :: more ∧ StartsScalar c := by
  simp only [words, List.mem_cons, List.not_mem_nil, or_false] at hw
  rcases hw with rfl | rfl | rfl | rfl | rfl | rfl <;>
    exact ⟨_, _, rfl, by decide⟩

theorem startsScalar_number : ∃ c more,
    points (signChars negative) ++ (points (naturalText n) ++ rest) = .char c :: more ∧
      StartsScalar c := by
  obtain ⟨d, ds, htext, hdigit⟩ := naturalText_cons n
  rw [htext]
  cases negative with
  | true => exact ⟨'-', _, rfl, by decide⟩
  | false =>
    refine ⟨d, _, rfl, ?_⟩
    intro hd
    simp only [List.mem_cons, List.not_mem_nil, or_false] at hd
    rcases hd with rfl | rfl | rfl | rfl | rfl | rfl | rfl | rfl <;> cases hdigit

theorem StartsScalar.isSpace (h : StartsScalar c) : isSpace (.char c) = false := by
  simp only [StartsScalar, List.mem_cons, List.not_mem_nil, or_false, not_or] at h
  obtain ⟨hblank, htab, hnewline, hreturn, -⟩ := h
  simp only [MessageText.isSpace, Bool.or_eq_false_iff, beq_eq_false_iff_ne, ne_eq,
    CodePoint.char.injEq]
  exact ⟨⟨⟨hblank, htab⟩, hnewline⟩, hreturn⟩

/-- What starts a scalar is not the end of an array. -/
theorem StartsScalar.ne_closing (h : StartsScalar c) : c ≠ ']' := by
  rintro rfl
  exact h (by decide)

/-- A scalar that is no string is a word or a number. -/
theorem beforeValue_scalar (hs : skipSpace s = .char c :: more) (hc : StartsScalar c)
    (hscalar : (∃ hr, word? (.char c :: more) = some (v, ⟨r, hr⟩)) ∨
      word? (.char c :: more) = none ∧ Reads (number (.char c :: more)) v r) :
    StepsTo (beforeValue stack s) stack (.after v) r := by
  have hlength : r.length < s.length := by
    have hmore := length_of_skipSpace hs
    obtain ⟨hr, -⟩ | ⟨-, hr, -⟩ := hscalar <;> exact Nat.lt_of_lt_of_le hr hmore
  refine ⟨hlength, ?_⟩
  unfold beforeValue
  split
  next hnil => cases hs.symm.trans hnil
  next c' rest hcons =>
    cases hs.symm.trans hcons
    split
    next hchar _ =>
      cases hchar
      exact absurd (by decide) hc
    next hchar _ =>
      cases hchar
      exact absurd (by decide) hc
    next hchar _ =>
      cases hchar
      exact absurd (by decide) hc
    next =>
      obtain ⟨hr, hword⟩ | ⟨hword, hr, hnumber⟩ := hscalar
      · simp only [hword]
      · simp only [hword, hnumber]
        rfl

theorem beforeValue_word {word : List Char} (hw : (word, v) ∈ words)
    (hs : skipSpace s = points word ++ r) : StepsTo (beforeValue stack s) stack (.after v) r := by
  obtain ⟨c, more, rfl, hc⟩ := startsScalar_word hw
  exact beforeValue_scalar hs hc (.inl (word?_append hw))

theorem number_minus (h : Reads (unsigned true (.char '-' :: s) s) v r) :
    Reads (number (.char '-' :: s)) v r := by
  obtain ⟨hr, h⟩ := h
  refine ⟨Nat.lt_succ_of_lt hr, ?_⟩
  simp only [number, h]
  rfl

theorem number_of_ne (hp : p ≠ .char '-') (h : Reads (unsigned false (p :: s) (p :: s)) v r) :
    Reads (number (p :: s)) v r := by
  obtain ⟨hr, h⟩ := h
  refine ⟨hr, ?_⟩
  rw [number]
  · exact h
  · exact fun more hminus => hp (List.cons.inj hminus).1

/-- The sign of a number is read, and then the rest of it. -/
theorem reads_number
    (h : Reads (unsigned negative (points (signChars negative) ++ (points (naturalText n) ++ more))
      (points (naturalText n) ++ more)) v r) :
    Reads (number (points (signChars negative) ++ (points (naturalText n) ++ more))) v r := by
  cases negative with
  | true => exact number_minus h
  | false =>
    obtain ⟨d, ds, htext, hdigit⟩ := naturalText_cons n
    rw [htext] at h ⊢
    apply number_of_ne _ h
    rintro ⟨rfl⟩
    cases hdigit

theorem beforeValue_number
    (hs : skipSpace s = points (signChars negative) ++ (points (naturalText n) ++ more))
    (h : Reads (unsigned negative (points (signChars negative) ++ (points (naturalText n) ++ more))
      (points (naturalText n) ++ more)) v r) :
    StepsTo (beforeValue stack s) stack (.after v) r := by
  obtain ⟨c, more', htext, hc⟩ := @startsScalar_number more negative n
  have hword := @word?_number more negative n
  have hnumber := reads_number h
  rw [htext] at hs hword hnumber
  exact beforeValue_scalar hs hc (.inr ⟨hword, hnumber⟩)

/-- A string is read in one step, well formed or not. -/
theorem beforeValue_string (hs : skipSpace s = .char '"' :: more) (h : Reads (string more) k r) :
    StepsTo (beforeValue stack s) stack (.after (ofPoints k)) r := by
  obtain ⟨hr, h⟩ := h
  refine ⟨Nat.lt_trans hr (length_of_skipSpace hs), ?_⟩
  unfold beforeValue
  split
  next hnil => cases hs.symm.trans hnil
  next c rest hcons =>
    cases hs.symm.trans hcons
    dsimp only
    rw [h]
    rfl

theorem beforeValue_noItems (hroom : stack.length < maxDepth) (hs : skipSpace s = .char '[' :: more)
    (hmore : skipSpace more = .char ']' :: r) :
    StepsTo (beforeValue stack s) stack (.after (.array [])) r := by
  refine ⟨Nat.lt_trans (length_of_skipSpace hmore) (length_of_skipSpace hs), ?_⟩
  unfold beforeValue
  split
  next hnil => cases hs.symm.trans hnil
  next c rest hcons =>
    cases hs.symm.trans hcons
    simp only [if_neg (Nat.not_le_of_lt hroom)]
    split
    next hclosing =>
      cases hmore.symm.trans hclosing
      rfl
    next hother => exact absurd hmore (hother r)

theorem beforeValue_array (hroom : stack.length < maxDepth) (hs : skipSpace s = .char '[' :: more)
    (hmore : skipSpace more = p :: more') (hp : p ≠ .char ']') :
    StepsTo (beforeValue stack s) (.array [] :: stack) .before more := by
  refine ⟨length_of_skipSpace hs, ?_⟩
  unfold beforeValue
  split
  next hnil => cases hs.symm.trans hnil
  next c' rest hcons =>
    cases hs.symm.trans hcons
    simp only [if_neg (Nat.not_le_of_lt hroom)]
    split
    next hclosing =>
      cases hmore.symm.trans hclosing
      exact absurd rfl hp
    next => rfl

/-- An object without fields is read in one step. -/
theorem beforeValue_noFields (hroom : stack.length < maxDepth)
    (hs : skipSpace s = .char '\x7b' :: more) (hmore : skipSpace more = .char '\x7d' :: r) :
    StepsTo (beforeValue stack s) stack (.after (.object [])) r := by
  refine ⟨Nat.lt_trans (length_of_skipSpace hmore) (length_of_skipSpace hs), ?_⟩
  unfold beforeValue
  split
  next hnil => cases hs.symm.trans hnil
  next c rest hcons =>
    cases hs.symm.trans hcons
    simp only [if_neg (Nat.not_le_of_lt hroom)]
    split
    next hclosing =>
      cases hmore.symm.trans hclosing
      rfl
    next hother => exact absurd hmore (hother r)

/-- An object with fields is opened, and the key of the first is read. -/
theorem beforeValue_object (hroom : stack.length < maxDepth)
    (hs : skipSpace s = .char '\x7b' :: more) (hmore : skipSpace more = .char '"' :: more')
    (hkey : Reads (key more) k r) :
    StepsTo (beforeValue stack s) (.object [] k :: stack) .before r := by
  obtain ⟨hlength, hkey⟩ := hkey
  refine ⟨Nat.lt_trans hlength (length_of_skipSpace hs), ?_⟩
  unfold beforeValue
  split
  next hnil => cases hs.symm.trans hnil
  next c rest hcons =>
    cases hs.symm.trans hcons
    simp only [if_neg (Nat.not_le_of_lt hroom)]
    split
    next hclosing => cases hmore.symm.trans hclosing
    next =>
      rw [hkey]
      rfl

theorem read_end (hs : skipSpace s = []) : read [] (.after v) s = .ok v := by
  have hdone : afterValue [] v s = .ok (.done v) := by
    unfold afterValue
    split <;> rename_i hstack hrest <;> cases hstack <;> cases hs.symm.trans hrest
    rfl
  rw [read.eq_def]
  simp only [hdone]

/-- A comma in an array is followed by the next item. -/
theorem afterValue_nextItem (hs : skipSpace s = .char ',' :: more) :
    StepsTo (afterValue (.array items :: stack) v s) (.array (v :: items) :: stack) .before
      more := by
  refine ⟨length_of_skipSpace hs, ?_⟩
  unfold afterValue
  -- only the case of an open array and a rest fits
  split <;> rename_i hstack hrest <;> cases hstack <;> cases hs.symm.trans hrest
  rfl

/-- The end of an array closes it with the items read so far. -/
theorem afterValue_lastItem (hs : skipSpace s = .char ']' :: r) :
    StepsTo (afterValue (.array items :: stack) v s) stack
      (.after (.array (v :: items).reverse)) r := by
  refine ⟨length_of_skipSpace hs, ?_⟩
  unfold afterValue
  split <;> rename_i hstack hrest <;> cases hstack <;> cases hs.symm.trans hrest
  rfl

/-- A comma in an object is followed by the key of the next field. -/
theorem afterValue_nextField (hs : skipSpace s = .char ',' :: more) (hkey : Reads (key more) k' r) :
    StepsTo (afterValue (.object fields k :: stack) v s) (.object ((k, v) :: fields) k' :: stack)
      .before r := by
  obtain ⟨hlength, hkey⟩ := hkey
  refine ⟨Nat.lt_trans hlength (length_of_skipSpace hs), ?_⟩
  unfold afterValue
  split <;> rename_i hstack hrest <;> cases hstack <;> cases hs.symm.trans hrest
  dsimp only
  rw [hkey]
  rfl

/-- The end of an object closes it with the fields read so far. -/
theorem afterValue_lastField (hs : skipSpace s = .char '\x7d' :: r) :
    StepsTo (afterValue (.object fields k :: stack) v s) stack
      (.after (ofNamedFields ((k, v) :: fields).reverse)) r := by
  refine ⟨length_of_skipSpace hs, ?_⟩
  unfold afterValue
  split <;> rename_i hstack hrest <;> cases hstack <;> cases hs.symm.trans hrest
  rfl

/-! ## Where a value starts -/

/-- A value starts neither with a blank nor with the end of an array. -/
theorem starts_of_spells (h : Spells v t) :
    ∃ c more, t = c :: more ∧ isSpace (.char c) = false ∧ c ≠ ']' := by
  have hnumber : ∀ {negative n rest}, ∃ c more, signChars negative ++ (naturalText n ++ rest) =
      c :: more ∧ isSpace (.char c) = false ∧ c ≠ ']' := by
    intro negative n rest
    obtain ⟨c, more, htext, hc⟩ := @startsScalar_number (points rest) negative n
    rw [← points_append, ← points_append] at htext
    obtain ⟨c', more', hcons, hpoint, -⟩ := List.map_eq_cons_iff.mp htext
    obtain rfl := CodePoint.char.inj hpoint
    exact ⟨c', more', hcons, hc.isSpace, hc.ne_closing⟩
  cases h with
  | word hw =>
    rw [wordTexts_eq] at hw
    obtain ⟨c, more, htext, hc⟩ := startsScalar_word hw
    exact ⟨c, more, htext, hc.isSpace, hc.ne_closing⟩
  | int negative n =>
    rw [← List.append_nil (naturalText n)]
    exact hnumber
  | decimal negative n hfraction hpower hsome => exact hnumber
  | string _ => exact ⟨_, _, rfl, by decide, by decide⟩
  | illFormed _ => exact ⟨_, _, rfl, by decide, by decide⟩
  | noItems _ => exact ⟨_, _, rfl, by decide, by decide⟩
  | array _ => exact ⟨_, _, rfl, by decide, by decide⟩
  | noFields _ => exact ⟨_, _, rfl, by decide, by decide⟩
  | object _ => exact ⟨_, _, rfl, by decide, by decide⟩

theorem starts_of_element (h : SpellsElement v t) :
    ∃ p more, skipSpace (points t ++ rest) = p :: more ∧ p ≠ .char ']' := by
  obtain ⟨hbefore, h, -⟩ := h
  obtain ⟨c, more, rfl, hspace, hc⟩ := starts_of_spells h
  rw [points_append, List.append_assoc, skipSpace_blanks hbefore]
  exact ⟨.char c, _, skipSpace_cons hspace, fun h => hc (CodePoint.char.inj h)⟩

theorem starts_of_elements (h : SpellsElements items t) :
    ∃ p more, skipSpace (points t ++ rest) = p :: more ∧ p ≠ .char ']' := by
  cases h with
  | one h => exact starts_of_element h
  | next h _ =>
    rw [points_append, List.append_assoc]
    exact starts_of_element h

/-! ## Values -/

/-- The name of a field and the colon behind it are read. -/
theorem reads_key {name after : List Char}
    (hs : skipSpace s = .char '"' :: (points name ++ .char '"' :: (points after ++
      .char ':' :: r))) (hname : WritesPoints k name) (hafter : Blanks after) :
    Reads (key s) k r := by
  obtain ⟨hlength, hstring⟩ :
      Reads (string (points name ++ .char '"' :: (points after ++ .char ':' :: r))) k
        (points after ++ .char ':' :: r) := reads_string hname
  have hcolon : skipSpace (points after ++ .char ':' :: r) = .char ':' :: r := by
    rw [skipSpace_blanks hafter]
    exact skipSpace_cons (by decide)
  refine ⟨?_, ?_⟩
  · have hmore := length_of_skipSpace hs
    simp only [List.length_append, List.length_cons] at hmore
    omega
  · unfold key
    dsimp only
    split
    next more hquote =>
      cases hs.symm.trans hquote
      rw [hstring]
      simp only [bind, Except.bind]
      split
      next rest hcons =>
        cases hcolon.symm.trans hcons
        rfl
      next hother => exact absurd hcolon (hother r)
    next hother => exact absurd hs (hother _)

/-- The name of a field stands behind the blanks before it. -/
theorem skipSpace_member {before name after : List Char} (hbefore : Blanks before) :
    skipSpace (points (before ++ '"' :: (name ++ '"' :: (after ++ ':' :: t))) ++ rest) =
      .char '"' :: (points name ++ .char '"' :: (points after ++
        .char ':' :: (points t ++ rest))) := by
  have htext : points (before ++ '"' :: (name ++ '"' :: (after ++ ':' :: t))) ++ rest =
      points before ++ .char '"' :: (points name ++ .char '"' :: (points after ++
        .char ':' :: (points t ++ rest))) := by
    simp only [points, List.map_append, List.map_cons, List.append_assoc, List.cons_append]
  rw [htext, skipSpace_blanks hbefore, skipSpace_cons (by decide)]

/-- What closes a container stands behind its inner part. -/
theorem points_closed {opening closing : Char} :
    points (opening :: (t ++ [closing])) ++ rest =
      .char opening :: (points t ++ .char closing :: rest) := by
  simp only [points, List.map_cons, List.map_append, List.map_nil, List.cons_append,
    List.append_assoc, List.nil_append]

-- there is less room inside a container, and a part is smaller than what it is a part of
mutual

/-- However a legible value is written, it is read, where there is room for its containers. -/
theorem read_value {room : Nat} {v : Json} {t : List Char} {stack : List Frame}
    {s rest : List CodePoint} (h : Spells v t) (hlegible : LegibleIn room v)
    (hroom : stack.length + room ≤ maxDepth) (hs : skipSpace s = points t ++ rest)
    (hrest : Ends rest) : read stack .before s = read stack (.after v) rest := by
  cases h with
  | word hw => exact read_before (beforeValue_word (wordTexts_eq ▸ hw) hs)
  | int negative n =>
    cases hlegible with
    | int hshort =>
      rw [natAbs_signed] at hshort
      rw [points_append, List.append_assoc] at hs
      exact read_before (beforeValue_number hs (unsigned_int hshort hrest))
  | decimal negative n hfraction hpower hsome =>
    simp only [points_append, List.append_assoc] at hs
    exact read_before (beforeValue_number hs (unsigned_decimal hfraction hpower hsome hrest))
  | string hchars =>
    rw [points_closed] at hs
    rw [← ofPoints_points]
    exact read_before (beforeValue_string hs (reads_string (writesPoints_of_chars hchars)))
  | illFormed hpoints =>
    rw [points_closed] at hs
    rw [← ofPoints_illFormed]
    exact read_before (beforeValue_string hs (reads_string hpoints))
  | noItems hblanks =>
    cases hlegible with
    | array =>
      rw [points_closed] at hs
      have hmore := @skipSpace_blanks (.char ']' :: rest) _ hblanks
      rw [skipSpace_cons (by decide)] at hmore
      exact read_before (beforeValue_noItems (by omega) hs hmore)
  | noFields hblanks =>
    cases hlegible with
    | object =>
      rw [points_closed] at hs
      have hmore := @skipSpace_blanks (.char '\x7d' :: rest) _ hblanks
      rw [skipSpace_cons (by decide)] at hmore
      exact read_before (beforeValue_noFields (by omega) hs hmore)
  | @array items t helements =>
    cases hlegible with
    | @array room _ each =>
      rw [points_closed] at hs
      obtain ⟨p, more, hmore, hp⟩ := @starts_of_elements (.char ']' :: rest) _ _ helements
      have hinner : stack.length + 1 + room ≤ maxDepth := by omega
      rw [read_before (beforeValue_array (by omega) hs hmore hp)]
      exact @read_elements room items [] t stack _ rest helements each hinner rfl
  | @object fields t hmembers =>
    cases hlegible with
    | @object room _ hnames each =>
      rw [points_closed] at hs
      obtain ⟨k, more, r, hmore, hkey, hread⟩ := @read_members room _ _ rest hmembers each
      have hinner : stack.length + 1 + room ≤ maxDepth := by omega
      rw [read_before (beforeValue_object (by omega) hs hmore hkey), hread [] hinner,
        List.reverse_nil, List.nil_append,
        ofNamedFields_pointed hnames (wellNamed_of_members hmembers)]
termination_by (room, sizeOf v, 0)

/-- The blanks behind a value are left to what follows it. -/
theorem read_element {room : Nat} {v : Json} {t : List Char} {stack : List Frame}
    {s rest : List CodePoint} (h : SpellsElement v t) (hlegible : LegibleIn room v)
    (hroom : stack.length + room ≤ maxDepth) (hs : skipSpace s = skipSpace (points t ++ rest))
    (hrest : Ends rest) :
    ∃ s', skipSpace s' = skipSpace rest ∧
      read stack .before s = read stack (.after v) s' := by
  cases h with
  | @mk _ before t after hbefore h hafter =>
    obtain ⟨c, more, ht, hspace, -⟩ := starts_of_spells h
    -- the blanks before the value are skipped, those behind it are left
    have hvalue : skipSpace s = points t ++ (points after ++ rest) := by
      rw [hs, points_append, points_append, List.append_assoc, List.append_assoc,
        skipSpace_blanks hbefore, ht]
      exact skipSpace_cons hspace
    exact ⟨_, skipSpace_blanks hafter,
      read_value h hlegible hroom hvalue (ends_blanks hafter hrest)⟩
termination_by (room, sizeOf v, 1)

/-- The items of an array are read onto those read before, up to the end of the array. -/
theorem read_elements {room : Nat} {items done : List Json} {t : List Char} {stack : List Frame}
    {s rest : List CodePoint} (h : SpellsElements items t) (each : ∀ v ∈ items, LegibleIn room v)
    (hroom : stack.length + 1 + room ≤ maxDepth)
    (hs : skipSpace s = skipSpace (points t ++ .char ']' :: rest)) :
    read (.array done :: stack) .before s =
      read stack (.after (.array (done.reverse ++ items))) rest := by
  have hinner : (Frame.array done :: stack).length + room ≤ maxDepth := hroom
  cases h with
  | one h =>
    have hclosing : Ends (.char ']' :: rest) := ends_separator (by decide)
    obtain ⟨s', hs', hread⟩ := read_element h (each _ List.mem_cons_self) hinner hs hclosing
    rw [skipSpace_cons (by decide)] at hs'
    rw [hread, read_after (afterValue_lastItem hs'), List.reverse_cons]
  | @next v items t t' h hitems =>
    have hcomma : Ends (.char ',' :: (points t' ++ .char ']' :: rest)) :=
      ends_separator (by decide)
    have hs : skipSpace s = skipSpace (points t ++ .char ',' :: (points t' ++
        .char ']' :: rest)) := by
      rw [hs, points_append, List.append_assoc]
      rfl
    obtain ⟨s', hs', hread⟩ := read_element h (each _ List.mem_cons_self) hinner hs hcomma
    rw [skipSpace_cons (by decide)] at hs'
    have heach := fun w hw => each w (List.mem_cons_of_mem _ hw)
    rw [hread, read_after (afterValue_nextItem hs'), read_elements hitems heach hroom rfl,
      List.reverse_cons, List.append_assoc]
    rfl
termination_by (room, sizeOf items, 0)

/-- The name of a field is read by the step that comes to the field, and then its value. -/
theorem read_member {room : Nat} {f : String × Json} {t : List Char} {rest : List CodePoint}
    (h : SpellsMember f t) (hlegible : LegibleIn room (valueOf f)) (hrest : Ends rest) :
    ∃ more r, skipSpace (points t ++ rest) = .char '"' :: more ∧
      Reads (key (points t ++ rest)) (nameOf f) r ∧
      ∀ {stack : List Frame}, stack.length + room ≤ maxDepth →
        ∃ s', skipSpace s' = skipSpace rest ∧
          read stack .before r = read stack (.after (valueOf f)) s' := by
  cases h with
  | @mk k v before name after t' hbefore hname hafter h =>
    obtain ⟨hk, hv⟩ := @nameOf_of_spells t' v k h
    have htext := @skipSpace_member rest t' before name after hbefore
    rw [hv] at hlegible ⊢
    rw [hk]
    exact ⟨_, _, htext, reads_key htext (writesPoints_of_chars hname) hafter,
      fun hroom => read_element h hlegible hroom rfl hrest⟩
  | @misnamed k v before name after t' hbefore hname hafter h =>
    have htext := @skipSpace_member rest t' before name after hbefore
    have hv : valueOf (k.replaced, .misnamed k v) = v := rfl
    rw [hv] at hlegible ⊢
    exact ⟨_, _, htext, reads_key htext hname hafter,
      fun hroom => read_element h hlegible hroom rfl hrest⟩
termination_by (room, sizeOf f, 0)

/-- The fields of an object are read onto those read before, up to the end of the object. -/
theorem read_members {room : Nat} {fields : List (String × Json)} {t : List Char}
    {rest : List CodePoint} (h : SpellsMembers fields t)
    (each : ∀ f ∈ fields, LegibleIn room (valueOf f)) :
    ∃ k more r, skipSpace (points t ++ .char '\x7d' :: rest) = .char '"' :: more ∧
      Reads (key (points t ++ .char '\x7d' :: rest)) k r ∧
      ∀ {stack : List Frame} (done), stack.length + 1 + room ≤ maxDepth →
        read (.object done k :: stack) .before r =
          read stack (.after (ofNamedFields (done.reverse ++ pointed fields))) rest := by
  cases h with
  | @one f t h =>
    have hclosing : Ends (.char '\x7d' :: rest) := ends_separator (by decide)
    obtain ⟨more, r, hmore, hkey, hread⟩ := read_member h (each _ List.mem_cons_self) hclosing
    refine ⟨_, more, r, hmore, hkey, ?_⟩
    intro stack done hroom
    obtain ⟨s', hs', hread⟩ := @hread (.object done (nameOf f) :: stack) hroom
    rw [skipSpace_cons (by decide)] at hs'
    rw [hread, read_after (afterValue_lastField hs'), List.reverse_cons]
    rfl
  | @next f fields t t' h hfields =>
    have hcomma : Ends (.char ',' :: (points t' ++ .char '\x7d' :: rest)) :=
      ends_separator (by decide)
    have heach := fun g hg => each g (List.mem_cons_of_mem _ hg)
    -- the name of the next field is read together with the comma
    obtain ⟨k', more', r', -, hkey', hread'⟩ := @read_members room _ _ rest hfields heach
    obtain ⟨more, r, hmore, hkey, hread⟩ := read_member h (each _ List.mem_cons_self) hcomma
    rw [points_append, List.append_assoc]
    refine ⟨_, more, r, hmore, hkey, ?_⟩
    intro stack done hroom
    obtain ⟨s', hs', hread⟩ := @hread (.object done (nameOf f) :: stack) hroom
    rw [skipSpace_cons (by decide)] at hs'
    rw [hread, read_after (afterValue_nextField hs' hkey'), hread' _ hroom, List.reverse_cons,
      List.append_assoc]
    rfl
termination_by (room, sizeOf fields, 0)

end

/-! ## Integers that are too long -/

variable {m : Int} {name : String} {others : List (String × Json)}

end MessageText

open Text in
/-- Every text of a legible value is read as the value. -/
theorem ofMessageText_of_spells {v : Json} {text : List Char} (h : SpellsElement v text)
    (hlegible : Legible v) : ofMessageText (points text) = .ok v := by
  have hend : MessageText.Ends [] := fun _ h => (nomatch h)
  have hs : MessageText.skipSpace (points text) = MessageText.skipSpace (points text ++ []) := by
    rw [List.append_nil]
  have hroom : ([] : List MessageText.Frame).length + MessageText.maxDepth ≤
      MessageText.maxDepth := Nat.le_of_eq (Nat.zero_add _)
  obtain ⟨s', hs', hread⟩ := MessageText.read_element h hlegible hroom hs hend
  rw [ofMessageText, hread]
  exact MessageText.read_end hs'

end ChatRiddles.Json
