import ChatRiddles.Json.MessageText
import ChatRiddles.Proofs.JsonScalars
import ChatRiddles.Proofs.MessageTexts
/-!
# Reading strings and numbers of messages

However a string or a number is written in the JSON text of a message, the reader takes it for the
string or the number and goes on behind it, if what follows cannot belong to a number. An integer
has to have at most 4300 digits.

Main statements: `Json.MessageText.reads_string`, `Json.MessageText.unsigned_naturalText`,
`Json.MessageText.unsigned_decimal`.
-/

namespace ChatRiddles.Json.MessageText

open Number Text

/-- A part of a text is read as a value, and the rest of the text is left. -/
def Reads {α : Type} {P : List CodePoint → Prop}
    (x : Except Fault (α × { r : List CodePoint // P r })) (a : α) (rest : List CodePoint) : Prop :=
  ∃ h, x = .ok (a, ⟨rest, h⟩)

variable {c e : Char} {p : CodePoint} {cs ds t t' : List Char}
  {ps done letter more r rest start : List CodePoint} {n : Nat}

theorem points_append : points (t ++ t') = points t ++ points t' := List.map_append

/-! ## Strings -/

theorem stringFrom_quote : Reads (stringFrom start done (.char '"' :: r)) done.reverse r := by
  refine ⟨Nat.lt_succ_self _, ?_⟩
  rw [stringFrom.eq_def]
  exact if_pos rfl

/-- A character that is no quote, no backslash and no control character is read as it is. -/
theorem stringFrom_plain (hprintable : 0x20 ≤ c.toNat) (hquote : c ≠ '"') (hbackslash : c ≠ '\\')
    (h : Reads (stringFrom start (.char c :: done) rest) ps r) :
    Reads (stringFrom start done (.char c :: rest)) ps r := by
  have hquote' : CodePoint.char c ≠ .char '"' := fun h => hquote (CodePoint.char.inj h)
  have hbackslash' : CodePoint.char c ≠ .char '\\' := fun h => hbackslash (CodePoint.char.inj h)
  have hcontrol : isControl (.char c) = false := decide_eq_false (Nat.not_lt_of_le hprintable)
  obtain ⟨hr, h⟩ := h
  refine ⟨Nat.lt_succ_of_lt hr, ?_⟩
  rw [stringFrom.eq_def]
  simp only [if_neg hquote', if_neg hbackslash', hcontrol, Bool.false_eq_true, if_false, h]

/-- An escape by a letter is read as the character that it stands for. -/
theorem stringFrom_letter (hu : e ≠ 'u') (he : shortEscape? (.char e) = some c)
    (h : Reads (stringFrom start (.char c :: done) rest) ps r) :
    Reads (stringFrom start done (.char '\\' :: .char e :: rest)) ps r := by
  have hu' : CodePoint.char e ≠ .char 'u' := fun h => hu (CodePoint.char.inj h)
  obtain ⟨hr, h⟩ := h
  refine ⟨Nat.lt_succ_of_lt (Nat.lt_succ_of_lt hr), ?_⟩
  rw [stringFrom, if_neg (by decide), if_pos rfl]
  simp only [if_neg hu', he, h]

/-- An escape by a code is read as the code point of the code. -/
theorem stringFrom_code (hcode : Reads (escapedCode (.char 'u' :: more) more) p rest)
    (h : Reads (stringFrom start (p :: done) rest) ps r) :
    Reads (stringFrom start done (.char '\\' :: .char 'u' :: more)) ps r := by
  obtain ⟨hrest, hcode⟩ := hcode
  obtain ⟨hr, h⟩ := h
  refine ⟨?_, ?_⟩
  · simp only [List.length_cons]
    omega
  · rw [stringFrom, if_neg (by decide), if_pos rfl]
    simp only [hcode, h, if_true]

/-- Four digits that write a number. -/
theorem fourDigits?_of_writes (h : WritesUnit n ds) :
    ∃ w x y z, ds = [w, x, y, z] ∧
      fourDigits? (.char w) (.char x) (.char y) (.char z) = some n := by
  cases h with
  | mk first second third fourth =>
    refine ⟨_, _, _, _, rfl, ?_⟩
    simp only [fourDigits?, first, second, third, fourth]

/-- An escape by code is read as the character of that code. -/
theorem reads_code (h : WritesUnit c.toNat ds) :
    Reads (escapedCode letter (points ds ++ p :: rest)) (.char c) (p :: rest) := by
  obtain ⟨w, x, y, z, rfl, hfour⟩ := fourDigits?_of_writes h
  have hbounds := Utf8.toNat_bounds c
  have hleading : Encoding.isLeading c.toNat = false := by
    simp only [Encoding.isLeading, Bool.and_eq_false_iff, decide_eq_false_iff_not]
    omega
  show Reads (escapedCode letter (.char w :: .char x :: .char y :: .char z :: p :: rest)) _ _
  refine ⟨by simp only [List.length_cons]; omega, ?_⟩
  simp only [escapedCode, hfour, hleading, Utf8.ofNat_toNat]
  rfl

/-- Two escapes are read as the character of a surrogate pair. -/
theorem reads_pair (hn : c.toNat = 0x10000 + n) (high : WritesUnit (0xd800 + n / 0x400) ds)
    {ds' : List Char} (low : WritesUnit (0xdc00 + n % 0x400) ds') :
    Reads (escapedCode letter
      (points ds ++ .char '\\' :: .char 'u' :: (points ds' ++ p :: rest))) (.char c)
      (p :: rest) := by
  obtain ⟨w, x, y, z, rfl, hhigh⟩ := fourDigits?_of_writes high
  obtain ⟨w', x', y', z', rfl, hlow⟩ := fourDigits?_of_writes low
  have hbounds := Utf8.toNat_bounds c
  have hleading : Encoding.isLeading (0xd800 + n / 0x400) = true := by
    simp only [Encoding.isLeading, Bool.and_eq_true, decide_eq_true_eq]
    omega
  have htrailing : Encoding.isTrailing (0xdc00 + n % 0x400) = true := by
    simp only [Encoding.isTrailing, Bool.and_eq_true, decide_eq_true_eq]
    omega
  have hchar : Encoding.joined (0xd800 + n / 0x400) (0xdc00 + n % 0x400) = c := by
    have hcode : (0xd800 + n / 0x400 - 0xd800) * 0x400 + (0xdc00 + n % 0x400 - 0xdc00) + 0x10000 =
        c.toNat := by
      omega
    rw [Encoding.joined, hcode, Char.ofNat_toNat]
  show Reads (escapedCode letter (.char w :: .char x :: .char y :: .char z :: .char '\\' ::
    .char 'u' :: .char w' :: .char x' :: .char y' :: .char z' :: p :: rest)) _ _
  refine ⟨by simp only [List.length_cons]; omega, ?_⟩
  simp only [escapedCode, hhigh, hleading, if_true, secondHalf, hlow, htrailing, hchar]

/-- However a character is written, it is read, if the string goes on behind it. -/
theorem stringFrom_char (hc : WritesChar c t)
    (h : Reads (stringFrom start (.char c :: done) rest) ps r) :
    Reads (stringFrom start done (points t ++ rest)) ps r := by
  -- a string does not end before its closing quote
  obtain ⟨q, rest, rfl⟩ : ∃ q rest', rest = q :: rest' := by
    obtain ⟨hr, -⟩ := h
    cases rest with
    | nil => exact absurd hr (Nat.not_lt_zero _)
    | cons q rest => exact ⟨q, rest, rfl⟩
  cases hc with
  | plain hprintable hquote hbackslash => exact stringFrom_plain hprintable hquote hbackslash h
  | @letter l hl =>
    have hletter : l ≠ 'u' ∧ shortEscape? (.char l) = some c := by
      simp only [letterEscapes, List.mem_cons, Prod.mk.injEq, List.not_mem_nil, or_false] at hl
      rcases hl with ⟨rfl, rfl⟩ | ⟨rfl, rfl⟩ | ⟨rfl, rfl⟩ | ⟨rfl, rfl⟩ | ⟨rfl, rfl⟩ | ⟨rfl, rfl⟩ |
        ⟨rfl, rfl⟩ | ⟨rfl, rfl⟩ <;>
      exact ⟨by decide, by decide⟩
    exact stringFrom_letter hletter.1 hletter.2 h
  | code hdigits => exact stringFrom_code (reads_code hdigits) h
  | @pair n digits digits' hn high low =>
    have htext : points ('\\' :: 'u' :: digits ++ '\\' :: 'u' :: digits') ++ q :: rest =
        .char '\\' :: .char 'u' ::
          (points digits ++ .char '\\' :: .char 'u' :: (points digits' ++ q :: rest)) := by
      rw [points_append, List.append_assoc]
      rfl
    rw [htext]
    exact stringFrom_code (reads_pair hn high low) h

/-- The second half of a pair that is not there leaves the first half alone. -/
theorem secondHalf_code {leading : Nat} (h : WritesUnit n ds)
    (hn : Encoding.isTrailing n = false) :
    Reads (secondHalf leading (.char '\\' :: .char 'u' :: (points ds ++ p :: rest)))
      (.ofNat leading) (.char '\\' :: .char 'u' :: (points ds ++ p :: rest)) := by
  obtain ⟨w, x, y, z, rfl, hfour⟩ := fourDigits?_of_writes h
  refine ⟨Nat.le_refl _, ?_⟩
  show secondHalf leading (.char '\\' :: .char 'u' :: .char w :: .char x :: .char y :: .char z ::
    p :: rest) = _
  simp only [secondHalf, hfour, hn]
  rfl

/-- The first half of a pair stays alone where no second escape follows. -/
theorem secondHalf_of_ne {leading : Nat} {s : List CodePoint}
    (hs : ∀ more, s ≠ .char '\\' :: .char 'u' :: more) :
    Reads (secondHalf leading s) (.ofNat leading) s := by
  refine ⟨Nat.le_refl _, ?_⟩
  unfold secondHalf
  split
  · exact absurd rfl (hs _)
  · rfl

/-- No character is the second half of a pair. -/
theorem isTrailing_toNat (c : Char) : Encoding.isTrailing c.toNat = false := by
  have hbounds := Utf8.toNat_bounds c
  simp only [Encoding.isTrailing, Bool.and_eq_false_iff, decide_eq_false_iff_not]
  omega

/-- A first half stands alone before code points that do not begin with a second half. -/
theorem secondHalf_apart {leading : Nat} (h : WritesPoints ps t)
    (hps : ∀ n ∈ ps.head?, ∀ m, n = .surrogate m → ¬ 0x400 ≤ m) :
    Reads (secondHalf leading (points t ++ .char '"' :: r)) (.ofNat leading)
      (points t ++ .char '"' :: r) := by
  have hother : ∀ {c : Char} {s : List CodePoint}, c ≠ '\\' →
      Reads (secondHalf leading (.char c :: s)) (.ofNat leading) (.char c :: s) := by
    intro c s hc
    refine secondHalf_of_ne fun more heq => hc ?_
    exact CodePoint.char.inj (List.cons.inj heq).1
  -- behind the digits of a code there is at least the closing quote
  have hcode : ∀ {n : Nat} {digits t' : List Char}, WritesUnit n digits →
      Encoding.isTrailing n = false →
      Reads (secondHalf leading (points ('\\' :: 'u' :: digits ++ t') ++ .char '"' :: r))
        (.ofNat leading) (points ('\\' :: 'u' :: digits ++ t') ++ .char '"' :: r) := by
    intro n digits t' hdigits hn
    obtain ⟨q, rest, hrest⟩ : ∃ q rest, points t' ++ .char '"' :: r = q :: rest := by
      cases t' with
      | nil => exact ⟨_, _, rfl⟩
      | cons c t' => exact ⟨_, _, rfl⟩
    have htext : points ('\\' :: 'u' :: digits ++ t') ++ .char '"' :: r =
        .char '\\' :: .char 'u' :: (points digits ++ q :: rest) := by
      rw [points_append, List.append_assoc, hrest]
      rfl
    rw [htext]
    exact secondHalf_code hdigits hn
  cases h with
  | nil => exact hother (by decide)
  | cons first _ _ =>
    cases first with
    | @char c t hc =>
      cases hc with
      | plain _ _ hbackslash => exact hother hbackslash
      | @letter l hl =>
        refine secondHalf_of_ne fun more heq => ?_
        have hu : l = 'u' := CodePoint.char.inj (List.cons.inj (List.cons.inj heq).2).1
        rw [hu] at hl
        exact absurd hl (by simp [letterEscapes])
      | code hdigits => exact hcode hdigits (isTrailing_toNat c)
      | @pair n digits digits' hn high low =>
        have hbounds := Utf8.toNat_bounds c
        rw [List.append_assoc]
        refine hcode high ?_
        simp only [Encoding.isTrailing, Bool.and_eq_false_iff, decide_eq_false_iff_not]
        omega
    | @surrogate m digits hdigits =>
      have hm : ¬ 0x400 ≤ m := hps _ rfl m rfl
      refine hcode hdigits ?_
      simp only [Encoding.isTrailing, Bool.and_eq_false_iff, decide_eq_false_iff_not]
      simp only [Fin.le_def] at hm
      omega

/-- A surrogate that is written by its code is read, if it is not the first half of a pair. -/
theorem reads_surrogate {m : Fin 0x800} (h : WritesUnit (0xd800 + m) ds) (hrest : WritesPoints ps t)
    (hapart : ∀ q ∈ ps.head?, ¬ IsPair (.surrogate m) q) :
    Reads (escapedCode letter (points ds ++ (points t ++ .char '"' :: r))) (.surrogate m)
      (points t ++ .char '"' :: r) := by
  obtain ⟨w, x, y, z, rfl, hfour⟩ := fourDigits?_of_writes h
  have hpoint : CodePoint.ofNat (0xd800 + m) = .surrogate m := by
    have hbound : 0xd800 ≤ 0xd800 + m.val ∧ 0xd800 + m.val < 0xe000 := by omega
    rw [CodePoint.ofNat, dif_pos hbound]
    exact congrArg _ (Fin.ext (Nat.add_sub_cancel_left _ _))
  obtain ⟨q, rest, hq⟩ : ∃ q rest, points t ++ .char '"' :: r = q :: rest := by
    cases t with
    | nil => exact ⟨_, _, rfl⟩
    | cons c t => exact ⟨_, _, rfl⟩
  by_cases hleading : Encoding.isLeading (0xd800 + m) = true
  · have hm : m < 0x400 := by
      simp only [Encoding.isLeading, Bool.and_eq_true, decide_eq_true_eq] at hleading
      simp only [Fin.lt_def]
      omega
    have halone : Reads (secondHalf (0xd800 + m) (points t ++ .char '"' :: r))
        (.ofNat (0xd800 + m)) (points t ++ .char '"' :: r) :=
      secondHalf_apart hrest fun q hq n hn hle => hapart q hq (hn ▸ ⟨hm, hle⟩)
    rw [hq] at halone ⊢
    obtain ⟨hle, halone⟩ := halone
    show Reads (escapedCode letter (.char w :: .char x :: .char y :: .char z :: q :: rest)) _ _
    refine ⟨by simp only [List.length_cons]; omega, ?_⟩
    simp only [escapedCode, hfour, hleading, if_true, halone, hpoint]
  · rw [hq]
    show Reads (escapedCode letter (.char w :: .char x :: .char y :: .char z :: q :: rest)) _ _
    refine ⟨by simp only [List.length_cons]; omega, ?_⟩
    simp only [escapedCode, hfour, if_neg hleading, hpoint]

/-- However code points are written before a closing quote, they are read. -/
theorem stringFrom_points (h : WritesPoints ps t) :
    Reads (stringFrom start done (points t ++ .char '"' :: r)) (done.reverse ++ ps) r := by
  induction h generalizing done with
  | nil =>
    rw [List.append_nil]
    exact stringFrom_quote
  | @cons p ps t t' first apart rest ih =>
    have hread := @ih (p :: done)
    rw [List.reverse_cons, List.append_assoc] at hread
    rw [points_append, List.append_assoc]
    cases first with
    | char hc => exact stringFrom_char hc hread
    | surrogate hdigits => exact stringFrom_code (reads_surrogate hdigits rest apart) hread

/-- However a string is written, its code points are read. -/
theorem reads_string (h : WritesPoints ps t) :
    Reads (string (points t ++ .char '"' :: r)) ps r := by
  have hread : Reads (stringFrom (.char '"' :: (points t ++ .char '"' :: r)) []
      (points t ++ .char '"' :: r)) ([].reverse ++ ps) r := stringFrom_points h
  exact hread

/-! ## Numbers -/

/-- What follows cannot belong to a number. -/
def Ends (rest : List CodePoint) : Prop :=
  ∀ p ∈ rest.head?, digit? p = none ∧ p ≠ .char '.' ∧ p ≠ .char 'e' ∧ p ≠ .char 'E'

/-- What follows is no digit. -/
def NoDigit (rest : List CodePoint) : Prop := ∀ p ∈ rest.head?, digit? p = none

theorem Ends.noDigit (h : Ends rest) : NoDigit rest := fun p hp => (h p hp).1

theorem digit?_of_isDigit (h : c.isDigit = true) : digit? (.char c) = some (c.toNat - 0x30) := by
  have hbounds := toNat_of_isDigit h
  show asciiDigit? c = _
  rw [asciiDigit?, if_pos]
  exact hbounds

/-- The values of digits are read up to the end of the number. -/
theorem digitValues_append (hdigits : ∀ c ∈ ds, c.isDigit = true) (hrest : NoDigit rest) :
    digitValues (points ds ++ rest) = digitsIn ds := by
  induction ds with
  | nil =>
    show digitValues rest = []
    cases rest with
    | nil => rfl
    | cons p rest =>
      rw [digitValues, hrest p rfl]
  | cons c ds ih =>
    obtain ⟨hc, hds⟩ := List.forall_mem_cons.mp hdigits
    show digitValues (.char c :: (points ds ++ rest)) = _
    rw [digitValues, digit?_of_isDigit hc]
    exact congrArg _ (ih hds)

theorem afterDigits_append (hdigits : ∀ c ∈ ds, c.isDigit = true) (hrest : NoDigit rest) :
    afterDigits (points ds ++ rest) = rest := by
  have hsome : ∀ p ∈ points ds, (digit? p).isSome = true := by
    intro p hp
    obtain ⟨c, hc, rfl⟩ := List.mem_map.mp hp
    rw [digit?_of_isDigit (hdigits c hc)]
    rfl
  rw [afterDigits, List.dropWhile_append_of_pos hsome]
  cases rest with
  | nil => rfl
  | cons p rest =>
    apply List.dropWhile_cons_of_neg
    rw [hrest p rfl]
    exact Bool.false_ne_true

/-- The integer digits of a number are read. -/
theorem wholeDigits?_naturalText (hrest : NoDigit rest) :
    ∃ h, wholeDigits? (points (naturalText n) ++ rest) =
      some (digitsIn (naturalText n), ⟨rest, h⟩) := by
  by_cases hn : 0 < n
  · obtain ⟨c, cs, hcs, hzero⟩ := DocumentText.naturalText_of_pos hn
    have hdigits := @isDigit_of_mem_naturalText n
    rw [hcs] at hdigits ⊢
    have hcs' := fun d hd => hdigits d (List.mem_cons_of_mem c hd)
    have hvalues := digitValues_append hcs' hrest
    have hafter := afterDigits_append hcs' hrest
    have hzero' : CodePoint.char c ≠ .char '0' := fun h => hzero (CodePoint.char.inj h)
    refine ⟨by simp only [points, List.map_cons, List.cons_append, List.length_cons,
      List.length_append]; omega, ?_⟩
    show wholeDigits? (.char c :: (points cs ++ rest)) = _
    simp only [wholeDigits?, if_neg hzero', digit?_of_isDigit (hdigits c List.mem_cons_self),
      hvalues, hafter]
    rfl
  · obtain rfl : n = 0 := Nat.eq_zero_of_not_pos hn
    exact ⟨Nat.lt_succ_self _, rfl⟩

theorem fraction_of_writes {digits : List Nat} (h : WritesFraction digits t) (hrest : NoDigit rest)
    (hpoint : .char '.' ∉ rest.head?) :
    ∃ h, fraction (points t ++ rest) = (digits, ⟨rest, h⟩) := by
  cases h with
  | none =>
    show ∃ h, fraction rest = ([], ⟨rest, h⟩)
    refine ⟨Nat.le_refl _, ?_⟩
    unfold fraction
    split
    · exact absurd rfl hpoint
    · rfl
  | @some ds hdigits hne =>
    have hvalues := digitValues_append hdigits hrest
    have hafter := afterDigits_append hdigits hrest
    obtain ⟨d, ds, rfl⟩ := List.exists_cons_of_ne_nil hne
    refine ⟨by simp only [points, List.map_cons, List.cons_append, List.length_cons,
      List.length_append]; omega, ?_⟩
    show fraction (.char '.' :: (points (d :: ds) ++ rest)) = _
    unfold fraction
    simp only [hvalues, hafter, digitsIn, List.map_cons]
    rfl

theorem exponent?_of_writes {power : Int} (h : WritesPower power t) (ht : t ≠ [])
    (hrest : NoDigit rest) : ∃ h, exponent? (points t ++ rest) = some (power, ⟨rest, h⟩) := by
  cases h with
  | none => exact absurd rfl ht
  | @some mark negative sign ds hmark hsign hdigits hne =>
    have hvalues := digitValues_append hdigits hrest
    have hafter := afterDigits_append hdigits hrest
    obtain ⟨d, ds, rfl⟩ := List.exists_cons_of_ne_nil hne
    have hmark' : CodePoint.char mark = .char 'e' ∨ CodePoint.char mark = .char 'E' :=
      hmark.imp (congrArg _) (congrArg _)
    have hne : digitsIn (d :: ds) = (d.toNat - 0x30) :: digitsIn ds := rfl
    rw [hne] at hvalues ⊢
    refine ⟨by simp only [points, List.map_append, List.map_cons, List.cons_append,
      List.length_cons, List.length_append, List.append_assoc]; omega, ?_⟩
    simp only [List.mem_cons, Prod.mk.injEq, List.not_mem_nil, or_false] at hsign
    rcases hsign with ⟨rfl, rfl⟩ | ⟨rfl, rfl⟩ | ⟨rfl, rfl⟩
    · -- a digit is no sign
      have hd : ∀ d' : Char, d'.isDigit = false →
          ∀ more', points (d :: ds) ++ rest = .char d' :: more' → False := by
        intro d' hd' more' heq
        have hdigit := hdigits d List.mem_cons_self
        rw [CodePoint.char.inj (List.cons.inj heq).1, hd'] at hdigit
        cases hdigit
      show exponent? (.char mark :: (points (d :: ds) ++ rest)) = _
      rw [exponent?]
      · simp only [if_pos hmark', hvalues, hafter]
        rfl
      · exact hd '-' (by decide)
      · exact hd '+' (by decide)
    · show exponent? (.char mark :: .char '+' :: (points (d :: ds) ++ rest)) = _
      simp only [exponent?, if_pos hmark', hvalues, hafter]
      rfl
    · show exponent? (.char mark :: .char '-' :: (points (d :: ds) ++ rest)) = _
      simp only [exponent?, if_pos hmark', hvalues, hafter]
      rfl

/-- Where a number ends, no power follows. -/
theorem exponent?_of_ends (hrest : Ends rest) : exponent? rest = none := by
  cases rest with
  | nil => rfl
  | cons c rest =>
    obtain ⟨-, -, he, hE⟩ := hrest c rfl
    unfold exponent?
    exact if_neg (not_or.mpr ⟨he, hE⟩)

theorem Ends.not_point (hrest : Ends rest) : .char '.' ∉ rest.head? := fun hpoint =>
  (hrest _ hpoint).2.1 rfl

/-- A fraction starts with no digit, and neither does what follows it. -/
theorem noDigit_fraction {digits : List Nat} (h : WritesFraction digits t) (hrest : NoDigit rest) :
    NoDigit (points t ++ rest) := by
  cases h with
  | none => exact hrest
  | some hdigits hne =>
    intro p hp
    obtain rfl := Option.some.inj hp
    decide

/-- A power starts with no digit and no point. -/
theorem noDigit_power {power : Int} (h : WritesPower power t) (hrest : Ends rest) :
    NoDigit (points t ++ rest) ∧ .char '.' ∉ (points t ++ rest).head? := by
  cases h with
  | none => exact ⟨hrest.noDigit, hrest.not_point⟩
  | @some mark negative sign ds hmark hsign hdigits hne =>
    refine ⟨?_, ?_⟩
    · intro p hp
      obtain rfl := Option.some.inj hp
      rcases hmark with rfl | rfl <;> decide
    · intro hpoint
      have heq : mark = '.' := CodePoint.char.inj (Option.some.inj hpoint)
      rw [heq] at hmark
      exact absurd hmark (by decide)

variable {negative : Bool} {here : List CodePoint}

/-- Digits that nothing follows are an integer, unless there are too many. -/
theorem unsigned_naturalText (hrest : Ends rest) :
    ∃ h, unsigned negative here (points (naturalText n) ++ rest) =
      if maxDigits < (naturalText n).length then failAt here .numberTooLong
      else .ok (.int (signed negative n), ⟨rest, h⟩) := by
  obtain ⟨hlength, hwhole⟩ := @wholeDigits?_naturalText rest n hrest.noDigit
  obtain ⟨hle, hfraction⟩ : ∃ h, fraction rest = ([], ⟨rest, h⟩) :=
    fraction_of_writes .none hrest.noDigit hrest.not_point
  have hexponent := exponent?_of_ends hrest
  have hcount : (digitsIn (naturalText n)).length = (naturalText n).length := List.length_map _
  have hvalue : ofDigits (digitsIn (naturalText n)) = n := ofDigits_naturalText
  refine ⟨hlength, ?_⟩
  unfold unsigned
  simp only [hwhole]
  -- what is read next depends on what has been read, so it is put in its place whole
  generalize fraction rest = x at hfraction ⊢
  subst hfraction
  dsimp only
  generalize exponent? rest = y at hexponent ⊢
  subst hexponent
  simp only [if_true, hcount, hvalue]

/-- An integer within the limit is read, with its sign. -/
theorem unsigned_int (hn : (naturalText n).length ≤ maxDigits) (hrest : Ends rest) :
    Reads (unsigned negative here (points (naturalText n) ++ rest)) (.int (signed negative n))
      rest := by
  obtain ⟨hlength, h⟩ := @unsigned_naturalText rest n negative here hrest
  exact ⟨hlength, h.trans (if_neg (Nat.not_lt_of_le hn))⟩

/-- A number with a fraction, a power or both is read as the number nearest to it. -/
theorem unsigned_decimal {digits : List Nat} {power : Int} (hfraction : WritesFraction digits t)
    (hpower : WritesPower power t') (hsome : t ≠ [] ∨ t' ≠ []) (hrest : Ends rest) :
    Reads (unsigned negative here (points (naturalText n) ++ (points t ++ (points t' ++ rest))))
      (.float (ofDecimalParts negative (digitsIn (naturalText n)) digits power)) rest := by
  obtain ⟨hnodigit, hpoint⟩ := noDigit_power hpower hrest
  obtain ⟨hlength, hwhole⟩ :=
    @wholeDigits?_naturalText (points t ++ (points t' ++ rest)) n
      (noDigit_fraction hfraction hnodigit)
  obtain ⟨hle, hdigits⟩ := fraction_of_writes hfraction hnodigit hpoint
  refine ⟨by simp only [List.length_append] at hlength ⊢; omega, ?_⟩
  unfold unsigned
  simp only [hwhole]
  generalize fraction (points t ++ (points t' ++ rest)) = x at hdigits ⊢
  subst hdigits
  dsimp only
  cases t' with
  | nil =>
    -- without a power there is a fraction, and it has digits
    have hne : digits ≠ [] := by
      cases hfraction with
      | none => exact absurd rfl (hsome.resolve_right (· rfl))
      | some _ hne => exact fun h => hne (List.map_eq_nil_iff.mp h)
    obtain rfl : power = 0 := by
      cases hpower
      rfl
    have hexponent : exponent? (points [] ++ rest) = none := exponent?_of_ends hrest
    generalize exponent? (points [] ++ rest) = y at hexponent ⊢
    subst hexponent
    exact if_neg hne
  | cons mark more =>
    obtain ⟨hle', hexponent⟩ :=
      exponent?_of_writes hpower (List.cons_ne_nil mark more) hrest.noDigit
    generalize exponent? (points (mark :: more) ++ rest) = y at hexponent ⊢
    subst hexponent
    rfl

end ChatRiddles.Json.MessageText
