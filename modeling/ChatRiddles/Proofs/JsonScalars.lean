import ChatRiddles.Json.DocumentText
import ChatRiddles.Proofs.EncodedTexts
import ChatRiddles.Proofs.JsonTexts
/-!
# Reading strings and integers

However a string is written in a JSON text, the reader takes it for the string and goes on behind
its closing quote; and an integer of at most 4300 digits for the integer, if what follows cannot
belong to a number.

Main statements: `Json.DocumentText.reads_string`, `Json.DocumentText.reads_number`.
-/

namespace ChatRiddles.Json.DocumentText

open Number Text

/-- A part of a text is read as a value, and the rest of the text is left. -/
def Reads {α : Type} {P : List UInt8 → Prop} (x : Except Fault (α × { r : List UInt8 // P r }))
    (a : α) (rest : List UInt8) : Prop :=
  ∃ h, x = .ok (a, ⟨rest, h⟩)

variable {b e : UInt8} {c : Char} {read bytes rest more r : List UInt8}
  {cs t digits : List Char} {n : Nat}

/-! ## Bytes of ASCII characters -/

/-- A character of ASCII is encoded as its byte. -/
theorem encode_cons_of_lt (h : c.toNat < 0x80) :
    Utf8.encode (c :: cs) = byte c :: Utf8.encode cs := by
  rw [Utf8.encode_cons, Utf8.encodeChar_of_lt h]
  rfl

theorem toNat_byte (h : c.toNat < 0x80) : (byte c).toNat = c.toNat := by
  rw [byte, UInt8.toNat_ofNat']
  omega

/-- Different characters of ASCII have different bytes. -/
theorem byte_ne {d : Char} (hc : c.toNat < 0x80) (hd : d.toNat < 0x80) (h : c ≠ d) :
    byte c ≠ byte d := by
  intro heq
  apply h
  apply Char.toNat_inj.mp
  rw [← toNat_byte hc, ← toNat_byte hd, heq]

/-! ## Strings -/

theorem stringBytes_quote : Reads (stringBytes read (byte '"' :: r)) read.reverse r := by
  refine ⟨Nat.lt_succ_self _, ?_⟩
  rw [stringBytes.eq_def]
  exact if_pos rfl

/-- Bytes of which none is a quote, a backslash or a control character are read as they are. -/
theorem stringBytes_plain
    (hplain : ∀ b ∈ bytes, b ≠ byte '"' ∧ b ≠ byte '\\' ∧ ¬ b < 0x20) {result : List UInt8}
    (h : Reads (stringBytes (bytes.reverse ++ read) rest) result r) :
    Reads (stringBytes read (bytes ++ rest)) result r := by
  induction bytes generalizing read with
  | nil => exact h
  | cons b bs ih =>
    -- what has been read is kept last first, so the first byte joins it first
    rw [List.reverse_cons, List.append_assoc] at h
    obtain ⟨hr, h⟩ := ih (fun b' hb' => hplain b' (List.mem_cons_of_mem _ hb')) h
    obtain ⟨hquote, hbackslash, hcontrol⟩ := hplain b List.mem_cons_self
    rw [List.cons_append]
    refine ⟨Nat.lt_succ_of_lt hr, ?_⟩
    rw [stringBytes.eq_def]
    simp only [if_neg hquote, if_neg hbackslash, if_neg hcontrol]
    rw [List.singleton_append] at h
    rw [h]

/-- An escape by a letter is read as the byte that it stands for. -/
theorem stringBytes_letter (hu : b ≠ byte 'u') (hb : shortEscape? b = some e)
    (h : Reads (stringBytes (e :: read) rest) bytes r) :
    Reads (stringBytes read (byte '\\' :: b :: rest)) bytes r := by
  obtain ⟨hr, h⟩ := h
  refine ⟨Nat.lt_succ_of_lt (Nat.lt_succ_of_lt hr), ?_⟩
  rw [stringBytes, if_neg (by decide), if_pos rfl]
  simp only [if_neg hu, hb, h]

/-- An escape by a code is read as the bytes of the character. -/
theorem stringBytes_code (hcode : Reads (escapedCode more) c rest)
    (h : Reads (stringBytes ((Utf8.encodeChar c).reverse ++ read) rest) bytes r) :
    Reads (stringBytes read (byte '\\' :: byte 'u' :: more)) bytes r := by
  obtain ⟨hrest, hcode⟩ := hcode
  obtain ⟨hr, h⟩ := h
  refine ⟨?_, ?_⟩
  · simp only [List.length_cons]
    omega
  · rw [stringBytes, if_neg (by decide), if_pos rfl]
    simp only [hcode, h, if_true]

/-- A character that stands for itself has no byte that ends a string or means something else. -/
theorem plain_of_mem_encodeChar (hprintable : 0x20 ≤ c.toNat) (hquote : c ≠ '"')
    (hbackslash : c ≠ '\\') (hb : b ∈ Utf8.encodeChar c) :
    b ≠ byte '"' ∧ b ≠ byte '\\' ∧ ¬ b < 0x20 := by
  by_cases hc : c.toNat < 0x80
  · rw [Utf8.encodeChar_of_lt hc] at hb
    obtain rfl : b = byte c := List.mem_singleton.mp hb
    refine ⟨byte_ne hc (by decide) hquote, byte_ne hc (by decide) hbackslash, ?_⟩
    rw [UInt8.lt_iff_toNat_lt, toNat_byte hc]
    exact Nat.not_lt_of_le hprintable
  · have hlarge : 0x80 ≤ b.toNat := Utf8.le_of_mem_encodeChar (Nat.le_of_not_lt hc) hb
    have hne : ∀ d : UInt8, d.toNat < 0x80 → b ≠ d := by
      intro d hd heq
      rw [heq] at hlarge
      omega
    refine ⟨hne _ (by decide), hne _ (by decide), ?_⟩
    rw [UInt8.lt_iff_toNat_lt]
    show ¬ b.toNat < 0x20
    omega

/-- Hexadecimal digits are characters of ASCII. -/
theorem toNat_lt_of_hexValue? (h : hexValue? c = some n) : c.toNat < 0x80 := by
  unfold hexValue? at h
  split_ifs at h with hdigit hlower hupper
  · exact Nat.lt_of_le_of_lt hdigit.2 (by decide)
  · exact Nat.lt_of_le_of_lt hlower.2 (by decide)
  · exact Nat.lt_of_le_of_lt hupper.2 (by decide)

/-- The byte of a hexadecimal digit has its value. -/
theorem hexByte?_byte (h : hexValue? c = some n) : hexByte? (byte c) = some n := by
  rw [hexByte?, toNat_byte (toNat_lt_of_hexValue? h), Char.ofNat_toNat, h]

/-- Four hexadecimal digits are read as the unit that they write. -/
theorem reads_fourDigits (h : WritesUnit n digits) :
    Reads (fourDigits (Utf8.encode digits ++ rest)) n rest := by
  cases h with
  | mk first second third fourth =>
    rw [encode_cons_of_lt (toNat_lt_of_hexValue? first),
      encode_cons_of_lt (toNat_lt_of_hexValue? second),
      encode_cons_of_lt (toNat_lt_of_hexValue? third),
      encode_cons_of_lt (toNat_lt_of_hexValue? fourth)]
    refine ⟨?_, ?_⟩
    · simp only [List.cons_append, List.length_cons]
      show rest.length < rest.length + 1 + 1 + 1 + 1
      omega
    · simp only [List.cons_append, fourDigits, hexByte?_byte first, hexByte?_byte second,
        hexByte?_byte third, hexByte?_byte fourth]
      rfl

/-- An escape by code is read as the character of that code. -/
theorem reads_code (h : WritesUnit c.toNat digits) :
    Reads (escapedCode (Utf8.encode digits ++ rest)) c rest := by
  have hbounds := Utf8.toNat_bounds c
  obtain ⟨hr, hfour⟩ := @reads_fourDigits rest _ _ h
  refine ⟨hr, ?_⟩
  unfold escapedCode
  simp only [hfour, bind, Except.bind]
  rw [if_neg (by omega), if_neg (by omega), Char.ofNat_toNat]
  rfl

/-- Two escapes are read as the character of a surrogate pair. -/
theorem reads_pair (hn : c.toNat = 0x10000 + n) (high : WritesUnit (0xd800 + n / 0x400) digits)
    {digits' : List Char} (low : WritesUnit (0xdc00 + n % 0x400) digits') :
    Reads (escapedCode (Utf8.encode digits ++ byte '\\' :: byte 'u' ::
      (Utf8.encode digits' ++ rest))) c rest := by
  -- the second escape is recognized by its first two bytes as numbers
  show Reads (escapedCode (_ ++ 0x5c :: 0x75 :: _)) c rest
  have hbounds := Utf8.toNat_bounds c
  have hchar : (0xd800 + n / 0x400 - 0xd800) * 0x400 + (0xdc00 + n % 0x400 - 0xdc00) + 0x10000 =
      c.toNat := by
    omega
  obtain ⟨hr, hhigh⟩ := @reads_fourDigits (0x5c :: 0x75 :: (Utf8.encode digits' ++ rest)) _ _ high
  obtain ⟨hr', hlow⟩ := @reads_fourDigits rest _ _ low
  refine ⟨?_, ?_⟩
  · simp only [List.length_append, List.length_cons] at hr hr' ⊢
    omega
  · unfold escapedCode
    simp only [hhigh, hlow, bind, Except.bind]
    rw [if_neg (by omega), if_pos (by omega), if_pos (by omega), hchar, Char.ofNat_toNat]
    rfl

/-- However a character is written, its bytes are read. -/
theorem stringBytes_char (hc : WritesChar c t)
    (h : Reads (stringBytes ((Utf8.encodeChar c).reverse ++ read) rest) bytes r) :
    Reads (stringBytes read (Utf8.encode t ++ rest)) bytes r := by
  cases hc with
  | plain hprintable hquote hbackslash =>
    rw [Utf8.encode_cons, List.append_assoc]
    apply stringBytes_plain _ h
    intro b hb
    exact plain_of_mem_encodeChar hprintable hquote hbackslash hb
  | @letter l hl =>
    have hletter : l.toNat < 0x80 ∧ byte l ≠ byte 'u' ∧
        ∃ e, shortEscape? (byte l) = some e ∧ Utf8.encodeChar c = [e] := by
      simp only [letterEscapes, List.mem_cons, Prod.mk.injEq, List.not_mem_nil, or_false] at hl
      rcases hl with ⟨rfl, rfl⟩ | ⟨rfl, rfl⟩ | ⟨rfl, rfl⟩ | ⟨rfl, rfl⟩ | ⟨rfl, rfl⟩ | ⟨rfl, rfl⟩ |
        ⟨rfl, rfl⟩ | ⟨rfl, rfl⟩ <;>
      exact ⟨by decide, by decide, _, rfl, rfl⟩
    obtain ⟨hascii, hu, e, he, hbytes⟩ := hletter
    rw [encode_cons_of_lt (by decide), encode_cons_of_lt hascii]
    rw [hbytes] at h
    exact stringBytes_letter hu he h
  | code hdigits =>
    rw [encode_cons_of_lt (by decide), encode_cons_of_lt (by decide)]
    exact stringBytes_code (reads_code hdigits) h
  | pair hn high low =>
    rw [Utf8.encode_append, encode_cons_of_lt (by decide), encode_cons_of_lt (by decide),
      encode_cons_of_lt (by decide), encode_cons_of_lt (by decide), List.append_assoc]
    exact stringBytes_code (reads_pair hn high low) h

/-- However characters are written before a closing quote, their bytes are read. -/
theorem stringBytes_chars (h : WritesChars cs t) :
    Reads (stringBytes read (Utf8.encode t ++ byte '"' :: r)) (read.reverse ++ Utf8.encode cs)
      r := by
  induction h generalizing read with
  | nil =>
    show Reads (stringBytes read (byte '"' :: r)) (read.reverse ++ []) r
    rw [List.append_nil]
    exact stringBytes_quote
  | @cons c cs t t' first rest ih =>
    rw [Utf8.encode_append, List.append_assoc]
    apply stringBytes_char first
    have hread := @ih ((Utf8.encodeChar c).reverse ++ read)
    rw [List.reverse_append, List.reverse_reverse, List.append_assoc, ← Utf8.encode_cons] at hread
    exact hread

/-- However a string is written, it is read. -/
theorem reads_string {s : String} (h : WritesChars s.toList t) :
    Reads (string (Utf8.encode t ++ byte '"' :: r)) s r := by
  obtain ⟨hr, hbytes⟩ := @stringBytes_chars [] r _ _ h
  refine ⟨hr, ?_⟩
  unfold string
  simp only [hbytes, bind, Except.bind, List.reverse_nil, List.nil_append, Utf8.decode_encode,
    String.ofList_toList]
  rfl

/-! ## Integers -/

/-- What follows cannot belong to a number. -/
def Ends (rest : List UInt8) : Prop :=
  ∀ b ∈ rest.head?, isDigit b = false ∧ b ≠ 0x2e ∧ isExponentMark b = false

theorem isDigit_byte (h : c.isDigit = true) : isDigit (byte c) = true := by
  obtain ⟨hlow, hhigh⟩ := toNat_of_isDigit h
  have hbyte : (byte c).toNat = c.toNat := toNat_byte (by omega)
  rw [isDigit, Bool.and_eq_true, decide_eq_true_iff, decide_eq_true_iff, UInt8.le_iff_toNat_le,
    UInt8.le_iff_toNat_le, hbyte]
  exact ⟨hlow, hhigh⟩

theorem encode_digits (hdigits : ∀ c ∈ digits, c.isDigit = true) :
    Utf8.encode digits = digits.map byte := by
  induction digits with
  | nil => rfl
  | cons c cs ih =>
    have hc := toNat_of_isDigit (hdigits c List.mem_cons_self)
    rw [encode_cons_of_lt (by omega), ih fun d hd => hdigits d (List.mem_cons_of_mem _ hd),
      List.map_cons]

theorem isDigit_of_mem_encode (hdigits : ∀ c ∈ digits, c.isDigit = true) :
    ∀ b ∈ Utf8.encode digits, isDigit b = true := by
  intro b hb
  rw [encode_digits hdigits] at hb
  obtain ⟨c, hc, rfl⟩ := List.mem_map.mp hb
  exact isDigit_byte (hdigits c hc)

theorem Ends.takeWhile_isDigit (hrest : Ends rest) : rest.takeWhile isDigit = [] := by
  cases rest with
  | nil => rfl
  | cons b rest =>
    apply List.takeWhile_cons_of_neg
    rw [(hrest b rfl).1]
    exact Bool.false_ne_true

theorem Ends.dropWhile_isDigit (hrest : Ends rest) : rest.dropWhile isDigit = rest := by
  cases rest with
  | nil => rfl
  | cons b rest =>
    apply List.dropWhile_cons_of_neg
    rw [(hrest b rfl).1]
    exact Bool.false_ne_true

/-- The values of digits are read up to the end of the number. -/
theorem digitValues_append (hdigits : ∀ c ∈ digits, c.isDigit = true) (hrest : Ends rest) :
    digitValues (Utf8.encode digits ++ rest) = digits.map fun c => c.toNat - 0x30 := by
  rw [digitValues, List.takeWhile_append_of_pos (isDigit_of_mem_encode hdigits),
    hrest.takeWhile_isDigit, List.append_nil, encode_digits hdigits, List.map_map]
  apply List.map_congr_left
  intro c hc
  have hdigit := toNat_of_isDigit (hdigits c hc)
  rw [Function.comp_apply, toNat_byte (by omega)]

theorem afterDigits_append (hdigits : ∀ c ∈ digits, c.isDigit = true) (hrest : Ends rest) :
    afterDigits (Utf8.encode digits ++ rest) = rest := by
  rw [afterDigits, List.dropWhile_append_of_pos (isDigit_of_mem_encode hdigits),
    hrest.dropWhile_isDigit]

/-- The first digit of a positive number is not zero. -/
theorem naturalText_of_pos (h : 0 < n) :
    ∃ c cs, naturalText n = c :: cs ∧ c ≠ '0' := by
  induction n using Nat.strong_induction_on with
  | _ n ih =>
    rw [naturalText, Nat.toDigits_eq_if (by decide)]
    by_cases hn : n < 10
    · rw [if_pos hn]
      refine ⟨_, _, rfl, ?_⟩
      intro hzero
      exact absurd (Nat.digitChar_eq_zero.mp hzero) (Nat.ne_of_gt h)
    · -- the first digit is that of a tenth of the number
      rw [if_neg hn]
      obtain ⟨c, cs, hc, hzero⟩ := ih (n / 10) (by omega) (by omega)
      rw [naturalText] at hc
      exact ⟨c, _, by rw [hc, List.cons_append], hzero⟩

/-- Where a number ends, neither a fraction nor a power follows. -/
theorem Ends.not_fraction (hrest : Ends (b :: rest)) :
    ¬ (b = 0x2e ∨ isExponentMark b = true) := by
  obtain ⟨-, hpoint, hexponent⟩ := hrest b rfl
  intro h
  rw [hexponent] at h
  exact h.elim hpoint Bool.false_ne_true

variable {negative : Bool}

theorem unsigned_zero (hrest : Ends rest) :
    Reads (unsigned negative (byte '0' :: rest)) (.int 0) rest := by
  refine ⟨Nat.lt_succ_self _, ?_⟩
  unfold unsigned
  dsimp only
  rw [if_pos (by decide)]
  cases rest with
  | nil => rfl
  | cons b rest =>
    simp only [if_neg hrest.not_fraction, (hrest b rfl).1]
    rfl

/-- A positive number within the limit is read. -/
theorem unsigned_pos (hn : 0 < n) (hshort : (naturalText n).length ≤ maxIntegerDigits)
    (hrest : Ends rest) :
    Reads (unsigned negative (Utf8.encode (naturalText n) ++ rest)) (.int (signed negative n))
      rest := by
  obtain ⟨c, cs, hcs, hzero⟩ := naturalText_of_pos hn
  have hdigits := @isDigit_of_mem_naturalText n
  have hvalues := digitValues_append hdigits hrest
  have hvalue := @ofDigits_naturalText n
  rw [hcs] at hdigits hvalues hvalue hshort ⊢
  have hc := hdigits c List.mem_cons_self
  have hlt : c.toNat < 0x80 := Nat.lt_of_le_of_lt (toNat_of_isDigit hc).2 (by decide)
  have hafter := afterDigits_append (fun d hd => hdigits d (List.mem_cons_of_mem _ hd)) hrest
  have hne : byte c ≠ 0x30 := byte_ne hlt (by decide) hzero
  rw [encode_cons_of_lt hlt, List.cons_append] at hvalues ⊢
  refine ⟨?_, ?_⟩
  · rw [List.length_cons, List.length_append]
    omega
  · unfold unsigned
    dsimp only
    rw [if_neg hne, if_pos (isDigit_byte hc)]
    split
    · rename_i hlong
      rw [hvalues, List.length_map] at hlong
      exact absurd hlong (Nat.not_lt_of_le hshort)
    · -- the digits are followed by what was given, whether that is nothing or something
      split
      · rename_i hend _
        rw [hafter] at hend
        subst hend
        simp only [hvalues, hvalue]
      · rename_i hend _
        rw [hafter] at hend
        subst hend
        simp only [if_neg hrest.not_fraction, hvalues, hvalue]

/-- Every number within the limit is read, with its sign. -/
theorem reads_unsigned (hshort : (naturalText n).length ≤ maxIntegerDigits) (hrest : Ends rest) :
    Reads (unsigned negative (Utf8.encode (naturalText n) ++ rest)) (.int (signed negative n))
      rest := by
  by_cases hn : 0 < n
  · exact unsigned_pos hn hshort hrest
  · obtain rfl : n = 0 := Nat.eq_zero_of_not_pos hn
    have hsigned : signed negative 0 = 0 := by cases negative <;> rfl
    show Reads (unsigned negative (byte '0' :: rest)) (.int (signed negative 0)) rest
    rw [hsigned]
    exact unsigned_zero hrest

/-- A number in digits starts with a byte that is neither a sign nor a letter. -/
theorem encode_naturalText :
    ∃ b more, Utf8.encode (naturalText n) = b :: more ∧ isDigit b = true := by
  have hdigits := @isDigit_of_mem_naturalText n
  rw [encode_digits hdigits]
  cases htext : naturalText n with
  | nil => exact absurd htext Nat.toDigits_ne_nil
  | cons c cs =>
    refine ⟨_, _, List.map_cons, ?_⟩
    apply isDigit_byte
    rw [htext] at hdigits
    exact hdigits c List.mem_cons_self

/-- An integer starts with a digit or a minus sign. -/
theorem encode_integerChars (n : Int) : ∃ b more, Utf8.encode (integerChars n) = b :: more ∧
    (isDigit b = true ∨ b = byte '-') := by
  cases n with
  | ofNat n =>
    obtain ⟨b, more, hbytes, hdigit⟩ := @encode_naturalText n
    exact ⟨b, more, hbytes, .inl hdigit⟩
  | negSucc n => exact ⟨_, _, encode_cons_of_lt (by decide), .inr rfl⟩

/-- An integer of at most 4300 digits is read. -/
theorem reads_number {n : Int} (hn : (naturalText n.natAbs).length ≤ maxIntegerDigits)
    (hrest : Ends rest) :
    Reads (number (Utf8.encode (integerChars n) ++ rest)) (.int n) rest := by
  cases n with
  | ofNat n =>
    rw [integerChars]
    obtain ⟨b, more, hbytes, hdigit⟩ := @encode_naturalText n
    have hne : ∀ c, isDigit (byte c) = false → b ≠ byte c := by
      intro c hc heq
      rw [heq, hc] at hdigit
      cases hdigit
    have hread := @reads_unsigned rest n false hn hrest
    rw [hbytes, List.cons_append] at hread ⊢
    obtain ⟨hr, hread⟩ := hread
    refine ⟨hr, ?_⟩
    unfold number
    dsimp only
    rw [if_neg (hne 'N' (by decide)), if_neg (hne 'I' (by decide)), if_neg (hne '-' (by decide)),
      hread]
    rfl
  | negSucc n =>
    rw [integerChars, encode_cons_of_lt (by decide)]
    obtain ⟨b, more, hbytes, hdigit⟩ := @encode_naturalText (n + 1)
    have hne : b ≠ byte 'I' := by
      intro heq
      rw [heq] at hdigit
      exact absurd hdigit (by decide)
    have hread := @reads_unsigned rest (n + 1) true hn hrest
    rw [List.cons_append]
    rw [hbytes, List.cons_append] at hread ⊢
    obtain ⟨hr, hread⟩ := hread
    refine ⟨Nat.lt_succ_of_lt hr, ?_⟩
    unfold number
    dsimp only
    rw [if_neg (by decide), if_neg (by decide), if_pos rfl, if_neg hne, hread]
    rfl

end ChatRiddles.Json.DocumentText
