import ChatRiddles.Json.Written
import Mathlib.Tactic.SplitIfs
/-!
# JSON texts

How a value may be written as a JSON text, told by its parts and without a reader: blanks stand
around every value and every name, and a character of a string stands for itself or is escaped by a
letter, by its code, or by the codes of two surrogates. The values here have no null, no truth value
and no number with a fraction.

The text that a value is written as is one of its texts.

Main definitions: `Json.Writes`, `Json.TextOf`, `Json.Fits`. Main statement: `Json.textOf_written`.
-/

namespace ChatRiddles.Json

open Number Text

/-! ## Strings -/

/-- Blanks between the parts of a text. -/
def Blanks (cs : List Char) : Prop := ∀ c ∈ cs, c ∈ [' ', '\t', '\n', '\r']

/-- The letters that follow a backslash, each with the character that it stands for. -/
def letterEscapes : List (Char × Char) :=
  [('"', '"'), ('\\', '\\'), ('/', '/'), ('b', Char.ofNat 0x08), ('f', Char.ofNat 0x0c),
    ('n', '\n'), ('r', '\r'), ('t', '\t')]

/-- Four hexadecimal digits of a number. -/
inductive WritesUnit : Nat → List Char → Prop where
  | mk {a b c d : Char} {w x y z : Nat} (first : hexValue? a = some w)
      (second : hexValue? b = some x) (third : hexValue? c = some y)
      (fourth : hexValue? d = some z) :
      WritesUnit (((w * 16 + x) * 16 + y) * 16 + z) [a, b, c, d]

/-- How a character of a string may be written. -/
inductive WritesChar (c : Char) : List Char → Prop where
  -- as itself, unless it is a control character, a quote or a backslash
  | plain (printable : 0x20 ≤ c.toNat) (hquote : c ≠ '"') (hbackslash : c ≠ '\\') :
      WritesChar c [c]
  | letter {l : Char} (h : (l, c) ∈ letterEscapes) : WritesChar c ['\\', l]
  | code {digits : List Char} (h : WritesUnit c.toNat digits) : WritesChar c ('\\' :: 'u' :: digits)
  | pair {n : Nat} {digits digits' : List Char} (hn : c.toNat = 0x10000 + n)
      (high : WritesUnit (0xd800 + n / 0x400) digits)
      (low : WritesUnit (0xdc00 + n % 0x400) digits') :
      WritesChar c ('\\' :: 'u' :: digits ++ '\\' :: 'u' :: digits')

/-- How the characters of a string may be written. -/
inductive WritesChars : List Char → List Char → Prop where
  | nil : WritesChars [] []
  | cons {c : Char} {cs t t' : List Char} (first : WritesChar c t) (rest : WritesChars cs t') :
      WritesChars (c :: cs) (t ++ t')

/-! ## Values -/

mutual

/-- How a value may be written, without the blanks around it. -/
inductive Writes : Json → List Char → Prop where
  | int (n : Int) : Writes (.int n) (integerChars n)
  | string {s : String} {t : List Char} (h : WritesChars s.toList t) :
      Writes (.string s) ('"' :: t ++ ['"'])
  | noItems {t : List Char} (h : Blanks t) : Writes (.array []) ('[' :: t ++ [']'])
  | array {items : List Json} {t : List Char} (h : WritesElements items t) :
      Writes (.array items) ('[' :: t ++ [']'])
  | noFields {t : List Char} (h : Blanks t) : Writes (.object []) ('\x7b' :: t ++ ['\x7d'])
  | object {fields : List (String × Json)} {t : List Char} (h : WritesMembers fields t) :
      Writes (.object fields) ('\x7b' :: t ++ ['\x7d'])

/-- How a value may be written, blanks around it. -/
inductive WritesElement : Json → List Char → Prop where
  | mk {v : Json} {before t after : List Char} (hbefore : Blanks before) (h : Writes v t)
      (hafter : Blanks after) : WritesElement v (before ++ t ++ after)

/-- How the items of an array may be written. -/
inductive WritesElements : List Json → List Char → Prop where
  | one {v : Json} {t : List Char} (h : WritesElement v t) : WritesElements [v] t
  | next {v : Json} {items : List Json} {t t' : List Char} (h : WritesElement v t)
      (rest : WritesElements items t') : WritesElements (v :: items) (t ++ ',' :: t')

/-- How a field of an object may be written. -/
inductive WritesMember : String × Json → List Char → Prop where
  | mk {k : String} {v : Json} {before name after t : List Char} (hbefore : Blanks before)
      (hname : WritesChars k.toList name) (hafter : Blanks after) (h : WritesElement v t) :
      WritesMember (k, v) (before ++ '"' :: name ++ '"' :: after ++ ':' :: t)

/-- How the fields of an object may be written. -/
inductive WritesMembers : List (String × Json) → List Char → Prop where
  | one {f : String × Json} {t : List Char} (h : WritesMember f t) : WritesMembers [f] t
  | next {f : String × Json} {fields : List (String × Json)} {t t' : List Char}
      (h : WritesMember f t) (rest : WritesMembers fields t') :
      WritesMembers (f :: fields) (t ++ ',' :: t')

end

/-- A text is a JSON text of a value. -/
def TextOf (v : Json) (text : String) : Prop := WritesElement v text.toList

/-- A value of strings, integers, arrays and objects whose integers have at most `digits` digits,
with at most `room` containers around each other. The fields of an object have different names. -/
inductive Fits (digits : Nat) : (room : Nat) → Json → Prop where
  | int {room : Nat} {n : Int} (short : (naturalText n.natAbs).length ≤ digits) :
      Fits digits room (.int n)
  | string {room : Nat} (s : String) : Fits digits room (.string s)
  | array {room : Nat} {items : List Json} (each : ∀ v ∈ items, Fits digits room v) :
      Fits digits (room + 1) (.array items)
  | object {room : Nat} {fields : List (String × Json)} (names : (fields.map (·.1)).Nodup)
      (each : ∀ f ∈ fields, Fits digits room f.2) : Fits digits (room + 1) (.object fields)

/-! ## The text that a value is written as -/

theorem blanks_nil : Blanks [] := fun _ h => (nomatch h)

/-- A hexadecimal digit that is written has its value. -/
theorem hexValue?_hexDigit {n : Nat} (h : n < 16) : hexValue? (hexDigit n) = some n := by
  revert n
  decide

theorem writesUnit_hexDigits {n : Nat} (h : n < 0x10000) : WritesUnit n (hexDigits 4 n) := by
  have hdigit : ∀ m, hexValue? (hexDigit (m % 16)) = some (m % 16) := fun m =>
    hexValue?_hexDigit (Nat.mod_lt m (by decide))
  have hn : ((n / 16 / 16 / 16 % 16 * 16 + n / 16 / 16 % 16) * 16 + n / 16 % 16) * 16 + n % 16 =
      n := by
    omega
  have hunit := WritesUnit.mk (hdigit (n / 16 / 16 / 16)) (hdigit (n / 16 / 16)) (hdigit (n / 16))
    (hdigit n)
  rw [hn] at hunit
  exact hunit

/-- What a character is written as is one of the ways to write it. -/
theorem writesChar_writtenChar (c : Char) : WritesChar c (writtenChar c) := by
  unfold writtenChar
  dsimp only
  split_ifs with hself hline hreturn htab hback hfeed hprintable hunit
  · obtain rfl | rfl := hself <;> exact .letter (by decide)
  · subst hline
    exact .letter (by decide)
  · subst hreturn
    exact .letter (by decide)
  · subst htab
    exact .letter (by decide)
  · obtain rfl : c = Char.ofNat 0x08 := by rw [← hback, Char.ofNat_toNat]
    exact .letter (by decide)
  · obtain rfl : c = Char.ofNat 0x0c := by rw [← hfeed, Char.ofNat_toNat]
    exact .letter (by decide)
  · exact .plain hprintable.1 (fun h => hself (.inl h)) fun h => hself (.inr h)
  · exact .code (writesUnit_hexDigits hunit)
  · have hbound : c.toNat < 0x110000 := by
      rcases c.valid with h | h
      · exact Nat.lt_trans h (by decide)
      · exact h.2
    exact .pair (Nat.add_sub_cancel' (Nat.le_of_not_lt hunit)).symm
      (writesUnit_hexDigits (by omega)) (writesUnit_hexDigits (by omega))

/-- Characters are written one after another. -/
theorem writesChars_flatMap (cs : List Char) : WritesChars cs (cs.flatMap writtenChar) := by
  induction cs with
  | nil => exact .nil
  | cons c rest ih =>
    rw [List.flatMap_cons]
    exact .cons (writesChar_writtenChar c) ih

theorem writesElement_of_writes {v : Json} {t : List Char} (h : Writes v t) :
    WritesElement v t := by
  have helement := WritesElement.mk blanks_nil h blanks_nil
  rw [List.nil_append, List.append_nil] at helement
  exact helement

theorem writesMember_of_writes {k : String} {v : Json} {t : List Char} (h : Writes v t) :
    WritesMember (k, v) (writtenString k ++ ':' :: t) := by
  have hmember := WritesMember.mk blanks_nil (writesChars_flatMap k.toList) blanks_nil
    (writesElement_of_writes h)
  rw [List.nil_append] at hmember
  exact hmember

/-- The name of a field is well formed where its value has a text. -/
theorem writtenName_of_writes {k : String} {v : Json} {t : List Char} (h : Writes v t) :
    writtenName k v = writtenString k := by
  cases h <;> rfl

/-- Items that are written and joined with commas are elements. -/
theorem writesElements_writtenItems {v : Json} {items : List Json}
    (each : ∀ w ∈ v :: items, Writes w w.writtenChars) :
    WritesElements (v :: items) (joinWith [','] (writtenItems (v :: items))) := by
  have hv := writesElement_of_writes (each v List.mem_cons_self)
  induction items generalizing v with
  | nil => exact .one hv
  | cons w rest ih =>
    have heach := fun w' hw' => each w' (List.mem_cons_of_mem _ hw')
    have hrest := ih heach (writesElement_of_writes (heach w List.mem_cons_self))
    rw [writtenItems, writtenItems, joinWith_cons_cons]
    exact .next hv hrest

/-- Fields that are written and joined with commas are members. -/
theorem writesMembers_writtenFields {f : String × Json} {fields : List (String × Json)}
    (each : ∀ g ∈ f :: fields, Writes g.2 g.2.writtenChars) :
    WritesMembers (f :: fields) (joinWith [','] (writtenFields (f :: fields))) := by
  have hf := @writesMember_of_writes f.1 _ _ (each f List.mem_cons_self)
  rw [← @writtenName_of_writes f.1 _ _ (each f List.mem_cons_self)] at hf
  induction fields generalizing f with
  | nil => exact .one hf
  | cons g rest ih =>
    have heach := fun g' hg' => each g' (List.mem_cons_of_mem _ hg')
    have hg := writesMember_of_writes (k := g.1) (heach g List.mem_cons_self)
    rw [← @writtenName_of_writes g.1 _ _ (heach g List.mem_cons_self)] at hg
    have hrest := ih heach hg
    rw [writtenFields, writtenFields, joinWith_cons_cons]
    exact .next hf hrest

/-- The text that a value is written as is one of its texts. -/
theorem writes_writtenChars {digits room : Nat} {v : Json} (h : Fits digits room v) :
    Writes v v.writtenChars := by
  induction h with
  | int => exact .int _
  | string s => exact .string (writesChars_flatMap s.toList)
  | @array _ items _ ih =>
    cases items with
    | nil => exact .noItems blanks_nil
    | cons v rest => exact .array (writesElements_writtenItems ih)
  | @object _ fields _ _ ih =>
    cases fields with
    | nil => exact .noFields blanks_nil
    | cons f rest => exact .object (writesMembers_writtenFields ih)

/-- What is written for a value within limits is a text of it. -/
theorem textOf_written {digits room : Nat} {v : Json} (h : Fits digits room v) :
    TextOf v v.written := by
  rw [TextOf, written, String.toList_ofList]
  exact writesElement_of_writes (writes_writtenChars h)

end ChatRiddles.Json
