import ChatRiddles.Shape.Check
import Mathlib.Data.List.TakeWhile
/-!
# What stands for an integer

The field of a document may hold an integer as itself, as a truth value, as a number without a
fraction or as a text. Which texts are meant is told here by their parts, without a reader: white
space, a sign, leading zeros, digits with single underscores between them, and a tail of a point and
zeros. Leading zeros and a plus sign are not allowed together with a minus sign.

Main statements: `Number.ofField_eq_number_iff`, `Shape.integerOf_eq_ok_iff`.
-/

namespace ChatRiddles

/-! ## White space at the ends -/

namespace Text

variable {p : Char → Bool} {cs before core after : List Char}

/-- What is dropped throughout a part is dropped with the part. -/
theorem dropWhile_append_of_all (h : ∀ c ∈ before, p c) :
    (before ++ cs).dropWhile p = cs.dropWhile p := by
  induction before with
  | nil => rfl
  | cons c rest ih =>
    rw [List.cons_append, List.dropWhile_cons_of_pos (h c List.mem_cons_self)]
    exact ih fun c hc => h c (List.mem_cons_of_mem _ hc)

theorem dropWhile_eq_self_of_none (h : ∀ c ∈ core, p c = false) : core.dropWhile p = core := by
  cases core with
  | nil => rfl
  | cons c rest =>
    rw [List.dropWhile_cons_of_neg]
    rw [h c List.mem_cons_self]
    exact Bool.false_ne_true

/-- What is trimmed satisfies the condition. -/
theorem exists_eq_trimBy (p : Char → Bool) (cs : List Char) :
    ∃ before after, cs = before ++ trimBy p cs ++ after ∧ (∀ c ∈ before, p c) ∧
      ∀ c ∈ after, p c := by
  have hfront : cs.takeWhile p ++ cs.dropWhile p = cs := List.takeWhile_append_dropWhile
  have hend : trimBy p cs ++ ((cs.dropWhile p).reverse.takeWhile p).reverse = cs.dropWhile p := by
    have h := @List.takeWhile_append_dropWhile _ p (cs.dropWhile p).reverse
    rw [trimBy, dropWhileEnd, ← List.reverse_append, h, List.reverse_reverse]
  refine ⟨cs.takeWhile p, ((cs.dropWhile p).reverse.takeWhile p).reverse, ?_,
    fun c hc => List.mem_takeWhile_imp hc, fun c hc => ?_⟩
  · rw [List.append_assoc, hend, hfront]
  · exact List.mem_takeWhile_imp (List.mem_reverse.mp hc)

/-- Characters that satisfy the condition are trimmed at both ends of others. -/
theorem trimBy_surrounded (hbefore : ∀ c ∈ before, p c) (hcore : ∀ c ∈ core, p c = false)
    (hafter : ∀ c ∈ after, p c) : trimBy p (before ++ core ++ after) = core := by
  have hreverse : ∀ c ∈ core.reverse, p c = false := fun c hc => hcore c (List.mem_reverse.mp hc)
  have hend : ∀ c ∈ after.reverse, p c := fun c hc => hafter c (List.mem_reverse.mp hc)
  rw [trimBy, List.append_assoc, dropWhile_append_of_all hbefore]
  cases core with
  | nil =>
    have hnil : after.dropWhile p = [] := List.dropWhile_eq_nil_iff.mpr hafter
    rw [List.nil_append, hnil]
    rfl
  | cons c rest =>
    have hc : ¬ p c = true := by
      rw [hcore c List.mem_cons_self]
      exact Bool.false_ne_true
    rw [List.cons_append, List.dropWhile_cons_of_neg hc, ← List.cons_append, dropWhileEnd,
      List.reverse_append, dropWhile_append_of_all hend, dropWhile_eq_self_of_none hreverse,
      List.reverse_reverse]

end Text

namespace Number

open Text

variable {cs body tail zeros : List Char} {digits : List Nat} {n : Int}

/-! ## Digits -/

/-- ASCII digits with single underscores between them, and their values. -/
inductive Grouped : List Char → List Nat → Prop where
  | one {c : Char} {d : Nat} (digit : asciiDigit? c = some d) : Grouped [c] [d]
  | next {c : Char} {d : Nat} {cs : List Char} {digits : List Nat} (digit : asciiDigit? c = some d)
      (rest : Grouped cs digits) : Grouped (c :: cs) (d :: digits)
  -- a digit and an underscore before others
  | group {c : Char} {d : Nat} {cs : List Char} {digits : List Nat}
      (digit : asciiDigit? c = some d) (rest : Grouped cs digits) :
      Grouped (c :: '_' :: cs) (d :: digits)

theorem asciiDigit?_underscore : asciiDigit? '_' = none := by decide

theorem asciiDigit?_eq_zero_iff {c : Char} : asciiDigit? c = some 0 ↔ c = '0' := by
  constructor
  · intro h
    unfold asciiDigit? at h
    split at h
    · rename_i hc
      have hle : c.toNat ≤ 0x30 := Nat.le_of_sub_eq_zero (Option.some.inj h)
      have hge : 0x30 ≤ c.toNat := hc.1
      exact Char.toNat_inj.mp (Nat.le_antisymm hle hge)
    · cases h
  · rintro rfl
    decide

theorem isAsciiDigit_of_eq_some {c : Char} {d : Nat} (h : asciiDigit? c = some d) :
    isAsciiDigit c = true := Option.isSome_iff_exists.mpr ⟨d, h⟩

theorem ne_of_isAsciiDigit {c other : Char} (hc : isAsciiDigit c = true)
    (hother : isAsciiDigit other = false) : c ≠ other := by
  rintro rfl
  rw [hc] at hother
  cases hother

theorem exists_cons_of_grouped (h : Grouped cs digits) :
    ∃ c d rest ds, cs = c :: rest ∧ digits = d :: ds ∧ asciiDigit? c = some d := by
  cases h with
  | one digit => exact ⟨_, _, _, _, rfl, rfl, digit⟩
  | next digit _ => exact ⟨_, _, _, _, rfl, rfl, digit⟩
  | group digit _ => exact ⟨_, _, _, _, rfl, rfl, digit⟩

/-- Digits are read exactly if they are grouped. -/
theorem groupedDigits?_eq_some_iff :
    groupedDigits? asciiDigit? cs = some digits ↔ Grouped cs digits := by
  constructor
  · intro h
    -- the cases are those of the reader
    induction cs using groupedDigits?.induct asciiDigit? generalizing digits with
    | case1 => cases h
    | case2 c rest hc =>
      rw [groupedDigits?.eq_2 _ _ _ hc] at h
      cases h
    | case3 c d hd =>
      rw [groupedDigits?.eq_3 _ _ _ hd] at h
      cases h
      exact .one hd
    | case4 c d more hd ih =>
      rw [groupedDigits?.eq_4 _ _ _ _ hd] at h
      obtain ⟨ds, hds, rfl⟩ := Option.map_eq_some_iff.mp h
      exact .group hd (ih hds)
    | case5 c d more hnil hmark hd ih =>
      rw [groupedDigits?.eq_5 _ _ _ _ hd hnil hmark] at h
      obtain ⟨ds, hds, rfl⟩ := Option.map_eq_some_iff.mp h
      exact .next hd (ih hds)
  · intro h
    induction h with
    | one digit => exact groupedDigits?.eq_3 _ _ _ digit
    | next digit rest ih =>
      obtain ⟨c, d, more, ds, rfl, rfl, hc⟩ := exists_cons_of_grouped rest
      have hmark : ∀ more', c :: more = '_' :: more' → False := by
        rintro more' heq
        rw [(List.cons.inj heq).1, asciiDigit?_underscore] at hc
        cases hc
      rw [groupedDigits?.eq_5 _ _ _ _ digit (List.cons_ne_nil _ _) hmark, ih]
      rfl
    | group digit _ ih =>
      rw [groupedDigits?.eq_4 _ _ _ _ digit, ih]
      rfl

/-- The characters of digits: digits and underscores. -/
theorem mem_grouped (h : Grouped cs digits) {c : Char} (hc : c ∈ cs) :
    isAsciiDigit c = true ∨ c = '_' := by
  induction h with
  | one digit =>
    obtain rfl := List.mem_singleton.mp hc
    exact .inl (isAsciiDigit_of_eq_some digit)
  | next digit _ ih =>
    obtain rfl | hc := List.mem_cons.mp hc
    · exact .inl (isAsciiDigit_of_eq_some digit)
    · exact ih hc
  | group digit _ ih =>
    obtain rfl | hc := List.mem_cons.mp hc
    · exact .inl (isAsciiDigit_of_eq_some digit)
    · obtain rfl | hc := List.mem_cons.mp hc
      · exact .inr rfl
      · exact ih hc

/-- Each of the digits stands for one character, at least. -/
theorem length_le_of_grouped (h : Grouped cs digits) : digits.length ≤ cs.length := by
  induction h with
  | one _ => exact Nat.le_refl 1
  | next _ _ ih => exact Nat.succ_le_succ ih
  | group _ _ ih => exact Nat.succ_le_succ (Nat.le_succ_of_le ih)

theorem lt_of_asciiDigit? {c : Char} {d : Nat} (h : asciiDigit? c = some d) : d < 10 := by
  unfold asciiDigit? at h
  split at h
  next hrange =>
    obtain rfl := Option.some.inj h
    have hle : c.toNat ≤ 0x39 := hrange.2
    omega
  next => cases h

/-- Digits are below ten. -/
theorem lt_of_mem_grouped (h : Grouped cs digits) : ∀ d ∈ digits, d < 10 := by
  induction h with
  | one digit =>
    rw [List.forall_mem_singleton]
    exact lt_of_asciiDigit? digit
  | next digit _ ih => exact List.forall_mem_cons.mpr ⟨lt_of_asciiDigit? digit, ih⟩
  | group digit _ ih => exact List.forall_mem_cons.mpr ⟨lt_of_asciiDigit? digit, ih⟩

/-- Digits without a leading zero. -/
structure Plain (cs : List Char) (digits : List Nat) : Prop where
  grouped : Grouped cs digits
  -- only a single digit may be zero at the front
  leading : digits.head? = some 0 → digits.length = 1

/-- Plain digits are a zero, or start with another digit. -/
theorem plain_cases (h : Plain cs digits) :
    (cs = ['0'] ∧ digits = [0]) ∨
      ∃ c rest, cs = c :: rest ∧ isAsciiDigit c = true ∧ c ≠ '0' := by
  obtain ⟨c, d, rest, ds, rfl, rfl, hc⟩ := exists_cons_of_grouped h.grouped
  by_cases hzero : c = '0'
  · have hd : d = 0 := Option.some.inj (hc.symm.trans (asciiDigit?_eq_zero_iff.mpr hzero))
    subst hd
    have hlength := h.leading rfl
    have hds : ds = [] := List.length_eq_zero_iff.mp (Nat.succ.inj hlength)
    subst hds
    refine .inl ⟨?_, rfl⟩
    cases h.grouped with
    | one _ => rw [hzero]
    | next _ rest => cases rest
    | group _ rest => cases rest
  · exact .inr ⟨c, rest, rfl, isAsciiDigit_of_eq_some hc, hzero⟩

/-! ## The tail -/

/-- A tail of a point and at least one zero, or none. -/
def PointZeros (tail : List Char) : Prop :=
  tail = [] ∨ ∃ zeros, zeros ≠ [] ∧ (∀ c ∈ zeros, c = '0') ∧ tail = '.' :: zeros

theorem dropPointZeros_append (hbody : '.' ∉ body) (htail : PointZeros tail) :
    dropPointZeros (body ++ tail) = body := by
  have hall : ∀ c ∈ body, (decide (c ≠ '.')) = true := fun c hc =>
    decide_eq_true fun h => hbody (h ▸ hc)
  obtain rfl | ⟨zeros, hne, hzeros, rfl⟩ := htail
  · have hdrop : body.dropWhile (· ≠ '.') = [] := List.dropWhile_eq_nil_iff.mpr hall
    rw [List.append_nil, dropPointZeros, hdrop, if_neg]
    exact fun h => h.1 rfl
  · have hdrop : (body ++ '.' :: zeros).dropWhile (· ≠ '.') = '.' :: zeros :=
      dropWhile_append_of_all hall
    have htake : (body ++ '.' :: zeros).takeWhile (· ≠ '.') = body := by
      rw [List.takeWhile_append_of_pos hall]
      exact List.append_nil body
    rw [dropPointZeros, hdrop, htake, if_pos]
    exact ⟨hne, List.all_eq_true.mpr fun c hc => decide_eq_true (hzeros c hc)⟩

theorem exists_eq_dropPointZeros (cs : List Char) :
    ∃ tail, PointZeros tail ∧ cs = dropPointZeros cs ++ tail := by
  have hsplit : cs.takeWhile (· ≠ '.') ++ cs.dropWhile (· ≠ '.') = cs :=
    List.takeWhile_append_dropWhile
  unfold dropPointZeros
  dsimp only
  split
  · rename_i htail
    refine ⟨cs.dropWhile (· ≠ '.'), .inr ⟨(cs.dropWhile (· ≠ '.')).drop 1, htail.1, ?_, ?_⟩,
      hsplit.symm⟩
    · exact fun c hc => of_decide_eq_true (List.all_eq_true.mp htail.2 c hc)
    · cases hd : cs.dropWhile (· ≠ '.') with
      | nil => exact absurd (by rw [hd]; rfl) htail.1
      | cons c rest =>
        -- the characters dropped are those before the point
        have hc : decide (c ≠ '.') = false := by
          have hhead := List.head?_dropWhile_not (· ≠ '.') cs
          rwa [hd] at hhead
        rw [Classical.not_not.mp (of_decide_eq_false hc)]
        rfl
  · exact ⟨[], .inl rfl, (List.append_nil cs).symm⟩

/-! ## Leading zeros -/

/-- Leading zeros: none, or a zero with zeros and underscores after it. -/
def LeadingZeros (zeros : List Char) : Prop :=
  zeros = [] ∨ ∃ rest, (∀ c ∈ rest, c = '0' ∨ c = '_') ∧ zeros = '0' :: rest

/-- Zeros and underscores at the front are passed over. -/
theorem dropZerosAfter_zeros (last : Char) (cs : List Char)
    (h : ∀ c ∈ zeros, c = '0' ∨ c = '_') :
    ∃ last', dropZerosAfter last (zeros ++ cs) = dropZerosAfter last' cs := by
  induction zeros generalizing last with
  | nil => exact ⟨last, rfl⟩
  | cons c rest ih =>
    rw [List.cons_append, dropZerosAfter, if_pos (h c List.mem_cons_self)]
    exact ih c fun c hc => h c (List.mem_cons_of_mem _ hc)

theorem ne_zero_or_underscore {c : Char} (hc : isAsciiDigit c = true) (hzero : c ≠ '0') :
    ¬ (c = '0' ∨ c = '_') := by
  rintro (h | h)
  · exact hzero h
  · exact ne_of_isAsciiDigit hc rfl h

/-- The last zero before the end or the point stays. -/
theorem dropZerosAfter_zero {last : Char} (htail : PointZeros tail) :
    dropZerosAfter last ('0' :: tail) = some ('0' :: tail) := by
  rw [dropZerosAfter, if_pos (.inl rfl)]
  obtain rfl | ⟨zeros, -, -, rfl⟩ := htail
  · rfl
  · rw [dropZerosAfter, if_neg (by decide), if_pos rfl]

/-- Zeros are dropped up to the digits, of which one is left. -/
theorem dropZerosAfter_plain {last : Char} (h : Plain cs digits) (htail : PointZeros tail) :
    dropZerosAfter last (cs ++ tail) = some (cs ++ tail) := by
  obtain ⟨rfl, -⟩ | ⟨c, rest, rfl, hc, hzero⟩ := plain_cases h
  · exact dropZerosAfter_zero htail
  · rw [List.cons_append, dropZerosAfter, if_neg (ne_zero_or_underscore hc hzero),
      if_neg (ne_of_isAsciiDigit hc rfl), if_pos hc]

/-- Leading zeros are dropped down to a plain number. -/
theorem dropLeadingZeros_plain (hzeros : LeadingZeros zeros) (h : Plain cs digits)
    (htail : PointZeros tail) :
    dropLeadingZeros (zeros ++ (cs ++ tail)) = some (cs ++ tail) := by
  obtain rfl | ⟨rest, hrest, rfl⟩ := hzeros
  · obtain ⟨rfl, -⟩ | ⟨c, rest, rfl, hc, hzero⟩ := plain_cases h
    · -- the only zero is kept, whatever the zero before it would have been
      have hkept : dropZerosAfter '0' ('0' :: tail) = some ('0' :: tail) :=
        dropZerosAfter_zero htail
      rw [dropZerosAfter, if_pos (.inl rfl)] at hkept
      exact hkept
    · rw [List.nil_append, List.cons_append, dropLeadingZeros, if_neg hzero, if_pos (.inl hc)]
  · rw [List.cons_append, dropLeadingZeros, if_pos rfl]
    obtain ⟨last, hlast⟩ := dropZerosAfter_zeros '0' (cs ++ tail) hrest
    rw [hlast, dropZerosAfter_plain h htail]

/-- What is left after a zero is what stood there, less some zeros and underscores. -/
theorem exists_of_dropZerosAfter {last : Char} (hlast : last = '0' ∨ last = '_')
    (h : dropZerosAfter last cs = some body) :
    body.head? ≠ some '-' ∧
      ∃ zeros, (∀ c ∈ zeros, c = '0' ∨ c = '_') ∧ last :: cs = zeros ++ body := by
  have hsign : last ≠ '-' := by
    rintro rfl
    exact absurd hlast (by decide)
  induction cs generalizing last with
  | nil =>
    rw [dropZerosAfter] at h
    obtain rfl := Option.some.inj h
    exact ⟨fun h => hsign (Option.some.inj h), [], fun _ hc => (nomatch hc), rfl⟩
  | cons c rest ih =>
    rw [dropZerosAfter] at h
    split at h
    · rename_i hc
      have hc' : c ≠ '-' := by
        rintro rfl
        exact absurd hc (by decide)
      obtain ⟨hhead, zeros, hzeros, heq⟩ := ih hc h hc'
      exact ⟨hhead, last :: zeros, List.forall_mem_cons.mpr ⟨hlast, hzeros⟩, by rw [heq]; rfl⟩
    · split at h
      · obtain rfl := Option.some.inj h
        exact ⟨fun h => hsign (Option.some.inj h), [], fun _ hc => (nomatch hc), rfl⟩
      · split at h
        · rename_i hc
          obtain rfl := Option.some.inj h
          refine ⟨fun h => ?_, [last], List.forall_mem_cons.mpr ⟨hlast, fun _ hc => (nomatch hc)⟩,
            rfl⟩
          exact ne_of_isAsciiDigit hc rfl (Option.some.inj h)
        · cases h

/-! ## Texts that write an integer -/

/-- A text that writes an integer, without white space around it. -/
inductive Numeral : List Char → Int → Prop where
  | negative {cs tail : List Char} {digits : List Nat} (plain : Plain cs digits)
      (pointZeros : PointZeros tail) : Numeral ('-' :: (cs ++ tail)) (-(ofDigits digits : Int))
  -- digits, perhaps after a plus sign and after leading zeros
  | unsigned {plus zeros cs tail : List Char} {digits : List Nat} (sign : plus = [] ∨ plus = ['+'])
      (leadingZeros : LeadingZeros zeros) (plain : Plain cs digits) (pointZeros : PointZeros tail) :
      Numeral (plus ++ (zeros ++ (cs ++ tail))) (ofDigits digits)

/-- A number is plain if its digits are grouped and none but a single one may be zero at the front.
-/
theorem plain_iff :
    Plain cs digits ↔ groupedDigits? asciiDigit? cs = some digits ∧
      ¬ (digits.head? = some 0 ∧ digits.length ≠ 1) := by
  rw [groupedDigits?_eq_some_iff]
  constructor
  · exact fun h => ⟨h.grouped, fun hzero => hzero.2 (h.leading hzero.1)⟩
  · exact fun h => ⟨h.1, fun hhead => Classical.not_not.mp fun hne => h.2 ⟨hhead, hne⟩⟩

/-- An integer is read from a plain number, perhaps behind a minus sign. -/
theorem plainInteger?_eq_some_iff :
    plainInteger? cs = some n ↔
      ∃ negative body digits, (if negative then cs = '-' :: body else
        cs = body ∧ body.head? ≠ some '-') ∧ Plain body digits ∧
          n = signed negative (ofDigits digits) := by
  unfold plainInteger?
  split
  rename_i negative body hbody
  -- the sign and what follows it are told by the text
  have hparts : ∀ negative' body', (if negative' then cs = '-' :: body' else
      cs = body' ∧ body'.head? ≠ some '-') ↔ negative' = negative ∧ body' = body := by
    intro negative' body'
    split at hbody
    · cases hbody
      cases negative' with
      | true => simp [eq_comm]
      | false => simpa using fun h => h ▸ rfl
    · rename_i hsign
      cases hbody
      cases negative' with
      | true => simpa using hsign body'
      | false =>
        have hhead : cs.head? ≠ some '-' := by
          cases cs with
          | nil => exact fun h => (nomatch h)
          | cons c rest => exact fun h => hsign rest (by rw [Option.some.inj h])
        constructor
        · exact fun h => ⟨rfl, h.1.symm⟩
        · rintro ⟨-, rfl⟩
          exact ⟨rfl, hhead⟩
  constructor
  · intro h
    split at h
    · cases h
    · rename_i digits hdigits
      split at h
      · cases h
      · rename_i hleading
        exact ⟨negative, body, digits, (hparts _ _).mpr ⟨rfl, rfl⟩,
          plain_iff.mpr ⟨hdigits, hleading⟩, (Option.some.inj h).symm⟩
  · rintro ⟨negative', body', digits, hcs, hplain, rfl⟩
    obtain ⟨rfl, rfl⟩ := (hparts _ _).mp hcs
    obtain ⟨hdigits, hleading⟩ := plain_iff.mp hplain
    rw [hdigits]
    exact if_neg hleading

/-- A plus sign is dropped unless another sign follows it or nothing does. -/
theorem dropPlus_cases (cs : List Char) :
    dropPlus cs = cs ∨ ∃ c rest, cs = '+' :: c :: rest ∧ dropPlus cs = c :: rest ∧ c ≠ '-' := by
  unfold dropPlus
  split
  · rename_i c rest
    split
    · exact .inl rfl
    · rename_i hc
      exact .inr ⟨c, rest, rfl, rfl, fun h => hc (.inr h)⟩
  · exact .inl rfl

/-- The first character of an unsigned number is a digit. -/
theorem head_unsigned (hzeros : LeadingZeros zeros) (h : Plain cs digits) (tail : List Char) :
    ∃ c rest, zeros ++ (cs ++ tail) = c :: rest ∧ isAsciiDigit c = true := by
  obtain rfl | ⟨rest, -, rfl⟩ := hzeros
  · obtain ⟨rfl, -⟩ | ⟨c, rest, rfl, hc, -⟩ := plain_cases h
    · exact ⟨'0', tail, rfl, by decide⟩
    · exact ⟨c, rest ++ tail, rfl, hc⟩
  · exact ⟨'0', rest ++ (cs ++ tail), rfl, by decide⟩

/-- A plus sign before a digit is dropped. -/
theorem dropPlus_digit {c : Char} (hc : isAsciiDigit c = true) :
    dropPlus (c :: cs) = c :: cs ∧ dropPlus ('+' :: c :: cs) = c :: cs := by
  have hplus : c ≠ '+' := ne_of_isAsciiDigit hc rfl
  have hminus : c ≠ '-' := ne_of_isAsciiDigit hc rfl
  constructor
  · unfold dropPlus
    split
    · rename_i heq
      exact absurd (List.cons.inj heq).1 hplus
    · rfl
  · exact if_neg fun h => h.elim hplus hminus

theorem not_mem_plain (h : Plain cs digits) : '.' ∉ cs := by
  intro hmem
  obtain hc | hc := mem_grouped h.grouped hmem
  · exact ne_of_isAsciiDigit hc rfl rfl
  · exact absurd hc (by decide)

/-- What is dropped at the front are leading zeros. -/
theorem exists_of_dropLeadingZeros (h : dropLeadingZeros cs = some body) :
    ∃ zeros, LeadingZeros zeros ∧ cs = zeros ++ body ∧ (body.head? = some '-' → zeros = []) := by
  cases cs with
  | nil => cases h
  | cons c rest =>
    rw [dropLeadingZeros] at h
    split at h
    · rename_i hc
      subst hc
      obtain ⟨hhead, zeros, hzeros, heq⟩ := exists_of_dropZerosAfter (.inl rfl) h
      refine ⟨zeros, ?_, heq, fun h => absurd h hhead⟩
      cases zeros with
      | nil => exact .inl rfl
      | cons c more =>
        rw [← (List.cons.inj heq).1]
        exact .inr ⟨more, fun c hc => hzeros c (List.mem_cons_of_mem _ hc), rfl⟩
    · split at h
      · obtain rfl := Option.some.inj h
        exact ⟨[], .inl rfl, rfl, fun _ => rfl⟩
      · cases h

/-- What the reader of a field makes of a text without white space around it. -/
theorem numeral_iff :
    (∃ body, dropLeadingZeros (dropPlus cs) = some body ∧
      plainInteger? (dropPointZeros body) = some n) ↔ Numeral cs n := by
  constructor
  · rintro ⟨body, hbody, hn⟩
    obtain ⟨zeros, hzeros, hcs, hminus⟩ := exists_of_dropLeadingZeros hbody
    obtain ⟨negative, core, digits, hparts, hplain, rfl⟩ := plainInteger?_eq_some_iff.mp hn
    obtain ⟨tail, htail, heq⟩ := exists_eq_dropPointZeros body
    cases negative with
    | true =>
      have hbody' : body = '-' :: (core ++ tail) := by
        rw [heq, show dropPointZeros body = '-' :: core from hparts]
        rfl
      subst hbody'
      have hnil := hminus rfl
      subst hnil
      obtain h | ⟨c, rest, -, h, hc⟩ := dropPlus_cases cs
      · rw [← h, hcs]
        exact .negative hplain htail
      · rw [h] at hcs
        exact absurd (List.cons.inj hcs).1 hc
    | false =>
      have hbody' : body = core ++ tail := by
        rw [heq, hparts.1]
      rw [hbody'] at hcs
      obtain h | ⟨c, rest, h, hdrop, -⟩ := dropPlus_cases cs
      · rw [← h, hcs]
        exact @Numeral.unsigned [] _ _ _ _ (.inl rfl) hzeros hplain htail
      · rw [h, ← hdrop, hcs]
        exact @Numeral.unsigned ['+'] _ _ _ _ (.inr rfl) hzeros hplain htail
  · intro h
    cases h with
    | negative plain pointZeros =>
      rename_i cs tail digits
      have hpoint : '.' ∉ '-' :: cs := by
        rw [List.mem_cons]
        rintro (h | h)
        · exact absurd h (by decide)
        · exact not_mem_plain plain h
      refine ⟨'-' :: (cs ++ tail), rfl, ?_⟩
      rw [← List.cons_append, dropPointZeros_append hpoint pointZeros]
      exact plainInteger?_eq_some_iff.mpr ⟨true, cs, digits, rfl, plain, rfl⟩
    | unsigned sign leadingZeros plain pointZeros =>
      rename_i plus zeros cs tail digits
      have hplus : dropPlus (plus ++ (zeros ++ (cs ++ tail))) = zeros ++ (cs ++ tail) := by
        obtain ⟨c, rest, heq, hc⟩ := head_unsigned leadingZeros plain tail
        rw [heq]
        obtain rfl | rfl := sign
        · exact (dropPlus_digit hc).1
        · exact (dropPlus_digit hc).2
      have hhead : cs.head? ≠ some '-' := by
        obtain ⟨c, d, rest, ds, rfl, -, hc⟩ := exists_cons_of_grouped plain.grouped
        intro h
        exact ne_of_isAsciiDigit (isAsciiDigit_of_eq_some hc) rfl (Option.some.inj h)
      refine ⟨cs ++ tail, ?_, ?_⟩
      · rw [hplus, dropLeadingZeros_plain leadingZeros plain pointZeros]
      · rw [dropPointZeros_append (not_mem_plain plain) pointZeros]
        exact plainInteger?_eq_some_iff.mpr ⟨false, cs, digits, ⟨rfl, hhead⟩, plain, rfl⟩

/-! ## White space around a text -/

theorem isWhiteSpace_of_digit {c : Char} (hc : isAsciiDigit c = true) : isWhiteSpace c = false := by
  obtain ⟨d, hd⟩ := Option.isSome_iff_exists.mp hc
  unfold asciiDigit? at hd
  split at hd
  · rename_i hrange
    have hle : 0x30 ≤ c.toNat := hrange.1
    have hge : c.toNat ≤ 0x39 := hrange.2
    have hblank : isBlank c = false := by
      unfold isBlank
      simp only [Bool.or_eq_false_iff, Bool.and_eq_false_iff, decide_eq_false_iff_not,
        beq_eq_false_iff_ne]
      omega
    rw [isWhiteSpace, hblank, Bool.false_and]
  · cases hd

theorem mem_leadingZeros (h : LeadingZeros zeros) {c : Char} (hc : c ∈ zeros) :
    c = '0' ∨ c = '_' := by
  obtain rfl | ⟨rest, hrest, rfl⟩ := h
  · cases hc
  · obtain rfl | hc := List.mem_cons.mp hc
    · exact .inl rfl
    · exact hrest c hc

theorem mem_pointZeros (h : PointZeros tail) {c : Char} (hc : c ∈ tail) : c = '0' ∨ c = '.' := by
  obtain rfl | ⟨zeros, -, hzeros, rfl⟩ := h
  · cases hc
  · obtain rfl | hc := List.mem_cons.mp hc
    · exact .inr rfl
    · exact .inl (hzeros c hc)

/-- No character of a written integer is white space. -/
theorem not_white_of_numeral (h : Numeral cs n) {c : Char} (hc : c ∈ cs) :
    isWhiteSpace c = false := by
  have hmarks : ∀ c ∈ ['0', '_', '.', '-', '+'], isWhiteSpace c = false := by
    simp only [List.forall_mem_cons, List.not_mem_nil, false_implies, implies_true, and_true]
    decide
  have hdigits : ∀ {cs digits}, Plain cs digits → c ∈ cs → isWhiteSpace c = false := by
    intro cs digits hplain hc
    obtain hc | rfl := mem_grouped hplain.grouped hc
    · exact isWhiteSpace_of_digit hc
    · exact hmarks _ (by decide)
  have htail : ∀ {tail}, PointZeros tail → c ∈ tail → isWhiteSpace c = false := by
    intro tail htail hc
    obtain rfl | rfl := mem_pointZeros htail hc
    · exact hmarks _ (by decide)
    · exact hmarks _ (by decide)
  cases h with
  | negative plain pointZeros =>
    obtain rfl | hc := List.mem_cons.mp hc
    · exact hmarks _ (by decide)
    · exact (List.mem_append.mp hc).elim (hdigits plain) (htail pointZeros)
  | unsigned sign leadingZeros plain pointZeros =>
    obtain hc | hc := List.mem_append.mp hc
    · obtain rfl | rfl := sign
      · cases hc
      · rw [List.mem_singleton.mp hc]
        exact hmarks _ (by decide)
    · obtain hc | hc := List.mem_append.mp hc
      · obtain rfl | rfl := mem_leadingZeros leadingZeros hc
        · exact hmarks _ (by decide)
        · exact hmarks _ (by decide)
      · exact (List.mem_append.mp hc).elim (hdigits plain) (htail pointZeros)

/-- A text that writes an integer, perhaps with white space around it, and is not too long. -/
def FieldText (cs : List Char) (n : Int) : Prop :=
  encodedLength cs ≤ maxDigits ∧ ∃ before core after, cs = before ++ core ++ after ∧
    (∀ c ∈ before, isWhiteSpace c) ∧ (∀ c ∈ after, isWhiteSpace c) ∧ Numeral core n

/-- A text is encoded in as many bytes as it has characters, at least. -/
theorem length_le_encodedLength (cs : List Char) : cs.length ≤ encodedLength cs := by
  induction cs with
  | nil => exact Nat.le_refl 0
  | cons c rest ih =>
    have hpos : 0 < (Utf8.encodeChar c).length := by
      unfold Utf8.encodeChar
      dsimp only
      repeat' split
      all_goals exact Nat.succ_pos _
    unfold encodedLength Utf8.encode at ih ⊢
    rw [List.flatMap_cons, List.length_append, List.length_cons]
    omega

/-- An integer that is written in a text has no more digits than the text has characters. -/
theorem length_le_of_numeral (h : Numeral cs n) : (naturalText n.natAbs).length ≤ cs.length := by
  have hplain : ∀ {body digits} {negative : Bool}, Plain body digits → body.length ≤ cs.length →
      (naturalText (signed negative (ofDigits digits)).natAbs).length ≤ cs.length := by
    intro body digits negative hplain hbody
    have hdigits := length_le_of_grouped hplain.grouped
    have hpos : 0 < digits.length := by
      obtain ⟨c, d, rest, ds, -, rfl, -⟩ := exists_cons_of_grouped hplain.grouped
      exact Nat.succ_pos _
    rw [natAbs_signed]
    exact length_naturalText_ofDigits (by omega) (lt_of_mem_grouped hplain.grouped) (by omega)
  cases h with
  | @negative body tail digits plain pointZeros =>
    refine @hplain body digits true plain ?_
    rw [List.length_cons, List.length_append]
    omega
  | @unsigned plus zeros body tail digits sign leadingZeros plain pointZeros =>
    refine @hplain body digits false plain ?_
    simp only [List.length_append]
    omega

/-- The reader of a field takes no integer of more than 4300 digits. -/
theorem length_le_of_fieldText (h : FieldText cs n) :
    (naturalText n.natAbs).length ≤ maxDigits := by
  obtain ⟨hlength, before, core, after, rfl, -, -, hcore⟩ := h
  have hnumeral := length_le_of_numeral hcore
  have hencoded := length_le_encodedLength (before ++ core ++ after)
  simp only [List.length_append] at hencoded
  omega

/-- The reader of a field accepts exactly the texts that write an integer. -/
theorem ofField_eq_number_iff : ofField cs = .number n ↔ FieldText cs n := by
  have hread : ofField cs = .number n ↔ encodedLength cs ≤ maxDigits ∧
      Numeral (trimBy isWhiteSpace cs) n := by
    rw [← numeral_iff]
    unfold ofField
    split
    · rename_i hlength
      refine ⟨fun h => (nomatch h), fun h => absurd h.1 (Nat.not_le_of_lt hlength)⟩
    · rename_i hlength
      cases hbody : dropLeadingZeros (dropPlus (trimBy isWhiteSpace cs)) with
      | none => exact ⟨fun h => (nomatch h), fun ⟨_, _, h, _⟩ => (nomatch h)⟩
      | some body =>
        dsimp only
        cases hn : plainInteger? (dropPointZeros body) with
        | none =>
          refine ⟨fun h => (nomatch h), fun ⟨_, _, h, hn'⟩ => ?_⟩
          rw [← Option.some.inj h, hn] at hn'
          cases hn'
        | some m =>
          constructor
          · intro h
            obtain rfl := FieldNumber.number.inj h
            exact ⟨Nat.le_of_not_lt hlength, body, rfl, hn⟩
          · rintro ⟨-, _, h, hn'⟩
            rw [← Option.some.inj h, hn] at hn'
            rw [Option.some.inj hn']
  rw [hread]
  refine and_congr_right fun _ => ⟨fun h => ?_, ?_⟩
  · obtain ⟨before, after, heq, hbefore, hafter⟩ := exists_eq_trimBy isWhiteSpace cs
    exact ⟨before, _, after, heq, hbefore, hafter, h⟩
  · rintro ⟨before, core, after, rfl, hbefore, hafter, h⟩
    rw [trimBy_surrounded hbefore (fun c hc => not_white_of_numeral h hc) hafter]
    exact h

end Number

/-! ## Values that stand for an integer -/

/-- A number has no fraction and is an integer. -/
def Number.Binary64.IsInteger : Binary64 → Int → Prop
  | .finite negative significand exponent, n =>
    n * (1 <<< (-exponent).toNat : Nat) = signed negative (significand <<< exponent.toNat)
  | _, _ => False

namespace Shape

open Number

/-- The integer that a value stands for. -/
inductive StandsFor : Json → Int → Prop where
  | int (n : Int) : StandsFor (.int n) n
  | true : StandsFor (.bool true) 1
  | false : StandsFor (.bool false) 0
  -- a number without a fraction, between the bounds of a word
  | float {x : Binary64} {n : Int} (whole : x.IsInteger n) (above : leastWord < n)
      (below : n ≤ greatestWord) : StandsFor (.float x) n
  | text {s : String} {n : Int} (field : FieldText s.toList n) : StandsFor (.string s) n

/-- A sign may be put before a product or before its first factor. -/
theorem signed_mul (negative : Bool) (a b : Nat) :
    signed negative (a * b) = signed negative a * b := by
  cases negative with
  | true =>
    have hneg : -((a * b : Nat) : Int) = -(a : Int) * b := by
      rw [Int.natCast_mul, Int.neg_mul]
    exact hneg
  | false => exact Int.natCast_mul a b

/-- A quotient is an integer if the denominator times it is the numerator. -/
theorem signed_div_iff {negative : Bool} {num den : Nat} {n : Int} (hden : 0 < den) :
    (num % den = 0 ∧ signed negative (num / den) = n) ↔ n * den = signed negative num := by
  constructor
  · rintro ⟨hmod, rfl⟩
    rw [← signed_mul, Nat.div_mul_cancel (Nat.dvd_of_mod_eq_zero hmod)]
  · intro h
    have hnum : n.natAbs * den = num := by
      have habs := congrArg Int.natAbs h
      rwa [natAbs_signed, Int.natAbs_mul, Int.natAbs_natCast] at habs
    subst hnum
    have hpos : (den : Int) ≠ 0 := by omega
    refine ⟨Nat.mul_mod_left _ _, ?_⟩
    rw [Nat.mul_div_cancel _ hden]
    rw [signed_mul] at h
    exact (Int.eq_of_mul_eq_mul_right hpos h).symm

/-- A number is read as an integer exactly if it is one. -/
theorem toInt?_eq_some_iff {x : Binary64} {n : Int} : x.toInt? = some n ↔ x.IsInteger n := by
  cases x with
  | nan => exact ⟨fun h => (nomatch h), fun h => h.elim⟩
  | infinite negative => exact ⟨fun h => (nomatch h), fun h => h.elim⟩
  | finite negative significand exponent =>
    have hscale : Binary64.magnitude significand exponent =
        (significand <<< exponent.toNat, 1 <<< (-exponent).toNat) := by
      unfold Binary64.magnitude Binary64.scale
      split
      · have h0 : (-exponent).toNat = 0 := by omega
        rw [h0]
        rfl
      · have h0 : exponent.toNat = 0 := by omega
        rw [h0]
        rfl
    have hden : 0 < 1 <<< (-exponent).toNat := by
      rw [Nat.one_shiftLeft]
      exact Nat.two_pow_pos _
    rw [Binary64.IsInteger, ← signed_div_iff hden, Binary64.toInt?, hscale]
    dsimp only
    rw [Option.ite_none_right_eq_some, Option.some.injEq]

/-- The reader finds the integer for which a value stands, and nothing else. -/
theorem integerOf_eq_ok_iff {v : Json} {n : Int} : integerOf v = .ok n ↔ StandsFor v n := by
  cases v with
  | int m =>
    constructor
    · intro h
      rw [Except.ok.inj h]
      exact .int n
    · rintro ⟨⟩
      rfl
  | bool b =>
    constructor
    · intro h
      rw [← Except.ok.inj h]
      cases b with
      | true => exact .true
      | false => exact .false
    · rintro ⟨⟩ <;> rfl
  | float x =>
    have hword : ∀ m, (fitsWord m && m != leastWord) = true ↔ leastWord < m ∧ m ≤ greatestWord := by
      intro m
      simp only [fitsWord, Bool.and_eq_true, decide_eq_true_eq, bne_iff_ne]
      omega
    have hfinite : ∀ m, x.toInt? = some m → x.isFinite = true := by
      intro m h
      cases x with
      | finite => rfl
      | _ => cases h
    rw [integerOf]
    constructor
    · intro h
      split at h
      · cases h
      · split at h
        · cases h
        · rename_i m hm
          split at h
          · rename_i hfits
            obtain rfl := Except.ok.inj h
            obtain ⟨habove, hbelow⟩ := (hword m).mp hfits
            exact .float (toInt?_eq_some_iff.mp hm) habove hbelow
          · cases h
    · intro h
      cases h with
      | float whole above below =>
        have hm := toInt?_eq_some_iff.mpr whole
        rw [hfinite n hm, hm]
        exact if_pos ((hword n).mpr ⟨above, below⟩)
  | string s =>
    have hread : integerOf (.string s) = .ok n ↔ ofField s.toList = .number n := by
      rw [integerOf]
      cases ofField s.toList with
      | number m =>
        constructor
        · exact fun h => congrArg _ (Except.ok.inj h)
        · exact fun h => congrArg _ (FieldNumber.number.inj h)
      | _ =>
        constructor <;>
        · intro h
          cases h
    rw [hread, ofField_eq_number_iff]
    constructor
    · exact fun h => .text h
    · intro h
      cases h with
      | text field => exact field
  | _ =>
    constructor <;>
    · intro h
      cases h

end Shape

end ChatRiddles
