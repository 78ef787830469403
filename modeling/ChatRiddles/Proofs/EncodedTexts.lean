import ChatRiddles.Text.Utf8
import Mathlib.Tactic.IntervalCases
/-!
# Decoding encoded texts

The bytes of a character are read by the decoder as what they are: the first announces how many
follow, each of the others adds its six bits, and the bounds on the second exclude no character. So
decoding the bytes of a text gives the text. That is so with any bounds that are no narrower, such
as those that let surrogates through.

Main definition: `Text.Utf8.Admits`. Main statements: `Text.Utf8.decode_encode` and
`Text.Utf8.decodePoints_encode`.
-/

namespace ChatRiddles.Text.Utf8

variable {α : Type} {lead : UInt8 → Option Pending} {make : Nat → α}
variable {c : Char} {cs ds : List Char} {b : UInt8} {p q : Pending} {offset start m : Nat}
  {rest : List UInt8}

/-! ## Encoding -/

theorem encode_append : encode (cs ++ ds) = encode cs ++ encode ds := List.flatMap_append

theorem encode_cons : encode (c :: cs) = encodeChar c ++ encode cs := List.flatMap_cons

theorem encodeChar_of_lt (h : c.toNat < 0x80) : encodeChar c = [UInt8.ofNat c.toNat] := if_pos h

/-- The numbers of characters leave out the surrogates and end. -/
theorem toNat_bounds (c : Char) :
    c.toNat < 0xd800 ∨ (0xdfff < c.toNat ∧ c.toNat < 0x110000) := c.valid

/-- The bytes of a character outside ASCII are outside ASCII. -/
theorem le_of_mem_encodeChar (h : 0x80 ≤ c.toNat) (hb : b ∈ encodeChar c) : 0x80 ≤ b.toNat := by
  have hbounds := toNat_bounds c
  unfold encodeChar at hb
  dsimp only at hb
  split_ifs at hb <;>
    simp only [List.mem_cons, List.not_mem_nil, or_false] at hb <;>
    rcases hb with rfl | rfl | rfl | rfl <;>
    simp only [UInt8.toNat_ofNat'] <;> omega

/-! ## One byte of a character -/

/-- First bytes announce what characters begin with, and the second byte may lie higher. -/
def Admits (lead : UInt8 → Option Pending) : Prop :=
  ∀ {b p}, leading? b = some p →
    ∃ high, p.high ≤ high ∧ lead b = some ⟨p.owed, p.low, high, p.bits⟩

/-- The strict decoder admits what every decoder has to. -/
theorem admits_leading? : Admits leading? := fun h => ⟨_, UInt8.le_refl _, h⟩

/-- To let surrogates through, only the bound after one first byte is higher. -/
theorem admits_leadingPoint? : Admits leadingPoint? := by
  intro b p h
  unfold leadingPoint?
  by_cases hb : b = 0xed
  · subst hb
    obtain rfl := Option.some.inj h
    exact ⟨0xbf, by decide, rfl⟩
  · rw [if_neg hb]
    exact ⟨p.high, UInt8.le_refl _, h⟩

/-- A byte with which a character of several bytes begins. -/
theorem decodeFrom_first (h : lead b = some q) (hq : 0 < q.owed) :
    decodeFrom lead make offset start none (b :: rest) =
      decodeFrom lead make (offset + 1) offset (some q) rest := by
  obtain ⟨owed, low, high, bits⟩ := q
  cases owed with
  | zero => cases hq
  | succ owed =>
    rw [decodeFrom]
    simp only [h]

theorem leading?_two (hlow : 0xc2 ≤ m) (hhigh : m ≤ 0xdf) :
    leading? (UInt8.ofNat m) = some ⟨1, 0x80, 0xbf, m % 0x20⟩ := by
  interval_cases m <;> rfl

/-- First bytes of three; two of them restrict the second byte. -/
theorem leading?_three (hlow : 0xe0 ≤ m) (hhigh : m ≤ 0xef) :
    leading? (UInt8.ofNat m) =
      some ⟨2, if m = 0xe0 then 0xa0 else 0x80, if m = 0xed then 0x9f else 0xbf, m % 0x10⟩ := by
  interval_cases m <;> rfl

/-- First bytes of four; two of them restrict the second byte. -/
theorem leading?_four (hlow : 0xf0 ≤ m) (hhigh : m ≤ 0xf4) :
    leading? (UInt8.ofNat m) =
      some ⟨3, if m = 0xf0 then 0x90 else 0x80, if m = 0xf4 then 0x8f else 0xbf, m % 0x8⟩ := by
  interval_cases m <;> rfl

/-- A byte between the bounds adds its six bits. -/
theorem Pending.next?_tail (hm : m < 0x40) (hlow : p.low.toNat ≤ 0x80 + m)
    (hhigh : 0x80 + m ≤ p.high.toNat) :
    p.next? (UInt8.ofNat (0x80 + m)) =
      some ⟨p.owed - 1, 0x80, 0xbf, p.bits * 0x40 + m⟩ := by
  have hbyte : (UInt8.ofNat (0x80 + m)).toNat = 0x80 + m := by
    rw [UInt8.toNat_ofNat']
    omega
  have hwithin : p.low ≤ UInt8.ofNat (0x80 + m) ∧ UInt8.ofNat (0x80 + m) ≤ p.high := by
    constructor <;> rw [UInt8.le_iff_toNat_le, hbyte] <;> assumption
  have hbits : (0x80 + m) % 0x40 = m := by omega
  rw [Pending.next?, if_pos hwithin, hbyte, hbits]

/-- The last byte of a character. -/
theorem decodeFrom_last (howed : p.owed = 1) (hm : m < 0x40) (hlow : p.low.toNat ≤ 0x80 + m)
    (hhigh : 0x80 + m ≤ p.high.toNat) :
    decodeFrom lead make offset start (some p) (UInt8.ofNat (0x80 + m) :: rest) =
      (decodeFrom lead make (offset + 1) start none rest).map (make (p.bits * 0x40 + m) :: ·) := by
  rw [decodeFrom]
  simp only [Pending.next?_tail hm hlow hhigh, howed]

/-- A byte inside a character. -/
theorem decodeFrom_inner {owed : Nat} (howed : p.owed = owed + 2) (hm : m < 0x40)
    (hlow : p.low.toNat ≤ 0x80 + m) (hhigh : 0x80 + m ≤ p.high.toNat) :
    decodeFrom lead make offset start (some p) (UInt8.ofNat (0x80 + m) :: rest) =
      decodeFrom lead make (offset + 1) start (some ⟨owed + 1, 0x80, 0xbf, p.bits * 0x40 + m⟩)
        rest := by
  rw [decodeFrom]
  simp only [Pending.next?_tail hm hlow hhigh, howed]
  rfl

/-! ## Decoding -/

/-- The bytes of a character are decoded as what is made of its number. -/
theorem decodeFrom_encodeChar (hlead : Admits lead) :
    ∃ offset' start', decodeFrom lead make offset start none (encodeChar c ++ rest) =
      (decodeFrom lead make offset' start' none rest).map (make c.toNat :: ·) := by
  have hbounds := toNat_bounds c
  have hmake : ∀ bits, bits = c.toNat → make bits = make c.toNat := by
    rintro _ rfl
    rfl
  have htail : ∀ m, m % 0x40 < 0x40 := fun m => Nat.mod_lt m (by decide)
  have hlow : ∀ m, (0x80 : UInt8).toNat ≤ 0x80 + m % 0x40 := fun m => Nat.le_add_right _ _
  have hhigh : ∀ m, 0x80 + m % 0x40 ≤ (0xbf : UInt8).toNat := fun m =>
    Nat.add_le_add_left (Nat.le_of_lt_succ (htail m)) _
  unfold encodeChar
  dsimp only
  generalize c.toNat = n at *
  split_ifs with hone htwo hthree
  · have hbyte : (UInt8.ofNat n).toNat = n := by
      rw [UInt8.toNat_ofNat']
      omega
    have hleading : leading? (UInt8.ofNat n) = some ⟨0, 0x80, 0xbf, n⟩ := by
      rw [leading?, if_pos, hbyte]
      rw [UInt8.le_iff_toNat_le, hbyte]
      exact Nat.le_of_lt_succ hone
    obtain ⟨high, -, hfirst⟩ := hlead hleading
    refine ⟨offset + 1, offset, ?_⟩
    rw [List.singleton_append, decodeFrom]
    simp only [hfirst]
  · obtain ⟨high, hbound, hfirst⟩ :=
      hlead (leading?_two (m := 0xc0 + n / 0x40) (by omega) (by omega))
    refine ⟨offset + 1 + 1, offset, ?_⟩
    rw [List.cons_append, List.singleton_append, decodeFrom_first hfirst Nat.one_pos,
      decodeFrom_last rfl (htail n) (hlow n)
        (Nat.le_trans (hhigh n) (UInt8.le_iff_toNat_le.mp hbound)), hmake]
    dsimp only
    omega
  · -- the bounds on the second byte exclude what is too long and the surrogates
    have hlow' : (if 0xe0 + n / 0x1000 = 0xe0 then 0xa0 else 0x80 : UInt8).toNat ≤
        0x80 + n / 0x40 % 0x40 := by
      split_ifs <;> simp only [UInt8.reduceToNat] <;> omega
    have hhigh' : 0x80 + n / 0x40 % 0x40 ≤
        (if 0xe0 + n / 0x1000 = 0xed then 0x9f else 0xbf : UInt8).toNat := by
      split_ifs <;> simp only [UInt8.reduceToNat] <;> omega
    obtain ⟨high, hbound, hfirst⟩ :=
      hlead (leading?_three (m := 0xe0 + n / 0x1000) (by omega) (by omega))
    refine ⟨offset + 1 + 1 + 1, offset, ?_⟩
    rw [List.cons_append, List.cons_append, List.singleton_append,
      decodeFrom_first hfirst Nat.two_pos,
      decodeFrom_inner rfl (htail (n / 0x40)) hlow'
        (Nat.le_trans hhigh' (UInt8.le_iff_toNat_le.mp hbound)),
      decodeFrom_last rfl (htail n) (hlow n) (hhigh n), hmake]
    dsimp only
    omega
  · -- here they exclude what is too long and what no character has
    have hlow' : (if 0xf0 + n / 0x40000 = 0xf0 then 0x90 else 0x80 : UInt8).toNat ≤
        0x80 + n / 0x1000 % 0x40 := by
      split_ifs <;> simp only [UInt8.reduceToNat] <;> omega
    have hhigh' : 0x80 + n / 0x1000 % 0x40 ≤
        (if 0xf0 + n / 0x40000 = 0xf4 then 0x8f else 0xbf : UInt8).toNat := by
      split_ifs <;> simp only [UInt8.reduceToNat] <;> omega
    obtain ⟨high, hbound, hfirst⟩ :=
      hlead (leading?_four (m := 0xf0 + n / 0x40000) (by omega) (by omega))
    refine ⟨offset + 1 + 1 + 1 + 1, offset, ?_⟩
    rw [List.cons_append, List.cons_append, List.cons_append, List.singleton_append,
      decodeFrom_first hfirst (Nat.succ_pos 2),
      decodeFrom_inner rfl (htail (n / 0x1000)) hlow'
        (Nat.le_trans hhigh' (UInt8.le_iff_toNat_le.mp hbound)),
      decodeFrom_inner rfl (htail (n / 0x40)) (hlow _) (hhigh _),
      decodeFrom_last rfl (htail n) (hlow n) (hhigh n), hmake]
    dsimp only
    omega

/-- Decoding makes the same of each character that was encoded. -/
theorem decodeFrom_encode (hlead : Admits lead) :
    decodeFrom lead make offset start none (encode cs) = .ok (cs.map fun c => make c.toNat) := by
  induction cs generalizing offset start with
  | nil => rfl
  | cons c rest ih =>
    obtain ⟨offset', start', h⟩ :=
      @decodeFrom_encodeChar _ lead make c offset start (encode rest) hlead
    rw [encode_cons, h, ih]
    rfl

/-- Decoding gives back what was encoded. -/
theorem decode_encode (cs : List Char) : decode (encode cs) = .ok cs := by
  have hchars : (cs.map fun c => Char.ofNat c.toNat) = cs := by
    simp only [Char.ofNat_toNat, List.map_id']
  rw [decode, decodeFrom_encode admits_leading?, hchars]

/-- The number of a character is none of a surrogate. -/
theorem ofNat_toNat (c : Char) : CodePoint.ofNat c.toNat = .char c := by
  have hbounds := toNat_bounds c
  have hnone : ¬ (0xd800 ≤ c.toNat ∧ c.toNat < 0xe000) := by omega
  rw [CodePoint.ofNat, dif_neg hnone, Char.ofNat_toNat]

/-- A text in UTF-8 is decoded to its code points. -/
theorem decodePoints_encode (cs : List Char) : decodePoints (encode cs) = .ok (points cs) := by
  have hpoints : (cs.map fun c => CodePoint.ofNat c.toNat) = points cs := by
    simp only [ofNat_toNat, points]
  rw [decodePoints, decodeFrom_encode admits_leadingPoint?, hpoints]

end ChatRiddles.Text.Utf8
