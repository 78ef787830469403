import ChatRiddles.Proofs.EncodedTexts
import ChatRiddles.Service.Target
import Mathlib.Data.List.TakeWhile
/-!
# Texts in the targets of requests

A text that is percent-encoded stands for itself: its bytes are written as percent signs with two
digits, or as the characters of ASCII that need none, and reading them gives the text. What is
written holds no slash, no question mark and no hash, so it is a piece of a path of its own. A
client sends it as it is, unless it is one of the pieces that lead elsewhere in a tree of folders.

Main statements: `Text.Percent.decode_encode`, `Target.path_encoded`, `Target.sent_encoded`.
-/

namespace ChatRiddles

namespace Text

/-! ## Bytes -/

namespace Utf8

/-- Bytes that are a text are read as the text where other bytes would be replaced, too. -/
theorem decodeReplacingFrom_of_decodeFrom {offset start : Nat} {pending : Option Pending}
    {bytes : List UInt8} {cs : List Char}
    (h : decodeFrom leading? Char.ofNat offset start pending bytes = .ok cs) :
    decodeReplacingFrom pending bytes = cs := by
  induction bytes generalizing offset start pending cs with
  | nil =>
    cases pending with
    | none => exact Except.ok.inj h
    | some p => cases h
  | cons b rest ih =>
    -- a step that succeeds is the same for both
    have hnext : ∀ {bits start},
        (decodeFrom leading? Char.ofNat (offset + 1) start none rest).map (Char.ofNat bits :: ·) =
            .ok cs →
          Char.ofNat bits :: decodeReplacingFrom none rest = cs := by
      intro bits start hmap
      cases hrest : decodeFrom leading? Char.ofNat (offset + 1) start none rest with
      | error e =>
        rw [hrest] at hmap
        cases hmap
      | ok ds =>
        rw [hrest] at hmap
        rw [ih hrest]
        exact Except.ok.inj hmap
    cases pending with
    | none =>
      rw [decodeFrom] at h
      rw [decodeReplacingFrom]
      simp only [Option.bind_none, Option.isSome_none, Bool.false_eq_true, if_false,
        List.nil_append]
      cases hb : leading? b with
      | none =>
        rw [hb] at h
        cases h
      | some p =>
        obtain ⟨owed, low, high, bits⟩ := p
        simp only [hb] at h
        cases owed with
        | zero => exact hnext h
        | succ owed => exact ih h
    | some p =>
      rw [decodeFrom] at h
      rw [decodeReplacingFrom]
      simp only [Option.bind_some]
      cases hb : p.next? b with
      | none =>
        simp only [hb] at h
        cases h
      | some p =>
        obtain ⟨owed, low, high, bits⟩ := p
        simp only [hb] at h
        cases owed with
        | zero => exact hnext h
        | succ owed => exact ih h

/-- Nothing of a well-formed text is replaced. -/
theorem decodeReplacing_encode (cs : List Char) : decodeReplacing (encode cs) = cs :=
  decodeReplacingFrom_of_decodeFrom (decode_encode cs)

end Utf8

/-! ## Percent signs -/

namespace Percent

variable {c : Char} {b : UInt8} {rest plain cs : List Char}

/-- A byte has two hexadecimal digits, the high half first. -/
theorem hexDigits_two (n : Nat) : hexDigits 2 n = [hexDigit (n / 16 % 16), hexDigit (n % 16)] := rfl

/-- A digit in upper case has the value that it has in lower case, and stands for itself in an
address. -/
theorem hexDigit_toUpper {n : Nat} (h : n < 16) :
    hexValue? (hexDigit n).toUpper = some n ∧ isUnreserved (hexDigit n).toUpper = true := by
  revert n
  decide

/-- A byte that is written is read. -/
theorem bytes_encodeByte : bytes (encodeByte b ++ rest) = b :: bytes rest := by
  have hb : b.toNat < 256 := b.toNat_lt
  have hfirst := hexDigit_toUpper (Nat.mod_lt (b.toNat / 16) (show 0 < 16 by decide))
  have hsecond := hexDigit_toUpper (Nat.mod_lt b.toNat (show 0 < 16 by decide))
  have hvalue : b.toNat / 16 % 16 * 16 + b.toNat % 16 = b.toNat := by omega
  rw [encodeByte, hexDigits_two]
  simp only [List.map_cons, List.map_nil, List.cons_append, List.nil_append]
  rw [bytes]
  simp only [hfirst.1, hsecond.1, hvalue, UInt8.ofNat_toNat]

/-- Escaped bytes are read back, whatever follows. -/
theorem bytes_encodeBytes (bs : List UInt8) :
    bytes (bs.flatMap encodeByte ++ rest) = bs ++ bytes rest := by
  induction bs with
  | nil => rfl
  | cons b bs ih =>
    rw [List.flatMap_cons, List.append_assoc, bytes_encodeByte, ih, List.cons_append]

/-- A character that is no percent sign stands for itself. -/
theorem bytes_cons (h : c ≠ '%') : bytes (c :: rest) = Utf8.encodeChar c ++ bytes rest := by
  cases rest with
  | nil => rw [bytes]; exact fun _ _ _ hc _ => absurd hc h
  | cons a rest =>
    rw [bytes]
    exact fun _ _ _ hc _ => absurd hc h

/-- Characters other than the mark of an escape stand for their bytes. -/
theorem bytes_plain (h : '%' ∉ plain) :
    bytes (plain ++ rest) = Utf8.encode plain ++ bytes rest := by
  induction plain with
  | nil => rfl
  | cons c cs ih =>
    rw [List.mem_cons, not_or] at h
    rw [List.cons_append, bytes_cons (Ne.symm h.1), ih h.2, Utf8.encode_cons, List.append_assoc]

/-- What a text is written as is read as its bytes. -/
theorem bytes_encode : bytes (encode cs ++ rest) = Utf8.encode cs ++ bytes rest := by
  induction cs with
  | nil => rfl
  | cons c cs ih =>
    have hchar : ∀ rest, bytes (encodeChar c ++ rest) = Utf8.encodeChar c ++ bytes rest := by
      intro rest
      unfold encodeChar
      by_cases hc : isUnreserved c = true
      · rw [if_pos hc, List.singleton_append]
        apply bytes_cons
        rintro rfl
        revert hc
        decide
      · rw [if_neg hc]
        exact bytes_encodeBytes _
    rw [encode, List.flatMap_cons, List.append_assoc, hchar]
    rw [encode] at ih
    rw [ih, Utf8.encode_cons, List.append_assoc]

/-- Reading what a text is written as gives the text, also behind characters that stand for
themselves. -/
theorem decode_encode (h : '%' ∉ plain) : decode (plain ++ encode cs) = plain ++ cs := by
  have hbytes : bytes (plain ++ encode cs) = Utf8.encode (plain ++ cs) := by
    have hcs := @bytes_encode [] cs
    rw [List.append_nil, bytes, List.append_nil] at hcs
    rw [bytes_plain h, hcs, Utf8.encode_append]
  rw [decode, hbytes, Utf8.decodeReplacing_encode]

/-- What stands for itself is written for no other text. -/
theorem encode_ne (hplain : decode plain = plain) (h : cs ≠ plain) : encode cs ≠ plain := by
  intro heq
  have hcs : decode (encode cs) = cs := @decode_encode [] cs List.not_mem_nil
  rw [heq, hplain] at hcs
  exact h hcs.symm

/-- A text is written in characters that stand for themselves, and percent signs. -/
theorem isUnreserved_of_mem_encode (h : c ∈ encode cs) : c = '%' ∨ isUnreserved c = true := by
  obtain ⟨d, -, hc⟩ := List.mem_flatMap.mp h
  unfold encodeChar at hc
  split at hc
  next hd =>
    rw [List.mem_singleton.mp hc]
    exact .inr hd
  next =>
    obtain ⟨b, -, hc⟩ := List.mem_flatMap.mp hc
    rw [encodeByte, hexDigits_two] at hc
    simp only [List.map_cons, List.map_nil, List.mem_cons, List.not_mem_nil, or_false] at hc
    rcases hc with rfl | rfl | rfl
    · exact .inl rfl
    · exact .inr (hexDigit_toUpper (Nat.mod_lt _ (by decide))).2
    · exact .inr (hexDigit_toUpper (Nat.mod_lt _ (by decide))).2

/-- So none of them ends a piece of a path. -/
theorem not_mem_encode (h : c ∈ ['/', '?', '#']) : c ∉ encode cs := by
  intro hmem
  simp only [List.mem_cons, List.not_mem_nil, or_false] at h
  rcases h with rfl | rfl | rfl <;>
    exact absurd (isUnreserved_of_mem_encode hmem) (by decide)

end Percent

end Text

/-! ## Paths -/

namespace Target

open Text

/-- The folder of the riddles. -/
def riddleFolder : List Char := "/api/riddles/".toList

/-- Nothing that is written behind the path of the folder is a query. -/
theorem withoutQuery_encoded (cs : List Char) :
    withoutQuery (riddleFolder ++ Percent.encode cs) = riddleFolder ++ Percent.encode cs := by
  rw [withoutQuery, List.takeWhile_eq_self_iff]
  intro c hc
  rcases List.mem_append.mp hc with hc | hc
  · have hfolder : (riddleFolder.all fun c => c != '?' && c != '#') = true := by decide
    exact List.all_eq_true.mp hfolder c hc
  · have hmark : c ≠ '?' := fun h => Percent.not_mem_encode (by decide) (h ▸ hc)
    have hhash : c ≠ '#' := fun h => Percent.not_mem_encode (by decide) (h ▸ hc)
    simp [hmark, hhash]

/-- What is written leads from the folder to a piece in it. -/
theorem resolved_encoded {cs : List Char} (hdot : cs ≠ ['.']) (hdots : cs ≠ ['.', '.']) :
    resolved (riddleFolder ++ Percent.encode cs) = riddleFolder ++ Percent.encode cs := by
  have hpiece : Percent.encode cs ≠ ['.'] := Percent.encode_ne (by decide) hdot
  have hpieces : Percent.encode cs ≠ ['.', '.'] := Percent.encode_ne (by decide) hdots
  have hsplit : splitAt '/' (Percent.encode cs) = [Percent.encode cs] :=
    splitAt_of_not_mem (Percent.not_mem_encode (by decide))
  have hsplits : splitAt '/' (riddleFolder ++ Percent.encode cs) =
      [[], "api".toList, "riddles".toList] ++ splitAt '/' (Percent.encode cs) := rfl
  have hfolder : [[], "api".toList, "riddles".toList].foldl enter [] =
      ["riddles".toList, "api".toList, []] := by decide
  have henter : enter ["riddles".toList, "api".toList, []] (Percent.encode cs) =
      [Percent.encode cs, "riddles".toList, "api".toList, []] := by
    unfold enter
    rw [if_neg hpiece, if_neg hpieces]
  rw [resolved, hsplits, List.foldl_append, hfolder, hsplit, List.foldl_cons, List.foldl_nil,
    henter]
  rfl

/-- Behind the path of the folder a server reads what has been written. -/
theorem path_encoded (cs : List Char) :
    path (String.ofList (riddleFolder ++ Percent.encode cs)) = riddleFolder ++ cs := by
  rw [path, String.toList_ofList, withoutQuery_encoded]
  exact Percent.decode_encode (by decide)

/-- A client sends it as it is, unless it is one of the pieces that lead elsewhere. -/
theorem sent_encoded {cs : List Char} (hdot : cs ≠ ['.']) (hdots : cs ≠ ['.', '.']) :
    sent (String.ofList (riddleFolder ++ Percent.encode cs)) =
      String.ofList (riddleFolder ++ Percent.encode cs) := by
  have hhost : withoutHost (riddleFolder ++ Percent.encode cs) =
      riddleFolder ++ Percent.encode cs := rfl
  have hslash : '/' :: (riddleFolder ++ Percent.encode cs).dropWhile (· == '/') =
      riddleFolder ++ Percent.encode cs := rfl
  simp only [sent, String.toList_ofList, hhost, withoutQuery_encoded, hslash,
    resolved_encoded hdot hdots, List.drop_length, List.takeWhile_nil, List.append_nil]

end Target

end ChatRiddles
