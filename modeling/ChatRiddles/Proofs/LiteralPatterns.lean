import ChatRiddles.Proofs.InputForms
import Mathlib.Data.List.Infix
/-!
# Patterns without special characters

A character that is not special stands for itself in a pattern. A pattern of such characters alone
compiles to the sequence of them, and since a pattern may be found anywhere, it is found in the
texts of which its own text is a part, at the beginning, in the middle or at the end.

Main statement: `Definition.literal_found_iff`.
-/

namespace ChatRiddles

namespace Pattern

/-- The characters that do not stand for themselves in a pattern. -/
def specials : List Char :=
  ['.', '^', '$', '*', '+', '?', '\x7b', '\x7d', '[', ']', '\\', '|', '(', ')']

/-- A text without special characters. -/
def Literal (text : List Char) : Prop := ∀ c ∈ text, c ∉ specials

/-- The items that stand for the characters of a text. -/
def codes (text : List Char) : List Node := text.map fun c => .code c.toNat

variable {text : List Char} {c : Char}

/-- The first character of a literal text is none of the special ones. -/
theorem Literal.head (h : Literal (c :: text)) : c ∉ specials := h c List.mem_cons_self

/-- What follows the first character of a literal text is literal. -/
theorem Literal.tail (h : Literal (c :: text)) : Literal text := by
  intro c' hc'
  exact h c' (List.mem_cons_of_mem c hc')

theorem ne_of_not_special {a : Char} (h : c ∉ specials) (ha : a ∈ specials) : c ≠ a := by
  rintro rfl
  exact h ha

/-! ## Reading -/

/-- A character other than a backslash is a token of its own. -/
theorem ofChars_cons (hc : c ≠ '\\') (rest : List Char) :
    Token.ofChars (c :: rest) = .plain c :: Token.ofChars rest := by
  conv_lhs => unfold Token.ofChars
  split
  next heq => cases heq
  next heq => exact absurd (List.cons.inj heq).1 hc
  next heq => exact absurd (List.cons.inj heq).1 hc
  next heq =>
    obtain ⟨rfl, rfl⟩ := List.cons.inj heq
    rfl

theorem ofChars_literal (h : Literal text) : Token.ofChars text = text.map .plain := by
  induction text with
  | nil => rfl
  | cons c rest ih =>
    have hc : c ≠ '\\' := ne_of_not_special h.head (by decide)
    rw [ofChars_cons hc, ih h.tail, List.map_cons]

/-- Nothing is refused before plain tokens. -/
theorem lookAhead_plain (text : List Char) : lookAhead (text.map .plain) = .ok () := by
  cases text with
  | nil => rfl
  | cons c rest => rfl

/-- A character that is not special stands for itself. -/
theorem readPlain_of_not_special {r : Reading} {s : List Token} (hv : r.level.verbose = false)
    (hc : c ∉ specials) : readPlain r c s = .ok (r.push (.code c.toNat), Tail.all s) := by
  unfold readPlain
  simp only [hv, Bool.false_and, Bool.false_eq_true, if_false]
  split
  case h_10 => rfl
  all_goals exact absurd (by decide) hc

/-- A step over a literal text reads one such character. -/
theorem readStep_literal {r : Reading} (hv : r.level.verbose = false) (hc : c ∉ specials) :
    readStep r (.plain c) (text.map .plain) =
      .ok (some (r.push (.code c.toNat), Tail.all _)) := by
  unfold readStep
  split
  next heq => exact absurd (Token.plain.inj heq) (ne_of_not_special hc (by decide))
  next heq => exact absurd (Token.plain.inj heq) (ne_of_not_special hc (by decide))
  next c' heq =>
    obtain rfl := Token.plain.inj heq
    rw [lookAhead_plain]
    show (readPlain r c _ >>= fun read => .ok (some read)) = _
    rw [readPlain_of_not_special hv hc]
    rfl
  next heq => cases heq
  next heq => cases heq

/-- Each character is read as the item that stands for it. -/
theorem readTokens_literal {r : Reading} (hv : r.level.verbose = false) (h : Literal text) :
    readTokens r (text.map .plain) =
      .ok ({ r with level := { r.level with items := (codes text).reverse ++ r.level.items } },
        []) := by
  induction text generalizing r with
  | nil =>
    unfold readTokens
    rfl
  | cons c rest ih =>
    -- what is read is pushed, so the items are there last first
    rw [List.map_cons]
    unfold readTokens
    rw [readStep_literal hv h.head]
    show readTokens (r.push (.code c.toNat)) (rest.map .plain) = _
    rw [@ih (r.push (.code c.toNat)) hv h.tail]
    show Except.ok _ = Except.ok _
    simp [codes, Reading.push, Level.push]

/-- Characters are in no group that could be taken apart. -/
theorem ungrouped_codes (text : List Char) : ungrouped (codes text) = codes text := by
  induction text with
  | nil => rfl
  | cons c rest ih =>
    show [Node.code c.toNat] ++ ungrouped (codes rest) = _
    rw [ih]
    rfl

/-- A literal text is parsed into its characters. -/
theorem parse_literal (h : Literal text) : parse text = .ok ⟨codes text, [.unicode], 0⟩ := by
  have hfinish : (Level.finish ⟨[], (codes text).reverse ++ [], false⟩) = codes text := by
    show ungrouped ((codes text).reverse ++ []).reverse = codes text
    rw [List.append_nil, List.reverse_reverse, ungrouped_codes]
  unfold parse
  simp only [ofChars_literal h, lookAhead_plain, readTokens_literal (r := .start) rfl h]
  show Except.ok (Parsed.mk (Level.finish ⟨[], (codes text).reverse ++ [], false⟩) _ _) = _
  rw [hfinish]
  rfl

/-! ## Compilation -/

theorem checkSequence_codes (template : Bool) (room : Nat) (text : List Char) :
    checkSequence template room (codes text) = .ok () := by
  induction text with
  | nil => rfl
  | cons c rest ih => exact ih

/-- A literal text compiles to its characters, with the flags of a text. -/
theorem compile_literal (h : Literal text) : compile text = .ok ⟨codes text, [.unicode], 0⟩ := by
  unfold compile
  rw [parse_literal h]
  show (checkSequence _ maxCalls (codes text) >>= fun _ => _) = _
  rw [checkSequence_codes]
  rfl

/-! ## Search -/

variable {characters : List Char} {position : Nat}

/-- A text begins at a position if its first character stands there and the rest of it begins at the
next one. -/
theorem cons_prefix_drop_iff {rest : List Char} :
    c :: rest <+: characters.drop position ↔
      characters[position]? = some c ∧ rest <+: characters.drop (position + 1) := by
  cases h : characters[position]? with
  | none =>
    rw [List.drop_eq_nil_of_le (List.getElem?_eq_none_iff.mp h), List.prefix_nil]
    simp
  | some c' =>
    obtain ⟨hlt, rfl⟩ := List.getElem?_eq_some_iff.mp h
    rw [List.drop_eq_getElem_cons hlt, List.cons_prefix_cons, Option.some.injEq, eq_comm]

theorem charIs_code {n : Nat} :
    charIs characters.toArray (codeMatches [.unicode] n) position = true ↔
      ∃ c, characters[position]? = some c ∧ c.toNat = n := by
  have hcode : codeMatches [.unicode] n = fun c => c.toNat == n := rfl
  rw [charIs, hcode, List.getElem?_toArray, Option.any_eq_true]
  simp only [beq_iff_eq]

/-- The items that stand for a text go on after it, where it begins. -/
theorem run_codes (cursor : Cursor) (k : Cursor → Option Cursor) :
    runSequence characters.toArray [.unicode] (codes text) cursor k =
      if text <+: characters.drop cursor.position then
        k { cursor with position := cursor.position + text.length }
      else none := by
  induction text generalizing cursor with
  | nil =>
    rw [if_pos List.nil_prefix]
    rfl
  | cons c rest ih =>
    show (if charIs characters.toArray (codeMatches [.unicode] c.toNat) cursor.position then
      runSequence characters.toArray [.unicode] (codes rest) _ k else none) = _
    have hhead : charIs characters.toArray (codeMatches [.unicode] c.toNat) cursor.position = true ↔
        characters[cursor.position]? = some c := by
      rw [charIs_code]
      constructor
      · rintro ⟨c', hc', hn⟩
        rw [hc', Char.toNat_inj.mp hn]
      · exact fun h => ⟨c, h, rfl⟩
    -- the first item takes the character at the position, the others go on at the next one
    rw [ih]
    by_cases h : characters[cursor.position]? = some c
    · simp only [hhead.mpr h, cons_prefix_drop_iff, h, true_and, if_true, List.length_cons,
        Nat.add_assoc, Nat.add_comm 1]
    · rw [if_neg (fun hc => h (hhead.mp hc)),
        if_neg (fun hc => h (cons_prefix_drop_iff.mp hc).1)]

theorem leadingSet?_codes {flags : Flags} : leadingSet? flags (codes text) = none := by
  cases text with
  | nil => simp only [codes, List.map_nil, leadingSet?]
  | cons c rest => simp only [codes, List.map_cons, leadingSet?]

/-- No position is sifted out: the items that stand for a text do not begin with a set. -/
theorem mayStart_codes {subject : Subject} :
    Parsed.mayStart ⟨codes text, [.unicode], 0⟩ subject position = true := by
  unfold Parsed.mayStart
  split
  · rfl
  · simp only [leadingSet?_codes]

/-- The characters of a literal text match exactly where they stand in a text. -/
theorem matchesAt_codes :
    Parsed.matchesAt ⟨codes text, [.unicode], 0⟩ characters.toArray position = true ↔
      text <+: characters.drop position := by
  unfold Parsed.matchesAt
  rw [run_codes]
  by_cases h : text <+: characters.drop position
  · simp [Cursor.start, h]
  · simp [Cursor.start, h]

/-- A text is part of another if it begins at one of its positions, the last of which is its
end. -/
theorem infix_iff_exists_prefix_drop :
    text <:+: characters ↔
      ∃ position < characters.length + 1, text <+: characters.drop position := by
  constructor
  · rintro ⟨u, w, rfl⟩
    have hlt : u.length < (u ++ text ++ w).length + 1 := by
      simp only [List.length_append]
      omega
    refine ⟨u.length, hlt, ?_⟩
    rw [List.append_assoc, List.drop_left]
    exact List.prefix_append _ _
  · rintro ⟨position, -, hprefix⟩
    exact hprefix.isInfix.trans (List.drop_suffix _ _).isInfix

/-- The items that stand for a text are found in the texts of which it is a part. -/
theorem foundIn_codes :
    Parsed.foundIn ⟨codes text, [.unicode], 0⟩ characters = true ↔ text <:+: characters := by
  unfold Parsed.foundIn
  rw [infix_iff_exists_prefix_drop, List.any_eq_true]
  simp only [mayStart_codes, Bool.true_and, matchesAt_codes, List.mem_range, List.size_toArray]

/-- A text without special characters is a pattern. -/
theorem exists_ofSource {content : String} (h : Literal content.toList) :
    ∃ p, ofSource content = .ok p ∧ p.parsed = ⟨codes content.toList, [.unicode], 0⟩ :=
  ⟨⟨content, _, compile_literal h⟩, ofSource_source ⟨content, _, compile_literal h⟩, rfl⟩

/-- It is found in the texts of which it is a part. -/
theorem isFoundIn_literal {p : Pattern} {content text : String}
    (h : p.parsed = ⟨codes content.toList, [.unicode], 0⟩) :
    p.isFoundIn text = true ↔ ∃ u w, text = u ++ content ++ w := by
  rw [isFoundIn, h, foundIn_codes]
  constructor
  · rintro ⟨u, w, hw⟩
    refine ⟨String.ofList u, String.ofList w, String.toList_inj.mp ?_⟩
    simp only [String.toList_append, String.toList_ofList]
    exact hw.symm
  · rintro ⟨u, w, rfl⟩
    exact ⟨u.toList, w.toList, by simp only [String.toList_append]⟩

end Pattern

namespace Definition

/-- Take a text without special characters. As a pattern it compiles, to one pattern. A document
compiles, in whatever form it is given, if its states have names of their own, the states that it
speaks of are among them, and its patterns other than this one compile. The pattern is found in
exactly the texts that are the text with anything before it and anything after it, and so in the
text itself. -/
theorem literal_found_iff (content : String) (hc : Pattern.Literal content.toList) :
    ∃ p : Pattern, p.source = content ∧
      (∀ prompt, Prompt.CompiledFrom (.regex content) prompt ↔ prompt = .regex p) ∧
      (∀ doc : Document,
        (∀ s ∈ doc.states, ∀ e ∈ s.edges, e.prompt ≠ .regex content → e.Compiles) →
        (doc.states.map (·.name)).Nodup →
        doc.initialState ∈ doc.states.map (·.name) →
        (∀ name ∈ doc.acceptingStates, name ∈ doc.states.map (·.name)) →
        (∀ s ∈ doc.states, ∀ e ∈ s.edges, LeadsTo (doc.states.map (·.name)) e.next) →
        ∃ d, ofDocument doc = .ok d ∧ d.CompiledFrom doc ∧
          ∀ form v, Document.DescribedBy v doc → ofJsonIn form v = .ok d) ∧
      ∀ text,
        ((Prompt.regex p).accepts text = true ↔ ∃ u w, text = u ++ content ++ w) ∧
        ((Prompt.text content).accepts text = true → (Prompt.regex p).accepts text = true) := by
  obtain ⟨p, hp, hparsed⟩ := Pattern.exists_ofSource hc
  have hfound : ∀ text, (Prompt.regex p).accepts text = true ↔ ∃ u w, text = u ++ content ++ w :=
    fun text => Pattern.isFoundIn_literal hparsed
  refine ⟨p, Pattern.source_of_ofSource hp, ?_, ?_, ?_⟩
  · intro prompt
    constructor
    · rintro ⟨⟩
      rename_i p' hp'
      rw [Except.ok.inj (hp'.symm.trans hp)]
    · rintro rfl
      exact .regex hp
  · intro doc hothers hdistinct hinitial haccepting htargets
    have hpatterns : ∀ s ∈ doc.states, ∀ e ∈ s.edges, e.Compiles := by
      intro s hs e he
      by_cases hprompt : e.prompt = .regex content
      · -- this pattern compiles whatever the document is
        intro content' h
        obtain rfl := Document.Prompt.regex.inj (hprompt.symm.trans h)
        exact ⟨p, hp⟩
      · exact hothers s hs e he hprompt
    obtain ⟨d, hd⟩ := exists_compiledFrom_iff.mpr hpatterns
    have hok : ofDocument doc = .ok d :=
      ofDocument_eq_ok_iff.mpr ⟨⟨hpatterns, hdistinct, hinitial, haccepting, htargets⟩, hd⟩
    refine ⟨d, hok, hd, fun form v hv => ?_⟩
    rw [ofJsonIn_of_document form (Document.ofJson_eq_ok_iff.mpr hv), hok]
  · refine fun text => ⟨hfound text, fun h => (hfound text).mpr ⟨"", "", ?_⟩⟩
    have htext : content = text := eq_of_beq h
    rw [htext, String.empty_append, String.append_empty]

/-- A riddle that is solved by a text in which a word is found. -/
def nightRiddle : Document :=
  ⟨"dusk", ["dawn"], [⟨"dusk", [⟨.regex "nuit é", [.message "!"], some "dawn"⟩]⟩, ⟨"dawn", []⟩]⟩

/-- The riddle compiles. The word is found at the end of a second line, after a beginning of it, and
it is not found where its last character is another. -/
theorem literal_found_iff_nightRiddle :
    Pattern.Literal "nuit é".toList ∧ ∃ p d, p.source = "nuit é" ∧
      ofDocument nightRiddle = .ok d ∧ d.CompiledFrom nightRiddle ∧
      (Prompt.regex p).accepts "une
nuit nuit é" = true ∧
      (Prompt.regex p).accepts "nuit e" = false := by
  have hliteral : Pattern.Literal "nuit é".toList := by
    simp [Pattern.Literal, Pattern.specials]
  obtain ⟨p, hsource, -, hcompiles, haccepts⟩ := literal_found_iff "nuit é" hliteral
  obtain ⟨d, hd, hfrom, -⟩ := hcompiles nightRiddle
    (by simp [nightRiddle]) (by decide) (by decide) (by decide)
    (by simp [nightRiddle, LeadsTo])
  refine ⟨hliteral, p, d, hsource, hd, hfrom, ?_, ?_⟩
  · exact (haccepts _).1.mpr ⟨"une
nuit ", "", by decide⟩
  · refine Bool.eq_false_iff.mpr fun h => ?_
    obtain ⟨u, w, hw⟩ := (haccepts _).1.mp h
    have hmem : 'é' ∈ "nuit e".toList := by
      rw [hw, String.toList_append, String.toList_append]
      exact List.mem_append_left _ (List.mem_append_right _ (by decide))
    exact absurd hmem (by decide)

end Definition

end ChatRiddles
