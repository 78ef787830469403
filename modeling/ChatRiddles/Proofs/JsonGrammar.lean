import ChatRiddles.Proofs.JsonNames
import ChatRiddles.Proofs.References
/-!
# What the reader takes for a value

What the reader of JSON texts accepts is told by a grammar, part by part and without a stack. The
grammar keeps the fields of an object as they are written; in the value that is read, every name
that is written again has its last value.

The reader follows the grammar step by step: it comes from the place before a value to the place
behind it if and only if the value is spelled there, whatever containers are open.

Main definitions: `Json.DocumentText.Spells`, `Json.SpelledBy`. Main statements:
`Json.DocumentText.spells_of_read`, `Json.DocumentText.read_of_spells` and
`Json.ofDocumentText_eq_ok_iff`.
-/

namespace ChatRiddles.Json

/-! ## The grammar -/

namespace DocumentText

open Number Text

/-- The words of the format, each as its first letter, the others and the value. -/
def words : List (Char × List Char × Json) :=
  [('t', "rue".toList, .bool true), ('f', "alse".toList, .bool false), ('n', "ull".toList, .null)]

/-- A value that is no container, at the start of a text, and the rest of the text. -/
inductive SpellsScalar : Json → List UInt8 → List UInt8 → Prop where
  | string {text : String} {s more r : List UInt8} (hs : skipSpace s = byte '"' :: more)
      (h : Reads (string more) text r) : SpellsScalar (.string text) s r
  | word {v : Json} {letter : Char} {letters : List Char} {s more r : List UInt8}
      (hv : (letter, letters, v) ∈ words) (hs : skipSpace s = byte letter :: more)
      (h : ∃ hr, word letters more = .ok ⟨r, hr⟩) : SpellsScalar v s r
  | number {v : Json} {s r : List UInt8} (h : Reads (number (skipSpace s)) v r) :
      SpellsScalar v s r

mutual

/-- A value at the start of a text, and the rest of the text. At most `room` containers are around
each other in it, not counting those that are empty. -/
inductive Spells : (room : Nat) → Json → List UInt8 → List UInt8 → Prop where
  | scalar {room : Nat} {v : Json} {s r : List UInt8} (h : SpellsScalar v s r) : Spells room v s r
  | noItems {room : Nat} {s more r : List UInt8} (hs : skipSpace s = byte '[' :: more)
      (hmore : skipSpace more = byte ']' :: r) : Spells room (.array []) s r
  | array {room : Nat} {items : List Json} {s more r : List UInt8}
      (hs : skipSpace s = byte '[' :: more) (h : SpellsItems room items (skipSpace more) r) :
      Spells (room + 1) (.array items) s r
  | noFields {room : Nat} {s more r : List UInt8} (hs : skipSpace s = byte '\x7b' :: more)
      (hmore : skipSpace more = byte '\x7d' :: r) : Spells room (.object []) s r
  | object {room : Nat} {fields : List (String × Json)} {s more r : List UInt8}
      (hs : skipSpace s = byte '\x7b' :: more) (h : SpellsFields room fields more r) :
      Spells (room + 1) (.object fields) s r

/-- The items of an array up to its end, and the rest of the text. -/
inductive SpellsItems : (room : Nat) → List Json → List UInt8 → List UInt8 → Prop where
  | last {room : Nat} {v : Json} {s rest r : List UInt8} (h : Spells room v s rest)
      (hrest : skipSpace rest = byte ']' :: r) : SpellsItems room [v] s r
  | next {room : Nat} {v : Json} {items : List Json} {s rest more r : List UInt8}
      (h : Spells room v s rest) (hrest : skipSpace rest = byte ',' :: more)
      (hmore : SpellsItems room items more r) : SpellsItems room (v :: items) s r

/-- The fields of an object up to its end, and the rest of the text. -/
inductive SpellsFields : (room : Nat) → List (String × Json) → List UInt8 → List UInt8 → Prop where
  | last {room : Nat} {k : String} {v : Json} {s more rest rest' r : List UInt8}
      (hs : skipSpace s = byte '"' :: more) (hkey : Reads (DocumentText.key more) k rest)
      (h : Spells room v rest rest') (hrest : skipSpace rest' = byte '\x7d' :: r) :
      SpellsFields room [(k, v)] s r
  | next {room : Nat} {k : String} {v : Json} {fields : List (String × Json)}
      {s more rest rest' more' r : List UInt8}
      (hs : skipSpace s = byte '"' :: more) (hkey : Reads (DocumentText.key more) k rest)
      (h : Spells room v rest rest') (hrest : skipSpace rest' = byte ',' :: more')
      (hmore : SpellsFields room fields more' r) : SpellsFields room ((k, v) :: fields) s r

end

theorem mem_words_iff {letter : Char} {letters : List Char} {v : Json} :
    (letter, letters, v) ∈ words ↔ letter = 't' ∧ letters = "rue".toList ∧ v = .bool true ∨
      letter = 'f' ∧ letters = "alse".toList ∧ v = .bool false ∨
      letter = 'n' ∧ letters = "ull".toList ∧ v = .null := by
  simp [words]

/-! ## What steps lead to -/

variable {stack stack' : List Frame} {phase : Phase} {v j : Json} {s r : List UInt8}

/-- What a step from the place before a value leads to. -/
inductive Opens (stack : List Frame) (s : List UInt8) :
    List Frame → Phase → List UInt8 → Prop where
  | scalar {v : Json} {r : List UInt8} (h : SpellsScalar v s r) : Opens stack s stack (.after v) r
  | noItems {more r : List UInt8} (hs : skipSpace s = byte '[' :: more)
      (hmore : skipSpace more = byte ']' :: r) : Opens stack s stack (.after (.array [])) r
  | array {more : List UInt8} (hs : skipSpace s = byte '[' :: more)
      (hroom : stack.length < maxDepth) :
      Opens stack s (.array [] :: stack) .before (skipSpace more)
  | noFields {more r : List UInt8} (hs : skipSpace s = byte '\x7b' :: more)
      (hmore : skipSpace more = byte '\x7d' :: r) : Opens stack s stack (.after (.object [])) r
  | object {k : String} {more more' r : List UInt8} (hs : skipSpace s = byte '\x7b' :: more)
      (hmore : skipSpace more = byte '"' :: more') (hkey : Reads (DocumentText.key more') k r)
      (hroom : stack.length < maxDepth) : Opens stack s (.object [] k :: stack) .before r

/-- What a step from the place behind a value in a container leads to. -/
inductive Closes (v : Json) (s : List UInt8) :
    Frame → List Frame → List Frame → Phase → List UInt8 → Prop where
  | nextItem {items : List Json} {stack : List Frame} {more : List UInt8}
      (hs : skipSpace s = byte ',' :: more) :
      Closes v s (.array items) stack (.array (v :: items) :: stack) .before more
  | lastItem {items : List Json} {stack : List Frame} {r : List UInt8}
      (hs : skipSpace s = byte ']' :: r) :
      Closes v s (.array items) stack stack (.after (.array (v :: items).reverse)) r
  | nextField {fields : List (String × Json)} {k k' : String} {stack : List Frame}
      {more more' r : List UInt8} (hs : skipSpace s = byte ',' :: more)
      (hmore : skipSpace more = byte '"' :: more') (hkey : Reads (DocumentText.key more') k' r) :
      Closes v s (.object fields k) stack (.object ((k, v) :: fields) k' :: stack) .before r
  | lastField {fields : List (String × Json)} {k : String} {stack : List Frame} {r : List UInt8}
      (hs : skipSpace s = byte '\x7d' :: r) :
      Closes v s (.object fields k) stack stack (.after (ofFields ((k, v) :: fields).reverse)) r

/-- A container is opened only where there is room for it. -/
theorem eq_of_nest {frame : Frame} (h : nest stack frame s = .ok stack') :
    stack' = frame :: stack ∧ stack.length < maxDepth := by
  unfold nest at h
  split at h
  next => cases h
  next hroom =>
    cases h
    exact ⟨rfl, Nat.lt_of_not_le hroom⟩

theorem eq_of_openObject {k : String} (h : openObject stack k s = .ok stack') :
    stack' = .object [] k :: stack ∧ stack.length < maxDepth := by
  unfold openObject at h
  split at h
  next => cases h
  next => exact eq_of_nest h

/-- A step from the place before a value succeeds in one of these ways. -/
theorem opens_of_beforeValue {step : Step s} (h : beforeValue stack s = .ok step) :
    ∃ stack' phase r shorter, step = .next stack' phase r shorter ∧
      Opens stack s stack' phase r := by
  unfold beforeValue at h
  split at h
  next => cases h
  next b rest hs =>
    -- the first byte that is no blank decides: a quote
    split at h
    next hb =>
      obtain ⟨⟨text, r, hr⟩, hx, h⟩ := Except.bind_eq_ok.mp h
      cases h
      exact ⟨_, _, _, _, rfl, .scalar (.string (hb ▸ hs) ⟨hr, hx⟩)⟩
    next =>
    -- the bracket of an array
    split at h
    next hb =>
      split at h
      next => cases h
      next c more hmore =>
        split at h
        next hc =>
          cases h
          exact ⟨_, _, _, _, rfl, .noItems (hb ▸ hs) (hc ▸ hmore)⟩
        next =>
          obtain ⟨stack', hx, h⟩ := Except.bind_eq_ok.mp h
          obtain ⟨rfl, hroom⟩ := eq_of_nest hx
          cases h
          refine ⟨_, _, _, _, rfl, ?_⟩
          rw [← hmore]
          exact .array (hb ▸ hs) hroom
    next =>
    -- the brace of an object, whose first name is read at once
    split at h
    next hb =>
      split at h
      next => cases h
      next c more hmore =>
        split at h
        next hc =>
          cases h
          exact ⟨_, _, _, _, rfl, .noFields (hb ▸ hs) (hc ▸ hmore)⟩
        next =>
        split at h
        next hc =>
          obtain ⟨⟨k, r, hr⟩, hkey, h⟩ := Except.bind_eq_ok.mp h
          obtain ⟨stack', hx, h⟩ := Except.bind_eq_ok.mp h
          obtain ⟨rfl, hroom⟩ := eq_of_openObject hx
          cases h
          exact ⟨_, _, _, _, rfl, .object (hb ▸ hs) (hc ▸ hmore) ⟨hr, hkey⟩ hroom⟩
        next => cases h
    next =>
    -- one of the words
    split at h
    next hb =>
      obtain ⟨⟨r, hr⟩, hx, h⟩ := Except.bind_eq_ok.mp h
      cases h
      exact ⟨_, _, _, _, rfl, .scalar (.word (.head _) (hb ▸ hs) ⟨hr, hx⟩)⟩
    next =>
    split at h
    next hb =>
      obtain ⟨⟨r, hr⟩, hx, h⟩ := Except.bind_eq_ok.mp h
      cases h
      exact ⟨_, _, _, _, rfl, .scalar (.word (.tail _ (.head _)) (hb ▸ hs) ⟨hr, hx⟩)⟩
    next =>
    split at h
    next hb =>
      obtain ⟨⟨r, hr⟩, hx, h⟩ := Except.bind_eq_ok.mp h
      cases h
      exact ⟨_, _, _, _, rfl, .scalar (.word (.tail _ (.tail _ (.head _))) (hb ▸ hs) ⟨hr, hx⟩)⟩
    next =>
    -- a number, or nothing that starts a value
    split at h
    next =>
      obtain ⟨⟨v, r, hr⟩, hx, h⟩ := Except.bind_eq_ok.mp h
      cases h
      have hread : Reads (number (b :: rest)) v r := ⟨hr, hx⟩
      rw [← hs] at hread
      exact ⟨_, _, _, _, rfl, .scalar (.number hread)⟩
    next => cases h

/-- A step from the place behind a value in a container succeeds in one of these ways. -/
theorem closes_of_afterValue {frame : Frame} {step : Step s}
    (h : afterValue (frame :: stack) v s = .ok step) :
    ∃ stack' phase r shorter, step = .next stack' phase r shorter ∧
      Closes v s frame stack stack' phase r := by
  cases frame with
  | array items =>
    unfold afterValue at h
    split at h <;> rename_i hstack hs <;> cases hstack
    next => cases h
    next b rest =>
      split at h
      next hb =>
        split at h
        next => cases h
        next =>
          split at h
          next => cases h
          next =>
            cases h
            exact ⟨_, _, _, _, rfl, .nextItem (hb ▸ hs)⟩
      next =>
      split at h
      next hb =>
        cases h
        exact ⟨_, _, _, _, rfl, .lastItem (hb ▸ hs)⟩
      next => cases h
  | object fields k =>
    unfold afterValue at h
    split at h <;> rename_i hstack hs <;> cases hstack
    next => cases h
    next b rest =>
      split at h
      next hb =>
        split at h
        next => cases h
        next c more hmore =>
          split at h
          next hc =>
            obtain ⟨⟨k', r, hr⟩, hkey, h⟩ := Except.bind_eq_ok.mp h
            cases h
            exact ⟨_, _, _, _, rfl, .nextField (hb ▸ hs) (hc ▸ hmore) ⟨hr, hkey⟩⟩
          next =>
            split at h
            next => cases h
            next => cases h
      next =>
      split at h
      next hb =>
        cases h
        exact ⟨_, _, _, _, rfl, .lastField (hb ▸ hs)⟩
      next => cases h

/-! ## Numbers are no containers -/

/-- What is read of a number: one with a fraction, or an integer of no more than 4300 digits. -/
inductive IsNumber : Json → Prop where
  | float (x : Binary64) : IsNumber (.float x)
  | int {n : Int} (short : (naturalText n.natAbs).length ≤ maxIntegerDigits) : IsNumber (.int n)

theorem IsNumber.merged_eq (h : IsNumber v) : v.merged = v := by
  cases h with
  | float => rw [merged]
  | int => rw [merged]

/-- With a fraction or a power, a number is no integer. -/
theorem isNumber_of_fraction {negative : Bool} {whole : List Nat}
    (h : Reads (fraction negative whole s) v r) : IsNumber v := by
  obtain ⟨hr, h⟩ := h
  unfold fraction at h
  split at h
  next =>
    cases h
    exact .float _
  next b rest =>
    split at h
    next =>
      obtain ⟨_, -, h⟩ := Except.bind_eq_ok.mp h
      split at h
      next =>
        cases h
        exact .float _
      next =>
        split at h
        next =>
          obtain ⟨_, -, h⟩ := Except.bind_eq_ok.mp h
          cases h
          exact .float _
        next =>
          cases h
          exact .float _
    next =>
      split at h
      next =>
        obtain ⟨_, -, h⟩ := Except.bind_eq_ok.mp h
        cases h
        exact .float _
      next =>
        cases h
        exact .float _

/-- Digits are below ten. -/
theorem lt_of_mem_digitValues {d : Nat} (h : d ∈ digitValues s) : d < 10 := by
  obtain ⟨b, hb, rfl⟩ := List.mem_map.mp h
  have hdigit : isDigit b = true := List.mem_takeWhile_imp hb
  unfold isDigit at hdigit
  rw [Bool.and_eq_true, decide_eq_true_iff, decide_eq_true_iff] at hdigit
  have hle : b.toNat ≤ 0x39 := hdigit.2
  omega

/-- An integer has as many digits as are read, at most. -/
theorem isNumber_int {negative : Bool} (h : ¬ maxIntegerDigits < (digitValues s).length) :
    IsNumber (.int (signed negative (ofDigits (digitValues s)))) := by
  have hshort := length_naturalText_ofDigits (by decide) (fun _ hd => lt_of_mem_digitValues hd)
    (Nat.le_of_not_lt h)
  rw [← natAbs_signed negative (ofDigits _)] at hshort
  exact .int hshort

theorem isNumber_of_unsigned {negative : Bool} (h : Reads (unsigned negative s) v r) :
    IsNumber v := by
  obtain ⟨hr, h⟩ := h
  unfold unsigned at h
  split at h
  next => cases h
  next b rest =>
    split at h
    -- a zero, perhaps with a fraction
    next =>
      split at h
      next =>
        split at h
        next =>
          obtain ⟨w, hw, h⟩ := Except.bind_eq_ok.mp h
          cases h
          exact isNumber_of_fraction ⟨w.2.2, hw⟩
        next =>
          split at h
          next => cases h
          next =>
            cases h
            exact .int (by decide)
      next =>
        cases h
        exact .int (by decide)
    next =>
      split at h
      -- digits, perhaps with a fraction
      next =>
        dsimp only at h
        split at h
        next => cases h
        next hlength =>
          split at h
          next =>
            cases h
            exact isNumber_int hlength
          next =>
            split at h
            next =>
              obtain ⟨w, hw, h⟩ := Except.bind_eq_ok.mp h
              cases h
              exact isNumber_of_fraction ⟨w.2.2, hw⟩
            next =>
              cases h
              exact isNumber_int hlength
      next => cases h

/-- What is read of a number is one. -/
theorem isNumber_of_number (h : Reads (number s) v r) : IsNumber v := by
  obtain ⟨hr, h⟩ := h
  unfold number at h
  split at h
  next => cases h
  next b rest =>
    split at h
    next =>
      obtain ⟨_, -, h⟩ := Except.bind_eq_ok.mp h
      cases h
      exact .float _
    next =>
    split at h
    next =>
      obtain ⟨_, -, h⟩ := Except.bind_eq_ok.mp h
      cases h
      exact .float _
    next =>
    split at h
    next =>
      split at h
      next =>
        split at h
        next =>
          obtain ⟨_, -, h⟩ := Except.bind_eq_ok.mp h
          cases h
          exact .float _
        next =>
          obtain ⟨w, hw, h⟩ := Except.bind_eq_ok.mp h
          cases h
          exact isNumber_of_unsigned ⟨w.2.2, hw⟩
      next => cases h
    next => exact isNumber_of_unsigned ⟨hr, h⟩

theorem merged_of_spellsScalar (h : SpellsScalar v s r) : v.merged = v := by
  cases h with
  | string => rw [merged]
  | word hv =>
    rw [mem_words_iff] at hv
    obtain ⟨-, -, rfl⟩ | ⟨-, -, rfl⟩ | ⟨-, -, rfl⟩ := hv
    · rw [merged]
    · rw [merged]
    · rw [merged]
  | number h => exact (isNumber_of_number h).merged_eq

/-! ## Runs of the reader -/

/-- A text that is read to its end has been read past the opening of its first value. -/
theorem opens_of_read (h : read stack .before s = .ok j) :
    ∃ stack' phase r, r.length < s.length ∧ Opens stack s stack' phase r ∧
      read stack' phase r = .ok j := by
  rw [read.eq_def] at h
  cases hstep : beforeValue stack s with
  | error e =>
    simp only [hstep] at h
    cases h
  | ok step =>
    obtain ⟨stack', phase, r, hr, rfl, hopens⟩ := opens_of_beforeValue hstep
    simp only [hstep] at h
    exact ⟨stack', phase, r, hr, hopens, h⟩

theorem closes_of_read {frame : Frame} (h : read (frame :: stack) (.after v) s = .ok j) :
    ∃ stack' phase r, r.length < s.length ∧ Closes v s frame stack stack' phase r ∧
      read stack' phase r = .ok j := by
  rw [read.eq_def] at h
  cases hstep : afterValue (frame :: stack) v s with
  | error e =>
    simp only [hstep] at h
    cases h
  | ok step =>
    obtain ⟨stack', phase, r, hr, rfl, hcloses⟩ := closes_of_afterValue hstep
    simp only [hstep] at h
    exact ⟨stack', phase, r, hr, hcloses, h⟩

/-- Behind a value that is in no container nothing may follow. -/
theorem end_of_read (h : read [] (.after v) s = .ok j) : skipSpace s = [] ∧ j = v := by
  have hstep : ∀ step, afterValue [] v s = .ok step → skipSpace s = [] ∧ step = .done v := by
    intro step hstep
    unfold afterValue at hstep
    split at hstep <;> rename_i hstack hs <;> cases hstack
    next =>
      cases hstep
      exact ⟨hs, rfl⟩
    next => cases hstep
  rw [read.eq_def] at h
  cases hx : afterValue [] v s with
  | error e =>
    simp only [hx] at h
    cases h
  | ok step =>
    obtain ⟨hs, rfl⟩ := hstep step hx
    simp only [hx] at h
    exact ⟨hs, (Except.ok.inj h).symm⟩

mutual

/-- From the place before a value the reader comes to the place behind it, whatever containers are
open. -/
theorem spells_of_read {room : Nat} {stack : List Frame} {s : List UInt8}
    (hroom : stack.length + room = maxDepth) (h : read stack .before s = .ok j) :
    ∃ v r, Spells room v s r ∧ r.length < s.length ∧ read stack (.after v.merged) r = .ok j := by
  obtain ⟨stack', phase, r, hr, hopens, h⟩ := opens_of_read h
  cases hopens with
  | @scalar v _ hscalar =>
    rw [← merged_of_spellsScalar hscalar] at h
    exact ⟨v, r, .scalar hscalar, hr, h⟩
  | noItems hs hmore => exact ⟨.array [], r, .noItems hs hmore, hr, h⟩
  | array hs hdepth =>
    obtain ⟨room, rfl⟩ : ∃ inner, room = inner + 1 := ⟨room - 1, by omega⟩
    have hinner : stack.length + 1 + room = maxDepth := by omega
    obtain ⟨items, r', hitems, hr', h⟩ := items_of_read hinner h
    exact ⟨.array items, r', .array hs hitems, Nat.lt_trans hr' hr, h⟩
  | noFields hs hmore => exact ⟨.object [], r, .noFields hs hmore, hr, h⟩
  | object hs hmore hkey hdepth =>
    obtain ⟨room, rfl⟩ : ∃ inner, room = inner + 1 := ⟨room - 1, by omega⟩
    have hinner : stack.length + 1 + room = maxDepth := by omega
    obtain ⟨fields, r', hfields, hr', h⟩ := fields_of_read hinner hmore hkey h
    exact ⟨.object fields, r', .object hs hfields, Nat.lt_trans hr' hr, h⟩
termination_by (s.length, 0)

/-- The items of an array are read onto those read before, up to the end of the array. -/
theorem items_of_read {room : Nat} {stack : List Frame} {done : List Json} {s : List UInt8}
    (hroom : stack.length + 1 + room = maxDepth)
    (h : read (.array done :: stack) .before s = .ok j) :
    ∃ items r, SpellsItems room items s r ∧ r.length < s.length ∧
      read stack (.after (.array (done.reverse ++ mergedItems items))) r = .ok j := by
  obtain ⟨v, rest, hv, hrest, h⟩ := spells_of_read hroom h
  obtain ⟨stack', phase, r, hr, hcloses, h⟩ := closes_of_read h
  cases hcloses with
  | nextItem hs =>
    obtain ⟨items, r', hitems, hr', h⟩ := items_of_read hroom h
    rw [List.reverse_cons, List.append_assoc] at h
    exact ⟨v :: items, r', .next hv hs hitems, by omega, h⟩
  | lastItem hs =>
    rw [List.reverse_cons] at h
    exact ⟨[v], r, .last hv hs, by omega, h⟩
termination_by (s.length, 1)

/-- The fields of an object are read onto those read before, up to the end of the object; the name
of the first has been read. -/
theorem fields_of_read {room : Nat} {stack : List Frame} {done : List (String × Json)} {k : String}
    {start more s : List UInt8} (hroom : stack.length + 1 + room = maxDepth)
    (hstart : skipSpace start = byte '"' :: more) (hkey : Reads (DocumentText.key more) k s)
    (h : read (.object done k :: stack) .before s = .ok j) :
    ∃ fields r, SpellsFields room fields start r ∧ r.length < s.length ∧
      read stack (.after (ofFields (done.reverse ++ mergedFields fields))) r = .ok j := by
  obtain ⟨v, rest, hv, hrest, h⟩ := spells_of_read hroom h
  obtain ⟨stack', phase, r, hr, hcloses, h⟩ := closes_of_read h
  cases hcloses with
  | nextField hs hmore hkey' =>
    obtain ⟨fields, r', hfields, hr', h⟩ := fields_of_read hroom hmore hkey' h
    rw [List.reverse_cons, List.append_assoc] at h
    exact ⟨(k, v) :: fields, r', .next hstart hkey hv hs hfields, by omega, h⟩
  | lastField hs =>
    rw [List.reverse_cons] at h
    exact ⟨[(k, v)], r, .last hstart hkey hv hs, by omega, h⟩
termination_by (s.length, 1)

end

/-! ## What the grammar spells is read -/

variable {more : List UInt8} {b : UInt8} {room : Nat}

/-- A number starts with a digit, a sign or the first letter of a word for none or infinity. -/
theorem starts_of_number (h : Reads (number s) v r) :
    ∃ b more, s = b :: more ∧ startsNumber b = true := by
  obtain ⟨hr, h⟩ := h
  unfold startsNumber
  unfold number at h
  split at h
  next => cases h
  next b rest =>
    refine ⟨b, rest, rfl, ?_⟩
    split at h
    next hb => simp [hb]
    next =>
    split at h
    next hb => simp [hb]
    next =>
    split at h
    next hb => simp [hb]
    next =>
      have hdigit : isDigit b = true := by
        unfold unsigned at h
        simp only at h
        split at h
        next hb =>
          rw [hb]
          decide
        next =>
          split at h
          next hb => exact hb
          next => cases h
      simp [hdigit]

theorem stepsTo_of_spellsScalar (h : SpellsScalar v s r) :
    StepsTo (beforeValue stack s) stack (.after v) r := by
  cases h with
  | string hs h => exact beforeValue_string hs h
  | @word v letter letters _ more _ hv hs h =>
    obtain ⟨hr, h⟩ := h
    rw [mem_words_iff] at hv
    refine ⟨Nat.lt_of_le_of_lt hr (length_of_skipSpace hs), ?_⟩
    unfold beforeValue
    split
    next hnil => cases hs.symm.trans hnil
    next b rest hcons =>
      cases hs.symm.trans hcons
      obtain ⟨rfl, rfl, rfl⟩ | ⟨rfl, rfl, rfl⟩ | ⟨rfl, rfl, rfl⟩ := hv
      · rw [if_neg (by decide), if_neg (by decide), if_neg (by decide), if_pos rfl, h]
        rfl
      · rw [if_neg (by decide), if_neg (by decide), if_neg (by decide), if_neg (by decide),
          if_pos rfl, h]
        rfl
      · rw [if_neg (by decide), if_neg (by decide), if_neg (by decide), if_neg (by decide),
          if_neg (by decide), if_pos rfl, h]
        rfl
  | number h =>
    obtain ⟨b, more, hs, hb⟩ := starts_of_number h
    rw [hs] at h
    exact beforeValue_number hs hb h

/-- No value starts with the end of an array. -/
theorem starts_of_spells (h : Spells room v s r) :
    ∃ b more, skipSpace s = b :: more ∧ b ≠ byte ']' := by
  cases h with
  | noItems hs => exact ⟨_, _, hs, by decide⟩
  | array hs => exact ⟨_, _, hs, by decide⟩
  | noFields hs => exact ⟨_, _, hs, by decide⟩
  | object hs => exact ⟨_, _, hs, by decide⟩
  | scalar h =>
    cases h with
    | string hs => exact ⟨_, _, hs, by decide⟩
    | word hv hs =>
      rw [mem_words_iff] at hv
      obtain ⟨rfl, -⟩ | ⟨rfl, -⟩ | ⟨rfl, -⟩ := hv
      · exact ⟨_, _, hs, by decide⟩
      · exact ⟨_, _, hs, by decide⟩
      · exact ⟨_, _, hs, by decide⟩
    | number h =>
      obtain ⟨b, more, hs, hb⟩ := starts_of_number h
      refine ⟨b, more, hs, ?_⟩
      rintro rfl
      revert hb
      decide

theorem skipSpace_ne_nil_of_spells (h : Spells room v s r) : skipSpace s ≠ [] := by
  obtain ⟨b, more, hs, -⟩ := starts_of_spells h
  rw [hs]
  exact List.cons_ne_nil b more

/-- Items do not start with the end of their array. -/
theorem starts_of_spellsItems {items : List Json} (h : SpellsItems room items s r) :
    ∃ b more, skipSpace s = b :: more ∧ b ≠ byte ']' := by
  cases h with
  | last h => exact starts_of_spells h
  | next h => exact starts_of_spells h

mutual

/-- A value that is spelled is read, whatever containers are open. -/
theorem read_of_spells {room : Nat} {v : Json} {stack : List Frame} {s r : List UInt8}
    (h : Spells room v s r) (hroom : stack.length + room ≤ maxDepth) :
    read stack .before s = read stack (.after v.merged) r := by
  cases h with
  | scalar h =>
    rw [merged_of_spellsScalar h]
    exact read_before (stepsTo_of_spellsScalar h)
  | noItems hs hmore => exact read_before (beforeValue_noItems hs hmore)
  | noFields hs hmore => exact read_before (beforeValue_noFields hs hmore)
  | @array room items _ more _ hs h =>
    obtain ⟨b, more', hmore, hb⟩ := starts_of_spellsItems h
    rw [skipSpace_skipSpace] at hmore
    have hinner : stack.length + 1 + room ≤ maxDepth := by omega
    have hread := @read_of_spellsItems _ _ stack [] _ _ h hinner
    rw [read_before (beforeValue_array hs hmore hb (by omega)), ← hmore, hread]
    rfl
  | @object room fields _ more _ hs h =>
    have hinner : stack.length + 1 + room ≤ maxDepth := by omega
    obtain ⟨k, more', start, hmore, hkey, hstart, hread⟩ := read_of_spellsFields h
    rw [read_before (beforeValue_object hs hmore hkey hstart (by omega)), hread hinner []]
    rfl

/-- The items of an array that are spelled are read onto those read before. -/
theorem read_of_spellsItems {room : Nat} {items : List Json} {stack : List Frame}
    {done : List Json} {s r : List UInt8} (h : SpellsItems room items s r)
    (hroom : stack.length + 1 + room ≤ maxDepth) :
    read (.array done :: stack) .before s =
      read stack (.after (.array (done.reverse ++ mergedItems items))) r := by
  have hlength : (Frame.array done :: stack).length + room ≤ maxDepth := hroom
  cases h with
  | last h hrest =>
    rw [read_of_spells h hlength, read_after (afterValue_lastItem hrest), List.reverse_cons]
    rfl
  | next h hrest hmore =>
    obtain ⟨b, more', hstart, hb⟩ := starts_of_spellsItems hmore
    rw [read_of_spells h hlength, read_after (afterValue_nextItem hrest hstart hb),
      read_of_spellsItems hmore hroom, List.reverse_cons, List.append_assoc]
    rfl

/-- The fields of an object that are spelled are read onto those read before; the name of the first
is read by the step that comes to it. -/
theorem read_of_spellsFields {room : Nat} {fields : List (String × Json)} {s r : List UInt8}
    (h : SpellsFields room fields s r) :
    ∃ k more start, skipSpace s = byte '"' :: more ∧ Reads (DocumentText.key more) k start ∧
      skipSpace start ≠ [] ∧
      ∀ {stack : List Frame}, stack.length + 1 + room ≤ maxDepth → ∀ done,
        read (.object done k :: stack) .before start =
          read stack (.after (ofFields (done.reverse ++ mergedFields fields))) r := by
  cases h with
  | @last _ k v _ more start _ _ hs hkey h hrest =>
    refine ⟨k, more, start, hs, hkey, skipSpace_ne_nil_of_spells h, ?_⟩
    intro stack hroom done
    have hlength : (Frame.object done k :: stack).length + room ≤ maxDepth := hroom
    rw [read_of_spells h hlength, read_after (afterValue_lastField hrest), List.reverse_cons]
    rfl
  | @next _ k v fields _ more start _ _ _ hs hkey h hrest hmore =>
    obtain ⟨k', more', start', hs', hkey', -, hread⟩ := read_of_spellsFields hmore
    refine ⟨k, more, start, hs, hkey, skipSpace_ne_nil_of_spells h, ?_⟩
    intro stack hroom done
    have hlength : (Frame.object done k :: stack).length + room ≤ maxDepth := hroom
    rw [read_of_spells h hlength, read_after (afterValue_nextField hrest hs' hkey'),
      hread hroom, List.reverse_cons, List.append_assoc]
    rfl

end

end DocumentText

/-- Bytes spell a value, up to blanks behind it. -/
def SpelledBy (bytes : List UInt8) (v : Json) : Prop :=
  ∃ rest, DocumentText.Spells DocumentText.maxDepth v bytes rest ∧ DocumentText.skipSpace rest = []

/-- The reader accepts what the grammar spells, and every name keeps its last value. -/
theorem ofDocumentText_eq_ok_iff {bytes : List UInt8} {v : Json} :
    ofDocumentText bytes = .ok v ↔ ∃ written, SpelledBy bytes written ∧ v = written.merged := by
  have hroom : ([] : List DocumentText.Frame).length + DocumentText.maxDepth =
      DocumentText.maxDepth := Nat.zero_add _
  constructor
  · intro h
    obtain ⟨written, rest, hspells, -, hread⟩ := DocumentText.spells_of_read hroom h
    obtain ⟨hrest, hv⟩ := DocumentText.end_of_read hread
    exact ⟨written, ⟨rest, hspells, hrest⟩, hv⟩
  · rintro ⟨written, ⟨rest, hspells, hrest⟩, rfl⟩
    rw [ofDocumentText, DocumentText.read_of_spells hspells (Nat.le_of_eq hroom)]
    exact DocumentText.read_end hrest

end ChatRiddles.Json
