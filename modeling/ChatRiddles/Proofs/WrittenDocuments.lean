import ChatRiddles.Riddle.Definition
import Mathlib.Data.List.Basic
/-!
# Two readers of documents

A document that is given as a value and one that a text brings are read by different rules. What a
text brings has integers in words where they fit, its arrays are gathered item by item, its tags are
searched for, and its unknown fields are picked out. Rule by rule, both readers read the same and
find the same faults in the same order.

Main statements: `Document.ofWritten_eq_ofJson` (the readers agree) and
`Definition.ofJsonIn_eq_ok_iff` (what is compiled, in any form).
-/

namespace ChatRiddles

open Number Text

namespace Shape.Written

variable {α : Type} {check : Json → Checked α} {known : List String}
  {fields : List (String × Json)}

/-! ## Scalars -/

theorem text_eq : text = Shape.text := by
  funext v
  cases v <;> rfl

/-- The bounds of a word are its least and its greatest number. -/
theorem fitsWord_iff {n : Int} : fitsWord n = true ↔ leastWord ≤ n ∧ n ≤ greatestWord := by
  simp only [fitsWord, Bool.and_eq_true, decide_eq_true_eq]

/-- A word holds every integer that fits into it. -/
theorem Numeral.toInt_ofInt (n : Int) : (ofInt n).toInt = n := by
  unfold ofInt
  split
  · rename_i hfits
    obtain ⟨hleast, hgreatest⟩ := fitsWord_iff.mp hfits
    unfold leastWord at hleast
    unfold greatestWord at hgreatest
    exact Int64.toInt_ofInt_of_le (by omega) (by omega)
  · rfl

/-- A number with a fraction may be neither the least integer of a word nor beyond one. -/
theorem integerOfFloat_eq (x : Binary64) : integerOfFloat x = integerOf (.float x) := by
  have hbounds : ∀ n : Int, (-0x8000000000000000 < n ∧ n < 0x8000000000000000) ↔
      (fitsWord n && n != leastWord) = true := by
    intro n
    rw [Bool.and_eq_true, fitsWord_iff, bne_iff_ne, leastWord, greatestWord]
    omega
  cases hx : x.toInt? with
  | none => simp only [integerOfFloat, integerOf, hx]
  | some n => simp only [integerOfFloat, integerOf, hx, hbounds]

/-- Both readers take the same integers, of whichever kind of value. -/
theorem integer_eq : integer = Shape.integer := by
  funext v
  unfold integer Shape.integer
  cases v with
  | int n => simp only [Numeral.toInt_ofInt, integerOf, Except.mapError]
  | float x =>
    simp only [integerOfFloat_eq]
    cases integerOf (.float x) <;> rfl
  | bool b => cases b <;> rfl
  | string s =>
    simp only [integerOf, integerOfText]
    cases ofField s.toList <;> rfl
  | _ => rfl

/-! ## Parts of objects and arrays -/

/-- What has been gathered comes before what is still read. -/
theorem gather_eq (index : Nat) (gathered : Checked (List α)) (items : List Json) :
    gather check index gathered items =
      (join gathered (itemsFrom check index items)).map
        fun (done, rest) => done.reverse ++ rest := by
  induction items generalizing index gathered with
  | nil => cases gathered <;> simp [gather, itemsFrom, join, Except.map]
  | cons v rest ih =>
    rw [gather, ih, itemsFrom]
    cases gathered <;> cases under (.item index) (check v) <;>
      cases itemsFrom check (index + 1) rest <;> simp [join, Except.map]

/-- Both readers check the items of arrays alike. -/
theorem array_eq : array check = Shape.array check := by
  funext v
  cases v with
  | array items =>
    show gather check 0 (.ok []) items = itemsFrom check 0 items
    rw [gather_eq]
    cases itemsFrom check 0 items <;> rfl
  | _ => rfl

/-- The fields that are picked out are those that are left by a filter. -/
theorem unknownFields_eq :
    unknownFields known fields =
      (fields.filter fun f => !known.contains f.1).map fun (name, v) => unknownField name v := by
  induction fields with
  | nil => rfl
  | cons f rest ih =>
    rw [unknownFields] at ih ⊢
    by_cases hknown : f.1 ∈ known <;> simp [hknown, ih]

theorem onlyKnown_eq : onlyKnown known = Shape.onlyKnown known := by
  funext fields
  rw [onlyKnown, unknownFields_eq, Shape.onlyKnown]
  cases fields.filter fun f => !known.contains f.1 <;> rfl

theorem nullable_eq : nullable check = Shape.nullable check := by
  funext v
  cases v <;> rfl

/-- The variant that is found by its tag is the one that is looked up. -/
theorem find?_isTag (variants : List (String × α)) (name : String) :
    (variants.find? fun (other, _) => isTag other (.string name)) =
      (variants.lookup name).map fun a => (name, a) := by
  induction variants with
  | nil => rfl
  | cons first rest ih =>
    obtain ⟨other, a⟩ := first
    rw [List.find?_cons, List.lookup_cons]
    by_cases h : name = other
    · subst h
      simp [isTag]
    · have htag : isTag other (.string name) = false := beq_eq_false_iff_ne.mpr h
      have hname : (name == other) = false := beq_eq_false_iff_ne.mpr h
      simp only [htag, hname]
      exact ih

/-- A tag that is no text is none of a variant. -/
theorem find?_isTag_of_ne {variants : List (String × α)} {tag : Json}
    (h : ∀ name, tag ≠ .string name) :
    (variants.find? fun (other, _) => isTag other tag) = none := by
  rw [List.find?_eq_none]
  intro variant _
  cases tag with
  | string name => exact absurd rfl (h name)
  | _ => exact Bool.false_ne_true

/-- Both choose the variant of a tag alike. -/
theorem tagged_eq (variants : List (String × (List (String × Json) → Checked α))) :
    tagged variants = Shape.tagged variants := by
  funext v
  cases v with
  | object fields =>
    simp only [tagged, Shape.tagged]
    cases Json.fieldOf "type" fields with
    | none => rfl
    | some tag =>
      by_cases htext : ∃ name, tag = .string name
      · obtain ⟨name, rfl⟩ := htext
        simp only [find?_isTag]
        cases variants.lookup name <;> rfl
      · have hne : ∀ name, tag ≠ .string name := fun name h => htext ⟨name, h⟩
        simp only [find?_isTag_of_ne hne]
  | _ => rfl

end Shape.Written

/-! ## Documents -/

open Shape

namespace Document

theorem contentOfWritten_eq : contentOfWritten = contentOf := by
  funext fields
  rw [contentOfWritten, contentOf, Written.text_eq, Written.onlyKnown_eq]

theorem Prompt.ofWritten_eq : Prompt.ofWritten = Prompt.ofJson := by
  rw [Prompt.ofWritten, Prompt.ofJson, Written.tagged_eq, contentOfWritten_eq,
    Written.onlyKnown_eq]

end Document

theorem Action.ofWritten_eq : Action.ofWritten = Action.ofJson := by
  rw [Action.ofWritten, Action.ofJson, Written.tagged_eq, Document.contentOfWritten_eq,
    Written.integer_eq, Written.text_eq, Written.onlyKnown_eq]

namespace Document

theorem Edge.ofWritten_eq : Edge.ofWritten = Edge.ofJson := by
  rw [Edge.ofWritten, Edge.ofJson, Prompt.ofWritten_eq, Written.array_eq, Action.ofWritten_eq,
    Written.nullable_eq, Written.text_eq, Written.onlyKnown_eq]

theorem State.ofWritten_eq : State.ofWritten = State.ofJson := by
  rw [State.ofWritten, State.ofJson, Written.array_eq, Edge.ofWritten_eq, Written.text_eq,
    Written.onlyKnown_eq]

/-- Both readers read the same document, or find the same faults. -/
theorem ofWritten_eq_ofJson : ofWritten = ofJson := by
  rw [ofWritten, ofJson, Written.array_eq, Written.array_eq, State.ofWritten_eq, Written.text_eq,
    Written.onlyKnown_eq]

end Document

namespace Definition

/-- The document that a value is does not depend on the form in which the value comes. -/
theorem documentIn_eq_ofJson (form : Form) (v : Json) : documentIn form v = Document.ofJson v := by
  cases form with
  | text => exact congrFun Document.ofWritten_eq_ofJson v
  | value => rfl
  | body => rfl

variable {v : Json} {d : Definition} {document : Document}

/-- A value that is a document is compiled as the document, whatever its form. -/
theorem ofJsonIn_of_document (form : Form) (h : Document.ofJson v = .ok document) :
    ofJsonIn form v = ofDocument document := by
  rw [ofJsonIn, documentIn_eq_ofJson, h]

/-- A value that is no document is rejected for its faults, whatever its form. -/
theorem ofJsonIn_of_faults (form : Form) {faults : List Fault}
    (h : Document.ofJson v = .error faults) :
    ofJsonIn form v = reject (.malformed form faults) := by
  rw [ofJsonIn, documentIn_eq_ofJson, h]

/-- In either form, a value compiles if a document is read from it and compiles. -/
theorem ofJsonIn_eq_ok_iff {form : Form} :
    ofJsonIn form v = .ok d ↔
      ∃ document, Document.ofJson v = .ok document ∧ ofDocument document = .ok d := by
  constructor
  · intro h
    cases hdocument : Document.ofJson v with
    | error faults =>
      rw [ofJsonIn_of_faults form hdocument] at h
      cases h
    | ok document =>
      rw [ofJsonIn_of_document form hdocument] at h
      exact ⟨document, rfl, h⟩
  · rintro ⟨document, hdocument, h⟩
    rw [ofJsonIn_of_document form hdocument]
    exact h

end Definition

end ChatRiddles
