import ChatRiddles.Proofs.JsonGrammar
import ChatRiddles.Proofs.RoundTrip
/-!
# Documents that can be answered

No answer holds an integer of more than 4300 digits. No JSON text does either: the reader of texts
refuses longer integers, and the reader of fields refuses longer texts for them. Both limits are the
same, so every document that a text brings can be told in an answer.

Main definition: `Json.HasShortIntegers`. Main statements: `Document.isUnanswerable_toJson_iff` and
`Definition.chatsFit_of_ofText`.
-/

namespace ChatRiddles

open Number Text

/-! ## What answers can hold -/

namespace Json

/-- An array can be answered if its items can. -/
theorem isUnanswerable_array_iff {items : List Json} :
    (array items).isUnanswerable = false ↔ ∀ v ∈ items, v.isUnanswerable = false := by
  rw [isUnanswerable]
  induction items with
  | nil => exact ⟨fun _ _ h => absurd h List.not_mem_nil, fun _ => rfl⟩
  | cons v rest ih =>
    rw [isUnanswerable.anyItem, Bool.or_eq_false_iff, List.forall_mem_cons, ih]

/-- An object can be answered if the values of its fields can. -/
theorem isUnanswerable_object_iff {fields : List (String × Json)} :
    (object fields).isUnanswerable = false ↔ ∀ f ∈ fields, f.2.isUnanswerable = false := by
  rw [isUnanswerable]
  induction fields with
  | nil => exact ⟨fun _ _ h => absurd h List.not_mem_nil, fun _ => rfl⟩
  | cons f rest ih =>
    rw [isUnanswerable.anyField, Bool.or_eq_false_iff, List.forall_mem_cons, ih]

theorem isUnanswerable_int_iff {n : Int} :
    (int n).isUnanswerable = false ↔ (naturalText n.natAbs).length ≤ maxDigits := by
  rw [isUnanswerable, decide_eq_false_iff_not, Nat.not_lt]

end Json

open Json

namespace Document

theorem Prompt.isUnanswerable_toJson (p : Prompt) : p.toJson.isUnanswerable = false := by
  cases p with
  | text content => rfl
  | regex content => rfl
  | either => rfl

end Document

/-- An action can be answered unless it sends to a chat of too many digits. -/
theorem Action.isUnanswerable_toJson_iff {a : Action} :
    a.toJson.isUnanswerable = false ↔
      ∀ chat text, a = .sendTo chat text → (naturalText chat.natAbs).length ≤ maxDigits := by
  cases a with
  | message content => exact ⟨fun _ _ _ h => (nomatch h), fun _ => rfl⟩
  | sendTo chat content =>
    have hfields : (Action.sendTo chat content).toJson.isUnanswerable = false ↔
        (int chat).isUnanswerable = false := by
      rw [toJson, isUnanswerable_object_iff, List.forall_mem_cons, List.forall_mem_cons,
        List.forall_mem_singleton]
      exact ⟨fun h => h.2.1, fun h => ⟨rfl, h, rfl⟩⟩
    rw [hfields, isUnanswerable_int_iff]
    constructor
    · rintro h _ _ ⟨⟩
      exact h
    · exact fun h => h chat content rfl

namespace Document

/-- An edge can be answered if its actions can. -/
theorem Edge.isUnanswerable_toJson_iff {e : Edge} :
    e.toJson.isUnanswerable = false ↔ ∀ a ∈ e.actions, a.toJson.isUnanswerable = false := by
  have hactions : (array (e.actions.map Action.toJson)).isUnanswerable = false ↔
      ∀ a ∈ e.actions, a.toJson.isUnanswerable = false := by
    rw [isUnanswerable_array_iff, List.forall_mem_map]
  rw [← hactions, toJson, isUnanswerable_object_iff, List.forall_mem_append, List.forall_mem_cons,
    List.forall_mem_singleton]
  refine ⟨fun h => h.1.2, fun h => ⟨⟨e.prompt.isUnanswerable_toJson, h⟩, ?_⟩⟩
  cases e.next with
  | none => exact fun _ hf => absurd hf List.not_mem_nil
  | some name =>
    rw [List.forall_mem_singleton]
    rfl

/-- A document can be answered if its chats do not have too many digits. -/
theorem isUnanswerable_toJson_iff {d : Document} :
    d.toJson.isUnanswerable = false ↔ d.ChatsFit maxDigits := by
  have hedges : ∀ s : State, s.toJson.isUnanswerable = false ↔
      ∀ e ∈ s.edges, ∀ a ∈ e.actions, a.toJson.isUnanswerable = false := by
    intro s
    rw [State.toJson, isUnanswerable_object_iff, List.forall_mem_cons, List.forall_mem_singleton,
      isUnanswerable_array_iff, List.forall_mem_map]
    simp only [Edge.isUnanswerable_toJson_iff]
    exact and_iff_right rfl
  have hstates : d.toJson.isUnanswerable = false ↔
      ∀ s ∈ d.states, s.toJson.isUnanswerable = false := by
    have hnames : (array (d.acceptingStates.map .string)).isUnanswerable = false := by
      rw [isUnanswerable_array_iff, List.forall_mem_map]
      exact fun _ _ => rfl
    have harray : (array (d.states.map State.toJson)).isUnanswerable = false ↔
        ∀ s ∈ d.states, s.toJson.isUnanswerable = false := by
      rw [isUnanswerable_array_iff, List.forall_mem_map]
    rw [← harray, toJson, isUnanswerable_object_iff, List.forall_mem_cons, List.forall_mem_cons,
      List.forall_mem_singleton]
    exact ⟨fun h => h.2.2, fun h => ⟨rfl, hnames, h⟩⟩
  simp only [hstates, hedges, Action.isUnanswerable_toJson_iff, ChatsFit]
  constructor
  · intro h s hs e he chat text hmem
    exact h s hs e he _ hmem chat text rfl
  · rintro h s hs e he _ hmem chat text rfl
    exact h s hs e he chat text hmem

end Document

/-! ## What texts bring -/

namespace Json

/-- The integers in a value have no more than 4300 digits. -/
inductive HasShortIntegers : Json → Prop where
  | null : HasShortIntegers .null
  | bool (b : Bool) : HasShortIntegers (.bool b)
  | int {n : Int} (short : (naturalText n.natAbs).length ≤ maxDigits) : HasShortIntegers (.int n)
  | float (x : Binary64) : HasShortIntegers (.float x)
  | string (s : String) : HasShortIntegers (.string s)
  | array {items : List Json} (each : ∀ v ∈ items, HasShortIntegers v) :
      HasShortIntegers (.array items)
  | object {fields : List (String × Json)} (each : ∀ f ∈ fields, HasShortIntegers f.2) :
      HasShortIntegers (.object fields)

/-- In the values of fields the integers are short, too. -/
theorem HasShortIntegers.fieldOf {fields : List (String × Json)} {name : String} {v : Json}
    (h : HasShortIntegers (.object fields)) (hv : Json.fieldOf name fields = some v) :
    v.HasShortIntegers := by
  cases h with
  | object each => exact each _ (Shape.mem_of_lookup_eq_some hv)

theorem HasShortIntegers.items {items : List Json} (h : HasShortIntegers (.array items)) :
    ∀ v ∈ items, v.HasShortIntegers := by
  cases h with
  | array each => exact each

namespace DocumentText

/-- The digits of an integer that is spelled have been counted. -/
theorem hasShortIntegers_of_spellsScalar {v : Json} {s r : List UInt8} (h : SpellsScalar v s r) :
    v.HasShortIntegers := by
  cases h with
  | string => exact .string _
  | word hv =>
    rw [mem_words_iff] at hv
    obtain ⟨-, -, rfl⟩ | ⟨-, -, rfl⟩ | ⟨-, -, rfl⟩ := hv
    · exact .bool true
    · exact .bool false
    · exact .null
  | number h =>
    cases isNumber_of_number h with
    | float x => exact .float x
    | int short => exact .int short

mutual

/-- Whatever is spelled has short integers, and merging its names brings no others. -/
theorem hasShortIntegers_of_spells {room : Nat} {v : Json} {s r : List UInt8}
    (h : Spells room v s r) : v.merged.HasShortIntegers := by
  cases h with
  | scalar h =>
    rw [merged_of_spellsScalar h]
    exact hasShortIntegers_of_spellsScalar h
  | noItems => exact .array fun _ hv => absurd hv List.not_mem_nil
  | array hs h =>
    rw [merged]
    exact .array (hasShortIntegers_of_spellsItems h)
  | noFields => exact .object fun _ hf => absurd hf List.not_mem_nil
  | @object room fields _ more _ hs h =>
    obtain ⟨set, hset, -, hmem⟩ := @exists_ofFields (mergedFields fields)
    rw [merged, hset]
    exact .object fun f hf => hasShortIntegers_of_spellsFields h f (hmem f hf)

theorem hasShortIntegers_of_spellsItems {room : Nat} {items : List Json} {s r : List UInt8}
    (h : SpellsItems room items s r) : ∀ v ∈ mergedItems items, v.HasShortIntegers := by
  cases h with
  | last h =>
    rw [mergedItems, mergedItems, List.forall_mem_singleton]
    exact hasShortIntegers_of_spells h
  | next h hrest hmore =>
    rw [mergedItems, List.forall_mem_cons]
    exact ⟨hasShortIntegers_of_spells h, hasShortIntegers_of_spellsItems hmore⟩

theorem hasShortIntegers_of_spellsFields {room : Nat} {fields : List (String × Json)}
    {s r : List UInt8} (h : SpellsFields room fields s r) :
    ∀ f ∈ mergedFields fields, f.2.HasShortIntegers := by
  cases h with
  | last hs hkey h =>
    rw [mergedFields, mergedFields, List.forall_mem_singleton]
    exact hasShortIntegers_of_spells h
  | next hs hkey h hrest hmore =>
    rw [mergedFields, List.forall_mem_cons]
    exact ⟨hasShortIntegers_of_spells h, hasShortIntegers_of_spellsFields hmore⟩

end

end DocumentText

/-- The value of a JSON text has short integers. -/
theorem hasShortIntegers_of_ofDocumentText {bytes : List UInt8} {v : Json}
    (h : ofDocumentText bytes = .ok v) : v.HasShortIntegers := by
  obtain ⟨written, ⟨rest, hspells, -⟩, rfl⟩ := ofDocumentText_eq_ok_iff.mp h
  exact DocumentText.hasShortIntegers_of_spells hspells

end Json

/-! ## Documents that texts bring -/

/-- In a value with short integers, nothing stands for a longer one. -/
theorem Shape.StandsFor.length_le {v : Json} {n : Int} (h : StandsFor v n)
    (hv : v.HasShortIntegers) : (naturalText n.natAbs).length ≤ maxDigits := by
  cases h with
  | int =>
    cases hv with
    | int short => exact short
  | true => decide
  | false => decide
  | float whole above below =>
    unfold leastWord at above
    unfold greatestWord at below
    have hbound : n.natAbs < 10 ^ 19 := by omega
    have hlength : (naturalText n.natAbs).length ≤ 19 :=
      (Nat.length_toDigits_le_iff (by decide) (by decide)).mpr hbound
    exact Nat.le_trans hlength (by decide)
  | text field => exact length_le_of_fieldText field

/-- What holds of all members of a list, and goes over to their partners, holds of those. -/
theorem forall_of_forall₂ {α β : Type} {R : α → β → Prop} {P : α → Prop} {Q : β → Prop}
    {l : List α} {l' : List β} (h : List.Forall₂ R l l') (hl : ∀ a ∈ l, P a)
    (hpartners : ∀ a b, R a b → P a → Q b) : ∀ b ∈ l', Q b := by
  induction h with
  | nil => exact fun _ hb => absurd hb List.not_mem_nil
  | cons hab _ ih =>
    rw [List.forall_mem_cons] at hl ⊢
    exact ⟨hpartners _ _ hab hl.1, ih hl.2⟩

/-- The chat of an action is what one of the fields stands for. -/
theorem Action.chatFits_of_describedBy {v : Json} {a : Action} (h : a.DescribedBy v)
    (hv : v.HasShortIntegers) :
    ∀ chat text, a = .sendTo chat text → (naturalText chat.natAbs).length ≤ maxDigits := by
  cases h with
  | message => exact fun _ _ heq => (nomatch heq)
  | sendTo tag chatId number =>
    rintro _ _ ⟨⟩
    exact number.length_le (hv.fieldOf chatId)

namespace Document

/-- A document that is described by a value with short integers has no chats of more digits. -/
theorem chatsFit_of_describedBy {v : Json} {d : Document} (h : d.DescribedBy v)
    (hv : v.HasShortIntegers) : d.ChatsFit maxDigits := by
  have hedge : ∀ v (e : Edge), e.DescribedBy v → v.HasShortIntegers →
      ∀ a ∈ e.actions, ∀ chat text, a = .sendTo chat text →
        (naturalText chat.natAbs).length ≤ maxDigits := by
    intro v e h hv
    cases h with
    | mk prompt described actions each =>
      exact forall_of_forall₂ each (hv.fieldOf actions).items
        fun _ _ h hv => Action.chatFits_of_describedBy h hv
  have hstate : ∀ v (s : State), s.DescribedBy v → v.HasShortIntegers →
      ∀ e ∈ s.edges, ∀ a ∈ e.actions, ∀ chat text, a = .sendTo chat text →
        (naturalText chat.natAbs).length ≤ maxDigits := by
    intro v s h hv
    cases h with
    | mk name edges each => exact forall_of_forall₂ each (hv.fieldOf edges).items hedge
  cases h with
  | mk initial accepting states each =>
    intro s hs e he chat text hmem
    exact forall_of_forall₂ each (hv.fieldOf states).items hstate s hs e he _ hmem chat text rfl

end Document

/-- The chats of a definition that is read from a text fit into an answer. -/
theorem Definition.chatsFit_of_ofText {text : String} {d : Definition} (h : ofText text = .ok d) :
    d.toDocument.ChatsFit maxDigits := by
  cases hread : Json.ofDocumentText (Utf8.encode text.toList) with
  | error fault =>
    rw [ofText, ofBytes, hread] at h
    cases h
  | ok v =>
    rw [ofText, ofBytes, hread] at h
    obtain ⟨document, hdocument, hcompiled⟩ := ofJsonIn_eq_ok_iff.mp h
    rw [toDocument_of_ofDocument hcompiled]
    exact Document.chatsFit_of_describedBy (Document.ofJson_eq_ok_iff.mp hdocument)
      (Json.hasShortIntegers_of_ofDocumentText hread)

end ChatRiddles
