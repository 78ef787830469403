import ChatRiddles.Proofs.JsonReading
import ChatRiddles.Proofs.WellFormed
/-!
# Definitions are written and read back

A definition is written as the document from which it was compiled. As a value, this says the same
as the value that was read, but for the fields that lead nowhere, which are left out, and the chats,
which are integers by then. Compiling the document, the value or any JSON text of the value gives
back the definition. The reader of JSON texts reads integers of at most 4300 digits, so the chats
have to be that short for the texts.

Main definitions: `Json.Same`, `Document.tidied`. Main statement: `Definition.round_trip`.
-/

namespace ChatRiddles

open Json Shape Number

namespace Json

/-- Two values say the same: arrays item by item, and objects name by name, in whatever order their
fields stand. -/
inductive Same : Json → Json → Prop where
  | rfl (v : Json) : Same v v
  | array {items items' : List Json} (each : List.Forall₂ Same items items') :
      Same (.array items) (.array items')
  -- each name has values that say the same, or no value in both
  | object {fields fields' : List (String × Json)}
      (each : ∀ name, Option.Rel Same (fieldOf name fields) (fieldOf name fields')) :
      Same (.object fields) (.object fields')

/-- Changes the items of an array. -/
def mapItems (f : Json → Json) : Json → Json
  | .array items => .array (items.map f)
  | v => v

/-- Changes the fields of an object. -/
def mapObject (f : List (String × Json) → List (String × Json)) : Json → Json
  | .object fields => .object (f fields)
  | v => v

/-- Changes the value of a field. -/
def mapField (name : String) (f : Json → Json) (fields : List (String × Json)) :
    List (String × Json) :=
  fields.map fun field => (field.1, if field.1 = name then f field.2 else field.2)

/-- Drops a field if its value is null. -/
def dropNull (name : String) (fields : List (String × Json)) : List (String × Json) :=
  match fieldOf name fields with
  | some .null => fields.filter fun f => f.1 != name
  | _ => fields

end Json

/-! ## Tidied documents -/

/-- The integer that a value is coerced to, as a value. -/
def Shape.coerced (v : Json) : Json :=
  match integerOf v with
  | .ok n => .int n
  | .error _ => v

/-- The value of an action with the chat coerced to an integer. -/
def Action.tidied : Json → Json := mapObject (mapField "chat_id" coerced)

namespace Document

/-- The fields of an edge with its actions tidied, without a target that is null. -/
def Edge.tidiedFields (fields : List (String × Json)) : List (String × Json) :=
  mapField "actions" (mapItems Action.tidied) (dropNull "next" fields)

/-- The value of an edge, tidied. -/
def Edge.tidied : Json → Json := mapObject tidiedFields

/-- The value of a state with its edges tidied. -/
def State.tidied : Json → Json := mapObject (mapField "edges" (mapItems Edge.tidied))

/-- The value of a document, every null target dropped and every chat coerced to an integer. -/
def tidied : Json → Json := mapObject (mapField "states" (mapItems State.tidied))

end Document

/-! ## Fields -/

namespace Json

variable {name key : String} {names : List String} {fields fields' : List (String × Json)}
  {f : Json → Json} {v : Json}

/-- Changing the field of a name changes what is found under it, and nothing else. -/
theorem fieldOf_mapField :
    fieldOf key (mapField name f fields) =
      (fieldOf key fields).map fun v => if key = name then f v else v := by
  induction fields with
  | nil => rfl
  | cons field rest ih =>
    obtain ⟨k, v⟩ := field
    have hcons : mapField name f ((k, v) :: rest) =
        (k, if k = name then f v else v) :: mapField name f rest := rfl
    rw [hcons, fieldOf_cons, fieldOf_cons, ih]
    by_cases h : key = k
    · rw [if_pos h, if_pos h, h]
      rfl
    · rw [if_neg h, if_neg h]

/-- The other fields are kept when one is changed. -/
theorem fieldOf_mapField_of_ne (h : key ≠ name) :
    fieldOf key (mapField name f fields) = fieldOf key fields := by
  rw [fieldOf_mapField]
  simp only [if_neg h, Option.map_id']

theorem fieldOf_mapField_self (h : fieldOf name fields = some v) :
    fieldOf name (mapField name f fields) = some (f v) := by
  rw [fieldOf_mapField, h]
  simp only [Option.map_some, if_true]

/-- Taking out the field of a name takes out nothing else. -/
theorem fieldOf_filter :
    fieldOf key (fields.filter fun f => f.1 != name) =
      if key = name then none else fieldOf key fields := by
  induction fields with
  | nil =>
    split <;> rfl
  | cons field rest ih =>
    obtain ⟨k, v⟩ := field
    by_cases hk : k = name
    · subst hk
      rw [List.filter_cons_of_neg (by simp), ih, fieldOf_cons]
      by_cases h : key = k
      · rw [if_pos h, if_pos h]
      · rw [if_neg h, if_neg h, if_neg h]
    · rw [List.filter_cons_of_pos (by simpa using hk), fieldOf_cons, fieldOf_cons, ih]
      by_cases h : key = k
      · subst h
        rw [if_pos rfl, if_pos rfl, if_neg hk]
      · rw [if_neg h, if_neg h]

/-- Dropping a null field leaves the others. -/
theorem fieldOf_dropNull_of_ne (h : key ≠ name) :
    fieldOf key (dropNull name fields) = fieldOf key fields := by
  unfold dropNull
  split
  · rw [fieldOf_filter, if_neg h]
  · rfl

theorem fieldOf_dropNull_of_null (h : fieldOf name fields = some .null) :
    fieldOf name (dropNull name fields) = none := by
  unfold dropNull
  rw [h]
  dsimp only
  rw [fieldOf_filter, if_pos rfl]

/-- A field that is not null is not dropped. -/
theorem dropNull_of_ne (h : fieldOf name fields ≠ some .null) : dropNull name fields = fields := by
  unfold dropNull
  split
  · rename_i hnull
    exact absurd hnull h
  · rfl

/-- Under other names than the known ones nothing is found. -/
theorem fieldOf_eq_none (h : HasOnly names fields) (hkey : key ∉ names) :
    fieldOf key fields = none := by
  rw [fieldOf, List.lookup_eq_none_iff]
  intro field hfield
  apply bne_iff_ne.mpr
  intro heq
  exact hkey (heq ▸ h field hfield)

theorem hasOnly_mapField (h : HasOnly names fields) : HasOnly names (mapField name f fields) := by
  intro field hfield
  obtain ⟨field', hmem, rfl⟩ := List.mem_map.mp hfield
  exact h field' hmem

theorem hasOnly_dropNull (h : HasOnly names fields) : HasOnly names (dropNull name fields) := by
  intro field hfield
  unfold dropNull at hfield
  split at hfield
  · exact h field (List.mem_of_mem_filter hfield)
  · exact h field hfield

/-- The fields have only the names that are listed. -/
theorem hasOnly_of_names (listed : List String) (hlisted : fields.map (·.1) = listed)
    (h : ∀ name ∈ listed, name ∈ names) : HasOnly names fields := by
  intro field hfield
  apply h
  rw [← hlisted]
  exact List.mem_map_of_mem hfield

/-- Each field is found under its name, if names differ. -/
theorem fieldOf_of_mem (hdistinct : (fields.map (·.1)).Nodup) {field : String × Json}
    (hmem : field ∈ fields) : fieldOf field.1 fields = some field.2 := by
  induction fields with
  | nil => cases hmem
  | cons first rest ih =>
    obtain ⟨k, v⟩ := first
    rw [List.map_cons, List.nodup_cons] at hdistinct
    rw [fieldOf_cons]
    rcases List.mem_cons.mp hmem with rfl | hmem
    · exact if_pos rfl
    · have hne : field.1 ≠ k := by
        intro heq
        apply hdistinct.1
        rw [← heq]
        exact List.mem_map.mpr ⟨field, hmem, rfl⟩
      rw [if_neg hne]
      exact ih hdistinct.2 hmem

/-- An object with fields of different names says the same as another that has these names, with
values that say the same, and no others. -/
theorem same_object (names : List String) (hnames : fields.map (·.1) = names)
    (hdistinct : names.Nodup) (others : ∀ name, name ∉ names → fieldOf name fields' = none)
    (each : ∀ field ∈ fields, ∃ w, fieldOf field.1 fields' = some w ∧ Same field.2 w) :
    Same (.object fields) (.object fields') := by
  subst hnames
  apply Same.object
  intro name
  by_cases hname : name ∈ fields.map (·.1)
  · obtain ⟨field, hmem, rfl⟩ := List.mem_map.mp hname
    obtain ⟨w, hw, hsame⟩ := each field hmem
    rw [fieldOf_of_mem hdistinct hmem, hw]
    exact .some hsame
  · have honly := hasOnly_of_names (fields.map (·.1)) rfl fun _ h => h
    rw [fieldOf_eq_none honly hname, others name hname]
    exact .none

/-- An object fits if its names differ and the values of its fields fit. -/
theorem fits_object {digits room : Nat} (names : List String) (hnames : fields.map (·.1) = names)
    (hdistinct : names.Nodup) (each : ∀ field ∈ fields, Fits digits room field.2) :
    Fits digits (room + 1) (.object fields) := .object (hnames ▸ hdistinct) each

/-- Arrays say the same if each item is what its partner is read from, but tidied. -/
theorem same_array {α : Type} {described : Json → α → Prop} {toJson : α → Json}
    {tidied : Json → Json} {items : List Json} {as : List α}
    (each : List.Forall₂ described items as)
    (h : ∀ v a, described v a → Same (toJson a) (tidied v)) :
    Same (.array (as.map toJson)) (mapItems tidied (.array items)) := by
  apply Same.array
  induction each with
  | nil => exact .nil
  | cons hv _ ih => exact .cons (h _ _ hv) ih

end Json

/-! ## Writing says the same as what was read -/

/-- What stands for an integer is tidied to it. -/
theorem Shape.coerced_eq {v : Json} {n : Int} (h : StandsFor v n) : coerced v = .int n := by
  rw [coerced, integerOf_eq_ok_iff.mpr h]

/-- A prompt is written as the value that describes it. -/
theorem Document.Prompt.same_toJson {v : Json} {p : Document.Prompt}
    (h : Document.Prompt.DescribedBy v p) : Same p.toJson v := by
  cases h with
  | text tag value only =>
    apply same_object ["type", "content"] rfl (by decide) fun name => fieldOf_eq_none only
    rw [List.forall_mem_cons, List.forall_mem_singleton]
    exact ⟨⟨_, tag, .rfl _⟩, ⟨_, value, .rfl _⟩⟩
  | regex tag value only =>
    apply same_object ["type", "content"] rfl (by decide) fun name => fieldOf_eq_none only
    rw [List.forall_mem_cons, List.forall_mem_singleton]
    exact ⟨⟨_, tag, .rfl _⟩, ⟨_, value, .rfl _⟩⟩
  | either tag only =>
    apply same_object ["type"] rfl (by decide) fun name => fieldOf_eq_none only
    rw [List.forall_mem_singleton]
    exact ⟨_, tag, .rfl _⟩

/-- An action is written as the tidied value that describes it. -/
theorem Action.same_toJson {v : Json} {a : Action} (h : Action.DescribedBy v a) :
    Same a.toJson (Action.tidied v) := by
  cases h with
  | message tag value only =>
    apply same_object ["type", "content"] rfl (by decide) fun name =>
      fieldOf_eq_none (hasOnly_mapField only)
    rw [List.forall_mem_cons, List.forall_mem_singleton]
    dsimp only
    constructor
    · exact ⟨_, (fieldOf_mapField_of_ne (by decide)).trans tag, .rfl _⟩
    · exact ⟨_, (fieldOf_mapField_of_ne (by decide)).trans value, .rfl _⟩
  | sendTo tag chatId number message only =>
    apply same_object ["type", "chat_id", "message"] rfl (by decide) fun name =>
      fieldOf_eq_none (hasOnly_mapField only)
    rw [List.forall_mem_cons, List.forall_mem_cons, List.forall_mem_singleton]
    dsimp only
    refine ⟨?_, ?_, ?_⟩
    · exact ⟨_, (fieldOf_mapField_of_ne (by decide)).trans tag, .rfl _⟩
    · exact ⟨_, fieldOf_mapField_self chatId, coerced_eq number ▸ .rfl _⟩
    · exact ⟨_, (fieldOf_mapField_of_ne (by decide)).trans message, .rfl _⟩

namespace Document

/-- Without nulls, the target of an edge is there if and only if the edge leads somewhere. -/
theorem Edge.Names.fieldOf_tidiedFields {fields : List (String × Json)} {next : Option String}
    (h : Edge.Names fields next) :
    fieldOf "next" (Edge.tidiedFields fields) = next.map .string := by
  rw [Edge.tidiedFields, fieldOf_mapField_of_ne (by decide)]
  cases h with
  | absent next =>
    have hne : fieldOf "next" fields ≠ some .null := by
      rw [next]
      intro h
      cases h
    rw [dropNull_of_ne hne, next]
    rfl
  | null next => exact fieldOf_dropNull_of_null next
  | target next =>
    have hne : fieldOf "next" fields ≠ some .null := by
      rw [next]
      intro h
      cases h
    rw [dropNull_of_ne hne, next]
    rfl

theorem Edge.same_toJson {v : Json} {e : Edge} (h : Edge.DescribedBy v e) :
    Same e.toJson (Edge.tidied v) := by
  cases h with
  | @mk fields v items e prompt described actions each next only =>
    have hprompt : fieldOf "prompt" (tidiedFields fields) = some v := by
      rw [tidiedFields, fieldOf_mapField_of_ne (by decide), fieldOf_dropNull_of_ne (by decide),
        prompt]
    have hactions : fieldOf "actions" (tidiedFields fields) =
        some (mapItems Action.tidied (.array items)) := by
      apply fieldOf_mapField_self
      rw [fieldOf_dropNull_of_ne (by decide), actions]
    have hnext := next.fieldOf_tidiedFields
    have honly : HasOnly ["prompt", "actions", "next"] (tidiedFields fields) :=
      hasOnly_mapField (hasOnly_dropNull only)
    have hsame := same_array each fun _ _ => Action.same_toJson
    obtain ⟨p, as, target⟩ := e
    -- an edge that stays is written without the field, so its absence has to be told apart
    cases target with
    | none =>
      apply same_object ["prompt", "actions"] rfl (by decide)
      · intro name hname
        by_cases h : name = "next"
        · rw [h]
          exact hnext
        · apply fieldOf_eq_none honly
          simp only [List.mem_cons, List.not_mem_nil, or_false, not_or] at hname ⊢
          exact ⟨hname.1, hname.2, h⟩
      · dsimp only [List.cons_append, List.nil_append]
        rw [List.forall_mem_cons, List.forall_mem_singleton]
        exact ⟨⟨_, hprompt, Prompt.same_toJson described⟩, ⟨_, hactions, hsame⟩⟩
    | some target =>
      apply same_object ["prompt", "actions", "next"] rfl (by decide) fun name =>
        fieldOf_eq_none honly
      dsimp only [List.cons_append, List.nil_append]
      rw [List.forall_mem_cons, List.forall_mem_cons, List.forall_mem_singleton]
      exact ⟨⟨_, hprompt, Prompt.same_toJson described⟩, ⟨_, hactions, hsame⟩,
        ⟨_, hnext, .rfl _⟩⟩

theorem State.same_toJson {v : Json} {s : State} (h : State.DescribedBy v s) :
    Same s.toJson (State.tidied v) := by
  cases h with
  | mk name edges each only =>
    apply same_object ["name", "edges"] rfl (by decide) fun name =>
      fieldOf_eq_none (hasOnly_mapField only)
    rw [List.forall_mem_cons, List.forall_mem_singleton]
    dsimp only
    constructor
    · exact ⟨_, (fieldOf_mapField_of_ne (by decide)).trans name, .rfl _⟩
    · exact ⟨_, fieldOf_mapField_self edges, same_array each fun _ _ => Edge.same_toJson⟩

/-- A document is written as what it was read from, tidied. -/
theorem same_toJson {v : Json} {d : Document} (h : DescribedBy v d) :
    Same d.toJson (tidied v) := by
  cases h with
  | mk initial accepting states each only =>
    apply same_object ["initial_state", "accepting_states", "states"] rfl (by decide) fun name =>
      fieldOf_eq_none (hasOnly_mapField only)
    rw [List.forall_mem_cons, List.forall_mem_cons, List.forall_mem_singleton]
    dsimp only
    refine ⟨?_, ?_, ?_⟩
    · exact ⟨_, (fieldOf_mapField_of_ne (by decide)).trans initial, .rfl _⟩
    · exact ⟨_, (fieldOf_mapField_of_ne (by decide)).trans accepting, .rfl _⟩
    · exact ⟨_, fieldOf_mapField_self states, same_array each fun _ _ => State.same_toJson⟩

/-! ## What is written describes the document -/

/-- What is written for a prompt describes it. -/
theorem Prompt.describedBy_toJson (p : Prompt) : Prompt.DescribedBy p.toJson p := by
  cases p with
  | text content => exact .text rfl rfl (hasOnly_of_names ["type", "content"] rfl (by decide))
  | regex content => exact .regex rfl rfl (hasOnly_of_names ["type", "content"] rfl (by decide))
  | either => exact .either rfl (hasOnly_of_names ["type"] rfl (by decide))

end Document

/-- What is written for an action describes it. -/
theorem Action.describedBy_toJson (a : Action) : Action.DescribedBy a.toJson a := by
  cases a with
  | message content => exact .message rfl rfl (hasOnly_of_names ["type", "content"] rfl (by decide))
  | sendTo chat content =>
    exact .sendTo rfl rfl (.int chat) rfl
      (hasOnly_of_names ["type", "chat_id", "message"] rfl (by decide))

namespace Document

/-- What is written for an edge describes it. -/
theorem Edge.describedBy_toJson (e : Edge) : Edge.DescribedBy e.toJson e := by
  have hactions : List.Forall₂ Action.DescribedBy (e.actions.map Action.toJson) e.actions := by
    rw [List.forall₂_map_left_iff, List.forall₂_same]
    exact fun a _ => Action.describedBy_toJson a
  obtain ⟨p, as, target⟩ := e
  cases target with
  | none =>
    exact .mk rfl p.describedBy_toJson rfl hactions (.absent rfl)
      (hasOnly_of_names ["prompt", "actions"] rfl (by decide))
  | some target =>
    exact .mk rfl p.describedBy_toJson rfl hactions (.target rfl)
      (hasOnly_of_names ["prompt", "actions", "next"] rfl (by decide))

/-- What is written for a state describes it. -/
theorem State.describedBy_toJson (s : State) : State.DescribedBy s.toJson s := by
  have hedges : List.Forall₂ Edge.DescribedBy (s.edges.map Edge.toJson) s.edges := by
    rw [List.forall₂_map_left_iff, List.forall₂_same]
    exact fun e _ => e.describedBy_toJson
  exact .mk rfl rfl hedges (hasOnly_of_names ["name", "edges"] rfl (by decide))

/-- What a document is written as describes the document. -/
theorem describedBy_toJson (d : Document) : DescribedBy d.toJson d := by
  have hstates : List.Forall₂ State.DescribedBy (d.states.map State.toJson) d.states := by
    rw [List.forall₂_map_left_iff, List.forall₂_same]
    exact fun s _ => s.describedBy_toJson
  exact .mk rfl rfl rfl hstates
    (hasOnly_of_names ["initial_state", "accepting_states", "states"] rfl (by decide))

/-! ## What is written can be read from its texts -/

/-- The chats of a document have at most so many digits. -/
def ChatsFit (digits : Nat) (d : Document) : Prop :=
  ∀ s ∈ d.states, ∀ e ∈ s.edges, ∀ chat text, Action.sendTo chat text ∈ e.actions →
    (naturalText chat.natAbs).length ≤ digits

/-- What is written for a prompt fits, whatever the limit of digits. -/
theorem Prompt.fits_toJson {digits room : Nat} (p : Prompt) : Fits digits (room + 1) p.toJson := by
  cases p with
  | text content =>
    apply fits_object ["type", "content"] rfl (by decide)
    rw [List.forall_mem_cons, List.forall_mem_singleton]
    exact ⟨.string _, .string _⟩
  | regex content =>
    apply fits_object ["type", "content"] rfl (by decide)
    rw [List.forall_mem_cons, List.forall_mem_singleton]
    exact ⟨.string _, .string _⟩
  | either =>
    apply fits_object ["type"] rfl (by decide)
    rw [List.forall_mem_singleton]
    exact .string _

end Document

/-- What is written for an action fits if the number of its chat does. -/
theorem Action.fits_toJson {digits room : Nat} {a : Action}
    (h : ∀ chat text, a = .sendTo chat text → (naturalText chat.natAbs).length ≤ digits) :
    Fits digits (room + 1) a.toJson := by
  cases a with
  | message content =>
    apply fits_object ["type", "content"] rfl (by decide)
    rw [List.forall_mem_cons, List.forall_mem_singleton]
    exact ⟨.string _, .string _⟩
  | sendTo chat content =>
    apply fits_object ["type", "chat_id", "message"] rfl (by decide)
    rw [List.forall_mem_cons, List.forall_mem_cons, List.forall_mem_singleton]
    exact ⟨.string _, .int (h chat content rfl), .string _⟩

namespace Document

/-- What is written for an edge fits if the numbers of the chats in its actions do. -/
theorem Edge.fits_toJson {digits room : Nat} {e : Edge}
    (h : ∀ chat text, Action.sendTo chat text ∈ e.actions →
      (naturalText chat.natAbs).length ≤ digits) :
    Fits digits (room + 3) e.toJson := by
  have hactions : Fits digits (room + 2) (.array (e.actions.map Action.toJson)) := by
    apply Fits.array
    rw [List.forall_mem_map]
    intro a ha
    apply Action.fits_toJson
    intro chat text heq
    exact h chat text (heq ▸ ha)
  obtain ⟨p, as, target⟩ := e
  cases target with
  | none =>
    apply fits_object ["prompt", "actions"] rfl (by decide)
    dsimp only [List.cons_append, List.nil_append]
    rw [List.forall_mem_cons, List.forall_mem_singleton]
    exact ⟨p.fits_toJson, hactions⟩
  | some target =>
    apply fits_object ["prompt", "actions", "next"] rfl (by decide)
    dsimp only [List.cons_append, List.nil_append]
    rw [List.forall_mem_cons, List.forall_mem_cons, List.forall_mem_singleton]
    exact ⟨p.fits_toJson, hactions, .string _⟩

/-- A document is written as a value with at most seven containers around each other. -/
theorem fits_toJson {digits : Nat} {d : Document} (h : d.ChatsFit digits) :
    Fits digits 7 d.toJson := by
  have hstate : ∀ s ∈ d.states, Fits digits 5 s.toJson := by
    intro s hs
    apply fits_object ["name", "edges"] rfl (by decide)
    rw [List.forall_mem_cons, List.forall_mem_singleton]
    refine ⟨.string _, .array ?_⟩
    rw [List.forall_mem_map]
    exact fun e he => Edge.fits_toJson (h s hs e he)
  apply fits_object ["initial_state", "accepting_states", "states"] rfl (by decide)
  rw [List.forall_mem_cons, List.forall_mem_cons, List.forall_mem_singleton]
  refine ⟨.string _, .array ?_, .array ?_⟩
  · rw [List.forall_mem_map]
    exact fun name _ => .string name
  · rw [List.forall_mem_map]
    exact hstate

end Document

namespace Definition

variable {v : Json} {d : Definition}

/-- A definition that was read from a value is written as the value, but for null targets, which are
dropped, and chats, which are coerced to integers; and what is written is read as the definition,
be it given as a value, as a document, or as a JSON text with no integer of more than 4300
digits. -/
theorem round_trip (h : ofJson v = .ok d) :
    Same d.toDocument.toJson (Document.tidied v) ∧
      ofJson d.toDocument.toJson = .ok d ∧
      ofDocument d.toDocument = .ok d ∧
      (d.toDocument.ChatsFit DocumentText.maxIntegerDigits →
        ∀ text, TextOf d.toDocument.toJson text → ofText text = .ok d) := by
  obtain ⟨doc, hdescribed, hsound, hcompiled⟩ := ofJson_eq_ok_iff.mp h
  have hdoc : ofDocument doc = .ok d := ofDocument_eq_ok_iff.mpr ⟨hsound, hcompiled⟩
  rw [toDocument_of_ofDocument hdoc]
  have hwritten := doc.describedBy_toJson
  refine ⟨Document.same_toJson hdescribed, ?_, hdoc, ?_⟩
  · exact ofJson_eq_ok_iff.mpr ⟨doc, hwritten, hsound, hcompiled⟩
  · intro hfit text htext
    have hread := ofDocumentText_of_textOf htext (Document.fits_toJson hfit) (by decide)
    rw [ofText, ofBytes, hread]
    show ofJsonIn .text doc.toJson = .ok d
    rw [ofJsonIn_of_document .text (Document.ofJson_eq_ok_iff.mpr hwritten)]
    exact hdoc

/-- The value of a riddle that answers every text in a chat and stays where it is. -/
def notifier (chat : Json) : Json :=
  let prompt := .object [("type", .string "either")]
  let action := .object [("type", .string "send_to"), ("chat_id", chat), ("message", .string "hi")]
  let edge := .object [("prompt", prompt), ("actions", .array [action]), ("next", .null)]
  .object
    [("initial_state", .string "a"), ("accepting_states", .array []),
      ("states", .array [.object [("name", .string "a"), ("edges", .array [edge])]])]

/-- The riddle that answers every text in a chat. -/
def notifying (chat : Int) : Definition :=
  ⟨"a", [], [⟨"a", [⟨.either, [.sendTo chat "hi"], none⟩]⟩]⟩

theorem ofJson_notifier {chat : Json} {n : Int} (h : integerOf chat = .ok n) :
    ofJson (notifier chat) = .ok (notifying n) := by
  have hprompt : Document.Prompt.DescribedBy (.object [("type", .string "either")]) .either :=
    .either rfl (hasOnly_of_names ["type"] rfl (by decide))
  have haction : Action.DescribedBy (.object [("type", .string "send_to"), ("chat_id", chat),
      ("message", .string "hi")]) (.sendTo n "hi") :=
    .sendTo rfl rfl (integerOf_eq_ok_iff.mp h) rfl
      (hasOnly_of_names ["type", "chat_id", "message"] rfl (by decide))
  have hdocument : Document.DescribedBy (notifier chat) (notifying n).toDocument := by
    refine .mk rfl rfl rfl (.cons (.mk rfl rfl (.cons ?_ .nil) ?_) .nil) ?_
    · exact .mk rfl hprompt rfl (.cons haction .nil) (.null rfl)
        (hasOnly_of_names ["prompt", "actions", "next"] rfl (by decide))
    · exact hasOnly_of_names ["name", "edges"] rfl (by decide)
    · exact hasOnly_of_names ["initial_state", "accepting_states", "states"] rfl (by decide)
  rw [ofJson, ofJsonIn_of_document .value (Document.ofJson_eq_ok_iff.mpr hdocument)]
  rfl

theorem chatsFit_notifying {digits : Nat} {n : Int}
    (h : (naturalText n.natAbs).length ≤ digits) : (notifying n).toDocument.ChatsFit digits := by
  intro s hs e he chat text hmem
  obtain rfl := List.mem_singleton.mp hs
  obtain rfl := List.mem_singleton.mp he
  cases List.mem_singleton.mp hmem
  exact h

/-- A chat written as a text is read back as an integer, from the text of what is written too. -/
theorem round_trip_notifier :
    ofJson (notifier (.string " +0042 ")) = .ok (notifying 42) ∧
      ofText (notifying 42).toDocument.toJson.written = .ok (notifying 42) := by
  have h : ofJson (notifier (.string " +0042 ")) = .ok (notifying 42) := ofJson_notifier rfl
  have hfit := chatsFit_notifying (show (naturalText (42 : Int).natAbs).length ≤ 4300 by decide)
  obtain ⟨-, -, -, htext⟩ := round_trip h
  exact ⟨h, htext hfit _ (textOf_written (Document.fits_toJson hfit))⟩

end Definition

end ChatRiddles
