import ChatRiddles.Proofs.Polling
/-!
# Fields that nobody reads

An update that comes from the messaging service has many fields besides those that are read. They
do not matter: with further fields in the update, in its message, in the chat of the message and in
its sender, whatever they are called and whatever they hold, the same update is read, or the same
faults are told. Only the names that are read in an object must not be among them.

So what comes of an update does not depend on such fields either, and neither does polling.

Main definitions: `Json.Extends`, `Update.Extends`. Main statements: `Update.agree_ofJson` (one
update), `Poller.fetchAll_extended` (polling) and `Update.further_fields_ignored`.
-/

namespace ChatRiddles

/-! ## Further fields -/

namespace Json

/-- In which way the part of an object under a name may be extended. -/
abbrev Parts := List (String × (Json → Json → Prop))

/-- The part under a name is itself, or it is extended as it may be. -/
def PartExtends (parts : Parts) (name : String) (v v' : Json) : Prop :=
  v' = v ∨ ∃ r, parts.lookup name = some r ∧ r v v'

/-- Fields between which others have been put, under names that are not known. -/
inductive FieldsExtend (known : List String) (parts : Parts) :
    List (String × Json) → List (String × Json) → Prop where
  | nil : FieldsExtend known parts [] []
  | field {name : String} {v v' : Json} {fields fields' : List (String × Json)}
      (part : PartExtends parts name v v') (rest : FieldsExtend known parts fields fields') :
      FieldsExtend known parts ((name, v) :: fields) ((name, v') :: fields')
  | further {name : String} {v : Json} {fields fields' : List (String × Json)}
      (unknown : name ∉ known) (rest : FieldsExtend known parts fields fields') :
      FieldsExtend known parts fields ((name, v) :: fields')

/-- An object may have further fields; another value is itself. -/
inductive Extends (known : List String) (parts : Parts) : Json → Json → Prop where
  | same (v : Json) : Extends known parts v v
  | object {fields fields' : List (String × Json)} (h : FieldsExtend known parts fields fields') :
      Extends known parts (.object fields) (.object fields')

variable {known : List String} {parts : Parts} {name : String}
  {fields fields' : List (String × Json)} {v v' : Json}

/-- A known name has the field that it had, or none if it had none. -/
theorem FieldsExtend.fieldOf (h : FieldsExtend known parts fields fields') (hname : name ∈ known) :
    Option.Rel (PartExtends parts name) (Json.fieldOf name fields) (Json.fieldOf name fields') := by
  unfold Json.fieldOf
  induction h with
  | nil => exact .none
  | @field other v v' fields fields' part rest ih =>
    rw [List.lookup_cons, List.lookup_cons]
    cases hother : name == other with
    | true =>
      obtain rfl := beq_iff_eq.mp hother
      exact .some part
    | false => exact ih
  | @further other v fields fields' unknown rest ih =>
    have hother : (name == other) = false := by
      rw [beq_eq_false_iff_ne]
      rintro rfl
      exact unknown hname
    rw [List.lookup_cons, hother]
    exact ih

/-- A part that may not be extended is as it was. -/
theorem FieldsExtend.fieldOf_eq (h : FieldsExtend known parts fields fields') (hname : name ∈ known)
    (hplain : parts.lookup name = none) : Json.fieldOf name fields' = Json.fieldOf name fields := by
  have hfield := h.fieldOf hname
  generalize Json.fieldOf name fields = o at hfield ⊢
  generalize Json.fieldOf name fields' = o' at hfield ⊢
  cases hfield with
  | none => rfl
  | some hvalue =>
    rcases hvalue with rfl | ⟨r, hr, -⟩
    · rfl
    · rw [hplain] at hr
      cases hr

end Json

/-! ## Checks that agree -/

namespace Shape

variable {α β : Type}

/-- The place and the cause of a fault, without what stands there. -/
def Fault.told (f : Fault) : List Step × Cause := (f.place, f.cause)

/-- Two checks agree: they read the same, or tell faults of the same causes at the same places. -/
def Agree (c c' : Checked α) : Prop :=
  c'.mapError (·.map Fault.told) = c.mapError (·.map Fault.told)

variable {c c' : Checked α} {d d' : Checked β} {name : String} {check : Json → Checked α}
  {known : List String} {parts : Json.Parts} {fields fields' : List (String × Json)} {v v' : Json}

namespace Agree

theorem rfl : Agree c c := Eq.refl _

/-- What two checks that agree come to. -/
theorem cases (h : Agree c c') :
    (∃ a, c = .ok a ∧ c' = .ok a) ∨ ∃ faults faults', c = .error faults ∧ c' = .error faults' ∧
      faults'.map Fault.told = faults.map Fault.told := by
  cases c with
  | ok a =>
    cases c' with
    | ok a' => exact .inl ⟨a, Eq.refl _, congrArg Except.ok (Except.ok.inj h)⟩
    | error faults' => cases h
  | error faults =>
    cases c' with
    | ok a' => cases h
    | error faults' => exact .inr ⟨faults, faults', Eq.refl _, Eq.refl _, Except.error.inj h⟩

/-- Faults of the same causes at the same places agree. -/
theorem error {faults faults' : List Fault}
    (h : faults'.map Fault.told = faults.map Fault.told) :
    Agree (.error faults : Checked α) (.error faults') := congrArg Except.error h

theorem map (h : Agree c c') (f : α → β) : Agree (c.map f) (c'.map f) := by
  rcases h.cases with ⟨a, rfl, rfl⟩ | ⟨faults, faults', rfl, rfl, htold⟩
  · exact .rfl
  · exact .error htold

theorem under (h : Agree c c') (step : Step) :
    Agree (Shape.under step c) (Shape.under step c') := by
  rcases h.cases with ⟨a, rfl, rfl⟩ | ⟨faults, faults', rfl, rfl, htold⟩
  · exact .rfl
  · -- what is told of a fault in the whole follows from what is told of it in the part
    have hplaced : ∀ fs : List Fault,
        (fs.map fun f => { f with place := step :: f.place }).map Fault.told =
          (fs.map Fault.told).map fun told => (step :: told.1, told.2) := by
      intro fs
      rw [List.map_map, List.map_map]
      exact Eq.refl _
    apply Agree.error
    rw [hplaced, hplaced, htold]

/-- Checks that agree are joined to checks that agree. -/
theorem join (h : Agree c c') (h' : Agree d d') :
    Agree (Shape.join c d) (Shape.join c' d') := by
  rcases h.cases with ⟨a, rfl, rfl⟩ | ⟨faults, faults', rfl, rfl, htold⟩
  · rcases h'.cases with ⟨b, rfl, rfl⟩ | ⟨others, others', rfl, rfl, hothers⟩
    · exact .rfl
    · exact .error hothers
  · rcases h'.cases with ⟨b, rfl, rfl⟩ | ⟨others, others', rfl, rfl, hothers⟩
    · exact .error htold
    · apply Agree.error
      rw [List.map_append, List.map_append, htold, hothers]

/-! ### Fields and parts -/

/-- A known field is there in both, and its values agree. -/
theorem required (h : Json.FieldsExtend known parts fields fields') (hname : name ∈ known)
    (hpart : ∀ v v', Json.PartExtends parts name v v' → Agree (check v) (check v')) :
    Agree (Shape.required name check fields) (Shape.required name check fields') := by
  have hfield := h.fieldOf hname
  unfold Shape.required
  generalize Json.fieldOf name fields = o at hfield ⊢
  generalize Json.fieldOf name fields' = o' at hfield ⊢
  cases hfield with
  | none => exact .error (Eq.refl _)
  | some hvalue => exact (hpart _ _ hvalue).under _

/-- A known field is there in both or in none. -/
theorem withDefault {default : α} (h : Json.FieldsExtend known parts fields fields')
    (hname : name ∈ known)
    (hpart : ∀ v v', Json.PartExtends parts name v v' → Agree (check v) (check v')) :
    Agree (Shape.withDefault name default check fields)
      (Shape.withDefault name default check fields') := by
  have hfield := h.fieldOf hname
  unfold Shape.withDefault
  generalize Json.fieldOf name fields = o at hfield ⊢
  generalize Json.fieldOf name fields' = o' at hfield ⊢
  cases hfield with
  | none => exact .rfl
  | some hvalue => exact (hpart _ _ hvalue).under _

/-- A part that may not be extended is the same. -/
theorem plain (check : Json → Checked α) (hname : parts.lookup name = none) :
    ∀ v v', Json.PartExtends parts name v v' → Agree (check v) (check v') := by
  rintro v v' (rfl | ⟨r, hr, -⟩)
  · exact .rfl
  · rw [hname] at hr
    cases hr

/-- A part that may be extended is checked by a check that agrees. -/
theorem part {r : Json → Json → Prop} (hname : parts.lookup name = some r)
    (hcheck : ∀ v v', r v v' → Agree (check v) (check v')) :
    ∀ v v', Json.PartExtends parts name v v' → Agree (check v) (check v') := by
  rintro v v' (rfl | ⟨r', hr, h⟩)
  · exact .rfl
  · rw [hname] at hr
    obtain rfl := Option.some.inj hr
    exact hcheck v v' h

theorem nullable (h : Json.Extends known parts v v')
    (hcheck : ∀ v v', Json.Extends known parts v v' → Agree (check v) (check v')) :
    Agree (Shape.nullable check v) (Shape.nullable check v') := by
  cases h with
  | same => exact .rfl
  | object h => exact (hcheck _ _ (.object h)).map some

/-- Objects agree if their fields do, which may be more. -/
theorem object {check : List (String × Json) → Checked α} (h : Json.Extends known parts v v')
    (hcheck : ∀ fields fields', Json.FieldsExtend known parts fields fields' →
      Agree (check fields) (check fields')) :
    Agree (Shape.object name check v) (Shape.object name check v') := by
  cases h with
  | same => exact .rfl
  | object h => exact hcheck _ _ h

end Agree

end Shape

/-! ## Updates -/

open Shape

variable {v v' : Json}

/-- A sender with further fields. -/
def User.Extends : Json → Json → Prop :=
  Json.Extends ["id", "is_bot", "first_name", "username"] []

/-- A chat with further fields. -/
def Chat.Extends : Json → Json → Prop := Json.Extends ["id", "type"] []

/-- A message with further fields, also in its chat and its sender. -/
def Message.Extends : Json → Json → Prop :=
  Json.Extends ["message_id", "chat", "from", "from_user", "text"]
    [("chat", Chat.Extends), ("from", User.Extends), ("from_user", User.Extends)]

/-- An update with further fields, also in its message. -/
def Update.Extends : Json → Json → Prop :=
  Json.Extends ["update_id", "message"] [("message", Message.Extends)]

theorem User.agree_ofJson (h : User.Extends v v') : Agree (User.ofJson v) (User.ofJson v') := by
  refine .object h fun fields fields' h => .map (.join ?_ (.join ?_ (.join ?_ ?_))) _
  · exact .required h (by decide) (.plain _ rfl)
  · exact .withDefault h (by decide) (.plain _ rfl)
  · exact .withDefault h (by decide) (.plain _ rfl)
  · exact .withDefault h (by decide) (.plain _ rfl)

theorem Chat.agree_ofJson (h : Chat.Extends v v') : Agree (Chat.ofJson v) (Chat.ofJson v') := by
  refine .object h fun fields fields' h => .map (.join ?_ ?_) _
  · exact .required h (by decide) (.plain _ rfl)
  · exact .withDefault h (by decide) (.plain _ rfl)

/-- The sender stands in the same field as before. -/
theorem senderField_extended {parts : Json.Parts} {known : List String}
    {fields fields' : List (String × Json)} (h : Json.FieldsExtend known parts fields fields')
    (hknown : "from" ∈ known) : senderField fields' = senderField fields := by
  have hfield := h.fieldOf hknown
  unfold senderField
  generalize Json.fieldOf "from" fields = o at hfield ⊢
  generalize Json.fieldOf "from" fields' = o' at hfield ⊢
  cases hfield with
  | none => rfl
  | some _ => rfl

theorem Message.agree_ofJson (h : Message.Extends v v') :
    Agree (Message.ofJson v) (Message.ofJson v') := by
  refine .object h fun fields fields' h => .map (.join ?_ (.join ?_ (.join ?_ ?_))) _
  · exact .required h (by decide) (.plain _ rfl)
  · exact .required h (by decide) (.part rfl fun _ _ => Chat.agree_ofJson)
  · have hsender : ∀ v v', User.Extends v v' →
        Agree (nullable User.ofJson v) (nullable User.ofJson v') :=
      fun _ _ hu => .nullable hu fun _ _ => User.agree_ofJson
    rw [senderField_extended h (by decide)]
    unfold senderField
    split
    · exact .withDefault h (by decide) (.part rfl hsender)
    · exact .withDefault h (by decide) (.part rfl hsender)
  · exact .withDefault h (by decide) (.plain _ rfl)

theorem Update.agree_ofJson (h : Update.Extends v v') :
    Agree (Update.ofJson v) (Update.ofJson v') := by
  refine .object h fun fields fields' h => .map (.join ?_ ?_) _
  · exact .required h (by decide) (.plain _ rfl)
  · exact .withDefault h (by decide)
      (.part rfl fun _ _ hm => .nullable hm fun _ _ => Message.agree_ofJson)

/-! ## Polling -/

/-- A batch of updates with further fields. -/
inductive Batch.Extends : Batch → Batch → Prop where
  | updates {raw raw' : List Json} (h : List.Forall₂ Update.Extends raw raw') :
      Extends (.updates raw) (.updates raw')
  | failed (e : DeliveryError) : Extends (.failed e) (.failed e)

/-- A fetch that brings updates with further fields. -/
structure Fetch.Extends (f f' : Fetch) : Prop where
  waits : f'.waits = f.waits
  brings : Batch.Extends f.brings f'.brings

namespace Poller

variable {admins : Admins} {course : Course} {p : Poller} {raw raw' : Json}

/-- An update with further fields is accepted like the one without. -/
theorem accept_extended (h : Update.Extends raw raw') : p.accept raw' = p.accept raw := by
  have hread := Update.agree_ofJson h
  cases h with
  | same => rfl
  | object h =>
    have hid : Json.fieldOf "update_id" _ = Json.fieldOf "update_id" _ :=
      h.fieldOf_eq (by decide) rfl
    unfold accept
    dsimp only
    rw [hid]
    rcases hread.cases with ⟨u, hu, hu'⟩ | ⟨faults, faults', hfaults, hfaults', htold⟩
    · rw [hu, hu']
    · have hlength : faults'.length = faults.length := by
        rw [← List.length_map Fault.told, htold, List.length_map]
      have hcount : faultCount faults' = faultCount faults := by
        simp only [faultCount, hlength]
      rw [hfaults, hfaults']
      dsimp only
      rw [hcount]

theorem acceptAll_extended {raws raws' : List Json} (h : List.Forall₂ Update.Extends raws raws') :
    p.acceptAll raws' = p.acceptAll raws := by
  induction h generalizing p with
  | nil => rfl
  | cons hraw _ ih =>
    rw [acceptAll, acceptAll, accept_extended hraw]
    cases p.accept _ with
    | ok next => exact ih
    | error e => rfl

/-- A fetch of updates with further fields does what the one without does. -/
theorem fetch_extended {f f' : Fetch} (h : f.Extends f') :
    p.fetch admins course f' = p.fetch admins course f := by
  obtain ⟨hwaits, hbrings⟩ := h
  unfold fetch
  rw [hwaits]
  generalize f.brings = b at hbrings ⊢
  generalize f'.brings = b' at hbrings ⊢
  cases hbrings with
  | failed e => rfl
  | updates hraws => exact acceptAll_extended hraws

theorem fetchAll_extended {fetches fetches' : List Fetch}
    (h : List.Forall₂ Fetch.Extends fetches fetches') :
    p.fetchAll admins course fetches' = p.fetchAll admins course fetches := by
  induction h generalizing p with
  | nil => rfl
  | @cons f f' _ _ hfetch _ ih =>
    rw [fetchAll, fetchAll, fetch_extended hfetch]
    obtain ⟨next, failure⟩ := p.fetch admins course f
    cases failure with
    | none => exact ih
    | some e => rfl

end Poller

/-- The place of a fault, the name of its cause and its wording. -/
def Shape.Fault.report (form : Form) (f : Fault) : List Step × String × String :=
  (f.place, f.cause.code form, f.cause.message form)

/-- Faults of the same causes at the same places are reported alike. -/
theorem Shape.report_of_told {faults faults' : List Fault}
    (h : faults'.map Fault.told = faults.map Fault.told) (form : Form) :
    faults'.map (Fault.report form) = faults.map (Fault.report form) := by
  have hreport : ∀ fs : List Fault, fs.map (Fault.report form) =
      (fs.map Fault.told).map fun told => (told.1, told.2.code form, told.2.message form) := by
    intro fs
    rw [List.map_map]
    rfl
  rw [hreport, hreport, h]

/-- Take an update, with further fields in it, in its message, in the chat and in the sender, under
names that are not read there. It is read if and only if it is read without them, and as the same
update; otherwise the same faults are reported, in the same words and in the same order. So it is
handled with the same effect, and however updates are fetched, polling comes to the same. -/
theorem Update.further_fields_ignored :
    (∀ raw raw', Update.Extends raw raw' →
      (∀ u, Update.ofJson raw' = .ok u ↔ Update.ofJson raw = .ok u) ∧
        (∀ faults, Update.ofJson raw = .error faults →
          ∃ faults', Update.ofJson raw' = .error faults' ∧
            ∀ form, faults'.map (Fault.report form) = faults.map (Fault.report form)) ∧
        ∀ (admins : Admins) (course : Course) (b : Bot),
          (Update.ofRaw? raw').map (b.handleUpdateIn admins course) =
            (Update.ofRaw? raw).map (b.handleUpdateIn admins course)) ∧
      ∀ fetches fetches', List.Forall₂ Fetch.Extends fetches fetches' →
        ∀ (admins : Admins) (course : Course) (p : Poller),
          p.runIn admins course fetches' = p.runIn admins course fetches := by
  constructor
  · intro raw raw' h
    rcases (Update.agree_ofJson h).cases with ⟨u, hu, hu'⟩ | ⟨faults, faults', hf, hf', htold⟩
    · rw [Update.ofRaw?, Update.ofRaw?, hu, hu']
      refine ⟨fun _ => Iff.rfl, ?_, fun _ _ _ => rfl⟩
      intro faults hfaults
      cases hfaults
    · rw [Update.ofRaw?, Update.ofRaw?, hf, hf']
      refine ⟨?_, ?_, fun _ _ _ => rfl⟩
      · intro u
        constructor
        · intro hu
          cases hu
        · intro hu
          cases hu
      · intro faults₀ hfaults₀
        rw [← Except.error.inj hfaults₀]
        exact ⟨faults', rfl, report_of_told htold⟩
  · intro fetches fetches' h admins course p
    rw [Poller.runIn, Poller.runIn, Poller.fetchAll_extended h]

namespace Update

/-- An update with the fields that are read. -/
def bare : Json :=
  .object [("update_id", .int 7), ("message", .object [("message_id", .int 1),
    ("chat", .object [("id", .int 5)]), ("from", .object [("id", .int 6)]),
    ("text", .string "/help")])]

/-- The update with further fields at every depth. -/
def ample : Json :=
  .object [("edited", .null), ("update_id", .int 7), ("message", .object [("message_id", .int 1),
    ("date", .int 0), ("chat", .object [("title", .array []), ("id", .int 5)]),
    ("from", .object [("id", .int 6), ("language_code", .string "de")]),
    ("text", .string "/help"), ("update_id", .bool true)])]

/-- An update with two faults. -/
def faulty : Json := .object [("update_id", .string "x"), ("message", .object [("chat", .null)])]

/-- The update with a further field in its message, which is read elsewhere only. -/
def ampleFaulty : Json :=
  .object [("update_id", .string "x"), ("message", .object [("id", .int 1), ("chat", .null)])]

theorem extends_ample : Extends bare ample := by
  have hchat : Chat.Extends (.object [("id", .int 5)])
      (.object [("title", .array []), ("id", .int 5)]) :=
    .object (.further (by decide) (.field (.inl rfl) .nil))
  have hsender : User.Extends (.object [("id", .int 6)])
      (.object [("id", .int 6), ("language_code", .string "de")]) :=
    .object (.field (.inl rfl) (.further (by decide) .nil))
  refine .object (.further (by decide) (.field (.inl rfl) (.field (.inr ⟨_, rfl, ?_⟩) .nil)))
  refine .object (.field (.inl rfl) (.further (by decide) ?_))
  refine .field (.inr ⟨_, rfl, hchat⟩) (.field (.inr ⟨_, rfl, hsender⟩) (.field (.inl rfl) ?_))
  exact .further (by decide) .nil

theorem extends_ampleFaulty : Extends faulty ampleFaulty := by
  refine .object (.field (.inl rfl) (.field (.inr ⟨_, rfl, ?_⟩) .nil))
  exact .object (.further (by decide) (.field (.inl rfl) .nil))

/-- The update is read in both forms, and in both forms the other one has the same faults. -/
theorem further_fields_ignored_every_depth :
    (∃ u, ofJson ample = .ok u ∧ u.incoming? = some ⟨5, some 6, "/help"⟩) ∧
      (∃ faults, ofJson ampleFaulty = .error faults ∧ faults.map (Shape.Fault.report .value) =
        [([.field "update_id"], "int_parsing",
            "Input should be a valid integer, unable to parse string as an integer"),
          ([.field "message", .field "message_id"], "missing", "Field required"),
          ([.field "message", .field "chat"], "model_type",
            "Input should be a valid dictionary or instance of Chat")]) ∧
      ∀ (admins : Admins) (course : Course) (p : Poller),
        p.runIn admins course [⟨false, .updates [ample, ampleFaulty]⟩] =
          p.runIn admins course [⟨false, .updates [bare, faulty]⟩] := by
  obtain ⟨hread, hpolled⟩ := further_fields_ignored
  refine ⟨?_, ?_, ?_⟩
  · have hbare : ofJson bare = .ok ⟨7, some ⟨1, ⟨5, "private"⟩, some ⟨6, false, "", none⟩,
        some "/help"⟩⟩ := rfl
    exact ⟨_, ((hread _ _ extends_ample).1 _).mpr hbare, rfl⟩
  · obtain ⟨faults, hfaults, hreport⟩ := (hread _ _ extends_ampleFaulty).2.1 _ rfl
    refine ⟨faults, hfaults, (hreport .value).trans ?_⟩
    decide +kernel
  · intro admins course p
    apply hpolled
    exact .cons ⟨rfl, .updates (.cons extends_ample (.cons extends_ampleFaulty .nil))⟩ .nil

end Update

end ChatRiddles
