import ChatRiddles.Proofs.JsonReading
/-!
# Names that are written again

In a JSON text a name may be written again in an object. It keeps its first place then, and its last
value. So the names of an object differ, at every depth of the value that the text stands for.

Main definitions: `Json.merged`, `Json.NamesDiffer`. Main statements: `Json.field?_ofFields`,
`Json.namesDiffer_merged`.
-/

namespace ChatRiddles.Json

mutual

/-- A value in which names that are written again keep their last value. -/
def merged : Json → Json
  | .array items => .array (mergedItems items)
  | .object fields => ofFields (mergedFields fields)
  | .null => .null
  | .bool b => .bool b
  | .int n => .int n
  | .float x => .float x
  | .string s => .string s
  | .illFormed t => .illFormed t
  | .misnamed name v => .misnamed name (merged v)

/-- Items in which names that are written again keep their last value. -/
def mergedItems : List Json → List Json
  | [] => []
  | v :: rest => merged v :: mergedItems rest

/-- Fields in whose values names that are written again keep their last value. -/
def mergedFields : List (String × Json) → List (String × Json)
  | [] => []
  | (k, v) :: rest => (k, merged v) :: mergedFields rest

end

/-- The names of the fields of an object differ, at every depth. -/
inductive NamesDiffer : Json → Prop where
  | null : NamesDiffer .null
  | bool (b : Bool) : NamesDiffer (.bool b)
  | int (n : Int) : NamesDiffer (.int n)
  | float (x : Number.Binary64) : NamesDiffer (.float x)
  | string (s : String) : NamesDiffer (.string s)
  | illFormed (t : Text.IllFormed) : NamesDiffer (.illFormed t)
  | array {items : List Json} (each : ∀ v ∈ items, NamesDiffer v) : NamesDiffer (.array items)
  | object {fields : List (String × Json)} (names : (fields.map (·.1)).Nodup)
      (each : ∀ f ∈ fields, NamesDiffer f.2) : NamesDiffer (.object fields)
  | misnamed (name : Text.IllFormed) {v : Json} (inside : NamesDiffer v) :
      NamesDiffer (.misnamed name v)

section Fields

variable {key : String} {v : Json} {fields : List (String × Json)}

/-- After setting a field, there is that field and what has been there. -/
theorem mem_setField {f : String × Json} (h : f ∈ setField key v fields) :
    f = (key, v) ∨ f ∈ fields := by
  induction fields with
  | nil => exact .inl (List.mem_singleton.mp h)
  | cons g rest ih =>
    rw [setField] at h
    split at h
    · rcases List.mem_cons.mp h with h | h
      · exact .inl h
      · exact .inr (List.mem_cons_of_mem _ h)
    · rcases List.mem_cons.mp h with h | h
      · exact .inr (h ▸ List.mem_cons_self)
      · exact (ih h).imp_right (List.mem_cons_of_mem _)

theorem nodup_setField (h : (fields.map (·.1)).Nodup) :
    ((setField key v fields).map (·.1)).Nodup := by
  induction fields with
  | nil => exact List.pairwise_singleton _ key
  | cons g rest ih =>
    rw [List.map_cons, List.nodup_cons] at h
    rw [setField]
    split
    next hkey =>
      rw [List.map_cons, List.nodup_cons, ← hkey]
      exact h
    next hkey =>
      rw [List.map_cons, List.nodup_cons]
      refine ⟨fun hmem => ?_, ih h.2⟩
      obtain ⟨f, hf, hname⟩ := List.mem_map.mp hmem
      rcases mem_setField hf with rfl | hf
      · exact hkey hname.symm
      · exact h.1 (hname ▸ List.mem_map_of_mem hf)

/-- Setting a field changes what is found under its name, and nothing else. -/
theorem fieldOf_setField {name : String} :
    fieldOf name (setField key v fields) = if name = key then some v else fieldOf name fields := by
  induction fields with
  | nil => exact fieldOf_cons
  | cons g rest ih =>
    obtain ⟨k, w⟩ := g
    rw [setField]
    by_cases hk : k = key
    · rw [if_pos hk, fieldOf_cons, fieldOf_cons, hk]
      split
      · rfl
      · rfl
    · rw [if_neg hk, fieldOf_cons, fieldOf_cons, ih]
      by_cases h : name = k
      · rw [if_pos h, if_pos h, if_neg (h ▸ hk)]
      · rw [if_neg h, if_neg h]

/-- What is set later counts. -/
theorem field?_ofFields {name : String} :
    (ofFields fields).field? name = fieldOf name fields.reverse := by
  have hfold : fieldOf name (fields.foldl (fun acc f => setField f.1 f.2 acc) []) =
      fieldOf name fields.reverse := by
    rw [← List.foldr_reverse]
    induction fields.reverse with
    | nil => rfl
    | cons f earlier ih => rw [List.foldr_cons, fieldOf_setField, ih, fieldOf_cons]
  exact hfold

/-- The names of an object differ, and its values are values that have been set. -/
theorem exists_ofFields :
    ∃ set, ofFields fields = .object set ∧ (set.map (·.1)).Nodup ∧ ∀ f ∈ set, f ∈ fields := by
  refine ⟨_, rfl, ?_⟩
  have hinvariant : ∀ earlier : List (String × Json),
      let set := earlier.foldr (fun f acc => setField f.1 f.2 acc) []
      (set.map (·.1)).Nodup ∧ ∀ f ∈ set, f ∈ earlier := by
    intro earlier
    induction earlier with
    | nil => exact ⟨List.nodup_nil, fun f hf => hf⟩
    | cons g earlier ih =>
      refine ⟨nodup_setField ih.1, fun f hf => ?_⟩
      rcases mem_setField hf with hf | hf
      · rw [hf]
        exact List.mem_cons_self
      · exact List.mem_cons_of_mem _ (ih.2 f hf)
  have hfields := hinvariant fields.reverse
  rw [List.foldr_reverse] at hfields
  exact ⟨hfields.1, fun f hf => List.mem_reverse.mp (hfields.2 f hf)⟩

end Fields

mutual

/-- Where every name keeps one value, the names differ. -/
theorem namesDiffer_merged (v : Json) : v.merged.NamesDiffer := by
  cases v with
  | null => exact .null
  | bool b => exact .bool b
  | int n => exact .int n
  | float x => exact .float x
  | string s => exact .string s
  | illFormed t => exact .illFormed t
  | misnamed name v => exact .misnamed name (namesDiffer_merged v)
  | array items => exact .array (namesDiffer_mergedItems items)
  | object fields =>
    obtain ⟨set, hset, hnames, hmem⟩ := @exists_ofFields (mergedFields fields)
    rw [merged, hset]
    exact .object hnames fun f hf => namesDiffer_mergedFields fields f (hmem f hf)

/-- In merged items, no object repeats a name. -/
theorem namesDiffer_mergedItems (items : List Json) : ∀ v ∈ mergedItems items, v.NamesDiffer := by
  cases items with
  | nil => exact fun v hv => absurd hv List.not_mem_nil
  | cons v rest =>
    rw [mergedItems, List.forall_mem_cons]
    exact ⟨namesDiffer_merged v, namesDiffer_mergedItems rest⟩

theorem namesDiffer_mergedFields (fields : List (String × Json)) :
    ∀ f ∈ mergedFields fields, f.2.NamesDiffer := by
  cases fields with
  | nil => exact fun f hf => absurd hf List.not_mem_nil
  | cons f rest =>
    rw [mergedFields, List.forall_mem_cons]
    exact ⟨namesDiffer_merged f.2, namesDiffer_mergedFields rest⟩

end

end ChatRiddles.Json
