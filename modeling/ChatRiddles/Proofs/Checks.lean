import ChatRiddles.Shape.Check
import Mathlib.Data.List.Forall2
/-!
# Checks that pass

What a value looks like that passes a check, told for each way to make a check: a required field has
a value that passes, the known fields are all there are, an array has items that pass, a tagged
object has a tag that is known. A fault may stand anywhere; nothing here speaks of the order in
which faults are listed.

Main statements: `Shape.required_eq_ok_iff`, `Shape.onlyKnown_eq_ok_iff`, `Shape.array_eq_ok_iff`,
`Shape.tagged_eq_ok_iff`.
-/

namespace ChatRiddles

namespace Json

/-- An object has no fields but those of some names. -/
def HasOnly (names : List String) (fields : List (String × Json)) : Prop :=
  ∀ field ∈ fields, field.1 ∈ names

end Json

namespace Shape

variable {α β : Type}

/-! ## Joining checks -/

/-- Mapping a check passes where the check does. -/
theorem map_eq_ok_iff {c : Checked α} {f : α → β} {b : β} :
    c.map f = .ok b ↔ ∃ a, c = .ok a ∧ f a = b := by
  cases c with
  | error faults => exact ⟨fun h => (nomatch h), fun ⟨_, h, _⟩ => (nomatch h)⟩
  | ok a =>
    constructor
    · exact fun h => ⟨a, rfl, Except.ok.inj h⟩
    · rintro ⟨_, h, rfl⟩
      rw [Except.ok.inj h]
      rfl

/-- Telling where a check stands changes only its faults. -/
theorem under_eq_ok_iff {step : Step} {c : Checked α} {a : α} :
    under step c = .ok a ↔ c = .ok a := by
  cases c with
  | error faults => exact ⟨fun h => (nomatch h), fun h => (nomatch h)⟩
  | ok a' => exact Iff.rfl

theorem join_eq_ok_iff {c : Checked α} {c' : Checked β} {p : α × β} :
    join c c' = .ok p ↔ c = .ok p.1 ∧ c' = .ok p.2 := by
  cases c with
  | error faults => cases c' <;> exact ⟨fun h => (nomatch h), fun h => (nomatch h.1)⟩
  | ok a =>
    cases c' with
    | error faults => exact ⟨fun h => (nomatch h), fun h => (nomatch h.2)⟩
    | ok b =>
      constructor
      · intro h
        rw [← Except.ok.inj h]
        exact ⟨rfl, rfl⟩
      · rintro ⟨ha, hb⟩
        rw [Except.ok.inj ha, Except.ok.inj hb]
        rfl

/-! ## Parts of objects and arrays -/

variable {fields : List (String × Json)} {check : Json → Checked α} {name : String} {a : α}

/-- A required field passes if it is there and its value passes. -/
theorem required_eq_ok_iff :
    required name check fields = .ok a ↔
      ∃ v, Json.fieldOf name fields = some v ∧ check v = .ok a := by
  unfold required
  cases Json.fieldOf name fields with
  | none => exact ⟨fun h => (nomatch h), fun ⟨_, h, _⟩ => (nomatch h)⟩
  | some v =>
    rw [under_eq_ok_iff]
    exact ⟨fun h => ⟨v, rfl, h⟩, fun ⟨_, hv, h⟩ => Option.some.inj hv ▸ h⟩

/-- A field with a default passes if it is not there or its value passes. -/
theorem withDefault_eq_ok_iff {default : α} :
    withDefault name default check fields = .ok a ↔
      (Json.fieldOf name fields = none ∧ default = a) ∨
        ∃ v, Json.fieldOf name fields = some v ∧ check v = .ok a := by
  unfold withDefault
  cases Json.fieldOf name fields with
  | none =>
    constructor
    · exact fun h => .inl ⟨rfl, Except.ok.inj h⟩
    · rintro (⟨-, rfl⟩ | ⟨_, h, -⟩)
      · rfl
      · cases h
  | some v =>
    rw [under_eq_ok_iff]
    constructor
    · exact fun h => .inr ⟨v, rfl, h⟩
    · rintro (⟨h, -⟩ | ⟨_, hv, h⟩)
      · cases h
      · exact Option.some.inj hv ▸ h

/-- No further field passes exactly if all fields are known. -/
theorem onlyKnown_eq_ok_iff {known : List String} :
    onlyKnown known fields = .ok () ↔ Json.HasOnly known fields := by
  have hall : fields.filter (fun f => !known.contains f.1) = [] ↔ Json.HasOnly known fields := by
    rw [List.filter_eq_nil_iff]
    simp only [Json.HasOnly, Bool.not_eq_true', Bool.not_eq_false, List.contains_iff_mem]
  rw [← hall]
  unfold onlyKnown
  split
  · rename_i h
    exact ⟨fun _ => h, fun _ => rfl⟩
  · rename_i h
    exact ⟨fun h' => (nomatch h'), fun h' => absurd h' h⟩

/-- Items pass one by one, wherever counting starts. -/
theorem itemsFrom_eq_ok_iff {index : Nat} {items : List Json} {as : List α} :
    itemsFrom check index items = .ok as ↔
      List.Forall₂ (fun v a => check v = .ok a) items as := by
  induction items generalizing index as with
  | nil =>
    rw [List.forall₂_nil_left_iff]
    exact ⟨fun h => (Except.ok.inj h).symm, fun h => h ▸ rfl⟩
  | cons v rest ih =>
    rw [itemsFrom, map_eq_ok_iff, List.forall₂_cons_left_iff]
    constructor
    · rintro ⟨⟨a, as'⟩, h, rfl⟩
      obtain ⟨ha, has⟩ := join_eq_ok_iff.mp h
      exact ⟨a, as', under_eq_ok_iff.mp ha, ih.mp has, rfl⟩
    · rintro ⟨a, as', ha, has, rfl⟩
      exact ⟨(a, as'), join_eq_ok_iff.mpr ⟨under_eq_ok_iff.mpr ha, ih.mpr has⟩, rfl⟩

theorem array_eq_ok_iff {v : Json} {as : List α} :
    array check v = .ok as ↔
      ∃ items, v = .array items ∧ List.Forall₂ (fun v a => check v = .ok a) items as := by
  cases v with
  | array items =>
    rw [array, itemsFrom_eq_ok_iff]
    exact ⟨fun h => ⟨items, rfl, h⟩, fun ⟨_, hv, h⟩ => Json.array.inj hv ▸ h⟩
  | _ => exact ⟨fun h => (nomatch h), fun ⟨_, h, _⟩ => (nomatch h)⟩

theorem object_eq_ok_iff {check : List (String × Json) → Checked α} {v : Json} :
    object name check v = .ok a ↔ ∃ fields, v = .object fields ∧ check fields = .ok a := by
  cases v with
  | object fields => exact ⟨fun h => ⟨fields, rfl, h⟩, fun ⟨_, hv, h⟩ => Json.object.inj hv ▸ h⟩
  | _ => exact ⟨fun h => (nomatch h), fun ⟨_, h, _⟩ => (nomatch h)⟩

/-- A value that may be null passes if it is null or passes itself. -/
theorem nullable_eq_ok_iff {v : Json} {o : Option α} (hnull : ∀ a, check .null ≠ .ok a) :
    nullable check v = .ok o ↔ (v = .null ∧ o = none) ∨ ∃ a, check v = .ok a ∧ o = some a := by
  have hsome : nullable check v = (check v).map some ∨ v = .null := by
    cases v with
    | null => exact .inr rfl
    | _ => exact .inl rfl
  obtain h | rfl := hsome
  · rw [h, map_eq_ok_iff]
    constructor
    · rintro ⟨a, ha, rfl⟩
      exact .inr ⟨a, ha, rfl⟩
    · rintro (⟨rfl, rfl⟩ | ⟨a, ha, rfl⟩)
      · obtain ⟨a, ha, -⟩ := map_eq_ok_iff.mp h.symm
        exact absurd ha (hnull a)
      · exact ⟨a, ha, rfl⟩
  · constructor
    · exact fun h => .inl ⟨rfl, (Except.ok.inj h).symm⟩
    · rintro (⟨-, rfl⟩ | ⟨a, ha, -⟩)
      · rfl
      · exact absurd ha (hnull a)

theorem mem_of_lookup_eq_some {variants : List (String × α)} (h : variants.lookup name = some a) :
    (name, a) ∈ variants := by
  obtain ⟨before, after, rfl, -⟩ := List.lookup_eq_some_iff.mp h
  exact List.mem_append_right _ List.mem_cons_self

/-- A tagged object passes if its tag is known and its fields pass the check of the tag. -/
theorem tagged_eq_ok_iff {variants : List (String × (List (String × Json) → Checked α))}
    {v : Json} :
    tagged variants v = .ok a ↔
      ∃ fields tag check, v = .object fields ∧ Json.fieldOf "type" fields = some (.string tag) ∧
        variants.lookup tag = some check ∧ check fields = .ok a := by
  constructor
  · intro h
    cases v with
    | object fields =>
      rw [tagged] at h
      cases htag : Json.fieldOf "type" fields with
      | none =>
        rw [htag] at h
        cases h
      | some value =>
        rw [htag] at h
        cases value with
        | string tag =>
          dsimp only at h
          cases hcheck : variants.lookup tag with
          | none =>
            rw [hcheck] at h
            cases h
          | some check =>
            rw [hcheck] at h
            exact ⟨fields, tag, check, rfl, htag, hcheck, under_eq_ok_iff.mp h⟩
        | _ => cases h
    | _ => cases h
  · rintro ⟨fields, tag, check, rfl, htag, hcheck, hok⟩
    rw [tagged, htag]
    dsimp only
    rw [hcheck]
    exact under_eq_ok_iff.mpr hok

/-! ## Scalars -/

theorem text_eq_ok_iff {v : Json} {s : String} : text v = .ok s ↔ v = .string s := by
  cases v with
  | string s' => exact ⟨fun h => Except.ok.inj h ▸ rfl, fun h => Json.string.inj h ▸ rfl⟩
  | _ => exact ⟨fun h => (nomatch h), fun h => (nomatch h)⟩

theorem integer_eq_ok_iff {v : Json} {n : Int} : integer v = .ok n ↔ integerOf v = .ok n := by
  unfold integer
  cases integerOf v with
  | ok m => exact ⟨fun h => Except.ok.inj h ▸ rfl, fun h => Except.ok.inj h ▸ rfl⟩
  | error cause => exact ⟨fun h => (nomatch h), fun h => (nomatch h)⟩

end Shape

end ChatRiddles
