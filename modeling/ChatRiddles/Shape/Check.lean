import ChatRiddles.Shape.Fault
/-!
# Checking the shape of a value

A check reads a value or lists every fault of it. The faults of a part are listed before those of
the part after it, so where two checks are joined both lists are kept.
-/

namespace ChatRiddles.Shape

open Number Text

/-- What a check leads to: what was read, or the faults. -/
abbrev Checked (α : Type) := Except (List Fault) α

/-- A value with a fault of its own. -/
def faulty {α : Type} (cause : Cause) (input : Json) : Checked α := .error [⟨[], cause, input⟩]

/-- The faults of a part, placed in the whole. -/
def under {α : Type} (step : Step) (c : Checked α) : Checked α :=
  c.mapError fun faults => faults.map fun f => { f with place := step :: f.place }

/-- Two checks, of which both have to succeed. -/
def join {α β : Type} : Checked α → Checked β → Checked (α × β)
  | .ok a, .ok b => .ok (a, b)
  | .ok _, .error fs => .error fs
  | .error fs, .ok _ => .error fs
  | .error fs, .error gs => .error (fs ++ gs)

/-! ## Parts of objects and arrays -/

/-- A field that has to be there. -/
def required {α : Type} (name : String) (check : Json → Checked α)
    (fields : List (String × Json)) : Checked α :=
  match Json.fieldOf name fields with
  | none => .error [⟨[.field name], .missing, .object fields⟩]
  | some v => under (.field name) (check v)

/-- A field that has a value even if it is not there. -/
def withDefault {α : Type} (name : String) (default : α) (check : Json → Checked α)
    (fields : List (String × Json)) : Checked α :=
  match Json.fieldOf name fields with
  | none => .ok default
  | some v => under (.field name) (check v)

/-- The fault of a field that is not known. An ill-formed name has no place. -/
def unknownField (name : String) : Json → Fault
  | .misnamed t _ => ⟨[], .illFormed, .illFormed t⟩
  | v => ⟨[.field name], .unexpected, v⟩

/-- Refuses every field but the known ones. -/
def onlyKnown (known : List String) (fields : List (String × Json)) : Checked Unit :=
  match fields.filter fun f => !known.contains f.1 with
  | [] => .ok ()
  | extra => .error (extra.map fun (name, v) => unknownField name v)

/-- The items of an array, checked from the given index on. -/
def itemsFrom {α : Type} (check : Json → Checked α) (index : Nat) : List Json → Checked (List α)
  | [] => .ok []
  | v :: rest =>
    (join (under (.item index) (check v)) (itemsFrom check (index + 1) rest)).map
      fun (a, as) => a :: as

/-- An array of values that pass a check. -/
def array {α : Type} (check : Json → Checked α) : Json → Checked (List α)
  | .array items => itemsFrom check 0 items
  | v => faulty .noArray v

/-- An object of a name, its fields checked together. -/
def object {α : Type} (name : String) (check : List (String × Json) → Checked α) :
    Json → Checked α
  | .object fields => check fields
  | v => faulty (.noObject name) v

/-- Null, or a value that passes a check. -/
def nullable {α : Type} (check : Json → Checked α) : Json → Checked (Option α)
  | .null => .ok none
  | v => (check v).map some

/-- An object that tells by its tag which of several checks its fields pass. -/
def tagged {α : Type} (variants : List (String × (List (String × Json) → Checked α))) :
    Json → Checked α
  | .object fields =>
    let whole := Json.object fields
    match Json.fieldOf "type" fields with
    | none => faulty .noTag whole
    | some tag =>
      let unknown : Checked α := faulty (.unknownTag tag.shown (variants.map (·.1))) whole
      match tag with
      | .string name =>
        match variants.lookup name with
        | some check => under (.variant name) (check fields)
        | none => unknown
      | _ => unknown
  | v => faulty .noTagged v

/-! ## Scalars -/

/-- A text. -/
def text : Json → Checked String
  | .string s => .ok s
  | .illFormed t => faulty .illFormed (.illFormed t)
  | v => faulty .noText v

/-- The least integer of a word of 64 bits. -/
def leastWord : Int := -0x8000000000000000

/-- The greatest integer of a word of 64 bits. -/
def greatestWord : Int := 0x7fffffffffffffff

/-- An integer between the bounds of a word of 64 bits. -/
def fitsWord (n : Int) : Bool := leastWord ≤ n && n ≤ greatestWord

/-- The integer that a value stands for: itself, a truth value as one or zero, a number without a
fraction between the bounds of a word, or a text that writes an integer. -/
def integerOf : Json → Except Cause Int
  | .int n => .ok n
  | .bool b => .ok (if b then 1 else 0)
  | .float x =>
    if !x.isFinite then .error .notFinite
    else match x.toInt? with
      | none => .error .fractional
      | some n => if fitsWord n && n != leastWord then .ok n else .error .tooLong
  | .string s =>
    match ofField s.toList with
    | .number n => .ok n
    | .malformed => .error .malformedInteger
    | .tooLong => .error .tooLong
  | .illFormed _ => .error .illFormed
  | _ => .error .noInteger

/-- An integer. -/
def integer (v : Json) : Checked Int :=
  match integerOf v with
  | .ok n => .ok n
  | .error cause => faulty cause v

/-- The texts that stand for a truth value, in lower case. -/
def truthTexts : List (String × Bool) :=
  [("0", false), ("off", false), ("f", false), ("false", false), ("n", false), ("no", false),
    ("1", true), ("on", true), ("t", true), ("true", true), ("y", true), ("yes", true)]

/-- The truth value that an integer stands for. -/
def truthOfInt (n : Int) : Except Cause Bool :=
  if n = 0 then .ok false
  else if n = 1 then .ok true
  else if fitsWord n then .error .malformedTruthValue
  else .error .noTruthValue

/-- The truth value that a value stands for. -/
def truthOf : Json → Except Cause Bool
  | .bool b => .ok b
  | .int n => truthOfInt n
  | .float x =>
    match x.toInt? with
    | some n => if n = leastWord then .error .noTruthValue else truthOfInt n
    | none => .error .noTruthValue
  | .string s =>
    match truthTexts.lookup (String.ofList (s.toList.map Char.toLower)) with
    | some b => .ok b
    | none => .error .malformedTruthValue
  | .illFormed _ => .error .illFormed
  | _ => .error .noTruthValue

/-- A truth value. -/
def truthValue (v : Json) : Checked Bool :=
  match truthOf v with
  | .ok b => .ok b
  | .error cause => faulty cause v

end ChatRiddles.Shape
