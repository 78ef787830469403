import ChatRiddles.Shape.Check
/-!
# Checking what a text brings

What the text of a document brings is checked by rules of its own. An integer comes as a word of 64
bits where it fits and as a long one otherwise. The items of an array are checked one after another,
and what has been read of them and the faults are gathered on the way. A tag is searched for among
the variants, and the fields that are not known are picked out one by one.

Main definitions: `Shape.Written.integer`, `Shape.Written.array`, `Shape.Written.tagged`.
-/

namespace ChatRiddles.Shape.Written

open Number Text

/-! ## Scalars -/

/-- A text. -/
def text (v : Json) : Checked String :=
  match v with
  | .string s => .ok s
  | .illFormed _ => faulty .illFormed v
  | _ => faulty .noText v

/-- An integer as a text brings it. -/
inductive Numeral where
  | word (n : Int64)
  | long (n : Int)

/-- An integer is a word where it fits. -/
def Numeral.ofInt (n : Int) : Numeral :=
  if fitsWord n then .word (Int64.ofInt n) else .long n

/-- The integer that is brought. -/
def Numeral.toInt : Numeral → Int
  | word n => n.toInt
  | long n => n

/-- The integer that a number with a fraction stands for: it has to lie inside the bounds of a
word. -/
def integerOfFloat (x : Binary64) : Except Cause Int :=
  if !x.isFinite then .error .notFinite
  else match x.toInt? with
    | none => .error .fractional
    | some n =>
      if -0x8000000000000000 < n ∧ n < 0x8000000000000000 then .ok n else .error .tooLong

/-- The integer that a text writes. -/
def integerOfText (s : String) : Except Cause Int :=
  match ofField s.toList with
  | .number n => .ok n
  | .malformed => .error .malformedInteger
  | .tooLong => .error .tooLong

/-- An integer. -/
def integer (v : Json) : Checked Int :=
  let read : Except Cause Int := match v with
    | .int n => .ok (Numeral.ofInt n).toInt
    | .float x => integerOfFloat x
    | .bool true => .ok 1
    | .bool false => .ok 0
    | .string s => integerOfText s
    | .illFormed _ => .error .illFormed
    | .null | .array _ | .object _ | .misnamed _ _ => .error .noInteger
  read.mapError fun cause => [⟨[], cause, v⟩]

/-! ## Parts of objects and arrays -/

/-- What has been read of items, last first, or their faults. -/
def gather {α : Type} (check : Json → Checked α) (index : Nat) (gathered : Checked (List α)) :
    List Json → Checked (List α)
  | [] => gathered.map List.reverse
  | v :: rest =>
    let more := join gathered (under (.item index) (check v))
    gather check (index + 1) (more.map fun (done, a) => a :: done) rest

/-- An array of values that pass a check. -/
def array {α : Type} (check : Json → Checked α) (v : Json) : Checked (List α) :=
  match v with
  | .array items => gather check 0 (.ok []) items
  | _ => faulty .noArray v

/-- The fields that are not known, in order. -/
def unknownFields (known : List String) (fields : List (String × Json)) : List Fault :=
  fields.filterMap fun (name, v) => if name ∈ known then none else some (unknownField name v)

/-- Refuses every field but the known ones. -/
def onlyKnown (known : List String) (fields : List (String × Json)) : Checked Unit :=
  match unknownFields known fields with
  | [] => .ok ()
  | f :: rest => .error (f :: rest)

/-- Null, or a value that passes a check. -/
def nullable {α : Type} (check : Json → Checked α) (v : Json) : Checked (Option α) :=
  match v with
  | .null => .ok none
  | _ => (check v).map some

/-- Whether a tag is the text of a name. -/
def isTag (name : String) : Json → Bool
  | .string s => s == name
  | _ => false

/-- An object that tells by its tag which of several checks its fields pass. -/
def tagged {α : Type} (variants : List (String × (List (String × Json) → Checked α))) (v : Json) :
    Checked α :=
  match v with
  | .object fields =>
    match Json.fieldOf "type" fields with
    | none => faulty .noTag v
    | some tag =>
      match variants.find? fun (name, _) => isTag name tag with
      | some (name, check) => under (.variant name) (check fields)
      | none => faulty (.unknownTag tag.shown (variants.map (·.1))) v
  | _ => faulty .noTagged v

end ChatRiddles.Shape.Written
