import ChatRiddles.Number.Binary64
import ChatRiddles.Text.CodePoint
/-!
# JSON values

A value is null, a truth value, an integer of any size, a number with a fraction, a text, an array,
or an object. Integers and numbers with a fraction are told apart by how they were written, so `42`
and `42.0` are different values. The fields of an object keep the order in which they were written;
a field that is written twice keeps its first place and its last value.

Texts and names of fields may be ill formed. A field with such a name stands under the name in which
the surrogates are replaced, and keeps the name beside its value.
-/

namespace ChatRiddles

open Number Text

/-- A JSON value. A number is an integer if it is written without a point and an exponent. The
ill-formed texts stand apart, and so does the value of a field with an ill-formed name. -/
inductive Json where
  | null
  | bool (b : Bool)
  | int (n : Int)
  | float (x : Binary64)
  | string (s : String)
  | illFormed (t : IllFormed)
  | array (items : List Json)
  | object (fields : List (String × Json))
  | misnamed (name : IllFormed) (v : Json)
  deriving Inhabited

namespace Json

/-- The value of the field of that name. -/
def fieldOf (key : String) (fields : List (String × Json)) : Option Json := fields.lookup key

/-- The value of the field of that name; `none` if there is none or the value is no object. -/
def field? (key : String) : Json → Option Json
  | .object fields => fieldOf key fields
  | _ => none

/-- Gives a field a value: in its place if it is there, at the end otherwise. -/
def setField {κ : Type} [DecidableEq κ] (key : κ) (value : Json) : List (κ × Json) → List (κ × Json)
  | [] => [(key, value)]
  | (k, v) :: rest => if k = key then (key, value) :: rest else (k, v) :: setField key value rest

/-- The object of fields given in order, of which a later one replaces an earlier one of its
name. -/
def ofFields (fields : List (String × Json)) : Json :=
  .object (fields.foldl (fun acc (k, v) => setField k v acc) [])

/-- The text of code points. -/
def ofPoints (ps : List CodePoint) : Json :=
  match h : chars? ps with
  | some cs => .string (String.ofList cs)
  | none => .illFormed ⟨ps, h⟩

/-- A field of an object. -/
def namedField (name : List CodePoint) (v : Json) : String × Json :=
  match h : chars? name with
  | some cs => (String.ofList cs, v)
  | none => (IllFormed.replaced ⟨name, h⟩, .misnamed ⟨name, h⟩ v)

/-- The object of fields given in order, of which a later one replaces an earlier one of its name,
where names may be ill formed. -/
def ofNamedFields (fields : List (List CodePoint × Json)) : Json :=
  .object ((fields.foldl (fun acc (k, v) => setField k v acc) []).map fun (k, v) => namedField k v)

/-- Whether a value counts as true: neither null, false, zero nor empty. -/
def isTruthy : Json → Bool
  | .null => false
  | .bool b => b
  | .int n => n != 0
  | .float x => !x.isZero
  | .string s => s != ""
  | .illFormed _ => true
  | .array items => !items.isEmpty
  | .object fields => !fields.isEmpty
  | .misnamed _ v => v.isTruthy

/-- The name of the kind of a value, as messages give it. -/
def kindName : Json → String
  | .null => "NoneType"
  | .bool _ => "bool"
  | .int _ => "int"
  | .float _ => "float"
  | .string _ | .illFormed _ => "str"
  | .array _ => "list"
  | .object _ => "dict"
  | .misnamed _ v => v.kindName

/-! ## Values in messages -/

/-- Pieces separated by a comma and a space. -/
def commaSeparated (pieces : List (List Char)) : List Char := joinWith [',', ' '] pieces

/-- The name of a field as it stands inside a message. -/
def nameInMessage (name : String) : Json → List Char
  | .misnamed t _ => t.quotedChars
  | _ => quotedChars name.toList

mutual

/-- A value as it stands inside a message, its texts in quotes. -/
def inMessage : Json → List Char
  | .null => "None".toList
  | .bool b => if b then "True".toList else "False".toList
  | .int n => integerChars n
  | .float x => x.chars Binary64.messageStyle
  | .string s => quotedChars s.toList
  | .illFormed t => t.quotedChars
  | .array items => '[' :: commaSeparated (itemsInMessage items) ++ [']']
  | .object fields => '\x7b' :: commaSeparated (fieldsInMessage fields) ++ ['\x7d']
  | .misnamed _ v => inMessage v

/-- The items of an array as they stand inside a message. -/
def itemsInMessage : List Json → List (List Char)
  | [] => []
  | v :: rest => inMessage v :: itemsInMessage rest

/-- The fields of an object as they stand inside a message. -/
def fieldsInMessage : List (String × Json) → List (List Char)
  | [] => []
  | (k, v) :: rest =>
    (nameInMessage k v ++ [':', ' '] ++ inMessage v) :: fieldsInMessage rest

end

/-- A value in quotes where it is a text, as messages name it. -/
def named (v : Json) : String := String.ofList v.inMessage

/-- A value as a message shows it: a text stands as it is, with surrogates replaced. -/
def shown : Json → String
  | .string s => s
  | .illFormed t => t.replaced
  | v => v.named

/-- Whether a value holds what no answer can hold: an infinity, no number, an integer of too many
digits, or a surrogate. -/
def isUnanswerable : Json → Bool
  | .int n => maxDigits < (naturalText n.natAbs).length
  | .float x => !x.isFinite
  | .illFormed _ | .misnamed _ _ => true
  | .array items => anyItem items
  | .object fields => anyField fields
  | _ => false
where
  /-- Whether one of the items holds such a thing. -/
  anyItem : List Json → Bool
    | [] => false
    | v :: rest => v.isUnanswerable || anyItem rest
  /-- Whether one of the fields holds such a thing. -/
  anyField : List (String × Json) → Bool
    | [] => false
    | (_, v) :: rest => v.isUnanswerable || anyField rest

end Json

end ChatRiddles
