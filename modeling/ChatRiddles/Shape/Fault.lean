import ChatRiddles.Json.Value
/-!
# Faults in the shape of a value

A value that is read as a document or an update has to have a certain shape. Where it does not,
there is a fault: its place in the value, its cause, and what stands there. The wording of some
causes depends on the form in which the value came.
-/

namespace ChatRiddles.Shape

/-- A step on the way from a value to a part of it: to a field of an object, to an item of an array,
or to one of the variants of a value, by its tag. -/
inductive Step where
  | field (name : String)
  | item (index : Nat)
  | variant (tag : String)
  deriving DecidableEq, Repr

/-- A step in the place of a fault. -/
def Step.text : Step → String
  | .field name => name
  | .item index => Number.integerText index
  | .variant tag => tag

/-- The form in which a value comes: as the text of a document, as a value, or as the body of a
request. -/
inductive Form where
  | text
  | value
  | body
  deriving DecidableEq, Repr

/-- Why a part of a value does not have its shape. -/
inductive Cause where
  | missing
  | unexpected
  | noText
  -- a text in which a surrogate stands alone
  | illFormed
  | noArray
  -- not an object, where the object of a name is expected
  | noObject (name : String)
  -- not an object, where an object with a tag is expected
  | noTagged
  | noTag
  | unknownTag (tag : String) (expected : List String)
  | noInteger
  -- a text that does not write an integer
  | malformedInteger
  | fractional
  | tooLong
  | notFinite
  | noTruthValue
  -- a text or a number that stands for no truth value
  | malformedTruthValue
  deriving DecidableEq, Repr

/-- A tag in single quotes. -/
def quotedTag (tag : String) : List Char := '\'' :: tag.toList ++ ['\'']

/-- Tags in single quotes, separated by commas. -/
def quotedTags (tags : List String) : String :=
  String.ofList (Json.commaSeparated (tags.map quotedTag))

/-- The name of a cause. -/
def Cause.code : Form → Cause → String
  | _, .missing => "missing"
  | _, .unexpected => "extra_forbidden"
  | _, .noText => "string_type"
  | _, .illFormed => "string_unicode"
  | _, .noArray => "list_type"
  | .body, .noObject _ => "model_attributes_type"
  | _, .noObject _ => "model_type"
  | _, .noTagged => "model_attributes_type"
  | _, .noTag => "union_tag_not_found"
  | _, .unknownTag _ _ => "union_tag_invalid"
  | _, .noInteger => "int_type"
  | _, .malformedInteger => "int_parsing"
  | _, .fractional => "int_from_float"
  | _, .tooLong => "int_parsing_size"
  | _, .notFinite => "finite_number"
  | _, .noTruthValue => "bool_type"
  | _, .malformedTruthValue => "bool_parsing"

/-- The wording of a cause. -/
def Cause.message : Form → Cause → String
  | _, .missing => "Field required"
  | _, .unexpected => "Extra inputs are not permitted"
  | _, .noText => "Input should be a valid string"
  | _, .illFormed =>
    "Input should be a valid string, unable to parse raw data as a unicode string"
  | .text, .noArray => "Input should be a valid array"
  | _, .noArray => "Input should be a valid list"
  | .text, .noObject _ => "Input should be an object"
  | .value, .noObject name => "Input should be a valid dictionary or instance of " ++ name
  | .body, .noObject _ => "Input should be a valid dictionary or object to extract fields from"
  | .text, .noTagged => "Input should be an object"
  | _, .noTagged => "Input should be a valid dictionary or object to extract fields from"
  | _, .noTag => "Unable to extract tag using discriminator 'type'"
  | _, .unknownTag tag expected =>
    "Input tag '" ++ tag ++ "' found using 'type' does not match any of the expected tags: " ++
      quotedTags expected
  | _, .noInteger => "Input should be a valid integer"
  | _, .malformedInteger => "Input should be a valid integer, unable to parse string as an integer"
  | _, .fractional => "Input should be a valid integer, got a number with a fractional part"
  | _, .tooLong => "Unable to parse input string as an integer, exceeded maximum size"
  | _, .notFinite => "Input should be a finite number"
  | _, .noTruthValue => "Input should be a valid boolean"
  | _, .malformedTruthValue => "Input should be a valid boolean, unable to interpret input"

/-- A fault: the way to its place, its cause, and what stands there, or around a field that is
missing. -/
structure Fault where
  place : List Step
  cause : Cause
  input : Json

/-- The place of a fault, its steps separated by points. -/
def Fault.placeText (f : Fault) : String := ".".intercalate (f.place.map Step.text)

/-- A fault in a line: its place, unless that is the whole value, and its cause. -/
def Fault.line (form : Form) (f : Fault) : String :=
  if f.placeText = "" then f.cause.message form
  else f.placeText ++ ": " ++ f.cause.message form

end ChatRiddles.Shape
