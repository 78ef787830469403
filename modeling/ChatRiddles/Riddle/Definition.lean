import ChatRiddles.Json.DocumentText
import ChatRiddles.Pattern.Basic
import ChatRiddles.Riddle.WrittenDocument
/-!
# Riddle definitions

`compile_definition` compiles a document into a `RiddleDefinition`, whose patterns are ready to be
matched. The names of its states differ, and every state that it speaks of is one of them. A
definition remembers all of its document, and `dump_document` writes it back.

Compilation stops with a `DefinitionError` at the first reason to reject a document: its text, its
shape, its states in order with their patterns, and last the states that it speaks of.
-/

namespace ChatRiddles

open Text Number

namespace Definition

/-- What a player has to enter. -/
inductive Prompt where
  | text (content : String)
  | regex (pattern : Pattern)
  | either

/-- An edge. -/
structure Edge where
  prompt : Prompt
  actions : List Action
  -- the state that the edge leads to; `none` if it stays
  next : Option String

/-- A state. -/
structure State where
  name : String
  -- its edges, in the order in which they are tried
  edges : List Edge

/-- The document of a prompt. -/
def Prompt.toDocument : Prompt → Document.Prompt
  | .text content => .text content
  | .regex pattern => .regex pattern.source
  | .either => .either

/-- The document of an edge. -/
def Edge.toDocument (e : Edge) : Document.Edge := ⟨e.prompt.toDocument, e.actions, e.next⟩

/-- The document of a state. -/
def State.toDocument (s : State) : Document.State := ⟨s.name, s.edges.map Edge.toDocument⟩

end Definition

/-- A riddle that is ready to be played. -/
structure Definition where
  initialState : String
  acceptingStates : List String
  states : List Definition.State

namespace Definition

/-- The state of a name. -/
def state? (d : Definition) (name : String) : Option State := d.states.find? (·.name == name)

/-- Whether the riddle is solved in a state. -/
def isAccepting (d : Definition) (name : String) : Bool := d.acceptingStates.contains name

/-- The document from which a definition is compiled. -/
def toDocument (d : Definition) : Document :=
  ⟨d.initialState, d.acceptingStates, d.states.map State.toDocument⟩

/-! ## Rejection -/

/-- Why a document is rejected. -/
inductive Rejection where
  | unreadable (text : List UInt8) (fault : Json.DocumentText.Fault)
  | malformed (form : Shape.Form) (faults : List Shape.Fault)
  | duplicateState (name : String)
  | badPattern (content : String) (state : String) (fault : Pattern.Fault)
  | undefinedInitial (name : String)
  | undefinedAccepting (name : String)
  | undefinedTarget (index : Nat) (state target : String)

/-- The lines that tell an author what is wrong with the text or the shape of a document. -/
def invalidDocument (lines : List String) : String :=
  "\n".intercalate ("Invalid riddle document:" :: lines)

/-- The wording of a rejection. -/
def Rejection.message : Rejection → String
  | .unreadable text fault => invalidDocument ["Invalid JSON: " ++ fault.message text]
  | .malformed form faults => invalidDocument (faults.map (·.line form))
  | .duplicateState name => "Duplicate state " ++ quoted name
  | .badPattern content state fault =>
    "Invalid regex " ++ quoted content ++ " in state " ++ quoted state ++ ": " ++
      fault.message content.toList
  | .undefinedInitial name => "Initial state " ++ quoted name ++ " is not defined"
  | .undefinedAccepting name => "Accepting state " ++ quoted name ++ " is not defined"
  | .undefinedTarget index state target =>
    "Edge " ++ integerText index ++ " of state " ++ quoted state ++
      " points to undefined state " ++ quoted target

/-- Why there is no definition. -/
inductive Failure where
  | rejected (r : Rejection)
  | brokenDown (b : Pattern.Breakdown)

/-- Rejects a document. -/
def reject {α : Type} (r : Rejection) : Except Failure α := .error (.rejected r)

/-! ## Compilation -/

/-- Compiles a prompt of a state. -/
def compilePrompt (state : String) : Document.Prompt → Except Failure Prompt
  | .text content => .ok (.text content)
  | .regex content =>
    match Pattern.ofSource content with
    | .ok pattern => .ok (.regex pattern)
    | .error (.fault fault) => reject (.badPattern content state fault)
    | .error (.breakdown b) => .error (.brokenDown b)
  | .either => .ok .either

/-- Compiles an edge of a state. -/
def compileEdge (state : String) (e : Document.Edge) : Except Failure Edge := do
  return ⟨← compilePrompt state e.prompt, e.actions, e.next⟩

/-- Compiles states, given the names before them. -/
def compileStates (before : List String) : List Document.State → Except Failure (List State)
  | [] => .ok []
  | s :: rest => do
    if before.contains s.name then reject (.duplicateState s.name)
    let edges ← s.edges.mapM (compileEdge s.name)
    let states ← compileStates (s.name :: before) rest
    return ⟨s.name, edges⟩ :: states

/-- Rejects an edge that leads to none of the states. -/
def checkTargets (names : List String) (state : String) (index : Nat) :
    List Document.Edge → Except Failure Unit
  | [] => .ok ()
  | e :: rest => do
    match e.next with
    | some target =>
      if !names.contains target then reject (.undefinedTarget index state target)
    | none => pure ()
    checkTargets names state (index + 1) rest

/-- Rejects a document that speaks of states that it does not have. -/
def checkReferences (d : Document) (names : List String) : Except Failure Unit := do
  if !names.contains d.initialState then reject (.undefinedInitial d.initialState)
  match d.acceptingStates.find? (!names.contains ·) with
  | some name => reject (.undefinedAccepting name)
  | none => pure ()
  d.states.forM fun s => checkTargets names s.name 0 s.edges

/-- Compiles a document. -/
def ofDocument (d : Document) : Except Failure Definition := do
  let states ← compileStates [] d.states
  checkReferences d (d.states.map (·.name))
  return ⟨d.initialState, d.acceptingStates, states⟩

/-- The document that a value in a form is. What a text brings is read by the rules for texts. -/
def documentIn (form : Shape.Form) (v : Json) : Shape.Checked Document :=
  match form with
  | .text => Document.ofWritten v
  | .value | .body => Document.ofJson v

/-- Compiles the document that a value in a form is. -/
def ofJsonIn (form : Shape.Form) (v : Json) : Except Failure Definition :=
  match documentIn form v with
  | .ok d => ofDocument d
  | .error faults => reject (.malformed form faults)

/-- Compiles the document that a value is. -/
def ofJson (v : Json) : Except Failure Definition := ofJsonIn .value v

/-- Compiles the document that bytes write. -/
def ofBytes (bytes : List UInt8) : Except Failure Definition :=
  match Json.ofDocumentText bytes with
  | .ok v => ofJsonIn .text v
  | .error fault => reject (.unreadable bytes fault)

/-- Compiles the document that a text writes. -/
def ofText (text : String) : Except Failure Definition := ofBytes (Utf8.encode text.toList)

end Definition

end ChatRiddles
