import ChatRiddles.Shape.Check
/-!
# Riddle documents

A riddle is written as a `RiddleDocument`: a graph of named states. Each edge of a state has a
prompt, actions and the state that it leads to, if it is another. Documents are read from JSON
objects that have exactly the fields named here, and written back without the fields that have no
value.
-/

namespace ChatRiddles

open Shape

namespace Document

/-- What a player has to enter. -/
inductive Prompt where
  | text (content : String)
  | regex (content : String)
  | either
  deriving DecidableEq, Repr

end Document

/-- What a riddle does when an edge is taken. -/
inductive Action where
  | message (text : String)
  | sendTo (chat : Int) (text : String)
  deriving DecidableEq, Repr

namespace Document

/-- An edge. -/
structure Edge where
  prompt : Prompt
  actions : List Action
  -- the state that the edge leads to; `none` if it stays
  next : Option String
  deriving DecidableEq, Repr

/-- A state. -/
structure State where
  name : String
  -- its edges, in the order in which they are tried
  edges : List Edge
  deriving DecidableEq, Repr

end Document

/-- A riddle as its author writes it. -/
structure Document where
  initialState : String
  acceptingStates : List String
  states : List Document.State
  deriving DecidableEq, Repr

/-! ## Reading -/

namespace Document

/-- The fields of a prompt with a content. -/
def contentOf (fields : List (String × Json)) : Checked String :=
  (join (required "content" text fields) (onlyKnown ["type", "content"] fields)).map (·.1)

/-- Reads a prompt. -/
def Prompt.ofJson : Json → Checked Prompt :=
  tagged
    [("text", fun fields => (contentOf fields).map .text),
      ("regex", fun fields => (contentOf fields).map .regex),
      ("either", fun fields => (onlyKnown ["type"] fields).map fun _ => .either)]

end Document

/-- Reads an action. -/
def Action.ofJson : Json → Checked Action :=
  tagged
    [("message", fun fields => (Document.contentOf fields).map .message),
      ("send_to", fun fields =>
        (join (join (required "chat_id" integer fields) (required "message" text fields))
          (onlyKnown ["type", "chat_id", "message"] fields)).map
          fun ((chat, content), _) => .sendTo chat content)]

namespace Document

/-- Reads an edge. -/
def Edge.ofJson : Json → Checked Edge :=
  object "Edge" fun fields =>
    (join (required "prompt" Prompt.ofJson fields)
      (join (required "actions" (array Action.ofJson) fields)
        (join (withDefault "next" none (nullable text) fields)
          (onlyKnown ["prompt", "actions", "next"] fields)))).map
      fun (prompt, actions, next, _) => { prompt, actions, next }

/-- Reads a state. -/
def State.ofJson : Json → Checked State :=
  object "State" fun fields =>
    (join (required "name" text fields)
      (join (required "edges" (array Edge.ofJson) fields)
        (onlyKnown ["name", "edges"] fields))).map
      fun (name, edges, _) => { name, edges }

/-- Reads a document. -/
def ofJson : Json → Checked Document :=
  object "RiddleDocument" fun fields =>
    (join (required "initial_state" text fields)
      (join (required "accepting_states" (array text) fields)
        (join (required "states" (array State.ofJson) fields)
          (onlyKnown ["initial_state", "accepting_states", "states"] fields)))).map
      fun (initialState, acceptingStates, states, _) => { initialState, acceptingStates, states }

/-! ## Writing -/

/-- A prompt as it is written. -/
def Prompt.toJson : Prompt → Json
  | .text content => .object [("type", .string "text"), ("content", .string content)]
  | .regex content => .object [("type", .string "regex"), ("content", .string content)]
  | .either => .object [("type", .string "either")]

end Document

/-- An action as it is written. -/
def Action.toJson : Action → Json
  | .message content => .object [("type", .string "message"), ("content", .string content)]
  | .sendTo chat content =>
    .object [("type", .string "send_to"), ("chat_id", .int chat), ("message", .string content)]

namespace Document

/-- An edge as it is written. -/
def Edge.toJson (e : Edge) : Json :=
  .object ([("prompt", e.prompt.toJson), ("actions", .array (e.actions.map Action.toJson))] ++
    match e.next with
    | some name => [("next", .string name)]
    | none => [])

/-- A state as it is written. -/
def State.toJson (s : State) : Json :=
  .object [("name", .string s.name), ("edges", .array (s.edges.map Edge.toJson))]

/-- A document as it is written. -/
def toJson (d : Document) : Json :=
  .object
    [("initial_state", .string d.initialState),
      ("accepting_states", .array (d.acceptingStates.map .string)),
      ("states", .array (d.states.map State.toJson))]

end Document

end ChatRiddles
