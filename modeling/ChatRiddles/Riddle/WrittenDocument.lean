import ChatRiddles.Riddle.Document
import ChatRiddles.Shape.Written
/-!
# Reading documents from their texts

The value that the text of a document brings is read as a `RiddleDocument` by the rules for texts.
It has to have the same fields as any other value that is read as one.

Main definition: `Document.ofWritten`.
-/

namespace ChatRiddles

open Shape

namespace Document

/-- The fields of a prompt with a content. -/
def contentOfWritten (fields : List (String × Json)) : Checked String :=
  (join (required "content" Written.text fields)
    (Written.onlyKnown ["type", "content"] fields)).map (·.1)

/-- Reads a prompt. -/
def Prompt.ofWritten : Json → Checked Prompt :=
  Written.tagged
    [("text", fun fields => (contentOfWritten fields).map .text),
      ("regex", fun fields => (contentOfWritten fields).map .regex),
      ("either", fun fields => (Written.onlyKnown ["type"] fields).map fun _ => .either)]

end Document

/-- Reads an action. -/
def Action.ofWritten : Json → Checked Action :=
  Written.tagged
    [("message", fun fields => (Document.contentOfWritten fields).map .message),
      ("send_to", fun fields =>
        (join (join (required "chat_id" Written.integer fields)
            (required "message" Written.text fields))
          (Written.onlyKnown ["type", "chat_id", "message"] fields)).map
          fun ((chat, content), _) => .sendTo chat content)]

namespace Document

/-- Reads an edge. -/
def Edge.ofWritten : Json → Checked Edge :=
  object "Edge" fun fields =>
    (join (required "prompt" Prompt.ofWritten fields)
      (join (required "actions" (Written.array Action.ofWritten) fields)
        (join (withDefault "next" none (Written.nullable Written.text) fields)
          (Written.onlyKnown ["prompt", "actions", "next"] fields)))).map
      fun (prompt, actions, next, _) => { prompt, actions, next }

/-- Reads a state. -/
def State.ofWritten : Json → Checked State :=
  object "State" fun fields =>
    (join (required "name" Written.text fields)
      (join (required "edges" (Written.array Edge.ofWritten) fields)
        (Written.onlyKnown ["name", "edges"] fields))).map
      fun (name, edges, _) => { name, edges }

/-- Reads a document. -/
def ofWritten : Json → Checked Document :=
  object "RiddleDocument" fun fields =>
    (join (required "initial_state" Written.text fields)
      (join (required "accepting_states" (Written.array Written.text) fields)
        (join (required "states" (Written.array State.ofWritten) fields)
          (Written.onlyKnown ["initial_state", "accepting_states", "states"] fields)))).map
      fun (initialState, acceptingStates, states, _) => { initialState, acceptingStates, states }

end Document

end ChatRiddles
