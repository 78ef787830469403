import ChatRiddles.Riddle.Definition
import ChatRiddles.Riddle.Delivery
/-!
# Walking through a riddle

A text takes at most one edge: `select_edge` finds the first edge of the current state whose prompt
accepts it. `apply` has its actions done in order by the `ChatApplier`, and the walk goes on in the
state that the edge leads to. A text that no prompt accepts changes nothing. An action that fails
ends the step, and the walk stays where it was. A state that the riddle does not have is an
`UnknownStateError`.
-/

namespace ChatRiddles

open Text

namespace Definition

/-- Whether a prompt accepts a text. -/
def Prompt.accepts : Prompt → String → Bool
  | .text content, entered => content == entered
  | .regex pattern, entered => pattern.isFoundIn entered
  | .either, _ => true

/-- The state that an edge of a state leads to. -/
def Edge.target (e : Edge) (state : String) : String := e.next.getD state

/-- The first edge of a state that accepts a text, with its index. -/
def State.edgeFor? (s : State) (text : String) : Option (Nat × Edge) :=
  (s.edges.zipIdx.find? fun (e, _) => e.prompt.accepts text).map fun (e, i) => (i, e)

end Definition

namespace Walk

/-- A state that a definition does not have. -/
structure UnknownState where
  state : String
  deriving DecidableEq, Repr

/-- The wording of an unknown state. -/
def UnknownState.message (e : UnknownState) : String :=
  "State " ++ quoted e.state ++ " is not defined"

/-- The edge that a text takes in a state, with its index; `none` if it takes none. -/
def chooseEdge (d : Definition) (state text : String) :
    Except UnknownState (Option (Nat × Definition.Edge)) :=
  match d.state? state with
  | some s => .ok (s.edgeFor? text)
  | none => .error ⟨state⟩

/-- In a known state, the edges of that state are asked. -/
theorem chooseEdge_of_state {d : Definition} {s : Definition.State} {state text : String}
    (h : d.state? state = some s) : chooseEdge d state text = .ok (s.edgeFor? text) := by
  simp only [chooseEdge, h]

/-- What happens to an action. -/
inductive Event where
  | started (action : Action)
  | finished (action : Action)
  deriving DecidableEq, Repr

/-- What happens to actions in a course of deliveries until one fails. -/
def eventsIn (course : Course) (chat : Int) : List Action → List Event
  | [] => []
  | a :: rest =>
    match course 0 (a.delivery chat) with
    | some _ => [.started a]
    | none => .started a :: .finished a :: eventsIn course.next chat rest

/-- One step of a walk: the edge that is taken, what happens to its actions, the deliveries that are
made, the failure that ends the step if there is one, and the state after it. -/
structure Step where
  edge : Option Nat
  -- what happens to the actions
  events : List Event
  sent : List Delivery
  failure : Option DeliveryFailure
  state : String
  deriving DecidableEq, Repr

/-- The step that a text makes in a state; its deliveries take a course. -/
def stepIn (d : Definition) (course : Course) (chat : Int) (state text : String) :
    Except UnknownState Step := do
  match ← chooseEdge d state text with
  | none => return ⟨none, [], [], none, state⟩
  | some (index, edge) =>
    let (sent, failure) := deliverAllIn course (edge.actions.map (·.delivery chat))
    let target := if failure.isSome then state else edge.target state
    return ⟨some index, eventsIn course chat edge.actions, sent, failure, target⟩

/-- The step that a text makes in a state. -/
def step (d : Definition) (messenger : Messenger) (chat : Int) (state text : String) :
    Except UnknownState Step :=
  stepIn d (.always messenger) chat state text

/-- The steps that texts make one after another; a text in an unknown state makes none. -/
def steps (d : Definition) (messenger : Messenger) (chat : Int) :
    String → List String → List (Except UnknownState Step)
  | _, [] => []
  | state, text :: rest =>
    let made := step d messenger chat state text
    let next := match made with
      | .ok s => s.state
      | .error _ => state
    made :: steps d messenger chat next rest

/-- The wording for a value that is no prompt. -/
def unknownPrompt (v : Json) : String := "Unknown prompt " ++ v.named

/-- The wording for a value that is no action. -/
def unknownAction (v : Json) : String := "Unknown action " ++ v.named

end Walk

end ChatRiddles
