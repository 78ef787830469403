import ChatRiddles.Chat.ChatMap
import ChatRiddles.Riddle.Catalogue
import ChatRiddles.Riddle.Walk
/-!
# Games in chats

A chat that plays has a session: the code of its riddle and the current state. `start_riddle` begins
it and `stop_riddle` gives it up. In `play_turn` a text makes a move: the edge that it takes, with
the deliveries of its actions. The move is settled when all deliveries are made: in an accepting
state the game is won and the session ends, otherwise the session goes on in the state of the move.
A delivery that fails leaves the session as it was.
-/

namespace ChatRiddles

open Text Number

/-- The game of a chat. -/
structure Session where
  riddle : String
  state : String
  deriving DecidableEq, Repr

/-- The games of chats. -/
abbrev Sessions := ChatMap Session

namespace Play

/-- Why a game cannot begin or go on. -/
inductive Obstacle where
  | noRiddle (code : String)
  | noSession (chat : Int)
  | unknownState (e : Walk.UnknownState)
  deriving DecidableEq, Repr

/-- The wording of an obstacle. -/
def Obstacle.message : Obstacle → String
  | .noRiddle code => "Riddle " ++ quoted code ++ " not found"
  | .noSession chat => "No riddle is running in chat " ++ integerText chat
  | .unknownState e => e.message

/-- Begins a game in the initial state of a riddle. -/
def start (catalogue : Catalogue) (sessions : Sessions) (chat : Int) (code : String) :
    Except Obstacle (Riddle × Sessions) :=
  match catalogue.get? code with
  | none => .error (.noRiddle code)
  | some riddle => .ok (riddle, sessions.set chat ⟨code, riddle.definition.initialState⟩)

/-- Gives up a game; `none` if there is none. -/
def stop? (sessions : Sessions) (chat : Int) : Option Sessions :=
  if sessions.contains chat then some (sessions.clear chat) else none

/-- What a text does in a game. -/
structure Move where
  riddle : Riddle
  -- the session after the move, unless the game is won
  session : Session
  deliveries : List Delivery

/-- Whether a move wins the game. -/
def Move.solves (m : Move) : Bool := m.riddle.definition.isAccepting m.session.state

/-- The move of a text. -/
def move (catalogue : Catalogue) (sessions : Sessions) (chat : Int) (text : String) :
    Except Obstacle Move :=
  match sessions.get? chat with
  | none => .error (.noSession chat)
  | some session =>
    match catalogue.get? session.riddle with
    | none => .error (.noRiddle session.riddle)
    | some riddle =>
      match Walk.chooseEdge riddle.definition session.state text with
      | .error e => .error (.unknownState e)
      | .ok none => .ok ⟨riddle, session, []⟩
      | .ok (some (_, edge)) =>
        .ok ⟨riddle, { session with state := edge.target session.state },
          edge.actions.map (·.delivery chat)⟩

/-- The sessions after an obstacle: a game whose riddle is gone ends. -/
def afterObstacle (sessions : Sessions) (chat : Int) : Obstacle → Sessions
  | .noRiddle _ => sessions.clear chat
  | _ => sessions

/-- The sessions after a move whose deliveries are made. -/
def Move.settle (m : Move) (sessions : Sessions) (chat : Int) : Sessions :=
  if m.solves then sessions.clear chat else sessions.set chat m.session

/-- What is noted when a move is settled. -/
def Move.notices (m : Move) (chat : Int) : List Notice :=
  if m.solves then [.riddleSolved m.riddle.code chat] else []

/-- How a turn ends. -/
inductive TurnEnd where
  | settled (m : Move)
  | obstacle (o : Obstacle)
  | undelivered (e : DeliveryFailure)

/-- A turn: how it ends, the sessions after it, and the deliveries that were made. -/
structure Turn where
  result : TurnEnd
  sessions : Sessions
  sent : List Delivery

/-- Plays a text in a chat; its deliveries take a course. -/
def turnIn (course : Course) (catalogue : Catalogue) (sessions : Sessions) (chat : Int)
    (text : String) : Turn :=
  match move catalogue sessions chat text with
  | .error o => ⟨.obstacle o, afterObstacle sessions chat o, []⟩
  | .ok m =>
    match deliverAllIn course m.deliveries with
    | (sent, some e) => ⟨.undelivered e, sessions, sent⟩
    | (sent, none) => ⟨.settled m, m.settle sessions chat, sent⟩

/-- Plays a text in a chat. -/
def turn (messenger : Messenger) (catalogue : Catalogue) (sessions : Sessions) (chat : Int)
    (text : String) : Turn :=
  turnIn (.always messenger) catalogue sessions chat text

end Play

end ChatRiddles
