import ChatRiddles.Bot.Command
import ChatRiddles.Bot.Update
import ChatRiddles.Play.Session
/-!
# The state of the bot

The `BotState` keeps the catalogue of riddles and, for each chat, the game that is played, whether
the code of a riddle is awaited, and the dialogue with an administrator: a `NewRiddleDraft` or a
`RemoveRiddlePending`.
-/

namespace ChatRiddles

/-- A dialogue with an administrator: what is asked for next, and what has been answered. A code
that is not given is drawn when the riddle is registered. -/
inductive Wizard where
  | code
  | name (code : Option String)
  | description (code : Option String) (name : String)
  | document (code : Option String) (name description : String)
  | removal
  deriving DecidableEq, Repr

/-- The state of the bot. -/
structure Bot where
  catalogue : Catalogue
  -- where random codes come from
  source : CodeSource
  sessions : Sessions
  -- the chats that are asked for the code of a riddle to play
  awaiting : ChatMap Unit
  wizards : ChatMap Wizard

namespace Bot

/-- The bot before anything has happened. -/
def start (source : CodeSource) : Bot := ⟨.empty, source, .empty, .empty, .empty⟩

/-- The bot with a session in a chat. -/
def enter (b : Bot) (chat : Int) (s : Session) : Bot := { b with sessions := b.sessions.set chat s }

/-- The bot without the session of a chat. -/
def leave (b : Bot) (chat : Int) : Bot := { b with sessions := b.sessions.clear chat }

/-- The bot that awaits a code in a chat. -/
def await (b : Bot) (chat : Int) : Bot := { b with awaiting := b.awaiting.set chat () }

/-- The bot that awaits no code in a chat. -/
def stopAwaiting (b : Bot) (chat : Int) : Bot := { b with awaiting := b.awaiting.clear chat }

/-- The bot with a dialogue in a chat. -/
def ask (b : Bot) (chat : Int) (w : Wizard) : Bot := { b with wizards := b.wizards.set chat w }

/-- The bot without the dialogue of a chat. -/
def stopAsking (b : Bot) (chat : Int) : Bot := { b with wizards := b.wizards.clear chat }

/-- The bot that has registered a riddle. -/
def withRegistered (b : Bot) (r : Catalogue.Registered) : Bot :=
  { b with catalogue := r.catalogue, source := r.source }

/-- The bot with one more riddle. -/
def register (b : Bot) (code : Option String) (d : Catalogue.Draft) :
    Except Catalogue.RegisterError Catalogue.Registered :=
  b.catalogue.register b.source code d

/-- The bot without the riddle of a code; `none` if there is none. -/
def remove? (b : Bot) (code : String) : Option Bot :=
  if b.catalogue.contains code then some { b with catalogue := b.catalogue.erase code } else none

end Bot

end ChatRiddles
