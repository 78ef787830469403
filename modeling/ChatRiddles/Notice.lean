import ChatRiddles.Number.Integer
import ChatRiddles.Text.Quoted
/-!
# Notices

What happens is noted for the one who runs the bot. A notice has a weight, a topic and a wording.
-/

namespace ChatRiddles

open Number Text

/-- The weight of a notice. -/
inductive Weight where
  | info | warning | error
  deriving DecidableEq, Repr

/-- The name of a weight. -/
def Weight.name : Weight → String
  | .info => "INFO"
  | .warning => "WARNING"
  | .error => "ERROR"

/-- What is noted. -/
inductive Notice where
  | riddleCreated (code : String) (creator : Int)
  | riddleRemoved (code : String)
  | riddleStarted (code : String) (chat : Int)
  | riddleStopped (chat : Int)
  | riddleSolved (code : String) (chat : Int)
  | documentRejected (chat : Int) (reason : String)
  | deliveryFailed (chat : Int) (reason : String)
  | badSecret (update : Int)
  -- no updates could be fetched; the delay before the next try is given
  | fetchFailed (reason delay : String)
  -- an update that does not have the shape of one has been left out
  | updateSkipped (update reason : String)
  | updateFailed (update : Int)
  -- an entry of the list of administrators is no number
  | adminIgnored (entry : String)
  deriving DecidableEq, Repr

namespace Notice

/-- The weight of a notice. -/
def weight : Notice → Weight
  | riddleCreated _ _ | riddleRemoved _ | riddleStarted _ _ | riddleStopped _ | riddleSolved _ _
  | documentRejected _ _ => .info
  | deliveryFailed _ _ | badSecret _ | fetchFailed _ _ | updateSkipped _ _
  | adminIgnored _ => .warning
  | updateFailed _ => .error

/-- The topic of a notice. -/
def topic : Notice → String
  | riddleCreated _ _ | riddleRemoved _ => "riddler.registry"
  | riddleStarted _ _ | riddleStopped _ | riddleSolved _ _ => "riddler.play"
  | documentRejected _ _ => "backend.admin_commands"
  | deliveryFailed _ _ => "backend.dispatcher"
  | badSecret _ => "backend.routes.webhook"
  | fetchFailed _ _ | updateSkipped _ _ | updateFailed _ => "backend.polling"
  | adminIgnored _ => "riddler.config"

/-- The wording of a notice. -/
def message : Notice → String
  | riddleCreated code creator =>
    "riddle created code=" ++ code ++ " creator=" ++ integerText creator
  | riddleRemoved code => "riddle removed code=" ++ code
  | riddleStarted code chat => "riddle started code=" ++ code ++ " chat_id=" ++ integerText chat
  | riddleStopped chat => "riddle stopped chat_id=" ++ integerText chat
  | riddleSolved code chat => "riddle solved code=" ++ code ++ " chat_id=" ++ integerText chat
  | documentRejected chat reason =>
    "rejected riddle definition chat_id=" ++ integerText chat ++ ": " ++ reason
  | deliveryFailed chat reason => "delivery failed chat_id=" ++ integerText chat ++ ": " ++ reason
  | badSecret update => "Rejected webhook call for update " ++ integerText update ++ ": bad secret"
  | fetchFailed reason delay =>
    "getUpdates failed: " ++ reason ++ "; retrying in " ++ delay ++ "s"
  | updateSkipped update reason => "Skipping malformed update " ++ update ++ ": " ++ reason
  | updateFailed update => "Update " ++ integerText update ++ " failed"
  | adminIgnored entry => "Ignoring non-numeric admin id " ++ quoted entry

/-- A notice in a line. -/
def line (n : Notice) : String := n.weight.name ++ " " ++ n.topic ++ ": " ++ n.message

end Notice

end ChatRiddles
