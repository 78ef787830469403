import ChatRiddles.Bot.State
/-!
# What the bot does with a text

A text is answered by a change of the bot that happens at once, and by acts that follow one after
another: deliveries, and what is settled after them. Texts of administrators go to their commands
and to the dialogues `new_riddle_step` and `remove_riddle_code` first; what these do not take goes
to the commands of players, to `riddle_code` where a code is awaited, and to `riddle_input` where a
game is played.

A text that nobody waits for is passed over.
-/

namespace ChatRiddles

open Text Number

/-- Why a text cannot be handled. -/
inductive Crash where
  -- the current state of the game is none of its riddle
  | unknownState (e : Walk.UnknownState)
  | brokenDown (b : Pattern.Breakdown)
  deriving DecidableEq, Repr

/-- The wording of a crash. -/
def Crash.message : Crash → String
  | .unknownState e => e.message
  | .brokenDown b => b.message

/-- What follows the change that happens at once. -/
inductive Act where
  | deliver (d : Delivery)
  | enter (s : Session)
  | leave
  | note (n : Notice)
  deriving DecidableEq, Repr

/-- The change that happens at once, and what follows. -/
structure Plan where
  bot : Bot
  acts : List Act

/-- A text for a chat. -/
def reply (chat : Int) (text : String) : Act := .deliver ⟨chat, text⟩

/-! ## Players -/

/-- A command for players. -/
inductive PlayerCommand where
  | help | start | startRiddle | stopRiddle
  deriving DecidableEq, Repr

namespace PlayerCommand

/-- The name of a command. -/
def name : PlayerCommand → String
  | .help => "help"
  | .start => "start"
  | .startRiddle => "startriddle"
  | .stopRiddle => "stopriddle"

/-- What a command does, as players are told. -/
def description : PlayerCommand → String
  | .help => "display this text."
  | .start => "display this text."
  | .startRiddle => "start the riddle."
  | .stopRiddle => "stop the current riddle."

/-- All commands, in the order in which players are told of them. -/
def all : List PlayerCommand := [.help, .start, .startRiddle, .stopRiddle]

/-- The command that a text is. -/
def ofText? (text : String) : Option PlayerCommand :=
  (Command.ofText? text).bind fun c => all.find? (·.name == c.name)

/-- What players are told about the commands. -/
def overview : String :=
  Command.describe "These commands are supported:" (all.map fun c => (c.name, c.description))

end PlayerCommand

/-- The plan for a command of a player. -/
def planPlayerCommand (b : Bot) (chat : Int) : PlayerCommand → Plan
  | .help | .start =>
    ⟨(b.stopAwaiting chat).leave chat, [reply chat PlayerCommand.overview]⟩
  | .startRiddle =>
    ⟨((b.stopAwaiting chat).leave chat).await chat, [reply chat "What is the code of the riddle?"]⟩
  | .stopRiddle =>
    let b := b.stopAwaiting chat
    match Play.stop? b.sessions chat with
    | some sessions =>
      ⟨{ b with sessions }, [.note (.riddleStopped chat), reply chat "Riddle stopped"]⟩
    | none => ⟨b, [reply chat "No riddle is running"]⟩

/-- The plan for the code of a riddle to play. -/
def planCode (b : Bot) (chat : Int) (text : String) : Plan :=
  let code := String.ofList (strip text.toList)
  match Play.start b.catalogue b.sessions chat code with
  | .error _ => ⟨b, [reply chat "Riddle not found"]⟩
  | .ok (riddle, sessions) =>
    ⟨{ b with sessions }.stopAwaiting chat,
      [.note (.riddleStarted code chat), reply chat "Let's get started!",
        reply chat (riddle.name ++ "\n\n" ++ riddle.description)]⟩

/-- What follows the deliveries of a move. -/
def settlement (m : Play.Move) (chat : Int) : List Act :=
  if m.solves then
    .leave :: (m.notices chat).map .note ++ [reply chat "You solved the riddle!"]
  else [.enter m.session]

/-- The plan for a text in a game. -/
def planMove (b : Bot) (chat : Int) (text : String) : Except Crash Plan :=
  match Play.move b.catalogue b.sessions chat text with
  | .error (.unknownState e) => .error (.unknownState e)
  | .error o =>
    let sessions := Play.afterObstacle b.sessions chat o
    .ok ⟨{ b with sessions }, [reply chat "Riddle not found"]⟩
  | .ok m => .ok ⟨b, m.deliveries.map .deliver ++ settlement m chat⟩

/-- The plan for a text of a player. -/
def planPlayer (b : Bot) (chat : Int) (text : String) : Except Crash Plan :=
  match PlayerCommand.ofText? text with
  | some command => .ok (planPlayerCommand b chat command)
  | none =>
    if b.awaiting.contains chat then .ok (planCode b chat text)
    else if b.sessions.contains chat then planMove b chat text
    else .ok ⟨b, []⟩

/-! ## Administrators -/

/-- A command for administrators. -/
inductive AdminCommand where
  | help | newRiddle | removeRiddle | listRiddles
  deriving DecidableEq, Repr

namespace AdminCommand

/-- The name of a command. -/
def name : AdminCommand → String
  | .help => "help"
  | .newRiddle => "newriddle"
  | .removeRiddle => "removeriddle"
  | .listRiddles => "listriddles"

/-- What a command does, as administrators are told. -/
def description : AdminCommand → String
  | .help => "display this text."
  | .newRiddle => "create a new riddle."
  | .removeRiddle => "remove a riddle."
  | .listRiddles => "list all riddles."

/-- All commands, in the order in which administrators are told of them. -/
def all : List AdminCommand := [.help, .newRiddle, .removeRiddle, .listRiddles]

/-- The command that a text is. -/
def ofText? (text : String) : Option AdminCommand :=
  (Command.ofText? text).bind fun c => all.find? (·.name == c.name)

/-- What administrators are told about the commands. -/
def overview : String :=
  Command.describe "These admin commands are supported:" (all.map fun c => (c.name, c.description))

end AdminCommand

/-- The answer that asks for a random code. -/
def randomCode : String := "RANDOM"

/-- What is listed of a riddle. -/
def Riddle.entry (r : Riddle) : String :=
  r.name ++ " (code: " ++ r.code ++ ")\nAuthor: " ++ integerText r.creator ++ "\nDescription:\n" ++
    r.description

/-- The list of all riddles. -/
def Catalogue.listing (c : Catalogue) : String :=
  "\n\n".intercalate ("List of riddles:" :: c.riddles.map Riddle.entry)

/-- The plan for a command of an administrator. -/
def planAdminCommand (b : Bot) (chat : Int) : AdminCommand → Plan
  | .help =>
    ⟨b.stopAsking chat, [reply chat PlayerCommand.overview, reply chat AdminCommand.overview]⟩
  | .listRiddles => ⟨b.stopAsking chat, [reply chat b.catalogue.listing]⟩
  | .newRiddle =>
    ⟨b.ask chat .code,
      [reply chat ("What is the code for your riddle? (" ++ randomCode ++
        " if you want us to randomize)")]⟩
  | .removeRiddle => ⟨b.ask chat .removal, [reply chat "What is the code of the riddle?"]⟩

/-- What is told where a code is taken. -/
def codeTaken (code : String) : String := "Riddle with code " ++ code ++ " already exists!"

/-- The plan for the document of a new riddle. A document that is rejected is asked for again. -/
def planDocument (b : Bot) (chat : Int) (user : Int) (code : Option String)
    (name description text : String) : Except Crash Plan :=
  match Definition.ofText text with
  | .error (.brokenDown e) => .error (.brokenDown e)
  | .error (.rejected r) =>
    .ok ⟨b, [.note (.documentRejected chat r.message), reply chat ("Error: " ++ r.message)]⟩
  | .ok definition =>
    let b := b.stopAsking chat
    match b.register code ⟨name, description, user, definition⟩ with
    | .error (.taken code) => .ok ⟨b, [reply chat (codeTaken code)]⟩
    | .ok r =>
      .ok ⟨b.withRegistered r,
        [.note r.notice, reply chat ("Riddle created! Code: " ++ r.riddle.code)]⟩

/-- The plan for an answer in a dialogue. -/
def planAnswer (b : Bot) (chat user : Int) (text : String) : Wizard → Except Crash Plan
  | .code =>
    let code := String.ofList (strip text.toList)
    if b.catalogue.contains code then .ok ⟨b, [reply chat (codeTaken code)]⟩
    else
      .ok ⟨b.ask chat (.name (if code = randomCode then none else some code)),
        [reply chat "What is the name of the riddle?"]⟩
  | .name code =>
    .ok ⟨b.ask chat (.description code text), [reply chat "What is the description of the riddle?"]⟩
  | .description code name =>
    .ok ⟨b.ask chat (.document code name text),
      [reply chat "What is the state machine of the riddle? Send it as JSON."]⟩
  | .document code name description => planDocument b chat user code name description text
  | .removal =>
    let code := String.ofList (strip text.toList)
    match b.remove? code with
    | some b =>
      .ok ⟨b.stopAsking chat, [.note (.riddleRemoved code), reply chat "Riddle removed!"]⟩
    | none => .ok ⟨b, [reply chat "Riddle not found!"]⟩

/-- The plan for a text of an administrator; `none` if it is left to the players' part. -/
def planAdmin? (b : Bot) (chat user : Int) (text : String) : Option (Except Crash Plan) :=
  match AdminCommand.ofText? text with
  | some command => some (.ok (planAdminCommand b chat command))
  | none => (b.wizards.get? chat).map (planAnswer b chat user text)

/-! ## All texts -/

/-- The numbers of the users who are administrators. -/
abbrev Admins := List Int

/-- The user who sent a text, if an administrator did. -/
def Incoming.admin? (m : Incoming) (admins : Admins) : Option Int :=
  m.user.filter admins.contains

/-- The plan for a text. -/
def plan (admins : Admins) (b : Bot) (m : Incoming) : Except Crash Plan :=
  let asPlayer := planPlayer b m.chat m.text
  match m.admin? admins with
  | none => asPlayer
  | some user => (planAdmin? b m.chat user m.text).getD asPlayer

end ChatRiddles
