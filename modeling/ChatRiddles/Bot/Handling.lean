import ChatRiddles.Bot.Plan
/-!
# Handling texts one after another

`handle_update` carries out the plan for a text act by act. A delivery that fails ends it, and what
follows in the plan is left out. If it fails with a `DeliveryError`, that is noted, and the user can
send the text again; any other error is passed on to whoever has the text handled.

Deliveries take a course: how one ends may depend on those tried before it. The course of a text or
an update goes on where that of the one before it has ended.
-/

namespace ChatRiddles

/-- How handling a text ends. -/
inductive Outcome where
  | handled
  -- a delivery failed
  | undelivered (e : DeliveryFailure)
  -- the text could not be handled
  | crashed (c : Crash)
  deriving DecidableEq, Repr

/-- Whether an error is passed on to whoever has the text handled. -/
def Outcome.isBroken : Outcome → Bool
  | .handled | .undelivered (.failed _) => false
  | .undelivered (.broke _) | .crashed _ => true

/-- What comes of handling: the bot afterwards, the deliveries that are made and the number of those
that are tried, what is noted, and the outcome. -/
structure Handled (α : Type) where
  bot : Bot
  sent : List Delivery
  tried : Nat
  notices : List Notice
  outcome : α

namespace Bot

/-- The bot after an act that is no delivery. -/
def settle (b : Bot) (chat : Int) : Act → Bot
  | .enter s => b.enter chat s
  | .leave => b.leave chat
  | .deliver _ | .note _ => b

/-- What an act notes. -/
def noticesOf : Act → List Notice
  | .note n => [n]
  | _ => []

/-- What is noted when a delivery fails. -/
def failureNotices (chat : Int) : DeliveryFailure → List Notice
  | .failed e => [.deliveryFailed chat e.message]
  | .broke _ => []

/-- Carries out acts in a chat. -/
def perform (course : Course) (chat : Int) (b : Bot) : List Act → Handled Outcome
  | [] => ⟨b, [], 0, [], .handled⟩
  | .deliver d :: rest =>
    match course 0 d with
    | some e => ⟨b, [], 1, failureNotices chat e, .undelivered e⟩
    | none =>
      let after := perform course.next chat b rest
      { after with sent := d :: after.sent, tried := after.tried + 1 }
  | a :: rest =>
    let after := perform course chat (b.settle chat a) rest
    { after with notices := noticesOf a ++ after.notices }

/-- Handles a text whose deliveries take a course. -/
def handleIn (admins : Admins) (course : Course) (b : Bot) (m : Incoming) : Handled Outcome :=
  match plan admins b m with
  | .error c => ⟨b, [], 0, [], .crashed c⟩
  | .ok p => perform course m.chat p.bot p.acts

/-- Handles a text. -/
def handle (admins : Admins) (messenger : Messenger) (b : Bot) (m : Incoming) : Handled Outcome :=
  b.handleIn admins (.always messenger) m

/-- Handles an update whose deliveries take a course; without a text there is nothing to do. -/
def handleUpdateIn (admins : Admins) (course : Course) (b : Bot) (u : Update) : Handled Outcome :=
  match u.incoming? with
  | some m => b.handleIn admins course m
  | none => ⟨b, [], 0, [], .handled⟩

/-- Handles an update. -/
def handleUpdate (admins : Admins) (messenger : Messenger) (b : Bot) (u : Update) :
    Handled Outcome :=
  b.handleUpdateIn admins (.always messenger) u

/-- Handles updates one after another, whatever becomes of each. -/
def handleUpdates (admins : Admins) (course : Course) (b : Bot) :
    List Update → Handled (List Outcome)
  | [] => ⟨b, [], 0, [], []⟩
  | u :: rest =>
    let first := b.handleUpdateIn admins course u
    let others := first.bot.handleUpdates admins (course.after first.tried) rest
    ⟨others.bot, first.sent ++ others.sent, first.tried + others.tried,
      first.notices ++ others.notices, first.outcome :: others.outcome⟩

/-- Handles texts one after another. -/
def handleAll (admins : Admins) (messenger : Messenger) (b : Bot) :
    List Incoming → Handled (List Outcome)
  | [] => ⟨b, [], 0, [], []⟩
  | m :: rest =>
    let first := b.handle admins messenger m
    let others := first.bot.handleAll admins messenger rest
    ⟨others.bot, first.sent ++ others.sent, first.tried + others.tried,
      first.notices ++ others.notices, first.outcome :: others.outcome⟩

end Bot

end ChatRiddles
