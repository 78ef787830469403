import ChatRiddles.Bot.Handling
import ChatRiddles.Service.Api
/-!
# Polling

`run_polling` fetches updates from the messaging service, batch after batch, and has each of them
handled. It asks for the updates after the last one it has seen, so the service does not send an
update again. When a fetch fails it pauses and goes on. What it has accepted is handled, in the
order in which it came, as soon as it has to wait: in a pause, for a fetch whose answer is not there
at once, or when polling ends.

Main definitions: `Poller.accept` (takes one update), `Poller.fetch` (one fetch), `Poller.runIn`
(goes through fetches).
-/

namespace ChatRiddles

open Number

/-- What a fetch brings. -/
inductive Batch where
  | updates (raw : List Json)
  | failed (e : DeliveryError)

/-- The values that a fetch brings. -/
def Batch.raw : Batch → List Json
  | updates raw => raw
  | failed _ => []

/-- A fetch. -/
structure Fetch where
  waits : Bool
  brings : Batch

/-- A value in a batch that cannot be an update, because it is no object. -/
structure NoObject where
  kind : String
  deriving DecidableEq, Repr

/-- The wording of a value that is no object. -/
def NoObject.message (e : NoObject) : String := noObjectMessage e.kind

/-- How long a pause is. -/
def retryDelay : Seconds := .fraction (.ofInt 5)

/-- The poller, and what has come of it. -/
structure Poller where
  bot : Bot
  -- the number of the first update to ask for; all updates if there is none
  offset : Option Int
  accepted : List Update
  handled : Nat
  sent : List Delivery
  -- the number of deliveries that have been tried
  tried : Nat
  notices : List Notice
  asked : List (Option Int)
  pauses : Nat

namespace Poller

/-- The poller before its first fetch. -/
def ofBot (b : Bot) : Poller := ⟨b, none, [], 0, [], 0, [], [], 0⟩

/-- The number of an update, if it is written as an integer or a truth value. -/
def numberOf? : Json → Option Int
  | .int n => some n
  | .bool b => some (if b then 1 else 0)
  | _ => none

/-- The number of faults in a line. -/
def faultCount (faults : List Shape.Fault) : String :=
  integerText faults.length ++
    (if faults.length = 1 then " validation error" else " validation errors") ++ " for Update"

/-- Takes an update. One that does not have the shape of an update is left out; a value that is no
object ends polling. -/
def accept (p : Poller) (raw : Json) : Except NoObject Poller :=
  match raw with
  | .object fields =>
    let id := (Json.fieldOf "update_id" fields).getD .null
    let p := { p with offset := (numberOf? id).map (· + 1) <|> p.offset }
    match Update.ofJson raw with
    | .ok u => .ok { p with accepted := p.accepted ++ [u] }
    | .error faults =>
      .ok { p with notices := p.notices ++ [.updateSkipped id.shown (faultCount faults)] }
  | v => .error ⟨v.kindName⟩

/-- Takes the updates of a batch until one ends polling. -/
def acceptAll (p : Poller) : List Json → Poller × Option NoObject
  | [] => (p, none)
  | raw :: rest =>
    match p.accept raw with
    | .ok p => p.acceptAll rest
    | .error e => (p, some e)

/-- What is noted when an update is handled. An error that is passed on is noted, and the other
updates go on. -/
def noticesOf (u : Update) (h : Handled Outcome) : List Notice :=
  if h.outcome.isBroken then h.notices ++ [.updateFailed u.id] else h.notices

/-- Handles an update. -/
def handle (admins : Admins) (course : Course) (p : Poller) (u : Update) : Poller :=
  let h := p.bot.handleUpdateIn admins (course.after p.tried) u
  { p with
    bot := h.bot
    handled := p.handled + 1
    sent := p.sent ++ h.sent
    tried := p.tried + h.tried
    notices := p.notices ++ noticesOf u h }

/-- Handles the updates that have been accepted and not yet handled. -/
def settle (admins : Admins) (course : Course) (p : Poller) : Poller :=
  (p.accepted.drop p.handled).foldl (handle admins course) p

/-- Notes that a fetch failed and pauses. -/
def pause (p : Poller) (e : DeliveryError) : Poller :=
  { p with
    notices := p.notices ++ [.fetchFailed e.message retryDelay.text]
    pauses := p.pauses + 1 }

/-- Asks for updates. -/
def ask (p : Poller) : Poller := { p with asked := p.asked ++ [p.offset] }

/-- Fetches updates and takes what the fetch brings. -/
def fetch (admins : Admins) (course : Course) (p : Poller) (f : Fetch) :
    Poller × Option NoObject :=
  let p := if f.waits then p.ask.settle admins course else p.ask
  match f.brings with
  | .failed e => ((p.pause e).settle admins course, none)
  | .updates raw => p.acceptAll raw

/-- Goes through fetches until one ends polling. -/
def fetchAll (admins : Admins) (course : Course) (p : Poller) :
    List Fetch → Poller × Option NoObject
  | [] => (p, none)
  | f :: rest =>
    match p.fetch admins course f with
    | (p, none) => p.fetchAll admins course rest
    | (p, some e) => (p, some e)

/-- Goes through fetches, and handles all that has been accepted. -/
def runIn (admins : Admins) (course : Course) (p : Poller) (fetches : List Fetch) :
    Poller × Option NoObject :=
  let (p, failure) := p.fetchAll admins course fetches
  (p.settle admins course, failure)

/-- Goes through fetches that keep nobody waiting. -/
def run (admins : Admins) (messenger : Messenger) (p : Poller) (batches : List Batch) :
    Poller × Option NoObject :=
  p.runIn admins (.always messenger) (batches.map (⟨false, ·⟩))

end Poller

end ChatRiddles
