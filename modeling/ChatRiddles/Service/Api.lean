import ChatRiddles.Json.MessageText
import ChatRiddles.Riddle.Delivery
import ChatRiddles.Settings
/-!
# Calls of the messaging service

The `TelegramBot` calls the messaging service over the network: a method of the service is part of
the address, the arguments are a JSON object in the body, and so is the answer, which tells whether
the call was accepted. What becomes of a call on the network is given as an `Exchange`.

Main definitions: `ApiClient.delivering` and `ApiClient.fetching?` (what is sent for a call),
`ApiCall.outcome` (what an exchange amounts to), `ApiClient.deliver` and `ApiClient.fetch` (what
calls amount to).
-/

namespace ChatRiddles

open Number Text

/-! ## Waiting -/

/-- A number of seconds, whole or with a fraction. -/
inductive Seconds where
  | whole (n : Int)
  | fraction (x : Binary64)
  deriving DecidableEq, Repr

namespace Seconds

/-- The number with a fraction that is nearest. -/
def toBinary64 : Seconds → Binary64
  | whole n => .ofInt n
  | fraction x => x

/-- Whether a number is near to one with a fraction; there is a largest one. -/
def isRepresentable : Seconds → Bool
  | whole n => (Binary64.ofInt n).isFinite
  | fraction _ => true

/-- A sum, which is whole if both terms are; `none` if only one is whole, and it is too large. -/
def add? : Seconds → Seconds → Option Seconds
  | whole m, whole n => some (whole (m + n))
  | s, t =>
    if s.isRepresentable && t.isRepresentable then
      some (fraction (s.toBinary64.add t.toBinary64))
    else none

/-- No time at all. -/
def isZero : Seconds → Bool
  | whole n => n == 0
  | fraction x => x.isZero

/-- The seconds, unless they are none. -/
def orElse (s other : Seconds) : Seconds := if s.isZero then other else s

/-- A number of seconds in a message. -/
def text : Seconds → String
  | whole n => integerText n
  | fraction x => x.text

/-- Whether a number can stand in a message: an integer of too many digits cannot. -/
def isTellable : Seconds → Bool
  | whole n => (naturalText n.natAbs).length ≤ maxDigits
  | fraction _ => true

/-- A number of seconds in the body of a call. -/
def toJson : Seconds → Json
  | whole n => .int n
  | fraction x => .float x

end Seconds

/-! ## Calls -/

/-- The methods of the service that are called. -/
inductive ApiMethod where
  | sendMessage | getUpdates
  deriving DecidableEq, Repr

/-- The name of a method. -/
def ApiMethod.name : ApiMethod → String
  | .sendMessage => "sendMessage"
  | .getUpdates => "getUpdates"

/-- Who calls the service, and where. -/
structure ApiClient where
  token : String
  -- the address of the service, without slashes at its end
  base : String
  timeout : Seconds
  deriving DecidableEq, Repr

/-- A call of the service. -/
structure ApiCall where
  base : String
  url : String
  method : ApiMethod
  body : Json
  timeout : Seconds

namespace ApiClient

/-- A client of the service at an address. -/
def ofAddress (token address : String) (timeout : Seconds) : ApiClient :=
  { token, timeout, base := String.ofList (dropWhileEnd (· == '/') address.toList) }

/-- The client of the settings. -/
def ofSettings (s : Settings) : ApiClient :=
  ofAddress s.token s.apiAddress (.fraction s.timeout)

/-- The address of a method. -/
def url (c : ApiClient) (method : String) : String := c.base ++ "/bot" ++ c.token ++ "/" ++ method

/-- A call of a method. Where the time to wait is none, that of the client holds. -/
def call (c : ApiClient) (method : ApiMethod) (body : Json) (timeout : Seconds) : ApiCall :=
  { base := c.base, url := c.url method.name, method, body, timeout := timeout.orElse c.timeout }

/-- The call that makes a delivery. -/
def delivering (c : ApiClient) (d : Delivery) : ApiCall :=
  c.call .sendMessage (.object [("chat_id", .int d.chat), ("text", .string d.text)]) c.timeout

/-- How long the service waits for updates unless another time is asked for. -/
def defaultWait : Seconds := .whole 25

/-- The call that fetches the updates from a number on. The service answers as soon as there are
some, and after `wait` at the latest, so the answer is waited for that much longer. There is no call
if the times have no sum. -/
def fetching? (c : ApiClient) (offset : Option Int) (wait : Seconds) : Option ApiCall :=
  (c.timeout.add? wait).map fun timeout =>
    c.call .getUpdates
      (.object ([("timeout", wait.toJson), ("allowed_updates", .array [.string "message"])] ++
        (offset.map fun n => ("offset", Json.int n)).toList))
      timeout

end ApiClient

/-! ## Outcomes -/

/-- Why the client of the network fails with none of its errors of transport. -/
inductive ClientFault where
  | invalidAddress | ambiguousCookie | unreadableStream
  -- the arguments of the call cannot be written
  | unwritableArguments
  deriving DecidableEq, Repr

/-- How the exchange of a call and its answer ends. -/
inductive Exchange where
  | unconnected
  -- the answer does not come in time
  | late
  | broken (reason : String)
  | misused (fault : ClientFault) (reason : String)
  | answered (status : Int) (body : List UInt8)
  deriving DecidableEq, Repr

/-- Why a call fails. From `misused` on they are errors for which nobody provides. -/
inductive CallError where
  | unconnected (base : String)
  | refused (status : Int) (method : ApiMethod)
  | late (timeout : Seconds)
  | broken (method : ApiMethod) (reason : String)
  -- the answer is no JSON
  | unreadable (method : ApiMethod)
  -- the service does not accept the call
  | rejected (method : ApiMethod) (description : String)
  | misused (fault : ClientFault) (reason : String)
  -- the answer is JSON, but no object
  | noObject (kind : String)
  | nestedTooDeeply (kind : String)
  -- a time has too many digits for a message, or is too large to be added
  | untellable (time : Seconds)
  | unaddable
  deriving DecidableEq, Repr

/-- The wording of what a value lacks that is no object. -/
def noObjectMessage (kind : String) : String := "'" ++ kind ++ "' object has no attribute 'get'"

namespace CallError

/-- The wording of a failure. -/
def message : CallError → String
  | unconnected base => "Cannot connect to Telegram at " ++ base
  | refused status method =>
    "Telegram returned HTTP " ++ integerText status ++ " for " ++ method.name
  | late timeout => "Telegram timed out after " ++ timeout.text ++ "s"
  | broken method reason => "Transport error calling " ++ method.name ++ ": " ++ reason
  | unreadable method => "Telegram sent a non-JSON response for " ++ method.name
  | rejected method description => "Telegram rejected " ++ method.name ++ ": " ++ description
  | misused _ reason => reason
  | noObject kind => noObjectMessage kind
  | nestedTooDeeply kind => (Json.MessageText.Reason.nestedTooDeeply kind).message
  | untellable _ =>
    "Exceeds the limit (4300 digits) for integer string conversion; " ++
      "use sys.set_int_max_str_digits() to increase the limit"
  | unaddable => "int too large to convert to float"

end CallError

/-- Whether a status is a success. -/
def isSuccess (status : Int) : Bool := 200 ≤ status && status ≤ 299

/-- Why a body is not read. -/
inductive BodyFault where
  | noJson
  | nestedTooDeeply (kind : String)
  deriving DecidableEq, Repr

/-- The JSON value that the bytes of a body write. -/
def Json.ofBody (body : List UInt8) : Except BodyFault Json :=
  match Encoding.decode? body with
  | none => .error .noJson
  | some text =>
    match ofMessageText text with
    | .ok v => .ok v
    | .error fault =>
      match fault.reason with
      | .nestedTooDeeply kind => .error (.nestedTooDeeply kind)
      | _ => .error .noJson

namespace ApiCall

/-- What the answer to a call tells: its result, which is null if there is none. -/
def resultOf (c : ApiCall) : Json → Except CallError Json
  | .object fields =>
    let get (name : String) (default : Json) : Json := (Json.fieldOf name fields).getD default
    if (get "ok" .null).isTruthy then .ok (get "result" .null)
    else .error (.rejected c.method (get "description" (.string "unknown error")).shown)
  | v => .error (.noObject v.kindName)

/-- What an exchange for a call amounts to. -/
def outcome (c : ApiCall) : Exchange → Except CallError Json
  | .unconnected => .error (.unconnected c.base)
  | .late => .error (if c.timeout.isTellable then .late c.timeout else .untellable c.timeout)
  | .broken reason => .error (.broken c.method reason)
  | .misused fault reason => .error (.misused fault reason)
  | .answered status body =>
    if isSuccess status then
      match Json.ofBody body with
      | .ok v => c.resultOf v
      | .error .noJson => .error (.unreadable c.method)
      | .error (.nestedTooDeeply kind) => .error (.nestedTooDeeply kind)
    else .error (.refused status c.method)

end ApiCall

namespace ApiClient

/-- What the result of a call that fetches updates holds: nothing if it counts as false. -/
def fetched (result : Json) : Json := if result.isTruthy then result else .array []

/-- Makes a delivery. -/
def deliver (c : ApiClient) (d : Delivery) (x : Exchange) : Except CallError Unit :=
  ((c.delivering d).outcome x).map fun _ => ()

/-- Fetches updates. -/
def fetch (c : ApiClient) (offset : Option Int) (wait : Seconds) (x : Exchange) :
    Except CallError Json :=
  match c.fetching? offset wait with
  | some call => (call.outcome x).map fetched
  | none => .error .unaddable

end ApiClient

end ChatRiddles
