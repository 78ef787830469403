import ChatRiddles.Bot.Handling
import ChatRiddles.Service.Api
import ChatRiddles.Service.Target
/-!
# The web service

Beside polling, updates can be pushed: the messaging service posts them to the `webhook`, with a
secret in the header if one is set. `list_riddles` and `get_riddle` show the riddles, and `health`
tells that the service is up. These are all routes that `create_app` includes; the pages that the
web framework adds by itself are left out.

Main definitions: `Route.ofPath?` (which address is which), `Request.update` (how a pushed update is
read), `Web.respondIn` (the answer to a request), `Web.serve` (the answers to requests in a row).
-/

namespace ChatRiddles

open Number Text

/-! ## Requests and responses -/

/-- A request. -/
structure Request where
  method : String
  target : String
  headers : List (String × String)
  body : List UInt8

/-- What a response holds. -/
inductive Content where
  | json (v : Json)
  | text (s : String)

/-- A response. -/
structure Response where
  status : Nat
  content : Content

namespace Response

/-- A response that tells something in a field `detail`. -/
def detail (status : Nat) (v : Json) : Response := ⟨status, .json (.object [("detail", v)])⟩

/-- There is nothing at the address. -/
def notFound : Response := detail 404 (.string "Not Found")

/-- There is no riddle of the code. -/
def riddleNotFound : Response := detail 404 (.string "Riddle not found")

/-- The address does not know the method. -/
def methodNotAllowed : Response := detail 405 (.string "Method Not Allowed")

/-- The body cannot be read. -/
def unreadable : Response := detail 400 (.string "There was an error parsing the body")

/-- The secret is missing or wrong. -/
def forbidden : Response := detail 403 (.string "Invalid secret token")

/-- The same without, or with, a slash at the end is found at another address. -/
def moved : Response := ⟨307, .text ""⟩

/-- Handling the request broke down. -/
def broken : Response := ⟨500, .text "Internal Server Error"⟩

/-- A value, if an answer can hold it. -/
def ofJson (status : Nat) (v : Json) : Response :=
  if v.isUnanswerable then broken else ⟨status, .json v⟩

end Response

/-! ## Routes -/

/-- What requests can be about. -/
inductive Route where
  | health
  | webhook
  | riddles
  | riddle (code : String)
  deriving DecidableEq, Repr

namespace Route

/-- The method of a route. -/
def method : Route → String
  | webhook => "POST"
  | _ => "GET"

/-- The routes at fixed paths. -/
def fixed : List (String × Route) :=
  [("/api/health", health), ("/api/webhook", webhook), ("/api/riddles", riddles)]

/-- The code in the path of a riddle. -/
def codeIn? (path : List Char) : Option String :=
  let start := "/api/riddles/".toList
  let code := path.drop start.length
  if start.isPrefixOf path && !code.isEmpty && !code.contains '/' then some (String.ofList code)
  else none

/-- A path without a line feed at its end, which does not count. -/
def withoutLineFeed (path : List Char) : List Char :=
  if path.getLast? = some '\n' then path.dropLast else path

/-- The route of a path. -/
def ofPath? (path : List Char) : Option Route :=
  match fixed.lookup (String.ofList (withoutLineFeed path)) with
  | some route => some route
  | none => (codeIn? path).map riddle

/-- The path that differs only in the slashes at the end; the outermost path has none. -/
def otherPath? (path : List Char) : Option (List Char) :=
  if path = ['/'] then none
  else if path.getLast? = some '/' then some (dropWhileEnd (· == '/') path)
  else some (path ++ ['/'])

end Route

/-! ## Pushed updates -/

namespace Request

/-- The value of a header, whose name is read without regard to case. -/
def header? (r : Request) (name : String) : Option String :=
  (r.headers.find? fun (n, _) => n.toList.map Char.toLower == name.toList).map (·.2)

/-- The kind of content that a header tells: what stands before the parameters, in lower case. -/
def contentKind (value : String) : List Char :=
  lower (strip (value.toList.takeWhile (· ≠ ';')))

/-- Whether the body is said to be JSON. -/
def isJson (r : Request) : Bool :=
  match splitAt '/' (contentKind ((r.header? "content-type").getD "")) with
  | [kind, subkind] =>
    kind == "application".toList &&
      (subkind == "json".toList || "+json".toList.isSuffixOf subkind)
  | _ => false

/-- The place of a fault, and what is told about it. -/
def faultDetail (place : List Json) (code message : String) (input : Json)
    (more : List (String × Json)) : Json :=
  .object ([("type", .string code), ("loc", .array (.string "body" :: place)),
    ("msg", .string message), ("input", input)] ++ more)

/-- A step to a fault. -/
def stepJson : Shape.Step → Json
  | .field name => .string name
  | .item index => .int index
  | .variant tag => .string tag

/-- A fault in the shape of an update. -/
def shapeDetail (f : Shape.Fault) : Json :=
  faultDetail (f.place.map stepJson) (f.cause.code .body) (f.cause.message .body) f.input []

/-- The response to a body with faults. -/
def unprocessable (details : List Json) : Response :=
  .ofJson 422 (.object [("detail", .array details)])

/-- The value of a body. What is not said to be JSON is taken as a text. -/
def value (r : Request) : Except Response Json :=
  if r.body.isEmpty then
    .error (unprocessable [faultDetail [] "missing" "Field required" .null []])
  else if r.isJson then
    match Encoding.decode? r.body with
    | none => .error .unreadable
    | some text =>
      match Json.ofMessageText text with
      | .ok v => .ok v
      | .error fault =>
        match fault.reason with
        | .numberTooLong | .nestedTooDeeply _ => .error .unreadable
        | reason => .error (unprocessable [faultDetail [.int (fault.position text)] "json_invalid"
          "JSON decode error" (.object []) [("ctx", .object [("error", .string reason.message)])]])
  else
    match Utf8.decode r.body with
    | .ok text => .ok (.string (String.ofList text))
    | .error _ => .error .broken

/-- Reads a pushed update. -/
def update (r : Request) : Except Response Update := do
  let v ← r.value
  match Update.ofJson v with
  | .ok u => return u
  | .error faults => throw (unprocessable (faults.map shapeDetail))

/-- Whether the secret of the settings, if there is one, stands in the header. -/
def hasSecret (s : Settings) (r : Request) : Bool :=
  s.secret == "" || r.header? "x-telegram-bot-api-secret-token" == some s.secret

end Request

/-! ## Answers -/

namespace Web

/-- What the list of riddles tells about a riddle. -/
def summary (r : Riddle) : List (String × Json) :=
  [("code", .string r.code), ("name", .string r.name), ("description", .string r.description),
    ("creator", .int r.creator)]

/-- All about a riddle. -/
def details (r : Riddle) : Json :=
  .object (summary r ++ [("definition", r.definition.toDocument.toJson)])

/-- The answer to a request that changes nothing. -/
def answer (b : Bot) (response : Response) : Handled Response := ⟨b, [], 0, [], response⟩

/-- The response to an outcome of handling an update. A failed delivery is no failure of the
request. -/
def ofOutcome (o : Outcome) : Response :=
  if o.isBroken then .broken else ⟨200, .json (.object [("ok", .bool true)])⟩

/-- Takes a pushed update. -/
def receive (s : Settings) (course : Course) (b : Bot) (r : Request) : Handled Response :=
  match r.update with
  | .error response => answer b response
  | .ok u =>
    if r.hasSecret s then
      let h := b.handleUpdateIn s.admins course u
      ⟨h.bot, h.sent, h.tried, h.notices, ofOutcome h.outcome⟩
    else ⟨b, [], 0, [.badSecret u.id], .forbidden⟩

/-- Answers a request for a route. -/
def respondTo (s : Settings) (course : Course) (b : Bot) (r : Request) :
    Route → Handled Response
  | .health => answer b ⟨200, .json (.object [("status", .string "ok")])⟩
  | .webhook => receive s course b r
  | .riddles =>
    answer b (.ofJson 200 (.array (b.catalogue.riddles.map fun r => .object (summary r))))
  | .riddle code =>
    answer b (match b.catalogue.get? code with
      | some r => .ofJson 200 (details r)
      | none => .riddleNotFound)

/-- A response to a request for the head alone holds nothing. -/
def trimmed (method : String) (response : Response) : Response :=
  if method = "HEAD" then { response with content := .text "" } else response

/-- Answers a request whose deliveries take a course. -/
def respondIn (s : Settings) (course : Course) (b : Bot) (r : Request) : Handled Response :=
  let path := Target.path r.target
  let h := match Route.ofPath? path with
    | some route =>
      if route.method = r.method then respondTo s course b r route
      else answer b .methodNotAllowed
    | none =>
      answer b (if ((Route.otherPath? path).bind Route.ofPath?).isSome then .moved else .notFound)
  { h with outcome := trimmed r.method h.outcome }

/-- Answers a request. -/
def respond (s : Settings) (messenger : Messenger) (b : Bot) (r : Request) : Handled Response :=
  respondIn s (.always messenger) b r

/-- Answers requests one after another. -/
def serve (s : Settings) (course : Course) (b : Bot) : List Request → Handled (List Response)
  | [] => ⟨b, [], 0, [], []⟩
  | r :: rest =>
    let first := respondIn s course b r
    let others := serve s (course.after first.tried) first.bot rest
    ⟨others.bot, first.sent ++ others.sent, first.tried + others.tried,
      first.notices ++ others.notices, first.outcome :: others.outcome⟩

end Web

end ChatRiddles
