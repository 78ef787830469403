import ChatRiddles.Bot.Plan
import ChatRiddles.Number.Decimal
/-!
# Settings

`load_settings` reads the settings once, from the variables of the environment, and `parse_admins`
the list of administrators among them. A variable that is not set counts as empty, and where a
setting needs a value an empty variable leaves the default.

Main definitions: `Settings` (all settings), `Settings.ofEnvironment` (how they are read),
`adminsOf` (the list of administrators).
-/

namespace ChatRiddles

open Number Text

/-- The variables of an environment and their values. -/
abbrev Environment := List (String × String)

/-- The value of a variable, which is empty if it is not set. -/
def Environment.valueOf (env : Environment) (name : String) : String :=
  (env.lookup name).getD ""

/-! ## Administrators -/

/-- An entry in the list of administrators. -/
inductive AdminEntry where
  | blank
  | user (id : Int)
  | malformed (entry : String)
  deriving DecidableEq, Repr

namespace AdminEntry

/-- Reads an entry. -/
def ofChars (cs : List Char) : AdminEntry :=
  let entry := strip cs
  if entry.isEmpty then blank
  else match ofText? entry with
    | some id => user id
    | none => malformed (String.ofList entry)

/-- The user whom an entry names. -/
def user? : AdminEntry → Option Int
  | user id => some id
  | _ => none

/-- What is noted about an entry. -/
def notice? : AdminEntry → Option Notice
  | malformed entry => some (.adminIgnored entry)
  | _ => none

end AdminEntry

/-- The entries of a list, which are separated by commas. -/
def adminEntries (text : String) : List AdminEntry :=
  (splitAt ',' text.toList).map AdminEntry.ofChars

/-- The administrators of a list. -/
def adminsOf (text : String) : Admins := (adminEntries text).filterMap AdminEntry.user?

/-- What is noted about a list. -/
def adminNotices (text : String) : List Notice := (adminEntries text).filterMap AdminEntry.notice?

/-! ## All settings -/

/-- The settings. -/
structure Settings where
  token : String
  apiAddress : String
  admins : Admins
  -- the secret that requests have to carry; none is needed if it is empty
  secret : String
  -- for how many seconds the messaging service is waited for
  timeout : Binary64
  deriving DecidableEq, Repr

/-- The address of the messaging service unless another one is set. -/
def defaultApiAddress : String := "https://api.telegram.org"

/-- The seconds to wait unless others are set. -/
def defaultTimeout : Binary64 := .ofInt 30

/-- A setting that is no number. -/
structure NotANumber where
  value : String
  deriving DecidableEq, Repr

/-- The wording of a setting that is no number. -/
def NotANumber.message (e : NotANumber) : String :=
  "could not convert string to float: " ++ quoted e.value

namespace Settings

/-- Reads the seconds to wait. -/
def timeoutOf (text : String) : Except NotANumber Binary64 :=
  if text = "" then .ok defaultTimeout
  else match decimalOfText? text.toList with
    | some x => .ok x
    | none => .error ⟨text⟩

/-- Reads the settings. -/
def ofEnvironment (env : Environment) : Except NotANumber Settings := do
  let timeout ← timeoutOf (env.valueOf "REQUEST_TIMEOUT")
  let address := env.valueOf "TELEGRAM_API_URL"
  return {
    token := env.valueOf "BOT_TOKEN"
    apiAddress := if address = "" then defaultApiAddress else address
    admins := adminsOf (env.valueOf "ADMINS")
    secret := env.valueOf "WEBHOOK_SECRET"
    timeout }

/-- What is noted while the settings are read. -/
def noticesOf (env : Environment) : List Notice := adminNotices (env.valueOf "ADMINS")

/-- Whether a user is an administrator; nobody is none. -/
def isAdmin (s : Settings) (user : Option Int) : Bool := user.any s.admins.contains

end Settings

end ChatRiddles
