import ChatRiddles.Launch.Help
import ChatRiddles.Service.Api
import ChatRiddles.Text.Upper
/-!
# Launching the bot

The program is launched with arguments in an environment. It either takes pushed updates as a web
service or fetches updates by polling, unless it stops before that: to give help, or because the
arguments or the environment are wrong. The environment is looked at first for the port, then the
arguments are followed, and the other settings are read last.
-/

namespace ChatRiddles

open Number Text

/-! ## Levels -/

/-- The level from which on notices are written. -/
inductive LogLevel where
  | all | debug | info | warning | error | critical
  deriving DecidableEq, Repr

namespace LogLevel

/-- The name of a level. -/
def name : LogLevel → String
  | all => "NOTSET"
  | debug => "DEBUG"
  | info => "INFO"
  | warning => "WARNING"
  | error => "ERROR"
  | critical => "CRITICAL"

/-- The names by which levels are chosen. -/
def names : List (String × LogLevel) :=
  [all, debug, info, warning, error, critical].map (fun level => (level.name, level)) ++
    [("WARN", warning), ("FATAL", critical)]

/-- The level of a name. -/
def ofName? (name : String) : Option LogLevel := names.lookup name

end LogLevel

/-! ## What a launch comes to -/

/-- Why a launch fails. -/
inductive LaunchError where
  | portNoInteger (port : String)
  | portTooLong (digits : Nat)
  | unknownLevel (name : String)
  | wrongSetting (e : NotANumber)
  deriving DecidableEq, Repr

/-- The wording of a failure; a long port is cut short. -/
def LaunchError.message : LaunchError → String
  | portNoInteger port =>
    "invalid literal for int() with base 10: " ++ String.ofList ((quotedChars port.toList).take 200)
  | portTooLong digits =>
    "Exceeds the limit (" ++ integerText maxDigits ++
      " digits) for integer string conversion: value has " ++ integerText digits ++
      " digits; use sys.set_int_max_str_digits() to increase the limit"
  | unknownLevel name => "Unknown level: " ++ quoted name
  | wrongSetting e => e.message

/-- What is run. -/
inductive Service where
  | web (host : String) (port : Int)
  | polling (client : ApiClient) (admins : Admins)
  deriving DecidableEq, Repr

/-- How a launch ends. -/
inductive Ending where
  | exited (status : Nat)
  | failed (e : LaunchError)
  deriving DecidableEq, Repr

/-- A launch: what it prints, the level that holds, what is run, and how it ends. -/
structure Launch where
  output : String
  complaint : String
  level : LogLevel
  service : Option Service
  ending : Ending
  deriving DecidableEq, Repr

namespace Launch

/-- The host unless another one is chosen. -/
def defaultHost : String := "0.0.0.0"

/-- The port unless another one is chosen. -/
def defaultPort : String := "13015"

/-- The level unless another one is chosen. -/
def defaultLevel : String := "INFO"

/-- A launch that stops before anything is run. -/
def stopped (level : LogLevel) (e : LaunchError) : Launch := ⟨"", "", level, none, .failed e⟩

/-- The number that a port is. -/
def portOf (text : String) : Except LaunchError Int :=
  match ofText? text.toList with
  | some port => .ok port
  | none =>
    match digitCount? text.toList with
    | some digits => .error (.portTooLong digits)
    | none => .error (.portNoInteger text)

/-- What is run with settings and options. -/
def serviceOf (s : Settings) (o : Options) : Service :=
  if o.poll then .polling (.ofSettings s) s.admins else .web o.host o.port

/-- What is printed when something is run. -/
def announcement : Service → String
  | .web host port =>
    "Starting webhook server on http://" ++ host ++ ":" ++ integerText port ++ " ...\n"
  | .polling _ _ => "Polling Telegram for updates (Ctrl+C to stop) ...\n"

/-- What is printed when something that is run is interrupted. -/
def farewell : Service → String
  | .web _ _ => ""
  | .polling _ _ => "\nShutting down...\n"

/-- Launches with options. -/
def withOptions (env : Environment) (interrupted : Bool) (o : Options) : Launch :=
  let name := String.ofList (upper o.logLevel.toList)
  match LogLevel.ofName? name with
  | none => stopped .warning (.unknownLevel name)
  | some level =>
    match Settings.ofEnvironment env with
    | .error e => stopped level (.wrongSetting e)
    | .ok s =>
      let service := serviceOf s o
      { output := announcement service ++ if interrupted then farewell service else ""
        complaint := ""
        level
        service := some service
        ending := .exited 0 }

/-- Launches with arguments in an environment; `interrupted` tells whether what is run is
interrupted. -/
def ofArguments (env : Environment) (interrupted : Bool) (arguments : List String) : Launch :=
  let host := (env.lookup "HOST").getD defaultHost
  let portText := (env.lookup "PORT").getD defaultPort
  match portOf portText with
  | .error e => stopped .warning e
  | .ok port =>
    let choice : Options :=
      { poll := false, host, port, logLevel := (env.lookup "LOG_LEVEL").getD defaultLevel }
    match choice.ofArguments arguments with
    | .error e => ⟨"", Help.complaint e, .warning, none, .exited 2⟩
    | .ok none => ⟨Help.text host portText, "", .warning, none, .exited 0⟩
    | .ok (some o) => withOptions env interrupted o

end Launch

end ChatRiddles
