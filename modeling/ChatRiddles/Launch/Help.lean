import ChatRiddles.Launch.Arguments
import ChatRiddles.Text.Wrapped
/-!
# Help for the command line

The help lists the options beside their meaning, in lines of 78 characters. The meaning starts in
column 24; an option that is too long for the columns before that has a line of its own.
-/

namespace ChatRiddles

open Text

namespace Help

/-- The name of the program. -/
def program : String := "main.py"

/-- The options in short. -/
def usage : String :=
  "usage: " ++ program ++ " [-h] [--poll] [--host HOST] [--port PORT]\n" ++
    "               [--log-level LOG_LEVEL]\n"

/-- What is told about wrong arguments. -/
def complaint (e : UsageError) : String := usage ++ program ++ ": error: " ++ e.message ++ "\n"

/-- The width of a line. -/
def lineWidth : Nat := 78

/-- The column in which meanings start. -/
def meaningColumn : Nat := 24

/-- The columns before an option. -/
def margin : Nat := 2

/-- A text with single spaces for its separators, and without blanks at its ends. -/
def evened (text : String) : List Char :=
  let words := (text.toList.splitBy fun a b => isSeparator a == isSeparator b).map fun run =>
    if run.all isSeparator then [' '] else run
  strip words.flatten

/-- Spaces. -/
def spaces (n : Nat) : String := String.ofList (List.replicate n ' ')

/-- The lines for an option and its meaning. -/
def entry (option meaning : String) : String :=
  let lines := (wrapped (lineWidth - meaningColumn) (evened meaning)).map String.ofList
  let start := spaces margin ++ option
  let indent := spaces meaningColumn
  if option.length + 2 * margin ≤ meaningColumn then
    start ++ spaces (meaningColumn - start.length) ++ ("\n" ++ indent).intercalate lines ++ "\n"
  else start ++ "\n" ++ indent ++ ("\n" ++ indent).intercalate lines ++ "\n"

/-- The help, with the host and the port that hold without options. -/
def text (host port : String) : String :=
  usage ++ "\nRiddler Telegram bot\n\noptions:\n" ++
    entry "-h, --help" "show this help message and exit" ++
    entry "--poll" "Fetch updates with long polling instead of serving a webhook" ++
    entry "--host HOST" ("Webhook bind host (default: " ++ host ++ ")") ++
    entry "--port PORT" ("Webhook bind port (default: " ++ port ++ ")") ++
    entry "--log-level LOG_LEVEL" "Logging level (default: INFO)"

end Help

end ChatRiddles
