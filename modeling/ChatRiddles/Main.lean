import ChatRiddles.Launch.Basic
/-!
The program: it launches with its arguments in its environment, prints what there is to print, and
tells which service is to be run.
-/

namespace ChatRiddles.Launch

/-- The variables that a launch looks at. -/
def variablesRead : List String :=
  ["HOST", "PORT", "LOG_LEVEL", "BOT_TOKEN", "TELEGRAM_API_URL", "ADMINS", "WEBHOOK_SECRET",
    "REQUEST_TIMEOUT"]

end ChatRiddles.Launch

open ChatRiddles

/-- Launches the bot. -/
def main (arguments : List String) : IO UInt32 := do
  let env ← Launch.variablesRead.filterMapM fun name => return (← IO.getEnv name).map (name, ·)
  let launch := Launch.ofArguments env false arguments
  IO.print launch.output
  IO.eprint launch.complaint
  match launch.ending with
  | .exited status => return UInt32.ofNat status
  | .failed e =>
    IO.eprintln e.message
    return 1
