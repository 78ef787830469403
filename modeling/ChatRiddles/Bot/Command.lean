import ChatRiddles.Text.Blank
import ChatRiddles.Text.Case
/-!
# Commands

A command is a text that starts with a slash, as `parse_command` takes it apart. Its name goes up to
the first space or, before that, to the first `@`, which addresses a bot; it is read in lower case
and is not empty. What follows the first space are its arguments. `describe_commands` lists the
commands with their meanings.
-/

namespace ChatRiddles

open Text

/-- A command. -/
structure Command where
  name : String
  arguments : String
  deriving DecidableEq, Repr

namespace Command

/-- The command that a text is. -/
def ofChars? : List Char → Option Command
  | '/' :: rest =>
    let head := rest.takeWhile (· ≠ ' ')
    let arguments := (rest.dropWhile (· ≠ ' ')).drop 1
    let name := lower (head.takeWhile (· ≠ '@'))
    if name.isEmpty then none else some ⟨String.ofList name, String.ofList (strip arguments)⟩
  | _ => none

/-- The command that a text is. -/
def ofText? (text : String) : Option Command := ofChars? text.toList

/-- A line for a command. -/
def describeOne (name description : String) : String := "/" ++ name ++ " - " ++ description

/-- A title and a line for each command. -/
def describe (title : String) (commands : List (String × String)) : String :=
  title ++ "\n\n" ++ "\n".intercalate (commands.map fun (name, description) =>
    describeOne name description)

end Command

end ChatRiddles
