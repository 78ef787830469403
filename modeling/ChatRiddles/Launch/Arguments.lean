import ChatRiddles.Number.Integer
import ChatRiddles.Text.Quoted
/-!
# Arguments of the command line

An argument is an option or a value. An option that takes a value has it after an equals sign or in
the next argument; a long option may be cut short as long as only one option is left that it can
mean. The program takes no other arguments, and those after two hyphens are never options.

All arguments are looked at before any of them is followed, so an ambiguous one is told first. They
are followed from left to right up to one that asks for help.

Main definitions: `Argument.ofText` (what an argument is), `Options.ofArguments` (what the arguments
ask for), `UsageError` (what is wrong with them).
-/

namespace ChatRiddles

open Number Text

/-- The options. -/
inductive LaunchOption where
  | help | poll | host | port | logLevel
  deriving DecidableEq, Repr

namespace LaunchOption

/-- The names of the options, in the order in which they are listed. -/
def names : List (String × LaunchOption) :=
  [("-h", help), ("--help", help), ("--poll", poll), ("--host", host), ("--port", port),
    ("--log-level", logLevel)]

/-- An option by all its names. -/
def label (o : LaunchOption) : String :=
  "/".intercalate ((names.filter (·.2 == o)).map (·.1))

end LaunchOption

/-- What is wrong with the arguments. -/
inductive UsageError where
  | ambiguous (argument : String) (names : List String)
  | valueMissing (o : LaunchOption)
  | valueUnused (o : LaunchOption) (value : String)
  | noInteger (o : LaunchOption) (value : String)
  | unrecognized (arguments : List String)
  deriving DecidableEq, Repr

/-- The wording of what is wrong. -/
def UsageError.message : UsageError → String
  | ambiguous argument names =>
    "ambiguous option: " ++ argument ++ " could match " ++ ", ".intercalate names
  | valueMissing o => "argument " ++ o.label ++ ": expected one argument"
  | valueUnused o value => "argument " ++ o.label ++ ": ignored explicit argument " ++ quoted value
  | noInteger o value => "argument " ++ o.label ++ ": invalid int value: " ++ quoted value
  | unrecognized arguments => "unrecognized arguments: " ++ " ".intercalate arguments

/-! ## Single arguments -/

/-- What stands in one argument with an option. -/
inductive Attached where
  | nothing
  -- a value after an equals sign
  | assigned (value : String)
  -- more letters after the letter of the option
  | joined (letters : String)
  deriving DecidableEq, Repr

/-- An argument before the two hyphens that end the options. -/
inductive Argument where
  | option (o : LaunchOption) (attached : Attached)
  | unknown (text : String)
  | plain (text : String)
  deriving DecidableEq, Repr

namespace Argument

/-- Splits a text at its first equals sign. -/
def splitAssignment (cs : List Char) : List Char × Attached :=
  match cs.dropWhile (· != '=') with
  | _ :: value => (cs.takeWhile (· != '='), .assigned (String.ofList value))
  | [] => (cs, .nothing)

/-- The options that a text can mean which is no full name. -/
def candidates (cs : List Char) : List (String × LaunchOption × Attached) :=
  match cs with
  | '-' :: '-' :: _ =>
    let (start, attached) := splitAssignment cs
    (LaunchOption.names.filter fun (name, _) => start.isPrefixOf name.toList).map
      fun (name, o) => (name, o, attached)
  | _ =>
    (LaunchOption.names.filter fun (name, _) => name.toList == cs.take 2).map
      fun (name, o) => (name, o, .joined (String.ofList (cs.drop 2)))

/-- Whether a text writes a negative number, with or without a point and perhaps before a line
feed. -/
def isNegativeNumber (cs : List Char) : Bool :=
  let isDigit (c : Char) : Bool := isDecimalDigit c.toNat
  let body := if cs.getLast? = some '\n' then cs.dropLast else cs
  match body with
  | '-' :: number =>
    match number.dropWhile isDigit with
    | [] => !number.isEmpty
    | '.' :: fraction => !fraction.isEmpty && fraction.all isDigit
    | _ => false
  | _ => false

/-- Tells what an argument is. -/
def ofText (text : String) : Except UsageError Argument :=
  let cs := text.toList
  let (start, attached) := splitAssignment cs
  if cs.head? ≠ some '-' then .ok (.plain text)
  else match LaunchOption.names.lookup text with
    | some o => .ok (.option o .nothing)
    | none =>
      if cs = ['-'] then .ok (.plain text)
      else match LaunchOption.names.lookup (String.ofList start) with
        | some o => .ok (.option o attached)
        | none =>
          match candidates cs with
          | [(_, o, attached)] => .ok (.option o attached)
          | [] =>
            if isNegativeNumber cs || cs.contains ' ' then .ok (.plain text)
            else .ok (.unknown text)
          | several => .error (.ambiguous text (several.map (·.1)))

/-- Tells what the arguments are up to two hyphens, and gives those from there on. -/
def readAll : List String → Except UsageError (List Argument × List String)
  | [] => .ok ([], [])
  | text :: rest =>
    if text = "--" then .ok ([], text :: rest)
    else do
      let first ← ofText text
      let (arguments, others) ← readAll rest
      return (first :: arguments, others)

end Argument

/-! ## All arguments -/

/-- What the options come to. -/
structure Options where
  -- whether updates are fetched; otherwise they are pushed
  poll : Bool
  host : String
  port : Int
  logLevel : String
  deriving DecidableEq, Repr

namespace Options

/-- Gives an option a value. -/
def assign (choice : Options) (o : LaunchOption) (value : String) : Except UsageError Options :=
  match o with
  | .help | .poll => .error (.valueUnused o value)
  | .host => .ok { choice with host := value }
  | .logLevel => .ok { choice with logLevel := value }
  | .port =>
    match ofText? value.toList with
    | some port => .ok { choice with port }
    | none => .error (.noInteger o value)

/-- The value of no use among the letters after the letter that asks for help: what comes after an
equals sign, or begins with a hyphen. -/
def unusedIn? : List Char → Option (List Char)
  | '-' :: rest => some ('-' :: rest)
  | 'h' :: '=' :: value => some value
  | 'h' :: rest => unusedIn? rest
  | _ => none

/-- The value of no use that stands with the option for help. -/
def unusedWithHelp? : Attached → Option String
  | .nothing => none
  | .assigned value => some value
  | .joined letters => (unusedIn? letters.toList).map String.ofList

/-- Follows arguments from left to right; `none` if help is asked for. In `unused` are the arguments
of no use that have been passed over. -/
def follow (choice : Options) (unused others : List String) :
    List Argument → Except UsageError (Option Options)
  | [] =>
    match unused ++ others with
    | [] => .ok (some choice)
    | arguments => .error (.unrecognized arguments)
  | .plain text :: rest => choice.follow (unused ++ [text]) others rest
  | .unknown text :: rest => choice.follow (unused ++ [text]) others rest
  | .option .help attached :: _ =>
    match unusedWithHelp? attached with
    | some value => .error (.valueUnused .help value)
    | none => .ok none
  | .option o (.assigned value) :: rest => do
    let choice ← choice.assign o value
    choice.follow unused others rest
  | .option o (.joined value) :: rest => do
    let choice ← choice.assign o value
    choice.follow unused others rest
  | .option .poll .nothing :: rest => { choice with poll := true }.follow unused others rest
  | .option o .nothing :: .plain value :: rest => do
    let choice ← choice.assign o value
    choice.follow unused others rest
  | .option o .nothing :: _ => .error (.valueMissing o)

/-- What arguments ask for, where `choice` holds without them; `none` if it is help. -/
def ofArguments (choice : Options) (arguments : List String) :
    Except UsageError (Option Options) := do
  let (first, others) ← Argument.readAll arguments
  choice.follow [] others first

end Options

end ChatRiddles
