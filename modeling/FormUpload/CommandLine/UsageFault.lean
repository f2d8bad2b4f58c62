import FormUpload.CommandLine.Flag

/-!
# What ends the program before it does anything

A command line may ask for help or for the version, or it may be wrong.  Help and
version go to the standard output; what is wrong goes to the standard error, with
the usage where that helps.
-/

namespace FormUpload.CommandLine

/-- Why there is nothing to do. -/
inductive UsageFault where
  /-- Help was asked for. -/
  | help (command : Command)
  | version
  /-- Nothing was given. -/
  | nothing
  /-- A command was wanted. -/
  | noCommand
  /-- There is no such command below the given one. -/
  | unknownCommand (above : Command) (name : String) (similar : List String)
  | unknownArgument (command : Command) (argument : String) (similar : Option String)
    (used : List Flag)
  /-- A command was named after two hyphens. -/
  | commandAfterHyphens (name : String)
  | repeated (command : Command) (flag : Flag)
  | noValue (flag : Flag)
  | badValue (flag : Flag) (value reason : String)
  | unwantedValue (command : Command) (flag : Flag) (value : String) (used : List Flag)
  | missing (command : Command) (flags used : List Flag)
deriving Repr

namespace UsageFault

/-- Whether it is what was asked for. -/
def isAnswer : UsageFault → Bool
  | .help _ => true
  | .version => true
  | _ => false

/-- What is wrong. -/
def problem : UsageFault → String
  | .noCommand =>
      "'" ++ programName ++ "' requires a subcommand but one was not provided\n  [subcommands: "
        ++ ", ".intercalate Command.names ++ "]"
  | .unknownCommand _ name _ => "unrecognized subcommand '" ++ name ++ "'"
  | .unknownArgument _ argument _ _ => "unexpected argument '" ++ argument ++ "' found"
  | .commandAfterHyphens name => "unexpected argument '" ++ name ++ "' found"
  | .repeated _ flag => "the argument '" ++ flag.text ++ "' cannot be used multiple times"
  | .noValue flag => "a value is required for '" ++ flag.text ++ "' but none was supplied"
  | .badValue flag value reason =>
      "invalid value '" ++ value ++ "' for '" ++ flag.text ++ "': " ++ reason
  | .unwantedValue _ flag value _ =>
      "unexpected value '" ++ value ++ "' for '" ++ flag.text ++ "' found; no more were expected"
  | .missing _ flags _ =>
      "the following required arguments were not provided:"
        ++ String.join (flags.map ("\n  " ++ ·.text))
  | _ => ""

/-- Words in quotes with a comma between any two. -/
def quotedList (words : List String) : String :=
  ", ".intercalate (words.map fun w => "'" ++ w ++ "'")

/-- A hint at what was meant. -/
def tip : UsageFault → Option String
  | .unknownCommand _ _ [] => none
  | .unknownCommand _ _ [word] => some ("a similar subcommand exists: '" ++ word ++ "'")
  | .unknownCommand _ _ words => some ("some similar subcommands exist: " ++ quotedList words)
  | .unknownArgument _ _ (some word) _ => some ("a similar argument exists: '" ++ word ++ "'")
  | .commandAfterHyphens name =>
      some ("subcommand '" ++ name ++ "' exists; to use it, remove the '--' before it")
  | _ => none

/-- The usage that is shown. -/
def usage : UsageFault → Option String
  | .noCommand => some Command.root.generalUsage
  | .unknownCommand above _ _ => some above.generalUsage
  | .unknownArgument command _ _ used => some (command.usageWith used)
  | .commandAfterHyphens _ => some Command.root.generalUsage
  | .repeated command _ => some command.generalUsage
  | .unwantedValue command _ _ used => some (command.usageWith used)
  | .missing command flags used => some (command.usageWith (used ++ flags))
  | _ => none

/-- Everything that is written. -/
def text (environment : Option String) (f : UsageFault) : String :=
  match f with
  | .help command => command.helpText environment
  | .version => programName ++ " " ++ programVersion ++ "\n"
  | .nothing => Command.root.helpText environment
  | _ =>
      "error: " ++ f.problem
        ++ (match f.tip with
          | some t => "\n\n  tip: " ++ t
          | none => "")
        ++ (match f.usage with
          | some u => "\n\nUsage: " ++ u
          | none => "")
        ++ "\n\nFor more information, try '--help'.\n"

/-- The exit code. -/
def exitCode (f : UsageFault) : Nat := if f.isAnswer then 0 else 2

end UsageFault

end FormUpload.CommandLine
