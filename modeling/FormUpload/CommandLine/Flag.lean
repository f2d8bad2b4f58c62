/-!
# Commands and flags

The program has one command that does something, `upload`, and one that explains,
`help`; `root` stands for the program before a command is named.  A flag is spelled
with two hyphens and a word, some also with one hyphen and a letter, and may take a
value.
-/

namespace FormUpload.CommandLine

/-- The program's name. -/
def programName : String := "formpost"

/-- The program's version. -/
def programVersion : String := "0.1.0"

/-- The variable of the environment that may name the endpoint. -/
def endpointVariable : String := "FORMPOST_ENDPOINT"

/-! ## §1. Flags. -/

/-- The flags. -/
inductive Flag where
  | endpoint
  | quiet
  | field
  | file
  | timeout
  | acceptErrorStatus
  | help
  | version
deriving DecidableEq, Repr

namespace Flag

/-- The word of a flag. -/
def word : Flag → String
  | .endpoint => "endpoint"
  | .quiet => "quiet"
  | .field => "field"
  | .file => "file"
  | .timeout => "timeout"
  | .acceptErrorStatus => "accept-error-status"
  | .help => "help"
  | .version => "version"

/-- The letter of a flag. -/
def letter? : Flag → Option Char
  | .endpoint => some 'e'
  | .quiet => some 'q'
  | .field => some 'F'
  | .file => some 'f'
  | .timeout => none
  | .acceptErrorStatus => none
  | .help => some 'h'
  | .version => some 'V'

/-- What the value of a flag is called. -/
def valueName? : Flag → Option String
  | .endpoint => some "ENDPOINT"
  | .field => some "FIELDS"
  | .file => some "FILES"
  | .timeout => some "TIMEOUT"
  | _ => none

/-- Whether the flag takes a value. -/
def takesValue (f : Flag) : Bool := f.valueName?.isSome

/-- Whether the flag may be given several times. -/
def isRepeatable (f : Flag) : Bool := f == .field || f == .file

/-- A flag as it is written in texts. -/
def text (f : Flag) : String :=
  "--" ++ f.word ++ (match f.valueName? with
    | some name => " <" ++ name ++ ">"
    | none => "")

/-- What a flag is for. -/
def purpose : Flag → String
  | .endpoint => "URL to post the form to"
  | .quiet => "Only print failures"
  | .field => "Text field as name=value (repeatable)"
  | .file => "File field as name=path (repeatable)"
  | .timeout => "Give up after this many seconds"
  | .acceptErrorStatus =>
      "Treat non-2xx responses like any other response instead of as errors"
  | .help => "Print help"
  | .version => "Print version"

end Flag

/-! ## §2. Commands. -/

/-- The commands, and the program itself. -/
inductive Command where
  | root
  | upload
  | help
deriving DecidableEq, Repr

namespace Command

/-- The flags of a command, in the order of its help. -/
def flags : Command → List Flag
  | .root => [.quiet, .help, .version]
  | .upload => [.endpoint, .quiet, .field, .file, .timeout, .acceptErrorStatus, .help]
  | .help => []

/-- The flags that a command can not do without. -/
def required : Command → List Flag
  | .upload => [.endpoint]
  | _ => []

/-- What a command is for. -/
def purpose : Command → String
  | .root => "Post fields and files to an upload endpoint as multipart/form-data"
  | .upload => "Upload fields and files as one multipart form"
  | .help => "Print this message or the help of the given subcommand(s)"

/-- The words that call a command. -/
def callText : Command → String
  | .root => programName
  | .upload => programName ++ " upload"
  | .help => programName ++ " help"

/-- The names of the commands below the program. -/
def names : List String := ["upload", "help"]

/-- The command with the given name. -/
def named? (name : String) : Option Command :=
  if name == "upload" then some .upload else if name == "help" then some .help else none

/-- How a command is called, in general. -/
def generalUsage (c : Command) : String :=
  c.callText ++ match c with
    | .root => " [OPTIONS] <COMMAND>"
    | .upload => " [OPTIONS]" ++ String.join (c.required.map (" " ++ ·.text))
    | .help => " [COMMAND]..."

/-- How a command is called with some flags: the required ones come first. -/
def usageWith (c : Command) (used : List Flag) : String :=
  if used.isEmpty then c.generalUsage
  else
    let more := used.filter fun f => !c.required.contains f
    c.callText ++ String.join ((c.required ++ more).map (" " ++ ·.text)) ++ match c with
      | .root => " <COMMAND>"
      | _ => ""

/-! ## §3. Help. -/

/-- The text with blanks after it up to a width. -/
def pad (width : Nat) (s : String) : String :=
  s ++ String.ofList (List.replicate (width - s.length) ' ')

/-- Rows of two columns. -/
def columns (rows : List (String × String)) : String :=
  let width := rows.foldl (fun w row => max w row.1.length) 0
  String.join (rows.map fun row => "  " ++ pad width row.1 ++ "  " ++ row.2 ++ "\n")

/-- The row of a flag.  The value of the environment is shown where it counts. -/
def flagRow (environment : Option String) (f : Flag) : String × String :=
  ((match f.letter? with
    | some c => "-" ++ String.singleton c ++ ", "
    | none => "    ") ++ f.text,
    f.purpose ++ if f = .endpoint then
        " [env: " ++ endpointVariable ++ "=" ++ environment.getD "" ++ "]"
      else "")

/-- The help of a command. -/
def helpText (environment : Option String) (c : Command) : String :=
  c.purpose ++ "\n\nUsage: " ++ c.generalUsage ++ "\n\n" ++ match c with
    | .root =>
        "Commands:\n"
          ++ columns [("upload", Command.upload.purpose), ("help", Command.help.purpose)]
          ++ "\nOptions:\n" ++ columns (c.flags.map (flagRow environment))
    | .upload => "Options:\n" ++ columns (c.flags.map (flagRow environment))
    | .help =>
        "Arguments:\n" ++ columns [("[COMMAND]...", "Print help for the subcommand(s)")]

end Command

end FormUpload.CommandLine
