import FormUpload.CommandLine.KeyValue
import FormUpload.CommandLine.Similar
import FormUpload.CommandLine.UsageFault

/-!
# Reading the command line

Arguments are read one by one into a `Draft`.  A flag that takes a value may have it
in the same argument, or in the next one if that does not look like a flag; such a
flag is `pending` and is looked at when the next flag comes or nothing is left.
After two hyphens nothing counts as a flag or as a value.

A fault of a pending flag does not show if the next argument is unknown.
-/

namespace FormUpload.CommandLine

open FormUpload.Text

/-! ## §1. Drafts. -/

/-- What has been read of a command's flags. -/
structure Draft where
  endpoint : Option String
  fields : List (String × String)
  files : List (String × String)
  timeout : Option Nat
  /-- The flags that were given, each once. -/
  given : List Flag
  /-- A flag that waits to be looked at, with its value if that has come. -/
  pending : Option (Flag × Option String)

namespace Draft

/-- Nothing has been read. -/
def empty : Draft := ⟨none, [], [], none, [], none⟩

/-- The flags that were given, the pending one included. -/
def used (d : Draft) : List Flag :=
  match d.pending with
  | some (f, some _) => if d.given.contains f then d.given else d.given ++ [f]
  | _ => d.given

/-- The draft with a flag among those given. -/
def mark (d : Draft) (f : Flag) : Draft :=
  if d.given.contains f then d else { d with given := d.given ++ [f] }

/-- The draft with a flag and its value.  Most flags may be given once. -/
def store (command : Command) (d : Draft) (f : Flag) (value : String) :
    Except UsageFault Draft :=
  if d.given.contains f && !f.isRepeatable then .error (.repeated command f)
  else
    let d := d.mark f
    match f with
    | .endpoint => .ok { d with endpoint := some value }
    | .field =>
        match keyValue? value with
        | some pair => .ok { d with fields := d.fields ++ [pair] }
        | none => .error (.badValue f value (keyValueFault value))
    | .file =>
        match keyValue? value with
        | some pair => .ok { d with files := d.files ++ [pair] }
        | none => .error (.badValue f value (keyValueFault value))
    | .timeout =>
        match seconds value with
        | .ok n => .ok { d with timeout := some n }
        | .error fault => .error (.badValue f value fault.message)
    | .help => .error (.help command)
    | .version => .error .version
    | .quiet => .ok d
    | .acceptErrorStatus => .ok d

/-- Looks at the pending flag. -/
def resolve (command : Command) (d : Draft) : Except UsageFault Draft :=
  match d.pending with
  | none => .ok d
  | some (f, none) => .error (.noValue f)
  | some (f, some value) => { d with pending := none }.store command f value

/-- Takes a flag with its value, or without one if it takes none. -/
def take (command : Command) (d : Draft) (f : Flag) (value : String) :
    Except UsageFault Draft := do
  (← d.resolve command).store command f value

/-- Takes a flag whose value is the next argument. -/
def await (command : Command) (d : Draft) (f : Flag) : Except UsageFault Draft := do
  return { ← d.resolve command with pending := some (f, none) }

/-! ## §2. Flags. -/

/-- What stands before and after the first equals sign. -/
def cutEquals (cs : List Char) : List Char × Option (List Char) :=
  match cutWhere (· == '=') cs with
  | some (a, b) => (a, some b)
  | none => (cs, none)

/-- The words that a flag of a command may have. -/
def words (command : Command) : List String := command.flags.map (·.word)

/-- The fault of a word that is no flag.  The most similar flag is suggested; the
draft counts it as used. -/
def unknownWord (command : Command) (d : Draft) (word : String) : UsageFault :=
  match (similarTo word (words command)).getLast? with
  | some similar =>
      let used := match command.flags.find? (·.word == similar) with
        | some f => if d.used.contains f then d.used else d.used ++ [f]
        | none => d.used
      .unknownArgument command ("--" ++ word) (some ("--" ++ similar)) used
  | none => .unknownArgument command ("--" ++ word) none d.used

/-- Reads an argument after its two hyphens. -/
def readWord (command : Command) (d : Draft) (cs : List Char) : Except UsageFault Draft :=
  let (name, value) := cutEquals cs
  let word := String.ofList name
  match command.flags.find? (·.word == word) with
  | none => .error (unknownWord command d word)
  | some f =>
      match f.takesValue, value with
      | true, some v => d.take command f (String.ofList v)
      | true, none => d.await command f
      | false, some v =>
          .error (.unwantedValue command f (String.ofList v)
            (if d.used.contains f then d.used else d.used ++ [f]))
      | false, none => d.take command f ""

/-- Reads an argument after its one hyphen: letters of flags, up to one that takes
what follows as its value. -/
def readLetters (command : Command) (d : Draft) : List Char → Except UsageFault Draft
  | [] => .ok d
  | c :: r =>
      match command.flags.find? (·.letter? == some c) with
      | none => .error (.unknownArgument command ("-" ++ String.singleton c) none [])
      | some f =>
          if f.takesValue then
            match r with
            | [] => d.await command f
            | '=' :: v => d.take command f (String.ofList v)
            | v => d.take command f (String.ofList v)
          else do readLetters command (← d.take command f "") r

end Draft

/-! ## §3. Arguments. -/

/-- What an argument looks like. -/
inductive Shape where
  /-- Two hyphens alone. -/
  | hyphens
  | word (rest : List Char)
  | letters (rest : List Char)
  | plain

/-- The shape of an argument. -/
def Shape.of (argument : String) : Shape :=
  match argument.toList with
  | ['-', '-'] => .hyphens
  | '-' :: '-' :: r => .word r
  | ['-'] => .plain
  | '-' :: r => .letters r
  | _ => .plain

/-- Reads the arguments of the upload command.  `ended` says that two hyphens came
before. -/
def readUpload : (ended : Bool) → Draft → List String → Except UsageFault Draft
  | _, d, [] => d.resolve .upload
  | true, _, a :: _ => .error (.unknownArgument .upload a none [])
  | false, d, a :: r =>
      match Shape.of a with
      | .hyphens => readUpload true d r
      | .word rest => do readUpload false (← d.readWord .upload rest) r
      | .letters rest => do readUpload false (← d.readLetters .upload rest) r
      | .plain =>
          match d.pending with
          | some (f, none) => readUpload false { d with pending := some (f, some a) } r
          | _ => .error (.unknownArgument .upload a none [])

/-- The help that a list of commands leads to. -/
def readHelp (command : Command) : List String → UsageFault
  | [] => .help command
  | a :: r =>
      match command, Command.named? a with
      | .root, some c => readHelp c r
      | _, _ => .unknownCommand command a []

/-- What an upload is asked to do. -/
structure UploadArguments where
  endpoint : String
  fields : List (String × String)
  files : List (String × String)
  timeout : Option Nat
  acceptErrorStatus : Bool
  quiet : Bool
deriving DecidableEq, Repr

/-- The arguments of a whole draft.  The environment names the endpoint if no flag
does. -/
def Draft.finish (environment : Option String) (quiet : Bool) (d : Draft) :
    Except UsageFault UploadArguments :=
  match d.endpoint <|> environment with
  | none => .error (.missing .upload [.endpoint] d.used)
  | some endpoint =>
      .ok ⟨endpoint, d.fields, d.files, d.timeout, d.given.contains .acceptErrorStatus,
        quiet || d.given.contains .quiet⟩

/-- Reads arguments before a command is named. -/
def readRoot (environment : Option String) : (ended : Bool) → Draft → List String →
    Except UsageFault UploadArguments
  | _, d, [] => .error (if d.given.isEmpty then .nothing else .noCommand)
  | true, _, a :: _ =>
      .error (if (Command.named? a).isSome then .commandAfterHyphens a
        else .unknownCommand .root a (similarTo a Command.names))
  | false, d, a :: r =>
      match Command.named? a with
      | some .upload => do
          (← readUpload false .empty r).finish environment (d.given.contains .quiet)
      | some .help => .error (readHelp .root r)
      | _ =>
          match Shape.of a with
          | .hyphens => readRoot environment true d r
          | .word rest => do readRoot environment false (← d.readWord .root rest) r
          | .letters rest => do readRoot environment false (← d.readLetters .root rest) r
          | .plain => .error (.unknownCommand .root a (similarTo a Command.names))

/-- Reads a command line.  `environment` is the endpoint that the environment
names. -/
def readArguments (environment : Option String) (arguments : List String) :
    Except UsageFault UploadArguments :=
  readRoot environment false .empty arguments

end FormUpload.CommandLine
