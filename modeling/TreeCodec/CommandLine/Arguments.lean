/-!
The arguments of the command line. Options may stand in front of the command
and behind it, and a short option may carry its value in the same argument. The
input of `convert` may itself begin with a hyphen: as long as no input has been
seen, an argument that is no known option is the input, or the value that an
option waits for.

Scanning goes from left to right. `Interruption` is how it ends early: at a
request for the version or for help, or at the first misuse.
-/

namespace TreeCodec.CommandLine

inductive Flag where
  | config
  | fill
  | format
  | help
  | version
deriving DecidableEq, Repr

def Flag.name : Flag → String
  | config => "config"
  | fill => "fill"
  | format => "format"
  | help => "help"
  | version => "version"

def Flag.letter? : Flag → Option Char
  | config => some 'c'
  | fill => none
  | format => some 'f'
  | help => some 'h'
  | version => some 'V'

def Flag.takesValue : Flag → Bool
  | config | fill | format => true
  | help | version => false

/-- Where an argument stands: in front of the command, or behind one. -/
inductive Level where
  | top
  | convert
  | listFormats
deriving DecidableEq, Repr

def Level.flags : Level → List Flag
  | top => [.config, .fill, .help, .version]
  | convert => [.config, .fill, .format, .help]
  | listFormats => [.config, .fill, .help]

def Level.long? (level : Level) (name : List Char) : Option Flag :=
  level.flags.find? (·.name.toList == name)

def Level.short? (level : Level) (letter : Char) : Option Flag :=
  level.flags.find? (·.letter? == some letter)

inductive Misuse where
  | missingCommand
  | unexpectedArgument (argument : String)
  | missingValue (flag : Flag)
  | repeated (flag : Flag)
deriving DecidableEq, Repr

/-- Why the arguments name no command to carry out. -/
inductive Interruption where
  | version
  | help
  | misuse (cause : Misuse)
deriving DecidableEq, Repr

abbrev Scanning := Except Interruption

/-- What has been seen so far at one level. -/
structure Scan where
  config : Option String
  fill : Option String
  formats : List String
  input : Option String
  /-- The option whose value comes next. -/
  waiting : Option Flag
  /-- Behind `--` no argument is an option. -/
  onlyValues : Bool
deriving DecidableEq, Repr

namespace Scan

def start : Scan := ⟨none, none, [], none, none, false⟩

def misuse {β : Type} (cause : Misuse) : Scanning β :=
  .error (.misuse cause)

/-- Gives an option its value. Only formats may be given more than once. -/
def give (scan : Scan) (flag : Flag) (value : List Char) : Scanning Scan :=
  let value := String.ofList value
  let scan := { scan with waiting := none }
  match flag with
  | .config =>
    if scan.config.isSome then misuse (.repeated flag)
    else .ok { scan with config := some value }
  | .fill =>
    if scan.fill.isSome then misuse (.repeated flag)
    else .ok { scan with fill := some value }
  | .format => .ok { scan with formats := scan.formats ++ [value] }
  | .help | .version => .ok scan

/-- Ends the wait for a value, which must be over. -/
def settled (scan : Scan) : Scanning Scan :=
  match scan.waiting with
  | some flag => misuse (.missingValue flag)
  | none => .ok scan

/-- An option, with the value that its argument carries if it does. -/
def useFlag (scan : Scan) (argument : List Char) (flag : Flag)
    (attached : Option (List Char)) : Scanning Scan := do
  let scan ← scan.settled
  match flag, attached with
  | .help, none => .error .help
  | .version, none => .error .version
  | .help, some _ | .version, some _ =>
    misuse (.unexpectedArgument (String.ofList argument))
  | _, some value => scan.give flag value
  | _, none => .ok { scan with waiting := some flag }

/-- An argument that is no option: the value that an option waits for, or the
input. -/
def place (scan : Scan) (level : Level) (argument : List Char) :
    Scanning Scan :=
  match scan.waiting with
  | some flag => scan.give flag argument
  | none =>
    if level = .convert && scan.input.isNone then
      .ok { scan with input := some (String.ofList argument) }
    else misuse (.unexpectedArgument (String.ofList argument))

/-- Short options in one argument. The first that takes a value takes all that
is left, without an equals sign in front of it. -/
def useLetters (scan : Scan) (level : Level) (argument : List Char) :
    List Char → Scanning Scan
  | [] => .ok scan
  | letter :: rest =>
    match level.short? letter with
    | none => misuse (.unexpectedArgument (String.ofList argument))
    | some flag =>
      if flag.takesValue then
        let attached :=
          match rest with
          | [] => none
          | '=' :: value => some value
          | value => some value
        scan.useFlag argument flag attached
      else do
        (← scan.useFlag argument flag none).useLetters level argument rest

end Scan

/-- A long option's name, and its value if there is an equals sign. -/
def splitLong (text : List Char) : List Char × Option (List Char) :=
  let (name, rest) := text.span (· ≠ '=')
  match rest with
  | '=' :: value => (name, some value)
  | _ => (name, none)

/-- Whether arguments that look like options may be the input here. -/
def Scan.takesHyphens (scan : Scan) (level : Level) : Bool :=
  level = .convert && scan.input.isNone

def Scan.next (scan : Scan) (level : Level) (argument : List Char) :
    Scanning Scan :=
  if scan.onlyValues then scan.place level argument
  else
    match argument with
    | ['-', '-'] => do return { ← scan.settled with onlyValues := true }
    | '-' :: '-' :: text =>
      let (name, attached) := splitLong text
      match level.long? name with
      | some flag => scan.useFlag argument flag attached
      | none =>
        if scan.takesHyphens level then scan.place level argument
        else Scan.misuse (.unexpectedArgument (String.ofList argument))
    | '-' :: letter :: letters =>
      if scan.takesHyphens level
          && (letter :: letters).any fun l => (level.short? l).isNone then
        scan.place level argument
      else scan.useLetters level argument (letter :: letters)
    | _ => scan.place level argument

structure Options where
  config : Option String
  fill : Option String
deriving DecidableEq, Repr

inductive Command where
  /-- Without an input, the standard input is converted; without formats, those
  of the settings are written. -/
  | convert (options : Options) (input : Option String) (formats : List String)
  | listFormats (options : Options)
deriving DecidableEq, Repr

def Command.options : Command → Options
  | convert options _ _ => options
  | listFormats options => options

/-- The arguments behind a command. -/
def scanRest (level : Level) (arguments : List String) : Scanning Scan := do
  let scan ← arguments.foldlM (fun scan a => scan.next level a.toList) Scan.start
  scan.settled

def Scan.options (scan top : Scan) : Options :=
  ⟨scan.config <|> top.config, scan.fill <|> top.fill⟩

/-- What follows the command `help`: nothing, or the name of one command. -/
def readTopic (arguments : List String) : Scanning Command :=
  match arguments with
  | [] => .error .help
  | topic :: rest =>
    if ["convert", "list-formats", "help"].contains topic && rest.isEmpty then
      .error .help
    else Scan.misuse (.unexpectedArgument topic)

def readCommand (top : Scan) (name : String) (arguments : List String) :
    Scanning Command :=
  if name = "convert" then do
    let scan ← scanRest .convert arguments
    return .convert (scan.options top) scan.input scan.formats
  else if name = "list-formats" then do
    let scan ← scanRest .listFormats arguments
    return .listFormats (scan.options top)
  else if name = "help" then readTopic arguments
  else Scan.misuse (.unexpectedArgument name)

/-- The arguments in front of the command, and the command. -/
def readArguments (top : Scan) : (arguments : List String) → Scanning Command
  | [] => do
    let _ ← top.settled
    Scan.misuse .missingCommand
  | argument :: rest =>
    let isOption := argument.toList.head? = some '-' && argument ≠ "-"
    if isOption || top.waiting.isSome then do
      let scan ← top.next .top argument.toList
      if scan.onlyValues then Scan.misuse .missingCommand
      else readArguments scan rest
    else readCommand top argument rest

def Command.ofArguments (arguments : List String) : Scanning Command :=
  readArguments .start arguments

end TreeCodec.CommandLine
