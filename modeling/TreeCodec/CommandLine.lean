import TreeCodec.CommandLine.Arguments
import TreeCodec.Format
import TreeCodec.Grammar
import TreeCodec.Settings
import TreeCodec.Text.Ending

/-!
The program as a function: from arguments, files and standard input to what it
writes and the status it ends with.

A conversion goes through its stages in a fixed order (settings, input, tree,
formats) and writes nothing before all of them are done, so a failure leaves
the standard output empty.

Not modelled is what is written for a request for help, about arguments that
name no command, and about a crash. Of these the status alone is given, and the
texts are empty.
-/

namespace TreeCodec.CommandLine

open Text

structure Result where
  status : Nat
  output : String
  errors : String
deriving DecidableEq, Repr

/-- The stage of a command that failed, and why. -/
inductive Failure where
  | settings (cause : Settings.Error)
  | inputNotText
  | tree (cause : ParseFailure)
  | format (cause : FormatError)
deriving DecidableEq, Repr

def Failure.message : Failure → String
  | settings cause => "Error loading configuration: " ++ cause.message
  | inputNotText =>
    "Error reading stdin: stream did not contain valid UTF-8"
  | tree cause => "Error: " ++ cause.message
  | format cause => "Error: " ++ cause.message

/-- How a command ends that does not do what it was asked for. -/
inductive Stop where
  | failed (failure : Failure)
  | crashed
deriving DecidableEq, Repr

def Stop.result : Stop → Result
  | failed failure => ⟨1, "", failure.message ++ "\n"⟩
  | crashed => ⟨101, "", ""⟩

def localFile : String := "treenum.toml"

def Options.sources (options : Options) : Settings.Sources :=
  ⟨some localFile, options.config, options.fill⟩

def loadSettings (options : Options) (files : List Settings.File) :
    Except Stop Settings :=
  (options.sources.load files).mapError fun
    | .reported cause => .failed (.settings cause)
    | .crash => .crashed

/-- The text on standard input, without line ends behind it. -/
def readInput (input : ByteArray) : Except Failure (List Char) :=
  match String.fromUTF8? input with
  | some text => .ok (trimEnd (fun c => c = '\n' || c = '\r') text.toList)
  | none => .error .inputNotText

/-- One of several results: its name, and its text on the same line if it has
only one. -/
def labelled (name : String) (text : List Char) : List Char :=
  name.toList ++ (if text.contains '\n' then [':', '\n'] else [':', ' '])
    ++ text ++ ['\n']

/-- What is written for a list of format names and their texts: a single text
stands alone. -/
def report (rendered : List (String × List Char)) : List Char :=
  let trimmed := rendered.map fun (name, text) => (name, trimEnd (· = '\n') text)
  match trimmed with
  | [(_, text)] => text ++ ['\n']
  | several => several.flatMap fun (name, text) => labelled name text

def renderAll (fill : Fill) (t : Tree) (names : List String) :
    Except FormatError (List (String × List Char)) :=
  names.mapM fun name => do
    return (name, ← Format.renderNamed fill t name)

/-- A conversion once the settings are known. -/
def conversionWith (settings : Settings) (input : Option String)
    (formats : List String) (stdin : ByteArray) : Except Failure (List Char) := do
  let text ←
    match input with
    | some text => pure text.toList
    | none => readInput stdin
  let t ← (Tree.parse? text).mapError .tree
  let names := if formats.isEmpty then settings.formats else formats
  let rendered ← (renderAll settings.layout.fill t names).mapError .format
  return report rendered

def conversion (options : Options) (input : Option String)
    (formats : List String) (files : List Settings.File) (stdin : ByteArray) :
    Except Stop (List Char) := do
  let settings ← loadSettings options files
  (conversionWith settings input formats stdin).mapError .failed

def describeFormat (format : Format) : String :=
  "  " ++ format.name ++ (if format.readsBack then " (parseable)\n" else "\n")
    ++ "    " ++ format.summary ++ "\n"

def formatList (options : Options) (files : List Settings.File) :
    Except Stop String := do
  let _ ← loadSettings options files
  return "Available formats:\n\n"
    ++ String.join (Format.all.map describeFormat)

def Command.run (command : Command) (files : List Settings.File)
    (stdin : ByteArray) : Except Stop String :=
  match command with
  | .convert options input formats =>
    (conversion options input formats files stdin).map String.ofList
  | .listFormats options => formatList options files

def versionText : String := "treenum 0.1.0\n"

def Interruption.result : Interruption → Result
  | version => ⟨0, versionText, ""⟩
  | help => ⟨0, "", ""⟩
  | misuse _ => ⟨2, "", ""⟩

def run (arguments : List String) (files : List Settings.File)
    (stdin : ByteArray) : Result :=
  match Command.ofArguments arguments with
  | .error interruption => interruption.result
  | .ok command =>
    match command.run files stdin with
    | .ok output => ⟨0, output, ""⟩
    | .error stop => stop.result

def Command.readsInput : Command → Bool
  | .convert _ none _ => true
  | _ => false

/-- The names of all files that a command may look at. -/
def Command.fileNames (command : Command) : List String :=
  let names := localFile :: command.options.config.toList
  names.flatMap fun name =>
    (Settings.candidates name).map fun path =>
      String.ofList (Settings.pathText path)

end TreeCodec.CommandLine
