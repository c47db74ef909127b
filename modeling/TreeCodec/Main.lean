import TreeCodec.CommandLine

/-!
The program itself: it collects the files and the standard input that a command
needs, runs it, and writes what comes out.
-/

namespace TreeCodec.CommandLine

def loadFile (name : String) : IO (Option Settings.File) := do
  try
    return some (.named name (← IO.FS.readFile name))
  catch _ =>
    return none

/-- All that is left on a stream. -/
partial def readAll (stream : IO.FS.Stream) (read : ByteArray) : IO ByteArray := do
  let next ← stream.read 65536
  if next.isEmpty then return read
  readAll stream (read ++ next)

def perform (arguments : List String) : IO Result := do
  match Command.ofArguments arguments with
  | .error interruption => return interruption.result
  | .ok command =>
    let files ← command.fileNames.filterMapM loadFile
    let input ←
      if command.readsInput then readAll (← IO.getStdin) .empty
      else pure .empty
    return run arguments files input

end TreeCodec.CommandLine

def main (arguments : List String) : IO UInt32 := do
  let result ← TreeCodec.CommandLine.perform arguments
  (← IO.getStdout).putStr result.output
  (← IO.getStderr).putStr result.errors
  return result.status.toUInt32
