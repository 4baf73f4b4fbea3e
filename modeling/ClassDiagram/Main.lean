import ClassDiagram.CommandLine.Program

/-!
# The executable

Carries out the program's script on the real machine.
-/

open ClassDiagram ClassDiagram.CommandLine

namespace ClassDiagram.CommandLine

/-- What is wrong with a file, as the operating system tells it. Some of its calls give the
number of an error with a minus sign. -/
def faultOfError : IO.Error → FileFault
  | .noFileOrDirectory _ _ _ => .missing
  | .inappropriateType _ 21 _ => .isFolder
  | .inappropriateType _ _ _ => .notFolder
  | .invalidArgument _ 36 _ => .nameTooLong
  | .invalidArgument _ 4294967260 _ => .nameTooLong
  | .permissionDenied _ _ _ => .other "Permission denied (os error 13)"
  | error => .other (toString error)

/-- The result of an action that may fail because of a file. -/
def attempt {α : Type} (action : IO α) : IO (Except FileFault α) := do
  try
    return .ok (← action)
  catch error =>
    return .error (faultOfError error)

/-- Reads bytes to the end of a stream. -/
partial def readToEnd (stream : IO.FS.Stream) (bytes : ByteArray) : IO ByteArray := do
  let more ← stream.read 65536
  if more.isEmpty then return bytes else readToEnd stream (bytes ++ more)

/-- Carries out a script. -/
def Script.perform : Script → IO UInt32
  | exit status => return UInt32.ofNat status
  | readInput next => do
    let bytes ← attempt (do return (← readToEnd (← IO.getStdin) .empty).toList)
    (next bytes).perform
  | readFile path next => do
    let bytes ← attempt (do return (← IO.FS.readBinFile path).toList)
    (next bytes).perform
  | writeFile path content next => do
    let written ← attempt (IO.FS.writeFile path content)
    (next written).perform
  | print text next => do
    IO.print text
    next.perform
  | report text next => do
    IO.eprint text
    next.perform

end ClassDiagram.CommandLine

/-- Runs the program with the words behind its name. -/
def main (words : List String) : IO UInt32 := do
  let logFormat ← IO.getEnv "PLANTSCRIBE_LOG_FORMAT"
  (program logFormat words).perform
