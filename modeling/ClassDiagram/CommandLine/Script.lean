import ClassDiagram.Files

/-!
# Scripts

What a program does to the world around it, step by step: it reads its input and files,
prints, and writes files, and goes on according to what came of it. `Script.run` carries a
script out on a machine that is given as a value.
-/

namespace ClassDiagram.CommandLine

/-- The steps of a program. -/
inductive Script where
  /-- Ends with an exit status. -/
  | exit (status : Nat)
  | readInput (next : Except FileFault (List UInt8) → Script)
  | readFile (path : String) (next : Except FileFault (List UInt8) → Script)
  | writeFile (path content : String) (next : Except FileFault Unit → Script)
  /-- Prints to the standard output. -/
  | print (text : String) (next : Script)
  /-- Prints to the standard error output. -/
  | report (text : String) (next : Script)

/-- The world around a program. -/
structure Machine where
  /-- What can be read from the standard input. -/
  input : List UInt8 := []
  files : FileSystem := {}
  /-- What was printed to the standard output. -/
  output : String := ""
  /-- What was printed to the standard error output. -/
  errors : String := ""

namespace Script

/-- Carries out a script; gives the exit status and what the machine is like then. -/
def run : Script → Machine → Nat × Machine
  | exit status, machine => (status, machine)
  | readInput next, machine =>
    (next (.ok machine.input)).run { machine with input := [] }
  | readFile path next, machine => (next (machine.files.read path)).run machine
  | writeFile path content next, machine =>
    match machine.files.write path (Text.bytesOfText content) with
    | .ok files => (next (.ok ())).run { machine with files }
    | .error fault => (next (.error fault)).run machine
  | print text next, machine => next.run { machine with output := machine.output ++ text }
  | report text next, machine => next.run { machine with errors := machine.errors ++ text }

/-- Writes copies into a file, one after the other. It does not matter if that fails. -/
def copyTo (path : String) (copies : List String) (next : Script) : Script :=
  copies.foldr (fun copy next => writeFile path copy fun _ => next) next

end Script

end ClassDiagram.CommandLine
