/-!
# Failures

The ways in which a codebase cannot be loaded or a diagram cannot be drawn. A name that is
not found is no failure and does not appear here.
-/

namespace ClassDiagram

/-- Why something failed. -/
inductive Failure where
  /-- The codebase is not available; the cause is what went wrong below, if anything did. -/
  | load (message : String) (cause : Option String)
  /-- Another load is running. -/
  | busy
  /-- The diagram could not be written down. -/
  | drawing (message : String)
  /-- A file or stream could not be read or written. -/
  | files (reason : String)
  /-- The text is no manifest. -/
  | manifest (reason : String)
deriving DecidableEq

namespace Failure

/-- What people are told. -/
def message : Failure → String
  | load message _ => "Load failure: " ++ message
  | busy => "Load already in progress"
  | drawing message => "Render error: " ++ message
  | files reason => "IO error: " ++ reason
  | manifest reason => "Manifest error: " ++ reason

/-- Whether the failure carries the failure that caused it. -/
def hasCause : Failure → Bool
  | load _ cause => cause.isSome
  | busy | drawing _ => false
  | files _ | manifest _ => true

/-- Whether the failure means that there is no codebase at all. -/
def leavesNoCodebase : Failure → Bool
  | load _ _ | files _ | manifest _ => true
  | busy | drawing _ => false

end Failure

end ClassDiagram
