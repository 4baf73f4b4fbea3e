import ClassDiagram.Codebase
import ClassDiagram.Files
import ClassDiagram.Manifest.Reader

/-!
# The codebase of a manifest

The symbols of a project are inferred from the declarations of all its documents, in the
order of the manifest, and from the facts that the project gives. Every document that takes
part in semantics has these symbols for its model.
-/

namespace ClassDiagram

/-- The names that a project declares, with the facts it is given. -/
def Manifest.ProjectEntry.names (project : Manifest.ProjectEntry) : DeclaredNames :=
  let declared := project.documents.foldl (fun names document =>
    match document.tree.bind (·.root) with
    | some declarations => names.addTree declarations
    | none => names) {}
  project.symbols.entries.foldl (fun names entry => names.addFacts entry.1 entry.2) declared

/-- The project as part of a codebase. -/
def Manifest.ProjectEntry.toProject (project : Manifest.ProjectEntry) : Project :=
  let model := project.names.symbol?
  { name := project.name
    documents := project.documents.map fun document =>
      { name := document.name
        model := if document.semantic then some model else none
        tree := document.tree } }

namespace Manifest

/-- The projects of the codebase. -/
def toProjects (manifest : Manifest) : List Project :=
  manifest.projects.map Manifest.ProjectEntry.toProject

/-- The failure of a text or file that is no manifest. -/
def invalid : Failure :=
  .load "Invalid manifest" (some "not the JSON of a manifest")

/-- The codebase of a manifest given by its text. -/
def projectsOfText (text : String) : Except Failure (List Project) :=
  match ofText? text with
  | some manifest => .ok manifest.toProjects
  | none => .error invalid

/-- The codebase of a manifest given by its bytes. -/
def projectsOfBytes (bytes : List UInt8) : Except Failure (List Project) :=
  match ofBytes? bytes with
  | some manifest => .ok manifest.toProjects
  | none => .error invalid

/-- The codebase of a manifest in a file. A folder can be opened, but holds no manifest. -/
def projectsOfFile (files : FileSystem) (path : String) : Except Failure (List Project) :=
  match files.open? path with
  | .ok (some bytes) => projectsOfBytes bytes
  | .ok none => .error invalid
  | .error fault => .error (.load ("Cannot open manifest " ++ path) (some fault.message))

end Manifest

end ClassDiagram
