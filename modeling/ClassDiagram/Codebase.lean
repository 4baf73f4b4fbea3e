import ClassDiagram.Declaration
import ClassDiagram.Failure
import ClassDiagram.Symbol

/-!
# Codebases

A codebase is a list of projects, a project a list of documents. A document may lack its
source tree, and it may lack a semantic model; missing pieces are no failures.
-/

namespace ClassDiagram

/-- A document of a project. -/
structure Document where
  name : String
  /-- The model of the compilation that the document belongs to. -/
  model : Option SymbolModel := none
  tree : Option SourceTree := none

/-- The declarations of a document, nested ones included, if it has a tree with a root. -/
def Document.occurrences? (document : Document) : Option (List Occurrence) :=
  (document.tree.bind (·.root)).map Occurrence.all

/-- A project of a codebase. -/
structure Project where
  name : String
  documents : List Document := []

/-- Where a codebase comes from. Asked for its projects, a provider may first ask for loads
on its own account; then it gives the projects or says why there are none. -/
inductive Provider where
  | answering (requests : List Provider) (projects : Except Failure (List Project))

namespace Provider

/-- The loads that the provider asks for before it answers. -/
def requests : Provider → List Provider
  | answering requests _ => requests

/-- What the provider answers. -/
def projects : Provider → Except Failure (List Project)
  | answering _ projects => projects

/-- A provider that has its projects at hand. -/
def ofProjects (projects : List Project) : Provider :=
  answering [] (.ok projects)

/-- A provider that has no codebase to give. -/
def failing (failure : Failure) : Provider :=
  answering [] (.error failure)

end Provider

end ClassDiagram
