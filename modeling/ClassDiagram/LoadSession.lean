import ClassDiagram.Index

/-!
# Load sessions

A session holds the current index and lets one load run at a time. A load claims the
session, builds an index from its provider, makes it the current one if the build succeeded,
and gives the session free. A load that finds the session claimed is refused, and its
provider is asked for nothing.

A provider may ask the session for loads while it is itself being asked for its projects;
`LoadSession.load` carries these out and reports what became of them.
-/

namespace ClassDiagram

/-- The current index, and whether a load is running. -/
structure LoadSession where
  style : DiagramStyle := {}
  current : Option Index := none
  loading : Bool := false

/-- A load that a provider asked for: whether a load was running then, and what the provider
was told. -/
structure InnerLoad where
  loading : Bool
  result : Except Failure Index

/-- What became of a load, and of the loads that its provider asked for. -/
structure LoadReport where
  result : Except Failure Index
  inner : List InnerLoad := []

namespace LoadSession

/-- The session with a load running in it, if there was none. -/
def claim? (session : LoadSession) : Option LoadSession :=
  if session.loading then none else some { session with loading := true }

/-- Makes the index that a load has built the current one. -/
def install (session : LoadSession) (index : Index) : LoadSession :=
  { session with current := some index }

/-- Gives the session free for the next load. -/
def release (session : LoadSession) : LoadSession :=
  { session with loading := false }

/-- The end of a load. A failed one leaves the current index as it was. -/
def conclude (session : LoadSession) (result : Except Failure Index) : LoadSession :=
  match result with
  | .ok index => (session.install index).release
  | .error _ => session.release

mutual

/-- Loads the codebase of a provider. -/
def load (session : LoadSession) : Provider → LoadSession × LoadReport
  | .answering requests projects =>
    match session.claim? with
    | none => (session, { result := .error .busy })
    | some claimed =>
      let (asked, inner) := claimed.loadAll requests
      let result := projects.map (Index.ofProjects session.style)
      (asked.conclude result, { result, inner })

/-- Loads the codebases of providers, one after the other. -/
def loadAll (session : LoadSession) : List Provider → LoadSession × List InnerLoad
  | [] => (session, [])
  | provider :: rest =>
    let (next, report) := session.load provider
    let (last, others) := next.loadAll rest
    (last, ⟨session.loading, report.result⟩ :: others)

end

end LoadSession

end ClassDiagram
