import ClassDiagram.Clipboard
import ClassDiagram.Diagram
import ClassDiagram.LoadSession
import ClassDiagram.Mailbox
import ClassDiagram.Selection

/-!
# Browsing a codebase

A browser leads from the list of assemblies over the list of an assembly's classes to the
diagram of a class. Whoever watches it is told of every change to these three, so that he
can show them without asking. Each diagram is also offered to a clipboard, which has no
effect on the browser.

A choice that names nothing known changes nothing.
-/

namespace ClassDiagram

/-- What is selected of the index taken over last, and who is told of it. -/
structure Browser where
  style : DiagramStyle := {}
  index : Option Index := none
  selection : Selection := .idle
  clipboard : Clipboard := .discarding
  /-- The mailboxes of all who ever began to watch, in order. -/
  mailboxes : List Mailbox := []

/-- Something that a browser reacts to. -/
inductive Browser.Event where
  | loaded (index : Index)
  | assemblyChosen (name : String)
  | classChosen (name : String)

namespace Browser

/-- Opens a mailbox for someone who begins to watch. Its number is that of the mailboxes
before. -/
def watch (browser : Browser) : Browser :=
  { browser with mailboxes := browser.mailboxes ++ [{}] }

/-- Whether the mailbox of this number is open. -/
def isWatched (browser : Browser) (mailbox : Nat) : Bool :=
  (browser.mailboxes[mailbox]?).any (·.isOpen)

/-- Closes the mailbox of this number. -/
def unwatch (browser : Browser) (mailbox : Nat) : Browser :=
  { browser with mailboxes := browser.mailboxes.modify mailbox Mailbox.close }

/-- The number of mailboxes that are written to. -/
def listedCount (browser : Browser) : Nat :=
  browser.mailboxes.countP (·.isListed)

/-- Sends announcements to all who watch, in order. -/
def announce (browser : Browser) (announcements : List Announcement) : Browser :=
  { browser with
    mailboxes := browser.mailboxes.map fun mailbox =>
      announcements.foldl Mailbox.deliver mailbox }

/-- The announcement that there is no diagram any more, if there is one now. -/
def clearing (browser : Browser) : List Announcement :=
  if browser.selection.diagram?.isSome then [.noDiagram] else []

/-- Takes a loaded index over and starts again with nothing selected. -/
def takeOver (browser : Browser) (index : Index) : Browser :=
  { browser with index := some index, selection := .idle }.announce
    (.assemblies index.names :: browser.clearing)

/-- Loads a codebase in a session and takes over the index, if there is one. -/
def load (browser : Browser) (session : LoadSession) (provider : Provider) :
    Browser × LoadSession × LoadReport :=
  let (next, report) := session.load provider
  match report.result with
  | .ok index => (browser.takeOver index, next, report)
  | .error _ => (browser, next, report)

/-- The browser with this assembly chosen, if the index has it. -/
def chooseAssembly? (browser : Browser) (name : String) : Option Browser :=
  (browser.index.bind (·.listing? name)).map fun classes =>
    { browser with selection := .assembly name }.announce (.classes classes :: browser.clearing)

/-- Chooses an assembly, and tells whether there is such a one; if not, nothing changes. -/
def chooseAssembly (browser : Browser) (name : String) : Browser × Bool :=
  match browser.chooseAssembly? name with
  | some next => (next, true)
  | none => (browser, false)

/-- The class of the chosen assembly that answers to the name, with all that its diagram
depends on. -/
def classNamed? (browser : Browser) (name : String) : Option (Index × String × IndexedType) := do
  let index ← browser.index
  let assembly ← browser.selection.assembly?
  let type ← index.type? assembly name
  some (index, assembly, type)

/-- Shows the diagram of a class of the chosen assembly and gives it; if there is no such
class, nothing changes. -/
def chooseClass (browser : Browser) (name : String) : Browser × Option String :=
  match browser.classNamed? name with
  | none => (browser, none)
  | some (index, assembly, type) =>
    let diagram := index.diagramOf browser.style assembly type
    let next :=
      { browser with
        clipboard := browser.clipboard.offer diagram
        selection := .drawn assembly type.qualifiedName diagram }.announce [.diagram diagram]
    (next, some diagram)

/-- Reacts to an event, and gives the diagram that it leads to. -/
def react (browser : Browser) : Event → Browser × Option String
  | .loaded index => (browser.takeOver index, none)
  | .assemblyChosen name => ((browser.chooseAssembly name).1, none)
  | .classChosen name => browser.chooseClass name

/-- The browser in a line for people to read. -/
def summary (browser : Browser) : String :=
  "SelectionController \x7b state: " ++ browser.selection.summary ++ ", loaded: "
    ++ (if browser.index.isSome then "true" else "false") ++ ", subscribers: "
    ++ toString browser.listedCount ++ " \x7d"

end Browser

end ClassDiagram
