import ClassDiagram.Text.Blank

/-!
# Names of types

A type is known by its qualified name: the namespace and the identifier with a dot between
them. A base list may also write generic arguments, from the first `<` on. A name written
somewhere in a namespace is looked up in that namespace first and then in the ones around
it, which are found by cutting at the last dot.
-/

namespace ClassDiagram.Name

/-- The name without its generic arguments: what stands before the first `<`. -/
def withoutGenerics (name : String) : String :=
  String.ofList (name.toList.takeWhile (· ≠ '<'))

/-- The generic arguments of a name: what stands from the first `<` on. -/
def generics (name : String) : String :=
  String.ofList (name.toList.dropWhile (· ≠ '<'))

/-- The name that an entry of a base list refers to: no blanks around the entry, and no
generic arguments. -/
def referred (entry : String) : String :=
  withoutGenerics (Text.trimmed entry)

/-- The identifier in a namespace. The empty namespace is none. -/
def inNamespace (scope : Option String) (identifier : String) : String :=
  match scope with
  | none => identifier
  | some space => if space = "" then identifier else space ++ "." ++ identifier

/-- What stands behind the last dot. -/
def lastSegment (name : String) : String :=
  String.ofList (name.toList.reverse.takeWhile (· ≠ '.')).reverse

/-- What stands before each dot of a name read from behind, the longest first. -/
def beforeDots : List Char → List (List Char)
  | [] => []
  | c :: rest => if c = '.' then rest.reverse :: beforeDots rest else beforeDots rest

/-- A namespace and the namespaces around it, the innermost first. -/
def enclosing (space : String) : List String :=
  space :: (beforeDots space.toList.reverse).map String.ofList

/-- The qualified names that a name written in a namespace may stand for, in the order in
which they are tried: in the namespace, in the ones around it, and by itself. -/
def candidates (scope : Option String) (name : String) : List String :=
  (scope.toList.flatMap enclosing).map (fun space => inNamespace (some space) name) ++ [name]

/-- The names with one more behind them, unless it is there already. -/
def addNew (names : List String) (name : String) : List String :=
  if names.contains name then names else names ++ [name]

/-- The names without repeats, each where it comes first. -/
def distinct (names : List String) : List String :=
  names.foldl addNew []

end ClassDiagram.Name
