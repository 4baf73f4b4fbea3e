/-!
# Symbols

What is known of a type beyond its own syntax: its base type and every interface it
implements, the inherited ones included.

A model answers for the types of one compilation. The registry remembers, for the types of
all assemblies, which model can answer for them; the first model entered for a type stays.
-/

namespace ClassDiagram

/-- The resolved facts about a type. -/
structure Symbol where
  name : String
  /-- The base type with its full name, generic arguments included. -/
  base : Option String := none
  /-- Every implemented interface with its full name, in the order of discovery. -/
  interfaces : List String := []
deriving DecidableEq

/-- The symbols of one compilation: the symbol of a qualified name, if there is one. -/
abbrev SymbolModel := String → Option Symbol

/-- The model that answers for a type of an assembly. -/
structure Registration where
  assembly : String
  type : String
  model : SymbolModel

/-- Whether the registration is about this type. -/
def Registration.isFor (registration : Registration) (assembly type : String) : Bool :=
  registration.assembly == assembly && registration.type == type

/-- The models of the types of all assemblies, in the order in which they were entered. -/
structure SymbolRegistry where
  registrations : List Registration := []

namespace SymbolRegistry

/-- The model entered for a type. -/
def model? (registry : SymbolRegistry) (assembly type : String) : Option SymbolModel :=
  (registry.registrations.find? (·.isFor assembly type)).map (·.model)

/-- Whether a model is entered for the type. -/
def contains (registry : SymbolRegistry) (assembly type : String) : Bool :=
  registry.registrations.any (·.isFor assembly type)

/-- Enters a model for a type, unless there is one already. -/
def add (registry : SymbolRegistry) (assembly type : String) (model : SymbolModel) :
    SymbolRegistry :=
  if registry.contains assembly type then registry
  else ⟨registry.registrations ++ [⟨assembly, type, model⟩]⟩

/-- The symbol of a type, from the model entered for it. -/
def symbol? (registry : SymbolRegistry) (assembly type : String) : Option Symbol :=
  (registry.model? assembly type).bind fun model => model type

/-- The number of types with a model. -/
def size (registry : SymbolRegistry) : Nat :=
  registry.registrations.length

/-- A line about the registry for people to read. -/
def summary (registry : SymbolRegistry) : String :=
  "SemanticLayer \x7b registered: " ++ toString registry.size ++ " \x7d"

end SymbolRegistry

end ClassDiagram
