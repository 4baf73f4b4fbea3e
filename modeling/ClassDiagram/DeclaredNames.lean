import ClassDiagram.Symbol
import ClassDiagram.IndexedType
import ClassDiagram.Text.UpperCase

/-!
# Symbols inferred from names

Syntax alone does not tell which entry of a base list is the base class, nor which
interfaces a type inherits. Both are guessed from the names that a project declares. The
declarations are kept in the order in which they were added; what is known of a type is read
off that list. The kind and the namespace of a type are those of
its first declaration, its bases those of all of them. Facts that are given for a type
replace all guesses about it.

`DeclaredNames.interfacesAbove` walks up from a type through its base lists. A type is
walked through once, however many ways lead to it, so the walk ends also where bases form a
circle.
-/

namespace ClassDiagram

/-- Facts about a type that are given and not inferred. -/
structure SymbolFacts where
  base : Option String := none
  interfaces : List String := []
deriving DecidableEq

/-- What is remembered of one declaration. -/
structure KnownDeclaration where
  qualifiedName : String
  identifier : String
  kind : NodeKind
  scope : Option String
  bases : List String

/-- What is remembered of a declaration found in a source tree. -/
def Occurrence.known (occurrence : Occurrence) : KnownDeclaration where
  qualifiedName := occurrence.qualifiedName
  identifier := occurrence.declaration.identifier
  kind := .ofDeclared occurrence.declaration.keyword occurrence.declaration.modifiers
  scope := occurrence.scope
  bases := occurrence.declaration.bases

/-- The declarations of a project, and the facts given for some of its types. -/
structure DeclaredNames where
  /-- Every declaration, in the order in which they were added. -/
  declarations : List KnownDeclaration := []
  /-- The facts given, the latest first. -/
  given : List (String × SymbolFacts) := []

/-- A type as all its declarations together describe it. -/
structure KnownType where
  kind : NodeKind
  scope : Option String
  bases : List String

/-- A step up from a type: the name to report for it, if it is one, and the declared type
that it leads to, if there is one. -/
structure Lead where
  report : Option String
  target : Option String

/-- Whether a name looks like that of an interface: a capital `I` before another capital. -/
def looksLikeInterface (entry : String) : Bool :=
  match (Name.lastSegment (Name.referred entry)).toList with
  | 'I' :: c :: _ => Text.isCapital c
  | _ => false

namespace DeclaredNames

/-- Adds every type of a source tree. -/
def addTree (names : DeclaredNames) (declarations : List Declaration) : DeclaredNames :=
  { names with
    declarations := names.declarations ++ (Occurrence.all declarations).map Occurrence.known }

/-- Adds facts about a type. They replace earlier ones. -/
def addFacts (names : DeclaredNames) (type : String) (facts : SymbolFacts) : DeclaredNames :=
  { names with given := (type, facts) :: names.given }

/-- The facts given for a type. -/
def facts? (names : DeclaredNames) (type : String) : Option SymbolFacts :=
  names.given.lookup type

/-- Whether a type of this qualified name is declared. -/
def declares (names : DeclaredNames) (type : String) : Bool :=
  names.declarations.any (·.qualifiedName == type)

/-- The type of this qualified name. -/
def type? (names : DeclaredNames) (type : String) : Option KnownType :=
  let here := names.declarations.filter (·.qualifiedName == type)
  here.head?.map fun first =>
    { kind := first.kind, scope := first.scope, bases := Name.distinct (here.flatMap (·.bases)) }

/-- The number of declared types. -/
def size (names : DeclaredNames) : Nat :=
  (Name.distinct (names.declarations.map (·.qualifiedName))).length

/-- The qualified name of the type that was declared first with this identifier. -/
def firstNamed? (names : DeclaredNames) (identifier : String) : Option String :=
  (names.declarations.find? (·.identifier == identifier)).map (·.qualifiedName)

/-- The declared type that a base-list entry written in a namespace refers to: the one found
in the innermost namespace or, failing that, the first one with the same last segment. -/
def referent? (names : DeclaredNames) (scope : Option String) (entry : String) :
    Option String :=
  let name := Name.referred entry
  if name = "" then none
  else ((Name.candidates scope name).find? names.declares).or
    (names.firstNamed? (Name.lastSegment name))

/-- The full name of what an entry refers to, with the generic arguments as written. -/
def fullName (names : DeclaredNames) (scope : Option String) (entry : String) : String :=
  match names.referent? scope entry with
  | some type => type ++ Name.generics (Text.trimmed entry)
  | none => Text.trimmed entry

/-- The kind of the declared type that an entry refers to. -/
def kindOf? (names : DeclaredNames) (scope : Option String) (entry : String) :
    Option NodeKind :=
  ((names.referent? scope entry).bind names.type?).map (·.kind)

/-- Whether an entry refers to an interface. Of a type that is not declared the name
decides. -/
def isInterface (names : DeclaredNames) (scope : Option String) (entry : String) : Bool :=
  match names.kindOf? scope entry with
  | some kind => kind = .interface
  | none => looksLikeInterface entry

/-- Whether an entry refers to a declared class or record, which can only be a base type. -/
def isDeclaredBase (names : DeclaredNames) (scope : Option String) (entry : String) : Bool :=
  match names.kindOf? scope entry with
  | some .plainClass | some .abstractClass | some .record => true
  | _ => false

/-- The entry that names the base type: the first that refers to a declared class or record,
or else the first of all, unless that is an interface. An interface has no base type. -/
def parent? (names : DeclaredNames) (type : KnownType) : Option String :=
  if type.kind = .interface then none
  else (type.bases.find? (names.isDeclaredBase type.scope)).or
    (type.bases.head?.filter fun entry => !names.isInterface type.scope entry)

/-- The steps up from a type, in the order in which they are taken: its interfaces, which
are reported, and then its base type, which is not. -/
def leads (names : DeclaredNames) (type : KnownType) : List Lead :=
  let base := names.parent? type
  let interfaces := type.bases.filter fun entry => some entry ≠ base
  interfaces.map (fun entry =>
      ⟨some (names.fullName type.scope entry), names.referent? type.scope entry⟩)
    ++ (base.map fun entry => ⟨none, names.referent? type.scope entry⟩).toList

/-- The names found so far, with the name that a step reports. -/
def reported (found : List String) (lead : Lead) : List String :=
  match lead.report with
  | some name => Name.addNew found name
  | none => found

/-- The type that a step leads to, unless it was walked through before. -/
def ahead? (names : DeclaredNames) (visited : List String) (lead : Lead) :
    Option (String × KnownType) :=
  match lead.target with
  | some type =>
    if visited.contains type then none else (names.type? type).map (type, ·)
  | none => none

/-- The declarations of types that were not walked through yet. -/
def unvisited (names : DeclaredNames) (visited : List String) : List KnownDeclaration :=
  names.declarations.filter fun declaration => !visited.contains declaration.qualifiedName

theorem ahead?_eq_some {names : DeclaredNames} {visited : List String} {lead : Lead}
    {type : String} {known : KnownType} (h : names.ahead? visited lead = some (type, known)) :
    lead.target = some type ∧ visited.contains type = false
      ∧ names.type? type = some known := by
  rw [ahead?] at h
  split at h
  next target htarget =>
    split at h
    · simp at h
    next fresh =>
      obtain ⟨_, hknown, heq⟩ := Option.map_eq_some_iff.1 h
      obtain ⟨rfl, rfl⟩ := Prod.mk.inj heq
      exact ⟨htarget, by simpa using fresh, hknown⟩
  · simp at h

/-- A declared type has a declaration. -/
theorem exists_declaration_of_type? {names : DeclaredNames} {type : String}
    {known : KnownType} (h : names.type? type = some known) :
    ∃ declaration ∈ names.declarations, declaration.qualifiedName = type := by
  rw [type?] at h
  obtain ⟨first, hfirst, _⟩ := Option.map_eq_some_iff.1 h
  have hmem := List.mem_of_mem_head? hfirst
  rw [List.mem_filter, beq_iff_eq] at hmem
  exact ⟨first, hmem.1, hmem.2⟩

/-- Each type that is walked through leaves fewer to walk through. -/
theorem unvisited_lt_of_ahead? {names : DeclaredNames} {visited : List String} {lead : Lead}
    {type : String} {known : KnownType} (h : names.ahead? visited lead = some (type, known)) :
    (names.unvisited (type :: visited)).length < (names.unvisited visited).length := by
  obtain ⟨_, fresh, declared⟩ := ahead?_eq_some h
  obtain ⟨first, hfirst, hname⟩ := exists_declaration_of_type? declared
  have hsub : names.unvisited (type :: visited)
      = (names.unvisited visited).filter (fun d => d.qualifiedName != type) := by
    rw [unvisited, unvisited, List.filter_filter]
    congr 1
    funext d
    rw [List.contains_cons, Bool.not_or]
    rfl
  rw [hsub]
  refine List.length_filter_lt_length_iff_exists.mpr ⟨first, ?_, by simp [hname]⟩
  rw [unvisited, List.mem_filter, hname, fresh]
  exact ⟨hfirst, rfl⟩

/-- Takes the steps that are pending, and those that open up behind them, and gives the
names that they report. -/
def follow (names : DeclaredNames) (pending : List Lead) (visited found : List String) :
    List String :=
  match pending with
  | [] => found
  | lead :: rest =>
    match _h : names.ahead? visited lead with
    | none => names.follow rest visited (reported found lead)
    | some (type, known) =>
      names.follow (names.leads known ++ rest) (type :: visited) (reported found lead)
termination_by ((names.unvisited visited).length, pending.length)
decreasing_by
  · exact Prod.Lex.right _ (Nat.lt_succ_self _)
  · exact Prod.Lex.left _ _ (unvisited_lt_of_ahead? _h)

/-- Every interface that a declared type implements, inherited ones included. -/
def interfacesAbove (names : DeclaredNames) (type : String) (known : KnownType) :
    List String :=
  names.follow (names.leads known) [type] []

/-- The full name of the base type. A type that names none, and is not an interface, has the
root type as its base. -/
def parentName (names : DeclaredNames) (known : KnownType) : Option String :=
  match names.parent? known with
  | some entry => some (names.fullName known.scope entry)
  | none => if known.kind = .interface then none else some "object"

/-- The symbol of a type: the facts given for it or, if none are given, the inferred ones. -/
def symbol? (names : DeclaredNames) : SymbolModel := fun type =>
  match names.facts? type with
  | some facts => some ⟨type, facts.base, facts.interfaces⟩
  | none => (names.type? type).map fun known =>
    ⟨type, names.parentName known, names.interfacesAbove type known⟩

end DeclaredNames

end ClassDiagram
