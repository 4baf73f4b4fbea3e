import ClassDiagram.Proofs.Retelling

/-!
# Partial and nested declarations

How a source tree is cut up is a matter of notation. A declaration may be split into two that
follow each other, the first with some of its bases and members and the second with the others and
with all nested types; this is what partial declarations are for. And nested types may be taken
out, if the namespace that they inherit is written at each of them.

Both are ways of telling the same declarations in other words (`Declaration.InTwoParts.retold`,
`Declaration.retold_allUnfolded`), so neither shows in the index or in a diagram. They hold wherever the
change is made and whatever stands around it: halves without members or without bases, bases that
are repeated behind the cut, nested types that have the name of the type around them.
-/

namespace ClassDiagram

namespace Occurrence

theorem allWithin_append (scope : Option String) (front back : List Declaration) :
    allWithin scope (front ++ back) = allWithin scope front ++ allWithin scope back := by
  induction front with
  | nil => rfl
  | cons declaration rest ih => rw [List.cons_append, allWithin, allWithin, ih, List.append_assoc]

end Occurrence

namespace Declaration

/-! ## One document -/

/-- A codebase of one document, whose model knows the same of every type. -/
def codebaseOf (declarations : List Declaration) : List Project :=
  [{ name := "Zoo"
     documents :=
      [{ name := "Aviary.cs"
         model := some fun name => some ⟨name, some "Bird", ["ISing"]⟩
         tree := some { root := some declarations } }] }]

/-- A manifest of one document. -/
def manifestOf (declarations : List Declaration) : Manifest where
  projects :=
    [{ name := "Zoo"
       symbols := .ofList []
       documents := [{ name := "Aviary.cs", tree := some { root := some declarations } }] }]

section

variable {R : List Declaration → List Declaration → Prop}
  {declarations' declarations : List Declaration} (h : R declarations' declarations)

include h

theorem reworded_codebaseOf :
    Codebase.Reworded R (codebaseOf declarations') (codebaseOf declarations) :=
  .cons ⟨rfl, .cons ⟨rfl, rfl, .root _ h⟩ .nil⟩ .nil

theorem reworded_manifestOf : (manifestOf declarations').Reworded R (manifestOf declarations) :=
  .cons ⟨rfl, rfl, .cons ⟨rfl, rfl, .root _ h⟩ .nil⟩ .nil

end

/-! ## A declaration in two parts -/

/-- The first list is the second one with one declaration, somewhere in it or nested anywhere in
it, split in two. -/
inductive InTwoParts : List Declaration → List Declaration → Prop
  | here (keyword : DeclarationKeyword) (modifiers : List String) (identifier : String)
      (ownNamespace : Option String) (bases bases' : List String)
      (members members' : List DeclaredMember) (nested rest : List Declaration) :
      InTwoParts
        (⟨keyword, modifiers, identifier, ownNamespace, bases, members, []⟩
          :: ⟨keyword, modifiers, identifier, ownNamespace, bases', members', nested⟩ :: rest)
        (⟨keyword, modifiers, identifier, ownNamespace, bases ++ bases', members ++ members',
          nested⟩ :: rest)
  | inside (declaration : Declaration) {nested' nested : List Declaration}
      (rest : List Declaration) (h : InTwoParts nested' nested) :
      InTwoParts ({ declaration with nested := nested' } :: rest)
        ({ declaration with nested := nested } :: rest)
  | behind (declaration : Declaration) {rest' rest : List Declaration}
      (h : InTwoParts rest' rest) : InTwoParts (declaration :: rest') (declaration :: rest)

/-- Two parts of a declaration say what the whole says, in any namespace. -/
theorem InTwoParts.retold {declarations' declarations : List Declaration}
    (h : InTwoParts declarations' declarations) (scope : Option String) :
    Retold (Occurrence.allWithin scope declarations')
      (Occurrence.allWithin scope declarations) := by
  induction h generalizing scope with
  | here keyword modifiers identifier ownNamespace bases bases' members members' nested rest =>
      -- the first part has no nested types, so the second one follows it at once
      exact .parts ⟨rfl, rfl, rfl, rfl⟩ ⟨rfl, rfl, rfl, rfl⟩ rfl rfl (.refl _)
  | inside declaration rest _ ih =>
      exact .same ⟨rfl, rfl, rfl, rfl⟩ rfl rfl ((ih _).append (.refl _))
  | behind declaration _ ih => exact (Retold.refl _).append (ih scope)

/-- **To split a declaration changes nothing**, neither in a codebase whose models are given nor in
one whose models are inferred from a manifest. -/
theorem alike_of_inTwoParts (style : DiagramStyle) :
    (∀ projects' projects, Codebase.Reworded InTwoParts projects' projects →
        Codebase.Alike style projects' projects)
      ∧ ∀ manifest' manifest : Manifest, manifest'.Reworded InTwoParts manifest →
        Codebase.Alike style manifest'.toProjects manifest.toProjects := by
  have hfaithful : Faithful InTwoParts := fun _ _ h => h.retold none
  exact ⟨fun _ _ h => Codebase.alike_of_reworded hfaithful h style,
    fun _ _ h => Manifest.alike_of_reworded hfaithful h style⟩

/-- A class that has others nested in it. -/
def aviary : Declaration where
  keyword := .forClass
  identifier := "Aviary"
  ownNamespace := some "Zoo"

/-- A class with a type of its own name nested in it. -/
def crow : Declaration where
  keyword := .forClass
  identifier := "Crow"
  bases := ["Bird", "ISing", "Bird"]
  members := [.other "constructor", .property [] "Name" "string"]
  nested := [{ keyword := .forRecord, identifier := "Crow", bases := ["IFly"] }]

/-- The first part has no members, so no model is entered for it, and a base that the second part
has as well. -/
def crowParts : List Declaration :=
  [{ crow with bases := ["Bird", "ISing"], members := [], nested := [] },
   { crow with bases := ["Bird"] }]

def crowPlace (crows : List Declaration) : List Declaration :=
  [{ aviary with nested := crows }]

theorem inTwoParts_crow : InTwoParts (crowPlace crowParts) (crowPlace [crow]) :=
  .inside aviary [] (.here .forClass [] "Crow" none ["Bird", "ISing"] ["Bird"] [] crow.members
    crow.nested [])

theorem alike_of_inTwoParts_crow :
    Codebase.Reworded InTwoParts (codebaseOf (crowPlace crowParts)) (codebaseOf (crowPlace [crow]))
      ∧ Codebase.Alike {} (codebaseOf (crowPlace crowParts)) (codebaseOf (crowPlace [crow]))
      ∧ (manifestOf (crowPlace crowParts)).Reworded InTwoParts (manifestOf (crowPlace [crow]))
      ∧ Codebase.Alike {} (manifestOf (crowPlace crowParts)).toProjects
        (manifestOf (crowPlace [crow])).toProjects := by
  have hcodebase := reworded_codebaseOf inTwoParts_crow
  have hmanifest := reworded_manifestOf inTwoParts_crow
  obtain ⟨hgiven, hinferred⟩ := alike_of_inTwoParts {}
  exact ⟨hcodebase, hgiven _ _ hcodebase, hmanifest, hinferred _ _ hmanifest⟩

/-! ## Nested declarations -/

/-- The declaration on its own, without the types nested in it. Given the declarations around it,
the innermost first, its namespace is the one written at the nearest of them, itself included. -/
def detached (outer : List Declaration) (declaration : Declaration) : Declaration :=
  { declaration with
    ownNamespace := (declaration :: outer).findSome? (·.ownNamespace)
    nested := [] }

mutual

/-- A declaration on its own, followed by those nested in it. -/
def unfolded (outer : List Declaration) : Declaration → List Declaration
  | ⟨keyword, modifiers, identifier, ownNamespace, bases, members, nested⟩ =>
    let declaration : Declaration :=
      ⟨keyword, modifiers, identifier, ownNamespace, bases, members, nested⟩
    declaration.detached outer :: allUnfolded (declaration :: outer) nested

/-- Declarations on their own, each followed by those nested in it. -/
def allUnfolded (outer : List Declaration) : List Declaration → List Declaration
  | [] => []
  | declaration :: rest => unfolded outer declaration ++ allUnfolded outer rest

end

/-- The declarations of a tree one after the other, each with its namespace and none nested. -/
def flat (declarations : List Declaration) : List Declaration :=
  allUnfolded [] declarations

/-- The first list is the second one with all nested types taken out. -/
def IsFlat (declarations' declarations : List Declaration) : Prop :=
  declarations' = flat declarations

mutual

theorem retold_unfolded (outer : List Declaration) : (declaration : Declaration) →
    Retold (Occurrence.allWithin none (unfolded outer declaration))
      (Occurrence.within (outer.findSome? (·.ownNamespace)) declaration)
  | ⟨keyword, modifiers, identifier, ownNamespace, bases, members, nested⟩ => by
    let declaration : Declaration :=
      ⟨keyword, modifiers, identifier, ownNamespace, bases, members, nested⟩
    have hscope : (declaration :: outer).findSome? (·.ownNamespace)
        = ownNamespace.or (outer.findSome? (·.ownNamespace)) := by
      cases ownNamespace with
      | none => rfl
      | some space => rfl
    have hnested := retold_allUnfolded (declaration :: outer) nested
    rw [hscope] at hnested
    exact .same ⟨rfl, rfl, rfl, Option.or_none.trans hscope⟩ rfl rfl hnested

theorem retold_allUnfolded (outer : List Declaration) : (declarations : List Declaration) →
    Retold (Occurrence.allWithin none (allUnfolded outer declarations))
      (Occurrence.allWithin (outer.findSome? (·.ownNamespace)) declarations)
  | [] => .nil
  | declaration :: rest => by
    rw [allUnfolded, Occurrence.allWithin_append, Occurrence.allWithin]
    exact (retold_unfolded outer declaration).append (retold_allUnfolded outer rest)

end

/-- **Nesting is only notation**, in a codebase whose models are given as well as in one whose
models are inferred from a manifest. -/
theorem alike_of_isFlat (style : DiagramStyle) :
    (∀ projects' projects, Codebase.Reworded IsFlat projects' projects →
        Codebase.Alike style projects' projects)
      ∧ ∀ manifest' manifest : Manifest, manifest'.Reworded IsFlat manifest →
        Codebase.Alike style manifest'.toProjects manifest.toProjects := by
  have hfaithful : Faithful IsFlat := by
    rintro _ declarations rfl
    exact retold_allUnfolded [] declarations
  exact ⟨fun _ _ h => Codebase.alike_of_reworded hfaithful h style,
    fun _ _ h => Manifest.alike_of_reworded hfaithful h style⟩

/-- Types nested four deep. One is taken out of all namespaces, with what is nested in it. -/
def nest : List Declaration :=
  [{ aviary with
      nested :=
        [{ crow with
            nested :=
              [{ keyword := .forRecord, identifier := "Crow", bases := ["IFly"] },
               { keyword := .forStruct, identifier := "Egg", ownNamespace := some "",
                 nested := [{ keyword := .forClass, identifier := "Yolk", bases := ["Crow"] }] }] },
         { keyword := .forInterface, identifier := "ISing", ownNamespace := some "Zoo.Songs" }] }]

def flatNest : List Declaration :=
  [aviary,
   { crow with ownNamespace := some "Zoo", nested := [] },
   { keyword := .forRecord, identifier := "Crow", ownNamespace := some "Zoo", bases := ["IFly"] },
   { keyword := .forStruct, identifier := "Egg", ownNamespace := some "" },
   { keyword := .forClass, identifier := "Yolk", ownNamespace := some "", bases := ["Crow"] },
   { keyword := .forInterface, identifier := "ISing", ownNamespace := some "Zoo.Songs" }]

theorem isFlat_flatNest : IsFlat flatNest nest :=
  rfl

theorem alike_of_isFlat_nest :
    Codebase.Reworded IsFlat (codebaseOf flatNest) (codebaseOf nest)
      ∧ Codebase.Alike {} (codebaseOf flatNest) (codebaseOf nest)
      ∧ (manifestOf flatNest).Reworded IsFlat (manifestOf nest)
      ∧ Codebase.Alike {} (manifestOf flatNest).toProjects (manifestOf nest).toProjects := by
  have hcodebase := reworded_codebaseOf isFlat_flatNest
  have hmanifest := reworded_manifestOf isFlat_flatNest
  obtain ⟨hgiven, hinferred⟩ := alike_of_isFlat {}
  exact ⟨hcodebase, hgiven _ _ hcodebase, hmanifest, hinferred _ _ hmanifest⟩

end Declaration

end ClassDiagram
