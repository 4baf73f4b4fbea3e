import ClassDiagram.DeclaredNames

/-!
# Manifests

A manifest describes a codebase: its projects, their documents with their source trees, and
facts about single types that the project knows better than inference could.

The facts are kept in a table with one entry for each type, in the order of the names.
-/

namespace ClassDiagram

/-- Given facts about types, in the order of the types' names. -/
structure SymbolTable where
  entries : List (String × SymbolFacts) := []
  ascending : entries.Pairwise (fun a b => compare a.1 b.1 = .lt) := by exact List.Pairwise.nil

namespace SymbolTable

/-- The entries with the facts about one more type. They replace earlier ones. -/
def insertEntry (type : String) (facts : SymbolFacts) :
    List (String × SymbolFacts) → List (String × SymbolFacts)
  | [] => [(type, facts)]
  | (other, known) :: rest =>
    match compare type other with
    | .lt => (type, facts) :: (other, known) :: rest
    | .eq => (type, facts) :: rest
    | .gt => (other, known) :: insertEntry type facts rest

theorem mem_insertEntry {type : String} {facts : SymbolFacts}
    {entries : List (String × SymbolFacts)} {entry : String × SymbolFacts}
    (h : entry ∈ insertEntry type facts entries) : entry = (type, facts) ∨ entry ∈ entries := by
  induction entries with
  | nil => exact .inl (List.mem_singleton.1 h)
  | cons head rest ih =>
    rw [insertEntry] at h
    split at h
    · exact List.mem_cons.1 h
    · rcases List.mem_cons.1 h with h | h
      · exact .inl h
      · exact .inr (List.mem_cons_of_mem _ h)
    · rcases List.mem_cons.1 h with h | h
      · exact .inr (h ▸ List.mem_cons_self)
      · exact (ih h).imp_right (List.mem_cons_of_mem _)

theorem ascending_insertEntry {type : String} {facts : SymbolFacts}
    {entries : List (String × SymbolFacts)}
    (h : entries.Pairwise (fun a b => compare a.1 b.1 = .lt)) :
    (insertEntry type facts entries).Pairwise (fun a b => compare a.1 b.1 = .lt) := by
  induction entries with
  | nil => exact List.pairwise_singleton _ _
  | cons head rest ih =>
    obtain ⟨hhead, hrest⟩ := List.pairwise_cons.1 h
    rw [insertEntry]
    split
    next hlt =>
      refine List.pairwise_cons.2 ⟨fun entry hentry => ?_, h⟩
      rcases List.mem_cons.1 hentry with rfl | hentry
      · exact hlt
      · exact Std.TransCmp.lt_trans hlt (hhead entry hentry)
    next heq =>
      obtain rfl := Std.LawfulEqOrd.eq_of_compare heq
      exact List.pairwise_cons.2 ⟨hhead, hrest⟩
    next hgt =>
      refine List.pairwise_cons.2 ⟨fun entry hentry => ?_, ih hrest⟩
      rcases mem_insertEntry hentry with rfl | hentry
      · exact Std.OrientedCmp.lt_of_gt hgt
      · exact hhead entry hentry

/-- The table with the facts about one more type. They replace earlier ones. -/
def insert (table : SymbolTable) (type : String) (facts : SymbolFacts) : SymbolTable where
  entries := insertEntry type facts table.entries
  ascending := ascending_insertEntry table.ascending

/-- The table of a list of facts, of which later ones replace earlier ones. -/
def ofList (facts : List (String × SymbolFacts)) : SymbolTable :=
  facts.foldl (fun table entry => table.insert entry.1 entry.2) {}

end SymbolTable

/-- A document of a manifest. -/
structure Manifest.DocumentEntry where
  name : String
  /-- Whether the document has a semantic model. -/
  semantic : Bool := true
  tree : Option SourceTree := none

/-- A project of a manifest. -/
structure Manifest.ProjectEntry where
  name : String
  /-- Facts about the project's types, which replace inference. -/
  symbols : SymbolTable := {}
  documents : List Manifest.DocumentEntry := []

/-- The description of a codebase. -/
structure Manifest where
  projects : List Manifest.ProjectEntry := []

end ClassDiagram
