import ClassDiagram.Proofs.Inheritance
import ClassDiagram.Proofs.Spelling
import Mathlib.Data.List.Find

/-!
# What an entry of a base list refers to

An entry may leave out the namespaces that it is written in. So the name is tried in the namespace
of the entry, in every namespace around it and by itself, and if none of this is declared the first
type of the right identifier is taken. `DeclaredNames.RefersTo` says what is meant without trying
anything, and `DeclaredNames.referent?_eq_iff` that this is what comes out, of any entry in any
namespace and after any source trees.

Namespaces are tried in the order of `Name.enclosing`. Each one is longer than those behind it
(`Name.enclosing_descending`), so the first in which the name is declared is the innermost.
-/

namespace ClassDiagram

/-- In a list that descends in size, what is found first is the largest of what can be found. -/
theorem find?_eq_some_iff_of_descending {α : Type} {size : α → Nat} {p : α → Bool}
    {things : List α} {a : α} (h : things.Pairwise fun a b => size b < size a) :
    things.find? p = some a
      ↔ a ∈ things ∧ p a = true ∧ ∀ b ∈ things, p b = true → size b ≤ size a := by
  induction things with
  | nil => simp
  | cons first rest ih =>
      obtain ⟨hfirst, hrest⟩ := List.pairwise_cons.1 h
      by_cases hp : p first = true
      · rw [List.find?_cons_of_pos hp, Option.some.injEq]
        constructor
        · rintro rfl
          refine ⟨List.mem_cons_self, hp, List.forall_mem_cons.2 ⟨fun _ => Nat.le_refl _, ?_⟩⟩
          exact fun b hb _ => (hfirst b hb).le
        · rintro ⟨hmem, -, hlargest⟩
          rcases List.mem_cons.1 hmem with rfl | hmem
          · rfl
          · exact absurd (hfirst a hmem) (hlargest first List.mem_cons_self hp).not_gt
      · rw [List.find?_cons_of_neg hp, ih hrest, List.mem_cons, List.forall_mem_cons]
        constructor
        · rintro ⟨hmem, ha, hlargest⟩
          exact ⟨.inr hmem, ha, fun hpos => absurd hpos hp, hlargest⟩
        · rintro ⟨hmem, ha, -, hlargest⟩
          exact ⟨hmem.resolve_left fun heq => hp (heq ▸ ha), ha, hlargest⟩

namespace Name

/-! ## Cutting names -/

/-- What stands in front of the first `c` has no `c` in it, and then comes a `c` or the end. -/
theorem takeWhile_ne_eq_iff {c : Char} {cs part : List Char} :
    cs.takeWhile (· ≠ c) = part ↔ c ∉ part ∧ (cs = part ∨ ∃ rest, cs = part ++ c :: rest) := by
  constructor
  · rintro rfl
    refine ⟨fun hmem => by simpa using List.mem_takeWhile_imp hmem, ?_⟩
    have hcut := List.takeWhile_append_dropWhile (p := (· ≠ c)) (l := cs)
    have hhead := List.head?_dropWhile_not (· ≠ c) cs
    cases hrest : cs.dropWhile (· ≠ c) with
    | nil =>
        rw [hrest, List.append_nil] at hcut
        exact .inl hcut.symm
    | cons d rest =>
        rw [hrest] at hcut hhead
        obtain rfl : d = c := by simpa using hhead
        exact .inr ⟨rest, hcut.symm⟩
  · rintro ⟨hpart, hcs⟩
    have hkept : ∀ d ∈ part, decide (d ≠ c) = true :=
      fun d hd => decide_eq_true fun heq => hpart (heq ▸ hd)
    rcases hcs with rfl | ⟨rest, rfl⟩
    · exact List.takeWhile_eq_self_iff.2 hkept
    · rw [List.takeWhile_append_of_pos hkept, List.takeWhile_cons_of_neg (by simp),
        List.append_nil]

/-- The name that an entry writes: what stands in front of the first `<`, if there is one, blanks
around the entry left out. -/
def Writes (entry name : String) : Prop :=
  '<' ∉ name.toList
    ∧ (Text.trimmed entry = name ∨ ∃ arguments, Text.trimmed entry = name ++ "<" ++ arguments)

/-- What stands behind the last dot of a name, if there is one. -/
def EndsIn (name segment : String) : Prop :=
  '.' ∉ segment.toList ∧ (name = segment ∨ ∃ front, name = front ++ "." ++ segment)

theorem writes_iff {entry name : String} : Writes entry name ↔ referred entry = name := by
  rw [referred, withoutGenerics, ← String.toList_inj, String.toList_ofList, takeWhile_ne_eq_iff,
    Writes, ← String.toList_inj]
  refine and_congr_right fun _ => or_congr_right ⟨?_, ?_⟩
  · rintro ⟨arguments, harguments⟩
    refine ⟨arguments.toList, ?_⟩
    rw [harguments]
    simp
  · rintro ⟨arguments, harguments⟩
    refine ⟨String.ofList arguments, String.toList_inj.1 ?_⟩
    rw [harguments]
    simp

theorem endsIn_iff {name segment : String} : EndsIn name segment ↔ lastSegment name = segment := by
  rw [lastSegment, ← String.toList_inj, String.toList_ofList, List.reverse_eq_iff,
    takeWhile_ne_eq_iff, List.mem_reverse, List.reverse_inj, EndsIn, ← String.toList_inj]
  refine and_congr_right fun _ => or_congr_right ⟨?_, ?_⟩
  · rintro ⟨front, hfront⟩
    refine ⟨front.toList.reverse, ?_⟩
    rw [eq_dotted_iff.1 hfront]
    simp
  · rintro ⟨front, hfront⟩
    refine ⟨String.ofList front.reverse, eq_dotted_iff.2 ?_⟩
    rw [← List.reverse_inj, hfront]
    simp

instance (name segment : String) : Decidable (EndsIn name segment) :=
  decidable_of_iff _ endsIn_iff.symm

/-! ## Namespaces around a namespace -/

/-- A namespace, and what is left of one around it when this is cut at its last dot. -/
inductive Around (space : String) : String → Prop where
  | self : Around space space
  | cut {outer segment : String} (h : Around space (outer ++ "." ++ segment))
      (hsegment : '.' ∉ segment.toList) : Around space outer

theorem around_of_dotted {space outer : String} {segment behind : List Char}
    (hsegment : '.' ∉ segment) (h : space.toList = outer.toList ++ '.' :: (segment ++ behind)) :
    Around space outer := by
  -- `segment` is what was read of the name since the last dot
  induction behind generalizing outer segment with
  | nil =>
      have hspace : space = outer ++ "." ++ String.ofList segment := by
        rw [eq_dotted_iff, h, List.append_nil, String.toList_ofList]
      rw [hspace]
      exact Around.self.cut (by rwa [String.toList_ofList])
  | cons c rest ih =>
      by_cases hdot : c = '.'
      · -- the segment ends here, and what stands in front of this dot is around as well
        have hlonger : Around space (outer ++ "." ++ String.ofList segment) := by
          refine ih List.not_mem_nil ?_
          rw [h, eq_dotted_iff.1 rfl, String.toList_ofList, hdot]
          simp
        exact hlonger.cut (by rwa [String.toList_ofList])
      · have hplain : '.' ∉ segment ++ [c] := by
          rw [List.mem_append, List.mem_singleton, not_or]
          exact ⟨hsegment, Ne.symm hdot⟩
        refine ih hplain ?_
        rw [h, List.append_assoc, List.singleton_append]

/-- A namespace around another one is this one itself, or a dot follows it there. -/
theorem around_iff {space outer : String} :
    Around space outer
      ↔ outer = space ∨ ∃ behind, space.toList = outer.toList ++ '.' :: behind := by
  constructor
  · intro h
    induction h with
    | self => exact .inl rfl
    | @cut outer segment _ _ ih =>
        right
        rcases ih with hspace | ⟨behind, hspace⟩
        · exact ⟨segment.toList, eq_dotted_iff.1 hspace.symm⟩
        · rw [eq_dotted_iff.1 rfl, List.append_assoc, List.cons_append] at hspace
          exact ⟨_, hspace⟩
  · rintro (rfl | ⟨behind, hspace⟩)
    · exact .self
    · exact around_of_dotted List.not_mem_nil hspace

/-- The namespaces that are tried are those around the first one. -/
theorem mem_enclosing_iff {space outer : String} : outer ∈ enclosing space ↔ Around space outer := by
  rw [around_iff, enclosing, List.mem_cons, List.mem_map]
  refine or_congr_right ⟨?_, ?_⟩
  · rintro ⟨part, hpart, rfl⟩
    rw [mem_beforeDots_iff, List.reverse_reverse] at hpart
    rwa [String.toList_ofList]
  · intro hbehind
    refine ⟨outer.toList, ?_, String.ofList_toList⟩
    rwa [mem_beforeDots_iff, List.reverse_reverse]

theorem length_lt_of_mem_beforeDots {cs part : List Char} (h : part ∈ beforeDots cs) :
    part.length < cs.length := by
  obtain ⟨behind, hbehind⟩ := mem_beforeDots_iff.1 h
  have hlength := congrArg List.length hbehind
  rw [List.length_reverse, List.length_append, List.length_cons] at hlength
  omega

theorem beforeDots_descending (cs : List Char) :
    (beforeDots cs).Pairwise fun a b => b.length < a.length := by
  induction cs with
  | nil => exact List.Pairwise.nil
  | cons c rest ih =>
      rw [beforeDots]
      split
      · refine List.pairwise_cons.2 ⟨fun part hpart => ?_, ih⟩
        rw [List.length_reverse]
        exact length_lt_of_mem_beforeDots hpart
      · exact ih

/-- **The innermost namespace comes first**, and every other one is shorter than those before. -/
theorem enclosing_descending (space : String) :
    (enclosing space).Pairwise fun a b => b.length < a.length := by
  have hlength : ∀ part : List Char, (String.ofList part).length = part.length := by
    intro part
    rw [← String.length_toList, String.toList_ofList]
  refine List.pairwise_cons.2 ⟨fun outer houter => ?_, ?_⟩
  · obtain ⟨part, hpart, rfl⟩ := List.mem_map.1 houter
    have hshorter := length_lt_of_mem_beforeDots hpart
    rwa [List.length_reverse, String.length_toList, ← hlength part] at hshorter
  · rw [List.pairwise_map]
    refine (beforeDots_descending _).imp fun {a b} hab => ?_
    rwa [hlength, hlength]

example : enclosing ".Zoo..Birds." = [".Zoo..Birds.", ".Zoo..Birds", ".Zoo.", ".Zoo", ""] := by
  decide

end Name

namespace DeclaredNames

/-! ## What is meant by a name -/

/-- Some declaration is of a type of this qualified name. -/
def Declared (declared : List Occurrence) (type : String) : Prop :=
  ∃ occurrence ∈ declared, occurrence.qualifiedName = type

/-- The namespace is that of the entry or one around it, and the name is declared in it. -/
def DeclaredIn (declared : List Occurrence) (scope : Option String) (name space : String) : Prop :=
  (∃ inner, scope = some inner ∧ Name.Around inner space)
    ∧ Declared declared (Name.inNamespace (some space) name)

/-- The type that is meant by a name in a namespace, if any is, after these declarations. -/
inductive RefersTo (declared : List Occurrence) (scope : Option String) (name : String) :
    Option String → Prop where
  /-- Nothing is written, and nothing is meant. -/
  | nothing (hname : name = "") : RefersTo declared scope name none
  /-- The name is declared in some namespace around, of which the innermost is meant. -/
  | inNamespace {space : String} (hname : name ≠ "") (hspace : DeclaredIn declared scope name space)
      (hinnermost : ∀ other, DeclaredIn declared scope name other → other.length ≤ space.length) :
      RefersTo declared scope name (some (Name.inNamespace (some space) name))
  /-- The name is not declared around, but as it stands. -/
  | asWritten (hname : name ≠ "") (hspaces : ∀ space, ¬ DeclaredIn declared scope name space)
      (hwritten : Declared declared name) : RefersTo declared scope name (some name)
  /-- The name is declared in neither way. Its last segment is an identifier, and the type that
  was declared first with it is meant. -/
  | identifier {before after : List Occurrence} {first : Occurrence} (hname : name ≠ "")
      (hspaces : ∀ space, ¬ DeclaredIn declared scope name space)
      (hwritten : ¬ Declared declared name) (hdeclared : declared = before ++ first :: after)
      (hfirst : Name.EndsIn name first.declaration.identifier)
      (hbefore : ∀ earlier ∈ before, ¬ Name.EndsIn name earlier.declaration.identifier) :
      RefersTo declared scope name (some first.qualifiedName)
  /-- No type is declared that could be meant. -/
  | unknown (hname : name ≠ "") (hspaces : ∀ space, ¬ DeclaredIn declared scope name space)
      (hwritten : ¬ Declared declared name)
      (hidentifiers : ∀ occurrence ∈ declared,
        ¬ Name.EndsIn name occurrence.declaration.identifier) :
      RefersTo declared scope name none

theorem RefersTo.declared {declared : List Occurrence} {scope : Option String}
    {name type : String} (h : RefersTo declared scope name (some type)) :
    Declared declared type := by
  cases h with
  | inNamespace _ hspace _ => exact hspace.2
  | asWritten _ _ hwritten => exact hwritten
  | identifier _ _ _ hdeclared _ _ =>
      exact ⟨_, hdeclared ▸ List.mem_append_right _ List.mem_cons_self, rfl⟩

/-! ## What is found for it -/

theorem find?_candidates (names : DeclaredNames) (scope : Option String) (name : String) :
    (Name.candidates scope name).find? names.declares
      = (((scope.toList.flatMap Name.enclosing).find? fun space =>
          names.declares (Name.inNamespace (some space) name)).map fun space =>
          Name.inNamespace (some space) name).or
        (if names.declares name then some name else none) := by
  rw [Name.candidates, List.find?_append, List.find?_map, List.find?_singleton]
  rfl

section

variable {names : DeclaredNames} {declared : List Occurrence}
  (hnames : names.declarations = declared.map Occurrence.known)

include hnames

theorem declares_iff_declared {type : String} :
    names.declares type = true ↔ Declared declared type := by
  rw [declares_iff, hnames]
  constructor
  · rintro ⟨declaration, hmem, hname⟩
    obtain ⟨occurrence, hoccurrence, rfl⟩ := List.mem_map.1 hmem
    exact ⟨occurrence, hoccurrence, hname⟩
  · rintro ⟨occurrence, hmem, hname⟩
    exact ⟨occurrence.known, List.mem_map_of_mem hmem, hname⟩

theorem firstNamed?_lastSegment (name : String) :
    names.firstNamed? (Name.lastSegment name)
      = (declared.find? fun occurrence =>
          Name.EndsIn name occurrence.declaration.identifier).map (·.qualifiedName) := by
  rw [firstNamed?, hnames, List.find?_map, Option.map_map]
  refine congrArg (Option.map _) (List.find?_congr fun occurrence _ => ?_)
  rw [Bool.eq_iff_iff, decide_eq_true_iff, Name.endsIn_iff, eq_comm (a := Name.lastSegment name)]
  exact beq_iff_eq (α := String)

theorem declaredIn_iff {scope : Option String} {name space : String} :
    DeclaredIn declared scope name space
      ↔ space ∈ scope.toList.flatMap Name.enclosing
        ∧ names.declares (Name.inNamespace (some space) name) = true := by
  rw [DeclaredIn, declares_iff_declared hnames, List.mem_flatMap]
  refine and_congr_left fun _ => exists_congr fun inner => ?_
  rw [Option.mem_toList, Name.mem_enclosing_iff]

/-- The namespace that is found for a name is the innermost in which it is declared. -/
theorem find?_enclosing_eq_some_iff {scope : Option String} {name space : String} :
    ((scope.toList.flatMap Name.enclosing).find? fun space =>
        names.declares (Name.inNamespace (some space) name)) = some space
      ↔ DeclaredIn declared scope name space
        ∧ ∀ other, DeclaredIn declared scope name other → other.length ≤ space.length := by
  have hdescending : (scope.toList.flatMap Name.enclosing).Pairwise
      fun a b => b.length < a.length := by
    cases scope with
    | none => exact List.Pairwise.nil
    | some inner =>
        rw [Option.toList_some, List.flatMap_singleton]
        exact Name.enclosing_descending inner
  rw [find?_eq_some_iff_of_descending hdescending, declaredIn_iff hnames, and_assoc]
  refine and_congr_right fun _ => and_congr_right fun _ => forall_congr' fun other => ?_
  rw [declaredIn_iff hnames, and_imp]

theorem find?_enclosing_eq_none_iff {scope : Option String} {name : String} :
    ((scope.toList.flatMap Name.enclosing).find? fun space =>
        names.declares (Name.inNamespace (some space) name)) = none
      ↔ ∀ space, ¬ DeclaredIn declared scope name space := by
  rw [List.find?_eq_none]
  refine forall_congr' fun space => ?_
  rw [declaredIn_iff hnames, not_and]

/-- What is found for an entry is what is meant by the name that it writes. -/
theorem refersTo_referent? (scope : Option String) (entry : String) :
    RefersTo declared scope (Name.referred entry) (names.referent? scope entry) := by
  unfold referent?
  dsimp only
  split
  next hname => exact .nothing hname
  next hname =>
    rw [find?_candidates]
    cases hfound : (scope.toList.flatMap Name.enclosing).find? fun space =>
        names.declares (Name.inNamespace (some space) (Name.referred entry)) with
    | some space =>
        obtain ⟨hspace, hinnermost⟩ := (find?_enclosing_eq_some_iff hnames).1 hfound
        exact .inNamespace hname hspace hinnermost
    | none =>
        have hspaces := (find?_enclosing_eq_none_iff hnames).1 hfound
        rw [Option.map_none, Option.none_or]
        by_cases hwritten : Declared declared (Name.referred entry)
        · rw [if_pos ((declares_iff_declared hnames).2 hwritten)]
          exact .asWritten hname hspaces hwritten
        · rw [if_neg (mt (declares_iff_declared hnames).1 hwritten), Option.none_or,
            firstNamed?_lastSegment hnames]
          cases hfirst : declared.find? fun occurrence =>
              Name.EndsIn (Name.referred entry) occurrence.declaration.identifier with
          | some first =>
              obtain ⟨hends, before, after, hdeclared, hbefore⟩ :=
                List.find?_eq_some_iff_append.1 hfirst
              exact .identifier hname hspaces hwritten hdeclared (by simpa using hends)
                (by simpa using hbefore)
          | none =>
              exact .unknown hname hspaces hwritten (by simpa using List.find?_eq_none.1 hfirst)

/-- Nothing else can be meant by the name. -/
theorem referent?_eq_of_refersTo {scope : Option String} {entry : String}
    {result : Option String} (h : RefersTo declared scope (Name.referred entry) result) :
    names.referent? scope entry = result := by
  unfold referent?
  dsimp only
  cases h with
  | nothing hname => rw [if_pos hname]
  | inNamespace hname hspace hinnermost =>
      rw [if_neg hname, find?_candidates,
        (find?_enclosing_eq_some_iff hnames).2 ⟨hspace, hinnermost⟩]
      rfl
  | asWritten hname hspaces hwritten =>
      rw [if_neg hname, find?_candidates, (find?_enclosing_eq_none_iff hnames).2 hspaces,
        if_pos ((declares_iff_declared hnames).2 hwritten)]
      rfl
  | @identifier before after first hname hspaces hwritten hdeclared hfirst hbefore =>
      have hfound : (declared.find? fun occurrence =>
          Name.EndsIn (Name.referred entry) occurrence.declaration.identifier) = some first :=
        List.find?_eq_some_iff_append.2
          ⟨by simpa using hfirst, before, after, hdeclared, by simpa using hbefore⟩
      rw [if_neg hname, find?_candidates, (find?_enclosing_eq_none_iff hnames).2 hspaces,
        if_neg (mt (declares_iff_declared hnames).1 hwritten), firstNamed?_lastSegment hnames,
        hfound]
      rfl
  | unknown hname hspaces hwritten hidentifiers =>
      have hfound : (declared.find? fun occurrence =>
          Name.EndsIn (Name.referred entry) occurrence.declaration.identifier) = none :=
        List.find?_eq_none.2 (by simpa using hidentifiers)
      rw [if_neg hname, find?_candidates, (find?_enclosing_eq_none_iff hnames).2 hspaces,
        if_neg (mt (declares_iff_declared hnames).1 hwritten), firstNamed?_lastSegment hnames,
        hfound]
      rfl

end

theorem declarations_foldl_addTree (trees : List (List Declaration)) (names : DeclaredNames) :
    (trees.foldl addTree names).declarations
      = names.declarations ++ (trees.flatMap Occurrence.all).map Occurrence.known := by
  induction trees generalizing names with
  | nil => rw [List.flatMap_nil, List.map_nil, List.append_nil]; rfl
  | cons tree rest ih =>
      rw [List.foldl_cons, ih, List.flatMap_cons, List.map_append, addTree, List.append_assoc]

/-- **What an entry refers to.** Add source trees one after the other to names without declarations,
and look up any entry in any namespace. What comes out is what is meant by the name that the entry
writes, and nothing else can come out: the type in the innermost namespace around in which the name
is declared, or else the type that is called as written, or else the one that was declared first
with the last segment for an identifier, or else nothing. If it is a type, this is declared. -/
theorem referent?_eq_iff (trees : List (List Declaration)) (given : List (String × SymbolFacts))
    (scope : Option String) (entry : String) :
    let names := trees.foldl addTree { given }
    let declared := trees.flatMap Occurrence.all
    (∀ result, names.referent? scope entry = result
        ↔ ∃ name, Name.Writes entry name ∧ RefersTo declared scope name result)
      ∧ ∀ type, names.referent? scope entry = some type → Declared declared type := by
  intro names declared
  have hnames : names.declarations = declared.map Occurrence.known :=
    declarations_foldl_addTree trees { given }
  have hmeant := refersTo_referent? hnames scope entry
  refine ⟨fun result => ⟨?_, ?_⟩, fun type htype => ?_⟩
  · rintro rfl
    exact ⟨Name.referred entry, Name.writes_iff.2 rfl, hmeant⟩
  · rintro ⟨name, hwrites, hrefers⟩
    obtain rfl := Name.writes_iff.1 hwrites
    exact referent?_eq_of_refersTo hnames hrefers
  · rw [htype] at hmeant
    exact hmeant.declared

/-- Two birds, the second one in a namespace whose last segment is empty. -/
def birds : List (List Declaration) :=
  [[{ keyword := .forClass, identifier := "Bird", ownNamespace := some "Zoo" }],
   [{ keyword := .forClass, identifier := "Bird", ownNamespace := some "Zoo." }]]

/-- The namespace with the empty segment is nearer. From elsewhere the first bird is meant. -/
theorem referent?_eq_iff_birds :
    (birds.foldl addTree {}).referent? (some "Zoo..Nests") " Bird<T>" = some "Zoo..Bird"
      ∧ Declared (birds.flatMap Occurrence.all) "Zoo..Bird"
      ∧ (birds.foldl addTree {}).referent? none "Farm.Bird" = some "Zoo.Bird"
      ∧ ∃ name, Name.Writes "Farm.Bird" name
        ∧ RefersTo (birds.flatMap Occurrence.all) none name (some "Zoo.Bird") := by
  have hnear : (birds.foldl addTree {}).referent? (some "Zoo..Nests") " Bird<T>"
      = some "Zoo..Bird" := by decide
  have hfar : (birds.foldl addTree {}).referent? none "Farm.Bird" = some "Zoo.Bird" := by decide
  refine ⟨hnear, (referent?_eq_iff birds [] (some "Zoo..Nests") " Bird<T>").2 _ hnear, hfar, ?_⟩
  exact ((referent?_eq_iff birds [] none "Farm.Bird").1 _).1 hfar

end DeclaredNames

end ClassDiagram
