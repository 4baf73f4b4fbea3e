import ClassDiagram.Proofs.Inheritance
import Mathlib.Data.List.Forall2

/-!
# The order of base lists

Which entry of a base list names the base type is guessed, and a guess may depend on the order of
the entries: if none refers to a declared class, the first one is taken for the base type unless it
looks like an interface. As soon as exactly one entry refers to a declared class there is nothing
to guess, and the order does not matter (`DeclaredNames.symbol?_of_basesReordered`), neither for
the base type nor for the interfaces.

The walk up from the type does go another way, and it finds the interfaces in another order. But
what can be reached is a matter of which entries there are, so it finds the same ones.
-/

namespace ClassDiagram

/-- The declaration without what it names as bases. -/
def KnownDeclaration.head (declaration : KnownDeclaration) : KnownDeclaration :=
  { declaration with bases := [] }

namespace DeclaredNames

/-- The same names, except that the bases of one type are in another order. If the type has several
declarations, they may also be spread over them in another way. -/
structure BasesReordered (type : String) (names' names : DeclaredNames) : Prop where
  given : names'.given = names.given
  /-- Declaration by declaration, nothing differs but what is named as bases of the type. -/
  declarations : List.Forall₂
    (fun declaration' declaration => declaration'.head = declaration.head
      ∧ (declaration.qualifiedName ≠ type → declaration' = declaration))
    names'.declarations names.declarations
  /-- Put together, the declarations of the type name the same bases. -/
  bases : ∀ known' known, names'.type? type = some known' → names.type? type = some known →
    known'.bases.Perm known.bases

theorem nodup_bases {names : DeclaredNames} {type : String} {known : KnownType}
    (h : names.type? type = some known) : known.bases.Nodup := by
  rw [type?] at h
  obtain ⟨first, _, rfl⟩ := Option.map_eq_some_iff.1 h
  exact Name.nodup_distinct _

/-- The bases of a type are those that its declarations name. -/
theorem mem_bases_iff {names : DeclaredNames} {type entry : String} {known : KnownType}
    (h : names.type? type = some known) :
    entry ∈ known.bases
      ↔ ∃ declaration ∈ names.declarations, declaration.qualifiedName = type
        ∧ entry ∈ declaration.bases := by
  rw [type?] at h
  obtain ⟨first, _, rfl⟩ := Option.map_eq_some_iff.1 h
  dsimp only
  rw [Name.mem_distinct, List.mem_flatMap]
  refine exists_congr fun declaration => ?_
  rw [List.mem_filter, beq_iff_eq, and_assoc]

/-- Reordering the bases of one declaration is such a change. -/
theorem basesReordered_of_perm {names : DeclaredNames} {front back : List KnownDeclaration}
    {declaration : KnownDeclaration} {bases : List String}
    (hdeclarations : names.declarations = front ++ declaration :: back)
    (hperm : bases.Perm declaration.bases) :
    BasesReordered declaration.qualifiedName
      { names with declarations := front ++ { declaration with bases } :: back } names where
  given := rfl
  declarations := by
    rw [hdeclarations]
    have hrefl : ∀ declarations : List KnownDeclaration, List.Forall₂
        (fun declaration₁ declaration₂ => declaration₁.head = declaration₂.head
          ∧ (declaration₂.qualifiedName ≠ declaration.qualifiedName → declaration₁ = declaration₂))
        declarations declarations :=
      fun declarations => List.forall₂_same.2 fun _ _ => ⟨rfl, fun _ => rfl⟩
    exact List.rel_append (hrefl front) (.cons ⟨rfl, fun h => absurd rfl h⟩ (hrefl back))
  bases := by
    intro known' known hknown' hknown
    refine (List.perm_ext_iff_of_nodup (nodup_bases hknown') (nodup_bases hknown)).2 fun entry => ?_
    rw [mem_bases_iff hknown', mem_bases_iff hknown, hdeclarations]
    simp [hperm.mem_iff, or_and_right, exists_or]

namespace BasesReordered

variable {type : String} {names' names : DeclaredNames} (h : BasesReordered type names' names)

include h

/-! ## What does not depend on bases -/

theorem map_head :
    names'.declarations.map KnownDeclaration.head
      = names.declarations.map KnownDeclaration.head := by
  rw [← List.forall₂_eq_eq_eq, List.forall₂_map_left_iff, List.forall₂_map_right_iff]
  exact h.declarations.imp fun _ _ hsame => hsame.1

/-- What is looked up without regard to bases is found with the same head. -/
theorem map_find?_eq {α : Type} {p : KnownDeclaration → Bool} {f : KnownDeclaration → α}
    (hp : ∀ declaration, p declaration.head = p declaration)
    (hf : ∀ declaration, f declaration.head = f declaration) :
    (names'.declarations.find? p).map f = (names.declarations.find? p).map f := by
  have hhead : ∀ declarations : List KnownDeclaration,
      (declarations.find? p).map f
        = ((declarations.map KnownDeclaration.head).find? p).map f := by
    intro declarations
    have hp' : p ∘ KnownDeclaration.head = p := funext hp
    have hf' : f ∘ KnownDeclaration.head = f := funext hf
    rw [List.find?_map, Option.map_map, hp', hf']
  rw [hhead, h.map_head, ← hhead]

theorem firstNamed?_eq : names'.firstNamed? = names.firstNamed? :=
  funext fun _ => h.map_find?_eq (fun _ => rfl) (fun _ => rfl)

theorem kind_scope_eq (other : String) :
    (names'.type? other).map (fun known => (known.kind, known.scope))
      = (names.type? other).map fun known => (known.kind, known.scope) := by
  have hfirst := h.map_find?_eq (p := (·.qualifiedName == other))
    (f := fun first => (first.kind, first.scope)) (fun _ => rfl) (fun _ => rfl)
  rw [type?, type?, List.head?_filter, List.head?_filter, Option.map_map, Option.map_map]
  exact hfirst

theorem type?_of_ne {other : String} (hne : other ≠ type) :
    names'.type? other = names.type? other := by
  have hfilter : names'.declarations.filter (·.qualifiedName == other)
      = names.declarations.filter (·.qualifiedName == other) := by
    have hsame := h.declarations
    generalize names'.declarations = declarations', names.declarations = declarations at hsame ⊢
    induction hsame with
    | nil => rfl
    | @cons declaration' declaration _ _ hsame _ ih =>
        have hname : declaration'.head.qualifiedName = declaration.head.qualifiedName := by
          rw [hsame.1]
        dsimp only [KnownDeclaration.head] at hname
        rw [List.filter_cons, List.filter_cons, ih, hname]
        split
        next hother => rw [hsame.2 (beq_iff_eq.1 hother ▸ hne)]
        next => rfl
  rw [type?, type?, hfilter]

/-- What is known of a type is the same, except for the order of its bases if it is the one. -/
theorem type?_cases (other : String) :
    (names'.type? other = none ∧ names.type? other = none)
      ∨ ∃ known bases, names.type? other = some known
        ∧ names'.type? other = some { known with bases } ∧ bases.Perm known.bases
        ∧ (other ≠ type → bases = known.bases) := by
  have hsame := h.kind_scope_eq other
  cases hknown : names.type? other with
  | none =>
      rw [hknown, Option.map_none, Option.map_eq_none_iff] at hsame
      exact .inl ⟨hsame, rfl⟩
  | some known =>
      rw [hknown, Option.map_some, Option.map_eq_some_iff] at hsame
      obtain ⟨known', hknown', heq⟩ := hsame
      obtain ⟨hkind, hscope⟩ := Prod.mk.inj heq
      refine .inr ⟨known, known'.bases, rfl, ?_, ?_, ?_⟩
      · rw [hknown', ← hkind, ← hscope]
      · by_cases hother : other = type
        · rw [hother] at hknown hknown'
          exact h.bases known' known hknown' hknown
        · rw [h.type?_of_ne hother, hknown] at hknown'
          rw [Option.some.inj hknown']
      · intro hother
        rw [h.type?_of_ne hother, hknown] at hknown'
        rw [Option.some.inj hknown']

theorem declares_eq : names'.declares = names.declares := by
  funext other
  rw [declares_eq_isSome, declares_eq_isSome]
  rcases h.type?_cases other with ⟨hnone', hnone⟩ | ⟨known, bases, hknown, hknown', -, -⟩
  · rw [hnone', hnone]
  · rw [hknown', hknown]
    rfl

theorem referent?_eq : names'.referent? = names.referent? :=
  referent?_congr h.declares_eq h.firstNamed?_eq

theorem fullName_eq : names'.fullName = names.fullName := by
  funext scope entry
  unfold fullName
  rw [h.referent?_eq]

theorem kindOf?_eq : names'.kindOf? = names.kindOf? := by
  funext scope entry
  unfold kindOf?
  rw [h.referent?_eq, Option.map_bind, Option.map_bind]
  refine congrArg _ (funext fun target => ?_)
  rcases h.type?_cases target with ⟨hnone', hnone⟩ | ⟨known, bases, hknown, hknown', -, -⟩
  · rw [Function.comp_apply, Function.comp_apply, hnone', hnone]
  · rw [Function.comp_apply, Function.comp_apply, hknown', hknown]
    rfl

/-- The same is guessed from the same base list. -/
theorem parent?_eq : names'.parent? = names.parent? :=
  funext fun _ => parent?_congr fun _ _ => by rw [h.kindOf?_eq]

end BasesReordered

/-! ## Types with one declared base -/

/-- The type is no interface, and of its entries exactly this one refers to a declared class or
record. -/
def HasOneBase (names : DeclaredNames) (known : KnownType) (entry : String) : Prop :=
  known.kind ≠ .interface ∧ known.bases.filter (names.isDeclaredBase known.scope) = [entry]

theorem HasOneBase.parent?_eq {names : DeclaredNames} {known : KnownType} {entry : String}
    (h : names.HasOneBase known entry) : names.parent? known = some entry := by
  unfold parent?
  rw [if_neg h.1, ← List.head?_filter, h.2]
  rfl

theorem HasOneBase.perm {names : DeclaredNames} {known : KnownType} {entry : String}
    (h : names.HasOneBase known entry) {bases : List String} (hbases : bases.Perm known.bases) :
    names.HasOneBase { known with bases } entry := by
  have hfilter := hbases.filter (names.isDeclaredBase known.scope)
  rw [h.2, List.perm_singleton] at hfilter
  exact ⟨h.1, hfilter⟩

namespace BasesReordered

variable {type : String} {names' names : DeclaredNames} (h : BasesReordered type names' names)

include h

/-- The steps up from types are the same. -/
theorem extends_eq : names'.Extends = names.Extends := by
  funext below above
  rw [eq_iff_iff, Extends, Extends, h.referent?_eq]
  rcases h.type?_cases below with ⟨hnone', hnone⟩ | ⟨known, bases, hknown, hknown', hperm, -⟩
  · rw [hnone', hnone]
  · rw [hknown', hknown]
    simp only [Option.some.injEq, exists_eq_left', hperm.mem_iff]

variable {known : KnownType} {entry : String} (hknown : names.type? type = some known)
  (hone : names.HasOneBase known entry)

include hknown hone

/-- The interfaces of every type are the same, because the base entry is. -/
theorem implements_eq : names'.Implements = names.Implements := by
  funext above name
  rw [eq_iff_iff, Implements, Implements, h.fullName_eq, h.parent?_eq]
  rcases h.type?_cases above with ⟨hnone', hnone⟩ | ⟨known₁, bases, hknown₁, hknown', hperm, hsame⟩
  · rw [hnone', hnone]
  · have hparent : names.parent? { known₁ with bases } = names.parent? known₁ := by
      by_cases habove : above = type
      · rw [habove, hknown] at hknown₁
        obtain rfl := Option.some.inj hknown₁
        rw [hone.parent?_eq, (hone.perm hperm).parent?_eq]
      · rw [hsame habove]
    rw [hknown', hknown₁]
    simp only [Option.some.injEq, exists_eq_left', hperm.mem_iff, hparent]

end BasesReordered

/-- **The order of base lists does not matter** for a type of which exactly one entry refers to a
declared class or record, if no facts are given for it and it is no interface. Whatever order its
bases are in, its symbol has this entry for its base and lists the same interfaces. -/
theorem symbol?_of_basesReordered {names' names : DeclaredNames} {type entry : String}
    {known : KnownType} (hreordered : BasesReordered type names' names)
    (hknown : names.type? type = some known) (hfree : names.facts? type = none)
    (hone : names.HasOneBase known entry) :
    ∃ symbol' symbol, names'.symbol? type = some symbol' ∧ names.symbol? type = some symbol
      ∧ symbol.base = some (names.fullName known.scope entry) ∧ symbol'.base = symbol.base
      ∧ symbol'.interfaces.Perm symbol.interfaces := by
  have hfree' : names'.facts? type = none := by
    rwa [facts?, hreordered.given]
  obtain ⟨bases, hknown', hperm⟩ :
      ∃ bases, names'.type? type = some { known with bases } ∧ bases.Perm known.bases := by
    rcases hreordered.type?_cases type with ⟨-, hnone⟩ | ⟨known₁, bases, hknown₁, hknown', hperm, -⟩
    · exact absurd (hknown.symm.trans hnone) (by simp)
    · rw [hknown] at hknown₁
      obtain rfl := Option.some.inj hknown₁
      exact ⟨bases, hknown', hperm⟩
  refine ⟨_, _, symbol?_of_free hknown' hfree', symbol?_of_free hknown hfree, ?_, ?_, ?_⟩
  · dsimp only
    rw [parentName, hone.parent?_eq]
  · dsimp only
    rw [parentName, parentName, hreordered.parent?_eq, hone.parent?_eq,
      (hone.perm hperm).parent?_eq]
    dsimp only
    rw [hreordered.fullName_eq]
  · -- the two walks differ, but both find the interfaces of the types that can be reached
    have hsame : ∀ name, name ∈ names'.interfacesAbove type { known with bases }
        ↔ name ∈ names.interfacesAbove type known := by
      intro name
      rw [mem_interfacesAbove_iff hknown', mem_interfacesAbove_iff hknown, hreordered.extends_eq,
        hreordered.implements_eq hknown hone]
    exact (List.perm_ext_iff_of_nodup (nodup_follow List.nodup_nil)
      (nodup_follow List.nodup_nil)).2 hsame

/-- A class, its base class and an interface. What is above the class leads back to it. -/
def litter (bases : List String) : DeclaredNames :=
  addTree {}
    [{ keyword := .forInterface, identifier := "IPet", ownNamespace := some "Zoo",
       bases := ["IThing"] },
     { keyword := .forClass, identifier := "Animal", ownNamespace := some "Zoo",
       bases := ["IPet", "Dog"] },
     { keyword := .forClass, identifier := "Dog", ownNamespace := some "Zoo", bases }]

theorem declarations_litter (bases : List String) :
    (litter bases).declarations
      = [⟨"Zoo.IPet", "IPet", .interface, some "Zoo", ["IThing"]⟩,
          ⟨"Zoo.Animal", "Animal", .plainClass, some "Zoo", ["IPet", "Dog"]⟩]
        ++ ⟨"Zoo.Dog", "Dog", .plainClass, some "Zoo", bases⟩ :: [] :=
  rfl

/-- The base class stands behind a name that is declared nowhere, or in front of it. -/
theorem symbol?_of_basesReordered_litter :
    BasesReordered "Zoo.Dog" (litter ["IFurry", "Animal<T>", "IPet", "Walker"])
        (litter ["Walker", "IPet", "Animal<T>", "IFurry"])
      ∧ (litter ["Walker", "IPet", "Animal<T>", "IFurry"]).type? "Zoo.Dog"
        = some ⟨.plainClass, some "Zoo", ["Walker", "IPet", "Animal<T>", "IFurry"]⟩
      ∧ (litter ["Walker", "IPet", "Animal<T>", "IFurry"]).facts? "Zoo.Dog" = none
      ∧ (litter ["Walker", "IPet", "Animal<T>", "IFurry"]).HasOneBase
          ⟨.plainClass, some "Zoo", ["Walker", "IPet", "Animal<T>", "IFurry"]⟩ "Animal<T>"
      ∧ ∃ symbol' symbol,
        (litter ["IFurry", "Animal<T>", "IPet", "Walker"]).symbol? "Zoo.Dog" = some symbol'
          ∧ (litter ["Walker", "IPet", "Animal<T>", "IFurry"]).symbol? "Zoo.Dog" = some symbol
          ∧ symbol.base = some "Zoo.Animal<T>" ∧ symbol'.base = symbol.base
          ∧ symbol'.interfaces.Perm symbol.interfaces := by
  have hreordered : BasesReordered "Zoo.Dog" (litter ["IFurry", "Animal<T>", "IPet", "Walker"])
      (litter ["Walker", "IPet", "Animal<T>", "IFurry"]) :=
    basesReordered_of_perm (declarations_litter _) (by decide)
  have hknown : (litter ["Walker", "IPet", "Animal<T>", "IFurry"]).type? "Zoo.Dog"
      = some ⟨.plainClass, some "Zoo", ["Walker", "IPet", "Animal<T>", "IFurry"]⟩ := rfl
  have hfree : (litter ["Walker", "IPet", "Animal<T>", "IFurry"]).facts? "Zoo.Dog" = none := rfl
  have hone : (litter ["Walker", "IPet", "Animal<T>", "IFurry"]).HasOneBase
      ⟨.plainClass, some "Zoo", ["Walker", "IPet", "Animal<T>", "IFurry"]⟩ "Animal<T>" :=
    ⟨by decide, by decide⟩
  obtain ⟨symbol', symbol, hsymbol', hsymbol, hbase, hsame, hperm⟩ :=
    symbol?_of_basesReordered hreordered hknown hfree hone
  have hname : (litter ["Walker", "IPet", "Animal<T>", "IFurry"]).fullName (some "Zoo") "Animal<T>"
      = "Zoo.Animal<T>" := by decide
  rw [hname] at hbase
  exact ⟨hreordered, hknown, hfree, hone, symbol', symbol, hsymbol', hsymbol, hbase, hsame, hperm⟩

end DeclaredNames

end ClassDiagram
