import ClassDiagram.Proofs.Inheritance
import ClassDiagram.Proofs.StableOrder

/-!
# Names that agree about a type

What is inferred for a type is inferred from its own base lists and from those of the types above
it. So the names of two projects give a type the same symbol if they agree about all of these,
whatever else they know and in whatever order they came to know it
(`DeclaredNames.symbol?_eq_of_agreesAbout`).

The set of types above a type is closed under the steps that a walk takes, and on this set the two
sides know the same, so they walk the same way.
-/

namespace ClassDiagram.DeclaredNames

variable {names' names : DeclaredNames} {type : String} {known : KnownType}

/-- The same is known of the type on both sides, and what its base lists name are the same declared
types. -/
structure AgreesAt (names' names : DeclaredNames) (type : String) : Prop where
  known : names'.type? type = names.type? type
  referents : ∀ known, names.type? type = some known → ∀ entry ∈ known.bases,
    names'.referent? known.scope entry = names.referent? known.scope entry

/-- Both sides agree about the type and about every declared type above it. -/
def AgreesAbove (names' names : DeclaredNames) (type : String) : Prop :=
  ∀ above, Relation.ReflTransGen names.Extends type above → names'.AgreesAt names above

/-- Both sides have the same grounds for what they say about the type: facts that are given, or
what they agree about. -/
def AgreesAbout (names' names : DeclaredNames) (type : String) : Prop :=
  (∃ facts, names.facts? type = some facts) ∨ names'.AgreesAbove names type

/-- Declarations may be added in another order, as long as those of one qualified name, and those
of one identifier, keep theirs. -/
theorem agreesAt_of_rearranged
    (hqualified : Rearranged KnownDeclaration.qualifiedName names'.declarations names.declarations)
    (hidentifier : Rearranged KnownDeclaration.identifier names'.declarations names.declarations)
    (type : String) : names'.AgreesAt names type where
  known := by
    unfold type?
    rw [hqualified.inOrder type]
  referents := by
    intro known _ entry _
    have hdeclares : names'.declares = names.declares := by
      funext type
      rw [Bool.eq_iff_iff, declares_iff, declares_iff]
      exact exists_congr fun declaration => and_congr_left fun _ => hqualified.perm.mem_iff
    have hfirst : names'.firstNamed? = names.firstNamed? := by
      funext identifier
      unfold firstNamed?
      rw [← List.head?_filter, hidentifier.inOrder identifier, List.head?_filter]
    rw [referent?_congr hdeclares hfirst]

/-! ## One type -/

namespace AgreesAbove

theorem here (h : names'.AgreesAbove names type) : names'.AgreesAt names type :=
  h type .refl

/-- What is above a type above is above the type. -/
theorem mono (h : names'.AgreesAbove names type) {above : String}
    (habove : Relation.ReflTransGen names.Extends type above) : names'.AgreesAbove names above :=
  fun further hfurther => h further (habove.trans hfurther)

variable (h : names'.AgreesAbove names type) (hknown : names.type? type = some known)

include h hknown

theorem referent?_eq {entry : String} (hentry : entry ∈ known.bases) :
    names'.referent? known.scope entry = names.referent? known.scope entry :=
  h.here.referents known hknown entry hentry

theorem fullName_eq {entry : String} (hentry : entry ∈ known.bases) :
    names'.fullName known.scope entry = names.fullName known.scope entry := by
  unfold fullName
  rw [h.referent?_eq hknown hentry]

theorem kindOf?_eq {entry : String} (hentry : entry ∈ known.bases) :
    names'.kindOf? known.scope entry = names.kindOf? known.scope entry := by
  unfold kindOf?
  rw [h.referent?_eq hknown hentry]
  cases hreferent : names.referent? known.scope entry with
  | none => rfl
  | some target =>
      -- the target is above the type, so both sides know the same of it
      have hextends : names.Extends type target := ⟨known, hknown, entry, hentry, hreferent⟩
      have hsame := (h.mono (.single hextends)).here.known
      rw [Option.bind_some, Option.bind_some, hsame]

theorem parent?_eq : names'.parent? known = names.parent? known :=
  parent?_congr fun _ hentry => h.kindOf?_eq hknown hentry

theorem parentName_eq : names'.parentName known = names.parentName known := by
  unfold parentName
  rw [h.parent?_eq hknown]
  cases hparent : names.parent? known with
  | none => rfl
  | some entry =>
      have hentry := mem_bases_of_parent? hparent
      dsimp only
      rw [h.fullName_eq hknown hentry]

theorem leads_eq : names'.leads known = names.leads known := by
  have hinterfaces : ∀ entry ∈ known.bases.filter fun entry => some entry ≠ names.parent? known,
      Lead.mk (some (names'.fullName known.scope entry)) (names'.referent? known.scope entry)
        = ⟨some (names.fullName known.scope entry), names.referent? known.scope entry⟩ := by
    intro entry hentry
    have hmem := (List.mem_filter.1 hentry).1
    rw [h.fullName_eq hknown hmem, h.referent?_eq hknown hmem]
  unfold leads
  rw [h.parent?_eq hknown]
  dsimp only
  rw [List.map_congr_left hinterfaces]
  cases hparent : names.parent? known with
  | none => rw [Option.map_none, Option.map_none]
  | some entry =>
      have hentry := mem_bases_of_parent? hparent
      rw [Option.map_some, Option.map_some, h.referent?_eq hknown hentry]

end AgreesAbove

/-! ## The walk -/

section

variable {visited found : List String} {lead : Lead} {rest : List Lead}

theorem follow_cons_of_none (h : names.ahead? visited lead = none) :
    names.follow (lead :: rest) visited found
      = names.follow rest visited (reported found lead) := by
  rw [follow]
  split
  · rfl
  next hahead => exact absurd (h.symm.trans hahead) (by simp)

theorem follow_cons_of_some (h : names.ahead? visited lead = some (type, known)) :
    names.follow (lead :: rest) visited found
      = names.follow (names.leads known ++ rest) (type :: visited) (reported found lead) := by
  rw [follow]
  split
  next hahead => exact absurd (h.symm.trans hahead) (by simp)
  next hahead =>
    obtain ⟨rfl, rfl⟩ := Prod.mk.inj (Option.some.inj (h.symm.trans hahead))
    rfl

end

/-- A step that leads to the type or to a type above it, if to any. -/
def LeadsAbove (names : DeclaredNames) (type : String) (lead : Lead) : Prop :=
  ∀ target, lead.target = some target → Relation.ReflTransGen names.Extends type target

theorem leadsAbove_of_mem_leads {above : String}
    (habove : Relation.ReflTransGen names.Extends type above)
    (hknown : names.type? above = some known) :
    ∀ lead ∈ names.leads known, names.LeadsAbove type lead := by
  intro lead hlead target htarget
  obtain ⟨entry, hentry, hreferent⟩ := exists_entry hlead
  exact habove.tail ⟨known, hknown, entry, hentry, hreferent.trans htarget⟩

namespace AgreesAbove

variable (h : names'.AgreesAbove names type)

include h

theorem ahead?_eq {lead : Lead} (hlead : names.LeadsAbove type lead) (visited : List String) :
    names'.ahead? visited lead = names.ahead? visited lead := by
  unfold ahead?
  cases htarget : lead.target with
  | none => rfl
  | some target =>
      have hsame := (h.mono (hlead target htarget)).here.known
      dsimp only
      rw [hsame]

/-- A walk that starts with steps to the type or above it only ever takes such steps. -/
theorem follow_eq {pending : List Lead} {visited found : List String}
    (hpending : ∀ lead ∈ pending, names.LeadsAbove type lead) :
    names'.follow pending visited found = names.follow pending visited found := by
  fun_induction follow names pending visited found with
  | case1 visited found => rw [follow]
  | case2 visited found lead rest hahead ih =>
      obtain ⟨hlead, hrest⟩ := List.forall_mem_cons.1 hpending
      have hahead' := (h.ahead?_eq hlead visited).trans hahead
      rw [follow_cons_of_none hahead', ih hrest]
  | case3 visited found lead rest next known hahead ih =>
      obtain ⟨hlead, hrest⟩ := List.forall_mem_cons.1 hpending
      obtain ⟨htarget, _, hknown⟩ := ahead?_eq_some hahead
      have hahead' := (h.ahead?_eq hlead visited).trans hahead
      have hnext := hlead next htarget
      rw [follow_cons_of_some hahead', (h.mono hnext).leads_eq hknown]
      -- the steps that open up behind this one lead above the type as well
      refine ih fun step hstep => ?_
      rcases List.mem_append.1 hstep with hstep | hstep
      · exact leadsAbove_of_mem_leads hnext hknown step hstep
      · exact hrest step hstep

end AgreesAbove

/-- **Where two sides agree, they infer the same.** -/
theorem symbol?_eq_of_agreesAbout (h : names'.AgreesAbout names type)
    (hfacts : names'.facts? type = names.facts? type) :
    names'.symbol? type = names.symbol? type := by
  unfold symbol?
  rw [hfacts]
  rcases h with ⟨facts, hgiven⟩ | h
  · rw [hgiven]
  · rw [h.here.known]
    cases hknown : names.type? type with
    | none => rw [Option.map_none, Option.map_none]
    | some known =>
        have hinterfaces : names'.interfacesAbove type known
            = names.interfacesAbove type known := by
          unfold interfacesAbove
          rw [h.leads_eq hknown, h.follow_eq (leadsAbove_of_mem_leads .refl hknown)]
        rw [Option.map_some, Option.map_some, h.parentName_eq hknown, hinterfaces]

end ClassDiagram.DeclaredNames
