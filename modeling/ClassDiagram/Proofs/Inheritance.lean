import ClassDiagram.DeclaredNames
import ClassDiagram.Proofs.DistinctNames
import Mathlib.Data.List.Find
import Mathlib.Logic.Relation

/-!
# The interfaces that a type inherits

`DeclaredNames.follow` walks up from a type through base lists and cuts itself short at every
type that it has been to. This file shows that it loses nothing by that, on any graph of
declarations: a name is found if and only if some type that can be reached has it among its
interfaces.

Two facts make up the proof. The walk stays inside every set that is closed under the steps it
may take (`follow_sound`). And when it is over, the types it has been to are closed themselves
(`follow_covers`): while it runs, every step up from one of them has been taken or is pending.

So a type has every interface that a type above it has, as far as those are inferred
(`interfaces_mono`). Facts given for a type above are not looked at on the way up.
-/

namespace ClassDiagram.DeclaredNames

variable {names : DeclaredNames}

/-! ## References lead to declared types -/

theorem declares_iff {type : String} :
    names.declares type = true
      ↔ ∃ declaration ∈ names.declarations, declaration.qualifiedName = type := by
  rw [declares, List.any_eq_true]
  exact exists_congr fun declaration => and_congr_right fun _ => beq_iff_eq

/-- A type is declared if anything is known of it. -/
theorem declares_eq_isSome (names : DeclaredNames) (type : String) :
    names.declares type = (names.type? type).isSome := by
  unfold declares type?
  rw [Option.isSome_map, List.head?_filter, Bool.eq_iff_iff, List.any_eq_true, List.find?_isSome]

theorem exists_type?_of_declares {type : String} (h : names.declares type = true) :
    ∃ known, names.type? type = some known := by
  rwa [declares_eq_isSome, Option.isSome_iff_exists] at h

/-- Whatever an entry refers to is declared. -/
theorem declares_of_referent? {scope : Option String} {entry type : String}
    (h : names.referent? scope entry = some type) : names.declares type = true := by
  unfold referent? at h
  dsimp only at h
  split at h
  · exact absurd h (by simp)
  · rcases Option.or_eq_some_iff.1 h with hfound | ⟨_, hnamed⟩
    · exact List.find?_some hfound
    · obtain ⟨declaration, hfind, hname⟩ := Option.map_eq_some_iff.1 hnamed
      exact declares_iff.2 ⟨declaration, List.mem_of_find?_eq_some hfind, hname⟩

/-- What is declared and what is declared first decide all references. -/
theorem referent?_congr {names' : DeclaredNames} (hdeclares : names'.declares = names.declares)
    (hfirst : names'.firstNamed? = names.firstNamed?) : names'.referent? = names.referent? := by
  funext scope entry
  unfold referent?
  rw [hdeclares, hfirst]

/-! ## The steps up from a type -/

theorem mem_bases_of_parent? {type : KnownType} {entry : String}
    (h : names.parent? type = some entry) : entry ∈ type.bases := by
  unfold parent? at h
  split at h
  · exact absurd h (by simp)
  · rcases Option.or_eq_some_iff.1 h with hfound | ⟨_, hfirst⟩
    · exact List.mem_of_find?_eq_some hfound
    · exact List.mem_of_mem_head? (Option.filter_eq_some_iff.1 hfirst).1

/-- The base entry is chosen by the kinds of what the entries refer to. -/
theorem parent?_congr {names' : DeclaredNames} {type : KnownType}
    (h : ∀ entry ∈ type.bases, names'.kindOf? type.scope entry = names.kindOf? type.scope entry) :
    names'.parent? type = names.parent? type := by
  have hdeclaredBase : ∀ entry ∈ type.bases,
      names'.isDeclaredBase type.scope entry = names.isDeclaredBase type.scope entry := by
    intro entry hentry
    unfold isDeclaredBase
    rw [h entry hentry]
  have hinterface : ∀ entry ∈ type.bases,
      names'.isInterface type.scope entry = names.isInterface type.scope entry := by
    intro entry hentry
    unfold isInterface
    rw [h entry hentry]
  have hfirst : (type.bases.head?.filter fun entry => !names'.isInterface type.scope entry)
      = type.bases.head?.filter fun entry => !names.isInterface type.scope entry := by
    cases hhead : type.bases.head? with
    | none => rw [Option.filter_none, Option.filter_none]
    | some entry =>
        rw [Option.filter_some, Option.filter_some, hinterface entry (List.mem_of_mem_head? hhead)]
  unfold parent?
  rw [List.find?_congr hdeclaredBase, hfirst]

theorem mem_leads {type : KnownType} {lead : Lead} :
    lead ∈ names.leads type
      ↔ (∃ entry ∈ type.bases, some entry ≠ names.parent? type
          ∧ lead = ⟨some (names.fullName type.scope entry), names.referent? type.scope entry⟩)
        ∨ ∃ entry, names.parent? type = some entry
          ∧ lead = ⟨none, names.referent? type.scope entry⟩ := by
  unfold leads
  rw [List.mem_append, List.mem_map, Option.mem_toList, Option.map_eq_some_iff]
  refine or_congr (exists_congr fun entry => ?_) (exists_congr fun entry => ?_)
  · rw [List.mem_filter, decide_eq_true_iff, and_assoc]
    exact and_congr_right fun _ => and_congr_right fun _ => eq_comm
  · exact and_congr_right fun _ => eq_comm

/-- The step up to an interface. -/
theorem interface_mem_leads {type : KnownType} {entry : String} (h : entry ∈ type.bases)
    (hne : some entry ≠ names.parent? type) :
    ⟨some (names.fullName type.scope entry), names.referent? type.scope entry⟩
      ∈ names.leads type :=
  mem_leads.2 (.inl ⟨entry, h, hne, rfl⟩)

/-- The step up to the base type. -/
theorem parent_mem_leads {type : KnownType} {entry : String}
    (h : names.parent? type = some entry) :
    ⟨none, names.referent? type.scope entry⟩ ∈ names.leads type :=
  mem_leads.2 (.inr ⟨entry, h, rfl⟩)

/-- Every entry of the base lists is a step up, whether it is reported or not. -/
theorem exists_lead {type : KnownType} {entry : String} (h : entry ∈ type.bases) :
    ∃ lead ∈ names.leads type, lead.target = names.referent? type.scope entry := by
  by_cases hparent : some entry = names.parent? type
  · exact ⟨_, parent_mem_leads hparent.symm, by dsimp only⟩
  · exact ⟨_, interface_mem_leads h hparent, by dsimp only⟩

/-- Every step up comes from an entry of the base lists. -/
theorem exists_entry {type : KnownType} {lead : Lead} (h : lead ∈ names.leads type) :
    ∃ entry ∈ type.bases, names.referent? type.scope entry = lead.target := by
  rcases mem_leads.1 h with ⟨entry, hentry, _, heq⟩ | ⟨entry, hparent, heq⟩
  · exact ⟨entry, hentry, by rw [heq]⟩
  · exact ⟨entry, mem_bases_of_parent? hparent, by rw [heq]⟩

theorem exists_report_iff {type : KnownType} {name : String} :
    (∃ lead ∈ names.leads type, lead.report = some name)
      ↔ ∃ entry ∈ type.bases, some entry ≠ names.parent? type
        ∧ names.fullName type.scope entry = name := by
  constructor
  · rintro ⟨lead, hlead, hreport⟩
    rcases mem_leads.1 hlead with ⟨entry, hentry, hne, heq⟩ | ⟨entry, _, heq⟩
    · rw [heq] at hreport
      exact ⟨entry, hentry, hne, Option.some.inj hreport⟩
    · rw [heq] at hreport
      exact absurd hreport (by simp)
  · rintro ⟨entry, hentry, hne, rfl⟩
    exact ⟨_, interface_mem_leads hentry hne, by dsimp only⟩

/-! ## The walk stays inside every closed set -/

theorem mem_reported {found : List String} {lead : Lead} {name : String} :
    name ∈ reported found lead ↔ name ∈ found ∨ lead.report = some name := by
  unfold reported
  cases lead.report with
  | none => simp
  | some report =>
      rw [Name.mem_addNew, Option.some.injEq]
      exact or_congr_right eq_comm

/-- A step that reports a name of `P`, if any, and leads to a type of `Q`, if to any. -/
def Within (P Q : String → Prop) (lead : Lead) : Prop :=
  (∀ name, lead.report = some name → P name) ∧ ∀ type, lead.target = some type → Q type

theorem follow_sound {P Q : String → Prop}
    (hclosed : ∀ type known, Q type → names.type? type = some known →
      ∀ lead ∈ names.leads known, Within P Q lead)
    {pending : List Lead} {visited found : List String}
    (hpending : ∀ lead ∈ pending, Within P Q lead) (hfound : ∀ name ∈ found, P name) :
    ∀ name ∈ names.follow pending visited found, P name := by
  fun_induction follow names pending visited found with
  | case1 visited found => exact hfound
  | case2 visited found lead rest _ ih =>
      obtain ⟨hlead, hrest⟩ := List.forall_mem_cons.1 hpending
      refine ih hrest fun name hname => ?_
      exact (mem_reported.1 hname).elim (hfound name) (hlead.1 name)
  | case3 visited found lead rest type known hahead ih =>
      obtain ⟨hlead, hrest⟩ := List.forall_mem_cons.1 hpending
      obtain ⟨htarget, _, hknown⟩ := ahead?_eq_some hahead
      refine ih (fun next hnext => ?_) fun name hname => ?_
      · -- the steps behind this one are within bounds because the type it leads to is
        rcases List.mem_append.1 hnext with hnext | hnext
        · exact hclosed type known (hlead.2 type htarget) hknown next hnext
        · exact hrest next hnext
      · exact (mem_reported.1 hname).elim (hfound name) (hlead.1 name)

/-! ## The walk leaves nothing out -/

/-- A step that is taken: what it reports is found, and the type it leads to, if there is such
a type, is one that the walk has been to. -/
def Taken (names : DeclaredNames) (visited found : List String) (lead : Lead) : Prop :=
  (∀ name, lead.report = some name → name ∈ found)
    ∧ ∀ type known, lead.target = some type → names.type? type = some known → type ∈ visited

theorem Taken.mono {visited visited' found found' : List String} {lead : Lead}
    (h : names.Taken visited found lead) (hvisited : ∀ type ∈ visited, type ∈ visited')
    (hfound : ∀ name ∈ found, name ∈ found') : names.Taken visited' found' lead :=
  ⟨fun name hname => hfound name (h.1 name hname),
    fun type known htype hknown => hvisited type (h.2 type known htype hknown)⟩

/-- Every step up from a type that the walk has been to is taken or pending. -/
def Covers (names : DeclaredNames) (pending : List Lead) (visited found : List String) : Prop :=
  ∀ type ∈ visited, ∀ known, names.type? type = some known →
    ∀ lead ∈ names.leads known, lead ∈ pending ∨ names.Taken visited found lead

/-- A step that leads to nothing new is taken once its report is written down. -/
theorem taken_of_ahead?_eq_none {visited found : List String} {lead : Lead}
    (h : names.ahead? visited lead = none) :
    names.Taken visited (reported found lead) lead := by
  refine ⟨fun name hname => mem_reported.2 (.inr hname), fun type known htype hknown => ?_⟩
  by_contra hfresh
  simp [ahead?, htype, hfresh, hknown] at h

/-- **The invariant of the walk.** When it is over, the types it has been to are closed under
all steps up from them. -/
theorem follow_covers {pending : List Lead} {visited found : List String}
    (h : names.Covers pending visited found) :
    ∃ visited', (∀ type ∈ visited, type ∈ visited')
      ∧ names.Covers [] visited' (names.follow pending visited found) := by
  fun_induction follow names pending visited found with
  | case1 visited found => exact ⟨visited, fun _ => id, h⟩
  | case2 visited found lead rest hahead ih =>
      refine ih fun type htype known hknown next hnext => ?_
      rcases h type htype known hknown next hnext with hpending | htaken
      · rcases List.mem_cons.1 hpending with rfl | hrest
        · exact .inr (taken_of_ahead?_eq_none hahead)
        · exact .inl hrest
      · exact .inr (htaken.mono (fun _ => id) fun _ hname => mem_reported.2 (.inl hname))
  | case3 visited found lead rest type known hahead ih =>
      obtain ⟨htarget, _, hknown⟩ := ahead?_eq_some hahead
      have hcovers : names.Covers (names.leads known ++ rest) (type :: visited)
          (reported found lead) := by
        intro other hother known' hknown' next hnext
        rcases List.mem_cons.1 hother with rfl | hother
        · -- the type just reached: all steps up from it are pending now
          rw [hknown] at hknown'
          obtain rfl := Option.some.inj hknown'
          exact .inl (List.mem_append_left _ hnext)
        · rcases h other hother known' hknown' next hnext with hpending | htaken
          · rcases List.mem_cons.1 hpending with rfl | hrest
            · refine .inr ⟨fun name hname => mem_reported.2 (.inr hname), ?_⟩
              intro target _ hto _
              rw [htarget] at hto
              exact Option.some.inj hto ▸ List.mem_cons_self
            · exact .inl (List.mem_append_right _ hrest)
          · exact .inr (htaken.mono (fun _ => List.mem_cons_of_mem _)
              fun _ hname => mem_reported.2 (.inl hname))
      obtain ⟨visited', hsub, hdone⟩ := ih hcovers
      exact ⟨visited', fun other hother => hsub other (List.mem_cons_of_mem _ hother), hdone⟩

theorem nodup_follow {pending : List Lead} {visited found : List String} (h : found.Nodup) :
    (names.follow pending visited found).Nodup := by
  have hreported : ∀ {found : List String} {lead : Lead}, found.Nodup →
      (reported found lead).Nodup := by
    intro found lead hfound
    unfold reported
    split
    · exact Name.nodup_addNew hfound _
    · exact hfound
  fun_induction follow names pending visited found with
  | case1 visited found => exact h
  | case2 visited found lead rest _ ih => exact ih (hreported h)
  | case3 visited found lead rest type known _ ih => exact ih (hreported h)

/-! ## Inherited interfaces -/

/-- The first type has an entry in its base lists that refers to the second. -/
def Extends (names : DeclaredNames) (type above : String) : Prop :=
  ∃ known, names.type? type = some known
    ∧ ∃ entry ∈ known.bases, names.referent? known.scope entry = some above

/-- The type has an entry of this full name in its base lists, and it is not the entry of its
base type. -/
def Implements (names : DeclaredNames) (type name : String) : Prop :=
  ∃ known, names.type? type = some known
    ∧ ∃ entry ∈ known.bases, some entry ≠ names.parent? known
      ∧ names.fullName known.scope entry = name

/-- What is found is the interface of a type that can be reached. -/
theorem implements_of_mem_interfacesAbove {type : String} {known : KnownType}
    (hknown : names.type? type = some known) {name : String}
    (h : name ∈ names.interfacesAbove type known) :
    ∃ above, Relation.ReflTransGen names.Extends type above ∧ names.Implements above name := by
  have hwithin : ∀ above known, Relation.ReflTransGen names.Extends type above →
      names.type? above = some known → ∀ lead ∈ names.leads known,
        Within (fun name => ∃ above, Relation.ReflTransGen names.Extends type above
            ∧ names.Implements above name)
          (Relation.ReflTransGen names.Extends type) lead := by
    intro above known habove hknown lead hlead
    refine ⟨fun name hname => ⟨above, habove, known, hknown, ?_⟩, fun target htarget => ?_⟩
    · exact exists_report_iff.1 ⟨lead, hlead, hname⟩
    · obtain ⟨entry, hentry, hreferent⟩ := exists_entry hlead
      exact habove.tail ⟨known, hknown, entry, hentry, hreferent.trans htarget⟩
  exact follow_sound hwithin (hwithin type known .refl hknown) (fun _ hname =>
    absurd hname List.not_mem_nil) name h

/-- When the walk is over, every step up from a type that it has been to is taken. -/
theorem taken_of_covers {visited found : List String} (h : names.Covers [] visited found)
    {type : String} (htype : type ∈ visited) {known : KnownType}
    (hknown : names.type? type = some known) {lead : Lead} (hlead : lead ∈ names.leads known) :
    names.Taken visited found lead :=
  (h type htype known hknown lead hlead).resolve_left List.not_mem_nil

/-- When the walk is over, it has been to every type that can be reached. -/
theorem mem_visited_of_covers {visited found : List String}
    (h : names.Covers [] visited found) {type above : String} (htype : type ∈ visited)
    (habove : Relation.ReflTransGen names.Extends type above) : above ∈ visited := by
  induction habove with
  | refl => exact htype
  | tail _ hstep ih =>
      obtain ⟨known, hknown, entry, hentry, hreferent⟩ := hstep
      obtain ⟨lead, hlead, htarget⟩ := exists_lead hentry
      obtain ⟨next, hnext⟩ := exists_type?_of_declares (declares_of_referent? hreferent)
      exact (taken_of_covers h ih hknown hlead).2 _ next (htarget.trans hreferent) hnext

/-- The interfaces of every type that can be reached are found. -/
theorem mem_interfacesAbove_of_implements {type : String} {known : KnownType}
    (hknown : names.type? type = some known) {above name : String}
    (habove : Relation.ReflTransGen names.Extends type above)
    (hname : names.Implements above name) : name ∈ names.interfacesAbove type known := by
  have hstart : names.Covers (names.leads known) [type] [] := by
    intro other hother known' hknown' lead hlead
    rw [List.mem_singleton.1 hother, hknown] at hknown'
    exact .inl (Option.some.inj hknown' ▸ hlead)
  obtain ⟨visited, hsub, hcovers⟩ := follow_covers hstart
  have hvisited := mem_visited_of_covers hcovers (hsub type (List.mem_singleton_self type)) habove
  obtain ⟨known', hknown', hentry⟩ := hname
  obtain ⟨lead, hlead, hreport⟩ := exists_report_iff.2 hentry
  exact (taken_of_covers hcovers hvisited hknown' hlead).1 name hreport

/-- The interfaces found for a type are those of all types that can be reached. -/
theorem mem_interfacesAbove_iff {type : String} {known : KnownType}
    (hknown : names.type? type = some known) {name : String} :
    name ∈ names.interfacesAbove type known
      ↔ ∃ above, Relation.ReflTransGen names.Extends type above ∧ names.Implements above name := by
  constructor
  · exact implements_of_mem_interfacesAbove hknown
  · rintro ⟨above, habove, hname⟩
    exact mem_interfacesAbove_of_implements hknown habove hname

/-- **A type implements what it and the types above it name.** The symbol of a declared type
for which no facts are given lists the interfaces of every type that can be reached through
base lists, each once and nothing else, whatever circles and detours the declarations make. -/
theorem mem_interfaces_iff {type : String} (hdeclared : names.declares type = true)
    (hfree : names.facts? type = none) :
    ∃ symbol, names.symbol? type = some symbol ∧ symbol.interfaces.Nodup
      ∧ ∀ name, name ∈ symbol.interfaces
        ↔ ∃ above, Relation.ReflTransGen names.Extends type above
          ∧ names.Implements above name := by
  obtain ⟨known, hknown⟩ := exists_type?_of_declares hdeclared
  have hsymbol : names.symbol? type
      = some ⟨type, names.parentName known, names.interfacesAbove type known⟩ := by
    rw [symbol?, hfree, hknown]
    rfl
  refine ⟨_, hsymbol, nodup_follow List.nodup_nil, fun name => ⟨?_, ?_⟩⟩
  · exact implements_of_mem_interfacesAbove hknown
  · rintro ⟨above, habove, hname⟩
    exact mem_interfacesAbove_of_implements hknown habove hname

/-- Two classes that extend each other. The second one has an interface, which has another one
above it that is not declared. -/
def circle : DeclaredNames :=
  addTree {}
    [{ keyword := .forClass, identifier := "A", ownNamespace := some "N", bases := ["B"] },
     { keyword := .forClass, identifier := "B", ownNamespace := some "N",
       bases := ["A", "IPet<int>"] },
     { keyword := .forInterface, identifier := "IPet", ownNamespace := some "N",
       bases := ["IThing"] }]

theorem mem_interfaces_iff_circle :
    circle.declares "N.A" = true ∧ circle.facts? "N.A" = none
      ∧ ∃ symbol, circle.symbol? "N.A" = some symbol ∧ symbol.interfaces.Nodup
        ∧ "N.IPet<int>" ∈ symbol.interfaces ∧ "IThing" ∈ symbol.interfaces := by
  have hdeclared : circle.declares "N.A" = true := by decide
  have hfree : circle.facts? "N.A" = none := by decide
  obtain ⟨symbol, hsymbol, hnodup, hmem⟩ := mem_interfaces_iff hdeclared hfree
  have hclass : circle.Extends "N.A" "N.B" := ⟨_, rfl, "B", by decide, by decide⟩
  have hpet : circle.Extends "N.B" "N.IPet" := ⟨_, rfl, "IPet<int>", by decide, by decide⟩
  have hclassPet : circle.Implements "N.B" "N.IPet<int>" :=
    ⟨_, rfl, "IPet<int>", by decide, by decide, by decide⟩
  have hpetThing : circle.Implements "N.IPet" "IThing" :=
    ⟨_, rfl, "IThing", by decide, by decide, by decide⟩
  refine ⟨hdeclared, hfree, symbol, hsymbol, hnodup, ?_, ?_⟩
  · exact (hmem _).2 ⟨"N.B", .single hclass, hclassPet⟩
  · exact (hmem _).2 ⟨"N.IPet", .tail (.single hclass) hpet, hpetThing⟩

/-! ## Interfaces of the types above -/

/-- Without facts of its own the symbol of a type is inferred. -/
theorem symbol?_of_free {type : String} {known : KnownType}
    (hknown : names.type? type = some known) (hfree : names.facts? type = none) :
    names.symbol? type
      = some ⟨type, names.parentName known, names.interfacesAbove type known⟩ := by
  rw [symbol?, hfree, hknown]
  rfl

theorem declares_of_reflTransGen {type above : String} (hdeclared : names.declares type = true)
    (habove : Relation.ReflTransGen names.Extends type above) :
    names.declares above = true := by
  cases habove with
  | refl => exact hdeclared
  | tail _ hstep =>
      obtain ⟨_, _, _, _, hreferent⟩ := hstep
      exact declares_of_referent? hreferent

/-- What is inferred for a type above is inferred for the type as well: the two walks visit
different types, but whatever can be reached from above can be reached from below. -/
theorem interfacesAbove_mono {type above : String} {known knownAbove : KnownType}
    (hknown : names.type? type = some known) (hknownAbove : names.type? above = some knownAbove)
    (habove : Relation.ReflTransGen names.Extends type above) {name : String}
    (hname : name ∈ names.interfacesAbove above knownAbove) :
    name ∈ names.interfacesAbove type known := by
  obtain ⟨top, htop, himplements⟩ := implements_of_mem_interfacesAbove hknownAbove hname
  have hreach : Relation.ReflTransGen names.Extends type top := habove.trans htop
  exact mem_interfacesAbove_of_implements hknown hreach himplements

/-- **A type implements what the types above it implement.** If no facts are given for a declared
type, and none for a type above it, then both have a symbol, and the first one lists every
interface of the second. Facts may be given for the types between them. -/
theorem interfaces_mono {type above : String} (hdeclared : names.declares type = true)
    (hfree : names.facts? type = none)
    (habove : Relation.ReflTransGen names.Extends type above)
    (hfreeAbove : names.facts? above = none) :
    ∃ symbol symbolAbove, names.symbol? type = some symbol
      ∧ names.symbol? above = some symbolAbove
      ∧ ∀ name ∈ symbolAbove.interfaces, name ∈ symbol.interfaces := by
  obtain ⟨known, hknown⟩ := exists_type?_of_declares hdeclared
  obtain ⟨knownAbove, hknownAbove⟩ :=
    exists_type?_of_declares (declares_of_reflTransGen hdeclared habove)
  refine ⟨_, _, symbol?_of_free hknown hfree, symbol?_of_free hknownAbove hfreeAbove, ?_⟩
  intro name hname
  exact interfacesAbove_mono hknown hknownAbove habove hname

/-- Three classes, each the base of the next one. Facts are given for the middle one. -/
def pedigree : DeclaredNames :=
  (addTree {}
    [{ keyword := .forClass, identifier := "Animal", bases := ["ILiving"] },
     { keyword := .forClass, identifier := "Mammal", bases := ["Animal"] },
     { keyword := .forClass, identifier := "Dog", bases := ["Mammal"] }]).addFacts "Mammal"
    { base := some "Animal", interfaces := ["IFurry"] }

/-- The interface of the first class goes past the facts of the second to the third. -/
theorem interfaces_mono_pedigree :
    pedigree.declares "Dog" = true ∧ pedigree.facts? "Dog" = none
      ∧ pedigree.facts? "Animal" = none
      ∧ Relation.ReflTransGen pedigree.Extends "Dog" "Animal"
      ∧ ∃ symbol, pedigree.symbol? "Dog" = some symbol ∧ "ILiving" ∈ symbol.interfaces := by
  have hdeclared : pedigree.declares "Dog" = true := by decide
  have hfree : pedigree.facts? "Dog" = none := by decide
  have hfreeAbove : pedigree.facts? "Animal" = none := by decide
  have hdog : pedigree.Extends "Dog" "Mammal" := ⟨_, rfl, "Mammal", by decide, by decide⟩
  have hmammal : pedigree.Extends "Mammal" "Animal" := ⟨_, rfl, "Animal", by decide, by decide⟩
  have habove : Relation.ReflTransGen pedigree.Extends "Dog" "Animal" :=
    .tail (.single hdog) hmammal
  obtain ⟨symbol, symbolAbove, hsymbol, hsymbolAbove, hmono⟩ :=
    interfaces_mono hdeclared hfree habove hfreeAbove
  refine ⟨hdeclared, hfree, hfreeAbove, habove, symbol, hsymbol, hmono "ILiving" ?_⟩
  have hanimal : pedigree.Implements "Animal" "ILiving" :=
    ⟨_, rfl, "ILiving", by decide, by decide, by decide⟩
  rw [symbol?_of_free rfl hfreeAbove] at hsymbolAbove
  obtain rfl := Option.some.inj hsymbolAbove
  exact mem_interfacesAbove_of_implements rfl .refl hanimal

/-- Two classes, one the base of the other. Facts are given for the base. -/
def breed : DeclaredNames :=
  (addTree {}
    [{ keyword := .forClass, identifier := "Mammal" },
     { keyword := .forClass, identifier := "Dog", bases := ["Mammal"] }]).addFacts "Mammal"
    { base := some "object", interfaces := ["IFurry"] }

/-- The interface that is given for the base does not get to the other class. -/
theorem not_interfaces_mono_breed :
    breed.facts? "Dog" = none ∧ breed.Extends "Dog" "Mammal"
      ∧ ∃ symbol symbolAbove, breed.symbol? "Dog" = some symbol
        ∧ breed.symbol? "Mammal" = some symbolAbove
        ∧ "IFurry" ∈ symbolAbove.interfaces ∧ "IFurry" ∉ symbol.interfaces := by
  have hfree : breed.facts? "Dog" = none := by decide
  have hdog : breed.Extends "Dog" "Mammal" := ⟨_, rfl, "Mammal", by decide, by decide⟩
  refine ⟨hfree, hdog, _, _, symbol?_of_free rfl hfree, rfl, List.mem_singleton_self _, ?_⟩
  intro hname
  -- the interface would have to be an entry of some base list
  have hentries : ∀ declaration ∈ breed.declarations,
      ∀ known ∈ breed.type? declaration.qualifiedName, ∀ entry ∈ known.bases,
        breed.fullName known.scope entry ≠ "IFurry" := by decide
  obtain ⟨above, -, known, hknown, entry, hentry, -, hfull⟩ :=
    implements_of_mem_interfacesAbove rfl hname
  obtain ⟨declaration, hdeclaration, rfl⟩ := exists_declaration_of_type? hknown
  exact hentries declaration hdeclaration known hknown entry hentry hfull

end ClassDiagram.DeclaredNames
