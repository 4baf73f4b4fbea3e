import ClassDiagram.Proofs.IndexContents

/-!
# The order of members

Members are sorted when a type is indexed and once more when its rows are drawn. This file says
what sorting them comes to (`Member.sorted_canonical`): it forgets how members of different groups
or names stood to each other, and nothing else. So sorting again changes nothing, and a diagram has
its rows in the order in which the index has the members.

The order compares names in two steps, and it is the second one that tells names apart which differ
only in upper and lower case. That is why equal members in the order are those of one group and
exactly one name (`Member.order_eq_iff`).
-/

namespace ClassDiagram

namespace Member

/-- The members of a group that have a name, such as the overloads of a method. -/
def overloads (group : Nat) (name : String) (members : List Member) : List Member :=
  members.filter fun member => member.group = group ∧ member.name = name

theorem order_eq_iff {a b : Member} : order a b = .eq ↔ b.group = a.group ∧ b.name = a.name := by
  rw [order, Ordering.then_eq_eq, Std.LawfulEqOrd.compare_eq_iff_eq, Text.alphabetical_eq_iff,
    eq_comm, eq_comm (a := a.name)]

theorem filter_order_eq (a : Member) (members : List Member) :
    members.filter (order a · == .eq) = overloads a.group a.name members := by
  refine List.filter_congr fun b _ => ?_
  rw [Bool.eq_iff_iff, beq_iff_eq, order_eq_iff, decide_eq_true_iff]

theorem isLE_order_iff {a b : Member} :
    (order a b).isLE = true
      ↔ a.group < b.group
        ∨ a.group = b.group ∧ (Text.alphabetical a.name b.name).isLE = true := by
  rw [order]
  cases hgroup : compare a.group b.group with
  | lt =>
      rw [Nat.compare_eq_lt] at hgroup
      exact iff_of_true rfl (.inl hgroup)
  | eq =>
      rw [Nat.compare_eq_eq] at hgroup
      simp [hgroup]
  | gt =>
      rw [Nat.compare_eq_gt] at hgroup
      refine iff_of_false (by simp) ?_
      omega

/-- Sorting keeps overloads in the order they had. -/
theorem overloads_sorted (group : Nat) (name : String) (members : List Member) :
    overloads group name (sorted members) = overloads group name members := by
  have hsorted := stablySorted_sorted members
  by_cases hex : ∃ a ∈ members, a.group = group ∧ a.name = name
  · obtain ⟨a, _, rfl, rfl⟩ := hex
    rw [← filter_order_eq, ← filter_order_eq]
    exact hsorted.stable a
  · have hnone : ∀ a ∈ members, ¬ decide (a.group = group ∧ a.name = name) = true :=
      fun a ha hlike => hex ⟨a, ha, of_decide_eq_true hlike⟩
    unfold overloads
    rw [List.filter_eq_nil_iff.2 hnone,
      List.filter_eq_nil_iff.2 fun a ha => hnone a (hsorted.perm.mem_iff.1 ha)]

/-- Lists of members are sorted alike if they have the same overloads of every name. -/
theorem sorted_eq_sorted_iff {members' members : List Member} :
    sorted members' = sorted members
      ↔ ∀ group name, overloads group name members' = overloads group name members := by
  constructor
  · intro hsame group name
    rw [← overloads_sorted, hsame, overloads_sorted]
  · intro hsame
    refine eq_of_filter_eq (stablySorted_sorted members').ascending
      (stablySorted_sorted members).ascending fun a => ?_
    rw [filter_order_eq, filter_order_eq, overloads_sorted, overloads_sorted, hsame]

theorem sorted_sorted (members : List Member) : sorted (sorted members) = sorted members :=
  sorted_eq_sorted_iff.2 fun group name => overloads_sorted group name members

end Member

/-! ## Rows -/

/-- A row of a diagram. -/
inductive Row where
  | field (row : ValueRow)
  | property (row : ValueRow)
  | method (row : MethodRow)

/-- The rows from top to bottom. -/
def MemberRows.all (rows : MemberRows) : List Row :=
  rows.fields.map .field ++ rows.properties.map .property ++ rows.methods.map .method

/-- The row of a member in a type of a kind. -/
def Member.row (kind : NodeKind) : Member → Row
  | field name type => .field ⟨name, type⟩
  | property name type => .property ⟨name, type⟩
  | method name access parameters returnType =>
    .method ⟨access.sign kind, name, signatureOf parameters, returnType⟩

theorem Member.fieldRow?_eq_none {member : Member} (h : member.group ≠ 0) :
    member.fieldRow? = none := by
  cases member with
  | field name type => exact absurd rfl h
  | property name type => rfl
  | method name access parameters returnType => rfl

theorem Member.propertyRow?_eq_none {member : Member} (h : member.group ≠ 1) :
    member.propertyRow? = none := by
  cases member with
  | field name type => rfl
  | property name type => exact absurd rfl h
  | method name access parameters returnType => rfl

/-- The rows of members that are listed by group are those of the members, one by one. -/
theorem rows_of_pairwise (kind : NodeKind) {members : List Member}
    (h : members.Pairwise fun a b => a.group ≤ b.group) :
    MemberRows.all
        { fields := members.filterMap Member.fieldRow?
          properties := members.filterMap Member.propertyRow?
          methods := members.filterMap (Member.methodRow? kind) }
      = members.map (Member.row kind) := by
  induction members with
  | nil => rfl
  | cons member rest ih =>
      obtain ⟨hbehind, hrest⟩ := List.pairwise_cons.1 h
      rw [List.map_cons, ← ih hrest]
      -- behind a member there are none of the groups before its own
      cases member with
      | field name type => rfl
      | property name type =>
          have hfields : rest.filterMap Member.fieldRow? = [] :=
            List.filterMap_eq_nil_iff.2 fun other hother =>
              Member.fieldRow?_eq_none (Nat.ne_of_gt (hbehind other hother))
          unfold MemberRows.all
          rw [List.filterMap_cons_none rfl, hfields]
          rfl
      | method name access parameters returnType =>
          have hfields : rest.filterMap Member.fieldRow? = [] :=
            List.filterMap_eq_nil_iff.2 fun other hother =>
              Member.fieldRow?_eq_none
                (Nat.ne_of_gt (Nat.lt_of_lt_of_le Nat.two_pos (hbehind other hother)))
          have hproperties : rest.filterMap Member.propertyRow? = [] :=
            List.filterMap_eq_nil_iff.2 fun other hother =>
              Member.propertyRow?_eq_none (Nat.ne_of_gt (hbehind other hother))
          unfold MemberRows.all
          rw [List.filterMap_cons_none rfl, List.filterMap_cons_none rfl, hfields, hproperties]
          rfl

/-- The members of an indexed type are sorted already. -/
theorem Index.sorted_members {style : DiagramStyle} {projects : List Project}
    {assembly : Assembly} {type : IndexedType}
    (hassembly : assembly ∈ (ofProjects style projects).assemblies)
    (htype : type ∈ assembly.types) : Member.sorted type.members = type.members := by
  rw [ofProjects_assemblies] at hassembly
  obtain ⟨project, _, rfl⟩ := List.mem_map.1 hassembly
  obtain ⟨described, _, rfl⟩ := mem_assembly_types htype
  exact Member.sorted_sorted _

/-- Members that are sorted already have their rows in the order that they stand in. -/
theorem IndexedType.all_rows {type : IndexedType}
    (h : Member.sorted type.members = type.members) :
    type.rows.all = type.members.map (Member.row type.kind) := by
  have hascending := (stablySorted_sorted type.members).ascending
  rw [h] at hascending
  unfold rows
  dsimp only
  rw [h]
  exact rows_of_pairwise type.kind (hascending.imp fun hle =>
    (Member.isLE_order_iff.1 hle).elim Nat.le_of_lt fun hsame => Nat.le_of_eq hsame.1)

/-- **What sorting members comes to.** Two lists of members are sorted alike if and only if the
overloads of every name in every group are the same in both. A sorted list has the same members,
fields first, then properties, then methods, each in alphabetical order, with overloads as they
stood, and sorting it again changes nothing. So the rows of a type of an index are those of its
members, in the order in which the index has them. -/
theorem Member.sorted_canonical :
    (∀ members' members, sorted members' = sorted members
        ↔ ∀ group name, overloads group name members' = overloads group name members)
      ∧ (∀ members, (sorted members).Perm members
          ∧ (sorted members).Pairwise (fun a b => a.group < b.group
            ∨ a.group = b.group ∧ (Text.alphabetical a.name b.name).isLE = true)
          ∧ (∀ group name, overloads group name (sorted members) = overloads group name members)
          ∧ sorted (sorted members) = sorted members)
      ∧ ∀ style provider index, Index.ofProvider style provider = .ok index →
          ∀ assembly ∈ index.assemblies, ∀ type ∈ assembly.types,
            type.rows.all = type.members.map (row type.kind) := by
  refine ⟨fun _ _ => sorted_eq_sorted_iff, fun members => ?_, ?_⟩
  · have hsorted := stablySorted_sorted members
    exact ⟨hsorted.perm, hsorted.ascending.imp isLE_order_iff.1,
      fun group name => overloads_sorted group name members, sorted_sorted members⟩
  · intro style provider index hindex assembly hassembly type htype
    obtain ⟨projects, rfl⟩ := Index.exists_projects_of_ofProvider hindex
    exact IndexedType.all_rows (Index.sorted_members hassembly htype)

/-- A class whose members are declared in no order, with two overloads of a method and a third
method that is called like them but for the case. -/
def barking : Project where
  name := "Kennel"
  documents :=
    [{ name := "Dog.cs"
       model := some fun _ => none
       tree := some
         { root := some
             [{ keyword := .forClass, identifier := "Dog",
                members := [.method ["public"] "bark" [] "void", .method ["public"] "Bark" [] "int",
                  .field [] "int" ["age"], .method [] "Bark" [⟨"times", some "int"⟩] "void",
                  .property [] "Name" "string"] }] } }]

/-- The class as its declaration describes it. -/
def barkingDog : IndexedType where
  qualifiedName := "Dog"
  identifier := "Dog"
  kind := .plainClass
  members := [.method "bark" .everyone [] "void", .method "Bark" .everyone [] "int",
    .field "age" "int", .method "Bark" .undeclared [⟨"times", some "int"⟩] "void",
    .property "Name" "string"]

theorem Member.sorted_canonical_barking :
    Index.ofProvider {} (.ofProjects [barking]) = .ok (Index.ofProjects {} [barking])
      ∧ ⟨"Kennel", [barkingDog.withSortedMembers]⟩ ∈ (Index.ofProjects {} [barking]).assemblies
      ∧ barkingDog.withSortedMembers ∈ [barkingDog.withSortedMembers]
      ∧ barkingDog.withSortedMembers.rows.all
        = barkingDog.withSortedMembers.members.map (row .plainClass)
      ∧ barkingDog.withSortedMembers.members.Perm barkingDog.members := by
  have hindex : Index.ofProvider {} (.ofProjects [barking])
      = .ok (Index.ofProjects {} [barking]) := rfl
  have hassembly : Assembly.mk "Kennel" [barkingDog.withSortedMembers]
      ∈ (Index.ofProjects {} [barking]).assemblies := by
    rw [Index.assemblies_of_document (by decide) rfl]
    exact List.mem_singleton_self _
  have htype := List.mem_singleton_self barkingDog.withSortedMembers
  exact ⟨hindex, hassembly, htype,
    sorted_canonical.2.2 {} _ _ hindex _ hassembly _ htype,
    (sorted_canonical.2.1 barkingDog.members).1⟩

end ClassDiagram
