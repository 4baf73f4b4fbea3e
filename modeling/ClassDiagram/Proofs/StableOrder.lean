import ClassDiagram.Members
import ClassDiagram.Proofs.ByteOrder

/-!
# Sorted lists in which equals stay in order

`StablySorted` is what sorting is for here: nothing is lost, the result is in order, and
things that are equal in the order stand as they stood before. `List.mergeSort` gives such a
list whenever the order is transitive, and the orders that the library sorts by are.

There is only one such list (`StablySorted.unique`). So sorting forgets how things were
arranged before, as long as things of one name keep their order (`Rearranged`).
-/

namespace ClassDiagram

open Std

variable {α : Type}

/-- The first list is the second one sorted. -/
structure StablySorted (order : α → α → Ordering) (sorted things : List α) : Prop where
  /-- Nothing is lost, and nothing is doubled. -/
  perm : sorted.Perm things
  ascending : sorted.Pairwise fun a b => (order a b).isLE
  /-- What is equal in the order stays in the order it had. -/
  stable : ∀ a, sorted.filter (order a · == .eq) = things.filter (order a · == .eq)

/-- A list in order that has no equals is strictly in order. -/
theorem pairwise_lt_of_ascending {order : α → α → Ordering} {things : List α}
    (hascending : things.Pairwise fun a b => (order a b).isLE)
    (hne : things.Pairwise fun a b => order a b ≠ .eq) :
    things.Pairwise fun a b => order a b = .lt :=
  (hascending.and hne).imp fun h => (Ordering.isLE_iff_eq_lt_or_eq_eq.1 h.1).resolve_right h.2

/-! ## Sorting by merging -/

section MergeSort

variable {order : α → α → Ordering} [TransCmp order]

theorem isLE_of_eq_of_eq {a b c : α} (hb : order a b = .eq) (hc : order a c = .eq) :
    (order b c).isLE := by
  rw [← TransCmp.congr_left hb, hc]
  rfl

theorem isLE_total (a b : α) : ((order a b).isLE || (order b a).isLE) = true := by
  rw [Bool.or_eq_true]
  cases h : order a b with
  | lt => exact .inl rfl
  | eq => exact .inl rfl
  | gt => exact .inr (by rw [OrientedCmp.lt_of_gt h]; rfl)

/-- Things that are equal in the order are sorted as they stand, so they come out of the
sort as they went in. -/
theorem filter_mergeSort_eq (things : List α) (a : α) :
    (things.mergeSort fun a b => (order a b).isLE).filter (order a · == .eq)
      = things.filter (order a · == .eq) := by
  have hsorted : (things.filter (order a · == .eq)).Pairwise fun b c => (order b c).isLE := by
    refine List.pairwise_iff_forall_sublist.2 fun {b c} hsub => ?_
    have hb := (List.mem_filter.1 (hsub.subset (by simp : b ∈ [b, c]))).2
    have hc := (List.mem_filter.1 (hsub.subset (by simp : c ∈ [b, c]))).2
    exact isLE_of_eq_of_eq (beq_iff_eq.1 hb) (beq_iff_eq.1 hc)
  have hsub := (List.sublist_mergeSort (fun _ _ _ => TransCmp.isLE_trans) isLE_total hsorted
    List.filter_sublist).filter (order a · == .eq)
  rw [List.filter_filter] at hsub
  simp only [Bool.and_self] at hsub
  -- the two sides have the same length, since sorting only permutes
  refine (hsub.eq_of_length ?_).symm
  exact ((List.mergeSort_perm things _).filter _).length_eq.symm

theorem stablySorted_mergeSort (things : List α) :
    StablySorted order (things.mergeSort fun a b => (order a b).isLE) things where
  perm := List.mergeSort_perm things _
  ascending := List.pairwise_mergeSort (fun _ _ _ => TransCmp.isLE_trans) isLE_total things
  stable := filter_mergeSort_eq things

end MergeSort

/-! ## There is only one sorted list -/

section Unique

variable {order : α → α → Ordering}

theorem filter_cons_of_eq {a b : α} (h : order a b = .eq) (rest : List α) :
    (b :: rest).filter (order a · == .eq) = b :: rest.filter (order a · == .eq) :=
  List.filter_cons_of_pos (beq_iff_eq.2 h)

theorem filter_cons_of_ne {a b : α} (h : order a b ≠ .eq) (rest : List α) :
    (b :: rest).filter (order a · == .eq) = rest.filter (order a · == .eq) :=
  List.filter_cons_of_neg (by simpa using h)

variable [TransCmp order]

/-- The head of a list in order is not above anything that the list has an equal of. -/
theorem isLE_of_mem_filter {a b c : α} {rest : List α}
    (h : (b :: rest).Pairwise fun a b => (order a b).isLE)
    (hc : c ∈ (b :: rest).filter (order a · == .eq)) : (order b a).isLE := by
  obtain ⟨hmem, hlike⟩ := List.mem_filter.1 hc
  rw [TransCmp.congr_right (beq_iff_eq.1 hlike)]
  rcases List.mem_cons.1 hmem with rfl | hmem
  · exact isLE_of_eq_of_eq ReflCmp.compare_self ReflCmp.compare_self
  · exact List.rel_of_pairwise_cons h hmem

/-- Lists in order are the same if the elements that are equal in the order are. -/
theorem eq_of_filter_eq {xs ys : List α} (hxs : xs.Pairwise fun a b => (order a b).isLE)
    (hys : ys.Pairwise fun a b => (order a b).isLE)
    (h : ∀ a, xs.filter (order a · == .eq) = ys.filter (order a · == .eq)) : xs = ys := by
  induction xs generalizing ys with
  | nil =>
      cases ys with
      | nil => rfl
      | cons b ys =>
          have hb := h b
          rw [filter_cons_of_eq (a := b) ReflCmp.compare_self] at hb
          exact absurd hb (by simp)
  | cons a xs ih =>
      cases ys with
      | nil =>
          have ha := h a
          rw [filter_cons_of_eq (a := a) ReflCmp.compare_self] at ha
          exact absurd ha (by simp)
      | cons b ys =>
          have ha := h a
          have hb := h b
          rw [filter_cons_of_eq (a := a) ReflCmp.compare_self] at ha
          rw [filter_cons_of_eq (a := b) ReflCmp.compare_self] at hb
          -- each list has an equal of the other one's head, so neither head is above the other
          have hab : order a b = .eq :=
            OrientedCmp.isLE_antisymm (isLE_of_mem_filter hxs (hb ▸ List.mem_cons_self))
              (isLE_of_mem_filter hys (ha ▸ List.mem_cons_self))
          rw [filter_cons_of_eq hab] at ha
          obtain ⟨rfl, -⟩ := List.cons.inj ha
          refine congrArg (a :: ·) (ih hxs.of_cons hys.of_cons fun c => ?_)
          have hc := h c
          by_cases hlike : order c a = .eq
          · rw [filter_cons_of_eq hlike, filter_cons_of_eq hlike] at hc
            exact (List.cons.inj hc).2
          · rwa [filter_cons_of_ne hlike, filter_cons_of_ne hlike] at hc

/-- A list can be sorted in one way only. -/
theorem StablySorted.unique {sorted sorted' things : List α}
    (h : StablySorted order sorted things) (h' : StablySorted order sorted' things) :
    sorted = sorted' :=
  eq_of_filter_eq h.ascending h'.ascending fun a => (h.stable a).trans (h'.stable a).symm

end Unique

/-! ## The orders of the library -/

/-- The order of things by the bytes of their names. -/
def byName (name : α → String) (a b : α) : Ordering :=
  compare (Text.bytesOfText (name a)) (Text.bytesOfText (name b))

theorem byName_eq (name : α → String) (a b : α) : byName name a b = compare (name a) (name b) :=
  Text.compare_bytesOfText (name a) (name b)

/-- What is equal to a thing in the order by name are the things of its name. -/
theorem byName_beq_eq (name : α → String) (a : α) :
    (byName name a · == .eq) = (name · == name a) := by
  funext b
  rw [Bool.eq_iff_iff, beq_iff_eq, beq_iff_eq, byName_eq, Std.LawfulEqOrd.compare_eq_iff_eq]
  exact eq_comm

instance (name : α → String) : TransCmp (byName name) :=
  inferInstanceAs (TransCmp (compareOn fun a => Text.bytesOfText (name a)))

instance : TransCmp Text.alphabetical :=
  inferInstanceAs (TransCmp (compareLex (compareOn Text.lowerCase) compare))

instance : TransCmp fun a b : Member => Text.alphabetical a.name b.name :=
  have names : TransCmp Text.alphabetical := inferInstance
  { eq_swap := names.eq_swap, isLE_trans := names.isLE_trans }

instance : TransCmp Member.order :=
  inferInstanceAs (TransCmp (compareLex (compareOn Member.group)
    fun a b => Text.alphabetical a.name b.name))

theorem stablySorted_sortedByName (name : α → String) (things : List α) :
    StablySorted (byName name) (Text.sortedByName name things) things := by
  have hle : (fun a b => (compare (name a) (name b)).isLE) = fun a b => (byName name a b).isLE :=
    funext fun a => funext fun b => by rw [byName_eq]
  rw [Text.sortedByName, hle]
  exact stablySorted_mergeSort things

theorem stablySorted_sorted (members : List Member) :
    StablySorted Member.order (Member.sorted members) members :=
  stablySorted_mergeSort members

/-! ## Things in another order -/

/-- Sorting by name keeps the things of a name as they stand. -/
theorem StablySorted.filter_name {name : α → String} {sorted things : List α}
    (h : StablySorted (byName name) sorted things) (text : String) :
    sorted.filter (name · == text) = things.filter (name · == text) := by
  by_cases hex : ∃ a ∈ things, name a = text
  · obtain ⟨a, _, rfl⟩ := hex
    rw [← byName_beq_eq]
    exact h.stable a
  · have hthings : ∀ a ∈ things, ¬ (name a == text) = true :=
      fun a ha he => hex ⟨a, ha, beq_iff_eq.1 he⟩
    rw [List.filter_eq_nil_iff.2 hthings,
      List.filter_eq_nil_iff.2 fun a ha => hthings a (h.perm.mem_iff.1 ha)]

/-- The same things in another order, in which the things of one name stand as they stood. -/
structure Rearranged (name : α → String) (things' things : List α) : Prop where
  perm : things'.Perm things
  inOrder : ∀ text, things'.filter (name · == text) = things.filter (name · == text)

namespace Rearranged

variable {name : α → String} {things things' things'' : List α}

theorem refl (things : List α) : Rearranged name things things :=
  ⟨List.Perm.refl things, fun _ => rfl⟩

/-- Neighbours may change places unless they have the same name. -/
theorem swap {a b : α} (h : name a ≠ name b) (front back : List α) :
    Rearranged name (front ++ b :: a :: back) (front ++ a :: b :: back) where
  perm := (List.Perm.swap a b back).append_left front
  inOrder := by
    intro text
    rw [List.filter_append, List.filter_append]
    refine congrArg (front.filter (name · == text) ++ ·) ?_
    by_cases ha : name a = text
    · have hb : name b ≠ text := fun hb => h (ha.trans hb.symm)
      simp [ha, hb]
    · simp [List.filter_cons, ha]

/-- Things of different names may be put in any order. -/
theorem of_perm (h : things'.Perm things) (hnodup : (things.map name).Nodup) :
    Rearranged name things' things where
  perm := h
  inOrder := by
    intro text
    have hne : things.Pairwise fun a b => name a ≠ name b := List.pairwise_map.1 hnodup
    have hne' : things'.Pairwise fun a b => name a ≠ name b :=
      List.pairwise_map.1 ((h.map name).nodup_iff.2 hnodup)
    -- no two things have the name, so there is nothing to be out of order
    refine List.Perm.eq_of_pairwise (fun a b ha hb hab _ => ?_) (hne'.filter _) (hne.filter _)
      (h.filter _)
    have ha := beq_iff_eq.1 (List.mem_filter.1 ha).2
    have hb := beq_iff_eq.1 (List.mem_filter.1 hb).2
    exact absurd (ha.trans hb.symm) hab

/-- A sort by name does not show how things were arranged before. -/
theorem sortedByName_eq (h : Rearranged name things' things) :
    Text.sortedByName name things' = Text.sortedByName name things := by
  have hsorted := stablySorted_sortedByName name things'
  refine StablySorted.unique ⟨hsorted.perm.trans h.perm, hsorted.ascending, fun a => ?_⟩
    (stablySorted_sortedByName name things)
  rw [hsorted.stable a, byName_beq_eq]
  exact h.inOrder (name a)

end Rearranged

theorem rearranged_sortedByName (name : α → String) (things : List α) :
    Rearranged name (Text.sortedByName name things) things :=
  ⟨(stablySorted_sortedByName name things).perm,
    (stablySorted_sortedByName name things).filter_name⟩

end ClassDiagram
