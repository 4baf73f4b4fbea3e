import ClassDiagram.Name
import Mathlib.Data.List.Induction

/-!
# Lists of names without repeats

`Name.addNew` puts a name behind others unless it is there already, and `Name.distinct` builds
a list up in this way. The result has every name once, where it came first; this is what
`List.eraseDups` gives.
-/

namespace ClassDiagram.Name

theorem addNew_of_mem {names : List String} {name : String} (h : name ∈ names) :
    addNew names name = names := by
  rw [addNew, if_pos (List.contains_iff_mem.2 h)]

theorem addNew_of_not_mem {names : List String} {name : String} (h : name ∉ names) :
    addNew names name = names ++ [name] := by
  rw [addNew, if_neg (fun hc => h (List.contains_iff_mem.1 hc))]

theorem mem_addNew {names : List String} {name other : String} :
    other ∈ addNew names name ↔ other ∈ names ∨ other = name := by
  by_cases h : name ∈ names
  · rw [addNew_of_mem h]
    exact ⟨.inl, fun ho => ho.elim id (fun he => he ▸ h)⟩
  · rw [addNew_of_not_mem h, List.mem_append, List.mem_singleton]

theorem nodup_addNew {names : List String} (h : names.Nodup) (name : String) :
    (addNew names name).Nodup := by
  by_cases hm : name ∈ names
  · rwa [addNew_of_mem hm]
  · rw [addNew_of_not_mem hm, List.nodup_append]
    refine ⟨h, List.pairwise_singleton _ _, fun a ha b hb he => hm ?_⟩
    rwa [← List.mem_singleton.1 hb, ← he]

/-! ## Distinct names -/

theorem distinct_append (names more : List String) :
    distinct (names ++ more) = more.foldl addNew (distinct names) :=
  List.foldl_append

theorem distinct_concat (names : List String) (name : String) :
    distinct (names ++ [name]) = addNew (distinct names) name :=
  distinct_append names [name]

theorem mem_distinct {names : List String} {name : String} :
    name ∈ distinct names ↔ name ∈ names := by
  induction names using List.reverseRecOn with
  | nil => rfl
  | append_singleton names last ih =>
      rw [distinct_concat, mem_addNew, ih, List.mem_append, List.mem_singleton]

theorem nodup_distinct (names : List String) : (distinct names).Nodup := by
  induction names using List.reverseRecOn with
  | nil => exact List.nodup_nil
  | append_singleton names last ih =>
      rw [distinct_concat]
      exact nodup_addNew ih last

/-- Later repeats are dropped, and nothing else. -/
theorem distinct_eq_eraseDups (names : List String) : distinct names = names.eraseDups := by
  induction names using List.reverseRecOn with
  | nil => rfl
  | append_singleton names last ih =>
      rw [distinct_concat, List.eraseDups_append, ← ih]
      by_cases h : last ∈ names
      · rw [addNew_of_mem (mem_distinct.2 h)]
        simp [List.removeAll, h]
      · rw [addNew_of_not_mem (fun hm => h (mem_distinct.1 hm))]
        simp [List.removeAll, h, List.eraseDups_cons]

end ClassDiagram.Name
