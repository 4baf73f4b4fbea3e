import ClassDiagram.Json.Schema
import Mathlib.Data.List.Duplicate
import Mathlib.Data.List.Nodup
import Mathlib.Data.List.Perm.Basic

/-!
# The fields of a record

A record is read from the values of its fields (`Json.fields?`). This file says what these values
depend on. For an object it is what stands under each name of a field, and not the order of the
fields nor those of other names (`Json.fields?_congr`); a name of a field that comes twice leaves
nothing to read (`Json.fields?_of_duplicate`). A value that stands in a record, under a name or at a
place of an array, is one of the values, and the other ones do not depend on it
(`Json.OneOfFields`).
-/

namespace ClassDiagram.Json

variable {names : List String} {fields' fields front back : List (Option String × Json)}

/-! ## Lookups -/

theorem lookup_eq_head? (fields : List (Option String × Json)) (key : Option String) :
    fields.lookup key = ((fields.filter (·.1 == key)).head?).map Prod.snd := by
  induction fields with
  | nil => rfl
  | cons field rest ih =>
      obtain ⟨other, value⟩ := field
      rw [List.lookup_cons]
      by_cases h : other = key
      · subst h
        simp
      · rw [List.filter_cons_of_neg (by simpa using h), ← ih, beq_false_of_ne (Ne.symm h)]

/-- What stands under a key that comes at most once does not depend on the order of the fields. -/
theorem lookup_eq_of_perm {key : Option String}
    (hperm : (fields'.filter (·.1 == key)).Perm (fields.filter (·.1 == key)))
    (honce : fields.countP (·.1 == key) ≤ 1) : fields'.lookup key = fields.lookup key := by
  rw [List.countP_eq_length_filter] at honce
  have heq : fields'.filter (·.1 == key) = fields.filter (·.1 == key) := by
    match hfiltered : fields.filter (·.1 == key) with
    | [] =>
        rw [hfiltered] at hperm
        exact hperm.eq_nil.trans hfiltered.symm
    | [field] =>
        rw [hfiltered] at hperm
        exact hperm.eq_singleton.trans hfiltered.symm
    | _ :: _ :: _ =>
        rw [hfiltered] at honce
        simp at honce
  rw [lookup_eq_head?, lookup_eq_head?, heq]

/-- What stands under a key that comes only once. -/
theorem lookup_self {name : String} {other : Json}
    (honce : occursOnce (front ++ (some name, other) :: back) name = true) (json : Json) :
    (front ++ (some name, json) :: back).lookup (some name) = some json := by
  rw [occursOnce, decide_eq_true_iff, List.countP_append, List.countP_cons_of_pos (by simp)]
    at honce
  have hfront : front.filter (·.1 == some name) = [] := by
    rw [← List.length_eq_zero_iff, ← List.countP_eq_length_filter]
    omega
  rw [lookup_eq_head?, List.filter_append, hfront, List.filter_cons_of_pos (by simp)]
  rfl

/-- What stands under another key is not asked for. -/
theorem lookup_other {name other : String} (h : other ≠ name) (json json' : Json) :
    (front ++ (some name, json) :: back).lookup (some other)
      = (front ++ (some name, json') :: back).lookup (some other) := by
  have hskipped : ∀ value, ((some name, value) :: back).filter (·.1 == some other)
      = back.filter (·.1 == some other) := fun value =>
    List.filter_cons_of_neg (by simpa using Ne.symm h)
  rw [lookup_eq_head?, lookup_eq_head?, List.filter_append, List.filter_append, hskipped, hskipped]

/-! ## Objects -/

/-- **The values of a record's fields depend on what stands under their names only.** -/
theorem fields?_congr
    (hkeys : fields'.all (fun field => field.1.isSome) = fields.all (fun field => field.1.isSome))
    (hfields : ∀ name ∈ names,
      (fields'.filter (·.1 == some name)).Perm (fields.filter (·.1 == some name))) :
    (object fields').fields? names = (object fields).fields? names := by
  have honce : ∀ name ∈ names, occursOnce fields' name = occursOnce fields name := by
    intro name hname
    rw [occursOnce, occursOnce, List.countP_eq_length_filter, List.countP_eq_length_filter,
      (hfields name hname).length_eq]
  have hall : names.all (occursOnce fields') = names.all (occursOnce fields) := by
    rw [Bool.eq_iff_iff, List.all_eq_true, List.all_eq_true]
    exact forall₂_congr fun name hname => by rw [honce name hname]
  rw [fields?, fields?, hkeys, hall]
  split
  next hreadable =>
    have hreadable := List.all_eq_true.1 (Bool.and_eq_true_iff.1 hreadable).2
    refine congrArg some (List.map_congr_left fun name hname => ?_)
    exact lookup_eq_of_perm (hfields name hname) (of_decide_eq_true (hreadable name hname))
  next => rfl

/-- The values of a record's fields are those that stand under their names. -/
theorem fields?_object_of_ne (h : (object fields).fields? names ≠ none) :
    (object fields).fields? names = some (names.map fun name => fields.lookup (some name)) := by
  rw [fields?] at h ⊢
  split
  · rfl
  · rename_i hnot
    exact absurd (if_neg hnot) h

/-- The order of the fields does not matter. -/
theorem fields?_perm (h : fields'.Perm fields) (names : List String) :
    (object fields').fields? names = (object fields).fields? names :=
  fields?_congr (h.all_eq) fun _ _ => h.filter _

/-- The second list has all fields of the first one, and between them some whose names are not among
the given ones. -/
inductive Extended (names : List String) :
    List (Option String × Json) → List (Option String × Json) → Prop where
  | nil : Extended names [] []
  | keep {fields fields' : List (Option String × Json)} (field : Option String × Json) :
      Extended names fields fields' → Extended names (field :: fields) (field :: fields')
  | insert {fields fields' : List (Option String × Json)} {name : String} (value : Json) :
      name ∉ names → Extended names fields fields' →
      Extended names fields ((some name, value) :: fields')

/-- Fields of other names are passed over. -/
theorem fields?_extended (h : Extended names fields fields') :
    (object fields').fields? names = (object fields).fields? names := by
  refine fields?_congr ?_ fun name hname => ?_
  · induction h with
    | nil => rfl
    | keep field _ ih => rw [List.all_cons, List.all_cons, ih]
    | insert value _ _ ih => rw [List.all_cons, ih, Option.isSome_some, Bool.true_and]
  · induction h with
    | nil => exact .refl _
    | keep field _ ih =>
        rw [List.filter_cons, List.filter_cons]
        split
        · exact ih.cons field
        · exact ih
    | insert value hother _ ih =>
        rw [List.filter_cons_of_neg]
        · exact ih
        · intro heq
          exact hother (Option.some.inj (beq_iff_eq.1 heq) ▸ hname)

/-- **A field of a record must not come twice.** -/
theorem fields?_of_duplicate {name : String} (hname : name ∈ names)
    (h : List.Duplicate (some name) (fields.map Prod.fst)) : (object fields).fields? names = none := by
  have htwice : occursOnce fields name = false := by
    have hcount := (List.duplicate_iff_sublist.1 h).countP_le (p := (· == some name))
    have htwo : [some name, some name].countP (· == some name) = 2 := by simp
    rw [List.countP_map, htwo] at hcount
    exact decide_eq_false fun honce => absurd (Nat.le_trans hcount honce) (Nat.not_succ_le_self 1)
  have hall : names.all (occursOnce fields) = false :=
    List.all_eq_false.2 ⟨name, hname, by rw [htwice]; decide⟩
  rw [fields?, hall, Bool.and_false]
  rfl

/-! ## One field of a record -/

/-- Whatever value is put there, it is that of the field between the given ones, and the values of
the other fields do not depend on it. -/
def OneOfFields (before : List String) (name : String) (after : List String)
    (around : Json → Json) : Prop :=
  (∀ json, (around json).fields? (before ++ name :: after) = none)
    ∨ ∃ left right, left.length = before.length ∧ right.length = after.length
        ∧ ∀ json, (around json).fields? (before ++ name :: after)
          = some (left ++ some json :: right)

/-- A value under the name of a field. -/
theorem oneOfFields_object {before after : List String} {name : String}
    (hnodup : (before ++ name :: after).Nodup) (front back : List (Option String × Json)) :
    OneOfFields before name after fun json => object (front ++ (some name, json) :: back) := by
  -- whether the object can be read at all is told by its keys
  have hkeys : ∀ json, (front ++ (some name, json) :: back).all (fun field => field.1.isSome)
      = (front ++ (some name, null) :: back).all (fun field => field.1.isSome) := by
    intro json
    simp only [List.all_append, List.all_cons]
  have honce : ∀ json, occursOnce (front ++ (some name, json) :: back)
      = occursOnce (front ++ (some name, null) :: back) := by
    intro json
    funext other
    simp only [occursOnce, List.countP_append, List.countP_cons]
  cases hreadable : (front ++ (some name, null) :: back).all (fun field => field.1.isSome)
      && (before ++ name :: after).all (occursOnce (front ++ (some name, null) :: back)) with
  | false =>
      refine .inl fun json => ?_
      rw [fields?, hkeys, honce, hreadable]
      rfl
  | true =>
      let value (other : String) : Option Json :=
        (front ++ (some name, null) :: back).lookup (some other)
      refine .inr ⟨before.map value, after.map value, List.length_map .., List.length_map ..,
        fun json => ?_⟩
      have hself : (front ++ (some name, json) :: back).lookup (some name) = some json :=
        lookup_self (List.all_eq_true.1 (Bool.and_eq_true_iff.1 hreadable).2 name (by simp)) json
      obtain ⟨-, hafter, hdisjoint⟩ := List.nodup_append.1 hnodup
      have hbefore : ∀ other ∈ before, other ≠ name := fun other hother =>
        hdisjoint other hother name List.mem_cons_self
      have hafter : ∀ other ∈ after, other ≠ name := fun other hother heq =>
        (List.nodup_cons.1 hafter).1 (heq ▸ hother)
      rw [fields?, hkeys, honce, hreadable, if_pos rfl, List.map_append, List.map_cons, hself,
        List.map_congr_left fun other hother => lookup_other (hbefore other hother) json null,
        List.map_congr_left fun other hother => lookup_other (hafter other hother) json null]

/-- A value at the place of a field. -/
theorem oneOfFields_array {before after : List String} {name : String} {front : List Json}
    (hfront : front.length = before.length) (back : List Json) :
    OneOfFields before name after fun json => array (front ++ json :: back) := by
  have hlength : ∀ json, (front ++ json :: back).length = front.length + (back.length + 1) :=
    fun json => by rw [List.length_append, List.length_cons]
  have hnames : (before ++ name :: after).length = front.length + (after.length + 1) := by
    rw [List.length_append, List.length_cons, hfront]
  by_cases hfits : back.length ≤ after.length
  · refine .inr ⟨front.map some,
      back.map some ++ List.replicate (after.length - back.length) none,
      by rw [List.length_map, hfront], ?_, fun json => ?_⟩
    · rw [List.length_append, List.length_map, List.length_replicate]
      omega
    · rw [fields?, hlength, hnames, if_pos (by omega), List.map_append, List.map_cons,
        List.append_assoc, List.cons_append, Nat.add_sub_add_left, Nat.add_sub_add_right]
  · refine .inl fun json => ?_
    rw [fields?, hlength, hnames, if_neg (by omega)]

/-- An array that is as long as a record has fields gives a value to each of them. -/
theorem fields?_array {items : List Json} (h : items.length = names.length) :
    (array items).fields? names = some (items.map some) := by
  rw [fields?, if_pos (Nat.le_of_eq h), h, Nat.sub_self, List.replicate_zero, List.append_nil]

end ClassDiagram.Json
