import ClassDiagram.Name
import Mathlib.Data.List.DropRight
import Mathlib.Data.List.TakeWhile

/-!
# How names are spelled

An entry of a base list is written with blanks around it, with generic arguments and with some
of the namespaces in front. This file says what the operations on names make of that.

`Name.Spells` is what is meant by a name that is written as that of a type. The point of the
file is `Name.spells_of_mem_candidates`: what is written spells every type that is called like a
candidate for it. It does not matter that the generic arguments are put back before the name is
read again.
-/

namespace ClassDiagram

/-! ## Blanks -/

namespace Text

theorem dropEndWhile_eq_rdropWhile (p : Char → Bool) (cs : List Char) :
    dropEndWhile p cs = cs.rdropWhile p := rfl

/-- There is no blank in front and none behind. -/
def Tight (text : String) : Prop :=
  text.toList.dropWhile isBlank = text.toList ∧ text.toList.rdropWhile isBlank = text.toList

theorem trimmed_of_tight {text : String} (h : Tight text) : trimmed text = text := by
  rw [trimmed, dropEndWhile_eq_rdropWhile, h.1, h.2, String.ofList_toList]

theorem tight_trimmed (text : String) : Tight (trimmed text) := by
  rw [Tight, trimmed, String.toList_ofList, dropEndWhile_eq_rdropWhile]
  refine ⟨?_, List.rdropWhile_idempotent _ _⟩
  -- what is cut off at the end leaves the first character as it is
  rw [List.dropWhile_eq_self_iff]
  intro hpos
  have hinitial := List.rdropWhile_prefix isBlank (text.toList.dropWhile isBlank)
  rw [hinitial.getElem hpos]
  exact List.dropWhile_get_zero_not isBlank text.toList (hpos.trans_le hinitial.length_le)

theorem trimmed_trimmed (text : String) : trimmed (trimmed text) = trimmed text :=
  trimmed_of_tight (tight_trimmed text)

/-- Blanks in front of a namespace go, and nothing else does. -/
theorem toList_trimmed_qualified {space text : String} (h : Tight text) (hne : text ≠ "") :
    (trimmed (space ++ "." ++ text)).toList
      = space.toList.dropWhile isBlank ++ '.' :: text.toList := by
  have hchars : (space ++ "." ++ text).toList = space.toList ++ '.' :: text.toList := by
    rw [String.toList_append, String.toList_append, List.append_assoc]
    rfl
  have hdot : ('.' :: text.toList).dropWhile isBlank = '.' :: text.toList :=
    List.dropWhile_cons_of_neg (by decide)
  have hfront : (space.toList ++ '.' :: text.toList).dropWhile isBlank
      = space.toList.dropWhile isBlank ++ '.' :: text.toList := by
    rw [List.dropWhile_append, hdot]
    split
    next hblank => rw [List.isEmpty_iff.1 hblank, List.nil_append]
    next => rfl
  have htext : text.toList ≠ [] := fun hnil => hne (String.toList_eq_nil_iff.1 hnil)
  rw [trimmed, String.toList_ofList, dropEndWhile_eq_rdropWhile, hchars, hfront,
    List.rdropWhile_eq_self_iff]
  -- the text has a last character, and this is no blank
  intro hall
  rw [List.getLast_append_of_ne_nil _ (List.cons_ne_nil _ _), List.getLast_cons htext]
  exact List.rdropWhile_eq_self_iff.1 h.2 htext

end Text

namespace Name

/-! ## Generic arguments -/

theorem withoutGenerics_append_generics (name : String) :
    withoutGenerics name ++ generics name = name := by
  rw [withoutGenerics, generics, ← String.ofList_append, List.takeWhile_append_dropWhile,
    String.ofList_toList]

theorem not_mem_withoutGenerics (name : String) : '<' ∉ (withoutGenerics name).toList := by
  rw [withoutGenerics, String.toList_ofList]
  intro h
  simpa using List.mem_takeWhile_imp h

theorem referred_trimmed (entry : String) : referred (Text.trimmed entry) = referred entry := by
  rw [referred, Text.trimmed_trimmed, referred]

/-- The name that an entry refers to, with the generic arguments behind it, is the entry. -/
theorem referred_append_generics (entry : String) :
    referred entry ++ generics (Text.trimmed entry) = Text.trimmed entry :=
  withoutGenerics_append_generics (Text.trimmed entry)

/-- A namespace in front of an entry stays in front of what the entry refers to. -/
theorem exists_referred_qualified {space entry : String} (hspace : '<' ∉ space.toList)
    (hne : referred entry ≠ "") :
    ∃ qualifier, referred (space ++ "." ++ Text.trimmed entry)
      = qualifier ++ "." ++ referred entry := by
  have htext : Text.trimmed entry ≠ "" := by
    intro hempty
    rw [referred, hempty] at hne
    exact hne rfl
  refine ⟨String.ofList (space.toList.dropWhile Text.isBlank), String.toList_inj.1 ?_⟩
  have hfront : ∀ c ∈ space.toList.dropWhile Text.isBlank, decide (c ≠ '<') = true := by
    intro c hc
    rw [decide_eq_true_iff]
    rintro rfl
    exact hspace ((List.dropWhile_suffix _).subset hc)
  rw [referred, withoutGenerics, String.toList_ofList,
    Text.toList_trimmed_qualified (Text.tight_trimmed entry) htext,
    List.takeWhile_append_of_pos hfront, List.takeWhile_cons_of_pos (by decide)]
  simp [referred, withoutGenerics]

/-! ## Namespaces -/

theorem eq_dotted_iff {name front behind : String} :
    name = front ++ "." ++ behind ↔ name.toList = front.toList ++ '.' :: behind.toList := by
  rw [← String.toList_inj, String.toList_append, String.toList_append, List.append_assoc]
  rfl

/-- The parts before dots are what a dot follows. -/
theorem mem_beforeDots_iff {cs part : List Char} :
    part ∈ beforeDots cs ↔ ∃ behind, cs.reverse = part ++ '.' :: behind := by
  induction cs with
  | nil => simp [beforeDots]
  | cons c rest ih =>
      -- the dot is the last character, or it comes before that
      have hlast : (∃ behind, (c :: rest).reverse = part ++ '.' :: behind)
          ↔ (c = '.' ∧ part = rest.reverse)
            ∨ ∃ behind, rest.reverse = part ++ '.' :: behind := by
        rw [List.reverse_cons]
        constructor
        · rintro ⟨behind, hbehind⟩
          rcases behind.eq_nil_or_concat with rfl | ⟨behind, last, rfl⟩
          · obtain ⟨hpart, hdot⟩ := List.append_inj' hbehind rfl
            exact .inl ⟨List.singleton_inj.1 hdot, hpart.symm⟩
          · rw [List.concat_eq_append, ← List.cons_append, ← List.append_assoc] at hbehind
            exact .inr ⟨behind, (List.append_inj' hbehind rfl).1⟩
        · rintro (⟨rfl, rfl⟩ | ⟨behind, hbehind⟩)
          · exact ⟨[], rfl⟩
          · refine ⟨behind ++ [c], ?_⟩
            rw [hbehind, List.append_assoc, List.cons_append]
      rw [hlast, ← ih, beforeDots]
      split
      next hdot => rw [List.mem_cons, and_iff_right hdot]
      next hdot => rw [or_iff_right fun h => hdot h.1]

/-- The namespaces around a namespace stand at its front. -/
theorem prefix_of_mem_enclosing {scope space : String} (h : space ∈ enclosing scope) :
    space.toList <+: scope.toList := by
  rcases List.mem_cons.1 h with rfl | h
  · exact List.prefix_rfl
  · obtain ⟨part, hpart, rfl⟩ := List.mem_map.1 h
    obtain ⟨behind, hbehind⟩ := mem_beforeDots_iff.1 hpart
    rw [List.reverse_reverse] at hbehind
    rw [String.toList_ofList, hbehind]
    exact List.prefix_append _ _

/-- A namespace stands at the front of the names in it. -/
theorem prefix_inNamespace (scope identifier : String) :
    scope.toList <+: (inNamespace (some scope) identifier).toList := by
  unfold inNamespace
  dsimp only
  split
  next hempty => rw [hempty]; exact List.nil_prefix
  next =>
    rw [String.toList_append, String.toList_append, List.append_assoc]
    exact List.prefix_append _ _

/-! ## Written names -/

/-- What is written is the name of the type, in full or without some namespaces in front. -/
def Spells (written type : String) : Prop :=
  written = type ∨ ∃ qualifier, type = qualifier ++ "." ++ written

theorem spells_iff {written type : String} :
    Spells written type ↔ written = type ∨ '.' :: written.toList <:+ type.toList := by
  refine or_congr_right ⟨?_, ?_⟩
  · rintro ⟨qualifier, hqualifier⟩
    exact ⟨qualifier.toList, (eq_dotted_iff.1 hqualifier).symm⟩
  · rintro ⟨qualifier, hqualifier⟩
    refine ⟨String.ofList qualifier, eq_dotted_iff.2 ?_⟩
    rw [← hqualifier, String.toList_ofList]

instance (written type : String) : Decidable (Spells written type) :=
  decidable_of_iff _ spells_iff.symm

/-- What is written spells every type that is called like a candidate for it. -/
theorem spells_of_mem_candidates {scope : Option String} {identifier entry candidate : String}
    (hne : referred entry ≠ "") (hcandidate : candidate ∈ candidates scope (referred entry))
    (hname : referred (candidate ++ generics (Text.trimmed entry))
      = inNamespace scope identifier) :
    Spells (referred entry) (inNamespace scope identifier) := by
  have hbare : candidate = referred entry →
      Spells (referred entry) (inNamespace scope identifier) := by
    rintro rfl
    rw [referred_append_generics, referred_trimmed] at hname
    exact .inl hname
  rcases List.mem_append.1 hcandidate with hscoped | hglobal
  · obtain ⟨space, hspace, rfl⟩ := List.mem_map.1 hscoped
    by_cases hempty : space = ""
    · exact hbare (if_pos hempty)
    obtain ⟨around, haround, henclosing⟩ := List.mem_flatMap.1 hspace
    obtain rfl := Option.mem_toList.1 haround
    -- the type has no generic arguments in its name, so there are none in its namespace
    have hplain : '<' ∉ space.toList := by
      intro hmem
      have hscope := (prefix_of_mem_enclosing henclosing).subset hmem
      have htype := (prefix_inNamespace around identifier).subset hscope
      rw [← hname] at htype
      exact not_mem_withoutGenerics _ htype
    obtain ⟨qualifier, hqualifier⟩ := exists_referred_qualified hplain hne
    have hentry : inNamespace (some space) (referred entry) ++ generics (Text.trimmed entry)
        = space ++ "." ++ Text.trimmed entry := by
      rw [inNamespace, if_neg hempty, String.append_assoc, referred_append_generics]
    rw [hentry, hqualifier] at hname
    exact .inr ⟨qualifier, hname.symm⟩
  · exact hbare (List.mem_singleton.1 hglobal)

example : Spells "Core.Animal" "Zoo.Core.Animal" ∧ ¬ Spells "Wild.Animal" "Zoo.Core.Animal" := by
  decide

end Name

end ClassDiagram
