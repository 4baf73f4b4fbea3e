import ClassDiagram.Text.Blank

/-!
# Taking texts apart

A text that was put together can be taken apart again where a mark stands that is found nowhere
else. There is one way to cut it at the first mark (`Text.cut_at_first`) and one to cut it at the
last one (`Text.cut_at_last`). A mark of several characters must not overlap another one for that,
and it does not if its first character does not come again in it.

Lines are put together with a line feed behind each, so a text of lines has them back
(`Text.ofLines_injective`).
-/

namespace ClassDiagram.Text

/-! ## Cuts -/

/-- There is one way to cut a list where something comes first. -/
theorem cut_at_first {α : Type} [DecidableEq α] {c : α} {s s' t t' : List α} (hs : c ∉ s)
    (hs' : c ∉ s') (h : s ++ c :: t = s' ++ c :: t') : s = s' ∧ t = t' := by
  have hsplit := congrArg (List.splitOn c) h
  rw [List.splitOn_append_cons_self_of_not_mem hs,
    List.splitOn_append_cons_self_of_not_mem hs'] at hsplit
  obtain ⟨rfl, -⟩ := List.cons.inj hsplit
  exact ⟨rfl, (List.cons.inj (List.append_cancel_left h)).2⟩

section CutAtLast

variable {c : Char} {mark s s' t t' : List Char}

/-- Where the last mark begins, no other one follows: it would begin either behind the mark or in
the middle of it. -/
theorem no_mark_behind {d : Char} {between : List Char} (hc : c ∉ mark)
    (ht : ¬ c :: mark <:+: t) : c :: (mark ++ t) ≠ d :: (between ++ c :: (mark ++ t')) := by
  intro h
  rcases List.append_eq_append_iff.1 (List.cons.inj h).2 with
    ⟨rest, -, hrest⟩ | ⟨rest, hmark, hrest⟩
  · exact ht ⟨rest, t', by rw [hrest, List.append_assoc, List.cons_append]⟩
  · cases rest with
    | nil => exact ht ⟨[], t', hrest⟩
    | cons first rest =>
        obtain ⟨rfl, -⟩ := List.cons.inj hrest
        exact hc (hmark ▸ List.mem_append_right _ List.mem_cons_self)

/-- There is one way to cut a text where a mark comes last. -/
theorem cut_at_last (hc : c ∉ mark) (ht : ¬ c :: mark <:+: t) (ht' : ¬ c :: mark <:+: t')
    (h : s ++ c :: (mark ++ t) = s' ++ c :: (mark ++ t')) : s = s' ∧ t = t' := by
  rcases List.append_eq_append_iff.1 h with ⟨between, hs', hrest⟩ | ⟨between, hs, hrest⟩
  · cases between with
    | nil =>
        rw [List.append_nil] at hs'
        exact ⟨hs'.symm, List.append_cancel_left (List.cons.inj hrest).2⟩
    | cons d between => exact absurd hrest (no_mark_behind hc ht)
  · cases between with
    | nil =>
        rw [List.append_nil] at hs
        exact ⟨hs, (List.append_cancel_left (List.cons.inj hrest).2).symm⟩
    | cons d between => exact absurd hrest (no_mark_behind hc ht')

end CutAtLast

/-! ## Words and lines -/

/-- The text has no line feed in it. -/
def IsOneLine (text : String) : Prop :=
  '\n' ∉ text.toList

instance (text : String) : Decidable (IsOneLine text) :=
  inferInstanceAs (Decidable ('\n' ∉ text.toList))

theorem IsOneLine.append {text text' : String} (h : IsOneLine text) (h' : IsOneLine text') :
    IsOneLine (text ++ text') := by
  rw [IsOneLine, String.toList_append, List.mem_append]
  exact not_or.2 ⟨h, h'⟩

/-- The text is a name as source code has it. -/
structure IsWord (text : String) : Prop where
  ne_empty : text ≠ ""
  noBlank : text.toList.any isBlank = false
  noParenthesis : '(' ∉ text.toList ∧ ')' ∉ text.toList

instance (text : String) : Decidable (IsWord text) :=
  decidable_of_iff (text ≠ "" ∧ text.toList.any isBlank = false
      ∧ '(' ∉ text.toList ∧ ')' ∉ text.toList)
    ⟨fun h => ⟨h.1, h.2.1, h.2.2⟩, fun h => ⟨h.ne_empty, h.noBlank, h.noParenthesis⟩⟩

theorem IsWord.isOneLine {text : String} (h : IsWord text) : IsOneLine text :=
  fun hmem => List.any_eq_false.1 h.noBlank _ hmem (by decide)

theorem IsWord.space_notMem {text : String} (h : IsWord text) : ' ' ∉ text.toList :=
  fun hmem => List.any_eq_false.1 h.noBlank _ hmem (by decide)

/-- The text of some lines, with a line feed behind each. -/
def ofLines (lines : List String) : String :=
  String.join (lines.map (· ++ "\n"))

theorem toList_ofLines_cons (line : String) (rest : List String) :
    (ofLines (line :: rest)).toList = line.toList ++ '\n' :: (ofLines rest).toList := by
  rw [ofLines, List.map_cons, String.join_cons, String.toList_append, String.toList_append,
    List.append_assoc]
  rfl

variable {lines lines' : List String}

/-- Each line is found in front of a line feed, and nothing is left behind the last one. -/
theorem splitOn_ofLines (h : ∀ line ∈ lines, IsOneLine line) :
    (ofLines lines).toList.splitOn '\n' = lines.map String.toList ++ [[]] := by
  induction lines with
  | nil => rfl
  | cons line rest ih =>
      obtain ⟨hline, hrest⟩ := List.forall_mem_cons.1 h
      rw [toList_ofLines_cons, List.splitOn_append_cons_self_of_not_mem hline, ih hrest]
      rfl

/-- **Lines can be told from their text.** -/
theorem ofLines_injective (h : ∀ line ∈ lines, IsOneLine line)
    (h' : ∀ line ∈ lines', IsOneLine line) (heq : ofLines lines = ofLines lines') :
    lines = lines' := by
  have hsplit := splitOn_ofLines h
  rw [heq, splitOn_ofLines h'] at hsplit
  have hlines := List.append_cancel_right hsplit
  exact ((List.map_inj_right fun _ _ => String.toList_inj.1).1 hlines).symm

/-- There are as many line feeds as lines. -/
theorem count_ofLines (h : ∀ line ∈ lines, IsOneLine line) :
    (ofLines lines).toList.count '\n' = lines.length := by
  induction lines with
  | nil => rfl
  | cons line rest ih =>
      obtain ⟨hline, hrest⟩ := List.forall_mem_cons.1 h
      have hcount : line.toList.count '\n' = 0 := List.count_eq_zero.2 hline
      rw [toList_ofLines_cons, List.count_append, List.count_cons_self, hcount, ih hrest,
        List.length_cons, Nat.zero_add]

/-- The last line has an end like the others. -/
theorem getLast?_ofLines (h : lines ≠ []) : (ofLines lines).toList.getLast? = some '\n' := by
  induction lines with
  | nil => exact absurd rfl h
  | cons line rest ih =>
      rw [toList_ofLines_cons, List.getLast?_append, List.getLast?_cons]
      cases rest with
      | nil => rfl
      | cons next others =>
          rw [ih (List.cons_ne_nil _ _)]
          rfl

end ClassDiagram.Text
