import ClassDiagram.Proofs.BaseEntries

/-!
# How plain the names in a diagram are

The names that a type is connected to are read off entries with blanks around them and generic
arguments behind them. What is left of an entry has no generic arguments and no blank in front of
it. It has no blank behind it either, unless the entry has one between the name and the generic
arguments: blanks are taken off before the arguments are, and not once more after that
(`Name.tight_referred_iff`).

So the names of a diagram are distinct, in the order in which they come first, and in a form that
does not change any more, if and only if no entry has such a gap
(`Connections.plainNames_distinctReferred`). With a gap the same interface may be drawn twice.
-/

namespace ClassDiagram

/-! ## Entries with a gap -/

/-- Whether blanks are left at the end is told by the last character. -/
theorem Text.rdropWhile_concat_eq_self_iff {front : List Char} {last : Char} :
    (front ++ [last]).rdropWhile isBlank = front ++ [last] ↔ isBlank last = false := by
  rw [List.rdropWhile_concat]
  cases isBlank last with
  | true =>
      -- what is left of the front is too short
      have hlength := (List.rdropWhile_prefix isBlank front).length_le
      refine iff_of_false (fun heq => ?_) (by decide)
      have heq := congrArg List.length heq
      rw [if_pos rfl, List.length_append] at heq
      simp at heq
      omega
  | false => simp

namespace Name

/-- The entry has a blank between the name and its generic arguments, as in `IFoo <int>`. -/
def HasGap (entry : String) : Prop :=
  ∃ name blank arguments, (Text.trimmed entry).toList = name ++ blank :: '<' :: arguments
    ∧ '<' ∉ name ∧ Text.isBlank blank = true

theorem toList_referred (entry : String) :
    (referred entry).toList = (Text.trimmed entry).toList.takeWhile (· ≠ '<') := by
  rw [referred, withoutGenerics, String.toList_ofList]

theorem not_mem_referred (entry : String) : '<' ∉ (referred entry).toList :=
  not_mem_withoutGenerics (Text.trimmed entry)

/-- No blank is left in front of a name. -/
theorem dropWhile_referred (entry : String) :
    (referred entry).toList.dropWhile Text.isBlank = (referred entry).toList := by
  rw [List.dropWhile_eq_self_iff]
  intro hpos
  -- the name begins as the entry does without the blanks around it
  have hinitial : (referred entry).toList <+: (Text.trimmed entry).toList := by
    rw [toList_referred]
    exact List.takeWhile_prefix _
  rw [hinitial.getElem hpos]
  exact List.dropWhile_eq_self_iff.1 (Text.tight_trimmed entry).1 (hpos.trans_le hinitial.length_le)

/-- Generic arguments begin with a bracket, if there are any. -/
theorem toList_generics_cases (name : String) :
    (generics name).toList = [] ∨ ∃ arguments, (generics name).toList = '<' :: arguments := by
  rw [generics, String.toList_ofList]
  have hhead := List.head?_dropWhile_not (· ≠ '<') name.toList
  cases hrest : name.toList.dropWhile (· ≠ '<') with
  | nil => exact .inl rfl
  | cons c arguments =>
      rw [hrest] at hhead
      have hc : c = '<' := by simpa using hhead
      exact .inr ⟨arguments, by rw [hc]⟩

/-- What stands in front of the first `<` of an entry with a gap. -/
theorem toList_referred_of_gap {entry : String} {name arguments : List Char} {blank : Char}
    (hentry : (Text.trimmed entry).toList = name ++ blank :: '<' :: arguments) (hname : '<' ∉ name)
    (hblank : Text.isBlank blank = true) : (referred entry).toList = name ++ [blank] := by
  have hfront : ∀ c ∈ name ++ [blank], decide (c ≠ '<') = true := by
    intro c hc
    rw [decide_eq_true_iff]
    rintro rfl
    rcases List.mem_append.1 hc with hc | hc
    · exact hname hc
    · rw [← List.mem_singleton.1 hc] at hblank
      exact absurd hblank (by decide)
  rw [toList_referred, hentry, List.append_cons, List.takeWhile_append_of_pos hfront,
    List.takeWhile_cons_of_neg (by decide), List.append_nil]

/-- What is left of an entry ends with a blank just if the entry has a gap. -/
theorem hasGap_iff {entry : String} :
    HasGap entry
      ↔ ∃ front blank, (referred entry).toList = front ++ [blank] ∧ Text.isBlank blank = true := by
  constructor
  · rintro ⟨name, blank, arguments, hentry, hname, hblank⟩
    exact ⟨name, blank, toList_referred_of_gap hentry hname hblank, hblank⟩
  · rintro ⟨front, blank, hreferred, hblank⟩
    have hentry : (Text.trimmed entry).toList
        = front ++ blank :: (generics (Text.trimmed entry)).toList := by
      have hsplit := congrArg String.toList (referred_append_generics entry)
      rw [String.toList_append, hreferred, List.append_assoc] at hsplit
      exact hsplit.symm
    rcases toList_generics_cases (Text.trimmed entry) with hnone | ⟨arguments, hsome⟩
    · -- without generic arguments the trimmed entry itself would end with the blank
      have htight := (Text.tight_trimmed entry).2
      rw [hentry, hnone, Text.rdropWhile_concat_eq_self_iff, hblank] at htight
      exact absurd htight (by decide)
    · refine ⟨front, blank, arguments, by rw [hentry, hsome], fun hmem => ?_, hblank⟩
      exact not_mem_referred entry (hreferred ▸ List.mem_append_left _ hmem)

/-- **A blank is left behind a name just if the entry has a gap.** -/
theorem tight_referred_iff {entry : String} : Text.Tight (referred entry) ↔ ¬ HasGap entry := by
  rw [Text.Tight, and_iff_right (dropWhile_referred entry), hasGap_iff]
  rcases List.eq_nil_or_concat' (referred entry).toList with hnil | ⟨front, last, hlast⟩
  · rw [hnil]
    simp
  · rw [hlast, Text.rdropWhile_concat_eq_self_iff]
    constructor
    · rintro hfalse ⟨front', blank, heq, hblank⟩
      obtain rfl := List.singleton_inj.1 (List.append_inj' heq rfl).2
      exact absurd (hfalse.symm.trans hblank) (by decide)
    · intro hnone
      exact Bool.eq_false_iff.2 fun hblank => hnone ⟨front, last, rfl, hblank⟩

/-- Of an entry with a gap, something is left. -/
theorem referred_ne_empty_of_hasGap {entry : String} (h : HasGap entry) : referred entry ≠ "" := by
  obtain ⟨front, blank, hreferred, -⟩ := hasGap_iff.1 h
  intro hempty
  rw [hempty] at hreferred
  simp at hreferred

/-- Nothing but blanks around it is taken off a name without generic arguments. -/
theorem referred_of_not_mem {name : String} (h : '<' ∉ name.toList) :
    referred name = Text.trimmed name := by
  have hall : ∀ c ∈ (Text.trimmed name).toList, decide (c ≠ '<') = true := by
    intro c hc
    rw [decide_eq_true_iff]
    rintro rfl
    rw [Text.trimmed, String.toList_ofList, Text.dropEndWhile_eq_rdropWhile] at hc
    exact h ((List.dropWhile_suffix _).subset ((List.rdropWhile_prefix _ _).subset hc))
  rw [← String.toList_inj, toList_referred, List.takeWhile_eq_self_iff.2 hall]

theorem distinct_of_nodup {names : List String} (h : names.Nodup) : distinct names = names := by
  induction names using List.reverseRecOn with
  | nil => rfl
  | append_singleton names last ih =>
      obtain ⟨hnames, -, hlast⟩ := List.nodup_append.1 h
      have hnew : last ∉ names := fun hmem => hlast last hmem last (List.mem_singleton_self _) rfl
      rw [distinct_concat, ih hnames, addNew_of_not_mem hnew]

end Name

/-! ## The names in a diagram -/

namespace Connections

/-- What the names that entries refer to are like. -/
structure PlainNames (entries names : List String) : Prop where
  distinct : names.Nodup
  /-- They are what is left of the entries, each where it comes first. -/
  firstOccurrences : names = ((entries.map Name.referred).filter (· ≠ "")).eraseDups
  /-- Something is left of each, there are no generic arguments and no blanks in front. -/
  plain : ∀ name ∈ names, name ≠ "" ∧ '<' ∉ name.toList
    ∧ name.toList.dropWhile Text.isBlank = name.toList
  /-- There are no blanks behind them either, as long as no entry has a gap. -/
  tight_iff : (∀ name ∈ names, Text.Tight name) ↔ ∀ entry ∈ entries, ¬ Name.HasGap entry
  /-- Taken for entries again, the names are what they are, as long as no entry has a gap. -/
  settled_iff : distinctReferred names = names ↔ ∀ entry ∈ entries, ¬ Name.HasGap entry

variable {entries : List String}

theorem nodup_distinctReferred (entries : List String) : (distinctReferred entries).Nodup :=
  Name.nodup_distinct _

theorem plain_of_mem_distinctReferred {name : String} (h : name ∈ distinctReferred entries) :
    name ≠ "" ∧ '<' ∉ name.toList ∧ name.toList.dropWhile Text.isBlank = name.toList := by
  obtain ⟨hne, entry, -, rfl⟩ := mem_distinctReferred.1 h
  exact ⟨hne, Name.not_mem_referred entry, Name.dropWhile_referred entry⟩

theorem tight_distinctReferred_iff :
    (∀ name ∈ distinctReferred entries, Text.Tight name)
      ↔ ∀ entry ∈ entries, ¬ Name.HasGap entry := by
  constructor
  · intro htight entry hentry hgap
    have hmem : Name.referred entry ∈ distinctReferred entries :=
      mem_distinctReferred.2 ⟨Name.referred_ne_empty_of_hasGap hgap, entry, hentry, rfl⟩
    exact Name.tight_referred_iff.1 (htight _ hmem) hgap
  · intro hgaps name hname
    obtain ⟨-, entry, hentry, rfl⟩ := mem_distinctReferred.1 hname
    exact Name.tight_referred_iff.2 (hgaps entry hentry)

/-- Names that are there are what is left of themselves just if no blanks are around them. -/
theorem distinctReferred_distinctReferred_iff :
    distinctReferred (distinctReferred entries) = distinctReferred entries
      ↔ ∀ name ∈ distinctReferred entries, Text.Tight name := by
  have hreferred : ∀ name ∈ distinctReferred entries, Name.referred name = Text.trimmed name :=
    fun name hname => Name.referred_of_not_mem (plain_of_mem_distinctReferred hname).2.1
  constructor
  · intro hsettled name hname
    rw [← hsettled] at hname
    obtain ⟨-, other, hother, rfl⟩ := mem_distinctReferred.1 hname
    rw [hreferred other hother]
    exact Text.tight_trimmed other
  · intro htight
    have hself : (distinctReferred entries).map Name.referred = distinctReferred entries := by
      refine (List.map_congr_left fun name hname => ?_).trans (List.map_id _)
      rw [hreferred name hname, Text.trimmed_of_tight (htight name hname), id]
    have hkept : (distinctReferred entries).filter (· ≠ "") = distinctReferred entries :=
      List.filter_eq_self.2 fun name hname => decide_eq_true (plain_of_mem_distinctReferred hname).1
    rw [distinctReferred, hself, hkept, Name.distinct_of_nodup (nodup_distinctReferred entries)]

/-- **The names that a diagram shows are plain.** Interfaces are distinct, in the order in which
they come first, without generic arguments and blanks in front of them, and so is the base, which
is no root type. Only of entries with a gap a blank is left behind, and only they are what keeps the
names from being the same when they are taken for entries again. -/
theorem plainNames_distinctReferred (style : DiagramStyle) (entries : List String)
    (symbol : Symbol) :
    PlainNames entries (distinctReferred entries)
      ∧ ∀ name, baseOf? style symbol = some name →
          name ≠ "" ∧ '<' ∉ name.toList ∧ name.toList.dropWhile Text.isBlank = name.toList
          ∧ style.isRoot name = false
          ∧ ((∀ entry, symbol.base = some entry → ¬ Name.HasGap entry) ↔ Text.Tight name) := by
  refine ⟨?_, fun name hname => ?_⟩
  · exact
      { distinct := nodup_distinctReferred entries
        firstOccurrences := Name.distinct_eq_eraseDups _
        plain := fun _ => plain_of_mem_distinctReferred
        tight_iff := tight_distinctReferred_iff
        settled_iff := distinctReferred_distinctReferred_iff.trans tight_distinctReferred_iff }
  · obtain ⟨hbase, hkept⟩ := Option.filter_eq_some_iff.1 hname
    obtain ⟨entry, hentry, rfl⟩ := Option.map_eq_some_iff.1 hbase
    rw [Bool.and_eq_true, decide_eq_true_iff, Bool.not_eq_true'] at hkept
    refine ⟨hkept.1, Name.not_mem_referred entry, Name.dropWhile_referred entry, hkept.2, ?_⟩
    rw [Name.tight_referred_iff, hentry]
    simp

/-- A gap makes two interfaces of one, of which the second has a blank behind it and would not stay
as it is, and it hides that a base is a root type. -/
theorem not_settled_of_gap :
    distinctReferred ["IFoo", " IFoo", "IFoo <int>"] = ["IFoo", "IFoo "]
      ∧ ¬ Text.Tight "IFoo " ∧ distinctReferred ["IFoo", "IFoo "] ≠ ["IFoo", "IFoo "]
      ∧ baseOf? {} ⟨"Dog", some "object <int>", []⟩ = some "object "
      ∧ DiagramStyle.isRoot {} (Text.trimmed "object ") = true := by
  unfold Text.Tight
  decide

example : distinctReferred ["IFoo", " IFoo\t", "IFoo<int>"] = ["IFoo"] := by decide

end Connections

end ClassDiagram
