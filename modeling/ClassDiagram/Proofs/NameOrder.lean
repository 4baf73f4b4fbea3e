import ClassDiagram.Proofs.StableOrder

/-!
# The order of names is total

Names are compared twice: by their small letters and, if these are the same, by their bytes. The
two comparisons look at different things, a list of characters that may be longer than the name
and the encoding of the name itself. Still they make up one order, in which only equal names are
equal (`Text.alphabetical_total`), and so does the order of members, which puts the groups first.

Nothing is used of the small letters of a character, so the order is total for any choice of them
(`Text.alphabeticalBy`): two names with the same small letters are told apart by their bytes, and
these are the same for no two names.
-/

namespace ClassDiagram

open Std

/-- What sorting asks of an order: it is a total preorder. In this one, the things with the same
key are equal to each other and to nothing else. -/
structure OrdersBy {α κ : Type} (order : α → α → Ordering) (key : α → κ) : Prop where
  /-- Swapping two things turns the answer around. -/
  swap : ∀ a b, order b a = (order a b).swap
  /-- Two answers that are the same make a third one. -/
  chain : ∀ a b c answer, order a b = answer → order b c = answer → order a c = answer
  /-- What is at most something is at most whatever that is at most. -/
  isLE_trans : ∀ a b c, (order a b).isLE → (order b c).isLE → (order a c).isLE
  eq_iff : ∀ a b, order a b = .eq ↔ key a = key b

theorem OrdersBy.of_transCmp {α κ : Type} {order : α → α → Ordering} {key : α → κ}
    [TransCmp order] (heq : ∀ a b, order a b = .eq ↔ key a = key b) : OrdersBy order key where
  swap _ _ := OrientedCmp.eq_swap
  chain a b c answer hab hbc := by
    cases answer with
    | lt => exact TransCmp.lt_trans hab hbc
    | eq => exact TransCmp.eq_trans hab hbc
    | gt => exact TransCmp.gt_trans hab hbc
  isLE_trans _ _ _ := TransCmp.isLE_trans
  eq_iff := heq

namespace Text

variable {small : Char → List Char} {a b : String}

/-- A text with every character replaced by what stands for its small letters. -/
def smallLetters (small : Char → List Char) (text : String) : List Char :=
  text.toList.flatMap small

/-- The alphabetical order that a choice of small letters makes: by them first, then by bytes. -/
def alphabeticalBy (small : Char → List Char) (a b : String) : Ordering :=
  (compare (smallLetters small a) (smallLetters small b)).then
    (compare (bytesOfText a) (bytesOfText b))

instance : TransCmp (alphabeticalBy small) :=
  inferInstanceAs (TransCmp (compareLex (compareOn (smallLetters small)) (compareOn bytesOfText)))

/-- The order of the library takes the small letters of the standard. -/
theorem alphabetical_eq_alphabeticalBy : alphabetical = alphabeticalBy lowered := by
  funext a b
  rw [alphabetical, alphabeticalBy, compare_bytesOfText]
  rfl

/-- Whatever the small letters are, the bytes tell names apart. -/
theorem alphabeticalBy_eq_iff : alphabeticalBy small a b = .eq ↔ a = b := by
  rw [alphabeticalBy, Ordering.then_eq_eq, compare_bytesOfText, LawfulEqOrd.compare_eq_iff_eq,
    LawfulEqOrd.compare_eq_iff_eq]
  constructor
  · exact And.right
  · rintro rfl
    exact ⟨rfl, rfl⟩

/-- The bytes are not looked at if the small letters differ. -/
theorem alphabeticalBy_eq_lt (h : compare (smallLetters small a) (smallLetters small b) = .lt) :
    alphabeticalBy small a b = .lt := by
  rw [alphabeticalBy, h]
  rfl

end Text

namespace Member

variable {small : Char → List Char} {a b : Member}

/-- The order of members that a choice of small letters makes: by group, then by name. -/
def orderBy (small : Char → List Char) (a b : Member) : Ordering :=
  (compare a.group b.group).then (Text.alphabeticalBy small a.name b.name)

instance : TransCmp fun a b : Member => Text.alphabeticalBy small a.name b.name :=
  have names : TransCmp (Text.alphabeticalBy small) := inferInstance
  { eq_swap := names.eq_swap, isLE_trans := names.isLE_trans }

instance : TransCmp (orderBy small) :=
  inferInstanceAs (TransCmp (compareLex (compareOn Member.group)
    fun a b => Text.alphabeticalBy small a.name b.name))

theorem order_eq_orderBy : order = orderBy Text.lowered := by
  funext a b
  rw [order, orderBy, Text.alphabetical_eq_alphabeticalBy]

theorem orderBy_eq_iff : orderBy small a b = .eq ↔ (a.group, a.name) = (b.group, b.name) := by
  rw [orderBy, Ordering.then_eq_eq, LawfulEqOrd.compare_eq_iff_eq, Text.alphabeticalBy_eq_iff,
    Prod.mk.injEq]

end Member

/-- **The order of names is total**, and so is the order of members. Whatever small letters a
character has, swapping two names turns the answer around, answers can be chained, and a name is
equal to no other name. Names come in the order of their small letters, wherever these differ.
Members are equal in their order if they have one group and one name. -/
theorem Text.alphabetical_total :
    alphabetical = alphabeticalBy lowered
      ∧ Member.order = Member.orderBy lowered
      ∧ ∀ small : Char → List Char,
          OrdersBy (alphabeticalBy small) id
            ∧ (∀ a b, compare (smallLetters small a) (smallLetters small b) = .lt →
                alphabeticalBy small a b = .lt)
            ∧ OrdersBy (Member.orderBy small) fun member => (member.group, member.name) := by
  refine ⟨alphabetical_eq_alphabeticalBy, Member.order_eq_orderBy, fun small => ?_⟩
  have hnames : OrdersBy (alphabeticalBy small) id :=
    .of_transCmp fun _ _ => alphabeticalBy_eq_iff
  have hmembers : OrdersBy (Member.orderBy small) fun member => (member.group, member.name) :=
    .of_transCmp fun _ _ => Member.orderBy_eq_iff
  exact ⟨hnames, fun _ _ => alphabeticalBy_eq_lt, hmembers⟩

/-- The small letters of `İ` are two, an `i` and a dot. They come before the one of `j`, although
the bytes of the two names are the other way round. -/
theorem Text.alphabetical_total_dotted :
    smallLetters lowered "İ" = ['i', '\u0307']
      ∧ compare (bytesOfText "İ") (bytesOfText "j") = .gt
      ∧ compare (smallLetters lowered "İ") (smallLetters lowered "j") = .lt
      ∧ alphabetical "İ" "j" = .lt ∧ alphabetical "j" "İ" = .gt := by
  obtain ⟨hnames, -, horder⟩ := alphabetical_total
  obtain ⟨horders, hrefines, -⟩ := horder lowered
  have hsmall : compare (smallLetters lowered "İ") (smallLetters lowered "j") = .lt := by decide
  have hlt : alphabetical "İ" "j" = .lt := hnames ▸ hrefines _ _ hsmall
  have hgt : alphabetical "j" "İ" = .gt := by
    rw [hnames] at hlt ⊢
    rw [horders.swap "İ" "j", hlt]
    rfl
  refine ⟨by decide, ?_, hsmall, hlt, hgt⟩
  rw [compare_bytesOfText]
  decide

end ClassDiagram
