import ClassDiagram.Text.LowerCase

/-!
# The order of names

Names are listed alphabetically: upper and lower case count alike, and only names that
differ in nothing else are told apart by their code points, so that `apple` comes before
`Banana` and `Name` before `name`. The order is total, and two names are equal in it only
if they are the same name.
-/

namespace ClassDiagram.Text

/-- Alphabetical order of names. -/
def alphabetical (a b : String) : Ordering :=
  (compare (lowerCase a) (lowerCase b)).then (compare a b)

/-- Whether `a` may stand before `b` in an alphabetical list. -/
def inAlphabeticalOrder (a b : String) : Bool :=
  (alphabetical a b).isLE

/-- The names in alphabetical order; equal names stay as they were. -/
def sortedNames (names : List String) : List String :=
  names.mergeSort inAlphabeticalOrder

/-- Things in the order of their names by code point; things of one name stay as they were. -/
def sortedByName {α : Type} (name : α → String) (things : List α) : List α :=
  things.mergeSort fun a b => (compare (name a) (name b)).isLE

theorem alphabetical_self (a : String) : alphabetical a a = .eq := by
  simp [alphabetical, Ordering.then]

/-- Only a name itself is equal to it in the alphabetical order. -/
theorem alphabetical_eq_iff {a b : String} : alphabetical a b = .eq ↔ a = b := by
  constructor
  · intro h
    rw [alphabetical, Ordering.then_eq_eq] at h
    exact Std.LawfulEqOrd.eq_of_compare h.2
  · rintro rfl
    exact alphabetical_self a

end ClassDiagram.Text
