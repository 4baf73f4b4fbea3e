/-!
# Sets of characters

A property of characters is given by a table of code-point runs. A run steps through
the code points from `first` to `last`; the stride of two is for the alphabets that
list capital and small letters in turn.
-/

namespace ClassDiagram.Text

/-- The code points `first`, `first + stride`, and so on, up to `last`. -/
structure Run where
  first : Nat
  last : Nat
  stride : Nat

/-- Whether the run steps on `code`. -/
def Run.covers (run : Run) (code : Nat) : Bool :=
  run.first ≤ code && code ≤ run.last && (code - run.first) % run.stride == 0

/-- Whether some run of the table steps on the character. -/
def inRuns (table : List Run) (c : Char) : Bool :=
  table.any fun run => run.covers c.toNat

/-- Whether some range of the table, both ends included, holds the character. -/
def inRanges (table : List (Nat × Nat)) (c : Char) : Bool :=
  table.any fun range => range.1 ≤ c.toNat && c.toNat ≤ range.2

end ClassDiagram.Text
