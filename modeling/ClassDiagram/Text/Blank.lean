/-!
# Blank space

The characters with the property `White_Space`, and a text without the blanks around it.
-/

namespace ClassDiagram.Text

/-- Whether the character is white space. -/
def isBlank (c : Char) : Bool :=
  let code := c.toNat
  (0x0009 ≤ code && code ≤ 0x000D) || code == 0x0020 || code == 0x0085 || code == 0x00A0
    || code == 0x1680 || (0x2000 ≤ code && code ≤ 0x200A) || code == 0x2028
    || code == 0x2029 || code == 0x202F || code == 0x205F || code == 0x3000

/-- The characters left when those that satisfy `p` are taken off the end. -/
def dropEndWhile (p : Char → Bool) (cs : List Char) : List Char :=
  (cs.reverse.dropWhile p).reverse

/-- The text without the blanks in front of it and behind it. -/
def trimmed (text : String) : String :=
  String.ofList (dropEndWhile isBlank (text.toList.dropWhile isBlank))

end ClassDiagram.Text
