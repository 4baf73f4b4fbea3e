/-!
# Characters in bytes

Reads a sequence of bytes as UTF-8. What is a character comes out as one; a byte that
belongs to no character comes out as `none`, and reading goes on with the next byte. A
reader of such a sequence can so refuse broken bytes where they matter and pass over them
where they do not.
-/

namespace ClassDiagram.Text

/-- The payload of a continuation byte, `10xxxxxx`. -/
def continuation? (byte : UInt8) : Option Nat :=
  if 0x80 ≤ byte && byte ≤ 0xBF then some (byte.toNat - 0x80) else none

/-- The character of a lead byte's payload and the payloads of its continuation bytes. It is
none if the code point could be written in fewer bytes (is below `least`), is a surrogate,
or lies beyond the last character. -/
def assembled? (least code : Nat) : Option Char :=
  if least ≤ code && (code < 0xD800 || (0xDFFF < code && code ≤ 0x10FFFF)) then
    some (Char.ofNat code)
  else none

/-- The character a two-byte sequence stands for. -/
def twoBytes? (a b : UInt8) : Option Char := do
  if 0xC0 ≤ a && a ≤ 0xDF then
    assembled? 0x80 ((a.toNat - 0xC0) * 0x40 + (← continuation? b))
  else none

/-- The character a three-byte sequence stands for. -/
def threeBytes? (a b c : UInt8) : Option Char := do
  if 0xE0 ≤ a && a ≤ 0xEF then
    assembled? 0x800
      ((a.toNat - 0xE0) * 0x1000 + (← continuation? b) * 0x40 + (← continuation? c))
  else none

/-- The character a four-byte sequence stands for. -/
def fourBytes? (a b c d : UInt8) : Option Char := do
  if 0xF0 ≤ a && a ≤ 0xF7 then
    assembled? 0x10000
      ((a.toNat - 0xF0) * 0x40000 + (← continuation? b) * 0x1000
        + (← continuation? c) * 0x40 + (← continuation? d))
  else none

/-- The first character of a sequence of bytes and the number of its bytes. -/
def firstChar? : List UInt8 → Option (Char × Nat)
  | [] => none
  | a :: rest =>
    if a < 0x80 then some (Char.ofNat a.toNat, 1)
    else match rest with
      | [] => none
      | b :: rest =>
        match twoBytes? a b, rest with
        | some c, _ => some (c, 2)
        | none, [] => none
        | none, c :: rest =>
          match threeBytes? a b c, rest with
          | some c, _ => some (c, 3)
          | none, [] => none
          | none, d :: _ => (fourBytes? a b c d).map (·, 4)

/-- The characters of a sequence of bytes, of which the first `skip` are passed over: they
belong to a character that is already read. -/
def charsAfter : Nat → List UInt8 → List (Option Char)
  | _, [] => []
  | skip + 1, _ :: rest => charsAfter skip rest
  | 0, byte :: rest =>
    match firstChar? (byte :: rest) with
    | some (c, size) => some c :: charsAfter (size - 1) rest
    | none => none :: charsAfter 0 rest

/-- The characters of a sequence of bytes, with `none` for a byte that belongs to none. -/
def charsOfBytes (bytes : List UInt8) : List (Option Char) :=
  charsAfter 0 bytes

/-- The text in a sequence of bytes, if all of them belong to characters. -/
def textOfBytes? (bytes : List UInt8) : Option String :=
  ((charsOfBytes bytes).mapM id).map String.ofList

/-- The bytes of a text. -/
def bytesOfText (text : String) : List UInt8 :=
  text.toUTF8.toList

end ClassDiagram.Text
