import ClassDiagram.Json.Token
import ClassDiagram.Json.Value
import ClassDiagram.Text.Utf8

/-!
# Reading JSON

Builds a value from its tokens. The containers that are still open are kept in a list, the
innermost first, so values may be nested as deeply as one likes.
-/

namespace ClassDiagram.Json

/-- A container that is open, around the value that comes next. Its items and fields are
kept with the newest first. -/
inductive Frame where
  | array (items : List Json)
  | field (fields : List (Option String × Json)) (key : Option String)

/-- What has been read, and so what may come next. -/
inductive Reader where
  /-- A value must come. -/
  | awaitValue (frames : List Frame)
  /-- An array was opened. -/
  | firstItem (frames : List Frame)
  /-- An object was opened. -/
  | firstKey (frames : List Frame)
  /-- The key of another field must come. -/
  | awaitKey (fields : List (Option String × Json)) (frames : List Frame)
  /-- The colon behind a key must come. -/
  | awaitColon (fields : List (Option String × Json)) (key : Option String) (frames : List Frame)
  /-- A value is complete. -/
  | complete (value : Json) (frames : List Frame)

namespace Reader

/-- Takes a token where a value must come. -/
def startValue? (frames : List Frame) : Token → Option Reader
  | .null => some (complete .null frames)
  | .bool value => some (complete (.bool value) frames)
  | .number literal => some (complete (.number literal) frames)
  | .text value => some (complete (.text value) frames)
  | .openArray => some (firstItem frames)
  | .openObject => some (firstKey frames)
  | _ => none

/-- Takes a token behind a complete value. -/
def continue? (value : Json) : List Frame → Token → Option Reader
  | .array items :: frames, .comma => some (awaitValue (.array (value :: items) :: frames))
  | .array items :: frames, .closeArray =>
    some (complete (.array (value :: items).reverse) frames)
  | .field fields name :: frames, .comma => some (awaitKey ((name, value) :: fields) frames)
  | .field fields name :: frames, .closeObject =>
    some (complete (.object ((name, value) :: fields).reverse) frames)
  | _, _ => none

/-- Takes one token. -/
def step (reader : Reader) (token : Token) : Option Reader :=
  match reader, token with
  | awaitValue frames, token => startValue? frames token
  | firstItem frames, .closeArray => some (complete (.array []) frames)
  | firstItem frames, token => startValue? (.array [] :: frames) token
  | firstKey frames, .closeObject => some (complete (.object []) frames)
  | firstKey frames, .text name => some (awaitColon [] name frames)
  | awaitKey fields frames, .text name => some (awaitColon fields name frames)
  | awaitColon fields name frames, .colon => some (awaitValue (.field fields name :: frames))
  | complete value frames, token => continue? value frames token
  | _, _ => none

/-- The value of a text that ends here. -/
def finish? : Reader → Option Json
  | complete value [] => some value
  | _ => none

end Reader

/-- The value of a sequence of tokens. -/
def ofTokens? (tokens : List Token) : Option Json := do
  let reader ← tokens.foldlM Reader.step (.awaitValue [])
  reader.finish?

/-- The value of a text in which some bytes may belong to no character. -/
def ofChars? (input : List (Option Char)) : Option Json := do
  let tokens ← tokensOfChars? input
  ofTokens? tokens

/-- The value of a text. -/
def ofText? (text : String) : Option Json :=
  ofChars? (text.toList.map some)

/-- The value of a text given by its bytes. -/
def ofBytes? (bytes : List UInt8) : Option Json :=
  ofChars? (Text.charsOfBytes bytes)

end ClassDiagram.Json
