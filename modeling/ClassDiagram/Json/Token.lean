/-!
# JSON tokens

A JSON text is a sequence of tokens with blanks between them. The scanner takes the text one
character at a time; outside strings, whatever is neither blank, punctuation nor quotation
mark forms a word, and the word has to be a literal name or a number.

The text is given as a list in which `none` stands for a byte that belongs to no character.
Such a byte is refused outside strings. In a string it leads to a string without a text.
-/

namespace ClassDiagram.Json

/-- A token of a JSON text. -/
inductive Token where
  | openArray
  | closeArray
  | openObject
  | closeObject
  | comma
  | colon
  | null
  | bool (value : Bool)
  | number (literal : String)
  | text (value : Option String)
deriving DecidableEq

/-- A piece of a string. -/
inductive Piece where
  | char (c : Char)
  /-- A code unit written by its number. -/
  | unit (code : Nat)
  /-- A byte that belongs to no character. -/
  | broken
deriving DecidableEq

/-- Whether a code unit is the first half of a surrogate pair. -/
def isHighSurrogate (code : Nat) : Bool :=
  0xD800 ≤ code && code < 0xDC00

/-- Whether a code unit is the second half of a surrogate pair. -/
def isLowSurrogate (code : Nat) : Bool :=
  0xDC00 ≤ code && code < 0xE000

/-- The character of a surrogate pair. -/
def pairedChar (high low : Nat) : Char :=
  Char.ofNat (0x10000 + (high - 0xD800) * 0x400 + (low - 0xDC00))

/-- The characters that the pieces of a string denote. Halves of surrogate pairs denote
nothing unless they stand together. -/
def charsOfPieces? : List Piece → Option (List Char)
  | [] => some []
  | .char c :: rest => (charsOfPieces? rest).map (c :: ·)
  | .broken :: _ => none
  | .unit high :: .unit low :: rest =>
    if isHighSurrogate high then
      if isLowSurrogate low then (charsOfPieces? rest).map (pairedChar high low :: ·) else none
    else if isLowSurrogate high then none
    else (charsOfPieces? (.unit low :: rest)).map (Char.ofNat high :: ·)
  | .unit code :: rest =>
    if isHighSurrogate code || isLowSurrogate code then none
    else (charsOfPieces? rest).map (Char.ofNat code :: ·)

/-- Whether the characters are an exponent, or nothing. -/
def isExponent : List Char → Bool
  | [] => true
  | e :: rest =>
    let digits := match rest with
      | '+' :: digits | '-' :: digits => digits
      | digits => digits
    (e == 'e' || e == 'E') && !digits.isEmpty && digits.all Char.isDigit

/-- Whether the characters are what may follow the integer part of a number. -/
def isFraction : List Char → Bool
  | '.' :: digit :: rest => digit.isDigit && isExponent (rest.dropWhile Char.isDigit)
  | rest => isExponent rest

/-- Whether the characters are a number without its sign. -/
def isUnsigned : List Char → Bool
  | '0' :: rest => isFraction rest
  | digit :: rest => digit.isDigit && isFraction (rest.dropWhile Char.isDigit)
  | [] => false

/-- Whether the characters are a number. -/
def isNumber : List Char → Bool
  | '-' :: rest => isUnsigned rest
  | word => isUnsigned word

/-- The token that a word is. -/
def tokenOfWord? (word : List Char) : Option Token :=
  match String.ofList word with
  | "null" => some .null
  | "true" => some (.bool true)
  | "false" => some (.bool false)
  | literal => if isNumber word then some (.number literal) else none

/-- The token that a punctuation mark is. -/
def punctuation? : Char → Option Token
  | '[' => some .openArray
  | ']' => some .closeArray
  | '\x7b' => some .openObject
  | '\x7d' => some .closeObject
  | ',' => some .comma
  | ':' => some .colon
  | _ => none

/-- Whether the character may stand between tokens. -/
def isSpace (c : Char) : Bool :=
  c == ' ' || c == '\t' || c == '\n' || c == '\r'

/-- The character that a letter behind a backslash stands for. -/
def escaped? : Char → Option Char
  | '"' => some '"'
  | '\\' => some '\\'
  | '/' => some '/'
  | 'b' => some '\x08'
  | 'f' => some '\x0c'
  | 'n' => some '\n'
  | 'r' => some '\r'
  | 't' => some '\t'
  | _ => none

/-- The value of a hexadecimal digit. -/
def hexDigit? (c : Char) : Option Nat :=
  if c.isDigit then some (c.toNat - '0'.toNat)
  else if 'a' ≤ c && c ≤ 'f' then some (c.toNat - 'a'.toNat + 10)
  else if 'A' ≤ c && c ≤ 'F' then some (c.toNat - 'A'.toNat + 10)
  else none

/-- Where the scanner is. What it has seen is kept with the newest first. -/
inductive Mode where
  | between
  | word (letters : List Char)
  | quoted (pieces : List Piece)
  | escape (pieces : List Piece)
  | code (pieces : List Piece) (digits value : Nat)

/-- A text as far as it is scanned. -/
structure Scanner where
  mode : Mode := .between
  /-- The tokens seen, the newest first. -/
  tokens : List Token := []

namespace Scanner

/-- Ends the word, if there is one. -/
def endWord? (scanner : Scanner) : Option Scanner :=
  match scanner.mode with
  | .word letters => do
    let token ← tokenOfWord? letters.reverse
    some ⟨.between, token :: scanner.tokens⟩
  | _ => some scanner

/-- Takes a character between tokens that begins or is a token, or is blank. -/
def start (scanner : Scanner) (c : Char) : Scanner :=
  if isSpace c then scanner
  else if c = '"' then { scanner with mode := .quoted [] }
  else match punctuation? c with
    | some token => { scanner with tokens := token :: scanner.tokens }
    | none => { scanner with mode := .word [c] }

/-- Whether the character cannot be part of a word. -/
def endsWord (c : Char) : Bool :=
  isSpace c || c == '"' || (punctuation? c).isSome

/-- Takes one character, or one byte that is none. -/
def step (scanner : Scanner) (input : Option Char) : Option Scanner :=
  match scanner.mode, input with
  | .between, some c => some (scanner.start c)
  | .word letters, some c =>
    if endsWord c then scanner.endWord?.map (·.start c)
    else some { scanner with mode := .word (c :: letters) }
  | .quoted pieces, some '"' =>
    some ⟨.between,
      .text ((charsOfPieces? pieces.reverse).map String.ofList) :: scanner.tokens⟩
  | .quoted pieces, some '\\' => some { scanner with mode := .escape pieces }
  | .quoted pieces, some c =>
    if c < ' ' then none else some { scanner with mode := .quoted (.char c :: pieces) }
  | .quoted pieces, none => some { scanner with mode := .quoted (.broken :: pieces) }
  | .escape pieces, some 'u' => some { scanner with mode := .code pieces 0 0 }
  | .escape pieces, some c => do
    let c ← escaped? c
    some { scanner with mode := .quoted (.char c :: pieces) }
  | .code pieces digits value, some c => do
    let value := value * 16 + (← hexDigit? c)
    if digits = 3 then some { scanner with mode := .quoted (.unit value :: pieces) }
    else some { scanner with mode := .code pieces (digits + 1) value }
  | _, none => none

/-- The tokens of a text that ends here. -/
def finish? (scanner : Scanner) : Option (List Token) := do
  let scanner ← scanner.endWord?
  match scanner.mode with
  | .between => some scanner.tokens.reverse
  | _ => none

end Scanner

/-- The tokens of a text. -/
def tokensOfChars? (input : List (Option Char)) : Option (List Token) := do
  let scanner ← input.foldlM Scanner.step {}
  scanner.finish?

end ClassDiagram.Json
