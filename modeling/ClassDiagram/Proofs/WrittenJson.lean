import ClassDiagram.Json.Reader
import ClassDiagram.Json.Writer
import Mathlib.Data.List.Forall2
import Mathlib.Data.List.TakeWhile

/-!
# Reading what was written

A JSON value that is written without blanks is read as the same value (`Json.ofText?_compact`),
whatever its strings hold and however deeply it is nested.

The scanner and the reader are gone through one after the other, with `Json.tokens` between them.
For the scanner a word is the only difficulty: nothing tells that it is over but what follows it.
So `Scanner.Reads` says of a scanner what its tokens will be once the word is over, and every
lemma leads from one such scanner to another.
-/

namespace ClassDiagram.Json

/-! ## Tokens of a value -/

mutual

/-- The tokens of a value's text. -/
def tokens : Json → List Token
  | null => [.null]
  | bool value => [.bool value]
  | number literal => [.number literal]
  | text value => [.text value]
  | array [] => [.openArray, .closeArray]
  | array (item :: rest) => .openArray :: tokens item ++ itemTokens rest ++ [.closeArray]
  | object [] => [.openObject, .closeObject]
  | object ((key, value) :: rest) =>
    .openObject :: .text key :: .colon :: tokens value ++ fieldTokens rest ++ [.closeObject]

/-- The tokens of further items. -/
def itemTokens : List Json → List Token
  | [] => []
  | item :: rest => .comma :: tokens item ++ itemTokens rest

/-- The tokens of further fields. -/
def fieldTokens : List (Option String × Json) → List Token
  | [] => []
  | (key, value) :: rest =>
    .comma :: .text key :: .colon :: tokens value ++ fieldTokens rest

end

mutual

/-- Every number in the value is written as a number. -/
def WellFormed : Json → Prop
  | null | bool _ | text _ => True
  | number literal => isNumber literal.toList = true
  | array items => AllWellFormed items
  | object fields => FieldsWellFormed fields

def AllWellFormed : List Json → Prop
  | [] => True
  | item :: rest => WellFormed item ∧ AllWellFormed rest

def FieldsWellFormed : List (Option String × Json) → Prop
  | [] => True
  | (_, value) :: rest => WellFormed value ∧ FieldsWellFormed rest

end

/-! ## The pieces of a string -/

/-- The piece of a string stands for this character. Control characters may be written by their
number. -/
def Piece.Denotes (piece : Piece) (c : Char) : Prop :=
  piece = .char c ∨ c < ' ' ∧ piece = .unit c.toNat

theorem charsOfPieces?_unit {code : Nat} (h : code < 0x20) (rest : List Piece) :
    charsOfPieces? (.unit code :: rest) = (charsOfPieces? rest).map (Char.ofNat code :: ·) := by
  have hhigh : isHighSurrogate code = false := by
    rw [isHighSurrogate, decide_eq_false (by omega), Bool.false_and]
  have hlow : isLowSurrogate code = false := by
    rw [isLowSurrogate, decide_eq_false (by omega), Bool.false_and]
  cases rest with
  | nil => simp [charsOfPieces?, hhigh, hlow]
  | cons piece rest => cases piece <;> simp [charsOfPieces?, hhigh, hlow]

theorem charsOfPieces?_of_denotes {pieces : List Piece} {chars : List Char}
    (h : List.Forall₂ Piece.Denotes pieces chars) : charsOfPieces? pieces = some chars := by
  induction h with
  | nil => rfl
  | @cons piece c pieces chars hpiece _ ih =>
      rcases hpiece with rfl | ⟨hcontrol, rfl⟩
      · rw [charsOfPieces?, ih]
        rfl
      · have hcode : c.toNat < 0x20 := hcontrol
        rw [charsOfPieces?_unit hcode, ih, Char.ofNat_toNat]
        rfl

theorem hexDigit?_hexDigit {value : Nat} (h : value < 16) :
    hexDigit? (hexDigit value) = some value := by
  revert value
  decide

namespace Scanner

/-- Scans characters, one after the other. -/
def scan (scanner : Scanner) (chars : List Char) : Option Scanner :=
  (chars.map some).foldlM step scanner

theorem scan_cons (scanner : Scanner) (c : Char) (rest : List Char) :
    scanner.scan (c :: rest) = (scanner.step (some c)).bind (·.scan rest) := rfl

theorem scan_append (scanner : Scanner) (first second : List Char) :
    scanner.scan (first ++ second) = (scanner.scan first).bind (·.scan second) := by
  rw [scan, List.map_append, List.foldlM_append]
  rfl

/-- A character of a string, as it is written, is scanned as one piece. -/
theorem scan_charText (c : Char) (pieces : List Piece) (read : List Token) :
    ∃ piece : Piece, piece.Denotes c
      ∧ scan ⟨.quoted pieces, read⟩ (charText c) = some ⟨.quoted (piece :: pieces), read⟩ := by
  unfold charText
  split
  · exact ⟨_, .inl rfl, rfl⟩
  · exact ⟨_, .inl rfl, rfl⟩
  · exact ⟨_, .inl rfl, rfl⟩
  · exact ⟨_, .inl rfl, rfl⟩
  · exact ⟨_, .inl rfl, rfl⟩
  · exact ⟨_, .inl rfl, rfl⟩
  · exact ⟨_, .inl rfl, rfl⟩
  · split
    next hcontrol =>
      refine ⟨_, .inr ⟨hcontrol, rfl⟩, ?_⟩
      have hcode : c.toNat < 0x20 := hcontrol
      have hhigh := hexDigit?_hexDigit (show c.toNat / 16 < 16 by omega)
      have hlow := hexDigit?_hexDigit (show c.toNat % 16 < 16 by omega)
      have hzero : hexDigit? '0' = some 0 := by decide
      have hsum : c.toNat / 16 * 16 + c.toNat % 16 = c.toNat := by omega
      simp [scan, step, hzero, hhigh, hlow, hsum]
    next hplain =>
      refine ⟨_, .inl rfl, ?_⟩
      simp [scan, step, hplain]

theorem scan_flatMap_charText (chars : List Char) (pieces : List Piece) (read : List Token) :
    ∃ more : List Piece, List.Forall₂ Piece.Denotes more chars
      ∧ scan ⟨.quoted pieces, read⟩ (chars.flatMap charText)
        = some ⟨.quoted (more.reverse ++ pieces), read⟩ := by
  induction chars generalizing pieces with
  | nil => exact ⟨[], .nil, rfl⟩
  | cons c rest ih =>
      obtain ⟨piece, hpiece, hscan⟩ := scan_charText c pieces read
      obtain ⟨more, hmore, hrest⟩ := ih (piece :: pieces)
      refine ⟨piece :: more, .cons hpiece hmore, ?_⟩
      rw [List.flatMap_cons, scan_append, hscan, Option.bind_some, hrest, List.reverse_cons,
        List.append_assoc]
      rfl

/-- A string is scanned as one token. -/
theorem scan_stringText (value : Option String) (read : List Token) :
    scan ⟨.between, read⟩ (stringText value) = some ⟨.between, .text value :: read⟩ := by
  cases value with
  | none =>
      have htext : stringText none = ['"', '\\', 'u', 'd', '8', '0', '0', '"'] := by decide
      rw [htext]
      rfl
  | some value =>
      obtain ⟨pieces, hpieces, hscan⟩ := scan_flatMap_charText value.toList [] read
      have hopen : step ⟨.between, read⟩ (some '"') = some ⟨.quoted [], read⟩ := rfl
      have hclose : step ⟨.quoted pieces.reverse, read⟩ (some '"')
          = some ⟨.between, .text (some value) :: read⟩ := by
        show some (Scanner.mk _ (.text ((charsOfPieces? pieces.reverse.reverse).map _) :: _)) = _
        rw [List.reverse_reverse, charsOfPieces?_of_denotes hpieces, Option.map_some,
          String.ofList_toList]
      have htext : stringText (some value) = '"' :: value.toList.flatMap charText ++ ['"'] := rfl
      rw [htext, List.cons_append, scan_cons, hopen, Option.bind_some, scan_append, hscan,
        Option.bind_some, List.append_nil, scan_cons, hclose]
      rfl

/-! ## Words -/

/-- The tokens that are there once the word that the scanner may be in is over. -/
def Reads (scanner : Scanner) (read : List Token) : Prop :=
  scanner.endWord? = some ⟨.between, read⟩

theorem step_between (read : List Token) (c : Char) :
    step ⟨.between, read⟩ (some c) = some (start ⟨.between, read⟩ c) := rfl

theorem step_word (letters : List Char) (read : List Token) (c : Char) :
    step ⟨.word letters, read⟩ (some c)
      = if endsWord c then (endWord? ⟨.word letters, read⟩).map (·.start c)
        else some ⟨.word (c :: letters), read⟩ := rfl

theorem reads_between (read : List Token) : Reads ⟨.between, read⟩ read := rfl

/-- A character that ends words is scanned as if the word before it were over. -/
theorem Reads.step_eq {scanner : Scanner} {read : List Token} (h : scanner.Reads read) {c : Char}
    (hc : endsWord c = true) : scanner.step (some c) = step ⟨.between, read⟩ (some c) := by
  obtain ⟨mode, tokens⟩ := scanner
  unfold Reads at h
  cases mode with
  | between =>
      obtain rfl : tokens = read := by simpa [endWord?] using h
      rfl
  | word letters =>
      rw [step_word, if_pos hc, h]
      rfl
  | quoted pieces => simp [endWord?] at h
  | escape pieces => simp [endWord?] at h
  | code pieces digits value => simp [endWord?] at h

theorem not_blank_of_punctuation? {c : Char} {token : Token} (h : punctuation? c = some token) :
    isSpace c = false ∧ c ≠ '"' := by
  unfold punctuation? at h
  split at h
  iterate 6 exact ⟨by decide, by decide⟩
  exact absurd h (by simp)

/-- A punctuation mark is a token, whatever stands before it. -/
theorem Reads.step_punctuation {scanner : Scanner} {read : List Token} (h : scanner.Reads read)
    {c : Char} {token : Token} (hc : punctuation? c = some token) :
    scanner.step (some c) = some ⟨.between, token :: read⟩ := by
  obtain ⟨hspace, hquote⟩ := not_blank_of_punctuation? hc
  have hends : endsWord c = true := by
    rw [endsWord, hc]
    exact Bool.or_true _
  rw [h.step_eq hends, step_between, start, hspace, if_neg Bool.false_ne_true, if_neg hquote, hc]

theorem scan_letters {letters : List Char} (h : ∀ c ∈ letters, endsWord c = false)
    (before : List Char) (read : List Token) :
    scan ⟨.word before, read⟩ letters = some ⟨.word (letters.reverse ++ before), read⟩ := by
  induction letters generalizing before with
  | nil => rfl
  | cons c rest ih =>
      obtain ⟨hc, hrest⟩ := List.forall_mem_cons.1 h
      have hstep : step ⟨.word before, read⟩ (some c) = some ⟨.word (c :: before), read⟩ := by
        rw [step_word, hc, if_neg Bool.false_ne_true]
      rw [scan_cons, hstep, Option.bind_some, ih hrest, List.reverse_cons, List.append_assoc]
      rfl

/-- A word is over where the text ends or a character comes that ends words. -/
theorem scan_word {word : List Char} {token : Token} (hword : tokenOfWord? word = some token)
    (hne : word ≠ []) (hletters : ∀ c ∈ word, endsWord c = false) (read : List Token) :
    ∃ scanner, scan ⟨.between, read⟩ word = some scanner ∧ scanner.Reads (token :: read) := by
  obtain ⟨c, rest, rfl⟩ := List.exists_cons_of_ne_nil hne
  obtain ⟨hc, hrest⟩ := List.forall_mem_cons.1 hletters
  obtain ⟨⟨hspace, hquote⟩, hpunctuation⟩ :
      (isSpace c = false ∧ ¬ c = '"') ∧ (punctuation? c).isSome = false := by
    simpa [endsWord] using hc
  have hstart : step ⟨.between, read⟩ (some c) = some ⟨.word [c], read⟩ := by
    rw [step_between, start, hspace, if_neg Bool.false_ne_true, if_neg hquote,
      Option.isNone_iff_eq_none.1 (Option.isSome_eq_false_iff.1 hpunctuation)]
  refine ⟨⟨.word (rest.reverse ++ [c]), read⟩, ?_, ?_⟩
  · rw [scan_cons, hstart, Option.bind_some, scan_letters hrest]
  · rw [Reads, endWord?]
    dsimp only
    rw [List.reverse_append, List.reverse_reverse, List.reverse_singleton, List.singleton_append,
      hword]
    rfl

end Scanner

/-! ## Numbers -/

/-- The characters that occur in numbers. -/
def isNumberLetter (c : Char) : Bool :=
  c.isDigit || ['.', '+', '-', 'e', 'E'].contains c

theorem isNumberLetter_of_isDigit {c : Char} (h : c.isDigit = true) : isNumberLetter c = true := by
  rw [isNumberLetter, h, Bool.true_or]

theorem endsWord_of_isNumberLetter {c : Char} (h : isNumberLetter c = true) :
    Scanner.endsWord c = false := by
  have hdelimiters : [' ', '\t', '\n', '\r', '"', '[', ']', '\x7b', '\x7d', ',', ':'].all
      (fun d => !isNumberLetter d) = true := by decide
  cases hends : Scanner.endsWord c with
  | false => rfl
  | true =>
      refine absurd (List.all_eq_true.1 hdelimiters c ?_) (by rw [h]; exact Bool.noConfusion)
      unfold Scanner.endsWord isSpace punctuation? at hends
      split at hends <;> simp_all [or_assoc]

/-- Digits, and behind them only characters of numbers. -/
theorem isNumberLetter_of_dropWhile {word : List Char}
    (h : ∀ c ∈ word.dropWhile Char.isDigit, isNumberLetter c = true) :
    ∀ c ∈ word, isNumberLetter c = true := by
  intro c hc
  rw [← List.takeWhile_append_dropWhile (p := Char.isDigit) (l := word)] at hc
  rcases List.mem_append.1 hc with hdigit | hrest
  · exact isNumberLetter_of_isDigit (List.mem_takeWhile_imp hdigit)
  · exact h c hrest

theorem isNumberLetter_of_isExponent {word : List Char} (h : isExponent word = true) :
    ∀ c ∈ word, isNumberLetter c = true := by
  have hdigits : ∀ {digits : List Char}, digits.all Char.isDigit = true →
      ∀ c ∈ digits, isNumberLetter c = true :=
    fun h c hc => isNumberLetter_of_isDigit (List.all_eq_true.1 h c hc)
  cases word with
  | nil => exact fun c hc => absurd hc List.not_mem_nil
  | cons e rest =>
      simp only [isExponent, Bool.and_eq_true, Bool.or_eq_true, beq_iff_eq] at h
      obtain ⟨⟨he, -⟩, hall⟩ := h
      refine List.forall_mem_cons.2 ⟨?_, ?_⟩
      · rcases he with rfl | rfl <;> decide
      · split at hall
        · exact List.forall_mem_cons.2 ⟨by decide, hdigits hall⟩
        · exact List.forall_mem_cons.2 ⟨by decide, hdigits hall⟩
        · exact hdigits hall

theorem isNumberLetter_of_isFraction {word : List Char} (h : isFraction word = true) :
    ∀ c ∈ word, isNumberLetter c = true := by
  unfold isFraction at h
  split at h
  next digit rest =>
    obtain ⟨hdigit, hexponent⟩ := (Bool.and_eq_true _ _).mp h
    refine List.forall_mem_cons.2 ⟨by decide, List.forall_mem_cons.2 ⟨?_, ?_⟩⟩
    · exact isNumberLetter_of_isDigit hdigit
    · exact isNumberLetter_of_dropWhile (isNumberLetter_of_isExponent hexponent)
  · exact isNumberLetter_of_isExponent h

theorem isNumberLetter_of_isUnsigned {word : List Char} (h : isUnsigned word = true) :
    ∀ c ∈ word, isNumberLetter c = true := by
  unfold isUnsigned at h
  split at h
  next rest => exact List.forall_mem_cons.2 ⟨by decide, isNumberLetter_of_isFraction h⟩
  next digit rest _ =>
    obtain ⟨hdigit, hfraction⟩ := (Bool.and_eq_true _ _).mp h
    refine List.forall_mem_cons.2 ⟨isNumberLetter_of_isDigit hdigit, ?_⟩
    exact isNumberLetter_of_dropWhile (isNumberLetter_of_isFraction hfraction)
  · exact absurd h Bool.false_ne_true

/-- A number consists of characters that do not end words. -/
theorem isNumberLetter_of_isNumber {word : List Char} (h : isNumber word = true) :
    ∀ c ∈ word, isNumberLetter c = true := by
  unfold isNumber at h
  split at h
  next rest => exact List.forall_mem_cons.2 ⟨by decide, isNumberLetter_of_isUnsigned h⟩
  · exact isNumberLetter_of_isUnsigned h

theorem tokenOfWord?_of_isNumber {literal : String} (h : isNumber literal.toList = true) :
    tokenOfWord? literal.toList = some (.number literal) := by
  have hnames : ∀ name ∈ ["null", "true", "false"], isNumber name.toList = false := by decide
  have hne : ∀ name ∈ ["null", "true", "false"], literal ≠ name := by
    rintro name hname rfl
    exact absurd ((hnames _ hname).symm.trans h) Bool.false_ne_true
  unfold tokenOfWord?
  rw [String.ofList_toList]
  split
  · exact absurd rfl (hne "null" (by decide))
  · exact absurd rfl (hne "true" (by decide))
  · exact absurd rfl (hne "false" (by decide))
  · rw [if_pos h]

/-! ## Scanning values -/

namespace Scanner

/-- The characters are scanned as these tokens, from between two tokens on. -/
def ScannedAs (chars : List Char) (tokens : List Token) : Prop :=
  ∀ read, ∃ scanner, scan ⟨.between, read⟩ chars = some scanner
    ∧ scanner.Reads (tokens.reverse ++ read)

/-- The characters are scanned as these tokens, also from within a word on. -/
def ContinuedAs (chars : List Char) (tokens : List Token) : Prop :=
  ∀ (scanner : Scanner) (read : List Token), scanner.Reads read →
    ∃ next, scanner.scan chars = some next ∧ next.Reads (tokens.reverse ++ read)

theorem continuedAs_nil : ContinuedAs [] [] := fun scanner _ h => ⟨scanner, rfl, h⟩

theorem scannedAs_word {word : List Char} {token : Token} (hword : tokenOfWord? word = some token)
    (hne : word ≠ []) (hletters : ∀ c ∈ word, endsWord c = false) : ScannedAs word [token] :=
  fun read => scan_word hword hne hletters read

/-- The words that are names. -/
theorem scannedAs_name {word : List Char} {token : Token} (hword : tokenOfWord? word = some token)
    (hne : word ≠ []) (hletters : word.all (fun c => !endsWord c) = true) :
    ScannedAs word [token] := by
  refine scannedAs_word hword hne fun c hc => ?_
  have hletter := List.all_eq_true.1 hletters c hc
  rwa [Bool.not_eq_true'] at hletter

theorem scannedAs_stringText (value : Option String) :
    ScannedAs (stringText value) [.text value] :=
  fun read => ⟨_, scan_stringText value read, reads_between _⟩

theorem ScannedAs.append {first second : List Char} {tokens more : List Token}
    (h : ScannedAs first tokens) (hmore : ContinuedAs second more) :
    ScannedAs (first ++ second) (tokens ++ more) := by
  intro read
  obtain ⟨scanner, hscan, hreads⟩ := h read
  obtain ⟨next, hnext, hnextReads⟩ := hmore scanner _ hreads
  refine ⟨next, ?_, ?_⟩
  · rw [scan_append, hscan, Option.bind_some, hnext]
  · rw [List.reverse_append, List.append_assoc]
    exact hnextReads

theorem ContinuedAs.append {first second : List Char} {tokens more : List Token}
    (h : ContinuedAs first tokens) (hmore : ContinuedAs second more) :
    ContinuedAs (first ++ second) (tokens ++ more) := by
  intro scanner read hreads
  obtain ⟨middle, hscan, hmiddle⟩ := h scanner read hreads
  obtain ⟨next, hnext, hnextReads⟩ := hmore middle _ hmiddle
  refine ⟨next, ?_, ?_⟩
  · rw [scan_append, hscan, Option.bind_some, hnext]
  · rw [List.reverse_append, List.append_assoc]
    exact hnextReads

/-- Behind a punctuation mark no word goes on. -/
theorem ScannedAs.punctuated {chars : List Char} {tokens : List Token}
    (h : ScannedAs chars tokens) {c : Char} {token : Token}
    (hc : punctuation? c = some token) : ContinuedAs (c :: chars) (token :: tokens) := by
  intro scanner read hreads
  obtain ⟨next, hnext, hnextReads⟩ := h (token :: read)
  refine ⟨next, ?_, ?_⟩
  · rw [scan_cons, hreads.step_punctuation hc, Option.bind_some, hnext]
  · rw [List.reverse_cons, List.append_assoc]
    exact hnextReads

theorem ContinuedAs.scannedAs {chars : List Char} {tokens : List Token}
    (h : ContinuedAs chars tokens) : ScannedAs chars tokens :=
  fun read => h _ read (reads_between read)

theorem scannedAs_nil : ScannedAs [] [] := continuedAs_nil.scannedAs

/-- A punctuation mark alone. -/
theorem continuedAs_punctuation {c : Char} {token : Token} (hc : punctuation? c = some token) :
    ContinuedAs [c] [token] :=
  scannedAs_nil.punctuated hc

/-- The key of a field, up to its colon and with it. -/
theorem ScannedAs.keyed {chars : List Char} {tokens : List Token} (h : ScannedAs chars tokens)
    (key : Option String) :
    ScannedAs (stringText key ++ ':' :: chars) (.text key :: .colon :: tokens) :=
  (scannedAs_stringText key).append (h.punctuated rfl)

end Scanner

namespace Scanner

mutual

/-- **The text of a value is scanned as its tokens.** -/
theorem scannedAs_compactChars : ∀ {value : Json}, value.WellFormed →
    ScannedAs value.compactChars value.tokens
  | .null, _ => by
      rw [compactChars, Json.tokens]
      exact scannedAs_name (by decide) (by decide) (by decide)
  | .bool value, _ => by
      rw [compactChars, Json.tokens]
      cases value with
      | true => exact scannedAs_name (by decide) (by decide) (by decide)
      | false => exact scannedAs_name (by decide) (by decide) (by decide)
  | .number literal, h => by
      rw [WellFormed] at h
      have hne : literal.toList ≠ [] := by
        intro hempty
        rw [hempty] at h
        exact absurd h (by decide)
      rw [compactChars, Json.tokens]
      exact scannedAs_word (tokenOfWord?_of_isNumber h) hne fun c hc =>
        endsWord_of_isNumberLetter (isNumberLetter_of_isNumber h c hc)
  | .text value, _ => by
      rw [compactChars, Json.tokens]
      exact scannedAs_stringText value
  | .array [], _ => by
      have hchars : compactChars (.array []) = ['[', ']'] := by decide
      rw [hchars, Json.tokens]
      exact ((continuedAs_punctuation rfl).scannedAs.punctuated rfl).scannedAs
  | .array (item :: rest), h => by
      obtain ⟨hitem, hrest⟩ := h
      rw [compactChars, Json.tokens]
      exact (((scannedAs_compactChars hitem).punctuated rfl).append
        (continuedAs_compactItems hrest)).append (continuedAs_punctuation rfl) |>.scannedAs
  | .object [], _ => by
      have hchars : compactChars (.object []) = ['\x7b', '\x7d'] := by decide
      rw [hchars, Json.tokens]
      exact ((continuedAs_punctuation rfl).scannedAs.punctuated rfl).scannedAs
  | .object ((key, value) :: rest), h => by
      obtain ⟨hvalue, hrest⟩ := h
      have hfield := ((scannedAs_compactChars hvalue).keyed key).punctuated
        (c := '\x7b') rfl
      have hall := (hfield.append (continuedAs_compactFields hrest)).append
        (continuedAs_punctuation (c := '\x7d') rfl)
      rw [compactChars, Json.tokens]
      simpa using hall.scannedAs

theorem continuedAs_compactItems : ∀ {items : List Json}, AllWellFormed items →
    ContinuedAs (compactItems items) (itemTokens items)
  | [], _ => by
      rw [compactItems, itemTokens]
      exact continuedAs_nil
  | item :: rest, h => by
      obtain ⟨hitem, hrest⟩ := h
      rw [compactItems, itemTokens]
      exact ((scannedAs_compactChars hitem).punctuated rfl).append
        (continuedAs_compactItems hrest)

theorem continuedAs_compactFields : ∀ {fields : List (Option String × Json)},
    FieldsWellFormed fields → ContinuedAs (compactFields fields) (fieldTokens fields)
  | [], _ => by
      rw [compactFields, fieldTokens]
      exact continuedAs_nil
  | (key, value) :: rest, h => by
      obtain ⟨hvalue, hrest⟩ := h
      have hfield := ((scannedAs_compactChars hvalue).keyed key).punctuated (c := ',') rfl
      rw [compactFields, fieldTokens]
      simpa using hfield.append (continuedAs_compactFields hrest)

end

end Scanner

/-! ## Reading tokens -/

namespace Reader

/-- Takes tokens, one after the other. -/
def take (reader : Reader) (tokens : List Token) : Option Reader :=
  tokens.foldlM step reader

theorem take_cons (reader : Reader) (token : Token) (rest : List Token) :
    reader.take (token :: rest) = (reader.step token).bind (·.take rest) := rfl

theorem take_append (reader : Reader) (first second : List Token) :
    reader.take (first ++ second) = (reader.take first).bind (·.take second) := by
  rw [take, List.foldlM_append]
  rfl

/-- A value begins with a token that does not close an array. -/
theorem exists_first_token (value : Json) :
    ∃ token rest, value.tokens = token :: rest ∧ token ≠ .closeArray := by
  cases value with
  | null => exact ⟨_, _, by rw [Json.tokens], by decide⟩
  | bool value => exact ⟨_, _, by rw [Json.tokens], by simp⟩
  | number literal => exact ⟨_, _, by rw [Json.tokens], by simp⟩
  | text value => exact ⟨_, _, by rw [Json.tokens], by simp⟩
  | array items =>
      cases items with
      | nil => exact ⟨_, _, by rw [Json.tokens], by decide⟩
      | cons item rest => exact ⟨_, _, by rw [Json.tokens]; rfl, by decide⟩
  | object fields =>
      cases fields with
      | nil => exact ⟨_, _, by rw [Json.tokens], by decide⟩
      | cons field rest => exact ⟨_, _, by rw [Json.tokens]; rfl, by decide⟩

/-- The first item of an array is read like a value that has to come. -/
theorem take_firstItem (value : Json) (frames : List Frame) :
    (firstItem frames).take value.tokens
      = (awaitValue (.array [] :: frames)).take value.tokens := by
  obtain ⟨token, rest, htokens, hclose⟩ := exists_first_token value
  have hstep : (firstItem frames).step token = (awaitValue (.array [] :: frames)).step token := by
    cases token with
    | closeArray => exact absurd rfl hclose
    | openArray => rfl
    | openObject => rfl
    | closeObject => rfl
    | comma => rfl
    | colon => rfl
    | null => rfl
    | bool value => rfl
    | number literal => rfl
    | text value => rfl
  rw [htokens, take_cons, take_cons, hstep]

mutual

/-- **The tokens of a value are read as the value**, in whatever it is nested. -/
theorem take_tokens : ∀ (value : Json) (frames : List Frame),
    (awaitValue frames).take value.tokens = some (complete value frames)
  | .null, frames => by
      rw [Json.tokens]
      rfl
  | .bool value, frames => by
      rw [Json.tokens]
      rfl
  | .number literal, frames => by
      rw [Json.tokens]
      rfl
  | .text value, frames => by
      rw [Json.tokens]
      rfl
  | .array [], frames => by
      rw [Json.tokens]
      rfl
  | .array (item :: rest), frames => by
      have hopen : (awaitValue frames).step .openArray = some (firstItem frames) := rfl
      rw [Json.tokens, List.append_assoc, List.cons_append, take_cons, hopen, Option.bind_some,
        take_append, take_firstItem, take_tokens item, Option.bind_some]
      exact take_itemTokens rest item [] frames
  | .object [], frames => by
      rw [Json.tokens]
      rfl
  | .object ((key, value) :: rest), frames => by
      have hopen : (awaitValue frames).step .openObject = some (firstKey frames) := rfl
      have hkey : (firstKey frames).step (.text key) = some (awaitColon [] key frames) := rfl
      have hcolon : (awaitColon [] key frames).step .colon
          = some (awaitValue (.field [] key :: frames)) := rfl
      rw [Json.tokens, List.append_assoc, List.cons_append, List.cons_append, List.cons_append,
        take_cons, hopen, Option.bind_some, take_cons, hkey, Option.bind_some, take_cons, hcolon,
        Option.bind_some, take_append, take_tokens value, Option.bind_some]
      exact take_fieldTokens rest key value [] frames

/-- Further items are put behind those that are there, up to the end of the array. -/
theorem take_itemTokens : ∀ (items : List Json) (value : Json) (before : List Json)
    (frames : List Frame),
    (complete value (.array before :: frames)).take (itemTokens items ++ [.closeArray])
      = some (complete (.array (before.reverse ++ value :: items)) frames)
  | [], value, before, frames => by
      have hclose : (complete value (.array before :: frames)).step .closeArray
          = some (complete (.array (value :: before).reverse) frames) := rfl
      rw [itemTokens, List.nil_append, take_cons, hclose, List.reverse_cons]
      rfl
  | item :: rest, value, before, frames => by
      have hcomma : (complete value (.array before :: frames)).step .comma
          = some (awaitValue (.array (value :: before) :: frames)) := rfl
      rw [itemTokens, List.append_assoc, List.cons_append, take_cons, hcomma, Option.bind_some,
        take_append, take_tokens item, Option.bind_some, take_itemTokens rest, List.reverse_cons,
        List.append_assoc]
      rfl

theorem take_fieldTokens : ∀ (fields : List (Option String × Json)) (key : Option String)
    (value : Json) (before : List (Option String × Json)) (frames : List Frame),
    (complete value (.field before key :: frames)).take (fieldTokens fields ++ [.closeObject])
      = some (complete (.object (before.reverse ++ (key, value) :: fields)) frames)
  | [], key, value, before, frames => by
      have hclose : (complete value (.field before key :: frames)).step .closeObject
          = some (complete (.object ((key, value) :: before).reverse) frames) := rfl
      rw [fieldTokens, List.nil_append, take_cons, hclose, List.reverse_cons]
      rfl
  | (nextKey, next) :: rest, key, value, before, frames => by
      have hcomma : (complete value (.field before key :: frames)).step .comma
          = some (awaitKey ((key, value) :: before) frames) := rfl
      have hkey : (awaitKey ((key, value) :: before) frames).step (.text nextKey)
          = some (awaitColon ((key, value) :: before) nextKey frames) := rfl
      have hcolon : (awaitColon ((key, value) :: before) nextKey frames).step .colon
          = some (awaitValue (.field ((key, value) :: before) nextKey :: frames)) := rfl
      rw [fieldTokens, List.append_assoc, List.cons_append, List.cons_append, List.cons_append,
        take_cons, hcomma, Option.bind_some, take_cons, hkey, Option.bind_some, take_cons, hcolon,
        Option.bind_some, take_append, take_tokens next, Option.bind_some, take_fieldTokens rest,
        List.reverse_cons, List.append_assoc]
      rfl

end

end Reader

/-! ## Whole texts -/

theorem ofTokens?_tokens (value : Json) : ofTokens? value.tokens = some value := by
  have htake : value.tokens.foldlM Reader.step (.awaitValue []) = some (.complete value []) :=
    Reader.take_tokens value []
  rw [ofTokens?, htake]
  rfl

theorem tokensOfChars?_compactChars {value : Json} (h : value.WellFormed) :
    tokensOfChars? (value.compactChars.map some) = some value.tokens := by
  obtain ⟨scanner, hscan, hreads⟩ := Scanner.scannedAs_compactChars h []
  have hfold : (value.compactChars.map some).foldlM Scanner.step {} = some scanner := hscan
  rw [tokensOfChars?, hfold]
  show scanner.finish? = _
  rw [Scanner.finish?, hreads, List.append_nil]
  show some value.tokens.reverse.reverse = _
  rw [List.reverse_reverse]

/-- The characters of a value written without blanks are read as the value. -/
theorem ofChars?_compactChars {value : Json} (h : value.WellFormed) :
    ofChars? (value.compactChars.map some) = some value := by
  rw [ofChars?, tokensOfChars?_compactChars h]
  exact ofTokens?_tokens value

/-- **What is written is read as the same value.** -/
theorem ofText?_compact {value : Json} (h : value.WellFormed) :
    ofText? value.compact = some value := by
  rw [ofText?, compact, String.toList_ofList]
  exact ofChars?_compactChars h

end ClassDiagram.Json
