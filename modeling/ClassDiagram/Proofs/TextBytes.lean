import ClassDiagram.Proofs.ByteOrder

/-!
# Texts and their bytes

The bytes of a text are read as this text and nothing else (`charsOfBytes_bytesOfText`): the
lead byte of an encoding tells how many bytes belong to it, so that each character is found
again whatever follows it.
-/

namespace ClassDiagram.Text

/-! ## Single bytes -/

theorem toNat_ofNat_of_lt {number : Nat} (h : number < 256) :
    (UInt8.ofNat number).toNat = number := by
  rw [UInt8.toNat_ofNat', Nat.mod_eq_of_lt h]

/-- A byte that begins more than one byte is no character by itself. -/
theorem not_lt_ofNat {number : Nat} (h : number < 256) (hleast : 0x80 ≤ number) :
    ¬ UInt8.ofNat number < 0x80 := by
  rw [UInt8.lt_iff_toNat_lt, toNat_ofNat_of_lt h]
  exact Nat.not_lt.2 hleast

/-- Whether a byte lies in a range is told by its number. -/
theorem between_ofNat {number : Nat} (h : number < 256) (least greatest : UInt8) :
    (least ≤ UInt8.ofNat number && UInt8.ofNat number ≤ greatest : Bool)
      = (least.toNat ≤ number && number ≤ greatest.toNat : Bool) := by
  rw [Bool.eq_iff_iff]
  simp only [Bool.and_eq_true, decide_eq_true_eq, UInt8.le_iff_toNat_le, toNat_ofNat_of_lt h]

theorem continuation?_ofNat {payload : Nat} (h : payload < 0x40) :
    continuation? (UInt8.ofNat (payload + 0x80)) = some payload := by
  have hbyte : payload + 0x80 < 256 := by omega
  have hrange : payload + 0x80 ≤ 0xBF := by omega
  rw [continuation?, between_ofNat hbyte, toNat_ofNat_of_lt hbyte, Nat.add_sub_cancel]
  simp [hrange]

/-- A character is assembled from its code point, unless it could be written in fewer bytes. -/
theorem assembled?_toNat {c : Char} {least : Nat} (h : least ≤ c.toNat) :
    assembled? least c.toNat = some c := by
  have hvalid : c.toNat < 0xD800 ∨ 0xDFFF < c.toNat ∧ c.toNat < 0x110000 := c.valid
  have hcode : (least ≤ c.toNat
      && (c.toNat < 0xD800 || (0xDFFF < c.toNat && c.toNat ≤ 0x10FFFF)) : Bool) = true := by
    simp only [Bool.and_eq_true, Bool.or_eq_true, decide_eq_true_eq]
    omega
  rw [assembled?, if_pos hcode, Char.ofNat_toNat]

/-! ## Characters of two, three and four bytes -/

section

variable {lead first second third : Nat}

theorem twoBytes?_ofNat (hleast : 0xC0 ≤ lead) (hgreatest : lead ≤ 0xDF) (h : first < 0x40) :
    twoBytes? (UInt8.ofNat lead) (UInt8.ofNat (first + 0x80))
      = assembled? 0x80 ((lead - 0xC0) * 0x40 + first) := by
  have hbyte : lead < 256 := by omega
  have hrange : (((0xC0 : UInt8).toNat ≤ lead && lead ≤ (0xDF : UInt8).toNat) : Bool) = true := by
    rw [Bool.and_eq_true, decide_eq_true_iff, decide_eq_true_iff]
    exact ⟨hleast, hgreatest⟩
  rw [twoBytes?, between_ofNat hbyte, toNat_ofNat_of_lt hbyte, continuation?_ofNat h]
  simp only [hrange, if_true, Option.bind_eq_bind, Option.bind_some]

/-- A greater lead byte does not begin a character of two bytes. -/
theorem twoBytes?_eq_none (hlead : 0xDF < lead) (hbyte : lead < 256) (byte : UInt8) :
    twoBytes? (UInt8.ofNat lead) byte = none := by
  rw [twoBytes?, between_ofNat hbyte]
  simp [Nat.not_le.2 hlead]

theorem threeBytes?_ofNat (hleast : 0xE0 ≤ lead) (hgreatest : lead ≤ 0xEF) (h : first < 0x40)
    (hsecond : second < 0x40) :
    threeBytes? (UInt8.ofNat lead) (UInt8.ofNat (first + 0x80)) (UInt8.ofNat (second + 0x80))
      = assembled? 0x800 ((lead - 0xE0) * 0x1000 + first * 0x40 + second) := by
  have hbyte : lead < 256 := by omega
  have hrange : (((0xE0 : UInt8).toNat ≤ lead && lead ≤ (0xEF : UInt8).toNat) : Bool) = true := by
    rw [Bool.and_eq_true, decide_eq_true_iff, decide_eq_true_iff]
    exact ⟨hleast, hgreatest⟩
  rw [threeBytes?, between_ofNat hbyte, toNat_ofNat_of_lt hbyte, continuation?_ofNat h,
    continuation?_ofNat hsecond]
  simp only [hrange, if_true, Option.bind_eq_bind, Option.bind_some]

/-- A greater lead byte does not begin a character of three bytes. -/
theorem threeBytes?_eq_none (hlead : 0xEF < lead) (hbyte : lead < 256) (b c : UInt8) :
    threeBytes? (UInt8.ofNat lead) b c = none := by
  rw [threeBytes?, between_ofNat hbyte]
  simp [Nat.not_le.2 hlead]

theorem fourBytes?_ofNat (hleast : 0xF0 ≤ lead) (hgreatest : lead ≤ 0xF7) (h : first < 0x40)
    (hsecond : second < 0x40) (hthird : third < 0x40) :
    fourBytes? (UInt8.ofNat lead) (UInt8.ofNat (first + 0x80)) (UInt8.ofNat (second + 0x80))
        (UInt8.ofNat (third + 0x80))
      = assembled? 0x10000
        ((lead - 0xF0) * 0x40000 + first * 0x1000 + second * 0x40 + third) := by
  have hbyte : lead < 256 := by omega
  have hrange : (0xF0 ≤ UInt8.ofNat lead && UInt8.ofNat lead ≤ 0xF7 : Bool) = true := by
    rw [between_ofNat hbyte, Bool.and_eq_true, decide_eq_true_iff, decide_eq_true_iff]
    exact ⟨hleast, hgreatest⟩
  -- for any function, since the code point itself must not be computed
  have hpayloads : ∀ (ofCode : Nat → Option Char) (code : Nat), (do
      if 0xF0 ≤ UInt8.ofNat lead && UInt8.ofNat lead ≤ 0xF7 then
        ofCode (code + (← continuation? (UInt8.ofNat (first + 0x80))) * 0x1000
          + (← continuation? (UInt8.ofNat (second + 0x80))) * 0x40
          + (← continuation? (UInt8.ofNat (third + 0x80))))
      else none : Option Char) = ofCode (code + first * 0x1000 + second * 0x40 + third) := by
    intro ofCode code
    rw [if_pos hrange, continuation?_ofNat h, continuation?_ofNat hsecond,
      continuation?_ofNat hthird]
    rfl
  have hfour := hpayloads (assembled? 0x10000) (((UInt8.ofNat lead).toNat - 0xF0) * 0x40000)
  rw [toNat_ofNat_of_lt hbyte] at hfour
  rw [fourBytes?, toNat_ofNat_of_lt hbyte]
  exact hfour

end

section

variable {a b c d : UInt8} {char : Char}

theorem firstChar?_of_one (h : a < 0x80) (rest : List UInt8) :
    firstChar? (a :: rest) = some (Char.ofNat a.toNat, 1) := by
  unfold firstChar?
  simp only [if_pos h]

theorem firstChar?_of_two (hlead : ¬ a < 0x80) (h : twoBytes? a b = some char)
    (rest : List UInt8) : firstChar? (a :: b :: rest) = some (char, 2) := by
  unfold firstChar?
  simp only [if_neg hlead, h]

theorem firstChar?_of_three (hlead : ¬ a < 0x80) (htwo : twoBytes? a b = none)
    (h : threeBytes? a b c = some char) (rest : List UInt8) :
    firstChar? (a :: b :: c :: rest) = some (char, 3) := by
  unfold firstChar?
  simp only [if_neg hlead, htwo, h]

theorem firstChar?_of_four (hlead : ¬ a < 0x80) (htwo : twoBytes? a b = none)
    (hthree : threeBytes? a b c = none) (h : fourBytes? a b c d = some char)
    (rest : List UInt8) : firstChar? (a :: b :: c :: d :: rest) = some (char, 4) := by
  unfold firstChar?
  simp only [if_neg hlead, htwo, hthree, h, Option.map_some]

end

/-- **The encoding of a character is read as this character**, whatever follows it. -/
theorem firstChar?_encoding (c : Char) (rest : List UInt8) :
    firstChar? (String.utf8EncodeChar c ++ rest) = some (c, (String.utf8EncodeChar c).length) := by
  have hcode : c.toNat < 0x110000 := by
    have hvalid : c.toNat < 0xD800 ∨ 0xDFFF < c.toNat ∧ c.toNat < 0x110000 := c.valid
    omega
  have hvalue : c.val.toNat = c.toNat := rfl
  unfold String.utf8EncodeChar
  rw [hvalue]
  dsimp only
  split
  next hone =>
    have hlead : UInt8.ofNat c.toNat < 0x80 := by
      rw [UInt8.lt_iff_toNat_lt, toNat_ofNat_of_lt (by omega)]
      show c.toNat < 128
      omega
    have hself : Char.ofNat (UInt8.ofNat c.toNat).toNat = c := by
      rw [toNat_ofNat_of_lt (by omega), Char.ofNat_toNat]
    exact (firstChar?_of_one hlead rest).trans (by rw [hself]; rfl)
  next hmore =>
    split
    next htwo =>
      have hsum : (c.toNat / 64 % 32 + 192 - 0xC0) * 0x40 + c.toNat % 64 = c.toNat := by omega
      refine firstChar?_of_two (not_lt_ofNat (by omega) (by omega)) ?_ rest
      rw [twoBytes?_ofNat (by omega) (by omega) (by omega), hsum]
      exact assembled?_toNat (by omega)
    next hmore =>
      split
      next hthree =>
        have hsum : (c.toNat / 4096 % 16 + 224 - 0xE0) * 0x1000 + c.toNat / 64 % 64 * 0x40
            + c.toNat % 64 = c.toNat := by omega
        refine firstChar?_of_three (not_lt_ofNat (by omega) (by omega))
          (twoBytes?_eq_none (by omega) (by omega) _) ?_ rest
        rw [threeBytes?_ofNat (by omega) (by omega) (by omega) (by omega), hsum]
        exact assembled?_toNat (by omega)
      next hmore =>
        have hsum : (c.toNat / 262144 % 8 + 240 - 0xF0) * 0x40000 + c.toNat / 4096 % 64 * 0x1000
            + c.toNat / 64 % 64 * 0x40 + c.toNat % 64 = c.toNat := by omega
        refine firstChar?_of_four (not_lt_ofNat (by omega) (by omega))
          (twoBytes?_eq_none (by omega) (by omega) _)
          (threeBytes?_eq_none (by omega) (by omega) _ _) ?_ rest
        rw [fourBytes?_ofNat (by omega) (by omega) (by omega) (by omega) (by omega), hsum]
        exact assembled?_toNat (by omega)

/-! ## Whole texts -/

/-- Bytes that belong to a character that is already read are passed over. -/
theorem charsAfter_append (bytes rest : List UInt8) :
    charsAfter bytes.length (bytes ++ rest) = charsAfter 0 rest := by
  induction bytes with
  | nil => rfl
  | cons byte bytes ih => exact ih

theorem charsAfter_encodings (chars : List Char) :
    charsAfter 0 (chars.flatMap String.utf8EncodeChar) = chars.map some := by
  induction chars with
  | nil => rfl
  | cons c chars ih =>
      have hfirst := firstChar?_encoding c (chars.flatMap String.utf8EncodeChar)
      rw [List.flatMap_cons, List.map_cons]
      cases hencoding : String.utf8EncodeChar c with
      | nil => exact absurd hencoding String.utf8EncodeChar_ne_nil
      | cons lead others =>
          rw [hencoding, List.cons_append] at hfirst
          rw [List.cons_append, charsAfter, hfirst]
          dsimp only
          rw [List.length_cons, Nat.add_sub_cancel, charsAfter_append, ih]

/-- **The bytes of a text are read as its characters.** -/
theorem charsOfBytes_bytesOfText (text : String) :
    charsOfBytes (bytesOfText text) = text.toList.map some := by
  rw [bytesOfText_eq, charsOfBytes]
  exact charsAfter_encodings text.toList

theorem textOfBytes?_bytesOfText (text : String) :
    textOfBytes? (bytesOfText text) = some text := by
  have hchars : ∀ chars : List Char, (chars.map some).mapM id = some chars := by
    intro chars
    induction chars with
    | nil => rfl
    | cons c chars ih => rw [List.map_cons, List.mapM_cons, ih]; rfl
  rw [textOfBytes?, charsOfBytes_bytesOfText, hchars, Option.map_some, String.ofList_toList]

end ClassDiagram.Text
