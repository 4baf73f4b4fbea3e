import ClassDiagram.Text.Utf8

/-!
# Code points and bytes

Texts are compared by their code points. UTF-8 is made so that comparing their bytes comes
to the same: at the first character in which two texts differ, the smaller one has the
smaller byte where the two encodings part.

What makes this go through is that no encoding is the beginning of another. `Parts` says so
together with the order, so that nothing that follows the two characters can change it.
-/

namespace ClassDiagram.Text

/-- Two lists of bytes differ in a byte that both of them have, and the first list has the
smaller one. -/
inductive Parts : List UInt8 → List UInt8 → Prop where
  | here {x y : UInt8} {s t : List UInt8} : x < y → Parts (x :: s) (y :: t)
  | there {x : UInt8} {s t : List UInt8} : Parts s t → Parts (x :: s) (x :: t)

/-- Nothing that follows the two lists can change which is smaller. -/
theorem Parts.compare_append {s t : List UInt8} (h : Parts s t) (u v : List UInt8) :
    compare (s ++ u) (t ++ v) = .lt := by
  induction h with
  | here hxy =>
      rw [List.cons_append, List.cons_append, List.compare_cons_cons,
        Std.compare_eq_lt.2 hxy]
      rfl
  | there _ ih =>
      rw [List.cons_append, List.cons_append, List.compare_cons_cons, Std.ReflOrd.compare_self]
      exact ih

/-- Bytes given as numbers: they differ here, or what is behind them does. -/
theorem Parts.of_le {m n : Nat} {s t : List UInt8} (hn : n < 256) (hle : m ≤ n)
    (h : m = n → Parts s t) : Parts (UInt8.ofNat m :: s) (UInt8.ofNat n :: t) := by
  rcases Nat.lt_or_eq_of_le hle with hlt | rfl
  · refine .here ?_
    rw [UInt8.lt_iff_toNat_lt, UInt8.toNat_ofNat', UInt8.toNat_ofNat']
    omega
  · exact .there (h rfl)

/-- **The encodings of two characters part**, and the smaller character has the smaller
byte. -/
theorem parts_encodings {c d : Char} (h : c < d) :
    Parts (String.utf8EncodeChar c) (String.utf8EncodeChar d) := by
  have hlt : c.val.toNat < d.val.toNat := h
  have hd : d.val.toNat < 0x110000 := by
    have := d.valid
    rcases this with h | h <;> omega
  unfold String.utf8EncodeChar
  generalize c.val.toNat = m at hlt ⊢
  generalize d.val.toNat = n at hlt hd ⊢
  dsimp only
  -- a shorter encoding begins with a smaller byte; of two equally long ones the digits
  -- decide, from the highest on
  split
  · split
    · exact .of_le (by omega) (by omega) (fun _ => by omega)
    · split
      · exact .of_le (by omega) (by omega) (fun _ => by omega)
      · split <;> exact .of_le (by omega) (by omega) (fun _ => by omega)
  · rw [if_neg (by omega : ¬ n ≤ 0x7f)]
    split
    · split
      · exact .of_le (by omega) (by omega) fun _ =>
          .of_le (by omega) (by omega) (fun _ => by omega)
      · split <;> exact .of_le (by omega) (by omega) (fun _ => by omega)
    · rw [if_neg (by omega : ¬ n ≤ 0x7ff)]
      split
      · split
        · exact .of_le (by omega) (by omega) fun _ => .of_le (by omega) (by omega) fun _ =>
            .of_le (by omega) (by omega) (fun _ => by omega)
        · exact .of_le (by omega) (by omega) (fun _ => by omega)
      · rw [if_neg (by omega : ¬ n ≤ 0xffff)]
        exact .of_le (by omega) (by omega) fun _ => .of_le (by omega) (by omega) fun _ =>
          .of_le (by omega) (by omega) fun _ =>
            .of_le (by omega) (by omega) (fun _ => by omega)

theorem compare_append_left (r s t : List UInt8) : compare (r ++ s) (r ++ t) = compare s t := by
  induction r with
  | nil => rfl
  | cons x r ih =>
      rw [List.cons_append, List.cons_append, List.compare_cons_cons, Std.ReflOrd.compare_self]
      exact ih

theorem compare_flatMap_encodings {s t : List Char} (h : s < t) :
    compare (s.flatMap String.utf8EncodeChar) (t.flatMap String.utf8EncodeChar) = .lt := by
  induction h with
  | @nil d t =>
      rw [List.flatMap_nil, List.flatMap_cons]
      cases hd : String.utf8EncodeChar d with
      | nil => exact absurd hd String.utf8EncodeChar_ne_nil
      | cons y ys => rfl
  | rel hcd =>
      rw [List.flatMap_cons, List.flatMap_cons]
      exact (parts_encodings hcd).compare_append _ _
  | cons _ ih =>
      rw [List.flatMap_cons, List.flatMap_cons, compare_append_left]
      exact ih

theorem toList_loop (bytes : ByteArray) (i : Nat) (read : List UInt8) :
    ByteArray.toList.loop bytes i read = read.reverse ++ bytes.data.toList.drop i := by
  fun_induction ByteArray.toList.loop bytes i read with
  | case1 i read hi ih =>
      have hi' : i < bytes.data.toList.length := hi
      rw [ih, List.drop_eq_getElem_cons hi', List.reverse_cons, List.append_assoc]
      simp [ByteArray.get!, hi]
  | case2 i read hi =>
      rw [List.drop_eq_nil_of_le (Nat.le_of_not_lt hi), List.append_nil]

/-- The bytes of a text are the encodings of its characters. -/
theorem bytesOfText_eq (text : String) :
    bytesOfText text = text.toList.flatMap String.utf8EncodeChar := by
  have harray := String.toByteArray_ofList (l := text.toList)
  rw [String.ofList_toList] at harray
  rw [bytesOfText, String.toUTF8_eq_toByteArray, harray, ByteArray.toList, toList_loop]
  exact List.toList_data_toByteArray

theorem compare_bytesOfText_of_lt {a b : String} (h : a < b) :
    compare (bytesOfText a) (bytesOfText b) = .lt := by
  rw [bytesOfText_eq, bytesOfText_eq]
  exact compare_flatMap_encodings h

theorem lt_of_compare {a b : String} (h : compare a b = .lt) : a < b :=
  compareOfLessAndEq_eq_lt.1 h

/-- **The order of texts is the order of their bytes.** -/
theorem compare_bytesOfText (a b : String) :
    compare (bytesOfText a) (bytesOfText b) = compare a b := by
  cases h : compare a b with
  | lt => exact compare_bytesOfText_of_lt (lt_of_compare h)
  | eq => rw [Std.LawfulEqOrd.eq_of_compare h, Std.ReflOrd.compare_self]
  | gt =>
      have hlt : compare b a = .lt := Std.OrientedCmp.lt_of_gt h
      exact Std.OrientedCmp.gt_of_lt (compare_bytesOfText_of_lt (lt_of_compare hlt))

end ClassDiagram.Text
