import CodeBehind.Text.Utf8

/-!
Writing and reading UTF-8.

What is written of a text reads back as the text (`decode_encode`), whatever its characters are. The
decoder is followed along the forms that it admits, by the number of their octets; the encoder
writes no others, and what it writes are the octets of the string (`encode_toList`). A reader that
passes over byte order marks gets all of the text but one mark in front of it
(`decodeMarked_encode`).
-/

namespace CodeBehind.Text.Utf8

/-! ### Admitted forms -/

section Forms

variable {a b c d : UInt8} (pos : Nat) (rest : List UInt8)

/-- An octet below `80` is a character. -/
theorem decodeFrom_one (lead : a.toNat < 0x80) :
    decodeFrom pos (a :: rest) =
      (decodeFrom (pos + 1) rest).map (Char.ofNat a.toNat :: ·) := by
  rw [decodeFrom.eq_def]
  dsimp only
  rw [if_pos lead]

/-- Two octets make a character. -/
theorem decodeFrom_two (lead : 0xC2 ≤ a.toNat ∧ a.toNat < 0xE0) (hb : isContinuation b = true) :
    decodeFrom pos (a :: b :: rest) = (decodeFrom (pos + 2) rest).map
      (Char.ofNat ((a.toNat - 0xC0) * 64 + payload b) :: ·) := by
  rw [decodeFrom.eq_def]
  dsimp only
  rw [if_neg (by omega), if_neg (by omega), if_pos lead.2, if_pos hb]

/-- Three octets make a character. -/
theorem decodeFrom_three (lead : 0xE0 ≤ a.toNat ∧ a.toNat < 0xF0)
    (hb : isSecondOfThree a b = true) (hc : isContinuation c = true) :
    decodeFrom pos (a :: b :: c :: rest) = (decodeFrom (pos + 3) rest).map
      (Char.ofNat ((a.toNat - 0xE0) * 4096 + payload b * 64 + payload c) :: ·) := by
  rw [decodeFrom.eq_def]
  dsimp only
  rw [if_neg (by omega), if_neg (by omega), if_neg (by omega), if_pos lead.2, if_pos hb, if_pos hc]

/-- Four octets make a character. -/
theorem decodeFrom_four (lead : 0xF0 ≤ a.toNat ∧ a.toNat < 0xF5)
    (hb : isSecondOfFour a b = true) (hc : isContinuation c = true)
    (hd : isContinuation d = true) :
    decodeFrom pos (a :: b :: c :: d :: rest) = (decodeFrom (pos + 4) rest).map
      (Char.ofNat ((a.toNat - 0xF0) * 262144 + payload b * 4096 + payload c * 64 + payload d) ::
        ·) := by
  rw [decodeFrom.eq_def]
  dsimp only
  rw [if_neg (by omega), if_neg (by omega), if_neg (by omega), if_neg (by omega), if_pos lead.2,
    if_pos hb, if_pos hc, if_pos hd]

end Forms

/-! ### Characters -/

/-- The number of a character is no surrogate and lies in one of the planes. -/
theorem isScalar_toNat (c : Char) :
    c.toNat < 0xD800 ∨ 0xDFFF < c.toNat ∧ c.toNat < 0x110000 := by
  have valid := c.valid
  simp only [UInt32.isValidChar, Nat.isValidChar] at valid
  exact valid

theorem toNat_octet {n : Nat} (h : n < 256) : (UInt8.ofNat n).toNat = n :=
  UInt8.toNat_ofNat_of_lt h

theorem toNat_continuation (n : Nat) : (UInt8.ofNat (0x80 + n % 64)).toNat = 0x80 + n % 64 :=
  toNat_octet (by omega)

theorem isContinuation_octet (n : Nat) : isContinuation (UInt8.ofNat (0x80 + n % 64)) = true := by
  simp only [isContinuation, toNat_continuation, Bool.and_eq_true, decide_eq_true_eq]
  omega

theorem payload_octet (n : Nat) : payload (UInt8.ofNat (0x80 + n % 64)) = n % 64 := by
  unfold payload
  exact Nat.sub_eq_of_eq_add' (toNat_continuation n)

/-- The octets of a character read as the character, and the rest is read after them. -/
theorem decodeFrom_encodeChar (pos : Nat) (c : Char) (rest : List UInt8) :
    decodeFrom pos (encodeChar c ++ rest) =
      (decodeFrom (pos + (encodeChar c).length) rest).map (c :: ·) := by
  have scalar := isScalar_toNat c
  have same : Char.ofNat c.toNat = c := Char.ofNat_toNat c
  unfold encodeChar
  generalize c.toNat = n at *
  dsimp only
  split
  · next one =>
    have lead : (UInt8.ofNat n).toNat = n := toNat_octet (by omega)
    have form := decodeFrom_one (a := UInt8.ofNat n) pos rest (by omega)
    rw [lead, same] at form
    exact form
  split
  · next two =>
    have lead : (UInt8.ofNat (0xC0 + n / 64)).toNat = 0xC0 + n / 64 := toNat_octet (by omega)
    have form := decodeFrom_two (a := UInt8.ofNat (0xC0 + n / 64)) pos rest (by omega)
      (isContinuation_octet n)
    have number : (0xC0 + n / 64 - 0xC0) * 64 + n % 64 = n := by omega
    rw [lead, payload_octet, number, same] at form
    exact form
  split
  · next three =>
    have lead : (UInt8.ofNat (0xE0 + n / 4096)).toNat = 0xE0 + n / 4096 := toNat_octet (by omega)
    have second : isSecondOfThree (UInt8.ofNat (0xE0 + n / 4096))
        (UInt8.ofNat (0x80 + n / 64 % 64)) = true := by
      simp only [isSecondOfThree, isContinuation_octet, lead, toNat_continuation, Bool.true_and,
        Bool.and_eq_true, Bool.not_eq_true', Bool.and_eq_false_iff, beq_eq_false_iff_ne,
        decide_eq_false_iff_not]
      omega
    have form := decodeFrom_three (a := UInt8.ofNat (0xE0 + n / 4096)) pos rest (by omega) second
      (isContinuation_octet n)
    have number : (0xE0 + n / 4096 - 0xE0) * 4096 + n / 64 % 64 * 64 + n % 64 = n := by omega
    rw [lead, payload_octet, payload_octet, number, same] at form
    exact form
  · next four =>
    have lead : (UInt8.ofNat (0xF0 + n / 262144)).toNat = 0xF0 + n / 262144 :=
      toNat_octet (by omega)
    have second : isSecondOfFour (UInt8.ofNat (0xF0 + n / 262144))
        (UInt8.ofNat (0x80 + n / 4096 % 64)) = true := by
      simp only [isSecondOfFour, isContinuation_octet, lead, toNat_continuation, Bool.true_and,
        Bool.and_eq_true, Bool.not_eq_true', Bool.and_eq_false_iff, beq_eq_false_iff_ne,
        decide_eq_false_iff_not]
      omega
    have form := decodeFrom_four (a := UInt8.ofNat (0xF0 + n / 262144)) pos rest (by omega) second
      (isContinuation_octet (n / 64)) (isContinuation_octet n)
    have number : (0xF0 + n / 262144 - 0xF0) * 262144 + n / 4096 % 64 * 4096 +
        n / 64 % 64 * 64 + n % 64 = n := by omega
    rw [lead, payload_octet, payload_octet, payload_octet, number, same] at form
    exact form

/-! ### Texts -/

/-- The octets of a text are read as the text, wherever they stand. -/
theorem decodeFrom_encode (pos : Nat) (text : List Char) :
    decodeFrom pos (encode text) = .ok text := by
  induction text generalizing pos with
  | nil => rfl
  | cons c rest ih =>
    have here : encode (c :: rest) = encodeChar c ++ encode rest := List.flatMap_cons
    rw [here, decodeFrom_encodeChar, ih]
    rfl

theorem decode_encode (text : List Char) : decode (encode text) = .ok text :=
  decodeFrom_encode 0 text

/-! ### The octets of a string -/

/-- The octets of a character are those of the library. -/
theorem encodeChar_eq (c : Char) : encodeChar c = String.utf8EncodeChar c := by
  have scalar := isScalar_toNat c
  have same : c.val.toNat = c.toNat := rfl
  have continuation : ∀ m, 0x80 + m % 64 = m % 64 + 0x80 := fun m => Nat.add_comm ..
  unfold encodeChar String.utf8EncodeChar
  rw [same]
  generalize c.toNat = n at *
  dsimp only
  split
  · next one => rw [if_pos (by omega)]
  split
  · next two =>
    have lead : 0xC0 + n / 64 = n / 64 % 32 + 0xC0 := by omega
    rw [if_neg (by omega), if_pos (by omega), lead, continuation]
  split
  · next three =>
    have lead : 0xE0 + n / 4096 = n / 4096 % 16 + 0xE0 := by omega
    rw [if_neg (by omega), if_neg (by omega), if_pos (by omega), lead, continuation, continuation]
  · next four =>
    have lead : 0xF0 + n / 262144 = n / 262144 % 8 + 0xF0 := by omega
    rw [if_neg (by omega), if_neg (by omega), if_neg (by omega), lead, continuation, continuation,
      continuation]

/-- What is written of a string are the octets it consists of. -/
theorem encode_toList (text : String) : encode text.toList = text.toUTF8.data.toList := by
  have encoded : text.toUTF8 = text.toList.utf8Encode := String.utf8Encode_toList.symm
  rw [encoded, List.utf8Encode, List.data_toByteArray, encode]
  exact congrArg (fun f => text.toList.flatMap f) (funext encodeChar_eq)

/-! ### Byte order marks -/

def withoutMark : List Char → List Char
  | '\uFEFF' :: rest => rest
  | text => text

theorem withoutMark_of_ne {text : List Char} (h : text.head? ≠ some '\uFEFF') :
    withoutMark text = text := by
  fun_cases withoutMark text with
  | case1 rest => exact absurd rfl h
  | case2 => rfl

/-- What begins with the mark reads as a text that does. -/
theorem head?_of_mark {octets : List UInt8} {text : List Char} (mark : byteOrderMark <+: octets)
    (h : decode octets = .ok text) : text.head? = some '\uFEFF' := by
  obtain ⟨rest, rfl⟩ := mark
  have read : decode (byteOrderMark ++ rest) = (decodeFrom 3 rest).map ('\uFEFF' :: ·) :=
    decodeFrom_encodeChar 0 '\uFEFF' rest
  rw [read] at h
  cases later : decodeFrom 3 rest with
  | error e =>
    rw [later] at h
    cases h
  | ok rest =>
    rw [later] at h
    cases h
    rfl

/-- What breaks off inside the mark reads as no text, unless it is empty. -/
theorem eq_nil_of_short {octets : List UInt8} {text : List Char} (short : octets.length < 3)
    (mark : octets <+: byteOrderMark) (h : decode octets = .ok text) : text = [] := by
  match octets, short with
  | [], _ =>
    cases h
    rfl
  | [a], _ =>
    obtain ⟨rfl, -⟩ := List.cons_prefix_cons.mp mark
    cases h
  | [a, b], _ =>
    obtain ⟨rfl, more⟩ := List.cons_prefix_cons.mp mark
    obtain ⟨rfl, -⟩ := List.cons_prefix_cons.mp more
    cases h

/-- One mark in front of a text is passed over. -/
theorem decodeMarked_encode (text : List Char) :
    decodeMarked (encode text) = .ok (withoutMark text) := by
  by_cases marked : text.head? = some '\uFEFF'
  · obtain ⟨rest, rfl⟩ := List.head?_eq_some_iff.mp marked
    have octets : encode ('\uFEFF' :: rest) = byteOrderMark ++ encode rest := List.flatMap_cons
    have long : ¬ (byteOrderMark ++ encode rest).length < 3 := by
      rw [List.length_append]
      exact Nat.not_lt.mpr (Nat.le_add_right 3 _)
    rw [octets, decodeMarked, if_neg fun h => long h.1,
      if_pos (List.isPrefixOf_iff_prefix.mpr (List.prefix_append _ _))]
    exact decode_encode rest
  · have whole := decode_encode text
    have unmarked : ¬ byteOrderMark.isPrefixOf (encode text) = true := fun h =>
      marked (head?_of_mark (List.isPrefixOf_iff_prefix.mp h) whole)
    rw [withoutMark_of_ne marked, decodeMarked, if_neg unmarked]
    split
    · next h => rw [eq_nil_of_short h.1 (List.isPrefixOf_iff_prefix.mp h.2) whole]
    · exact whole

end CodeBehind.Text.Utf8
