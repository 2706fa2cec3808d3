import ChatProfiles.Text.Utf8
import Mathlib.Data.List.Basic
/-!
# Text as bytes

Whatever text is written as UTF-8 is read back (`decode_encode`).  A character takes one of four forms, told apart by
the first byte; each form is one equation of the reader, and a character is read back because its code point picks the
form and fits it (`decodeFrom_char`).  The bytes of a line feed are bytes of no other character, so the lines of
encoded text are encoded text again, and a script of text has no line that cannot be read (`fault?_lines_encode`).
-/
namespace ChatProfiles.Text.Utf8

/-! ## The four forms of a character -/

def encode (t : Text) : List UInt8 := t.flatMap String.utf8EncodeChar

variable {index : Nat} {a b c d : UInt8} {rest : List UInt8}

theorem decodeFrom_one (ha : a.toNat < 0x80) :
    decodeFrom index (a :: rest) = (decodeFrom (index + 1) rest).map (Char.ofNat a.toNat :: ·) := by
  have h1 : a < 0x80 := UInt8.lt_iff_toNat_lt.2 ha
  conv => lhs; unfold decodeFrom
  rw [if_pos h1]

theorem decodeFrom_two (ha : 0xC2 ≤ a.toNat) (ha' : a.toNat ≤ 0xDF) (hb : isTail b = true) :
    decodeFrom index (a :: b :: rest) =
      (decodeFrom (index + 2) rest).map (Char.ofNat (a.toNat % 32 * 64 + tailBits b) :: ·) := by
  have h1 : ¬ a < 0x80 := by simp only [UInt8.lt_iff_toNat_lt, UInt8.reduceToNat]; omega
  have h2 : 0xC2 ≤ a ∧ a ≤ 0xDF := ⟨UInt8.le_iff_toNat_le.2 ha, UInt8.le_iff_toNat_le.2 ha'⟩
  conv => lhs; unfold decodeFrom
  simp only [h1, h2, hb, if_false, if_true, decide_true, Bool.and_self]

theorem decodeFrom_three (ha : 0xE0 ≤ a.toNat) (ha' : a.toNat ≤ 0xEF) (hb : followsInThree a b = true)
    (hc : isTail c = true) :
    decodeFrom index (a :: b :: c :: rest) =
      (decodeFrom (index + 3) rest).map
        (Char.ofNat ((a.toNat % 16 * 64 + tailBits b) * 64 + tailBits c) :: ·) := by
  have h1 : ¬ a < 0x80 := by simp only [UInt8.lt_iff_toNat_lt, UInt8.reduceToNat]; omega
  have h2 : ¬ a ≤ 0xDF := by simp only [UInt8.le_iff_toNat_le, UInt8.reduceToNat]; omega
  have h3 : 0xE0 ≤ a ∧ a ≤ 0xEF := ⟨UInt8.le_iff_toNat_le.2 ha, UInt8.le_iff_toNat_le.2 ha'⟩
  conv => lhs; unfold decodeFrom
  simp only [h1, h2, h3, hb, hc, if_false, if_true, decide_true, decide_false, Bool.and_self, Bool.and_false,
    Bool.false_eq_true]

theorem decodeFrom_four (ha : 0xF0 ≤ a.toNat) (ha' : a.toNat ≤ 0xF4) (hb : followsInFour a b = true)
    (hc : isTail c = true) (hd : isTail d = true) :
    decodeFrom index (a :: b :: c :: d :: rest) =
      (decodeFrom (index + 4) rest).map
        (Char.ofNat (((a.toNat % 8 * 64 + tailBits b) * 64 + tailBits c) * 64 + tailBits d) :: ·) := by
  have h1 : ¬ a < 0x80 := by simp only [UInt8.lt_iff_toNat_lt, UInt8.reduceToNat]; omega
  have h2 : ¬ a ≤ 0xDF := by simp only [UInt8.le_iff_toNat_le, UInt8.reduceToNat]; omega
  have h3 : ¬ a ≤ 0xEF := by simp only [UInt8.le_iff_toNat_le, UInt8.reduceToNat]; omega
  have h4 : 0xF0 ≤ a ∧ a ≤ 0xF4 := ⟨UInt8.le_iff_toNat_le.2 ha, UInt8.le_iff_toNat_le.2 ha'⟩
  conv => lhs; unfold decodeFrom
  simp only [h1, h2, h3, h4, hb, hc, hd, if_false, if_true, decide_true, decide_false, Bool.and_self, Bool.and_false,
    Bool.false_eq_true]

theorem isTail_iff {b : UInt8} : isTail b = true ↔ 0x80 ≤ b.toNat ∧ b.toNat ≤ 0xBF := by
  simp only [isTail, Bool.and_eq_true, decide_eq_true_eq, UInt8.le_iff_toNat_le, UInt8.reduceToNat]

theorem followsInThree_iff : followsInThree a b = true ↔
    isTail b = true ∧ (a.toNat = 0xE0 → 0xA0 ≤ b.toNat) ∧ (a.toNat = 0xED → b.toNat ≤ 0x9F) := by
  unfold followsInThree
  simp only [beq_iff_eq, ← UInt8.toNat_inj, UInt8.reduceToNat]
  split_ifs <;>
    simp only [isTail_iff, Bool.and_eq_true, decide_eq_true_eq, UInt8.le_iff_toNat_le, UInt8.reduceToNat] <;> omega

theorem followsInFour_iff : followsInFour a b = true ↔
    isTail b = true ∧ (a.toNat = 0xF0 → 0x90 ≤ b.toNat) ∧ (a.toNat = 0xF4 → b.toNat ≤ 0x8F) := by
  unfold followsInFour
  simp only [beq_iff_eq, ← UInt8.toNat_inj, UInt8.reduceToNat]
  split_ifs <;>
    simp only [isTail_iff, Bool.and_eq_true, decide_eq_true_eq, UInt8.le_iff_toNat_le, UInt8.reduceToNat] <;> omega

/-! ## Characters and texts -/

theorem utf8EncodeChar_eq (c : Char) : String.utf8EncodeChar c =
    if c.toNat ≤ 0x7F then [UInt8.ofNat c.toNat]
    else if c.toNat ≤ 0x7FF then [UInt8.ofNat (c.toNat / 64 % 32 + 192), UInt8.ofNat (c.toNat % 64 + 128)]
    else if c.toNat ≤ 0xFFFF then [UInt8.ofNat (c.toNat / 4096 % 16 + 224), UInt8.ofNat (c.toNat / 64 % 64 + 128),
      UInt8.ofNat (c.toNat % 64 + 128)]
    else [UInt8.ofNat (c.toNat / 262144 % 8 + 240), UInt8.ofNat (c.toNat / 4096 % 64 + 128),
      UInt8.ofNat (c.toNat / 64 % 64 + 128), UInt8.ofNat (c.toNat % 64 + 128)] := rfl

/-- **A character is read back from its bytes**, whatever follows them. -/
theorem decodeFrom_char (index : Nat) (c : Char) (rest : List UInt8) :
    decodeFrom index (String.utf8EncodeChar c ++ rest) =
      (decodeFrom (index + (String.utf8EncodeChar c).length) rest).map (c :: ·) := by
  have hvalid : c.toNat < 0xD800 ∨ 0xDFFF < c.toNat ∧ c.toNat < 0x110000 := c.valid
  have hchar : ∀ n, n = c.toNat → Char.ofNat n = c := fun n hn => hn ▸ Char.ofNat_toNat c
  have hbyte : ∀ n, n < 256 → (UInt8.ofNat n).toNat = n := fun n hn => UInt8.toNat_ofNat_of_lt' hn
  have htail : ∀ n, isTail (UInt8.ofNat (n % 64 + 128)) = true := fun n => by
    rw [isTail_iff, hbyte _ (by omega)]; omega
  have hbits : ∀ n, tailBits (UInt8.ofNat (n % 64 + 128)) = n % 64 := fun n => by
    rw [tailBits, hbyte _ (by omega)]; omega
  rw [utf8EncodeChar_eq]
  split_ifs with h1 h2 h3
  · have ha := hbyte c.toNat (by omega)
    rw [List.singleton_append, decodeFrom_one (by omega), ha, hchar _ rfl]
    rfl
  · have ha := hbyte (c.toNat / 64 % 32 + 192) (by omega)
    rw [List.cons_append, List.singleton_append, decodeFrom_two (by omega) (by omega) (htail _), ha, hbits,
      hchar _ (by omega)]
    rfl
  · have ha := hbyte (c.toNat / 4096 % 16 + 224) (by omega)
    have hb := hbyte (c.toNat / 64 % 64 + 128) (by omega)
    rw [List.cons_append, List.cons_append, List.singleton_append,
      -- no surrogate, and nothing that fits the form before
      decodeFrom_three (by omega) (by omega) (followsInThree_iff.2 ⟨htail _, by omega, by omega⟩) (htail _), ha, hbits,
      hbits, hchar _ (by omega)]
    rfl
  · have ha := hbyte (c.toNat / 262144 % 8 + 240) (by omega)
    have hb := hbyte (c.toNat / 4096 % 64 + 128) (by omega)
    rw [List.cons_append, List.cons_append, List.cons_append, List.singleton_append,
      decodeFrom_four (by omega) (by omega) (followsInFour_iff.2 ⟨htail _, by omega, by omega⟩) (htail _) (htail _), ha,
      hbits, hbits, hbits, hchar _ (by omega)]
    rfl

theorem decodeFrom_encode : ∀ (t : Text) (index : Nat), decodeFrom index (encode t) = .ok t
  | [], _ => rfl
  | c :: t, index => by
    rw [encode, List.flatMap_cons, decodeFrom_char, ← encode, decodeFrom_encode t]
    rfl

theorem decode_encode (t : Text) : decode (encode t) = .ok t := decodeFrom_encode t 0

/-! ## Lines -/

theorem lineFeed_not_mem {c : Char} (hc : c ≠ '\n') : (0x0A : UInt8) ∉ String.utf8EncodeChar c := by
  have hne : c.toNat ≠ 0x0A := fun h => hc (Char.toNat_inj.1 h)
  have hbyte : ∀ n, n < 256 → n ≠ 0x0A → (0x0A : UInt8) ≠ UInt8.ofNat n := fun n hn hne h => by
    rw [← UInt8.toNat_inj, UInt8.toNat_ofNat_of_lt' hn] at h
    exact hne h.symm
  rw [utf8EncodeChar_eq]
  split_ifs with h1 h2 h3 <;> simp only [List.mem_cons, List.not_mem_nil, or_false, not_or]
  · exact hbyte _ (by omega) hne
  · exact ⟨hbyte _ (by omega) (by omega), hbyte _ (by omega) (by omega)⟩
  · exact ⟨hbyte _ (by omega) (by omega), hbyte _ (by omega) (by omega), hbyte _ (by omega) (by omega)⟩
  · exact ⟨hbyte _ (by omega) (by omega), hbyte _ (by omega) (by omega), hbyte _ (by omega) (by omega),
      hbyte _ (by omega) (by omega)⟩

theorem byteLines_append : ∀ {bs : List UInt8}, bs ≠ [] → (0x0A : UInt8) ∉ bs → ∀ rest : List UInt8,
    byteLines (bs ++ rest) = match byteLines rest with
      | [] => [bs]
      | line :: lines => (bs ++ line) :: lines
  | [b], _, h, rest => by
    have hb : ¬ (b == 0x0A) = true := fun hb => h (List.mem_singleton.2 (beq_iff_eq.1 hb).symm)
    rw [List.singleton_append, byteLines, if_neg hb]
    cases byteLines rest <;> rfl
  | b :: b' :: bs, _, h, rest => by
    obtain ⟨hb, hbs⟩ := not_or.1 (List.mem_cons.not.1 h)
    have hb : ¬ (b == 0x0A) = true := fun h => hb (beq_iff_eq.1 h).symm
    rw [List.cons_append, byteLines, if_neg hb, byteLines_append (List.cons_ne_nil b' bs) hbs rest]
    cases byteLines rest <;> rfl

/-- **The lines of text are text.** -/
theorem exists_encode_of_mem_byteLines : ∀ {t : Text}, ∀ line ∈ byteLines (encode t), ∃ u, line = encode u
  | [], line, h => nomatch h
  | c :: t, line, h => by
    rw [encode, List.flatMap_cons, ← encode] at h
    by_cases hc : c = '\n'
    · subst hc
      rcases List.mem_cons.1 (show line ∈ [0x0A] :: byteLines (encode t) from h) with rfl | h
      · exact ⟨['\n'], rfl⟩
      · exact exists_encode_of_mem_byteLines line h
    · rw [byteLines_append String.utf8EncodeChar_ne_nil (lineFeed_not_mem hc)] at h
      cases hrest : byteLines (encode t) with
      | nil =>
        rw [hrest] at h
        exact ⟨[c], by rw [List.mem_singleton.1 h, encode, List.flatMap_singleton]⟩
      | cons first lines =>
        rw [hrest] at h
        rcases List.mem_cons.1 h with rfl | h
        · obtain ⟨u, rfl⟩ := exists_encode_of_mem_byteLines first (hrest ▸ List.mem_cons_self)
          exact ⟨c :: u, rfl⟩
        · exact exists_encode_of_mem_byteLines line (hrest ▸ List.mem_cons_of_mem _ h)

theorem fault?_go : ∀ {ls : List (List UInt8)}, (∀ line ∈ ls, ∃ u, line = encode u) → (lines.go ls).2 = none
  | [], _ => rfl
  | line :: ls, h => by
    obtain ⟨u, rfl⟩ := h line List.mem_cons_self
    rw [lines.go, decode_encode]
    exact fault?_go fun l hl => h l (List.mem_cons_of_mem _ hl)

/-- **A script of text can be read to its end.** -/
theorem fault?_lines_encode (t : Text) : (lines (encode t)).2 = none := fault?_go exists_encode_of_mem_byteLines

end ChatProfiles.Text.Utf8
