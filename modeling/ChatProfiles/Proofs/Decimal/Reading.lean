import ChatProfiles.Decimal.Reading
import ChatProfiles.Proofs.Text.Lowercase
import Mathlib.Data.List.TakeWhile
/-!
# What reads as a number

A number is written with few characters: digits, signs, a point, and the letters of an exponent and of three words.  A
text with any other character is none (`numeral_of_readFloat?`).  Whole numbers are among the floats
(`exists_readFloat?`), and each that fits is read back from its digits (`readInt64?_ofInt`).
-/
namespace ChatProfiles.Decimal

/-- The characters that a number can have. -/
def isNumeral (c : Char) : Bool := c.isDigit || "+-.aefinty".toList.contains c.toLower

/-- A text of such characters only. -/
def Numeral (t : Text) : Prop := ∀ c ∈ t, isNumeral c = true

variable {t : Text} {x : Float} {n : Int}

theorem numeral_of_digits (h : ∀ c ∈ t, c.isDigit = true) : Numeral t := fun c hc => by
  rw [isNumeral, h c hc, Bool.true_or]

/-- The words for numbers may be in any letter case. -/
theorem numeral_of_fold {word : Text} (hword : word.all ("+-.aefinty".toList.contains ·) = true)
    (h : Text.fold t = word) : Numeral t := by
  intro c hc
  have hmem : c.toLower ∈ word := h ▸ List.mem_map_of_mem hc
  rw [isNumeral, List.all_eq_true.1 hword _ hmem, Bool.or_true]

theorem toNat_lt_of_isNumeral {c : Char} (h : isNumeral c = true) : c.toNat < 128 := by
  obtain hdigit | hletter := Bool.or_eq_true_iff.1 h
  · exact Text.toNat_lt_of_isAlphanum (by rw [Char.isAlphanum, hdigit, Bool.or_true])
  · have hall : "+-.aefinty".toList.all (fun d => d.toNat < 128) = true := by decide
    have hlower := of_decide_eq_true (List.all_eq_true.1 hall _ (List.contains_iff_mem.1 hletter))
    have hcode := Text.toNat_toLower c
    split at hcode <;> omega

theorem isNumeral_toLower (c : Char) : isNumeral c.toLower = isNumeral c := Text.congr_toLower (by decide +kernel) c

theorem Numeral.lowercase (h : Numeral t) : Numeral (Text.lowercase t) := by
  rw [Text.lowercase_of_ascii fun c hc => toNat_lt_of_isNumeral (h c hc)]
  exact List.forall_mem_map.2 fun c hc => by rw [isNumeral_toLower, h c hc]

/-! ## Signs -/

theorem takeSign_cases (t : Text) : (∃ r, t = '-' :: r ∧ takeSign t = (true, r)) ∨
    (∃ r, t = '+' :: r ∧ takeSign t = (false, r)) ∨
      (∀ r, t ≠ '-' :: r) ∧ (∀ r, t ≠ '+' :: r) ∧ takeSign t = (false, t) := by
  unfold takeSign
  split
  · exact .inl ⟨_, rfl, rfl⟩
  · exact .inr (.inl ⟨_, rfl, rfl⟩)
  · next hminus hplus => exact .inr (.inr ⟨hminus, hplus, rfl⟩)

theorem numeral_of_takeSign (h : Numeral (takeSign t).2) : Numeral t := by
  obtain ⟨r, rfl, hr⟩ | ⟨r, rfl, hr⟩ | ⟨-, -, hr⟩ := takeSign_cases t <;> rw [hr] at h
  · exact List.forall_mem_cons.2 ⟨rfl, h⟩
  · exact List.forall_mem_cons.2 ⟨rfl, h⟩
  · exact h

/-! ## Floats -/

theorem numeral_of_readExponent? {e : Int} (h : readExponent? t = some e) : Numeral t := by
  cases t with
  | nil => exact List.forall_mem_nil _
  | cons c r =>
    simp only [readExponent?] at h
    split at h
    · next hshape =>
      simp only [Bool.and_eq_true, Bool.or_eq_true, beq_iff_eq] at hshape
      obtain ⟨⟨hmark, -⟩, hdigits⟩ := hshape
      refine List.forall_mem_cons.2 ⟨?_, numeral_of_takeSign (numeral_of_digits (List.all_eq_true.1 hdigits))⟩
      rcases hmark with rfl | rfl <;> rfl
    · cases h

/-- The digits at the front, and what is left. -/
theorem numeral_of_dropWhile (h : Numeral (t.dropWhile Char.isDigit)) : Numeral t := by
  have hdigits : Numeral (t.takeWhile Char.isDigit) := numeral_of_digits fun c hc => List.mem_takeWhile_imp hc
  exact List.takeWhile_append_dropWhile (p := Char.isDigit) (l := t) ▸ List.forall_mem_append.2 ⟨hdigits, h⟩

theorem numeral_of_readMagnitude? (h : readMagnitude? t = some x) : Numeral t := by
  simp only [readMagnitude?] at h
  split at h
  · next hword =>
    simp only [Bool.or_eq_true, beq_iff_eq] at hword
    rcases hword with hword | hword <;> exact numeral_of_fold (by decide) hword
  · split at h
    · next hword => exact numeral_of_fold (by decide) (beq_iff_eq.1 hword)
    · -- digits, then a point and more digits if there is one, then an exponent
      refine numeral_of_dropWhile ?_
      split at h <;> obtain ⟨-, hread⟩ := Option.ite_none_left_eq_some.1 h <;>
        obtain ⟨e, hexponent, -⟩ := Option.map_eq_some_iff.1 hread
      · next r hpoint =>
        rw [hpoint]
        exact List.forall_mem_cons.2 ⟨rfl, numeral_of_dropWhile (numeral_of_readExponent? hexponent)⟩
      · exact numeral_of_readExponent? hexponent

/-- **A text that reads as a number has the characters of numbers only.** -/
theorem numeral_of_readFloat? (h : readFloat? t = some x) : Numeral t := by
  obtain ⟨y, hy, -⟩ := Option.map_eq_some_iff.1 h
  exact numeral_of_takeSign (numeral_of_readMagnitude? hy)

/-! ## Whole numbers -/

theorem readInt64?_eq (t : Text) : readInt64? t =
    if (takeSign t).2.isEmpty || !(takeSign t).2.all Char.isDigit then none
    else
      let n : Int := if (takeSign t).1 then -(value (takeSign t).2 : Int) else value (takeSign t).2
      if fits64 n then some n else none := by
  obtain ⟨r, rfl, hr⟩ | ⟨r, rfl, hr⟩ | ⟨hminus, hplus, hr⟩ := takeSign_cases t <;> rw [hr]
  · rfl
  · rfl
  · simp only [readInt64?]

theorem digits_of_readInt64? (h : readInt64? t = some n) :
    (takeSign t).2 ≠ [] ∧ ∀ c ∈ (takeSign t).2, c.isDigit = true := by
  rw [readInt64?_eq] at h
  obtain ⟨hshape, -⟩ := Option.ite_none_left_eq_some.1 h
  simpa using hshape

theorem fits64_of_readInt64? (h : readInt64? t = some n) : fits64 n = true := by
  rw [readInt64?_eq] at h
  obtain ⟨-, hread⟩ := Option.ite_none_left_eq_some.1 h
  obtain ⟨hfits, hvalue⟩ := Option.ite_none_right_eq_some.1 hread
  exact Option.some.inj hvalue ▸ hfits

theorem exists_readMagnitude? (hne : t ≠ []) (h : ∀ c ∈ t, c.isDigit = true) : ∃ x, readMagnitude? t = some x := by
  have hwhole : t.takeWhile Char.isDigit = t := List.takeWhile_eq_self_iff.2 h
  have hrest : t.dropWhile Char.isDigit = [] := List.dropWhile_eq_nil_iff.2 h
  have hempty : t.isEmpty = false := by simpa using hne
  simp only [readMagnitude?, hwhole, hrest, hempty, Bool.false_and, Bool.false_eq_true, if_false]
  split
  · exact ⟨_, rfl⟩
  · split <;> exact ⟨_, rfl⟩

/-- **Whatever reads as a whole number reads as a float.** -/
theorem exists_readFloat? (h : readInt64? t = some n) : ∃ x, readFloat? t = some x := by
  obtain ⟨hne, hdigits⟩ := digits_of_readInt64? h
  obtain ⟨y, hy⟩ := exists_readMagnitude? hne hdigits
  have hread : readFloat? t = (readMagnitude? (takeSign t).2).map fun x => if (takeSign t).1 then -x else x := rfl
  exact ⟨_, by rw [hread, hy, Option.map_some]⟩

theorem readInt64?_of_readFloat? (h : readFloat? t = none) : readInt64? t = none :=
  Option.eq_none_iff_forall_ne_some.2 fun _ hn => by
    obtain ⟨x, hx⟩ := exists_readFloat? hn
    rw [h] at hx
    cases hx

theorem takeSign_ofInt (n : Int) : takeSign (ofInt n) = (decide (n < 0), ofNat n.natAbs) := by
  cases n with
  | negSucc k => rw [decide_eq_true (Int.negSucc_lt_zero k)]; rfl
  | ofNat k =>
    have hdigit : ∀ c ∈ ofNat k, c.isDigit = true := fun _ hc => isDigit_of_mem_ofNat hc
    obtain ⟨r, hr, -⟩ | ⟨r, hr, -⟩ | ⟨-, -, hsign⟩ := takeSign_cases (ofNat k)
    · exact absurd (hdigit '-' (hr ▸ List.mem_cons_self)) (by decide)
    · exact absurd (hdigit '+' (hr ▸ List.mem_cons_self)) (by decide)
    · exact hsign

/-- **A whole number that fits is read back from its digits.** -/
theorem readInt64?_ofInt (h : fits64 n = true) : readInt64? (ofInt n) = some n := by
  have hempty : (ofNat n.natAbs).isEmpty = false := List.isEmpty_eq_false_iff.2 Nat.toDigits_ne_nil
  have hdigits : (ofNat n.natAbs).all Char.isDigit = true := List.all_eq_true.2 fun _ hc => isDigit_of_mem_ofNat hc
  have hvalue : (if n < 0 then -(n.natAbs : Int) else n.natAbs) = n := by split <;> omega
  rw [readInt64?_eq, takeSign_ofInt]
  simp only [hempty, hdigits, value_ofNat, decide_eq_true_eq, hvalue, h]
  rfl

end ChatProfiles.Decimal
