import ChatProfiles.Text.Lowercase
import Mathlib.Data.List.Basic
/-!
# The two rules of letter case

Usernames are the same up to the case of their ASCII letters, and up to their full lowercase where a console tells
members apart.  The first rule is the finer one: texts that agree by it have the same lowercase (`lowercase_congr`),
because an ASCII letter has one lowercase in either case and is a cased letter in both, which is all that the rule for
the end of a word looks at.  The converse fails beyond ASCII.
-/
namespace ChatProfiles.Text

theorem toNat_toLower (c : Char) :
    c.toLower.toNat = if 65 ≤ c.toNat ∧ c.toNat ≤ 90 then c.toNat + 32 else c.toNat := by
  have hc : (c.val ≥ 'A'.val ∧ c.val ≤ 'Z'.val) ↔ 65 ≤ c.toNat ∧ c.toNat ≤ 90 := Iff.rfl
  unfold Char.toLower
  by_cases h : 65 ≤ c.toNat ∧ c.toNat ≤ 90
  · rw [dif_pos (hc.2 h), if_pos h, Char.toNat_mk, UInt32.toNat_add]
    have hval : c.val.toNat = c.toNat := rfl
    have hdistance : ('a'.val - 'A'.val).toNat = 32 := by decide
    omega
  · rw [dif_neg (fun k => h (hc.1 k)), if_neg h]

/-- Letters and digits are those of ASCII. -/
theorem toNat_lt_of_isAlphanum {c : Char} (h : c.isAlphanum = true) : c.toNat < 128 := by
  have hvalue : c.toNat = c.val.toNat := rfl
  have hbounds : 'Z'.val.toNat = 90 ∧ 'z'.val.toNat = 122 ∧ '9'.val.toNat = 57 := ⟨rfl, rfl, rfl⟩
  unfold Char.isAlphanum Char.isAlpha Char.isUpper Char.isLower Char.isDigit at h
  simp only [Bool.or_eq_true, Bool.and_eq_true, decide_eq_true_eq, UInt32.le_iff_toNat_le] at h
  omega

/-- A function that is the same on both cases of each ASCII letter does not see the case of any. -/
theorem congr_toLower {α : Type} {f : Char → α}
    (h : ∀ n ∈ List.range' 65 26, f (Char.ofNat (n + 32)) = f (Char.ofNat n)) (c : Char) : f c.toLower = f c := by
  have hn := toNat_toLower c
  split at hn
  · have hf := h c.toNat (List.mem_range'_1.2 (by omega))
    rwa [← hn, Char.ofNat_toNat, Char.ofNat_toNat] at hf
  · rw [Char.toNat_inj.1 hn]

/-- Only letters have another case. -/
theorem toLower_eq_iff {d : Char} (hd : d.isAlpha = false) {c : Char} : c.toLower = d ↔ c = d := by
  have hcode := toNat_toLower c
  split at hcode
  · next hupper =>
    have hvalue : d.toNat = d.val.toNat := rfl
    have hbounds : 'A'.val.toNat = 65 ∧ 'Z'.val.toNat = 90 ∧ 'a'.val.toNat = 97 ∧ 'z'.val.toNat = 122 :=
      ⟨rfl, rfl, rfl, rfl⟩
    unfold Char.isAlpha Char.isUpper Char.isLower at hd
    simp only [Bool.or_eq_false_iff, Bool.and_eq_false_iff, decide_eq_false_iff_not, UInt32.le_iff_toNat_le] at hd
    constructor <;> (rintro rfl; omega)
  · rw [Char.toNat_inj.1 hcode]

theorem fold_fold (t : Text) : fold (fold t) = fold t := by
  rw [fold, fold, List.map_map]
  exact List.map_congr_left fun c _ => congr_toLower (f := Char.toLower) (by decide +kernel) c

theorem mem_fold_iff {d : Char} (hd : d.isAlpha = false) {t : Text} : d ∈ fold t ↔ d ∈ t := by
  rw [fold, List.mem_map]
  simp only [toLower_eq_iff hd, exists_eq_right]

theorem lowercaseLetter_toLower (c : Char) : lowercaseLetter c.toLower = lowercaseLetter c :=
  congr_toLower (by decide +kernel) c

theorem isCased_toLower (c : Char) : isCased c.toLower = isCased c := congr_toLower (by decide +kernel) c

theorem isCaseIgnorable_toLower (c : Char) : isCaseIgnorable c.toLower = isCaseIgnorable c :=
  congr_toLower (by decide +kernel) c

theorem isSigma_toLower (c : Char) : (c.toLower == 'Σ') = (c == 'Σ') :=
  congr_toLower (f := (· == 'Σ')) (by decide +kernel) c

theorem meetsCased_fold (t : Text) : meetsCased (fold t) = meetsCased t := by
  induction t with
  | nil => rfl
  | cons c t ih =>
    unfold meetsCased
    rw [fold_cons, List.dropWhile_cons, List.dropWhile_cons, isCaseIgnorable_toLower]
    by_cases hc : isCaseIgnorable c = true
    · rw [if_pos hc, if_pos hc]
      exact ih
    · rw [if_neg hc, if_neg hc]
      exact isCased_toLower c

theorem lowercaseAfter_fold (t before : Text) : lowercaseAfter (fold before) (fold t) = lowercaseAfter before t := by
  induction t generalizing before with
  | nil => rfl
  | cons c t ih =>
    rw [fold_cons, lowercaseAfter, lowercaseAfter, isSigma_toLower, lowercaseLetter_toLower, meetsCased_fold,
      meetsCased_fold, ← fold_cons, ih]

/-- The lowercase does not see the case of ASCII letters. -/
theorem lowercase_fold (t : Text) : lowercase (fold t) = lowercase t := lowercaseAfter_fold t []

/-- **Texts that are the same up to the case of ASCII letters have the same lowercase.** -/
theorem lowercase_congr {a b : Text} (h : sameIgnoringCase a b = true) : lowercase a = lowercase b := by
  rw [← lowercase_fold a, sameIgnoringCase_iff.1 h, lowercase_fold]

/-! ## Within ASCII

There the two rules are one. -/

theorem lowercaseLetter_of_ascii {c : Char} (h : c.toNat < 128) : lowercaseLetter c = [c.toLower] := by
  have hall : ∀ n < 128, lowercaseLetter (Char.ofNat n) = [(Char.ofNat n).toLower] := by decide +kernel
  simpa only [Char.ofNat_toNat] using hall c.toNat h

theorem lowercaseAfter_of_ascii {t : Text} (h : ∀ c ∈ t, c.toNat < 128) (before : Text) :
    lowercaseAfter before t = fold t := by
  induction t generalizing before with
  | nil => rfl
  | cons c t ih =>
    obtain ⟨hc, ht⟩ := List.forall_mem_cons.1 h
    have hsigma : ¬(c == 'Σ') = true := fun heq => by
      rw [beq_iff_eq.1 heq] at hc
      exact absurd hc (by decide)
    rw [lowercaseAfter, if_neg hsigma, lowercaseLetter_of_ascii hc, ih ht, fold_cons, List.singleton_append]

theorem lowercase_of_ascii {t : Text} (h : ∀ c ∈ t, c.toNat < 128) : lowercase t = fold t :=
  lowercaseAfter_of_ascii h []

end ChatProfiles.Text
