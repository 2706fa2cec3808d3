import ChatProfiles.Decimal.Shortest
import ChatProfiles.Proofs.Decimal.WholeFloat
import Mathlib.Data.List.TakeWhile
import Mathlib.Tactic.Ring
/-!
# Whole floats are written as whole numbers

The reals that round to a whole float reach less than one to either side of it, so the only whole number among them is
its own (`nearest?_inUnits`).  The search for the shortest decimal therefore stops on a grid that divides the number
(`firstHit_whole`), wherever that is; and a number of tens, written in full, has its zeros back (`positional_ofNat`).
-/
namespace ChatProfiles.Decimal

variable {n : Nat}

/-! ## Zeros at the end -/

theorem ofNat_mul_pow (hpos : 0 < n) (k : Nat) : ofNat (n * 10 ^ k) = ofNat n ++ List.replicate k '0' := by
  induction k with
  | zero => simp
  | succ k ih =>
    have htens : 0 < n * 10 ^ k := Nat.mul_pos hpos (Nat.pow_pos (by decide))
    have hstep := Nat.toDigits_append_toDigits (b := 10) (d := 0) (by decide) htens (by decide)
    rw [show n * 10 ^ (k + 1) = 10 * (n * 10 ^ k) + 0 by ring, ofNat, ← hstep, List.replicate_succ',
      ← List.append_assoc, ← ih, Nat.toDigits_zero]
    rfl

/-- What is left after taking the zeros off the end, and the zeros. -/
theorem append_zeros (digits : Text) :
    (digits.reverse.dropWhile (· == '0')).reverse ++
      List.replicate (digits.length - (digits.reverse.dropWhile (· == '0')).reverse.length) '0' = digits := by
  have hsplit := List.takeWhile_append_dropWhile (p := (· == '0')) (l := digits.reverse)
  have hlength : digits.length =
      (digits.reverse.takeWhile (· == '0')).length + (digits.reverse.dropWhile (· == '0')).length := by
    rw [← List.length_append, hsplit, List.length_reverse]
  have hzeros : digits.reverse.takeWhile (· == '0') =
      List.replicate (digits.reverse.takeWhile (· == '0')).length '0' :=
    List.eq_replicate_of_mem fun c hc => by simpa using List.mem_takeWhile_imp hc
  rw [List.length_reverse, hlength, Nat.add_sub_cancel, ← List.reverse_replicate, ← hzeros, ← List.reverse_append,
    hsplit, List.reverse_reverse]

theorem Scaled.positional_of_nonneg {s : Scaled} (h : 0 ≤ s.exponent) (whole : Text) :
    s.positional whole = s.digits ++ List.replicate s.exponent.toNat '0' ++ whole := if_pos h

/-- **Written in full, tens have their zeros back.** -/
theorem positional_ofNat (hpos : 0 < n) (k : Nat) : (Scaled.ofNat n k).positional [] = ofNat (n * 10 ^ k) := by
  have hexponent : (Scaled.ofNat n k).exponent =
      ((k + ((ofNat n).length - (Scaled.ofNat n k).digits.length) : Nat) : Int) := rfl
  have hzeros : (Scaled.ofNat n k).digits ++
      List.replicate ((ofNat n).length - (Scaled.ofNat n k).digits.length) '0' = ofNat n := append_zeros (ofNat n)
  have hnonneg : 0 ≤ (Scaled.ofNat n k).exponent := hexponent ▸ Int.natCast_nonneg _
  rw [Scaled.positional_of_nonneg hnonneg, hexponent, Int.toNat_natCast, Nat.add_comm,
    ← List.replicate_append_replicate, List.append_nil, ← List.append_assoc, hzeros, ofNat_mul_pow hpos]

/-! ## The interval around a whole number -/

namespace Interval

/-- The interval is around a whole number and reaches less than one to either side. -/
structure IsAround (i : Interval) (n : Nat) : Prop where
  value_eq : i.value = n * i.denominator
  lower_lt : i.lower < i.value
  near_lower : i.value < i.lower + i.denominator
  near_upper : i.upper < i.value + i.denominator

variable {i : Interval}

theorem IsAround.denominator_pos (h : i.IsAround n) : 0 < i.denominator := by
  have := h.lower_lt
  have := h.near_lower
  omega

theorem inUnits_natCast (i : Interval) (k : Nat) :
    i.inUnits k = { i with denominator := i.denominator * 10 ^ k } := by
  have hdown : (-(k : Int)).toNat = 0 := by omega
  unfold inUnits
  simp only [hdown, Int.toNat_natCast, Nat.pow_eq, Nat.pow_zero, Nat.mul_one]

/-- The next grid point is at least one away, and so outside. -/
theorem IsAround.upper_lt (h : i.IsAround n) (k : Nat) : i.upper < (n / 10 ^ k + 1) * (i.denominator * 10 ^ k) := by
  have hnext : n + 1 ≤ (n / 10 ^ k + 1) * 10 ^ k := by
    rw [Nat.mul_comm]
    exact Nat.lt_mul_div_succ n (Nat.pow_pos (by decide))
  have hfar := Nat.mul_le_mul_right i.denominator hnext
  rw [Nat.add_mul, Nat.one_mul, ← h.value_eq] at hfar
  rw [← Nat.mul_assoc, Nat.mul_right_comm]
  exact Nat.lt_of_lt_of_le h.near_upper hfar

theorem IsAround.below_eq (h : i.IsAround n) {k : Nat} (hdvd : 10 ^ k ∣ n) :
    n / 10 ^ k * (i.denominator * 10 ^ k) = i.value := by
  rw [Nat.mul_left_comm, Nat.div_mul_cancel hdvd, Nat.mul_comm, h.value_eq]

/-- So is the grid point below, unless it is the number. -/
theorem IsAround.below_lt (h : i.IsAround n) {k : Nat} (hdvd : ¬ 10 ^ k ∣ n) :
    n / 10 ^ k * (i.denominator * 10 ^ k) < i.lower := by
  have hbelow : n / 10 ^ k * 10 ^ k + 1 ≤ n := by
    have hsplit := Nat.div_add_mod' n (10 ^ k)
    have hrest : n % 10 ^ k ≠ 0 := fun hz => hdvd (Nat.dvd_of_mod_eq_zero hz)
    omega
  have hfar := Nat.mul_le_mul_right i.denominator hbelow
  rw [Nat.add_mul, Nat.one_mul, ← h.value_eq, Nat.mul_right_comm, Nat.mul_assoc] at hfar
  have hnear := h.near_lower
  omega

/-- **On a grid of whole numbers the interval has its own number or none.** -/
theorem nearest?_inUnits (h : i.IsAround n) (tie : Tie) (k : Nat) :
    (i.inUnits k).nearest? tie = if 10 ^ k ∣ n then some (n / 10 ^ k) else none := by
  have hbelow : i.value / (i.denominator * 10 ^ k) = n / 10 ^ k := by
    rw [h.value_eq, Nat.mul_comm i.denominator, Nat.mul_div_mul_right _ _ h.denominator_pos]
  have hupper := h.upper_lt k
  have habove : ¬ if i.endsIncluded = true then (n / 10 ^ k + 1) * (i.denominator * 10 ^ k) ≤ i.upper
      else (n / 10 ^ k + 1) * (i.denominator * 10 ^ k) < i.upper := by
    split <;> omega
  rw [inUnits_natCast]
  unfold nearest?
  simp only [hbelow, if_neg habove]
  by_cases hdvd : 10 ^ k ∣ n
  · have hlower := h.lower_lt
    rw [h.below_eq hdvd, if_pos hdvd, if_pos]
    split <;> omega
  · have hlower := h.below_lt hdvd
    rw [if_neg hdvd, if_neg]
    split <;> omega

theorem firstHit_whole (h : i.IsAround n) (tie : Tie) : ∀ {k steps : Nat}, k < steps →
    ∃ j : Nat, 10 ^ j ∣ n ∧ i.firstHit tie steps k = (n / 10 ^ j, (j : Int))
  | k, steps + 1, hk => by
    rw [firstHit, nearest?_inUnits h]
    by_cases hdvd : 10 ^ k ∣ n
    · rw [if_pos hdvd]
      exact ⟨k, hdvd, rfl⟩
    · rw [if_neg hdvd]
      cases k with
      | zero => exact absurd (Nat.one_dvd n) hdvd
      | succ k =>
        have hdown : ((k + 1 : Nat) : Int) - 1 = (k : Int) := by omega
        rw [hdown]
        exact firstHit_whole h tie (by omega)

theorem leading_whole (h : i.IsAround n) (hpos : 0 < n) : i.leading = ((ofNat n).length - 1 : Nat) := by
  have hone : i.denominator ≤ i.value := by
    rw [h.value_eq]
    exact Nat.le_mul_of_pos_left _ hpos
  have hlength : 0 < (ofNat n).length := Nat.length_toDigits_pos
  rw [leading, if_pos hone, h.value_eq, Nat.mul_div_cancel n h.denominator_pos]
  omega

theorem around_whole (hpos : 0 < n) (hlt : n < 2 ^ 53) (narrow : Bool) :
    (around (wholeMantissa n) (wholeExponent n) narrow).IsAround n := by
  have hlog : n.log2 < 53 := (Nat.log2_lt (Nat.ne_of_gt hpos)).2 hlt
  have hlower := (normal_whole hpos hlt).lower
  have hup : (wholeExponent n - 2).toNat = 0 := by unfold wholeExponent; omega
  have hdown : (-(wholeExponent n - 2)).toNat = 52 - n.log2 + 2 := by unfold wholeExponent; omega
  have hpow : 0 < 2 ^ (52 - n.log2) := Nat.two_pow_pos _
  unfold around
  simp only [hup, hdown, Nat.pow_eq, Nat.pow_zero, Nat.mul_one, Nat.pow_add]
  refine ⟨?_, ?_, ?_, ?_⟩ <;> dsimp only
  · rw [wholeMantissa]
    ring
  · cases narrow <;> simp only [Bool.false_eq_true, if_true, if_false] <;> omega
  · cases narrow <;> simp only [Bool.false_eq_true, if_true, if_false] <;> omega
  · omega

end Interval

/-! ## Writing -/

/-- **A whole float is written as the number is.** -/
theorem plain_ofNat (hlt : n < 2 ^ 53) : plain (Float.ofNat n) = ofNat n := by
  rcases Nat.eq_zero_or_pos n with rfl | hpos
  · rw [plain, ofFloat_ofNat_zero]
    rfl
  · have hnormal := normal_whole hpos hlt
    obtain ⟨narrow, hbinary⟩ := ofFloat_normalFloat hnormal
    have haround := Interval.around_whole hpos hlt narrow
    have hdigits : (ofNat n).length ≤ 16 := (Nat.length_toDigits_le_iff (by decide) (by decide)).2 (by omega)
    have hsteps : (ofNat n).length - 1 < 17 := by omega
    obtain ⟨j, hdvd, hhit⟩ := Interval.firstHit_whole haround .up hsteps
    have hne : (wholeMantissa n == 0) = false := beq_eq_false_iff_ne.2 hnormal.ne_zero
    have hquotient : 0 < n / 10 ^ j := Nat.div_pos (Nat.le_of_dvd hpos hdvd) (Nat.pow_pos (by decide))
    rw [plain, ofNat_eq_normalFloat hpos hlt, hbinary]
    simp only [hne, signed, shortest, Interval.leading_whole haround hpos, hhit]
    rw [if_neg Bool.false_ne_true, if_neg Bool.false_ne_true, positional_ofNat hquotient, Nat.div_mul_cancel hdvd]

/-! ## Integers -/

variable {a b : Int}

theorem plain_ofInt (hpos : 0 ≤ a) (hlt : a < 2 ^ 53) : plain (Float.ofInt a) = ofInt a := by
  obtain ⟨n, rfl⟩ := Int.eq_ofNat_of_zero_le hpos
  exact plain_ofNat (by omega)

theorem ofInt_beq_iff (ha : 0 ≤ a) (ha' : a < 2 ^ 53) (hb : 0 ≤ b) (hb' : b < 2 ^ 53) :
    (Float.ofInt a == Float.ofInt b) = true ↔ a = b := by
  obtain ⟨m, rfl⟩ := Int.eq_ofNat_of_zero_le ha
  obtain ⟨n, rfl⟩ := Int.eq_ofNat_of_zero_le hb
  rw [Int.ofNat_inj]
  exact ofNat_beq_iff (by omega) (by omega)

end ChatProfiles.Decimal
