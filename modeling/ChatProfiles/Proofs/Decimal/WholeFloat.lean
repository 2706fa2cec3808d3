import ChatProfiles.Decimal.Binary
import Mathlib
/-!
# Whole numbers as floats

A natural number below `2 ^ 53` is a float exactly: its bits, shifted to the front, are a mantissa that rounding leaves
alone (`roundWithAccuracy_exact`), and packing such a mantissa loses nothing (`unpack_pack`).  So the float of a number
is known bit by bit (`ofNat_eq_normalFloat`), what is read off it is the number (`ofFloat_normalFloat`), and two of them
are equal only if the numbers are (`ofNat_beq_iff`).
-/
namespace ChatProfiles.Decimal

open Float.Model Float.Model.UnpackedFloat

/-! ## Normal floats -/

/-- The mantissa fills its 53 bits, and the exponent is one that finite floats have. -/
structure Normal (m : Nat) (e : Int) : Prop where
  lower : 2 ^ 52 ≤ m
  upper : m < 2 ^ 53
  smallest : -1074 ≤ e
  largest : e ≤ 971

namespace Normal

variable {m : Nat} {e : Int}

theorem pos (h : Normal m e) : 0 < m := Nat.lt_of_lt_of_le (by decide) h.lower

theorem ne_zero (h : Normal m e) : m ≠ 0 := Nat.ne_of_gt h.pos

theorem log2_eq (h : Normal m e) : m.log2 = 52 := (Nat.log2_eq_iff h.ne_zero).2 ⟨h.lower, h.upper⟩

theorem log2_shifted (h : Normal m e) (k : Nat) : (m * 2 ^ k).log2 = 52 + k := by
  have hne : m * 2 ^ k ≠ 0 := Nat.ne_of_gt (Nat.mul_pos h.pos (Nat.two_pow_pos k))
  rw [Nat.log2_eq_iff hne, Nat.pow_add, Nat.add_right_comm, Nat.pow_add]
  exact ⟨Nat.mul_le_mul_right _ h.lower, Nat.mul_lt_mul_of_pos_right h.upper (Nat.two_pow_pos k)⟩

end Normal

variable {m : Nat} {e : Int}

/-- The float with this mantissa and exponent. -/
def normalFloat (s : Sign) (h : Normal m e) : Float := .ofModel (.pack (.finite s m e h.pos))

/-! ## Rounding -/

theorem targetExponent_binary64 (t : Int) : Format.binary64.targetExponent t = max (t - 53) (-1074) := rfl

/-- Zeros at the end of a mantissa are shifted out without a trace. -/
theorem shiftRight_exact (m k : Nat) :
    (⟨m * 2 ^ k, false, false⟩ : ExtendedMantissa) >>> k = ⟨m, false, false⟩ := by
  induction k generalizing m with
  | zero => rw [Nat.pow_zero, Nat.mul_one]; rfl
  | succ k ih =>
    rw [Nat.pow_succ', ← Nat.mul_assoc]
    change ((⟨m * 2 * 2 ^ k, false, false⟩ : ExtendedMantissa) >>> k).shiftRightOne = _
    rw [ih, ExtendedMantissa.shiftRightOne, Nat.mul_div_cancel m (by decide), Nat.mul_mod_left]
    rfl

theorem shiftToTargetExponent_exact (h : Normal m e) (k : Nat) :
    shiftToTargetExponent .binary64 (m * 2 ^ k) (e - k) .exact = (⟨m, false, false⟩, e) := by
  have htarget : Format.binary64.targetExponent (totalExponent (m * 2 ^ k) (e - k)) = e := by
    have hsmall := h.smallest
    rw [targetExponent_binary64, totalExponent, h.log2_shifted]
    omega
  have hamount : (e - (e - k)).toNat = k := by omega
  rw [shiftToTargetExponent, htarget, shiftToExponent, hamount, ExtendedMantissa.ofMantissaAndAccuracy,
    shiftRight_exact, Int.sub_add_cancel]

/-- **Rounding a shifted normal mantissa shifts it back.** -/
theorem roundWithAccuracy_exact (h : Normal m e) (s : Sign) (k : Nat) :
    roundWithAccuracy .binary64 s (m * 2 ^ k) (e - k) .exact = .finite s m e h.pos := by
  have hagain : shiftToTargetExponent .binary64 m e .exact = (⟨m, false, false⟩, e) := by
    simpa using shiftToTargetExponent_exact h 0
  have hrounded : (⟨m, false, false⟩ : ExtendedMantissa).roundedMantissa = m := rfl
  rw [roundWithAccuracy, shiftToTargetExponent_exact h k]
  simp only [hrounded, hagain, h.ne_zero, dif_neg, not_false_eq_true]

/-! ## The bits -/

theorem exponentBias_add : (Format.binary64.exponentBias : Int) + (52 : Nat) = 1075 := rfl

theorem pack_eq (h : Normal m e) (s : Sign) :
    UnpackedFloat.pack .binary64 (.finite s m e h.pos) =
      packComponents .binary64 s (BitVec.ofNat 11 (e + 1075).toNat) (BitVec.ofNat 52 m) := by
  have hsmall := h.smallest
  have hlarge := h.largest
  rw [UnpackedFloat.pack]
  simp only [h.log2_eq, Int.add_assoc, exponentBias_add]
  rw [if_neg (by omega), if_pos (show 52 + 1 = Format.binary64.mantissaBits from rfl)]

theorem toNat_biased (h : Normal m e) : (BitVec.ofNat 11 (e + 1075).toNat).toNat = (e + 1075).toNat := by
  have hsmall := h.smallest
  have hlarge := h.largest
  rw [BitVec.toNat_ofNat, Nat.mod_eq_of_lt (by omega)]

/-- The first bit of the mantissa is not stored. -/
theorem toNat_fraction (h : Normal m e) : (BitVec.ofNat 52 m).toNat = m - 2 ^ 52 := by
  have hlower := h.lower
  have hupper := h.upper
  rw [BitVec.toNat_ofNat]
  omega

theorem toNat_pack (h : Normal m e) :
    (UnpackedFloat.pack .binary64 (.finite .positive m e h.pos)).toNat =
      (e + 1075).toNat * 2 ^ 52 + (m - 2 ^ 52) := by
  rw [pack_eq h, packComponents, BitVec.toNat_append, ← Nat.shiftLeft_add_eq_or_of_lt (BitVec.isLt _),
    toNat_fraction h, Nat.shiftLeft_eq, BitVec.toNat_append, toNat_biased h]
  congr 2
  exact Nat.zero_or _

theorem unpackSign_packComponents {spec : Format} (s : Sign) (e : BitVec spec.exponentBits)
    (m : BitVec spec.mantissaBitsWithoutImplicit) : Sign.ofBitVec (unpackSign (packComponents spec s e m)) = s := by
  have hsign : unpackSign (packComponents spec s e m) = s.toBitVec := by
    ext i hi
    obtain rfl : i = 0 := Nat.lt_one_iff.1 hi
    simp [unpackSign, packComponents, BitVec.getLsbD_append, BitVec.getElem_append]
  rw [hsign]
  cases s <;> rfl

/-- **A normal float is unpacked as it was packed.** -/
theorem unpack_pack (h : Normal m e) (s : Sign) :
    UnpackedFloat.unpack .binary64 (UnpackedFloat.pack .binary64 (.finite s m e h.pos)) = .finite s m e h.pos := by
  have hsmall := h.smallest
  have hlarge := h.largest
  -- the two exponents that mean something else
  have hzero : BitVec.ofNat 11 (e + 1075).toNat ≠ 0#11 := by
    intro hz
    have := (toNat_biased h).symm.trans (congrArg BitVec.toNat hz)
    rw [show (0#11).toNat = 0 from rfl] at this
    omega
  have hones : BitVec.ofNat 11 (e + 1075).toNat ≠ -1#11 := by
    intro hz
    have := (toNat_biased h).symm.trans (congrArg BitVec.toNat hz)
    rw [show (-1#11).toNat = 2047 from rfl] at this
    omega
  have hmantissa : (1#1 ++ BitVec.ofNat 52 m).toNat = m := by
    rw [BitVec.toNat_append, ← Nat.shiftLeft_add_eq_or_of_lt (BitVec.isLt _), toNat_fraction h]
    exact Nat.add_sub_cancel' h.lower
  rw [pack_eq h, UnpackedFloat.unpack]
  simp only [unpackMantissa_packComponents, unpackExponent_packComponents, unpackSign_packComponents,
    exponentBias_add, hmantissa, toNat_biased h, if_neg hzero, if_neg hones]
  congr 1
  omega

theorem unpack_normalFloat (s : Sign) (h : Normal m e) : (normalFloat s h).toModel.unpack = .finite s m e h.pos :=
  unpack_pack h s

/-- What a normal float stands for. -/
theorem ofFloat_normalFloat (h : Normal m e) :
    ∃ narrow, Binary.ofFloat (normalFloat .positive h) = .finite false m e narrow := by
  have hlower := h.lower
  have hupper := h.upper
  have hsmall := h.smallest
  have hlarge := h.largest
  have hbits : (normalFloat .positive h).toBits.toNat = (e + 1075).toNat * 2 ^ 52 + (m - 2 ^ 52) := toNat_pack h
  have hsign : ((e + 1075).toNat * 2 ^ 52 + (m - 2 ^ 52)) / 2 ^ 63 = 0 := by omega
  have hbiased : ((e + 1075).toNat * 2 ^ 52 + (m - 2 ^ 52)) / 2 ^ 52 % 2 ^ 11 = (e + 1075).toNat := by omega
  have hfraction : ((e + 1075).toNat * 2 ^ 52 + (m - 2 ^ 52)) % 2 ^ 52 = m - 2 ^ 52 := by omega
  have hmantissa : 2 ^ 52 + (m - 2 ^ 52) = m := Nat.add_sub_cancel' hlower
  have hexponent : ((e + 1075).toNat : Int) - 1075 = e := by omega
  have hinfinite : ((e + 1075).toNat == 2047) = false := beq_eq_false_iff_ne.2 (by omega)
  have hsubnormal : ((e + 1075).toNat == 0) = false := beq_eq_false_iff_ne.2 (by omega)
  unfold Binary.ofFloat
  simp only [Nat.pow_eq, hbits, hsign, hbiased, hfraction, hmantissa, hexponent, hinfinite, hsubnormal]
  exact ⟨_, rfl⟩

/-! ## Whole numbers -/

def wholeMantissa (n : Nat) : Nat := n * 2 ^ (52 - n.log2)

def wholeExponent (n : Nat) : Int := n.log2 - 52

variable {n : Nat}

theorem normal_whole (hpos : 0 < n) (hlt : n < 2 ^ 53) : Normal (wholeMantissa n) (wholeExponent n) := by
  have hlog : n.log2 < 53 := (Nat.log2_lt (Nat.ne_of_gt hpos)).2 hlt
  have hlower : n.log2 + (52 - n.log2) = 52 := by omega
  have hupper : n.log2 + 1 + (52 - n.log2) = 53 := by omega
  refine ⟨?_, ?_, by unfold wholeExponent; omega, by unfold wholeExponent; omega⟩
  · have := Nat.mul_le_mul_right (2 ^ (52 - n.log2)) (Nat.log2_self_le (Nat.ne_of_gt hpos))
    rwa [← Nat.pow_add, hlower] at this
  · have := Nat.mul_lt_mul_of_pos_right (Nat.lt_log2_self (n := n)) (Nat.two_pow_pos (52 - n.log2))
    rwa [← Nat.pow_add, hupper] at this

theorem unpackedOfNat (hpos : 0 < n) (hlt : n < 2 ^ 53) : UnpackedFloat.ofNat .binary64 n =
    .finite .positive (wholeMantissa n) (wholeExponent n) (normal_whole hpos hlt).pos := by
  have hlog : n.log2 < 53 := (Nat.log2_lt (Nat.ne_of_gt hpos)).2 hlt
  have htarget : Format.binary64.targetExponent (totalExponent n 0) = wholeExponent n := by
    rw [targetExponent_binary64, totalExponent, wholeExponent]
    omega
  have hdecrease : decreaseExponent n 0 (wholeExponent n) = (wholeMantissa n, wholeExponent n) := by
    have hamount : (0 - wholeExponent n).toNat = 52 - n.log2 := by unfold wholeExponent; omega
    rw [decreaseExponent, hamount, Nat.shiftLeft_eq]
    refine Prod.ext rfl ?_
    change (0 : Int) - (52 - n.log2 : Nat) = wholeExponent n
    unfold wholeExponent
    omega
  have hcompare : compare (n : Int) 0 = .gt := Int.compare_eq_gt.2 (by omega)
  have hround := roundWithAccuracy_exact (normal_whole hpos hlt) .positive 0
  rw [Nat.pow_zero, Nat.mul_one, Int.natCast_zero, Int.sub_zero] at hround
  rw [UnpackedFloat.ofNat, UnpackedFloat.ofInt, UnpackedFloat.normalize, hcompare]
  simp only [Int.toNat_natCast]
  rw [UnpackedFloat.round, htarget, hdecrease]
  exact hround

theorem toFloat_toUInt64 (hpos : 0 < n) (hlt : n < 2 ^ 53) :
    n.toUInt64.toFloat = normalFloat .positive (normal_whole hpos hlt) := by
  have htoNat : n.toUInt64.toNat = n := by
    rw [Nat.toUInt64, UInt64.toNat_ofNat']
    omega
  change Float.ofModel (.pack (UnpackedFloat.ofNat .binary64 n.toUInt64.toNat)) = _
  rw [htoNat, unpackedOfNat hpos hlt]
  rfl

theorem normal_one : Normal (2 ^ 52) (-52) := ⟨by decide, by decide, by decide, by decide⟩

/-- **A whole number is a float as it is.**  The float is computed as a product with one, which is exact. -/
theorem ofNat_eq_normalFloat (hpos : 0 < n) (hlt : n < 2 ^ 53) :
    Float.ofNat n = normalFloat .positive (normal_whole hpos hlt) := by
  have hnormal := normal_whole hpos hlt
  have hproduct : Float.ofNat n = n.toUInt64.toFloat * Float.ofBits 0x3FF0000000000000 := by
    change Float.ofScientific n false 0 = _
    rw [Float.ofScientific, dif_pos ⟨hlt, by decide⟩]
    rfl
  have hone : (Float.ofBits 0x3FF0000000000000).toModel.unpack = .finite .positive (2 ^ 52) (-52) normal_one.pos := by
    rfl
  rw [hproduct, toFloat_toUInt64 hpos hlt]
  change Float.ofModel (.pack (UnpackedFloat.mul .binary64 (normalFloat .positive hnormal).toModel.unpack
    (Float.ofBits 0x3FF0000000000000).toModel.unpack)) = _
  rw [unpack_normalFloat, hone, UnpackedFloat.mul]
  have hround := roundWithAccuracy_exact hnormal (.positive * .positive) 52
  exact congrArg (fun u => Float.ofModel (.pack u)) hround

theorem unpack_ofNat_zero : (Float.ofNat 0).toModel.unpack = .zero .positive := rfl

theorem ofFloat_ofNat_zero : Binary.ofFloat (Float.ofNat 0) = .finite false 0 (-1074) false := rfl

/-! ## Equality -/

theorem beq_normalFloat {m' : Nat} {e' : Int} (h : Normal m e) (h' : Normal m' e') :
    (normalFloat .positive h == normalFloat .positive h') = true ↔ e = e' ∧ m = m' := by
  change ((normalFloat .positive h).toModel.unpack.compare (normalFloat .positive h').toModel.unpack
    == some .eq) = true ↔ _
  rw [unpack_normalFloat, unpack_normalFloat, UnpackedFloat.compare, beq_iff_eq, Option.some_inj, Ordering.then_eq_eq,
    Int.compare_eq_eq, Nat.compare_eq_eq]

theorem ofNat_zero_beq (h : Normal m e) : (Float.ofNat 0 == normalFloat .positive h) = false := by
  change ((Float.ofNat 0).toModel.unpack.compare (normalFloat .positive h).toModel.unpack == some .eq) = false
  rw [unpack_ofNat_zero, unpack_normalFloat]
  rfl

theorem beq_ofNat_zero (h : Normal m e) : (normalFloat .positive h == Float.ofNat 0) = false := by
  change ((normalFloat .positive h).toModel.unpack.compare (Float.ofNat 0).toModel.unpack == some .eq) = false
  rw [unpack_ofNat_zero, unpack_normalFloat]
  rfl

theorem whole_injective {a b : Nat} (he : wholeExponent a = wholeExponent b)
    (hm : wholeMantissa a = wholeMantissa b) : a = b := by
  have hlog : a.log2 = b.log2 := by unfold wholeExponent at he; omega
  rw [wholeMantissa, wholeMantissa, hlog] at hm
  exact Nat.eq_of_mul_eq_mul_right (Nat.two_pow_pos _) hm

/-- **Whole floats are equal if and only if the numbers are.** -/
theorem ofNat_beq_iff {a b : Nat} (ha : a < 2 ^ 53) (hb : b < 2 ^ 53) :
    (Float.ofNat a == Float.ofNat b) = true ↔ a = b := by
  rcases Nat.eq_zero_or_pos a with rfl | hapos
  · rcases Nat.eq_zero_or_pos b with rfl | hbpos
    · exact iff_of_true rfl rfl
    · rw [ofNat_eq_normalFloat hbpos hb, ofNat_zero_beq]
      exact iff_of_false Bool.false_ne_true (by omega)
  · rcases Nat.eq_zero_or_pos b with rfl | hbpos
    · rw [ofNat_eq_normalFloat hapos ha, beq_ofNat_zero]
      exact iff_of_false Bool.false_ne_true (by omega)
    · rw [ofNat_eq_normalFloat hapos ha, ofNat_eq_normalFloat hbpos hb, beq_normalFloat]
      constructor
      · rintro ⟨he, hm⟩
        exact whole_injective he hm
      · rintro rfl
        exact ⟨rfl, rfl⟩

end ChatProfiles.Decimal
