import ChatProfiles.Proofs.Console.Line
/-!
# Shared locations lie on the globe

A location is shared in words, and its numbers are read from words of any kind; but a line with a latitude beyond the
poles, a longitude beyond the date line or a radius below zero is malformed (`onGlobe_of_ofText`).  What is not a number
is none of these numbers: it stands in no order to any other (`isNaN_of_le`), so no bound lets it through, and a radius,
which is only tested for not being below zero, is tested for being finite too (`zero_le_of_not_lt`).
-/
namespace ChatProfiles

/-! ## The order of floats -/

namespace Decimal

open Float.Model (UnpackedFloat)

theorem le_iff {a b : Float} : a ≤ b ↔ a.toModel.unpack.le b.toModel.unpack = true := decide_eq_true_iff

theorem lt_iff {a b : Float} : a < b ↔ a.toModel.unpack.lt b.toModel.unpack = true := decide_eq_true_iff

/-- What is not a number comes neither before nor after anything. -/
theorem compare_notANumber (a : UnpackedFloat) : a.compare .notANumber = none := by
  cases a <;> rfl

theorem isNaN_of_le {a b : Float} (h : a ≤ b) : b.isNaN = false := by
  rw [le_iff] at h
  rw [Float.isNaN, Float.Model.isNaN]
  cases hb : b.toModel.unpack with
  | notANumber =>
    rw [hb, UnpackedFloat.le, compare_notANumber] at h
    cases h
  | infinity | zero | finite => rfl

/-- A finite float that is not below zero is zero or above it. -/
theorem zero_le_of_not_lt {x : Float} (hfinite : x.isFinite = true) (h : ¬ x < 0.0) : 0.0 ≤ x := by
  have hzero : (0.0 : Float).toModel.unpack = .zero .positive := by rfl
  rw [Float.isFinite, Float.Model.isFinite] at hfinite
  rw [lt_iff, hzero] at h
  rw [le_iff, hzero]
  cases hx : x.toModel.unpack with
  | notANumber | infinity => rw [hx] at hfinite; cases hfinite
  | zero => rfl
  | finite sign mantissa exponent =>
    rw [hx] at h
    cases sign with
    | positive => rfl
    | negative => exact absurd rfl h

end Decimal

/-! ## What a line may share -/

/-- Degrees of the globe, and a radius of uncertainty that is a distance if there is one; all of them numbers. -/
structure Location.OnGlobe (l : Location) : Prop where
  latitude : -90.0 ≤ l.latitude ∧ l.latitude ≤ 90.0
  longitude : -180.0 ≤ l.longitude ∧ l.longitude ≤ 180.0
  accuracy : ∀ metres ∈ l.accuracy, 0.0 ≤ metres ∧ metres.isFinite = true
  number : l.latitude.isNaN = false ∧ l.longitude.isNaN = false ∧ ∀ metres ∈ l.accuracy, metres.isNaN = false

namespace Line

variable {x : Float}

theorem isLatitude_iff : isLatitude x = true ↔ -90.0 ≤ x ∧ x ≤ 90.0 := by
  simp only [isLatitude, Bool.and_eq_true, decide_eq_true_eq]

theorem isLongitude_iff : isLongitude x = true ↔ -180.0 ≤ x ∧ x ≤ 180.0 := by
  simp only [isLongitude, Bool.and_eq_true, decide_eq_true_eq]

theorem le_of_isAccuracy (h : isAccuracy x = true) : 0.0 ≤ x ∧ x.isFinite = true := by
  simp only [isAccuracy, Bool.and_eq_true, Bool.not_eq_true', decide_eq_false_iff_not] at h
  exact ⟨Decimal.zero_le_of_not_lt h.1 h.2, h.1⟩

theorem valid_of_number? {valid : Float → Bool} {t : Text} (h : number? valid t = some x) : valid x = true := by
  unfold number? at h
  repeat' split at h
  all_goals cases h
  assumption

/-- Numbers that pass the tests of a line make a location on the globe. -/
theorem onGlobe {l : Location} (hlatitude : isLatitude l.latitude = true) (hlongitude : isLongitude l.longitude = true)
    (haccuracy : ∀ metres ∈ l.accuracy, isAccuracy metres = true) : l.OnGlobe where
  latitude := isLatitude_iff.1 hlatitude
  longitude := isLongitude_iff.1 hlongitude
  accuracy metres h := le_of_isAccuracy (haccuracy metres h)
  number := ⟨Decimal.isNaN_of_le (isLatitude_iff.1 hlatitude).1, Decimal.isNaN_of_le (isLongitude_iff.1 hlongitude).1,
    fun metres h => Decimal.isNaN_of_le (le_of_isAccuracy (haccuracy metres h)).1⟩

theorem onGlobe_of_location? {given : Text} {l : Location} (h : location? given = some l) : l.OnGlobe := by
  unfold location? at h
  split at h
  · obtain ⟨x, hx, h⟩ := Option.bind_eq_some_iff.1 h
    obtain ⟨y, hy, h⟩ := Option.bind_eq_some_iff.1 h
    cases h
    exact onGlobe (valid_of_number? hx) (valid_of_number? hy) nofun
  · obtain ⟨x, hx, h⟩ := Option.bind_eq_some_iff.1 h
    obtain ⟨y, hy, h⟩ := Option.bind_eq_some_iff.1 h
    obtain ⟨z, hz, h⟩ := Option.bind_eq_some_iff.1 h
    cases h
    exact onGlobe (valid_of_number? hx) (valid_of_number? hy) fun metres hm => Option.some.inj hm ▸ valid_of_number? hz
  · cases h

/-- The location that a line shares. -/
def shared? : Line → Option Location
  | .share _ l => some l
  | .say .. | .dump | .quit | .blank => none

variable {line : Line}

theorem shared?_of_name? (h : line.name? = none) : line.shared? = none := by
  cases line with
  | say | share => cases h
  | dump | quit | blank => rfl

theorem onGlobe_of_ofMessage {u t : Text} {direct : Bool} (h : ofMessage u t direct = .ok line) :
    ∀ l ∈ line.shared?, l.OnGlobe := by
  simp only [ofMessage] at h
  intro l hl
  split at h
  · cases h; cases hl
  · split at h
    · cases h
    · split at h
      · next hlocation => cases h; cases hl; exact onGlobe_of_location? hlocation
      · cases h

/-- **A location that a line shares lies on the globe**, however the line is written. -/
theorem onGlobe_of_ofText {t : Text} (h : ofText t = .ok line) : ∀ l ∈ line.shared?, l.OnGlobe := by
  rcases ofText_cases h with hnone | ⟨u, x, direct, -, hmessage⟩
  · intro l hl
    rw [shared?_of_name? hnone] at hl
    cases hl
  · exact onGlobe_of_ofMessage hmessage

end Line

end ChatProfiles
