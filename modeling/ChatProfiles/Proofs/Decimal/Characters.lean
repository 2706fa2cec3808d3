import ChatProfiles.Decimal.Fixed
import Mathlib.Data.List.Basic
/-!
# The characters of written numbers

A float is written with digits, a point and a minus, or with the letters of two words, in the shortest form and with a
fixed number of places alike.  So whatever is written of a number holds no blank, no line end and no exponent.
-/
namespace ChatProfiles.Decimal

/-- The characters that floats are written with. -/
def isWritten (c : Char) : Bool := c.isDigit || "-.NaNinf".toList.contains c

variable {t : Text}

/-- A text of such characters only. -/
def Written (t : Text) : Prop := ∀ c ∈ t, isWritten c = true

theorem written_of_all (h : t.all isWritten = true) : Written t := List.all_eq_true.1 h

theorem written_of_digits (h : ∀ c ∈ t, c.isDigit = true) : Written t := fun c hc => by
  rw [isWritten, h c hc, Bool.true_or]

theorem written_ofNat (n : Nat) : Written (ofNat n) := written_of_digits fun _ hc => isDigit_of_mem_ofNat hc

theorem written_zeros (n : Nat) : Written (List.replicate n '0') :=
  written_of_digits fun _ hc => List.eq_of_mem_replicate hc ▸ rfl

theorem Written.append {a b : Text} (ha : Written a) (hb : Written b) : Written (a ++ b) :=
  List.forall_mem_append.2 ⟨ha, hb⟩

theorem Written.cons {c : Char} (hc : isWritten c = true) (h : Written t) : Written (c :: t) :=
  List.forall_mem_cons.2 ⟨hc, h⟩

/-- What is left of a written text is written. -/
theorem Written.subset {a : Text} (h : Written t) (hsub : a ⊆ t) : Written a := fun c hc => h c (hsub hc)

theorem written_signed (negative : Bool) (h : Written t) : Written (signed negative t) := by
  cases negative with
  | false => exact h
  | true => exact h.cons rfl

theorem written_notANumber : Written "NaN".toList := written_of_all (by decide)

theorem written_infinite (negative : Bool) : Written (signed negative "inf".toList) :=
  written_signed negative (written_of_all (by decide))

theorem written_digits_ofNat (n : Nat) (k : Int) : Written (Scaled.ofNat n k).digits :=
  (written_ofNat n).subset fun _ hc =>
    List.mem_reverse.1 ((List.dropWhile_sublist _).subset (List.mem_reverse.1 hc))

theorem written_ofInt (n : Int) : Written (ofInt n) := by
  cases n with
  | ofNat k => exact written_ofNat k
  | negSucc k => exact (written_ofNat (k + 1)).cons rfl

theorem written_positional {s : Scaled} (h : Written s.digits) : Written (s.positional []) := by
  unfold Scaled.positional
  split
  · exact (h.append (written_zeros _)).append (List.forall_mem_nil _)
  · split
    · exact (h.subset (List.take_subset _ _)).append ((h.subset (List.drop_subset _ _)).cons rfl)
    · exact (((written_zeros _).append h).cons rfl).cons rfl

theorem written_plain (x : Float) : Written (plain x) := by
  unfold plain
  cases Binary.ofFloat x with
  | notANumber => exact written_notANumber
  | infinite negative => exact written_infinite negative
  | finite negative m q narrow =>
    refine written_signed negative ?_
    split
    · exact written_of_all (by decide)
    · exact written_positional (written_digits_ofNat _ _)

theorem written_withPlaces (places n : Nat) : Written (withPlaces places n) := by
  have hpadded : Written (List.replicate (places + 1 - (ofNat n).length) '0' ++ ofNat n) :=
    (written_zeros _).append (written_ofNat n)
  unfold withPlaces
  refine (hpadded.subset (List.take_subset _ _)).append ?_
  split
  · exact List.forall_mem_nil _
  · exact (hpadded.subset (List.drop_subset _ _)).cons rfl

theorem written_fixed (places : Nat) (x : Float) : Written (fixed places x) := by
  unfold fixed
  cases Binary.ofFloat x with
  | notANumber => exact written_notANumber
  | infinite negative => exact written_infinite negative
  | finite negative m q narrow => exact written_signed negative (written_withPlaces places _)

end ChatProfiles.Decimal
