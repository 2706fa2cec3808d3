import ChatProfiles.Decimal.Shortest
/-!
# A fixed number of places

A float rounded to a number of decimal places: the exact binary value is rounded
to the nearest decimal, a half to the even neighbour.  The sign of a negative
number stays even when only zeros are left.
-/
namespace ChatProfiles.Decimal

/-- The quotient rounded to the nearest whole number, a half to the even one. -/
def roundedQuotient (numerator denominator : Nat) : Nat :=
  let below := numerator / denominator
  let twice := 2 * (numerator % denominator)
  if twice < denominator then below
  else if denominator < twice then below + 1
  else below + below % 2

/-- `n` units of the last of `places` places. -/
def withPlaces (places n : Nat) : Text :=
  let digits := ofNat n
  let padded := List.replicate (places + 1 - digits.length) '0' ++ digits
  let whole := padded.length - places
  padded.take whole ++ (if places == 0 then [] else '.' :: padded.drop whole)

def fixed (places : Nat) (x : Float) : Text :=
  match Binary.ofFloat x with
  | .notANumber => "NaN".toList
  | .infinite negative => signed negative "inf".toList
  | .finite negative m q _ =>
    let numerator := m * Nat.pow 10 places * Nat.pow 2 q.toNat
    signed negative (withPlaces places (roundedQuotient numerator (Nat.pow 2 (-q).toNat)))

end ChatProfiles.Decimal
