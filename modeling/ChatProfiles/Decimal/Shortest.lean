import ChatProfiles.Decimal.Basic
import ChatProfiles.Decimal.Binary
/-!
# The fewest digits that read back

A float stands for the reals that round to it: an interval around `m · 2 ^ q`
that reaches half way to each neighbour, its ends included when `m` is even.  The
decimal written for the float lies in that interval and has as few digits as any
number there; of those with as few, it is the nearest.

The search walks the decimal grids `10 ^ k` from the leading digit downwards.  On
each it looks at the two grid points next to the float: if any point of the grid
is in the interval, so is one of these two.
-/
namespace ChatProfiles.Decimal

/-- Which of two equally near decimals to take. -/
inductive Tie where
  | up
  | even

/-- `digits · 10 ^ exponent`. -/
structure Scaled where
  digits : Text
  exponent : Int

/-- An interval of positive reals around a value, the numerators over one denominator. -/
structure Interval where
  lower : Nat
  value : Nat
  upper : Nat
  denominator : Nat
  endsIncluded : Bool

namespace Interval

/-- The reals that round to `mantissa · 2 ^ exponent`, in quarters of its last place. -/
def around (mantissa : Nat) (exponent : Int) (narrow : Bool) : Interval :=
  let q := exponent - 2
  let up := Nat.pow 2 q.toNat
  { lower := (4 * mantissa - (if narrow then 1 else 2)) * up
    value := 4 * mantissa * up
    upper := (4 * mantissa + 2) * up
    denominator := Nat.pow 2 (-q).toNat
    endsIncluded := mantissa % 2 == 0 }

/-- The interval measured in units of `10 ^ k`. -/
def inUnits (i : Interval) (k : Int) : Interval :=
  let up := Nat.pow 10 (-k).toNat
  { i with
    lower := i.lower * up
    value := i.value * up
    upper := i.upper * up
    denominator := i.denominator * Nat.pow 10 k.toNat }

/-- The exponent of the value's leading decimal digit. -/
def leading (i : Interval) : Int :=
  if i.denominator ≤ i.value then ((ofNat (i.value / i.denominator)).length : Int) - 1
  else -((ofNat ((i.denominator - 1) / i.value)).length : Int)

/-- The whole number in the interval that is nearest to its value. -/
def nearest? (tie : Tie) (i : Interval) : Option Nat :=
  let below := i.value / i.denominator
  let above := below + 1
  let belowIn := if i.endsIncluded then i.lower ≤ below * i.denominator
    else i.lower < below * i.denominator
  let aboveIn := if i.endsIncluded then above * i.denominator ≤ i.upper
    else above * i.denominator < i.upper
  if belowIn then
    if aboveIn then
      let twice := 2 * (i.value % i.denominator)
      if twice < i.denominator then some below
      else if i.denominator < twice then some above
      else match tie with
        | .up => some above
        | .even => some (if below % 2 == 0 then below else above)
    else some below
  else if aboveIn then some above
  else none

/-- The first grid with a point in the interval, of the next `steps` grids from `10 ^ k` down. -/
def firstHit (tie : Tie) (i : Interval) : Nat → Int → Nat × Int
  | 0, k => ((i.inUnits k).value / (i.inUnits k).denominator, k)
  | steps + 1, k =>
    match (i.inUnits k).nearest? tie with
    | some n => (n, k)
    | none => firstHit tie i steps (k - 1)

end Interval

/-- Trailing zeros moved into the exponent. -/
def Scaled.ofNat (n : Nat) (k : Int) : Scaled :=
  let digits := Decimal.ofNat n
  let kept := (digits.reverse.dropWhile (· == '0')).reverse
  { digits := kept, exponent := k + (digits.length - kept.length : Nat) }

/-- The shortest decimal of a positive `mantissa · 2 ^ exponent`; 17 digits tell any two floats
apart, so 17 grids are enough. -/
def shortest (tie : Tie) (mantissa : Nat) (exponent : Int) (narrow : Bool) : Scaled :=
  let i := Interval.around mantissa exponent narrow
  let (n, k) := i.firstHit tie 17 i.leading
  Scaled.ofNat n k

/-! ## Positional form -/

/-- Where the decimal point stands, counted from the first digit. -/
def Scaled.point (s : Scaled) : Int := s.digits.length + s.exponent

/-- Positional, without an exponent; `whole` follows a number that has no fraction. -/
def Scaled.positional (whole : Text) (s : Scaled) : Text :=
  if 0 ≤ s.exponent then s.digits ++ List.replicate s.exponent.toNat '0' ++ whole
  else if 0 < s.point then
    s.digits.take s.point.toNat ++ '.' :: s.digits.drop s.point.toNat
  else '0' :: '.' :: List.replicate (-s.point).toNat '0' ++ s.digits

def signed (negative : Bool) (t : Text) : Text := if negative then '-' :: t else t

/-- The form floats take inside messages: never an exponent, and no fraction on whole numbers. -/
def plain (x : Float) : Text :=
  match Binary.ofFloat x with
  | .notANumber => "NaN".toList
  | .infinite negative => signed negative "inf".toList
  | .finite negative m q narrow =>
    signed negative (if m == 0 then ['0'] else (shortest .up m q narrow).positional [])

end ChatProfiles.Decimal
