import ChatProfiles.Text.Basic
/-!
# Decimal integers

Whole numbers in decimal digits.  `ofNat` writes the canonical form, without
leading zeros; `value` reads any run of digits, however many zeros it starts
with.
-/
namespace ChatProfiles.Decimal

def ofNat (n : Nat) : Text := Nat.toDigits 10 n

def ofInt : Int → Text
  | .ofNat n => ofNat n
  | .negSucc n => '-' :: ofNat (n + 1)

def value (digits : Text) : Nat := Nat.ofDigitChars 10 digits 0

theorem value_ofNat (n : Nat) : value (ofNat n) = n :=
  Nat.ofDigitChars_toDigits (by decide) (by decide)

theorem isDigit_of_mem_ofNat {n : Nat} {c : Char} (h : c ∈ ofNat n) : c.isDigit = true :=
  Nat.isDigit_of_mem_toDigits (by decide) (by decide) h

/-! ## Words of 32 and 64 bits

Attribute values and range bounds fit 32 bits, identifiers fit 64; a number read
from outside is refused when it does not. -/

def fits32 (n : Int) : Bool := -2147483648 ≤ n && n ≤ 2147483647

def fits64 (n : Int) : Bool := -9223372036854775808 ≤ n && n ≤ 9223372036854775807

/-- A number with an optional sign, digits only and at least one of them, that fits 64 bits. -/
def readInt64? (t : Text) : Option Int :=
  let (negative, digits) := match t with
    | '-' :: r => (true, r)
    | '+' :: r => (false, r)
    | _ => (false, t)
  if digits.isEmpty || !digits.all Char.isDigit then none
  else
    let n : Int := if negative then -(value digits : Int) else value digits
    if fits64 n then some n else none

end ChatProfiles.Decimal
