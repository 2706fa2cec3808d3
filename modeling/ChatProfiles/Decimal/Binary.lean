/-!
# What a float stands for

A float is not a number, an infinity, or `± m · 2 ^ q` for a natural `m`.  All that
is written about a float is computed from `m` and `q` in whole numbers.
-/
namespace ChatProfiles.Decimal

inductive Binary where
  | notANumber
  | infinite (negative : Bool)
  /-- `mantissa · 2 ^ exponent`; `narrow` when the next float below is only half as far
  as the next one above. -/
  | finite (negative : Bool) (mantissa : Nat) (exponent : Int) (narrow : Bool)

def Binary.ofFloat (x : Float) : Binary :=
  let bits := x.toBits.toNat
  let negative := bits / Nat.pow 2 63 == 1
  let biased : Nat := bits / Nat.pow 2 52 % Nat.pow 2 11
  let fraction : Nat := bits % Nat.pow 2 52
  if biased == 2047 then
    if fraction == 0 then .infinite negative else .notANumber
  else if biased == 0 then .finite negative fraction (-1074) false
  else .finite negative (Nat.pow 2 52 + fraction) ((biased : Int) - 1075) (fraction == 0 && biased != 1)

end ChatProfiles.Decimal
