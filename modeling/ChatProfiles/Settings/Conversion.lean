import ChatProfiles.Decimal.Shortest
import ChatProfiles.Json.Basic
/-!
# What a setting accepts

A setting takes a value of another kind when there is one way to understand it: a
number or truth value where a text is asked for stands for its own text, and the
usual words stand for truth values.  Lists, tables and `null` are never accepted
for a single value.  An integer that does not fit 64 bits counts as a float.
-/
namespace ChatProfiles.Settings

def asText? : Json → Option Text
  | .text t => some t
  | .bool b => some (if b then "true".toList else "false".toList)
  | .int n => some (if Decimal.fits64 n then Decimal.ofInt n else Decimal.plain (Float.ofInt n))
  | .float x => some (Decimal.plain x)
  | _ => none

def yesWords : List Text := ["true".toList, "on".toList, "yes".toList]

def noWords : List Text := ["false".toList, "off".toList, "no".toList]

def asBool? : Json → Option Bool
  | .bool b => some b
  | .int n => some (n != 0)
  | .float x => some (x != 0.0)
  | .text t =>
    let word := Text.fold t
    if ("1".toList :: yesWords).contains word then some true
    else if ("0".toList :: noWords).contains word then some false
    else none
  | _ => none

/-- The nearest whole number that fits 64 bits, halves away from zero; 0 for what is no number. -/
def rounded (x : Float) : Int :=
  let clamp (negative : Bool) (n : Nat) : Int :=
    if negative then -((min n (Nat.pow 2 63) : Nat) : Int)
    else ((min n (Nat.pow 2 63 - 1) : Nat) : Int)
  match Decimal.Binary.ofFloat x with
  | .notANumber => 0
  | .infinite negative => clamp negative (Nat.pow 2 64)
  | .finite negative m q _ =>
    let down := Nat.pow 2 (-q).toNat
    clamp negative ((2 * m * Nat.pow 2 q.toNat + down) / (2 * down))

def asInt? : Json → Option Int
  | .int n => some (if Decimal.fits64 n then n else rounded (Float.ofInt n))
  | .bool b => some (if b then 1 else 0)
  | .float x => some (rounded x)
  | .text t =>
    let word := Text.fold t
    if yesWords.contains word then some 1
    else if noWords.contains word then some 0
    else Decimal.readInt64? t
  | _ => none

end ChatProfiles.Settings
