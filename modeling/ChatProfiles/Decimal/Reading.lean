import ChatProfiles.Decimal.Basic
/-!
# Reading a float

A number is a sign, digits with a point anywhere in, before or after them, and an
exponent, of which only one digit is required; or it is one of the words `inf`,
`infinity` and `nan`, in any letter case and with a sign.  The result is the float
nearest to the decimal.
-/
namespace ChatProfiles.Decimal

/-- The float nearest to `digits · 10 ^ exponent`.  Beyond the range of floats the answer is
known without computing the power. -/
def nearestFloat (digits : Text) (exponent : Int) : Float :=
  let n := value digits
  let magnitude := (ofNat n).length + exponent
  if n == 0 || magnitude < -400 then 0.0
  else if 400 < magnitude then Float.ofScientific 1 false 400
  else Float.ofScientific n (exponent < 0) exponent.natAbs

/-- A sign, if there is one, and what follows it. -/
def takeSign : Text → Bool × Text
  | '-' :: r => (true, r)
  | '+' :: r => (false, r)
  | t => (false, t)

/-- The exponent that `t` consists of, mark included; zero if `t` is empty. -/
def readExponent? : Text → Option Int
  | [] => some 0
  | c :: r =>
    let (negative, digits) := takeSign r
    if (c == 'e' || c == 'E') && !digits.isEmpty && digits.all Char.isDigit then
      some (if negative then -(value digits : Int) else value digits)
    else none

def readMagnitude? (t : Text) : Option Float :=
  let word := Text.fold t
  if word == "inf".toList || word == "infinity".toList then some (1.0 / 0.0)
  else if word == "nan".toList then some (0.0 / 0.0)
  else
    let whole := t.takeWhile Char.isDigit
    let afterWhole := t.dropWhile Char.isDigit
    let (fraction, rest) := match afterWhole with
      | '.' :: r => (r.takeWhile Char.isDigit, r.dropWhile Char.isDigit)
      | _ => ([], afterWhole)
    if whole.isEmpty && fraction.isEmpty then none
    else (readExponent? rest).map fun e => nearestFloat (whole ++ fraction) (e - fraction.length)

def readFloat? (t : Text) : Option Float :=
  let (negative, rest) := takeSign t
  (readMagnitude? rest).map fun x => if negative then -x else x

end ChatProfiles.Decimal
