import ChatProfiles.Directive.Basic
/-!
# Words that ask for something

Three shapes of words are told apart: a range such as `18,29yo`, a tag such as
`-#nerd`, and a marker.  A word that has the shape of a range is a range or
nothing: if its numbers are too large or inverted, or its unit is unknown, no other
shape is tried.

A range is written `[min][,][max]unit`, and a unit may itself start with digits, so
the shape alone does not say where the unit starts.  The bounds take as many digits
as they can, the lower one first, and leave the unit at least one character: `29`
is the bound `2` with the unit `9`.
-/
namespace ChatProfiles

/-! ## The shape of a range -/

def isUnitChar (c : Char) : Bool := c.isAlphanum || c == '_'

structure RangeShape where
  min : Text
  comma : Bool
  max : Text
  unit : Text
deriving DecidableEq

namespace RangeShape

/-- A stretch of digits and then a unit; the digits give up their last one when nothing but
digits is left for the unit. -/
def numberAndUnit? (t : Text) : Option (Text × Text) :=
  let digits := t.takeWhile Char.isDigit
  match t.dropWhile Char.isDigit with
  | [] => digits.getLast?.map fun last => (digits.dropLast, [last])
  | unit => if unit.all isUnitChar then some (digits, unit) else none

def ofToken? (t : Text) : Option RangeShape :=
  match t.dropWhile Char.isDigit with
  | ',' :: r =>
    (numberAndUnit? r).map fun (max, unit) => ⟨t.takeWhile Char.isDigit, true, max, unit⟩
  | _ => (numberAndUnit? t).map fun (min, unit) => ⟨min, false, [], unit⟩

/-- The largest bound a word can ask for. -/
def largest : Nat := 2147483647

/-- The bound that digits stand for; no digits stand for no bound. -/
def bound? (digits : Text) : Option (Option Int) :=
  if digits.isEmpty then some none
  else if Decimal.value digits ≤ largest then some (some (Decimal.value digits : Int))
  else none

/-- The range between the bounds; a single number is both. -/
def range? (s : RangeShape) : Option (Range Int) := do
  let min ← bound? s.min
  let max ← if s.comma then bound? s.max else some min
  (Range.ofBounds min max).toOption

def directive? (s : RangeShape) (purpose : Purpose) : Option Directive := do
  let range ← s.range?
  if s.unit == distanceUnit then
    return .distanceWithin (range.map Float.ofInt)
  let kind ← AttributeKind.ofUnit? s.unit
  match purpose, range.point? with
  | .edit, some value => return .setAttribute kind value
  | _, _ => return .attributeWithin kind range

end RangeShape

/-! ## The shape of a tag

An optional sign, `#`, and letters and digits; whatever follows them on the same line
is left out. -/

structure TagShape where
  sign : Option Char
  body : Text
deriving DecidableEq

namespace TagShape

def afterSign? (sign : Option Char) : Text → Option TagShape
  | '#' :: r =>
    let body := r.takeWhile Char.isAlphanum
    if body.isEmpty || (r.dropWhile Char.isAlphanum).any (· == '\n') then none
    else some ⟨sign, body⟩
  | _ => none

def ofToken? : Text → Option TagShape
  | '+' :: r => afterSign? (some '+') r
  | '-' :: r => afterSign? (some '-') r
  | t => afterSign? none t

def directive? (s : TagShape) : Option Directive :=
  (Tag.ofBody? s.body).map fun tag =>
    if s.sign = some '-' then .excludeTag tag else .includeTag tag

end TagShape

/-! ## Reading a word -/

namespace Directive

def ofToken (purpose : Purpose) (t : Text) : Directive :=
  match RangeShape.ofToken? t with
  | some shape => (shape.directive? purpose).getD (.unrecognized t)
  | none =>
    match (TagShape.ofToken? t).bind TagShape.directive? with
    | some d => d
    | none =>
      match purpose with
      | .edit => (Marker.ofText? t).elim (.unrecognized t) .setMarker
      | .search => .unrecognized t

def ofTokens (purpose : Purpose) (ts : List Text) : List Directive := ts.map (ofToken purpose)

end Directive

end ChatProfiles
