import ChatProfiles.Decimal.Basic
import ChatProfiles.Text.Basic
/-!
# Dates and times

A moment is a date, a time of day, or both, the latter perhaps with an offset from
universal time.  It is kept as text in one form: a `T` between date and time, no
zeros at the end of a second's fraction, and an offset of hours and minutes.

A moment stands in a document as it is, or as a text of its own; the latter allows
the hour 24, and any two digits in an offset of at most a day.
-/
namespace ChatProfiles.Toml

/-- How far the parts of a moment may go that depend on where it stands. -/
structure MomentLimits where
  hour : Nat
  offsetHour : Nat
  offsetMinute : Nat

def MomentLimits.bare : MomentLimits := ⟨23, 23, 59⟩

def MomentLimits.quoted : MomentLimits := ⟨24, 99, 99⟩

/-- Exactly `count` digits, and their value. -/
def fixedDigits? (count : Nat) (t : Text) : Option (Text × Nat × Text) :=
  let ds := t.take count
  if ds.length == count && ds.all Char.isDigit then some (ds, Decimal.value ds, t.drop count)
  else none

def expect? (c : Char) : Text → Option Text
  | d :: r => if d == c then some r else none
  | [] => none

def daysIn (year month : Nat) : Nat :=
  if month == 2 then
    if year % 4 == 0 && (year % 100 != 0 || year % 400 == 0) then 29 else 28
  else if month == 4 || month == 6 || month == 9 || month == 11 then 30
  else 31

def date? (t : Text) : Option (Text × Text) := do
  let (y, year, t) ← fixedDigits? 4 t
  let t ← expect? '-' t
  let (m, month, t) ← fixedDigits? 2 t
  let t ← expect? '-' t
  let (d, day, t) ← fixedDigits? 2 t
  if 1 ≤ month && month ≤ 12 && 1 ≤ day && day ≤ daysIn year month then
    return (y ++ '-' :: m ++ '-' :: d, t)
  else none

/-- Nine digits of a second's fraction are kept, and no zeros at its end. -/
def secondsFraction? : Text → Option (Text × Text)
  | '.' :: r =>
    match r.takeWhile Char.isDigit with
    | [] => none
    | ds =>
      let kept := ((ds.take 9).reverse.dropWhile (· == '0')).reverse
      some (if kept.isEmpty then [] else '.' :: kept, r.dropWhile Char.isDigit)
  | t => some ([], t)

def time? (limits : MomentLimits) (t : Text) : Option (Text × Text) := do
  let (h, hour, t) ← fixedDigits? 2 t
  let t ← expect? ':' t
  let (m, minute, t) ← fixedDigits? 2 t
  let t ← expect? ':' t
  let (s, second, t) ← fixedDigits? 2 t
  let (fraction, t) ← secondsFraction? t
  if hour ≤ limits.hour && minute ≤ 59 && second ≤ 60 then
    return (h ++ ':' :: m ++ ':' :: s ++ fraction, t)
  else none

def twoDigits (n : Nat) : Text := [Nat.digitChar (n / 10 % 10), Nat.digitChar (n % 10)]

/-- The distance from universal time, at most a day; none has a plus. -/
def offset? (limits : MomentLimits) (sign : Char) (t : Text) : Option (Text × Text) := do
  let (_, hour, t) ← fixedDigits? 2 t
  let t ← expect? ':' t
  let (_, minute, t) ← fixedDigits? 2 t
  let minutes := 60 * hour + minute
  let sign := if minutes == 0 then '+' else sign
  if hour ≤ limits.offsetHour && minute ≤ limits.offsetMinute && minutes ≤ 24 * 60 then
    some (sign :: twoDigits (minutes / 60) ++ ':' :: twoDigits (minutes % 60), t)
  else none

def offset (limits : MomentLimits) : Text → Text × Text
  | 'Z' :: r | 'z' :: r => (['Z'], r)
  | '+' :: r => (offset? limits '+' r).getD ([], '+' :: r)
  | '-' :: r => (offset? limits '-' r).getD ([], '-' :: r)
  | t => ([], t)

/-- A moment at the front of a text, and what is left. -/
def moment? (limits : MomentLimits) (t : Text) : Option (Text × Text) :=
  match date? t with
  | some (d, r) =>
    let timed? : Option (Text × Text) := match r with
      | c :: rest => if c == 'T' || c == 't' || c == ' ' then time? limits rest else none
      | [] => none
    match timed? with
    | some (clock, r) => let (o, r) := offset limits r; some (d ++ 'T' :: clock ++ o, r)
    | none => some (d, r)
  | none => time? limits t

/-- A text that is a moment and nothing else. -/
def quotedMoment? (t : Text) : Option Text :=
  match moment? .quoted t with
  | some (m, []) => some m
  | _ => none

end ChatProfiles.Toml
