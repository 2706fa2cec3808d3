import ChatProfiles.Json.Basic
import ChatProfiles.Decimal.Reading
/-!
# Reading JSON

The grammar of JSON and nothing beyond it: no comments, no trailing commas, no
leading zeros, and at most 127 arrays and objects inside one another.  Of two
members of the same name the later one counts.

A number without fraction and exponent that fits 64 bits is an integer.  Any other
number is a float: as many of its digits as fit 64 bits, scaled by a power of ten
in floating point.  A number too large for a float is refused.
-/
namespace ChatProfiles.Json

def isSpace (c : Char) : Bool := c == ' ' || c == '\n' || c == '\r' || c == '\t'

def skipSpace (t : Text) : Text := t.dropWhile isSpace

/-! ## Numbers -/

/-- As many digits as fit 64 bits, after those already in `n`; the digits left over. -/
def absorb (n : Nat) : Text → Nat × Text
  | [] => (n, [])
  | c :: r =>
    let next := 10 * n + (c.toNat - '0'.toNat)
    if next < Nat.pow 2 64 then absorb next r else (n, c :: r)

/-- `n · 10 ^ exponent`, one rounding for `n` and one for each power of ten. -/
def scaled? (n : Nat) (exponent : Int) : Option Float :=
  let x := Float.ofNat n
  let e := exponent.natAbs
  if n == 0 then some 0.0
  else if 0 ≤ exponent then
    if 308 < e then none
    else
      let y := x * Float.ofScientific 1 false e
      if y.isFinite then some y else none
  else if e ≤ 308 then some (x / Float.ofScientific 1 false e)
  else if e ≤ 616 then some (x / Float.ofScientific 1 false 308 / Float.ofScientific 1 false (e - 308))
  else some 0.0

/-- The digits at the front; none means that a number is malformed. -/
def digits? (t : Text) : Option (Text × Text) :=
  match t.takeWhile Char.isDigit with
  | [] => none
  | ds => some (ds, t.dropWhile Char.isDigit)

def wholePart? (t : Text) : Option (Text × Text) :=
  match t with
  | '0' :: r => if r.head?.any Char.isDigit then none else some (['0'], r)
  | _ => digits? t

/-- The fraction's digits, if a point follows. -/
def fractionPart? : Text → Option (Option Text × Text)
  | '.' :: r => (digits? r).map fun (ds, rest) => (some ds, rest)
  | t => some (none, t)

/-- The exponent, if its mark follows. -/
def exponentPart? : Text → Option (Option Int × Text)
  | c :: r =>
    if c == 'e' || c == 'E' then
      let (negative, rest) := Decimal.takeSign r
      (digits? rest).map fun (ds, rest) =>
        let n : Int := Decimal.value ds
        (some (if negative then -n else n), rest)
    else some (none, c :: r)
  | [] => some (none, [])

def numberOf? (negative : Bool) (whole : Text) (fraction : Option Text) (exponent : Option Int) :
    Option Json :=
  let (n, spare) := absorb 0 whole
  let float? (n : Nat) (e : Int) : Option Json :=
    (scaled? n e).map fun x => .float (if negative then -x else x)
  match fraction, exponent with
  | none, none =>
    if !spare.isEmpty then float? n spare.length
    else if !negative then some (.int n)
    else if 0 < n && n ≤ Nat.pow 2 63 then some (.int (-n))
    else float? n 0
  | _, _ =>
    let places := fraction.getD []
    let (n, lost) := absorb n places
    float? n (spare.length - (places.length - lost.length : Nat) + exponent.getD 0)

def number? (t : Text) : Option (Json × Text) := do
  let (negative, t) := match t with
    | '-' :: r => (true, r)
    | _ => (false, t)
  let (whole, t) ← wholePart? t
  let (fraction, t) ← fractionPart? t
  let (exponent, t) ← exponentPart? t
  let j ← numberOf? negative whole fraction exponent
  return (j, t)

/-! ## Strings -/

def hexDigit? (c : Char) : Option Nat :=
  if c.isDigit then some (c.toNat - '0'.toNat)
  else if 'a' ≤ c && c ≤ 'f' then some (c.toNat - 'a'.toNat + 10)
  else if 'A' ≤ c && c ≤ 'F' then some (c.toNat - 'A'.toNat + 10)
  else none

def hex4? : Text → Option (Nat × Text)
  | a :: b :: c :: d :: rest => do
    let a ← hexDigit? a
    let b ← hexDigit? b
    let c ← hexDigit? c
    let d ← hexDigit? d
    return (((a * 16 + b) * 16 + c) * 16 + d, rest)
  | _ => none

/-- The character of a `\u` escape, whose mark is already read; outside the first plane it takes
two escapes. -/
def unicodeEscape? (t : Text) : Option (Char × Text) := do
  let (high, rest) ← hex4? t
  if 0xD800 ≤ high && high < 0xDC00 then
    match rest with
    | '\\' :: 'u' :: rest =>
      let (low, rest) ← hex4? rest
      if 0xDC00 ≤ low && low < 0xE000 then
        return (Char.ofNat (0x10000 + (high - 0xD800) * 0x400 + (low - 0xDC00)), rest)
      else none
    | _ => none
  else if 0xDC00 ≤ high && high < 0xE000 then none
  else return (Char.ofNat high, rest)

def simpleEscape? : Char → Option Char
  | '"' => some '"'
  | '\\' => some '\\'
  | '/' => some '/'
  | 'b' => some '\x08'
  | 'f' => some '\x0c'
  | 'n' => some '\n'
  | 'r' => some '\r'
  | 't' => some '\t'
  | _ => none

/-- The rest of a string after its opening quote; every character read takes one step. -/
def stringRest? : Nat → Text → Option (Text × Text)
  | 0, _ => none
  | steps + 1, t =>
    match t with
    | [] => none
    | '"' :: r => some ([], r)
    | '\\' :: 'u' :: r => do
      let (c, r) ← unicodeEscape? r
      let (cs, r) ← stringRest? steps r
      return (c :: cs, r)
    | '\\' :: e :: r => do
      let c ← simpleEscape? e
      let (cs, r) ← stringRest? steps r
      return (c :: cs, r)
    | c :: r =>
      if c.toNat < 0x20 || c == '\\' then none
      else do
        let (cs, r) ← stringRest? steps r
        return (c :: cs, r)

def string? (t : Text) : Option (Text × Text) := stringRest? (t.length + 1) t

/-! ## Values

`steps` bounds the values, items and members still to be read; every one of them
takes at least one character. -/

mutual

def value? (steps depth : Nat) (t : Text) : Option (Json × Text) :=
  match steps with
  | 0 => none
  | steps + 1 =>
    match t with
    | 'n' :: 'u' :: 'l' :: 'l' :: r => some (.null, r)
    | 't' :: 'r' :: 'u' :: 'e' :: r => some (.bool true, r)
    | 'f' :: 'a' :: 'l' :: 's' :: 'e' :: r => some (.bool false, r)
    | '"' :: r => (string? r).map fun (s, r) => (.text s, r)
    | '[' :: r =>
      if depth ≤ 1 then none
      else match skipSpace r with
        | ']' :: r => some (.array [], r)
        | r => (items? steps (depth - 1) r).map fun (js, r) => (.array js, r)
    | '\x7b' :: r =>
      if depth ≤ 1 then none
      else match skipSpace r with
        | '\x7d' :: r => some (.object [], r)
        | r => (members? steps (depth - 1) [] r).map fun (ms, r) => (.object ms, r)
    | t => number? t

/-- Items up to the closing bracket, the first of which starts here. -/
def items? (steps depth : Nat) (t : Text) : Option (List Json × Text) :=
  match steps with
  | 0 => none
  | steps + 1 => do
    let (j, r) ← value? steps depth t
    match skipSpace r with
    | ']' :: r => return ([j], r)
    | ',' :: r =>
      let (js, r) ← items? steps depth (skipSpace r)
      return (j :: js, r)
    | _ => none

/-- Members up to the closing brace, added to those already read. -/
def members? (steps depth : Nat) (before : List (Text × Json)) (t : Text) :
    Option (List (Text × Json) × Text) :=
  match steps with
  | 0 => none
  | steps + 1 =>
    match t with
    | '"' :: r => do
      let (name, r) ← string? r
      match skipSpace r with
      | ':' :: r =>
        let (j, r) ← value? steps depth (skipSpace r)
        let all := withMember name j before
        match skipSpace r with
        | '\x7d' :: r => return (all, r)
        | ',' :: r => members? steps depth all (skipSpace r)
        | _ => none
      | _ => none
    | _ => none

end

def read? (t : Text) : Option Json := do
  let (j, r) ← value? (2 * t.length + 1) 128 (skipSpace t)
  if (skipSpace r).isEmpty then some j else none

end ChatProfiles.Json
