import ChatProfiles.Decimal.Reading
import ChatProfiles.Profile.Location
import ChatProfiles.Text.Blank
/-!
# Console lines

The console plays a group chat, one update to a line.  `@name text` posts a text
to the group, `dm @name text` to the bot alone, and `@name /loc …` shares a
location with the group.  A line of its own may ask for the stored profiles or end
the session; blank lines and comments do nothing.
-/
namespace ChatProfiles

inductive Line where
  | say (username text : Text) (direct : Bool)
  | share (username : Text) (location : Location)
  | dump
  | quit
  | blank

/-- What is wrong with a line. -/
inductive Malformed where
  | notAddressed (line : Text)
  | missingUsername
  | directLocation
  /-- What stands where the numbers of a location should. -/
  | location (given : Text)

def Malformed.message : Malformed → Text
  | .notAddressed line => "expected `@username message`, got `".toList ++ line ++ ['\x60']
  | .missingUsername => "missing username".toList
  | .directLocation => "locations can only be shared in the group".toList
  | .location given =>
    "expected `/loc latitude longitude [accuracy]`, got `".toList ++ given ++ ['\x60']

namespace Line

/-! ## Shared locations -/

def isLatitude (x : Float) : Bool := -90.0 ≤ x && x ≤ 90.0

def isLongitude (x : Float) : Bool := -180.0 ≤ x && x ≤ 180.0

def isAccuracy (x : Float) : Bool := x.isFinite && !(x < 0.0)

/-- A number that satisfies `valid`. -/
def number? (valid : Float → Bool) (t : Text) : Option Float :=
  match Decimal.readFloat? t with
  | some x => if valid x then some x else none
  | none => none

def location? (given : Text) : Option Location :=
  match Text.words given with
  | [latitude, longitude] => do
    let x ← number? isLatitude latitude
    let y ← number? isLongitude longitude
    return { latitude := x, longitude := y }
  | [latitude, longitude, accuracy] => do
    let x ← number? isLatitude latitude
    let y ← number? isLongitude longitude
    let z ← number? isAccuracy accuracy
    return { latitude := x, longitude := y, accuracy := some z }
  | _ => none

/-! ## Lines -/

/-- A message of the member `username`; one that starts with `/loc` shares a location. -/
def ofMessage (username text : Text) (direct : Bool) : Except Malformed Line :=
  match Text.strip? "/loc".toList text with
  | none => .ok (.say username text direct)
  | some given =>
    if direct then .error .directLocation
    else match location? given with
      | some l => .ok (.share username l)
      | none => .error (.location (Text.trim given))

/-- The name and the message after `@`. -/
def ofAddressed (addressed : Text) (direct : Bool) : Except Malformed Line :=
  let (username, rest?) := Text.cut Text.isBlank addressed
  if username.isEmpty then .error .missingUsername
  else ofMessage username (rest?.elim [] Text.trim) direct

/-- Lines that stand for themselves, in any letter case. -/
def keyword? (t : Text) : Option Line :=
  let folded := Text.fold t
  if folded == "/quit".toList || folded == "/exit".toList then some .quit
  else if folded == "/dump".toList then some .dump
  else none

def ofText (t : Text) : Except Malformed Line :=
  let input := Text.trim t
  if input.isEmpty || Text.startsWith ['#'] input then .ok .blank
  else match keyword? input with
    | some line => .ok line
    | none =>
      let (direct, rest) := match Text.strip? "dm ".toList input with
        | some rest => (true, Text.trimLeft rest)
        | none => (false, input)
      match rest with
      | '@' :: addressed => ofAddressed addressed direct
      | _ => .error (.notAddressed input)

end Line

end ChatProfiles
