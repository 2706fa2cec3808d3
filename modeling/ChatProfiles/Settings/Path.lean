import ChatProfiles.Decimal.Basic
import ChatProfiles.Json.Basic
import ChatProfiles.Text.Lowercase
/-!
# Setting one value among many

Settings come from several sources, each laid over those before it.  A source names
what it sets by a path such as `chat.group_id` or `list[0].name`.  Tables are laid
over each other member by member, without regard to the letter case of their
members' names; any other value replaces what was there.
-/
namespace ChatProfiles.Settings

/-- One step down from a value. -/
inductive Step where
  | member (name : Text)
  /-- Counted from the end when negative. -/
  | item (index : Int)

structure Path where
  first : Text
  steps : List Step

/-! ## Reading a path -/

def isNameChar (c : Char) : Bool := c.isAlphanum || c == '_' || c == '-' || c == ' '

def name? (t : Text) : Option (Text × Text) :=
  match t.takeWhile isNameChar with
  | [] => none
  | name => some (name, t.dropWhile isNameChar)

/-- An index up to the closing bracket.  Spaces and tabs may stand around it, no other
blanks. -/
def index? (t : Text) : Option (Int × Text) :=
  let isSpace (c : Char) : Bool := c == ' ' || c == '\t'
  let t := t.dropWhile isSpace
  let (negative, t) := match t with
    | '-' :: r => (true, r)
    | _ => (false, t)
  let digits := t.takeWhile Char.isDigit
  match digits, (t.dropWhile Char.isDigit).dropWhile isSpace with
  | _ :: _, ']' :: rest =>
    let n : Int := if negative then -(Decimal.value digits : Int) else Decimal.value digits
    if Decimal.fits64 n then some (n, rest) else none
  | _, _ => none

def steps? : Nat → Text → Option (List Step)
  | _, [] => some []
  | 0, _ => none
  | bound + 1, '.' :: r => do
    let (name, r) ← name? r
    return .member name :: (← steps? bound r)
  | bound + 1, '[' :: r => do
    let (index, r) ← index? r
    return .item index :: (← steps? bound r)
  | _, _ => none

def Path.ofText? (t : Text) : Option Path := do
  let (first, r) ← name? t
  return ⟨first, ← steps? r.length r⟩

/-! ## Laying one value over another -/

def membersOf : Json → List (Text × Json)
  | .object members => members
  | _ => []

def itemsOf : Json → List Json
  | .array items => items
  | _ => []

def put (name : Text) (j : Json) : List (Text × Json) → List (Text × Json)
  | [] => [(name, j)]
  | m :: rest => if m.1 == name then (name, j) :: rest else m :: put name j rest

mutual

/-- `under` with the member `name` set to `new`, or laid over if it is a table. -/
def place (name : Text) (new under : Json) : Json :=
  let key := Text.lowercase name
  let members := membersOf under
  match new with
  | .object incoming =>
    .object (put key (placeAll incoming ((members.lookup key).getD (Json.object []))) members)
  | new => .object (put key new members)

def placeAll : List (Text × Json) → Json → Json
  | [], under => under
  | (name, new) :: rest, under => placeAll rest (place name new under)

end

/-- The item at an index, and how many empty ones have to be added for it to exist; an index
before the first item names none. -/
def position? (index : Int) (length : Nat) : Option Nat :=
  if 0 ≤ index then some index.toNat
  else if index.natAbs ≤ length then some (length - index.natAbs)
  else none

def updateItem (index : Int) (f : Json → Json) (items : List Json) : List Json :=
  match position? index items.length with
  | none => items
  | some n => (items ++ List.replicate (n + 1 - items.length) Json.null).modify n f

def setSteps (new : Json) : List Step → Json → Json
  | [], _ => new
  | [.member name], under => place name new under
  | .member name :: rest, under =>
    let members := membersOf under
    let key := Text.lowercase name
    .object (put key (setSteps new rest ((members.lookup key).getD Json.null)) members)
  | .item index :: rest, under => .array (updateItem index (setSteps new rest) (itemsOf under))

/-- What the path leads to, set to `new`. -/
def Path.set (p : Path) (new under : Json) : Json := setSteps new (.member p.first :: p.steps) under

/-- A source's member, its name read as a path if it is one. -/
def setNamed (name : Text) (new under : Json) : Json :=
  match Path.ofText? name with
  | some p => p.set new under
  | none => place name new under

/-- All members of a source, in order. -/
def overlay (source : List (Text × Json)) (under : Json) : Json :=
  source.foldl (fun tree (name, j) => setNamed name j tree) under

end ChatProfiles.Settings
