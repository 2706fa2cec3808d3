import ChatProfiles.Decimal.Basic
import ChatProfiles.Json.Basic
import ChatProfiles.Profile.Marker
import ChatProfiles.Range
/-!
# Records in JSON

How the library's values are read from JSON.  A record is an object whose members
may come in any order and of which unknown ones are passed over; or it is an array
of the members' values in the order in which the record declares them.

Members are read as they come, so the first fault met is the one reported, and a
member that is missing is noticed last.
-/
namespace ChatProfiles

/-- Why a JSON value was refused. -/
inductive Fault where
  /-- Not the kind of value expected. -/
  | shape
  | inverted (e : Inverted)
  | notATag (body : Text)
  | notASymbol (t : Text)

def Fault.message? : Fault → Option Text
  | .shape => none
  | .inverted e => some e.message
  | .notATag body => some ("invalid tag: ".toList ++ Text.quoted body)
  | .notASymbol t => some (Marker.refusal t)

namespace Format

def orFault {α : Type} : Option α → Except Fault α
  | some a => .ok a
  | none => .error .shape

/-! ## Plain values -/

def readText : Json → Except Fault Text
  | .text t => .ok t
  | _ => .error .shape

def readInt32 : Json → Except Fault Int
  | .int n => if Decimal.fits32 n then .ok n else .error .shape
  | _ => .error .shape

def readInt64 : Json → Except Fault Int
  | .int n => if Decimal.fits64 n then .ok n else .error .shape
  | _ => .error .shape

def finite (x : Float) : Except Fault Float := if x.isFinite then .ok x else .error .shape

/-- An integer is also a float. -/
def readFloat : Json → Except Fault Float
  | .int n => finite (Float.ofInt n)
  | .float x => finite x
  | _ => .error .shape

def readOption {α : Type} (read : Json → Except Fault α) : Json → Except Fault (Option α)
  | .null => .ok none
  | j => (read j).map some

/-- One of several names, or an object whose only member has the name and holds nothing. -/
def readName {α : Type} (ofName? : Text → Option α) : Json → Except Fault α
  | .text t => orFault (ofName? t)
  | .object [(t, .null)] => orFault (ofName? t)
  | _ => .error .shape

/-- As `readName`, inside a tagged record, where an empty object holds nothing too. -/
def readTaggedName {α : Type} (ofName? : Text → Option α) : Json → Except Fault α
  | .object [(t, .object [])] => orFault (ofName? t)
  | j => readName ofName? j

/-! ## Records -/

/-- A member of a record, and how its value adds to what is known of the record. -/
structure Field (ρ : Type) where
  name : Text
  read : Json → ρ → Except Fault ρ

def readMember {ρ : Type} (fields : List (Field ρ)) (r : ρ) (m : Text × Json) : Except Fault ρ :=
  match fields.find? (·.name == m.1) with
  | some f => f.read m.2 r
  | none => .ok r

def readItems {ρ : Type} : List (Field ρ) → List Json → ρ → Except Fault ρ
  | f :: fs, j :: js, r => do readItems fs js (← f.read j r)
  | _, [], r => .ok r
  | [], _ :: _, _ => .error .shape

/-- An array must have at least the first `atLeast` values; what an object must have is seen from
the result. -/
def readRecord {ρ : Type} (fields : List (Field ρ)) (atLeast : Nat) (start : ρ) :
    Json → Except Fault ρ
  | .object members => members.foldlM (readMember fields) start
  | .array items => do
    let r ← readItems fields items start
    if items.length < atLeast then .error .shape else .ok r
  | _ => .error .shape

/-! ## Records all of whose members are required -/

def readOne {α : Type} (name : Text) (read : Json → Except Fault α) (j : Json) : Except Fault α := do
  let r ← readRecord [⟨name, fun j _ => (read j).map some⟩] 1 none j
  orFault r

def readTwo {α β : Type} (name₁ : Text) (read₁ : Json → Except Fault α) (name₂ : Text)
    (read₂ : Json → Except Fault β) (j : Json) : Except Fault (α × β) := do
  let (a?, b?) ← readRecord
    [⟨name₁, fun j r => (read₁ j).map fun a => (some a, r.2)⟩,
      ⟨name₂, fun j r => (read₂ j).map fun b => (r.1, some b)⟩]
    2 ((none, none) : Option α × Option β) j
  return (← orFault a?, ← orFault b?)

end Format

end ChatProfiles
