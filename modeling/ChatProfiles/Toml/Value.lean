import ChatProfiles.Json.Basic
import ChatProfiles.Toml.Moment
/-!
# TOML values

What a key of a document holds.  As JSON, a moment is its text, and so is a table
whose first key is `momentKey`: this is how a moment is carried through data that
has no such values.  Nothing but the text of a moment may stand under that key, and
the keys after it are passed over.  Under a later key of the table the name means
nothing.
-/
namespace ChatProfiles.Toml

inductive Value where
  /-- A string, a number or a truth value. -/
  | plain (j : Json)
  | moment (t : Text)
  | array (items : List Value)
  /-- The keys are in the order in which the document gives them. -/
  | table (members : List (Text × Value))

def momentKey : Text := "$__toml_private_datetime".toList

/-- The value that stands for the whole table. -/
def carried? : List (Text × Value) → Option Value
  | (key, v) :: _ => if key == momentKey then some v else none
  | [] => none

def carriedJson? : Value → Option Json
  | .plain (.text t) => (quotedMoment? t).map .text
  | _ => none

mutual

def Value.toJson? : Value → Option Json
  | .plain j => some j
  | .moment t => some (.text t)
  | .array items => (itemsJson? items).map .array
  | .table members =>
    match carried? members with
    | some v => carriedJson? v
    | none => (membersJson? members).map .object

def itemsJson? : List Value → Option (List Json)
  | [] => some []
  | v :: rest => do return (← v.toJson?) :: (← itemsJson? rest)

def membersJson? : List (Text × Value) → Option (List (Text × Json))
  | [] => some []
  | (key, v) :: rest => do return (key, ← v.toJson?) :: (← membersJson? rest)

end

end ChatProfiles.Toml
