import ChatProfiles.Decimal.Reading
import ChatProfiles.Json.Basic
import ChatProfiles.Text.Lowercase
/-!
# Settings from the environment

A variable whose name starts with `ROSTER_`, in any letter case, sets what the rest
of its name says, two underscores standing for a step down: `ROSTER_CHAT__GROUP_ID`
sets `chat.group_id`.  Its value is a truth value if it reads as one, else an
integer, else a float, and a text only if it is none of these.
-/
namespace ChatProfiles.Settings

def variableStart : Text := "roster_".toList

/-- The path that a variable sets, in lowercase. -/
def variablePath? (name : Text) : Option Text :=
  (Text.strip? variableStart (Text.lowercase name)).map (Text.replaced "__".toList ['.'])

def variableValue (t : Text) : Json :=
  let folded := Text.lowercase t
  if folded == "true".toList then .bool true
  else if folded == "false".toList then .bool false
  else match Decimal.readInt64? t with
    | some n => .int n
    | none =>
      match Decimal.readFloat? t with
      | some x => .float x
      | none => .text t

def ofEnvironment (env : List (Text × Text)) : List (Text × Json) :=
  env.filterMap fun (name, value) => (variablePath? name).map (·, variableValue value)

end ChatProfiles.Settings
