import ChatProfiles.Text.Order
/-!
# JSON values

A number is an integer or a float, because the two are not accepted in the same
places: `1` can be an attribute value and `1.0` cannot.  An object is the list of
its members in order.
-/
namespace ChatProfiles

inductive Json where
  | null
  | bool (b : Bool)
  | int (n : Int)
  | float (x : Float)
  | text (t : Text)
  | array (items : List Json)
  | object (members : List (Text × Json))

namespace Json

/-- Infinities and what is not a number have no JSON form; `null` stands for them. -/
def ofFloat (x : Float) : Json := if x.isFinite then .float x else .null

def ofOption {α : Type} (encode : α → Json) : Option α → Json
  | none => .null
  | some a => encode a

/-- Members in ascending order of their names; a later member replaces an earlier one of the
same name. -/
def withMember (name : Text) (j : Json) : List (Text × Json) → List (Text × Json)
  | [] => [(name, j)]
  | m :: rest =>
    match Text.order name m.1 with
    | .lt => (name, j) :: m :: rest
    | .eq => (name, j) :: rest
    | .gt => m :: withMember name j rest

end Json

end ChatProfiles
