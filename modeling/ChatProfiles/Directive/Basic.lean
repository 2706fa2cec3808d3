import ChatProfiles.Profile.Basic
import ChatProfiles.Range
/-!
# Directives

A directive is what one word of a command asks for.  The same words edit one's own
profile and search for other members; a range only makes sense in a search, a
single value and a marker only in an edit, and a tag in both.
-/
namespace ChatProfiles

/-- What the words of a command are for. -/
inductive Purpose where
  | edit
  | search
deriving DecidableEq, Repr

inductive Directive where
  /-- Add the tag, or require it. -/
  | includeTag (tag : Tag)
  /-- Remove the tag, or forbid it. -/
  | excludeTag (tag : Tag)
  | setAttribute (kind : AttributeKind) (value : Int)
  | attributeWithin (kind : AttributeKind) (range : Range Int)
  /-- Kilometres from the member who searches. -/
  | distanceWithin (range : Range Float)
  | setMarker (marker : Marker)
  | unrecognized (token : Text)

namespace Directive

def isUnrecognized : Directive → Bool
  | .unrecognized _ => true
  | _ => false

def isEdit : Directive → Bool
  | .includeTag _ | .excludeTag _ | .setAttribute _ _ | .setMarker _ => true
  | _ => false

def isSearch : Directive → Bool
  | .includeTag _ | .excludeTag _ | .attributeWithin _ _ | .distanceWithin _ => true
  | _ => false

/-- The directive as a word that asks for it. -/
def write : Directive → Text
  | .includeTag tag => tag.write
  | .excludeTag tag => '-' :: tag.write
  | .setAttribute kind value => kind.shown value
  | .attributeWithin kind range => range.write ++ kind.unit
  | .distanceWithin range => range.write ++ distanceUnit
  | .setMarker marker => marker.write
  | .unrecognized token => token

end Directive

end ChatProfiles
