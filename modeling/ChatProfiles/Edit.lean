import ChatProfiles.Directive.Token
/-!
# Editing a profile

Words are applied one after the other, each to the profile that the one before it
left.  A word that cannot be applied is reported with the reason; the words after it
are applied all the same.  Adding a tag that is there, or removing one that is not,
is no fault.
-/
namespace ChatProfiles

/-- Why a directive was not applied to a profile. -/
inductive Refusal where
  | unrecognized (token : Text)
  | outOfBounds (e : OutOfBounds)
  | searchOnly (directive : Directive)

def Refusal.message : Refusal → Text
  | .unrecognized token => "unrecognized argument: ".toList ++ token
  | .outOfBounds e => e.message
  | .searchOnly d => '\x27' :: d.write ++ "\x27 can only be used to search profiles".toList

structure RefusedToken where
  token : Text
  reason : Refusal

namespace Profile

def apply : Directive → Attempt Profile Refusal Unit
  | .includeTag tag => modify (·.addTag tag)
  | .excludeTag tag => modify (·.removeTag tag)
  | .setAttribute kind value => do
    let _previous ← (setAttribute kind value).adapt .outOfBounds
    return ()
  | .setMarker marker => modify (·.withMarker marker)
  | .attributeWithin kind range => throw (.searchOnly (.attributeWithin kind range))
  | .distanceWithin range => throw (.searchOnly (.distanceWithin range))
  | .unrecognized token => throw (.unrecognized token)

/-- The profile after all the words, and the words that were refused. -/
def applyTokens (p : Profile) : List Text → Profile × List RefusedToken
  | [] => (p, [])
  | t :: rest =>
    let (result, q) := (apply (Directive.ofToken .edit t)).on p
    let (last, refused) := q.applyTokens rest
    match result with
    | .ok () => (last, refused)
    | .error reason => (last, ⟨t, reason⟩ :: refused)

end Profile

end ChatProfiles
