import ChatProfiles.Text.Basic
/-!
# Members

What the chat tells about a member.  The identifier never changes; everything else
may be different with each message the member sends.
-/
namespace ChatProfiles

structure Member where
  id : Int
  firstName : Text
  lastName : Option Text := none
  username : Option Text := none
  languageCode : Option Text := none
deriving DecidableEq

namespace Member

/-- Usernames are the same in either case of their ASCII letters. -/
def hasUsername (m : Member) (username : Text) : Bool :=
  m.username.any (Text.sameIgnoringCase · username)

end Member

end ChatProfiles
