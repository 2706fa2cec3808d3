import ChatProfiles.Profile.Basic
/-!
# Messages

What a chat hands to the bot, and what the bot hands back to be delivered to the
same chat.
-/
namespace ChatProfiles

inductive ChatKind where
  | group
  | direct
deriving DecidableEq, Repr

structure Chat where
  id : Int
  kind : ChatKind
deriving DecidableEq

def Chat.isGroup (c : Chat) : Bool := c.kind == .group

inductive Content where
  | text (body : Text)
  | location (l : Location)

structure Update where
  chat : Chat
  sender : Member
  content : Content

inductive Message where
  | text (body : Text)
  /-- Text with `*bold*`, `_italic_` and code markup. -/
  | markup (body : Text)
  | location (l : Location)

def Message.body? : Message → Option Text
  | .text body | .markup body => some body
  | .location _ => none

end ChatProfiles
