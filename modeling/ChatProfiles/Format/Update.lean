import ChatProfiles.Bot.Service
import ChatProfiles.Format.Profile
/-!
# Updates, messages and the bot's configuration in JSON

The content of an update and a message have their kind and their body in two
members, `type` and `body`.
-/
namespace ChatProfiles

namespace ChatKind

def name : ChatKind → Text
  | .group => "group".toList
  | .direct => "private".toList

def ofName? (name : Text) : Option ChatKind :=
  if name == "group".toList then some .group
  else if name == "private".toList then some .direct
  else none

end ChatKind

namespace Chat

def toJson (c : Chat) : Json := .object [("id".toList, .int c.id), ("kind".toList, .text c.kind.name)]

def ofJson (j : Json) : Except Fault Chat :=
  (Format.readTwo "id".toList Format.readInt64 "kind".toList (Format.readName ChatKind.ofName?) j).map
    fun (id, kind) => ⟨id, kind⟩

end Chat

def Format.typed (type : Text) (body : Json) : Json :=
  .object [("type".toList, .text type), ("body".toList, body)]

namespace Content

def toJson : Content → Json
  | .text body => Format.typed "text".toList (.text body)
  | .location l => Format.typed "location".toList l.toJson

def ofTypeAndBody : Text × Json → Except Fault Content
  | (type, body) =>
    if type == "text".toList then (Format.readText body).map .text
    else if type == "location".toList then (Location.ofJson body).map .location
    else .error .shape

/-- As the first item of an array the kind is a plain text. -/
def readType : Json → Json → Except Fault Text
  | .array _ => Format.readText
  | _ => Format.readName some

def ofJson (j : Json) : Except Fault Content := do
  ofTypeAndBody (← Format.readTwo "type".toList (readType j) "body".toList .ok j)

end Content

namespace Update

def toJson (u : Update) : Json :=
  .object [("chat".toList, u.chat.toJson), ("sender".toList, u.sender.toJson),
    ("content".toList, u.content.toJson)]

/-- What is known of an update while its members are read. -/
structure Draft where
  chat : Option Chat := none
  sender : Option Member := none
  content : Option Content := none

def fields : List (Format.Field Draft) :=
  [⟨"chat".toList, fun j d => (Chat.ofJson j).map fun c => { d with chat := some c }⟩,
    ⟨"sender".toList, fun j d => (Member.ofJson j).map fun m => { d with sender := some m }⟩,
    ⟨"content".toList, fun j d => (Content.ofJson j).map fun c => { d with content := some c }⟩]

def ofJson (j : Json) : Except Fault Update := do
  let d ← Format.readRecord fields 3 {} j
  return ⟨← Format.orFault d.chat, ← Format.orFault d.sender, ← Format.orFault d.content⟩

end Update

namespace Message

def toJson : Message → Json
  | .text body => Format.typed "text".toList (.text body)
  | .markup body => Format.typed "markdown".toList (.text body)
  | .location l => Format.typed "location".toList l.toJson

end Message

namespace BotConfig

def toJson (c : BotConfig) : Json :=
  .object [("bot_username".toList, .text c.username),
    ("unknown_suffix".toList, .text c.unknownSuffix)]

def fields : List (Format.Field BotConfig) :=
  [⟨"bot_username".toList, fun j c => (Format.readText j).map fun t => { c with username := t }⟩,
    ⟨"unknown_suffix".toList, fun j c => (Format.readText j).map fun t => { c with unknownSuffix := t }⟩]

def ofJson (j : Json) : Except Fault BotConfig := Format.readRecord fields 0 {} j

end BotConfig

end ChatProfiles
