import ChatProfiles.Bot.Service
import ChatProfiles.Console.Line
import ChatProfiles.Format.Profile
import ChatProfiles.Json.Printer
import ChatProfiles.Text.Lowercase
/-!
# Console sessions

A session knows the members that have spoken, in the order in which they first did,
and holds the bot's registry.  Two spellings name the same member when their full
lowercase is the same; the member keeps the first spelling as name and username,
and the number of its first appearance as identifier.

Whoever has spoken is a member, also if the update that this led to is not answered.
-/
namespace ChatProfiles

structure Session where
  config : BotConfig := {}
  group : Int := -1
  /-- Members by the lowercase of their names. -/
  members : List (Text × Member) := []
  registry : Registry := .empty

/-- What a line led to. -/
inductive Step where
  | replies (ms : List Message)
  /-- The group's profiles, as JSON. -/
  | dump (profiles : Text)
  | quit
  | nothing

/-- Why a line led to nothing; only a malformed line lets the session go on. -/
inductive StepError where
  | malformed (m : Malformed)
  | lookup (e : LookupError)

def StepError.message : StepError → Text
  | .malformed m => "Invalid argument: ".toList ++ m.message
  | .lookup e => "Service error: store error: ".toList ++ e.message

namespace Session

/-- The member called `username`, registered if unknown so far. -/
def member (s : Session) (username : Text) : Member × Session :=
  let key := Text.lowercase username
  match s.members.lookup key with
  | some m => (m, s)
  | none =>
    let m : Member :=
      { id := (s.members.length : Int) + 1, firstName := username, username := some username }
    (m, { s with members := s.members ++ [(key, m)] })

def post (u : Update) : Attempt Session StepError Step := do
  let s ← get
  let outcome ← (Bot.handle s.config s.registry u).mapError StepError.lookup
  set { s with registry := outcome.registry }
  return .replies outcome.replies

/-- A member's chat with the bot alone carries the member's own identifier. -/
def stepLine : Line → Attempt Session StepError Step
  | .blank => return .nothing
  | .quit => return .quit
  | .dump => do
    let s ← get
    return .dump (Json.array ((s.registry.profiles s.group).map Profile.toJson)).pretty
  | .say username text direct => do
    let sender ← modifyGet (·.member username)
    let s ← get
    let chat : Chat := if direct then ⟨sender.id, .direct⟩ else ⟨s.group, .group⟩
    post ⟨chat, sender, .text text⟩
  | .share username location => do
    let sender ← modifyGet (·.member username)
    let s ← get
    post ⟨⟨s.group, .group⟩, sender, .location location⟩

def step (input : Text) : Attempt Session StepError Step := do
  let line ← (Line.ofText input).mapError StepError.malformed
  stepLine line

end Session

end ChatProfiles
