import ChatProfiles.Bot.Card
import ChatProfiles.Bot.Command
import ChatProfiles.Bot.Help
import ChatProfiles.Edit
import ChatProfiles.Filter
import ChatProfiles.Registry
/-!
# Answering updates

The bot turns an update into replies and keeps what it learned in the registry.
No reply at all means that the update was not meant for the bot.

A group and its members are all that an answer depends on: whatever reads the
registry reads the profiles of the chat the update came from, and only edits
write, each to the sender's own profile.
-/
namespace ChatProfiles

/-- How the bot is called, and what it appends to what it could not make sense of. -/
structure BotConfig where
  username : Text := "roster_bot".toList
  unknownSuffix : Text := "❓".toList
deriving DecidableEq

namespace Bot

def unknown (config : BotConfig) (token : Text) : Message := .text (token ++ config.unknownSuffix)

/-- What an update changed and what is answered. -/
structure Outcome where
  replies : List Message
  registry : Registry

/-- The words the sender's profile was edited with that made no sense, and its card. -/
def iam (config : BotConfig) (r : Registry) (group : Int) (sender : Member) (words : List Text) :
    Outcome :=
  let (entered, r) := r.enter group sender
  let (p, refused) := entered.applyTokens words
  { replies := (refused.map fun x => unknown config x.token) ++ Card.messages p
    registry := r.put group p }

def shareLocation (r : Registry) (group : Int) (sender : Member) (l : Location) : Outcome :=
  let (entered, r) := r.enter group sender
  let p := entered.withLocation (some l)
  { replies := Card.messages p, registry := r.put group p }

def usage (config : BotConfig) : List Message :=
  [.markup ('*' :: Help.usage config.username ++ ['*'])]

/-- The card of the one member named, with or without `@` before the name. -/
def howis (config : BotConfig) (r : Registry) (group : Int) (words : List Text) :
    Except LookupError (List Message) :=
  match words with
  | [word] =>
    let username := (Text.strip? ['@'] word).getD word
    if username.isEmpty then .ok (usage config)
    else (r.findByUsername group username).map fun
      | some p => Card.messages p
      | none => [unknown config ('@' :: username)]
  | _ => .ok (usage config)

/-- The profiles that match, seen from where the sender is. -/
def whois (config : BotConfig) (r : Registry) (group : Int) (sender : Member) (words : List Text) :
    List Message :=
  let (f, ignored) := Filter.ofTokens words
  let origin := (r.get? group sender.id).bind Profile.location
  ignored.map (unknown config) ++
    match f.select origin (r.profiles group) with
    | .ok ps => [.text (Card.listing ps)]
    | .error .originRequired => [unknown config Card.locationLabel]

def answer (config : BotConfig) (r : Registry) (chat : Chat) (sender : Member) :
    Command → Except LookupError Outcome
  | .start => .ok ⟨[.markup Help.introduction], r⟩
  | .help => .ok ⟨(Help.guide config.username).map .markup, r⟩
  | .iam words => .ok (iam config r chat.id sender words)
  | .howis words => (howis config r chat.id words).map (⟨·, r⟩)
  | .whois words => .ok ⟨whois config r chat.id sender words, r⟩

def handle (config : BotConfig) (r : Registry) (u : Update) : Except LookupError Outcome :=
  match u.content with
  | .text body =>
    match Command.ofText? config.username body with
    | none => .ok ⟨[], r⟩
    | some command =>
      if command.requiresGroup && !u.chat.isGroup then .ok ⟨[], r⟩
      else answer config r u.chat u.sender command
  | .location l =>
    if u.chat.isGroup then .ok (shareLocation r u.chat.id u.sender l) else .ok ⟨[], r⟩

end Bot

end ChatProfiles
