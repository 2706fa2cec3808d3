import ChatProfiles.Text.Blank
/-!
# Commands

A message is a command when its first word is a slash and the name of one, in any
letter case, and perhaps `@` and the name of this bot.  A command addressed to
another bot is ordinary chatter.  The words after the first are its arguments.
-/
namespace ChatProfiles

inductive Command where
  | start
  | help
  | iam (words : List Text)
  | howis (words : List Text)
  | whois (words : List Text)
deriving DecidableEq

namespace Command

/-- The name in a command's first word, unless the word is addressed to another bot. -/
def name? (bot : Text) : Text → Option Text
  | '/' :: word =>
    match Text.cut (· == '@') word with
    | (name, none) => some name
    | (name, some addressee) => if Text.sameIgnoringCase addressee bot then some name else none
  | _ => none

def ofName? (name : Text) (words : List Text) : Option Command :=
  let folded := Text.fold name
  if folded == "start".toList then some .start
  else if folded == "help".toList then some .help
  else if folded == "iam".toList then some (.iam words)
  else if folded == "howis".toList then some (.howis words)
  else if folded == "whois".toList then some (.whois words)
  else none

def ofText? (bot text : Text) : Option Command :=
  match Text.words text with
  | [] => none
  | first :: words => (name? bot first).bind fun name => ofName? name words

def name : Command → Text
  | .start => "start".toList
  | .help => "help".toList
  | .iam _ => "iam".toList
  | .howis _ => "howis".toList
  | .whois _ => "whois".toList

/-- The arguments; the first two commands take no notice of any. -/
def words? : Command → Option (List Text)
  | .start | .help => none
  | .iam words | .howis words | .whois words => some words

/-- A profile belongs to a group, so what reads or edits one makes sense only there. -/
def requiresGroup (c : Command) : Bool := c.words?.isSome

end Command

end ChatProfiles
