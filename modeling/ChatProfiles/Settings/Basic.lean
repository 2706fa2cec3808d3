import ChatProfiles.Bot.Service
import ChatProfiles.Settings.Conversion
import ChatProfiles.Settings.Environment
import ChatProfiles.Settings.Path
import ChatProfiles.Toml.Reader
/-!
# Settings of the console

Settings start from their standard values; a file is laid over these, and the
environment over both.  A file that does not exist changes nothing.  A file that
cannot be read as what its name says, or a value that a setting does not accept,
fails the whole.
-/
namespace ChatProfiles

structure LogSettings where
  level : Text := "warn".toList
  json : Bool := false
deriving DecidableEq

structure ChatSettings where
  /-- The group that console lines are posted to. -/
  group : Int := -1
  bot : BotConfig := {}
deriving DecidableEq

structure Settings where
  log : LogSettings := {}
  chat : ChatSettings := {}
deriving DecidableEq

namespace Settings

def toJson (s : Settings) : Json :=
  .object [
    ("logging".toList,
      .object [("level".toList, .text s.log.level), ("json".toList, .bool s.log.json)]),
    ("chat".toList,
      .object [("group_id".toList, .int s.chat.group),
        ("bot_username".toList, .text s.chat.bot.username),
        ("unknown_suffix".toList, .text s.chat.bot.unknownSuffix)])]

/-! ## Reading the settled values

A section may also be a list of its values, in the order of its members. -/

/-- The value of the section's member `name`, which is the one at `place` in a list; `standard` if
it is missing. -/
def member? {α : Type} (section? : Json) (name : String) (place : Nat) (standard : α)
    (accept : Json → Option α) : Option α :=
  let found? : Option Json := match section? with
    | .object members => members.lookup name.toList
    | .array items => items[place]?
    | _ => none
  match found? with
  | some j => accept j
  | none => some standard

def isSection : Json → Bool
  | .object _ | .array _ => true
  | _ => false

def log? (j : Json) : Option LogSettings :=
  let standard : LogSettings := {}
  if isSection j then do
    let level ← member? j "level" 0 standard.level asText?
    let json ← member? j "json" 1 standard.json asBool?
    return { level, json }
  else none

def chat? (j : Json) : Option ChatSettings :=
  let standard : ChatSettings := {}
  if isSection j then do
    let group ← member? j "group_id" 0 standard.group asInt?
    let username ← member? j "bot_username" 1 standard.bot.username asText?
    let unknownSuffix ← member? j "unknown_suffix" 2 standard.bot.unknownSuffix asText?
    return { group, bot := { username, unknownSuffix } }
  else none

def ofJson? (j : Json) : Option Settings := do
  let log ← member? j "logging" 0 {} log?
  let chat ← member? j "chat" 1 {} chat?
  return { log, chat }

/-! ## Files -/

/-- The texts of the files there are, by name. -/
abbrev Files := Text → Option Text

inductive FileFormat where
  | toml
  | json
deriving DecidableEq

/-- What stands after the last slash. -/
def lastName (path : Text) : Text := (path.reverse.takeWhile (· != '/')).reverse

/-- By what follows the last dot of the path's last name, if something stands before it. -/
def fileFormat? (path : Text) : Option FileFormat :=
  let file := lastName path
  let afterDot := (file.reverse.takeWhile (· != '.')).reverse
  if file.length ≤ afterDot.length + 1 then none
  else if afterDot == "toml".toList then some .toml
  else if afterDot == "json".toList then some .json
  else none

/-- A reversed path from its last name on: slashes after that, and steps that stay in the folder,
are left out. -/
def fromLastName : Text → Text
  | '/' :: rest => fromLastName rest
  | '.' :: '/' :: rest => fromLastName rest
  | path => path

/-- The paths of the files that a path may stand for: its own, or else one with an ending added
to its last name. -/
def candidates (path : Text) : List Text :=
  let stem := (fromLastName path.reverse).reverse
  if [[], ['.'], ['.', '.']].contains (lastName stem) then [path]
  else [path, stem ++ ".toml".toList, stem ++ ".json".toList]

/-- The file that a path names: the first of its candidates that there is, if it is of a known
format. -/
def find? (files : Files) (path : Text) : Option (FileFormat × Text) := do
  let (name, content) ← (candidates path).findSome? fun name => (files name).map (name, ·)
  return (← fileFormat? name, content)

def readFile? (format : FileFormat) (content : Text) : Option (List (Text × Json)) :=
  let value? := match format with
    | .toml => Toml.read? content
    | .json => Json.read? content
  match value? with
  | some (.object members) => some members
  | _ => none

/-- What the file at the path sets; nothing if there is no such file. -/
def ofFile? (files : Files) (path? : Option Text) : Option (List (Text × Json)) :=
  match path?.bind (find? files) with
  | none => some []
  | some (format, content) => readFile? format content

/-! ## Loading -/

inductive LoadError where
  /-- The file is not what its name says. -/
  | malformedFile
  /-- Some setting does not accept the value given for it. -/
  | unacceptableValue
deriving DecidableEq

def LoadError.message : LoadError → Text
  | .malformedFile => "the file is malformed".toList
  | .unacceptableValue => "a value is not acceptable".toList

def load (files : Files) (path? : Option Text) (env : List (Text × Text)) :
    Except LoadError Settings :=
  let standard : Settings := {}
  match ofFile? files path? with
  | none => .error .malformedFile
  | some file =>
    match ofJson? (overlay (ofEnvironment env) (overlay file standard.toJson)) with
    | some s => .ok s
    | none => .error .unacceptableValue

end Settings

end ChatProfiles
