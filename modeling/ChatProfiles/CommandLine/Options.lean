import ChatProfiles.Console.Output
import ChatProfiles.Decimal.Basic
/-!
# Options of a call

A call names at most one script and may give each option once, by its long name or
its letter.  The value of an option stands in the same word, after `=` or directly
after the letter, or is the next word; only the group may be a next word that looks
like an option itself, because groups are negative numbers as a rule.  After `--`
every word is an operand.

Words are read from the left, and the first fault or the first request for the
version or the help decides.  A word that the call leaves out may stand in the
environment instead.
-/
namespace ChatProfiles

/-- The options that take a value. -/
inductive Valued where
  | config
  | group
  | botUsername
  | output
  | logLevel
deriving DecidableEq, Repr

namespace Valued

def all : List Valued := [.config, .group, .botUsername, .output, .logLevel]

def name : Valued → Text
  | .config => "config".toList
  | .group => "group".toList
  | .botUsername => "bot-username".toList
  | .output => "output".toList
  | .logLevel => "log-level".toList

def letter? : Valued → Option Char
  | .config => some 'c'
  | .group => some 'g'
  | .output => some 'o'
  | .botUsername | .logLevel => none

/-- The environment's variable for what the call leaves out. -/
def environmentName? : Valued → Option Text
  | .config => some "ROSTER_CONFIG".toList
  | .group => some "ROSTER_GROUP".toList
  | .botUsername => some "ROSTER_BOT_USERNAME".toList
  | .logLevel => some "ROSTER_LOG_LEVEL".toList
  | .output => none

/-- Whether the next word can be the option's value; `-` alone looks like no option. -/
def takes (v : Valued) (word : Text) : Bool :=
  v == .group || word == ['-'] || word.head? != some '-'

end Valued

inductive UsageError where
  | unknown (word : Text)
  | surplus (word : Text)
  | emptyScript
  | valueMissing (name : Text)
  | valueNeedless (name : Text)
  | repeated (name : Text)
  | unacceptable (name value : Text)
deriving DecidableEq

def UsageError.message : UsageError → Text
  | .unknown word => "unknown option ".toList ++ word
  | .surplus word => "unexpected operand ".toList ++ word
  | .emptyScript => "the name of the script is empty".toList
  | .valueMissing name => "no value for --".toList ++ name
  | .valueNeedless name => "a value for --".toList ++ name ++ ", which takes none".toList
  | .repeated name => "more than one --".toList ++ name
  | .unacceptable name value => "invalid value for --".toList ++ name ++ ": ".toList ++ value

/-! ## Words -/

/-- What a word of the call is. -/
inductive Item where
  | operand (t : Text)
  | operandsFollow
  | valued (v : Valued) (value? : Option Text)
  | json
  | version
  | help

namespace Item

def jsonName : Text := "json".toList

def plain? (name : Text) : Option Item :=
  if name == jsonName then some .json
  else if name == "version".toList then some .version
  else if name == "help".toList then some .help
  else none

def ofLong (t : Text) : Except UsageError Item :=
  let (name, value?) := Text.cut (· == '=') t
  match Valued.all.find? (·.name == name) with
  | some v => .ok (.valued v value?)
  | none =>
    match plain? name, value? with
    | some item, none => .ok item
    | some _, some _ => .error (.valueNeedless name)
    | none, _ => .error (.unknown ('-' :: '-' :: name))

/-- The value in the word of a letter. -/
def attached? : Text → Option Text
  | [] => none
  | '=' :: value => some value
  | value => some value

def ofLetter (c : Char) (rest : Text) : Except UsageError Item :=
  match Valued.all.find? (·.letter? == some c) with
  | some v => .ok (.valued v (attached? rest))
  | none =>
    if c == 'V' then .ok .version
    else if c == 'h' then .ok .help
    else .error (.unknown ['-', c])

def ofWord : Text → Except UsageError Item
  | ['-', '-'] => .ok .operandsFollow
  | '-' :: '-' :: t => ofLong t
  | '-' :: c :: rest => ofLetter c rest
  | t => .ok (.operand t)

end Item

/-! ## Options -/

def OutputFormat.ofName? (t : Text) : Option OutputFormat :=
  if t == "text".toList then some .text
  else if t == "json".toList then some .json
  else none

structure Options where
  script : Option Text := none
  config : Option Text := none
  group : Option Int := none
  botUsername : Option Text := none
  output : Option OutputFormat := none
  logLevel : Option Text := none
  json : Bool := false
deriving DecidableEq

/-- What a call asks for. -/
inductive Call where
  | run (o : Options)
  | version
  | help

namespace Options

def has (o : Options) : Valued → Bool
  | .config => o.config.isSome
  | .group => o.group.isSome
  | .botUsername => o.botUsername.isSome
  | .output => o.output.isSome
  | .logLevel => o.logLevel.isSome

def set? (o : Options) (v : Valued) (value : Text) : Option Options :=
  match v with
  | .config => some { o with config := some value }
  | .group => (Decimal.readInt64? value).map fun n => { o with group := some n }
  | .botUsername => some { o with botUsername := some value }
  | .output => (OutputFormat.ofName? value).map fun f => { o with output := some f }
  | .logLevel => some { o with logLevel := some value }

def give (o : Options) (v : Valued) (value : Text) : Except UsageError Options :=
  if o.has v then .error (.repeated v.name)
  else match o.set? v value with
    | some o => .ok o
    | none => .error (.unacceptable v.name value)

def giveJson (o : Options) : Except UsageError Options :=
  if o.json then .error (.repeated Item.jsonName) else .ok { o with json := true }

def giveOperand (o : Options) (t : Text) : Except UsageError Options :=
  if o.script.isSome then .error (.surplus t)
  else if t.isEmpty then .error .emptyScript
  else .ok { o with script := some t }

def read (o : Options) : List Text → Except UsageError Call
  | [] => .ok (.run o)
  | word :: rest =>
    match Item.ofWord word with
    | .error e => .error e
    | .ok .version => .ok .version
    | .ok .help => .ok .help
    | .ok .json => do read (← o.giveJson) rest
    | .ok .operandsFollow => (rest.foldlM giveOperand o).map .run
    | .ok (.operand t) => do read (← o.giveOperand t) rest
    | .ok (.valued v (some value)) => do read (← o.give v value) rest
    | .ok (.valued v none) =>
      match rest with
      | [] => .error (.valueMissing v.name)
      | value :: rest =>
        if v.takes value then do read (← o.give v value) rest
        else .error (.valueMissing v.name)

/-! ## The environment -/

def jsonVariable : Text := "ROSTER_LOG_JSON".toList

def giveVariable (env : List (Text × Text)) (o : Options) (v : Valued) :
    Except UsageError Options :=
  match v.environmentName?.bind fun name => env.lookup name with
  | some value => if o.has v then .ok o else o.give v value
  | none => .ok o

def giveJsonVariable (env : List (Text × Text)) (o : Options) : Except UsageError Options :=
  match env.lookup jsonVariable with
  | none => .ok o
  | some value =>
    if o.json || value == "false".toList then .ok o
    else if value == "true".toList then .ok { o with json := true }
    else .error (.unacceptable Item.jsonName value)

def completed (env : List (Text × Text)) (o : Options) : Except UsageError Options := do
  giveJsonVariable env (← Valued.all.foldlM (giveVariable env) o)

end Options

def Call.ofWords (env : List (Text × Text)) (words : List Text) : Except UsageError Call := do
  match ← Options.read {} words with
  | .run o => return .run (← o.completed env)
  | call => return call

end ChatProfiles
