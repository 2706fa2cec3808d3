import ChatProfiles.CommandLine.Options
import ChatProfiles.Console.Run
import ChatProfiles.Settings.Basic
import ChatProfiles.Text.Blank
/-!
# What a call comes to

A call settles a job before anything is read: the settings, with the call's own
options over them, and where the lines come from.  The job's output and its
problems are those of the session's run.  Whatever fails is told in one line at the
end of the problems, and the exit code says who is to blame: 2 for the call itself,
1 for anything else.
-/
namespace ChatProfiles

/-- Why a file could not be read. -/
inductive FileError where
  | missing
  | denied
  | notFolder
  | folder
  | nameTooLong
  | other (reason : Text)
deriving DecidableEq

def FileError.message : FileError → Text
  | .missing => "No such file or directory (os error 2)".toList
  | .denied => "Permission denied (os error 13)".toList
  | .notFolder => "Not a directory (os error 20)".toList
  | .folder => "Is a directory (os error 21)".toList
  | .nameTooLong => "File name too long (os error 36)".toList
  | .other reason => reason

inductive Failure where
  | usage (e : UsageError)
  | settings (e : Settings.LoadError)
  | blankBot
  | file (e : FileError)
  | run (message : Text)

namespace Failure

def message : Failure → Text
  | .usage e => e.message
  | .settings e => "Configuration error: ".toList ++ e.message
  | .blankBot => "Invalid argument: bot username must not be empty".toList
  | .file e => "IO error: ".toList ++ e.message
  | .run message => message

def code : Failure → Nat
  | .usage _ => 2
  | _ => 1

/-- The line that tells of the failure. -/
def report (colour : Bool) (f : Failure) : Text :=
  Paint.painted colour Paint.boldRed "error:".toList ++ ' ' :: f.message ++ ['\n']

end Failure

/-! ## Jobs -/

/-- The settings with the call's options over them. -/
def Options.over (o : Options) (s : Settings) : Settings :=
  { log := { level := o.logLevel.getD s.log.level, json := o.json || s.log.json }
    chat :=
      { group := o.group.getD s.chat.group
        bot := { s.chat.bot with username := o.botUsername.getD s.chat.bot.username } } }

structure Job where
  settings : Settings
  /-- The standard input is read if there is none. -/
  script : Option Text
  format : OutputFormat
  colour : Bool

namespace Job

def session (j : Job) : Session :=
  { config := j.settings.chat.bot, group := j.settings.chat.group }

def ofOptions (files : Settings.Files) (env : List (Text × Text)) (colour : Bool) (o : Options) :
    Except Failure Job :=
  match Settings.load files o.config env with
  | .error e => .error (.settings e)
  | .ok s =>
    let settings := o.over s
    if Text.isBlankOnly settings.chat.bot.username then .error .blankBot
    else .ok { settings, script := o.script, format := o.output.getD .text, colour }

end Job

/-! ## Outcomes -/

structure Outcome where
  code : Nat := 0
  output : Text := []
  problems : Text := []
deriving DecidableEq

namespace Outcome

def failed (colour : Bool) (f : Failure) : Outcome :=
  { code := f.code, problems := f.report colour }

def ofRun (colour : Bool) (r : Run) : Outcome :=
  match Run.message? r.ending with
  | none => { output := r.output, problems := r.problems }
  | some message =>
    let f : Failure := .run message
    { code := f.code, output := r.output, problems := r.problems ++ f.report colour }

end Outcome

/-- What a program sees of the place that it runs in. -/
structure Surroundings where
  environment : List (Text × Text) := []
  files : Text → Except FileError (List UInt8) := fun _ => .error .missing
  input : List UInt8 := []
  /-- Whether the output goes to a terminal. -/
  terminal : Bool := false

namespace Surroundings

def texts (s : Surroundings) : Settings.Files := fun path =>
  match s.files path with
  | .ok bytes => (Text.Utf8.decode bytes).toOption
  | .error _ => none

def work (s : Surroundings) (j : Job) : Outcome :=
  match j.script.map s.files with
  | some (.error e) => .failed j.colour (.file e)
  | some (.ok script) => .ofRun j.colour (j.session.runBytes j.format j.colour script)
  | none => .ofRun j.colour (j.session.runBytes j.format j.colour s.input)

end Surroundings

def versionLine : Text := "roster 0.1.0\n".toList

def helpText : Text := Text.joined ['\n'] <| List.map String.toList [
  "Roster - group profiles and directive-driven matching",
  "",
  "Usage: roster [OPTIONS] [SCRIPT]",
  "",
  "Arguments:",
  "  [SCRIPT]  Script to replay instead of reading standard input",
  "",
  "Options:",
  "  -c, --config <CONFIG>              Configuration file path [env: ROSTER_CONFIG=]",
  "  -g, --group <GROUP>                Group id the console posts to [env: ROSTER_GROUP=]",
  "      --bot-username <BOT_USERNAME>  Username the bot answers to [env: ROSTER_BOT_USERNAME=]",
  "  -o, --output <OUTPUT>              Output format (text, json) [default: text]",
  "      --log-level <LOG_LEVEL>        Log level [env: ROSTER_LOG_LEVEL=]",
  "      --json                         Enable JSON logging [env: ROSTER_LOG_JSON=]",
  "  -h, --help                         Print help",
  "  -V, --version                      Print version",
  ""]

/-- The job that a call with these words settles, or its outcome if it is over before any work. -/
def Surroundings.start (s : Surroundings) (words : List Text) : Except Outcome Job :=
  let colour := Paint.isWanted s.environment s.terminal
  match Call.ofWords s.environment words with
  | .error e => .error (.failed colour (.usage e))
  | .ok .version => .error { output := versionLine }
  | .ok .help => .error { output := helpText }
  | .ok (.run o) => (Job.ofOptions s.texts s.environment colour o).mapError (.failed colour)

/-- All that a call with these words does. -/
def Surroundings.call (s : Surroundings) (words : List Text) : Outcome :=
  match s.start words with
  | .error outcome => outcome
  | .ok j => s.work j

end ChatProfiles
