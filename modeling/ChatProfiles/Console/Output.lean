import ChatProfiles.Console.Session
import ChatProfiles.Format.Update
/-!
# What the console prints

Replies are printed as they would look in the chat, each line behind a gutter, or
as one JSON object to a line.  Colours are terminal escape sequences around parts
of the text; without them the text is the same.
-/
namespace ChatProfiles

inductive OutputFormat where
  | text
  | json
deriving DecidableEq, Repr

/-! ## Colours -/

namespace Paint

def sequence (codes : String) : Text := '\x1b' :: '[' :: codes.toList ++ ['m']

def reset : Text := sequence "0"

/-- `t` in the style that `codes` select.  A reset inside `t` would end the style, so the style
is selected again after it. -/
def painted (colour : Bool) (codes : String) (t : Text) : Text :=
  if colour then
    sequence codes ++ Text.replaced reset (reset ++ sequence codes) t ++ reset
  else t

def dim : String := "2"

def cyan : String := "36"

def green : String := "32"

def boldYellow : String := "1;33"

def boldRed : String := "1;31"

/-- Whether colours are wanted, by three variables of the environment: `CLICOLOR_FORCE` asks for
them anywhere unless it is `0`; else `NO_COLOR`, whatever its value, forbids them; else a terminal
has them unless `CLICOLOR` is `0`. -/
def isWanted (env : List (Text × Text)) (terminal : Bool) : Bool :=
  let value? (name : String) : Option Text := env.lookup name.toList
  if (value? "CLICOLOR_FORCE").any (· != ['0']) then true
  else if (value? "NO_COLOR").isSome then false
  else terminal && (value? "CLICOLOR").all (· != ['0'])

end Paint

namespace Output

def gutter (colour : Bool) : Text := Paint.painted colour Paint.dim "bot ▏".toList

def messageLines (colour : Bool) : Message → List Text
  | .text body => (Text.lines body).map fun line => gutter colour ++ line
  | .markup body =>
    (Text.lines body).map fun line => gutter colour ++ Paint.painted colour Paint.cyan line
  | .location l =>
    [gutter colour ++ Paint.painted colour Paint.green ("📍 ".toList ++ l.write)]

/-- A message without its last line end. -/
def message (format : OutputFormat) (colour : Bool) (m : Message) : Text :=
  match format with
  | .text => Text.joined ['\n'] (messageLines colour m)
  | .json => m.toJson.compact

/-- What a step writes to the standard output, each part ended by a line feed. -/
def step (format : OutputFormat) (colour : Bool) : Step → Text
  | .replies ms => ms.flatMap fun m => message format colour m ++ ['\n']
  | .dump profiles => profiles ++ ['\n']
  | .quit | .nothing => []

/-- What is written to the standard error about a line that was passed over. -/
def problem (colour : Bool) (m : Malformed) : Text :=
  Paint.painted colour Paint.boldYellow "skipped:".toList ++ ' ' :: m.message ++ ['\n']

end Output

end ChatProfiles
