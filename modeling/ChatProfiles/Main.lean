import ChatProfiles.CommandLine.Program
/-!
# The command

Looks up what a call needs of the place that it runs in, and carries out its job as
lines come in, so that replies appear while the standard input is still open.  A
session goes on from chunk to chunk, each of whole lines, as it would over all of
them at once.
-/
namespace ChatProfiles.Main

/-! ## Surroundings -/

/-- A failure's number stands negated if the file was not even opened. -/
def fileError : IO.Error → FileError
  | .noFileOrDirectory .. => .missing
  | .permissionDenied .. => .denied
  | .inappropriateType _ 21 _ => .folder
  | .inappropriateType .. => .notFolder
  | .invalidArgument _ 36 _ | .invalidArgument _ 4294967260 _ => .nameTooLong
  | e => .other e.toString.toList

def readFile (path : Text) : IO (Except FileError (List UInt8)) := do
  try
    return .ok (← IO.FS.readBinFile (String.ofList path)).toList
  catch e => return .error (fileError e)

/-- A variable of the environment, if it is text. -/
def assignment? (bytes : List UInt8) : Option (Text × Text) :=
  match Text.Utf8.decode bytes with
  | .error _ => none
  | .ok t =>
    let (name, value?) := Text.cut (· == '=') t
    value?.map (name, ·)

def environment : IO (List (Text × Text)) := do
  match ← readFile "/proc/self/environ".toList with
  | .ok bytes =>
    let assignments := bytes.splitBy fun b _ => b != 0
    return assignments.filterMap fun bytes => assignment? (bytes.filter (· != 0))
  | .error _ => return []

/-- The settings' files, read before the settings are. -/
def settingsFiles (path? : Option Text) : IO (List (Text × List UInt8)) := do
  let mut found := []
  for path in path?.toList.flatMap Settings.candidates do
    if let .ok content ← readFile path then found := (path, content) :: found
  return found

/-! ## Carrying out a job -/

def write (o : Outcome) : IO Unit := do
  let output ← IO.getStdout
  output.putStr (String.ofList o.output)
  output.flush
  let problems ← IO.getStderr
  problems.putStr (String.ofList o.problems)
  problems.flush

/-- The bytes up to the last line feed, and those after it. -/
def wholeLines (bytes : List UInt8) : List UInt8 × List UInt8 :=
  let rest := bytes.reverse.takeWhile (· != 0x0A)
  (bytes.take (bytes.length - rest.length), rest.reverse)

/-- The run of what the standard input still holds, `pending` being read already. -/
partial def follow (j : Job) (s : Session) (pending : List UInt8) : IO Nat := do
  let chunk ← (← IO.getStdin).read 65536
  let (ready, pending) :=
    if chunk.isEmpty then (pending, []) else wholeLines (pending ++ chunk.toList)
  let r := s.runBytes j.format j.colour ready
  let outcome := Outcome.ofRun j.colour r
  write outcome
  match r.ending with
  | .finished => if chunk.isEmpty then return outcome.code else follow j r.session pending
  | _ => return outcome.code

def work (surroundings : Surroundings) (j : Job) : IO Nat := do
  match j.script with
  | none => follow j j.session []
  | some path =>
    let script ← readFile path
    let outcome := { surroundings with files := fun _ => script }.work j
    write outcome
    return outcome.code

def run (words : List Text) : IO Nat := do
  let env ← environment
  let terminal ← (← IO.getStdout).isTty
  let path? := match Call.ofWords env words with
    | .ok (.run o) => o.config
    | _ => none
  let files ← settingsFiles path?
  let surroundings : Surroundings :=
    { environment := env, terminal
      files := fun path => (files.lookup path).elim (.error .missing) .ok }
  match surroundings.start words with
  | .error outcome => write outcome; return outcome.code
  | .ok j => work surroundings j

end ChatProfiles.Main

def main (args : List String) : IO UInt32 := do
  return (← ChatProfiles.Main.run (args.map String.toList)).toUInt32
