import ChatProfiles.Console.Output
import ChatProfiles.Text.Utf8
/-!
# Running a script

A script is run line by line until a line ends the session or no line is left.
Malformed lines are reported and passed over.
-/
namespace ChatProfiles

/-- How a run came to its end. -/
inductive Ending where
  | finished
  | quit
  | failed (e : LookupError)
  | unreadable (fault : Text.Utf8.Fault)

structure Run where
  output : Text := []
  problems : Text := []
  ending : Ending := .finished
  session : Session

namespace Run

def message? : Ending → Option Text
  | .finished | .quit => none
  | .failed e => some (StepError.lookup e).message
  | .unreadable fault => some ("IO error: ".toList ++ fault.message)

/-- The run with more written before all of its own. -/
def after (output problems : Text) (r : Run) : Run :=
  { r with output := output ++ r.output, problems := problems ++ r.problems }

/-- The run with another one after it, unless it ended before its lines did. -/
def followedBy (r : Run) (next : Session → Run) : Run :=
  match r.ending with
  | .finished => (next r.session).after r.output r.problems
  | _ => r

@[simp] theorem ending_after (o p : Text) (r : Run) : (r.after o p).ending = r.ending := rfl

theorem after_after (o p o' p' : Text) (r : Run) :
    (r.after o p).after o' p' = r.after (o' ++ o) (p' ++ p) := by
  simp [after, List.append_assoc]

theorem followedBy_after (o p : Text) (r : Run) (next : Session → Run) :
    (r.after o p).followedBy next = (r.followedBy next).after o p := by
  unfold followedBy
  rw [ending_after]
  split
  · rw [after_after]; rfl
  · rfl

end Run

namespace Session

def run (format : OutputFormat) (colour : Bool) (s : Session) : List Text → Run
  | [] => { session := s }
  | line :: rest =>
    match (step line).on s with
    | (.ok .quit, s) => { ending := .quit, session := s }
    | (.ok step, s) => (s.run format colour rest).after (Output.step format colour step) []
    | (.error (.malformed m), s) => (s.run format colour rest).after [] (Output.problem colour m)
    | (.error (.lookup e), s) => { ending := .failed e, session := s }

/-- **Lines may come in parts**: each part goes on from the session that the one before it left. -/
theorem run_append (format : OutputFormat) (colour : Bool) (s : Session) (xs ys : List Text) :
    s.run format colour (xs ++ ys)
      = (s.run format colour xs).followedBy fun s => s.run format colour ys := by
  induction xs generalizing s with
  | nil => rfl
  | cons line rest ih =>
    rw [List.cons_append, run, run]
    split
    · rfl
    · rw [ih, Run.followedBy_after]
    · rw [ih, Run.followedBy_after]
    · rfl

/-- A run of a script in bytes; it fails at a line that is not text, if it gets there. -/
def runBytes (format : OutputFormat) (colour : Bool) (s : Session) (script : List UInt8) : Run :=
  let (lines, fault?) := Text.Utf8.lines script
  let r := s.run format colour lines
  match r.ending, fault? with
  | .finished, some fault => { r with ending := .unreadable fault }
  | _, _ => r

end Session

end ChatProfiles
