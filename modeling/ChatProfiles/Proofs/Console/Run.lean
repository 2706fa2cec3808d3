import ChatProfiles.Console.Run
import ChatProfiles.Proofs.Console.Session
import ChatProfiles.Proofs.Text.Utf8
/-!
# Scripts run to their end

A run stops early only at a line that asks it to.  A malformed line is passed over, and no other line can fail, since
the one error of the registry is a lookup by a blank name and the bot never makes one.  Of a script in bytes one more
thing could go wrong, a line that is not text; a script of text has none.
-/
namespace ChatProfiles.Session

/-- Whether the line asks for the end of the session. -/
def endsSession (t : Text) : Bool :=
  match Line.ofText t with
  | .ok .quit => true
  | _ => false

theorem endsSession_of_malformed {t : Text} {m : Malformed} (h : Line.ofText t = .error m) : endsSession t = false := by
  simp only [endsSession, h]

theorem endsSession_iff {t : Text} {line : Line} (h : Line.ofText t = .ok line) :
    endsSession t = true ↔ line = .quit := by
  cases line <;> simp [endsSession, h]

variable (format : OutputFormat) (colour : Bool)

theorem run_of_malformed {s : Session} {t : Text} {m : Malformed} (h : (step t).on s = (.error (.malformed m), s))
    (ts : List Text) : s.run format colour (t :: ts) = (s.run format colour ts).after [] (Output.problem colour m) := by
  rw [run, h]

theorem run_of_quit {s s' : Session} {t : Text} (h : (step t).on s = (.ok .quit, s')) (ts : List Text) :
    s.run format colour (t :: ts) = { ending := .quit, session := s' } := by
  rw [run, h]

theorem run_of_step {s s' : Session} {t : Text} {done : Step} (h : (step t).on s = (.ok done, s')) (hq : done ≠ .quit)
    (ts : List Text) :
    s.run format colour (t :: ts) = (s'.run format colour ts).after (Output.step format colour done) [] := by
  rw [run, h]
  cases done with
  | quit => exact absurd rfl hq
  | replies | dump | nothing => rfl

/-- **A run comes to the end of its lines, unless one of them ends it.** -/
theorem ending_run : ∀ (ts : List Text) (s : Session),
    (s.run format colour ts).ending = if ts.any endsSession then .quit else .finished
  | [], _ => rfl
  | t :: ts, s => by
    rw [List.any_cons]
    rcases step_cases s t with ⟨m, ht, hstep⟩ | ⟨line, step, s', ht, hstep, hdoes⟩
    · rw [run_of_malformed format colour hstep, Run.ending_after, ending_run ts s, endsSession_of_malformed ht,
        Bool.false_or]
    · by_cases hq : step = .quit
      · have hquit : endsSession t = true := (endsSession_iff ht).2 (hdoes.step_eq_quit_iff.1 hq)
        rw [run_of_quit format colour (hq ▸ hstep), hquit, Bool.true_or, if_pos rfl]
      · have hgoes : endsSession t = false :=
          Bool.eq_false_iff.2 fun h => hq (hdoes.step_eq_quit_iff.2 ((endsSession_iff ht).1 h))
        rw [run_of_step format colour hstep hq, Run.ending_after, ending_run ts s', hgoes, Bool.false_or]

theorem message?_ending_run (s : Session) (ts : List Text) :
    Run.message? (s.run format colour ts).ending = none := by
  rw [ending_run]
  split <;> rfl

/-- A script without a line that is not text runs as its lines do. -/
theorem runBytes_eq (s : Session) {script : List UInt8} (h : (Text.Utf8.lines script).2 = none) :
    s.runBytes format colour script = s.run format colour (Text.Utf8.lines script).1 := by
  simp only [runBytes, h]
  generalize s.run format colour (Text.Utf8.lines script).1 = r
  cases r.ending <;> rfl

/-- **Nothing fails.**  The bot answers every update with every registry; a session goes through any lines, malformed
ones included, up to the first that ends it; and it goes through any script of text. -/
theorem never_fails :
    (∀ config r u, ∃ o, Bot.handle config r u = .ok o) ∧
      (∀ format colour (s : Session) ts,
        (s.run format colour ts).ending = if ts.any endsSession then .quit else .finished) ∧
      ∀ format colour (s : Session) script,
        Run.message? (s.runBytes format colour (Text.Utf8.encode script)).ending = none := by
  refine ⟨Bot.exists_handle, fun format colour s ts => ending_run format colour ts s, fun format colour s script => ?_⟩
  rw [runBytes_eq format colour s (Text.Utf8.fault?_lines_encode script), message?_ending_run]

end ChatProfiles.Session
