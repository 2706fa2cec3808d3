import ChatProfiles.Proofs.Console.Run
/-!
# Lines that are passed over

A blank line, a comment and a malformed line print no reply and change nothing, whatever the session is; above all they
register nobody, so the members that come later get the same numbers.  What stands after the line that ends a session is
never read.  A script says as much without all of these: cleaned of them, it prints the same and ends in the same
session (`run_cleaned`).
-/
namespace ChatProfiles

/-- The run without its reports on malformed lines, and as if no line had ended it. -/
def Run.unremarked (r : Run) : Run := { output := r.output, session := r.session }

theorem Run.unremarked_after (output problems : Text) (r : Run) :
    (r.after output problems).unremarked = r.unremarked.after output [] := rfl

theorem Run.after_nil (r : Run) : r.after [] [] = r := rfl

namespace Session

/-- Whether the line is blank, a comment or malformed. -/
def isPassedOver (t : Text) : Bool :=
  match Line.ofText t with
  | .ok .blank | .error _ => true
  | .ok _ => false

/-- The lines before the first that ends the session, without those that are passed over. -/
def cleaned (ts : List Text) : List Text := (ts.takeWhile (!endsSession ·)).filter (!isPassedOver ·)

variable {t : Text} {line : Line} {m : Malformed}

theorem isPassedOver_of_malformed (h : Line.ofText t = .error m) : isPassedOver t = true := by
  simp only [isPassedOver, h]

theorem isPassedOver_iff (h : Line.ofText t = .ok line) : isPassedOver t = true ↔ line = .blank := by
  cases line <;> simp [isPassedOver, h]

theorem cleaned_of_endsSession (h : endsSession t = true) (ts : List Text) : cleaned (t :: ts) = [] := by
  rw [cleaned, List.takeWhile_cons_of_neg (by simp [h]), List.filter_nil]

theorem cleaned_of_passedOver (hgoes : endsSession t = false) (h : isPassedOver t = true) (ts : List Text) :
    cleaned (t :: ts) = cleaned ts := by
  rw [cleaned, List.takeWhile_cons_of_pos (by simp [hgoes]), List.filter_cons_of_neg (by simp [h]), cleaned]

theorem cleaned_of_kept (hgoes : endsSession t = false) (h : isPassedOver t = false) (ts : List Text) :
    cleaned (t :: ts) = t :: cleaned ts := by
  rw [cleaned, List.takeWhile_cons_of_pos (by simp [hgoes]), List.filter_cons_of_pos (by simp [h]), cleaned]

variable (format : OutputFormat) (colour : Bool)

/-- A cleaned script runs to its end without a report, and else as the script does. -/
theorem run_cleaned : ∀ (ts : List Text) (s : Session),
    s.run format colour (cleaned ts) = (s.run format colour ts).unremarked
  | [], _ => rfl
  | t :: ts, s => by
    rcases step_cases s t with ⟨m, ht, hstep⟩ | ⟨line, step, s', ht, hstep, hdoes⟩
    · rw [cleaned_of_passedOver (endsSession_of_malformed ht) (isPassedOver_of_malformed ht),
        run_of_malformed format colour hstep, Run.unremarked_after, Run.after_nil, run_cleaned ts s]
    · -- a line that is neither blank nor the last of the session is there in both scripts
      have kept (hq : line ≠ .quit) (hb : line ≠ .blank) : s.run format colour (cleaned (t :: ts)) =
          (s.run format colour (t :: ts)).unremarked := by
        have hgoes : endsSession t = false := Bool.eq_false_iff.2 fun h => hq ((endsSession_iff ht).1 h)
        have hkept : isPassedOver t = false := Bool.eq_false_iff.2 fun h => hb ((isPassedOver_iff ht).1 h)
        have hstep' : step ≠ .quit := fun h => hq (hdoes.step_eq_quit_iff.1 h)
        rw [cleaned_of_kept hgoes hkept, run_of_step format colour hstep hstep', run_of_step format colour hstep hstep',
          Run.unremarked_after, run_cleaned ts s']
      cases hdoes with
      | quit =>
        rw [cleaned_of_endsSession ((endsSession_iff ht).2 rfl), run_of_quit format colour hstep]
        rfl
      | blank =>
        have hgoes : endsSession t = false := Bool.eq_false_iff.2 fun h => by cases (endsSession_iff ht).1 h
        rw [cleaned_of_passedOver hgoes ((isPassedOver_iff ht).2 rfl), run_of_step format colour hstep nofun,
          run_cleaned ts s]
        rfl
      | dump => exact kept nofun nofun
      | posts posted handled => exact kept (by rintro rfl; cases posted) (by rintro rfl; cases posted)

/-- **Lines that are passed over leave no trace.**  In every format, whatever the session at the start: the cleaned
script prints the same and ends in the same session, so with the same members and the same registry; and it goes through
to its last line with nothing to report. -/
theorem passed_over_leave_no_trace (s : Session) (ts : List Text) :
    let whole := s.run format colour ts
    let clean := s.run format colour (cleaned ts)
    clean.output = whole.output ∧ clean.session = whole.session ∧ clean.problems = [] ∧ clean.ending = .finished := by
  intro whole clean
  have h : clean = whole.unremarked := run_cleaned format colour ts s
  rw [h]
  exact ⟨rfl, rfl, rfl, rfl⟩

end Session

end ChatProfiles
