import ChatProfiles.Proofs.Text.Words
/-!
# The lines of a text

What the lines of a text are is said by how a text is put together from lines (`Lined`): a line that is not the last is
ended by a line feed, or by a carriage return and a line feed, and a carriage return right before the line feed is
always part of the end.  A text is made of lines in one way only, and these are the lines it is taken apart into
(`lined_iff`).

Written one after the other and each ended by a line feed, lines are told apart by the line feeds alone
(`pieces_fed`), since a line has none in it.
-/
namespace ChatProfiles.Text

/-- The text is made of these lines; the end of the last one may be missing. -/
inductive Lined : Text → List Text → Prop
  | nil : Lined [] []
  | last {line : Text} (nonempty : line ≠ []) (noFeed : '\n' ∉ line) : Lined line [line]
  | feed {line t : Text} {ls : List Text} (noFeed : '\n' ∉ line) (noReturn : line.getLast? ≠ some '\r')
      (rest : Lined t ls) : Lined (line ++ '\n' :: t) (line :: ls)
  | returnFeed {line t : Text} {ls : List Text} (noFeed : '\n' ∉ line) (rest : Lined t ls) :
      Lined (line ++ '\r' :: '\n' :: t) (line :: ls)

variable {a b t line : Text} {ls : List Text}

theorem isFeed_false (h : '\n' ∉ line) : ∀ c ∈ line, (c == '\n') = false := fun _ hc =>
  beq_eq_false_iff_ne.2 fun e => h (e ▸ hc)

theorem pieces_feed (h : '\n' ∉ line) (t : Text) :
    pieces (· == '\n') (line ++ '\n' :: t) = line :: pieces (· == '\n') t := by
  have hcut : pieces (· == '\n') (line ++ '\n' :: t) = pieces (· == '\n') line ++ pieces (· == '\n') t :=
    @pieces_append (· == '\n') line '\n' rfl t
  rw [hcut, pieces_self (isFeed_false h)]
  rfl

/-- A line and its end in front of a text make it one line more. -/
theorem lines_feed (h : '\n' ∉ line) (t : Text) : lines (line ++ '\n' :: t) = withoutReturn line :: lines t := by
  obtain ⟨first, rest, hrest⟩ := List.exists_cons_of_ne_nil (pieces_ne_nil (· == '\n') t)
  rw [lines, lines, pieces_feed h, hrest]
  rfl

theorem withoutReturn_of_ne (h : line.getLast? ≠ some '\r') : withoutReturn line = line := if_neg h

theorem withoutReturn_concat (line : Text) : withoutReturn (line ++ ['\r']) = line := by
  rw [withoutReturn, List.getLast?_concat, if_pos rfl, List.dropLast_concat]

/-- What stands before a line keeps its end away from it. -/
theorem withoutReturn_append (h : a.getLast? ≠ some '\r') (b : Text) :
    withoutReturn (a ++ b) = a ++ withoutReturn b := by
  by_cases hb : b.getLast? = some '\r'
  · obtain ⟨start, rfl⟩ := List.getLast?_eq_some_iff.1 hb
    rw [← List.append_assoc, withoutReturn_concat, withoutReturn_concat]
  · have hab : (a ++ b).getLast? ≠ some '\r' := by
      rw [List.getLast?_append]
      cases hlast : b.getLast? with
      | none => exact h
      | some c =>
        rw [hlast] at hb
        exact hb
    rw [withoutReturn_of_ne hb, withoutReturn_of_ne hab]

theorem Lined.lines_eq (h : Lined t ls) : lines t = ls := by
  induction h with
  | nil => rfl
  | last nonempty noFeed =>
    rw [lines, pieces_self (isFeed_false noFeed)]
    exact if_neg (by simpa using nonempty)
  | feed noFeed noReturn _ ih => rw [lines_feed noFeed, withoutReturn_of_ne noReturn, ih]
  | @returnFeed line t ls noFeed _ ih =>
    have hfeed : '\n' ∉ line ++ ['\r'] := by simp [noFeed]
    rw [List.append_cons line, lines_feed hfeed, withoutReturn_concat, ih]

/-- A text ends within its first line, or has a first line feed. -/
theorem feed_cases (t : Text) : '\n' ∉ t ∨ ∃ line rest, t = line ++ '\n' :: rest ∧ '\n' ∉ line := by
  by_cases h : '\n' ∈ t
  · exact .inr (List.eq_append_cons_of_mem h)
  · exact .inl h

/-- One more line in front, with the end that it has. -/
theorem Lined.cons (hline : '\n' ∉ line) (h : Lined t ls) : Lined (line ++ '\n' :: t) (withoutReturn line :: ls) := by
  by_cases hreturn : line.getLast? = some '\r'
  · obtain ⟨start, rfl⟩ := List.getLast?_eq_some_iff.1 hreturn
    rw [withoutReturn_concat, ← List.append_cons]
    exact .returnFeed (fun hmem => hline (List.mem_append_left _ hmem)) h
  · rw [withoutReturn_of_ne hreturn]
    exact .feed hline hreturn h

theorem lined_lines (t : Text) : Lined t (lines t) := by
  rcases feed_cases t with hfeed | ⟨line, rest, ht, hline⟩
  · by_cases hne : t = []
    · subst hne
      exact .nil
    · have h : Lined t [t] := .last hne hfeed
      exact h.lines_eq.symm ▸ h
  · have hshorter : rest.length < t.length := by
      rw [ht, List.length_append, List.length_cons]
      omega
    rw [ht, lines_feed hline]
    exact (lined_lines rest).cons hline
termination_by t.length

/-- **A text is made of the lines it is taken apart into, and of no others.** -/
theorem lined_iff : Lined t ls ↔ lines t = ls := ⟨Lined.lines_eq, fun h => h ▸ lined_lines t⟩

theorem lines_eq_nil_iff : lines t = [] ↔ t = [] := by
  refine ⟨fun h => ?_, fun h => h ▸ rfl⟩
  cases lined_iff.2 h
  rfl

/-- No line has a line feed in it. -/
theorem feed_not_mem_of_mem_lines (h : line ∈ lines t) : '\n' ∉ line := by
  generalize hls : lines t = ls at h
  induction lined_iff.2 hls with
  | nil => exact absurd h List.not_mem_nil
  | last _ noFeed => exact List.mem_singleton.1 h ▸ noFeed
  | feed noFeed _ rest ih | returnFeed noFeed rest ih =>
    rcases List.mem_cons.1 h with rfl | h
    · exact noFeed
    · exact ih rest.lines_eq h

/-! ## Lines written one after the other -/

/-- Lines, each ended by a line feed. -/
def fed (ls : List Text) : Text := ls.flatMap (· ++ ['\n'])

theorem fed_cons (line : Text) (ls : List Text) : fed (line :: ls) = line ++ '\n' :: fed ls := by
  rw [fed, List.flatMap_cons, List.append_assoc]
  rfl

theorem fed_append (ls ls' : List Text) : fed (ls ++ ls') = fed ls ++ fed ls' := List.flatMap_append

theorem joined_feed (hne : ls ≠ []) : joined ['\n'] ls ++ ['\n'] = fed ls := by
  obtain ⟨line, rest, rfl⟩ := List.exists_cons_of_ne_nil hne
  have hrest : rest.flatMap (['\n'] ++ ·) ++ ['\n'] = '\n' :: fed rest := by
    clear hne
    induction rest with
    | nil => rfl
    | cons line rest ih =>
      rw [List.flatMap_cons, List.append_assoc, ih, fed_cons]
      rfl
  rw [joined_cons, fed_cons, List.append_assoc, hrest]

/-- **Lines written one after the other are told apart by their line feeds.** -/
theorem pieces_fed (h : ∀ line ∈ ls, '\n' ∉ line) : pieces (· == '\n') (fed ls) = ls ++ [[]] := by
  induction ls with
  | nil => rfl
  | cons line ls ih =>
    obtain ⟨hline, hls⟩ := List.forall_mem_cons.1 h
    rw [fed_cons, pieces_feed hline, ih hls, List.cons_append]

/-- Read as lines again, they lose a carriage return that they end with, and nothing else. -/
theorem lined_fed (h : ∀ line ∈ ls, '\n' ∉ line) : Lined (fed ls) (ls.map withoutReturn) := by
  induction ls with
  | nil => exact .nil
  | cons line ls ih =>
    obtain ⟨hline, hls⟩ := List.forall_mem_cons.1 h
    rw [fed_cons, List.map_cons]
    exact (ih hls).cons hline

end ChatProfiles.Text
