import ChatProfiles.Proofs.Bot.Silence
import ChatProfiles.Proofs.Console.Run
import ChatProfiles.Proofs.Decimal.Characters
import ChatProfiles.Proofs.Text.Lines
/-!
# Every line behind the gutter

Without colours and without a dump, the output of a session is its replies, each shown as at least one line, and every
line stands behind the gutter.  So nobody can write a line there that is not the bot's: not with a word, a name or the
suffix that the bot was configured with, whatever line ends these have in them.

Two facts meet here.  A reply has something to read, so it is shown at all; and a shown line has no line feed in it, so
the lines that are written are the lines that are read.  A carriage return at the end of a shown line is kept, which
only whoever takes it for a part of the line's end can miss.
-/
namespace ChatProfiles

/-- The lines that a message is shown as. -/
inductive Message.Shown : Message → List Text → Prop
  | text {body : Text} {ls : List Text} (lined : Text.Lined body ls) : Shown (.text body) ls
  | markup {body : Text} {ls : List Text} (lined : Text.Lined body ls) : Shown (.markup body) ls
  | location (l : Location) : Shown (.location l) ["📍 ".toList ++ l.write]

/-- What stands before every line of a reply. -/
def Output.bare : Text := "bot ▏".toList

/-! ## One reply -/

theorem Location.feed_not_mem_write (l : Location) : '\n' ∉ l.write := by
  have hnumber {t : Text} (h : Decimal.Written t) : '\n' ∉ t := fun hmem => nomatch h '\n' hmem
  have hplaces (x : Float) : '\n' ∉ Decimal.fixed 5 x := hnumber (Decimal.written_fixed 5 x)
  have haccuracy : '\n' ∉ l.accuracy.elim [] fun metres => " ±".toList ++ Decimal.plain metres ++ ['m'] := by
    cases l.accuracy with
    | none => exact List.not_mem_nil
    | some metres => simp [hnumber (Decimal.written_plain metres)]
  have hlongitude : '\n' ∉ ',' :: Decimal.fixed 5 l.longitude :=
    List.not_mem_cons_of_ne_of_not_mem (by decide) (hplaces l.longitude)
  exact List.not_mem_append (List.not_mem_append (hplaces l.latitude) hlongitude) haccuracy

namespace Message

variable {m : Message} {ls : List Text}

/-- A message with something to read is shown, and line by line. -/
theorem Speaks.shown_ne_nil (h : m.Speaks) (hls : m.Shown ls) : ls ≠ [] := by
  rintro rfl
  cases hls with
  | text lined | markup lined => exact h _ rfl (Text.lines_eq_nil_iff.1 lined.lines_eq)

theorem Shown.feed_not_mem (h : m.Shown ls) : ∀ line ∈ ls, '\n' ∉ line := by
  cases h with
  | text lined | markup lined => exact fun line hline => Text.feed_not_mem_of_mem_lines (lined.lines_eq.symm ▸ hline)
  | location l =>
    refine List.forall_mem_singleton.2 fun hmem => ?_
    rcases List.mem_append.1 hmem with hmem | hmem
    · exact absurd hmem (by decide)
    · exact l.feed_not_mem_write hmem

theorem exists_shown (m : Message) :
    ∃ ls, m.Shown ls ∧ Output.messageLines false m = ls.map (Output.bare ++ ·) := by
  cases m with
  | text body => exact ⟨_, .text (Text.lined_lines body), rfl⟩
  | markup body => exact ⟨_, .markup (Text.lined_lines body), rfl⟩
  | location l => exact ⟨_, .location l, rfl⟩

end Message

/-! ## Many replies -/

/-- **Replies are printed as the lines they are shown as**, each behind the gutter. -/
theorem Output.exists_blocks : ∀ {ms : List Message}, (∀ m ∈ ms, m.Speaks) →
    ∃ blocks, List.Forall₂ Message.Shown ms blocks ∧ (∀ block ∈ blocks, block ≠ []) ∧
      (∀ line ∈ blocks.flatten, '\n' ∉ line) ∧
      ms.flatMap (fun m => message .text false m ++ ['\n']) = Text.fed (blocks.flatten.map (bare ++ ·))
  | [], _ => ⟨[], .nil, List.forall_mem_nil _, List.forall_mem_nil _, rfl⟩
  | m :: ms, h => by
    obtain ⟨hm, hms⟩ := List.forall_mem_cons.1 h
    obtain ⟨blocks, hshown, hne, hfeed, hprinted⟩ := exists_blocks hms
    obtain ⟨ls, hls, hlines⟩ := m.exists_shown
    have hmessage : message .text false m ++ ['\n'] = Text.fed (ls.map (bare ++ ·)) := by
      rw [message, hlines, Text.joined_feed (by simpa using hm.shown_ne_nil hls)]
    refine ⟨ls :: blocks, .cons hls hshown, List.forall_mem_cons.2 ⟨hm.shown_ne_nil hls, hne⟩, ?_, ?_⟩
    · exact List.forall_mem_append.2 ⟨hls.feed_not_mem, hfeed⟩
    · rw [List.flatMap_cons, hmessage, hprinted, List.flatten_cons, List.map_append, Text.fed_append]

/-! ## Sessions -/

/-- The replies that a step led to. -/
def Step.messages : Step → List Message
  | .replies ms => ms
  | .dump _ | .quit | .nothing => []

namespace Session

/-- The replies to the lines, in order, up to the line that ends the session. -/
def replies (s : Session) : List Text → List Message
  | [] => []
  | t :: ts =>
    match (step t).on s with
    | (.ok .quit, _) => []
    | (.ok done, s') => done.messages ++ s'.replies ts
    | (.error (.malformed _), s') => s'.replies ts
    | (.error (.lookup _), _) => []

variable {s s' : Session} {t : Text}

theorem replies_of_malformed {m : Malformed} (h : (step t).on s = (.error (.malformed m), s)) (ts : List Text) :
    s.replies (t :: ts) = s.replies ts := by
  rw [replies, h]

theorem replies_of_quit (h : (step t).on s = (.ok .quit, s')) (ts : List Text) : s.replies (t :: ts) = [] := by
  rw [replies, h]

theorem replies_of_step {done : Step} (h : (step t).on s = (.ok done, s')) (hq : done ≠ .quit) (ts : List Text) :
    s.replies (t :: ts) = done.messages ++ s'.replies ts := by
  rw [replies, h]
  cases done with
  | quit => exact absurd rfl hq
  | replies | dump | nothing => rfl

/-- Whatever a session replies has something to read. -/
theorem speaks_replies : ∀ (ts : List Text) (s : Session), ∀ m ∈ s.replies ts, m.Speaks
  | [], _ => List.forall_mem_nil _
  | t :: ts, s => by
    rcases step_cases s t with ⟨m, -, hstep⟩ | ⟨line, step, s', -, hstep, hdoes⟩
    · rw [replies_of_malformed hstep]
      exact speaks_replies ts s
    · cases hdoes with
      | quit =>
        rw [replies_of_quit hstep]
        exact List.forall_mem_nil _
      | blank | dump =>
        rw [replies_of_step hstep nofun]
        exact speaks_replies ts s
      | posts posted handled =>
        rw [replies_of_step hstep nofun]
        exact List.forall_mem_append.2 ⟨Bot.speaks_of_handle handled, speaks_replies ts _⟩

/-- **The output is the replies and nothing else**, if no line asks for a dump. -/
theorem output_run (format : OutputFormat) (colour : Bool) : ∀ (ts : List Text) (s : Session),
    (∀ t ∈ ts, Line.ofText t ≠ .ok .dump) →
      (s.run format colour ts).output = (s.replies ts).flatMap fun m => Output.message format colour m ++ ['\n']
  | [], _, _ => rfl
  | t :: ts, s, h => by
    obtain ⟨hdump, hrest⟩ := List.forall_mem_cons.1 h
    rcases step_cases s t with ⟨m, -, hstep⟩ | ⟨line, step, s', hread, hstep, hdoes⟩
    · rw [run_of_malformed format colour hstep, replies_of_malformed hstep, ← output_run format colour ts s hrest]
      rfl
    · cases hdoes with
      | quit =>
        rw [run_of_quit format colour hstep, replies_of_quit hstep]
        rfl
      | dump => exact absurd hread hdump
      | blank =>
        rw [run_of_step format colour hstep nofun, replies_of_step hstep nofun]
        exact output_run format colour ts s hrest
      | posts posted handled =>
        rw [run_of_step format colour hstep nofun, replies_of_step hstep nofun, List.flatMap_append,
          ← output_run format colour ts _ hrest]
        rfl

/-- **Every line that is printed stands behind the gutter, and is a line of a reply.**  Printed as plain text, a session
without a dump writes its replies in their order: each as one line or more, with the gutter before every line, and after
the gutter the lines of its text, or its place.  This is what is found between the line feeds of the output; read as
lines that may also end with a carriage return and a line feed, each lacks the carriage return that it may end with. -/
theorem printed_behind_gutter (s : Session) {ts : List Text} (hdump : ∀ t ∈ ts, Line.ofText t ≠ .ok .dump) :
    let output := (s.run .text false ts).output
    ∃ blocks, List.Forall₂ Message.Shown (s.replies ts) blocks ∧ (∀ block ∈ blocks, block ≠ []) ∧
      Text.pieces (· == '\n') output = blocks.flatten.map ("bot ▏".toList ++ ·) ++ [[]] ∧
      Text.Lined output (blocks.flatten.map fun line => "bot ▏".toList ++ Text.withoutReturn line) ∧
      ∀ line ∈ Text.lines output, "bot ▏".toList <+: line := by
  intro output
  obtain ⟨blocks, hshown, hne, hfeed, hprinted⟩ := Output.exists_blocks (speaks_replies ts s)
  have hfeed' : ∀ line ∈ blocks.flatten.map (Output.bare ++ ·), '\n' ∉ line := by
    intro line hline
    obtain ⟨shown, hmem, rfl⟩ := List.mem_map.1 hline
    exact List.not_mem_append (by decide) (hfeed shown hmem)
  have houtput : output = Text.fed (blocks.flatten.map (Output.bare ++ ·)) :=
    (output_run .text false ts s hdump).trans hprinted
  have hlined : Text.Lined output (blocks.flatten.map fun line => Output.bare ++ Text.withoutReturn line) := by
    have hreturn : (fun line => Output.bare ++ Text.withoutReturn line) =
        Text.withoutReturn ∘ (Output.bare ++ ·) := funext fun line => (Text.withoutReturn_append (by decide) line).symm
    rw [hreturn, ← List.map_map, houtput]
    exact Text.lined_fed hfeed'
  refine ⟨blocks, hshown, hne, houtput ▸ Text.pieces_fed hfeed', hlined, fun line hline => ?_⟩
  rw [hlined.lines_eq] at hline
  obtain ⟨shown, -, rfl⟩ := List.mem_map.1 hline
  exact List.prefix_append _ _

/-- A session with a suffix that would be a line of its own. -/
def forging : Session := { config := { unknownSuffix := "\r\nskipped: all\r".toList } }

/-- The suffix gets a gutter of its own. -/
theorem printed_behind_gutter_forging :
    (∀ t ∈ ["@eve /iam x".toList], Line.ofText t ≠ .ok .dump) ∧
      (forging.run .text false ["@eve /iam x".toList]).output =
        "bot ▏x\nbot ▏skipped: all\r\nbot ▏😀 *eve* @eve 😀\n".toList ∧
      ∀ line ∈ Text.lines (forging.run .text false ["@eve /iam x".toList]).output, "bot ▏".toList <+: line := by
  have hread : Line.ofText "@eve /iam x".toList = .ok (.say "eve".toList "/iam x".toList false) := rfl
  have hdump : ∀ t ∈ ["@eve /iam x".toList], Line.ofText t ≠ .ok .dump :=
    List.forall_mem_singleton.2 (hread ▸ nofun)
  obtain ⟨-, -, -, -, -, hgutter⟩ := printed_behind_gutter forging hdump
  exact ⟨hdump, rfl, hgutter⟩

end Session

end ChatProfiles
