import ChatProfiles.Bot.Service
import ChatProfiles.Proofs.Bot.Card
/-!
# What stands in bold

A card, the usage of `/howis` and the third message of the guide put a text from outside between two asterisks of their
own.  Each of them is the text in bold (`Markup.bolded`), so each is read as one bold span with just this text in it,
unless the text ends with a backslash, which turns the asterisk after it into a character.
-/
namespace ChatProfiles

open Markup (bold bolded unclosed)

namespace Card

/-- What stands in a card after the name and its delimiters. -/
def afterBold (p : Profile) : Text := afterName p ++ p.marker.symbol :: (details p).flatMap (['\n'] ++ ·)

theorem write_eq_bolded (p : Profile) : write p = beforeName p ++ (bolded (fullName p.member) ++ afterBold p) := by
  rw [write_eq]
  simp [beforeName, bolded, afterBold, Marker.write]

/-- **A card is read part by part**: what stands around the name does not change how the name is read. -/
theorem read_write (p : Profile) : Markup.read (write p) =
    Markup.read (beforeName p) ++ Markup.read (bolded (fullName p.member)) ++ Markup.read (afterBold p) := by
  have hblank : (beforeName p).getLast? ≠ some '\\' := by simp [beforeName]
  have hstar : (bolded (fullName p.member)).getLast? ≠ some '\\' := by simp [bolded, List.getLast?_cons]
  rw [write_eq_bolded, Markup.read_append (absurd · hblank), Markup.read_append (absurd · hstar), List.append_assoc]

end Card

namespace Help

/-- The heading of the message that explains `/howis`. -/
def showHeading : Text := "🔍 SHOWING SOMEONE'S PROFILE\n".toList

/-- The command that the usage tells to write, up to the name. -/
def showCommand : Text := "/howis @".toList

theorem usage_eq (bot : Text) : usage bot = showCommand ++ Markup.escaped bot := rfl

theorem escaped_showCommand_append (bot : Text) : Markup.escaped (showCommand ++ bot) = usage bot := by
  have hplain := Markup.plain_of_any (show showCommand.any Markup.opensSpan = false by decide)
  rw [Markup.escaped_append, Markup.escaped_of_plain hplain, usage_eq]

theorem getLast?_showCommand_append (bot : Text) :
    (showCommand ++ bot).getLast? = some '\\' ↔ bot.getLast? = some '\\' := by
  have hcommand : showCommand.getLast? = some '@' := by decide
  rw [List.getLast?_append, hcommand]
  cases bot.getLast? <;> simp

theorem showSection_eq_bolded (bot : Text) : showSection bot = bolded (showHeading ++ (showCommand ++ bot)) := by
  have hplain := Markup.plain_of_any (show showHeading.any Markup.opensSpan = false by decide)
  have hstart : "*🔍 SHOWING SOMEONE'S PROFILE\n".toList = '*' :: showHeading := by decide +kernel
  have hsection : showSection bot = ('*' :: showHeading) ++ usage bot ++ ['*'] :=
    congrArg (· ++ usage bot ++ ['*']) hstart
  rw [hsection, bolded, Markup.escaped_append, Markup.escaped_of_plain hplain, escaped_showCommand_append,
    List.cons_append, List.cons_append]

end Help

theorem Bot.usage_eq_bolded (config : BotConfig) :
    usage config = [.markup (bolded (Help.showCommand ++ config.username))] := by
  rw [usage, bolded, Help.escaped_showCommand_append, List.cons_append]

/-- **Bold spans end where they should and are read as what was put in, unless that ends with a backslash.**  A card is
read part by part; its name, and the name of the bot in the usage of `/howis` and in the third message of the guide, are
read as the one text in a bold span, exactly if no backslash is the last character.  A text that ends with one loses it,
and the span stays open. -/
theorem bold_reads_back (p : Profile) (config : BotConfig) (bot : Text) :
    (Card.write p = Card.beforeName p ++ (bolded (Card.fullName p.member) ++ Card.afterBold p) ∧
      Markup.read (Card.write p) = Markup.read (Card.beforeName p) ++
        Markup.read (bolded (Card.fullName p.member)) ++ Markup.read (Card.afterBold p) ∧
      (Markup.read (bolded (Card.fullName p.member)) = bold (Card.fullName p.member) ↔
        (Card.fullName p.member).getLast? ≠ some '\\')) ∧
    (∃ body, Bot.usage config = [.markup body] ∧
      (Markup.read body = bold (Help.showCommand ++ config.username) ↔ config.username.getLast? ≠ some '\\')) ∧
    (∃ body, (Help.guide bot)[2]? = some body ∧
      (Markup.read body = bold (Help.showHeading ++ (Help.showCommand ++ bot)) ↔ bot.getLast? ≠ some '\\')) ∧
    ∀ start, Markup.read (bolded (start ++ ['\\'])) = unclosed start := by
  refine ⟨⟨Card.write_eq_bolded p, Card.read_write p, Markup.read_bolded_eq_iff _⟩, ?_, ?_,
    Markup.read_bolded_backslash⟩
  · refine ⟨_, Bot.usage_eq_bolded config, ?_⟩
    rw [Markup.read_bolded_eq_iff, Ne, Help.getLast?_showCommand_append]
  · have hne : Help.showCommand ++ bot ≠ [] := List.append_ne_nil_of_left_ne_nil (by decide) bot
    refine ⟨Help.showSection bot, rfl, ?_⟩
    rw [Help.showSection_eq_bolded, Markup.read_bolded_eq_iff, Ne, List.getLast?_append_of_ne_nil _ hne,
      Help.getLast?_showCommand_append]

def slashed : Profile := { member := { id := 1, firstName := "bob\\".toList, username := some "bob\\".toList } }

/-- **A name that ends with a backslash leaves its span open**: the delimiter after it is read as a character. -/
theorem slashed_left_open :
    Card.write slashed = "😀 *bob\\* @bob\\ 😀".toList ∧
      Markup.read (Card.write slashed) =
        .plain '😀' :: .plain ' ' :: .mark '*' :: "bob* @bob\\ 😀".toList.map .plain ∧
      Card.fullName slashed.member = "bob\\".toList ∧
      Markup.read (bolded "bob\\".toList) ≠ bold "bob\\".toList :=
  ⟨rfl, by decide, rfl, by decide⟩

end ChatProfiles
