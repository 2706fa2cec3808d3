import ChatProfiles.Proofs.Bot.Card
import ChatProfiles.Proofs.Bot.Replies
/-!
# When the bot is silent

No reply means that an update is not meant for the bot, and nothing else does: a command is answered in any chat where
it makes sense, whatever its words are, whatever the registry holds and however the bot is configured.

Nor is an answer ever empty to look at.  What the bot made no sense of is a word of the message, a name behind an `@` or
a label of its own, so the text is not empty even if nothing is appended to it; and the header of a card starts with the
marker, whoever the card is of.
-/
namespace ChatProfiles

/-- The message has something to read, if it has a text at all. -/
def Message.Speaks (m : Message) : Prop := ∀ body ∈ m.body?, body ≠ []

namespace Bot

/-! ## Answers -/

/-- There is a reply, and each reply has something to read. -/
structure Answered (ms : List Message) : Prop where
  ne_nil : ms ≠ []
  speaks : ∀ m ∈ ms, m.Speaks

variable {config : BotConfig} {r : Registry} {group : Int} {sender : Member} {words : List Text} {ms ms' : List Message}

theorem answered_singleton {m : Message} (h : m.Speaks) : Answered [m] :=
  ⟨List.cons_ne_nil _ _, List.forall_mem_singleton.2 h⟩

/-- Replies that go before an answer may be none. -/
theorem Answered.after (h : ∀ m ∈ ms, m.Speaks) (h' : Answered ms') : Answered (ms ++ ms') :=
  ⟨List.append_ne_nil_of_right_ne_nil _ h'.ne_nil, List.forall_mem_append.2 ⟨h, h'.speaks⟩⟩

theorem speaks_text {body : Text} (h : body ≠ []) : (Message.text body).Speaks := fun _ hb => Option.some.inj hb ▸ h

theorem speaks_markup {body : Text} (h : body ≠ []) : (Message.markup body).Speaks := fun _ hb =>
  Option.some.inj hb ▸ h

theorem speaks_location (l : Location) : (Message.location l).Speaks := nofun

theorem speaks_unknown {token : Text} (h : token ≠ []) : (unknown config token).Speaks :=
  speaks_text (List.append_ne_nil_of_left_ne_nil h _)

theorem answered_messages (p : Profile) : Answered (Card.messages p) := by
  have hcard : (Message.markup (Card.write p)).Speaks := speaks_markup (by
    rw [Card.write_eq]
    exact List.cons_ne_nil _ _)
  refine ⟨List.cons_ne_nil _ _, List.forall_mem_cons.2 ⟨hcard, fun m hm => ?_⟩⟩
  obtain ⟨l, -, rfl⟩ := Option.map_eq_some_iff.1 (Option.mem_toList.1 hm)
  exact speaks_location l

theorem answered_usage (config : BotConfig) : Answered (usage config) :=
  answered_singleton (speaks_markup (List.cons_ne_nil _ _))

/-- Words that are echoed are words of the message. -/
theorem speaks_echoed (h : ∀ w ∈ words, Text.IsWord w) (p : Text → Bool) :
    ∀ m ∈ (words.filter p).map (unknown config), m.Speaks := by
  intro m hm
  obtain ⟨w, hw, rfl⟩ := List.mem_map.1 hm
  exact speaks_unknown (h w (List.mem_of_mem_filter hw)).ne_nil

theorem answered_iam (h : ∀ w ∈ words, Text.IsWord w) (config : BotConfig) (r : Registry) (group : Int)
    (sender : Member) : Answered (iam config r group sender words).replies := by
  have hechoed : ((r.enter group sender).1.applyTokens words).2.map (fun x => unknown config x.token) =
      (words.filter fun w => (Directive.ofToken .edit w).Refused).map (unknown config) := by
    rw [← Profile.map_token_refused (r.enter group sender).1, List.map_map]
    rfl
  rw [replies_iam, hechoed]
  exact (answered_messages _).after (speaks_echoed h _)

theorem answered_howis (h : howis config r group words = .ok ms) : Answered ms := by
  unfold howis at h
  split at h
  · dsimp only at h
    split at h
    · cases h
      exact answered_usage config
    · -- somebody has the name, or it is echoed behind its `@`
      generalize r.findByUsername group _ = found? at h
      obtain _ | _ | p := found?
      · cases h
      · cases h
        exact answered_singleton (speaks_unknown (List.cons_ne_nil _ _))
      · cases h
        exact answered_messages p
  · cases h
    exact answered_usage config

theorem answered_whois (h : ∀ w ∈ words, Text.IsWord w) (config : BotConfig) (r : Registry) (group : Int)
    (sender : Member) : Answered (whois config r group sender words) := by
  obtain ⟨last, hlast, hwhois⟩ := exists_whois config r group sender words
  have hne : last ≠ [] := by
    cases hlast with
    | unplaced => exact List.append_ne_nil_of_left_ne_nil (by decide) _
    | found => exact List.append_ne_nil_of_left_ne_nil (List.append_ne_nil_of_left_ne_nil (by decide) _) _
  rw [hwhois]
  exact (answered_singleton (speaks_text hne)).after (speaks_echoed h _)

theorem answered_answer {chat : Chat} {body : Text} {command : Command} {o : Outcome}
    (hcommand : Command.ofText? config.username body = some command)
    (h : answer config r chat sender command = .ok o) : Answered o.replies := by
  have hwords {words : List Text} (hw : command.words? = some words) : ∀ w ∈ words, Text.IsWord w := fun w hmem =>
    Text.mem_words (words_of_ofText? hcommand hw w hmem)
  cases command with
  | start =>
    cases h
    exact answered_singleton (speaks_markup (by decide))
  | help =>
    cases h
    refine ⟨List.cons_ne_nil _ _, fun m hm => ?_⟩
    obtain ⟨body, hbody, rfl⟩ := List.mem_map.1 hm
    refine speaks_markup ?_
    simp only [Help.guide, List.mem_cons, List.not_mem_nil, or_false] at hbody
    rcases hbody with rfl | rfl | rfl | rfl
    · decide
    · decide
    · exact List.append_ne_nil_of_right_ne_nil _ (List.cons_ne_nil _ _)
    · decide
  | iam words =>
    cases h
    exact answered_iam (hwords rfl) config r chat.id sender
  | howis words =>
    cases hms : howis config r chat.id words with
    | error e => rw [answer, hms] at h; cases h
    | ok ms =>
      rw [answer, hms] at h
      cases h
      exact answered_howis hms
  | whois words =>
    cases h
    exact answered_whois (hwords rfl) config r chat.id sender

/-! ## Silence -/

/-- The update is not meant for the bot. -/
inductive NotAddressed (config : BotConfig) : Update → Prop
  /-- A text that is no command. -/
  | chatter {chat : Chat} {sender : Member} {body : Text}
      (noCommand : Command.ofText? config.username body = none) : NotAddressed config ⟨chat, sender, .text body⟩
  /-- A command that reads or edits profiles, where there are none. -/
  | outside {chat : Chat} {sender : Member} {body : Text} {command : Command} {words : List Text}
      (called : Command.ofText? config.username body = some command)
      (profiles : command ∈ [.iam words, .howis words, .whois words]) (noGroup : chat.kind ≠ .group) :
      NotAddressed config ⟨chat, sender, .text body⟩
  /-- A place that no group is told. -/
  | place {chat : Chat} {sender : Member} {l : Location} (noGroup : chat.kind ≠ .group) :
      NotAddressed config ⟨chat, sender, .location l⟩

theorem isGroup_eq_false_iff {chat : Chat} : chat.isGroup = false ↔ chat.kind ≠ .group := beq_eq_false_iff_ne

theorem requiresGroup_iff {command : Command} :
    command.requiresGroup = true ↔ ∃ words, command ∈ [.iam words, .howis words, .whois words] := by
  cases command with
  | start | help => exact iff_of_false nofun fun ⟨_, h⟩ => by simp at h
  | iam words | howis words | whois words => exact iff_of_true rfl ⟨words, by simp⟩

/-- **An update is not meant for the bot, and then nothing happens, or it is answered.** -/
theorem handle_cases (config : BotConfig) (r : Registry) (u : Update) :
    (NotAddressed config u ∧ handle config r u = .ok ⟨[], r⟩) ∨
      ¬ NotAddressed config u ∧ ∃ o, handle config r u = .ok o ∧ Answered o.replies := by
  obtain ⟨chat, sender, content⟩ := u
  cases content with
  | location l =>
    rw [handle_location]
    cases hgroup : chat.isGroup with
    | false => exact .inl ⟨.place (isGroup_eq_false_iff.1 hgroup), rfl⟩
    | true =>
      refine .inr ⟨fun h => ?_, _, rfl, answered_messages _⟩
      cases h with
      | place noGroup => rw [isGroup_eq_false_iff.2 noGroup] at hgroup; cases hgroup
  | text body =>
    rw [handle_text]
    cases hcommand : Command.ofText? config.username body with
    | none => exact .inl ⟨.chatter hcommand, rfl⟩
    | some command =>
      dsimp only
      by_cases hsilent : (command.requiresGroup && !chat.isGroup) = true
      · rw [if_pos hsilent]
        obtain ⟨hneeds, hgroup⟩ := Bool.and_eq_true_iff.1 hsilent
        obtain ⟨words, hprofiles⟩ := requiresGroup_iff.1 hneeds
        exact .inl ⟨.outside hcommand hprofiles (isGroup_eq_false_iff.1 (by simpa using hgroup)), rfl⟩
      · rw [if_neg hsilent]
        obtain ⟨o, ho⟩ := exists_answer hcommand r chat sender
        refine .inr ⟨fun h => hsilent ?_, o, ho, answered_answer hcommand ho⟩
        cases h with
        | chatter noCommand => rw [hcommand] at noCommand; cases noCommand
        | outside called profiles noGroup =>
          obtain rfl := Option.some.inj (hcommand.symm.trans called)
          rw [requiresGroup_iff.2 ⟨_, profiles⟩, isGroup_eq_false_iff.2 noGroup]
          rfl

/-- Whatever is replied has something to read. -/
theorem speaks_of_handle {u : Update} {o : Outcome} (h : handle config r u = .ok o) : ∀ m ∈ o.replies, m.Speaks := by
  rcases handle_cases config r u with ⟨-, hsilent⟩ | ⟨-, o', ho', hanswered⟩
  · obtain rfl := Except.ok.inj (h.symm.trans hsilent)
    exact List.forall_mem_nil _
  · obtain rfl := Except.ok.inj (h.symm.trans ho')
    exact hanswered.speaks

/-- **Silence means that the bot was not addressed.**  Every update is handled.  There is no reply exactly if the update
is a text that is no command, a command about profiles outside of a group, or a location told outside of one, and the
registry is then as it was; and no text of a reply is empty. -/
theorem silent_iff_not_addressed (config : BotConfig) (r : Registry) (u : Update) :
    ∃ o, handle config r u = .ok o ∧ (o.replies = [] ↔ NotAddressed config u) ∧
      (NotAddressed config u → o.registry = r) ∧ ∀ m ∈ o.replies, ∀ body, m.body? = some body → body ≠ [] := by
  rcases handle_cases config r u with ⟨hsilent, ho⟩ | ⟨haddressed, o, ho, hanswered⟩
  · exact ⟨_, ho, iff_of_true rfl hsilent, fun _ => rfl, List.forall_mem_nil _⟩
  · exact ⟨o, ho, iff_of_false hanswered.ne_nil haddressed, fun h => absurd h haddressed, hanswered.speaks⟩

end Bot

end ChatProfiles
