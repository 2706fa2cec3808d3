import ChatProfiles.Bot.Service
import ChatProfiles.Proofs.Bot.Command
/-!
# Runs of the bot

A run handles updates one after the other, each with the registry the one before it left.  No update makes the bot
fail (`exists_handle`): the one error of the registry is a lookup by a blank name, and the name looked up is a word of
the message, which has no blank in it.  So every run comes to its end (`exists_run`).
-/
namespace ChatProfiles.Bot

/-- What is answered to each of the updates, and the registry after the last. -/
def run (config : BotConfig) (r : Registry) : List Update → Except LookupError (List (List Message) × Registry)
  | [] => .ok ([], r)
  | u :: us => (handle config r u).bind fun o => (run config o.registry us).map fun x => (o.replies :: x.1, x.2)

theorem run_cons {config : BotConfig} {r : Registry} {u : Update} {o : Outcome} (h : handle config r u = .ok o)
    (us : List Update) :
    run config r (u :: us) = (run config o.registry us).map fun x => (o.replies :: x.1, x.2) := by
  rw [run, h]; rfl

/-! ## No update fails -/

/-- The words of a command are words of the message. -/
theorem words_of_ofText? {bot text : Text} {command : Command} {words : List Text}
    (h : Command.ofText? bot text = some command) (hw : command.words? = some words) :
    ∀ w ∈ words, w ∈ Text.words text := by
  obtain ⟨first, rest, _, hwords, -, -, hgiven⟩ := Command.ofText?_eq_some_iff.1 h
  rw [hwords, hgiven words hw]
  exact fun w hmem => List.mem_cons_of_mem first hmem

theorem exists_howis {words : List Text} (h : ∀ w ∈ words, Text.IsWord w) (config : BotConfig)
    (r : Registry) (group : Int) : ∃ ms, howis config r group words = .ok ms := by
  unfold howis
  split
  · next word =>
    dsimp only
    split
    · exact ⟨_, rfl⟩
    · next hne =>
      have hword := (h word (List.mem_singleton.2 rfl)).not_blank
      have hname : Text.IsWord ((Text.strip? ['@'] word).getD word) := by
        refine ⟨by simpa using hne, ?_⟩
        cases hs : Text.strip? ['@'] word with
        | none => exact hword
        | some rest =>
          intro c hc
          exact hword c (Text.eq_append_of_strip? hs ▸ List.mem_append_right _ hc)
      rw [Registry.findByUsername, hname.isBlankOnly_eq_false]
      exact ⟨_, rfl⟩
  · exact ⟨_, rfl⟩

theorem handle_location (config : BotConfig) (r : Registry) (chat : Chat) (sender : Member) (l : Location) :
    handle config r ⟨chat, sender, .location l⟩ =
      .ok (if chat.isGroup then shareLocation r chat.id sender l else ⟨[], r⟩) := by
  unfold handle
  cases h : chat.isGroup <;> simp

theorem handle_text (config : BotConfig) (r : Registry) (chat : Chat) (sender : Member) (body : Text) :
    handle config r ⟨chat, sender, .text body⟩ =
      match Command.ofText? config.username body with
      | none => .ok ⟨[], r⟩
      | some command =>
        if command.requiresGroup && !chat.isGroup then .ok ⟨[], r⟩ else answer config r chat sender command := rfl

theorem replies_iam (config : BotConfig) (r : Registry) (group : Int) (sender : Member) (words : List Text) :
    (iam config r group sender words).replies =
      (((r.enter group sender).1.applyTokens words).2.map fun x => unknown config x.token) ++
        Card.messages ((r.enter group sender).1.applyTokens words).1 := rfl

theorem replies_shareLocation (r : Registry) (group : Int) (sender : Member) (l : Location) :
    (shareLocation r group sender l).replies = Card.messages ((r.enter group sender).1.withLocation (some l)) := rfl

theorem exists_answer {config : BotConfig} {body : Text} {command : Command}
    (h : Command.ofText? config.username body = some command) (r : Registry) (chat : Chat) (sender : Member) :
    ∃ o, answer config r chat sender command = .ok o := by
  cases command with
  | start => exact ⟨_, rfl⟩
  | help => exact ⟨_, rfl⟩
  | iam words => exact ⟨_, rfl⟩
  | whois words => exact ⟨_, rfl⟩
  | howis words =>
    have hwords : ∀ w ∈ words, Text.IsWord w := fun w hw => Text.mem_words (words_of_ofText? h rfl w hw)
    obtain ⟨ms, hms⟩ := exists_howis hwords config r chat.id
    exact ⟨⟨ms, r⟩, by simp only [answer, hms, Except.map]⟩

/-- **No update makes the bot fail.** -/
theorem exists_handle (config : BotConfig) (r : Registry) (u : Update) : ∃ o, handle config r u = .ok o := by
  obtain ⟨chat, sender, content⟩ := u
  cases content with
  | location l => exact ⟨_, handle_location config r chat sender l⟩
  | text body =>
    rw [handle_text]
    cases hc : Command.ofText? config.username body with
    | none => exact ⟨_, rfl⟩
    | some command =>
      obtain ⟨o, ho⟩ := exists_answer hc r chat sender
      dsimp only
      split
      · exact ⟨_, rfl⟩
      · exact ⟨o, ho⟩

/-- **Every run comes to its end.** -/
theorem exists_run (config : BotConfig) : ∀ (us : List Update) (r : Registry),
    ∃ replies last, run config r us = .ok (replies, last)
  | [], r => ⟨[], r, rfl⟩
  | u :: us, r => by
    obtain ⟨o, ho⟩ := exists_handle config r u
    obtain ⟨replies, last, h⟩ := exists_run config us o.registry
    exact ⟨o.replies :: replies, last, by rw [run_cons ho, h]; rfl⟩

/-- The first update of a run, and the run of the others. -/
theorem exists_of_run_cons {config : BotConfig} {u : Update} {us : List Update} {r last : Registry}
    {replies : List (List Message)} (h : run config r (u :: us) = .ok (replies, last)) :
    ∃ o rest, handle config r u = .ok o ∧ run config o.registry us = .ok (rest, last) := by
  obtain ⟨o, ho⟩ := exists_handle config r u
  obtain ⟨rest, last', hrun⟩ := exists_run config us o.registry
  rw [run_cons ho, hrun] at h
  cases h
  exact ⟨o, rest, ho, hrun⟩

/-- **What every update keeps, a run keeps.** -/
theorem run_keeps {config : BotConfig} {P : Registry → Prop}
    (keeps : ∀ r u o, P r → handle config r u = .ok o → P o.registry) :
    ∀ (us : List Update) {r last : Registry} {replies : List (List Message)},
      P r → run config r us = .ok (replies, last) → P last
  | [], r, last, replies, hr, h => by cases h; exact hr
  | u :: us, r, last, replies, hr, h => by
    obtain ⟨o, rest, ho, hrun⟩ := exists_of_run_cons h
    exact run_keeps keeps us (keeps r u o hr ho) hrun

end ChatProfiles.Bot
