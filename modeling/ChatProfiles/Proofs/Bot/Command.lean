import ChatProfiles.Bot.Command
import ChatProfiles.Proofs.Text.Words
/-!
# Which messages are commands

A message is a command exactly if its first word calls one (`Calls`) by a name that commands have, and the command then
has the other words of the message (`ofText?_eq_some_iff`).  So only the words of a message matter and not the blanks
between them; and of the first word only the letters and not their case (`ofText?_congr_case`), since neither the slash
nor the `@` is a letter.
-/
namespace ChatProfiles.Command

/-- The first word of a message calls a command by its name.  A word may say which bot it is for, and then only that
bot is called; the bot's name is all that follows the first `@`. -/
inductive Calls (bot : Text) : Text → Text → Prop
  | bare {name : Text} (noAt : '@' ∉ name) : Calls bot ('/' :: name) name
  | addressed {name addressee : Text} (noAt : '@' ∉ name) (called : Text.sameIgnoringCase addressee bot = true) :
      Calls bot ('/' :: (name ++ '@' :: addressee)) name

/-- The names of commands. -/
def names : List Text := ["start".toList, "help".toList, "iam".toList, "howis".toList, "whois".toList]

variable {bot name addressee word : Text} {args : List Text} {c : Command}

/-! ## Names in words -/

theorem at_false (h : '@' ∉ name) : ∀ c ∈ name, (c == '@') = false := fun _ hc =>
  beq_eq_false_iff_ne.2 fun e => h (e ▸ hc)

theorem name?_bare (h : '@' ∉ name) : name? bot ('/' :: name) = some name := by
  rw [name?, Text.cut_self (at_false h)]

theorem name?_addressed (h : '@' ∉ name) :
    name? bot ('/' :: (name ++ '@' :: addressee)) =
      if Text.sameIgnoringCase addressee bot then some name else none := by
  rw [name?, Text.cut_append (at_false h) (beq_self_eq_true '@')]

theorem name?_of_not_slash (h : word.head? ≠ some '/') : name? bot word = none := by
  unfold name?
  split
  · exact absurd rfl h
  · rfl

/-- A word starts with no slash, or has no `@` after it, or has a first one. -/
theorem word_cases (word : Text) : word.head? ≠ some '/' ∨ (∃ name, word = '/' :: name ∧ '@' ∉ name) ∨
    ∃ name addressee, word = '/' :: (name ++ '@' :: addressee) ∧ '@' ∉ name := by
  by_cases hslash : word.head? = some '/'
  · obtain ⟨rest, rfl⟩ := List.head?_eq_some_iff.1 hslash
    by_cases hat : '@' ∈ rest
    · obtain ⟨name, addressee, rfl, hname⟩ := List.eq_append_cons_of_mem hat
      exact .inr (.inr ⟨name, addressee, rfl, hname⟩)
    · exact .inr (.inl ⟨rest, rfl, hat⟩)
  · exact .inl hslash

theorem name?_eq_some_iff : name? bot word = some name ↔ Calls bot word name := by
  constructor
  · intro h
    obtain hslash | ⟨called, rfl, hat⟩ | ⟨called, addressee, rfl, hat⟩ := word_cases word
    · rw [name?_of_not_slash hslash] at h
      cases h
    · rw [name?_bare hat] at h
      exact Option.some.inj h ▸ .bare hat
    · rw [name?_addressed hat] at h
      split at h
      · next hbot => exact Option.some.inj h ▸ .addressed hat hbot
      · cases h
  · intro h
    cases h with
    | bare hat => exact name?_bare hat
    | addressed hat hbot => rw [name?_addressed hat, if_pos hbot]

theorem ofName?_eq_some_iff : ofName? name args = some c ↔
    Text.sameIgnoringCase name c.name = true ∧ ∀ given ∈ c.words?, given = args := by
  rw [Text.sameIgnoringCase_iff]
  constructor
  · intro h
    simp only [ofName?, beq_iff_eq] at h
    repeat' split at h
    all_goals cases h
    all_goals
      next hname => exact ⟨hname.trans rfl, by simp [words?]⟩
  · rintro ⟨hname, hargs⟩
    simp only [ofName?, hname]
    cases c with
    | start | help => rfl
    | iam words | howis words | whois words =>
      obtain rfl : words = args := hargs words rfl
      rfl

theorem exists_name_iff (known : Text) (args : List Text) :
    (∃ c : Command, c.name = known ∧ ∀ given ∈ c.words?, given = args) ↔ known ∈ names := by
  constructor
  · rintro ⟨c, rfl, -⟩
    cases c <;> exact List.elem_iff.1 rfl
  · intro h
    simp only [names, List.mem_cons, List.not_mem_nil, or_false] at h
    rcases h with rfl | rfl | rfl | rfl | rfl
    · exact ⟨.start, rfl, nofun⟩
    · exact ⟨.help, rfl, nofun⟩
    · exact ⟨.iam args, rfl, fun _ h => (Option.some.inj h).symm⟩
    · exact ⟨.howis args, rfl, fun _ h => (Option.some.inj h).symm⟩
    · exact ⟨.whois args, rfl, fun _ h => (Option.some.inj h).symm⟩

/-! ## Messages -/

variable {text text' : Text}

theorem ofText?_of_words {first : Text} (h : Text.words text = first :: args) :
    ofText? bot text = (name? bot first).bind (ofName? · args) := by
  rw [ofText?, h]

theorem ofText?_congr (h : Text.words text = Text.words text') : ofText? bot text = ofText? bot text' := by
  rw [ofText?, ofText?, h]

/-- **What a command is**: the first word calls it by its name, and the other words are what it is given. -/
theorem ofText?_eq_some_iff : ofText? bot text = some c ↔
    ∃ first rest name, Text.words text = first :: rest ∧ Calls bot first name ∧
      Text.sameIgnoringCase name c.name = true ∧ ∀ given ∈ c.words?, given = rest := by
  constructor
  · intro h
    cases hwords : Text.words text with
    | nil =>
      rw [ofText?, hwords] at h
      cases h
    | cons first rest =>
      rw [ofText?_of_words hwords] at h
      obtain ⟨name, hname, hcommand⟩ := Option.bind_eq_some_iff.1 h
      exact ⟨first, rest, name, rfl, name?_eq_some_iff.1 hname, ofName?_eq_some_iff.1 hcommand⟩
  · rintro ⟨first, rest, name, hwords, hcalls, hcommand⟩
    rw [ofText?_of_words hwords, name?_eq_some_iff.2 hcalls]
    exact ofName?_eq_some_iff.2 hcommand

theorem exists_ofText?_iff : (∃ c, ofText? bot text = some c) ↔
    ∃ first rest name, Text.words text = first :: rest ∧ Calls bot first name ∧
      ∃ known ∈ names, Text.sameIgnoringCase name known = true := by
  constructor
  · rintro ⟨c, h⟩
    obtain ⟨first, rest, name, hwords, hcalls, hname, hargs⟩ := ofText?_eq_some_iff.1 h
    exact ⟨first, rest, name, hwords, hcalls, c.name, (exists_name_iff c.name rest).1 ⟨c, rfl, hargs⟩, hname⟩
  · rintro ⟨first, rest, name, hwords, hcalls, known, hknown, hname⟩
    obtain ⟨c, rfl, hargs⟩ := (exists_name_iff known rest).2 hknown
    exact ⟨c, ofText?_eq_some_iff.2 ⟨first, rest, name, hwords, hcalls, hname, hargs⟩⟩

/-! ## The first word of a message -/

/-- The message `before ++ (word ++ rest)` starts with the word, up to blanks. -/
structure FirstWord (before word rest : Text) : Prop where
  blank : ∀ c ∈ before, Text.isBlank c = true
  word : Text.IsWord word
  gap : ∀ c ∈ rest.head?, Text.isBlank c = true

variable {before rest : Text}

theorem FirstWord.words (h : FirstWord before word rest) :
    Text.words (before ++ (word ++ rest)) = word :: Text.words rest := by
  rw [Text.words_blanks_append h.blank, Text.words_append_of_head h.word h.gap]

theorem FirstWord.ofText?_eq (h : FirstWord before word rest) :
    ofText? bot (before ++ (word ++ rest)) = (name? bot word).bind (ofName? · (Text.words rest)) :=
  ofText?_of_words h.words

theorem name?_fold (bot word : Text) : name? bot (Text.fold word) = (name? bot word).map Text.fold := by
  have hat : ∀ {t : Text}, '@' ∉ t → '@' ∉ Text.fold t := fun h => (Text.mem_fold_iff (by decide)).not.2 h
  obtain hslash | ⟨name, rfl, hname⟩ | ⟨name, addressee, rfl, hname⟩ := word_cases word
  · have hslash' : (Text.fold word).head? ≠ some '/' := by
      rw [Text.fold, List.head?_map, ne_eq, Option.map_eq_some_iff]
      rintro ⟨c, hc, hcase⟩
      exact hslash ((Text.toLower_eq_iff (by decide)).1 hcase ▸ hc)
    rw [name?_of_not_slash hslash, name?_of_not_slash hslash', Option.map_none]
  · have hfold : Text.fold ('/' :: name) = '/' :: Text.fold name := rfl
    rw [hfold, name?_bare (hat hname), name?_bare hname, Option.map_some]
  · have hfold : Text.fold ('/' :: (name ++ '@' :: addressee)) =
        '/' :: (Text.fold name ++ '@' :: Text.fold addressee) := by
      rw [Text.fold_cons, Text.fold, List.map_append]
      rfl
    have hsame : Text.sameIgnoringCase (Text.fold addressee) bot = Text.sameIgnoringCase addressee bot := by
      rw [Text.sameIgnoringCase, Text.fold_fold, Text.sameIgnoringCase]
    rw [hfold, name?_addressed (hat hname), name?_addressed hname, hsame]
    split <;> rfl

theorem ofName?_fold (name : Text) (args : List Text) : ofName? (Text.fold name) args = ofName? name args := by
  rw [ofName?, Text.fold_fold, ofName?]

/-- **The case of the first word says nothing**, neither in the name nor in the bot's name. -/
theorem ofText?_congr_case {word' : Text} (h : FirstWord before word rest)
    (hcase : Text.sameIgnoringCase word word' = true) :
    ofText? bot (before ++ (word' ++ rest)) = ofText? bot (before ++ (word ++ rest)) := by
  -- what is read depends on the folded word alone
  have hread : ∀ w, (name? bot w).bind (ofName? · (Text.words rest)) =
      (name? bot (Text.fold w)).bind (ofName? · (Text.words rest)) := fun w => by
    rw [name?_fold, Option.bind_map]
    exact congrArg _ (funext fun name => (ofName?_fold name _).symm)
  have h' : FirstWord before word' rest := ⟨h.blank, h.word.congr_case hcase, h.gap⟩
  rw [h'.ofText?_eq, h.ofText?_eq, hread word', hread word, Text.sameIgnoringCase_iff.1 hcase]

/-- **A bot that is called by its own name** is called no other than without it. -/
theorem ofText?_addressed (hbot : ∀ c ∈ bot, Text.isBlank c = false) (h : FirstWord before word rest)
    (hat : '@' ∉ word) (hcalled : Text.sameIgnoringCase addressee bot = true) :
    ofText? bot (before ++ (word ++ '@' :: addressee ++ rest)) = ofText? bot (before ++ (word ++ rest)) := by
  have haddressee : ∀ c ∈ addressee, Text.isBlank c = false :=
    Text.not_blank_congr_case hbot (Text.sameIgnoringCase_comm _ _ ▸ hcalled)
  have hword : Text.IsWord (word ++ '@' :: addressee) :=
    ⟨by simp, List.forall_mem_append.2 ⟨h.word.not_blank, List.forall_mem_cons.2 ⟨by decide, haddressee⟩⟩⟩
  have hfirst : FirstWord before (word ++ '@' :: addressee) rest := ⟨h.blank, hword, h.gap⟩
  have hname : name? bot (word ++ '@' :: addressee) = name? bot word := by
    obtain hslash | ⟨name, rfl, hname⟩ | ⟨name, _, rfl, -⟩ := word_cases word
    · rw [name?_of_not_slash hslash, name?_of_not_slash (by rwa [List.head?_append_of_ne_nil _ h.word.ne_nil])]
    · rw [List.cons_append, name?_addressed hname, if_pos hcalled, name?_bare hname]
    · exact absurd (by simp) hat
  rw [hfirst.ofText?_eq, h.ofText?_eq, hname]

/-- **A bot does not answer to the name of another.** -/
theorem ofText?_of_other (hwords : Text.words text = ('/' :: (name ++ '@' :: addressee)) :: args) (hat : '@' ∉ name)
    (hother : Text.sameIgnoringCase addressee bot = false) : ofText? bot text = none := by
  rw [ofText?_of_words hwords, name?_addressed hat, hother]
  rfl

/-- **Which messages are commands, and which differences between messages do not count.**  A message is a command if
its first word calls one, and the other words are what it is given.  So blanks can be replaced by others, or stand
before and after it; the first word can be in either case, and name the bot or not; and what another bot is called to
do is no command. -/
theorem recognition (bot : Text) :
    (∀ text c, ofText? bot text = some c ↔
      ∃ first rest name, Text.words text = first :: rest ∧ Calls bot first name ∧
        Text.sameIgnoringCase name c.name = true ∧ ∀ given ∈ c.words?, given = rest) ∧
    (∀ text, (∃ c, ofText? bot text = some c) ↔
      ∃ first rest name, Text.words text = first :: rest ∧ Calls bot first name ∧
        ∃ known ∈ names, Text.sameIgnoringCase name known = true) ∧
    (∀ text text', Text.Respaced text text' → ofText? bot text' = ofText? bot text) ∧
    (∀ gap text, (∀ c ∈ gap, Text.isBlank c = true) →
      ofText? bot (gap ++ text) = ofText? bot text ∧ ofText? bot (text ++ gap) = ofText? bot text) ∧
    (∀ before word word' rest, FirstWord before word rest → Text.sameIgnoringCase word word' = true →
      ofText? bot (before ++ (word' ++ rest)) = ofText? bot (before ++ (word ++ rest))) ∧
    ((∀ c ∈ bot, Text.isBlank c = false) → ∀ before word rest addressee, FirstWord before word rest → '@' ∉ word →
      Text.sameIgnoringCase addressee bot = true →
        ofText? bot (before ++ (word ++ '@' :: addressee ++ rest)) = ofText? bot (before ++ (word ++ rest))) ∧
    ∀ text name addressee rest, Text.words text = ('/' :: (name ++ '@' :: addressee)) :: rest → '@' ∉ name →
      Text.sameIgnoringCase addressee bot = false → ofText? bot text = none :=
  ⟨fun _ _ => ofText?_eq_some_iff, fun _ => exists_ofText?_iff, fun _ _ h => ofText?_congr h.words_eq.symm,
    fun _ text h => ⟨ofText?_congr (Text.words_blanks_append h text), ofText?_congr (Text.words_append_blanks h text)⟩,
    fun _ _ _ _ => ofText?_congr_case, fun hbot _ _ _ _ => ofText?_addressed hbot, fun _ _ _ _ => ofText?_of_other⟩

/-- One bot is asked by its name, in a case of its own; another would have to answer for itself. -/
theorem recognition_roster_bot :
    ofText? "roster_bot".toList ("  ".toList ++ ("/IAM".toList ++ '@' :: "Roster_Bot".toList ++ "\t29yo".toList)) =
      some (.iam ["29yo".toList]) ∧
    ofText? "roster_bot".toList "/help@other_bot".toList = none := by
  obtain ⟨-, -, -, -, hcase, hbot, hother⟩ := recognition "roster_bot".toList
  have hroster : Text.IsWord "roster_bot".toList := by decide
  have hfirst : ∀ word, Text.IsWord word → FirstWord "  ".toList word "\t29yo".toList := fun _ hword =>
    ⟨List.all_eq_true.1 (by decide), hword, fun c hc => Option.some.inj hc ▸ by decide⟩
  refine ⟨?_, hother _ "help".toList "other_bot".toList [] (by decide) (by decide) (by decide)⟩
  rw [hbot hroster.not_blank _ _ _ _ (hfirst _ (by decide)) (by decide) (by decide),
    hcase _ "/iam".toList _ _ (hfirst _ (by decide)) (by decide)]
  decide

end ChatProfiles.Command
