import ChatProfiles.Proofs.Console.Line
/-!
# Messages are delivered

A message that a member writes on a line reaches the bot as it was written: in the same characters, under the same name
and in the same chat.  Any name will do and any text that is trimmed, the empty one too, whatever keyword or comment it
looks like, for both stand behind the `@`.

The exception are messages that start as those that share a location, and the line looks at the first characters of the
message, not at its first word.  So `/location` is no message either, and what stands right behind `/loc` is taken for
a latitude (`head?_words_shareWord_iff` says when the characters are a word of their own).
-/
namespace ChatProfiles.Line

variable {t u x : Text}

theorem ofText_written (hu : Text.IsWord u) (hx : Text.trim x = x) (direct : Bool) :
    ofText (written u x direct) = ofMessage u x direct := ofText_of_carries (carries_written hu hx direct)

/-- A line shares a location exactly if it carries a message to the group that does. -/
theorem ofText_eq_share_iff {l : Location} :
    ofText t = .ok (.share u l) ↔ ∃ given, Carries t u (shareWord ++ given) false ∧ location? given = some l := by
  constructor
  · intro h
    rcases ofText_cases h with hnobody | ⟨v, x, direct, hcarries, hmessage⟩
    · cases hnobody
    · obtain ⟨rfl, rfl, given, rfl, hl⟩ := ofMessage_eq_share_iff.1 hmessage
      exact ⟨given, hcarries, hl⟩
  · rintro ⟨given, hcarries, hl⟩
    rw [ofText_of_carries hcarries]
    exact ofMessage_eq_share_iff.2 ⟨rfl, rfl, given, rfl, hl⟩

/-- The characters that share a location are the first word of a message if a blank follows, or nothing. -/
theorem head?_words_shareWord_iff {given : Text} :
    (Text.words (shareWord ++ given)).head? = some shareWord ↔ ∀ c ∈ given.head?, Text.isBlank c = true :=
  Text.head?_words_append_iff (by decide)

/-- **What is written on a line is delivered, unless it starts as a location.**  A message is posted in its own
characters, to the group or to the bot alone, exactly if `/loc` does not stand at its start; and a line shares a
location exactly if it carries to the group a message that goes on with the numbers of that location behind `/loc`,
whether a blank follows these characters, so that they are its first word, or not. -/
theorem delivered_unless_location (t u x : Text) (direct : Bool) (l : Location) :
    (Text.IsWord u → Text.trim x = x →
      (ofText (written u x direct) = .ok (.say u x direct) ↔ ¬ shareWord <+: x)) ∧
    (ofText t = .ok (.share u l) ↔ ∃ given, Carries t u (shareWord ++ given) false ∧ location? given = some l) ∧
    ∀ given, (Text.words (shareWord ++ given)).head? = some shareWord ↔ ∀ c ∈ given.head?, Text.isBlank c = true := by
  refine ⟨fun hu hx => ?_, ofText_eq_share_iff, fun given => head?_words_shareWord_iff⟩
  rw [ofText_written hu hx]
  exact ofMessage_eq_say_iff

theorem delivered_to_bot :
    Text.IsWord "dm".toList ∧ Text.trim "# /loc".toList = "# /loc".toList ∧ ¬ shareWord <+: "# /loc".toList ∧
      ofText "dm @dm # /loc".toList = .ok (.say "dm".toList "# /loc".toList true) := by
  have hu : Text.IsWord "dm".toList := by decide
  have hx : Text.trim "# /loc".toList = "# /loc".toList := by decide
  have hlocation : ¬ shareWord <+: "# /loc".toList := by decide
  exact ⟨hu, hx, hlocation, ((delivered_unless_location [] _ _ true ⟨0, 0, none⟩).1 hu hx).2 hlocation⟩

/-- **Not every message is delivered whose first word is another than `/loc`**: one is malformed for a word that only
starts so, and one shares a location. -/
theorem location_word_not_delivered :
    Text.IsWord "bob".toList ∧ Text.trim "/location please".toList = "/location please".toList ∧
      (Text.words "/location please".toList).head? ≠ some shareWord ∧
      ofText "@bob /location please".toList = .error (.location "ation please".toList) ∧
      ofText "@bob /location please".toList ≠ .ok (.say "bob".toList "/location please".toList false) ∧
      (Text.words "/loc45 9".toList).head? ≠ some shareWord ∧
      ofText "@bob /loc45 9".toList = .ok (.share "bob".toList ⟨45, 9, none⟩) := by
  refine ⟨by decide, by decide, by decide, rfl, nofun, by decide, rfl⟩

end ChatProfiles.Line
