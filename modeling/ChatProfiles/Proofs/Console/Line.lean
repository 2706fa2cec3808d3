import ChatProfiles.Console.Line
import ChatProfiles.Proofs.Text.Span
import ChatProfiles.Proofs.Text.Words
/-!
# Lines with a name at their head

A line that starts with `@`, perhaps after `dm`, carries a message of a member: the name goes up to the first blank, and
what follows is the message, trimmed.  `Carries` says so of a line without reading it, and a line that carries a message
is read as that message (`ofText_of_carries`); it is no keyword and no comment.  Every other line is from nobody
(`ofText_cases`).  However a line is read, the name at its head is a word (`isWord_of_ofText`).
-/
namespace ChatProfiles.Line

/-! ## Messages on lines -/

/-- A name, which is a word, and a message set off by a blank; blanks around the message are no part of it. -/
structure Named (t u x : Text) : Prop where
  word : Text.IsWord u
  text : ∃ rest, t = u ++ rest ∧ (∀ c ∈ rest.head?, Text.isBlank c = true) ∧ Text.trim rest = x

/-- The line carries the message `x` of the member `u`, to the group or to the bot alone. -/
inductive Carries (t u x : Text) : Bool → Prop
  | toGroup {r : Text} (line : Text.trim t = '@' :: r) (named : Named r u x) : Carries t u x false
  | toBot {blanks r : Text} (line : Text.trim t = "dm ".toList ++ (blanks ++ '@' :: r))
      (blank : ∀ c ∈ blanks, Text.isBlank c = true) (named : Named r u x) : Carries t u x true

theorem Carries.isWord {t u x : Text} {direct : Bool} (h : Carries t u x direct) : Text.IsWord u := by
  cases h with
  | toGroup _ named => exact named.word
  | toBot _ _ named => exact named.word

variable {line : Line} {t u x : Text} {direct : Bool}

/-- **A name and a message** are taken apart again. -/
theorem ofAddressed_of_named (h : Named t u x) (direct : Bool) : ofAddressed t direct = ofMessage u x direct := by
  obtain ⟨hu, rest, rfl, hrest, rfl⟩ := h
  have hempty : u.isEmpty = false := by simpa using hu.ne_nil
  cases rest with
  | nil =>
    rw [List.append_nil]
    simp only [ofAddressed, Text.cut_self hu.not_blank, hempty]
    rfl
  | cons c r =>
    simp only [ofAddressed, Text.cut_append hu.not_blank (hrest c rfl), hempty, Option.elim_some,
      Text.trim_cons_blank (hrest c rfl)]
    rfl

/-- What stands at the head of a text is its name if there is one. -/
theorem exists_named_of_ofAddressed (h : ofAddressed t direct = .ok line) :
    ∃ u x, Named t u x ∧ ofMessage u x direct = .ok line := by
  have hparts : t.takeWhile (!Text.isBlank ·) ++ t.dropWhile (!Text.isBlank ·) = t := List.takeWhile_append_dropWhile
  by_cases hempty : t.takeWhile (!Text.isBlank ·) = []
  · -- without a name the line is malformed
    have hmissing : ofAddressed t direct = .error .missingUsername := by
      simp only [ofAddressed, Text.cut_fst, hempty]
      rfl
    rw [hmissing] at h
    cases h
  · have hnamed : Named t (t.takeWhile (!Text.isBlank ·)) (Text.trim (t.dropWhile (!Text.isBlank ·))) :=
      ⟨⟨hempty, fun c hc => by simpa using List.mem_takeWhile_imp hc⟩, _, hparts.symm,
        fun c hc => by simpa using Text.head?_dropWhile c hc, rfl⟩
    exact ⟨_, _, hnamed, (ofAddressed_of_named hnamed direct).symm.trans h⟩

/-- **A line that carries a message is read as that message.** -/
theorem ofText_of_carries (h : Carries t u x direct) : ofText t = ofMessage u x direct := by
  cases h with
  | @toGroup r line named =>
    have hkeyword : keyword? ('@' :: r) = none := by simp [keyword?]
    have hdirect : Text.strip? "dm ".toList ('@' :: r) = none := rfl
    have hcomment : Text.startsWith ['#'] ('@' :: r) = false := rfl
    simp only [ofText, line, hkeyword, hdirect, hcomment]
    exact ofAddressed_of_named named false
  | @toBot blanks r line blank named =>
    have hkeyword : keyword? ("dm ".toList ++ (blanks ++ '@' :: r)) = none := by simp [keyword?]
    have hcomment : Text.startsWith ['#'] ("dm ".toList ++ (blanks ++ '@' :: r)) = false := rfl
    have hleft : Text.trimLeft (blanks ++ '@' :: r) = '@' :: r :=
      Text.dropWhile_append blank fun c hc => by cases hc; decide
    simp only [ofText, line, hkeyword, hcomment, Text.strip?_append, hleft]
    exact ofAddressed_of_named named true

/-! ## Lines as they are written -/

/-- The line for a message of the member `u`, to the group or to the bot alone. -/
def written (u x : Text) (direct : Bool) : Text := (if direct then "dm ".toList else []) ++ '@' :: (u ++ ' ' :: x)

theorem trim_written (hu : Text.IsWord u) (hx : Text.trim x = x) (direct : Bool) :
    Text.trim (written u x direct) =
      (if direct then "dm ".toList else []) ++ '@' :: (u ++ if x = [] then [] else ' ' :: x) := by
  have hne : (if direct then "dm ".toList else []) ++ '@' :: u ≠ [] := by simp
  have hfirst : ∀ c ∈ ((if direct then "dm ".toList else []) ++ '@' :: u).head?, Text.isBlank c = false := by
    cases direct <;> exact fun c hc => by cases hc; decide
  have hlast : ∀ c ∈ ((if direct then "dm ".toList else []) ++ '@' :: u).getLast?, Text.isBlank c = false := by
    rw [List.append_cons]
    exact hu.last_not_blank _
  have hwritten : written u x direct = ((if direct then "dm ".toList else []) ++ '@' :: u) ++ ' ' :: x := by
    simp [written]
  rw [hwritten]
  cases x with
  | nil =>
    rw [Text.trim_concat_blank hne hfirst hlast (by decide)]
    simp
  | cons c r =>
    rw [Text.trim_eq_self]
    · simp
    · rwa [List.head?_append_of_ne_nil _ hne]
    · rw [List.getLast?_append_of_ne_nil _ (List.cons_ne_nil _ _), List.getLast?_cons_cons]
      exact Text.last_of_trim_eq_self hx

/-- **A line carries the message it was written for.** -/
theorem carries_written (hu : Text.IsWord u) (hx : Text.trim x = x) (direct : Bool) :
    Carries (written u x direct) u x direct := by
  have hline := trim_written hu hx direct
  have hnamed : Named (u ++ if x = [] then [] else ' ' :: x) u x := by
    refine ⟨hu, _, rfl, ?_, ?_⟩
    · split
      · exact nofun
      · exact fun c hc => by cases hc; decide
    · split
      · next hempty => rw [hempty]; rfl
      · rw [Text.trim_cons_blank (by decide), hx]
  cases direct with
  | false => exact .toGroup hline hnamed
  | true => exact @Carries.toBot _ _ _ [] _ hline (List.forall_mem_nil _) hnamed

/-! ## What a message says -/

/-- The start of a message that shares a location. -/
def shareWord : Text := "/loc".toList

theorem ofMessage_of_not_location (h : ¬ shareWord <+: x) (u : Text) (direct : Bool) :
    ofMessage u x direct = .ok (.say u x direct) := by
  rw [ofMessage, ← shareWord, Text.strip?_eq_none_iff.2 h]

theorem ofMessage_shareWord (u given : Text) (direct : Bool) :
    ofMessage u (shareWord ++ given) direct =
      if direct then .error .directLocation
      else (location? given).elim (.error (.location (Text.trim given))) fun l => .ok (.share u l) := by
  have hstrip : Text.strip? "/loc".toList (shareWord ++ given) = some given := Text.strip?_append ..
  simp only [ofMessage, hstrip]
  cases direct <;> cases location? given <;> rfl

/-- **A message is posted as it stands unless it starts as one that shares a location.** -/
theorem ofMessage_eq_say_iff : ofMessage u x direct = .ok (.say u x direct) ↔ ¬ shareWord <+: x := by
  refine ⟨?_, fun h => ofMessage_of_not_location h u direct⟩
  rintro h ⟨given, rfl⟩
  rw [ofMessage_shareWord] at h
  cases direct with
  | true => cases h
  | false => cases hl : location? given <;> rw [hl] at h <;> cases h

/-- A location is shared by numbers right after the start of the message, and with the group only. -/
theorem ofMessage_eq_share_iff {v : Text} {l : Location} :
    ofMessage u x direct = .ok (.share v l) ↔
      v = u ∧ direct = false ∧ ∃ given, x = shareWord ++ given ∧ location? given = some l := by
  constructor
  · intro h
    by_cases hx : shareWord <+: x
    · obtain ⟨given, rfl⟩ := hx
      rw [ofMessage_shareWord] at h
      cases direct with
      | true => cases h
      | false =>
        cases hl : location? given with
        | none => rw [hl] at h; cases h
        | some l' => rw [hl] at h; cases h; exact ⟨rfl, rfl, given, rfl, hl⟩
    · rw [ofMessage_of_not_location hx] at h
      cases h
  · rintro ⟨rfl, rfl, given, rfl, hl⟩
    rw [ofMessage_shareWord, hl]
    rfl

/-! ## The name -/

/-- Whoever a line is from. -/
def name? : Line → Option Text
  | .say username _ _ | .share username _ => some username
  | .dump | .quit | .blank => none

theorem name?_of_keyword? (h : keyword? t = some line) : line.name? = none := by
  simp only [keyword?] at h
  repeat' split at h
  all_goals cases h <;> rfl

theorem name?_of_ofMessage (h : ofMessage u x direct = .ok line) :
    line.name? = some u := by
  simp only [ofMessage] at h
  repeat' split at h
  all_goals cases h <;> rfl

/-- **A line that can be read either is from nobody or carries a message.** -/
theorem ofText_cases (h : ofText t = .ok line) :
    line.name? = none ∨ ∃ u x direct, Carries t u x direct ∧ ofMessage u x direct = .ok line := by
  simp only [ofText] at h
  split at h
  · cases h; exact .inl rfl
  · split at h
    · next hkeyword => cases h; exact .inl (name?_of_keyword? hkeyword)
    · cases hstrip : Text.strip? "dm ".toList (Text.trim t) with
      | none =>
        rw [hstrip] at h
        dsimp only at h
        split at h
        · next r hline =>
          obtain ⟨u, x, named, hmessage⟩ := exists_named_of_ofAddressed h
          exact .inr ⟨u, x, false, .toGroup hline named, hmessage⟩
        · cases h
      | some rest =>
        rw [hstrip] at h
        dsimp only at h
        split at h
        · next r hline =>
          obtain ⟨u, x, named, hmessage⟩ := exists_named_of_ofAddressed h
          have hblanks : rest = rest.takeWhile Text.isBlank ++ '@' :: r := by
            rw [← hline]
            exact List.takeWhile_append_dropWhile.symm
          have hline' : Text.trim t = "dm ".toList ++ (rest.takeWhile Text.isBlank ++ '@' :: r) :=
            hblanks ▸ Text.eq_append_of_strip? hstrip
          exact .inr ⟨u, x, true, .toBot hline' (fun c hc => List.mem_takeWhile_imp hc) named, hmessage⟩
        · cases h

/-- **The name at the head of a line is a word**, whatever the line is. -/
theorem isWord_of_ofText (h : ofText t = .ok line) : ∀ u ∈ line.name?, Text.IsWord u := by
  intro u hu
  rcases ofText_cases h with hnone | ⟨u', x, direct, hcarries, hmessage⟩
  · rw [hnone] at hu; cases hu
  · rw [name?_of_ofMessage hmessage] at hu
    obtain rfl := Option.some.inj hu
    exact hcarries.isWord

end ChatProfiles.Line
