import ChatProfiles.Proofs.Text.Lowercase
import ChatProfiles.Proofs.Text.Span
import ChatProfiles.Text.Blank
import Mathlib.Data.List.Basic
/-!
# The words of a text

A word is not empty and has no blank in it (`mem_words`), so a word is never blank and trimming leaves it as it is
(`IsWord.isBlankOnly_eq_false`).  Put together with blanks between them, words are taken apart again (`words_append`),
whichever blanks these are and however many (`Respaced.words_eq`).  What a text starts with is another matter: it is the
first word only if a blank follows or nothing does (`head?_words_append_iff`).
-/
namespace ChatProfiles.Text

/-- A text with characters, none of them blank. -/
structure IsWord (w : Text) : Prop where
  ne_nil : w ≠ []
  not_blank : ∀ c ∈ w, isBlank c = false

theorem isWord_iff {w : Text} : IsWord w ↔ (!w.isEmpty && w.all (!isBlank ·)) = true := by
  simp only [Bool.and_eq_true, Bool.not_eq_true', List.isEmpty_eq_false_iff, List.all_eq_true]
  exact ⟨fun h => ⟨h.ne_nil, h.not_blank⟩, fun h => ⟨h.1, h.2⟩⟩

instance (w : Text) : Decidable (IsWord w) := decidable_of_iff _ isWord_iff.symm

/-- No piece of a text has a separator in it. -/
theorem sep_false_of_mem_pieces {sep : Char → Bool} : ∀ {t w : Text}, w ∈ pieces sep t → ∀ c ∈ w, sep c = false
  | [], w, h => by
    simp only [pieces, List.mem_singleton] at h
    subst h
    exact fun c hc => nomatch hc
  | a :: r, w, h => by
    unfold pieces at h
    by_cases ha : sep a = true
    · rw [if_pos ha] at h
      rcases List.mem_cons.1 h with rfl | h
      · exact fun c hc => nomatch hc
      · exact sep_false_of_mem_pieces h
    · have ha : sep a = false := by simpa using ha
      rw [if_neg (by simp [ha])] at h
      -- the first piece of the rest gets `a` in front, the others are pieces of the rest
      cases hp : pieces sep r with
      | nil =>
        rw [hp] at h
        have hw : w = [a] := by simpa using h
        intro c hc
        rw [hw, List.mem_singleton] at hc
        rw [hc, ha]
      | cons v vs =>
        rw [hp] at h
        rcases List.mem_cons.1 h with rfl | h
        · intro c hc
          rcases List.mem_cons.1 hc with rfl | hc
          · exact ha
          · exact sep_false_of_mem_pieces (hp ▸ List.mem_cons_self) c hc
        · exact sep_false_of_mem_pieces (hp ▸ List.mem_cons_of_mem _ h)

theorem mem_words {t w : Text} (h : w ∈ words t) : IsWord w := by
  obtain ⟨hw, hne⟩ := List.mem_filter.1 h
  exact ⟨by simpa using hne, sep_false_of_mem_pieces hw⟩

/-! ## Trimming -/

theorem dropWhile_isBlank {t : Text} (h : ∀ c ∈ t.head?, isBlank c = false) : t.dropWhile isBlank = t := by
  cases t with
  | nil => rfl
  | cons c r => rw [List.dropWhile_cons_of_neg (by simp [h c rfl])]

/-- A text that neither starts nor ends with a blank is trimmed already. -/
theorem trim_eq_self {t : Text} (hfirst : ∀ c ∈ t.head?, isBlank c = false)
    (hlast : ∀ c ∈ t.getLast?, isBlank c = false) : trim t = t := by
  have hr : ∀ c ∈ t.reverse.head?, isBlank c = false := List.head?_reverse ▸ hlast
  rw [trim, trimLeft, trimRight, dropWhile_isBlank hfirst, dropWhile_isBlank hr, List.reverse_reverse]

/-- A trimmed text does not end with a blank. -/
theorem last_of_trim_eq_self {t : Text} (h : trim t = t) : ∀ c ∈ t.getLast?, isBlank c = false := by
  intro c hc
  rw [← h, trim, trimRight, List.getLast?_reverse] at hc
  exact head?_dropWhile c hc

theorem trim_cons_blank {c : Char} (hc : isBlank c = true) (t : Text) : trim (c :: t) = trim t := by
  rw [trim, trim, trimLeft, trimLeft, List.dropWhile_cons_of_pos hc]

theorem trim_concat_blank {t : Text} (hne : t ≠ []) (hfirst : ∀ c ∈ t.head?, isBlank c = false)
    (hlast : ∀ c ∈ t.getLast?, isBlank c = false) {c : Char} (hc : isBlank c = true) : trim (t ++ [c]) = t := by
  have hfirst' : ∀ c' ∈ (t ++ [c]).head?, isBlank c' = false := by rwa [List.head?_append_of_ne_nil t hne]
  have hlast' : ∀ c' ∈ t.reverse.head?, isBlank c' = false := List.head?_reverse ▸ hlast
  rw [trim, trimLeft, trimRight, dropWhile_isBlank hfirst', List.reverse_concat, List.dropWhile_cons_of_pos hc,
    dropWhile_isBlank hlast', List.reverse_reverse]

theorem IsWord.isBlankOnly_eq_false {w : Text} (h : IsWord w) : isBlankOnly w = false := by
  rw [isBlankOnly, trim_eq_self (fun c hc => h.not_blank c (List.mem_of_mem_head? hc))
    fun c hc => h.not_blank c (List.mem_of_mem_getLast? hc)]
  simpa using h.ne_nil

/-- A text that ends with a word does not end with a blank. -/
theorem IsWord.last_not_blank {w : Text} (h : IsWord w) (t : Text) : ∀ c ∈ (t ++ w).getLast?, isBlank c = false := by
  intro c hc
  rw [List.getLast?_append_of_ne_nil _ h.ne_nil] at hc
  exact h.not_blank c (List.mem_of_mem_getLast? hc)

/-! ## Words put together -/

variable {sep : Char → Bool} {a : Text}

theorem pieces_self (h : ∀ c ∈ a, sep c = false) : pieces sep a = [a] := by
  induction a with
  | nil => rfl
  | cons c r ih =>
    obtain ⟨hc, hr⟩ := List.forall_mem_cons.1 h
    rw [pieces, if_neg (by simp [hc]), ih hr]

theorem pieces_ne_nil (sep : Char → Bool) (t : Text) : pieces sep t ≠ [] := by
  cases t with
  | nil => exact List.cons_ne_nil _ _
  | cons c r =>
    unfold pieces
    split
    · exact List.cons_ne_nil _ _
    · split <;> exact List.cons_ne_nil _ _

/-- At a separator the pieces before it end and those after it begin. -/
theorem pieces_append (a : Text) {c : Char} (hc : sep c = true) (b : Text) :
    pieces sep (a ++ c :: b) = pieces sep a ++ pieces sep b := by
  induction a with
  | nil =>
    rw [List.nil_append]
    exact if_pos hc
  | cons x r ih =>
    obtain ⟨w, ws, hr⟩ := List.exists_cons_of_ne_nil (pieces_ne_nil sep r)
    rw [hr] at ih
    simp only [List.cons_append, pieces, ih, hr]
    split <;> rfl

theorem words_self (h : IsWord a) : words a = [a] := by
  rw [words, pieces_self h.not_blank]
  exact List.filter_cons_of_pos (by simpa using h.ne_nil)

theorem words_append_blank (a : Text) {c : Char} (hc : isBlank c = true) (b : Text) :
    words (a ++ c :: b) = words a ++ words b := by
  rw [words, pieces_append a hc, List.filter_append, words, words]

/-- A word and a blank in front of a text make it one word more. -/
theorem words_append (h : IsWord a) {c : Char} (hc : isBlank c = true) (b : Text) :
    words (a ++ c :: b) = a :: words b := by
  rw [words_append_blank a hc, words_self h]
  rfl

theorem words_append_of_head (h : IsWord a) {t : Text} (ht : ∀ c ∈ t.head?, isBlank c = true) :
    words (a ++ t) = a :: words t := by
  cases t with
  | nil => rw [List.append_nil, words_self h]; rfl
  | cons c r =>
    have hblank : words (c :: r) = words r := words_append_blank [] (ht c rfl) r
    rw [words_append h (ht c rfl), hblank]

/-- The first word of a text goes up to the first blank. -/
theorem head?_words (h : IsWord a) {t : Text} (ht : ∀ c ∈ t.head?, isBlank c = true) :
    (words (a ++ t)).head? = some a := by
  rw [words_append_of_head h ht, List.head?_cons]

/-- A word at the start of a text is its first word exactly if no character goes on with it. -/
theorem head?_words_append_iff (h : IsWord a) {t : Text} :
    (words (a ++ t)).head? = some a ↔ ∀ c ∈ t.head?, isBlank c = true := by
  refine ⟨fun hfirst c hc => ?_, head?_words h⟩
  by_contra hblank
  -- the first word is longer then: it takes `c` and all that follows without a blank
  obtain ⟨r, rfl⟩ := List.head?_eq_some_iff.1 hc
  have hword : IsWord (a ++ c :: r.takeWhile (!isBlank ·)) := by
    refine ⟨by simp, List.forall_mem_append.2 ⟨h.not_blank, List.forall_mem_cons.2 ⟨by simpa using hblank, ?_⟩⟩⟩
    exact fun d hd => by simpa using List.mem_takeWhile_imp hd
  have hlonger := head?_words hword (t := r.dropWhile (!isBlank ·)) fun d hd => by simpa using head?_dropWhile d hd
  rw [List.append_assoc, List.cons_append, List.takeWhile_append_dropWhile, hfirst, Option.some.injEq,
    List.self_eq_append_right] at hlonger
  cases hlonger

/-! ## Blanks between words -/

theorem words_blanks_append {gap : Text} (h : ∀ c ∈ gap, isBlank c = true) (t : Text) : words (gap ++ t) = words t := by
  induction gap with
  | nil => rfl
  | cons c r ih =>
    obtain ⟨hc, hr⟩ := List.forall_mem_cons.1 h
    exact (words_append_blank [] hc (r ++ t)).trans (ih hr)

/-- The words on either side of a run of blanks stay apart. -/
theorem words_append_gap {gap : Text} (hne : gap ≠ []) (h : ∀ c ∈ gap, isBlank c = true) (a b : Text) :
    words (a ++ (gap ++ b)) = words a ++ words b := by
  obtain ⟨c, r, rfl⟩ := List.exists_cons_of_ne_nil hne
  obtain ⟨hc, hr⟩ := List.forall_mem_cons.1 h
  rw [List.cons_append, words_append_blank a hc, words_blanks_append hr]

theorem words_append_blanks {gap : Text} (h : ∀ c ∈ gap, isBlank c = true) (t : Text) : words (t ++ gap) = words t := by
  by_cases hne : gap = []
  · rw [hne, List.append_nil]
  · have hgap : words (t ++ (gap ++ [])) = words t ++ [] := words_append_gap hne h t []
    rwa [List.append_nil, List.append_nil] at hgap

/-- The texts differ in their blanks only, and where one has some so has the other. -/
inductive Respaced : Text → Text → Prop
  | nil : Respaced [] []
  | keep {a b : Text} (c : Char) (rest : Respaced a b) : Respaced (c :: a) (c :: b)
  | run {gap gap' a b : Text} (nonempty : gap ≠ []) (nonempty' : gap' ≠ []) (blank : ∀ c ∈ gap, isBlank c = true)
      (blank' : ∀ c ∈ gap', isBlank c = true) (rest : Respaced a b) : Respaced (gap ++ a) (gap' ++ b)

/-- A run of blanks ends a word, whichever text stands before it; so what is kept goes to that text. -/
theorem Respaced.words_append {a b : Text} (h : Respaced a b) (t : Text) : words (t ++ a) = words (t ++ b) := by
  induction h generalizing t with
  | nil => rfl
  | @keep a b c _ ih =>
    rw [List.append_cons t c a, List.append_cons t c b]
    exact ih (t ++ [c])
  | @run gap gap' a b nonempty nonempty' blank blank' _ ih =>
    rw [words_append_gap nonempty blank, words_append_gap nonempty' blank']
    exact congrArg (words t ++ ·) (ih [])

/-- **Which blanks stand between words, and how many, says nothing about the words.** -/
theorem Respaced.words_eq {a b : Text} (h : Respaced a b) : words a = words b := h.words_append []

/-! ## The case of words -/

theorem isBlank_toLower (c : Char) : isBlank c.toLower = isBlank c := congr_toLower (by decide +kernel) c

theorem not_blank_congr_case {a b : Text} (h : ∀ c ∈ a, isBlank c = false) (hcase : sameIgnoringCase a b = true) :
    ∀ c ∈ b, isBlank c = false := by
  intro c hc
  have hmem : c.toLower ∈ fold a := sameIgnoringCase_iff.1 hcase ▸ List.mem_map_of_mem hc
  obtain ⟨d, hd, heq⟩ := List.mem_map.1 hmem
  rw [← isBlank_toLower, ← heq, isBlank_toLower]
  exact h d hd

theorem IsWord.congr_case {w w' : Text} (h : IsWord w) (hcase : sameIgnoringCase w w' = true) : IsWord w' := by
  refine ⟨?_, not_blank_congr_case h.not_blank hcase⟩
  rintro rfl
  exact h.ne_nil (List.map_eq_nil_iff.1 (sameIgnoringCase_iff.1 hcase))

/-! ## What a text starts with -/

theorem eq_append_of_strip? {start t rest : Text} (h : strip? start t = some rest) : t = start ++ rest :=
  (List.isPrefixOf?_eq_some_iff_append_eq.1 h).symm

theorem strip?_append (start rest : Text) : strip? start (start ++ rest) = some rest :=
  List.isPrefixOf?_eq_some_iff_append_eq.2 rfl

theorem strip?_eq_none_iff {start t : Text} : strip? start t = none ↔ ¬ start <+: t := by
  constructor
  · rintro h ⟨rest, rfl⟩
    rw [strip?_append] at h
    cases h
  · intro h
    cases hs : strip? start t with
    | none => rfl
    | some rest => exact absurd ⟨rest, (eq_append_of_strip? hs).symm⟩ h

end ChatProfiles.Text
