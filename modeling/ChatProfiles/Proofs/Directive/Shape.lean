import ChatProfiles.Directive.Token
import ChatProfiles.Proofs.Text.Span
/-!
# How a word splits

A word with the shape of a range is digits, perhaps a comma, digits and a unit.  Units may start with digits, so one
word can split in many ways; `Greedy` says which one is meant, as a choice among all of them, and without looking at
how a word is read.  The reader finds that split (`ofToken?_eq_some_iff`) and fails only where there is none
(`ofToken?_eq_none_iff`).
-/
namespace ChatProfiles.RangeShape

/-- The word with these parts. -/
def text (s : RangeShape) : Text := s.min ++ ((if s.comma then [','] else []) ++ (s.max ++ s.unit))

structure Splits (t : Text) (s : RangeShape) : Prop where
  text_eq : s.text = t
  min_digits : ∀ c ∈ s.min, c.isDigit = true
  max_digits : ∀ c ∈ s.max, c.isDigit = true
  unit_chars : ∀ c ∈ s.unit, isUnitChar c = true
  unit_ne_nil : s.unit ≠ []

/-- The split with the longest lower bound; of those the one with a comma, if there is one; of those the one with the
longest upper bound. -/
structure Greedy (t : Text) (s : RangeShape) : Prop extends Splits t s where
  min_longest : ∀ s', Splits t s' → s'.min.length ≤ s.min.length
  comma_first : ∀ s', Splits t s' → s'.min.length = s.min.length → s'.comma = true → s.comma = true
  max_longest : ∀ s', Splits t s' → s'.min.length = s.min.length → s'.comma = s.comma →
    s'.max.length ≤ s.max.length

/-- No two splits are both the greedy one. -/
theorem Greedy.eq {t : Text} {a b : RangeShape} (ha : Greedy t a) (hb : Greedy t b) : a = b := by
  have hmin : a.min.length = b.min.length :=
    Nat.le_antisymm (hb.min_longest a ha.toSplits) (ha.min_longest b hb.toSplits)
  have hcomma : a.comma = b.comma := by
    rw [Bool.eq_iff_iff]
    exact ⟨hb.comma_first a ha.toSplits hmin, ha.comma_first b hb.toSplits hmin.symm⟩
  have hmax : a.max.length = b.max.length :=
    Nat.le_antisymm (hb.max_longest a ha.toSplits hmin hcomma) (ha.max_longest b hb.toSplits hmin.symm hcomma.symm)
  have htext : a.text = b.text := ha.text_eq.trans hb.text_eq.symm
  obtain ⟨amin, acomma, amax, aunit⟩ := a
  obtain ⟨bmin, bcomma, bmax, bunit⟩ := b
  obtain rfl : acomma = bcomma := hcomma
  simp only [text] at htext
  obtain ⟨rfl, htext⟩ := List.append_inj htext hmin
  obtain ⟨rfl, rfl⟩ := List.append_inj (List.append_cancel_left htext) hmax
  rfl

theorem isUnitChar_of_isDigit {c : Char} (h : c.isDigit = true) : isUnitChar c = true := by
  simp [isUnitChar, Char.isAlphanum, h]

/-! ## A number and a unit -/

/-- The text is digits, perhaps none, and a unit. -/
structure NumberUnit (t digits unit : Text) : Prop where
  text_eq : digits ++ unit = t
  digits : ∀ c ∈ digits, c.isDigit = true
  unit_chars : ∀ c ∈ unit, isUnitChar c = true
  unit_ne_nil : unit ≠ []

/-- Nothing but digits and a unit has a comma in it. -/
theorem NumberUnit.comma_not_mem {t digits unit : Text} (h : NumberUnit t digits unit) : ',' ∉ t := by
  intro hmem
  rw [← h.text_eq] at hmem
  have hc : isUnitChar ',' = true := (List.mem_append.1 hmem).elim
    (fun hd => isUnitChar_of_isDigit (h.digits _ hd)) (fun hu => h.unit_chars _ hu)
  exact absurd hc (by decide)

/-- The digits taken are the most that leave a unit. -/
theorem numberAndUnit?_some {t digits unit : Text} (h : numberAndUnit? t = some (digits, unit)) :
    NumberUnit t digits unit ∧ ∀ d u, NumberUnit t d u → d.length ≤ digits.length := by
  have hspan : t.takeWhile Char.isDigit ++ t.dropWhile Char.isDigit = t := List.takeWhile_append_dropWhile
  have hdigits : ∀ c ∈ t.takeWhile Char.isDigit, c.isDigit = true := fun c hc => List.mem_takeWhile_imp hc
  unfold numberAndUnit? at h
  cases hrest : t.dropWhile Char.isDigit with
  | nil =>
    -- all digits: the last one is the unit
    rw [hrest, List.append_nil] at hspan
    rw [hrest, hspan] at h
    obtain ⟨last, hlast, heq⟩ := Option.map_eq_some_iff.1 h
    obtain ⟨rfl, rfl⟩ := Prod.mk.inj heq
    obtain ⟨ys, rfl⟩ := List.getLast?_eq_some_iff.1 hlast
    rw [hspan] at hdigits
    rw [List.dropLast_concat]
    refine ⟨⟨rfl, fun c hc => hdigits c (List.mem_append_left _ hc), fun c hc => ?_, by simp⟩, fun d u hdu => ?_⟩
    · exact isUnitChar_of_isDigit (hdigits c (List.mem_append_right _ hc))
    · have hlen := congrArg List.length hdu.text_eq
      have hu := List.length_pos_iff.2 hdu.unit_ne_nil
      simp only [List.length_append, List.length_singleton] at hlen
      omega
  | cons c r =>
    rw [hrest] at h hspan
    dsimp only at h
    split at h
    · next hall =>
      obtain ⟨rfl, rfl⟩ := Prod.mk.inj (Option.some.inj h)
      refine ⟨⟨hspan, hdigits, List.all_eq_true.1 hall, by simp⟩, fun d u hdu => ?_⟩
      rw [← hdu.text_eq]
      exact Text.length_le_takeWhile hdu.digits
    · cases h

theorem numberAndUnit?_none {t : Text} (h : numberAndUnit? t = none) (digits unit : Text) :
    ¬ NumberUnit t digits unit := by
  intro hdu
  have hdrop : t.dropWhile Char.isDigit = unit.dropWhile Char.isDigit := by
    rw [← hdu.text_eq, List.dropWhile_append_of_pos hdu.digits]
  unfold numberAndUnit? at h
  cases hrest : t.dropWhile Char.isDigit with
  | nil =>
    have hspan : t.takeWhile Char.isDigit ++ t.dropWhile Char.isDigit = t := List.takeWhile_append_dropWhile
    rw [hrest, List.append_nil] at hspan
    rw [hrest, hspan, Option.map_eq_none_iff, List.getLast?_eq_none_iff, ← hdu.text_eq] at h
    exact hdu.unit_ne_nil (List.append_eq_nil_iff.1 h).2
  | cons c r =>
    rw [hrest] at h
    dsimp only at h
    split at h
    · cases h
    · next hall =>
      -- what follows the digits belongs to the unit
      refine hall (List.all_eq_true.2 fun x hx => hdu.unit_chars x ?_)
      rw [← hrest, hdrop] at hx
      exact (List.dropWhile_suffix _).subset hx

/-! ## The whole shape -/

/-- A comma ends the digits before it. -/
theorem comma_not_digit (r : Text) : ∀ c ∈ (',' :: r).head?, c.isDigit = false := fun c hc => by
  obtain rfl := Option.some.inj hc
  decide

theorem Splits.of_comma {t r : Text} (h : t.dropWhile Char.isDigit = ',' :: r) {s : RangeShape} (hs : Splits t s) :
    s.min = t.takeWhile Char.isDigit ∧ s.comma = true ∧ NumberUnit r s.max s.unit := by
  obtain ⟨min, comma, max, unit⟩ := s
  obtain ⟨htext, hmin, hmax, hunit, hne⟩ := hs
  dsimp only at hmin hmax hunit hne ⊢
  cases comma with
  | false =>
    have hnu : NumberUnit t (min ++ max) unit := by
      refine ⟨by rw [List.append_assoc]; exact htext, fun c hc => ?_, hunit, hne⟩
      exact (List.mem_append.1 hc).elim (hmin c) (hmax c)
    exact absurd ((List.dropWhile_suffix Char.isDigit).subset (h ▸ List.mem_cons_self)) hnu.comma_not_mem
  | true =>
    have ht : t = min ++ (',' :: (max ++ unit)) := htext.symm
    rw [ht, Text.dropWhile_append hmin (comma_not_digit _)] at h
    refine ⟨?_, rfl, (List.cons.inj h).2, hmax, hunit, hne⟩
    rw [ht, Text.takeWhile_append hmin (comma_not_digit _)]

theorem Splits.of_not_comma {t : Text} (h : ∀ r, t.dropWhile Char.isDigit ≠ ',' :: r) {s : RangeShape}
    (hs : Splits t s) : s.comma = false ∧ NumberUnit t (s.min ++ s.max) s.unit := by
  obtain ⟨min, comma, max, unit⟩ := s
  obtain ⟨htext, hmin, hmax, hunit, hne⟩ := hs
  dsimp only at hmin hmax hunit hne ⊢
  cases comma with
  | false =>
    refine ⟨rfl, by rw [List.append_assoc]; exact htext, fun c hc => ?_, hunit, hne⟩
    exact (List.mem_append.1 hc).elim (hmin c) (hmax c)
  | true =>
    have ht : t = min ++ (',' :: (max ++ unit)) := htext.symm
    refine absurd ?_ (h (max ++ unit))
    rw [ht]
    exact Text.dropWhile_append hmin (comma_not_digit _)

/-- A word read as a range was split greedily. -/
theorem greedy_of_ofToken? {t : Text} {s : RangeShape} (h : ofToken? t = some s) : Greedy t s := by
  have hspan : t.takeWhile Char.isDigit ++ t.dropWhile Char.isDigit = t := List.takeWhile_append_dropWhile
  unfold ofToken? at h
  split at h
  · next r hr =>
    obtain ⟨⟨max, unit⟩, hnu, rfl⟩ := Option.map_eq_some_iff.1 h
    obtain ⟨hnu, hlongest⟩ := numberAndUnit?_some hnu
    rw [hr, ← hnu.text_eq] at hspan
    refine ⟨⟨hspan, fun c hc => List.mem_takeWhile_imp hc, hnu.digits, hnu.unit_chars, hnu.unit_ne_nil⟩, ?_, ?_, ?_⟩
    · intro s' hs'
      rw [(hs'.of_comma hr).1]
    · exact fun _ _ _ _ => rfl
    · exact fun s' hs' _ _ => hlongest s'.max s'.unit (hs'.of_comma hr).2.2
  · next hr =>
    obtain ⟨⟨min, unit⟩, hnu, rfl⟩ := Option.map_eq_some_iff.1 h
    obtain ⟨hnu, hlongest⟩ := numberAndUnit?_some hnu
    have hle : ∀ s', Splits t s' → s'.min.length + s'.max.length ≤ min.length := fun s' hs' => by
      have := hlongest _ _ (hs'.of_not_comma hr).2
      rwa [List.length_append] at this
    refine ⟨⟨hnu.text_eq, hnu.digits, fun c hc => (nomatch hc), hnu.unit_chars, hnu.unit_ne_nil⟩, ?_, ?_, ?_⟩
    · intro s' hs'
      have := hle s' hs'
      dsimp only; omega
    · intro s' hs' _ hcomma
      rw [(hs'.of_not_comma hr).1] at hcomma
      cases hcomma
    · intro s' hs' hlen _
      have := hle s' hs'
      dsimp only at hlen ⊢; omega

/-- **A word that is not read as a range does not split at all.** -/
theorem ofToken?_eq_none_iff {t : Text} : ofToken? t = none ↔ ∀ s, ¬ Splits t s := by
  constructor
  · intro h s hs
    unfold ofToken? at h
    split at h
    · next r hr => exact numberAndUnit?_none (Option.map_eq_none_iff.1 h) _ _ (hs.of_comma hr).2.2
    · next hr => exact numberAndUnit?_none (Option.map_eq_none_iff.1 h) _ _ (hs.of_not_comma hr).2
  · intro h
    cases hs : ofToken? t with
    | none => rfl
    | some s => exact absurd (greedy_of_ofToken? hs).toSplits (h s)

/-- **A word is read as a range by its greedy split.** -/
theorem ofToken?_eq_some_iff {t : Text} {s : RangeShape} : ofToken? t = some s ↔ Greedy t s := by
  refine ⟨greedy_of_ofToken?, fun h => ?_⟩
  cases hs : ofToken? t with
  | none => exact absurd h.toSplits (ofToken?_eq_none_iff.1 hs s)
  | some s' => rw [(greedy_of_ofToken? hs).eq h]

/-- With digits only, the last one is left for the unit. -/
example : ofToken? "18,29".toList = some ⟨"18".toList, true, "2".toList, "9".toList⟩ := by decide

end ChatProfiles.RangeShape
