import ChatProfiles.Proofs.Decimal.Whole
import ChatProfiles.Proofs.Directive.Rules
/-!
# Reading what is written

A directive is written as a word that asks for it.  `Possible` lists the directives that a word can ask for: what a
word is read as is one of them (`possible_of_asks`), and each of them is read back from what it is written as
(`ofToken_write`).  So writing forgets nothing that reading has found.
-/
namespace ChatProfiles

/-! ## Units that end a number -/

namespace RangeShape

/-- The unit starts with a letter, so that the digits before it are none of it. -/
structure Lettered (unit : Text) : Prop where
  chars : ∀ c ∈ unit, isUnitChar c = true
  head : ∃ c ∈ unit.head?, c.isDigit = false

theorem lettered_distanceUnit : Lettered distanceUnit :=
  ⟨List.all_eq_true.1 (by decide), _, rfl, by decide⟩

theorem lettered_unit (kind : AttributeKind) : Lettered kind.unit := by
  cases kind <;> exact ⟨List.all_eq_true.1 (by decide), _, rfl, by decide⟩

theorem Lettered.head_not_digit {unit : Text} (h : Lettered unit) : ∀ c ∈ unit.head?, c.isDigit = false := by
  obtain ⟨letter, hletter, hdigit⟩ := h.head
  exact fun c hc => Option.mem_unique hc hletter ▸ hdigit

theorem numberAndUnit?_append {digits unit : Text} (hdigits : ∀ c ∈ digits, c.isDigit = true) (h : Lettered unit) :
    numberAndUnit? (digits ++ unit) = some (digits, unit) := by
  obtain ⟨letter, hletter, -⟩ := h.head
  obtain ⟨r, rfl⟩ := List.head?_eq_some_iff.1 hletter
  unfold numberAndUnit?
  rw [Text.takeWhile_append hdigits h.head_not_digit, Text.dropWhile_append hdigits h.head_not_digit]
  exact if_pos (List.all_eq_true.2 h.chars)

/-- **A word with a unit of letters is read in the parts it was made of.** -/
theorem ofToken?_text {s : RangeShape} (hmin : ∀ c ∈ s.min, c.isDigit = true) (hmax : ∀ c ∈ s.max, c.isDigit = true)
    (hcomma : s.comma = false → s.max = []) (hunit : Lettered s.unit) : ofToken? s.text = some s := by
  obtain ⟨min, comma, max, unit⟩ := s
  dsimp only at hmin hmax hcomma hunit
  unfold ofToken?
  cases comma with
  | true =>
    have htext : (⟨min, true, max, unit⟩ : RangeShape).text = min ++ ',' :: (max ++ unit) := rfl
    rw [htext, Text.dropWhile_append hmin (comma_not_digit _), Text.takeWhile_append hmin (comma_not_digit _)]
    simp only [numberAndUnit?_append hmax hunit, Option.map_some]
  | false =>
    obtain rfl : max = [] := hcomma rfl
    have htext : (⟨min, false, [], unit⟩ : RangeShape).text = min ++ unit := rfl
    rw [htext, Text.dropWhile_append hmin hunit.head_not_digit]
    split
    · -- a comma is no letter
      exact absurd (hunit.chars ',' List.mem_cons_self) (by decide)
    · rw [numberAndUnit?_append hmin hunit, Option.map_some]

end RangeShape

/-! ## Ranges as words write them -/

namespace Range

/-- The bounds are words of 31 bits, and in order. -/
structure Writable (r : Range Int) : Prop where
  lower : ∀ a ∈ r.min, 0 ≤ a ∧ a ≤ 2147483647
  upper : ∀ b ∈ r.max, 0 ≤ b ∧ b ≤ 2147483647
  inOrder : ∀ a ∈ r.min, ∀ b ∈ r.max, a ≤ b

theorem writable_point {a : Int} (h : 0 ≤ a) (h' : a ≤ 2147483647) : (point a).Writable := by
  refine ⟨fun b hb => ?_, fun b hb => ?_, fun b hb c hc => ?_⟩
  · exact Option.some.inj hb ▸ ⟨h, h'⟩
  · exact Option.some.inj hb ▸ ⟨h, h'⟩
  · exact Option.some.inj hb ▸ Option.some.inj hc ▸ Int.le_refl a

theorem write_point (a : Int) : (point a).write = Decimal.ofInt a := by
  rw [write, point?_eq_some_iff.2 ⟨rfl, rfl⟩]
  rfl

theorem writable_bounds {s : RangeShape} (h : s.Fits) : s.bounds.Writable := by
  refine ⟨fun a ha => ?_, fun b hb => ?_, fun a ha b hb => ?_⟩
  · obtain ⟨n, hn, rfl⟩ := Option.map_eq_some_iff.1 ha
    exact ⟨Int.natCast_nonneg n, Int.ofNat_le.2 (h.lower n hn)⟩
  · obtain ⟨n, hn, rfl⟩ := Option.map_eq_some_iff.1 hb
    exact ⟨Int.natCast_nonneg n, Int.ofNat_le.2 (h.upper n hn)⟩
  · obtain ⟨m, hm, rfl⟩ := Option.map_eq_some_iff.1 ha
    obtain ⟨n, hn, rfl⟩ := Option.map_eq_some_iff.1 hb
    exact Int.ofNat_le.2 (h.inOrder m hm n hn)

/-- The parts of the word that asks for the range. -/
def shape (r : Range Int) (unit : Text) : RangeShape :=
  match r.point? with
  | some a => ⟨Decimal.ofInt a, false, [], unit⟩
  | none => ⟨r.min.elim [] Decimal.ofInt, true, r.max.elim [] Decimal.ofInt, unit⟩

theorem text_shape (r : Range Int) (unit : Text) : (r.shape unit).text = r.write ++ unit := by
  unfold shape write
  cases r.point? with
  | some a => rfl
  | none => simp [RangeShape.text, Bound.write]

theorem unit_shape (r : Range Int) (unit : Text) : (r.shape unit).unit = unit := by
  unfold shape
  cases r.point? <;> rfl

theorem isDigit_of_mem_ofInt {a : Int} (h : 0 ≤ a) : ∀ c ∈ Decimal.ofInt a, c.isDigit = true := by
  obtain ⟨n, rfl⟩ := Int.eq_ofNat_of_zero_le h
  exact fun c hc => Nat.isDigit_of_mem_toDigits (by decide) (by decide) hc

theorem isDigit_of_mem_bound {b : Option Int} (h : ∀ a ∈ b, 0 ≤ a ∧ a ≤ 2147483647) :
    ∀ c ∈ b.elim [] Decimal.ofInt, c.isDigit = true := by
  cases b with
  | none => exact fun c hc => nomatch hc
  | some a => exact isDigit_of_mem_ofInt (h a rfl).1

theorem number?_bound {b : Option Int} (h : ∀ a ∈ b, 0 ≤ a ∧ a ≤ 2147483647) :
    (RangeShape.number? (b.elim [] Decimal.ofInt)).map Int.ofNat = b := by
  cases b with
  | none => rfl
  | some a =>
    obtain ⟨n, rfl⟩ := Int.eq_ofNat_of_zero_le (h a rfl).1
    have hne : Decimal.ofNat n ≠ [] := Nat.toDigits_ne_nil
    change (RangeShape.number? (Decimal.ofNat n)).map Int.ofNat = _
    rw [RangeShape.number?, if_neg hne, Decimal.value_ofNat]
    rfl

variable {r : Range Int}

theorem ofToken?_write (h : r.Writable) {unit : Text} (hunit : RangeShape.Lettered unit) :
    RangeShape.ofToken? (r.write ++ unit) = some (r.shape unit) := by
  have hunit' : RangeShape.Lettered (r.shape unit).unit := (unit_shape r unit).symm ▸ hunit
  rw [← text_shape]
  unfold shape at hunit' ⊢
  cases hp : r.point? with
  | some a =>
    rw [hp] at hunit'
    have hmin := (point?_eq_some_iff.1 hp).1
    have hdigits := isDigit_of_mem_ofInt (h.lower a hmin).1
    exact RangeShape.ofToken?_text hdigits (fun c hc => nomatch hc) (fun _ => rfl) hunit'
  | none =>
    rw [hp] at hunit'
    exact RangeShape.ofToken?_text (isDigit_of_mem_bound h.lower) (isDigit_of_mem_bound h.upper) (nomatch ·) hunit'

/-- The word says the bounds of the range. -/
theorem bounds_shape (h : r.Writable) (unit : Text) : (r.shape unit).bounds = r := by
  have hlower := number?_bound h.lower
  have hupper := number?_bound h.upper
  unfold shape RangeShape.bounds RangeShape.upper? RangeShape.lower?
  cases hp : r.point? with
  | some a =>
    obtain ⟨hmin, hmax⟩ := point?_eq_some_iff.1 hp
    rw [hmin] at hlower
    obtain ⟨min, max⟩ := r
    obtain rfl : min = some a := hmin
    obtain rfl : max = some a := hmax
    exact congrArg (fun b => (⟨b, b⟩ : Range Int)) hlower
  | none =>
    dsimp only
    rw [if_pos rfl, hlower, hupper]

theorem lower?_shape (h : r.Writable) (unit : Text) : (r.shape unit).lower?.map Int.ofNat = r.min :=
  congrArg Range.min (bounds_shape h unit)

theorem upper?_shape (h : r.Writable) (unit : Text) : (r.shape unit).upper?.map Int.ofNat = r.max :=
  congrArg Range.max (bounds_shape h unit)

theorem fits_shape (h : r.Writable) (unit : Text) : (r.shape unit).Fits := by
  have hlower : ∀ n ∈ (r.shape unit).lower?, (n : Int) ∈ r.min := fun n hn => by
    rw [← lower?_shape h unit]
    exact Option.mem_map_of_mem Int.ofNat hn
  have hupper : ∀ n ∈ (r.shape unit).upper?, (n : Int) ∈ r.max := fun n hn => by
    rw [← upper?_shape h unit]
    exact Option.mem_map_of_mem Int.ofNat hn
  refine ⟨fun n hn => ?_, fun n hn => ?_, fun m hm n hn => ?_⟩
  · exact Int.ofNat_le.1 (h.lower _ (hlower n hn)).2
  · exact Int.ofNat_le.1 (h.upper _ (hupper n hn)).2
  · exact Int.ofNat_le.1 (h.inOrder _ (hlower m hm) _ (hupper n hn))

theorem point?_map_ofInt (h : r.Writable) : (r.map Float.ofInt).point? = r.point?.map Float.ofInt := by
  obtain ⟨min, max⟩ := r
  cases min with
  | none => rfl
  | some a =>
    cases max with
    | none => rfl
    | some b =>
      obtain ⟨ha, ha'⟩ := h.lower a rfl
      obtain ⟨hb, hb'⟩ := h.upper b rfl
      have hsame : Bound.same (Float.ofInt a) (Float.ofInt b) = Bound.same a b := by
        rw [Bool.eq_iff_iff]
        exact (Decimal.ofInt_beq_iff ha (by omega) hb (by omega)).trans decide_eq_true_iff.symm
      simp only [map, point?, Option.map_some, hsame]
      cases Bound.same a b <;> rfl

theorem elim_map_ofInt {b : Option Int} (h : ∀ a ∈ b, 0 ≤ a ∧ a ≤ 2147483647) :
    (b.map Float.ofInt).elim [] Bound.write = b.elim [] Bound.write := by
  cases b with
  | none => rfl
  | some a =>
    obtain ⟨ha, ha'⟩ := h a rfl
    exact Decimal.plain_ofInt ha (by omega)

/-- **A range of kilometres is written as the whole numbers it came from.** -/
theorem write_map_ofInt (h : r.Writable) : (r.map Float.ofInt).write = r.write := by
  rw [write, write, point?_map_ofInt h]
  cases hp : r.point? with
  | some a => exact elim_map_ofInt (b := some a) fun b hb => h.lower b ((point?_eq_some_iff.1 hp).1.trans hb)
  | none =>
    have hlower := elim_map_ofInt h.lower
    have hupper := elim_map_ofInt h.upper
    simp only [Option.map_none, map, hlower, hupper]

end Range

/-! ## Tags as words write them -/

theorem tagWord_write (tag : Tag) {sign : Text} (h : sign ∈ [[], ['+'], ['-']]) :
    TagWord (sign ++ tag.write) sign tag := by
  refine ⟨h, [], ?_, (fun c hc => nomatch hc), List.not_mem_nil⟩
  rw [List.append_nil]
  rfl

/-! ## What a word can ask for -/

namespace Directive

/-- The directives that words ask for. -/
inductive Possible (purpose : Purpose) : Directive → Prop where
  | inclusion (tag : Tag) : Possible purpose (.includeTag tag)
  | exclusion (tag : Tag) : Possible purpose (.excludeTag tag)
  | within (kind : AttributeKind) {r : Range Int} (writable : r.Writable)
      (noPoint : purpose = .edit → ∀ a, r.min = some a → r.max ≠ some a) : Possible purpose (.attributeWithin kind r)
  | distance {r : Range Int} (writable : r.Writable) : Possible purpose (.distanceWithin (r.map Float.ofInt))
  | assignment (kind : AttributeKind) {value : Int} (edit : purpose = .edit) (lower : 0 ≤ value)
      (upper : value ≤ 2147483647) : Possible purpose (.setAttribute kind value)
  | marker (m : Marker) (edit : purpose = .edit) : Possible purpose (.setMarker m)
  | unrecognized {t : Text} (read : ofToken purpose t = .unrecognized t) : Possible purpose (.unrecognized t)

variable {purpose : Purpose} {d : Directive}

/-- What a word asks for is possible. -/
theorem possible_of_asks {t : Text} (h : Asks purpose t d) : Possible purpose d := by
  have hread := ofToken_of_asks h
  cases h with
  | unfit => exact .unrecognized hread
  | noUnit => exact .unrecognized hread
  | distance _ fits => exact .distance (Range.writable_bounds fits)
  | @assignment s kind n _ fits _ edit lower =>
    exact .assignment kind edit (Int.natCast_nonneg n) (Int.ofNat_le.2 (fits.lower n lower))
  | @within s kind _ fits _ noPoint =>
    refine .within kind (Range.writable_bounds fits) fun edit a hmin hmax => ?_
    obtain ⟨n, hn, rfl⟩ := Option.map_eq_some_iff.1 hmin
    obtain ⟨hlower, hupper⟩ := RangeShape.bounds_point?_eq_some_iff.1 (Range.point?_eq_some_iff.2 ⟨hmin, hmax⟩)
    exact noPoint edit n hlower hupper
  | exclusion => exact .exclusion _
  | inclusion => exact .inclusion _
  | marker _ _ edit => exact .marker _ edit
  | nothing => exact .unrecognized hread

/-- A range that is written with a unit is split as it was put together. -/
theorem greedy_write {r : Range Int} (h : r.Writable) {unit : Text} (hunit : RangeShape.Lettered unit) :
    (r.shape unit).Greedy (r.write ++ unit) := RangeShape.ofToken?_eq_some_iff.1 (Range.ofToken?_write h hunit)

/-- **A directive that a word can ask for is what its own word asks for.** -/
theorem ofToken_write (h : Possible purpose d) : ofToken purpose d.write = d := by
  cases h with
  | inclusion tag =>
    have hword : TagWord ([] ++ tag.write) [] tag := tagWord_write tag List.mem_cons_self
    exact ofToken_of_asks (.inclusion (not_splits_of_hash List.mem_cons_self) hword (by simp))
  | exclusion tag =>
    have hword : TagWord (['-'] ++ tag.write) ['-'] tag := tagWord_write tag (by simp)
    exact ofToken_of_asks (.exclusion (not_splits_of_hash (List.mem_cons_of_mem _ List.mem_cons_self)) hword)
  | @within kind r writable noPoint =>
    have split := greedy_write writable (RangeShape.lettered_unit kind)
    have hlower := Range.lower?_shape writable kind.unit
    have hupper := Range.upper?_shape writable kind.unit
    have hasks : Asks purpose (r.write ++ kind.unit) (.attributeWithin kind (r.shape kind.unit).bounds) := by
      refine .within split (Range.fits_shape writable _) (Range.unit_shape r _) fun edit n hn hn' => ?_
      rw [hn] at hlower
      rw [hn'] at hupper
      exact noPoint edit n hlower.symm hupper.symm
    rw [Range.bounds_shape writable] at hasks
    exact ofToken_of_asks hasks
  | @distance r writable =>
    have split := greedy_write writable RangeShape.lettered_distanceUnit
    have hasks : Asks purpose (r.write ++ distanceUnit)
        (.distanceWithin ((r.shape distanceUnit).bounds.map Float.ofInt)) :=
      .distance split (Range.fits_shape writable _) (Range.unit_shape r _)
    rw [Range.bounds_shape writable, ← Range.write_map_ofInt writable] at hasks
    exact ofToken_of_asks hasks
  | @assignment kind value edit lower upper =>
    have writable := Range.writable_point lower upper
    have split := greedy_write writable (RangeShape.lettered_unit kind)
    obtain ⟨n, hlower, rfl⟩ := Option.map_eq_some_iff.1 (Range.lower?_shape writable kind.unit)
    obtain ⟨n', hupper, heq⟩ := Option.map_eq_some_iff.1 (Range.upper?_shape writable kind.unit)
    obtain rfl : n' = n := Int.ofNat_inj.1 heq
    have hasks := Asks.assignment split (Range.fits_shape writable _) (Range.unit_shape _ _) edit hlower hupper
    rw [Range.write_point] at hasks
    exact ofToken_of_asks hasks
  | marker m edit =>
    exact ofToken_of_asks (.marker (not_splits_symbol m) (not_tagWord_singleton m.symbol) edit rfl)
  | unrecognized read => exact read

/-- **Writing and reading do not drift apart.**  The directives that words ask for are the possible ones; each of them
is read back, and so is whatever a word was read as. -/
theorem write_reads_back (purpose : Purpose) :
    (∀ d, (∃ t, ofToken purpose t = d) ↔ Possible purpose d) ∧
    (∀ d, Possible purpose d → ofToken purpose d.write = d) ∧
    ∀ t, ofToken purpose (ofToken purpose t).write = ofToken purpose t := by
  have hpossible : ∀ t, Possible purpose (ofToken purpose t) := fun t => by
    obtain ⟨d, hd⟩ := exists_asks purpose t
    rw [ofToken_of_asks hd]
    exact possible_of_asks hd
  refine ⟨fun d => ⟨?_, fun h => ⟨d.write, ofToken_write h⟩⟩, fun _ => ofToken_write, ?_⟩
  · rintro ⟨t, rfl⟩
    exact hpossible t
  · exact fun t => ofToken_write (hpossible t)

/-- The word need not be the one that was read. -/
example : (ofToken .edit "018,18yo".toList).write = "18yo".toList := by decide

end Directive

end ChatProfiles
