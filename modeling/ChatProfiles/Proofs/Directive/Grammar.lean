import ChatProfiles.Proofs.Directive.Shape
import ChatProfiles.Proofs.Range
/-!
# The grammar of words

`Asks purpose t d` is the grammar as it is documented: what the word `t` asks for, by its shape.  A word with the
shape of a range asks for a range or for nothing, whatever else it looks like; a word with the shape of a tag asks for
its longest body; a symbol alone is a marker, where markers are of use.  `ofToken_eq_iff` says that a word is read as
what it asks for, and so that every word asks for exactly one thing.
-/
namespace ChatProfiles

/-! ## The numbers of a range -/

namespace RangeShape

/-- The number that digits write; no digits write none. -/
def number? (digits : Text) : Option Nat := if digits = [] then none else some (Decimal.value digits)

def lower? (s : RangeShape) : Option Nat := number? s.min

/-- Without a comma the one number is both bounds. -/
def upper? (s : RangeShape) : Option Nat := if s.comma then number? s.max else s.lower?

/-- The bounds that are there are words of 31 bits, and in order. -/
structure Fits (s : RangeShape) : Prop where
  lower : ∀ n ∈ s.lower?, n ≤ 2147483647
  upper : ∀ n ∈ s.upper?, n ≤ 2147483647
  inOrder : ∀ a ∈ s.lower?, ∀ b ∈ s.upper?, a ≤ b

def bounds (s : RangeShape) : Range Int := ⟨s.lower?.map Int.ofNat, s.upper?.map Int.ofNat⟩

theorem bound?_eq_some_iff {digits : Text} {b : Option Int} :
    bound? digits = some b ↔ (∀ n ∈ number? digits, n ≤ 2147483647) ∧ b = (number? digits).map Int.ofNat := by
  unfold bound? number?
  by_cases hd : digits = []
  · simp [hd, eq_comm]
  · have he : digits.isEmpty = false := by simpa using hd
    rw [he, if_neg hd]
    by_cases hv : Decimal.value digits ≤ 2147483647
    · simp [largest, hv, eq_comm]
    · simp [largest, hv]

theorem range?_eq (s : RangeShape) :
    s.range? = (bound? s.min).bind fun min =>
      (if s.comma then bound? s.max else some min).bind fun max => (Range.ofBounds min max).toOption := by
  unfold range?
  cases s.comma <;> rfl

/-- **The bounds of a word give a range exactly if they fit.** -/
theorem range?_eq_some_iff {s : RangeShape} {r : Range Int} : s.range? = some r ↔ s.Fits ∧ r = s.bounds := by
  have hupper : ∀ b, bound? s.min = some (s.lower?.map Int.ofNat) →
      ((if s.comma then bound? s.max else some (s.lower?.map Int.ofNat)) = some b ↔
        (∀ n ∈ s.upper?, n ≤ 2147483647) ∧ b = s.upper?.map Int.ofNat) := by
    intro b hlower
    unfold upper?
    cases s.comma with
    | true => exact bound?_eq_some_iff
    | false =>
      rw [← hlower]
      exact bound?_eq_some_iff
  have hbounds : (∀ a ∈ s.lower?.map Int.ofNat, ∀ b ∈ s.upper?.map Int.ofNat, a ≤ b) ↔
      ∀ a ∈ s.lower?, ∀ b ∈ s.upper?, a ≤ b := by
    cases s.lower? <;> cases s.upper? <;> simp
  rw [range?_eq]
  constructor
  · intro h
    obtain ⟨min, hmin, h⟩ := Option.bind_eq_some_iff.1 h
    obtain ⟨max, hmax, h⟩ := Option.bind_eq_some_iff.1 h
    obtain ⟨hlower, rfl⟩ := bound?_eq_some_iff.1 hmin
    obtain ⟨hup, rfl⟩ := (hupper max hmin).1 hmax
    obtain ⟨horder, rfl⟩ := Range.ofBounds_toOption_eq_some_iff.1 h
    exact ⟨⟨hlower, hup, hbounds.1 horder⟩, rfl⟩
  · rintro ⟨⟨hlower, hup, horder⟩, rfl⟩
    have hmin : bound? s.min = some (s.lower?.map Int.ofNat) := bound?_eq_some_iff.2 ⟨hlower, rfl⟩
    refine Option.bind_eq_some_iff.2 ⟨_, hmin, Option.bind_eq_some_iff.2 ⟨_, (hupper _ hmin).2 ⟨hup, rfl⟩, ?_⟩⟩
    exact Range.ofBounds_toOption_eq_some_iff.2 ⟨hbounds.2 horder, rfl⟩

end RangeShape

theorem AttributeKind.ofUnit?_eq_some_iff {unit : Text} {kind : AttributeKind} :
    ofUnit? unit = some kind ↔ unit = kind.unit := by
  constructor
  · intro h
    have := List.find?_some h
    simp only [beq_iff_eq] at this
    exact this.symm
  · rintro rfl
    exact ofUnit?_unit kind

/-! ## Words with a tag -/

/-- The word is a sign, `#`, the tag and whatever else stands on the line; the tag is as long as it can be. -/
structure TagWord (t sign : Text) (tag : Tag) : Prop where
  sign_mem : sign ∈ [[], ['+'], ['-']]
  text_eq : ∃ rest, t = sign ++ '#' :: (tag.body ++ rest) ∧ (∀ c ∈ rest.head?, c.isAlphanum = false) ∧ '\n' ∉ rest

namespace TagShape

theorem afterSign?_hash (sign : Option Char) (r : Text) :
    afterSign? sign ('#' :: r) =
      if (r.takeWhile Char.isAlphanum).isEmpty || (r.dropWhile Char.isAlphanum).any (· == '\n') then none
      else some ⟨sign, r.takeWhile Char.isAlphanum⟩ := rfl

theorem afterSign?_eq_some_iff {sign : Option Char} {t : Text} {s : TagShape} :
    afterSign? sign t = some s ↔ s.sign = sign ∧ s.body ≠ [] ∧ (∀ c ∈ s.body, c.isAlphanum = true) ∧
      ∃ rest, t = '#' :: (s.body ++ rest) ∧ (∀ c ∈ rest.head?, c.isAlphanum = false) ∧ '\n' ∉ rest := by
  constructor
  · intro h
    unfold afterSign? at h
    split at h
    · next r =>
      dsimp only at h
      split at h
      · cases h
      · next hcond =>
        obtain rfl := Option.some.inj h
        rw [Bool.or_eq_true, not_or] at hcond
        refine ⟨rfl, by simpa using hcond.1, fun c hc => List.mem_takeWhile_imp hc,
          r.dropWhile Char.isAlphanum, ?_, fun c hc => Text.head?_dropWhile c hc, by simpa using hcond.2⟩
        rw [List.takeWhile_append_dropWhile]
    · cases h
  · rintro ⟨rfl, hne, hbody, rest, rfl, hhead, hline⟩
    rw [afterSign?_hash, Text.takeWhile_append hbody hhead, Text.dropWhile_append hbody hhead, if_neg]
    simpa [hne] using hline

/-- **A word is read as a tag exactly if it is written as one.** -/
theorem ofToken?_of_tagWord {t sign : Text} {tag : Tag} (h : TagWord t sign tag) :
    ofToken? t = some ⟨sign.head?, tag.body⟩ := by
  obtain ⟨hsign, rest, rfl, hhead, hline⟩ := h
  have hbody : ∀ c ∈ tag.body, c.isAlphanum = true := List.all_eq_true.1 tag.alphanumeric
  have hafter : ∀ sign : Option Char,
      afterSign? sign ('#' :: (tag.body ++ rest)) = some ⟨sign, tag.body⟩ := fun sign =>
    afterSign?_eq_some_iff.2 ⟨rfl, tag.nonempty, hbody, rest, rfl, hhead, hline⟩
  simp only [List.mem_cons, List.not_mem_nil, or_false] at hsign
  rcases hsign with rfl | rfl | rfl <;> exact hafter _

theorem tagWord_of_ofToken? {t : Text} {s : TagShape} (h : ofToken? t = some s) :
    ∃ tag : Tag, tag.body = s.body ∧ TagWord t s.sign.toList tag := by
  have hword : ∀ (sign : Option Char) (r : Text), sign.toList ∈ [[], ['+'], ['-']] → t = sign.toList ++ r →
      afterSign? sign r = some s → ∃ tag : Tag, tag.body = s.body ∧ TagWord t s.sign.toList tag := by
    intro sign r hmem ht hafter
    obtain ⟨rfl, hne, hbody, rest, rfl, hhead, hline⟩ := afterSign?_eq_some_iff.1 hafter
    exact ⟨⟨s.body, hne, List.all_eq_true.2 hbody⟩, rfl, hmem, rest, ht, hhead, hline⟩
  unfold ofToken? at h
  split at h
  · exact hword (some '+') _ (by simp) rfl h
  · exact hword (some '-') _ (by simp) rfl h
  · exact hword none t (by simp) rfl h

theorem directive?_of_body {s : TagShape} {tag : Tag} (h : tag.body = s.body) :
    s.directive? = some (if s.sign = some '-' then .excludeTag tag else .includeTag tag) := by
  rw [directive?, ← h, Tag.ofBody?_body, Option.map_some]

end TagShape

/-! ## What a word asks for -/

/-- The grammar of words. -/
inductive Asks (purpose : Purpose) (t : Text) : Directive → Prop where
  | unfit {s : RangeShape} (split : s.Greedy t) (unfit : ¬ s.Fits) : Asks purpose t (.unrecognized t)
  | noUnit {s : RangeShape} (split : s.Greedy t) (noDistance : s.unit ≠ distanceUnit)
      (noKind : ∀ kind : AttributeKind, s.unit ≠ kind.unit) : Asks purpose t (.unrecognized t)
  | distance {s : RangeShape} (split : s.Greedy t) (fits : s.Fits) (unit : s.unit = distanceUnit) :
      Asks purpose t (.distanceWithin (s.bounds.map Float.ofInt))
  | assignment {s : RangeShape} {kind : AttributeKind} {n : Nat} (split : s.Greedy t) (fits : s.Fits)
      (unit : s.unit = kind.unit) (edit : purpose = .edit) (lower : s.lower? = some n) (upper : s.upper? = some n) :
      Asks purpose t (.setAttribute kind n)
  | within {s : RangeShape} {kind : AttributeKind} (split : s.Greedy t) (fits : s.Fits) (unit : s.unit = kind.unit)
      (noPoint : purpose = .edit → ∀ n, s.lower? = some n → s.upper? ≠ some n) :
      Asks purpose t (.attributeWithin kind s.bounds)
  | exclusion {tag : Tag} (noSplit : ∀ s, ¬ RangeShape.Splits t s) (word : TagWord t ['-'] tag) :
      Asks purpose t (.excludeTag tag)
  | inclusion {sign : Text} {tag : Tag} (noSplit : ∀ s, ¬ RangeShape.Splits t s) (word : TagWord t sign tag)
      (sign : sign ≠ ['-']) : Asks purpose t (.includeTag tag)
  | marker {m : Marker} (noSplit : ∀ s, ¬ RangeShape.Splits t s) (noTag : ∀ sign tag, ¬ TagWord t sign tag)
      (edit : purpose = .edit) (symbol : t = [m.symbol]) : Asks purpose t (.setMarker m)
  | nothing (noSplit : ∀ s, ¬ RangeShape.Splits t s) (noTag : ∀ sign tag, ¬ TagWord t sign tag)
      (noMarker : purpose = .edit → ∀ m : Marker, t ≠ [m.symbol]) : Asks purpose t (.unrecognized t)

/-! ## A word is read as what it asks for -/

namespace RangeShape

variable {s : RangeShape} {purpose : Purpose}

theorem bounds_point?_eq_some_iff {n : Nat} :
    s.bounds.point? = some (n : Int) ↔ s.lower? = some n ∧ s.upper? = some n := by
  have hbound : ∀ bound : Option Nat, bound.map Int.ofNat = some (n : Int) ↔ bound = some n := by
    intro bound
    cases bound with
    | none => exact iff_of_false nofun nofun
    | some k => rw [Option.map_some, Option.some_inj, Option.some_inj, Int.ofNat_eq_natCast, Int.ofNat_inj]
  rw [Range.point?_eq_some_iff, bounds, hbound, hbound]

theorem bounds_point?_eq_none (h : ∀ n, s.lower? = some n → s.upper? ≠ some n) : s.bounds.point? = none := by
  cases hp : s.bounds.point? with
  | none => rfl
  | some v =>
    obtain ⟨n, -, rfl⟩ := Option.map_eq_some_iff.1 (Range.point?_eq_some_iff.1 hp).1
    obtain ⟨hlower, hupper⟩ := bounds_point?_eq_some_iff.1 hp
    exact absurd hupper (h n hlower)

theorem directive?_unfit (h : ¬ s.Fits) : s.directive? purpose = none := by
  have : s.range? = none := by
    cases hr : s.range? with
    | none => rfl
    | some r => exact absurd (range?_eq_some_iff.1 hr).1 h
  rw [directive?, this]; rfl

theorem directive?_noUnit (h : s.unit ≠ distanceUnit) (hk : ∀ kind : AttributeKind, s.unit ≠ kind.unit) :
    s.directive? purpose = none := by
  have hunit : AttributeKind.ofUnit? s.unit = none := by
    cases ho : AttributeKind.ofUnit? s.unit with
    | none => rfl
    | some kind => exact absurd (AttributeKind.ofUnit?_eq_some_iff.1 ho) (hk kind)
  have hbeq : (s.unit == distanceUnit) = false := beq_eq_false_iff_ne.2 h
  rw [directive?]
  cases s.range? with
  | none => rfl
  | some r => simp [hbeq, hunit]

theorem directive?_distance (fits : s.Fits) (unit : s.unit = distanceUnit) :
    s.directive? purpose = some (.distanceWithin (s.bounds.map Float.ofInt)) := by
  rw [directive?, range?_eq_some_iff.2 ⟨fits, rfl⟩, unit]; rfl

theorem directive?_kind (fits : s.Fits) {kind : AttributeKind} (unit : s.unit = kind.unit) :
    s.directive? purpose = some (match purpose, s.bounds.point? with
      | .edit, some value => .setAttribute kind value
      | _, _ => .attributeWithin kind s.bounds) := by
  have hbeq : (kind.unit == distanceUnit) = false := beq_eq_false_iff_ne.2 kind.unit_ne_distanceUnit
  rw [directive?, range?_eq_some_iff.2 ⟨fits, rfl⟩, unit]
  simp only [Option.bind_eq_bind, Option.bind_some, hbeq, Bool.false_eq_true, if_false, AttributeKind.ofUnit?_unit]
  cases purpose <;> cases s.bounds.point? <;> rfl

end RangeShape

theorem tag?_of_tagWord {t sign : Text} {tag : Tag} (h : TagWord t sign tag) :
    (TagShape.ofToken? t).bind TagShape.directive? =
      some (if sign = ['-'] then .excludeTag tag else .includeTag tag) := by
  rw [TagShape.ofToken?_of_tagWord h, Option.bind_some, TagShape.directive?_of_body rfl]
  have hsign := h.sign_mem
  simp only [List.mem_cons, List.not_mem_nil, or_false] at hsign
  rcases hsign with rfl | rfl | rfl <;> rfl

theorem tag?_eq_none {t : Text} (h : ∀ sign tag, ¬ TagWord t sign tag) :
    (TagShape.ofToken? t).bind TagShape.directive? = none := by
  cases hs : TagShape.ofToken? t with
  | none => rfl
  | some s =>
    obtain ⟨tag, -, hword⟩ := TagShape.tagWord_of_ofToken? hs
    exact absurd hword (h _ _)

theorem Marker.ofText?_eq_none {t : Text} (h : ∀ m : Marker, t ≠ [m.symbol]) : Marker.ofText? t = none :=
  Option.eq_none_iff_forall_ne_some.2 fun m hm => h m (Marker.ofText?_eq_some_iff.1 hm)

namespace Directive

variable {purpose : Purpose} {t : Text}

theorem ofToken_of_greedy {s : RangeShape} (h : s.Greedy t) :
    ofToken purpose t = (s.directive? purpose).getD (.unrecognized t) := by
  unfold ofToken
  rw [RangeShape.ofToken?_eq_some_iff.2 h]

theorem ofToken_of_noSplit (h : ∀ s, ¬ RangeShape.Splits t s) :
    ofToken purpose t = match (TagShape.ofToken? t).bind TagShape.directive? with
      | some d => d
      | none => match purpose with
        | .edit => (Marker.ofText? t).elim (.unrecognized t) .setMarker
        | .search => .unrecognized t := by
  unfold ofToken
  cases hs : RangeShape.ofToken? t with
  | none => rfl
  | some s => exact absurd (RangeShape.ofToken?_eq_some_iff.1 hs).toSplits (h s)

theorem ofToken_of_asks {d : Directive} (h : Asks purpose t d) : ofToken purpose t = d := by
  cases h with
  | unfit split unfit => rw [ofToken_of_greedy split, RangeShape.directive?_unfit unfit]; rfl
  | noUnit split noDistance noKind => rw [ofToken_of_greedy split, RangeShape.directive?_noUnit noDistance noKind]; rfl
  | distance split fits unit => rw [ofToken_of_greedy split, RangeShape.directive?_distance fits unit]; rfl
  | assignment split fits unit edit lower upper =>
    rw [ofToken_of_greedy split, RangeShape.directive?_kind fits unit, edit,
      RangeShape.bounds_point?_eq_some_iff.2 ⟨lower, upper⟩]
    rfl
  | within split fits unit noPoint =>
    rw [ofToken_of_greedy split, RangeShape.directive?_kind fits unit]
    cases purpose with
    | search => rfl
    | edit => rw [RangeShape.bounds_point?_eq_none (noPoint rfl)]; rfl
  | exclusion noSplit word => rw [ofToken_of_noSplit noSplit, tag?_of_tagWord word]; rfl
  | inclusion noSplit word sign => rw [ofToken_of_noSplit noSplit, tag?_of_tagWord word, if_neg sign]
  | marker noSplit noTag edit symbol =>
    rw [ofToken_of_noSplit noSplit, tag?_eq_none noTag, edit, symbol]
    exact congrArg (Option.elim · _ _) (Marker.ofText?_write _)
  | nothing noSplit noTag noMarker =>
    rw [ofToken_of_noSplit noSplit, tag?_eq_none noTag]
    cases purpose with
    | search => rfl
    | edit => rw [Marker.ofText?_eq_none (noMarker rfl)]; rfl

/-- Every word asks for something: the grammar leaves no case out. -/
theorem exists_asks (purpose : Purpose) (t : Text) : ∃ d, Asks purpose t d := by
  cases hs : RangeShape.ofToken? t with
  | some s =>
    have split := RangeShape.ofToken?_eq_some_iff.1 hs
    by_cases fits : s.Fits
    · by_cases hdist : s.unit = distanceUnit
      · exact ⟨_, .distance split fits hdist⟩
      · by_cases hkind : ∃ kind : AttributeKind, s.unit = kind.unit
        · obtain ⟨kind, unit⟩ := hkind
          by_cases hpoint : purpose = .edit ∧ ∃ n, s.lower? = some n ∧ s.upper? = some n
          · obtain ⟨edit, n, lower, upper⟩ := hpoint
            exact ⟨_, .assignment split fits unit edit lower upper⟩
          · exact ⟨_, .within split fits unit fun edit n lower upper => hpoint ⟨edit, n, lower, upper⟩⟩
        · exact ⟨_, .noUnit split hdist fun kind unit => hkind ⟨kind, unit⟩⟩
    · exact ⟨_, .unfit split fits⟩
  | none =>
    have noSplit := RangeShape.ofToken?_eq_none_iff.1 hs
    by_cases htag : ∃ sign tag, TagWord t sign tag
    · obtain ⟨sign, tag, word⟩ := htag
      by_cases hsign : sign = ['-']
      · exact ⟨_, .exclusion noSplit (hsign ▸ word)⟩
      · exact ⟨_, .inclusion noSplit word hsign⟩
    · have noTag : ∀ sign tag, ¬ TagWord t sign tag := fun sign tag word => htag ⟨sign, tag, word⟩
      by_cases hmarker : purpose = .edit ∧ ∃ m : Marker, t = [m.symbol]
      · obtain ⟨edit, m, symbol⟩ := hmarker
        exact ⟨_, .marker noSplit noTag edit symbol⟩
      · exact ⟨_, .nothing noSplit noTag fun edit m symbol => hmarker ⟨edit, m, symbol⟩⟩

/-- **Every word asks for one thing, and that is what it is read as.** -/
theorem ofToken_eq_iff (purpose : Purpose) (t : Text) (d : Directive) :
    ofToken purpose t = d ↔ Asks purpose t d := by
  refine ⟨fun h => ?_, ofToken_of_asks⟩
  obtain ⟨d', hd'⟩ := exists_asks purpose t
  have hd : d' = d := (ofToken_of_asks hd').symm.trans h
  exact hd ▸ hd'

end Directive

end ChatProfiles
