import ChatProfiles.Proofs.Directive.Grammar
import ChatProfiles.Proofs.Text.Lowercase
/-!
# No two rules for one word

The rules for words are tried one after the other, yet their order decides nothing: a range has neither a `#` nor a
symbol in it, and a tag is longer than a symbol alone, so no word fits two of them (`Rule.eq_of_fits`).  Whatever the
order, a word is read by the one rule it fits, if it fits one (`Rule.readBy_congr`).
-/
namespace ChatProfiles

/-! ## What a range has in it -/

/-- A word that splits as a range has nothing in it but digits, letters, underscores and a comma. -/
theorem RangeShape.Splits.char {t : Text} {s : RangeShape} (h : Splits t s) :
    ∀ c ∈ t, isUnitChar c = true ∨ c = ',' := by
  intro c hc
  rw [← h.text_eq, text, List.mem_append, List.mem_append, List.mem_append] at hc
  rcases hc with hmin | hcomma | hmax | hunit
  · exact .inl (isUnitChar_of_isDigit (h.min_digits c hmin))
  · right
    split at hcomma
    · exact List.mem_singleton.1 hcomma
    · cases hcomma
  · exact .inl (isUnitChar_of_isDigit (h.max_digits c hmax))
  · exact .inl (h.unit_chars c hunit)

theorem not_splits_of_hash {t : Text} (h : '#' ∈ t) (s : RangeShape) : ¬ RangeShape.Splits t s := fun hs =>
  absurd (hs.char '#' h) (by decide)

theorem toNat_lt_of_isUnitChar {c : Char} (h : isUnitChar c = true) : c.toNat < 128 := by
  rw [isUnitChar, Bool.or_eq_true, beq_iff_eq] at h
  rcases h with halnum | rfl
  · exact Text.toNat_lt_of_isAlphanum halnum
  · decide

theorem isUnitChar_of_isSymbol {c : Char} (h : Text.isSymbol c = true) : isUnitChar c = false := by
  -- units are ASCII, and of the symbols in ASCII none is part of one
  have hascii : ∀ n < 128, isUnitChar (Char.ofNat n) = true → Text.symbolRanges.has n = false := by decide +kernel
  cases hunit : isUnitChar c with
  | false => rfl
  | true =>
    have hnone := hascii c.toNat (toNat_lt_of_isUnitChar hunit) (by rwa [Char.ofNat_toNat])
    exact absurd (hnone.symm.trans h) Bool.false_ne_true

theorem not_splits_symbol (m : Marker) (s : RangeShape) : ¬ RangeShape.Splits [m.symbol] s := by
  intro hs
  rcases hs.char m.symbol List.mem_cons_self with hunit | hcomma
  · rw [isUnitChar_of_isSymbol m.isSymbol] at hunit
    cases hunit
  · have hsymbol := m.isSymbol
    rw [hcomma] at hsymbol
    exact absurd hsymbol (by decide)

/-! ## What a tag has in it -/

theorem TagWord.hash_mem {t sign : Text} {tag : Tag} (h : TagWord t sign tag) : '#' ∈ t := by
  obtain ⟨-, rest, rfl, -⟩ := h
  exact List.mem_append_right _ List.mem_cons_self

theorem not_tagWord_singleton (c : Char) (sign : Text) (tag : Tag) : ¬ TagWord [c] sign tag := by
  rintro ⟨-, rest, htext, -⟩
  -- the shortest word with a tag has a hash and a letter
  have hlength := congrArg List.length htext
  have hbody := List.length_pos_iff.2 tag.nonempty
  simp only [List.length_append, List.length_cons, List.length_nil] at hlength
  omega

/-! ## The rules -/

inductive Rule where
  | range
  | tag
  | marker
deriving DecidableEq

namespace Rule

/-- The word has the shape that the rule is about. -/
def fits (t : Text) : Rule → Bool
  | range => (RangeShape.ofToken? t).isSome
  | tag => (TagShape.ofToken? t).isSome
  | marker => (Marker.ofText? t).isSome

/-- What the rule alone makes of the word.  A range whose numbers or unit will not do is not left to other rules. -/
def read? (purpose : Purpose) (t : Text) : Rule → Option Directive
  | range => (RangeShape.ofToken? t).map fun shape => (shape.directive? purpose).getD (.unrecognized t)
  | tag => (TagShape.ofToken? t).bind TagShape.directive?
  | marker => (Marker.ofText? t).map .setMarker

def tried : Purpose → List Rule
  | .edit => [range, tag, marker]
  | .search => [range, tag]

/-- The word is read by the first of the rules that makes something of it. -/
def readBy (purpose : Purpose) (t : Text) (rules : List Rule) : Directive :=
  (rules.findSome? (read? purpose t)).getD (.unrecognized t)

variable {purpose : Purpose} {t : Text} {a b : Rule}

theorem ofToken_eq_readBy (purpose : Purpose) (t : Text) :
    Directive.ofToken purpose t = readBy purpose t (tried purpose) := by
  unfold Directive.ofToken readBy
  cases purpose <;> cases hrange : RangeShape.ofToken? t <;>
    cases htag : (TagShape.ofToken? t).bind TagShape.directive? <;> cases hmarker : Marker.ofText? t <;>
    simp [tried, read?, hrange, htag, hmarker]

/-! ## What fits a rule -/

theorem fits_range_iff : range.fits t = true ↔ ∃ s, RangeShape.Splits t s := by
  rw [fits, Option.isSome_iff_ne_none, ne_eq, RangeShape.ofToken?_eq_none_iff, not_forall_not]

theorem fits_tag_iff : tag.fits t = true ↔ ∃ sign body, TagWord t sign body := by
  rw [fits, Option.isSome_iff_exists]
  constructor
  · rintro ⟨s, hs⟩
    obtain ⟨body, -, hword⟩ := TagShape.tagWord_of_ofToken? hs
    exact ⟨_, body, hword⟩
  · rintro ⟨sign, body, hword⟩
    exact ⟨_, TagShape.ofToken?_of_tagWord hword⟩

theorem fits_marker_iff : marker.fits t = true ↔ ∃ m : Marker, t = [m.symbol] := by
  rw [fits, Option.isSome_iff_exists]
  exact exists_congr fun m => Marker.ofText?_eq_some_iff

/-- A rule makes something of every word that fits it, and of no other. -/
theorem isSome_read? (purpose : Purpose) (t : Text) (rule : Rule) : (rule.read? purpose t).isSome = rule.fits t := by
  cases rule with
  | range => exact Option.isSome_map
  | marker => exact Option.isSome_map
  | tag =>
    rw [read?, fits]
    cases hs : TagShape.ofToken? t with
    | none => rfl
    | some s =>
      obtain ⟨body, hbody, -⟩ := TagShape.tagWord_of_ofToken? hs
      rw [Option.bind_some, TagShape.directive?_of_body hbody]
      rfl

theorem not_fits_tag_of_range (h : range.fits t = true) : ¬ tag.fits t = true := by
  obtain ⟨s, hs⟩ := fits_range_iff.1 h
  rw [fits_tag_iff]
  rintro ⟨sign, body, hword⟩
  exact not_splits_of_hash hword.hash_mem s hs

theorem not_fits_marker_of_range (h : range.fits t = true) : ¬ marker.fits t = true := by
  obtain ⟨s, hs⟩ := fits_range_iff.1 h
  rw [fits_marker_iff]
  rintro ⟨m, rfl⟩
  exact not_splits_symbol m s hs

theorem not_fits_marker_of_tag (h : tag.fits t = true) : ¬ marker.fits t = true := by
  obtain ⟨sign, body, hword⟩ := fits_tag_iff.1 h
  rw [fits_marker_iff]
  rintro ⟨m, rfl⟩
  exact not_tagWord_singleton m.symbol sign body hword

/-- **No word fits two rules.** -/
theorem eq_of_fits (ha : a.fits t = true) (hb : b.fits t = true) : a = b := by
  cases a <;> cases b
  case range.range | tag.tag | marker.marker => rfl
  case range.tag => exact absurd hb (not_fits_tag_of_range ha)
  case range.marker => exact absurd hb (not_fits_marker_of_range ha)
  case tag.marker => exact absurd hb (not_fits_marker_of_tag ha)
  case tag.range => exact absurd ha (not_fits_tag_of_range hb)
  case marker.range => exact absurd ha (not_fits_marker_of_range hb)
  case marker.tag => exact absurd ha (not_fits_marker_of_tag hb)

/-! ## Orders of rules -/

/-- **Which rules are tried decides how a word is read, and their order does not.** -/
theorem readBy_congr {rules rules' : List Rule} (h : ∀ rule, rule ∈ rules ↔ rule ∈ rules') :
    readBy purpose t rules = readBy purpose t rules' := by
  have hfits : ∀ {rule d}, read? purpose t rule = some d → rule.fits t = true := fun hread => by
    rw [← isSome_read? purpose, hread]
    rfl
  unfold readBy
  cases hd : rules.findSome? (read? purpose t) with
  | none =>
    have hnone : rules'.findSome? (read? purpose t) = none :=
      List.findSome?_eq_none_iff.2 fun rule hrule => List.findSome?_eq_none_iff.1 hd rule ((h rule).2 hrule)
    rw [hnone]
  | some d =>
    obtain ⟨rule, hrule, hread⟩ := List.exists_of_findSome?_eq_some hd
    cases hd' : rules'.findSome? (read? purpose t) with
    | none =>
      rw [List.findSome?_eq_none_iff.1 hd' rule ((h rule).1 hrule)] at hread
      cases hread
    | some d' =>
      -- both lists end at the one rule that the word fits
      obtain ⟨rule', -, hread'⟩ := List.exists_of_findSome?_eq_some hd'
      obtain rfl : rule = rule' := eq_of_fits (hfits hread) (hfits hread')
      rw [Option.some_inj.1 (hread.symm.trans hread')]

theorem readBy_perm {rules : List Rule} (h : rules.Perm (tried purpose)) :
    readBy purpose t rules = Directive.ofToken purpose t := by
  rw [ofToken_eq_readBy, readBy_congr fun rule => h.mem_iff]

theorem no_tag_or_marker_of_range (h : range.fits t = true) (purpose : Purpose) :
    (∀ body, Directive.ofToken purpose t ≠ .includeTag body ∧ Directive.ofToken purpose t ≠ .excludeTag body) ∧
    ∀ m, Directive.ofToken purpose t ≠ .setMarker m := by
  obtain ⟨s, hs⟩ := fits_range_iff.1 h
  have hasks : ∀ d, Directive.ofToken purpose t = d → Asks purpose t d := fun d =>
    (Directive.ofToken_eq_iff purpose t d).1
  refine ⟨fun body => ⟨fun hd => ?_, fun hd => ?_⟩, fun m hd => ?_⟩
  · cases hasks _ hd with
    | inclusion noSplit => exact noSplit s hs
  · cases hasks _ hd with
    | exclusion noSplit => exact noSplit s hs
  · cases hasks _ hd with
    | marker noSplit => exact noSplit s hs

/-- **The rules never compete.**  A word fits one of them at most; so those that are tried can be tried in any order,
and a word with the shape of a range is left to that rule, whether or not the rule accepts it. -/
theorem rules_never_compete (t : Text) :
    (∀ a b : Rule, a.fits t = true → b.fits t = true → a = b) ∧
    (∀ purpose rules, rules.Perm (tried purpose) → readBy purpose t rules = Directive.ofToken purpose t) ∧
    (range.fits t = true → ∀ purpose,
      (∀ body, Directive.ofToken purpose t ≠ .includeTag body ∧ Directive.ofToken purpose t ≠ .excludeTag body) ∧
      ∀ m, Directive.ofToken purpose t ≠ .setMarker m) :=
  ⟨fun _ _ => eq_of_fits, fun _ _ => readBy_perm, no_tag_or_marker_of_range⟩

/-- An age read by the rules in reverse, and a number too large to be a range, which is still no tag and no marker. -/
theorem rules_never_compete_reverse :
    readBy .edit "29yo".toList [marker, tag, range] = .setAttribute .age 29 ∧
    range.fits "9999999999yo".toList = true ∧ ∀ m, Directive.ofToken .edit "9999999999yo".toList ≠ .setMarker m := by
  refine ⟨?_, by decide, ?_⟩
  · obtain ⟨-, horders, -⟩ := rules_never_compete "29yo".toList
    exact (horders .edit _ (by decide)).trans rfl
  · obtain ⟨-, -, hrange⟩ := rules_never_compete "9999999999yo".toList
    exact (hrange (by decide) .edit).2

end Rule

end ChatProfiles
