import ChatProfiles.Proofs.Directive.Grammar
/-!
# What directives contribute

Of a list of directives a profile or a filter keeps little: for an attribute, the marker or the distance the last one
that says something of it (`last?`), and for a tag which directives name it.  This module says what a single directive
contributes to each.

One word is read with two purposes, and the readings do not drift apart: what a word asks of a search is determined by
what it asks of an edit (`ofToken_search`).
-/
namespace ChatProfiles.Directive

/-! ## One directive -/

/-- The value that an edit gives an attribute of the kind. -/
def valueFor? (kind : AttributeKind) : Directive → Option Int
  | .setAttribute kind' value => if kind' = kind ∧ kind.accepts value = true then some value else none
  | _ => none

def marker? : Directive → Option Marker
  | .setMarker marker => some marker
  | _ => none

def rangeFor? (kind : AttributeKind) : Directive → Option (Range Int)
  | .attributeWithin kind' range => if kind' = kind then some range else none
  | _ => none

def distance? : Directive → Option (Range Float)
  | .distanceWithin range => some range
  | _ => none

def included? : Directive → Option Tag
  | .includeTag tag => some tag
  | _ => none

def excluded? : Directive → Option Tag
  | .excludeTag tag => some tag
  | _ => none

theorem valueFor?_eq_some_iff {kind : AttributeKind} {d : Directive} {value : Int} :
    d.valueFor? kind = some value ↔ d = .setAttribute kind value ∧ kind.accepts value = true := by
  cases d with
  | setAttribute kind' value' =>
    simp only [valueFor?, Option.ite_none_right_eq_some, Option.some.injEq, setAttribute.injEq]
    constructor
    · rintro ⟨⟨rfl, haccepts⟩, rfl⟩
      exact ⟨⟨rfl, rfl⟩, haccepts⟩
    · rintro ⟨⟨rfl, rfl⟩, haccepts⟩
      exact ⟨⟨rfl, haccepts⟩, rfl⟩
  | _ => simp [valueFor?]

theorem marker?_eq_some_iff {d : Directive} {m : Marker} : d.marker? = some m ↔ d = .setMarker m := by
  cases d <;> simp [marker?]

theorem included?_eq_some_iff {d : Directive} {tag : Tag} : d.included? = some tag ↔ d = .includeTag tag := by
  cases d <;> simp [included?]

theorem excluded?_eq_some_iff {d : Directive} {tag : Tag} : d.excluded? = some tag ↔ d = .excludeTag tag := by
  cases d <;> simp [excluded?]

theorem distance?_eq_some_iff {d : Directive} {range : Range Float} :
    d.distance? = some range ↔ d = .distanceWithin range := by
  cases d <;> simp [distance?]

/-- The directive is about the tag, in whatever spelling. -/
inductive Names (t : Tag) : Directive → Prop
  | inclusion {tag : Tag} (same : t.same tag = true) : Names t (.includeTag tag)
  | exclusion {tag : Tag} (same : t.same tag = true) : Names t (.excludeTag tag)

inductive Excludes (t : Tag) : Directive → Prop
  | exclusion {tag : Tag} (same : t.same tag = true) : Excludes t (.excludeTag tag)

theorem Excludes.names {t : Tag} {d : Directive} (h : d.Excludes t) : d.Names t := by
  cases h with
  | exclusion same => exact .exclusion same

/-! ## A list of directives -/

/-- The last of what the directives contribute. -/
def last? {α : Type} (part? : Directive → Option α) (ds : List Directive) : Option α := (ds.filterMap part?).getLast?

theorem last?_concat {α : Type} (part? : Directive → Option α) (ds : List Directive) (d : Directive) :
    last? part? (ds ++ [d]) = (part? d).or (last? part? ds) := by
  rw [last?, List.filterMap_append, List.getLast?_append]
  cases h : part? d <;> simp [h, last?]

theorem last?_isSome_iff {α : Type} {part? : Directive → Option α} {ds : List Directive} :
    (last? part? ds).isSome = true ↔ ∃ a, ∃ d ∈ ds, part? d = some a := by
  rw [last?, List.getLast?_isSome, ← List.length_pos_iff, List.length_pos_iff_exists_mem]
  simp only [List.mem_filterMap]

/-- Where all that is contributed is the same, no order tells which was the last. -/
theorem last?_eq_of_forall {α : Type} {part? : Directive → Option α} {ds : List Directive} {o : Option α}
    (h : ∀ a, (∃ d ∈ ds, part? d = some a) ↔ o = some a) : last? part? ds = o := by
  cases hl : last? part? ds with
  | some a => exact ((h a).1 (List.mem_filterMap.1 (List.mem_of_getLast? hl))).symm
  | none =>
    cases o with
    | none => rfl
    | some a =>
      have hsome := last?_isSome_iff.2 ⟨a, (h a).2 rfl⟩
      rw [hl] at hsome
      cases hsome

/-! ## One word, two purposes -/

/-- What the word for a directive of an edit asks of a search. -/
def toSearch : Directive → Directive
  | .setAttribute kind value => .attributeWithin kind (.point value)
  | .setMarker marker => .unrecognized marker.write
  | d => d

/-- **What a word asks of a search is determined by what it asks of an edit**: for a single value it is the range of
that value alone, for a marker it is nothing, and all else is the same. -/
theorem ofToken_search (t : Text) : ofToken .search t = (ofToken .edit t).toSearch := by
  have notEdit : Purpose.search ≠ .edit := by decide
  obtain ⟨d, hd⟩ := exists_asks .edit t
  rw [ofToken_of_asks hd]
  cases hd with
  | unfit split unfit => exact ofToken_of_asks (.unfit split unfit)
  | noUnit split noDistance noKind => exact ofToken_of_asks (.noUnit split noDistance noKind)
  | distance split fits unit => exact ofToken_of_asks (.distance split fits unit)
  | @assignment s kind n split fits unit _ lower upper =>
    have hpoint : s.bounds = .point (n : Int) := by
      rw [RangeShape.bounds, lower, upper]; rfl
    rw [toSearch, ← hpoint]
    exact ofToken_of_asks (.within split fits unit fun edit => absurd edit notEdit)
  | within split fits unit _ => exact ofToken_of_asks (.within split fits unit fun edit => absurd edit notEdit)
  | exclusion noSplit word => exact ofToken_of_asks (.exclusion noSplit word)
  | inclusion noSplit word sign => exact ofToken_of_asks (.inclusion noSplit word sign)
  | marker noSplit noTag _ symbol =>
    subst symbol
    exact ofToken_of_asks (.nothing noSplit noTag fun edit => absurd edit notEdit)
  | nothing noSplit noTag _ => exact ofToken_of_asks (.nothing noSplit noTag fun edit => absurd edit notEdit)

theorem ofTokens_search (ts : List Text) : ofTokens .search ts = (ofTokens .edit ts).map toSearch := by
  rw [ofTokens, ofTokens, List.map_map]
  exact List.map_congr_left fun t _ => ofToken_search t

/-- A word of a search is of use to it or is not recognized. -/
theorem isUnrecognized_ofToken_search (t : Text) :
    (ofToken .search t).isUnrecognized = !(ofToken .search t).isSearch := by
  obtain ⟨d, hd⟩ := exists_asks .search t
  rw [ofToken_of_asks hd]
  cases hd with
  | assignment _ _ _ edit => cases edit
  | marker _ _ edit => cases edit
  | unfit => rfl
  | noUnit => rfl
  | distance => rfl
  | within => rfl
  | exclusion => rfl
  | inclusion => rfl
  | nothing => rfl

end ChatProfiles.Directive
