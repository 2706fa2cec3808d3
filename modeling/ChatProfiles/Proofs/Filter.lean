import ChatProfiles.Filter
import ChatProfiles.Proofs.Directive.Contribution
import ChatProfiles.Proofs.Profile.TagSet
import Mathlib.Data.List.Induction
/-!
# What a search means

A filter forgets the words it was compiled from, and keeps of them what `Compiled` says: for each kind the last range,
the last distance, and which tags were named.  One more directive keeps it so (`Compiled.add`), and so does any number
of them (`compiled_ofDirectives`).  What a profile is then asked is read off the filter (`accepts_iff`), and together
the two say what the words mean, with no filter in between (`accepts_ofTokens_iff`).
-/
namespace ChatProfiles

namespace Filter

open Directive (last?)

/-! ## What a filter asks of a profile -/

theorem acceptsAttribute_iff {p : Profile} {kind : AttributeKind} {range : Range Int} :
    acceptsAttribute p kind range = true ↔ ∃ value, p.attributes.get kind = some value ∧ range.Within value := by
  rw [acceptsAttribute, Option.any_eq_true]
  simp only [Range.contains_iff]

theorem acceptsDistance_iff {origin target : Option Location} {range : Range Float} :
    acceptsDistance origin target range = true ↔
      ∃ a b, origin = some a ∧ target = some b ∧ range.Within (a.distance b) := by
  cases origin with
  | none => simp [acceptsDistance]
  | some a =>
    cases target with
    | none => simp [acceptsDistance]
    | some b => simp [acceptsDistance, Range.contains_float_iff]

theorem accepts_iff {f : Filter} {origin : Option Location} {p : Profile} :
    f.accepts origin p = true ↔
      (∀ kind range, f.attributes.get kind = some range →
        ∃ value, p.attributes.get kind = some value ∧ range.Within value) ∧
      (∀ range, f.distance = some range →
        ∃ a b, origin = some a ∧ p.location = some b ∧ range.Within (a.distance b)) ∧
      (∀ t, f.included.has t = true → p.tags.has t = true) ∧
      ∀ t, f.excluded.has t = true → p.tags.has t = false := by
  have hattributes : f.attributes.entries.all (fun x => acceptsAttribute p x.1 x.2) = true ↔
      ∀ kind range, f.attributes.get kind = some range →
        ∃ value, p.attributes.get kind = some value ∧ range.Within value := by
    simp only [List.all_eq_true, Prod.forall, Sheet.mem_entries, acceptsAttribute_iff]
  have hdistance : f.distance.all (acceptsDistance origin p.location) = true ↔
      ∀ range, f.distance = some range →
        ∃ a b, origin = some a ∧ p.location = some b ∧ range.Within (a.distance b) := by
    simp only [Option.all_eq_true, acceptsDistance_iff]
  rw [accepts, Bool.and_eq_true, Bool.and_eq_true, Bool.and_eq_true, hattributes, hdistance, TagSet.isSubset_iff,
    TagSet.isDisjoint_iff, and_assoc, and_assoc]

/-! ## What one more directive changes -/

variable {f : Filter} {ds : List Directive} {d : Directive}

theorem add?_isSome (f : Filter) (d : Directive) : (f.add? d).isSome = d.isSearch := by cases d <;> rfl

theorem get_attributes_add (f : Filter) (d : Directive) (kind : AttributeKind) :
    (f.add d).attributes.get kind = (d.rangeFor? kind).or (f.attributes.get kind) := by
  cases d with
  | attributeWithin kind' range =>
    rw [show (f.add (.attributeWithin kind' range)).attributes = f.attributes.set kind' range from rfl, Sheet.get_set,
      Directive.rangeFor?]
    by_cases h : kind = kind'
    · rw [if_pos h, if_pos h.symm]; rfl
    · rw [if_neg h, if_neg (Ne.symm h)]; rfl
  | _ => rfl

theorem distance_add (f : Filter) (d : Directive) : (f.add d).distance = d.distance?.or f.distance := by
  cases d <;> rfl

theorem has_included_add (f : Filter) (d : Directive) (t : Tag) :
    (f.add d).included.has t = (d.included?.any t.same || f.included.has t) := by
  cases d with
  | includeTag tag => exact TagSet.has_insert f.included tag t
  | _ => rfl

theorem has_excluded_add (f : Filter) (d : Directive) (t : Tag) :
    (f.add d).excluded.has t = (d.excluded?.any t.same || f.excluded.has t) := by
  cases d with
  | excludeTag tag => exact TagSet.has_insert f.excluded tag t
  | _ => rfl

/-- A filter that forbids a tag rejects whoever has it, whatever else it asks for. -/
theorem accepts_add_excludeTag (f : Filter) {t : Tag} {p : Profile} (h : p.tags.has t = true)
    (origin : Option Location) : (f.add (.excludeTag t)).accepts origin p = false := by
  rw [Bool.eq_false_iff]
  intro haccepts
  have hexcluded : (f.add (.excludeTag t)).excluded.has t = true := by
    rw [has_excluded_add]
    simp [Directive.excluded?, t.same_refl]
  have hlacks := (accepts_iff.1 haccepts).2.2.2 t hexcluded
  exact absurd (hlacks.symm.trans h) Bool.false_ne_true

/-- What a filter keeps of the directives it was compiled from. -/
structure Compiled (f : Filter) (ds : List Directive) : Prop where
  attributes : ∀ kind, f.attributes.get kind = last? (·.rangeFor? kind) ds
  distance : f.distance = last? Directive.distance? ds
  included : ∀ t, f.included.has t = (ds.filterMap Directive.included?).any t.same
  excluded : ∀ t, f.excluded.has t = (ds.filterMap Directive.excluded?).any t.same

theorem compiled_all : Compiled all [] where
  attributes kind := by cases kind <;> rfl
  distance := rfl
  included _ := rfl
  excluded _ := rfl

theorem any_filterMap_concat (part? : Directive → Option Tag) (ds : List Directive) (d : Directive) (t : Tag) :
    ((ds ++ [d]).filterMap part?).any t.same = ((part? d).any t.same || (ds.filterMap part?).any t.same) := by
  rw [List.filterMap_append, List.any_append, Bool.or_comm]
  cases h : part? d <;> simp [h]

/-- **One more directive keeps the filter true to its directives.** -/
theorem Compiled.add (h : Compiled f ds) (d : Directive) : Compiled (f.add d) (ds ++ [d]) where
  attributes kind := by rw [get_attributes_add, h.attributes, Directive.last?_concat]
  distance := by rw [distance_add, h.distance, Directive.last?_concat]
  included t := by rw [has_included_add, h.included, any_filterMap_concat]
  excluded t := by rw [has_excluded_add, h.excluded, any_filterMap_concat]

theorem compiled_ofDirectives (ds : List Directive) : Compiled (ofDirectives ds) ds := by
  induction ds using List.reverseRecOn with
  | nil => exact compiled_all
  | append_singleton ds d ih =>
    rw [ofDirectives, List.foldl_concat]
    exact ih.add d

theorem Compiled.has_included_iff (h : Compiled f ds) {t : Tag} :
    f.included.has t = true ↔ ∃ tag, .includeTag tag ∈ ds ∧ t.same tag = true := by
  rw [h.included, List.any_eq_true]
  simp only [List.mem_filterMap, Directive.included?_eq_some_iff, exists_eq_right]

theorem Compiled.has_excluded_iff (h : Compiled f ds) {t : Tag} :
    f.excluded.has t = true ↔ ∃ tag, .excludeTag tag ∈ ds ∧ t.same tag = true := by
  rw [h.excluded, List.any_eq_true]
  simp only [List.mem_filterMap, Directive.excluded?_eq_some_iff, exists_eq_right]

theorem Compiled.needsOrigin_iff (h : Compiled f ds) : f.needsOrigin = true ↔ ∃ range, .distanceWithin range ∈ ds := by
  rw [needsOrigin, h.distance, Directive.last?_isSome_iff]
  simp only [Directive.distance?_eq_some_iff, exists_eq_right]

/-! ## What the words of a search ask of a profile -/

/-- What directives ask of a profile that is looked at from a place. -/
structure Asked (ds : List Directive) (origin : Option Location) (p : Profile) : Prop where
  attributes : ∀ kind range, last? (·.rangeFor? kind) ds = some range →
    ∃ value, p.attributes.get kind = some value ∧ range.Within value
  distance : ∀ range, last? Directive.distance? ds = some range →
    ∃ a b, origin = some a ∧ p.location = some b ∧ range.Within (a.distance b)
  included : ∀ tag, .includeTag tag ∈ ds → ∃ t ∈ p.tags.toList, tag.same t = true
  excluded : ∀ tag, .excludeTag tag ∈ ds → ∀ t ∈ p.tags.toList, tag.same t = false

theorem Compiled.accepts_iff (h : Compiled f ds) {origin : Option Location} {p : Profile} :
    f.accepts origin p = true ↔ Asked ds origin p := by
  have htags : ∀ tag, p.tags.has tag = true ↔ ∃ t ∈ p.tags.toList, tag.same t = true := fun _ => TagSet.has_iff
  have hnotags : ∀ tag, p.tags.has tag = false ↔ ∀ t ∈ p.tags.toList, tag.same t = false := by
    intro tag
    rw [TagSet.has, List.any_eq_false]
    simp only [Bool.not_eq_true]
  rw [Filter.accepts_iff]
  constructor
  · rintro ⟨hattributes, hdistance, hincluded, hexcluded⟩
    refine ⟨fun kind range hr => hattributes kind range ((h.attributes kind).trans hr),
      fun range hr => hdistance range (h.distance.trans hr), fun tag hmem => ?_, fun tag hmem => ?_⟩
    · exact (htags tag).1 (hincluded tag (h.has_included_iff.2 ⟨tag, hmem, tag.same_refl⟩))
    · exact (hnotags tag).1 (hexcluded tag (h.has_excluded_iff.2 ⟨tag, hmem, tag.same_refl⟩))
  · intro asked
    refine ⟨fun kind range hr => asked.attributes kind range ((h.attributes kind).symm.trans hr),
      fun range hr => asked.distance range (h.distance.symm.trans hr), fun t ht => ?_, fun t ht => ?_⟩
    · obtain ⟨tag, hmem, hsame⟩ := h.has_included_iff.1 ht
      rw [TagSet.has_congr p.tags hsame]
      exact (htags tag).2 (asked.included tag hmem)
    · obtain ⟨tag, hmem, hsame⟩ := h.has_excluded_iff.1 ht
      rw [TagSet.has_congr p.tags hsame]
      exact (hnotags tag).2 (asked.excluded tag hmem)

/-! ## The words of a search -/

theorem foldl_ofTokens (ts : List Text) : ∀ (f : Filter) (ignored : List Text),
    ts.foldl (fun (f, ignored) t =>
        match f.add? (Directive.ofToken .search t) with
        | some g => (g, ignored)
        | none => (f, ignored ++ [t])) (f, ignored) =
      ((Directive.ofTokens .search ts).foldl Filter.add f,
        ignored ++ ts.filter fun t => (Directive.ofToken .search t).isUnrecognized) := by
  induction ts with
  | nil => intro f ignored; simp [Directive.ofTokens]
  | cons t ts ih =>
    intro f ignored
    rw [List.foldl_cons, List.filter_cons, Directive.isUnrecognized_ofToken_search]
    have hsome := add?_isSome f (Directive.ofToken .search t)
    cases hadd : f.add? (Directive.ofToken .search t) with
    | some g =>
      rw [hadd] at hsome
      rw [← hsome, ih]
      simp [Directive.ofTokens, Filter.add, hadd]
    | none =>
      rw [hadd] at hsome
      rw [← hsome, ih]
      simp [Directive.ofTokens, Filter.add, hadd]

theorem ofTokens_eq (ts : List Text) :
    ofTokens ts = (ofDirectives (Directive.ofTokens .search ts),
      ts.filter fun t => (Directive.ofToken .search t).isUnrecognized) := by
  have h := foldl_ofTokens ts all []
  rw [List.nil_append] at h
  exact h

theorem ofTokens_concat (ts : List Text) {t : Text} (h : (Directive.ofToken .search t).isUnrecognized = false) :
    ofTokens (ts ++ [t]) = ((ofTokens ts).1.add (.ofToken .search t), (ofTokens ts).2) := by
  have hfilter : (ts ++ [t]).filter (fun t => (Directive.ofToken .search t).isUnrecognized) =
      ts.filter fun t => (Directive.ofToken .search t).isUnrecognized := by
    rw [List.filter_append, List.filter_cons_of_neg (by simp [h]), List.filter_nil, List.append_nil]
  rw [ofTokens_eq, ofTokens_eq, hfilter, Directive.ofTokens, List.map_append, ofDirectives, List.foldl_append]
  rfl

/-- **A search means its words.**  It accepts the profiles that its words ask for, needs a place to start from if a
word asks for a distance, and has no use for the words that are not recognized; compiling the words one by one or after
reading all of them gives the same filter. -/
theorem search_means_its_words (ts : List Text) :
    (∀ origin p, (ofTokens ts).1.accepts origin p = true ↔ Asked (Directive.ofTokens .search ts) origin p) ∧
    ((ofTokens ts).1.needsOrigin = true ↔ ∃ t ∈ ts, ∃ range, Directive.ofToken .search t = .distanceWithin range) ∧
    (ofTokens ts).2 = ts.filter (fun t => (Directive.ofToken .search t).isUnrecognized) ∧
    ofDirectives (Directive.ofTokens .search ts) = (ofTokens ts).1 := by
  rw [ofTokens_eq]
  have compiled := compiled_ofDirectives (Directive.ofTokens .search ts)
  refine ⟨fun _ _ => compiled.accepts_iff, ?_, rfl, rfl⟩
  rw [compiled.needsOrigin_iff]
  simp only [Directive.ofTokens, List.mem_map]
  constructor
  · rintro ⟨range, t, ht, hd⟩
    exact ⟨t, ht, range, hd⟩
  · rintro ⟨t, ht, range, hd⟩
    exact ⟨range, t, ht, hd⟩

end Filter

end ChatProfiles
