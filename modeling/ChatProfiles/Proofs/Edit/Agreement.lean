import ChatProfiles.Proofs.Edit.NetEffect
import ChatProfiles.Proofs.Filter
/-!
# Editing and searching agree

The words that edited a profile find it again.  The same word is read twice, as an edit and as a search, and the two
readings are folded by rules of their own; what ties them is `Directive.toSearch` on the one side and the net effect of
the edit on the other.  A word that was refused would ask a search for what the profile need not be, so those are left
out.  Only a tag that was both added and removed cannot be searched for: a search asks for both at once
(`asked_iff_consistent`).
-/
namespace ChatProfiles

open Directive (last?)

/-! ## What an edit asks of a search -/

namespace Directive

variable {d : Directive} {ds : List Directive}

theorem rangeFor?_toSearch (h : ¬ d.Refused) (kind : AttributeKind) :
    d.toSearch.rangeFor? kind = (d.valueFor? kind).map .point := by
  cases d with
  | attributeWithin kind' range => exact absurd (.attributeWithin kind' range) h
  | setAttribute kind' value =>
    rw [refused_setAttribute_iff, Bool.not_eq_false] at h
    rw [toSearch, rangeFor?, valueFor?]
    by_cases hk : kind' = kind
    · subst hk
      rw [if_pos rfl, if_pos ⟨rfl, h⟩]; rfl
    · rw [if_neg hk, if_neg fun hboth => hk hboth.1]; rfl
  | _ => rfl

theorem distance?_toSearch (h : ¬ d.Refused) : d.toSearch.distance? = none := by
  cases d with
  | distanceWithin range => exact absurd (.distanceWithin range) h
  | _ => rfl

theorem toSearch_eq_includeTag_iff {tag : Tag} : d.toSearch = .includeTag tag ↔ d = .includeTag tag := by
  cases d <;> simp [toSearch]

theorem toSearch_eq_excludeTag_iff {tag : Tag} : d.toSearch = .excludeTag tag ↔ d = .excludeTag tag := by
  cases d <;> simp [toSearch]

/-- The last range a search is asked for is the last value that was given. -/
theorem last?_rangeFor?_toSearch (h : ∀ d ∈ ds, ¬ d.Refused) (kind : AttributeKind) :
    last? (·.rangeFor? kind) (ds.map toSearch) = (last? (·.valueFor? kind) ds).map .point := by
  have hparts : ds.filterMap (fun d => d.toSearch.rangeFor? kind) = (ds.filterMap (·.valueFor? kind)).map .point := by
    rw [List.map_filterMap]
    exact List.filterMap_congr fun d hd => rangeFor?_toSearch (h d hd) kind
  rw [last?, last?, List.filterMap_map, ← List.getLast?_map, ← hparts]
  rfl

theorem last?_distance?_toSearch (h : ∀ d ∈ ds, ¬ d.Refused) : last? distance? (ds.map toSearch) = none := by
  rw [last?, List.getLast?_eq_none_iff, List.filterMap_eq_nil_iff]
  intro d' hd'
  obtain ⟨d, hd, rfl⟩ := List.mem_map.1 hd'
  exact distance?_toSearch (h d hd)

/-- No tag is both added and removed, in whatever spellings. -/
def Consistent (ds : List Directive) : Prop :=
  ∀ x y, .includeTag x ∈ ds → .excludeTag y ∈ ds → x.same y = false

end Directive

/-! ## The profile that was edited -/

namespace Respelled

variable {t : Tag} {before s : Option Tag} {ds : List Directive}

theorem isSome_of_include (h : Respelled t before ds s) {x : Tag} (hx : .includeTag x ∈ ds) (same : t.same x = true)
    (never : ∀ y, .excludeTag y ∈ ds → t.same y = false) : s.isSome = true := by
  cases h with
  | untouched unnamed => exact absurd (.inclusion same) (unnamed _ hx)
  | @excluded pre post y split sameY last =>
    have hy := never y (by rw [split]; simp)
    rw [sameY] at hy; cases hy
  | anew => rfl
  | kept => rfl
  | added => rfl

theorem eq_none_of_exclude (h : Respelled t before ds s) {y : Tag} (hy : .excludeTag y ∈ ds) (same : t.same y = true)
    (never : ∀ x, .includeTag x ∈ ds → t.same x = false) : s = none := by
  cases h with
  | untouched unnamed => exact absurd (.exclusion same) (unnamed _ hy)
  | excluded => rfl
  | @anew pre mid post y x split _ sameX =>
    have hx := never x (by rw [split]; simp)
    rw [sameX] at hx; cases hx
  | kept _ unexcluded => exact absurd (.exclusion same) (unexcluded _ hy)
  | @added pre post x _ split sameX =>
    have hx := never x (by rw [split]; simp)
    rw [sameX] at hx; cases hx

end Respelled

namespace Profile

open Directive (Consistent toSearch)

variable {p q : Profile} {ds : List Directive}

/-- **The profile that directives made is what they ask a search for**, unless they contradict each other on a tag. -/
theorem NetEffect.asked_iff_consistent (h : NetEffect p ds q) (applied : ∀ d ∈ ds, ¬ d.Refused)
    (origin : Option Location) : Filter.Asked (ds.map toSearch) origin q ↔ Consistent ds := by
  have hinclude : ∀ x, .includeTag x ∈ ds.map toSearch ↔ .includeTag x ∈ ds := fun x => by
    simp only [List.mem_map, Directive.toSearch_eq_includeTag_iff, exists_eq_right]
  have hexclude : ∀ y, .excludeTag y ∈ ds.map toSearch ↔ .excludeTag y ∈ ds := fun y => by
    simp only [List.mem_map, Directive.toSearch_eq_excludeTag_iff, exists_eq_right]
  constructor
  · intro asked x y hx hy
    obtain ⟨t, ht, hxt⟩ := asked.included x ((hinclude x).2 hx)
    have hyt := asked.excluded y ((hexclude y).2 hy) t ht
    cases hxy : x.same y with
    | false => rfl
    | true => rw [← Tag.same_left hxy t, hxt] at hyt; cases hyt
  · intro consistent
    refine ⟨fun kind range hrange => ?_, fun range hrange => ?_, fun x hx => ?_, fun y hy => ?_⟩
    · -- the range is that of the value the attribute was given last
      rw [Directive.last?_rangeFor?_toSearch applied] at hrange
      obtain ⟨value, hvalue, rfl⟩ := Option.map_eq_some_iff.1 hrange
      exact ⟨value, by rw [h.attributes, hvalue]; rfl, Range.within_point_iff.2 rfl⟩
    · rw [Directive.last?_distance?_toSearch applied] at hrange
      cases hrange
    · have hx := (hinclude x).1 hx
      have hspelled := (h.tags x).isSome_of_include hx x.same_refl fun y hy => consistent x y hx hy
      rwa [← TagSet.has_eq_isSome_spelling?, TagSet.has_iff] at hspelled
    · have hy := (hexclude y).1 hy
      have hspelled := (h.tags y).eq_none_of_exclude hy y.same_refl fun x hx => by
        rw [Tag.same_comm]
        exact consistent x y hx hy
      intro t ht
      simpa using List.find?_eq_none.1 hspelled t ht

/-- **The words that edited a profile find it**, from wherever one looks and without anyone having to say from where,
unless they both add and remove some tag.  They are the words that the edit does not report. -/
theorem found_by_applied_words (p : Profile) (words : List Text) :
    p.applied words = (words.filter fun w => w ∉ (p.applyTokens words).2.map RefusedToken.token) ∧
    (Filter.ofTokens (p.applied words)).1.needsOrigin = false ∧
    ∀ origin, (Filter.ofTokens (p.applied words)).1.accepts origin (p.applyTokens words).1 = true ↔
      Consistent (Directive.ofTokens .edit (p.applied words)) := by
  have heffect : NetEffect p (Directive.ofTokens .edit (p.applied words)) (p.applyTokens words).1 := by
    have hsame : (p.applyTokens (p.applied words)).1 = (p.applyTokens words).1 := by rw [applyTokens_applied]
    exact hsame ▸ netEffect_applyTokens p (p.applied words)
  have happlied : ∀ d ∈ Directive.ofTokens .edit (p.applied words), ¬ d.Refused := by
    intro d hd
    obtain ⟨w, hw, rfl⟩ := List.mem_map.1 hd
    rw [applied_eq_filter] at hw
    simpa using (List.mem_filter.1 hw).2
  have hcompiled := Filter.compiled_ofDirectives (Directive.ofTokens .search (p.applied words))
  rw [Filter.ofTokens_eq]
  refine ⟨applied_eq_unreported words p, ?_, fun origin => ?_⟩
  · rw [Filter.needsOrigin, hcompiled.distance, Directive.ofTokens_search, Directive.last?_distance?_toSearch happlied]
    rfl
  · rw [hcompiled.accepts_iff, Directive.ofTokens_search, heffect.asked_iff_consistent happlied]

end Profile

end ChatProfiles
