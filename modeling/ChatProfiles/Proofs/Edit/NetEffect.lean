import ChatProfiles.Proofs.Directive.Contribution
import ChatProfiles.Proofs.Edit
import ChatProfiles.Proofs.Profile.TagSet
import Mathlib.Data.List.Induction
/-!
# The net effect of an edit

A list of words is applied one after the other, but what it comes to can be read off the list.  For an attribute and
for the marker the last word counts.  For a tag the history counts: a tag that is there keeps its spelling when it is
added again, and loses it when it is removed, so after an exclusion the next inclusion spells it anew.

`NetEffect` says so without applying anything.  One more directive keeps it true (`NetEffect.after`), so it is true of
any list of them (`netEffect_foldl`), and it leaves no choice of the profile (`NetEffect.unique`).
-/
namespace ChatProfiles

open Directive (last?)

/-! ## The spelling of one tag -/

/-- How a tag is spelled after directives, `before` being how it was spelled ahead of them. -/
inductive Respelled (t : Tag) (before : Option Tag) (ds : List Directive) : Option Tag → Prop
  /-- No directive names the tag. -/
  | untouched (unnamed : ∀ d ∈ ds, ¬ d.Names t) : Respelled t before ds before
  /-- The last directive on the tag is an exclusion. -/
  | excluded {pre post : List Directive} {x : Tag} (split : ds = pre ++ .excludeTag x :: post) (same : t.same x = true)
      (last : ∀ d ∈ post, ¬ d.Names t) : Respelled t before ds none
  /-- The tag is spelled as in the first inclusion after its last exclusion. -/
  | anew {pre mid post : List Directive} {x y : Tag}
      (split : ds = pre ++ .excludeTag x :: (mid ++ .includeTag y :: post)) (sameX : t.same x = true)
      (sameY : t.same y = true) (first : ∀ d ∈ mid, ¬ d.Names t) (last : ∀ d ∈ post, ¬ d.Excludes t) :
      Respelled t before ds (some y)
  /-- The tag is never excluded and was there. -/
  | kept {y : Tag} (had : before = some y) (never : ∀ d ∈ ds, ¬ d.Excludes t) : Respelled t before ds (some y)
  /-- The tag was not there, is never excluded, and is spelled as in its first inclusion. -/
  | added {pre post : List Directive} {y : Tag} (lacked : before = none) (split : ds = pre ++ .includeTag y :: post)
      (same : t.same y = true) (first : ∀ d ∈ pre, ¬ d.Names t) (never : ∀ d ∈ post, ¬ d.Excludes t) :
      Respelled t before ds (some y)

def Directive.respell (t : Tag) (spelling : Option Tag) : Directive → Option Tag
  | .includeTag tag => spelling.or (if t.same tag then some tag else none)
  | .excludeTag tag => if t.same tag then none else spelling
  | _ => spelling

namespace Directive

variable {t : Tag} {d : Directive} {ds : List Directive}

theorem respell_of_not_names (h : ¬ d.Names t) (spelling : Option Tag) : respell t spelling d = spelling := by
  cases d with
  | includeTag tag => rw [respell, if_neg fun same => h (.inclusion same), Option.or_none]
  | excludeTag tag => rw [respell, if_neg fun same => h (.exclusion same)]
  | _ => rfl

theorem respell_some_of_not_excludes (h : ¬ d.Excludes t) (y : Tag) : respell t (some y) d = some y := by
  cases d with
  | excludeTag tag => rw [respell, if_neg fun same => h (.exclusion same)]
  | _ => rfl

theorem foldl_respell_of_not_names (h : ∀ d ∈ ds, ¬ d.Names t) (spelling : Option Tag) :
    ds.foldl (respell t) spelling = spelling := by
  induction ds with
  | nil => rfl
  | cons d ds ih =>
    obtain ⟨hd, hds⟩ := List.forall_mem_cons.1 h
    rw [List.foldl_cons, respell_of_not_names hd, ih hds]

theorem foldl_respell_some_of_not_excludes (h : ∀ d ∈ ds, ¬ d.Excludes t) (y : Tag) :
    ds.foldl (respell t) (some y) = some y := by
  induction ds with
  | nil => rfl
  | cons d ds ih =>
    obtain ⟨hd, hds⟩ := List.forall_mem_cons.1 h
    rw [List.foldl_cons, respell_some_of_not_excludes hd, ih hds]

end Directive

namespace Respelled

open Directive

variable {t : Tag} {before s : Option Tag} {ds : List Directive}

theorem eq_foldl (h : Respelled t before ds s) : s = ds.foldl (respell t) before := by
  cases h with
  | untouched unnamed => rw [foldl_respell_of_not_names unnamed]
  | excluded split same last =>
    rw [split, List.foldl_append, List.foldl_cons, respell, if_pos same, foldl_respell_of_not_names last]
  | anew split sameX sameY first last =>
    rw [split, List.foldl_append, List.foldl_cons, respell, if_pos sameX, List.foldl_append,
      foldl_respell_of_not_names first, List.foldl_cons, respell, if_pos sameY, Option.none_or,
      foldl_respell_some_of_not_excludes last]
  | kept had never => rw [had, foldl_respell_some_of_not_excludes never]
  | added lacked split same first never =>
    rw [lacked, split, List.foldl_append, foldl_respell_of_not_names first, List.foldl_cons, respell, if_pos same,
      Option.none_or, foldl_respell_some_of_not_excludes never]

/-- **Directives leave no choice of a spelling.** -/
theorem unique {s' : Option Tag} (h : Respelled t before ds s) (h' : Respelled t before ds s') : s = s' :=
  h.eq_foldl.trans h'.eq_foldl.symm

theorem forall_mem_concat {P : Directive → Prop} {d : Directive} (h : ∀ d ∈ ds, P d) (hd : P d) :
    ∀ d' ∈ ds ++ [d], P d' :=
  List.forall_mem_append.2 ⟨h, List.forall_mem_singleton.2 hd⟩

/-- A tag that is there keeps its spelling until it is excluded. -/
theorem some_of_not_excludes {d : Directive} {y : Tag} (h : Respelled t before ds (some y)) (hd : ¬ d.Excludes t) :
    Respelled t before (ds ++ [d]) (some y) := by
  cases h with
  | untouched unnamed => exact .kept rfl (forall_mem_concat (fun d' hd' hx => unnamed d' hd' hx.names) hd)
  | @anew pre mid post x y split sameX sameY first last =>
    have hsplit : ds ++ [d] = pre ++ .excludeTag x :: (mid ++ .includeTag y :: (post ++ [d])) := by simp [split]
    exact .anew hsplit sameX sameY first (forall_mem_concat last hd)
  | kept had never => exact .kept had (forall_mem_concat never hd)
  | @added pre post y lacked split same first never =>
    have hsplit : ds ++ [d] = pre ++ .includeTag y :: (post ++ [d]) := by simp [split]
    exact .added lacked hsplit same first (forall_mem_concat never hd)

theorem none_of_not_names {d : Directive} (h : Respelled t before ds none) (hd : ¬ d.Names t) :
    Respelled t before (ds ++ [d]) none := by
  cases h with
  | untouched unnamed => exact .untouched (forall_mem_concat unnamed hd)
  | @excluded pre post x split same last =>
    have hsplit : ds ++ [d] = pre ++ .excludeTag x :: (post ++ [d]) := by simp [split]
    exact .excluded hsplit same (forall_mem_concat last hd)

theorem concat_include {y : Tag} (h : Respelled t before ds none) (same : t.same y = true) :
    Respelled t before (ds ++ [.includeTag y]) (some y) := by
  cases h with
  | untouched unnamed => exact .added rfl rfl same unnamed (List.forall_mem_nil _)
  | @excluded pre mid x split sameX first =>
    have hsplit : ds ++ [.includeTag y] = pre ++ .excludeTag x :: (mid ++ .includeTag y :: []) := by simp [split]
    exact .anew hsplit sameX same first (List.forall_mem_nil _)

theorem concat_exclude {x : Tag} (same : t.same x = true) : Respelled t before (ds ++ [.excludeTag x]) none :=
  .excluded rfl same (List.forall_mem_nil _)

/-- **One more directive changes the spelling as it should.** -/
theorem respell (h : Respelled t before ds s) (d : Directive) :
    Respelled t before (ds ++ [d]) (d.respell t s) := by
  -- to a tag that is there only an exclusion matters, to one that is not, whatever names it
  cases s with
  | some y =>
    by_cases hd : d.Excludes t
    · cases hd with
      | exclusion same =>
        rw [Directive.respell, if_pos same]
        exact concat_exclude same
    · rw [respell_some_of_not_excludes hd]
      exact h.some_of_not_excludes hd
  | none =>
    by_cases hd : d.Names t
    · cases hd with
      | inclusion same =>
        rw [Directive.respell, if_pos same, Option.none_or]
        exact h.concat_include same
      | exclusion same =>
        rw [Directive.respell, if_pos same]
        exact concat_exclude same
    · rw [respell_of_not_names hd]
      exact h.none_of_not_names hd

end Respelled

/-! ## The whole profile -/

namespace Profile

/-- What directives make of a profile, one thing at a time. -/
structure NetEffect (p : Profile) (ds : List Directive) (q : Profile) : Prop where
  member : q.member = p.member
  location : q.location = p.location
  marker : q.marker = (last? Directive.marker? ds).getD p.marker
  attributes : ∀ kind, q.attributes.get kind = (last? (·.valueFor? kind) ds).or (p.attributes.get kind)
  tags : ∀ t, Respelled t (p.tags.spelling? t) ds (q.tags.spelling? t)

/-! ### One directive -/

theorem marker_after (p : Profile) (d : Directive) : (p.after d).marker = d.marker?.getD p.marker := by
  cases d with
  | setAttribute kind value =>
    rw [after_setAttribute]
    cases kind.accepts value <;> rfl
  | _ => rfl

theorem get_attributes_after (p : Profile) (d : Directive) (kind : AttributeKind) :
    (p.after d).attributes.get kind = (d.valueFor? kind).or (p.attributes.get kind) := by
  cases d with
  | setAttribute kind' value =>
    rw [after_setAttribute, Directive.valueFor?]
    by_cases hk : kind' = kind
    · subst hk
      cases kind'.accepts value <;> simp [Sheet.get_set]
    · have hnone : ¬ (kind' = kind ∧ kind.accepts value = true) := fun h => hk h.1
      rw [if_neg hnone, Option.none_or]
      cases kind'.accepts value <;> simp [Sheet.get_set, Ne.symm hk]
  | _ => rfl

theorem spelling?_after (p : Profile) (d : Directive) (t : Tag) :
    (p.after d).tags.spelling? t = d.respell t (p.tags.spelling? t) := by
  cases d with
  | includeTag tag => exact TagSet.spelling?_insert p.tags tag t
  | excludeTag tag => exact TagSet.spelling?_erase p.tags tag t
  | setAttribute kind value =>
    rw [after_setAttribute]
    cases kind.accepts value <;> rfl
  | _ => rfl

variable {p q : Profile} {ds : List Directive}

theorem netEffect_nil (p : Profile) : NetEffect p [] p where
  member := rfl
  location := rfl
  marker := rfl
  attributes _ := rfl
  tags _ := .untouched (List.forall_mem_nil _)

/-- **One more directive keeps the net effect true.** -/
theorem NetEffect.after (h : NetEffect p ds q) (d : Directive) : NetEffect p (ds ++ [d]) (q.after d) where
  member := (member_after q d).trans h.member
  location := (location_after q d).trans h.location
  marker := by
    rw [marker_after, h.marker, Directive.last?_concat]
    cases d.marker? <;> rfl
  attributes kind := by rw [get_attributes_after, h.attributes, Directive.last?_concat, Option.or_assoc]
  tags t := by
    rw [spelling?_after]
    exact (h.tags t).respell d

theorem netEffect_foldl (p : Profile) (ds : List Directive) : NetEffect p ds (ds.foldl Profile.after p) := by
  induction ds using List.reverseRecOn with
  | nil => exact netEffect_nil p
  | append_singleton ds d ih =>
    rw [List.foldl_concat]
    exact ih.after d

/-- **Two profiles cannot both be the net effect.** -/
theorem NetEffect.unique {q' : Profile} (h : NetEffect p ds q) (h' : NetEffect p ds q') : q = q' := by
  have hattributes : q.attributes = q'.attributes := Sheet.ext_get fun kind => by rw [h.attributes, h'.attributes]
  have htags : q.tags = q'.tags := TagSet.ext_spelling? fun t => (h.tags t).unique (h'.tags t)
  have hmember := h.member.trans h'.member.symm
  have hmarker := h.marker.trans h'.marker.symm
  have hlocation := h.location.trans h'.location.symm
  obtain ⟨member, marker, attributes, tags, location⟩ := q
  obtain ⟨member', marker', attributes', tags', location'⟩ := q'
  cases hattributes; cases htags; cases hmember; cases hmarker; cases hlocation
  rfl

theorem netEffect_applyTokens (p : Profile) (words : List Text) :
    NetEffect p (Directive.ofTokens .edit words) (p.applyTokens words).1 := by
  rw [applyTokens_eq]
  exact netEffect_foldl p _

/-- **What a list of words comes to.**  The profile it leaves is the one that its directives say, and without the words
that it reports as refused it leaves the same profile and none of them is refused. -/
theorem net_effect_of_words (p : Profile) (words : List Text) :
    (∀ q, (p.applyTokens words).1 = q ↔ NetEffect p (Directive.ofTokens .edit words) q) ∧
    p.applied words = (words.filter fun w => w ∉ (p.applyTokens words).2.map RefusedToken.token) ∧
    p.applyTokens (p.applied words) = ((p.applyTokens words).1, []) := by
  have heffect := netEffect_applyTokens p words
  refine ⟨fun q => ⟨?_, heffect.unique⟩, applied_eq_unreported words p, applyTokens_applied words p⟩
  rintro rfl
  exact heffect

example : ((blank { id := 1, firstName := "Ada".toList }).applyTokens
    ["#nerd".toList, "#Jock".toList, "-#NERD".toList, "#Nerd".toList, "#jock".toList]).1.tags.toList.map Tag.write =
      ["#Jock".toList, "#Nerd".toList] := by decide

end Profile

end ChatProfiles
