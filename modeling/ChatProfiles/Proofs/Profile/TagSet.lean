import ChatProfiles.Profile.TagSet
import Mathlib.Data.List.Find
import Mathlib.Data.List.Pairwise
import Mathlib.Data.List.Sort
/-!
# Tag sets up to letter case

What a set of tags answers is whether it has a tag, in whatever spelling.  `Tag.same` is an equivalence, so this
question does not depend on the spelling asked about (`has_congr`), and each operation is described by it: insertion
adds one tag (`has_insert`), and one set lies in another, or apart from it, as the tags it has do (`isSubset_iff`,
`isDisjoint_iff`).  Inserted in their order, the tags of a set make the same set in the same spellings
(`ofList_toList`).

A set answers more to who asks how it spells a tag (`spelling?`): insertion leaves the spelling that is there
(`spelling?_insert`), removal leaves none (`spelling?_erase`), and these answers are all there is to a set
(`ext_spelling?`).
-/
namespace ChatProfiles

theorem Tag.same_left {a b : Tag} (h : a.same b = true) (c : Tag) : a.same c = b.same c := by
  rw [Bool.eq_iff_iff, Tag.same, Tag.same, Text.sameIgnoringCase_iff, Text.sameIgnoringCase_iff,
    Text.sameIgnoringCase_iff.1 h]

/-- Tags in ascending order differ in more than letter case. -/
theorem Tag.same_eq_false_of_before {a b : Tag} (h : a.before b) : a.same b = false := by
  rw [Bool.eq_false_iff, Ne, ← Tag.order_eq]
  rw [Tag.before] at h
  rw [h]
  decide

theorem Tag.any_insertInto (tag t : Tag) : ∀ ts : List Tag,
    (insertInto tag ts).any t.same = (t.same tag || ts.any t.same)
  | [] => rfl
  | x :: rest => by
    unfold insertInto
    split
    · rfl
    · next heq =>
      -- the spelling that is there stands for the new one
      have hx : t.same tag = t.same x := by
        rw [same_comm t tag, same_comm t x, same_left (order_eq.1 heq)]
      rw [List.any_cons, hx, ← Bool.or_assoc, Bool.or_self]
    · rw [List.any_cons, List.any_cons, any_insertInto tag t rest, Bool.or_left_comm]

/-- A tag that comes after all others is put last. -/
theorem Tag.insertInto_of_before {tag : Tag} {ts : List Tag} (h : ∀ t ∈ ts, t.before tag) :
    insertInto tag ts = ts ++ [tag] := by
  induction ts with
  | nil => rfl
  | cons t ts ih =>
    obtain ⟨ht, hts⟩ := List.forall_mem_cons.1 h
    rw [insertInto, order_gt.2 ht, ih hts]
    rfl

/-- **A list of tags keeps the spelling it has**, and takes the new one only of a tag it does not have. -/
theorem Tag.find?_insertInto (tag t : Tag) : ∀ {ts : List Tag}, ts.Pairwise before →
    (insertInto tag ts).find? t.same = (ts.find? t.same).or (if t.same tag then some tag else none)
  | [], _ => by cases h : t.same tag <;> simp [insertInto, h]
  | x :: rest, hascending => by
    obtain ⟨hx, hrest⟩ := List.pairwise_cons.1 hascending
    unfold insertInto
    split
    · next hlt =>
      rw [List.find?_cons]
      cases h : t.same tag with
      | false => simp
      | true =>
        -- all that is there comes after the new tag
        have hnone : (x :: rest).find? t.same = none := List.find?_eq_none.2 fun y hy => by
          have hbefore : tag.before y := by
            rcases List.mem_cons.1 hy with rfl | hy
            · exact hlt
            · exact before_trans hlt (hx y hy)
          rw [same_left h, same_eq_false_of_before hbefore]
          exact Bool.false_ne_true
        rw [hnone]; rfl
    · next heq =>
      have htx : t.same tag = t.same x := by
        rw [same_comm t tag, same_comm t x, same_left (order_eq.1 heq)]
      rw [List.find?_cons, htx]
      cases t.same x <;> simp
    · rw [List.find?_cons, List.find?_cons, find?_insertInto tag t hrest]
      cases t.same x <;> simp

namespace TagSet

theorem has_iff {s : TagSet} {tag : Tag} : s.has tag = true ↔ ∃ t ∈ s.toList, tag.same t = true := List.any_eq_true

theorem has_of_mem {s : TagSet} {tag : Tag} (h : tag ∈ s.toList) : s.has tag = true :=
  has_iff.2 ⟨tag, h, tag.same_refl⟩

theorem has_congr (s : TagSet) {a b : Tag} (h : a.same b = true) : s.has a = s.has b := by
  have : a.same = b.same := funext (Tag.same_left h)
  rw [has, has, this]

theorem has_insert (s : TagSet) (tag t : Tag) : (s.insert tag).has t = (t.same tag || s.has t) :=
  Tag.any_insertInto tag t s.toList

theorem isSubset_iff {a b : TagSet} : a.isSubset b = true ↔ ∀ t, a.has t = true → b.has t = true := by
  rw [isSubset, List.all_eq_true]
  constructor
  · intro h t ht
    obtain ⟨x, hx, hsame⟩ := has_iff.1 ht
    rw [has_congr b hsame]
    exact h x hx
  · exact fun h x hx => h x (has_of_mem hx)

theorem isDisjoint_iff {a b : TagSet} : a.isDisjoint b = true ↔ ∀ t, a.has t = true → b.has t = false := by
  rw [isDisjoint, List.all_eq_true]
  constructor
  · intro h t ht
    obtain ⟨x, hx, hsame⟩ := has_iff.1 ht
    rw [has_congr b hsame]
    simpa using h x hx
  · exact fun h x hx => by simpa using h x (has_of_mem hx)

theorem toList_foldl_insert (ts : List Tag) (s : TagSet) (h : (s.toList ++ ts).Pairwise Tag.before) :
    (ts.foldl insert s).toList = s.toList ++ ts := by
  induction ts generalizing s with
  | nil => exact (List.append_nil _).symm
  | cons t ts ih =>
    have hbefore : ∀ x ∈ s.toList, x.before t := fun x hx =>
      (List.pairwise_append.1 h).2.2 x hx t List.mem_cons_self
    have hinsert : (s.insert t).toList = s.toList ++ [t] := Tag.insertInto_of_before hbefore
    have hascending : ((s.insert t).toList ++ ts).Pairwise Tag.before := by
      rwa [hinsert, List.append_assoc]
    rw [List.foldl_cons, ih _ hascending, hinsert, List.append_assoc]
    rfl

theorem ofList_toList (s : TagSet) : ofList s.toList = s :=
  ext_toList (toList_foldl_insert s.toList empty s.ascending)

/-! ## Spellings -/

/-- How the set spells the tag, if it has it. -/
def spelling? (s : TagSet) (tag : Tag) : Option Tag := s.toList.find? tag.same

theorem has_eq_isSome_spelling? (s : TagSet) (tag : Tag) : s.has tag = (s.spelling? tag).isSome :=
  List.isSome_find?.symm

theorem spelling?_insert (s : TagSet) (tag t : Tag) :
    (s.insert tag).spelling? t = (s.spelling? t).or (if t.same tag then some tag else none) :=
  Tag.find?_insertInto tag t s.ascending

theorem spelling?_erase (s : TagSet) (tag t : Tag) :
    (s.erase tag).spelling? t = if t.same tag then none else s.spelling? t := by
  rw [spelling?, erase, List.find?_filter]
  by_cases h : t.same tag = true
  · rw [if_pos h, List.find?_eq_none]
    intro x _
    simp [Tag.same_left h x]
  · rw [if_neg h, spelling?]
    refine List.find?_congr fun x _ => ?_
    cases htx : t.same x with
    | false => simp
    | true =>
      have hx : tag.same x = false := by
        rw [Bool.eq_false_iff, Ne, Tag.same_comm, ← Tag.same_left htx tag]
        exact h
      simp [hx]

/-- A set has no second spelling of a tag. -/
theorem eq_of_same {s : TagSet} {x y : Tag} (hx : x ∈ s.toList) (hy : y ∈ s.toList) (h : x.same y = true) : x = y := by
  have : Std.Symm fun a b : Tag => a.same b = false := ⟨fun a b hab => by rwa [Tag.same_comm]⟩
  by_contra hne
  have hpairwise := (s.ascending.imp Tag.same_eq_false_of_before).forall hx hy hne
  exact absurd (h.symm.trans hpairwise) Bool.noConfusion

theorem spelling?_eq_some_iff {s : TagSet} {t x : Tag} : s.spelling? t = some x ↔ x ∈ s.toList ∧ t.same x = true := by
  constructor
  · exact fun h => ⟨List.mem_of_find?_eq_some h, List.find?_some h⟩
  · rintro ⟨hx, hsame⟩
    cases hy : s.spelling? t with
    | none => exact absurd hsame (List.find?_eq_none.1 hy x hx)
    | some y =>
      have hxy : x.same y = true := by rw [← Tag.same_left hsame]; exact List.find?_some hy
      rw [eq_of_same hx (List.mem_of_find?_eq_some hy) hxy]

/-- **Sets that spell every tag alike are equal.** -/
theorem ext_spelling? {a b : TagSet} (h : ∀ t, a.spelling? t = b.spelling? t) : a = b := by
  have : Std.Irrefl Tag.before := ⟨fun t ht => by simpa [Tag.same_refl] using Tag.same_eq_false_of_before ht⟩
  have : Std.Antisymm Tag.before := ⟨fun s t hst hts => absurd (Tag.before_trans hst hts) (irrefl s)⟩
  refine ext_toList (List.Pairwise.eq_of_mem_iff a.ascending b.ascending fun t => ?_)
  have hmem : ∀ s : TagSet, t ∈ s.toList ↔ s.spelling? t = some t := fun s => by
    rw [spelling?_eq_some_iff, and_iff_left t.same_refl]
  rw [hmem, hmem, h]

end TagSet

end ChatProfiles
