import ChatProfiles.Proofs.Profile.TagSet
import ChatProfiles.Proofs.Text.Lowercase
import Mathlib.Logic.ExistsUnique
import Std.Data.HashSet.Lemmas
/-!
# One identity of tags

Order, sameness and hash of a tag are three functions of its folded body, each written on its own, and they tell the
same tags apart: what compares as equal is the same, and what is the same hashes alike and nothing else does
(`hashedBytes_eq_iff`).  The bodies are ASCII, so no two letters share a byte.

A set made of a list therefore spells a tag as the list does first (`spelling?_foldl_insert`), which says what is in it
and what each insertion has added.  A hash table grows at the same insertions, and so comes to the same size
(`size_foldl_insert`).
-/
namespace ChatProfiles

namespace Tag

variable {a b c : Tag}

/-! ## Three relations -/

theorem order_left (h : a.same b = true) (c : Tag) : a.order c = b.order c := by
  have hfolded : a.folded = b.folded := Text.sameIgnoringCase_iff.1 h
  rw [order, order, hfolded]

theorem order_right (h : b.same c = true) (a : Tag) : a.order b = a.order c := by
  have hfolded : b.folded = c.folded := Text.sameIgnoringCase_iff.1 h
  rw [order, order, hfolded]

theorem isLE_order : (a.order b).isLE = true ↔ a.before b ∨ a.same b = true := by
  rw [before, ← order_eq]
  cases a.order b <;> decide

theorem order_swap (a b : Tag) : (a.order b).swap = b.order a := Text.order_swap a.folded b.folded

theorem same_of_isLE_order (hab : (a.order b).isLE = true) (hba : (b.order a).isLE = true) : a.same b = true := by
  rcases isLE_order.1 hab with hab | hab
  · have hgt : b.order a = .gt := order_gt.2 hab
    rw [hgt] at hba
    cases hba
  · exact hab

theorem isLE_order_trans (hab : (a.order b).isLE = true) (hbc : (b.order c).isLE = true) :
    (a.order c).isLE = true := by
  rcases isLE_order.1 hab with hlt | hsame
  · rcases isLE_order.1 hbc with hlt' | hsame'
    · exact isLE_order.2 (.inl (before_trans hlt hlt'))
    · rwa [← order_right hsame']
  · rwa [order_left hsame]

theorem toNat_lt_of_mem_folded {c : Char} (t : Tag) (h : c ∈ t.folded) : c.toNat < 128 := by
  obtain ⟨letter, hletter, rfl⟩ := List.mem_map.1 h
  have hascii := Text.toNat_lt_of_isAlphanum (List.all_eq_true.1 t.alphanumeric letter hletter)
  rw [Text.toNat_toLower]
  split <;> omega

/-- The bytes say the code points of the folded body. -/
theorem map_toNat_hashedBytes (t : Tag) : t.hashedBytes.map UInt8.toNat = t.folded.map Char.toNat := by
  rw [hashedBytes, List.map_map]
  refine List.map_congr_left fun c hc => ?_
  have hascii := toNat_lt_of_mem_folded t hc
  exact Nat.mod_eq_of_lt (by omega)

/-- **Tags hash alike exactly if they are the same.** -/
theorem hashedBytes_eq_iff : a.hashedBytes = b.hashedBytes ↔ a.same b = true := by
  rw [same, Text.sameIgnoringCase_iff]
  constructor
  · intro h
    have hcodes : a.folded.map Char.toNat = b.folded.map Char.toNat := by
      rw [← map_toNat_hashedBytes, h, map_toNat_hashedBytes]
    exact List.map_injective_iff.2 (fun _ _ => Char.toNat_inj.1) hcodes
  · intro h
    have hfolded : a.folded = b.folded := h
    rw [hashedBytes, hashedBytes, hfolded]

/-- The tag stands in the list, and in no spelling before. -/
def FirstIn (x : Tag) (ts : List Tag) : Prop := ∃ pre post, ts = pre ++ x :: post ∧ ∀ t ∈ pre, x.same t = false

end Tag

/-! ## A set made of a list -/

namespace TagSet

variable {s : TagSet} {tag t x : Tag} {ts : List Tag}

/-- **A set made of a list spells a tag as it was spelled first.** -/
theorem spelling?_foldl_insert (ts : List Tag) (s : TagSet) (t : Tag) :
    (ts.foldl insert s).spelling? t = (s.spelling? t).or (ts.find? t.same) := by
  induction ts generalizing s with
  | nil => exact (Option.or_none).symm
  | cons tag ts ih =>
    rw [List.foldl_cons, ih, spelling?_insert, Option.or_assoc, List.find?_cons]
    cases t.same tag <;> rfl

theorem mem_foldl_insert_iff : x ∈ (ts.foldl insert empty).toList ↔ x.FirstIn ts := by
  have hspelling : (ts.foldl insert empty).spelling? x = ts.find? x.same := spelling?_foldl_insert ts empty x
  have hmem : x ∈ (ts.foldl insert empty).toList ↔ ts.find? x.same = some x := by
    rw [← hspelling, spelling?_eq_some_iff, and_iff_left x.same_refl]
  rw [hmem, List.find?_eq_some_iff_append, and_iff_right x.same_refl]
  simp only [Tag.FirstIn, Bool.not_eq_true']

/-- The set has each tag of the list in one spelling. -/
theorem existsUnique_foldl_insert (ht : t ∈ ts) : ∃! x, x ∈ (ts.foldl insert empty).toList ∧ t.same x = true := by
  have hspelling : (ts.foldl insert empty).spelling? t = ts.find? t.same := spelling?_foldl_insert ts empty t
  have hfound : (ts.find? t.same).isSome = true := List.find?_isSome.2 ⟨t, ht, t.same_refl⟩
  obtain ⟨x, hx⟩ := Option.isSome_iff_exists.1 hfound
  refine ⟨x, spelling?_eq_some_iff.1 (hspelling.trans hx), fun y hy => ?_⟩
  have hy' := spelling?_eq_some_iff.2 hy
  rw [hspelling, hx] at hy'
  exact (Option.some.inj hy').symm

theorem insert_of_has (h : s.has tag = true) : s.insert tag = s := by
  refine ext_spelling? fun t => ?_
  rw [spelling?_insert]
  by_cases ht : t.same tag = true
  · have hspelled : (s.spelling? t).isSome = true := by rwa [← has_eq_isSome_spelling?, has_congr s ht]
    rw [Option.or_of_isSome hspelled]
  · rw [if_neg ht, Option.or_none]

theorem insertInto_perm (h : ts.any tag.same = false) : (Tag.insertInto tag ts).Perm (tag :: ts) := by
  induction ts with
  | nil => exact .refl _
  | cons t ts ih =>
    rw [List.any_cons, Bool.or_eq_false_iff] at h
    unfold Tag.insertInto
    split
    · exact .refl _
    · next heq => exact absurd (Tag.order_eq.1 heq) (by simp [h.1])
    · exact ((ih h.2).cons t).trans (.swap tag t ts)

/-- A set grows by each tag that it lacks. -/
theorem length_insert (s : TagSet) (tag : Tag) :
    (s.insert tag).toList.length = if s.has tag then s.toList.length else s.toList.length + 1 := by
  split
  · next h => rw [insert_of_has h]
  · next h => exact (insertInto_perm (Bool.eq_false_iff.2 h)).length_eq

theorem snd_insertEach (ts : List Tag) (s : TagSet) : (s.insertEach ts).2 = ts.foldl insert s := by
  induction ts generalizing s with
  | nil => rfl
  | cons tag ts ih => exact ih (s.insert tag)

/-- An insertion adds the tag unless the set had it to begin with, or got it by an insertion before. -/
theorem getElem?_insertEach (ts : List Tag) (s : TagSet) (i : Nat) :
    (s.insertEach ts).1[i]? = ts[i]?.map fun t => !(s.has t || (ts.take i).any t.same) := by
  induction ts generalizing s i with
  | nil => rfl
  | cons tag ts ih =>
    have hadded : (s.insertEach (tag :: ts)).1 = s.lacks tag :: ((s.insert tag).insertEach ts).1 := rfl
    rw [hadded]
    cases i with
    | zero => simp [lacks]
    | succ i =>
      rw [List.getElem?_cons_succ, List.getElem?_cons_succ, ih]
      refine congrArg (ts[i]?.map ·) (funext fun t => ?_)
      rw [has_insert, List.take_succ_cons, List.any_cons, Bool.or_left_comm, Bool.or_assoc]

end TagSet

/-! ## The same list in a hash table -/

instance : EquivBEq TagKey where
  rfl := Tag.same_refl _
  symm {a b} h := (Tag.same_comm b.tag a.tag).trans h
  trans {_ _ c} hab hbc := (Tag.same_left hab c.tag).trans hbc

instance : LawfulHashable TagKey where
  hash_eq a b h := by
    have hbytes : a.tag.hashedBytes = b.tag.hashedBytes := Tag.hashedBytes_eq_iff.2 h
    simp only [hash, hbytes]

theorem Tag.size_foldl_insert (ts : List Tag) (m : Std.HashSet TagKey) (s : TagSet)
    (hsize : m.size = s.toList.length) (hmem : ∀ t : Tag, m.contains ⟨t⟩ = s.has t) :
    (ts.foldl (fun m t => m.insert ⟨t⟩) m).size = (ts.foldl TagSet.insert s).toList.length := by
  induction ts generalizing m s with
  | nil => exact hsize
  | cons tag ts ih =>
    refine ih _ _ ?_ fun t => ?_
    · simp only [Std.HashSet.size_insert, TagSet.length_insert, ← Std.HashSet.contains_iff_mem, hmem, hsize]
    · rw [Std.HashSet.contains_insert, TagSet.has_insert, hmem]
      exact congrArg (· || s.has t) (Tag.same_comm tag t)

/-- **Tags have one identity.**  Their order is total, tags that compare as equal are those that are the same, and these
are those that hash alike.  So of tags inserted one by one a set keeps, in ascending order, one of each class: the one
inserted first, in its spelling.  The insertions that add to the set are those of the tags it keeps, and a hash table of
all the tags has the size of the set. -/
theorem Tag.identity_coherent :
    ((∀ a b : Tag, (a.order b).swap = b.order a) ∧
      (∀ a b : Tag, (a.order b).isLE = true → (b.order a).isLE = true → a.same b = true) ∧
      ∀ a b c : Tag, (a.order b).isLE = true → (b.order c).isLE = true → (a.order c).isLE = true) ∧
    (∀ a b : Tag, (a.order b = .eq ↔ a.same b = true) ∧ (a.same b = true ↔ a.hashedBytes = b.hashedBytes)) ∧
    ∀ ts : List Tag,
      (TagSet.empty.insertEach ts).2.toList.Pairwise Tag.before ∧
      (∀ x, x ∈ (TagSet.empty.insertEach ts).2.toList ↔ x.FirstIn ts) ∧
      (∀ t ∈ ts, ∃! x, x ∈ (TagSet.empty.insertEach ts).2.toList ∧ t.same x = true) ∧
      (∀ i, (TagSet.empty.insertEach ts).1[i]? = ts[i]?.map fun t => !(ts.take i).any t.same) ∧
      (TagSet.empty.insertEach ts).2.toList.length = Tag.distinct ts := by
  refine ⟨⟨Tag.order_swap, fun _ _ => Tag.same_of_isLE_order, fun _ _ _ => Tag.isLE_order_trans⟩,
    fun _ _ => ⟨Tag.order_eq, Tag.hashedBytes_eq_iff.symm⟩, fun ts => ?_⟩
  rw [TagSet.snd_insertEach]
  refine ⟨(ts.foldl TagSet.insert .empty).ascending, fun _ => TagSet.mem_foldl_insert_iff,
    fun _ => TagSet.existsUnique_foldl_insert, TagSet.getElem?_insertEach ts .empty, ?_⟩
  exact (Tag.size_foldl_insert ts ∅ .empty Std.HashSet.size_empty fun _ => Std.HashSet.contains_empty).symm

/-- One tag in two spellings, and another between them. -/
def Tag.spellings : List Tag :=
  [⟨"NERD".toList, by decide, by decide⟩, ⟨"jazz".toList, by decide, by decide⟩, ⟨"nerd".toList, by decide, by decide⟩]

/-- The second spelling adds nothing, in the set as in the hash table, and the first is kept. -/
theorem Tag.identity_coherent_spellings :
    (TagSet.empty.insertEach spellings).1 = [true, true, false] ∧ Tag.distinct spellings = 2 ∧
    ∀ tag ∈ spellings, ∃! x, x ∈ (TagSet.empty.insertEach spellings).2.toList ∧ tag.same x = true := by
  obtain ⟨-, -, hlist⟩ := Tag.identity_coherent
  obtain ⟨-, -, hunique, -, hsize⟩ := hlist spellings
  exact ⟨by decide, hsize.symm.trans (by decide), hunique⟩

end ChatProfiles
