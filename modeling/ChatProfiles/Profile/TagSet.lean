import ChatProfiles.Profile.Tag
/-!
# Sets of tags

A set lists its tags in strictly ascending order, so it holds at most one spelling
of each: the first that was inserted.  Two sets with the same tags in the same
spellings are equal.
-/
namespace ChatProfiles

namespace Tag

def before (a b : Tag) : Prop := a.order b = .lt

theorem before_trans {a b c : Tag} (h : a.before b) (k : b.before c) : a.before c :=
  Text.order_lt_trans h k

theorem order_gt {a b : Tag} : a.order b = .gt ↔ b.before a := by
  rw [before, order, order, ← Text.order_swap a.folded, Ordering.swap_eq_lt]

theorem order_eq {a b : Tag} : a.order b = .eq ↔ a.same b = true := by
  rw [order, Text.order_eq_eq, same, Text.sameIgnoringCase_iff, folded, folded]

theorem same_refl (a : Tag) : a.same a = true := by simp [same, Text.sameIgnoringCase]

theorem same_comm (a b : Tag) : a.same b = b.same a :=
  Text.sameIgnoringCase_comm a.body b.body

/-- `tag` put before the first tag that comes after it; a list that has the tag stays as it is. -/
def insertInto (tag : Tag) : List Tag → List Tag
  | [] => [tag]
  | t :: rest =>
    match tag.order t with
    | .lt => tag :: t :: rest
    | .eq => t :: rest
    | .gt => t :: insertInto tag rest

theorem mem_insertInto {tag x : Tag} {ts : List Tag} (h : x ∈ insertInto tag ts) :
    x = tag ∨ x ∈ ts := by
  induction ts with
  | nil => simpa [insertInto] using h
  | cons t rest ih =>
    unfold insertInto at h
    split at h
    · simpa using h
    · exact .inr h
    · rcases List.mem_cons.1 h with rfl | h
      · simp
      · rcases ih h with rfl | h <;> simp [*]

theorem insertInto_ascending (tag : Tag) {ts : List Tag} (h : ts.Pairwise before) :
    (insertInto tag ts).Pairwise before := by
  induction ts with
  | nil => simp [insertInto]
  | cons t rest ih =>
    have ⟨ht, hr⟩ := List.pairwise_cons.1 h
    unfold insertInto
    split
    · next hlt =>
      refine List.pairwise_cons.2 ⟨fun x hx => ?_, h⟩
      rcases List.mem_cons.1 hx with rfl | hx
      · exact hlt
      · exact before_trans hlt (ht x hx)
    · exact h
    · next hgt =>
      refine List.pairwise_cons.2 ⟨fun x hx => ?_, ih hr⟩
      rcases mem_insertInto hx with rfl | hx
      · exact order_gt.1 hgt
      · exact ht x hx

end Tag

structure TagSet where
  toList : List Tag
  ascending : toList.Pairwise Tag.before

namespace TagSet

theorem ext_toList {a b : TagSet} (h : a.toList = b.toList) : a = b := by
  cases a; cases b; cases h; rfl

def empty : TagSet := ⟨[], .nil⟩

def isEmpty (s : TagSet) : Bool := s.toList.isEmpty

/-- Whether the set has the tag in any spelling. -/
def has (s : TagSet) (tag : Tag) : Bool := s.toList.any tag.same

def insert (s : TagSet) (tag : Tag) : TagSet :=
  ⟨Tag.insertInto tag s.toList, Tag.insertInto_ascending tag s.ascending⟩

/-- Whether an insertion of the tag adds to the set. -/
def lacks (s : TagSet) (tag : Tag) : Bool := !s.has tag

/-- The tags inserted one by one: which of them have added to the set, and the set after the last. -/
def insertEach (s : TagSet) : List Tag → List Bool × TagSet
  | [] => ([], s)
  | tag :: rest =>
    let (added, all) := (s.insert tag).insertEach rest
    (s.lacks tag :: added, all)

/-- The set without the tag, in whatever spelling it has it. -/
def erase (s : TagSet) (tag : Tag) : TagSet :=
  ⟨s.toList.filter (!tag.same ·), s.ascending.filter _⟩

def ofList (tags : List Tag) : TagSet := tags.foldl insert empty

def isSubset (a b : TagSet) : Bool := a.toList.all b.has

def isDisjoint (a b : TagSet) : Bool := a.toList.all (!b.has ·)

end TagSet

end ChatProfiles
