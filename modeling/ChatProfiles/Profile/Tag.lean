import ChatProfiles.Text.Order
import Std.Data.HashSet
/-!
# Tags

A tag is a word of ASCII letters and digits.  Two tags are the same when they
differ only in letter case; the spelling is kept, but nothing except writing the
tag depends on it.  Sameness, order and hash all look at the folded body.
-/
namespace ChatProfiles

structure Tag where
  body : Text
  nonempty : body ≠ []
  alphanumeric : body.all Char.isAlphanum = true

namespace Tag

theorem ext_body {a b : Tag} (h : a.body = b.body) : a = b := by
  cases a; cases b; cases h; rfl

instance : DecidableEq Tag := fun a b =>
  if h : a.body = b.body then isTrue (ext_body h) else isFalse fun e => h (e ▸ rfl)

def ofBody? (body : Text) : Option Tag :=
  if h : body ≠ [] ∧ body.all Char.isAlphanum = true then some ⟨body, h.1, h.2⟩ else none

theorem ofBody?_body (t : Tag) : ofBody? t.body = some t := by
  simp [ofBody?, t.nonempty, t.alphanumeric]

theorem ofBody?_eq_some_iff {body : Text} {t : Tag} : ofBody? body = some t ↔ body = t.body := by
  refine ⟨fun h => ?_, fun h => h ▸ ofBody?_body t⟩
  unfold ofBody? at h
  split at h <;> cases h
  rfl

def folded (t : Tag) : Text := Text.fold t.body

def same (a b : Tag) : Bool := Text.sameIgnoringCase a.body b.body

def order (a b : Tag) : Ordering := Text.order a.folded b.folded

/-- What a hash of the tag is computed from. -/
def hashedBytes (t : Tag) : List UInt8 := t.folded.map fun c => c.toNat.toUInt8

def write (t : Tag) : Text := '#' :: t.body

end Tag

/-! ## Tags up to letter case

A tag in a hash table stands for all its spellings. -/

/-- A tag as a key: equality and hash ignore letter case. -/
structure TagKey where
  tag : Tag

instance : BEq TagKey := ⟨fun a b => a.tag.same b.tag⟩

instance : Hashable TagKey :=
  ⟨fun k => k.tag.hashedBytes.foldl (fun h b => mixHash h b.toUInt64) 7⟩

/-- How many different tags a list holds. -/
def Tag.distinct (tags : List Tag) : Nat :=
  (tags.foldl (fun (s : Std.HashSet TagKey) t => s.insert ⟨t⟩) ∅).size

end ChatProfiles
