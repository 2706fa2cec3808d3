import ChatProfiles.Profile.Basic
import ChatProfiles.Text.Blank
/-!
# The registry of profiles

Every group keeps its own profiles, one for each member who ever edited it.  The
registry lists them all in strictly ascending order of group and member, so a
group's profiles come in the order of their members' identifiers and two
registries that answer alike are equal.

A profile is filed under the identifier it carries, so no profile can be filed
under another member's name.
-/
namespace ChatProfiles

structure Entry where
  group : Int
  profile : Profile

namespace Entry

def before (a b : Entry) : Prop :=
  a.group < b.group ∨ a.group = b.group ∧ a.profile.id < b.profile.id

instance (a b : Entry) : Decidable (a.before b) := inferInstanceAs (Decidable (_ ∨ _))

def hasKey (e : Entry) (group member : Int) : Bool := e.group == group && e.profile.id == member

theorem before_trans {a b c : Entry} (h : a.before b) (k : b.before c) : a.before c := by
  unfold before at *; omega

theorem hasKey_iff {e : Entry} {group member : Int} :
    e.hasKey group member = true ↔ e.group = group ∧ e.profile.id = member := by
  simp [hasKey]

/-- `e` filed in its place, in the place of an entry with its key if there is one. -/
def insertInto (e : Entry) : List Entry → List Entry
  | [] => [e]
  | x :: rest =>
    if e.before x then e :: x :: rest
    else if x.before e then x :: insertInto e rest
    else e :: rest

theorem mem_insertInto {e x : Entry} {es : List Entry} (h : x ∈ insertInto e es) :
    x = e ∨ x ∈ es := by
  induction es with
  | nil => simpa [insertInto] using h
  | cons y rest ih =>
    unfold insertInto at h
    split at h
    · simpa using h
    · split at h
      · rcases List.mem_cons.1 h with rfl | h
        · simp
        · rcases ih h with rfl | h <;> simp [*]
      · rcases List.mem_cons.1 h with rfl | h <;> simp [*]

theorem insertInto_ascending (e : Entry) {es : List Entry} (h : es.Pairwise before) :
    (insertInto e es).Pairwise before := by
  induction es with
  | nil => simp [insertInto]
  | cons y rest ih =>
    have ⟨hy, hr⟩ := List.pairwise_cons.1 h
    unfold insertInto
    split
    · next hlt =>
      refine List.pairwise_cons.2 ⟨fun x hx => ?_, h⟩
      rcases List.mem_cons.1 hx with rfl | hx
      · exact hlt
      · exact before_trans hlt (hy x hx)
    · split
      · next hgt =>
        refine List.pairwise_cons.2 ⟨fun x hx => ?_, ih hr⟩
        rcases mem_insertInto hx with rfl | hx
        · exact hgt
        · exact hy x hx
      · next h1 h2 =>
        refine List.pairwise_cons.2 ⟨fun x hx => ?_, hr⟩
        have hyx := hy x hx
        unfold before at *; omega

end Entry

structure Registry where
  entries : List Entry
  ascending : entries.Pairwise Entry.before

/-- A lookup by a username that is blank. -/
inductive LookupError where
  | blankUsername
deriving DecidableEq

def LookupError.message : LookupError → Text
  | .blankUsername => "invalid input: username must not be blank".toList

namespace Registry

theorem ext_entries {a b : Registry} (h : a.entries = b.entries) : a = b := by
  cases a; cases b; cases h; rfl

def empty : Registry := ⟨[], .nil⟩

def get? (r : Registry) (group member : Int) : Option Profile :=
  (r.entries.find? (·.hasKey group member)).map Entry.profile

/-- The profile takes the place of the member's former one. -/
def put (r : Registry) (group : Int) (p : Profile) : Registry :=
  ⟨Entry.insertInto ⟨group, p⟩ r.entries, Entry.insertInto_ascending _ r.ascending⟩

/-- The member's profile, blank if there was none, with what the chat now tells about the member;
and the registry that holds it. -/
def enter (r : Registry) (group : Int) (m : Member) : Profile × Registry :=
  let p := match r.get? group m.id with
    | some p => p.withMember m
    | none => .blank m
  (p, r.put group p)

/-- The group's profiles, by ascending member identifier. -/
def profiles (r : Registry) (group : Int) : List Profile :=
  (r.entries.filter (·.group == group)).map Entry.profile

def count (r : Registry) (group : Int) : Nat := (r.profiles group).length

/-- The first of the group's profiles whose member has the username. -/
def findByUsername (r : Registry) (group : Int) (username : Text) :
    Except LookupError (Option Profile) :=
  if Text.isBlankOnly username then .error .blankUsername
  else .ok ((r.profiles group).find? (·.member.hasUsername username))

end Registry

end ChatProfiles
