import ChatProfiles.Proofs.Registry
import Mathlib.Data.Set.Finite.List
/-!
# Calls on a registry

A registry is called by whoever runs the bot, in any order and for any groups.  What the answers should be is said of
a map from a group and a member to a profile, without the registry: `Answers` is one call on such a map, `Runs` is a
sequence of them.  Neither says how a list is built or a name searched for, only what must be true of the result, and
still each call has one answer (`Answers.unique`).  A registry gives that answer at every call (`answers_call`), hence
over a whole sequence (`runs_calls`).
-/
namespace ChatProfiles

namespace Registry

/-- What a registry can be called for. -/
inductive Request where
  | get (group member : Int)
  | enter (group : Int) (m : Member)
  | put (group : Int) (p : Profile)
  | list (group : Int)
  | find (group : Int) (username : Text)
  | count (group : Int)

namespace Request

/-- The group a call is about. -/
def group : Request → Int
  | get g _ | enter g _ | put g _ | list g | find g _ | count g => g

/-- A call that only asks. -/
def isQuestion : Request → Bool
  | enter .. | put .. => false
  | get .. | list .. | find .. | count .. => true

end Request

inductive Answer where
  | looked (p : Option Profile)
  | entered (p : Profile)
  | filed
  | listed (ps : List Profile)
  | searched (found : Except LookupError (Option Profile))
  | counted (n : Nat)

def call (r : Registry) : Request → Answer × Registry
  | .get g m => (.looked (r.get? g m), r)
  | .enter g m => (.entered (r.enter g m).1, (r.enter g m).2)
  | .put g p => (.filed, r.put g p)
  | .list g => (.listed (r.profiles g), r)
  | .find g username => (.searched (r.findByUsername g username), r)
  | .count g => (.counted (r.count g), r)

/-- The answers to calls made one after the other, and the registry after the last. -/
def calls (r : Registry) : List Request → List Answer × Registry
  | [] => ([], r)
  | c :: cs => ((r.call c).1 :: ((r.call c).2.calls cs).1, ((r.call c).2.calls cs).2)

end Registry

/-! ## The map -/

/-- The profile of each member of each group. -/
abbrev ProfileMap := Int → Int → Option Profile

/-- The member goes by the username, whatever the case of its ASCII letters. -/
def Profile.GoesBy (p : Profile) (username : Text) : Prop :=
  ∃ u, p.member.username = some u ∧ Text.fold u = Text.fold username

namespace ProfileMap

open Registry (Request Answer)

def empty : ProfileMap := fun _ _ => none

def write (f : ProfileMap) (group : Int) (p : Profile) : ProfileMap :=
  fun g m => if group = g ∧ p.id = m then some p else f g m

/-- The groups and members a profile is written for. -/
def keys (f : ProfileMap) : Set (Int × Int) := {key | ∃ p, f key.1 key.2 = some p}

/-- Each of the group's profiles once, by ascending identifier, and each written under its own. -/
structure Lists (f : ProfileMap) (group : Int) (ps : List Profile) : Prop where
  ascending : ps.Pairwise fun p q => p.id < q.id
  mem_iff : ∀ p, p ∈ ps ↔ ∃ m, f group m = some p
  own : ∀ p ∈ ps, f group p.id = some p

/-- What a search for a username finds. -/
inductive Finds (f : ProfileMap) (group : Int) (username : Text) : Except LookupError (Option Profile) → Prop
  | blank (hw : Text.trim username = []) : Finds f group username (.error .blankUsername)
  | lowest (hw : Text.trim username ≠ []) {m : Int} {p : Profile} (hp : f group m = some p)
      (goes : p.GoesBy username) (le : ∀ k q, f group k = some q → q.GoesBy username → m ≤ k) :
      Finds f group username (.ok (some p))
  | nobody (hw : Text.trim username ≠ []) (nobody : ∀ m p, f group m = some p → ¬ p.GoesBy username) :
      Finds f group username (.ok none)

/-- One call on the map: what is called, what is answered, and the map afterwards. -/
inductive Answers (f : ProfileMap) : Request → Answer → ProfileMap → Prop
  | get (g m : Int) : Answers f (.get g m) (.looked (f g m)) f
  | enterNew {g : Int} {m : Member} (h : f g m.id = none) :
      Answers f (.enter g m) (.entered { member := m }) (f.write g { member := m })
  | enterKnown {g : Int} {m : Member} {p : Profile} (h : f g m.id = some p) :
      Answers f (.enter g m) (.entered { p with member := m }) (f.write g { p with member := m })
  | put (g : Int) (p : Profile) : Answers f (.put g p) .filed (f.write g p)
  | list {g : Int} {ps : List Profile} (h : f.Lists g ps) : Answers f (.list g) (.listed ps) f
  | find {g : Int} {username : Text} {found : Except LookupError (Option Profile)} (h : f.Finds g username found) :
      Answers f (.find g username) (.searched found) f
  | count {g : Int} {ps : List Profile} (h : f.Lists g ps) : Answers f (.count g) (.counted ps.length) f

/-- A sequence of calls on the map, with their answers and the map after the last. -/
inductive Runs : ProfileMap → List Request → List Answer → ProfileMap → Prop
  | nil (f : ProfileMap) : Runs f [] [] f
  | cons {f f' f'' : ProfileMap} {c : Request} {cs : List Request} {a : Answer} {as : List Answer}
      (head : Answers f c a f') (tail : Runs f' cs as f'') : Runs f (c :: cs) (a :: as) f''

/-! ## A call has one answer -/

variable {f : ProfileMap} {g : Int}

theorem Lists.unique {ps qs : List Profile} (h : f.Lists g ps) (k : f.Lists g qs) : ps = qs :=
  Profile.eq_of_ascending h.ascending k.ascending fun p => by rw [h.mem_iff, k.mem_iff]

theorem Finds.unique {username : Text} {a b : Except LookupError (Option Profile)} (h : f.Finds g username a)
    (k : f.Finds g username b) : a = b := by
  cases h with
  | blank hw =>
    cases k with
    | blank => rfl
    | lowest hw' => exact absurd hw hw'
    | nobody hw' => exact absurd hw hw'
  | lowest hw hp goes le =>
    cases k with
    | blank hw' => exact absurd hw' hw
    | lowest _ hq goes' le' =>
      have hkey := Int.le_antisymm (le _ _ hq goes') (le' _ _ hp goes)
      rw [← hkey, hp] at hq
      rw [Option.some.inj hq]
    | nobody _ nobody => exact absurd goes (nobody _ _ hp)
  | nobody hw nobody =>
    cases k with
    | blank hw' => exact absurd hw' hw
    | lowest _ hq goes' => exact absurd goes' (nobody _ _ hq)
    | nobody => rfl

/-- **What a call on the map answers, and what it leaves, is determined.** -/
theorem Answers.unique {c : Request} {a b : Answer} {f₁ f₂ : ProfileMap} (h : Answers f c a f₁) (k : Answers f c b f₂) :
    a = b ∧ f₁ = f₂ := by
  cases h with
  | get => cases k; exact ⟨rfl, rfl⟩
  | enterNew h =>
    cases k with
    | enterNew => exact ⟨rfl, rfl⟩
    | enterKnown k => rw [h] at k; cases k
  | enterKnown h =>
    cases k with
    | enterNew k => rw [h] at k; cases k
    | enterKnown k => obtain rfl := Option.some.inj (h.symm.trans k); exact ⟨rfl, rfl⟩
  | put => cases k; exact ⟨rfl, rfl⟩
  | list h => cases k with | list k => exact ⟨by rw [h.unique k], rfl⟩
  | find h => cases k with | find k => exact ⟨by rw [h.unique k], rfl⟩
  | count h => cases k with | count k => exact ⟨by rw [h.unique k], rfl⟩

theorem Runs.unique {cs : List Request} {as bs : List Answer} {f₁ f₂ : ProfileMap} (h : Runs f cs as f₁)
    (k : Runs f cs bs f₂) : as = bs ∧ f₁ = f₂ := by
  induction h generalizing bs f₂ with
  | nil => cases k; exact ⟨rfl, rfl⟩
  | cons head _ ih =>
    cases k with
    | cons head' tail' =>
      obtain ⟨rfl, rfl⟩ := head.unique head'
      obtain ⟨rfl, rfl⟩ := ih tail'
      exact ⟨rfl, rfl⟩

/-! ## A search of a list -/

theorem goesBy_iff {p : Profile} {username : Text} : p.member.hasUsername username = true ↔ p.GoesBy username := by
  rw [Member.hasUsername, Option.any_eq_true]
  simp only [Text.sameIgnoringCase_iff, Profile.GoesBy]

variable {ps : List Profile}

/-- The first of a group's profiles to pass a test is the one of the lowest member who does. -/
theorem Lists.le_of_find? (h : f.Lists g ps) {test : Profile → Bool} {p q : Profile} (hp : ps.find? test = some p)
    (hq : q ∈ ps) (ht : test q = true) : p.id ≤ q.id := by
  obtain ⟨-, before, after, rfl, hbefore⟩ := List.find?_eq_some_iff_append.1 hp
  rw [List.mem_append, List.mem_cons] at hq
  rcases hq with hq | rfl | hq
  · have := hbefore q hq
    rw [ht] at this; cases this
  · exact Int.le_refl _
  · exact Int.le_of_lt (List.rel_of_pairwise_cons (List.pairwise_append.1 h.ascending).2.1 hq)

/-- **To search a map for a username is to search the list of the group**, if profiles are written under their own
identifiers. -/
theorem Lists.finds (h : f.Lists g ps) (own : ∀ m p, f g m = some p → p.id = m) (username : Text) :
    Finds f g username (if Text.isBlankOnly username then .error .blankUsername
      else .ok (ps.find? (·.member.hasUsername username))) := by
  unfold Text.isBlankOnly
  by_cases hw : Text.trim username = []
  · rw [if_pos (List.isEmpty_iff.2 hw)]
    exact .blank hw
  rw [if_neg fun k => hw (List.isEmpty_iff.1 k)]
  cases hf : ps.find? (·.member.hasUsername username) with
  | none =>
    refine .nobody hw fun m p hp goes => ?_
    exact List.find?_eq_none.1 hf p ((h.mem_iff p).2 ⟨m, hp⟩) (goesBy_iff.2 goes)
  | some p =>
    have hp := h.own p (List.mem_of_find?_eq_some hf)
    have goes := List.find?_some hf
    refine .lowest hw hp (goesBy_iff.1 goes) fun k q hq goes => ?_
    have hmem := (h.mem_iff q).2 ⟨k, hq⟩
    have hle := h.le_of_find? hf hmem (goesBy_iff.2 goes)
    rwa [own k q hq] at hle

end ProfileMap

/-! ## A registry gives it -/

namespace Registry

open ProfileMap

theorem lists_profiles (r : Registry) (g : Int) : Lists r.get? g (r.profiles g) where
  ascending := profiles_ascending r g
  mem_iff p := by
    rw [mem_profiles_iff]
    refine ⟨fun h => ⟨p.id, h⟩, ?_⟩
    rintro ⟨m, h⟩
    rw [id_of_get? h, h]
  own _ := mem_profiles_iff.1

theorem finds_findByUsername (r : Registry) (g : Int) (username : Text) :
    Finds r.get? g username (r.findByUsername g username) :=
  (lists_profiles r g).finds (fun _ _ => id_of_get?) username

theorem get?_put_eq_write (r : Registry) (g : Int) (p : Profile) : (r.put g p).get? = ProfileMap.write r.get? g p := by
  funext g' m
  exact get?_put r g p g' m

/-- **A registry answers a call as the map of its profiles does**, and is left with that map's profiles. -/
theorem answers_call (r : Registry) (c : Request) : Answers r.get? c (r.call c).1 (r.call c).2.get? := by
  cases c with
  | get g m => exact .get g m
  | enter g m =>
    have hput : (r.enter g m).2.get? = ProfileMap.write r.get? g (r.enter g m).1 := get?_put_eq_write r g _
    rw [call, hput, enter_fst]
    cases h : r.get? g m.id with
    | none => exact .enterNew h
    | some p => exact .enterKnown h
  | put g p => rw [call, get?_put_eq_write]; exact .put g p
  | list g => exact .list (lists_profiles r g)
  | find g username => exact .find (finds_findByUsername r g username)
  | count g => exact .count (lists_profiles r g)

theorem runs_calls (r : Registry) (cs : List Request) : Runs r.get? cs (r.calls cs).1 (r.calls cs).2.get? := by
  induction cs generalizing r with
  | nil => exact .nil _
  | cons c cs ih => exact .cons (answers_call r c) (ih (r.call c).2)

theorem calls_append_snd (r : Registry) (cs ds : List Request) :
    (r.calls (cs ++ ds)).2 = ((r.calls cs).2.calls ds).2 := by
  induction cs generalizing r with
  | nil => rfl
  | cons c cs ih => exact ih (r.call c).2

theorem keys_finite (r : Registry) : (ProfileMap.keys r.get?).Finite := by
  refine (r.entries.map fun e => (e.group, e.profile.id)).finite_toSet.subset ?_
  rintro ⟨g, m⟩ ⟨p, hp⟩
  obtain ⟨hmem, rfl⟩ := get?_eq_some_iff.1 hp
  exact List.mem_map.2 ⟨_, hmem, rfl⟩

/-- A call that only asks leaves the registry as it was. -/
theorem call_question {r : Registry} {c : Request} (h : c.isQuestion = true) : (r.call c).2 = r := by
  cases c with
  | enter | put => cases h
  | get | list | find | count => rfl

theorem get?_call_of_ne {r : Registry} {c : Request} {g : Int} (h : c.group ≠ g) (m : Int) :
    (r.call c).2.get? g m = r.get? g m := by
  cases c with
  | enter g' m' => rw [call, get?_enter, if_neg fun k => h k.1]
  | put g' p => rw [call, get?_put, if_neg fun k => h k.1]
  | get | list | find | count => rfl

/-- **What a call answers depends on its own group only.** -/
theorem answer_congr {a b : Registry} {c : Request} (h : ∀ m, a.get? c.group m = b.get? c.group m) :
    (a.call c).1 = (b.call c).1 := by
  have hlist : a.profiles c.group = b.profiles c.group := profiles_congr h
  cases c with
  | get g m => exact congrArg Answer.looked (h m)
  | enter g m =>
    have hm : a.get? g m.id = b.get? g m.id := h m.id
    rw [call, call, enter_fst, enter_fst, hm]
  | put => rfl
  | list => exact congrArg Answer.listed hlist
  | find g username =>
    have hlist : a.profiles g = b.profiles g := hlist
    rw [call, call, findByUsername, findByUsername, hlist]
  | count => exact congrArg Answer.counted (congrArg List.length hlist)

end Registry

end ChatProfiles
