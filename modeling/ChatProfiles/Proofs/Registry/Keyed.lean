import ChatProfiles.Proofs.Registry.Calls
import ChatProfiles.Store
/-!
# The store answers as the registry

A store keeps a profile under the key it is filed with.  That the key is the identifier the profile carries has to be
shown: nothing is under a wrong key in an empty store, and every call keeps it so (`Keyed.call`).  Then what is listed
by ascending keys is listed by ascending identifiers, and what is filed under a key is written for its member, so a
store answers a call as the map of its profiles does (`Keyed.answers_call`).  As such a map has one answer, a store and
a registry answer the same calls alike (`calls_eq`).
-/
namespace ChatProfiles

namespace Store

open Registry (Request Answer)
open ProfileMap

def call (s : Store) : Request → Answer × Store
  | .get g m => (.looked (s.get? g m), s)
  | .enter g m => (.entered (s.enter g m).1, (s.enter g m).2)
  | .put g p => (.filed, s.put g p)
  | .list g => (.listed (s.profiles g), s)
  | .find g username => (.searched (s.findByUsername g username), s)
  | .count g => (.counted (s.count g), s)

def calls (s : Store) : List Request → List Answer × Store
  | [] => ([], s)
  | c :: cs => ((s.call c).1 :: ((s.call c).2.calls cs).1, ((s.call c).2.calls cs).2)

variable {s : Store}

/-! ## Keys -/

/-- Every profile is kept under the identifier it carries. -/
def Keyed (s : Store) : Prop := ∀ g key p, s.get? g key = some p → p.id = key

theorem get?_empty : empty.get? = ProfileMap.empty := by
  funext g key
  simp [get?, members, empty, ProfileMap.empty]

theorem keyed_empty : empty.Keyed := fun g key p h => by
  rw [get?_empty] at h
  cases h

/-- **A profile filed is found under its key, and nothing else is answered differently.** -/
theorem get?_file (s : Store) (group key : Int) (p : Profile) (g k : Int) :
    (s.file group key p).get? g k = if group = g ∧ key = k then some p else s.get? g k := by
  unfold get? file members
  rw [Std.HashMap.getD_insert]
  by_cases hg : group = g
  · subst hg
    rw [if_pos (beq_self_eq_true group), Std.TreeMap.getElem?_insert]
    simp only [Std.LawfulEqCmp.compare_eq_iff_eq, true_and]
  · rw [if_neg (by simpa using hg), if_neg fun h => hg h.1]

theorem Keyed.file (h : s.Keyed) {group key : Int} {p : Profile} (hp : p.id = key) : (s.file group key p).Keyed := by
  intro g k q hq
  rw [get?_file] at hq
  split at hq
  · next hkey =>
    cases hq
    exact hp.trans hkey.2
  · exact h g k q hq

/-- Whoever is entered carries the identifier that is the key: the record is the one that was given. -/
theorem id_enter (s : Store) (group : Int) (m : Member) : (s.enter group m).1.id = m.id := by
  unfold enter
  cases s.get? group m.id <;> rfl

/-- **No call files a profile under another's key.** -/
theorem Keyed.call (h : s.Keyed) (c : Request) : (s.call c).2.Keyed := by
  cases c with
  | enter g m => exact h.file (id_enter s g m)
  | put g p => exact h.file rfl
  | get | list | find | count => exact h

theorem Keyed.calls (h : s.Keyed) (cs : List Request) : (s.calls cs).2.Keyed := by
  induction cs generalizing s with
  | nil => exact h
  | cons c cs ih => exact ih (h.call c)

/-! ## Answers -/

theorem mem_profiles_iff {g : Int} {p : Profile} : p ∈ s.profiles g ↔ ∃ key, s.get? g key = some p := by
  simp only [profiles, get?, List.mem_map, Prod.exists, exists_eq_right, Std.TreeMap.mem_toList_iff_getElem?_eq_some]

theorem Keyed.lists_profiles (h : s.Keyed) (g : Int) : Lists s.get? g (s.profiles g) where
  ascending := by
    refine List.pairwise_map.2 (Std.TreeMap.ordered_keys_toList.imp_of_mem fun {a b} ha hb hab => ?_)
    have hida : a.2.id = a.1 := h g a.1 a.2 (Std.TreeMap.mem_toList_iff_getElem?_eq_some.1 ha)
    have hidb : b.2.id = b.1 := h g b.1 b.2 (Std.TreeMap.mem_toList_iff_getElem?_eq_some.1 hb)
    rw [hida, hidb]
    exact Int.compare_eq_lt.1 hab
  mem_iff _ := mem_profiles_iff
  own p hp := by
    obtain ⟨key, hkey⟩ := mem_profiles_iff.1 hp
    rwa [h g key p hkey]

theorem get?_file_eq_write (s : Store) (g : Int) {key : Int} {p : Profile} (hp : p.id = key) :
    (s.file g key p).get? = ProfileMap.write s.get? g p := by
  subst hp
  funext g' k
  exact get?_file s g p.id p g' k

/-- **A store whose keys are right answers a call as the map of its profiles does.** -/
theorem Keyed.answers_call (h : s.Keyed) (c : Request) : Answers s.get? c (s.call c).1 (s.call c).2.get? := by
  cases c with
  | get g m => exact .get g m
  | enter g m =>
    have hfile : (s.enter g m).2.get? = ProfileMap.write s.get? g (s.enter g m).1 :=
      get?_file_eq_write s g (id_enter s g m)
    rw [Store.call, hfile, enter]
    cases hm : s.get? g m.id with
    | none => exact .enterNew hm
    | some p => exact .enterKnown hm
  | put g p => rw [Store.call, put, get?_file_eq_write s g rfl]; exact .put g p
  | list g => exact .list (h.lists_profiles g)
  | find g username => exact .find ((h.lists_profiles g).finds (h g) username)
  | count g =>
    have hcount : s.count g = (s.profiles g).length := by
      rw [count, profiles, List.length_map, Std.TreeMap.length_toList]
    rw [Store.call, hcount]
    exact .count (h.lists_profiles g)

theorem Keyed.runs_calls (h : s.Keyed) (cs : List Request) : Runs s.get? cs (s.calls cs).1 (s.calls cs).2.get? := by
  induction cs generalizing s with
  | nil => exact .nil _
  | cons c cs ih => exact .cons (h.answers_call c) (ih (h.call c))

/-- **The same calls, the same answers**, and the same profiles in the end, from a store and from a registry. -/
theorem calls_eq (cs : List Request) :
    (empty.calls cs).1 = (Registry.empty.calls cs).1 ∧ (empty.calls cs).2.get? = (Registry.empty.calls cs).2.get? :=
  (get?_empty ▸ keyed_empty.runs_calls cs).unique (Registry.runs_calls .empty cs)

end Store

namespace Registry

open ProfileMap

/-- **Any calls on an empty registry are answered as a finite map answers them**: the answers and the profiles held in
the end are those of the map and no others.  The profiles are finitely many, each under its own identifier; a call
that only asks leaves the registry as it was, and no call is felt in another group.  A store, which has its profiles
under keys, gives the same answers, has the same profiles, and each under the identifier that it carries. -/
theorem answers_as_finite_map (cs : List Request) :
    (∀ answers f, Runs ProfileMap.empty cs answers f ↔
      answers = (empty.calls cs).1 ∧ f = (empty.calls cs).2.get?) ∧
    (ProfileMap.keys (empty.calls cs).2.get?).Finite ∧
    (∀ g m p, (empty.calls cs).2.get? g m = some p → p.id = m) ∧
    (∀ c : Request, c.isQuestion = true → ((empty.calls cs).2.call c).2 = (empty.calls cs).2) ∧
    (∀ c d : Request, c.group ≠ d.group →
      (∀ m, ((empty.calls cs).2.call c).2.get? d.group m = (empty.calls cs).2.get? d.group m) ∧
      (((empty.calls cs).2.call c).2.call d).1 = ((empty.calls cs).2.call d).1) ∧
    (Store.empty.calls cs).1 = (empty.calls cs).1 ∧
    (Store.empty.calls cs).2.get? = (empty.calls cs).2.get? ∧
    ∀ g key p, (Store.empty.calls cs).2.get? g key = some p → p.id = key := by
  refine ⟨fun answers f => ⟨fun h => ?_, ?_⟩, keys_finite _, fun _ _ _ => id_of_get?, fun _ => call_question,
    fun c d h => ⟨get?_call_of_ne h, answer_congr (get?_call_of_ne h)⟩, (Store.calls_eq cs).1, (Store.calls_eq cs).2,
    Store.keyed_empty.calls cs⟩
  · exact h.unique (runs_calls empty cs)
  · rintro ⟨rfl, rfl⟩
    exact runs_calls empty cs

end Registry

end ChatProfiles
