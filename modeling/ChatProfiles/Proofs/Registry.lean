import ChatProfiles.Registry
import Mathlib.Data.List.Sort
/-!
# What a registry answers

A registry is a list of entries, and everything the bot asks of it is a lookup.  This module ties the two: filing a
profile changes the answer for one group and one member (`get?_put`), entering a member files what the chat tells
about it (`get?_enter`), and the answers are all there is to a registry (`ext_get?`), because its entries are in
strictly ascending order.
-/
namespace ChatProfiles

namespace Entry

instance : Std.Irrefl before := ⟨fun e h => by unfold before at h; omega⟩

instance : Std.Antisymm before := ⟨fun a b h k => by unfold before at h k; omega⟩

/-- In an ascending list no two entries have the same key. -/
theorem eq_of_key_eq {es : List Entry} (h : es.Pairwise before) {a b : Entry} (ha : a ∈ es) (hb : b ∈ es)
    (hg : a.group = b.group) (hm : a.profile.id = b.profile.id) : a = b := by
  induction es with
  | nil => cases ha
  | cons x rest ih =>
    obtain ⟨hx, hrest⟩ := List.pairwise_cons.1 h
    rcases List.mem_cons.1 ha with hax | ha <;> rcases List.mem_cons.1 hb with hbx | hb
    · rw [hax, hbx]
    · have := hx b hb
      rw [← hax] at this
      unfold before at this; omega
    · have := hx a ha
      rw [← hbx] at this
      unfold before at this; omega
    · exact ih hrest ha hb

theorem hasKey_false_of_before {a b : Entry} {group member : Int} (h : a.before b)
    (ha : a.hasKey group member = true) : b.hasKey group member = false := by
  rw [hasKey_iff] at ha
  rw [Bool.eq_false_iff, Ne, hasKey_iff]
  unfold before at h; omega

/-- **Filing an entry changes the search for its own key only.** -/
theorem find?_insertInto (e : Entry) (group member : Int) : ∀ es : List Entry,
    (insertInto e es).find? (·.hasKey group member) =
      if e.hasKey group member then some e else es.find? (·.hasKey group member)
  | [] => by cases h : e.hasKey group member <;> simp [insertInto, h]
  | x :: rest => by
    unfold insertInto
    by_cases hex : e.before x
    · rw [if_pos hex, List.find?_cons]
      cases h : e.hasKey group member <;> simp
    · rw [if_neg hex]
      by_cases hxe : x.before e
      · rw [if_pos hxe, List.find?_cons, List.find?_cons, find?_insertInto e group member rest]
        cases hx : x.hasKey group member with
        | false => rfl
        | true => simp [hasKey_false_of_before hxe hx]
      · -- neither comes before the other, so `e` has the key of `x`
        have hkey : x.hasKey group member = e.hasKey group member := by
          unfold before at hex hxe
          rw [Bool.eq_iff_iff, hasKey_iff, hasKey_iff]; omega
        rw [if_neg hxe, List.find?_cons, List.find?_cons, hkey]
        cases h : e.hasKey group member <;> simp

end Entry

/-- Profiles in ascending order are known by which they are. -/
theorem Profile.eq_of_ascending {ps qs : List Profile} (hps : ps.Pairwise fun p q => p.id < q.id)
    (hqs : qs.Pairwise fun p q => p.id < q.id) (h : ∀ p, p ∈ ps ↔ p ∈ qs) : ps = qs := by
  have : Std.Irrefl fun p q : Profile => p.id < q.id := ⟨fun p => Int.lt_irrefl p.id⟩
  have : Std.Antisymm fun p q : Profile => p.id < q.id := ⟨fun p q hpq hqp => by omega⟩
  exact List.Pairwise.eq_of_mem_iff hps hqs h

namespace Registry

/-- **A profile filed is found under its own group and member, and nothing else is answered differently.** -/
theorem get?_put (r : Registry) (group : Int) (p : Profile) (g m : Int) :
    (r.put group p).get? g m = if group = g ∧ p.id = m then some p else r.get? g m := by
  unfold get? put
  rw [Entry.find?_insertInto]
  have hkey : (⟨group, p⟩ : Entry).hasKey g m = true ↔ group = g ∧ p.id = m := Entry.hasKey_iff
  by_cases h : group = g ∧ p.id = m
  · rw [if_pos (hkey.2 h), if_pos h]; rfl
  · rw [if_neg (fun hk => h (hkey.1 hk)), if_neg h]

theorem get?_eq_some_iff {r : Registry} {g m : Int} {p : Profile} :
    r.get? g m = some p ↔ ⟨g, p⟩ ∈ r.entries ∧ p.id = m := by
  unfold get?
  rw [Option.map_eq_some_iff]
  constructor
  · rintro ⟨e, he, rfl⟩
    have hkey := List.find?_some he
    simp only [Entry.hasKey_iff] at hkey
    obtain ⟨rfl, rfl⟩ := hkey
    exact ⟨List.mem_of_find?_eq_some he, rfl⟩
  · rintro ⟨hmem, rfl⟩
    cases hf : r.entries.find? (·.hasKey g p.id) with
    | none => exact absurd (Entry.hasKey_iff.2 ⟨rfl, rfl⟩) (List.find?_eq_none.1 hf _ hmem)
    | some e =>
      have hkey := List.find?_some hf
      simp only [Entry.hasKey_iff] at hkey
      have := Entry.eq_of_key_eq r.ascending (List.mem_of_find?_eq_some hf) hmem hkey.1 hkey.2
      exact ⟨e, rfl, by rw [this]⟩

/-- A profile is filed under the identifier it carries. -/
theorem id_of_get? {r : Registry} {g m : Int} {p : Profile} (h : r.get? g m = some p) : p.id = m :=
  (get?_eq_some_iff.1 h).2

/-- **Registries that answer every lookup alike are equal.** -/
theorem ext_get? {a b : Registry} (h : ∀ g m, a.get? g m = b.get? g m) : a = b := by
  refine ext_entries (List.Pairwise.eq_of_mem_iff a.ascending b.ascending fun e => ?_)
  have hmem : ∀ r : Registry, e ∈ r.entries ↔ r.get? e.group e.profile.id = some e.profile := fun r => by
    rw [get?_eq_some_iff, and_iff_left rfl]
  rw [hmem, hmem, h]

/-! ## Entering a member -/

theorem enter_fst (r : Registry) (group : Int) (m : Member) :
    (r.enter group m).1 = ((r.get? group m.id).getD (.blank m)).withMember m := by
  unfold enter
  cases r.get? group m.id <;> rfl

theorem id_enter (r : Registry) (group : Int) (m : Member) : (r.enter group m).1.id = m.id := by
  rw [enter_fst]; rfl

theorem get?_enter (r : Registry) (group : Int) (m : Member) (g k : Int) :
    (r.enter group m).2.get? g k =
      if group = g ∧ m.id = k then some (r.enter group m).1 else r.get? g k := by
  have h : (r.enter group m).2 = r.put group (r.enter group m).1 := rfl
  rw [h, get?_put, id_enter]

/-! ## The profiles of a group -/

theorem mem_profiles_iff {r : Registry} {g : Int} {p : Profile} : p ∈ r.profiles g ↔ r.get? g p.id = some p := by
  rw [get?_eq_some_iff, and_iff_left rfl, profiles, List.mem_map]
  constructor
  · rintro ⟨e, he, rfl⟩
    obtain ⟨hmem, hg⟩ := List.mem_filter.1 he
    rwa [← show e.group = g by simpa using hg]
  · exact fun h => ⟨⟨g, p⟩, List.mem_filter.2 ⟨h, beq_self_eq_true g⟩, rfl⟩

theorem profiles_ascending (r : Registry) (g : Int) : (r.profiles g).Pairwise fun p q => p.id < q.id := by
  refine List.pairwise_map.2 ((r.ascending.filter _).imp_of_mem fun {a b} ha hb hab => ?_)
  have hga : a.group = g := by simpa using (List.mem_filter.1 ha).2
  have hgb : b.group = g := by simpa using (List.mem_filter.1 hb).2
  unfold Entry.before at hab; omega

/-- **What a group lists is what it answers**, member by member. -/
theorem profiles_congr {a b : Registry} {g : Int} (h : ∀ m, a.get? g m = b.get? g m) : a.profiles g = b.profiles g := by
  refine Profile.eq_of_ascending (profiles_ascending a g) (profiles_ascending b g) fun p => ?_
  rw [mem_profiles_iff, mem_profiles_iff, h]

end Registry

end ChatProfiles
