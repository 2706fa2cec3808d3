import ChatProfiles.Proofs.Bot.History
import ChatProfiles.Proofs.Console.Session
import ChatProfiles.Proofs.Text.Lowercase
/-!
# Who is who in a session

A session tells its members apart by the lowercase of their names and numbers them as they come, and it is the only one
to tell the bot who sent an update.  So every stored profile shows one of the session's members as the session knows it
(`Coherent.stored`), and no two members have names of one lowercase.  A lookup by name compares names by the finer rule
of ASCII case, so at most one profile can answer to a name, and it is the one of the member the console means
(`Coherent.eq_of_hasUsername`).
-/
namespace ChatProfiles.Session

/-- A member as a session registers it. -/
def registered (id : Int) (username : Text) : Member := { id := id, firstName := username, username := some username }

/-- The members of a session and the profiles of its registry fit together. -/
structure Coherent (s : Session) : Prop where
  named : ∀ x ∈ s.members, ∃ u, x = (Text.lowercase u, registered x.2.id u)
  keys : (s.members.map Prod.fst).Nodup
  ids : s.members.map (·.2.id) = (List.range s.members.length).map fun n : Nat => (n : Int) + 1
  stored : ∀ g m p, s.registry.get? g m = some p → g = s.group ∧ ∃ key, (key, p.member) ∈ s.members

theorem coherent_fresh (config : BotConfig) (group : Int) : Coherent { config, group } where
  named := List.forall_mem_nil _
  keys := .nil
  ids := rfl
  stored _ _ _ h := by cases h

namespace Coherent

variable {s s' : Session} {line : Line} {step : Step}

/-- **A name gets one member**: registering it keeps the session coherent. -/
theorem member (h : s.Coherent) (username : Text) : (s.member username).2.Coherent := by
  cases hu : s.members.lookup (Text.lowercase username) with
  | some m => rw [member_of_known hu]; exact h
  | none =>
    rw [member_of_unknown hu]
    have hfree : ∀ x ∈ s.members, x.1 ≠ Text.lowercase username := fun x hx he =>
      absurd (List.lookup_eq_none_iff.1 hu x hx) (by simp [he])
    refine ⟨fun x hx => ?_, ?_, ?_, fun g m p hp => ?_⟩
    · rcases List.mem_append.1 hx with hx | hx
      · exact h.named x hx
      · exact ⟨username, List.mem_singleton.1 hx ▸ rfl⟩
    · rw [List.map_append, List.nodup_append]
      refine ⟨h.keys, List.nodup_singleton _, fun a ha b hb => ?_⟩
      obtain ⟨x, hx, rfl⟩ := List.mem_map.1 ha
      rw [List.map_singleton, List.mem_singleton] at hb
      exact hb ▸ hfree x hx
    · rw [List.map_append, h.ids, List.length_append, List.length_singleton, List.range_succ, List.map_append]
      rfl
    · obtain ⟨hg, key, hkey⟩ := h.stored g m p hp
      exact ⟨hg, key, List.mem_append_left _ hkey⟩

/-- **A stored profile is one of the group's and shows a member as the session knows it**, also after an update is
answered: an edit is posted to the group and files the sender's record, and the sender is a member. -/
theorem does (h : s.Coherent) (hdoes : Does s line step s') : s'.Coherent := by
  cases hdoes with
  | blank | quit | dump => exact h
  | posts posted handled =>
    next username u o =>
    refine { h.member username with stored := fun g m p hp => ?_ }
    rw [Bot.get?_handle handled] at hp
    rw [group_member]
    split at hp
    · next hedit =>
      obtain ⟨⟨c, hc⟩, rfl, -⟩ := Bot.isEditOf_eq_true_iff.1 hedit
      obtain rfl := Option.some.inj hp
      rw [Bot.edited_member hc, sender_of_posted? posted]
      exact ⟨group_of_posted? posted (Bot.group_of_change? hc), _, mem_members_member s username⟩
    · obtain ⟨hg, key, hkey⟩ := h.stored g m p hp
      exact ⟨hg, key, members_subset_member s username hkey⟩

theorem after (h : s.Coherent) (ts : List Text) : (s.after ts).Coherent :=
  after_keeps (fun _ _ _ _ _ _ => does) ts h

/-! ## Names and identifiers -/

theorem nodup_ids (h : s.Coherent) : (s.members.map (·.2.id)).Nodup := by
  rw [h.ids]
  exact List.nodup_range.map fun a b (hab : (a : Int) + 1 = b + 1) => by omega

theorem eq_of_id_eq (h : s.Coherent) {x y : Text × Member} (hx : x ∈ s.members) (hy : y ∈ s.members)
    (hid : x.2.id = y.2.id) : x = y := List.inj_on_of_nodup_map h.nodup_ids hx hy hid

theorem eq_of_key_eq (h : s.Coherent) {x y : Text × Member} (hx : x ∈ s.members) (hy : y ∈ s.members)
    (hkey : x.1 = y.1) : x = y := List.inj_on_of_nodup_map h.keys hx hy hkey

/-- The member of the same identifier is the one a profile shows. -/
theorem member_of_get? (h : s.Coherent) {key : Text} {m : Member} (hm : (key, m) ∈ s.members) {g : Int} {p : Profile}
    (hp : s.registry.get? g m.id = some p) : p.member = m := by
  obtain ⟨-, key', hkey⟩ := h.stored g m.id p hp
  exact (Prod.mk.inj (h.eq_of_id_eq hkey hm (Registry.id_of_get? hp))).2

theorem key_eq (h : s.Coherent) {key u : Text} {m : Member} (hm : (key, m) ∈ s.members) (hu : m.username = some u) :
    key = Text.lowercase u := by
  obtain ⟨u', hx⟩ := h.named _ hm
  obtain ⟨rfl, hmember⟩ := Prod.mk.inj hx
  rw [hmember] at hu
  exact congrArg Text.lowercase (Option.some.inj hu)

/-- A profile that answers to a name is filed for the member that the name stands for. -/
theorem key_of_hasUsername (h : s.Coherent) {g m : Int} {p : Profile} (hp : s.registry.get? g m = some p) {w : Text}
    (hw : p.member.hasUsername w = true) : (Text.lowercase w, p.member) ∈ s.members := by
  obtain ⟨-, key, hkey⟩ := h.stored g m p hp
  obtain ⟨u, hu⟩ := h.named _ hkey
  obtain ⟨rfl, hmember⟩ := Prod.mk.inj hu
  have hsame : Text.sameIgnoringCase u w = true := by
    rw [hmember] at hw
    exact hw
  rwa [Text.lowercase_congr hsame] at hkey

/-- **At most one profile of a group answers to a name.** -/
theorem eq_of_hasUsername (h : s.Coherent) {g : Int} {p q : Profile} (hp : p ∈ s.registry.profiles g)
    (hq : q ∈ s.registry.profiles g) {w : Text} (hw : (Text.lowercase w, p.member) ∈ s.members)
    (hqw : q.member.hasUsername w = true) : q = p := by
  rw [Registry.mem_profiles_iff] at hp hq
  have hmember : (Text.lowercase w, q.member) = (Text.lowercase w, p.member) :=
    h.eq_of_key_eq (h.key_of_hasUsername hq hqw) hw rfl
  have hid : q.id = p.id := congrArg Member.id (Prod.mk.inj hmember).2
  rw [hid, hp] at hq
  exact (Option.some.inj hq).symm

end Coherent

end ChatProfiles.Session
