import ChatProfiles.Proofs.Console.Naming
/-!
# Who is found by a name

A lookup takes the first profile that answers to a name, in the order of identifiers, so a session in which two profiles
answered to one name would show the wrong member.  None does: who answers to `w` is the member whose key is the
lowercase of `w`, and there is one such member (`Coherent.lookup_of_hasUsername`).  The name a member was registered
with is a word (`isWord_username`) and the same as itself in any rule of case, so it always finds the member's profile.
-/
namespace ChatProfiles

namespace Bot

variable {config : BotConfig} {r : Registry} {group : Int} {w : Text}

/-- A card is told only of a profile that answers to the name. -/
theorem exists_of_markup_told {body : Text} (h : .markup body ∈ told config r group w) :
    ∃ p ∈ r.profiles group, p.member.hasUsername w = true ∧ told config r group w = Card.messages p := by
  unfold told at h ⊢
  split at h
  · next p hp =>
    have hw := List.find?_some hp
    exact ⟨p, List.mem_of_find?_eq_some hp, hw, rfl⟩
  · cases List.mem_singleton.1 h

end Bot

namespace Session

variable {s : Session}

theorem Coherent.lookup_eq (h : s.Coherent) {key : Text} {m : Member} (hm : (key, m) ∈ s.members) :
    s.members.lookup key = some m := by
  cases hl : s.members.lookup key with
  | none => exact absurd (List.lookup_eq_none_iff.1 hl _ hm) (by simp)
  | some m' =>
    obtain ⟨before, after, hs, -⟩ := List.lookup_eq_some_iff.1 hl
    have hm' : (key, m') ∈ s.members := hs ▸ List.mem_append_right _ List.mem_cons_self
    rw [(Prod.mk.inj (h.eq_of_key_eq hm' hm rfl)).2]

/-- Whoever answers to a name is the member that the session means by it. -/
theorem Coherent.lookup_of_hasUsername (h : s.Coherent) {p : Profile} (hp : p ∈ s.registry.profiles s.group) {w : Text}
    (hw : p.member.hasUsername w = true) : s.members.lookup (Text.lowercase w) = some p.member :=
  h.lookup_eq (h.key_of_hasUsername (Registry.mem_profiles_iff.1 hp) hw)

/-- **Members have words for names**: each stood at the head of a line. -/
theorem isWord_username (config : BotConfig) (group : Int) (ts : List Text) :
    ∀ x ∈ (after { config, group } ts).members, ∀ u, x.2.username = some u → Text.IsWord u := by
  refine after_keeps (P := fun s => ∀ x ∈ s.members, ∀ u, x.2.username = some u → Text.IsWord u) ?_ ts
    (List.forall_mem_nil _)
  intro s t line step s' hread h hdoes
  cases hdoes with
  | blank | quit | dump => exact h
  | posts posted handled =>
    intro x hx u hu
    rcases mem_members_or_newcomer s _ hx with hx | rfl
    · exact h x hx u hu
    · obtain rfl := Option.some.inj hu
      exact Line.isWord_of_ofText hread _ (name?_of_posted? posted)

/-- **A name never leads to somebody else's profile.**  After any lines of a new session, in its group: at most one
profile answers to a name; a question about a name is answered, and if a card is among the replies, they are those of
the profile of the member whose key is the lowercase of the name; and the very name that a member with a profile was
registered with brings up this profile as it now stands. -/
theorem asking_finds_the_named (config : BotConfig) (group : Int) (ts : List Text) {s : Session}
    (hs : s = after { config, group } ts) :
    (∀ w, ∀ p ∈ s.registry.profiles s.group, ∀ q ∈ s.registry.profiles s.group,
      p.member.hasUsername w = true → q.member.hasUsername w = true → p = q) ∧
    (∀ v w, Text.IsWord v → Text.IsWord w → ∃ replies s', (step (asking v w)).on s = (.ok (.replies replies), s') ∧
      ∀ body, .markup body ∈ replies → ∃ m p, s.members.lookup (Text.lowercase w) = some m ∧
        s.registry.get? s.group m.id = some p ∧ p.member = m ∧ replies = Card.messages p) ∧
    ∀ v key m u p, Text.IsWord v → (key, m) ∈ s.members → m.username = some u →
      s.registry.get? s.group m.id = some p →
        ∃ s', (step (asking v u)).on s = (.ok (.replies (Card.messages p)), s') := by
  have h : s.Coherent := hs ▸ (coherent_fresh config group).after ts
  refine ⟨fun w p hp q hq hpw hqw => ?_, fun v w hv hw => ?_, fun v key m u p hv hm hu hp => ?_⟩
  · have hkey := h.key_of_hasUsername (Registry.mem_profiles_iff.1 hq) hqw
    exact h.eq_of_hasUsername hq hp hkey hpw
  · refine ⟨_, _, step_asking s hv hw, fun body hbody => ?_⟩
    obtain ⟨p, hp, hpw, htold⟩ := Bot.exists_of_markup_told hbody
    exact ⟨p.member, p, h.lookup_of_hasUsername hp hpw, Registry.mem_profiles_iff.1 hp, rfl, htold⟩
  · have hu' : Text.IsWord u := isWord_username config group ts (key, m) (hs ▸ hm) u hu
    have htold := h.told_eq hm hu hp (w := u) rfl
    rw [if_pos (Text.sameIgnoringCase_iff.2 rfl)] at htold
    exact ⟨_, htold ▸ step_asking s hv hu'⟩

/-- A session with two members whom an accent tells apart. -/
def alike : Session := after {} ["@Élan /iam 29yo".toList, "@ELAN /iam 31yo".toList]

def plainElan : Member := registered 2 "ELAN".toList

def plainElanProfile : Profile := { member := plainElan, attributes := ({} : Sheet Int).set .age 31 }

theorem asking_finds_the_named_alike :
    (plainElanProfile ∈ alike.registry.profiles alike.group ∧
      plainElanProfile.member.hasUsername "elan".toList = true ∧
      ∀ q ∈ alike.registry.profiles alike.group, q.member.hasUsername "elan".toList = true → plainElanProfile = q) ∧
    (Text.IsWord "bob".toList ∧ Text.IsWord "elan".toList ∧
      ∃ replies s', (step (asking "bob".toList "elan".toList)).on alike = (.ok (.replies replies), s') ∧
        ∀ body, .markup body ∈ replies → ∃ m p, alike.members.lookup (Text.lowercase "elan".toList) = some m ∧
          alike.registry.get? alike.group m.id = some p ∧ p.member = m ∧ replies = Card.messages p) ∧
    ("elan".toList, plainElan) ∈ alike.members ∧ plainElan.username = some "ELAN".toList ∧
    alike.registry.get? alike.group plainElan.id = some plainElanProfile ∧
    ∃ s', (step (asking "bob".toList "ELAN".toList)).on alike =
      (.ok (.replies (Card.messages plainElanProfile)), s') := by
  obtain ⟨alone, answered, shown⟩ := asking_finds_the_named {} (-1) _ (rfl : alike = after {} _)
  have hbob : Text.IsWord "bob".toList := by decide
  have helan : Text.IsWord "elan".toList := by decide
  have hfiled : alike.registry.get? alike.group plainElan.id = some plainElanProfile := rfl
  have hstored : plainElanProfile ∈ alike.registry.profiles alike.group := Registry.mem_profiles_iff.2 hfiled
  have hname : plainElanProfile.member.hasUsername "elan".toList = true := by decide
  have hmember : ("elan".toList, plainElan) ∈ alike.members := List.mem_cons_of_mem _ (List.mem_singleton.2 rfl)
  exact ⟨⟨hstored, hname, fun q hq => alone _ _ hstored q hq hname⟩, ⟨hbob, helan, answered _ _ hbob helan⟩,
    hmember, rfl, hfiled, shown _ _ _ _ _ hbob hmember rfl hfiled⟩

end Session

end ChatProfiles
