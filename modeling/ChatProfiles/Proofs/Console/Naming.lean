import ChatProfiles.Proofs.Console.Line
import ChatProfiles.Proofs.Console.Members
/-!
# Asking for a member by name

A member is asked for by name with `/howis`, and two rules decide who that is.  The session tells its members apart by
the full lowercase of their names; the lookup compares names by ASCII case.  Every profile that answers is that of the
member the session means, but a spelling that differs beyond ASCII is answered by none: `élan` is `Élan` to the session,
and not found.
-/
namespace ChatProfiles

/-- The word that asks for a member. -/
def Command.howisWord : Text := ['/', 'h', 'o', 'w', 'i', 's']

/-- The message that asks how `w` is. -/
def Command.asking (w : Text) : Text := howisWord ++ ' ' :: '@' :: w

theorem Command.ofText?_asking {w : Text} (hw : Text.IsWord w) (bot : Text) :
    ofText? bot (asking w) = some (.howis ['@' :: w]) := by
  have hcommand : Text.IsWord howisWord := by decide
  have hname : Text.IsWord ('@' :: w) := ⟨List.cons_ne_nil _ _, List.forall_mem_cons.2 ⟨by decide, hw.not_blank⟩⟩
  have hwords : Text.words (asking w) = [howisWord, '@' :: w] := by
    rw [asking, Text.words_append hcommand (by decide), Text.words_self hname]
  rw [ofText?, hwords]
  rfl

namespace Bot

/-- What is told of the member called `w`: the card of the profile found, if there is one. -/
def told (config : BotConfig) (r : Registry) (group : Int) (w : Text) : List Message :=
  match (r.profiles group).find? (·.member.hasUsername w) with
  | some p => Card.messages p
  | none => [unknown config ('@' :: w)]

theorem howis_at {w : Text} (hw : Text.IsWord w) (config : BotConfig) (r : Registry) (group : Int) :
    howis config r group ['@' :: w] = .ok (told config r group w) := by
  have hempty : w.isEmpty = false := by simpa using hw.ne_nil
  have hname : (Text.strip? ['@'] ('@' :: w)).getD ('@' :: w) = w := rfl
  simp only [howis, hname, hempty, Registry.findByUsername, hw.isBlankOnly_eq_false]
  rw [told]
  cases (r.profiles group).find? (·.member.hasUsername w) <;> rfl

theorem handle_asking {w : Text} (hw : Text.IsWord w) (config : BotConfig) (r : Registry) (group : Int)
    (sender : Member) :
    handle config r ⟨⟨group, .group⟩, sender, .text (Command.asking w)⟩ = .ok ⟨told config r group w, r⟩ := by
  rw [handle_text, Command.ofText?_asking hw]
  have hanswer : answer config r ⟨group, .group⟩ sender (.howis ['@' :: w]) = .ok ⟨told config r group w, r⟩ := by
    rw [answer, howis_at hw]
    rfl
  exact hanswer

end Bot

namespace Session

/-- The line in which `v` asks how `w` is. -/
def asking (v w : Text) : Text := '@' :: (v ++ ' ' :: Command.asking w)

theorem ofText_asking {v w : Text} (hv : Text.IsWord v) (hw : Text.IsWord w) :
    Line.ofText (asking v w) = .ok (.say v (Command.asking w) false) := by
  have hmessage : Command.asking w = (Command.howisWord ++ [' ', '@']) ++ w := by simp [Command.asking]
  have htrim : Text.trim (Command.asking w) = Command.asking w :=
    Text.trim_eq_self (fun c hc => by cases hc; decide) (hmessage ▸ hw.last_not_blank _)
  have hcarries : Line.Carries (asking v w) v (Command.asking w) false := Line.carries_written hv htrim false
  have hlocation : ¬ Line.shareWord <+: Command.asking w := Text.strip?_eq_none_iff.1 rfl
  rw [Line.ofText_of_carries hcarries, Line.ofMessage_of_not_location hlocation]

/-- **A question is answered with what is told of the name**, and changes nothing but that whoever asks is a member from
then on. -/
theorem step_asking (s : Session) {v w : Text} (hv : Text.IsWord v) (hw : Text.IsWord w) :
    (step (asking v w)).on s = (.ok (.replies (Bot.told s.config s.registry s.group w)), (s.member v).2) := by
  have hposted : s.posted? (.say v (Command.asking w) false) =
      some (v, ⟨⟨s.group, .group⟩, (s.member v).1, .text (Command.asking w)⟩) := rfl
  have hhandle := Bot.handle_asking hw (s.member v).2.config (s.member v).2.registry s.group (s.member v).1
  have htold : Bot.told (s.member v).2.config (s.member v).2.registry s.group w =
      Bot.told s.config s.registry s.group w := by rw [config_member, registry_member]
  rw [on_step_of_line (ofText_asking hv hw), ← htold]
  exact (on_stepLine_of_posted? hposted).trans (on_post_of_handle hhandle)

/-- **What is told of a member by name**: of all spellings that the session takes for the member's name, those that are
the same up to ASCII case get the card, and the others get none. -/
theorem Coherent.told_eq {s : Session} (h : s.Coherent) {key u : Text} {m : Member} (hm : (key, m) ∈ s.members)
    (hu : m.username = some u) {p : Profile} (hp : s.registry.get? s.group m.id = some p) {w : Text}
    (hw : Text.lowercase w = Text.lowercase u) :
    Bot.told s.config s.registry s.group w =
      if Text.sameIgnoringCase u w then Card.messages p else [Bot.unknown s.config ('@' :: w)] := by
  have hmember : p.member = m := h.member_of_get? hm hp
  have hkey : (Text.lowercase w, p.member) ∈ s.members := by
    rw [hw, hmember, ← h.key_eq hm hu]
    exact hm
  have hsame : p.member.hasUsername w = Text.sameIgnoringCase u w := by
    rw [hmember, Member.hasUsername, hu]
    rfl
  have hmem : p ∈ s.registry.profiles s.group := by
    rw [Registry.mem_profiles_iff, Registry.id_of_get? hp]
    exact hp
  rw [Bot.told]
  -- whoever else answered to `w` would be a second member with the lowercase of `w`
  cases hf : (s.registry.profiles s.group).find? (·.member.hasUsername w) with
  | some q =>
    have hq := List.find?_some hf
    obtain rfl := h.eq_of_hasUsername hmem (List.mem_of_find?_eq_some hf) hkey hq
    rw [if_pos (hsame ▸ hq)]
  | none => rw [if_neg (hsame ▸ List.find?_eq_none.1 hf p hmem)]

/-- **Who is shown when a member is asked for by name.**  After any lines of a new session, let `m` be a member with
the name `u` and a stored profile.  Whoever asks for `m` in a spelling that differs from `u` in ASCII case only is shown
the profile; in any other spelling of the same lowercase the name is not known. -/
theorem step_asking_member (config : BotConfig) (group : Int) (ts : List Text) {s : Session}
    (hs : s = after { config, group } ts) {key u : Text} {m : Member} (hm : (key, m) ∈ s.members)
    (hu : m.username = some u) {p : Profile} (hp : s.registry.get? s.group m.id = some p) {v w : Text}
    (hv : Text.IsWord v) (hw : Text.IsWord w) (hl : Text.lowercase w = Text.lowercase u) :
    (step (asking v w)).on s =
      (.ok (.replies (if Text.sameIgnoringCase u w then Card.messages p else [Bot.unknown s.config ('@' :: w)])),
        (s.member v).2) := by
  have hcoherent : s.Coherent := hs ▸ (coherent_fresh config group).after ts
  rw [step_asking s hv hw, hcoherent.told_eq hm hu hp hl]

/-- A member whose name starts with a letter beyond ASCII. -/
def elan : Member := registered 1 "Élan".toList

def elanProfile : Profile := { member := elan, attributes := ({} : Sheet Int).set .age 29 }

/-- A session in which the member has made a profile. -/
def withElan : Session := after {} ["@Élan /iam 29yo".toList]

theorem step_asking_elan :
    (Text.lowercase "Élan".toList, elan) ∈ withElan.members ∧ elan.username = some "Élan".toList ∧
      withElan.registry.get? withElan.group elan.id = some elanProfile ∧
      Text.IsWord "bob".toList ∧ Text.IsWord "ÉLAN".toList ∧
      Text.lowercase "ÉLAN".toList = Text.lowercase "Élan".toList ∧
      (step (asking "bob".toList "ÉLAN".toList)).on withElan =
        (.ok (.replies (Card.messages elanProfile)), (withElan.member "bob".toList).2) := by
  have hm : (Text.lowercase "Élan".toList, elan) ∈ withElan.members := List.mem_singleton.2 rfl
  have hp : withElan.registry.get? withElan.group elan.id = some elanProfile := rfl
  have hv : Text.IsWord "bob".toList := by decide
  have hw : Text.IsWord "ÉLAN".toList := by decide
  have hl : Text.lowercase "ÉLAN".toList = Text.lowercase "Élan".toList := by decide
  have hsame : Text.sameIgnoringCase "Élan".toList "ÉLAN".toList = true := by decide
  have hstep := step_asking_member {} (-1) ["@Élan /iam 29yo".toList] rfl hm rfl hp hv hw hl
  rw [if_pos hsame] at hstep
  exact ⟨hm, rfl, hp, hv, hw, hl, hstep⟩

/-- **Not every spelling that a session takes for a member's name finds the profile**: beyond ASCII the lookup tells
letters apart that the session does not. -/
theorem elan_not_found :
    (Text.lowercase "Élan".toList, elan) ∈ withElan.members ∧ elan.username = some "Élan".toList ∧
      withElan.registry.get? withElan.group elan.id = some elanProfile ∧
      Text.IsWord "élan".toList ∧ Text.lowercase "élan".toList = Text.lowercase "Élan".toList ∧
      (step "@bob /howis @élan".toList).on withElan =
        (.ok (.replies [.text "@élan❓".toList]), (withElan.member "bob".toList).2) ∧
      [Message.text "@élan❓".toList] ≠ Card.messages elanProfile :=
  ⟨List.mem_singleton.2 rfl, rfl, rfl, by decide, by decide, rfl, nofun⟩

end Session

end ChatProfiles
