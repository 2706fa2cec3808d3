import ChatProfiles.Proofs.Bot.Replies
import ChatProfiles.Proofs.Edit.NetEffect
/-!
# Edits said again

A message may be delivered twice.  The second time its words meet a profile that they have edited already, and on the
way through it a tag may be taken out and put back; still they leave the profile as it is.  No word has to be followed
for that: the net effect of the words on the first profile is their net effect on the edited one (`NetEffect.again`),
and there is only one.  For a tag this rests on where its spelling comes from (`Respelled.again`): from the words, and
then they give it again, or from the first profile, and then they never took it out.

So the profile that is filed the second time is the one that is filed (`Registry.enter_put`, `Registry.put_put`), and
an update that is handled again, whatever it is, gets the same replies and leaves the same registry (`handle_again`).
-/
namespace ChatProfiles

/-! ## A profile edited again -/

/-- **Directives spell a tag as they have spelled it.** -/
theorem Respelled.again {t : Tag} {before s : Option Tag} {ds : List Directive} (h : Respelled t before ds s) :
    Respelled t s ds s := by
  cases h with
  | untouched unnamed => exact .untouched unnamed
  | excluded split same last => exact .excluded split same last
  | anew split sameX sameY first last => exact .anew split sameX sameY first last
  | kept _ never => exact .kept rfl never
  | @added pre post y lacked split same first never =>
    -- what was put in is there now, and nothing takes it out
    refine .kept rfl ?_
    rw [split]
    refine List.forall_mem_append.2 ⟨fun d hd hx => first d hd hx.names, List.forall_mem_cons.2 ⟨nofun, never⟩⟩

namespace Profile

theorem NetEffect.again {p q : Profile} {ds : List Directive} (h : NetEffect p ds q) : NetEffect q ds q where
  member := rfl
  location := rfl
  marker := by
    rw [h.marker]
    cases Directive.last? Directive.marker? ds <;> rfl
  attributes kind := by
    rw [h.attributes]
    cases Directive.last? (·.valueFor? kind) ds <;> rfl
  tags t := (h.tags t).again

/-- Words that edited a profile leave it as it is, and are refused as they were. -/
theorem applyTokens_again (p : Profile) (words : List Text) :
    (p.applyTokens words).1.applyTokens words = p.applyTokens words := by
  have hprofile : ((p.applyTokens words).1.applyTokens words).1 = (p.applyTokens words).1 :=
    (netEffect_applyTokens _ words).unique (netEffect_applyTokens p words).again
  have hrefused : ((p.applyTokens words).1.applyTokens words).2 = (p.applyTokens words).2 := by
    rw [applyTokens_eq, applyTokens_eq]
  exact Prod.ext hprofile hrefused

end Profile

/-! ## A profile filed again -/

namespace Registry

theorem put_put (r : Registry) (group : Int) (p : Profile) : (r.put group p).put group p = r.put group p := by
  refine ext_get? fun g m => ?_
  rw [get?_put, get?_put]
  split <;> rfl

/-- The sender whose profile is filed is found so, and entered as found. -/
theorem enter_put (r : Registry) (group : Int) {p : Profile} {sender : Member} (h : p.member = sender) :
    (r.put group p).enter group sender = (p, r.put group p) := by
  subst h
  have hfst : ((r.put group p).enter group p.member).1 = p := by
    rw [enter_fst, get?_put, if_pos ⟨rfl, rfl⟩]; rfl
  have hsnd : ((r.put group p).enter group p.member).2 =
      (r.put group p).put group ((r.put group p).enter group p.member).1 := rfl
  rw [hfst, put_put] at hsnd
  exact Prod.ext hfst hsnd

end Registry

/-! ## An update handled again -/

namespace Bot

theorem iam_again (config : BotConfig) (r : Registry) (group : Int) (sender : Member) (words : List Text) :
    iam config (iam config r group sender words).registry group sender words = iam config r group sender words := by
  have hmember : ((r.enter group sender).1.applyTokens words).1.member = sender := by
    rw [Profile.applyTokens_member, Registry.enter_fst]; rfl
  have hentered : (iam config r group sender words).registry.enter group sender =
      (((r.enter group sender).1.applyTokens words).1, (iam config r group sender words).registry) :=
    Registry.enter_put _ _ hmember
  rw [iam, hentered]
  dsimp only
  rw [Profile.applyTokens_again]
  exact congrArg (Outcome.mk _) (Registry.put_put _ _ _)

theorem shareLocation_again (r : Registry) (group : Int) (sender : Member) (l : Location) :
    shareLocation (shareLocation r group sender l).registry group sender l = shareLocation r group sender l := by
  have hmember : ((r.enter group sender).1.withLocation (some l)).member = sender := by
    rw [Registry.enter_fst]; rfl
  have hentered : (shareLocation r group sender l).registry.enter group sender =
      ((r.enter group sender).1.withLocation (some l), (shareLocation r group sender l).registry) :=
    Registry.enter_put _ _ hmember
  rw [shareLocation, hentered]
  exact congrArg (Outcome.mk _) (Registry.put_put _ _ _)

/-- Whoever edits a profile said so, and in what words. -/
theorem text_of_change? {config : BotConfig} {u : Update} {words : List Text}
    (h : change? config u = some (.edit words)) :
    ∃ body, u.content = .text body ∧ Command.ofText? config.username body = some (.iam words) := by
  unfold change? at h
  split at h
  · cases h
  · next body _ hbody =>
    split at h
    · next hcommand => cases h; exact ⟨body, hbody, hcommand⟩
    · cases h
  · cases h

theorem handle_again {config : BotConfig} {r : Registry} {u : Update} {o : Outcome} (h : handle config r u = .ok o) :
    handle config o.registry u = .ok o := by
  have hregistry := registry_handle h
  cases hc : change? config u with
  | none =>
    rw [hc] at hregistry
    rwa [hregistry]
  | some c =>
    obtain ⟨⟨id, kind⟩, sender, content⟩ := u
    obtain rfl : kind = .group := group_of_change? hc
    cases c with
    | place l =>
      obtain rfl : content = .location l := content_of_change? hc
      rw [handle_location] at h ⊢
      cases h
      exact congrArg Except.ok (shareLocation_again r id sender l)
    | edit words =>
      obtain ⟨body, hbody, hcommand⟩ := text_of_change? hc
      obtain rfl : content = .text body := hbody
      rw [handle_command rfl hcommand, answer] at h ⊢
      cases h
      exact congrArg Except.ok (iam_again config r id sender words)

/-- **What is said again changes nothing.**  A list of words leaves the profile that it has left alone, in the spellings
that it has, and what it refuses it refuses again for the same reasons.  So with any update: handled again, it is
answered as it was, and the registry stays as it is. -/
theorem repetition_changes_nothing :
    (∀ (p : Profile) (words : List Text), (p.applyTokens words).1.applyTokens words = p.applyTokens words) ∧
    ∀ (config : BotConfig) (r : Registry) (u : Update),
      ∃ o, handle config r u = .ok o ∧ handle config o.registry u = .ok o := by
  refine ⟨Profile.applyTokens_again, fun config r u => ?_⟩
  obtain ⟨o, ho⟩ := exists_handle config r u
  exact ⟨o, ho, handle_again ho⟩

end Bot

end ChatProfiles
