import ChatProfiles.Proofs.Bot.History
import ChatProfiles.Proofs.Filter
import ChatProfiles.Proofs.Registry.Calls
/-!
# What a group reads

The replies to the two commands that a group uses most, `iam` and `whois`, said without the steps that make them.  The
card that `iam` shows is made before the profile is filed, so that it shows what is stored is a fact about both
(`get?_iam`).  The last reply to `whois` is one of two, and `SearchAnswer` says which: it leaves no choice of the text
(`SearchAnswer.unique`), neither of the profiles listed nor of their order.

Both hold for every registry, so in whatever state a run has left it.
-/
namespace ChatProfiles

/-- Where the group knows the member to be. -/
def Registry.whereabouts? (r : Registry) (group member : Int) : Option Location :=
  (r.get? group member).bind Profile.location

namespace Bot

variable {config : BotConfig} {r : Registry} {group : Int} {sender : Member} {words : List Text}

theorem handle_command {chat : Chat} {body : Text} {command : Command} (hgroup : chat.isGroup = true)
    (h : Command.ofText? config.username body = some command) :
    handle config r ⟨chat, sender, .text body⟩ = answer config r chat sender command := by
  rw [handle_text, h, hgroup]
  simp

/-! ## Editing -/

theorem get?_iam (config : BotConfig) (r : Registry) (group : Int) (sender : Member) (words : List Text) :
    (iam config r group sender words).registry.get? group sender.id =
      some ((r.enter group sender).1.applyTokens words).1 := by
  have hid : ((r.enter group sender).1.applyTokens words).1.id = sender.id := by
    rw [Profile.id, Profile.applyTokens_member]
    exact Registry.id_enter r group sender
  have hput : (iam config r group sender words).registry =
      (r.enter group sender).2.put group ((r.enter group sender).1.applyTokens words).1 := rfl
  rw [hput, Registry.get?_put, if_pos ⟨rfl, hid⟩]

/-- **An edit shows what it stored and echoes what it refused.**  The replies are the words refused, each as often as it
was said, and then the profile that the group has of the sender from now on.  Whether a word is refused depends on the
word alone, and no more words are refused than were said. -/
theorem iam_shows_what_it_stored (config : BotConfig) (r : Registry) (chat : Chat) (sender : Member)
    (words : List Text) :
    ∃ o p, answer config r chat sender (.iam words) = .ok o ∧
      (∀ body, chat.isGroup = true → Command.ofText? config.username body = some (.iam words) →
        handle config r ⟨chat, sender, .text body⟩ = .ok o) ∧
      o.registry.get? chat.id sender.id = some p ∧
      o.replies = ((words.filter fun w => (Directive.ofToken .edit w).Refused).map fun w =>
        .text (w ++ config.unknownSuffix)) ++ Card.messages p ∧
      (∀ q : Profile, (q.applyTokens words).2.map RefusedToken.token =
        words.filter fun w => (Directive.ofToken .edit w).Refused) ∧
      (∀ (q : Profile) (w : Text), (∃ reason, ((Profile.apply (.ofToken .edit w)).on q).1 = .error reason) ↔
        (Directive.ofToken .edit w).Refused) ∧
      ∀ q : Profile, (q.applyTokens words).2.length ≤ words.length := by
  have hrefused : ∀ q : Profile, (q.applyTokens words).2.map RefusedToken.token =
      words.filter fun w => (Directive.ofToken .edit w).Refused := fun q => q.map_token_refused words
  refine ⟨_, _, rfl, fun body hgroup h => handle_command hgroup h, get?_iam config r chat.id sender words, ?_, hrefused,
    fun q w => Profile.exists_apply_error_iff, fun q => ?_⟩
  · rw [replies_iam, ← hrefused (r.enter chat.id sender).1, List.map_map]
    rfl
  · rw [← List.length_map RefusedToken.token, hrefused q]
    exact List.length_filter_le _ _

/-! ## Searching -/

/-- The last reply to a search. -/
inductive SearchAnswer (config : BotConfig) (r : Registry) (group : Int) (sender : Member) (words : List Text) :
    Text → Prop
  /-- A distance is asked for, and nobody knows from where. -/
  | unplaced {range : Range Float} (asked : .distanceWithin range ∈ Directive.ofTokens .search words)
      (nowhere : r.whereabouts? group sender.id = none) :
      SearchAnswer config r group sender words ("📍".toList ++ config.unknownSuffix)
  /-- The group's profiles that the filter accepts, each once, by ascending identifier. -/
  | found {ps : List Profile}
      (placed : ∀ range, .distanceWithin range ∈ Directive.ofTokens .search words →
        r.whereabouts? group sender.id ≠ none)
      (ascending : ps.Pairwise fun p q => p.id < q.id)
      (mem_iff : ∀ p, p ∈ ps ↔ (∃ m, r.get? group m = some p) ∧
        (Filter.ofTokens words).1.accepts (r.whereabouts? group sender.id) p = true) :
      SearchAnswer config r group sender words
        ("👤 × ".toList ++ Decimal.ofNat ps.length ++ ps.flatMap fun p => '\n' :: Card.listed p)

theorem SearchAnswer.unique {t t' : Text} (h : SearchAnswer config r group sender words t)
    (h' : SearchAnswer config r group sender words t') : t = t' := by
  cases h with
  | unplaced asked nowhere =>
    cases h' with
    | unplaced => rfl
    | found placed => exact absurd nowhere (placed _ asked)
  | found placed ascending mem_iff =>
    cases h' with
    | unplaced asked nowhere => exact absurd nowhere (placed _ asked)
    | found _ ascending' mem_iff' =>
      rw [Profile.eq_of_ascending ascending ascending' fun p => by rw [mem_iff, mem_iff']]

theorem needsOrigin_ofTokens_iff {words : List Text} :
    (Filter.ofTokens words).1.needsOrigin = true ↔
      ∃ range, .distanceWithin range ∈ Directive.ofTokens .search words := by
  rw [Filter.ofTokens_eq]
  exact (Filter.compiled_ofDirectives _).needsOrigin_iff

theorem searchAnswer_of_select {ps : List Profile}
    (h : (Filter.ofTokens words).1.select (r.whereabouts? group sender.id) (r.profiles group) = .ok ps) :
    SearchAnswer config r group sender words (Card.listing ps) := by
  rw [Filter.select] at h
  split at h
  · cases h
  · next hplaced =>
    cases h
    -- what the registry lists of the group, filtered, is what is to be given
    have lists := r.lists_profiles group
    refine .found (fun range hmem hnowhere => hplaced ?_) (lists.ascending.filter _) fun p => ?_
    · rw [needsOrigin_ofTokens_iff.2 ⟨range, hmem⟩, hnowhere]
      rfl
    · rw [List.mem_filter, lists.mem_iff]

theorem searchAnswer_of_error {e : Filter.SelectError}
    (h : (Filter.ofTokens words).1.select (r.whereabouts? group sender.id) (r.profiles group) = .error e) :
    SearchAnswer config r group sender words (Card.locationLabel ++ config.unknownSuffix) := by
  rw [Filter.select] at h
  split at h
  · next hunplaced =>
    obtain ⟨hneeds, hnowhere⟩ := Bool.and_eq_true_iff.1 hunplaced
    obtain ⟨range, hmem⟩ := needsOrigin_ofTokens_iff.1 hneeds
    exact .unplaced hmem (Option.isNone_iff_eq_none.1 hnowhere)
  · cases h

theorem exists_whois (config : BotConfig) (r : Registry) (group : Int) (sender : Member) (words : List Text) :
    ∃ last, SearchAnswer config r group sender words last ∧
      whois config r group sender words =
        ((words.filter fun w => (Directive.ofToken .search w).isUnrecognized).map fun w =>
          .text (w ++ config.unknownSuffix)) ++ [.text last] := by
  have hignored : (Filter.ofTokens words).2 =
      words.filter fun w => (Directive.ofToken .search w).isUnrecognized := by rw [Filter.ofTokens_eq]
  simp only [whois, hignored]
  rw [← Registry.whereabouts?]
  cases hselect : (Filter.ofTokens words).1.select (r.whereabouts? group sender.id) (r.profiles group) with
  | ok ps => exact ⟨_, searchAnswer_of_select hselect, rfl⟩
  | error e =>
    cases e with
    | originRequired => exact ⟨_, searchAnswer_of_error hselect, rfl⟩

/-- **A search answers its query.**  Echoed are the words that are not recognized, each as often as it was said; then
comes one reply more, which is what the other words ask of the profiles of the group, seen from where the sender is.
The registry stays as it was. -/
theorem whois_answers_query (config : BotConfig) (r : Registry) (chat : Chat) (sender : Member) (words : List Text) :
    ∃ last, (∀ t, SearchAnswer config r chat.id sender words t ↔ t = last) ∧
      answer config r chat sender (.whois words) = .ok
        ⟨((words.filter fun w => (Directive.ofToken .search w).isUnrecognized).map fun w =>
          .text (w ++ config.unknownSuffix)) ++ [.text last], r⟩ ∧
      ∀ body, chat.isGroup = true → Command.ofText? config.username body = some (.whois words) →
        handle config r ⟨chat, sender, .text body⟩ = answer config r chat sender (.whois words) := by
  obtain ⟨last, hlast, hwhois⟩ := exists_whois config r chat.id sender words
  refine ⟨last, fun t => ⟨fun h => h.unique hlast, ?_⟩, ?_, fun body hgroup h => handle_command hgroup h⟩
  · rintro rfl
    exact hlast
  · rw [answer, hwhois]

end Bot

end ChatProfiles
