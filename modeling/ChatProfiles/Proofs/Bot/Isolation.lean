import ChatProfiles.Proofs.Bot.History
/-!
# Groups apart

What a group hears from the bot depends on the edits made in that group and on nothing else.  Two registries agree on a
group when they answer alike about each of its members, and that is all an answer to the group reads
(`replies_handle_congr`).  An update handled with both registries keeps the agreement, whatever it is
(`agreeOn_handle`); handled with one of them only, it keeps it unless it is an edit in the group
(`agreeOn_handle_unseen`).  So a run, and the same run with any such updates left out, go on side by side and tell the
group the same (`exists_run_kept`).
-/
namespace ChatProfiles

namespace Registry

variable {g : Int} {r s : Registry}

/-- The registries answer alike about the group. -/
def AgreeOn (g : Int) (r s : Registry) : Prop := ∀ m, r.get? g m = s.get? g m

theorem AgreeOn.enter_fst (h : AgreeOn g r s) (m : Member) : (r.enter g m).1 = (s.enter g m).1 := by
  rw [Registry.enter_fst, Registry.enter_fst, h]

theorem AgreeOn.findByUsername (h : AgreeOn g r s) (username : Text) :
    r.findByUsername g username = s.findByUsername g username := by
  rw [Registry.findByUsername, Registry.findByUsername, profiles_congr h]

end Registry

namespace Bot

open Registry (AgreeOn)

variable {config : BotConfig} {g : Int} {r s : Registry} {u : Update}

/-! ## What an answer reads -/

theorem howis_congr (h : AgreeOn g r s) (words : List Text) : howis config r g words = howis config s g words := by
  unfold howis
  split
  · simp only [h.findByUsername]
  · rfl

theorem whois_congr (h : AgreeOn g r s) (sender : Member) (words : List Text) :
    whois config r g sender words = whois config s g sender words := by
  rw [whois, whois, h sender.id, Registry.profiles_congr h]

theorem replies_iam_congr (h : AgreeOn g r s) (sender : Member) (words : List Text) :
    (iam config r g sender words).replies = (iam config s g sender words).replies := by
  rw [replies_iam, replies_iam, h.enter_fst]

theorem replies_shareLocation_congr (h : AgreeOn g r s) (sender : Member) (l : Location) :
    (shareLocation r g sender l).replies = (shareLocation s g sender l).replies := by
  rw [replies_shareLocation, replies_shareLocation, h.enter_fst]

theorem replies_answer_congr {chat : Chat} (h : AgreeOn chat.id r s) (sender : Member) (command : Command) :
    (answer config r chat sender command).map Outcome.replies =
      (answer config s chat sender command).map Outcome.replies := by
  cases command with
  | start | help => rfl
  | iam words => exact congrArg Except.ok (replies_iam_congr h sender words)
  | whois words => exact congrArg Except.ok (whois_congr h sender words)
  | howis words =>
    rw [answer, answer, howis_congr h]
    cases howis config s chat.id words <;> rfl

/-- **An answer reads the profiles of the group it is given in, and nothing else of the registry.** -/
theorem replies_handle_congr (h : AgreeOn u.chat.id r s) :
    (handle config r u).map Outcome.replies = (handle config s u).map Outcome.replies := by
  obtain ⟨chat, sender, content⟩ := u
  cases content with
  | location l =>
    rw [handle_location, handle_location]
    cases chat.isGroup with
    | true => exact congrArg Except.ok (replies_shareLocation_congr h sender l)
    | false => rfl
  | text body =>
    rw [handle_text, handle_text]
    cases Command.ofText? config.username body with
    | none => rfl
    | some command =>
      dsimp only
      split
      · rfl
      · exact replies_answer_congr h sender command

/-! ## What keeps two registries in agreement -/

theorem agreeOn_handle (h : AgreeOn g r s) {o o' : Outcome} (ho : handle config r u = .ok o)
    (ho' : handle config s u = .ok o') : AgreeOn g o.registry o'.registry := fun m => by
  rw [get?_handle ho, get?_handle ho', h m]

/-- Not an edit at all, or not in the group. -/
def Unseen (config : BotConfig) (g : Int) (u : Update) : Prop := change? config u = none ∨ u.chat.id ≠ g

theorem Unseen.isEditOf_eq_false (h : Unseen config g u) (m : Int) : isEditOf config g m u = false := by
  rw [Bool.eq_false_iff, Ne, isEditOf_eq_true_iff]
  rintro ⟨⟨c, hc⟩, hg, -⟩
  rcases h with h | h
  · rw [h] at hc; cases hc
  · exact h hg

theorem agreeOn_handle_unseen (h : AgreeOn g r s) (hu : Unseen config g u) {o : Outcome}
    (ho : handle config r u = .ok o) : AgreeOn g o.registry s := fun m => by
  rw [get?_handle ho, hu.isEditOf_eq_false m, if_neg Bool.false_ne_true, h m]

/-! ## A run with updates left out -/

/-- An update of a run, and whether it stays when others are left out. -/
structure Marked where
  update : Update
  stays : Bool

/-- The updates of the group that stay, each with what is answered to it. -/
def heard (g : Int) (xs : List Marked) (replies : List (List Message)) : List (Marked × List Message) :=
  (xs.zip replies).filter fun x => x.1.stays && x.1.update.chat.id == g

theorem heard_cons (g : Int) (x : Marked) (xs : List Marked) (ms : List Message) (replies : List (List Message)) :
    heard g (x :: xs) (ms :: replies) =
      if x.stays && x.update.chat.id == g then (x, ms) :: heard g xs replies else heard g xs replies := by
  rw [heard, List.zip_cons_cons, List.filter_cons, heard]

/-- **Side by side**: of two registries that agree on the group, one goes through the whole run and the other through
what stays of it; both tell the group the same, and agree on it still. -/
theorem exists_run_kept (config : BotConfig) (g : Int) : ∀ (xs : List Marked) {r s : Registry}, AgreeOn g r s →
    (∀ x ∈ xs, x.stays = false → Unseen config g x.update) →
    ∃ full last kept last', run config r (xs.map Marked.update) = .ok (full, last) ∧
      run config s ((xs.filter Marked.stays).map Marked.update) = .ok (kept, last') ∧
      full.length = xs.length ∧ kept.length = (xs.filter Marked.stays).length ∧
      heard g xs full = heard g (xs.filter Marked.stays) kept ∧ AgreeOn g last last'
  | [], r, s, h, _ => ⟨[], r, [], s, rfl, rfl, rfl, rfl, rfl, h⟩
  | x :: xs, r, s, h, hxs => by
    have hrest : ∀ x ∈ xs, x.stays = false → Unseen config g x.update := fun y hy => hxs y (List.mem_cons_of_mem _ hy)
    obtain ⟨o, ho⟩ := exists_handle config r x.update
    rw [List.map_cons, run_cons ho, List.filter_cons]
    cases hx : x.stays with
    | false =>
      have hagree := agreeOn_handle_unseen h (hxs x List.mem_cons_self hx) ho
      obtain ⟨full, last, kept, last', hfull, hkept, hlen, hlen', heq, hlast⟩ :=
        exists_run_kept config g xs hagree hrest
      refine ⟨o.replies :: full, last, kept, last', by rw [hfull]; rfl, hkept, by simp [hlen], hlen', ?_, hlast⟩
      rw [heard_cons, hx, if_neg (by simp), heq, if_neg Bool.false_ne_true]
    | true =>
      obtain ⟨o', ho'⟩ := exists_handle config s x.update
      have hagree := agreeOn_handle h ho ho'
      obtain ⟨full, last, kept, last', hfull, hkept, hlen, hlen', heq, hlast⟩ :=
        exists_run_kept config g xs hagree hrest
      rw [if_pos rfl]
      refine ⟨o.replies :: full, last, o'.replies :: kept, last', by rw [hfull]; rfl,
        by rw [List.map_cons, run_cons ho', hkept]; rfl, by simp [hlen], by simp [hlen'], ?_, hlast⟩
      rw [heard_cons, heard_cons, heq]
      -- an update of another group is heard in neither run
      by_cases hg : x.update.chat.id = g
      · have hreplies : (handle config r x.update).map Outcome.replies =
            (handle config s x.update).map Outcome.replies := replies_handle_congr (hg ▸ h)
        rw [ho, ho'] at hreplies
        rw [Except.ok.inj hreplies]
      · rw [if_neg (by simp [hg]), if_neg (by simp [hg])]

/-- **Groups do not leak into each other, and reading leaves no trace.**  From an empty registry, leave out of a run
any updates that are no edits, and any of other groups: what stays of the group's updates is answered as before. -/
theorem group_hears_the_same (config : BotConfig) (g : Int) (xs : List Marked)
    (h : ∀ x ∈ xs, x.stays = false → Unseen config g x.update) :
    ∃ full last kept last', run config .empty (xs.map Marked.update) = .ok (full, last) ∧
      run config .empty ((xs.filter Marked.stays).map Marked.update) = .ok (kept, last') ∧
      full.length = xs.length ∧ kept.length = (xs.filter Marked.stays).length ∧
      heard g xs full = heard g (xs.filter Marked.stays) kept :=
  have ⟨full, last, kept, last', hfull, hkept, hlen, hlen', heq, _⟩ :=
    exists_run_kept config g xs (fun _ => rfl) h
  ⟨full, last, kept, last', hfull, hkept, hlen, hlen', heq⟩

/-- A bot that goes by `poll`. -/
def pollBot : BotConfig := { username := "poll".toList }

/-- Ada and Bob in a group; left out are a look at a profile, a chat with the bot alone, and all of a second group. -/
def twoGroups : List Marked :=
  let ada : Member := { id := 1, firstName := "Ada".toList, username := some "ada".toList }
  let bob : Member := { id := 2, firstName := "Bob".toList, username := some "bob".toList }
  [⟨⟨⟨-1, .group⟩, ada, .text "/iam 29yo #nerd".toList⟩, true⟩,
    ⟨⟨⟨-2, .group⟩, ada, .text "/iam@Poll 41yo -#nerd".toList⟩, false⟩,
    ⟨⟨⟨-1, .group⟩, bob, .text "/howis @ada".toList⟩, false⟩,
    ⟨⟨⟨-2, .group⟩, bob, .location ⟨45, 9, none⟩⟩, false⟩,
    ⟨⟨⟨2, .direct⟩, bob, .text "/iam 30yo".toList⟩, false⟩,
    ⟨⟨⟨-1, .group⟩, bob, .text "/whois 18,30yo #nerd".toList⟩, true⟩]

theorem group_hears_the_same_twoGroups :
    (∀ x ∈ twoGroups, x.stays = false → Unseen pollBot (-1) x.update) ∧
      ∃ full last kept last', run pollBot .empty (twoGroups.map Marked.update) = .ok (full, last) ∧
        run pollBot .empty ((twoGroups.filter Marked.stays).map Marked.update) = .ok (kept, last') ∧
        full.length = twoGroups.length ∧ kept.length = (twoGroups.filter Marked.stays).length ∧
        heard (-1) twoGroups full = heard (-1) (twoGroups.filter Marked.stays) kept := by
  have h : ∀ x ∈ twoGroups, x.stays = false → Unseen pollBot (-1) x.update := by
    simp only [twoGroups, List.forall_mem_cons]
    exact ⟨nofun, fun _ => .inr (by decide), fun _ => .inl rfl, fun _ => .inr (by decide), fun _ => .inl rfl, nofun,
      List.forall_mem_nil _⟩
  exact ⟨h, group_hears_the_same pollBot (-1) twoGroups h⟩

end Bot

end ChatProfiles
