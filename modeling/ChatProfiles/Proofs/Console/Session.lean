import ChatProfiles.Console.Session
import ChatProfiles.Proofs.Bot.Run
import ChatProfiles.Proofs.Console.Line
/-!
# Sessions, line by line

A line that can be read either changes nothing or posts one update, and the bot answers every update; so what a line
does is one of four things (`Does`), and it does one of them always (`exists_does`).  Whatever is proved of these four
holds of any number of lines (`after_keeps`).  Who posts the update is registered before it is answered, and is a member
from then on whatever the answer (`mem_members_stepLine`).
-/
namespace ChatProfiles.Session

open Attempt

/-! ## The member behind a name -/

/-- Who a name stands for when nobody is known by it yet. -/
def newcomer (s : Session) (username : Text) : Member :=
  { id := (s.members.length : Int) + 1, firstName := username, username := some username }

theorem member_of_known {s : Session} {username : Text} {m : Member}
    (h : s.members.lookup (Text.lowercase username) = some m) : s.member username = (m, s) := by
  simp only [member, h]

theorem member_of_unknown {s : Session} {username : Text} (h : s.members.lookup (Text.lowercase username) = none) :
    s.member username =
      (s.newcomer username,
        { s with members := s.members ++ [(Text.lowercase username, s.newcomer username)] }) := by
  simp only [member, h, newcomer]

variable (s : Session) (username : Text)

/-- Whoever is asked for is a member from then on. -/
theorem mem_members_member :
    (Text.lowercase username, (s.member username).1) ∈ (s.member username).2.members := by
  cases h : s.members.lookup (Text.lowercase username) with
  | some m =>
    obtain ⟨before, after, hs, -⟩ := List.lookup_eq_some_iff.1 h
    rw [member_of_known h, hs]
    exact List.mem_append_right _ List.mem_cons_self
  | none =>
    rw [member_of_unknown h]
    exact List.mem_append_right _ List.mem_cons_self

/-- Whoever was a member before keeps the place and the record. -/
theorem members_prefix_member : s.members <+: (s.member username).2.members := by
  cases h : s.members.lookup (Text.lowercase username) with
  | some m => simp [member_of_known h]
  | none => simp [member_of_unknown h]

theorem members_subset_member : s.members ⊆ (s.member username).2.members := (members_prefix_member s username).subset

/-- Whoever is a member then was one before, or is the newcomer of that name. -/
theorem mem_members_or_newcomer {x : Text × Member} (h : x ∈ (s.member username).2.members) :
    x ∈ s.members ∨ x = (Text.lowercase username, s.newcomer username) := by
  cases hu : s.members.lookup (Text.lowercase username) with
  | some m =>
    rw [member_of_known hu] at h
    exact .inl h
  | none =>
    rw [member_of_unknown hu] at h
    exact (List.mem_append.1 h).imp_right List.mem_singleton.1

/-- Asking for a member touches the list of members only. -/
theorem member_snd : (s.member username).2 = { s with members := (s.member username).2.members } := by
  cases h : s.members.lookup (Text.lowercase username) with
  | some m => rw [member_of_known h]
  | none => rw [member_of_unknown h]

@[simp] theorem config_member : (s.member username).2.config = s.config := by rw [member_snd]

@[simp] theorem group_member : (s.member username).2.group = s.group := by rw [member_snd]

@[simp] theorem registry_member : (s.member username).2.registry = s.registry := by rw [member_snd]

variable {s}

/-! ## What a line does -/

/-- The name at the head of a line that posts an update, and the update. -/
def posted? (s : Session) : Line → Option (Text × Update)
  | .say username text direct =>
    let sender := (s.member username).1
    some (username, ⟨if direct then ⟨sender.id, .direct⟩ else ⟨s.group, .group⟩, sender, .text text⟩)
  | .share username l => some (username, ⟨⟨s.group, .group⟩, (s.member username).1, .location l⟩)
  | .dump | .quit | .blank => none

inductive Does (s : Session) : Line → Step → Session → Prop
  | blank : Does s .blank .nothing s
  | quit : Does s .quit .quit s
  | dump : Does s .dump (.dump (Json.array ((s.registry.profiles s.group).map Profile.toJson)).pretty) s
  | posts {line : Line} {username : Text} {u : Update} {o : Bot.Outcome} (posted : s.posted? line = some (username, u))
      (handled : Bot.handle s.config s.registry u = .ok o) :
      Does s line (.replies o.replies) { (s.member username).2 with registry := o.registry }

theorem name?_of_posted? {line : Line} {username : Text} {u : Update} (h : s.posted? line = some (username, u)) :
    line.name? = some username := by
  cases line <;> cases h <;> rfl

theorem sender_of_posted? {line : Line} {username : Text} {u : Update} (h : s.posted? line = some (username, u)) :
    u.sender = (s.member username).1 := by
  cases line <;> cases h <;> rfl

/-- What is posted to a group is posted to the group of the session. -/
theorem group_of_posted? {line : Line} {username : Text} {u : Update} (h : s.posted? line = some (username, u))
    (hg : u.chat.kind = .group) : u.chat.id = s.group := by
  cases line with
  | say username text direct =>
    cases h
    cases direct with
    | true => cases hg
    | false => rfl
  | share username l => cases h; rfl
  | dump | quit | blank => cases h

theorem on_post_of_handle {u : Update} {o : Bot.Outcome} (h : Bot.handle s.config s.registry u = .ok o) :
    (post u).on s = (.ok (.replies o.replies), { s with registry := o.registry }) := by
  simp only [post, on_bind, on_get, on_lift, h, Except.mapError, on_set, on_pure]

/-- The members are as they were also where the bot has failed. -/
theorem members_post (s : Session) (u : Update) : ((post u).on s).2.members = s.members := by
  simp only [post, on_bind, on_get, on_lift]
  cases Bot.handle s.config s.registry u <;> rfl

theorem on_stepLine_of_posted? {line : Line} {username : Text} {u : Update}
    (h : s.posted? line = some (username, u)) : (stepLine line).on s = (post u).on (s.member username).2 := by
  cases line with
  | say username text direct =>
    cases h
    rw [← group_member s username]
    rfl
  | share username l =>
    cases h
    rw [← group_member s username]
    rfl
  | dump | quit | blank => cases h

/-- **Whoever speaks is a member from then on**, whatever comes of what is said. -/
theorem mem_members_stepLine {line : Line} {username : Text} {u : Update} (h : s.posted? line = some (username, u)) :
    (Text.lowercase username, (s.member username).1) ∈ ((stepLine line).on s).2.members := by
  rw [on_stepLine_of_posted? h, members_post]
  exact mem_members_member s username

/-- **Every line that can be read does something**: the bot never fails. -/
theorem exists_does (s : Session) (line : Line) :
    ∃ step s', (stepLine line).on s = (.ok step, s') ∧ Does s line step s' := by
  cases hp : s.posted? line with
  | some x =>
    obtain ⟨username, u⟩ := x
    obtain ⟨o, ho⟩ := Bot.exists_handle s.config s.registry u
    have ho' : Bot.handle (s.member username).2.config (s.member username).2.registry u = .ok o := by
      rw [config_member, registry_member, ho]
    exact ⟨_, _, (on_stepLine_of_posted? hp).trans (on_post_of_handle ho'), .posts hp ho⟩
  | none =>
    cases line with
    | say | share => cases hp
    | dump => exact ⟨_, _, rfl, .dump⟩
    | quit => exact ⟨_, _, rfl, .quit⟩
    | blank => exact ⟨_, _, rfl, .blank⟩

theorem on_step_of_malformed {t : Text} {m : Malformed} (h : Line.ofText t = .error m) (s : Session) :
    (step t).on s = (.error (.malformed m), s) := by
  simp only [step, on_bind, on_lift, h, Except.mapError]

theorem on_step_of_line {t : Text} {line : Line} (h : Line.ofText t = .ok line) (s : Session) :
    (step t).on s = (stepLine line).on s := by
  simp only [step, on_bind, on_lift, h, Except.mapError]

/-- A line can be read, and then it does something, or it is malformed, and then nothing happens. -/
theorem step_cases (s : Session) (t : Text) :
    (∃ m, Line.ofText t = .error m ∧ (step t).on s = (.error (.malformed m), s)) ∨
      ∃ line done s', Line.ofText t = .ok line ∧ (step t).on s = (.ok done, s') ∧ Does s line done s' := by
  cases ht : Line.ofText t with
  | error m => exact .inl ⟨m, rfl, on_step_of_malformed ht s⟩
  | ok line =>
    obtain ⟨done, s', hstep, hdoes⟩ := exists_does s line
    exact .inr ⟨line, done, s', rfl, (on_step_of_line ht s).trans hstep, hdoes⟩

theorem Does.step_eq_quit_iff {line : Line} {step : Step} {s' : Session} (h : Does s line step s') :
    step = .quit ↔ line = .quit := by
  cases h with
  | blank => exact iff_of_false nofun nofun
  | quit => exact iff_of_true rfl rfl
  | dump => exact iff_of_false nofun nofun
  | posts posted handled => exact iff_of_false nofun fun h => by subst h; cases posted

/-! ## Many lines -/

/-- The session that a line leaves, whatever comes of it. -/
def next (s : Session) (t : Text) : Session := ((step t).on s).2

def after (s : Session) (ts : List Text) : Session := ts.foldl next s

/-- **What every line keeps, a whole session keeps.** -/
theorem after_keeps {P : Session → Prop}
    (keeps : ∀ s t line step s', Line.ofText t = .ok line → P s → Does s line step s' → P s') :
    ∀ (ts : List Text) {s : Session}, P s → P (s.after ts)
  | [], _, h => h
  | t :: ts, s, h => by
    refine after_keeps keeps ts ?_
    rcases step_cases s t with ⟨m, -, hstep⟩ | ⟨line, step, s', hread, hstep, hdoes⟩
    · rw [next, hstep]; exact h
    · rw [next, hstep]; exact keeps s t line step s' hread h hdoes

end ChatProfiles.Session
