import ChatProfiles.Proofs.Bot.Run
import ChatProfiles.Proofs.Edit
import ChatProfiles.Proofs.Registry
/-!
# A registry is its members' histories

Of all the updates of a run, a member's profile in a group reads the member's own edits there, in their order, and
nothing else.  The invariant is one equation for each group and member: what the registry answers is the fold of the
edits so far (`get?_run`).  One update keeps it (`get?_handle`), whatever the update is: an edit goes through two
writes under the sender's key, and nothing else writes.
-/
namespace ChatProfiles.Bot

/-! ## Edits -/

/-- What an edit changes of its sender's profile. -/
inductive Change where
  | edit (words : List Text)
  | place (l : Location)

/-- The change an update asks for: in a group, a location or a text that reads as the command `iam`. -/
def change? (config : BotConfig) (u : Update) : Option Change :=
  match u.chat.kind, u.content with
  | .group, .location l => some (.place l)
  | .group, .text body =>
    match Command.ofText? config.username body with
    | some (.iam words) => some (.edit words)
    | _ => none
  | .direct, _ => none

/-- Only what is sent to a group changes a profile. -/
theorem group_of_change? {config : BotConfig} {u : Update} {c : Change} (h : change? config u = some c) :
    u.chat.kind = .group := by
  unfold change? at h
  cases hk : u.chat.kind with
  | group => rfl
  | direct => rw [hk] at h; cases h

/-- Whoever is placed somewhere said so. -/
theorem content_of_change? {config : BotConfig} {u : Update} {l : Location} (h : change? config u = some (.place l)) :
    u.content = .location l := by
  unfold change? at h
  split at h
  · next hl => cases h; exact hl
  · split at h <;> cases h
  · cases h

def isEditOf (config : BotConfig) (group member : Int) (u : Update) : Bool :=
  (change? config u).isSome && u.chat.id == group && u.sender.id == member

def Change.apply (p : Profile) : Change → Profile
  | .edit words => (p.applyTokens words).1
  | .place l => p.withLocation (some l)

/-- The profile after an edit: first it takes the sender's record, then the change. -/
def edited (config : BotConfig) (p : Profile) (u : Update) : Profile :=
  match change? config u with
  | some c => c.apply (p.withMember u.sender)
  | none => p

theorem Change.apply_member (p : Profile) (c : Change) : (c.apply p).member = p.member := by
  cases c with
  | edit words => exact p.applyTokens_member words
  | place l => rfl

/-- Only a change of place moves a profile. -/
theorem Change.apply_location (p : Profile) (c : Change) :
    (c.apply p).location = p.location ∨ ∃ l, c = .place l ∧ (c.apply p).location = some l := by
  cases c with
  | edit words => exact .inl (p.applyTokens_location words)
  | place l => exact .inr ⟨l, rfl, rfl⟩

theorem Change.apply_id (p : Profile) (c : Change) : (c.apply p).id = p.id := congrArg Member.id (c.apply_member p)

/-- After an edit a profile shows its sender as the edit does. -/
theorem edited_member {config : BotConfig} {u : Update} {c : Change} (h : change? config u = some c) (p : Profile) :
    (edited config p u).member = u.sender := by
  rw [edited, h]
  exact c.apply_member (p.withMember u.sender)

theorem isEditOf_eq_true_iff {config : BotConfig} {group member : Int} {u : Update} :
    isEditOf config group member u = true ↔
      (∃ c, change? config u = some c) ∧ u.chat.id = group ∧ u.sender.id = member := by
  simp only [isEditOf, Bool.and_eq_true, beq_iff_eq, Option.isSome_iff_exists, and_assoc]

/-- An edit takes the whole member record from its update, so of a blank profile it matters only that it is blank. -/
theorem edited_blank {config : BotConfig} {u : Update} {c : Change} (h : change? config u = some c) (a b : Member) :
    edited config (.blank a) u = edited config (.blank b) u := by
  simp only [edited, h]
  rfl

/-! ## One update -/

/-- **What an update writes**: an edit the sender's profile, with the change; any other update nothing. -/
theorem registry_handle {config : BotConfig} {r : Registry} {u : Update} {o : Outcome}
    (h : handle config r u = .ok o) :
    o.registry = match change? config u with
      | some c => (r.enter u.chat.id u.sender).2.put u.chat.id (c.apply (r.enter u.chat.id u.sender).1)
      | none => r := by
  obtain ⟨⟨id, kind⟩, sender, content⟩ := u
  cases content with
  | location l =>
    rw [handle_location] at h
    cases kind <;> cases h <;> rfl
  | text body =>
    rw [handle_text] at h
    cases hc : Command.ofText? config.username body with
    | none =>
      rw [hc] at h
      cases kind <;> cases h <;> simp only [change?, hc]
    | some command =>
      rw [hc] at h
      cases kind with
      | direct =>
        -- outside a group only the commands that need none are answered
        cases command with
        | start | help | iam words | howis words | whois words => cases h; rfl
      | group =>
        cases command with
        | start | help | whois words => cases h; simp only [change?, hc]
        | iam words => cases h; simp only [change?, hc]; rfl
        | howis words =>
          have hans : (howis config r id words).map (⟨·, r⟩) = .ok o := h
          cases hms : howis config r id words with
          | error e => rw [hms] at hans; cases hans
          | ok ms => rw [hms] at hans; cases hans; simp only [change?, hc]

/-- **An update changes the answer for its own sender in its own group, and only if it is an edit.** -/
theorem get?_handle {config : BotConfig} {r : Registry} {u : Update} {o : Outcome} (h : handle config r u = .ok o)
    (g m : Int) :
    o.registry.get? g m =
      if isEditOf config g m u then some (edited config ((r.get? g m).getD (.blank u.sender)) u)
      else r.get? g m := by
  rw [registry_handle h]
  cases hc : change? config u with
  | none => simp [isEditOf, hc]
  | some c =>
    dsimp only
    rw [Registry.get?_put, Change.apply_id, Registry.id_enter, Registry.get?_enter]
    by_cases hkey : u.chat.id = g ∧ u.sender.id = m
    · have hedit : isEditOf config g m u = true := isEditOf_eq_true_iff.2 ⟨⟨c, hc⟩, hkey⟩
      rw [if_pos hkey, if_pos hedit, Registry.enter_fst, edited, hc, hkey.1, hkey.2]
    · have hedit : ¬ isEditOf config g m u = true := fun h => hkey (isEditOf_eq_true_iff.1 h).2
      rw [if_neg hkey, if_neg hkey, if_neg hedit]

/-- **What blank profiles have and edits keep, all stored profiles have**, also after an update. -/
theorem forall_get?_handle {config : BotConfig} {r : Registry} {u : Update} {o : Outcome}
    (h : handle config r u = .ok o) {P : Profile → Prop} (hblank : P (.blank u.sender))
    (hedited : ∀ p, P p → P (edited config p u)) (hr : ∀ g m p, r.get? g m = some p → P p) :
    ∀ g m p, o.registry.get? g m = some p → P p := by
  intro g m p hp
  rw [get?_handle h] at hp
  split at hp
  · obtain rfl := Option.some.inj hp
    refine hedited _ ?_
    cases hq : r.get? g m with
    | none => exact hblank
    | some q => exact hr g m q hq
  · exact hr g m p hp

/-! ## A run -/

/-- What one more edit makes of a profile that may not be there yet. -/
def editedOrBlank (config : BotConfig) (p : Option Profile) (u : Update) : Option Profile :=
  some (edited config (p.getD (.blank u.sender)) u)

/-- **After a run the registry answers with the fold of the member's own edits.** -/
theorem get?_run (config : BotConfig) (g m : Int) : ∀ (us : List Update) (r last : Registry)
    (replies : List (List Message)), run config r us = .ok (replies, last) →
      last.get? g m = (us.filter (isEditOf config g m)).foldl (editedOrBlank config) (r.get? g m)
  | [], r, last, replies, h => by cases h; rfl
  | u :: us, r, last, replies, h => by
    obtain ⟨o, rest, ho, hrun⟩ := exists_of_run_cons h
    rw [get?_run config g m us o.registry last rest hrun, get?_handle ho, List.filter_cons]
    by_cases hu : isEditOf config g m u = true
    · rw [if_pos hu, if_pos hu, List.foldl_cons, editedOrBlank]
    · rw [if_neg hu, if_neg hu]

theorem foldl_editedOrBlank (config : BotConfig) : ∀ (us : List Update) (p : Profile),
    us.foldl (editedOrBlank config) (some p) = some (us.foldl (edited config) p)
  | [], _ => rfl
  | u :: us, p => by
    rw [List.foldl_cons, List.foldl_cons]
    exact foldl_editedOrBlank config us (edited config p u)

/-- Edits from nothing are edits of a blank profile, whoever it is blank for. -/
theorem foldl_editedOrBlank_none {config : BotConfig} {us : List Update} (hne : us ≠ [])
    (h : ∀ u ∈ us, ∃ c, change? config u = some c) (who : Member) :
    us.foldl (editedOrBlank config) none = some (us.foldl (edited config) (.blank who)) := by
  cases us with
  | nil => exact absurd rfl hne
  | cons u us =>
    obtain ⟨c, hc⟩ := h u List.mem_cons_self
    rw [List.foldl_cons, List.foldl_cons, editedOrBlank, foldl_editedOrBlank, Option.getD_none,
      edited_blank hc u.sender who]

/-- **What a run leaves in an empty registry.**  A member has a profile in a group exactly if the run edits it, and it
is the fold of those edits over a blank profile; an update that is no edit of it leaves it as it is in every registry;
and a run with the same edits of each member in the same order, so any reordering that keeps them, leaves the same
registry. -/
theorem run_from_empty (config : BotConfig) (us : List Update) :
    ∃ replies last, run config .empty us = .ok (replies, last) ∧
      (∀ g m, last.get? g m = none ↔ ∀ u ∈ us, isEditOf config g m u = false) ∧
      (∀ g m, (∃ u ∈ us, isEditOf config g m u = true) → ∀ who,
        last.get? g m = some ((us.filter (isEditOf config g m)).foldl (edited config) (.blank who))) ∧
      (∀ g m r u o, handle config r u = .ok o → isEditOf config g m u = false →
        o.registry.get? g m = r.get? g m) ∧
      (∀ vs, (∀ g m, vs.filter (isEditOf config g m) = us.filter (isEditOf config g m)) →
        ∃ replies', run config .empty vs = .ok (replies', last)) := by
  obtain ⟨replies, last, hrun⟩ := exists_run config us .empty
  have hfold : ∀ g m, last.get? g m = (us.filter (isEditOf config g m)).foldl (editedOrBlank config) none :=
    fun g m => get?_run config g m us .empty last replies hrun
  have hsome : ∀ g m, (∃ u ∈ us, isEditOf config g m u = true) → ∀ who,
      last.get? g m = some ((us.filter (isEditOf config g m)).foldl (edited config) (.blank who)) := by
    rintro g m ⟨u, hu, hedit⟩ who
    rw [hfold g m]
    refine foldl_editedOrBlank_none (List.ne_nil_of_mem (List.mem_filter.2 ⟨hu, hedit⟩)) (fun v hv => ?_) who
    exact (isEditOf_eq_true_iff.1 (List.mem_filter.1 hv).2).1
  refine ⟨replies, last, hrun, fun g m => ⟨fun hnone u hu => ?_, fun hall => ?_⟩, hsome, ?_, fun vs hvs => ?_⟩
  · cases hedit : isEditOf config g m u with
    | false => rfl
    | true =>
      rw [hsome g m ⟨u, hu, hedit⟩ u.sender] at hnone
      cases hnone
  · have hnil : us.filter (isEditOf config g m) = [] := List.filter_eq_nil_iff.2 (by simpa using hall)
    rw [hfold g m, hnil]; rfl
  · intro g m r u o ho hu
    rw [get?_handle ho, if_neg (by simp [hu])]
  · obtain ⟨replies', last', hrun'⟩ := exists_run config vs .empty
    have hlast : last' = last := Registry.ext_get? fun g m => by
      rw [get?_run config g m vs .empty last' replies' hrun', hvs g m, hfold g m]; rfl
    exact ⟨replies', hlast ▸ hrun'⟩

end ChatProfiles.Bot
