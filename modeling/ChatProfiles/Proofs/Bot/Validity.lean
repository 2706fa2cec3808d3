import ChatProfiles.Proofs.Bot.History
import ChatProfiles.Proofs.Profile.TagSet
import ChatProfiles.Proofs.Registry.Keyed
/-!
# Stored profiles are valid

A profile is valid for a member if it carries the member's identifier, its attributes are within bounds, its tags are
words of letters and digits in strictly ascending order of their folded bodies, and its marker is one symbol.  Most of
this a `Profile` cannot be without: tags, tag sets and markers are checked where they are made, and a registry files a
profile under the identifier it carries.  Attributes are not, since a profile read from outside may hold any numbers,
so what is left to show is that no update stores one out of bounds (`inBounds_handle`).

A store has keys of its own.  All that a run writes it writes by calls (`last_eq_calls`), and calls keep keys and
identifiers together, so a store to which these calls are made has each profile under its member's key as well.
-/
namespace ChatProfiles

/-- What is true of a profile kept for a member. -/
structure Profile.Valid (p : Profile) (member : Int) : Prop where
  id_eq : p.id = member
  inBounds : p.InBounds
  tag : ∀ t ∈ p.tags.toList, t.body ≠ [] ∧ ∀ c ∈ t.body, c.isAlphanum = true
  ascending : p.tags.toList.Pairwise fun a b => Text.order (Text.fold a.body) (Text.fold b.body) = .lt
  distinct : p.tags.toList.Pairwise fun a b => Text.sameIgnoringCase a.body b.body = false
  marker : ∃ c, p.marker.write = [c] ∧ Text.isSymbol c = true

theorem Profile.InBounds.valid {p : Profile} (h : p.InBounds) : p.Valid p.id where
  id_eq := rfl
  inBounds := h
  tag t _ := ⟨t.nonempty, List.all_eq_true.1 t.alphanumeric⟩
  ascending := p.tags.ascending
  distinct := p.tags.ascending.imp Tag.same_eq_false_of_before
  marker := ⟨p.marker.symbol, rfl, p.marker.isSymbol⟩

/-- Every profile of the registry has its attributes within bounds. -/
def Registry.InBounds (r : Registry) : Prop := ∀ g m p, r.get? g m = some p → p.InBounds

theorem Registry.inBounds_empty : Registry.empty.InBounds := fun _ _ _ h => by cases h

namespace Bot

variable {config : BotConfig}

theorem inBounds_edited {p : Profile} (h : p.InBounds) (u : Update) : (edited config p u).InBounds := by
  unfold edited
  split
  · next c _ =>
    have hsender : (p.withMember u.sender).InBounds := h
    cases c with
    | edit words => exact hsender.applyTokens words
    | place l => exact hsender
  · exact h

/-- **No update stores an attribute out of bounds.** -/
theorem inBounds_handle {r : Registry} {u : Update} {o : Outcome} (h : r.InBounds) (ho : handle config r u = .ok o) :
    o.registry.InBounds :=
  forall_get?_handle ho (Profile.inBounds_blank u.sender) (fun _ hp => inBounds_edited hp u) h

/-! ## The calls of a run -/

/-- The calls by which an update writes: an edit enters its sender, and files what the change makes of the profile. -/
def writes (config : BotConfig) (r : Registry) (u : Update) : List Registry.Request :=
  match change? config u with
  | some c => [.enter u.chat.id u.sender, .put u.chat.id (c.apply (r.enter u.chat.id u.sender).1)]
  | none => []

/-- The calls by which a run writes. -/
def runWrites (config : BotConfig) : Registry → List Update → List Registry.Request
  | _, [] => []
  | r, u :: us => writes config r u ++ runWrites config (r.calls (writes config r u)).2 us

theorem registry_handle_eq_calls {r : Registry} {u : Update} {o : Outcome} (h : handle config r u = .ok o) :
    o.registry = (r.calls (writes config r u)).2 := by
  rw [registry_handle h, writes]
  cases change? config u <;> rfl

/-- **What a run leaves is what its calls leave.** -/
theorem last_eq_calls : ∀ (us : List Update) {r last : Registry} {replies : List (List Message)},
    run config r us = .ok (replies, last) → last = (r.calls (runWrites config r us)).2
  | [], r, last, replies, h => by cases h; rfl
  | u :: us, r, last, replies, h => by
    obtain ⟨o, rest, ho, hrun⟩ := exists_of_run_cons h
    rw [runWrites, Registry.calls_append_snd, ← registry_handle_eq_calls ho]
    exact last_eq_calls us hrun

/-- **Every profile a run stores is valid for the member it is stored for**, in every group, and so is every profile of
a store to which the calls of the run are made, for the member whose key it is under. -/
theorem stored_profiles_valid (config : BotConfig) (us : List Update) :
    ∃ replies last, run config .empty us = .ok (replies, last) ∧
      (∀ g m p, last.get? g m = some p → p.Valid m) ∧
      ∀ g key p, (Store.empty.calls (runWrites config .empty us)).2.get? g key = some p → p.Valid key := by
  obtain ⟨replies, last, hrun⟩ := exists_run config us .empty
  have hlast : last.InBounds := run_keeps (fun _ _ _ => inBounds_handle) us Registry.inBounds_empty hrun
  refine ⟨replies, last, hrun, fun g m p hp => ?_, fun g key p hp => ?_⟩
  · obtain rfl := Registry.id_of_get? hp
    exact (hlast g p.id p hp).valid
  · obtain rfl := Store.keyed_empty.calls (runWrites config .empty us) g key p hp
    rw [(Store.calls_eq _).2, ← last_eq_calls us hrun] at hp
    exact (hlast g p.id p hp).valid

end Bot

end ChatProfiles
