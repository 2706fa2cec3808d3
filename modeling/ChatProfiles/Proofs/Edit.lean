import ChatProfiles.Edit
/-!
# What an edit keeps

Whatever the words of an edit are, the profile stays the profile of its member, where it is, and its attributes stay
within the bounds of their kinds: the one directive that gives an attribute a value is refused when the value is out of
bounds.

A directive that is refused leaves the profile unchanged (`failsCleanly_apply`), and which words are refused depends on
nothing but the words (`on_apply`): neither on the profile nor on the words around them.  So a list of words leaves what
its directives leave one after the other, and reports those that are refused (`applyTokens_eq`).
-/
namespace ChatProfiles

theorem AttributeKind.accepts_iff {kind : AttributeKind} {value : Int} :
    kind.accepts value = true ↔ kind.lowest ≤ value ∧ value ≤ kind.highest := by
  simp only [accepts, Bool.and_eq_true, decide_eq_true_eq]

/-! ## What is refused -/

namespace Directive

/-- The directives that edit no profile: those that make sense in a search only, those that make none, and values beyond
the bounds of their kind. -/
inductive Refused : Directive → Prop
  | unrecognized (token : Text) : Refused (.unrecognized token)
  | attributeWithin (kind : AttributeKind) (range : Range Int) : Refused (.attributeWithin kind range)
  | distanceWithin (range : Range Float) : Refused (.distanceWithin range)
  | outOfBounds {kind : AttributeKind} {value : Int} (h : value < kind.lowest ∨ kind.highest < value) :
      Refused (.setAttribute kind value)

def refusal? : Directive → Option Refusal
  | .includeTag _ | .excludeTag _ | .setMarker _ => none
  | .setAttribute kind value => if kind.accepts value then none else some (.outOfBounds ⟨kind, value⟩)
  | .attributeWithin kind range => some (.searchOnly (.attributeWithin kind range))
  | .distanceWithin range => some (.searchOnly (.distanceWithin range))
  | .unrecognized token => some (.unrecognized token)

theorem refused_setAttribute_iff {kind : AttributeKind} {value : Int} :
    (setAttribute kind value).Refused ↔ kind.accepts value = false := by
  have haccepts : kind.accepts value = false ↔ value < kind.lowest ∨ kind.highest < value := by
    rw [← Bool.not_eq_true, AttributeKind.accepts_iff, Decidable.not_and_iff_or_not, Int.not_le, Int.not_le]
  rw [haccepts]
  constructor
  · rintro ⟨⟩
    assumption
  · exact .outOfBounds

theorem isSome_refusal?_iff {d : Directive} : d.refusal?.isSome = true ↔ d.Refused := by
  cases d with
  | includeTag | excludeTag | setMarker => exact iff_of_false nofun nofun
  | attributeWithin kind range => exact iff_of_true rfl (.attributeWithin kind range)
  | distanceWithin range => exact iff_of_true rfl (.distanceWithin range)
  | unrecognized token => exact iff_of_true rfl (.unrecognized token)
  | setAttribute kind value =>
    rw [refused_setAttribute_iff, refusal?]
    cases kind.accepts value <;> simp

instance : DecidablePred Refused := fun _ => decidable_of_iff _ isSome_refusal?_iff

end Directive

namespace Profile

open Attempt

/-! ## One directive -/

theorem on_setAttribute (p : Profile) (kind : AttributeKind) (value : Int) :
    (setAttribute kind value).on p =
      if kind.accepts value then (.ok (p.attributes.get kind), { p with attributes := p.attributes.set kind value })
      else (.error ⟨kind, value⟩, p) := by
  cases h : kind.accepts value <;> simp [setAttribute, h]

/-- **A value beyond the bounds of its kind leaves the profile unchanged.** -/
theorem failsCleanly_setAttribute (kind : AttributeKind) (value : Int) : (setAttribute kind value).FailsCleanly :=
  failsCleanly_of_cases fun p => by
    rw [on_setAttribute]
    cases kind.accepts value <;> simp

/-- The profile that a directive leaves, whether it is refused or not. -/
def after (p : Profile) (d : Directive) : Profile := ((apply d).on p).2

theorem after_setAttribute (p : Profile) (kind : AttributeKind) (value : Int) :
    p.after (.setAttribute kind value) =
      if kind.accepts value then { p with attributes := p.attributes.set kind value } else p := by
  rw [after, apply, on_bind, on_adapt, on_setAttribute]
  cases kind.accepts value <;> rfl

/-- **Whether a directive is refused does not depend on the profile.** -/
theorem on_apply (p : Profile) (d : Directive) :
    (apply d).on p = (match d.refusal? with
      | none => .ok ()
      | some reason => .error reason, p.after d) := by
  refine Prod.ext ?_ rfl
  cases d with
  | setAttribute kind value =>
    rw [apply, on_bind, on_adapt, on_setAttribute, Directive.refusal?]
    cases kind.accepts value <;> rfl
  | _ => rfl

theorem exists_apply_error_iff {p : Profile} {d : Directive} :
    (∃ reason, ((apply d).on p).1 = .error reason) ↔ d.Refused := by
  rw [on_apply, ← Directive.isSome_refusal?_iff]
  cases d.refusal? with
  | none => exact iff_of_false nofun nofun
  | some reason => exact iff_of_true ⟨reason, rfl⟩ rfl

/-- **On error the profile is unchanged**: of the directives that are refused the one that would write checks first. -/
theorem failsCleanly_apply (d : Directive) : (apply d).FailsCleanly := by
  intro p reason h
  cases exists_apply_error_iff.1 ⟨reason, h⟩ with
  | unrecognized | attributeWithin | distanceWithin => rfl
  | @outOfBounds kind value hbounds =>
    have hset : ((setAttribute kind value).on p).1 = .error ⟨kind, value⟩ := by
      rw [on_setAttribute, Directive.refused_setAttribute_iff.1 (.outOfBounds hbounds)]; rfl
    have hsame := failsCleanly_setAttribute kind value p _ hset
    rw [apply, on_bind, on_adapt, hset]
    exact hsame

theorem after_of_refused {d : Directive} (h : d.Refused) (p : Profile) : p.after d = p := by
  obtain ⟨reason, herror⟩ := exists_apply_error_iff.2 h
  exact failsCleanly_apply d p reason herror

/-- A directive changes the marker, the attributes or the tags, and nothing else. -/
theorem after_frame (p : Profile) (d : Directive) :
    p.after d =
      { p with marker := (p.after d).marker, attributes := (p.after d).attributes, tags := (p.after d).tags } := by
  cases d with
  | setAttribute kind value =>
    rw [after_setAttribute]
    cases kind.accepts value <;> rfl
  | _ => rfl

theorem member_after (p : Profile) (d : Directive) : (p.after d).member = p.member := by rw [after_frame]

theorem location_after (p : Profile) (d : Directive) : (p.after d).location = p.location := by rw [after_frame]

/-! ## A list of words -/

/-- The word with the reason for which it is refused, if it is. -/
def refusedToken? (w : Text) : Option RefusedToken := (Directive.ofToken .edit w).refusal?.map (⟨w, ·⟩)

/-- **A list of words does what its directives do one after the other, and reports those that are refused.** -/
theorem applyTokens_eq : ∀ (words : List Text) (p : Profile),
    p.applyTokens words = ((Directive.ofTokens .edit words).foldl after p, words.filterMap refusedToken?)
  | [], _ => rfl
  | w :: rest, p => by
    rw [applyTokens, on_apply, List.filterMap_cons, refusedToken?]
    simp only [applyTokens_eq rest (p.after (.ofToken .edit w))]
    cases (Directive.ofToken .edit w).refusal? <;> rfl

/-- **What every directive keeps, a list of words keeps**, whichever of them are refused. -/
theorem applyTokens_keeps {P : Profile → Prop} (keeps : ∀ p d, P p → P (p.after d)) (words : List Text) {p : Profile}
    (hp : P p) : P (p.applyTokens words).1 := by
  rw [applyTokens_eq]
  exact List.foldlRecOn _ after hp fun q hq d _ => keeps q d hq

theorem applyTokens_member (p : Profile) (words : List Text) : (p.applyTokens words).1.member = p.member :=
  applyTokens_keeps (P := fun q => q.member = p.member) (fun q d hq => (member_after q d).trans hq) words rfl

theorem applyTokens_location (p : Profile) (words : List Text) : (p.applyTokens words).1.location = p.location :=
  applyTokens_keeps (P := fun q => q.location = p.location) (fun q d hq => (location_after q d).trans hq) words rfl

/-- **The words reported are those that are refused**, each as often as it stands in the list. -/
theorem map_token_refused (p : Profile) (words : List Text) :
    (p.applyTokens words).2.map RefusedToken.token = words.filter fun w => (Directive.ofToken .edit w).Refused := by
  rw [applyTokens_eq]
  induction words with
  | nil => rfl
  | cons w rest ih =>
    have hrefused : decide (Directive.ofToken .edit w).Refused = (Directive.ofToken .edit w).refusal?.isSome := by
      rw [Bool.eq_iff_iff, decide_eq_true_eq, Directive.isSome_refusal?_iff]
    rw [List.filterMap_cons, List.filter_cons, hrefused, refusedToken?]
    cases (Directive.ofToken .edit w).refusal? with
    | none => exact ih
    | some reason => exact congrArg (w :: ·) ih

/-- The words that are not refused, in their order. -/
def applied (p : Profile) : List Text → List Text
  | [] => []
  | w :: rest =>
    let (result, q) := (apply (Directive.ofToken .edit w)).on p
    match result with
    | .ok () => w :: q.applied rest
    | .error _ => q.applied rest

theorem applied_eq_filter (words : List Text) (p : Profile) :
    p.applied words = words.filter fun w => ¬ (Directive.ofToken .edit w).Refused := by
  induction words generalizing p with
  | nil => rfl
  | cons w rest ih =>
    rw [applied, on_apply, List.filter_cons]
    simp only [ih, ← Directive.isSome_refusal?_iff]
    cases (Directive.ofToken .edit w).refusal? <;> rfl

/-- **The words that are not refused are those that are not reported.** -/
theorem applied_eq_unreported (words : List Text) (p : Profile) :
    p.applied words = words.filter fun w => w ∉ (p.applyTokens words).2.map RefusedToken.token := by
  rw [applied_eq_filter, map_token_refused]
  refine List.filter_congr fun w hw => ?_
  simp [List.mem_filter, hw]

/-- **Without the words that are refused a list does the same, and nothing is refused.** -/
theorem applyTokens_applied (words : List Text) (p : Profile) :
    p.applyTokens (p.applied words) = ((p.applyTokens words).1, []) := by
  induction words generalizing p with
  | nil => rfl
  | cons w rest ih =>
    rw [applied, applyTokens, on_apply]
    cases h : (Directive.ofToken .edit w).refusal? with
    | none =>
      dsimp only
      rw [applyTokens, on_apply, h]
      simp only [ih]
    | some reason =>
      have hsame : p.after (.ofToken .edit w) = p :=
        after_of_refused (Directive.isSome_refusal?_iff.1 (Option.isSome_of_eq_some h)) p
      dsimp only
      rw [hsame]
      exact ih p

/-! ## Bounds -/

/-- Every attribute that has a value has one within the bounds of its kind. -/
def InBounds (p : Profile) : Prop :=
  ∀ kind value, p.attributes.get kind = some value → kind.lowest ≤ value ∧ value ≤ kind.highest

theorem inBounds_blank (m : Member) : (blank m).InBounds := fun kind value h => by cases kind <;> cases h

theorem InBounds.set {p : Profile} (h : p.InBounds) {kind : AttributeKind} {value : Int}
    (haccepts : kind.accepts value = true) : InBounds { p with attributes := p.attributes.set kind value } := by
  intro k v hv
  rw [Sheet.get_set] at hv
  by_cases hk : k = kind
  · rw [if_pos hk] at hv
    obtain rfl := Option.some.inj hv
    exact hk ▸ AttributeKind.accepts_iff.1 haccepts
  · rw [if_neg hk] at hv
    exact h k v hv

theorem InBounds.after {p : Profile} (h : p.InBounds) (d : Directive) : (p.after d).InBounds := by
  cases d with
  | setAttribute kind value =>
    rw [after_setAttribute]
    split
    · next haccepts => exact h.set haccepts
    · exact h
  | _ => exact h

/-- **No list of words takes an attribute out of bounds**, whichever of them are refused. -/
theorem InBounds.applyTokens {p : Profile} (h : p.InBounds) (words : List Text) : (p.applyTokens words).1.InBounds :=
  applyTokens_keeps (fun _ d hp => hp.after d) words h

end Profile

end ChatProfiles
