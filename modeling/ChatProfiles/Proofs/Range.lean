import ChatProfiles.Range
/-!
# What a range says

A value lies within a range if no bound that is there forbids it.  Between whole numbers there is a range unless they
are in the wrong order, and it is a point if they are the same.
-/
namespace ChatProfiles.Range

/-- The value is neither below the lower bound nor above the upper one. -/
def Within {α : Type} [LE α] (r : Range α) (value : α) : Prop :=
  (∀ a ∈ r.min, a ≤ value) ∧ ∀ b ∈ r.max, value ≤ b

/-- Bounds that fit and are in order. -/
structure Fits {α : Type} [Bound α] (fits : α → Prop) (r : Range α) : Prop where
  min : ∀ a ∈ r.min, fits a
  max : ∀ b ∈ r.max, fits b
  ordered : ∀ a ∈ r.min, ∀ b ∈ r.max, Bound.lt b a = false

theorem contains_iff {r : Range Int} {value : Int} : r.contains value = true ↔ r.Within value := by
  simp only [contains, Within, Bool.and_eq_true, Option.all_eq_true, Option.mem_def, Bound.le, decide_eq_true_eq]

theorem contains_float_iff {r : Range Float} {value : Float} : r.contains value = true ↔ r.Within value := by
  simp only [contains, Within, Bool.and_eq_true, Option.all_eq_true, Option.mem_def, Bound.le, decide_eq_true_eq]

theorem check_eq_ok_iff {α : Type} [Bound α] {min max : Option α} :
    check min max = .ok () ↔ ∀ a ∈ min, ∀ b ∈ max, Bound.lt b a = false := by
  cases min with
  | none => simp [check]
  | some a =>
    cases max with
    | none => simp [check]
    | some b => cases h : Bound.lt b a <;> simp [check, h]

/-- There is a range between two bounds unless both are there and the upper one is below the lower one. -/
theorem ofBounds_eq_ok_iff {α : Type} [Bound α] {min max : Option α} {r : Range α} :
    ofBounds min max = .ok r ↔ (∀ a ∈ min, ∀ b ∈ max, Bound.lt b a = false) ∧ r = ⟨min, max⟩ := by
  rw [← check_eq_ok_iff, ofBounds, @eq_comm _ r]
  cases check min max with
  | ok => exact ⟨fun h => ⟨rfl, Except.ok.inj h⟩, fun h => congrArg Except.ok h.2⟩
  | error e => exact iff_of_false nofun fun h => nomatch h.1

/-! ## Whole numbers -/

variable {min max : Option Int} {r : Range Int}

theorem lt_eq_false_iff {a b : Int} : Bound.lt b a = false ↔ a ≤ b := by simp [Bound.lt]

theorem ofBounds_toOption_eq_some_iff :
    (ofBounds min max).toOption = some r ↔ (∀ a ∈ min, ∀ b ∈ max, a ≤ b) ∧ r = ⟨min, max⟩ := by
  have hoption : (ofBounds min max).toOption = some r ↔ ofBounds min max = .ok r := by
    cases ofBounds min max <;> simp [Except.toOption]
  simp only [hoption, ofBounds_eq_ok_iff, lt_eq_false_iff]

/-- Bounds are refused exactly if they are in the wrong order, and are then named. -/
theorem check_eq_error_iff {e : Inverted} :
    check min max = .error e ↔ ∃ a ∈ min, ∃ b ∈ max, b < a ∧ e = ⟨Decimal.ofInt a, Decimal.ofInt b⟩ := by
  cases min with
  | none => simp [check]
  | some a =>
    cases max with
    | none => simp [check]
    | some b => by_cases h : b < a <;> simp [check, Bound.lt, Bound.write, h, @eq_comm _ e]

theorem within_point_iff {a value : Int} : (point a).Within value ↔ a = value := by
  simp only [Within, point, Option.mem_def, Option.some.injEq, forall_eq']
  omega

theorem point?_eq_some_iff {a : Int} : r.point? = some a ↔ r.min = some a ∧ r.max = some a := by
  obtain ⟨min, max⟩ := r
  cases min with
  | none => simp [point?]
  | some a' =>
    cases max with
    | none => simp [point?]
    | some b =>
      by_cases h : a' = b
      · simp [point?, Bound.same, h]
      · have hne : ¬ (a' = a ∧ b = a) := fun hab => h (hab.1.trans hab.2.symm)
        simp [point?, Bound.same, h, hne]

end ChatProfiles.Range
