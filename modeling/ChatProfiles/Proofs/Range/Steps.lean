import ChatProfiles.Proofs.Range
/-!
# Ranges step by step

Whatever sets a bound checks first and writes then, so a step that fails leaves the range as it was
(`Step.failsCleanly`).  What a step checks is the bounds it would leave and nothing else: it leaves them if they are in
order (`Step.attempt_of_check`), and fails if they are not (`Step.attempt_eq_error_iff`), whether it makes a range or
sets a bound of one.  So what a step leaves is in order where it began in order (`Fits.next`), and any number of steps
are (`fits_after`).

That the range itself is in order is what makes `setBounds` a convenience and no more.  A bound can be set before the
other one unless it lies beyond the old one on the other side, and between bounds in order that does not happen to both
(`setBounds_in_two`).
-/
namespace ChatProfiles.Range

open Attempt

/-! ## One step -/

namespace Step

/-- The bounds that the range would have after the step. -/
def leaves (r : Range Int) : Step Int → Range Int
  | bounds min max | setBounds min max => ⟨min, max⟩
  | closed min max => ⟨some min, some max⟩
  | point value => ⟨some value, some value⟩
  | atLeast min => ⟨some min, none⟩
  | atMost max => ⟨none, some max⟩
  | unbounded => ⟨none, none⟩
  | setMin min => ⟨min, r.max⟩
  | setMax max => ⟨r.min, max⟩

/-- The numbers that the step sets as bounds. -/
def named : Step Int → List Int
  | bounds min max | setBounds min max => min.toList ++ max.toList
  | closed min max => [min, max]
  | point value => [value]
  | atLeast bound | atMost bound => [bound]
  | unbounded => []
  | setMin bound | setMax bound => bound.toList

variable {r : Range Int} {s : Step Int}

/-- **A step checks the bounds that it would leave**, and leaves them if they pass; else it leaves the range as it was,
since nothing has been written when the check fails. -/
theorem on_attempt (r : Range Int) (s : Step Int) :
    s.attempt.on r = match check (s.leaves r).min (s.leaves r).max with
      | .ok () => (.ok (), s.leaves r)
      | .error e => (.error e, r) := by
  cases s with
  | bounds min max =>
    simp only [attempt, on_bind, on_lift, ofBounds, leaves]
    cases check min max <;> rfl
  | closed min max =>
    simp only [attempt, Range.closed, on_bind, on_lift, ofBounds, leaves]
    cases check (some min) (some max) <;> rfl
  | point value => rw [show check _ _ = .ok () from check_eq_ok_iff.2 (by simp [leaves, Bound.lt])]; rfl
  | atLeast | atMost | unbounded => rfl
  | setMin min =>
    simp only [attempt, Range.setMin, on_bind, on_get, on_lift, leaves]
    cases check min r.max <;> simp only [on_modify]
  | setMax max =>
    simp only [attempt, Range.setMax, on_bind, on_get, on_lift, leaves]
    cases check r.min max <;> simp only [on_modify]
  | setBounds min max =>
    simp only [attempt, Range.setBounds, on_bind, on_lift, leaves]
    cases check min max <;> simp only [on_modify]

/-- **A step that fails leaves the range exactly as it was.** -/
theorem failsCleanly (s : Step Int) : s.attempt.FailsCleanly := failsCleanly_of_cases fun r => by
  rw [on_attempt]
  cases check (s.leaves r).min (s.leaves r).max <;> simp

theorem attempt_eq_ok_iff {r' : Range Int} :
    s.attempt.on r = (.ok (), r') ↔ (∀ a ∈ (s.leaves r).min, ∀ b ∈ (s.leaves r).max, a ≤ b) ∧ r' = s.leaves r := by
  simp only [← lt_eq_false_iff, ← check_eq_ok_iff, on_attempt, @eq_comm _ r']
  cases check (s.leaves r).min (s.leaves r).max <;> simp

theorem attempt_eq_error_iff {e : Inverted} :
    (s.attempt.on r).1 = .error e ↔ ∃ a ∈ (s.leaves r).min, ∃ b ∈ (s.leaves r).max,
      b < a ∧ e = ⟨Decimal.ofInt a, Decimal.ofInt b⟩ := by
  rw [on_attempt, ← check_eq_error_iff]
  cases check (s.leaves r).min (s.leaves r).max <;> simp

/-- A bound that a step leaves was there before, or the step has set it. -/
theorem mem_leaves_min {a : Int} (h : a ∈ (s.leaves r).min) : a ∈ s.named ∨ a ∈ r.min := by
  cases s <;> simp_all [leaves, named]

theorem mem_leaves_max {b : Int} (h : b ∈ (s.leaves r).max) : b ∈ s.named ∨ b ∈ r.max := by
  cases s <;> simp_all [leaves, named]

end Step

variable {fits : Int → Prop} {r r' : Range Int} {s : Step Int}

/-- **A step keeps bounds in order**, and within what fits if it sets no other. -/
theorem Fits.next (h : r.Fits fits) (hs : ∀ b ∈ s.named, fits b) : (r.next s).Fits fits := by
  cases hresult : (s.attempt.on r).1 with
  | error e =>
    have hsame : r.next s = r := s.failsCleanly r e hresult
    rwa [hsame]
  | ok =>
    obtain ⟨hordered, hleft⟩ := Step.attempt_eq_ok_iff.1 (Prod.ext hresult rfl : s.attempt.on r = (.ok (), r.next s))
    rw [hleft]
    exact ⟨fun a ha => (Step.mem_leaves_min ha).elim (hs a) (h.min a),
      fun b hb => (Step.mem_leaves_max hb).elim (hs b) (h.max b),
      fun a ha b hb => lt_eq_false_iff.2 (hordered a ha b hb)⟩

/-! ## Any steps -/

theorem fits_unbounded : (unbounded : Range Int).Fits fits := ⟨nofun, nofun, nofun⟩

theorem fits_after {steps : List (Step Int)} (h : ∀ s ∈ steps, ∀ b ∈ s.named, fits b) : (after steps).Fits fits :=
  List.foldlRecOn steps next fits_unbounded fun _ hr s hs => hr.next (h s hs)

/-- There is a number between bounds in order: one of them, or zero where there is none. -/
theorem Fits.exists_within (h : r.Fits fits) (hzero : fits 0) : ∃ value, fits value ∧ r.Within value := by
  have hordered : ∀ a ∈ r.min, ∀ b ∈ r.max, a ≤ b := fun a ha b hb => lt_eq_false_iff.1 (h.ordered a ha b hb)
  cases hmin : r.min with
  | some a => exact ⟨a, h.min a hmin, fun _ ha => Int.le_of_eq (Option.mem_unique ha hmin), hordered a hmin⟩
  | none =>
    have hlower : ∀ a ∈ r.min, ∀ value : Int, a ≤ value := fun a ha => by cases hmin ▸ ha
    cases hmax : r.max with
    | some b =>
      exact ⟨b, h.max b hmax, fun a ha => hlower a ha b, fun _ hb => Int.le_of_eq (Option.mem_unique hmax hb)⟩
    | none => exact ⟨0, hzero, fun a ha => hlower a ha 0, fun b hb => by cases hmax ▸ hb⟩

/-- **Both bounds can be set one after the other**, the one that does not pass the other old bound first. -/
theorem setBounds_in_two {min max : Option Int} (hordered : ∀ a ∈ r.min, ∀ b ∈ r.max, a ≤ b)
    (h : (setBounds min max).on r = (.ok (), r')) :
    (do setMin min; setMax max : Attempt (Range Int) Inverted Unit).on r = (.ok (), r') ∨
      (do setMax max; setMin min : Attempt (Range Int) Inverted Unit).on r = (.ok (), r') := by
  obtain ⟨hnew, rfl⟩ := Step.attempt_eq_ok_iff.1 (show (Step.setBounds min max).attempt.on r = _ from h)
  by_cases hpasses : ∃ a ∈ min, ∃ b ∈ r.max, b < a
  · -- the new lower bound lies above the old upper one, and with it the new upper bound above the old lower one
    obtain ⟨a, ha, b, hb, hlt⟩ := hpasses
    have hsecond : ∀ c ∈ r.min, ∀ d ∈ max, c ≤ d := fun c hc d hd => by
      have hold := hordered c hc b hb
      have hab := hnew a ha d hd
      omega
    have hmax : (setMax max).on r = (.ok (), ⟨r.min, max⟩) :=
      (Step.attempt_eq_ok_iff (s := .setMax max)).2 ⟨hsecond, rfl⟩
    rw [on_bind, on_bind, hmax]
    exact .inr ((Step.attempt_eq_ok_iff (s := .setMin min)).2 ⟨hnew, rfl⟩)
  · have hfirst : ∀ a ∈ min, ∀ b ∈ r.max, a ≤ b := fun a ha b hb =>
      Int.not_lt.1 fun hlt => hpasses ⟨a, ha, b, hb, hlt⟩
    have hmin : (setMin min).on r = (.ok (), ⟨min, r.max⟩) :=
      (Step.attempt_eq_ok_iff (s := .setMin min)).2 ⟨hfirst, rfl⟩
    rw [on_bind, hmin]
    exact .inl ((Step.attempt_eq_ok_iff (s := .setMax max)).2 ⟨hnew, rfl⟩)

/-- **A range of whole numbers stays valid, and fails cleanly.**  Whatever steps of 32 bits have led to it, its bounds
are in order, some number of 32 bits lies in it, and exactly those numbers do that its bounds do not forbid.  A further
step fails exactly if the bounds it would leave are in the wrong order, and leaves the range as it was; else it leaves
these bounds.  And where both bounds can be set at once they can be set one after the other, in one order or the
other. -/
theorem valid_after (steps : List (Step Int)) (h : ∀ s ∈ steps, ∀ b ∈ s.named, Decimal.fits32 b = true) :
    (∀ a ∈ (after steps).min, ∀ b ∈ (after steps).max, a ≤ b) ∧
    (∃ value, Decimal.fits32 value = true ∧ (after steps).contains value = true) ∧
    (∀ value, (after steps).contains value = true ↔
      (∀ a ∈ (after steps).min, a ≤ value) ∧ ∀ b ∈ (after steps).max, value ≤ b) ∧
    (∀ s : Step Int,
      (∀ e, (s.attempt.on (after steps)).1 = .error e ↔
        ∃ a ∈ (s.leaves (after steps)).min, ∃ b ∈ (s.leaves (after steps)).max,
          b < a ∧ e = ⟨Decimal.ofInt a, Decimal.ofInt b⟩) ∧
      (∀ e, (s.attempt.on (after steps)).1 = .error e → (s.attempt.on (after steps)).2 = after steps) ∧
      ((s.attempt.on (after steps)).1 = .ok () → (s.attempt.on (after steps)).2 = s.leaves (after steps)) ∧
      after (steps ++ [s]) = (s.attempt.on (after steps)).2) ∧
    ∀ min max left, (setBounds min max).on (after steps) = (.ok (), left) →
      (do setMin min; setMax max : Attempt (Range Int) Inverted Unit).on (after steps) = (.ok (), left) ∨
      (do setMax max; setMin min : Attempt (Range Int) Inverted Unit).on (after steps) = (.ok (), left) := by
  have hfits := fits_after h
  have hordered : ∀ a ∈ (after steps).min, ∀ b ∈ (after steps).max, a ≤ b := fun a ha b hb =>
    lt_eq_false_iff.1 (hfits.ordered a ha b hb)
  obtain ⟨value, hvalue, hwithin⟩ := hfits.exists_within rfl
  refine ⟨hordered, ⟨value, hvalue, contains_iff.2 hwithin⟩, fun _ => contains_iff, fun s => ⟨?_, ?_, ?_, ?_⟩, ?_⟩
  · exact fun e => Step.attempt_eq_error_iff
  · exact s.failsCleanly (after steps)
  · exact fun hok => (Step.attempt_eq_ok_iff.1 (Prod.ext hok rfl)).2
  · exact List.foldl_append
  · exact fun min max left hset => setBounds_in_two hordered hset

/-- Two steps that fail, and one beyond the old bounds. -/
def moved : List (Step Int) := [.closed 10 20, .setMin (some 25), .setMax (some 5), .setBounds (some 30) (some 40)]

theorem valid_after_moved :
    (∀ s ∈ moved, ∀ b ∈ s.named, Decimal.fits32 b = true) ∧ after moved = ⟨some 30, some 40⟩ ∧
      (∃ value, Decimal.fits32 value = true ∧ (after moved).contains value = true) ∧
      (setMin (some 41)).on (after moved) = (.error ⟨"41".toList, "40".toList⟩, after moved) ∧
      ((do setMin (some 10); setMax (some 20) : Attempt (Range Int) Inverted Unit).on (after moved) =
          (.ok (), ⟨some 10, some 20⟩) ∨
        (do setMax (some 20); setMin (some 10) : Attempt (Range Int) Inverted Unit).on (after moved) =
          (.ok (), ⟨some 10, some 20⟩)) := by
  have hfits : ∀ s ∈ moved, ∀ b ∈ s.named, Decimal.fits32 b = true := by decide
  obtain ⟨-, hinhabited, -, hsteps, hsets⟩ := valid_after moved hfits
  have hfails : ((setMin (some 41)).on (after moved)).1 = .error ⟨"41".toList, "40".toList⟩ :=
    ((hsteps (.setMin (some 41))).1 _).2 ⟨41, rfl, 40, rfl, by decide, rfl⟩
  have hleft : ((setMin (some 41)).on (after moved)).2 = after moved := (hsteps (.setMin (some 41))).2.1 _ hfails
  exact ⟨hfits, rfl, hinhabited, Prod.ext hfails hleft, hsets (some 10) (some 20) _ rfl⟩

end ChatProfiles.Range
