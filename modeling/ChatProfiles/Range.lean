import ChatProfiles.Attempt
import ChatProfiles.Decimal.Shortest
/-!
# Ranges

A range is closed, and either bound may be absent; an absent bound bounds nothing.
Whatever makes a range or sets a bound of one first checks that the two bounds are
not inverted.

Bounds are compared as their type compares them.  A float that is not a number is
neither above nor below any other, so it never inverts a range, and no value lies
in a range bounded by it.
-/
namespace ChatProfiles

/-- Values that can bound a range: ordered, and written in messages. -/
class Bound (α : Type) where
  le : α → α → Bool
  lt : α → α → Bool
  same : α → α → Bool
  write : α → Text

instance : Bound Int where
  le a b := decide (a ≤ b)
  lt a b := decide (a < b)
  same a b := decide (a = b)
  write := Decimal.ofInt

instance : Bound Float where
  le a b := decide (a ≤ b)
  lt a b := decide (a < b)
  same a b := a == b
  write := Decimal.plain

structure Range (α : Type) where
  min : Option α := none
  max : Option α := none

/-- Two bounds in the wrong order, as they are written. -/
structure Inverted where
  min : Text
  max : Text

def Inverted.message (e : Inverted) : Text :=
  "invalid range: min (".toList ++ e.min ++ ") > max (".toList ++ e.max ++ ")".toList

namespace Range

variable {α : Type}

def unbounded : Range α := {}

def point (value : α) : Range α := ⟨some value, some value⟩

def atLeast (min : α) : Range α := ⟨some min, none⟩

def atMost (max : α) : Range α := ⟨none, some max⟩

/-- Both bounds moved by `f`, which has to keep their order. -/
def map {β : Type} (f : α → β) (r : Range α) : Range β := ⟨r.min.map f, r.max.map f⟩

variable [Bound α]

/-- Two bounds will do unless both are present and the lower one is above the upper one. -/
def check (min max : Option α) : Except Inverted Unit :=
  match min, max with
  | some a, some b => if Bound.lt b a then .error ⟨Bound.write a, Bound.write b⟩ else .ok ()
  | _, _ => .ok ()

def ofBounds (min max : Option α) : Except Inverted (Range α) := do
  check min max
  return ⟨min, max⟩

def closed (min max : α) : Except Inverted (Range α) := ofBounds (some min) (some max)

def setMin (min : Option α) : Attempt (Range α) Inverted Unit := do
  check min (← get).max
  modify ({ · with min })

def setMax (max : Option α) : Attempt (Range α) Inverted Unit := do
  check (← get).min max
  modify ({ · with max })

/-- Both bounds at once, so that a range can move beyond its old bounds. -/
def setBounds (min max : Option α) : Attempt (Range α) Inverted Unit := do
  check min max
  modify ({ · with min, max })

def contains (r : Range α) (value : α) : Bool :=
  r.min.all (Bound.le · value) && r.max.all (Bound.le value ·)

/-- The one value of a range whose bounds are present and equal. -/
def point? (r : Range α) : Option α :=
  match r.min, r.max with
  | some a, some b => if Bound.same a b then some a else none
  | _, _ => none

def isPoint (r : Range α) : Bool := r.point?.isSome

/-- As directives write it: one number for a point, else the bounds around a comma. -/
def write (r : Range α) : Text :=
  match r.point? with
  | some a => Bound.write a
  | none => (r.min.elim [] Bound.write) ++ ',' :: (r.max.elim [] Bound.write)

/-! ## Steps

A range comes about step by step: a step makes it anew, or sets bounds of the one that is there. -/

inductive Step (α : Type) where
  | bounds (min max : Option α)
  | closed (min max : α)
  | point (value : α)
  | atLeast (min : α)
  | atMost (max : α)
  | unbounded
  | setMin (min : Option α)
  | setMax (max : Option α)
  | setBounds (min max : Option α)

/-- A range that cannot be made does not take the place of the one that is there. -/
def Step.attempt : Step α → Attempt (Range α) Inverted Unit
  | bounds min max => do set (← ofBounds min max)
  | closed min max => do set (← Range.closed min max)
  | point value => set (Range.point value)
  | atLeast min => set (Range.atLeast min)
  | atMost max => set (Range.atMost max)
  | unbounded => set (Range.unbounded : Range α)
  | setMin min => Range.setMin min
  | setMax max => Range.setMax max
  | setBounds min max => Range.setBounds min max

/-- The range that a step leaves, whether it succeeds or not. -/
def next (r : Range α) (s : Step α) : Range α := (s.attempt.on r).2

/-- The range after some steps, from the one that is bounded by nothing. -/
def after (steps : List (Step α)) : Range α := steps.foldl next unbounded

end Range

end ChatProfiles
