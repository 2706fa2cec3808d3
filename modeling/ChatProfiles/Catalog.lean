import ChatProfiles.Decimal.Basic
/-!
# The catalog of attributes

The closed list of numbers a profile can hold.  Each kind has a unit, by which
directives name it, and bounds, which a stored value must respect.  The unit of
distances is kept apart: it must never become the unit of an attribute, since
directives tell the two by their units alone.
-/
namespace ChatProfiles

inductive AttributeKind where
  | age
  | height
  | weight
deriving DecidableEq, Repr

namespace AttributeKind

/-- Every kind, in the order in which profiles show them. -/
def all : List AttributeKind := [.age, .height, .weight]

def name : AttributeKind → Text
  | .age => "age".toList
  | .height => "height".toList
  | .weight => "weight".toList

/-- Years, centimetres, kilograms. -/
def unit : AttributeKind → Text
  | .age => "yo".toList
  | .height => "cm".toList
  | .weight => "kg".toList

def lowest : AttributeKind → Int
  | .age => 14
  | .height => 50
  | .weight => 25

def highest : AttributeKind → Int
  | .age => 150
  | .height => 250
  | .weight => 750

def ofUnit? (unit : Text) : Option AttributeKind := all.find? (·.unit == unit)

def ofName? (name : Text) : Option AttributeKind := all.find? (·.name == name)

def accepts (k : AttributeKind) (value : Int) : Bool := k.lowest ≤ value && value ≤ k.highest

/-- A value with its unit, as directives and cards show it. -/
def shown (k : AttributeKind) (value : Int) : Text := Decimal.ofInt value ++ k.unit

theorem mem_all (k : AttributeKind) : k ∈ all := by cases k <;> decide

theorem ofUnit?_unit (k : AttributeKind) : ofUnit? k.unit = some k := by cases k <;> decide

theorem ofName?_name (k : AttributeKind) : ofName? k.name = some k := by cases k <;> decide

end AttributeKind

/-- The unit of distances: kilometres. -/
def distanceUnit : Text := "km".toList

theorem AttributeKind.unit_ne_distanceUnit (k : AttributeKind) : k.unit ≠ distanceUnit := by
  cases k <;> decide

/-- A value that the bounds of its kind do not accept. -/
structure OutOfBounds where
  kind : AttributeKind
  value : Int
deriving DecidableEq

def OutOfBounds.message (e : OutOfBounds) : Text :=
  e.kind.shown e.value ++ " is outside the accepted ".toList ++ e.kind.name ++ " range [".toList
    ++ Decimal.ofInt e.kind.lowest ++ ", ".toList ++ Decimal.ofInt e.kind.highest ++ "]".toList

/-! ## One slot per kind

What a profile knows of each kind, and what a search asks of it, is a `Sheet`: a
slot for each kind, filled or empty. -/

structure Sheet (α : Type) where
  age : Option α := none
  height : Option α := none
  weight : Option α := none

namespace Sheet

variable {α : Type}

def get (s : Sheet α) : AttributeKind → Option α
  | .age => s.age
  | .height => s.height
  | .weight => s.weight

def set (s : Sheet α) (k : AttributeKind) (a : α) : Sheet α :=
  match k with
  | .age => { s with age := some a }
  | .height => { s with height := some a }
  | .weight => { s with weight := some a }

/-- The filled slots, in catalog order. -/
def entries (s : Sheet α) : List (AttributeKind × α) :=
  AttributeKind.all.filterMap fun k => (s.get k).map (k, ·)

def isEmpty (s : Sheet α) : Bool := s.entries.isEmpty

theorem get_set (s : Sheet α) (k l : AttributeKind) (a : α) :
    (s.set k a).get l = if l = k then some a else s.get l := by
  cases k <;> cases l <;> rfl

@[ext] theorem ext_get {s t : Sheet α} (h : ∀ k, s.get k = t.get k) : s = t := by
  obtain ⟨a, b, c⟩ := s
  obtain ⟨a', b', c'⟩ := t
  have ha : a = a' := h .age
  have hb : b = b' := h .height
  have hc : c = c' := h .weight
  rw [ha, hb, hc]

theorem mem_entries {s : Sheet α} {k : AttributeKind} {a : α} :
    (k, a) ∈ s.entries ↔ s.get k = some a := by
  simp [entries, AttributeKind.mem_all]

end Sheet

end ChatProfiles
