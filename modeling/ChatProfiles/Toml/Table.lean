import ChatProfiles.Toml.Value
/-!
# Building TOML tables

A document defines its tables piece by piece, and each piece may be given only
once.  Where a table came from decides what may still be added to it: one that a
header named is closed to dotted keys, one that dotted keys made is closed to
headers, and one that only stands on the way to a deeper header may still get a
header of its own.
-/
namespace ChatProfiles.Toml

inductive Origin where
  | header
  | implied
  | dotted
deriving DecidableEq

inductive Item where
  | value (v : Value)
  | table (origin : Origin) (members : List (Text × Item))
  /-- The tables of an array, the last one first. -/
  | tables (last : List (Text × Item)) (earlier : List (List (Text × Item)))

abbrev Members := List (Text × Item)

namespace Members

def put (key : Text) (i : Item) : Members → Members
  | [] => [(key, i)]
  | m :: rest => if m.1 == key then (key, i) :: rest else m :: put key i rest

/-- Applies `f` to the members of the table that `path` leads to, from `origin` on; tables that
are missing on the way are made.  Dotted keys do not lead into tables with a header. -/
def within (dotted : Bool) (f : Origin → Members → Option Members) (origin : Origin) :
    List Text → Members → Option Members
  | [], ms => f origin ms
  | key :: rest, ms =>
    match ms.lookup key with
    | none =>
      let made : Origin := if dotted then .dotted else .implied
      (within dotted f made rest []).map fun inner => put key (.table made inner) ms
    | some (.table o inner) =>
      if dotted && o == .header then none
      else (within dotted f o rest inner).map fun inner => put key (.table o inner) ms
    | some (.tables last earlier) =>
      (within dotted f .header rest last).map fun last => put key (.tables last earlier) ms
    | some (.value _) => none

def addNew (key : Text) (i : Item) (ms : Members) : Option Members :=
  if (ms.lookup key).isSome then none else some (put key i ms)

/-- A value under a key, which may be dotted: then all tables on its way are of dotted keys. -/
def addPair (keys : List Text) (v : Value) (ms : Members) : Option Members :=
  match keys.reverse with
  | [] => none
  | [key] => addNew key (.value v) ms
  | key :: path =>
    within true (fun o inner => if o == .dotted then addNew key (.value v) inner else none)
      .header path.reverse ms

/-- The table that a header names.  One that stood on the way to a deeper header before moves behind
the others. -/
def addHeader (keys : List Text) (ms : Members) : Option Members :=
  match keys.reverse with
  | [] => none
  | key :: path =>
    within false
      (fun _ inner =>
        match inner.lookup key with
        | none => some (put key (.table .header []) inner)
        | some (.table .implied own) =>
          some (put key (.table .header own) (inner.filter (·.1 != key)))
        | some _ => none)
      .header path.reverse ms

/-- One more table of the array that a doubled header names. -/
def addElement (keys : List Text) (ms : Members) : Option Members :=
  match keys.reverse with
  | [] => none
  | key :: path =>
    within false
      (fun _ inner =>
        match inner.lookup key with
        | none => some (put key (.tables [] []) inner)
        | some (.tables last earlier) => some (put key (.tables [] (last :: earlier)) inner)
        | some _ => none)
      .header path.reverse ms

/-- A value in the table that the last header named. -/
def addUnder (header keys : List Text) (v : Value) (ms : Members) : Option Members :=
  within false (fun _ inner => addPair keys v inner) .header header ms

end Members

mutual

def Item.toValue : Item → Value
  | .value v => v
  | .table _ members => .table (memberValues members)
  | .tables last earlier => .array (tableValues earlier [.table (memberValues last)])

def memberValues : List (Text × Item) → List (Text × Value)
  | [] => []
  | (key, i) :: rest => (key, i.toValue) :: memberValues rest

def tableValues : List (List (Text × Item)) → List Value → List Value
  | [], later => later
  | t :: earlier, later => tableValues earlier (.table (memberValues t) :: later)

end

end ChatProfiles.Toml
