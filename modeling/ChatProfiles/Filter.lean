import ChatProfiles.Directive.Token
/-!
# Searching profiles

A filter is compiled once from the words of a search and then asked about many
profiles.  Of several ranges for the same kind, or for the distance, the last one
counts; tags add up.
-/
namespace ChatProfiles

structure Filter where
  attributes : Sheet (Range Int) := {}
  distance : Option (Range Float) := none
  included : TagSet := .empty
  excluded : TagSet := .empty

namespace Filter

/-- The filter that accepts every profile. -/
def all : Filter := {}

/-- The filter with one more directive; nothing if a search has no use for it. -/
def add? (f : Filter) : Directive → Option Filter
  | .attributeWithin kind range => some { f with attributes := f.attributes.set kind range }
  | .distanceWithin range => some { f with distance := some range }
  | .includeTag tag => some { f with included := f.included.insert tag }
  | .excludeTag tag => some { f with excluded := f.excluded.insert tag }
  | .setAttribute _ _ | .setMarker _ | .unrecognized _ => none

def add (f : Filter) (d : Directive) : Filter := (f.add? d).getD f

def ofDirectives (ds : List Directive) : Filter := ds.foldl add all

/-- The filter of a search, and the words it has no use for. -/
def ofTokens (ts : List Text) : Filter × List Text :=
  ts.foldl
    (fun (f, ignored) t =>
      match f.add? (Directive.ofToken .search t) with
      | some g => (g, ignored)
      | none => (f, ignored ++ [t]))
    (all, [])

def needsOrigin (f : Filter) : Bool := f.distance.isSome

def isEmpty (f : Filter) : Bool :=
  f.attributes.isEmpty && f.distance.isNone && f.included.isEmpty && f.excluded.isEmpty

/-- Whether the profile has a value of the kind inside the range. -/
def acceptsAttribute (p : Profile) (kind : AttributeKind) (range : Range Int) : Bool :=
  (p.attributes.get kind).any range.contains

/-- Whether both places are known and as far apart as the range says. -/
def acceptsDistance (origin target : Option Location) (range : Range Float) : Bool :=
  match origin, target with
  | some a, some b => range.contains (a.distance b)
  | _, _ => false

def accepts (f : Filter) (origin : Option Location) (p : Profile) : Bool :=
  f.attributes.entries.all (fun (kind, range) => acceptsAttribute p kind range)
    && f.distance.all (acceptsDistance origin p.location)
    && f.included.isSubset p.tags
    && f.excluded.isDisjoint p.tags

/-- A search by distance that has no place to start from. -/
inductive SelectError where
  | originRequired
deriving DecidableEq

def SelectError.message : SelectError → Text
  | .originRequired => "a distance filter needs an origin location".toList

/-- The profiles that match, in the order given. -/
def select (f : Filter) (origin : Option Location) (ps : List Profile) :
    Except SelectError (List Profile) :=
  if f.needsOrigin && origin.isNone then .error .originRequired
  else .ok (ps.filter (f.accepts origin))

end Filter

end ChatProfiles
