import ChatProfiles.Attempt
import ChatProfiles.Catalog
import ChatProfiles.Profile.Location
import ChatProfiles.Profile.Marker
import ChatProfiles.Profile.Member
import ChatProfiles.Profile.TagSet
/-!
# Profiles

What a group knows of one of its members.  `setAttribute` is the only way in which
an edit gives an attribute a value, and it accepts none beyond the bounds of its
kind.
-/
namespace ChatProfiles

structure Profile where
  member : Member
  marker : Marker := .initial
  attributes : Sheet Int := {}
  tags : TagSet := .empty
  location : Option Location := none

namespace Profile

def blank (m : Member) : Profile := { member := m }

def id (p : Profile) : Int := p.member.id

def withMember (p : Profile) (m : Member) : Profile := { p with member := m }

/-- The value that the attribute had before. -/
def setAttribute (k : AttributeKind) (value : Int) : Attempt Profile OutOfBounds (Option Int) := do
  unless k.accepts value do throw ⟨k, value⟩
  modifyGet fun p => (p.attributes.get k, { p with attributes := p.attributes.set k value })

def addTag (p : Profile) (t : Tag) : Profile := { p with tags := p.tags.insert t }

def removeTag (p : Profile) (t : Tag) : Profile := { p with tags := p.tags.erase t }

def withMarker (p : Profile) (m : Marker) : Profile := { p with marker := m }

def withLocation (p : Profile) (l : Option Location) : Profile := { p with location := l }

end Profile

end ChatProfiles
