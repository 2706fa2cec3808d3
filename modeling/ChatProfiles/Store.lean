import ChatProfiles.Registry
import Std.Data.HashMap
import Std.Data.TreeMap
/-!
# The store of profiles, by keys

The profiles of a group are kept in a tree by the identifiers of their members, and the
groups in a table by theirs.  A profile is kept under the key it is filed with, and the
store does not look whether that is the identifier the profile carries: the calls that
write give it the right one.

A store is called for what a registry is called for, and answers as the registry does.
-/
namespace ChatProfiles

structure Store where
  groups : Std.HashMap Int (Std.TreeMap Int Profile) := {}

namespace Store

def empty : Store := {}

/-- The profiles of a group by their keys; none for a group that was never written to. -/
def members (s : Store) (group : Int) : Std.TreeMap Int Profile := s.groups.getD group {}

def get? (s : Store) (group key : Int) : Option Profile := (s.members group)[key]?

/-- The profile takes the place of the one with its key. -/
def file (s : Store) (group key : Int) (p : Profile) : Store :=
  { s with groups := s.groups.insert group ((s.members group).insert key p) }

def put (s : Store) (group : Int) (p : Profile) : Store := s.file group p.id p

/-- The profile under the member's key, blank if there was none, with what the chat now tells about
the member; and the store that keeps it there. -/
def enter (s : Store) (group : Int) (m : Member) : Profile × Store :=
  let p := match s.get? group m.id with
    | some p => p.withMember m
    | none => .blank m
  (p, s.file group m.id p)

/-- The group's profiles, by ascending key. -/
def profiles (s : Store) (group : Int) : List Profile := (s.members group).toList.map Prod.snd

def count (s : Store) (group : Int) : Nat := (s.members group).size

def findByUsername (s : Store) (group : Int) (username : Text) : Except LookupError (Option Profile) :=
  if Text.isBlankOnly username then .error .blankUsername
  else .ok ((s.profiles group).find? (·.member.hasUsername username))

end Store

end ChatProfiles
