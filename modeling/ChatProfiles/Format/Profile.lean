import ChatProfiles.Format.Record
import ChatProfiles.Profile.Basic
/-!
# Profiles in JSON

Profiles are written with all their members.  What is read may leave out anything
but the member.  Its attribute values are read as they are: only edits are held to
the bounds of the catalog.
-/
namespace ChatProfiles

namespace Tag

def toJson (t : Tag) : Json := .text t.body

def ofJson (j : Json) : Except Fault Tag := do
  let body ← Format.readText j
  match ofBody? body with
  | some tag => .ok tag
  | none => .error (.notATag body)

end Tag

namespace TagSet

def toJson (s : TagSet) : Json := .array (s.toList.map Tag.toJson)

def ofJson : Json → Except Fault TagSet
  | .array items => (items.mapM Tag.ofJson).map ofList
  | _ => .error .shape

end TagSet

namespace Marker

def toJson (m : Marker) : Json := .text m.write

def ofJson (j : Json) : Except Fault Marker := do
  let t ← Format.readText j
  match ofText? t with
  | some m => .ok m
  | none => .error (.notASymbol t)

end Marker

namespace AttributeKind

def toJson (k : AttributeKind) : Json := .text k.name

def ofJson : Json → Except Fault AttributeKind := Format.readName ofName?

end AttributeKind

namespace Sheet

/-- An object with the names of the kinds that have a value. -/
def toJson {α : Type} (encode : α → Json) (s : Sheet α) : Json :=
  .object (s.entries.map fun (kind, a) => (kind.name, encode a))

def readSlot {α : Type} (read : Json → Except Fault α) (s : Sheet α) (m : Text × Json) :
    Except Fault (Sheet α) := do
  let kind ← Format.orFault (AttributeKind.ofName? m.1)
  let a ← read m.2
  return s.set kind a

def ofJson {α : Type} (read : Json → Except Fault α) : Json → Except Fault (Sheet α)
  | .object members => members.foldlM (readSlot read) {}
  | _ => .error .shape

end Sheet

namespace Range

def toJson {α : Type} (encode : α → Json) (r : Range α) : Json :=
  .object [("min".toList, .ofOption encode r.min), ("max".toList, .ofOption encode r.max)]

def fields {α : Type} (read : Json → Except Fault α) : List (Format.Field (Range α)) :=
  [⟨"min".toList, fun j r => (Format.readOption read j).map fun b => { r with min := b }⟩,
    ⟨"max".toList, fun j r => (Format.readOption read j).map fun b => { r with max := b }⟩]

def ofJson {α : Type} [Bound α] (read : Json → Except Fault α) (j : Json) :
    Except Fault (Range α) := do
  let r ← Format.readRecord (fields read) 2 {} j
  (ofBounds r.min r.max).mapError .inverted

end Range

namespace Location

def toJson (l : Location) : Json :=
  .object ([("latitude".toList, .ofFloat l.latitude), ("longitude".toList, .ofFloat l.longitude)]
    ++ (l.accuracy.map fun metres => ("horizontal_accuracy".toList, .ofFloat metres)).toList)

/-- What is known of a location while its members are read. -/
structure Draft where
  latitude : Option Float := none
  longitude : Option Float := none
  accuracy : Option Float := none

def fields : List (Format.Field Draft) :=
  [⟨"latitude".toList, fun j d => (Format.readFloat j).map fun x => { d with latitude := some x }⟩,
    ⟨"longitude".toList, fun j d => (Format.readFloat j).map fun x => { d with longitude := some x }⟩,
    ⟨"horizontal_accuracy".toList, fun j d =>
      (Format.readOption Format.readFloat j).map fun x => { d with accuracy := x }⟩]

def ofJson (j : Json) : Except Fault Location := do
  let d ← Format.readRecord fields 2 {} j
  return ⟨← Format.orFault d.latitude, ← Format.orFault d.longitude, d.accuracy⟩

end Location

namespace Member

def toJson (m : Member) : Json :=
  .object [("id".toList, .int m.id), ("first_name".toList, .text m.firstName),
    ("last_name".toList, .ofOption .text m.lastName),
    ("username".toList, .ofOption .text m.username),
    ("language_code".toList, .ofOption .text m.languageCode)]

/-- What is known of a member while its members are read. -/
structure Draft where
  id : Option Int := none
  firstName : Option Text := none
  lastName : Option Text := none
  username : Option Text := none
  languageCode : Option Text := none

def fields : List (Format.Field Draft) :=
  let text? := Format.readOption Format.readText
  [⟨"id".toList, fun j d => (Format.readInt64 j).map fun n => { d with id := some n }⟩,
    ⟨"first_name".toList, fun j d => (Format.readText j).map fun t => { d with firstName := some t }⟩,
    ⟨"last_name".toList, fun j d => (text? j).map fun t => { d with lastName := t }⟩,
    ⟨"username".toList, fun j d => (text? j).map fun t => { d with username := t }⟩,
    ⟨"language_code".toList, fun j d => (text? j).map fun t => { d with languageCode := t }⟩]

def ofJson (j : Json) : Except Fault Member := do
  let d ← Format.readRecord fields 2 {} j
  return ⟨← Format.orFault d.id, ← Format.orFault d.firstName, d.lastName, d.username,
    d.languageCode⟩

end Member

namespace Profile

def toJson (p : Profile) : Json :=
  .object [("member".toList, p.member.toJson), ("marker".toList, p.marker.toJson),
    ("attributes".toList, p.attributes.toJson .int), ("tags".toList, p.tags.toJson),
    ("location".toList, .ofOption Location.toJson p.location)]

/-- What is known of a profile while its members are read. -/
structure Draft where
  member : Option Member := none
  marker : Marker := .initial
  attributes : Sheet Int := {}
  tags : TagSet := .empty
  location : Option Location := none

/-- The members, given how a location is read. -/
def fieldsWith (readLocation : Json → Except Fault Location) : List (Format.Field Draft) :=
  [⟨"member".toList, fun j d => (Member.ofJson j).map fun m => { d with member := some m }⟩,
    ⟨"marker".toList, fun j d => (Marker.ofJson j).map fun m => { d with marker := m }⟩,
    ⟨"attributes".toList, fun j d =>
      (Sheet.ofJson Format.readInt32 j).map fun s => { d with attributes := s }⟩,
    ⟨"tags".toList, fun j d => (TagSet.ofJson j).map fun s => { d with tags := s }⟩,
    ⟨"location".toList, fun j d =>
      (Format.readOption readLocation j).map fun l => { d with location := l }⟩]

def ofJsonWith (readLocation : Json → Except Fault Location) (j : Json) :
    Except Fault Profile := do
  let d ← Format.readRecord (fieldsWith readLocation) 1 {} j
  return ⟨← Format.orFault d.member, d.marker, d.attributes, d.tags, d.location⟩

def ofJson : Json → Except Fault Profile := ofJsonWith Location.ofJson

end Profile

end ChatProfiles
