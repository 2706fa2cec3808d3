import ChatProfiles.Directive.Basic
import ChatProfiles.Filter
import ChatProfiles.Format.Profile
/-!
# Directives and filters in JSON

A directive is a record with a tag, `type`, beside the members of its own; as an
array it starts with the tag.
-/
namespace ChatProfiles

namespace Purpose

def ofName? (name : Text) : Option Purpose :=
  if name == "edit".toList then some .edit
  else if name == "filter".toList then some .search
  else none

def name : Purpose → Text
  | .edit => "edit".toList
  | .search => "filter".toList

def toJson (p : Purpose) : Json := .text p.name

def ofJson : Json → Except Fault Purpose := Format.readName ofName?

end Purpose

namespace Directive

def typeName : Directive → Text
  | .includeTag _ => "tag_include".toList
  | .excludeTag _ => "tag_exclude".toList
  | .setAttribute _ _ => "attribute_set".toList
  | .attributeWithin _ _ => "attribute_range".toList
  | .distanceWithin _ => "distance_range".toList
  | .setMarker _ => "marker_set".toList
  | .unrecognized _ => "unrecognized".toList

def members : Directive → List (Text × Json)
  | .includeTag tag | .excludeTag tag => [("tag".toList, tag.toJson)]
  | .setAttribute kind value => [("kind".toList, kind.toJson), ("value".toList, .int value)]
  | .attributeWithin kind range =>
    [("kind".toList, kind.toJson), ("range".toList, range.toJson .int)]
  | .distanceWithin range => [("range".toList, range.toJson .ofFloat)]
  | .setMarker marker => [("marker".toList, marker.toJson)]
  | .unrecognized token => [("token".toList, .text token)]

def toJson (d : Directive) : Json := .object (("type".toList, .text d.typeName) :: d.members)

/-- Reads the members that go with a tag. -/
def readMembers (type : Text) (j : Json) : Except Fault Directive :=
  let kind := Format.readTaggedName AttributeKind.ofName?
  if type == "tag_include".toList then
    (Format.readOne "tag".toList Tag.ofJson j).map .includeTag
  else if type == "tag_exclude".toList then
    (Format.readOne "tag".toList Tag.ofJson j).map .excludeTag
  else if type == "attribute_set".toList then
    (Format.readTwo "kind".toList kind "value".toList Format.readInt32 j).map
      fun (kind, value) => .setAttribute kind value
  else if type == "attribute_range".toList then
    (Format.readTwo "kind".toList kind "range".toList (Range.ofJson Format.readInt32) j).map
      fun (kind, range) => .attributeWithin kind range
  else if type == "distance_range".toList then
    (Format.readOne "range".toList (Range.ofJson Format.readFloat) j).map .distanceWithin
  else if type == "marker_set".toList then
    (Format.readOne "marker".toList Marker.ofJson j).map .setMarker
  else if type == "unrecognized".toList then
    (Format.readOne "token".toList Format.readText j).map .unrecognized
  else .error .shape

def ofJson : Json → Except Fault Directive
  | .object members =>
    match members.find? (·.1 == "type".toList) with
    | some (_, .text type) => readMembers type (.object (members.filter (·.1 != "type".toList)))
    | _ => .error .shape
  | .array (.text type :: items) => readMembers type (.array items)
  | _ => .error .shape

end Directive

namespace Filter

def toJson (f : Filter) : Json :=
  .object [("attributes".toList, f.attributes.toJson (Range.toJson .int)),
    ("distance".toList, .ofOption (Range.toJson .ofFloat) f.distance),
    ("include".toList, f.included.toJson), ("exclude".toList, f.excluded.toJson)]

end Filter

end ChatProfiles
