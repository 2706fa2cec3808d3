import ChatProfiles.Format.Directive
import ChatProfiles.Proofs.Format.Profile
/-!
# Directives lose nothing in JSON

A directive's tag says how its members are read, and no two kinds of directive share a tag.  So each kind is a record
of its own, of one member or of two, and only the numbers in it can fail to fit.
-/
namespace ChatProfiles

open Format (Lossless)

theorem AttributeKind.lossless : Lossless toJson (Format.readTaggedName ofName?) fun _ => True where
  read_write k _ := Format.orFault_eq_ok_iff.2 (ofName?_name k)
  fits_of_read _ _ _ := trivial

namespace Directive

/-- Values within 32 bits, and bounds that fit and are in order. -/
def Fits : Directive → Prop
  | .setAttribute _ value => Decimal.fits32 value = true
  | .attributeWithin _ range => range.Fits (Decimal.fits32 · = true)
  | .distanceWithin range => range.Fits (Float.isFinite · = true)
  | .includeTag _ | .excludeTag _ | .setMarker _ | .unrecognized _ => True

theorem values_lossless :
    Lossless (Range.toJson .int) (Range.ofJson Format.readInt32) (Range.Fits (Decimal.fits32 · = true)) :=
  Range.lossless Lossless.int32 fun _ _ => nofun

theorem distances_lossless :
    Lossless (Range.toJson .ofFloat) (Range.ofJson Format.readFloat) (Range.Fits (Float.isFinite · = true)) :=
  Range.lossless Lossless.float fun _ => Format.ofFloat_ne_null

/-- The tag is taken out of the object before the other members are read. -/
theorem ofJson_toJson (d : Directive) : ofJson d.toJson = readMembers d.typeName (.object d.members) := by
  cases d <;> rfl

theorem readMembers_members (d : Directive) (hd : d.Fits) : readMembers d.typeName (.object d.members) = .ok d := by
  have hkind (k : AttributeKind) := AttributeKind.lossless.read_write k trivial
  cases d with
  | includeTag tag =>
    exact congrArg (Except.map includeTag) (Format.readOne_object (Tag.lossless.read_write tag trivial))
  | excludeTag tag =>
    exact congrArg (Except.map excludeTag) (Format.readOne_object (Tag.lossless.read_write tag trivial))
  | setAttribute kind value =>
    have hne : "kind".toList ≠ "value".toList := by decide
    exact congrArg (Except.map fun x => setAttribute x.1 x.2)
      (Format.readTwo_object hne (hkind kind) (Lossless.int32.read_write value hd))
  | attributeWithin kind range =>
    have hne : "kind".toList ≠ "range".toList := by decide
    exact congrArg (Except.map fun x => attributeWithin x.1 x.2)
      (Format.readTwo_object hne (hkind kind) (values_lossless.read_write range hd))
  | distanceWithin range =>
    exact congrArg (Except.map distanceWithin) (Format.readOne_object (distances_lossless.read_write range hd))
  | setMarker marker =>
    exact congrArg (Except.map setMarker) (Format.readOne_object (Marker.lossless.read_write marker trivial))
  | unrecognized token =>
    have htoken : Format.readOne "token".toList Format.readText (.object (unrecognized token).members) = .ok token :=
      Format.readOne_object (Lossless.text.read_write token trivial)
    exact congrArg (Except.map unrecognized) htoken

theorem fits_of_readMembers {type : Text} {j : Json} {d : Directive} (h : readMembers type j = .ok d) : d.Fits := by
  unfold readMembers at h
  simp only at h
  split at h
  · obtain ⟨tag, -, rfl⟩ := Format.map_eq_ok_iff.1 h
    trivial
  split at h
  · obtain ⟨tag, -, rfl⟩ := Format.map_eq_ok_iff.1 h
    trivial
  split at h
  · obtain ⟨⟨kind, value⟩, hread, rfl⟩ := Format.map_eq_ok_iff.1 h
    exact (Format.fits_of_readTwo AttributeKind.lossless.fits_of_read Lossless.int32.fits_of_read hread).2
  split at h
  · obtain ⟨⟨kind, range⟩, hread, rfl⟩ := Format.map_eq_ok_iff.1 h
    exact (Format.fits_of_readTwo AttributeKind.lossless.fits_of_read values_lossless.fits_of_read hread).2
  split at h
  · obtain ⟨range, hread, rfl⟩ := Format.map_eq_ok_iff.1 h
    exact Format.fits_of_readOne distances_lossless.fits_of_read hread
  split at h
  · obtain ⟨marker, -, rfl⟩ := Format.map_eq_ok_iff.1 h
    trivial
  split at h
  · obtain ⟨token, -, rfl⟩ := Format.map_eq_ok_iff.1 h
    trivial
  · cases h

theorem lossless : Lossless toJson ofJson Fits where
  read_write d hd := (ofJson_toJson d).trans (readMembers_members d hd)
  fits_of_read j d hread := by
    unfold ofJson at hread
    split at hread
    · split at hread
      · exact fits_of_readMembers hread
      · cases hread
    · exact fits_of_readMembers hread
    · cases hread

end Directive

end ChatProfiles
