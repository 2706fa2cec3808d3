import ChatProfiles.Format.Profile
import ChatProfiles.Proofs.Format.Record
import ChatProfiles.Proofs.Profile.TagSet
import ChatProfiles.Proofs.Range
/-!
# Profiles lose nothing in JSON

What fits: whole numbers within their 32 or 64 bits, floats that are finite, and bounds in order.  All else that a
profile is made of fits by its type.  Reading accepts more than what is written, as defaults, tags in any order and in
several spellings, or whole numbers for floats; but what it makes of that fits.
-/
namespace ChatProfiles

open Format (Exact Lossless)

/-! ## Tags, markers, attributes -/

theorem Tag.exact : Exact Tag.toJson Tag.ofJson fun _ => True := by
  refine fun j t => ⟨fun h => ?_, ?_⟩
  · obtain ⟨body, hj, h⟩ := Format.bind_eq_ok_iff.1 h
    split at h <;> cases h
    next hbody =>
    rw [((Exact.text j body).1 hj).1, ofBody?_eq_some_iff.1 hbody]
    exact ⟨rfl, trivial⟩
  · rintro ⟨rfl, -⟩
    simp only [Tag.ofJson, Tag.toJson, Format.readText, bind, Except.bind, ofBody?_body]

theorem Tag.lossless : Lossless Tag.toJson Tag.ofJson fun _ => True := Tag.exact.lossless

/-- A set of tags is read from any list of them, in any order and any spellings. -/
theorem TagSet.ofJson_eq_ok_iff {j : Json} {s : TagSet} :
    ofJson j = .ok s ↔ ∃ tags : List Tag, j = .array (tags.map Tag.toJson) ∧ ofList tags = s := by
  cases j with
  | array items =>
    have hitems (tags : List Tag) : items.mapM Tag.ofJson = .ok tags ↔ items = tags.map Tag.toJson := by
      rw [Tag.exact.mapM_eq_ok_iff, and_iff_left fun _ _ => trivial]
    rw [ofJson, Format.map_eq_ok_iff]
    simp only [hitems, Json.array.injEq]
  | _ =>
    refine ⟨fun h => ?_, ?_⟩
    · cases h
    · rintro ⟨_, h, _⟩
      cases h

theorem TagSet.lossless : Lossless TagSet.toJson TagSet.ofJson fun _ => True where
  read_write s _ := ofJson_eq_ok_iff.2 ⟨s.toList, rfl, ofList_toList s⟩
  fits_of_read _ _ _ := trivial

theorem Marker.exact : Exact Marker.toJson Marker.ofJson fun _ => True := by
  refine fun j m => ⟨fun h => ?_, ?_⟩
  · obtain ⟨t, hj, h⟩ := Format.bind_eq_ok_iff.1 h
    split at h <;> cases h
    next ht =>
    rw [((Exact.text j t).1 hj).1, ofText?_eq_some_iff.1 ht]
    exact ⟨rfl, trivial⟩
  · rintro ⟨rfl, -⟩
    simp only [Marker.ofJson, Marker.toJson, Format.readText, bind, Except.bind, ofText?_write]

theorem Marker.lossless : Lossless Marker.toJson Marker.ofJson fun _ => True := Marker.exact.lossless

theorem AttributeKind.name_of_ofName? {name : Text} {kind : AttributeKind} (h : ofName? name = some kind) :
    name = kind.name := by
  have := List.find?_some h
  exact (beq_iff_eq.1 this).symm

namespace Sheet

variable {α : Type} {write : α → Json} {read : Json → Except Fault α} {fits : α → Prop}

/-- Every value of the sheet fits. -/
def Fits (fits : α → Prop) (s : Sheet α) : Prop := ∀ k a, s.get k = some a → fits a

theorem fits_empty : Fits fits {} := fun k _ hk => by cases k <;> cases hk

theorem foldl_set_entries (s : Sheet α) : s.entries.foldl (fun t x => t.set x.1 x.2) {} = s := by
  obtain ⟨_ | a, _ | b, _ | c⟩ := s <;> rfl

theorem readSlot_eq_ok_iff {s t : Sheet α} {slot : Text × Json} :
    readSlot read s slot = .ok t ↔
      ∃ kind a, AttributeKind.ofName? slot.1 = some kind ∧ read slot.2 = .ok a ∧ s.set kind a = t := by
  simp only [readSlot, Format.bind_eq_ok_iff, Format.orFault_eq_ok_iff, pure, Except.pure, Except.ok.injEq,
    exists_and_left]

theorem lossless (h : Lossless write read fits) : Lossless (toJson write) (ofJson read) (Fits fits) where
  read_write s hs := by
    have hslots (es : List (AttributeKind × α)) (hes : ∀ x ∈ es, fits x.2) (t : Sheet α) :
        (es.map fun x => (x.1.name, write x.2)).foldlM (readSlot read) t =
          .ok (es.foldl (fun t x => t.set x.1 x.2) t) := by
      induction es generalizing t with
      | nil => rfl
      | cons x es ih =>
        obtain ⟨hx, hes⟩ := List.forall_mem_cons.1 hes
        have hslot : readSlot read t (x.1.name, write x.2) = .ok (t.set x.1 x.2) :=
          readSlot_eq_ok_iff.2 ⟨x.1, x.2, AttributeKind.ofName?_name x.1, h.read_write x.2 hx, rfl⟩
        rw [List.map_cons, List.foldlM_cons, hslot]
        exact ih hes _
    have hentries : ∀ x ∈ s.entries, fits x.2 := fun x hx => hs x.1 x.2 (mem_entries.1 hx)
    exact (hslots s.entries hentries {}).trans (congrArg Except.ok s.foldl_set_entries)
  fits_of_read j s hread := by
    unfold ofJson at hread
    split at hread
    · refine Format.foldlM_keeps (P := Fits fits) _ (fun m _ t t' hslot ht => ?_) hread ?_
      · obtain ⟨kind, a, -, ha, rfl⟩ := readSlot_eq_ok_iff.1 hslot
        intro k b hb
        rw [get_set] at hb
        split at hb
        · cases hb; exact h.fits_of_read _ _ ha
        · exact ht k b hb
      · exact fits_empty
    · cases hread

end Sheet

/-! ## Ranges -/

namespace Range

variable {α : Type} {write : α → Json} {read : Json → Except Fault α} {fits : α → Prop}

theorem nodup_fields : ((fields read).map Format.Field.name).Nodup :=
  show ["min".toList, "max".toList].Nodup by decide

variable [Bound α]

theorem lossless (h : Lossless write read fits) (hnull : ∀ a, fits a → write a ≠ .null) :
    Lossless (toJson write) (ofJson read) (Fits fits) where
  read_write r hr := by
    have hitems : Format.readItems (fields read) [.ofOption write r.min, .ofOption write r.max] {} = .ok r := by
      simp only [fields, Format.readItems, (h.option hnull).read_write r.min hr.min,
        (h.option hnull).read_write r.max hr.max]
      rfl
    have hrecord : Format.readRecord (fields read) 2 {} (toJson write r) = .ok r :=
      Format.readRecord_inOrder nodup_fields hitems 2
    rw [ofJson, hrecord]
    exact congrArg (Except.mapError Fault.inverted) (ofBounds_eq_ok_iff.2 ⟨hr.ordered, rfl⟩)
  fits_of_read j r hread := by
    obtain ⟨d, hrecord, hbounds⟩ := Format.bind_eq_ok_iff.1 hread
    obtain ⟨hordered, rfl⟩ := ofBounds_eq_ok_iff.1 (Format.mapError_eq_ok_iff.1 hbounds)
    have hfits := Format.readRecord_keeps
      (P := fun d : Range α => (∀ a ∈ d.min, fits a) ∧ ∀ b ∈ d.max, fits b) ?_
      ⟨Format.forall_mem_none, Format.forall_mem_none⟩ hrecord
    · exact ⟨hfits.1, hfits.2, hordered⟩
    have hoption := (h.option hnull).fits_of_read
    exact List.forall_mem_cons.2 ⟨Format.Field.keeps hoption fun _ _ ha hd => ⟨ha, hd.2⟩,
      List.forall_mem_singleton.2 (Format.Field.keeps hoption fun _ _ hb hd => ⟨hd.1, hb⟩)⟩

end Range

/-! ## Locations -/

namespace Location

/-- Finite coordinates, and a finite radius if there is one. -/
structure Fits (l : Location) : Prop where
  latitude : l.latitude.isFinite = true
  longitude : l.longitude.isFinite = true
  accuracy : ∀ metres ∈ l.accuracy, metres.isFinite = true

theorem nodup_fields : (fields.map Format.Field.name).Nodup :=
  show ["latitude".toList, "longitude".toList, "horizontal_accuracy".toList].Nodup by decide

/-- The radius is the last field, so a location without one is read as if it were cut short. -/
theorem lossless : Lossless toJson ofJson Fits where
  read_write l hl := by
    have hlatitude := Lossless.float.read_write l.latitude hl.latitude
    have hlongitude := Lossless.float.read_write l.longitude hl.longitude
    have hrecord : Format.readRecord fields 2 {} (toJson l) =
        .ok ⟨some l.latitude, some l.longitude, l.accuracy⟩ := by
      obtain ⟨latitude, longitude, _ | metres⟩ := l
      · have hitems : Format.readItems fields [.ofFloat latitude, .ofFloat longitude] {} =
            .ok ⟨some latitude, some longitude, none⟩ := by
          simp only [fields, Format.readItems, hlatitude, hlongitude]
          rfl
        exact Format.readRecord_inOrder nodup_fields hitems 2
      · have haccuracy := Lossless.float?.read_write (some metres) hl.accuracy
        have hitems : Format.readItems fields
            [.ofFloat latitude, .ofFloat longitude, .ofOption .ofFloat (some metres)] {} =
              .ok ⟨some latitude, some longitude, some metres⟩ := by
          simp only [fields, Format.readItems, hlatitude, hlongitude, haccuracy]
          rfl
        exact Format.readRecord_inOrder nodup_fields hitems 2
    rw [ofJson, hrecord]
    rfl
  fits_of_read j l hread := by
    obtain ⟨d, hrecord, hread⟩ := Format.bind_eq_ok_iff.1 hread
    obtain ⟨latitude, hlatitude, hread⟩ := Format.bind_eq_ok_iff.1 hread
    obtain ⟨longitude, hlongitude, hread⟩ := Format.bind_eq_ok_iff.1 hread
    cases hread
    rw [Format.orFault_eq_ok_iff] at hlatitude hlongitude
    have hfits := Format.readRecord_keeps
      (P := fun d : Draft => (∀ x ∈ d.latitude, x.isFinite = true) ∧ (∀ x ∈ d.longitude, x.isFinite = true) ∧
        ∀ x ∈ d.accuracy, x.isFinite = true) ?_
      ⟨Format.forall_mem_none, Format.forall_mem_none, Format.forall_mem_none⟩ hrecord
    · exact ⟨hfits.1 _ hlatitude, hfits.2.1 _ hlongitude, hfits.2.2⟩
    simp only [fields, List.forall_mem_cons]
    exact ⟨Format.Field.keeps Lossless.float.fits_of_read fun _ _ hx hd => ⟨Format.forall_mem_some hx, hd.2⟩,
      Format.Field.keeps Lossless.float.fits_of_read fun _ _ hx hd => ⟨hd.1, Format.forall_mem_some hx, hd.2.2⟩,
      Format.Field.keeps Lossless.float?.fits_of_read fun _ _ hx hd => ⟨hd.1, hd.2.1, hx⟩, List.forall_mem_nil _⟩

end Location

/-! ## Members -/

namespace Member

def Fits (m : Member) : Prop := Decimal.fits64 m.id = true

theorem nodup_fields : (fields.map Format.Field.name).Nodup :=
  show ["id".toList, "first_name".toList, "last_name".toList, "username".toList, "language_code".toList].Nodup by
    decide

theorem lossless : Lossless toJson ofJson Fits where
  read_write m hm := by
    have hid := Lossless.int64.read_write m.id hm
    have htext? (t? : Option Text) := Lossless.text?.read_write t? fun _ _ => trivial
    have hitems : Format.readItems fields [.int m.id, .text m.firstName, .ofOption .text m.lastName,
        .ofOption .text m.username, .ofOption .text m.languageCode] {} =
          .ok ⟨some m.id, some m.firstName, m.lastName, m.username, m.languageCode⟩ := by
      simp only [fields, Format.readItems, hid, htext?]
      rfl
    have hrecord : Format.readRecord fields 2 {} (toJson m) =
        .ok ⟨some m.id, some m.firstName, m.lastName, m.username, m.languageCode⟩ :=
      Format.readRecord_inOrder nodup_fields hitems 2
    rw [ofJson, hrecord]
    rfl
  fits_of_read j m hread := by
    obtain ⟨d, hrecord, hread⟩ := Format.bind_eq_ok_iff.1 hread
    obtain ⟨id, hid, hread⟩ := Format.bind_eq_ok_iff.1 hread
    obtain ⟨firstName, -, hread⟩ := Format.bind_eq_ok_iff.1 hread
    cases hread
    rw [Format.orFault_eq_ok_iff] at hid
    refine Format.readRecord_keeps (P := fun d : Draft => ∀ n ∈ d.id, Decimal.fits64 n = true) ?_
      Format.forall_mem_none hrecord id hid
    have htext? := Lossless.text?.fits_of_read
    simp only [fields, List.forall_mem_cons]
    exact ⟨Format.Field.keeps Lossless.int64.fits_of_read fun _ _ hn _ => Format.forall_mem_some hn,
      Format.Field.keeps Lossless.text.fits_of_read fun _ _ _ hd => hd,
      Format.Field.keeps htext? fun _ _ _ hd => hd, Format.Field.keeps htext? fun _ _ _ hd => hd,
      Format.Field.keeps htext? fun _ _ _ hd => hd, List.forall_mem_nil _⟩

end Member

/-! ## Profiles -/

namespace Profile

/-- The identifier and the values within their bits, and a location that fits if there is one. -/
structure Fits (p : Profile) : Prop where
  member : p.member.Fits
  attributes : p.attributes.Fits (Decimal.fits32 · = true)
  location : ∀ l ∈ p.location, l.Fits

theorem location?_lossless :
    Lossless (.ofOption Location.toJson) (Format.readOption Location.ofJson) (∀ l ∈ ·, l.Fits) :=
  Location.lossless.option fun _ _ => nofun

theorem nodup_fields : ((fieldsWith Location.ofJson).map Format.Field.name).Nodup :=
  show ["member".toList, "marker".toList, "attributes".toList, "tags".toList, "location".toList].Nodup by decide

theorem lossless : Lossless toJson ofJson Fits where
  read_write p hp := by
    have hmember := Member.lossless.read_write p.member hp.member
    have hmarker := Marker.lossless.read_write p.marker trivial
    have hattributes := (Sheet.lossless Lossless.int32).read_write p.attributes hp.attributes
    have htags := TagSet.lossless.read_write p.tags trivial
    have hlocation := location?_lossless.read_write p.location hp.location
    have hitems : Format.readItems (fieldsWith Location.ofJson) [p.member.toJson, p.marker.toJson,
        p.attributes.toJson .int, p.tags.toJson, .ofOption Location.toJson p.location] {} =
          .ok ⟨some p.member, p.marker, p.attributes, p.tags, p.location⟩ := by
      simp only [fieldsWith, Format.readItems, hmember, hmarker, hattributes, htags, hlocation]
      rfl
    have hrecord : Format.readRecord (fieldsWith Location.ofJson) 1 {} (toJson p) =
        .ok ⟨some p.member, p.marker, p.attributes, p.tags, p.location⟩ :=
      Format.readRecord_inOrder nodup_fields hitems 1
    rw [ofJson, ofJsonWith, hrecord]
    rfl
  fits_of_read j p hread := by
    obtain ⟨d, hrecord, hread⟩ := Format.bind_eq_ok_iff.1 hread
    obtain ⟨member, hmember, hread⟩ := Format.bind_eq_ok_iff.1 hread
    cases hread
    rw [Format.orFault_eq_ok_iff] at hmember
    have hfits := Format.readRecord_keeps
      (P := fun d : Draft => (∀ m ∈ d.member, m.Fits) ∧ d.attributes.Fits (Decimal.fits32 · = true) ∧
        ∀ l ∈ d.location, l.Fits) ?_ ⟨Format.forall_mem_none, Sheet.fits_empty, Format.forall_mem_none⟩ hrecord
    · exact ⟨hfits.1 member hmember, hfits.2.1, hfits.2.2⟩
    simp only [fieldsWith, List.forall_mem_cons]
    exact ⟨Format.Field.keeps Member.lossless.fits_of_read fun _ _ hm hd => ⟨Format.forall_mem_some hm, hd.2⟩,
      Format.Field.keeps Marker.lossless.fits_of_read fun _ _ _ hd => hd,
      Format.Field.keeps (Sheet.lossless Lossless.int32).fits_of_read fun _ _ hs hd => ⟨hd.1, hs, hd.2.2⟩,
      Format.Field.keeps TagSet.lossless.fits_of_read fun _ _ _ hd => hd,
      Format.Field.keeps location?_lossless.fits_of_read fun _ _ hl hd => ⟨hd.1, hd.2.1, hl⟩, List.forall_mem_nil _⟩

end Profile

end ChatProfiles
