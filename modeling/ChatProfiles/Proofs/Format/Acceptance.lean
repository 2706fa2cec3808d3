import ChatProfiles.Proofs.Bot.Validity
import ChatProfiles.Proofs.Format.Profile
/-!
# Which profiles JSON can make

Reading is the other way to a profile, beside editing.  It looks at what a tag or a marker is before it makes one, so
nothing is read of a record with a tag that is no word or a marker that is no symbol (`Profile.Sound`).  It does not
look whether an attribute is within the bounds of its kind: any number of 32 bits is taken as it is given.  So the
bounds are the one thing that a profile read can lack of what a stored one has, and every profile that fits in JSON,
within bounds or not, is read from somewhere (`Profile.read_all_but_bounds`).
-/
namespace ChatProfiles

/-- Attributes are numbers of 32 bits under the names of their kinds, and are kept as they are given. -/
theorem Sheet.of_ofJson {j : Json} {s : Sheet Int} (h : ofJson Format.readInt32 j = .ok s) :
    ∃ slots : List (Text × Json), j = .object slots ∧
      (∀ slot ∈ slots, ∃ (kind : AttributeKind) (n : Int), slot = (kind.name, .int n) ∧ Decimal.fits32 n = true) ∧
      ∀ kind n, s.get kind = some n → (kind.name, .int n) ∈ slots := by
  have of_readSlot {t t' : Sheet Int} {slot : Text × Json} (hslot : readSlot Format.readInt32 t slot = .ok t') :
      ∃ kind n, slot = (AttributeKind.name kind, .int n) ∧ Decimal.fits32 n = true ∧ t' = t.set kind n := by
    obtain ⟨kind, n, hkind, hn, rfl⟩ := readSlot_eq_ok_iff.1 hslot
    obtain ⟨hj, hfits⟩ := (Format.Exact.int32 slot.2 n).1 hn
    exact ⟨kind, n, Prod.ext (AttributeKind.name_of_ofName? hkind) hj, hfits, rfl⟩
  cases j with
  | object slots =>
    refine ⟨slots, rfl, fun slot hmem => ?_, ?_⟩
    · obtain ⟨_, _, hslot⟩ := Format.exists_step_of_mem h hmem
      obtain ⟨kind, n, hslot, hfits, -⟩ := of_readSlot hslot
      exact ⟨kind, n, hslot, hfits⟩
    · refine Format.foldlM_keeps (P := fun s => ∀ kind n, s.get kind = some n → (kind.name, .int n) ∈ slots) _
        (fun slot hmem t t' hslot ht kind n hn => ?_) h fun kind n hn => by cases kind <;> cases hn
      obtain ⟨k, m, rfl, -, rfl⟩ := of_readSlot hslot
      rw [get_set] at hn
      split at hn
      · next hk => cases hn; rwa [hk]
      · exact ht kind n hn
  | _ => cases h

/-! ## What a profile is read from -/

namespace Profile

/-- The values that a profile is given, each with the name of its member. -/
def given (j : Json) : List (Text × Json) :=
  Format.given ["member".toList, "marker".toList, "attributes".toList, "tags".toList, "location".toList] j

/-- Every marker, every tag and every attribute that a profile is given is one, except that the attributes may lie
beyond the bounds of their kinds. -/
structure Sound (j : Json) : Prop where
  marker : ∀ v, ("marker".toList, v) ∈ given j → ∃ c, v = .text [c] ∧ Text.isSymbol c = true
  tags : ∀ v, ("tags".toList, v) ∈ given j → ∃ items, v = .array items ∧
    ∀ item ∈ items, ∃ body, item = .text body ∧ body ≠ [] ∧ ∀ c ∈ body, c.isAlphanum = true
  attributes : ∀ v, ("attributes".toList, v) ∈ given j → ∃ slots, v = .object slots ∧
    ∀ slot ∈ slots, ∃ (kind : AttributeKind) (n : Int), slot = (kind.name, .int n) ∧ Decimal.fits32 n = true

/-- Each of the attributes is one that the profile is given. -/
def Taken (attributes : Sheet Int) (j : Json) : Prop :=
  ∀ kind n, attributes.get kind = some n →
    ∃ slots, ("attributes".toList, .object slots) ∈ given j ∧ (kind.name, .int n) ∈ slots

variable {j : Json} {p : Profile}

theorem exists_draft (h : ofJson j = .ok p) :
    ∃ d, Format.readRecord (fieldsWith Location.ofJson) 1 {} j = .ok d ∧ d.attributes = p.attributes := by
  obtain ⟨d, hrecord, hread⟩ := Format.bind_eq_ok_iff.1 h
  obtain ⟨member, -, hread⟩ := Format.bind_eq_ok_iff.1 hread
  cases hread
  exact ⟨d, hrecord, rfl⟩

theorem sound_of_ofJson (h : ofJson j = .ok p) : Sound j := by
  obtain ⟨d, hrecord, -⟩ := exists_draft h
  have hread {f : Format.Field Draft} (hf : f ∈ fieldsWith Location.ofJson) {v : Json}
      (hv : (f.name, v) ∈ given j) := Format.exists_read_of_given nodup_fields hrecord hf hv
  refine ⟨fun v hv => ?_, fun v hv => ?_, fun v hv => ?_⟩
  · obtain ⟨_, _, hmarker⟩ := hread (.tail _ (.head _)) hv
    obtain ⟨m, hm, -⟩ := Format.map_eq_ok_iff.1 hmarker
    exact ⟨m.symbol, ((Marker.exact v m).1 hm).1, m.isSymbol⟩
  · obtain ⟨_, _, htags⟩ := hread (.tail _ (.tail _ (.tail _ (.head _)))) hv
    obtain ⟨s, hs, -⟩ := Format.map_eq_ok_iff.1 htags
    obtain ⟨tags, rfl, -⟩ := TagSet.ofJson_eq_ok_iff.1 hs
    refine ⟨tags.map Tag.toJson, rfl, List.forall_mem_map.2 fun t _ => ?_⟩
    exact ⟨t.body, rfl, t.nonempty, List.all_eq_true.1 t.alphanumeric⟩
  · obtain ⟨_, _, hattributes⟩ := hread (.tail _ (.tail _ (.head _))) hv
    obtain ⟨s, hs, -⟩ := Format.map_eq_ok_iff.1 hattributes
    obtain ⟨slots, hslots, hall, -⟩ := Sheet.of_ofJson hs
    exact ⟨slots, hslots, hall⟩

/-- A field other than the attributes' own leaves them as they are. -/
theorem taken_of_map {α : Type} {x : Except Fault α} {set : α → Draft} {d d' : Draft}
    (hset : ∀ a, (set a).attributes = d.attributes) (h : x.map set = .ok d') (hd : Taken d.attributes j) :
    Taken d'.attributes j := by
  obtain ⟨a, -, rfl⟩ := Format.map_eq_ok_iff.1 h
  rwa [hset a]

theorem taken_of_ofJson (h : ofJson j = .ok p) : Taken p.attributes j := by
  obtain ⟨d, hrecord, hd⟩ := exists_draft h
  rw [← hd]
  refine Format.readRecord_keeps_given (P := fun d => Taken d.attributes j) ?_
    (fun kind n hn => by cases kind <;> cases hn) hrecord
  simp only [fieldsWith, List.forall_mem_cons]
  refine ⟨fun _ _ _ _ => taken_of_map fun _ => rfl, fun _ _ _ _ => taken_of_map fun _ => rfl,
    fun v hv _ _ hread _ => ?_, fun _ _ _ _ => taken_of_map fun _ => rfl,
    fun _ _ _ _ => taken_of_map fun _ => rfl, List.forall_mem_nil _⟩
  obtain ⟨s, hs, rfl⟩ := Format.map_eq_ok_iff.1 hread
  obtain ⟨slots, rfl, -, hslots⟩ := Sheet.of_ofJson hs
  exact fun kind n hn => ⟨slots, hv, hslots kind n hn⟩

/-- **All that reading leaves to be wished of a profile is the bounds of its attributes.**  A profile is read from
some JSON exactly if it fits; it is then what a stored profile must be, but perhaps for the bounds; and whatever it is
read from has no marker but a symbol, no tag but a word of letters and digits, and numbers of 32 bits for attributes,
from which the profile's are taken. -/
theorem read_all_but_bounds (p : Profile) :
    ((∃ j, ofJson j = .ok p) ↔ p.Fits) ∧ (p.Valid p.id ↔ p.InBounds) ∧
      ∀ j, ofJson j = .ok p → Sound j ∧ Taken p.attributes j := by
  refine ⟨⟨?_, fun h => ⟨p.toJson, lossless.read_write p h⟩⟩, ⟨Valid.inBounds, InBounds.valid⟩,
    fun j h => ⟨sound_of_ofJson h, taken_of_ofJson h⟩⟩
  rintro ⟨j, h⟩
  exact lossless.fits_of_read j p h

/-- **A profile can be read that no edit could have made**: its age is beyond the bounds of its kind. -/
theorem aged_200_read :
    ∃ p, ofJson (.object [("member".toList, .object [("id".toList, .int 7), ("first_name".toList, .text "Ada".toList)]),
        ("attributes".toList, .object [("age".toList, .int 200)])]) = .ok p ∧
      p.attributes.get .age = some 200 ∧ AttributeKind.age.accepts 200 = false ∧ ¬ p.Valid p.id := by
  refine ⟨{ member := ⟨7, "Ada".toList, none, none, none⟩, attributes := ⟨some 200, none, none⟩ }, rfl, rfl, rfl,
    fun h => ?_⟩
  have := (h.inBounds .age 200 rfl).2
  exact absurd this (by decide)

end Profile

end ChatProfiles
