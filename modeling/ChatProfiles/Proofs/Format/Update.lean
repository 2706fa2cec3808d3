import ChatProfiles.Format.Update
import ChatProfiles.Proofs.Format.Directive
/-!
# Updates lose nothing in JSON

An update is a record of three, each of which is required: a chat, its sender, and what was said.  With it every type
that is both written and read is one that loses nothing (`json_loses_nothing`).
-/
namespace ChatProfiles

open Format (Lossless)

theorem ChatKind.ofName?_name (k : ChatKind) : ofName? k.name = some k := by
  cases k <;> decide

namespace Chat

def Fits (c : Chat) : Prop := Decimal.fits64 c.id = true

theorem kind_lossless : Lossless (.text ·.name) (Format.readName ChatKind.ofName?) fun _ => True where
  read_write k _ := Format.orFault_eq_ok_iff.2 k.ofName?_name
  fits_of_read _ _ _ := trivial

theorem lossless : Lossless toJson ofJson Fits where
  read_write c hc := by
    have hne : "id".toList ≠ "kind".toList := by decide
    exact congrArg (Except.map fun x => Chat.mk x.1 x.2)
      (Format.readTwo_object hne (Lossless.int64.read_write c.id hc) (kind_lossless.read_write c.kind trivial))
  fits_of_read j c hread := by
    obtain ⟨⟨id, kind⟩, htwo, rfl⟩ := Format.map_eq_ok_iff.1 hread
    exact (Format.fits_of_readTwo Lossless.int64.fits_of_read kind_lossless.fits_of_read htwo).1

end Chat

namespace Content

def Fits : Content → Prop
  | .text _ => True
  | .location l => l.Fits

theorem ofJson_typed (type : Text) (body : Json) : ofJson (Format.typed type body) = ofTypeAndBody (type, body) := by
  have hne : "type".toList ≠ "body".toList := by decide
  have htype : readType (Format.typed type body) (.text type) = .ok type := rfl
  have hbody : (Except.ok : Json → Except Fault Json) body = .ok body := rfl
  have htwo : Format.readTwo "type".toList (readType (Format.typed type body)) "body".toList .ok
      (Format.typed type body) = .ok (type, body) := Format.readTwo_object hne htype hbody
  rw [ofJson, htwo]
  rfl

theorem lossless : Lossless toJson ofJson Fits where
  read_write c hc := by
    cases c with
    | text body => exact ofJson_typed "text".toList (.text body)
    | location l =>
      exact (ofJson_typed "location".toList l.toJson).trans
        (congrArg (Except.map location) (Location.lossless.read_write l hc))
  fits_of_read j c hread := by
    obtain ⟨⟨type, body⟩, -, hread⟩ := Format.bind_eq_ok_iff.1 hread
    unfold ofTypeAndBody at hread
    simp only at hread
    split at hread
    · obtain ⟨t, -, rfl⟩ := Format.map_eq_ok_iff.1 hread
      trivial
    split at hread
    · obtain ⟨l, hl, rfl⟩ := Format.map_eq_ok_iff.1 hread
      exact Location.lossless.fits_of_read body l hl
    · cases hread

end Content

namespace Update

/-- The identifiers within 64 bits, and a location that fits if there is one. -/
structure Fits (u : Update) : Prop where
  chat : u.chat.Fits
  sender : u.sender.Fits
  content : u.content.Fits

theorem nodup_fields : (fields.map Format.Field.name).Nodup :=
  show ["chat".toList, "sender".toList, "content".toList].Nodup by decide

theorem lossless : Lossless toJson ofJson Fits where
  read_write u hu := by
    have hitems : Format.readItems fields [u.chat.toJson, u.sender.toJson, u.content.toJson] {} =
        .ok ⟨some u.chat, some u.sender, some u.content⟩ := by
      simp only [fields, Format.readItems, Chat.lossless.read_write u.chat hu.chat,
        Member.lossless.read_write u.sender hu.sender, Content.lossless.read_write u.content hu.content]
      rfl
    have hrecord : Format.readRecord fields 3 {} (toJson u) = .ok ⟨some u.chat, some u.sender, some u.content⟩ :=
      Format.readRecord_inOrder nodup_fields hitems 3
    rw [ofJson, hrecord]
    rfl
  fits_of_read j u hread := by
    obtain ⟨d, hrecord, hread⟩ := Format.bind_eq_ok_iff.1 hread
    obtain ⟨chat, hchat, hread⟩ := Format.bind_eq_ok_iff.1 hread
    obtain ⟨sender, hsender, hread⟩ := Format.bind_eq_ok_iff.1 hread
    obtain ⟨content, hcontent, hread⟩ := Format.bind_eq_ok_iff.1 hread
    cases hread
    rw [Format.orFault_eq_ok_iff] at hchat hsender hcontent
    have hfits := Format.readRecord_keeps
      (P := fun d : Draft => (∀ c ∈ d.chat, c.Fits) ∧ (∀ m ∈ d.sender, m.Fits) ∧ ∀ c ∈ d.content, c.Fits) ?_
      ⟨Format.forall_mem_none, Format.forall_mem_none, Format.forall_mem_none⟩ hrecord
    · exact ⟨hfits.1 chat hchat, hfits.2.1 sender hsender, hfits.2.2 content hcontent⟩
    simp only [fields, List.forall_mem_cons]
    exact ⟨Format.Field.keeps Chat.lossless.fits_of_read fun _ _ hc hd => ⟨Format.forall_mem_some hc, hd.2⟩,
      Format.Field.keeps Member.lossless.fits_of_read fun _ _ hm hd => ⟨hd.1, Format.forall_mem_some hm, hd.2.2⟩,
      Format.Field.keeps Content.lossless.fits_of_read fun _ _ hc hd => ⟨hd.1, hd.2.1, Format.forall_mem_some hc⟩,
      List.forall_mem_nil _⟩

end Update

/-- **JSON loses nothing.**  What fits is read back as it was written: its identifiers and values are within their bits
and its bounds in order, as they always are, and its floats are finite.  And what was read once is read again from what
it is written as, whatever it was read from: an array or an object, with defaults, unknown members, tags in any order
and any case, or whole numbers for floats. -/
theorem json_loses_nothing :
    ((∀ p : Profile, p.Fits → Profile.ofJson p.toJson = .ok p) ∧
      ∀ j p, Profile.ofJson j = .ok p → Profile.ofJson p.toJson = .ok p) ∧
    ((∀ d : Directive, d.Fits → Directive.ofJson d.toJson = .ok d) ∧
      ∀ j d, Directive.ofJson j = .ok d → Directive.ofJson d.toJson = .ok d) ∧
    ((∀ r : Range Int, r.Fits (Decimal.fits32 · = true) → Range.ofJson Format.readInt32 (r.toJson .int) = .ok r) ∧
      ∀ j (r : Range Int), Range.ofJson Format.readInt32 j = .ok r →
        Range.ofJson Format.readInt32 (r.toJson .int) = .ok r) ∧
    ((∀ r : Range Float, r.Fits (Float.isFinite · = true) →
        Range.ofJson Format.readFloat (r.toJson .ofFloat) = .ok r) ∧
      ∀ j (r : Range Float), Range.ofJson Format.readFloat j = .ok r →
        Range.ofJson Format.readFloat (r.toJson .ofFloat) = .ok r) ∧
    ((∀ m : Member, m.Fits → Member.ofJson m.toJson = .ok m) ∧
      ∀ j m, Member.ofJson j = .ok m → Member.ofJson m.toJson = .ok m) ∧
    (∀ u : Update, u.Fits → Update.ofJson u.toJson = .ok u) ∧
      ∀ j u, Update.ofJson j = .ok u → Update.ofJson u.toJson = .ok u :=
  ⟨⟨Profile.lossless.read_write, fun _ _ => Profile.lossless.read_again⟩,
    ⟨Directive.lossless.read_write, fun _ _ => Directive.lossless.read_again⟩,
    ⟨Directive.values_lossless.read_write, fun _ _ => Directive.values_lossless.read_again⟩,
    ⟨Directive.distances_lossless.read_write, fun _ _ => Directive.distances_lossless.read_again⟩,
    ⟨Member.lossless.read_write, fun _ _ => Member.lossless.read_again⟩,
    Update.lossless.read_write, fun _ _ => Update.lossless.read_again⟩

def sender : Member := { id := 7, firstName := "Ada".toList, username := some "ada".toList }

def sketched : Profile :=
  { member := sender, tags := .ofList [⟨"ada".toList, by decide, by decide⟩, ⟨"Chess".toList, by decide, by decide⟩]
    attributes := ({} : Sheet Int).set .age 36, location := some ⟨52, 13.5, none⟩ }

/-- The same profile in another order, with a tag in two cases, a whole number of degrees and a member of no use. -/
def sketch : Json :=
  .object [("note".toList, .bool true), ("location".toList, .array [.int 52, .float 13.5]),
    ("tags".toList, .array [.text "Chess".toList, .text "ada".toList, .text "CHESS".toList]),
    ("attributes".toList, .object [("age".toList, .int 36)]), ("member".toList, sender.toJson)]

def near : Range Float := ⟨some 0.5, some 10⟩

def years : Range Int := ⟨some 18, none⟩

def moved : Update := ⟨⟨-7, .group⟩, sender, .location ⟨52, 13.5, some 25⟩⟩

theorem json_loses_nothing_sketched :
    (sketched.Fits ∧ Profile.ofJson sketch = .ok sketched ∧ Profile.ofJson sketched.toJson = .ok sketched) ∧
    ((Directive.distanceWithin near).Fits ∧
      Directive.ofJson (.array [.text "distance_range".toList, .array [.float 0.5, .int 10]]) =
        .ok (.distanceWithin near) ∧
      Directive.ofJson (Directive.distanceWithin near).toJson = .ok (.distanceWithin near)) ∧
    (years.Fits (Decimal.fits32 · = true) ∧ Range.ofJson Format.readInt32 (.array [.int 18, .null]) = .ok years ∧
      Range.ofJson Format.readInt32 (years.toJson .int) = .ok years) ∧
    (near.Fits (Float.isFinite · = true) ∧
      Range.ofJson Format.readFloat (.array [.float 0.5, .int 10]) = .ok near ∧
      Range.ofJson Format.readFloat (near.toJson .ofFloat) = .ok near) ∧
    (sender.Fits ∧ Member.ofJson (.array [.int 7, .text "Ada".toList, .null, .text "ada".toList]) = .ok sender ∧
      Member.ofJson sender.toJson = .ok sender) ∧
    moved.Fits ∧ Update.ofJson (.array [moved.chat.toJson, sender.toJson, moved.content.toJson]) = .ok moved ∧
      Update.ofJson moved.toJson = .ok moved := by
  obtain ⟨profiles, directives, values, distances, members, updates⟩ := json_loses_nothing
  have hsketch : Profile.ofJson sketch = .ok sketched := rfl
  have hdirective : Directive.ofJson (.array [.text "distance_range".toList, .array [.float 0.5, .int 10]]) =
    .ok (.distanceWithin near) := rfl
  have hnear : Range.ofJson Format.readFloat (.array [.float 0.5, .int 10]) = .ok near := rfl
  have hyears : years.Fits (Decimal.fits32 · = true) := ⟨Format.forall_mem_some rfl, Format.forall_mem_none, nofun⟩
  have hsender : sender.Fits := rfl
  have hmoved : moved.Fits := ⟨rfl, hsender, rfl, rfl, Format.forall_mem_some rfl⟩
  exact ⟨⟨Profile.lossless.fits_of_read _ _ hsketch, hsketch, profiles.2 _ _ hsketch⟩,
    ⟨Directive.lossless.fits_of_read _ _ hdirective, hdirective, directives.2 _ _ hdirective⟩,
    ⟨hyears, rfl, values.1 _ hyears⟩,
    ⟨Directive.distances_lossless.fits_of_read _ _ hnear, hnear, distances.2 _ _ hnear⟩,
    ⟨hsender, rfl, members.1 _ hsender⟩, hmoved, rfl, updates.1 _ hmoved⟩

end ChatProfiles
