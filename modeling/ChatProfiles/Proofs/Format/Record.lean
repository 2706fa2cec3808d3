import ChatProfiles.Format.Record
import Mathlib.Data.List.Nodup
/-!
# Writing that loses nothing

A type is written to JSON and read back.  Nothing is lost if each value that fits its form is read back as it was, and
all that is ever read fits (`Lossless`); then reading, writing and reading again is the same as reading once.  Plain
values are read from what they are written as and from nothing else (`Exact`); what is made of them may be read from
more.

A record is read field by field.  Written in the order of its fields, it is read as the values of its fields one after
the other (`readRecord_inOrder`), whatever stands for a field that is left out at the end.  And what every field keeps,
the whole record keeps, in whatever form it comes (`readRecord_keeps`).  Every value a record is given is read by the
field it is given for (`exists_read_of_given`).
-/
namespace ChatProfiles.Format

variable {α β ρ : Type}

theorem bind_eq_ok_iff {x : Except Fault α} {f : α → Except Fault β} {b : β} :
    x >>= f = .ok b ↔ ∃ a, x = .ok a ∧ f a = .ok b := by
  cases x <;> simp [bind, Except.bind]

theorem map_eq_ok_iff {x : Except Fault α} {f : α → β} {b : β} : x.map f = .ok b ↔ ∃ a, x = .ok a ∧ f a = b := by
  cases x <;> simp [Except.map]

theorem mapError_eq_ok_iff {ε : Type} {x : Except ε α} {f : ε → Fault} {a : α} :
    x.mapError f = .ok a ↔ x = .ok a := by
  cases x <;> simp [Except.mapError]

theorem orFault_eq_ok_iff {a? : Option α} {a : α} : orFault a? = .ok a ↔ a? = some a := by
  cases a? <;> simp [orFault]

theorem forall_mem_none {p : α → Prop} : ∀ a ∈ (none : Option α), p a := nofun

theorem forall_mem_some {p : α → Prop} {a : α} (h : p a) : ∀ b ∈ some a, p b := by
  rintro _ ⟨⟩
  exact h

theorem ofFloat_ne_null {x : Float} (h : x.isFinite = true) : Json.ofFloat x ≠ .null := by
  rw [Json.ofFloat, if_pos h]
  nofun

/-- **What is written is read back**, if it fits, and what is read fits. -/
structure Lossless (write : α → Json) (read : Json → Except Fault α) (fits : α → Prop) : Prop where
  read_write : ∀ a, fits a → read (write a) = .ok a
  fits_of_read : ∀ j a, read j = .ok a → fits a

/-- **What fits is read from what it is written as, and from nothing else.** -/
def Exact (write : α → Json) (read : Json → Except Fault α) (fits : α → Prop) : Prop :=
  ∀ j a, read j = .ok a ↔ j = write a ∧ fits a

section

variable {write : α → Json} {read : Json → Except Fault α} {fits : α → Prop}

/-- What was read once is read again from what it is written as. -/
theorem Lossless.read_again (h : Lossless write read fits) {j : Json} {a : α} (hj : read j = .ok a) :
    read (write a) = .ok a :=
  h.read_write a (h.fits_of_read j a hj)

/-! ## Plain values -/

namespace Exact

theorem lossless (h : Exact write read fits) : Lossless write read fits where
  read_write a ha := (h (write a) a).2 ⟨rfl, ha⟩
  fits_of_read j a hread := ((h j a).1 hread).2

/-- A list is read from a list, value by value. -/
theorem mapM_eq_ok_iff (h : Exact write read fits) {js : List Json} {as : List α} :
    js.mapM read = .ok as ↔ js = as.map write ∧ ∀ a ∈ as, fits a := by
  induction js generalizing as with
  | nil => cases as <;> simp [pure, Except.pure]
  | cons j js ih =>
    rw [List.mapM_cons, bind_eq_ok_iff]
    constructor
    · rintro ⟨a, ha, hrest⟩
      obtain ⟨as, has, hrest⟩ := bind_eq_ok_iff.1 hrest
      cases hrest
      obtain ⟨rfl, hfits⟩ := (h j a).1 ha
      obtain ⟨rfl, hall⟩ := ih.1 has
      exact ⟨rfl, List.forall_mem_cons.2 ⟨hfits, hall⟩⟩
    · rintro ⟨hjs, hall⟩
      cases as with
      | nil => cases hjs
      | cons a as =>
        obtain ⟨hj, hjs⟩ := List.cons_eq_cons.1 hjs
        obtain ⟨hfits, hall⟩ := List.forall_mem_cons.1 hall
        exact ⟨a, (h j a).2 ⟨hj, hfits⟩, bind_eq_ok_iff.2 ⟨as, ih.2 ⟨hjs, hall⟩, rfl⟩⟩

theorem text : Exact .text readText fun _ => True := fun j t => by
  cases j <;> simp [readText]

/-- Whole numbers that pass a test. -/
theorem ints (fits : Int → Bool) :
    Exact .int (fun | .int n => if fits n then .ok n else .error .shape | _ => .error .shape) (fits · = true) := by
  intro j n
  cases j with
  | int m =>
    constructor
    · intro h
      obtain ⟨hm, ⟨⟩⟩ | ⟨-, ⟨⟩⟩ := ite_eq_iff.1 h
      exact ⟨rfl, hm⟩
    · rintro ⟨⟨⟩, hn⟩
      exact if_pos hn
  | _ => simp

theorem int32 : Exact .int readInt32 (Decimal.fits32 · = true) := ints Decimal.fits32

theorem int64 : Exact .int readInt64 (Decimal.fits64 · = true) := ints Decimal.fits64

end Exact

namespace Lossless

theorem text : Lossless .text readText fun _ => True := Exact.text.lossless

theorem int32 : Lossless .int readInt32 (Decimal.fits32 · = true) := Exact.int32.lossless

theorem int64 : Lossless .int readInt64 (Decimal.fits64 · = true) := Exact.int64.lossless

theorem finite_eq_ok {x y : Float} (h : finite x = .ok y) : y.isFinite = true := by
  unfold finite at h
  split at h
  · next hx => cases h; exact hx
  · cases h

theorem float : Lossless .ofFloat readFloat (Float.isFinite · = true) where
  read_write x hx := by
    rw [Json.ofFloat, if_pos hx]
    exact if_pos hx
  fits_of_read j x h := by
    unfold readFloat at h
    split at h
    · exact finite_eq_ok h
    · exact finite_eq_ok h
    · cases h

/-- An absent value is written as `null`, which nothing else may be written as. -/
theorem option (h : Lossless write read fits) (hnull : ∀ a, fits a → write a ≠ .null) :
    Lossless (.ofOption write) (readOption read) (∀ a ∈ ·, fits a) where
  read_write a? hfits := by
    cases a? with
    | none => rfl
    | some a =>
      rw [Json.ofOption, readOption, h.read_write a (hfits a rfl)]
      · rfl
      · exact hnull a (hfits a rfl)
  fits_of_read j a? hread := by
    unfold readOption at hread
    split at hread
    · cases hread
      exact forall_mem_none
    · obtain ⟨a, ha, rfl⟩ := map_eq_ok_iff.1 hread
      exact forall_mem_some (h.fits_of_read _ a ha)

theorem text? : Lossless (.ofOption .text) (readOption readText) (∀ t ∈ ·, True) := text.option fun _ _ => nofun

theorem float? : Lossless (.ofOption .ofFloat) (readOption readFloat) (∀ x ∈ ·, x.isFinite = true) :=
  float.option fun _ => ofFloat_ne_null

end Lossless

end

/-! ## Records -/

/-- **What every step keeps, a fold keeps.** -/
theorem foldlM_keeps {f : ρ → β → Except Fault ρ} {P : ρ → Prop} (bs : List β)
    (keeps : ∀ b ∈ bs, ∀ r r', f r b = .ok r' → P r → P r') {r r' : ρ} (h : bs.foldlM f r = .ok r') (hr : P r) :
    P r' := by
  induction bs generalizing r with
  | nil => cases h; exact hr
  | cons b bs ih =>
    obtain ⟨hb, hbs⟩ := List.forall_mem_cons.1 keeps
    rw [List.foldlM_cons] at h
    obtain ⟨s, hs, h⟩ := bind_eq_ok_iff.1 h
    exact ih hbs h (hb r s hs hr)

/-- A fold that ends well went well at every step. -/
theorem exists_step_of_mem {f : ρ → β → Except Fault ρ} {bs : List β} {r r' : ρ} (h : bs.foldlM f r = .ok r') {b : β}
    (hb : b ∈ bs) : ∃ s s', f s b = .ok s' := by
  induction bs generalizing r with
  | nil => cases hb
  | cons c bs ih =>
    rw [List.foldlM_cons] at h
    obtain ⟨s, hs, h⟩ := bind_eq_ok_iff.1 h
    rcases List.mem_cons.1 hb with rfl | hb
    · exact ⟨r, s, hs⟩
    · exact ih h hb

/-- The values a record is read from, each with the name of the field it is given for. -/
def given (names : List Text) : Json → List (Text × Json)
  | .object members => members
  | .array items => names.zip items
  | _ => []

/-- The field's value never spoils what is known of the record. -/
def Field.Keeps (P : ρ → Prop) (f : Field ρ) : Prop := ∀ j r r', f.read j r = .ok r' → P r → P r'

theorem Field.keeps {P : ρ → Prop} {fits : α → Prop} {name : Text} {read : Json → Except Fault α} {set : α → ρ → ρ}
    (hread : ∀ j a, read j = .ok a → fits a) (hset : ∀ a r, fits a → P r → P (set a r)) :
    Keeps P ⟨name, fun j r => (read j).map fun a => set a r⟩ := by
  intro j r r' h hr
  obtain ⟨a, ha, rfl⟩ := map_eq_ok_iff.1 h
  exact hset a r (hread j a ha) hr

variable {P : ρ → Prop} {fields : List (Field ρ)}

theorem readItems_keeps {js : List Json} (keeps : ∀ f ∈ fields, ∀ v, (f.name, v) ∈ (fields.map Field.name).zip js →
    ∀ r r', f.read v r = .ok r' → P r → P r') {r r' : ρ} (h : readItems fields js r = .ok r') (hr : P r) : P r' := by
  induction fields generalizing js r with
  | nil => cases js <;> cases h; exact hr
  | cons f fs ih =>
    obtain ⟨hf, hfs⟩ := List.forall_mem_cons.1 keeps
    cases js with
    | nil => cases h; exact hr
    | cons j js =>
      obtain ⟨s, hs, h⟩ := bind_eq_ok_iff.1 h
      exact ih (fun g hg v hv => hfs g hg v (List.mem_cons_of_mem _ hv)) h (hf j List.mem_cons_self r s hs hr)

/-- **What every field keeps when it reads what it is given, a record keeps**, from an object or from an array. -/
theorem readRecord_keeps_given {j : Json} (keeps : ∀ f ∈ fields, ∀ v, (f.name, v) ∈ given (fields.map Field.name) j →
    ∀ r r', f.read v r = .ok r' → P r → P r') {atLeast : Nat} {start r : ρ} (hstart : P start)
    (h : readRecord fields atLeast start j = .ok r) : P r := by
  unfold readRecord at h
  split at h
  · refine foldlM_keeps _ (fun m hm r r' hread hr => ?_) h hstart
    unfold readMember at hread
    split at hread
    · next f hf =>
      have hname : f.name = m.1 := by simpa using List.find?_some hf
      refine keeps f (List.mem_of_find?_eq_some hf) m.2 ?_ r r' hread hr
      rw [hname]
      exact hm
    · cases hread; exact hr
  · obtain ⟨s, hs, h⟩ := bind_eq_ok_iff.1 h
    split at h
    · cases h
    · cases h; exact readItems_keeps keeps hs hstart
  · cases h

theorem readRecord_keeps (keeps : ∀ f ∈ fields, f.Keeps P) {atLeast : Nat} {start r : ρ} (hstart : P start) {j : Json}
    (h : readRecord fields atLeast start j = .ok r) : P r :=
  readRecord_keeps_given (fun f hf v _ => keeps f hf v) hstart h

theorem readMember_field (hnames : (fields.map Field.name).Nodup) {f : Field ρ} (hf : f ∈ fields) (r : ρ) (j : Json) :
    readMember fields r (f.name, j) = f.read j r := by
  have hfind : fields.find? (·.name == f.name) = some f := by
    cases hg : fields.find? (·.name == f.name) with
    | none => exact absurd (List.find?_eq_none.1 hg f hf) (by simp)
    | some g =>
      have hname : g.name = f.name := by simpa using List.find?_some hg
      rw [List.inj_on_of_nodup_map hnames (List.mem_of_find?_eq_some hg) hf hname]
  simp only [readMember, hfind]

/-- Values in the order of the fields are read as members of the fields' names. -/
theorem foldlM_readMember_zip (hnames : (fields.map Field.name).Nodup) {js : List Json} {start r : ρ}
    (h : readItems fields js start = .ok r) :
    ((fields.map Field.name).zip js).foldlM (readMember fields) start = .ok r := by
  -- the induction takes fields off the front, so the names are looked up in a longer list
  have go (fs : List (Field ρ)) : ∀ js start, fs ⊆ fields → readItems fs js start = .ok r →
      ((fs.map Field.name).zip js).foldlM (readMember fields) start = .ok r := by
    induction fs with
    | nil =>
      intro js start _ h
      cases js with
      | nil => exact h
      | cons j js => cases h
    | cons f fs ih =>
      intro js start hsubset h
      obtain ⟨hf, hfs⟩ := List.cons_subset.1 hsubset
      cases js with
      | nil => exact h
      | cons j js =>
        obtain ⟨s, hs, h⟩ := bind_eq_ok_iff.1 h
        rw [List.map_cons, List.zip_cons_cons, List.foldlM_cons, readMember_field hnames hf, hs]
        exact ih js s hfs h
  exact go fields js start (List.Subset.refl _) h

/-- **A record whose members come in the order of its fields** is read as their values are. -/
theorem readRecord_inOrder (hnames : (fields.map Field.name).Nodup) {js : List Json} {start r : ρ}
    (h : readItems fields js start = .ok r) (atLeast : Nat) :
    readRecord fields atLeast start (.object ((fields.map Field.name).zip js)) = .ok r :=
  foldlM_readMember_zip hnames h

/-- **No value that a record is given is left unread**, be it from an object or from an array. -/
theorem exists_read_of_given (hnames : (fields.map Field.name).Nodup) {atLeast : Nat} {start r : ρ} {j : Json}
    (h : readRecord fields atLeast start j = .ok r) {f : Field ρ} (hf : f ∈ fields) {v : Json}
    (hv : (f.name, v) ∈ given (fields.map Field.name) j) : ∃ s s', f.read v s = .ok s' := by
  have hfold : (given (fields.map Field.name) j).foldlM (readMember fields) start = .ok r := by
    unfold readRecord at h
    split at h
    · exact h
    · obtain ⟨s, hs, h⟩ := bind_eq_ok_iff.1 h
      split at h <;> cases h
      exact foldlM_readMember_zip hnames hs
    · cases h
  obtain ⟨s, s', hread⟩ := exists_step_of_mem hfold hv
  rw [readMember_field hnames hf] at hread
  exact ⟨s, s', hread⟩

/-! ## Records all of whose members are required -/

variable {name₁ name₂ : Text} {read₁ : Json → Except Fault α} {read₂ : Json → Except Fault β}

theorem readOne_object {j : Json} {a : α} (h : read₁ j = .ok a) :
    readOne name₁ read₁ (.object [(name₁, j)]) = .ok a := by
  have hmember (r : Option α) :
      readMember [⟨name₁, fun j _ => (read₁ j).map some⟩] r (name₁, j) = .ok (some a) := by
    simp [readMember, h, Except.map]
  simp only [readOne, readRecord, List.foldlM_cons, hmember]
  rfl

theorem readTwo_object (hne : name₁ ≠ name₂) {j₁ j₂ : Json} {a : α} {b : β} (h₁ : read₁ j₁ = .ok a)
    (h₂ : read₂ j₂ = .ok b) :
    readTwo name₁ read₁ name₂ read₂ (.object [(name₁, j₁), (name₂, j₂)]) = .ok (a, b) := by
  simp [readTwo, readRecord, readMember, h₁, h₂, hne, Except.map, bind, Except.bind, orFault, pure, Except.pure]

theorem fits_of_readOne {fits : α → Prop} (hfits : ∀ j a, read₁ j = .ok a → fits a) {j : Json} {a : α}
    (h : readOne name₁ read₁ j = .ok a) : fits a := by
  obtain ⟨a?, hrecord, ha⟩ := bind_eq_ok_iff.1 h
  rw [orFault_eq_ok_iff] at ha
  refine readRecord_keeps (P := fun a? => ∀ a ∈ a?, fits a) ?_ forall_mem_none hrecord a ha
  exact List.forall_mem_singleton.2 (Field.keeps hfits fun _ _ ha _ => forall_mem_some ha)

theorem fits_of_readTwo {fits₁ : α → Prop} {fits₂ : β → Prop} (hfits₁ : ∀ j a, read₁ j = .ok a → fits₁ a)
    (hfits₂ : ∀ j b, read₂ j = .ok b → fits₂ b) {j : Json} {x : α × β}
    (h : readTwo name₁ read₁ name₂ read₂ j = .ok x) : fits₁ x.1 ∧ fits₂ x.2 := by
  obtain ⟨⟨a?, b?⟩, hrecord, h⟩ := bind_eq_ok_iff.1 h
  obtain ⟨a, ha, h⟩ := bind_eq_ok_iff.1 h
  obtain ⟨b, hb, h⟩ := bind_eq_ok_iff.1 h
  cases h
  rw [orFault_eq_ok_iff] at ha hb
  have hfits := readRecord_keeps (P := fun r => (∀ a ∈ r.1, fits₁ a) ∧ ∀ b ∈ r.2, fits₂ b) ?_
    ⟨forall_mem_none, forall_mem_none⟩ hrecord
  · exact ⟨hfits.1 a ha, hfits.2 b hb⟩
  · exact List.forall_mem_cons.2 ⟨Field.keeps hfits₁ fun _ _ ha hr => ⟨forall_mem_some ha, hr.2⟩,
      List.forall_mem_singleton.2 (Field.keeps hfits₂ fun _ _ hb hr => ⟨hr.1, forall_mem_some hb⟩)⟩

end ChatProfiles.Format
