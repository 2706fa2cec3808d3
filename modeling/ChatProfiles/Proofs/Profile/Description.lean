import ChatProfiles.Proofs.Directive.RoundTrip
import ChatProfiles.Proofs.Edit.Agreement
/-!
# What describes a profile

A profile is described by a word for each value and each tag, and its marker.  Said to a blank profile the description
makes the profile anew (`rebuilt_from_description`), and as a search it finds the profiles that have all that is
described (`description_selects_extensions`).

The words are those that directives are written as, so that they are read as meant; from there on only the directives
count.  `Tells` is what both results need of these: that they say what is so of the values and the tags, and all of
it.  It names no order, since no two of them are about the same kind or the same tag, and so either result holds of the
words in any order.
-/
namespace ChatProfiles

open Directive (last?)

theorem AttributeKind.fits_of_inBounds {kind : AttributeKind} {value : Int}
    (h : kind.lowest ≤ value ∧ value ≤ kind.highest) : 0 ≤ value ∧ value ≤ 2147483647 := by
  cases kind <;> simp only [lowest, highest] at h <;> omega

namespace Profile

/-! ## Descriptions -/

/-- A word for each value and each tag. -/
def describing (p : Profile) : List Text :=
  p.attributes.entries.map (fun (kind, value) => kind.shown value) ++ p.tags.toList.map Tag.write

/-- What these words ask of an edit. -/
def traits (p : Profile) : List Directive :=
  p.attributes.entries.map (fun (kind, value) => .setAttribute kind value) ++ p.tags.toList.map .includeTag

variable {p q : Profile} {ds : List Directive} {d : Directive}

theorem mem_traits_iff :
    d ∈ p.traits ↔ (∃ kind value, p.attributes.get kind = some value ∧ d = .setAttribute kind value) ∨
      ∃ t ∈ p.tags.toList, d = .includeTag t := by
  simp only [traits, List.mem_append, List.mem_map, Prod.exists, Sheet.mem_entries, @eq_comm _ _ d]

theorem describing_eq (p : Profile) : p.describing = p.traits.map Directive.write := by
  rw [traits, List.map_append, List.map_map, List.map_map]
  rfl

theorem possible_of_mem_traits (h : p.InBounds) (hd : d ∈ p.traits) : Directive.Possible .edit d := by
  rcases mem_traits_iff.1 hd with ⟨kind, value, hvalue, rfl⟩ | ⟨t, -, rfl⟩
  · obtain ⟨lower, upper⟩ := AttributeKind.fits_of_inBounds (h kind value hvalue)
    exact .assignment kind rfl lower upper
  · exact .inclusion t

theorem not_refused_of_mem_traits (h : p.InBounds) (hd : d ∈ p.traits) : ¬ d.Refused := by
  rcases mem_traits_iff.1 hd with ⟨kind, value, hvalue, rfl⟩ | ⟨t, -, rfl⟩
  · rintro (_ | _ | _ | hout)
    obtain ⟨hlower, hupper⟩ := h kind value hvalue
    omega
  · exact nofun

/-- **The description is read as it is meant.** -/
theorem ofTokens_describing (h : p.InBounds) : Directive.ofTokens .edit p.describing = p.traits := by
  rw [Directive.ofTokens, describing_eq, List.map_map]
  refine (List.map_congr_left fun d hd => ?_).trans (List.map_id _)
  exact Directive.ofToken_write (possible_of_mem_traits h hd)

/-! ## What tells a profile -/

/-- The directives say of the values and the tags what is so, and all of it, and take no tag out. -/
structure Tells (ds : List Directive) (p : Profile) : Prop where
  value_iff : ∀ kind value, .setAttribute kind value ∈ ds ↔ p.attributes.get kind = some value
  tag_iff : ∀ t, .includeTag t ∈ ds ↔ t ∈ p.tags.toList
  not_excluded : ∀ t, .excludeTag t ∉ ds

theorem tells_traits (p : Profile) : Tells p.traits p where
  value_iff kind value := by simp [mem_traits_iff]
  tag_iff t := by simp [mem_traits_iff]
  not_excluded t := by simp [mem_traits_iff]

namespace Tells

theorem congr {ds' : List Directive} (h : Tells ds p) (hmem : ∀ d, d ∈ ds ↔ d ∈ ds') : Tells ds' p where
  value_iff kind value := (hmem _).symm.trans (h.value_iff kind value)
  tag_iff t := (hmem _).symm.trans (h.tag_iff t)
  not_excluded t ht := h.not_excluded t ((hmem _).2 ht)

/-- The last value given to a kind is the one that the profile has. -/
theorem last?_value (h : Tells ds p) (hp : p.InBounds) (kind : AttributeKind) :
    last? (·.valueFor? kind) ds = p.attributes.get kind := by
  refine Directive.last?_eq_of_forall fun value => ⟨?_, fun hvalue => ?_⟩
  · rintro ⟨d, hd, hpart⟩
    obtain ⟨rfl, -⟩ := Directive.valueFor?_eq_some_iff.1 hpart
    exact (h.value_iff kind value).1 hd
  · have haccepts : kind.accepts value = true := AttributeKind.accepts_iff.2 (hp kind value hvalue)
    exact ⟨_, (h.value_iff kind value).2 hvalue, Directive.valueFor?_eq_some_iff.2 ⟨rfl, haccepts⟩⟩

/-- Each tag is put in once, up to repetition, and so in the spelling of the profile. -/
theorem respelled (h : Tells ds p) (t : Tag) : Respelled t none ds (p.tags.spelling? t) := by
  cases hs : p.tags.spelling? t with
  | none =>
    refine .untouched fun d hd hnames => ?_
    cases hnames with
    | inclusion same => exact List.find?_eq_none.1 hs _ ((h.tag_iff _).1 hd) same
    | exclusion => exact h.not_excluded _ hd
  | some y =>
    obtain ⟨hy, same⟩ := TagSet.spelling?_eq_some_iff.1 hs
    obtain ⟨pre, post, split, hfirst⟩ := List.eq_append_cons_of_mem ((h.tag_iff y).2 hy)
    have hpre : ∀ d ∈ pre, d ∈ ds := fun d hd => split ▸ List.mem_append_left _ hd
    have hpost : ∀ d ∈ post, d ∈ ds := fun d hd => split ▸ List.mem_append_right _ (List.mem_cons_of_mem _ hd)
    refine .added rfl split same (fun d hd hnames => ?_) fun d hd hexcludes => ?_
    · cases hnames with
      | @inclusion x same' =>
        -- the profile has no second spelling, and this is the first place of the one it has
        have hx := (h.tag_iff x).1 (hpre _ hd)
        have hxy : x.same y = true := by rwa [← Tag.same_left same']
        exact hfirst (TagSet.eq_of_same hx hy hxy ▸ hd)
      | exclusion => exact h.not_excluded _ (hpre _ hd)
    · cases hexcludes
      exact h.not_excluded _ (hpost _ hd)

/-- **What tells a profile and gives its marker makes the profile**, all but the place, which no directive gives. -/
theorem netEffect (h : Tells ds p) (hp : p.InBounds) (hmarker : ∀ m, .setMarker m ∈ ds ↔ m = p.marker) :
    NetEffect (blank p.member) ds (p.withLocation none) where
  member := rfl
  location := rfl
  marker := by
    have hlast : last? Directive.marker? ds = some p.marker := Directive.last?_eq_of_forall fun m => by
      simp only [Directive.marker?_eq_some_iff, exists_eq_right, hmarker, Option.some.injEq]
      exact eq_comm
    rw [hlast]; rfl
  attributes kind := by
    have hblank : (blank p.member).attributes.get kind = none := by cases kind <;> rfl
    rw [h.last?_value hp, hblank, Option.or_none]; rfl
  tags t := h.respelled t

end Tells

/-! ## A profile made anew -/

/-- With the marker the words are still read as they are meant, in whatever order they come. -/
theorem mem_ofTokens_iff {words : List Text} (hp : p.InBounds)
    (hwords : words.Perm (p.describing ++ [p.marker.write])) :
    d ∈ Directive.ofTokens .edit words ↔ d ∈ p.traits ∨ d = .setMarker p.marker := by
  have hmarker : Directive.ofToken .edit p.marker.write = .setMarker p.marker :=
    Directive.ofToken_write (.marker p.marker rfl)
  have hperm : (Directive.ofTokens .edit words).Perm (Directive.ofTokens .edit (p.describing ++ [p.marker.write])) :=
    hwords.map _
  rw [hperm.mem_iff, Directive.ofTokens, List.map_append, ← Directive.ofTokens, ofTokens_describing hp,
    List.map_singleton, hmarker, List.mem_append, List.mem_singleton]

/-- **A profile can be made anew from its description, in any order.**  Said to a blank profile of the member, the words
for the values, the tags and the marker are all accepted, and leave the profile in the spellings that it had; only where
the member is, they do not say. -/
theorem rebuilt_from_description {words : List Text} (hp : p.InBounds)
    (hwords : words.Perm (p.describing ++ [p.marker.write])) :
    (blank p.member).applyTokens words = (p.withLocation none, []) := by
  have hmem := fun d => mem_ofTokens_iff (d := d) hp hwords
  have htells : Tells (Directive.ofTokens .edit words) p :=
    ⟨fun kind value => by simp [hmem, mem_traits_iff], fun t => by simp [hmem, mem_traits_iff],
      fun t => by simp [hmem, mem_traits_iff]⟩
  have hprofile : ((blank p.member).applyTokens words).1 = p.withLocation none :=
    (netEffect_applyTokens _ words).unique (htells.netEffect hp fun m => by simp [hmem, mem_traits_iff])
  have hrefused : ∀ w ∈ words, ¬ (Directive.ofToken .edit w).Refused := fun w hw => by
    rcases (hmem _).1 (List.mem_map_of_mem hw) with htrait | hmarker
    · exact not_refused_of_mem_traits hp htrait
    · rw [hmarker]; exact nofun
  have hnone : ((blank p.member).applyTokens words).2 = [] := by
    rw [← List.map_eq_nil_iff, map_token_refused, List.filter_eq_nil_iff]
    exact fun w hw => by simpa using hrefused w hw
  exact Prod.ext hprofile hnone

/-- A profile with something of each kind to describe. -/
def likeness : Profile where
  member := { id := 7, firstName := "Ada".toList, username := some "ada".toList }
  marker := ⟨'+', by decide +kernel⟩
  attributes := (({} : Sheet Int).set .age 36).set .weight 60
  tags := .ofList [⟨"Jazz".toList, by decide, by decide⟩, ⟨"29".toList, by decide, by decide⟩]
  location := some ⟨52, 13.5, none⟩

theorem inBounds_likeness : likeness.InBounds := fun kind value h => by
  cases kind <;> cases h <;> decide

theorem likeness_rebuilt :
    likeness.InBounds ∧
      ["#Jazz".toList, "60kg".toList, "+".toList, "36yo".toList, "#29".toList].Perm
        (likeness.describing ++ [likeness.marker.write]) ∧
      (blank likeness.member).applyTokens ["#Jazz".toList, "60kg".toList, "+".toList, "36yo".toList, "#29".toList] =
        (likeness.withLocation none, []) := by
  have hwords : ["#Jazz".toList, "60kg".toList, "+".toList, "36yo".toList, "#29".toList].Perm
      (likeness.describing ++ [likeness.marker.write]) := by decide
  exact ⟨inBounds_likeness, hwords, rebuilt_from_description inBounds_likeness hwords⟩

/-! ## The profiles that are found -/

/-- The profile has all that the other one has: the same values, and the tags in whatever spelling. -/
structure Extends (q p : Profile) : Prop where
  values : ∀ kind value, p.attributes.get kind = some value → q.attributes.get kind = some value
  tags : ∀ t ∈ p.tags.toList, ∃ t' ∈ q.tags.toList, t.same t' = true

theorem extends_self (p : Profile) : p.Extends p where
  values _ _ h := h
  tags t ht := ⟨t, ht, t.same_refl⟩

/-- **What tells a profile asks a search for the profiles that extend it**, from wherever one looks. -/
theorem Tells.asked_iff (h : Tells ds p) (hp : p.InBounds) (applied : ∀ d ∈ ds, ¬ d.Refused)
    (origin : Option Location) : Filter.Asked (ds.map Directive.toSearch) origin q ↔ q.Extends p := by
  have hrange : ∀ kind, last? (·.rangeFor? kind) (ds.map Directive.toSearch) =
      (p.attributes.get kind).map .point := fun kind => by
    rw [Directive.last?_rangeFor?_toSearch applied, h.last?_value hp]
  have hinclude : ∀ t, .includeTag t ∈ ds.map Directive.toSearch ↔ t ∈ p.tags.toList := fun t => by
    simp only [List.mem_map, Directive.toSearch_eq_includeTag_iff, exists_eq_right, h.tag_iff]
  constructor
  · intro asked
    refine ⟨fun kind value hvalue => ?_, fun t ht => asked.included t ((hinclude t).2 ht)⟩
    obtain ⟨value', hvalue', hwithin⟩ := asked.attributes kind (.point value) (by rw [hrange, hvalue]; rfl)
    rw [hvalue', Range.within_point_iff.1 hwithin]
  · intro extends_
    refine ⟨fun kind range hr => ?_, fun range hr => ?_, fun t ht => extends_.tags t ((hinclude t).1 ht),
      fun t ht => ?_⟩
    · rw [hrange] at hr
      obtain ⟨value, hvalue, rfl⟩ := Option.map_eq_some_iff.1 hr
      exact ⟨value, extends_.values kind value hvalue, Range.within_point_iff.2 rfl⟩
    · rw [Directive.last?_distance?_toSearch applied] at hr
      cases hr
    · have hexcluded : .excludeTag t ∈ ds := by
        simpa only [List.mem_map, Directive.toSearch_eq_excludeTag_iff, exists_eq_right] using ht
      exact absurd hexcluded (h.not_excluded t)

theorem isUnrecognized_of_mem_traits {w : Text} (hmem : Directive.ofToken .edit w ∈ p.traits) :
    (Directive.ofToken .search w).isUnrecognized = false := by
  rw [Directive.ofToken_search]
  rcases mem_traits_iff.1 hmem with ⟨kind, value, -, hd⟩ | ⟨t, -, hd⟩
  · rw [hd]; rfl
  · rw [hd]; rfl

/-- **A description selects the profiles that extend it**, in any order.  As a search it has a use for each of its
words, needs no place to start from, and accepts the profiles that have the same values and, in whatever spelling, the
same tags; so it accepts the profile described.  One word more that forbids a tag of this profile, in whatever spelling,
makes the search reject it. -/
theorem description_selects_extensions {words : List Text} (hp : p.InBounds) (hwords : words.Perm p.describing) :
    (Filter.ofTokens words).2 = [] ∧
    (Filter.ofTokens words).1.needsOrigin = false ∧
    (∀ q origin, (Filter.ofTokens words).1.accepts origin q = true ↔ q.Extends p) ∧
    (∀ origin, (Filter.ofTokens words).1.accepts origin p = true) ∧
    ∀ t, p.tags.has t = true →
      Filter.ofTokens (words ++ [(Directive.excludeTag t).write]) =
        ((Filter.ofTokens words).1.add (.excludeTag t), []) ∧
      ∀ origin, ((Filter.ofTokens words).1.add (.excludeTag t)).accepts origin p = false := by
  have htraits : (Directive.ofTokens .edit words).Perm p.traits := ofTokens_describing hp ▸ hwords.map _
  have htells : Tells (Directive.ofTokens .edit words) p := (tells_traits p).congr fun d => htraits.mem_iff.symm
  have happlied : ∀ d ∈ Directive.ofTokens .edit words, ¬ d.Refused := fun d hd =>
    not_refused_of_mem_traits hp (htraits.mem_iff.1 hd)
  have hcompiled : Filter.Compiled (Filter.ofTokens words).1
      ((Directive.ofTokens .edit words).map Directive.toSearch) := by
    rw [Filter.ofTokens_eq, Directive.ofTokens_search]
    exact Filter.compiled_ofDirectives _
  have hignored : (Filter.ofTokens words).2 = [] := by
    rw [Filter.ofTokens_eq, List.filter_eq_nil_iff]
    exact fun w hw => by simp [isUnrecognized_of_mem_traits (htraits.mem_iff.1 (List.mem_map_of_mem hw))]
  have haccepts : ∀ q origin, (Filter.ofTokens words).1.accepts origin q = true ↔ q.Extends p := fun q origin =>
    hcompiled.accepts_iff.trans (htells.asked_iff hp happlied origin)
  refine ⟨hignored, ?_, haccepts, fun origin => (haccepts p origin).2 (extends_self p),
    fun t ht => ⟨?_, fun origin => ?_⟩⟩
  · rw [Filter.needsOrigin, hcompiled.distance, Directive.last?_distance?_toSearch happlied]
    rfl
  · have hword : Directive.ofToken .search (Directive.excludeTag t).write = .excludeTag t :=
      Directive.ofToken_write (.exclusion t)
    rw [Filter.ofTokens_concat _ (by rw [hword]; rfl), hword, hignored]
  · exact Filter.accepts_add_excludeTag _ ht origin

theorem likeness_selects :
    likeness.InBounds ∧ ["#Jazz".toList, "60kg".toList, "36yo".toList, "#29".toList].Perm likeness.describing ∧
      likeness.tags.has ⟨"JAZZ".toList, by decide, by decide⟩ = true ∧
      ∃ f, Filter.ofTokens ["#Jazz".toList, "60kg".toList, "36yo".toList, "#29".toList] = (f, []) ∧
        f.needsOrigin = false ∧ (∀ q origin, f.accepts origin q = true ↔ q.Extends likeness) ∧
        (∀ origin, f.accepts origin likeness = true) ∧
        ∃ f', Filter.ofTokens ["#Jazz".toList, "60kg".toList, "36yo".toList, "#29".toList, "-#JAZZ".toList] = (f', []) ∧
          ∀ origin, f'.accepts origin likeness = false := by
  have hwords : ["#Jazz".toList, "60kg".toList, "36yo".toList, "#29".toList].Perm likeness.describing := by decide
  have howned : likeness.tags.has ⟨"JAZZ".toList, by decide, by decide⟩ = true := by decide
  obtain ⟨hignored, horigin, haccepts, hself, hexcluded⟩ := description_selects_extensions inBounds_likeness hwords
  obtain ⟨hword, hrejects⟩ := hexcluded _ howned
  exact ⟨inBounds_likeness, hwords, howned, _, Prod.ext rfl hignored, horigin, haccepts, hself, _, hword, hrejects⟩

end Profile

end ChatProfiles
