import ChatProfiles.Bot.Card
import ChatProfiles.Proofs.Bot.Markup
/-!
# What opens spans in a card

A card is put together from texts of members, which are escaped, and from numbers, tags and the marker, which are
written as they are.  Numbers and tags have none of the four characters that open spans.  A marker is any symbol, and
one of the four is a symbol: the backtick.  So two asterisks around the name are all that opens spans in a card, unless
the marker is a backtick (`guarded_iff_marker`).
-/
namespace ChatProfiles

/-- The backtick is the one symbol that opens a span. -/
theorem Marker.eq_backtick (m : Marker) (h : Markup.opensSpan m.symbol = true) : m.symbol = '\x60' := by
  have hsymbol := m.isSymbol
  have hc := Markup.opensSpan_eq_true_iff.1 h
  generalize m.symbol = c at hsymbol hc ⊢
  simp only [List.mem_cons, List.not_mem_nil, or_false] at hc
  rcases hc with rfl | rfl | rfl | rfl
  · exact absurd hsymbol (by decide +kernel)
  · exact absurd hsymbol (by decide +kernel)
  · rfl
  · exact absurd hsymbol (by decide +kernel)

namespace Card

open Markup (Guarded opensSpan)

/-! ## The parts of a card -/

/-- The first name and the last one, as they are known. -/
def fullName (m : Member) : Text := m.firstName ++ m.lastName.elim [] (' ' :: ·)

/-- What stands in a card before the name and its delimiters. -/
def beforeName (p : Profile) : Text := p.marker.write ++ [' ']

/-- The start of a card up to the end of the name, the delimiter after it left out. -/
def throughName (p : Profile) : Text := beforeName p ++ '*' :: Markup.escaped (fullName p.member)

/-- What stands between the name and the second marker. -/
def afterName (p : Profile) : Text := p.member.username.elim [] (fun u => " @".toList ++ Markup.escaped u) ++ [' ']

/-- The start of a card up to the second marker. -/
def untilMarker (p : Profile) : Text := throughName p ++ '*' :: afterName p

/-- The lines below the header. -/
def details (p : Profile) : List Text :=
  (p.member.languageCode.map fun code => "💬 ".toList ++ Markup.escaped code).toList
    ++ (attributesLine? p).toList ++ (tagsLine? p).toList

theorem escaped_fullName (m : Member) : Markup.escaped (fullName m) =
    Markup.escaped m.firstName ++ m.lastName.elim [] fun last => ' ' :: Markup.escaped last := by
  rw [fullName, Markup.escaped_append]
  cases m.lastName <;> rfl

theorem header_eq (p : Profile) : header p = untilMarker p ++ p.marker.write := by
  simp only [header, untilMarker, throughName, beforeName, afterName, escaped_fullName, List.append_assoc,
    List.cons_append, List.nil_append]
  rfl

/-- **A card, around its markers and delimiters.** -/
theorem write_eq (p : Profile) : write p =
    p.marker.symbol :: ([' '] ++ '*' :: (Markup.escaped (fullName p.member) ++ '*' ::
      (afterName p ++ p.marker.symbol :: (details p).flatMap (['\n'] ++ ·)))) := by
  have hlines : lines p = header p :: details p := by simp [lines, details]
  rw [write, hlines, Text.joined_cons, header_eq]
  simp [untilMarker, throughName, beforeName, Marker.write]

/-! ## Each part is guarded -/

theorem opensSpan_of_isDigit {c : Char} (h : c.isDigit = true) : opensSpan c = false :=
  Markup.opensSpan_eq_false (by decide) h

theorem opensSpan_of_isAlphanum {c : Char} (h : c.isAlphanum = true) : opensSpan c = false :=
  Markup.opensSpan_eq_false (by decide) h

theorem opensSpan_of_mem_ofInt (n : Int) : ∀ c ∈ Decimal.ofInt n, opensSpan c = false := by
  have hdigits (k : Nat) : ∀ c ∈ Decimal.ofNat k, opensSpan c = false := fun c hc =>
    opensSpan_of_isDigit (Nat.isDigit_of_mem_toDigits (by decide) (by decide) hc)
  cases n with
  | ofNat k => exact hdigits k
  | negSucc k => exact List.forall_mem_cons.2 ⟨by decide, hdigits _⟩

theorem guarded_shown (k : AttributeKind) (value : Int) : Guarded (k.shown value) := by
  have hunit : k.unit.any opensSpan = false := by cases k <;> decide
  exact .append (Markup.guarded_of_plain (opensSpan_of_mem_ofInt value)) (Markup.guarded_of_any hunit)

theorem guarded_tag (t : Tag) : Guarded t.write :=
  Markup.guarded_of_plain (List.forall_mem_cons.2 ⟨by decide, fun c hc =>
    opensSpan_of_isAlphanum (List.all_eq_true.1 t.alphanumeric c hc)⟩)

theorem guarded_afterName (p : Profile) : Guarded (afterName p) := by
  rw [afterName]
  cases p.member.username with
  | none => exact Markup.guarded_blank
  | some u =>
    have hat : Guarded " @".toList := Markup.guarded_of_any (by decide)
    exact (hat.append (Markup.guarded_escaped u)).append Markup.guarded_blank

theorem guarded_details (p : Profile) : ∀ line ∈ details p, Guarded line := by
  intro line hline
  simp only [details, List.mem_append, Option.mem_toList] at hline
  rcases hline with (hline | hline) | hline
  · obtain ⟨code, -, rfl⟩ := Option.map_eq_some_iff.1 hline
    have hlabel : Guarded "💬 ".toList := Markup.guarded_of_any (by decide)
    exact hlabel.append (Markup.guarded_escaped code)
  · unfold attributesLine? at hline
    split at hline
    · cases hline
    · obtain rfl := Option.some.inj hline
      have hlabel : Guarded "📋 ".toList := Markup.guarded_of_any (by decide)
      refine hlabel.append (Markup.guarded_joined Markup.guarded_blank fun t ht => ?_)
      obtain ⟨x, -, rfl⟩ := List.mem_map.1 ht
      exact guarded_shown x.1 x.2
  · unfold tagsLine? at hline
    split at hline
    · cases hline
    · obtain rfl := Option.some.inj hline
      refine Markup.guarded_joined Markup.guarded_blank fun t ht => ?_
      obtain ⟨tag, -, rfl⟩ := List.mem_map.1 ht
      exact guarded_tag tag

/-! ## The whole card -/

variable {p : Profile} {before after : Text} {c : Char}

/-- **Where the characters stand that open spans in a card**: behind a backslash, around the name, or for markers. -/
theorem opensSpan_cases (h : write p = before ++ c :: after) (hc : opensSpan c = true) :
    before.getLast? = some '\\' ∨ before = beforeName p ∨ before = throughName p ∨
      c = p.marker.symbol ∧ (before = [] ∨ before = untilMarker p) := by
  have hnil : Guarded [] := Markup.guarded_of_plain (List.forall_mem_nil _)
  have hlines : Guarded ((details p).flatMap (['\n'] ++ ·)) :=
    Markup.guarded_flatMap (Markup.guarded_of_any (by decide)) (guarded_details p)
  rw [write_eq, ← List.nil_append (p.marker.symbol :: _)] at h
  have hlater {d : Text} (hd : d.getLast? = some '\\') :
      ([] ++ p.marker.symbol :: ([' '] ++ '*' :: (Markup.escaped (fullName p.member) ++ '*' :: d))).getLast?
        = some '\\' :=
    Markup.getLast?_append_cons (Markup.getLast?_append_cons (Markup.getLast?_append_cons hd _ _) _ _) _ _
  -- the marker, the two delimiters and the marker again split the card into guarded parts
  rcases hnil.split_cases h hc with hback | ⟨rfl, rfl⟩ | ⟨d₁, rfl, h₁⟩
  · exact .inl hback
  · exact .inr (.inr (.inr ⟨rfl, .inl rfl⟩))
  rcases Markup.guarded_blank.split_cases h₁ hc with hback | ⟨rfl, rfl⟩ | ⟨d₂, rfl, h₂⟩
  · exact .inl (Markup.getLast?_append_cons hback _ _)
  · exact .inr (.inl rfl)
  rcases (Markup.guarded_escaped _).split_cases h₂ hc with hback | ⟨rfl, rfl⟩ | ⟨d₃, rfl, h₃⟩
  · exact .inl (Markup.getLast?_append_cons (Markup.getLast?_append_cons hback _ _) _ _)
  · exact .inr (.inr (.inl rfl))
  rcases (guarded_afterName p).split_cases h₃ hc with hback | ⟨rfl, rfl⟩ | ⟨d₄, rfl, h₄⟩
  · exact .inl (hlater hback)
  · refine .inr (.inr (.inr ⟨rfl, .inr ?_⟩))
    simp [untilMarker, throughName, beforeName, Marker.write]
  · exact .inl (hlater (Markup.getLast?_append_cons (hlines d₄ c after h₄ hc) _ _))

/-- **Members open no spans in a card, unless with a backtick for a marker.**  All characters that open spans stand
behind a backslash, except the two asterisks around the name and a marker that is a backtick; so all but these two do
exactly if the marker is no backtick. -/
theorem guarded_iff_marker (p : Profile) :
    (∀ before c after, write p = before ++ c :: after → opensSpan c = true →
      before.getLast? = some '\\' ∨ before = beforeName p ∨ before = throughName p ∨
        c = '\x60' ∧ p.marker.symbol = '\x60' ∧ (before = [] ∨ before = untilMarker p)) ∧
    ((∀ before c after, write p = before ++ c :: after → opensSpan c = true → before ≠ beforeName p →
      before ≠ throughName p → before.getLast? = some '\\') ↔ p.marker.symbol ≠ '\x60') := by
  have hcases : ∀ before c after, write p = before ++ c :: after → opensSpan c = true →
      before.getLast? = some '\\' ∨ before = beforeName p ∨ before = throughName p ∨
        c = '\x60' ∧ p.marker.symbol = '\x60' ∧ (before = [] ∨ before = untilMarker p) := by
    intro before c after h hc
    refine (opensSpan_cases h hc).imp_right (.imp_right (.imp_right ?_))
    rintro ⟨rfl, hplace⟩
    exact ⟨p.marker.eq_backtick hc, p.marker.eq_backtick hc, hplace⟩
  refine ⟨hcases, fun hguarded hmarker => ?_, fun hmarker before c after h hc hopen hclose => ?_⟩
  · -- the marker is the first character of the card, so nothing stands before it
    have hopen : [] ≠ beforeName p := by simp [beforeName]
    have hclose : [] ≠ throughName p := by simp [throughName]
    cases hguarded [] p.marker.symbol _ (write_eq p) (hmarker ▸ by decide) hopen hclose
  · rcases hcases before c after h hc with hback | hplace | hplace | ⟨-, hplace, -⟩
    · exact hback
    · exact absurd hplace hopen
    · exact absurd hplace hclose
    · exact absurd hplace hmarker

/-- A marker that opens a span. -/
def backtick : Marker := ⟨'\x60', by decide +kernel⟩

def ticked : Profile :=
  { member := { id := 1, firstName := "bob".toList, username := some "bob".toList }, marker := backtick }

/-- **A backtick for a marker stands in a card as it is**, before the name and after it. -/
theorem backtick_not_guarded :
    Marker.ofText? ['\x60'] = some backtick ∧ write ticked = "\x60 *bob* @bob \x60".toList ∧
      ¬ ∀ before c after, write ticked = before ++ c :: after → opensSpan c = true → before ≠ beforeName ticked →
        before ≠ throughName ticked → before.getLast? = some '\\' :=
  ⟨Marker.ofText?_write backtick, rfl, fun h => nomatch h [] '\x60' _ rfl (by decide) nofun nofun⟩

end Card

end ChatProfiles
