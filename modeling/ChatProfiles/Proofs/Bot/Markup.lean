import ChatProfiles.Bot.Markup
import ChatProfiles.Proofs.Text.Span
import Mathlib.Data.List.Basic
/-!
# Guarding and reading markup

Two views of a text with markup.  It is guarded if each character that opens a span has a backslash directly before it
(`Guarded`); guarded texts can be put together, and what is escaped is guarded.  And it is read from left to right
(`read`): a backslash before one of the four characters is left out and makes it plain, any other backslash is plain.

What is escaped is read as it was (`read_escaped`), but a text may be read otherwise in front of another: a backslash at
its end has not met its character yet (`read_append`).  So a bold text that ends with a backslash takes the delimiter
after it for a character, and the span stays open (`read_bolded_backslash`).  No other way to write it would do: nothing
is read as a backslash right before the end of a span (`read_ne_bold`).
-/
namespace ChatProfiles.Markup

variable {a b t : Text} {c : Char}

theorem opensSpan_eq_true_iff : opensSpan c = true ↔ c ∈ ['_', '*', '\x60', '['] := by
  simp [opensSpan, or_assoc]

/-- A test that fails for the four characters passes none of them. -/
theorem opensSpan_eq_false {f : Char → Bool} (hf : ['_', '*', '\x60', '['].any f = false) (hc : f c = true) :
    opensSpan c = false := by
  rw [Bool.eq_false_iff]
  exact fun h => absurd hc (List.any_eq_false.1 hf c (opensSpan_eq_true_iff.1 h))

theorem plain_of_any (h : t.any opensSpan = false) : ∀ c ∈ t, opensSpan c = false := fun c hc =>
  Bool.eq_false_iff.2 (List.any_eq_false.1 h c hc)

/-! ## Guarded texts -/

/-- Each character that opens a span has a backslash directly before it. -/
def Guarded (t : Text) : Prop :=
  ∀ before c after, t = before ++ c :: after → opensSpan c = true → before.getLast? = some '\\'

theorem guarded_of_plain (h : ∀ c ∈ t, opensSpan c = false) : Guarded t := by
  rintro before c after rfl hc
  rw [h c (List.mem_append_right _ List.mem_cons_self)] at hc
  cases hc

theorem guarded_of_any (h : t.any opensSpan = false) : Guarded t := guarded_of_plain (plain_of_any h)

theorem guarded_blank : Guarded [' '] := guarded_of_any rfl

theorem getLast?_append_cons {d : Text} (h : d.getLast? = some '\\') (a : Text) (x : Char) :
    (a ++ x :: d).getLast? = some '\\' := by
  simp [List.getLast?_append, List.getLast?_cons, h]

/-- **Where a character stands** in a text with a guarded start: behind a backslash, right after the start, or later. -/
theorem Guarded.split_cases (ha : Guarded a) {x : Char} {before after : Text} (h : a ++ x :: b = before ++ c :: after)
    (hc : opensSpan c = true) :
    before.getLast? = some '\\' ∨ (before = a ∧ c = x) ∨ ∃ d, before = a ++ x :: d ∧ b = d ++ c :: after := by
  rcases List.append_eq_append_iff.1 h with ⟨d, rfl, hd⟩ | ⟨d, rfl, hd⟩
  · cases d with
    | nil =>
      obtain ⟨rfl, -⟩ := List.cons.inj hd
      exact .inr (.inl ⟨List.append_nil _, rfl⟩)
    | cons y d =>
      obtain ⟨rfl, rfl⟩ := List.cons.inj hd
      exact .inr (.inr ⟨d, rfl, rfl⟩)
  · cases d with
    | nil =>
      obtain ⟨rfl, -⟩ := List.cons.inj hd
      exact .inr (.inl ⟨(List.append_nil _).symm, rfl⟩)
    | cons y d =>
      obtain ⟨rfl, -⟩ := List.cons.inj hd
      exact .inl (ha before c d rfl hc)

theorem Guarded.append (ha : Guarded a) (hb : Guarded b) : Guarded (a ++ b) := by
  intro before c after h hc
  rcases List.append_eq_append_iff.1 h with ⟨d, rfl, hd⟩ | ⟨d, rfl, hd⟩
  · have hlast := hb d c after hd hc
    rw [List.getLast?_append, hlast]
    rfl
  · cases d with
    | nil => cases hb [] c after hd.symm hc
    | cons y d =>
      obtain ⟨rfl, -⟩ := List.cons.inj hd
      exact ha before c d rfl hc

theorem Guarded.cons (hc : opensSpan c = false) (h : Guarded t) : Guarded (c :: t) :=
  Guarded.append (a := [c]) (guarded_of_plain (by simpa using hc)) h

theorem guarded_flatMap {glue : Text} (hglue : Guarded glue) {ts : List Text} (h : ∀ t ∈ ts, Guarded t) :
    Guarded (ts.flatMap (glue ++ ·)) := by
  induction ts with
  | nil => exact guarded_of_plain (List.forall_mem_nil _)
  | cons t ts ih =>
    obtain ⟨ht, hts⟩ := List.forall_mem_cons.1 h
    exact (hglue.append ht).append (ih hts)

theorem guarded_joined {glue : Text} (hglue : Guarded glue) {ts : List Text} (h : ∀ t ∈ ts, Guarded t) :
    Guarded (Text.joined glue ts) := by
  cases ts with
  | nil => exact guarded_of_plain (List.forall_mem_nil _)
  | cons t ts =>
    obtain ⟨ht, hts⟩ := List.forall_mem_cons.1 h
    rw [Text.joined_cons]
    exact ht.append (guarded_flatMap hglue hts)

/-! ## Escaped texts -/

theorem escaped_append (a b : Text) : escaped (a ++ b) = escaped a ++ escaped b := by
  induction a with
  | nil => rfl
  | cons c a ih =>
    rw [List.cons_append, escaped, escaped, ih]
    split <;> rfl

theorem escaped_of_plain (h : ∀ c ∈ t, opensSpan c = false) : escaped t = t := by
  induction t with
  | nil => rfl
  | cons c t ih =>
    obtain ⟨hc, ht⟩ := List.forall_mem_cons.1 h
    rw [escaped, if_neg (by simp [hc]), ih ht]

theorem guarded_escaped (t : Text) : Guarded (escaped t) := by
  induction t with
  | nil => exact guarded_of_plain (List.forall_mem_nil _)
  | cons c t ih =>
    rw [escaped]
    split
    · have hpair : Guarded ['\\', c] := by
        intro before d after h hd
        match before, h with
        | [], h => cases h; cases hd
        | [_], h => cases h; rfl
        | _ :: _ :: _, h => simp at h
      exact hpair.append ih
    · next hc => exact ih.cons (by simpa using hc)

/-- Escaping changes no text's end. -/
theorem getLast?_escaped (t : Text) : (escaped t).getLast? = t.getLast? := by
  induction t with
  | nil => rfl
  | cons c t ih =>
    rw [escaped]
    split <;> simp [List.getLast?_cons, ih]

/-! ## Reading -/

/-- What a reader sees in a text with markup. -/
inductive Sign where
  | plain (c : Char)
  /-- A character that opens or closes a span. -/
  | mark (c : Char)
deriving DecidableEq

def read : Text → List Sign
  | [] => []
  | '\\' :: c :: rest => if opensSpan c then .plain c :: read rest else .plain '\\' :: read (c :: rest)
  | c :: rest => (if opensSpan c then .mark c else .plain c) :: read rest

/-- What `t` should be read as in bold: all of it plain, between two marks. -/
def bold (t : Text) : List Sign := .mark '*' :: (t.map .plain ++ [.mark '*'])

/-- `t` escaped, between two delimiters. -/
def bolded (t : Text) : Text := '*' :: (escaped t ++ ['*'])

theorem read_cons (hc : c ≠ '\\') (t : Text) :
    read (c :: t) = (if opensSpan c then .mark c else .plain c) :: read t := by
  rw [read]
  rintro d rest rfl
  exact absurd rfl hc

theorem read_backslash (h : ∀ c ∈ t.head?, opensSpan c = false) : read ('\\' :: t) = .plain '\\' :: read t := by
  cases t with
  | nil => rfl
  | cons c t => rw [read, if_neg (by simp [h c rfl])]

/-- **Texts are read one after the other** unless the first ends with a backslash and the second starts with a
character that opens a span. -/
theorem read_append (h : a.getLast? = some '\\' → ∀ c ∈ b.head?, opensSpan c = false) :
    read (a ++ b) = read a ++ read b := by
  fun_induction read a with
  | case1 => rfl
  | case2 c rest hc ih =>
    have hrest : rest.getLast? = some '\\' → ∀ c ∈ b.head?, opensSpan c = false := fun hlast =>
      h (by simp [List.getLast?_cons, hlast])
    rw [List.cons_append, List.cons_append, read, if_pos hc, ih hrest, List.cons_append]
  | case3 c rest hc ih =>
    have hrest : (c :: rest).getLast? = some '\\' → ∀ c ∈ b.head?, opensSpan c = false := fun hlast =>
      h (by rw [List.getLast?_cons, hlast]; rfl)
    rw [List.cons_append, List.cons_append, read, if_neg hc, ← List.cons_append, ih hrest, List.cons_append]
  | case4 c rest hno ih =>
    by_cases hc : c = '\\'
    · subst hc
      -- the backslash is the last of the first text, so it meets the second
      cases rest with
      | cons d rest => exact absurd rfl (hno d rest rfl)
      | nil => exact read_backslash (h rfl)
    · have hrest : rest.getLast? = some '\\' → ∀ c ∈ b.head?, opensSpan c = false := fun hlast =>
        h (by simp [List.getLast?_cons, hlast])
      rw [List.cons_append, read_cons hc, ih hrest, List.cons_append]

/-- **What is escaped is read as it was.** -/
theorem read_escaped (t : Text) : read (escaped t) = t.map .plain := by
  induction t with
  | nil => rfl
  | cons c t ih =>
    rw [escaped, List.map_cons]
    split
    · next hc => rw [read, if_pos hc, ih]
    · next hc =>
      by_cases hback : c = '\\'
      · subst hback
        -- what follows is escaped, so it does not start with a character that opens a span
        have hhead : ∀ d ∈ (escaped t).head?, opensSpan d = false := fun d hd => by
          obtain ⟨rest, hrest⟩ := List.head?_eq_some_iff.1 hd
          rw [Bool.eq_false_iff]
          exact fun hopens => nomatch guarded_escaped t [] d rest hrest hopens
        rw [read_backslash hhead, ih]
      · rw [read_cons hback, if_neg hc, ih]

/-- **No backslash is read right before a mark**: it would have made the mark a character. -/
theorem read_ne_backslash_mark (t : Text) (c : Char) (start rest : List Sign) :
    read t ≠ start ++ .plain '\\' :: .mark c :: rest := by
  fun_induction read t generalizing start with
  | case1 => simp
  | case2 d t hd ih =>
    cases start with
    | nil =>
      intro h
      cases (List.cons.inj h).1
      cases hd
    | cons s start => exact fun h => ih start (List.cons.inj h).2
  | case3 d t hd ih =>
    cases start with
    | nil =>
      intro h
      -- a character that opens no span is read as itself or as a backslash, and both are plain
      have hhead := congrArg List.head? (List.cons.inj h).2
      by_cases hback : d = '\\'
      · subst hback
        cases t with
        | nil => cases hhead
        | cons e t => rw [read] at hhead; split at hhead <;> cases hhead
      · rw [read_cons hback, if_neg hd] at hhead
        cases hhead
    | cons s start => exact fun h => ih start (List.cons.inj h).2
  | case4 d t hno ih =>
    cases start with
    | nil =>
      intro h
      obtain ⟨hhead, htail⟩ := List.cons.inj h
      split at hhead
      · cases hhead
      · cases hhead
        cases t with
        | nil => cases htail
        | cons e t => exact hno e t rfl rfl
    | cons s start => exact fun h => ih start (List.cons.inj h).2

/-- Nothing is read as a text in bold that ends with a backslash. -/
theorem read_ne_bold (t start : Text) : read t ≠ bold (start ++ ['\\']) := by
  have hbold : bold (start ++ ['\\']) = (.mark '*' :: start.map .plain) ++ .plain '\\' :: .mark '*' :: [] := by
    simp [bold]
  exact hbold ▸ read_ne_backslash_mark t '*' _ []

/-- What is read of `start` and a backslash in bold: the backslash is left out, and the delimiter after it is a
character of a span that stays open. -/
def unclosed (start : Text) : List Sign := .mark '*' :: (start ++ ['*']).map .plain

theorem read_bolded_backslash (start : Text) : read (bolded (start ++ ['\\'])) = unclosed start := by
  have hstar : opensSpan '*' = true := by decide
  have hescaped : escaped (start ++ ['\\']) ++ ['*'] = escaped start ++ ['\\', '*'] := by
    rw [escaped_append, List.append_assoc]
    rfl
  have hback : ∀ c ∈ ['\\', '*'].head?, opensSpan c = false := fun c hc => by cases hc; decide
  rw [bolded, read_cons (by decide), if_pos hstar, hescaped, read_append fun _ => hback, read_escaped, unclosed,
    List.map_append]
  rfl

theorem read_bolded (h : t.getLast? ≠ some '\\') : read (bolded t) = bold t := by
  have hstar : opensSpan '*' = true := by decide
  rw [bolded, read_cons (by decide), if_pos hstar, read_append fun hlast => absurd (getLast?_escaped t ▸ hlast) h,
    read_escaped]
  rfl

/-- **A bold text is read as such exactly if no backslash is its last character.** -/
theorem read_bolded_eq_iff (t : Text) : read (bolded t) = bold t ↔ t.getLast? ≠ some '\\' := by
  refine ⟨fun h hlast => ?_, read_bolded⟩
  obtain ⟨start, rfl⟩ := List.getLast?_eq_some_iff.1 hlast
  exact read_ne_bold _ start h

end ChatProfiles.Markup
