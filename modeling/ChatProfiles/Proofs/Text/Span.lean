import ChatProfiles.Text.Basic
import Mathlib.Data.List.TakeWhile
/-!
# Stretches

A reader of words takes the longest stretch of one kind of character off the front.  Where a text is known to be such
a stretch and something that does not go on with it, `takeWhile_append` and `dropWhile_append` say what is taken and
what is left; where it is only known to start with such characters, no fewer are taken (`length_le_takeWhile`).
-/
namespace ChatProfiles.Text

variable {p : Char → Bool} {a b t : Text}

theorem takeWhile_append (ha : ∀ c ∈ a, p c = true) (hb : ∀ c ∈ b.head?, p c = false) : (a ++ b).takeWhile p = a := by
  rw [List.takeWhile_append_of_pos ha]
  cases b with
  | nil => simp
  | cons c r => rw [List.takeWhile_cons_of_neg (by simp [hb c rfl]), List.append_nil]

theorem dropWhile_append (ha : ∀ c ∈ a, p c = true) (hb : ∀ c ∈ b.head?, p c = false) : (a ++ b).dropWhile p = b := by
  rw [List.dropWhile_append_of_pos ha]
  cases b with
  | nil => rfl
  | cons c r => rw [List.dropWhile_cons_of_neg (by simp [hb c rfl])]

theorem length_le_takeWhile (ha : ∀ c ∈ a, p c = true) : a.length ≤ ((a ++ b).takeWhile p).length := by
  rw [List.takeWhile_append_of_pos ha, List.length_append]
  omega

theorem head?_dropWhile (c : Char) (h : c ∈ (t.dropWhile p).head?) : p c = false := by
  have := List.head?_dropWhile_not p t
  rw [Option.mem_def.1 h] at this
  exact this

/-- What stands before the first separator is the longest stretch without one. -/
theorem cut_fst (sep : Char → Bool) (t : Text) : (cut sep t).1 = t.takeWhile (!sep ·) := by
  have hparts : t.takeWhile (!sep ·) ++ t.dropWhile (!sep ·) = t := List.takeWhile_append_dropWhile
  unfold cut
  split
  · next h => rw [h, List.append_nil] at hparts; exact hparts.symm
  · rfl

theorem cut_self (ha : ∀ c ∈ a, p c = false) : cut p a = (a, none) := by
  have hrest : a.dropWhile (!p ·) = [] := List.dropWhile_eq_nil_iff.2 fun c hc => by simp [ha c hc]
  simp only [cut, hrest]

/-- A text is cut at the first separator, however many follow. -/
theorem cut_append (ha : ∀ c ∈ a, p c = false) {c : Char} (hc : p c = true) : cut p (a ++ c :: b) = (a, some b) := by
  have hstretch : ∀ d ∈ a, (!p d) = true := fun d hd => by simp [ha d hd]
  have hend : ∀ d ∈ (c :: b).head?, (!p d) = false := fun d hd => by
    rw [← Option.some.inj hd, hc]
    rfl
  simp only [cut, dropWhile_append hstretch hend, takeWhile_append hstretch hend]

/-- Texts are joined by putting the glue before each but the first. -/
theorem joined_cons (glue t : Text) (ts : List Text) : joined glue (t :: ts) = t ++ ts.flatMap (glue ++ ·) := by
  induction ts generalizing t with
  | nil => simp [joined, List.intercalate]
  | cons u us ih =>
    rw [List.flatMap_cons, List.append_assoc, ← ih]
    simp [joined, List.intercalate]

end ChatProfiles.Text
